import PayloadDepot.Proofs.Storage.Bucket.Tidy

/-!
# Topics that share a bucket

Names that are used as they are differ if the topics do, and names that were
folded differ if the hashes do.  But a folded name is itself one that is used as
it is.  So two topics share a bucket exactly if one of them, behind what all
names begin with, is called like the bucket of the other one.
-/

namespace PayloadDepot

namespace BucketName

theorem suffix_eq_of_hashed_eq {raw other : String} (same : hashed raw = hashed other) :
    suffix raw = suffix other := by
  obtain ⟨base, ending⟩ := exists_hashed raw
  obtain ⟨otherBase, otherEnding⟩ := exists_hashed other
  rw [same, otherEnding] at ending
  exact (List.append_inj' ending (by simp)).2.symm

/-- Whoever is called like a bucket gets that bucket. -/
theorem ofTopic_eq_of_append_eq {lead topic other : String}
    (called : lead ++ topic = ofTopic lead other) : ofTopic lead topic = ofTopic lead other := by
  have plain : IsPlain (lead ++ topic) := by
    rw [called]
    exact isPlain_ofTopic lead other
  rw [ofTopic_of_isPlain plain, called]

/-- Two topics whose hashes differ share a bucket exactly if one of them is called like the bucket
of the other one. -/
theorem ofTopic_eq_iff (lead : String) {topic other : String}
    (apart : suffix (lead ++ topic) ≠ suffix (lead ++ other)) :
    ofTopic lead topic = ofTopic lead other ↔
      lead ++ topic = ofTopic lead other ∨ lead ++ other = ofTopic lead topic := by
  constructor
  · intro shared
    by_cases plain : IsPlain (lead ++ topic)
    · left
      rw [← shared, ofTopic_of_isPlain plain]
    · by_cases plainOther : IsPlain (lead ++ other)
      · right
        rw [shared, ofTopic_of_isPlain plainOther]
      · rw [ofTopic_of_not_isPlain plain, ofTopic_of_not_isPlain plainOther] at shared
        exact absurd (suffix_eq_of_hashed_eq shared) apart
  · rintro (called | called)
    · exact ofTopic_eq_of_append_eq called
    · exact (ofTopic_eq_of_append_eq called).symm

/-- A topic with an underscore shares its bucket with one that is called like it. -/
theorem ofTopic_eq_iff_of_underscore :
    suffix ("cc-" ++ "A_B") ≠ suffix ("cc-" ++ "a-b-dc6def4b") ∧
      ofTopic "cc-" "A_B" = ofTopic "cc-" "a-b-dc6def4b" := by
  have apart : suffix ("cc-" ++ "A_B") ≠ suffix ("cc-" ++ "a-b-dc6def4b") := by decide +kernel
  exact ⟨apart, (ofTopic_eq_iff "cc-" apart).mpr (.inr (by decide +kernel))⟩

/-- Different topics with different hashes share a bucket, also with nothing in front of them. -/
theorem bucket_shared_of_capital :
    "Orders" ≠ "orders-9c0a6a17" ∧ suffix ("" ++ "Orders") ≠ suffix ("" ++ "orders-9c0a6a17") ∧
      ofTopic "" "Orders" = ofTopic "" "orders-9c0a6a17" :=
  ⟨by decide, by decide +kernel, by decide +kernel⟩

end BucketName

end PayloadDepot
