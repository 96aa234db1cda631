import PayloadDepot.Table

/-!
# Keys of tables

Binding a key that is bound already leaves the keys of a table as they are, and
a new key goes behind all others.  So no key stands twice in a table that was
built by bindings, and every binding of a new key makes it longer by one.
-/

namespace PayloadDepot

namespace Table

variable {κ α : Type} [DecidableEq κ]

theorem map_fst_bindIn (key : κ) (value : α) (entries : List (κ × α)) :
    (bindIn key value entries).map Prod.fst =
      if key ∈ entries.map Prod.fst then entries.map Prod.fst
      else entries.map Prod.fst ++ [key] := by
  induction entries with
  | nil => simp [bindIn]
  | cons entry later inductionHypothesis =>
      obtain ⟨other, present⟩ := entry
      by_cases same : key = other
      · simp [bindIn, same]
      · by_cases bound : key ∈ later.map Prod.fst
        · simp only [bindIn, same, ↓reduceIte, List.map_cons, inductionHypothesis, bound,
            List.mem_cons, or_true]
        · simp only [bindIn, same, ↓reduceIte, List.map_cons, inductionHypothesis, bound,
            List.mem_cons, or_self, List.cons_append]

theorem isSome_lookupIn_iff (key : κ) (entries : List (κ × α)) :
    (lookupIn key entries).isSome ↔ key ∈ entries.map Prod.fst := by
  induction entries with
  | nil => simp [lookupIn]
  | cons entry later inductionHypothesis =>
      obtain ⟨other, present⟩ := entry
      by_cases same : key = other
      · simp [lookupIn, same]
      · simpa [lookupIn, same] using inductionHypothesis

section Insert

variable (table : Table κ α) (key : κ) (value : α)

theorem keys_insert :
    (table.insert key value).keys =
      if key ∈ table.keys then table.keys else table.keys ++ [key] :=
  map_fst_bindIn key value table.entries

theorem isSome_get?_iff_mem_keys : (table.get? key).isSome ↔ key ∈ table.keys :=
  isSome_lookupIn_iff key table.entries

theorem nodup_keys_insert (nodup : table.keys.Nodup) : (table.insert key value).keys.Nodup := by
  rw [keys_insert]
  split
  · exact nodup
  · next unbound =>
    rw [List.nodup_append]
    refine ⟨nodup, by simp, ?_⟩
    rintro other bound last lies rfl
    rw [List.mem_singleton] at lies
    exact unbound (lies ▸ bound)

theorem length_entries_insert_of_none (missing : table.get? key = none) :
    (table.insert key value).entries.length = table.entries.length + 1 := by
  have unbound : key ∉ table.keys := by
    rw [← isSome_get?_iff_mem_keys, missing]
    exact Bool.false_ne_true
  have keys := congrArg List.length (table.keys_insert key value)
  rw [if_neg unbound] at keys
  simpa [Table.keys] using keys

end Insert

end Table

end PayloadDepot
