import PayloadDepot.Proofs.Storage.Bucket.Order
import PayloadDepot.Proofs.Storage.Issued

/-!
# Discipline over runs

A run of check-ins and closings is told by its history.  The bucket of a topic
is known if an earlier check-in for the topic established it and the first
closing does not come after it, since that one clears the cache and no other
does.  Whatever the store answers, the depot remembers exactly the topics whose
bucket is known, so every check-in of a run is orderly.
-/

namespace PayloadDepot

variable {δ : Type}

namespace BucketDepot

/-- A call that was made in a world, and how it ended. -/
structure Visit (δ : Type) where
  call : CheckInCall
  start : World (δ × Transcript)
  outcome : Except Fault Reference
  finish : World (δ × Transcript)

/-- What was sent during a visit. -/
def Visit.sent (visit : Visit δ) : Transcript :=
  visit.finish.state.2.drop visit.start.state.2.length

/-- What may happen to a depot in a run. -/
inductive Happening (δ : Type) where
  | visit (visit : Visit δ)
  | close

/-- The bucket of a topic was established by an earlier visit for the topic, and the cache was not
cleared since: a closing after the visit was not the first one. -/
def Known (settings : StoreSettings) (history : List (Happening δ)) (topic : String) : Prop :=
  ∃ earlier visit later, history = earlier ++ .visit visit :: later ∧ visit.call.topic = topic ∧
    (∃ check ∈ visit.sent, check.Establishes (settings.bucket topic)) ∧
      (.close ∈ later → .close ∈ earlier)

/-- What a check-in does for a topic whose bucket may be known already. -/
structure Disciplined (settings : StoreSettings) (topic : String) (known : Prop)
    (outcome : Except Fault Reference) (sent : Transcript) (unread : Prop) : Prop where
  /-- What is sent is in order. -/
  orderly : Orderly settings topic known sent
  /-- If the bucket cannot be established, no reference is given, nothing is sent for the payload,
  and no stream is read. -/
  gives_up : ¬ known → (∀ check ∈ sent, ¬ check.Establishes (settings.bucket topic)) →
    (∃ fault, outcome = .error fault) ∧
      (∀ exchange ∈ sent, exchange.request.asksForBucket = true) ∧ unread

section History

variable {α : Type}

/-- Something that happened up to now happened last or before. -/
theorem last_or_before {history earlier later : List α} {last item : α}
    (split : history ++ [last] = earlier ++ item :: later) :
    (later = [] ∧ earlier = history ∧ item = last) ∨
      ∃ less, later = less ++ [last] ∧ history = earlier ++ item :: less := by
  rcases List.eq_nil_or_concat later with rfl | ⟨less, final, rfl⟩
  · obtain ⟨rfl, same⟩ := List.append_inj' split rfl
    exact .inl ⟨rfl, rfl, (List.singleton_inj.mp same).symm⟩
  · rw [List.concat_eq_append, ← List.cons_append, ← List.append_assoc] at split
    obtain ⟨rfl, same⟩ := List.append_inj' split rfl
    obtain rfl := List.singleton_inj.mp same
    exact .inr ⟨less, List.concat_eq_append, rfl⟩

variable {settings : StoreSettings} {history : List (Happening δ)} {topic : String}

theorem not_known_nil : ¬ Known settings ([] : List (Happening δ)) topic := by
  rintro ⟨earlier, visit, later, split, -⟩
  simp at split

/-- A visit makes the bucket of its topic known if it establishes it. -/
theorem known_append_visit {visit : Visit δ} :
    Known settings (history ++ [.visit visit]) topic ↔ Known settings history topic ∨
      topic = visit.call.topic ∧
        ∃ check ∈ visit.sent, check.Establishes (settings.bucket visit.call.topic) := by
  constructor
  · rintro ⟨earlier, other, later, split, rfl, established, cleared⟩
    rcases last_or_before split with ⟨rfl, rfl, same⟩ | ⟨less, rfl, rfl⟩
    · obtain rfl := Happening.visit.inj same
      exact .inr ⟨rfl, established⟩
    · exact .inl ⟨earlier, other, less, rfl, rfl, established,
        fun closed => cleared (List.mem_append_left _ closed)⟩
  · rintro (⟨earlier, other, later, rfl, same, established, cleared⟩ | ⟨rfl, established⟩)
    · refine ⟨earlier, other, later ++ [.visit visit], by simp, same, established, ?_⟩
      intro closed
      exact cleared (by simpa using closed)
    · exact ⟨history, visit, [], rfl, rfl, established, nofun⟩

/-- The first closing makes all buckets unknown, and later ones change nothing. -/
theorem known_append_close :
    Known settings (history ++ [.close]) topic ↔
      .close ∈ history ∧ Known settings history topic := by
  constructor
  · rintro ⟨earlier, visit, later, split, same, established, cleared⟩
    rcases last_or_before split with ⟨-, -, closing⟩ | ⟨less, rfl, rfl⟩
    · cases closing
    · have closed : .close ∈ earlier := cleared (by simp)
      exact ⟨List.mem_append_left _ closed,
        earlier, visit, less, rfl, same, established, fun _ => closed⟩
  · rintro ⟨closed, earlier, visit, later, rfl, same, established, cleared⟩
    refine ⟨earlier, visit, later ++ [.close], by simp, same, established, fun _ => ?_⟩
    rcases List.mem_append.mp closed with before | behind
    · exact before
    · exact cleared (by simpa using behind)

end History

section Visits

variable {send : StoreChannel δ} {place : Cell δ BucketDepot} {settings : StoreSettings}
  {closed : Bool} {known : String → Prop} {world : World (δ × Transcript)}

/-- Whatever follows once there is a bucket, a check-in is orderly, and the bucket of its topic is
remembered exactly if it was established. -/
theorem sends_visit (confined : ∀ request, (send request).Leaves World.supplies)
    (spares : send.Spares place) (lawful : place.Lawful)
    (remembers : (place.read world.state.1).Remembers settings closed known) (topic : String)
    {next : String → Action (δ × Transcript) Reference}
    (leaves : ∀ bucket, (next bucket).Leaves place.beside.held)
    (deposits : ∀ bucket world, (next bucket).Sends world fun outcome sent _ =>
      ∃ partSize length, Deposited bucket partSize length outcome sent) :
    Action.Sends (bucket send.noting place.beside topic >>= next) world fun outcome sent after =>
      (place.read after.state.1).Remembers settings closed (fun other => known other ∨
        other = topic ∧ ∃ check ∈ sent, check.Establishes (settings.bucket topic)) ∧
      Disciplined settings topic (known topic) outcome sent (after.readers = world.readers) := by
  refine .bind (sends_bucket_of_remembers confined spares lawful remembers topic) ?_ ?_
  · rintro fault checks after ⟨obtained, readers, remembersToo⟩
    refine ⟨remembersToo.congr fun other => obtained.known_iff, ?_,
      fun _ _ => ⟨⟨fault, rfl⟩, obtained.asksForBucket, readers⟩⟩
    rw [← List.append_nil checks]
    exact obtained.orderly nofun fun _ _ => rfl
  · rintro name checks after ⟨obtained, readers, remembersToo⟩
    refine ((deposits name after).leaving (leaves name)).mono ?_
    rintro outcome uploads last ⟨left, partSize, length, key, verdict, transferred, -⟩
    have kept : place.read last.state.1 = place.read after.state.1 := congrArg Prod.fst left
    obtain rfl := obtained.bucket_eq
    have own := transferred.own
    rw [kept, establishes_append_iff fun exchange mem => (own exchange mem).2]
    refine ⟨remembersToo.congr fun other => obtained.known_iff, obtained.orderly own nofun,
      fun unknown missing => ?_⟩
    obtain ⟨check, mem, established⟩ := (obtained.ok_iff.mp ⟨_, rfl⟩).resolve_left unknown
    exact absurd established (missing check (List.mem_append_left _ mem))

theorem sends_checkIn (confined : ∀ request, (send request).Leaves World.supplies)
    (spares : send.Spares place) (lawful : place.Lawful)
    (remembers : (place.read world.state.1).Remembers settings closed known) (call : CheckInCall) :
    (call.on (depot send.noting place.beside)).Sends world fun outcome sent after =>
      (place.read after.state.1).Remembers settings closed (fun other => known other ∨
        other = call.topic ∧ ∃ check ∈ sent, check.Establishes (settings.bucket call.topic)) ∧
      Disciplined settings call.topic (known call.topic) outcome sent
        (after.readers = world.readers) := by
  have leaves := leaves_held (StoreChannel.leaves_noting confined) spares.noting
  cases call with
  | whole topic payload =>
      refine sends_visit confined spares lawful remembers topic
        (leaves_deposit place.beside.steady_held leaves topic payload) fun bucket world => ?_
      exact (sends_deposit topic bucket payload).mono fun _ _ _ deposited => ⟨_, _, deposited⟩
  | stream topic source length =>
      refine sends_visit confined spares lawful remembers topic
        (leaves_depositStream place.beside.steady_held leaves topic source length)
        fun bucket world => ?_
      exact (sends_depositStream topic bucket source length).mono
        fun _ _ _ deposited => ⟨_, _, deposited⟩

end Visits

section Runs

variable {send : StoreChannel δ} {place : Cell δ BucketDepot} {settings : StoreSettings}
  {start world : World (δ × Transcript)} {history : List (Happening δ)}

/-- The visit that a call makes in a world. -/
def Visit.of (send : StoreChannel δ) (place : Cell δ BucketDepot) (call : CheckInCall)
    (world : World (δ × Transcript)) : Visit δ :=
  let ran := Action.on (call.on (depot send.noting place.beside)) world
  ⟨call, world, ran.1, ran.2⟩

/-- Calls of a depot one after the other, with anything else between them that leaves the depot
alone. -/
inductive Run (send : StoreChannel δ) (place : Cell δ BucketDepot)
    (start : World (δ × Transcript)) : List (Happening δ) → World (δ × Transcript) → Prop
  | start : Run send place start [] start
  | visit {history : List (Happening δ)} {world : World (δ × Transcript)}
      (run : Run send place start history world) (call : CheckInCall) :
      Run send place start (history ++ [.visit (.of send place call world)])
        (Visit.of send place call world).finish
  | close {history : List (Happening δ)} {world : World (δ × Transcript)}
      (run : Run send place start history world) :
      Run send place start (history ++ [.close])
        (Effect.on (depot send.noting place.beside).close world).2
  | elsewhere {history : List (Happening δ)} {world after : World (δ × Transcript)}
      (run : Run send place start history world)
      (same : place.read after.state.1 = place.read world.state.1) :
      Run send place start history after

theorem Remembers.closing {depot : BucketDepot} {closed : Bool} {known : String → Prop}
    (remembers : depot.Remembers settings closed known) :
    depot.closing.Remembers settings true fun topic => closed = true ∧ known topic := by
  have same := remembers.closed
  rw [BucketDepot.closing]
  split
  · next shut =>
    rw [shut] at same
    subst same
    simpa using remembers
  · next opened =>
    rw [Bool.not_eq_true] at opened
    rw [opened] at same
    subst same
    exact {
      configured := remembers.configured
      closed := rfl
      separate := .clear _
      cached := by simp }

/-- What is told of the sending of a call is told of the visit. -/
theorem Visit.told_of_sends {call : CheckInCall}
    {told : Except Fault Reference → Transcript → World (δ × Transcript) → Prop}
    (sends : (call.on (depot send.noting place.beside)).Sends world told) :
    told (Visit.of send place call world).outcome (Visit.of send place call world).sent
      (Visit.of send place call world).finish := by
  obtain ⟨sent, noted, holds⟩ := sends
  have same : (Visit.of send place call world).sent = sent := by
    change List.drop _ _ = sent
    rw [Visit.of, noted, List.drop_left]
  rw [same]
  exact holds

section Depots

variable (confined : ∀ request, (send request).Leaves World.supplies)
  (spares : send.Spares place) (lawful : place.Lawful)
  (new : place.read start.state.1 = { settings := settings })

include confined spares lawful new

/-- After a run a depot remembers the topics whose bucket is known. -/
theorem Run.remembers (run : Run send place start history world) :
    ∃ closed, (closed = true ↔ .close ∈ history) ∧
      (place.read world.state.1).Remembers settings closed (Known settings history) := by
  induction run with
  | start =>
      refine ⟨false, by simp, ?_⟩
      rw [new]
      exact (remembers_initial settings).congr fun topic => iff_false_intro not_known_nil
  | visit run call inductionHypothesis =>
      obtain ⟨closed, closes, remembers⟩ := inductionHypothesis
      have visited := Visit.told_of_sends (sends_checkIn confined spares lawful remembers call)
      exact ⟨closed, by simpa using closes, visited.1.congr fun topic => known_append_visit⟩
  | @close history world run inductionHypothesis =>
      obtain ⟨closed, closes, remembers⟩ := inductionHypothesis
      have shut : place.read
          (Effect.on (depot send.noting place.beside).close world).2.state.1 =
            (place.read world.state.1).closing :=
        congrArg Prod.fst (held_close (Cell.lawful_beside lawful) world)
      refine ⟨true, by simp, ?_⟩
      rw [shut]
      refine remembers.closing.congr fun topic => ?_
      rw [known_append_close, closes]
  | elsewhere run same inductionHypothesis =>
      rw [same]
      exact inductionHypothesis

/-- Whatever the store answers, every check-in of a run of a new depot is disciplined: the bucket of
its topic is known to it exactly if it was established since the cache was last cleared. -/
theorem Run.disciplined (run : Run send place start history world)
    {earlier later : List (Happening δ)} {visit : Visit δ}
    (among : history = earlier ++ .visit visit :: later) :
    Disciplined settings visit.call.topic (Known settings earlier visit.call.topic) visit.outcome
      visit.sent (visit.finish.readers = visit.start.readers) := by
  induction run generalizing earlier later with
  | start => simp at among
  | visit run call inductionHypothesis =>
      rcases last_or_before among with ⟨-, rfl, same⟩ | ⟨less, -, before⟩
      · obtain rfl := Happening.visit.inj same
        obtain ⟨closed, -, remembers⟩ := run.remembers confined spares lawful new
        exact (Visit.told_of_sends (sends_checkIn confined spares lawful remembers call)).2
      · exact inductionHypothesis before
  | close run inductionHypothesis =>
      rcases last_or_before among with ⟨-, -, closing⟩ | ⟨less, -, before⟩
      · cases closing
      · exact inductionHypothesis before
  | elsewhere run same inductionHypothesis => exact inductionHypothesis among

end Depots

/-- A depot whose store is empty creates a bucket for a payload, and after it was closed it looks
for the bucket again before it uploads a stream. -/
theorem Run.disciplined_afterClose :
    let send : StoreChannel (ObjectStore × BucketDepot) := .toStore .left
    let first := Visit.of send .right (.whole "orders" "four".toUTF8) besideStream.unnoted
    let shut := (Effect.on (depot send.noting (Cell.beside .right)).close first.finish).2
    let second := Visit.of send .right (.stream "orders" ⟨0⟩ 7) shut
    let settings := besideStream.state.2.settings
    Disciplined settings "orders" (Known settings [.visit first, .close] "orders") second.outcome
        second.sent (second.finish.readers = second.start.readers) ∧
      first.sent.map (·.request.asksForBucket) = [true, true, false] ∧
        second.sent.map (·.request.asksForBucket) = [true, false, false, false, false, false] := by
  intro send first shut second settings
  let before : List (Happening (ObjectStore × BucketDepot)) := [.visit first, .close]
  have run : Run send .right besideStream.unnoted (before ++ [.visit second]) second.finish :=
    ((Run.start.visit _).close).visit _
  have disciplined : Disciplined settings "orders" (Known settings before "orders") second.outcome
      second.sent (second.finish.readers = second.start.readers) :=
    Run.disciplined (ObjectStore.reliable_toStore Cell.lawful_left).confined
      (ObjectStore.spares_toStore Cell.apart_left_right) Cell.lawful_right rfl run
      (rfl : before ++ [.visit second] = before ++ .visit second :: [])
  exact ⟨disciplined, by decide +kernel, by decide +kernel⟩

end Runs

end BucketDepot

end PayloadDepot
