import PayloadDepot.Proofs.Storage.Bucket.Channel
import PayloadDepot.Proofs.Storage.Ledger

/-!
# What is sent to an object store

A channel can note every request with its answer in a list that stands beside
the state.  The store behind the channel does not see the list, and nothing but
the channel writes to it, so it tells all that was sent, in order.  What an
action sends is stated together with how the action ends and the world that it
leaves; such statements are put together along the steps of the action.
-/

namespace PayloadDepot

variable {δ σ ρ α β : Type}

/-- A request over a channel and what came back. -/
structure StoreExchange where
  request : StoreRequest
  answer : Except StoreFault StoreAnswer

/-- Exchanges over a channel in the order of their requests. -/
abbrev Transcript := List StoreExchange

/-- A world without what stands beside its state. -/
def World.inside (world : World (δ × Transcript)) : World δ :=
  world.withState world.state.1

@[simp]
theorem World.inside_state (world : World (δ × Transcript)) :
    world.inside.state = world.state.1 := rfl

/-- A world beside whose state nothing is noted yet. -/
def World.unnoted (world : World δ) : World (δ × Transcript) :=
  world.withState (world.state, [])

@[simp]
theorem World.unnoted_state (world : World δ) : world.unnoted.state = (world.state, []) := rfl

namespace StoreChannel

variable {send : StoreChannel δ}

/-- The channel that notes every request with its answer. -/
def noting (send : StoreChannel δ) : StoreChannel (δ × Transcript) := fun request => do
  let answer ← (send request).beside
  modify fun world => world.withState (world.state.1, world.state.2 ++ [⟨request, answer⟩])
  return answer

/-- A request is answered as the channel inside answers it, and is noted once. -/
theorem of_noting {request : StoreRequest} {answer : Except StoreFault StoreAnswer}
    {world after : World (δ × Transcript)}
    (served : Effect.on (send.noting request) world = (answer, after)) :
    Effect.on (send request) world.inside = (answer, after.inside) ∧
      after.state.2 = world.state.2 ++ [⟨request, answer⟩] := by
  cases served
  exact ⟨rfl, rfl⟩

theorem leaves_noting {observe : World δ → ρ} (leaves : ∀ request, (send request).Leaves observe)
    (request : StoreRequest) :
    (send.noting request).Leaves fun world => observe world.inside :=
  fun world => leaves request world.inside

theorem Spares.noting {place : Cell δ σ} (spares : send.Spares place) :
    send.noting.Spares place.beside :=
  leaves_noting spares

end StoreChannel

/-- What is told of a store whose state has something else beside it. -/
def StoreAccount.beside (account : StoreAccount δ) : StoreAccount (δ × Transcript) where
  object state := account.object state.1
  upload state := account.upload state.1

/-- A store can be relied on also if what is sent to it is noted. -/
theorem StoreChannel.Reliable.noting {send : StoreChannel δ} {account : StoreAccount δ}
    (reliable : send.Reliable account) : send.noting.Reliable account.beside where
  confined := leaves_noting reliable.confined
  object_put put := reliable.object_put (of_noting put).1
  object_got {bucket key body world} held := by
    have heldInside : account.object world.inside.state bucket key = some body := held
    exact reliable.object_got heldInside
  upload_created created := reliable.upload_created (of_noting created).1
  part_uploaded {bucket key id _ _ parts world _ _} opened uploaded := by
    have openedInside : account.upload world.inside.state id = some ⟨bucket, key, parts⟩ := opened
    exact reliable.part_uploaded openedInside (of_noting uploaded).1
  part_numbered uploaded := reliable.part_numbered (of_noting uploaded).1
  upload_completed {bucket key id parts _ _ world _ _} opened assembled completed := by
    have openedInside : account.upload world.inside.state id = some ⟨bucket, key, parts⟩ := opened
    exact reliable.upload_completed openedInside assembled (of_noting completed).1

theorem Cell.lawful_beside {place : Cell δ σ} (lawful : place.Lawful) :
    (place.beside : Cell (δ × Transcript) σ).Lawful :=
  fun content state => lawful content state.1

/-- From a world on, an action sends something of which something is told, together with how the
action ends and the world that it leaves. -/
def Action.Sends (action : Action (δ × Transcript) α) (world : World (δ × Transcript))
    (told : Except Fault α → Transcript → World (δ × Transcript) → Prop) : Prop :=
  ∃ sent, (Action.on action world).2.state.2 = world.state.2 ++ sent ∧
    told (Action.on action world).1 sent (Action.on action world).2

namespace Action.Sends

variable {action : Action (δ × Transcript) α} {next : α → Action (δ × Transcript) β}
  {world : World (δ × Transcript)}
  {first other : Except Fault α → Transcript → World (δ × Transcript) → Prop}
  {told : Except Fault β → Transcript → World (δ × Transcript) → Prop}

theorem pure {value : β} (holds : told (.ok value) [] world) :
    Sends (Pure.pure value) world told :=
  ⟨[], by simp, holds⟩

theorem fail {fault : Fault} (holds : told (.error fault) [] world) :
    Sends (Action.fail fault) world told :=
  ⟨[], by simp, holds⟩

theorem mono (sends : Sends action world first)
    (weaker : ∀ outcome sent after, first outcome sent after → other outcome sent after) :
    Sends action world other := by
  obtain ⟨sent, noted, holds⟩ := sends
  exact ⟨sent, noted, weaker _ _ _ holds⟩

/-- An action sends one thing, so all that is told of it is told of the same. -/
theorem and (sends : Sends action world first) (too : Sends action world other) :
    Sends action world fun outcome sent after =>
      first outcome sent after ∧ other outcome sent after := by
  obtain ⟨sent, noted, holds⟩ := sends
  obtain ⟨same, notedToo, holdsToo⟩ := too
  obtain rfl : sent = same := List.append_cancel_left (noted.symm.trans notedToo)
  exact ⟨sent, noted, holds, holdsToo⟩

/-- From a world on where nothing is noted, all that is noted in the end was sent. -/
theorem of_unnoted {world : World δ} (sends : Sends action world.unnoted first) :
    first (Action.on action world.unnoted).1 (Action.on action world.unnoted).2.state.2
      (Action.on action world.unnoted).2 := by
  obtain ⟨sent, noted, holds⟩ := sends
  rw [World.unnoted_state, List.nil_append] at noted
  rw [noted]
  exact holds

/-- What an action leaves alone is told of the world that it leaves. -/
theorem leaving {observe : World (δ × Transcript) → ρ} (leaves : action.Leaves observe)
    (sends : Sends action world first) :
    Sends action world fun outcome sent after =>
      observe after = observe world ∧ first outcome sent after := by
  obtain ⟨sent, noted, holds⟩ := sends
  exact ⟨sent, noted, leaves world, holds⟩

/-- What is told of a run is told of the very outcome and world in which the action ends. -/
theorem running (sends : Sends action world first) :
    Sends action world fun outcome sent after =>
      Action.on action world = (outcome, after) ∧ first outcome sent after := by
  obtain ⟨sent, noted, holds⟩ := sends
  exact ⟨sent, noted, rfl, holds⟩

/-- An action that runs like another one from a world on where as much was noted sends the same. -/
theorem of_on_eq {same : Action (δ × Transcript) α} {start : World (δ × Transcript)}
    (runs : Action.on action world = Action.on same start) (noted : start.state.2 = world.state.2)
    (sends : Sends same start first) : Sends action world first := by
  rw [Sends, runs, ← noted]
  exact sends

/-- What follows an action is sent behind what the action sends, unless that fails. -/
theorem bind (sends : Sends action world first)
    (failed : ∀ fault sent after, first (.error fault) sent after → told (.error fault) sent after)
    (went : ∀ value sent after, first (.ok value) sent after →
      Sends (next value) after fun outcome more last => told outcome (sent ++ more) last) :
    Sends (action >>= next) world told := by
  obtain ⟨sent, noted, holds⟩ := sends
  rcases ran : Action.on action world with ⟨fault | value, after⟩ <;> rw [ran] at noted holds
  · refine ⟨sent, ?_, ?_⟩ <;> rw [Action.on_bind_of_error ran]
    · exact noted
    · exact failed _ _ _ holds
  · obtain ⟨more, notedMore, holdsMore⟩ := went _ _ _ holds
    refine ⟨sent ++ more, ?_, ?_⟩ <;> rw [Action.on_bind_of_ok ran]
    · rw [notedMore, noted, List.append_assoc]
    · exact holdsMore

/-- However an action ends, what follows its attempt is sent behind what the action sends. -/
theorem attempt_bind {next : Except Fault α → Action (δ × Transcript) β}
    (sends : Sends action world first)
    (went : ∀ outcome sent after, first outcome sent after →
      Sends (next outcome) after fun last more final => told last (sent ++ more) final) :
    Sends (Action.lift (Action.attempt action) >>= next) world told := by
  obtain ⟨sent, noted, holds⟩ := sends
  obtain ⟨more, notedMore, holdsMore⟩ := went _ _ _ holds
  refine ⟨sent ++ more, ?_, holdsMore⟩
  rw [Action.on_lift_bind, Effect.on_attempt, notedMore, noted, List.append_assoc]

section Steps

variable {γ : Type} {effect : Effect (δ × Transcript) γ}

/-- An effect that notes nothing adds nothing to what follows it. -/
theorem silent_bind {next : γ → Action (δ × Transcript) β}
    (silent : (Effect.on effect world).2.state.2 = world.state.2)
    (sends : Sends (next (Effect.on effect world).1) (Effect.on effect world).2 told) :
    Sends (Action.lift effect >>= next) world told := by
  obtain ⟨sent, noted, holds⟩ := sends
  refine ⟨sent, ?_, holds⟩
  rw [Action.on_lift_bind, noted, silent]

theorem silent {told : Except Fault γ → Transcript → World (δ × Transcript) → Prop}
    (silent : (Effect.on effect world).2.state.2 = world.state.2)
    (holds : told (.ok (Effect.on effect world).1) [] (Effect.on effect world).2) :
    Sends (Action.lift effect) world told :=
  ⟨[], by rw [Action.on_lift, silent, List.append_nil], holds⟩

/-- Effects that follow each other in one step send what they send in two. -/
theorem lift_bind {later : Type} {next : γ → Effect (δ × Transcript) later}
    {told : Except Fault later → Transcript → World (δ × Transcript) → Prop}
    (sends : Sends (Action.lift effect >>= fun value => Action.lift (next value)) world told) :
    Sends (Action.lift (effect >>= next)) world told :=
  .of_on_eq rfl rfl sends

/-- A request stands in front of all that is sent once it is answered. -/
theorem request_bind {send : StoreChannel δ} {request : StoreRequest}
    {next : Except StoreFault StoreAnswer → Action (δ × Transcript) β}
    (went : ∀ answer after, Effect.on (send.noting request) world = (answer, after) →
      Sends (next answer) after fun outcome more last =>
        told outcome (⟨request, answer⟩ :: more) last) :
    Sends (Action.lift (send.noting request) >>= next) world told := by
  rcases served : Effect.on (send.noting request) world with ⟨answer, after⟩
  obtain ⟨more, noted, holds⟩ := went answer after served
  refine ⟨⟨request, answer⟩ :: more, ?_, ?_⟩ <;> rw [Action.on_lift_bind, served]
  · rw [noted, (StoreChannel.of_noting served).2, List.append_assoc, List.singleton_append]
  · exact holds

end Steps

end Action.Sends

end PayloadDepot
