/-!
# Labelled runs

A system takes one step after the other, and each step has a label that tells what
happened in it.  The steps are any relation here; which states a run comes through
is not kept, only where it begins, what happened and where it ends.
-/

namespace PayloadDepot

variable {σ ε : Type}

/-- Steps one after the other, with what happened in them. -/
inductive LabelledRun (Step : σ → ε → σ → Prop) (start : σ) : List ε → σ → Prop
  | nil : LabelledRun Step start [] start
  | snoc {events : List ε} {event : ε} {middle later : σ}
      (run : LabelledRun Step start events middle) (step : Step middle event later) :
      LabelledRun Step start (events ++ [event]) later

namespace LabelledRun

variable {Step : σ → ε → σ → Prop} {start middle later : σ}

theorem single {event : ε} (step : Step start event later) :
    LabelledRun Step start [event] later :=
  .snoc .nil step

theorem append {first second : List ε} (run : LabelledRun Step start first middle)
    (rerun : LabelledRun Step middle second later) :
    LabelledRun Step start (first ++ second) later := by
  induction rerun with
  | nil => simpa using run
  | snoc _ step inductionHypothesis =>
      rw [← List.append_assoc]
      exact .snoc inductionHypothesis step

/-- What holds at the start and survives every step holds at the end. -/
theorem keeps {Invariant : σ → Prop} {events : List ε} (run : LabelledRun Step start events later)
    (holds : Invariant start)
    (survives : ∀ {event before after}, Step before event after → Invariant before →
      Invariant after) : Invariant later := by
  induction run with
  | nil => exact holds
  | snoc _ step inductionHypothesis => exact survives step inductionHypothesis

end LabelledRun

end PayloadDepot
