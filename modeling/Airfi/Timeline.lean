import Mathlib.Logic.Function.Basic

/-!
# Observations of a changing system

A timeline keeps every state that a system has been in, numbered by time.  An
observation is stamped with the time at which it was current; what it records
stays true while the system goes on.
-/

structure Timeline (State : Type*) where
  now : Nat
  states : Nat → State

/-- A value with the time at which it was current. -/
structure Stamped (α : Type*) where
  value : α
  time : Nat
  deriving DecidableEq

namespace Timeline

variable {State α : Type*} (timeline : Timeline State)

def present : State :=
  timeline.states timeline.now

/-- The system moves on to the next state. -/
def advance (next : State) : Timeline State :=
  { now := timeline.now + 1
    states := Function.update timeline.states (timeline.now + 1) next }

def observe (view : State → α) : Stamped α :=
  { value := view timeline.present
    time := timeline.now }

/-- The system showed this value at this time, which is not in the future. -/
def Records (view : State → α) (observation : Stamped α) : Prop :=
  observation.time ≤ timeline.now ∧
    observation.value = view (timeline.states observation.time)

/-- The system has had the property from this time on. -/
def Since (time : Nat) (property : State → Prop) : Prop :=
  ∀ moment, time ≤ moment → moment ≤ timeline.now →
    property (timeline.states moment)

@[simp] theorem advance_now (next : State) :
    (timeline.advance next).now = timeline.now + 1 := rfl

@[simp] theorem advance_present (next : State) :
    (timeline.advance next).present = next :=
  Function.update_self ..

theorem advance_past (next : State) {time : Nat}
    (past : time ≤ timeline.now) :
    (timeline.advance next).states time = timeline.states time :=
  Function.update_of_ne (Nat.ne_of_lt (Nat.lt_succ_of_le past)) ..

theorem records_observe (view : State → α) :
    timeline.Records view (timeline.observe view) :=
  ⟨Nat.le_refl _, rfl⟩

variable {timeline}

theorem Records.advance {view : State → α} {observation : Stamped α}
    (recorded : timeline.Records view observation) (next : State) :
    (timeline.advance next).Records view observation := by
  obtain ⟨past, shown⟩ := recorded
  refine ⟨Nat.le_succ_of_le past, ?_⟩
  rw [timeline.advance_past next past]
  exact shown

theorem Since.advance {time : Nat} {property : State → Prop}
    (since : timeline.Since time property) {next : State}
    (kept : property next) : (timeline.advance next).Since time property := by
  intro moment low high
  rcases Nat.lt_or_ge timeline.now moment with later | past
  · have last : moment = timeline.now + 1 := Nat.le_antisymm high later
    have current : (timeline.advance next).states (timeline.now + 1) =
        next := Function.update_self ..
    rw [last, current]
    exact kept
  · rw [timeline.advance_past next past]
    exact since moment low past

theorem Since.present {time : Nat} {property : State → Prop}
    (since : timeline.Since time property) (past : time ≤ timeline.now) :
    property timeline.present :=
  since timeline.now past (Nat.le_refl _)

/-- What is recorded no earlier has the property. -/
theorem Records.of_since {view : State → α} {observation : Stamped α}
    {time : Nat} {property : α → Prop}
    (recorded : timeline.Records view observation)
    (since : timeline.Since time fun state => property (view state))
    (recent : time ≤ observation.time) : property observation.value := by
  obtain ⟨past, shown⟩ := recorded
  rw [shown]
  exact since observation.time recent past

end Timeline
