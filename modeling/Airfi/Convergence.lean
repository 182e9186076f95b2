import Mathlib.Data.List.Induction

/-!
# Convergence of repeated operations

Operations that commute and that a repetition does not change fold a state to
a result which depends only on which of them occur.  Both laws are asked for
on the states of an invariant and for allowed operations only.
-/

/-- Allowed operations keep the invariant, commute and absorb repetitions. -/
structure Convergent {State Op : Type*} (invariant : State → Prop)
    (allowed : Op → Prop) (apply : State → Op → State) : Prop where
  closed : ∀ {state op}, invariant state → allowed op →
    invariant (apply state op)
  commutes : ∀ {state first second}, invariant state → allowed first →
    allowed second →
    apply (apply state first) second = apply (apply state second) first
  repeats : ∀ {state op}, invariant state → allowed op →
    apply (apply state op) op = apply state op

namespace Convergent

variable {State Op : Type*} {invariant : State → Prop}
  {allowed : Op → Prop} {apply : State → Op → State}
  (laws : Convergent invariant allowed apply)

include laws

/-- An operation may be performed first instead of last. -/
theorem apply_foldl {ops : List Op} {state : State} {op : Op}
    (held : invariant state) (all : ∀ other ∈ ops, allowed other)
    (isAllowed : allowed op) :
    apply (ops.foldl apply state) op =
      ops.foldl apply (apply state op) := by
  induction ops generalizing state with
  | nil => rfl
  | cons first rest ih =>
      have firstAllowed := all first List.mem_cons_self
      rw [List.foldl_cons, List.foldl_cons,
        laws.commutes held isAllowed firstAllowed]
      exact ih (laws.closed held firstAllowed)
        (fun other member => all other (List.mem_cons_of_mem _ member))

/-- An operation that has occurred changes nothing any more. -/
theorem absorbed {ops : List Op} {state : State} {op : Op}
    (held : invariant state) (all : ∀ other ∈ ops, allowed other)
    (member : op ∈ ops) :
    apply (ops.foldl apply state) op = ops.foldl apply state := by
  induction ops generalizing state with
  | nil => cases member
  | cons first rest ih =>
      have firstAllowed := all first List.mem_cons_self
      have restAllowed : ∀ other ∈ rest, allowed other :=
        fun other later => all other (List.mem_cons_of_mem _ later)
      rw [List.foldl_cons]
      rcases List.mem_cons.mp member with here | later
      · rw [here, laws.apply_foldl (laws.closed held firstAllowed)
          restAllowed firstAllowed, laws.repeats held firstAllowed]
      · exact ih (laws.closed held firstAllowed) restAllowed later

theorem foldl_absorbed {ops more : List Op} {state : State}
    (held : invariant state) (all : ∀ op ∈ ops, allowed op)
    (subset : ∀ op ∈ more, op ∈ ops) :
    more.foldl apply (ops.foldl apply state) = ops.foldl apply state := by
  induction more with
  | nil => rfl
  | cons op rest ih =>
      rw [List.foldl_cons,
        laws.absorbed held all (subset op List.mem_cons_self)]
      exact ih (fun other member =>
        subset other (List.mem_cons_of_mem _ member))

theorem foldl_foldl_comm {first second : List Op} {state : State}
    (held : invariant state) (firstAllowed : ∀ op ∈ first, allowed op)
    (secondAllowed : ∀ op ∈ second, allowed op) :
    second.foldl apply (first.foldl apply state) =
      first.foldl apply (second.foldl apply state) := by
  induction second generalizing state with
  | nil => rfl
  | cons op rest ih =>
      have opAllowed := secondAllowed op List.mem_cons_self
      rw [List.foldl_cons, List.foldl_cons,
        laws.apply_foldl held firstAllowed opAllowed]
      exact ih (laws.closed held opAllowed)
        (fun other member =>
          secondAllowed other (List.mem_cons_of_mem _ member))

/-- The result depends only on which operations occur. -/
theorem foldl_eq_of_same {first second : List Op} {state : State}
    (held : invariant state) (all : ∀ op ∈ first, allowed op)
    (same : ∀ op, op ∈ first ↔ op ∈ second) :
    first.foldl apply state = second.foldl apply state := by
  have secondAllowed : ∀ op ∈ second, allowed op :=
    fun op member => all op ((same op).mpr member)
  calc first.foldl apply state
      = second.foldl apply (first.foldl apply state) :=
        (laws.foldl_absorbed held all
          fun op member => (same op).mpr member).symm
    _ = first.foldl apply (second.foldl apply state) :=
        laws.foldl_foldl_comm held all secondAllowed
    _ = second.foldl apply state :=
        laws.foldl_absorbed held secondAllowed
          fun op member => (same op).mp member

end Convergent
