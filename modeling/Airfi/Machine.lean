import Mathlib.Data.List.Induction

/-!
# Guarded step machines

A machine is an initial state and an executable step function, `none` where
an action is not enabled.  The rules below turn a fact about one step into a
fact about every reachable state, about every run whose steps all meet a
condition, or, where violating the condition breaks the property at once,
into an equivalence between the two.
-/

/-- A transition system whose nondeterminism is carried by the actions. -/
structure Machine (State Action : Type*) where
  init : State
  step : State → Action → Option State

namespace Machine

variable {State Action : Type*} (machine : Machine State Action)

/-- Perform the actions in order; `none` as soon as one is not enabled. -/
def runFrom (state : State) : List Action → Option State
  | [] => some state
  | action :: rest =>
      match machine.step state action with
      | none => none
      | some next => runFrom next rest

def run (actions : List Action) : Option State :=
  machine.runFrom machine.init actions

def Reachable (state : State) : Prop :=
  ∃ actions, machine.run actions = some state

/-- The property holds in every state the run passes through. -/
def Throughout (property : State → Prop) (actions : List Action) : Prop :=
  ∀ before, before <+: actions →
    ∀ state, machine.run before = some state → property state

/-- Every step of the run meets the condition in the state before it. -/
def Meets (condition : State → Action → Prop) (actions : List Action) : Prop :=
  ∀ before action, before ++ [action] <+: actions →
    ∀ state, machine.run before = some state → condition state action

/-- The recursive form of `Meets`, for checking a concrete run. -/
def MeetsFrom (condition : State → Action → Prop) :
    State → List Action → Prop
  | _, [] => True
  | state, action :: rest =>
      condition state action ∧
        match machine.step state action with
        | none => True
        | some next => MeetsFrom condition next rest

instance decidableMeetsFrom {condition : State → Action → Prop}
    [∀ state action, Decidable (condition state action)] :
    ∀ state actions, Decidable (machine.MeetsFrom condition state actions)
  | _, [] => isTrue trivial
  | state, action :: rest =>
      match stepped : machine.step state action with
      | none =>
          decidable_of_iff (condition state action) (by
            simp [MeetsFrom, stepped])
      | some next =>
          have : Decidable (machine.MeetsFrom condition next rest) :=
            decidableMeetsFrom next rest
          decidable_of_iff
            (condition state action ∧ machine.MeetsFrom condition next rest)
            (by simp [MeetsFrom, stepped])

@[simp] theorem runFrom_nil (state : State) :
    machine.runFrom state [] = some state := rfl

theorem runFrom_append (state : State) (first second : List Action) :
    machine.runFrom state (first ++ second) =
      (machine.runFrom state first).bind
        (fun middle => machine.runFrom middle second) := by
  induction first generalizing state with
  | nil => rfl
  | cons action rest ih =>
      simp only [List.cons_append, runFrom]
      cases machine.step state action with
      | none => rfl
      | some next => exact ih next

theorem run_snoc {actions : List Action} {action : Action} {final : State} :
    machine.run (actions ++ [action]) = some final ↔
      ∃ state, machine.run actions = some state ∧
        machine.step state action = some final := by
  unfold run
  rw [runFrom_append]
  cases machine.runFrom machine.init actions with
  | none => simp
  | some state =>
      simp only [Option.bind_some, runFrom, Option.some.injEq,
        exists_eq_left']
      cases machine.step state action <;> simp

theorem run_prefix {before actions : List Action} {final : State}
    (isPrefix : before <+: actions) (ran : machine.run actions = some final) :
    ∃ state, machine.run before = some state := by
  obtain ⟨rest, rfl⟩ := isPrefix
  unfold run at ran ⊢
  rw [runFrom_append] at ran
  cases reached : machine.runFrom machine.init before with
  | none => simp [reached] at ran
  | some state => exact ⟨state, rfl⟩

theorem meets_of_forall {condition : State → Action → Prop}
    {actions : List Action}
    (always : ∀ action ∈ actions, ∀ state, condition state action) :
    machine.Meets condition actions := by
  intro before action isPrefix state _
  apply always action
  exact isPrefix.subset (List.mem_append_right _ List.mem_cons_self)

theorem meets_of_meetsFrom {condition : State → Action → Prop}
    {actions : List Action}
    (met : machine.MeetsFrom condition machine.init actions) :
    machine.Meets condition actions := by
  intro before action isPrefix state ran
  unfold run at ran
  generalize machine.init = start at met ran
  induction before generalizing start actions with
  | nil =>
      obtain ⟨rest, rfl⟩ := isPrefix
      obtain rfl : start = state := by simpa using ran
      exact met.1
  | cons first before ih =>
      obtain ⟨rest, rfl⟩ := isPrefix
      simp only [List.cons_append, MeetsFrom, runFrom] at met ran
      cases stepped : machine.step start first with
      | none => simp [stepped] at ran
      | some next =>
          simp only [stepped] at met ran
          exact ih ⟨rest, rfl⟩ next met.2 ran

variable {machine}

theorem meetsFrom_of_forall {condition : State → Action → Prop}
    {state : State} {actions : List Action}
    (always : ∀ action ∈ actions, ∀ state, condition state action) :
    machine.MeetsFrom condition state actions := by
  induction actions generalizing state with
  | nil => trivial
  | cons action rest ih =>
      refine ⟨always action List.mem_cons_self state, ?_⟩
      cases machine.step state action with
      | none => trivial
      | some next =>
          exact ih fun later member =>
            always later (List.mem_cons_of_mem _ member)

theorem MeetsFrom.imp {first second : State → Action → Prop}
    (implied : ∀ {state action}, first state action → second state action)
    {state : State} {actions : List Action}
    (meets : machine.MeetsFrom first state actions) :
    machine.MeetsFrom second state actions := by
  induction actions generalizing state with
  | nil => trivial
  | cons action rest ih =>
      obtain ⟨met, following⟩ := meets
      refine ⟨implied met, ?_⟩
      cases stepped : machine.step state action with
      | none => trivial
      | some next =>
          simp only [stepped] at following
          exact ih following

theorem reachable_init : machine.Reachable machine.init :=
  ⟨[], rfl⟩

theorem Reachable.step {state next : State} {action : Action}
    (reached : machine.Reachable state)
    (stepped : machine.step state action = some next) :
    machine.Reachable next := by
  obtain ⟨actions, ran⟩ := reached
  exact ⟨actions ++ [action], machine.run_snoc.mpr ⟨state, ran, stepped⟩⟩

/-- The invariant rule over runs whose steps all meet a condition. -/
theorem invariant_of_meets (condition : State → Action → Prop)
    (property : State → Prop) (initial : property machine.init)
    (preserved : ∀ {state action next}, property state →
      condition state action → machine.step state action = some next →
      property next)
    {actions : List Action} {final : State}
    (ran : machine.run actions = some final)
    (meets : machine.Meets condition actions) : property final := by
  induction actions using List.reverseRecOn generalizing final with
  | nil =>
      have finalEq : machine.init = final := by simpa [run] using ran
      exact finalEq ▸ initial
  | append_singleton actions action ih =>
      obtain ⟨state, ranBefore, stepped⟩ := machine.run_snoc.mp ran
      have meetsBefore : machine.Meets condition actions := by
        intro before earlier isPrefix
        exact meets before earlier
          (isPrefix.trans (List.prefix_append actions [action]))
      exact preserved (ih ranBefore meetsBefore)
        (meets actions action (List.prefix_refl _) state ranBefore) stepped

/-- The invariant rule over what follows a state. -/
theorem invariant_of_runFrom (property : State → Prop)
    (preserved : ∀ {state action next}, property state →
      machine.step state action = some next → property next)
    {state later : State} {actions : List Action}
    (continued : machine.runFrom state actions = some later)
    (held : property state) : property later := by
  induction actions generalizing state with
  | nil =>
      have same : state = later := by simpa using continued
      exact same ▸ held
  | cons action rest ih =>
      simp only [runFrom] at continued
      cases stepped : machine.step state action with
      | none => simp [stepped] at continued
      | some next =>
          simp only [stepped] at continued
          exact ih continued (preserved held stepped)

/-- The invariant rule over what follows a state by steps that all meet a
condition. -/
theorem invariant_of_meetsFrom (condition : State → Action → Prop)
    (property : State → Prop)
    (preserved : ∀ {state action next}, property state →
      condition state action → machine.step state action = some next →
      property next)
    {state later : State} {actions : List Action}
    (continued : machine.runFrom state actions = some later)
    (meets : machine.MeetsFrom condition state actions)
    (held : property state) : property later := by
  induction actions generalizing state with
  | nil =>
      have same : state = later := by simpa using continued
      exact same ▸ held
  | cons action rest ih =>
      obtain ⟨met, following⟩ := meets
      simp only [runFrom] at continued
      cases stepped : machine.step state action with
      | none => simp [stepped] at continued
      | some next =>
          simp only [stepped] at continued following
          exact ih continued following (preserved held met stepped)

/-- The invariant rule over all runs. -/
theorem Reachable.invariant {state : State}
    (reached : machine.Reachable state) (property : State → Prop)
    (initial : property machine.init)
    (preserved : ∀ {state action next}, property state →
      machine.step state action = some next → property next) :
    property state := by
  obtain ⟨actions, ran⟩ := reached
  exact invariant_of_meets (fun _ _ => True) property initial
    (fun held _ stepped => preserved held stepped) ran
    (fun _ _ _ _ _ => trivial)

theorem Meets.of_prefix {condition : State → Action → Prop}
    {before actions : List Action} (isPrefix : before <+: actions)
    (meets : machine.Meets condition actions) :
    machine.Meets condition before :=
  fun earlier action earlierPrefix =>
    meets earlier action (earlierPrefix.trans isPrefix)

theorem Meets.imp {first second : State → Action → Prop}
    {actions : List Action} (meets : machine.Meets first actions)
    (implied : ∀ {state action}, machine.Reachable state →
      first state action → second state action) :
    machine.Meets second actions := by
  intro before action isPrefix state ran
  exact implied ⟨before, ran⟩ (meets before action isPrefix state ran)

/-- Two conditions that agree in every reachable state agree on runs. -/
theorem meets_congr {first second : State → Action → Prop}
    (agree : ∀ {state action}, machine.Reachable state →
      (first state action ↔ second state action))
    (actions : List Action) :
    machine.Meets first actions ↔ machine.Meets second actions :=
  ⟨fun meets => meets.imp fun reached => (agree reached).mp,
    fun meets => meets.imp fun reached => (agree reached).mpr⟩

/-- The exactness rule: where a step that misses the condition breaks the
property at once, a run has the property throughout exactly when its steps
all meet the condition.  `invariant` holds over every run, good or bad. -/
theorem throughout_iff_meets {condition : State → Action → Prop}
    {property invariant : State → Prop}
    (reachableInvariant : ∀ {state}, machine.Reachable state →
      invariant state)
    (initial : property machine.init)
    (preserved : ∀ {state action next}, invariant state → property state →
      condition state action → machine.step state action = some next →
      property next)
    (broken : ∀ {state action next}, invariant state → property state →
      ¬ condition state action → machine.step state action = some next →
      ¬ property next)
    {actions : List Action} {final : State}
    (ran : machine.run actions = some final) :
    machine.Throughout property actions ↔
      machine.Meets condition actions := by
  constructor
  · intro throughout before action isPrefix state ranBefore
    by_contra missed
    obtain ⟨next, ranNext⟩ := machine.run_prefix isPrefix ran
    obtain ⟨same, ranSame, stepped⟩ := machine.run_snoc.mp ranNext
    obtain rfl : state = same :=
      Option.some.inj (ranBefore.symm.trans ranSame)
    have held : property state :=
      throughout before ((List.prefix_append _ _).trans isPrefix) state
        ranBefore
    exact broken (reachableInvariant ⟨before, ranBefore⟩) held missed stepped
      (throughout _ isPrefix next ranNext)
  · intro meets before isPrefix state ranBefore
    have both : machine.Reachable state ∧ property state :=
      invariant_of_meets condition
        (fun current => machine.Reachable current ∧ property current)
        ⟨reachable_init, initial⟩
        (fun held met stepped =>
          ⟨held.1.step stepped,
            preserved (reachableInvariant held.1) held.2 met stepped⟩)
        ranBefore (meets.of_prefix isPrefix)
    exact both.2

/-- A projection that sends every step to finitely many steps of another
machine sends reachable states to reachable states. -/
theorem Reachable.project {State' Action' : Type*}
    {target : Machine State' Action'} {state : State}
    (reached : machine.Reachable state) (projection : State → State')
    (initial : target.Reachable (projection machine.init))
    (simulated : ∀ {state action next},
      machine.step state action = some next →
      target.Reachable (projection state) →
      target.Reachable (projection next)) :
    target.Reachable (projection state) :=
  reached.invariant (fun current => target.Reachable (projection current))
    initial (fun held stepped => simulated stepped held)

/-- The simulation rule: where no allowed action is refused and each does to
a related abstract state what `apply` does, a whole run does so too. -/
theorem exists_runFrom_of_simulates {Abstract : Type*}
    {related : State → Abstract → Prop}
    {apply : Abstract → Action → Abstract} {allowed : Action → Prop}
    (simulates : ∀ {state abstract action}, related state abstract →
      allowed action → ∃ next, machine.step state action = some next ∧
        related next (apply abstract action))
    {actions : List Action} (all : ∀ action ∈ actions, allowed action)
    {state : State} {abstract : Abstract}
    (initially : related state abstract) :
    ∃ final, machine.runFrom state actions = some final ∧
      related final (actions.foldl apply abstract) := by
  induction actions generalizing state abstract with
  | nil => exact ⟨state, rfl, initially⟩
  | cons action rest ih =>
      obtain ⟨next, stepped, following⟩ :=
        simulates initially (all action List.mem_cons_self)
      obtain ⟨final, ran, ended⟩ := ih
        (fun later member => all later (List.mem_cons_of_mem _ member))
        following
      refine ⟨final, ?_, ended⟩
      rw [runFrom, stepped]
      exact ran

/-! ## What has happened -/

variable (machine) in
/-- At some step of the run. -/
def Happened (event : State → Action → Prop) (actions : List Action) :
    Prop :=
  ∃ before action, before ++ [action] <+: actions ∧
    ∃ state, machine.run before = some state ∧ event state action

theorem Happened.snoc {event : State → Action → Prop}
    {actions : List Action} (action : Action)
    (happened : machine.Happened event actions) :
    machine.Happened event (actions ++ [action]) := by
  obtain ⟨before, earlier, isPrefix, reached⟩ := happened
  exact ⟨before, earlier, isPrefix.trans (List.prefix_append ..), reached⟩

theorem happened_last {event : State → Action → Prop}
    {actions : List Action} {state : State} {action : Action}
    (ran : machine.run actions = some state) (now : event state action) :
    machine.Happened event (actions ++ [action]) :=
  ⟨actions, action, List.prefix_rfl, state, ran, now⟩

/-- Induction over a run, for what relates its state to its actions. -/
theorem run_induction (property : List Action → State → Prop)
    (initial : property [] machine.init)
    (preserved : ∀ {actions state action next},
      machine.run actions = some state → property actions state →
        machine.step state action = some next →
          property (actions ++ [action]) next)
    {actions : List Action} {final : State}
    (ran : machine.run actions = some final) : property actions final := by
  induction actions using List.reverseRecOn generalizing final with
  | nil =>
      obtain rfl : machine.init = final := by simpa [run] using ran
      exact initial
  | append_singleton actions action ih =>
      obtain ⟨state, ranBefore, stepped⟩ := machine.run_snoc.mp ran
      exact preserved ranBefore (ih ranBefore) stepped

/-! ## Budgets -/

section History

variable {Event : Type*} (machine) (observe : State → Action → Option Event)

/-- What an observer notes of the steps, in order. -/
def historyFrom (state : State) : List Action → List Event
  | [] => []
  | action :: rest =>
      match machine.step state action with
      | none => []
      | some next => (observe state action).toList ++ historyFrom next rest

def history (actions : List Action) : List Event :=
  machine.historyFrom observe machine.init actions

variable {machine observe}

/-- The invariant rule over what follows a state and what is noted on the
way. -/
theorem invariant_of_history (property : State → List Event → Prop)
    (preserved : ∀ {state action next noted}, property state noted →
      machine.step state action = some next →
      property next (noted ++ (observe state action).toList))
    {state final : State} {noted : List Event} {actions : List Action}
    (ran : machine.runFrom state actions = some final)
    (held : property state noted) :
    property final (noted ++ machine.historyFrom observe state actions) := by
  induction actions generalizing state noted with
  | nil =>
      obtain rfl : state = final := by simpa using ran
      rwa [historyFrom, List.append_nil]
  | cons action rest ih =>
      simp only [runFrom] at ran
      cases stepped : machine.step state action with
      | none => simp [stepped] at ran
      | some next =>
          simp only [stepped] at ran
          simp only [historyFrom, stepped, ← List.append_assoc]
          exact ih ran (preserved held stepped)

end History

end Machine
