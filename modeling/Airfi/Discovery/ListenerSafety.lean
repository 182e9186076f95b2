import Airfi.Discovery.Listener
import Mathlib.Tactic

/-!
# Safety of the shared discovery listener

`DiscoveryState.WellFormed` holds in every reachable state.  The orphan-free
states are exactly kept as long as no start ends while the slot already holds
a listener: an older start that outlived a stop takes over, or throws away,
the slot that a newer call filled.
-/

namespace Airfi

namespace DiscoveryState

section Fields

variable (state : DiscoveryState)

@[simp] theorem cancelRetry_discoveryListener :
    state.cancelRetry.discoveryListener = state.discoveryListener := by
  unfold cancelRetry
  split <;> rfl

@[simp] theorem cancelRetry_discoveryRetry :
    state.cancelRetry.discoveryRetry = none := by
  unfold cancelRetry
  split <;> simp_all

@[simp] theorem cancelRetry_starting :
    state.cancelRetry.starting = state.starting := by
  unfold cancelRetry
  split <;> rfl

@[simp] theorem cancelRetry_running :
    state.cancelRetry.running = state.running := by
  unfold cancelRetry
  split <;> rfl

@[simp] theorem cancelRetry_nextListener :
    state.cancelRetry.nextListener = state.nextListener := by
  unfold cancelRetry
  split <;> rfl

@[simp] theorem mem_cancelRetry_timers {timer : TimerId} :
    timer ∈ state.cancelRetry.timers ↔
      timer ∈ state.timers ∧ state.discoveryRetry ≠ some timer := by
  unfold cancelRetry
  split
  · simp_all
  · simp_all [and_comm, eq_comm]

@[simp] theorem asyncStopDiscovery_discoveryListener :
    state.asyncStopDiscovery.discoveryListener = none := by
  unfold asyncStopDiscovery
  split <;> simp [listenerStop]

@[simp] theorem asyncStopDiscovery_discoveryRetry :
    state.asyncStopDiscovery.discoveryRetry = none := by
  unfold asyncStopDiscovery
  split <;> simp

@[simp] theorem asyncStopDiscovery_starting :
    state.asyncStopDiscovery.starting = state.starting := by
  unfold asyncStopDiscovery
  split <;> simp [listenerStop]

@[simp] theorem asyncStopDiscovery_nextListener :
    state.asyncStopDiscovery.nextListener = state.nextListener := by
  unfold asyncStopDiscovery
  split <;> simp [listenerStop]

@[simp] theorem mem_asyncStopDiscovery_running {listener : ListenerId} :
    listener ∈ state.asyncStopDiscovery.running ↔
      listener ∈ state.running ∧
        state.discoveryListener ≠ some (some listener) := by
  unfold asyncStopDiscovery
  split <;> simp_all [listenerStop, and_comm, eq_comm]

@[simp] theorem mem_asyncStopDiscovery_timers {timer : TimerId} :
    timer ∈ state.asyncStopDiscovery.timers ↔
      timer ∈ state.timers ∧ state.discoveryRetry ≠ some timer := by
  unfold asyncStopDiscovery
  split <;> simp [listenerStop]

end Fields

/-- What holds of the listener slot, the listeners and the timers in every
reachable state, whatever the order of the steps. -/
structure WellFormed (state : DiscoveryState) : Prop where
  stored_running : ∀ listener,
    state.discoveryListener = some (some listener) →
      listener ∈ state.running
  reserved_starting :
    state.discoveryListener = some none → state.starting.Nonempty
  stored_no_retry : ∀ listener,
    state.discoveryListener = some (some listener) →
      state.discoveryRetry = none
  starting_known : ∀ listener, listener ∈ state.starting →
    listener < state.nextListener
  running_known : ∀ listener, listener ∈ state.running →
    listener < state.nextListener
  starting_not_running : ∀ listener, listener ∈ state.starting →
    listener ∉ state.running
  timers_retry : ∀ timer,
    timer ∈ state.timers ↔ state.discoveryRetry = some timer

theorem wellFormed_initial : initial.WellFormed := by
  constructor <;> simp [initial]

namespace WellFormed

variable {state : DiscoveryState}

theorem asyncEnsureDiscoveryListener (wellFormed : state.WellFormed) :
    state.asyncEnsureDiscoveryListener.1.WellFormed := by
  unfold DiscoveryState.asyncEnsureDiscoveryListener
  split
  · exact wellFormed
  · constructor
    · simp
    · simp
    · simp
    · intro listener member
      rcases Finset.mem_insert.mp member with rfl | old
      · simp
      · exact Nat.lt_succ_of_lt (wellFormed.starting_known _ old)
    · intro listener member
      exact Nat.lt_succ_of_lt (wellFormed.running_known _ member)
    · intro listener member running
      rcases Finset.mem_insert.mp member with rfl | old
      · exact (wellFormed.running_known _ running).false
      · exact wellFormed.starting_not_running _ old running
    · exact wellFormed.timers_retry

theorem asyncStopDiscovery (wellFormed : state.WellFormed) :
    state.asyncStopDiscovery.WellFormed := by
  constructor
  · simp
  · simp
  · simp
  · simpa using wellFormed.starting_known
  · intro listener member
    simpa using wellFormed.running_known _
      ((mem_asyncStopDiscovery_running state).mp member).1
  · intro listener member running
    simp only [asyncStopDiscovery_starting] at member
    exact wellFormed.starting_not_running _ member
      ((mem_asyncStopDiscovery_running state).mp running).1
  · intro timer
    simp [wellFormed.timers_retry]

theorem asyncScheduleDiscoveryRetry (wellFormed : state.WellFormed)
    (absent : state.discoveryListener = none) :
    state.asyncScheduleDiscoveryRetry.WellFormed := by
  unfold DiscoveryState.asyncScheduleDiscoveryRetry
  constructor
  · simp [absent]
  · simp [absent]
  · simp [absent]
  · simpa using wellFormed.starting_known
  · simpa using wellFormed.running_known
  · simpa using wellFormed.starting_not_running
  · intro timer
    simp [wellFormed.timers_retry, eq_comm]

/-- Forgetting a start that ended and the slot keeps the invariant. -/
theorem dropStart (wellFormed : state.WellFormed) (listener : ListenerId) :
    { state with
      starting := state.starting.erase listener
      discoveryListener := none }.WellFormed := by
  constructor
  · simp
  · simp
  · simp
  · intro other member
    exact wellFormed.starting_known _ (Finset.mem_of_mem_erase member)
  · exact wellFormed.running_known
  · intro other member
    exact wellFormed.starting_not_running _ (Finset.mem_of_mem_erase member)
  · exact wellFormed.timers_retry

theorem listenerFailed (wellFormed : state.WellFormed)
    (listener : ListenerId) : (state.listenerFailed listener).WellFormed :=
  (wellFormed.dropStart listener).asyncScheduleDiscoveryRetry rfl

theorem listenerStarted (wellFormed : state.WellFormed)
    {listener : ListenerId} (pending : listener ∈ state.starting) :
    (state.listenerStarted listener).WellFormed := by
  have known : ∀ other, other ∈ insert listener state.running →
      other < state.nextListener := by
    intro other member
    rcases Finset.mem_insert.mp member with rfl | old
    · exact wellFormed.starting_known _ pending
    · exact wellFormed.running_known _ old
  have separate : ∀ other, other ∈ state.starting.erase listener →
      other ∉ insert listener state.running := by
    intro other member running
    obtain ⟨different, old⟩ := Finset.mem_erase.mp member
    rcases Finset.mem_insert.mp running with rfl | ran
    · exact different rfl
    · exact wellFormed.starting_not_running _ old ran
  unfold DiscoveryState.listenerStarted
  split
  · rename_i absent
    have slotAbsent : state.discoveryListener = none :=
      Option.isNone_iff_eq_none.mp absent
    constructor
    · simp [listenerStop, slotAbsent]
    · simp [listenerStop, slotAbsent]
    · simp [listenerStop, slotAbsent]
    · intro other member
      exact wellFormed.starting_known _ (Finset.mem_of_mem_erase member)
    · intro other member
      exact known _ (Finset.mem_of_mem_erase member)
    · intro other member running
      exact separate _ member (Finset.mem_of_mem_erase running)
    · exact wellFormed.timers_retry
  · constructor
    · simp
    · simp
    · simp
    · intro other member
      simp only [cancelRetry_starting, cancelRetry_nextListener] at member ⊢
      exact wellFormed.starting_known _ (Finset.mem_of_mem_erase member)
    · simpa using known
    · simpa using separate
    · intro timer
      simp [wellFormed.timers_retry]

theorem retry (wellFormed : state.WellFormed) {timer : TimerId}
    (pending : timer ∈ state.timers) (anyLoaded : Bool) :
    (state.retry timer anyLoaded).1.WellFormed := by
  have fired :
      { state with
        timers := state.timers.erase timer
        discoveryRetry := none }.WellFormed := by
    constructor
    · exact wellFormed.stored_running
    · exact wellFormed.reserved_starting
    · simp
    · exact wellFormed.starting_known
    · exact wellFormed.running_known
    · exact wellFormed.starting_not_running
    · intro other
      have handle := (wellFormed.timers_retry _).mp pending
      simp [wellFormed.timers_retry, handle, eq_comm]
  unfold DiscoveryState.retry
  cases anyLoaded with
  | false => exact fired
  | true => exact fired.asyncEnsureDiscoveryListener

theorem step (wellFormed : state.WellFormed) {action : ListenerAction}
    {next : DiscoveryState} (stepped : listenerStep state action = some next) :
    next.WellFormed := by
  cases action with
  | ensure =>
      obtain rfl := Option.some.inj stepped
      exact wellFormed.asyncEnsureDiscoveryListener
  | started listener =>
      obtain ⟨pending, ⟨⟩⟩ := Option.ite_none_right_eq_some.mp stepped
      exact wellFormed.listenerStarted pending
  | failed listener =>
      obtain ⟨-, ⟨⟩⟩ := Option.ite_none_right_eq_some.mp stepped
      exact wellFormed.listenerFailed listener
  | stop =>
      obtain rfl := Option.some.inj stepped
      exact wellFormed.asyncStopDiscovery
  | fire timer anyLoaded =>
      obtain ⟨pending, ⟨⟩⟩ := Option.ite_none_right_eq_some.mp stepped
      exact wellFormed.retry pending anyLoaded

end WellFormed

theorem wellFormed_of_reachable {state : DiscoveryState}
    (reached : listenerMachine.Reachable state) : state.WellFormed :=
  reached.invariant WellFormed wellFormed_initial
    (fun wellFormed stepped => wellFormed.step stepped)

/-! ## Orphaned listeners -/

/-- No listener runs that a later stop would miss. -/
structure NoOrphan (state : DiscoveryState) : Prop where
  unique : ∀ first ∈ state.running, ∀ second ∈ state.running, first = second
  stored : ∀ listener ∈ state.running,
    state.discoveryListener = some (some listener)
  stopped : state.asyncStopDiscovery.running = ∅

theorem noOrphan_of_stored {state : DiscoveryState}
    (stored : ∀ listener ∈ state.running,
      state.discoveryListener = some (some listener)) : state.NoOrphan := by
  constructor
  · intro first firstRuns second secondRuns
    have same := (stored first firstRuns).symm.trans (stored second secondRuns)
    simpa using same
  · exact stored
  · ext listener
    simpa using stored listener

/-- A start ends while the slot holds no listener object. -/
def StartEndsInFreeSlot (state : DiscoveryState) : ListenerAction → Prop
  | .started _ | .failed _ =>
      ∀ listener, state.discoveryListener ≠ some (some listener)
  | .ensure | .stop | .fire _ _ => True

instance (state : DiscoveryState) (action : ListenerAction) :
    Decidable (state.StartEndsInFreeSlot action) :=
  have free : Decidable
      (∀ listener, state.discoveryListener ≠ some (some listener)) :=
    match slot : state.discoveryListener with
    | none | some none => isTrue (by simp)
    | some (some listener) => isFalse (by simp)
  match action with
  | .started _ | .failed _ => free
  | .ensure | .stop | .fire _ _ => isTrue trivial

namespace NoOrphan

variable {state next : DiscoveryState} {action : ListenerAction}

/-- Without a listener in the slot, an orphan-free state runs none. -/
theorem not_running (noOrphan : state.NoOrphan)
    (free : ∀ listener, state.discoveryListener ≠ some (some listener))
    (listener : ListenerId) : listener ∉ state.running :=
  fun runs => free listener (noOrphan.stored listener runs)

theorem asyncEnsureDiscoveryListener (noOrphan : state.NoOrphan) :
    state.asyncEnsureDiscoveryListener.1.NoOrphan := by
  unfold DiscoveryState.asyncEnsureDiscoveryListener
  split
  · exact noOrphan
  · rename_i absent
    apply noOrphan_of_stored
    intro listener runs
    have stored := noOrphan.stored listener runs
    simp [stored] at absent

theorem step (noOrphan : state.NoOrphan)
    (free : state.StartEndsInFreeSlot action)
    (stepped : listenerStep state action = some next) : next.NoOrphan := by
  cases action with
  | ensure =>
      obtain rfl := Option.some.inj stepped
      exact noOrphan.asyncEnsureDiscoveryListener
  | started listener =>
      obtain ⟨-, ⟨⟩⟩ := Option.ite_none_right_eq_some.mp stepped
      have idle := noOrphan.not_running free
      apply noOrphan_of_stored
      unfold listenerStarted
      split
      · simp [listenerStop, idle]
      · simp [idle]
  | failed listener =>
      obtain ⟨-, ⟨⟩⟩ := Option.ite_none_right_eq_some.mp stepped
      apply noOrphan_of_stored
      simp [listenerFailed, asyncScheduleDiscoveryRetry,
        noOrphan.not_running free]
  | stop =>
      obtain rfl := Option.some.inj stepped
      apply noOrphan_of_stored
      intro listener runs
      rw [noOrphan.stopped] at runs
      exact absurd runs (Finset.notMem_empty listener)
  | fire timer anyLoaded =>
      obtain ⟨-, ⟨⟩⟩ := Option.ite_none_right_eq_some.mp stepped
      have fired :
          { state with
            timers := state.timers.erase timer
            discoveryRetry := none }.NoOrphan :=
        noOrphan_of_stored noOrphan.stored
      unfold DiscoveryState.retry
      cases anyLoaded with
      | false => exact fired
      | true => exact fired.asyncEnsureDiscoveryListener

end NoOrphan

/-- A listener runs that the slot does not hold. -/
def Orphaned (listener : ListenerId) (state : DiscoveryState) : Prop :=
  listener ∈ state.running ∧
    state.discoveryListener ≠ some (some listener)

/-- A start that ends while the slot holds a listener leaves an orphan: a
success overwrites the running listener, a failure pops it unstopped. -/
theorem exists_orphaned {state next : DiscoveryState}
    {action : ListenerAction} (wellFormed : state.WellFormed)
    (occupied : ¬ state.StartEndsInFreeSlot action)
    (stepped : listenerStep state action = some next) :
    ∃ holder, next.Orphaned holder := by
  cases action with
  | started listener =>
      obtain ⟨pending, ⟨⟩⟩ := Option.ite_none_right_eq_some.mp stepped
      simp only [StartEndsInFreeSlot, not_forall, not_not] at occupied
      obtain ⟨holder, slot⟩ := occupied
      have runs := wellFormed.stored_running holder slot
      have different : listener ≠ holder := by
        rintro rfl
        exact wellFormed.starting_not_running _ pending runs
      exact ⟨holder, by simp [Orphaned, listenerStarted, slot, runs, different]⟩
  | failed listener =>
      obtain ⟨-, ⟨⟩⟩ := Option.ite_none_right_eq_some.mp stepped
      simp only [StartEndsInFreeSlot, not_forall, not_not] at occupied
      obtain ⟨holder, slot⟩ := occupied
      have runs := wellFormed.stored_running holder slot
      exact ⟨holder, by
        simp [Orphaned, listenerFailed, asyncScheduleDiscoveryRetry, runs]⟩
  | ensure => exact absurd trivial occupied
  | stop => exact absurd trivial occupied
  | fire timer anyLoaded => exact absurd trivial occupied

theorem orphan_of_occupied {state next : DiscoveryState}
    {action : ListenerAction} (wellFormed : state.WellFormed)
    (occupied : ¬ state.StartEndsInFreeSlot action)
    (stepped : listenerStep state action = some next) : ¬ next.NoOrphan := by
  intro noOrphan
  obtain ⟨holder, runs, unstored⟩ :=
    exists_orphaned wellFormed occupied stepped
  exact unstored (noOrphan.stored holder runs)

/-- A run is free of orphans in every state exactly when each of its starts
ends while the slot holds no listener object. -/
theorem noOrphan_throughout_iff {actions : List ListenerAction}
    {final : DiscoveryState} (ran : listenerMachine.run actions = some final) :
    listenerMachine.Throughout NoOrphan actions ↔
      listenerMachine.Meets StartEndsInFreeSlot actions :=
  Machine.throughout_iff_meets wellFormed_of_reachable
    (noOrphan_of_stored (by simp [listenerMachine, initial]))
    (fun _ noOrphan free stepped => noOrphan.step free stepped)
    (fun wellFormed _ occupied stepped =>
      orphan_of_occupied wellFormed occupied stepped)
    ran

/-- The first start outlives a stop and fills the slot that the second call
reserved; the second start then replaces it without stopping it. -/
theorem orphan_after_restart :
    ∃ state, listenerMachine.run
        [.ensure, .stop, .ensure, .started 0, .started 1] = some state ∧
      ¬ state.NoOrphan := by
  refine ⟨_, rfl, ?_⟩
  intro noOrphan
  exact absurd (noOrphan.unique 0 (by decide) 1 (by decide)) (by decide)

/-- A start, a stop and a second start that waits for its turn. -/
theorem noOrphan_throughout_two_starts :
    ∃ final,
      listenerMachine.run [.ensure, .started 0, .stop, .ensure, .started 1] =
        some final ∧
      listenerMachine.Throughout NoOrphan
        [.ensure, .started 0, .stop, .ensure, .started 1] := by
  refine ⟨_, rfl, (noOrphan_throughout_iff rfl).mpr ?_⟩
  apply Machine.meets_of_meetsFrom
  decide

/-! ## The retry timer -/

/-- At most one timer is outstanding, its handle is the stored one, and none
is outstanding while the slot holds a listener. -/
structure RetryUnique (state : DiscoveryState) : Prop where
  unique : ∀ first ∈ state.timers, ∀ second ∈ state.timers, first = second
  handle : ∀ timer ∈ state.timers, state.discoveryRetry = some timer
  notBesideListener : ∀ listener,
    state.discoveryListener = some (some listener) → state.timers = ∅

theorem WellFormed.retryUnique {state : DiscoveryState}
    (wellFormed : state.WellFormed) : state.RetryUnique := by
  have handle : ∀ timer ∈ state.timers, state.discoveryRetry = some timer :=
    fun timer pending => (wellFormed.timers_retry timer).mp pending
  constructor
  · intro first firstPending second secondPending
    have same :=
      (handle first firstPending).symm.trans (handle second secondPending)
    exact Option.some.inj same
  · exact handle
  · intro listener stored
    refine Finset.eq_empty_of_forall_notMem fun timer pending => ?_
    have absent := wellFormed.stored_no_retry listener stored
    rw [handle timer pending] at absent
    cases absent

/-- Whatever the order of ensure calls, start completions, stops and firing
timers, there is one retry timer at most and it stays reachable. -/
theorem retryUnique_of_run {actions : List ListenerAction}
    {state : DiscoveryState}
    (ran : listenerMachine.run actions = some state) : state.RetryUnique :=
  (wellFormed_of_reachable ⟨actions, ran⟩).retryUnique

/-- Two starts overlap across a stop; each fails and schedules a retry. -/
theorem retryUnique_of_run_two_failures :
    ∃ state, listenerMachine.run
        [.ensure, .stop, .ensure, .failed 0, .failed 1] = some state ∧
      state.timers = {1} ∧ state.RetryUnique :=
  ⟨_, rfl, by decide, @retryUnique_of_run
    [.ensure, .stop, .ensure, .failed 0, .failed 1] _ rfl⟩

end DiscoveryState

end Airfi
