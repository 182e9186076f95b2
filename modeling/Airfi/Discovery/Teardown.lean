import Airfi.Discovery.LifecycleSafety

/-!
# Nothing is left after the last removal

`async_remove_entry` stops discovery when it runs for the last entry.  A start
that the retry timer launched can still be in flight then.  When it succeeds
it finds its reservation popped and stops itself; when it fails it schedules
a retry without looking.  The other way to leave something behind is a
listener that was orphaned earlier, which no stop reaches.
-/

namespace Airfi

namespace DiscoveryState

section Orphans

variable {state next : DiscoveryState} {action : ListenerAction}
  {listener : ListenerId}

theorem Orphaned.asyncEnsureDiscoveryListener
    (orphaned : state.Orphaned listener) :
    state.asyncEnsureDiscoveryListener.1.Orphaned listener := by
  rw [DiscoveryState.asyncEnsureDiscoveryListener]
  split
  · exact orphaned
  · exact ⟨orphaned.1, by simp⟩

/-- No step stops an orphaned listener or stores it again. -/
theorem Orphaned.step (orphaned : state.Orphaned listener)
    (wellFormed : state.WellFormed)
    (stepped : listenerStep state action = some next) :
    next.Orphaned listener := by
  obtain ⟨runs, unstored⟩ := orphaned
  cases action with
  | ensure =>
      obtain rfl := Option.some.inj stepped
      exact Orphaned.asyncEnsureDiscoveryListener ⟨runs, unstored⟩
  | started other =>
      obtain ⟨pending, ⟨⟩⟩ := Option.ite_none_right_eq_some.mp stepped
      have different : listener ≠ other := by
        rintro rfl
        exact wellFormed.starting_not_running _ pending runs
      rw [listenerStarted]
      split
      · simp [Orphaned, listenerStop, runs, unstored, different]
      · simp [Orphaned, runs, different.symm]
  | failed other =>
      obtain ⟨-, ⟨⟩⟩ := Option.ite_none_right_eq_some.mp stepped
      simp [Orphaned, listenerFailed, asyncScheduleDiscoveryRetry, runs]
  | stop =>
      obtain rfl := Option.some.inj stepped
      simp [Orphaned, runs, unstored]
  | fire timer anyLoaded =>
      obtain ⟨-, ⟨⟩⟩ := Option.ite_none_right_eq_some.mp stepped
      cases anyLoaded with
      | false => exact ⟨runs, unstored⟩
      | true => exact Orphaned.asyncEnsureDiscoveryListener ⟨runs, unstored⟩

end Orphans

end DiscoveryState

namespace Integration

variable {listsUnloading : Bool} {integration next : Integration}
  {action : LifecycleAction}

/-- No entry exists and `async_remove_entry` has run for the last one. -/
def Gone (integration : Integration) : Prop :=
  integration.entries = [] ∧ integration.removing = []

instance : Decidable integration.Gone :=
  inferInstanceAs (Decidable (_ ∧ _))

/-- With no entry and no start left, no listener runs and no timer pends. -/
def TornDown (integration : Integration) : Prop :=
  integration.Gone → integration.discovery.starting = ∅ →
    integration.discovery.running = ∅ ∧ integration.discovery.timers = ∅

instance : Decidable integration.TornDown :=
  inferInstanceAs (Decidable (_ → _))

/-- A start ends while the slot holds no listener object, and it does not
fail after the last entry has been removed. -/
def StartsEndInTime (integration : Integration) : LifecycleAction → Prop
  | .started listener =>
      integration.discovery.StartEndsInFreeSlot (.started listener)
  | .failed listener =>
      integration.discovery.StartEndsInFreeSlot (.failed listener) ∧
        ¬ integration.Gone
  | _ => True

instance : Decidable (integration.StartsEndInTime action) :=
  match action with
  | .started listener =>
      inferInstanceAs (Decidable
        (integration.discovery.StartEndsInFreeSlot (.started listener)))
  | .failed _ => inferInstanceAs (Decidable (_ ∧ _))
  | .add _ | .setup _ | .refreshed _ _ | .unload _ | .platformsUnloaded _ _
  | .left _ _ | .cancelSetupRetry _ | .delete _ | .removed _ | .fire _ =>
      isTrue trivial

@[simp] theorem setPhase_gone {entryId : EntryId} {phase : EntryPhase} :
    (integration.setPhase entryId phase).Gone ↔ integration.Gone := by
  simp [Gone, setPhase]

@[simp] theorem resumeSetups_gone {listener : ListenerId} :
    (integration.resumeSetups listener).Gone ↔ integration.Gone := by
  simp [Gone, resumeSetups]

theorem At.not_gone {entryId : EntryId} {phase : EntryPhase}
    (located : integration.At entryId phase) : ¬ integration.Gone := by
  rintro ⟨empty, -⟩
  rw [At, empty] at located
  exact List.not_mem_nil located

/-- Once everything is gone, the slot and the retry handle are given up. -/
def Cleared (integration : Integration) : Prop :=
  integration.Gone → ¬ integration.discovery.Covers

theorem Cleared.of_not_gone (present : ¬ integration.Gone) :
    integration.Cleared :=
  fun gone => absurd gone present

theorem Cleared.step (cleared : integration.Cleared)
    (wellFormed : integration.discovery.WellFormed)
    (inTime : integration.StartsEndInTime action)
    (stepped : lifecycleStep listsUnloading integration action = some next) :
    next.Cleared := by
  cases action with
  | add entryId =>
      obtain ⟨-, ⟨⟩⟩ := Option.ite_none_left_eq_some.mp stepped
      exact .of_not_gone (by simp [Gone])
  | setup entryId =>
      obtain ⟨located, ⟨⟩⟩ := Option.ite_none_right_eq_some.mp stepped
      refine .of_not_gone fun gone => ?_
      have before : integration.Gone := setPhase_gone.mp gone
      rcases located with idle | waiting
      · exact idle.not_gone before
      · exact waiting.not_gone before
  | started listener =>
      obtain ⟨-, ⟨⟩⟩ := Option.ite_none_right_eq_some.mp stepped
      intro gone
      have uncovered := cleared (resumeSetups_gone.mp gone)
      simp only [DiscoveryState.Covers, not_or, Option.not_isSome_iff_eq_none]
        at uncovered
      simp [DiscoveryState.Covers, DiscoveryState.listenerStarted,
        DiscoveryState.listenerStop, uncovered]
  | failed listener =>
      obtain ⟨-, ⟨⟩⟩ := Option.ite_none_right_eq_some.mp stepped
      exact .of_not_gone fun gone => inTime.2 (resumeSetups_gone.mp gone)
  | refreshed entryId succeeded =>
      obtain ⟨located, ⟨⟩⟩ := Option.ite_none_right_eq_some.mp stepped
      exact .of_not_gone fun gone => located.not_gone (setPhase_gone.mp gone)
  | unload entryId =>
      obtain ⟨located, ⟨⟩⟩ := Option.ite_none_right_eq_some.mp stepped
      exact .of_not_gone fun gone => located.not_gone (setPhase_gone.mp gone)
  | platformsUnloaded entryId unloaded =>
      obtain ⟨located, ⟨⟩⟩ := Option.ite_none_right_eq_some.mp stepped
      refine .of_not_gone fun gone => located.not_gone ?_
      have before := setPhase_gone.mp gone
      split at before <;> exact before
  | left entryId unloaded =>
      obtain ⟨located, ⟨⟩⟩ := Option.ite_none_right_eq_some.mp stepped
      exact .of_not_gone fun gone => located.not_gone (setPhase_gone.mp gone)
  | cancelSetupRetry entryId =>
      obtain ⟨located, ⟨⟩⟩ := Option.ite_none_right_eq_some.mp stepped
      exact .of_not_gone fun gone => located.not_gone (setPhase_gone.mp gone)
  | delete entryId =>
      obtain ⟨-, ⟨⟩⟩ := Option.ite_none_right_eq_some.mp stepped
      exact .of_not_gone (by simp [Gone])
  | removed entryId =>
      obtain ⟨-, ⟨⟩⟩ := Option.ite_none_right_eq_some.mp stepped
      rcases asyncRemoveEntry_cases { integration with
          removing := integration.removing.erase entryId } with
        ⟨-, stops⟩ | ⟨present, keeps⟩
      · rw [stops]
        intro _
        simp [DiscoveryState.Covers]
      · rw [keeps]
        exact .of_not_gone fun gone => present gone.1
  | fire timer =>
      obtain ⟨pending, ⟨⟩⟩ := Option.ite_none_right_eq_some.mp stepped
      refine .of_not_gone fun gone => cleared gone (.inr ?_)
      rw [(wellFormed.timers_retry timer).mp pending]
      rfl

/-- What the teardown relies on: a stop reaches every running listener, and
the last removal leaves nothing in the slot or the retry handle. -/
structure Clean (integration : Integration) : Prop where
  noOrphan : integration.discovery.NoOrphan
  cleared : integration.Cleared

theorem clean_initial : initial.Clean := by
  constructor
  · exact DiscoveryState.noOrphan_of_stored (by
      simp [initial, DiscoveryState.initial])
  · intro _
    simp [DiscoveryState.Covers, initial, DiscoveryState.initial]

theorem Clean.step (clean : integration.Clean)
    (wellFormed : integration.discovery.WellFormed)
    (inTime : integration.StartsEndInTime action)
    (stepped : lifecycleStep listsUnloading integration action = some next) :
    next.Clean := by
  refine ⟨?_, clean.cleared.step wellFormed inTime stepped⟩
  rcases listenerStep_of_lifecycleStep stepped with
    same | ⟨listenerAction, moved, ends⟩
  · exact same ▸ clean.noOrphan
  · refine clean.noOrphan.step ?_ moved
    cases listenerAction with
    | started listener =>
        cases ends
        exact inTime
    | failed listener =>
        cases ends
        exact inTime.1
    | _ => trivial

theorem Clean.tornDown (clean : integration.Clean)
    (wellFormed : integration.discovery.WellFormed) :
    integration.TornDown := by
  intro gone _
  have uncovered := clean.cleared gone
  simp only [DiscoveryState.Covers, not_or, Option.not_isSome_iff_eq_none]
    at uncovered
  constructor
  · refine Finset.eq_empty_of_forall_notMem
      (clean.noOrphan.not_running fun listener stored => ?_)
    rw [uncovered.1] at stored
    cases stored
  · refine Finset.eq_empty_of_forall_notMem fun timer pending => ?_
    have handle := (wellFormed.timers_retry timer).mp pending
    rw [uncovered.2] at handle
    cases handle

/-- In a run whose starts end in time, the last removal leaves nothing once
the starts in flight have ended. -/
theorem tornDown_throughout (listsUnloading : Bool)
    {actions : List LifecycleAction}
    (meets :
      (lifecycleMachine listsUnloading).Meets StartsEndInTime actions) :
    (lifecycleMachine listsUnloading).Throughout TornDown actions := by
  intro before isPrefix state ran
  have both : (lifecycleMachine listsUnloading).Reachable state ∧
      state.Clean :=
    Machine.invariant_of_meets StartsEndInTime
      (fun current =>
        (lifecycleMachine listsUnloading).Reachable current ∧ current.Clean)
      ⟨Machine.reachable_init, clean_initial⟩
      (fun held inTime stepped =>
        ⟨held.1.step stepped,
          held.2.step (discovery_wellFormed held.1) inTime stepped⟩)
      ran (meets.of_prefix isPrefix)
  exact both.2.tornDown (discovery_wellFormed both.1)

/-- The retried start is still in flight at the last removal, and succeeds. -/
theorem tornDown_throughout_late_success :
    (lifecycleMachine false).Throughout TornDown
      [.add 0, .setup 0, .failed 0, .refreshed 0 true, .fire 0, .unload 0,
        .platformsUnloaded 0 true, .left 0 true, .delete 0, .removed 0,
        .started 1] :=
  tornDown_throughout false (Machine.meets_of_meetsFrom _ (by decide))

/-- The retried start is still in flight at the last removal, and fails: it
schedules another retry for an integration that has no entry left. -/
theorem timer_left_after_removal :
    (∃ final, (lifecycleMachine false).run
        [.add 0, .setup 0, .failed 0, .refreshed 0 true, .fire 0, .unload 0,
          .platformsUnloaded 0 true, .left 0 true, .delete 0, .removed 0,
          .failed 1] = some final ∧ ¬ final.TornDown) ∧
      ∃ final, (lifecycleMachine true).run
        [.add 0, .setup 0, .failed 0, .refreshed 0 true, .fire 0, .unload 0,
          .platformsUnloaded 0 true, .left 0 true, .delete 0, .removed 0,
          .failed 1] = some final ∧ ¬ final.TornDown :=
  ⟨⟨_, rfl, by decide⟩, ⟨_, rfl, by decide⟩⟩

/-! ## The condition is exact

A step that misses the condition orphans a listener, which no later step
stops, or leaves a timer where no entry is left.  Let the starts in flight
complete and remove the entries that are left. -/

/-- A continuation removes every entry and lets every start end. -/
def Drains (listsUnloading : Bool) (integration : Integration) : Prop :=
  ∃ actions final,
    (lifecycleMachine listsUnloading).runFrom integration actions =
        some final ∧
      final.Gone ∧ final.discovery.starting = ∅

theorem Drains.of_step (drains : next.Drains listsUnloading)
    (stepped : lifecycleStep listsUnloading integration action = some next) :
    integration.Drains listsUnloading := by
  obtain ⟨actions, final, ran, gone, ended⟩ := drains
  refine ⟨action :: actions, final, ?_, gone, ended⟩
  simpa [Machine.runFrom, lifecycleMachine, stepped] using ran

/-- No start is in flight, and no setup waits for one. -/
def Quiet (integration : Integration) : Prop :=
  integration.discovery.starting = ∅ ∧ integration.AwaitsStarts

theorem Quiet.setPhase (quiet : integration.Quiet) {entryId : EntryId}
    {phase : EntryPhase} (settled : ∀ listener, phase ≠ .ensuring listener) :
    (integration.setPhase entryId phase).Quiet :=
  ⟨quiet.1, quiet.2.setPhase fun listener ensuring =>
    absurd ensuring (settled listener)⟩

theorem Quiet.asyncStopDiscovery (quiet : integration.Quiet) :
    { integration with
      discovery := integration.discovery.asyncStopDiscovery }.Quiet :=
  ⟨by simpa using quiet.1,
    quiet.2.mono (fun _ member => .inl member) (by simp)⟩

@[simp] theorem length_setPhase {entryId : EntryId} {phase : EntryPhase} :
    (integration.setPhase entryId phase).entries.length =
      integration.entries.length :=
  List.length_map _

theorem At.setPhase {entryId : EntryId} {before after : EntryPhase}
    (located : integration.At entryId before) :
    (integration.setPhase entryId after).At entryId after :=
  List.mem_map.mpr ⟨_, located, if_pos rfl⟩

theorem drains_of_no_entries (listsUnloading : Bool)
    (quiet : integration.Quiet) (empty : integration.entries = []) :
    integration.Drains listsUnloading := by
  generalize names : integration.removing = removing
  induction removing generalizing integration with
  | nil => exact ⟨[], integration, rfl, ⟨empty, names⟩, quiet.1⟩
  | cons entryId rest ih =>
      let remaining := { integration with
        removing := integration.removing.erase entryId
        discovery := integration.discovery.asyncStopDiscovery }
      have stepped :
          lifecycleStep listsUnloading integration (.removed entryId) =
            some remaining := by
        simp [lifecycleStep, names, asyncRemoveEntry, empty, remaining]
      have stopped : remaining.Quiet :=
        ⟨quiet.asyncStopDiscovery.1, quiet.asyncStopDiscovery.2⟩
      exact (ih stopped empty (by simp [remaining, names])).of_step stepped

section Removal

/-! An entry is brought to a phase in which it can be deleted; what remains
is smaller. -/

variable (entryId : EntryId)
  (smaller : ∀ {remaining : Integration}, remaining.Quiet →
    remaining.entries.length < integration.entries.length →
      remaining.Drains listsUnloading)

include smaller

theorem drains_of_deletable {current : Integration} (quiet : current.Quiet)
    (size : current.entries.length = integration.entries.length)
    (deletable : current.At entryId .notLoaded ∨
      current.At entryId .setupRetry ∨ current.At entryId .failedUnload) :
    current.Drains listsUnloading := by
  have present : ∃ entry ∈ current.entries, entry.entryId = entryId := by
    rcases deletable with located | located | located <;>
      exact ⟨_, located, rfl⟩
  let remaining := { current with
    entries := current.entries.filter fun entry => entry.entryId ≠ entryId
    removing := entryId :: current.removing }
  have stepped : lifecycleStep listsUnloading current (.delete entryId) =
      some remaining :=
    if_pos deletable
  have shorter : remaining.entries.length < integration.entries.length := by
    obtain ⟨entry, member, same⟩ := present
    rw [← size]
    exact List.length_filter_lt_length_iff_exists.mpr
      ⟨entry, member, by simpa using same⟩
  have quietRemaining : remaining.Quiet :=
    ⟨quiet.1, quiet.2.mono (fun _ member => .inl (List.mem_of_mem_filter member))
      (Finset.Subset.refl _)⟩
  exact (smaller quietRemaining shorter).of_step stepped

theorem drains_of_leaving {current : Integration} {unloaded : Bool}
    (quiet : current.Quiet)
    (size : current.entries.length = integration.entries.length)
    (located : current.At entryId (.leaving unloaded)) :
    current.Drains listsUnloading := by
  have stepped : lifecycleStep listsUnloading current
      (.left entryId unloaded) = some (current.setPhase entryId
        (if unloaded then .notLoaded else .failedUnload)) :=
    if_pos located
  refine (drains_of_deletable entryId smaller
    (quiet.setPhase ?_) (by simpa using size) ?_).of_step stepped
  · cases unloaded <;> simp
  · cases unloaded with
    | true => exact .inl located.setPhase
    | false => exact .inr (.inr located.setPhase)

theorem drains_of_unloading {current : Integration} (quiet : current.Quiet)
    (size : current.entries.length = integration.entries.length)
    (located : current.At entryId .unloading) :
    current.Drains listsUnloading := by
  have stepped : lifecycleStep listsUnloading current
      (.platformsUnloaded entryId true) =
        some (current.asyncUnloadEntry listsUnloading entryId true) :=
    if_pos located
  refine Drains.of_step ?_ stepped
  rcases current.asyncUnloadEntry_cases listsUnloading entryId true with
    ⟨-, stops⟩ | keeps
  · rw [stops]
    exact drains_of_leaving entryId smaller
      (quiet.asyncStopDiscovery.setPhase (by simp)) (by simpa using size)
      (At.setPhase located)
  · rw [keeps]
    exact drains_of_leaving entryId smaller (quiet.setPhase (by simp))
      (by simpa using size) located.setPhase

theorem drains_of_located {phase : EntryPhase} (quiet : integration.Quiet)
    (located : integration.At entryId phase) :
    integration.Drains listsUnloading := by
  cases phase with
  | notLoaded => exact drains_of_deletable entryId smaller quiet rfl (.inl located)
  | setupRetry =>
      exact drains_of_deletable entryId smaller quiet rfl (.inr (.inl located))
  | failedUnload =>
      exact drains_of_deletable entryId smaller quiet rfl (.inr (.inr located))
  | leaving unloaded => exact drains_of_leaving entryId smaller quiet rfl located
  | unloading => exact drains_of_unloading entryId smaller quiet rfl located
  | ensuring listener =>
      have pending := quiet.2 _ located listener rfl
      rw [quiet.1] at pending
      exact absurd pending (Finset.notMem_empty listener)
  | refreshing =>
      have stepped : lifecycleStep listsUnloading integration
          (.refreshed entryId false) =
            some (integration.setPhase entryId .setupRetry) :=
        if_pos located
      exact (drains_of_deletable entryId smaller (quiet.setPhase (by simp))
        length_setPhase (.inr (.inl located.setPhase))).of_step stepped
  | loaded =>
      have stepped : lifecycleStep listsUnloading integration
          (.unload entryId) = some (integration.setPhase entryId .unloading) :=
        if_pos located
      exact (drains_of_unloading entryId smaller (quiet.setPhase (by simp))
        length_setPhase located.setPhase).of_step stepped

end Removal

theorem Quiet.drains (listsUnloading : Bool) (quiet : integration.Quiet) :
    integration.Drains listsUnloading := by
  generalize size : integration.entries.length = length
  induction length using Nat.strong_induction_on generalizing integration with
  | _ length ih =>
      cases entries : integration.entries with
      | nil => exact drains_of_no_entries listsUnloading quiet entries
      | cons entry rest =>
          have located : integration.At entry.entryId entry.phase := by
            rw [At, entries]
            exact List.mem_cons_self
          refine drains_of_located entry.entryId ?_ quiet located
          intro remaining remainingQuiet shorter
          exact ih _ (size ▸ shorter) remainingQuiet rfl

/-- An orphaned listener outlives every later step. -/
theorem orphaned_of_runFrom {listener : ListenerId} {actions : List _}
    {later : Integration}
    (reached : (lifecycleMachine listsUnloading).Reachable integration)
    (orphaned : integration.discovery.Orphaned listener)
    (continued : (lifecycleMachine listsUnloading).runFrom integration
      actions = some later) :
    later.discovery.Orphaned listener := by
  have both : (lifecycleMachine listsUnloading).Reachable later ∧
      later.discovery.Orphaned listener := by
    refine Machine.invariant_of_runFrom
      (fun current => (lifecycleMachine listsUnloading).Reachable current ∧
        current.discovery.Orphaned listener) ?_ continued
      ⟨reached, orphaned⟩
    rintro state action next ⟨reachedState, held⟩ stepped
    refine ⟨reachedState.step stepped, ?_⟩
    rcases listenerStep_of_lifecycleStep stepped with same | ⟨_, moved, -⟩
    · rw [same]
      exact held
    · exact held.step (discovery_wellFormed reachedState) moved
  exact both.2

theorem not_tornDown_of_orphaned {listener : ListenerId}
    (reached : (lifecycleMachine listsUnloading).Reachable integration)
    (orphaned : integration.discovery.Orphaned listener) :
    ∃ actions final,
      (lifecycleMachine listsUnloading).runFrom integration actions =
          some final ∧
        ¬ final.TornDown := by
  obtain ⟨ending, ended, ranEnding, awaits, idle⟩ :=
    exists_startsEnded listsUnloading AwaitsStarts
      (fun {current listener} awaits _ => awaits.resumeSetups
        (current.discovery.listenerStarted_starting listener))
      (awaitsStarts_of_reachable reached)
  obtain ⟨removing, final, ranRemoving, gone, finished⟩ :=
    Quiet.drains listsUnloading ⟨idle, awaits⟩
  have ran : (lifecycleMachine listsUnloading).runFrom integration
      (ending ++ removing) = some final := by
    rw [Machine.runFrom_append, ranEnding]
    exact ranRemoving
  refine ⟨_, final, ran, fun tornDown => ?_⟩
  have runs := (orphaned_of_runFrom reached orphaned ran).1
  rw [(tornDown gone finished).1] at runs
  exact Finset.notMem_empty listener runs

/-- A timer is pending with nothing left that would cancel it. -/
def LeavesTimer (integration : Integration) : Prop :=
  integration.Gone ∧ integration.discovery.discoveryListener = none ∧
    integration.discovery.timers.Nonempty

theorem LeavesTimer.started (leaves : integration.LeavesTimer)
    (listener : ListenerId) :
    (resumeSetups listener
      { integration with
        discovery :=
          integration.discovery.listenerStarted listener }).LeavesTimer := by
  obtain ⟨gone, slot, pending⟩ := leaves
  refine ⟨resumeSetups_gone.mpr gone, ?_, ?_⟩ <;>
    simp [DiscoveryState.listenerStarted, DiscoveryState.listenerStop, slot,
      pending]

theorem leavesTimer_of_failed (gone : integration.Gone)
    (listener : ListenerId) :
    (resumeSetups listener
      { integration with
        discovery :=
          integration.discovery.listenerFailed listener }).LeavesTimer := by
  refine ⟨resumeSetups_gone.mpr gone, ?_⟩
  simp [DiscoveryState.listenerFailed,
    DiscoveryState.asyncScheduleDiscoveryRetry]

theorem not_tornDown_of_leavesTimer (listsUnloading : Bool)
    (leaves : integration.LeavesTimer) :
    ∃ actions final,
      (lifecycleMachine listsUnloading).runFrom integration actions =
          some final ∧
        ¬ final.TornDown := by
  obtain ⟨actions, final, ran, ⟨gone, -, pending⟩, ended⟩ :=
    exists_startsEnded listsUnloading LeavesTimer
      (fun held _ => held.started _) leaves
  refine ⟨actions, final, ran, fun tornDown => ?_⟩
  rw [(tornDown gone ended).2] at pending
  exact Finset.not_nonempty_empty pending

/-- Whenever a reachable step misses the condition, some continuation of the
run ends with everything removed and something left behind. -/
theorem not_tornDown_of_missed
    (reached : (lifecycleMachine listsUnloading).Reachable integration)
    (missed : ¬ integration.StartsEndInTime action)
    (stepped : lifecycleStep listsUnloading integration action = some next) :
    ∃ actions final,
      (lifecycleMachine listsUnloading).runFrom next actions = some final ∧
        ¬ final.TornDown := by
  have wellFormed := discovery_wellFormed reached
  have reachedNext : (lifecycleMachine listsUnloading).Reachable next :=
    reached.step stepped
  cases action with
  | started listener =>
      obtain ⟨pending, ⟨⟩⟩ := Option.ite_none_right_eq_some.mp stepped
      have occupied : ¬ integration.discovery.StartEndsInFreeSlot
          (.started listener) :=
        missed
      obtain ⟨holder, orphaned⟩ :=
        DiscoveryState.exists_orphaned wellFormed occupied (if_pos pending)
      exact not_tornDown_of_orphaned reachedNext orphaned
  | failed listener =>
      obtain ⟨pending, ⟨⟩⟩ := Option.ite_none_right_eq_some.mp stepped
      by_cases gone : integration.Gone
      · exact not_tornDown_of_leavesTimer listsUnloading
          (leavesTimer_of_failed gone listener)
      · have occupied : ¬ integration.discovery.StartEndsInFreeSlot
            (.failed listener) :=
          fun free => missed ⟨free, gone⟩
        obtain ⟨holder, orphaned⟩ :=
          DiscoveryState.exists_orphaned wellFormed occupied (if_pos pending)
        exact not_tornDown_of_orphaned reachedNext orphaned
  | _ => exact absurd trivial missed

end Integration

end Airfi
