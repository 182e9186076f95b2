import Airfi.Discovery.Lifecycle
import Airfi.Discovery.ListenerSafety

/-!
# Rediscovery of loaded entries

The lifecycle machine drives the listener machine, so the listener invariant
carries over.  An entry that has taken its listener step is attended while
the slot or the retry handle is present; the two places that give both up
look at loaded entries only, and a setup in progress is not loaded yet.
-/

namespace Airfi

namespace DiscoveryState

variable {state : DiscoveryState}

/-- The slot is present or a retry is scheduled. -/
def Covers (state : DiscoveryState) : Prop :=
  state.discoveryListener.isSome ∨ state.discoveryRetry.isSome

theorem covers_asyncEnsureDiscoveryListener :
    state.asyncEnsureDiscoveryListener.1.Covers := by
  left
  unfold asyncEnsureDiscoveryListener
  split <;> simp_all

theorem covers_listenerFailed (listener : ListenerId) :
    (state.listenerFailed listener).Covers := by
  right
  simp [listenerFailed, asyncScheduleDiscoveryRetry]

theorem Covers.listenerStarted (covers : state.Covers)
    (listener : ListenerId) : (state.listenerStarted listener).Covers := by
  unfold DiscoveryState.listenerStarted
  split
  · exact covers
  · left
    simp

theorem covers_retry_loaded (timer : TimerId) :
    (state.retry timer true).1.Covers :=
  covers_asyncEnsureDiscoveryListener

theorem retry_unloaded_discoveryListener (timer : TimerId) :
    (state.retry timer false).1.discoveryListener =
      state.discoveryListener := rfl

theorem starting_subset_asyncEnsureDiscoveryListener
    (state : DiscoveryState) :
    state.starting ⊆ state.asyncEnsureDiscoveryListener.1.starting := by
  unfold asyncEnsureDiscoveryListener
  split
  · exact Finset.Subset.refl _
  · exact Finset.subset_insert _ _

theorem starting_subset_retry (state : DiscoveryState) (timer : TimerId)
    (anyLoaded : Bool) :
    state.starting ⊆ (state.retry timer anyLoaded).1.starting := by
  unfold retry
  cases anyLoaded with
  | false => exact Finset.Subset.refl _
  | true =>
      exact starting_subset_asyncEnsureDiscoveryListener
        { state with
          timers := state.timers.erase timer
          discoveryRetry := none }

theorem mem_starting_of_asyncEnsureDiscoveryListener
    {listener : ListenerId}
    (awaited : state.asyncEnsureDiscoveryListener.2 = some listener) :
    listener ∈ state.asyncEnsureDiscoveryListener.1.starting := by
  unfold asyncEnsureDiscoveryListener at awaited ⊢
  split at awaited <;> simp_all

theorem listenerStarted_starting (state : DiscoveryState)
    (listener : ListenerId) :
    (state.listenerStarted listener).starting =
      state.starting.erase listener := by
  unfold listenerStarted
  split <;> simp [listenerStop]

theorem listenerFailed_starting (state : DiscoveryState)
    (listener : ListenerId) :
    (state.listenerFailed listener).starting =
      state.starting.erase listener := by
  simp [listenerFailed, asyncScheduleDiscoveryRetry]

/-- A covered state has a stored listener running, a start in flight or a
timer pending. -/
theorem WellFormed.attended (wellFormed : state.WellFormed)
    (covers : state.Covers) :
    (∃ listener ∈ state.running,
        state.discoveryListener = some (some listener)) ∨
      state.starting.Nonempty ∨ state.timers.Nonempty := by
  rcases covers with slot | handle
  · cases slotEq : state.discoveryListener with
    | none => simp [slotEq] at slot
    | some content =>
        cases content with
        | none => exact .inr (.inl (wellFormed.reserved_starting slotEq))
        | some listener =>
            exact .inl ⟨listener, wellFormed.stored_running _ slotEq, rfl⟩
  · obtain ⟨timer, handleEq⟩ := Option.isSome_iff_exists.mp handle
    exact .inr (.inr ⟨timer, (wellFormed.timers_retry timer).mpr handleEq⟩)

end DiscoveryState

namespace Integration

/-! ## The listener machine underneath -/

@[simp] theorem setPhase_discovery (entryId : EntryId) (phase : EntryPhase)
    (integration : Integration) :
    (integration.setPhase entryId phase).discovery =
      integration.discovery := rfl

@[simp] theorem resumeSetups_discovery (listener : ListenerId)
    (integration : Integration) :
    (integration.resumeSetups listener).discovery =
      integration.discovery := rfl

@[simp] theorem asyncSetupEntry_discovery (entryId : EntryId)
    (integration : Integration) :
    (integration.asyncSetupEntry entryId).discovery =
      integration.discovery.asyncEnsureDiscoveryListener.1 := rfl

variable {listsUnloading : Bool} {integration next : Integration}
  {action : LifecycleAction}

/-- The unload of the only loaded entry stops the listener. -/
theorem asyncUnloadEntry_of_alone {entryId : EntryId} {unloaded : Bool}
    (alone : ∀ other ∈ integration.asyncLoadedEntries listsUnloading,
      other.entryId = entryId) :
    integration.asyncUnloadEntry listsUnloading entryId unloaded =
      { integration with
        discovery := integration.discovery.asyncStopDiscovery
      }.setPhase entryId (.leaving unloaded) := by
  have remaining :
      (integration.asyncLoadedEntries listsUnloading).filter
        (fun other => other.entryId ≠ entryId) = [] := by
    simpa [List.filter_eq_nil_iff] using alone
  simp only [asyncUnloadEntry, if_pos remaining]

theorem asyncUnloadEntry_cases (listsUnloading : Bool) (entryId : EntryId)
    (unloaded : Bool) (integration : Integration) :
    ((∀ other ∈ integration.asyncLoadedEntries listsUnloading,
        other.entryId = entryId) ∧
      integration.asyncUnloadEntry listsUnloading entryId unloaded =
        { integration with
          discovery := integration.discovery.asyncStopDiscovery
        }.setPhase entryId (.leaving unloaded)) ∨
      integration.asyncUnloadEntry listsUnloading entryId unloaded =
        integration.setPhase entryId (.leaving unloaded) := by
  by_cases alone : ∀ other ∈ integration.asyncLoadedEntries listsUnloading,
      other.entryId = entryId
  · exact .inl ⟨alone, asyncUnloadEntry_of_alone alone⟩
  · have remaining :
        (integration.asyncLoadedEntries listsUnloading).filter
          (fun other => other.entryId ≠ entryId) ≠ [] := by
      simpa [List.filter_eq_nil_iff] using alone
    exact .inr (by simp only [asyncUnloadEntry, if_neg remaining])

theorem asyncRemoveEntry_cases (integration : Integration) :
    (integration.entries = [] ∧
      integration.asyncRemoveEntry =
        { integration with
          discovery := integration.discovery.asyncStopDiscovery }) ∨
      (integration.entries ≠ [] ∧
        integration.asyncRemoveEntry = integration) := by
  by_cases empty : integration.entries = []
  · exact .inl ⟨empty, if_pos empty⟩
  · exact .inr ⟨empty, if_neg empty⟩

/-- A listener step ends a start only where the lifecycle step does. -/
def EndsSameStart (action : LifecycleAction) : ListenerAction → Prop
  | .started listener => action = .started listener
  | .failed listener => action = .failed listener
  | .ensure | .stop | .fire _ _ => True

/-- Every lifecycle step is a listener step or leaves the listener alone. -/
theorem listenerStep_of_lifecycleStep
    (stepped : lifecycleStep listsUnloading integration action = some next) :
    next.discovery = integration.discovery ∨
      ∃ listenerAction,
        listenerStep integration.discovery listenerAction =
            some next.discovery ∧
          EndsSameStart action listenerAction := by
  cases action with
  | add entryId =>
      obtain ⟨-, ⟨⟩⟩ := Option.ite_none_left_eq_some.mp stepped
      exact .inl rfl
  | setup entryId =>
      obtain ⟨-, ⟨⟩⟩ := Option.ite_none_right_eq_some.mp stepped
      exact .inr ⟨.ensure, rfl, trivial⟩
  | started listener =>
      obtain ⟨pending, ⟨⟩⟩ := Option.ite_none_right_eq_some.mp stepped
      exact .inr ⟨.started listener, by simp [listenerStep, pending], rfl⟩
  | failed listener =>
      obtain ⟨pending, ⟨⟩⟩ := Option.ite_none_right_eq_some.mp stepped
      exact .inr ⟨.failed listener, by simp [listenerStep, pending], rfl⟩
  | refreshed entryId succeeded =>
      obtain ⟨-, ⟨⟩⟩ := Option.ite_none_right_eq_some.mp stepped
      exact .inl rfl
  | unload entryId =>
      obtain ⟨-, ⟨⟩⟩ := Option.ite_none_right_eq_some.mp stepped
      exact .inl rfl
  | platformsUnloaded entryId unloaded =>
      obtain ⟨-, ⟨⟩⟩ := Option.ite_none_right_eq_some.mp stepped
      rcases integration.asyncUnloadEntry_cases listsUnloading entryId
        unloaded with ⟨-, stops⟩ | keeps
      · rw [stops]
        exact .inr ⟨.stop, rfl, trivial⟩
      · rw [keeps]
        exact .inl rfl
  | left entryId unloaded =>
      obtain ⟨-, ⟨⟩⟩ := Option.ite_none_right_eq_some.mp stepped
      exact .inl rfl
  | cancelSetupRetry entryId =>
      obtain ⟨-, ⟨⟩⟩ := Option.ite_none_right_eq_some.mp stepped
      exact .inl rfl
  | delete entryId =>
      obtain ⟨-, ⟨⟩⟩ := Option.ite_none_right_eq_some.mp stepped
      exact .inl rfl
  | removed entryId =>
      obtain ⟨-, ⟨⟩⟩ := Option.ite_none_right_eq_some.mp stepped
      rcases asyncRemoveEntry_cases { integration with
          removing := integration.removing.erase entryId } with
        ⟨-, stops⟩ | ⟨-, keeps⟩
      · rw [stops]
        exact .inr ⟨.stop, rfl, trivial⟩
      · rw [keeps]
        exact .inl rfl
  | fire timer =>
      obtain ⟨pending, ⟨⟩⟩ := Option.ite_none_right_eq_some.mp stepped
      exact .inr ⟨.fire timer
        (integration.asyncLoadedEntries listsUnloading ≠ []), by
          simp only [listenerStep, pending, if_true], trivial⟩

/-- The lifecycle machine refines the listener machine. -/
theorem discovery_reachable
    (reached : (lifecycleMachine listsUnloading).Reachable integration) :
    listenerMachine.Reachable integration.discovery := by
  apply reached.project Integration.discovery
  · exact Machine.reachable_init
  · intro state action next stepped reachedListener
    rcases listenerStep_of_lifecycleStep stepped with same | ⟨_, moved, -⟩
    · exact same ▸ reachedListener
    · exact reachedListener.step moved

theorem discovery_wellFormed
    (reached : (lifecycleMachine listsUnloading).Reachable integration) :
    integration.discovery.WellFormed :=
  DiscoveryState.wellFormed_of_reachable (discovery_reachable reached)

/-! ## Entries that rely on the listener -/

end Integration

/-- Loaded, or past the listener step of a setup. -/
def EntryPhase.NeedsListener (phase : EntryPhase) : Prop :=
  phase = .loaded ∨ phase.InSetup

namespace Integration

variable {listsUnloading : Bool} {integration next : Integration}
  {action : LifecycleAction}

def Waiting (integration : Integration) : Prop :=
  ∃ entry ∈ integration.entries, entry.phase.NeedsListener

def Attended (integration : Integration) : Prop :=
  integration.Waiting → integration.discovery.Covers

/-- While an entry is loaded, a stored listener runs, a start is in flight or
a retry timer is pending. -/
def NotStranded (integration : Integration) : Prop :=
  (∃ entry ∈ integration.entries, entry.phase = .loaded) →
    (∃ listener ∈ integration.discovery.running,
        integration.discovery.discoveryListener = some (some listener)) ∨
      integration.discovery.starting.Nonempty ∨
      integration.discovery.timers.Nonempty

/-- An unload stops discovery, and a firing timer gives up with the slot
absent, only while no other entry's setup is past its listener step. -/
def KeepsSetups (listsUnloading : Bool) (integration : Integration) :
    LifecycleAction → Prop
  | .platformsUnloaded entryId _ =>
      (∀ other ∈ integration.asyncLoadedEntries listsUnloading,
          other.entryId = entryId) →
        ∀ entry ∈ integration.entries, entry.entryId ≠ entryId →
          ¬ entry.phase.InSetup
  | .fire _ =>
      integration.asyncLoadedEntries listsUnloading = [] →
        integration.discovery.discoveryListener = none →
          ∀ entry ∈ integration.entries, ¬ entry.phase.InSetup
  | _ => True

instance : Decidable integration.NotStranded :=
  inferInstanceAs (Decidable (_ → _))

instance : Decidable (integration.KeepsSetups listsUnloading action) := by
  cases action <;> unfold KeepsSetups <;> infer_instance

theorem mem_asyncLoadedEntries_of_loaded {entry : EntryStatus}
    (member : entry ∈ integration.entries) (loaded : entry.phase = .loaded) :
    entry ∈ integration.asyncLoadedEntries listsUnloading := by
  simp [asyncLoadedEntries, member, loaded]

theorem Waiting.of_setPhase {entryId : EntryId} {phase : EntryPhase}
    (waiting : (integration.setPhase entryId phase).Waiting) :
    integration.Waiting ∨ phase.NeedsListener := by
  obtain ⟨_, member, needs⟩ := waiting
  obtain ⟨entry, old, rfl⟩ := List.mem_map.mp member
  by_cases same : entry.entryId = entryId
  · rw [if_pos same] at needs
    exact .inr needs
  · rw [if_neg same] at needs
    exact .inl ⟨entry, old, needs⟩

theorem Waiting.of_resumeSetups {listener : ListenerId}
    (waiting : (integration.resumeSetups listener).Waiting) :
    integration.Waiting := by
  obtain ⟨_, member, needs⟩ := waiting
  obtain ⟨entry, old, rfl⟩ := List.mem_map.mp member
  by_cases ensuring : entry.phase = .ensuring listener
  · exact ⟨entry, old, .inr (by simp [ensuring, EntryPhase.InSetup])⟩
  · rw [if_neg ensuring] at needs
    exact ⟨entry, old, needs⟩

theorem At.waiting {entryId : EntryId} {phase : EntryPhase}
    (located : integration.At entryId phase) (needs : phase.NeedsListener) :
    integration.Waiting :=
  ⟨_, located, needs⟩

/-- Changing one entry's point, from a point that needs the listener or to
one that does not, keeps the entries attended. -/
theorem Attended.setPhase (attended : integration.Attended)
    {entryId : EntryId} {phase : EntryPhase}
    (covered : phase.NeedsListener → integration.Waiting) :
    (integration.setPhase entryId phase).Attended := by
  intro waiting
  rcases waiting.of_setPhase with old | needs
  · exact attended old
  · exact attended (covered needs)

theorem Attended.asyncUnloadEntry (attended : integration.Attended)
    {entryId : EntryId} {unloaded : Bool}
    (keeps : integration.KeepsSetups listsUnloading
      (.platformsUnloaded entryId unloaded)) :
    (integration.asyncUnloadEntry listsUnloading entryId unloaded).Attended := by
  rcases integration.asyncUnloadEntry_cases listsUnloading entryId unloaded
    with ⟨alone, stops⟩ | keepsListener
  · rw [stops]
    rintro ⟨_, member, needs⟩
    obtain ⟨entry, old, rfl⟩ := List.mem_map.mp member
    by_cases same : entry.entryId = entryId
    · simp [same, EntryPhase.NeedsListener, EntryPhase.InSetup] at needs
    · simp only [same, if_false] at needs
      rcases needs with loaded | inSetup
      · exact absurd
          (alone entry (mem_asyncLoadedEntries_of_loaded old loaded)) same
      · exact absurd inSetup (keeps alone entry old same)
  · rw [keepsListener]
    exact attended.setPhase (by
      simp [EntryPhase.NeedsListener, EntryPhase.InSetup])

theorem Attended.fire (_attended : integration.Attended) {timer : TimerId}
    (keeps : integration.KeepsSetups listsUnloading (.fire timer)) :
    { integration with
      discovery :=
        (integration.discovery.retry timer
          (integration.asyncLoadedEntries listsUnloading ≠ [])).1
      }.Attended := by
  intro waiting
  by_cases noneLoaded : integration.asyncLoadedEntries listsUnloading = []
  · simp only [noneLoaded, ne_eq, not_true_eq_false, decide_false]
    cases slot : integration.discovery.discoveryListener with
    | some content =>
        left
        rw [DiscoveryState.retry_unloaded_discoveryListener, slot]
        rfl
    | none =>
        obtain ⟨entry, member, needs⟩ := waiting
        rcases needs with loaded | inSetup
        · have listed : entry ∈ integration.asyncLoadedEntries listsUnloading :=
            mem_asyncLoadedEntries_of_loaded member loaded
          simp [noneLoaded] at listed
        · exact absurd inSetup (keeps noneLoaded slot entry member)
  · simp only [ne_eq, noneLoaded, not_false_eq_true, decide_true]
    exact DiscoveryState.covers_retry_loaded timer

theorem Attended.step (attended : integration.Attended)
    (keeps : integration.KeepsSetups listsUnloading action)
    (stepped : lifecycleStep listsUnloading integration action = some next) :
    next.Attended := by
  cases action with
  | add entryId =>
      obtain ⟨-, ⟨⟩⟩ := Option.ite_none_left_eq_some.mp stepped
      rintro ⟨entry, member, needs⟩
      rcases List.mem_append.mp member with old | new
      · exact attended ⟨entry, old, needs⟩
      · rw [List.mem_singleton.mp new] at needs
        simp [EntryPhase.NeedsListener, EntryPhase.InSetup] at needs
  | setup entryId =>
      obtain ⟨-, ⟨⟩⟩ := Option.ite_none_right_eq_some.mp stepped
      intro _
      exact DiscoveryState.covers_asyncEnsureDiscoveryListener
  | started listener =>
      obtain ⟨-, ⟨⟩⟩ := Option.ite_none_right_eq_some.mp stepped
      intro waiting
      exact (attended waiting.of_resumeSetups).listenerStarted listener
  | failed listener =>
      obtain ⟨-, ⟨⟩⟩ := Option.ite_none_right_eq_some.mp stepped
      intro _
      exact DiscoveryState.covers_listenerFailed listener
  | refreshed entryId succeeded =>
      obtain ⟨located, ⟨⟩⟩ := Option.ite_none_right_eq_some.mp stepped
      exact attended.setPhase fun _ => located.waiting (.inr trivial)
  | unload entryId =>
      obtain ⟨-, ⟨⟩⟩ := Option.ite_none_right_eq_some.mp stepped
      exact attended.setPhase (by
        simp [EntryPhase.NeedsListener, EntryPhase.InSetup])
  | platformsUnloaded entryId unloaded =>
      obtain ⟨-, ⟨⟩⟩ := Option.ite_none_right_eq_some.mp stepped
      exact attended.asyncUnloadEntry keeps
  | left entryId unloaded =>
      obtain ⟨-, ⟨⟩⟩ := Option.ite_none_right_eq_some.mp stepped
      exact attended.setPhase (by
        cases unloaded <;> simp [EntryPhase.NeedsListener, EntryPhase.InSetup])
  | cancelSetupRetry entryId =>
      obtain ⟨-, ⟨⟩⟩ := Option.ite_none_right_eq_some.mp stepped
      exact attended.setPhase (by
        simp [EntryPhase.NeedsListener, EntryPhase.InSetup])
  | delete entryId =>
      obtain ⟨-, ⟨⟩⟩ := Option.ite_none_right_eq_some.mp stepped
      rintro ⟨entry, member, needs⟩
      exact attended ⟨entry, List.mem_of_mem_filter member, needs⟩
  | removed entryId =>
      obtain ⟨-, ⟨⟩⟩ := Option.ite_none_right_eq_some.mp stepped
      rcases asyncRemoveEntry_cases { integration with
          removing := integration.removing.erase entryId } with
        ⟨empty, stops⟩ | ⟨-, keeps⟩
      · rw [stops]
        rintro ⟨entry, member, -⟩
        rw [empty] at member
        cases member
      · rw [keeps]
        exact attended
  | fire timer =>
      obtain ⟨-, ⟨⟩⟩ := Option.ite_none_right_eq_some.mp stepped
      exact attended.fire keeps

theorem Attended.notStranded (attended : integration.Attended)
    (wellFormed : integration.discovery.WellFormed) :
    integration.NotStranded := by
  rintro ⟨entry, member, loaded⟩
  exact wellFormed.attended (attended ⟨entry, member, .inl loaded⟩)

/-- In a run whose unloads and timers spare the setups in progress, no loaded
entry is ever without rediscovery. -/
theorem notStranded_throughout (listsUnloading : Bool)
    {actions : List LifecycleAction}
    (meets : (lifecycleMachine listsUnloading).Meets
      (KeepsSetups listsUnloading) actions) :
    (lifecycleMachine listsUnloading).Throughout NotStranded actions := by
  intro before isPrefix state ran
  have attended : state.Attended :=
    Machine.invariant_of_meets (KeepsSetups listsUnloading) Attended
      (by rintro ⟨entry, member, -⟩; simp [lifecycleMachine, initial] at member)
      (fun held keeps stepped => held.step keeps stepped) ran
      (meets.of_prefix isPrefix)
  exact attended.notStranded (discovery_wellFormed ⟨before, ran⟩)

/-- The last loaded entry unloads before the next setup begins. -/
theorem notStranded_throughout_in_turn :
    (lifecycleMachine false).Throughout NotStranded
      [.add 0, .setup 0, .failed 0, .refreshed 0 true, .fire 0, .started 1,
        .unload 0, .platformsUnloaded 0 true, .add 1, .setup 1] :=
  notStranded_throughout false (Machine.meets_of_meetsFrom _ (by decide))

/-- The only loaded entry unloads while another one awaits its first refresh:
that entry ends up loaded with nothing left to rediscover its device. -/
theorem stranded_after_unload :
    (∃ final, (lifecycleMachine false).run
        [.add 0, .setup 0, .started 0, .refreshed 0 true, .add 1, .setup 1,
          .unload 0, .platformsUnloaded 0 true, .left 0 true,
          .refreshed 1 true] = some final ∧ ¬ final.NotStranded) ∧
      ∃ final, (lifecycleMachine true).run
        [.add 0, .setup 0, .started 0, .refreshed 0 true, .add 1, .setup 1,
          .unload 0, .platformsUnloaded 0 true, .left 0 true,
          .refreshed 1 true] = some final ∧ ¬ final.NotStranded := by
  exact ⟨⟨_, rfl, by decide⟩, ⟨_, rfl, by decide⟩⟩

/-! ## The condition is exact

A step that misses `KeepsSetups` leaves a setup in progress with nothing that
covers it.  Let every start still in flight complete, each of which finds the
slot gone and stops itself, and let the setup succeed. -/

/-- A setup waits only for a start that is in flight. -/
def AwaitsStarts (integration : Integration) : Prop :=
  ∀ entry ∈ integration.entries, ∀ listener,
    entry.phase = .ensuring listener →
      listener ∈ integration.discovery.starting

theorem AwaitsStarts.setPhase (awaits : integration.AwaitsStarts)
    {entryId : EntryId} {phase : EntryPhase}
    (settled : ∀ listener, phase = .ensuring listener →
      listener ∈ integration.discovery.starting) :
    (integration.setPhase entryId phase).AwaitsStarts := by
  intro entry member listener ensuring
  obtain ⟨old, oldMember, rfl⟩ := List.mem_map.mp member
  by_cases same : old.entryId = entryId
  · rw [if_pos same] at ensuring
    exact settled listener ensuring
  · rw [if_neg same] at ensuring
    exact awaits old oldMember listener ensuring

theorem AwaitsStarts.resumeSetups (awaits : integration.AwaitsStarts)
    {ended : ListenerId} {discovery : DiscoveryState}
    (starting : discovery.starting =
      integration.discovery.starting.erase ended) :
    ({ integration with discovery }.resumeSetups ended).AwaitsStarts := by
  intro entry member listener ensuring
  obtain ⟨old, oldMember, rfl⟩ := List.mem_map.mp member
  by_cases resumed : old.phase = .ensuring ended
  · simp [resumed] at ensuring
  · rw [if_neg resumed] at ensuring
    have different : listener ≠ ended := by
      rintro rfl
      exact resumed ensuring
    simp only [resumeSetups_discovery, starting]
    exact Finset.mem_erase.mpr
      ⟨different, awaits old oldMember listener ensuring⟩

/-- Keeping the entries and every start in flight keeps the setups' starts. -/
theorem AwaitsStarts.mono (awaits : integration.AwaitsStarts)
    (entries : ∀ entry ∈ next.entries, entry ∈ integration.entries ∨
      entry.phase = .notLoaded)
    (starting :
      integration.discovery.starting ⊆ next.discovery.starting) :
    next.AwaitsStarts := by
  intro entry member listener ensuring
  rcases entries entry member with old | fresh
  · exact starting (awaits entry old listener ensuring)
  · rw [fresh] at ensuring
    cases ensuring

theorem AwaitsStarts.step (awaits : integration.AwaitsStarts)
    (stepped : lifecycleStep listsUnloading integration action = some next) :
    next.AwaitsStarts := by
  cases action with
  | add entryId =>
      obtain ⟨-, ⟨⟩⟩ := Option.ite_none_left_eq_some.mp stepped
      refine awaits.mono ?_ (Finset.Subset.refl _)
      intro entry member
      rcases List.mem_append.mp member with old | new
      · exact .inl old
      · exact .inr (by rw [List.mem_singleton.mp new])
  | setup entryId =>
      obtain ⟨-, ⟨⟩⟩ := Option.ite_none_right_eq_some.mp stepped
      apply AwaitsStarts.setPhase
      · exact awaits.mono (fun _ member => .inl member)
          integration.discovery.starting_subset_asyncEnsureDiscoveryListener
      · intro listener ensuring
        apply DiscoveryState.mem_starting_of_asyncEnsureDiscoveryListener
        split at ensuring <;> simp_all
  | started listener =>
      obtain ⟨-, ⟨⟩⟩ := Option.ite_none_right_eq_some.mp stepped
      exact awaits.resumeSetups
        (integration.discovery.listenerStarted_starting listener)
  | failed listener =>
      obtain ⟨-, ⟨⟩⟩ := Option.ite_none_right_eq_some.mp stepped
      exact awaits.resumeSetups
        (integration.discovery.listenerFailed_starting listener)
  | refreshed entryId succeeded =>
      obtain ⟨-, ⟨⟩⟩ := Option.ite_none_right_eq_some.mp stepped
      exact awaits.setPhase (by cases succeeded <;> simp)
  | unload entryId =>
      obtain ⟨-, ⟨⟩⟩ := Option.ite_none_right_eq_some.mp stepped
      exact awaits.setPhase (by simp)
  | platformsUnloaded entryId unloaded =>
      obtain ⟨-, ⟨⟩⟩ := Option.ite_none_right_eq_some.mp stepped
      rcases integration.asyncUnloadEntry_cases listsUnloading entryId
        unloaded with ⟨-, stops⟩ | keeps
      · rw [stops]
        refine AwaitsStarts.setPhase ?_ (by simp)
        exact awaits.mono (fun _ member => .inl member) (by simp)
      · rw [keeps]
        exact awaits.setPhase (by simp)
  | left entryId unloaded =>
      obtain ⟨-, ⟨⟩⟩ := Option.ite_none_right_eq_some.mp stepped
      exact awaits.setPhase (by cases unloaded <;> simp)
  | cancelSetupRetry entryId =>
      obtain ⟨-, ⟨⟩⟩ := Option.ite_none_right_eq_some.mp stepped
      exact awaits.setPhase (by simp)
  | delete entryId =>
      obtain ⟨-, ⟨⟩⟩ := Option.ite_none_right_eq_some.mp stepped
      exact awaits.mono (fun _ member => .inl (List.mem_of_mem_filter member))
        (Finset.Subset.refl _)
  | removed entryId =>
      obtain ⟨-, ⟨⟩⟩ := Option.ite_none_right_eq_some.mp stepped
      rcases asyncRemoveEntry_cases { integration with
          removing := integration.removing.erase entryId } with
        ⟨-, stops⟩ | ⟨-, keeps⟩
      · rw [stops]
        exact awaits.mono (fun _ member => .inl member) (by simp)
      · rw [keeps]
        exact awaits
  | fire timer =>
      obtain ⟨-, ⟨⟩⟩ := Option.ite_none_right_eq_some.mp stepped
      exact awaits.mono (fun _ member => .inl member)
        (integration.discovery.starting_subset_retry timer _)

theorem awaitsStarts_of_reachable
    (reached : (lifecycleMachine listsUnloading).Reachable integration) :
    integration.AwaitsStarts :=
  reached.invariant AwaitsStarts
    (by simp [AwaitsStarts, lifecycleMachine, initial])
    (fun awaits stepped => awaits.step stepped)

/-- The starts in flight can complete one after the other, keeping what each
completion keeps. -/
theorem exists_startsEnded (listsUnloading : Bool)
    (property : Integration → Prop)
    (preserved : ∀ {current : Integration} {listener},
      property current → listener ∈ current.discovery.starting →
        property (resumeSetups listener
          { current with
            discovery := current.discovery.listenerStarted listener }))
    (held : property integration) :
    ∃ actions final,
      (lifecycleMachine listsUnloading).runFrom integration actions =
          some final ∧
        property final ∧ final.discovery.starting = ∅ := by
  generalize size : integration.discovery.starting.card = inFlight
  induction inFlight generalizing integration with
  | zero => exact ⟨[], integration, rfl, held, Finset.card_eq_zero.mp size⟩
  | succ inFlight ih =>
      obtain ⟨listener, pending⟩ : integration.discovery.starting.Nonempty :=
        Finset.card_pos.mp (by omega)
      obtain ⟨actions, final, ran, kept, ended⟩ :=
        ih (preserved held pending) (by
          rw [resumeSetups_discovery,
            DiscoveryState.listenerStarted_starting,
            Finset.card_erase_of_mem pending, size]
          omega)
      refine ⟨.started listener :: actions, final, ?_, kept, ended⟩
      simpa [Machine.runFrom, lifecycleMachine, lifecycleStep, pending]
        using ran

/-- A setup in progress that neither the slot nor a retry covers. -/
def Abandoned (integration : Integration) : Prop :=
  ¬ integration.discovery.Covers ∧
    ∃ entry ∈ integration.entries, entry.phase.InSetup

theorem Abandoned.started (abandoned : integration.Abandoned)
    (listener : ListenerId) :
    (resumeSetups listener
      { integration with
        discovery :=
          integration.discovery.listenerStarted listener }).Abandoned := by
  obtain ⟨uncovered, entry, member, inSetup⟩ := abandoned
  refine ⟨?_, ?_⟩
  · simp only [DiscoveryState.Covers, not_or, Option.not_isSome_iff_eq_none]
      at uncovered
    simp [DiscoveryState.Covers, DiscoveryState.listenerStarted,
      DiscoveryState.listenerStop, uncovered]
  · refine ⟨_, List.mem_map.mpr ⟨entry, member, rfl⟩, ?_⟩
    split
    · trivial
    · exact inSetup

/-- With no start in flight, an abandoned setup ends up loaded and stranded. -/
theorem Abandoned.strand (abandoned : integration.Abandoned)
    (listsUnloading : Bool) (wellFormed : integration.discovery.WellFormed)
    (awaits : integration.AwaitsStarts)
    (idle : integration.discovery.starting = ∅) :
    ∃ entryId final,
      lifecycleStep listsUnloading integration (.refreshed entryId true) =
          some final ∧
        ¬ final.NotStranded := by
  obtain ⟨uncovered, ⟨entryId, phase⟩, member, inSetup⟩ := abandoned
  simp only [DiscoveryState.Covers, not_or, Option.not_isSome_iff_eq_none]
    at uncovered
  obtain rfl : phase = .refreshing := by
    cases phase with
    | refreshing => rfl
    | ensuring listener =>
        have inFlight := awaits _ member listener rfl
        simp [idle] at inFlight
    | _ => exact inSetup.elim
  refine ⟨entryId, _, if_pos member, ?_⟩
  intro notStranded
  have covered := notStranded
    ⟨_, List.mem_map.mpr ⟨_, member, rfl⟩, by simp⟩
  simp only [setPhase_discovery, uncovered.1, idle] at covered
  rcases covered with ⟨_, _, stored⟩ | inFlight | ⟨timer, pending⟩
  · cases stored
  · exact absurd inFlight Finset.not_nonempty_empty
  · have handle := (wellFormed.timers_retry timer).mp pending
    simp [uncovered.2] at handle

theorem Abandoned.stranded (abandoned : integration.Abandoned)
    (wellFormed : integration.discovery.WellFormed)
    (awaits : integration.AwaitsStarts) :
    ∃ actions final,
      (lifecycleMachine listsUnloading).runFrom integration actions =
          some final ∧
        ¬ final.NotStranded := by
  obtain ⟨ending, ended, ranEnding, ⟨abandonedEnded, wellFormedEnded,
    awaitsEnded⟩, idle⟩ :=
      exists_startsEnded listsUnloading
        (fun current => current.Abandoned ∧ current.discovery.WellFormed ∧
          current.AwaitsStarts)
        (fun {current listener} ⟨abandoned, wellFormed, awaits⟩ pending =>
          ⟨abandoned.started listener, wellFormed.listenerStarted pending,
            awaits.resumeSetups
              (current.discovery.listenerStarted_starting listener)⟩)
        ⟨abandoned, wellFormed, awaits⟩
  obtain ⟨entryId, final, stepped, stranded⟩ :=
    abandonedEnded.strand listsUnloading wellFormedEnded awaitsEnded idle
  refine ⟨ending ++ [.refreshed entryId true], final, ?_, stranded⟩
  rw [Machine.runFrom_append, ranEnding]
  simp [Machine.runFrom, lifecycleMachine, stepped]

theorem abandoned_of_missed
    (missed : ¬ integration.KeepsSetups listsUnloading action)
    (stepped : lifecycleStep listsUnloading integration action = some next) :
    next.Abandoned := by
  cases action with
  | platformsUnloaded entryId unloaded =>
      obtain ⟨-, ⟨⟩⟩ := Option.ite_none_right_eq_some.mp stepped
      simp only [KeepsSetups, Classical.not_imp, not_forall, not_not]
        at missed
      obtain ⟨alone, entry, member, different, inSetup⟩ := missed
      rw [asyncUnloadEntry_of_alone alone]
      refine ⟨by simp [DiscoveryState.Covers], entry, ?_, inSetup⟩
      exact List.mem_map.mpr ⟨entry, member, if_neg different⟩
  | fire timer =>
      obtain ⟨pending, ⟨⟩⟩ := Option.ite_none_right_eq_some.mp stepped
      simp only [KeepsSetups, Classical.not_imp, not_forall, not_not]
        at missed
      obtain ⟨noneLoaded, slot, entry, member, inSetup⟩ := missed
      refine ⟨?_, entry, member, inSetup⟩
      simp [DiscoveryState.Covers, DiscoveryState.retry, noneLoaded, slot]
  | _ => exact absurd trivial missed

/-- Whenever a reachable step misses the condition, some continuation of the
run leaves a loaded entry stranded. -/
theorem stranded_of_missed
    (reached : (lifecycleMachine listsUnloading).Reachable integration)
    (missed : ¬ integration.KeepsSetups listsUnloading action)
    (stepped : lifecycleStep listsUnloading integration action = some next) :
    ∃ actions final,
      (lifecycleMachine listsUnloading).runFrom next actions = some final ∧
        ¬ final.NotStranded := by
  have reachedNext : (lifecycleMachine listsUnloading).Reachable next :=
    reached.step stepped
  exact (abandoned_of_missed missed stepped).stranded
    (discovery_wellFormed reachedNext) (awaitsStarts_of_reachable reachedNext)

end Integration

end Airfi
