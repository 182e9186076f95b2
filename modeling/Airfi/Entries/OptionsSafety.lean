import Airfi.Coordinator.ExtensionBatch
import Airfi.Entries.Options
import Airfi.Modbus.Session

/-!
# The Modbus id changes only to an id that answered

A submission with the current id is saved in the step that compares the two.
Any other one is saved after its own probe, which was sent to exactly the id
that it saves, and announcements keep what the id is read from.
-/

namespace Airfi

/-! ## Probes -/

/-- The `except` clauses of `_async_validate_modbus_id`. -/
def validationError : Except PyError Nat → Except PyError (Option String)
  | .ok _ => .ok none
  | .error (.airfiConnectionError _) => .ok (some "cannot_connect")
  | .error (.airfiModbusError _) => .ok (some "no_response")
  | .error error => .error error

theorem asyncValidateModbusId_runWith {σ : Type}
    (handler : σ → (effect : ClientEffect) → ClientAnswer effect × σ)
    (client : AirfiModbusClient) (deviceId : Option Nat) (state : σ) :
    ((asyncValidateModbusId client deviceId).runWith handler state).1 =
      validationError
        ((client.readInputRegister 1 deviceId).runWith handler state).1 := by
  rw [asyncValidateModbusId, Coroutine.bind_eq, Coroutine.runWith_bind,
    Coroutine.runWith_outcome]
  rcases (client.readInputRegister 1 deviceId).runWith handler state with
    ⟨error | value, ended⟩
  · cases error <;> rfl
  · rfl

namespace OptionsProbe

variable {probe : OptionsProbe} {answers : ProbeAnswers}

theorem error_eq (probe : OptionsProbe) (answers : ProbeAnswers) :
    probe.error answers = validationError (probe.reading answers) :=
  asyncValidateModbusId_runWith answers.handler probe.client probe.deviceId ()

theorem reading_of_accepted (accepted : probe.error answers = .ok none) :
    ∃ value, probe.reading answers = .ok value := by
  rw [error_eq] at accepted
  cases read : probe.reading answers with
  | ok value => exact ⟨value, rfl⟩
  | error raised =>
      rw [read] at accepted
      cases raised <;> cases accepted

theorem error_of_handled {raised : PyError} (handled : raised.Handled)
    (read : probe.reading answers = .error raised) :
    ∃ text, probe.error answers = .ok (some text) := by
  rw [error_eq, read]
  cases raised with
  | airfiConnectionError text => exact ⟨_, rfl⟩
  | airfiModbusError text => exact ⟨_, rfl⟩
  | _ => exact handled.elim

/-- A reading was answered with a register by the id that was asked. -/
theorem answered_of_reading {value : Nat}
    (read : probe.reading answers = .ok value) :
    ∃ rest, answers (.request (.readRegisters .input 1 1 probe.askedId)) =
      ModbusReply.registers (value :: rest) := by
  have asked : ((probe.client.session (readInputRegisterBody probe.client 1
      probe.deviceId)).runWith answers.handler ()).1 = .ok value := read
  obtain ⟨_, _, _, -, -, ran⟩ := session_ok answers.handler _ asked
  rw [readInputRegisterBody_runWith] at ran
  exact exists_registers_of_ok (Prod.mk.inj ran).1

end OptionsProbe

/-! ## What a step does to the setups -/

namespace OptionsState

variable {state next : OptionsState} {action : OptionsAction}

/-- What a step can do to the entries: nothing, what the rest of the
integration does, or one of the two saves. -/
inductive SetupChange (state : OptionsState) :
    OptionsAction → SetupState → Prop where
  | kept {action : OptionsAction} : SetupChange state action state.setup
  | other {action : SetupAction} {setup : SetupState}
      (notSaving : action.NotSaving)
      (stepped : state.setup.step action = some setup) :
      SetupChange state (.setup action) setup
  | savedCurrent {form : FlowId} {entered input : EntryOptions}
      {entry : ConfigEntry} {setup : SetupState}
      (member : entry ∈ state.setup.flows.entries)
      (current : input.modbusId = some entry.currentModbusId)
      (stepped : state.setup.step (.flow (.saveOptions entry.entryId input)) =
        some setup) :
      SetupChange state (.submit form entered) setup
  | savedProbed {id : ProbeId} {answers : ProbeAnswers}
      {probe : OptionsProbe} {setup : SetupState}
      (suspended : state.probes id = some probe)
      (accepted : probe.error answers = .ok none)
      (stepped : state.setup.step
        (.flow (.saveOptions probe.entryId probe.input)) = some setup) :
      SetupChange state (.probed id answers) setup

theorem createEntry_eq {form : FlowId} {id : EntryId} {input : EntryOptions}
    (created : state.createEntry form id input = some next) :
    state.setup.step (.flow (.saveOptions id input)) = some next.setup ∧
      next.probes = state.probes := by
  rw [createEntry] at created
  split at created
  case h_1 setup stepped =>
    cases created
    exact ⟨stepped, rfl⟩
  case h_2 => cases created

theorem entry?_eq {id : EntryId} {entry : ConfigEntry}
    (found : state.entry? id = some entry) :
    entry ∈ state.setup.flows.entries ∧ entry.entryId = id := by
  have matched := List.find?_some found
  exact ⟨List.mem_of_find?_eq_some found, of_decide_eq_true matched⟩

theorem asyncStepInit_change {form : FlowId} {entered input : EntryOptions}
    {entry : ConfigEntry} (member : entry ∈ state.setup.flows.entries)
    (filled : input.modbusId.isSome)
    (stepped : state.asyncStepInit form entry input = some next) :
    SetupChange state (.submit form entered) next.setup := by
  obtain ⟨modbusId, given⟩ := Option.isSome_iff_exists.mp filled
  rw [asyncStepInit, given, Option.getD_some] at stepped
  split at stepped
  case isTrue =>
    split at stepped
    case h_1 =>
      cases stepped
      exact .kept
    case h_2 =>
      cases stepped
      exact .kept
  case isFalse same =>
    rw [ne_eq, not_not] at same
    exact .savedCurrent member (given.trans (congrArg some same))
      (createEntry_eq stepped).1

theorem finishProbe_change {id : ProbeId} {answers : ProbeAnswers}
    {probe : OptionsProbe} {error : Option String}
    (suspended : state.probes id = some probe)
    (ended : probe.error answers = .ok error)
    (stepped : (state.setProbe id none).finishProbe probe error =
      some next) :
    SetupChange state (.probed id answers) next.setup := by
  cases error with
  | none =>
      rw [finishProbe] at stepped
      split at stepped
      case h_1 =>
        exact .savedProbed suspended ended (createEntry_eq stepped).1
      case h_2 =>
        cases stepped
        exact .kept
  | some text =>
      rw [finishProbe] at stepped
      split at stepped <;> cases stepped <;> exact .kept

theorem change_of_step (stepped : state.step action = some next) :
    SetupChange state action next.setup := by
  cases action with
  | setup action =>
      obtain ⟨notSaving, stepped⟩ :=
        Option.ite_none_right_eq_some.mp stepped
      split at stepped
      case h_1 setup setupStepped =>
        cases stepped
        exact .other notSaving setupStepped
      case h_2 => cases stepped
  | openForm id =>
      rw [OptionsState.step] at stepped
      split at stepped <;> cases stepped
      exact .kept
  | closeForm id =>
      rw [OptionsState.step] at stepped
      split at stepped <;> cases stepped
      exact .kept
  | submit id entered =>
      rw [OptionsState.step] at stepped
      split at stepped
      case h_1 form found =>
        split at stepped
        case h_1 entry foundEntry =>
          exact asyncStepInit_change (entry?_eq foundEntry).1 rfl stepped
        case h_2 => cases stepped
      case h_2 => cases stepped
  | probed id answers =>
      rw [OptionsState.step] at stepped
      split at stepped
      case h_1 probe suspended =>
        split at stepped
        case h_1 error ended =>
          exact finishProbe_change suspended ended stepped
        case h_2 =>
          cases stepped
          exact .kept
      case h_2 => cases stepped

theorem setup_reachable (reached : optionsMachine.Reachable state) :
    setupMachine.Reachable state.setup := by
  apply reached.project OptionsState.setup
  · exact Machine.reachable_init
  · intro state action next stepped reachedSetup
    have change := change_of_step stepped
    generalize next.setup = setup at change ⊢
    have following : ∀ {setupAction},
        state.setup.step setupAction = some setup →
          setupMachine.Reachable setup :=
      fun {setupAction} setupStepped =>
        @Machine.Reachable.step _ _ setupMachine _ _ setupAction reachedSetup
          setupStepped
    cases change with
    | kept => exact reachedSetup
    | other _ setupStepped => exact following setupStepped
    | savedCurrent _ _ setupStepped => exact following setupStepped
    | savedProbed _ _ setupStepped => exact following setupStepped

/-! ## Probes ask for what they save -/

/-- A suspended submission saves the id that its probe is sent to. -/
def AsksWhatItSaves (state : OptionsState) : Prop :=
  ∀ id probe, state.probes id = some probe →
    probe.input.modbusId = some probe.askedId

theorem AsksWhatItSaves.congr (asks : state.AsksWhatItSaves)
    (same : next.probes = state.probes) : next.AsksWhatItSaves := by
  rw [AsksWhatItSaves, same]
  exact asks

theorem AsksWhatItSaves.setProbe (asks : state.AsksWhatItSaves)
    {id : ProbeId} {probe : Option OptionsProbe}
    (asksNew : ∀ new, probe = some new →
      new.input.modbusId = some new.askedId) :
    (state.setProbe id probe).AsksWhatItSaves := by
  intro other found suspended
  by_cases same : other = id
  · have replaced : (state.setProbe id probe).probes id = probe :=
      Function.update_self ..
    rw [same, replaced] at suspended
    exact asksNew found suspended
  · have kept : (state.setProbe id probe).probes other = state.probes other :=
      Function.update_of_ne same ..
    rw [kept] at suspended
    exact asks other found suspended

theorem askedId_of_probeClient {entry : ConfigEntry} {modbusId : Nat}
    {client : AirfiModbusClient} {deviceId : Option Nat}
    (chosen : state.probeClient entry modbusId = some (client, deviceId)) :
    deviceId.getD client.deviceId = modbusId := by
  rw [probeClient] at chosen
  split at chosen
  case h_1 =>
    cases chosen
    rfl
  case h_2 =>
    obtain ⟨built, builtEq, pair⟩ := Option.map_eq_some_iff.mp chosen
    cases pair
    rw [ConfigEntry.clientWith] at builtEq
    obtain ⟨port, -, rfl⟩ := Option.map_eq_some_iff.mp builtEq
    rfl

theorem AsksWhatItSaves.asyncStepInit (asks : state.AsksWhatItSaves)
    {form : FlowId} {entry : ConfigEntry} {input : EntryOptions}
    (filled : input.modbusId.isSome)
    (stepped : state.asyncStepInit form entry input = some next) :
    next.AsksWhatItSaves := by
  obtain ⟨modbusId, given⟩ := Option.isSome_iff_exists.mp filled
  rw [OptionsState.asyncStepInit, given, Option.getD_some] at stepped
  split at stepped
  case isTrue =>
    split at stepped
    case h_1 client deviceId chosen =>
      cases stepped
      have asked := askedId_of_probeClient chosen
      refine AsksWhatItSaves.congr (asks.setProbe ?_) rfl
      rintro new ⟨⟩
      rw [given]
      exact congrArg some asked.symm
    case h_2 =>
      cases stepped
      exact asks
  case isFalse => exact asks.congr (createEntry_eq stepped).2

theorem AsksWhatItSaves.finishProbe (asks : state.AsksWhatItSaves)
    {probe : OptionsProbe} {error : Option String}
    (stepped : state.finishProbe probe error = some next) :
    next.AsksWhatItSaves := by
  cases error with
  | none =>
      rw [OptionsState.finishProbe] at stepped
      split at stepped
      case h_1 => exact asks.congr (createEntry_eq stepped).2
      case h_2 =>
        cases stepped
        exact asks
  | some text =>
      rw [OptionsState.finishProbe] at stepped
      split at stepped <;> cases stepped <;> exact asks

theorem AsksWhatItSaves.step (asks : state.AsksWhatItSaves)
    (stepped : state.step action = some next) : next.AsksWhatItSaves := by
  cases action with
  | setup action =>
      obtain ⟨-, stepped⟩ := Option.ite_none_right_eq_some.mp stepped
      split at stepped <;> cases stepped
      exact asks
  | openForm id =>
      rw [OptionsState.step] at stepped
      split at stepped <;> cases stepped
      exact asks
  | closeForm id =>
      rw [OptionsState.step] at stepped
      split at stepped <;> cases stepped
      exact asks
  | submit id entered =>
      rw [OptionsState.step] at stepped
      split at stepped
      case h_1 form found =>
        split at stepped
        case h_1 => exact asks.asyncStepInit rfl stepped
        case h_2 => cases stepped
      case h_2 => cases stepped
  | probed id answers =>
      have forgotten : (state.setProbe id none).AsksWhatItSaves :=
        asks.setProbe (by simp)
      rw [OptionsState.step] at stepped
      split at stepped
      case h_1 =>
        split at stepped
        case h_1 => exact forgotten.finishProbe stepped
        case h_2 =>
          cases stepped
          exact forgotten
      case h_2 => cases stepped

theorem asksWhatItSaves_of_reachable
    (reached : optionsMachine.Reachable state) : state.AsksWhatItSaves :=
  reached.invariant AsksWhatItSaves
    (fun _ _ suspended => nomatch suspended)
    fun asks stepped => asks.step stepped

end OptionsState

/-! ## The id of an entry -/

theorem OneChanged.currentModbusId {entries later : List ConfigEntry}
    (oneChanged : OneChanged entries later) {after : ConfigEntry}
    (afterMember : after ∈ later) :
    ∃ before ∈ entries, before.entryId = after.entryId ∧
      after.currentModbusId = before.currentModbusId := by
  obtain ⟨change, rfl, kept, -⟩ := oneChanged
  obtain ⟨before, member, rfl⟩ := List.mem_map.mp afterMember
  obtain ⟨sameId, -, sameModbusId, sameOptions⟩ := kept before member
  refine ⟨before, member, sameId.symm, ?_⟩
  rw [ConfigEntry.currentModbusId, sameModbusId, sameOptions]
  rfl

namespace SetupState

variable {state next : SetupState} {action : SetupAction}
  {entry after : ConfigEntry}

/-- The entries after a step of the flows, which nothing else changes. -/
theorem entries_of_step (stepped : state.step action = some next) :
    next.flows.entries = state.flows.entries ∨
      ∃ flowAction, action = .flow flowAction ∧
        state.flows.step flowAction = some next.flows := by
  cases action with
  | flow action =>
      rw [SetupState.step] at stepped
      split at stepped <;> cases stepped
      case h_1 flows flowStepped =>
        right
        rw [scheduleReload_flows]
        exact ⟨action, rfl, flowStepped⟩
  | entry id action =>
      rw [SetupState.step] at stepped
      split at stepped
      case h_1 =>
        split at stepped <;> cases stepped
        exact .inl rfl
      case h_2 => cases stepped

theorem currentModbusId_of_notSaving (coherent : state.flows.Coherent)
    (notSaving : action.NotSaving)
    (stepped : state.step action = some next)
    (member : entry ∈ state.flows.entries)
    (afterMember : after ∈ next.flows.entries)
    (same : after.entryId = entry.entryId) :
    after.currentModbusId = entry.currentModbusId := by
  have unchanged : ∀ found ∈ state.flows.entries,
      found.entryId = after.entryId →
        found.currentModbusId = entry.currentModbusId := by
    intro found foundMember foundSame
    rw [coherent.entries.eq_of_entryId foundMember member
      (foundSame.trans same)]
  rcases entries_of_step stepped with
    kept | ⟨flowAction, rfl, flowStepped⟩
  · rw [kept] at afterMember
    exact unchanged after afterMember rfl
  · generalize next.flows = flows at flowStepped afterMember
    cases FlowState.stepped_of_step flowStepped with
    | moved moves =>
        rw [moves.same_entries.1] at afterMember
        exact unchanged after afterMember rfl
    | submitted found unmatched free unconfigured =>
        exact unchanged after afterMember rfl
    | created origin =>
        rcases List.mem_append.mp afterMember with old | new
        · exact unchanged after old rfl
        · rw [List.mem_singleton] at new
          have known := coherent.known entry member
          rw [← same, new] at known
          exact absurd known (Nat.lt_irrefl _)
    | saved => exact notSaving.elim
    | announced =>
        obtain ⟨before, beforeMember, sameId, kept⟩ :=
          (coherent.entries.announced_oneChanged
            (handleAnnouncement_announced _ _)).currentModbusId afterMember
        rw [kept]
        exact unchanged before beforeMember sameId

/-- A save replaces the options of one entry. -/
theorem entry_of_saveOptions (coherent : state.flows.Coherent) {id : EntryId}
    {options : EntryOptions}
    (stepped : state.step (.flow (.saveOptions id options)) = some next)
    (member : entry ∈ state.flows.entries)
    (afterMember : after ∈ next.flows.entries)
    (same : after.entryId = entry.entryId) :
    after = entry ∨ entry.entryId = id ∧ after = entry.saveOptions options := by
  rw [SetupState.step] at stepped
  cases stepped
  rw [scheduleReload_flows] at afterMember
  obtain ⟨before, beforeMember, rfl⟩ := mem_updateEntry.mp afterMember
  have sameId : before.entryId = entry.entryId := by
    rw [← same]
    split <;> rfl
  obtain rfl :=
    coherent.entries.eq_of_entryId beforeMember member sameId
  split
  case isTrue here => exact .inr ⟨here, rfl⟩
  case isFalse => exact .inl rfl

end SetupState

/-- What made a new Modbus id effective: a submission with the id whose own
probe was sent to it and answered. -/
def ProbedAndSaved (state : OptionsState) (action : OptionsAction)
    (after : ConfigEntry) : Prop :=
  ∃ id answers probe value rest,
    action = .probed id answers ∧ state.probes id = some probe ∧
      probe.entryId = after.entryId ∧ after.options = probe.input ∧
      probe.input.modbusId = some after.currentModbusId ∧
      probe.reading answers = .ok value ∧
      probe.askedId = after.currentModbusId ∧
      answers (.request
        (.readRegisters .input 1 1 after.currentModbusId)) =
          ModbusReply.registers (value :: rest)

theorem OptionsState.probedAndSaved_of_changed
    {state next : OptionsState} {action : OptionsAction}
    (reached : optionsMachine.Reachable state)
    (stepped : state.step action = some next) {entry after : ConfigEntry}
    (member : entry ∈ state.setup.flows.entries)
    (afterMember : after ∈ next.setup.flows.entries)
    (same : after.entryId = entry.entryId)
    (changed : after.currentModbusId ≠ entry.currentModbusId) :
    ProbedAndSaved state action after := by
  have coherent : state.setup.flows.Coherent :=
    (SetupState.current_of_reachable (setup_reachable reached)).coherent
  have asks := asksWhatItSaves_of_reachable reached
  have change := change_of_step stepped
  generalize next.setup = setup at change afterMember
  cases change with
  | kept =>
      rw [coherent.entries.eq_of_entryId afterMember member same] at changed
      exact absurd rfl changed
  | other notSaving setupStepped =>
      exact absurd (SetupState.currentModbusId_of_notSaving coherent notSaving
        setupStepped member afterMember same) changed
  | @savedCurrent form entered input saved _ savedMember current
      setupStepped =>
      rcases SetupState.entry_of_saveOptions coherent setupStepped member
        afterMember same with rfl | ⟨here, rfl⟩
      · exact absurd rfl changed
      · obtain rfl :=
          coherent.entries.eq_of_entryId member savedMember here
        rw [ConfigEntry.currentModbusId, ConfigEntry.saveOptions,
          current] at changed
        exact absurd rfl changed
  | @savedProbed id answers probe _ suspended accepted setupStepped =>
      rcases SetupState.entry_of_saveOptions coherent setupStepped member
        afterMember same with rfl | ⟨here, rfl⟩
      · exact absurd rfl changed
      · obtain ⟨value, read⟩ := OptionsProbe.reading_of_accepted accepted
        obtain ⟨rest, answered⟩ := OptionsProbe.answered_of_reading read
        have asked := asks id probe suspended
        have effective : probe.askedId =
            (entry.saveOptions probe.input).currentModbusId := by
          rw [ConfigEntry.currentModbusId, ConfigEntry.saveOptions, asked]
          rfl
        rw [effective] at asked answered
        exact ⟨id, answers, probe, value, rest, rfl, suspended, here.symm,
          rfl, asked, read, effective, answered⟩

/-- The entries are left alone by a submission whose probe has failed. -/
theorem OptionsState.setup_of_failed_probe {state next : OptionsState}
    {id : ProbeId} {answers : ProbeAnswers} {probe : OptionsProbe}
    {error : PyError} (suspended : state.probes id = some probe)
    (stepped : state.step (.probed id answers) = some next)
    (handled : error.Handled) (read : probe.reading answers = .error error) :
    next.setup = state.setup := by
  obtain ⟨text, ended⟩ := OptionsProbe.error_of_handled handled read
  rw [OptionsState.step, suspended] at stepped
  simp only [ended] at stepped
  rw [finishProbe] at stepped
  split at stepped <;> cases stepped <;> rfl

/-- The effective Modbus id of an entry changes only in a step that saves a
submission whose own probe with exactly the new id was answered; a probe that
fails leaves the options as they are. -/
theorem modbusId_changes_to_answered {actions : List OptionsAction}
    {state next : OptionsState} {action : OptionsAction}
    (ran : optionsMachine.run actions = some state)
    (stepped : optionsMachine.step state action = some next) :
    (∀ entry ∈ state.setup.flows.entries,
      ∀ after ∈ next.setup.flows.entries, after.entryId = entry.entryId →
        after.currentModbusId ≠ entry.currentModbusId →
          ProbedAndSaved state action after) ∧
      ∀ id answers probe error, action = .probed id answers →
        state.probes id = some probe → error.Handled →
          probe.reading answers = .error error →
            next.setup.flows.entries = state.setup.flows.entries := by
  constructor
  · intro entry member after afterMember same changed
    exact OptionsState.probedAndSaved_of_changed ⟨actions, ran⟩ stepped
      member afterMember same changed
  · rintro id answers probe error rfl suspended handled read
    rw [OptionsState.setup_of_failed_probe suspended stepped handled read]

/-- A probe whose request is answered so. -/
def probeAnswers (reply : ModbusReply) : ProbeAnswers
  | .acquireLock => LockReply.acquired
  | .connect => ConnectReply.returned true
  | .request _ => reply
  | .close => ()
  | .releaseLock => ()

/-- The options flow of a loaded entry asks for another id, and the entry
moves while the probe is suspended. -/
def changedId : List OptionsAction :=
  (selectAndManual.map .flow).map .setup ++
    [.setup (.entry 0 .setup), .setup (.entry 0 .construct),
      .setup (.entry 0 (.refreshed true)),
      .setup (.entry 0 (.platformsSetUp true)), .openForm 0,
      .submit 0 { scanInterval := none, modbusId := some 5 },
      .setup (.flow (.announce (announcement 7 "10.0.0.17")))]

theorem modbusId_changes_to_answered_changed_id :
    ∃ state next,
      optionsMachine.run changedId = some state ∧
      optionsMachine.step state (.probed 0 (probeAnswers (.registers [10]))) =
        some next ∧
      (state.entry? 0).map ConfigEntry.currentModbusId = some 1 ∧
      (next.entry? 0).map ConfigEntry.currentModbusId = some 5 ∧
      (∀ entry ∈ state.setup.flows.entries,
        ∀ after ∈ next.setup.flows.entries, after.entryId = entry.entryId →
          after.currentModbusId ≠ entry.currentModbusId →
            ProbedAndSaved state
              (.probed 0 (probeAnswers (.registers [10]))) after) ∧
        ∀ id answers probe error,
          OptionsAction.probed 0 (probeAnswers (.registers [10])) =
              .probed id answers →
            state.probes id = some probe → error.Handled →
              probe.reading answers = .error error →
                next.setup.flows.entries = state.setup.flows.entries := by
  have finishes : (optionsMachine.run changedId).isSome := rfl
  obtain ⟨state, ran⟩ := Option.isSome_iff_exists.mp finishes
  have goesOn : ∃ next, optionsMachine.step state
        (.probed 0 (probeAnswers (.registers [10]))) = some next ∧
      (state.entry? 0).map ConfigEntry.currentModbusId = some 1 ∧
      (next.entry? 0).map ConfigEntry.currentModbusId = some 5 := by
    cases ran
    exact ⟨_, rfl, rfl, rfl⟩
  obtain ⟨next, stepped, before, after⟩ := goesOn
  exact ⟨state, next, ran, stepped, before, after,
    modbusId_changes_to_answered ran stepped⟩

end Airfi
