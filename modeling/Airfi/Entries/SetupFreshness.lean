import Airfi.Entries.Coherence
import Airfi.Entries.Setup

/-!
# Loaded entries use their current endpoint

Whatever changes an entry schedules a reload of it, and a setup reads the
entry when it constructs the coordinator.  So the client of a setup in
progress or of a loaded entry is the one that the entry gives now, as long as
no reload is pending.
-/

namespace Airfi

/-! ## One entry -/

namespace EntryRuntime

variable {entry : ConfigEntry} {runtime next : EntryRuntime}
  {action : RuntimeAction}

/-- Without a pending reload, the client is the one that the entry gives. -/
def UpToDate (entry : ConfigEntry) (runtime : EntryRuntime) : Prop :=
  runtime.pendingReloads = 0 →
    ∀ client, runtime.stage.client? = some client →
      entry.client = some client

theorem upToDate_of_no_client (absent : runtime.stage.client? = none) :
    runtime.UpToDate entry := by
  intro _ client held
  rw [absent] at held
  cases held

theorem upToDate_scheduleReload : runtime.scheduleReload.UpToDate entry :=
  fun none_pending => absurd none_pending (Nat.succ_ne_zero _)

/-- A task that goes on with the same client stays up to date. -/
theorem UpToDate.keep (upToDate : runtime.UpToDate entry)
    (pending : next.pendingReloads = runtime.pendingReloads)
    (client : next.stage.client? = runtime.stage.client?) :
    next.UpToDate entry := by
  rw [UpToDate, pending, client]
  exact upToDate

theorem UpToDate.step (upToDate : runtime.UpToDate entry)
    (stepped : runtime.step entry action = some next) :
    next.UpToDate entry := by
  cases change_of_step stepped with
  | constructed stage given =>
      rintro _ client ⟨⟩
      exact given
  | refreshed stage => exact upToDate.keep rfl (by rw [stage]; rfl)
  | loaded stage => exact upToDate.keep rfl (by rw [stage]; rfl)
  | scheduled => exact upToDate_scheduleReload
  | refused pending stage =>
      apply upToDate_of_no_client
      rw [stage]
      rfl
  | _ => exact upToDate_of_no_client rfl

end EntryRuntime

/-! ## What changes an entry -/

theorem Announced.unchanged {entries : List ConfigEntry}
    {device : DiscoveredDevice}
    {result : List ConfigEntry × Option EntryId} {after : ConfigEntry}
    (announced : Announced entries device result)
    (found : after ∈ result.1) :
    after ∈ entries ∨ result.2 = some after.entryId := by
  cases announced with
  | there member identified here => exact .inl found
  | unmatched unknown none_upgradable => exact .inl found
  | moved member identified elsewhere =>
      obtain ⟨before, beforeMember, rfl⟩ := mem_updateEntry.mp found
      split
      case isTrue same => exact .inr (congrArg some same.symm)
      case isFalse => exact .inl beforeMember
  | upgraded member unknown upgradable =>
      obtain ⟨before, beforeMember, rfl⟩ := mem_updateEntry.mp found
      split
      case isTrue same => exact .inr (congrArg some same.symm)
      case isFalse => exact .inl beforeMember

namespace FlowState

variable {state next : FlowState} {action : FlowAction}

theorem FlowMoves.same_entries (moves : FlowMoves state next) :
    next.entries = state.entries ∧ next.nextEntry = state.nextEntry := by
  cases moves with
  | opened => exact ⟨rfl, rfl⟩
  | dropped id => exact ⟨rfl, rfl⟩
  | unchanged => exact ⟨rfl, rfl⟩
  | went found settled => exact ⟨rfl, rfl⟩

/-- An entry is as it was, scheduled for a reload, or new. -/
theorem entry_of_step (stepped : state.step action = some next)
    {entry : ConfigEntry} (member : entry ∈ next.entries) :
    entry ∈ state.entries ∨
      scheduledReload state.entries action = some entry.entryId ∨
      entry.entryId = state.nextEntry := by
  cases stepped_of_step stepped with
  | moved moves =>
      rw [moves.same_entries.1] at member
      exact .inl member
  | submitted found unmatched free unconfigured => exact .inl member
  | created origin =>
      rcases List.mem_append.mp member with old | new
      · exact .inl old
      · rw [List.mem_singleton] at new
        rw [new]
        exact .inr (.inr rfl)
  | saved =>
      obtain ⟨before, beforeMember, rfl⟩ := mem_updateEntry.mp member
      split
      case isFalse => exact .inl beforeMember
      case isTrue options same =>
        by_cases unchanged : before.options = options
        · left
          rw [ConfigEntry.saveOptions, ← unchanged]
          exact beforeMember
        · right
          left
          rw [scheduledReload, if_pos ⟨before, beforeMember, same, unchanged⟩]
          exact congrArg some same.symm
  | announced =>
      rcases (handleAnnouncement_announced _ _).unchanged member with
        old | scheduled
      · exact .inl old
      · exact .inr (.inl scheduled)

theorem nextEntry_le_of_step (stepped : state.step action = some next) :
    state.nextEntry ≤ next.nextEntry := by
  cases stepped_of_step stepped with
  | moved moves => exact Nat.le_of_eq moves.same_entries.2.symm
  | submitted found unmatched free unconfigured => exact Nat.le_refl _
  | created origin => exact Nat.le_succ _
  | saved => exact Nat.le_refl _
  | announced => exact Nat.le_refl _

end FlowState

/-! ## All entries -/

namespace SetupState

variable {state next : SetupState} {action : SetupAction}

/-- Every runtime is up to date with its entry, and an entry that does not
exist yet is not loaded. -/
structure Current (state : SetupState) : Prop where
  coherent : state.flows.Coherent
  unknown : ∀ id, state.flows.nextEntry ≤ id →
    (state.runtimes id).stage = .notLoaded
  upToDate : ∀ entry ∈ state.flows.entries,
    (state.runtimes entry.entryId).UpToDate entry

theorem current_initial : initial.Current where
  coherent := FlowState.coherent_initial
  unknown := fun _ _ => rfl
  upToDate := fun _ member => absurd member List.not_mem_nil

@[simp] theorem scheduleReload_flows (scheduled : Option EntryId) :
    (state.scheduleReload scheduled).flows = state.flows := by
  cases scheduled <;> rfl

theorem scheduleReload_self (id : EntryId) :
    (state.scheduleReload (some id)).runtimes id =
      (state.runtimes id).scheduleReload :=
  Function.update_self ..

theorem scheduleReload_stage (scheduled : Option EntryId) (id : EntryId) :
    ((state.scheduleReload scheduled).runtimes id).stage =
      (state.runtimes id).stage := by
  cases scheduled with
  | none => rfl
  | some other =>
      by_cases same : id = other
      · rw [same, scheduleReload_self]
        rfl
      · exact congrArg EntryRuntime.stage (Function.update_of_ne same ..)

theorem upToDate_scheduleReload {scheduled : Option EntryId}
    {entry : ConfigEntry}
    (upToDate : (state.runtimes entry.entryId).UpToDate entry) :
    ((state.scheduleReload scheduled).runtimes entry.entryId).UpToDate
      entry := by
  cases scheduled with
  | none => exact upToDate
  | some other =>
      by_cases same : entry.entryId = other
      · rw [← same, scheduleReload_self]
        exact EntryRuntime.upToDate_scheduleReload
      · have kept :
            (state.scheduleReload (some other)).runtimes entry.entryId =
              state.runtimes entry.entryId :=
          Function.update_of_ne same ..
        rw [kept]
        exact upToDate

theorem Current.flow (current : state.Current) {action : FlowAction}
    {flows : FlowState} (stepped : state.flows.step action = some flows) :
    ({ state with flows }.scheduleReload
      (scheduledReload state.flows.entries action)).Current where
  coherent := by
    rw [scheduleReload_flows]
    exact current.coherent.step stepped
  unknown := by
    intro id beyond
    rw [scheduleReload_flows] at beyond
    rw [scheduleReload_stage]
    exact current.unknown id
      (Nat.le_trans (FlowState.nextEntry_le_of_step stepped) beyond)
  upToDate := by
    intro entry member
    rw [scheduleReload_flows] at member
    rcases FlowState.entry_of_step stepped member with
      old | scheduled | fresh
    · exact upToDate_scheduleReload (current.upToDate entry old)
    · rw [scheduled, scheduleReload_self]
      exact EntryRuntime.upToDate_scheduleReload
    · apply upToDate_scheduleReload
      apply EntryRuntime.upToDate_of_no_client
      rw [current.unknown entry.entryId (Nat.le_of_eq fresh.symm)]
      rfl

theorem Current.entry (current : state.Current) {entry : ConfigEntry}
    (member : entry ∈ state.flows.entries) {action : RuntimeAction}
    {runtime : EntryRuntime}
    (stepped : (state.runtimes entry.entryId).step entry action =
      some runtime) :
    (state.setRuntime entry.entryId runtime).Current where
  coherent := current.coherent
  unknown := by
    intro id beyond
    have different : id ≠ entry.entryId :=
      (Nat.ne_of_lt (Nat.lt_of_lt_of_le
        (current.coherent.known entry member) beyond)).symm
    have kept : (state.setRuntime entry.entryId runtime).runtimes id =
        state.runtimes id :=
      Function.update_of_ne different ..
    rw [kept]
    exact current.unknown id beyond
  upToDate := by
    intro other otherMember
    by_cases same : other.entryId = entry.entryId
    · have equal := current.coherent.entries.eq_of_entryId otherMember
        member same
      have changed :
          (state.setRuntime entry.entryId runtime).runtimes entry.entryId =
            runtime :=
        Function.update_self ..
      rw [equal, changed]
      exact (current.upToDate entry member).step stepped
    · have kept :
          (state.setRuntime entry.entryId runtime).runtimes other.entryId =
            state.runtimes other.entryId :=
        Function.update_of_ne same ..
      rw [kept]
      exact current.upToDate other otherMember

theorem Current.step (current : state.Current)
    (stepped : state.step action = some next) : next.Current := by
  cases action with
  | flow action =>
      simp only [SetupState.step] at stepped
      split at stepped
      case h_1 flows flowStepped =>
        cases stepped
        exact current.flow flowStepped
      case h_2 => cases stepped
  | entry id action =>
      simp only [SetupState.step] at stepped
      split at stepped
      case h_1 entry found =>
        split at stepped
        case h_1 runtime runtimeStepped =>
          cases stepped
          have member := List.mem_of_find?_eq_some found
          have matched := List.find?_some found
          have same : entry.entryId = id := of_decide_eq_true matched
          rw [← same] at runtimeStepped ⊢
          exact current.entry member runtimeStepped
        case h_2 => cases stepped
      case h_2 => cases stepped

theorem current_of_reachable (reached : setupMachine.Reachable state) :
    state.Current :=
  reached.invariant Current current_initial
    fun current stepped => current.step stepped

end SetupState

/-- A loaded entry has a reload pending or in progress, or its client has the
host, port and Modbus id that the entry gives. -/
theorem loaded_client_current {actions : List SetupAction}
    {state : SetupState} (ran : setupMachine.run actions = some state)
    {entry : ConfigEntry} (member : entry ∈ state.flows.entries)
    {client : AirfiModbusClient}
    (loaded : (state.runtimes entry.entryId).stage = .loaded client) :
    0 < (state.runtimes entry.entryId).pendingReloads ∨
      (state.runtimes entry.entryId).reloading = true ∨
      client.host = entry.data.host ∧
        some client.port = entry.data.port ∧
        client.deviceId =
          entry.options.modbusId.getD
            (entry.data.modbusId.getD defaultModbusId) := by
  have upToDate :=
    (SetupState.current_of_reachable ⟨actions, ran⟩).upToDate entry member
  rcases Nat.eq_zero_or_pos
    (state.runtimes entry.entryId).pendingReloads with none_pending | pending
  · right
    right
    have given := upToDate none_pending client (by rw [loaded]; rfl)
    rw [ConfigEntry.client, ConfigEntry.clientWith] at given
    obtain ⟨port, portEq, rfl⟩ := Option.map_eq_some_iff.mp given
    exact ⟨rfl, portEq.symm, rfl⟩
  · exact .inl pending

/-- The tagged entry is set up, moves during its first refresh, and is
reloaded for it. -/
def movedDuringSetup : List SetupAction :=
  selectAndManual.map .flow ++
    [.entry 0 .setup, .entry 0 .construct,
      .flow (.announce (announcement 7 "10.0.0.17")),
      .entry 0 (.refreshed true), .entry 0 (.platformsSetUp true),
      .entry 0 .reload, .entry 0 (.platformsUnloaded true), .entry 0 .construct,
      .entry 0 (.refreshed true), .entry 0 (.platformsSetUp true)]

theorem loaded_client_current_moved_during_setup :
    ∃ state entry client,
      setupMachine.run movedDuringSetup = some state ∧
      entry ∈ state.flows.entries ∧
      (state.runtimes entry.entryId).stage = .loaded client ∧
      client.host = "10.0.0.17" ∧
      (0 < (state.runtimes entry.entryId).pendingReloads ∨
        (state.runtimes entry.entryId).reloading = true ∨
        client.host = entry.data.host ∧
          some client.port = entry.data.port ∧
          client.deviceId =
            entry.options.modbusId.getD
              (entry.data.modbusId.getD defaultModbusId)) := by
  have finishes : (setupMachine.run movedDuringSetup).isSome := rfl
  obtain ⟨state, ran⟩ := Option.isSome_iff_exists.mp finishes
  have first : ∃ entry client rest, state.flows.entries = entry :: rest ∧
      (state.runtimes entry.entryId).stage = .loaded client ∧
      client.host = "10.0.0.17" := by
    cases ran
    exact ⟨_, _, _, rfl, rfl, rfl⟩
  obtain ⟨entry, client, rest, entries, loaded, host⟩ := first
  have member : entry ∈ state.flows.entries := by
    rw [entries]
    exact List.mem_cons_self
  exact ⟨state, entry, client, ran, member, loaded, host,
    loaded_client_current ran member loaded⟩

end Airfi
