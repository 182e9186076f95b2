import Airfi.Entries.Setup

/-!
# What a step changes

The inversions of the flow machine and of the setup machine: which flow a step
of the flows changes and how, and what a step of the setups makes of the state.
-/

namespace Airfi

/-- The devices that the step of a flow holds. -/
def FlowStep.devices : FlowStep → List DiscoveredDevice
  | .discovering found => found
  | .selectDevice devices => devices
  | .user | .manual | .validating _ _ _ => []

namespace FlowState

/-- What becomes of the one flow that a step changes. -/
inductive FlowChange (state : FlowState) :
    FlowAction → FlowId → Option ConfigFlow → Prop where
  | ended {action : FlowAction} {id : FlowId} : FlowChange state action id none
  /-- It has no devices and no connection test. -/
  | plain {action : FlowAction} {id : FlowId} {flow : ConfigFlow}
      (empty : flow.step.devices = [])
      (settled : ∀ host port modbusId,
        flow.step ≠ .validating host port modbusId) :
      FlowChange state action id (some flow)
  | received {id : FlowId} {uniqueId : Option String}
      {heard : List DiscoveredDevice} {device : DiscoveredDevice}
      (found : state.flows id =
        some { uniqueId, step := .discovering heard }) :
      FlowChange state (.datagram id device) id
        (some { uniqueId, step := .discovering (heard ++ [device]) })
  | offered {id : FlowId} {uniqueId : Option String}
      {heard : List DiscoveredDevice}
      (found : state.flows id =
        some { uniqueId, step := .discovering heard }) :
      FlowChange state (.discovered id) id
        (some { uniqueId, step := .selectDevice (state.offered heard) })
  | submitted {id : FlowId} {uniqueId : Option String} {host : String}
      {port modbusId : Option Nat} :
      FlowChange state (.submitManual id host port modbusId) id
        (some
          { uniqueId
            step := .validating (strip host) (port.getD defaultPort)
              (modbusId.getD defaultModbusId) })

/-- A step changes no flow or one. -/
theorem flows_of_step {state next : FlowState} {action : FlowAction}
    (stepped : state.step action = some next) :
    next.flows = state.flows ∨
      ∃ id flow, next.flows = Function.update state.flows id flow ∧
        FlowChange state action id flow := by
  cases action with
  | openFlow =>
      cases stepped
      exact .inr ⟨_, _, rfl, .plain rfl (by intros; exact FlowStep.noConfusion)⟩
  | saveOptions id options =>
      cases stepped
      exact .inl rfl
  | announce device =>
      cases stepped
      exact .inl rfl
  | closeFlow id =>
      simp only [FlowState.step] at stepped
      split at stepped <;> cases stepped
      exact .inr ⟨id, none, rfl, .ended⟩
  | chooseDiscover id =>
      simp only [FlowState.step] at stepped
      split at stepped <;> cases stepped
      exact .inr ⟨id, _, rfl,
        .plain rfl (by intros; exact FlowStep.noConfusion)⟩
  | chooseManual id =>
      simp only [FlowState.step] at stepped
      split at stepped <;> cases stepped
      exact .inr ⟨id, _, rfl,
        .plain rfl (by intros; exact FlowStep.noConfusion)⟩
  | datagram id device =>
      simp only [FlowState.step] at stepped
      split at stepped
      case h_1 uniqueId heard found =>
        split at stepped <;> cases stepped
        case isTrue => exact .inl rfl
        case isFalse => exact .inr ⟨id, _, rfl, .received found⟩
      case h_2 => cases stepped
  | discovered id =>
      simp only [FlowState.step] at stepped
      split at stepped <;> cases stepped
      case h_1 uniqueId heard found =>
        right
        rw [discover]
        cases offers : state.offered heard with
        | nil =>
            exact ⟨id, _, rfl,
              .plain rfl (by intros; exact FlowStep.noConfusion)⟩
        | cons first rest =>
            refine ⟨id, _, rfl, ?_⟩
            rw [← offers]
            exact .offered found
  | selectDevice id choice =>
      simp only [FlowState.step] at stepped
      split at stepped
      case h_1 =>
        split at stepped <;> cases stepped
        right
        rw [selectDevice]
        split
        case isTrue => exact ⟨id, none, rfl, .ended⟩
        case isFalse =>
          split
          case isTrue => exact ⟨id, none, rfl, .ended⟩
          case isFalse => exact ⟨id, none, rfl, .ended⟩
      case h_2 => cases stepped
  | submitManual id host port modbusId =>
      simp only [FlowState.step] at stepped
      split at stepped <;> cases stepped
      right
      rw [submitManual]
      split
      case isTrue => exact ⟨id, none, rfl, .ended⟩
      case isFalse =>
        split
        case isTrue => exact ⟨id, none, rfl, .ended⟩
        case isFalse =>
          split
          case isTrue => exact ⟨id, none, rfl, .ended⟩
          case isFalse => exact ⟨id, _, rfl, .submitted⟩
  | validated id error =>
      simp only [FlowState.step] at stepped
      split at stepped <;> cases stepped
      right
      cases error with
      | none => exact ⟨id, none, rfl, .ended⟩
      | some text =>
          exact ⟨id, _, rfl,
            .plain rfl (by intros; exact FlowStep.noConfusion)⟩

/-- An open flow was there before, or the step has just made it. -/
theorem flow_of_step {state next : FlowState} {action : FlowAction}
    (stepped : state.step action = some next) {id : FlowId}
    {flow : ConfigFlow} (found : next.flows id = some flow) :
    state.flows id = some flow ∨ FlowChange state action id (some flow) := by
  rcases flows_of_step stepped with same | ⟨other, new, flows, change⟩
  · rw [same] at found
    exact .inl found
  · rw [flows] at found
    by_cases same : id = other
    · rw [same, Function.update_self] at found
      rw [same]
      exact .inr (found ▸ change)
    · rw [Function.update_of_ne same] at found
      exact .inl found

end FlowState

namespace SetupState

variable {state next : SetupState}

/-- A step of the flows schedules the reload that it asks for. -/
theorem of_step_flow {action : FlowAction}
    (stepped : state.step (.flow action) = some next) :
    ∃ flows, state.flows.step action = some flows ∧
      next = { state with flows }.scheduleReload
        (scheduledReload state.flows.entries action) := by
  simp only [SetupState.step] at stepped
  split at stepped <;> cases stepped
  case h_1 flows flowStepped => exact ⟨flows, flowStepped, rfl⟩

/-- A step of an entry changes its runtime and nothing else. -/
theorem of_step_entry {id : EntryId} {action : RuntimeAction}
    (stepped : state.step (.entry id action) = some next) :
    ∃ entry runtime,
      (state.flows.entries.find? fun other =>
        decide (other.entryId = id)) = some entry ∧
      entry ∈ state.flows.entries ∧ entry.entryId = id ∧
      (state.runtimes id).step entry action = some runtime ∧
      next = state.setRuntime id runtime := by
  simp only [SetupState.step] at stepped
  split at stepped
  case h_1 entry found =>
    split at stepped <;> cases stepped
    case h_1 runtime runtimeStepped =>
      have matched := List.find?_some found
      exact ⟨entry, runtime, found, List.mem_of_find?_eq_some found,
        of_decide_eq_true matched, runtimeStepped, rfl⟩
  case h_2 => cases stepped

end SetupState

end Airfi
