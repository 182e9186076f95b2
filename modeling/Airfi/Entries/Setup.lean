import Airfi.Entries.FlowInvariant
import Airfi.Modbus.Client

/-!
# Setups and reloads of the entries

A setup copies the connection parameters of its entry into the client of a
new coordinator, between awaits at which announcements and options saves can
change the entry.  Home Assistant serialises setup, unload and reload of one
entry; the entries run side by side over the store that the flows, the
announcements and the options saves change.
-/

namespace Airfi

namespace ConfigEntry

/-- The Modbus id of the options, else of the data, else the default, as the
coordinator and the options flow both read it. -/
def currentModbusId (entry : ConfigEntry) : Nat :=
  entry.options.modbusId.getD (entry.data.modbusId.getD defaultModbusId)

/-- `AirfiModbusClient(entry.data[CONF_HOST], entry.data[CONF_PORT], id)`;
an entry without a port raises `KeyError`. -/
def clientWith (entry : ConfigEntry) (deviceId : Nat) :
    Option AirfiModbusClient :=
  entry.data.port.map fun port =>
    { host := entry.data.host
      port
      deviceId }

/-- `self.client` in `AirfiCoordinator.__init__`. -/
def client (entry : ConfigEntry) : Option AirfiModbusClient :=
  entry.clientWith entry.currentModbusId

end ConfigEntry

/-- `entry.state`, split at the awaits of the task that holds the setup lock.
From its construction on, the client of the coordinator is carried along. -/
inductive SetupStage where
  | notLoaded
  /-- In `async_setup_entry`, at `_async_ensure_discovery_listener`. -/
  | ensuring
  /-- At `async_config_entry_first_refresh`. -/
  | refreshing (client : AirfiModbusClient)
  /-- At `async_forward_entry_setups`. -/
  | forwarding (client : AirfiModbusClient)
  | loaded (client : AirfiModbusClient)
  /-- In `async_unload_entry`, at `async_unload_platforms`. -/
  | unloading (client : AirfiModbusClient)
  | setupRetry
  | setupError
  /-- `async_unload_entry` has returned `False`.  Home Assistant neither sets
  up nor reloads the entry from here. -/
  | failedUnload

/-- The client that a setup is about to load, or has loaded. -/
def SetupStage.client? : SetupStage → Option AirfiModbusClient
  | .refreshing client | .forwarding client | .loaded client => some client
  | .notLoaded | .ensuring | .unloading _ | .setupRetry | .setupError
  | .failedUnload => none

structure EntryRuntime where
  stage : SetupStage
  /-- Reloads that are scheduled and have not taken the setup lock yet. -/
  pendingReloads : Nat
  /-- A reload holds the setup lock. -/
  reloading : Bool

inductive RuntimeAction where
  /-- A first setup, its retry, or a reload by the user where nothing is
  loaded. -/
  | setup
  /-- `AirfiCoordinator(hass, entry)`. -/
  | construct
  | refreshed (succeeded : Bool)
  | platformsSetUp (succeeded : Bool)
  | unload
  | platformsUnloaded (succeeded : Bool)
  /-- `async_schedule_reload`, from anywhere. -/
  | scheduleReload
  /-- A scheduled reload takes the setup lock. -/
  | reload

namespace EntryRuntime

def initial : EntryRuntime :=
  { stage := .notLoaded
    pendingReloads := 0
    reloading := false }

def scheduleReload (runtime : EntryRuntime) : EntryRuntime :=
  { runtime with pendingReloads := runtime.pendingReloads + 1 }

/-- The task goes on to its next await. -/
def goTo (runtime : EntryRuntime) (stage : SetupStage) : EntryRuntime :=
  { runtime with stage }

/-- The task ends and releases the setup lock. -/
def finish (runtime : EntryRuntime) (stage : SetupStage) : EntryRuntime :=
  { runtime with
    stage
    reloading := false }

/-- A reload takes the lock; what is loaded is unloaded first. -/
def reload (runtime : EntryRuntime) (remaining : Nat)
    (stage : SetupStage) : EntryRuntime :=
  { runtime with
    stage
    pendingReloads := remaining
    reloading := true }

def step (entry : ConfigEntry) (runtime : EntryRuntime) :
    RuntimeAction → Option EntryRuntime
  | .setup =>
      match runtime.stage with
      | .notLoaded | .setupRetry | .setupError => some (runtime.goTo .ensuring)
      | _ => none
  | .construct =>
      match runtime.stage with
      | .ensuring =>
          match entry.client with
          | some client => some (runtime.goTo (.refreshing client))
          | none => some (runtime.finish .setupError)
      | _ => none
  | .refreshed succeeded =>
      match runtime.stage with
      | .refreshing client =>
          if succeeded then some (runtime.goTo (.forwarding client))
          else some (runtime.finish .setupRetry)
      | _ => none
  | .platformsSetUp succeeded =>
      match runtime.stage with
      | .forwarding client =>
          if succeeded then some (runtime.finish (.loaded client))
          else some (runtime.finish .setupError)
      | _ => none
  | .unload =>
      match runtime.stage with
      | .loaded client => some (runtime.goTo (.unloading client))
      | _ => none
  | .platformsUnloaded succeeded =>
      match runtime.stage with
      | .unloading _ =>
          if succeeded then
            if runtime.reloading then some (runtime.goTo .ensuring)
            else some (runtime.finish .notLoaded)
          else some (runtime.finish .failedUnload)
      | _ => none
  | .scheduleReload => some runtime.scheduleReload
  | .reload =>
      match runtime.pendingReloads, runtime.stage with
      | remaining + 1, .loaded client =>
          some (runtime.reload remaining (.unloading client))
      | remaining + 1, .notLoaded | remaining + 1, .setupRetry
      | remaining + 1, .setupError =>
          some (runtime.reload remaining .ensuring)
      -- `OperationNotAllowed`: the scheduled reload ends where it starts.
      | remaining + 1, .failedUnload =>
          some { runtime with pendingReloads := remaining }
      | _, _ => none

/-- Nothing is loaded and the setup lock is free. -/
def Idle (runtime : EntryRuntime) : Prop :=
  runtime.stage = .notLoaded ∨ runtime.stage = .setupRetry ∨
    runtime.stage = .setupError

/-- What a step makes of a runtime, and from which stage. -/
inductive Change (entry : ConfigEntry) (runtime : EntryRuntime) :
    RuntimeAction → EntryRuntime → Prop where
  | began (idle : runtime.Idle) :
      Change entry runtime .setup (runtime.goTo .ensuring)
  | constructed {client : AirfiModbusClient}
      (stage : runtime.stage = .ensuring)
      (given : entry.client = some client) :
      Change entry runtime .construct (runtime.goTo (.refreshing client))
  | unconstructed (stage : runtime.stage = .ensuring)
      (absent : entry.client = none) :
      Change entry runtime .construct (runtime.finish .setupError)
  | refreshed {client : AirfiModbusClient}
      (stage : runtime.stage = .refreshing client) :
      Change entry runtime (.refreshed true)
        (runtime.goTo (.forwarding client))
  | unrefreshed {client : AirfiModbusClient}
      (stage : runtime.stage = .refreshing client) :
      Change entry runtime (.refreshed false) (runtime.finish .setupRetry)
  | loaded {client : AirfiModbusClient}
      (stage : runtime.stage = .forwarding client) :
      Change entry runtime (.platformsSetUp true)
        (runtime.finish (.loaded client))
  | notSetUp {client : AirfiModbusClient}
      (stage : runtime.stage = .forwarding client) :
      Change entry runtime (.platformsSetUp false)
        (runtime.finish .setupError)
  | unloads {client : AirfiModbusClient}
      (stage : runtime.stage = .loaded client) :
      Change entry runtime .unload (runtime.goTo (.unloading client))
  | restarted {client : AirfiModbusClient}
      (stage : runtime.stage = .unloading client)
      (reloading : runtime.reloading = true) :
      Change entry runtime (.platformsUnloaded true)
        (runtime.goTo .ensuring)
  | unloaded {client : AirfiModbusClient}
      (stage : runtime.stage = .unloading client)
      (unloading : runtime.reloading = false) :
      Change entry runtime (.platformsUnloaded true)
        (runtime.finish .notLoaded)
  | notUnloaded {client : AirfiModbusClient}
      (stage : runtime.stage = .unloading client) :
      Change entry runtime (.platformsUnloaded false)
        (runtime.finish .failedUnload)
  | scheduled :
      Change entry runtime .scheduleReload runtime.scheduleReload
  | reloads {remaining : Nat} {client : AirfiModbusClient}
      (pending : runtime.pendingReloads = remaining + 1)
      (stage : runtime.stage = .loaded client) :
      Change entry runtime .reload
        (runtime.reload remaining (.unloading client))
  | reloadsIdle {remaining : Nat}
      (pending : runtime.pendingReloads = remaining + 1)
      (idle : runtime.Idle) :
      Change entry runtime .reload (runtime.reload remaining .ensuring)
  | refused {remaining : Nat}
      (pending : runtime.pendingReloads = remaining + 1)
      (stage : runtime.stage = .failedUnload) :
      Change entry runtime .reload
        { runtime with pendingReloads := remaining }

theorem change_of_step {entry : ConfigEntry} {runtime next : EntryRuntime}
    {action : RuntimeAction}
    (stepped : runtime.step entry action = some next) :
    Change entry runtime action next := by
  cases action with
  | setup =>
      simp only [step] at stepped
      split at stepped <;> cases stepped
      case h_1 stage => exact .began (.inl stage)
      case h_2 stage => exact .began (.inr (.inl stage))
      case h_3 stage => exact .began (.inr (.inr stage))
  | construct =>
      simp only [step] at stepped
      split at stepped
      case h_1 stage =>
        split at stepped <;> cases stepped
        case h_1 given => exact .constructed stage given
        case h_2 absent => exact .unconstructed stage absent
      case h_2 => cases stepped
  | refreshed succeeded =>
      simp only [step] at stepped
      split at stepped
      case h_1 stage =>
        cases succeeded <;> cases stepped
        case false => exact .unrefreshed stage
        case true => exact .refreshed stage
      case h_2 => cases stepped
  | platformsSetUp succeeded =>
      simp only [step] at stepped
      split at stepped
      case h_1 stage =>
        cases succeeded <;> cases stepped
        case false => exact .notSetUp stage
        case true => exact .loaded stage
      case h_2 => cases stepped
  | unload =>
      simp only [step] at stepped
      split at stepped <;> cases stepped
      case h_1 stage => exact .unloads stage
  | platformsUnloaded succeeded =>
      simp only [step] at stepped
      split at stepped
      case h_1 stage =>
        cases succeeded with
        | false =>
            cases stepped
            exact .notUnloaded stage
        | true =>
            simp only [if_true] at stepped
            cases reloading : runtime.reloading with
            | false =>
                rw [reloading] at stepped
                cases stepped
                exact .unloaded stage reloading
            | true =>
                rw [reloading] at stepped
                cases stepped
                exact .restarted stage reloading
      case h_2 => cases stepped
  | scheduleReload =>
      cases stepped
      exact .scheduled
  | reload =>
      simp only [step] at stepped
      split at stepped <;> cases stepped
      case h_1 pending stage => exact .reloads pending stage
      case h_2 pending stage => exact .reloadsIdle pending (.inl stage)
      case h_3 pending stage => exact .reloadsIdle pending (.inr (.inl stage))
      case h_4 pending stage => exact .reloadsIdle pending (.inr (.inr stage))
      case h_5 pending stage => exact .refused pending stage

end EntryRuntime

/-- The flows with their entries, and the runtime of each entry. -/
structure SetupState where
  flows : FlowState
  runtimes : EntryId → EntryRuntime

inductive SetupAction where
  | flow (action : FlowAction)
  | entry (id : EntryId) (action : RuntimeAction)

/-- The entry that an announcement or an options save schedules a reload of.
`OptionsFlowWithReload` does so when the saved options differ. -/
def scheduledReload (entries : List ConfigEntry) :
    FlowAction → Option EntryId
  | .announce device => (handleAnnouncement entries device).2
  | .saveOptions id options =>
      if ∃ entry ∈ entries, entry.entryId = id ∧ entry.options ≠ options then
        some id
      else none
  | _ => none

namespace SetupState

def initial : SetupState :=
  { flows := .initial
    runtimes := fun _ => .initial }

def setRuntime (state : SetupState) (id : EntryId)
    (runtime : EntryRuntime) : SetupState :=
  { state with runtimes := Function.update state.runtimes id runtime }

def scheduleReload (state : SetupState) : Option EntryId → SetupState
  | none => state
  | some id => state.setRuntime id (state.runtimes id).scheduleReload

def step (state : SetupState) : SetupAction → Option SetupState
  | .flow action =>
      match state.flows.step action with
      | some flows =>
          some ({ state with flows }.scheduleReload
            (scheduledReload state.flows.entries action))
      | none => none
  | .entry id action =>
      match state.flows.entries.find? fun entry =>
          decide (entry.entryId = id) with
      | some entry =>
          match (state.runtimes id).step entry action with
          | some runtime => some (state.setRuntime id runtime)
          | none => none
      | none => none

end SetupState

/-- Every interleaving of the flows, the announcements, the options saves and
the entries' setups, unloads and reloads. -/
def setupMachine : Machine SetupState SetupAction where
  init := .initial
  step := SetupState.step

end Airfi
