import Airfi.Connections.Jobs
import Airfi.Machine

/-!
# The clients of one config entry

Every setup attempt builds a coordinator with a client of its own, and an
options flow builds one for a probe unless the entry is loaded.  Each client
has its own lock.  Home Assistant takes the entry through its states in any
order that these permit, and the jobs on all clients interleave at every
effect.
-/

namespace Airfi

abbrev ClientId := Nat

abbrev JobId := Nat

inductive ConfigEntryState where
  | notLoaded
  | setupInProgress
  | loaded
  | setupRetry
  | setupError
  | unloadInProgress
  | failedUnload
  deriving DecidableEq

/-- What the end of a job tells the entry. -/
inductive JobEnd where
  | firstRefreshed (result : Except PyError AirfiData)
      (coordinator : AirfiCoordinator)
  | polled (coordinator : AirfiCoordinator)
  | wrote (result : Except PyError Unit)
  | probed (error : Option String)

structure Job where
  client : ClientId
  program : ClientProgram JobEnd

/-- The lock of a client and its connection. -/
structure Line where
  lockedBy : Option JobId
  openFor : Option JobId
  deriving DecidableEq

/-- How the effect that a job awaits is answered. -/
inductive LineAnswer where
  | lock (reply : LockReply)
  | connect (reply : ConnectReply)
  | response (reply : ModbusReply)
  | proceed
  deriving DecidableEq

namespace Line

def fresh : Line :=
  { lockedBy := none
    openFor := none }

def answer (line : Line) (job : JobId) :
    (effect : ClientEffect) → LineAnswer →
      Option (ClientAnswer effect × Line)
  | .acquireLock, .lock .acquired =>
      if line.lockedBy = none then
        some (LockReply.acquired, { line with lockedBy := some job })
      else none
  | .acquireLock, .lock .cancelled => some (LockReply.cancelled, line)
  | .connect, .connect (.returned true) =>
      some (ConnectReply.returned true, { line with openFor := some job })
  | .connect, .connect (.returned false) =>
      some (ConnectReply.returned false, line)
  | .connect, .connect (.raised error) =>
      some (ConnectReply.raised error, line)
  | .request _, .response reply => some (reply, line)
  | .close, .proceed => some ((), { line with openFor := none })
  | .releaseLock, .proceed => some ((), { line with lockedBy := none })
  | _, _ => none

end Line

/-- The coordinator that is set up or loaded, `refreshed` once its first
refresh has succeeded.  From then on there are entities that poll and
write. -/
structure Running where
  client : ClientId
  coordinator : AirfiCoordinator
  refreshed : Bool

structure EntryClients where
  status : ConfigEntryState
  running : Option Running
  lines : ClientId → Line
  nextClient : ClientId
  jobs : JobId → Option Job
  nextJob : JobId

inductive EntryAction where
  | setup
  /-- `AirfiCoordinator(hass, entry)` and its first refresh. -/
  | construct (deviceId : Nat)
  /-- `async_forward_entry_setups` ends. -/
  | platformsSetUp (succeeded : Bool)
  | unload
  /-- `async_unload_entry` ends. -/
  | unloaded (succeeded : Bool)
  | poll
  | write (address value : Nat)
  | probe (deviceId : Nat)
  | answer (job : JobId) (answer : LineAnswer)

namespace EntryClients

def initial : EntryClients :=
  { status := .notLoaded
    running := none
    lines := fun _ => .fresh
    nextClient := 0
    jobs := fun _ => none
    nextJob := 0 }

def startJob (state : EntryClients) (client : ClientId)
    (program : ClientProgram JobEnd) : EntryClients :=
  { state with
    jobs := Function.update state.jobs state.nextJob
      (some { client, program })
    nextJob := state.nextJob + 1 }

def newClient (state : EntryClients) : EntryClients :=
  { state with nextClient := state.nextClient + 1 }

/-- The coordinator is built, and its first refresh starts. -/
def construct (state : EntryClients) (client : AirfiModbusClient) :
    EntryClients :=
  let coordinator := AirfiCoordinator.init client
  { state.newClient.startJob state.nextClient do
      let ended ← coordinator.asyncUpdateData
      pure (.firstRefreshed ended.1 ended.2) with
    running := some
      { client := state.nextClient
        coordinator
        refreshed := false } }

def poll (state : EntryClients) (running : Running) : EntryClients :=
  state.startJob running.client do
    let ended ← running.coordinator.asyncUpdateData
    pure (.polled ended.2)

def write (state : EntryClients) (running : Running)
    (address value : Nat) : EntryClients :=
  state.startJob running.client do
    let result ← running.coordinator.asyncWriteValue address value
    pure (.wrote result)

/-- A probe on the client of the loaded coordinator. -/
def probeLoaded (state : EntryClients) (running : Running)
    (deviceId : Nat) : EntryClients :=
  state.startJob running.client do
    let error ←
      asyncValidateModbusId running.coordinator.client (some deviceId)
    pure (.probed error)

/-- A probe on a client of its own. -/
def probeAlone (state : EntryClients) (client : AirfiModbusClient) :
    EntryClients :=
  state.newClient.startJob state.nextClient do
    let error ← asyncValidateModbusId client none
    pure (.probed error)

/-- The state of an entry whose first refresh failed. -/
def refusedStatus : PyError → ConfigEntryState
  | .cancelledError => .setupError
  | _ => .setupRetry

/-- The running coordinator changes, if the job was one of its own. -/
def updateRunning (state : EntryClients) (client : ClientId)
    (change : Running → Running) : EntryClients :=
  { state with
    running := state.running.map fun running =>
      if running.client = client then change running else running }

def finish (state : EntryClients) (client : ClientId) :
    JobEnd → EntryClients
  | .firstRefreshed (.ok _) coordinator =>
      state.updateRunning client fun running =>
        { running with coordinator, refreshed := true }
  | .firstRefreshed (.error error) _ =>
      { state with
        status := refusedStatus error
        running := none }
  | .polled coordinator =>
      state.updateRunning client fun running =>
        { running with coordinator }
  | .wrote _ => state
  | .probed _ => state

def setJob (state : EntryClients) (id : JobId) (job : Option Job) :
    EntryClients :=
  { state with jobs := Function.update state.jobs id job }

def setLine (state : EntryClients) (client : ClientId) (line : Line) :
    EntryClients :=
  { state with lines := Function.update state.lines client line }

/-- Go on with what is left of the job. -/
def settle (state : EntryClients) (id : JobId) (client : ClientId) :
    ClientProgram JobEnd → EntryClients
  | .done ended => (state.setJob id none).finish client ended
  | .raise _ => state.setJob id none
  | .perform effect resume =>
      state.setJob id (some { client, program := .perform effect resume })

def answer (state : EntryClients) (id : JobId) (answer : LineAnswer) :
    Option EntryClients :=
  match state.jobs id with
  | some { client, program := .perform effect resume } =>
      match (state.lines client).answer id effect answer with
      | some (reply, line) =>
          some ((state.setLine client line).settle id client (resume reply))
      | none => none
  | _ => none

def step (host : String) (port : Nat) (state : EntryClients) :
    EntryAction → Option EntryClients
  | .setup =>
      match state.status with
      | .notLoaded | .setupRetry | .setupError =>
          some { state with status := .setupInProgress }
      | _ => none
  | .construct deviceId =>
      match state.status, state.running with
      | .setupInProgress, none =>
          some (state.construct { host, port, deviceId })
      | _, _ => none
  | .platformsSetUp succeeded =>
      match state.status, state.running with
      | .setupInProgress, some { refreshed := true, .. } =>
          if succeeded then some { state with status := .loaded }
          else
            some { state with
              status := .setupError
              running := none }
      | _, _ => none
  | .unload =>
      match state.status with
      | .loaded => some { state with status := .unloadInProgress }
      | .setupRetry | .setupError =>
          some { state with status := .notLoaded }
      | _ => none
  | .unloaded succeeded =>
      match state.status with
      | .unloadInProgress =>
          if succeeded then
            some { state with
              status := .notLoaded
              running := none }
          else some { state with status := .failedUnload }
      | _ => none
  | .poll =>
      match state.running with
      | some { client, coordinator, refreshed := true } =>
          some (state.poll { client, coordinator, refreshed := true })
      | _ => none
  | .write address value =>
      match state.running with
      | some { client, coordinator, refreshed := true } =>
          some (state.write { client, coordinator, refreshed := true }
            address value)
      | _ => none
  | .probe deviceId =>
      match state.status, state.running with
      | .loaded, some running => some (state.probeLoaded running deviceId)
      | .loaded, none => none
      | _, _ => some (state.probeAlone { host, port, deviceId })
  | .answer id answer => state.answer id answer

end EntryClients

/-- The clients of an entry at a fixed endpoint. -/
def entryMachine (host : String) (port : Nat) :
    Machine EntryClients EntryAction where
  init := .initial
  step := EntryClients.step host port

end Airfi
