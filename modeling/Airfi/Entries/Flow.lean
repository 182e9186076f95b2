import Airfi.Machine
import Airfi.Entries.Store
import Mathlib.Logic.Function.Basic

/-!
# Config flows

Any number of open flows over one entry store, with the announcements and
options saves that change the store meanwhile.  A flow keeps the device list
that its discovery found, and a manual submission awaits its connection test
between the duplicate check and the new entry.
-/

namespace Airfi

/-! ## Texts -/

/-- What `str.strip` counts as white space. -/
def isWhitespace (character : Char) : Bool :=
  let code := character.toNat
  decide (9 ≤ code ∧ code ≤ 13 ∨ 28 ≤ code ∧ code ≤ 32 ∨ code = 0x85 ∨
    code = 0xa0 ∨ code = 0x1680 ∨ 0x2000 ≤ code ∧ code ≤ 0x200a ∨
    code = 0x2028 ∨ code = 0x2029 ∨ code = 0x202f ∨ code = 0x205f ∨
    code = 0x3000)

def strip (text : String) : String :=
  String.ofList
    ((text.toList.dropWhile isWhitespace).reverse.dropWhile
      isWhitespace).reverse

/-- `DEVICE_MODELS`. -/
def deviceModels : List (Nat × String) :=
  [(0, "Proto"), (1, "Model 60 L"), (2, "Model 60 R"),
    (3, "Model 100 L"), (4, "Model 100 R"), (7, "Model 130 L"),
    (8, "Model 130 R"), (5, "Model 150 L"), (6, "Model 150 R"),
    (9, "Model 250 L Electric"), (10, "Model 250 R Electric"),
    (11, "Model 250 L Water"), (12, "Model 250 R Water"),
    (13, "Model 350 L Electric"), (14, "Model 350 R Electric"),
    (15, "Model 350 L Water"), (16, "Model 350 R Water"),
    (17, "Model C5 L Electric"), (18, "Model C5 R Electric"),
    (19, "Model C5 L Water"), (20, "Model C5 R Water"),
    (21, "Model 53 mini L"), (22, "Model 53 mini R"),
    (23, "Model 53 miniEnt L"), (24, "Model 53 miniEnt R"),
    (25, "Model 60 Ent L"), (26, "Model 60 Ent R"),
    (27, "Model 130 Ent L"), (28, "Model 130 Ent R"),
    (29, "Model 150 Ent L"), (30, "Model 150 Ent R"),
    (31, "Model 250 EntL Electric"), (32, "Model 250 Ent R Electric"),
    (33, "Model 250 Ent L Water"), (34, "Model 250 Ent R Water"),
    (35, "Model 350 Ent L Electric"), (36, "Model 350 Ent R Electric"),
    (37, "Model 350 Ent L Water"), (38, "Model 350 Ent R Water"),
    (39, "Model ReFit 10 L"), (40, "Model ReFit 10 R")]

def modelName (deviceType : Nat) : String :=
  (deviceModels.lookup deviceType).getD
    s!"Airfi unit (type {deviceType})"

/-- The unique id of a manual entry. -/
def endpointId (host : String) (port : Nat) : String :=
  host ++ ":" ++ Nat.repr port

/-! ## Flows -/

abbrev FlowId := Nat

inductive FlowStep where
  | user
  /-- `async_discover_devices` listens; the first device of a serial stays. -/
  | discovering (found : List DiscoveredDevice)
  | selectDevice (devices : List DiscoveredDevice)
  | manual
  /-- Suspended in `_validate_connection`. -/
  | validating (host : String) (port modbusId : Nat)
  deriving DecidableEq

structure ConfigFlow where
  /-- `context["unique_id"]`. -/
  uniqueId : Option String
  step : FlowStep
  deriving DecidableEq

structure FlowState where
  entries : List ConfigEntry
  nextEntry : EntryId
  flows : FlowId → Option ConfigFlow
  nextFlow : FlowId
  /-- The address of the last handled announcement of each serial. -/
  announced : Nat → Option String

inductive FlowAction where
  | openFlow
  | closeFlow (flow : FlowId)
  | chooseDiscover (flow : FlowId)
  | chooseManual (flow : FlowId)
  | datagram (flow : FlowId) (device : DiscoveredDevice)
  /-- The discovery window ends. -/
  | discovered (flow : FlowId)
  | selectDevice (flow : FlowId) (choice : String)
  | submitManual (flow : FlowId) (host : String)
      (port modbusId : Option Nat)
  /-- `_validate_connection` returns. -/
  | validated (flow : FlowId) (error : Option String)
  | saveOptions (entry : EntryId) (options : EntryOptions)
  | announce (device : DiscoveredDevice)

namespace FlowState

def initial : FlowState :=
  { entries := []
    nextEntry := 0
    flows := fun _ => none
    nextFlow := 0
    announced := fun _ => none }

def setFlow (state : FlowState) (id : FlowId)
    (flow : Option ConfigFlow) : FlowState :=
  { state with flows := Function.update state.flows id flow }

/-- The flow at its next step. -/
def goTo (state : FlowState) (id : FlowId) (flow : ConfigFlow)
    (step : FlowStep) : FlowState :=
  state.setFlow id (some { flow with step })

/-- The flow ends, aborted or done. -/
def dropFlow (state : FlowState) (id : FlowId) : FlowState :=
  state.setFlow id none

/-- Another flow in progress has the unique id. -/
def inProgress (state : FlowState) (id : FlowId) (uniqueId : String) :
    Prop :=
  ∃ other ∈ List.range state.nextFlow, other ≠ id ∧
    (state.flows other).bind ConfigFlow.uniqueId = some uniqueId

instance (state : FlowState) (id : FlowId) (uniqueId : String) :
    Decidable (state.inProgress id uniqueId) :=
  inferInstanceAs (Decidable (∃ other ∈ List.range state.nextFlow, _))

/-- An entry with the unique id exists. -/
def configured (state : FlowState) (uniqueId : String) : Prop :=
  ∃ entry ∈ state.entries, entry.uniqueId = uniqueId

instance (state : FlowState) (uniqueId : String) :
    Decidable (state.configured uniqueId) :=
  inferInstanceAs (Decidable (∃ entry ∈ state.entries, _))

/-- `_async_abort_entries_match({CONF_HOST: host, CONF_PORT: port})`. -/
def entriesMatch (state : FlowState) (host : String) (port : Nat) : Prop :=
  ∃ entry ∈ state.entries,
    entry.data.host = host ∧ entry.data.port = some port

instance (state : FlowState) (host : String) (port : Nat) :
    Decidable (state.entriesMatch host port) :=
  inferInstanceAs (Decidable (∃ entry ∈ state.entries, _))

/-- `async_create_entry` of a config flow. -/
def createEntry (state : FlowState) (title uniqueId : String)
    (data : EntryData) : FlowState :=
  { state with
    entries := state.entries ++
      [{ entryId := state.nextEntry
         title
         uniqueId
         data
         options := { scanInterval := none, modbusId := none } }]
    nextEntry := state.nextEntry + 1 }

/-- The devices that `async_step_discover` offers. -/
def offered (state : FlowState) (devices : List DiscoveredDevice) :
    List DiscoveredDevice :=
  devices.filter fun device =>
    decide (¬ state.configured (serialId device.serial) ∧
      ¬ ∃ entry ∈ state.entries, entry.data.host = device.ip)

def discover (state : FlowState) (id : FlowId) (flow : ConfigFlow)
    (devices : List DiscoveredDevice) : FlowState :=
  match state.offered devices with
  | [] => state.goTo id flow .manual
  | first :: rest => state.goTo id flow (.selectDevice (first :: rest))

/-- `async_step_select_device` with the chosen device. -/
def selectDevice (state : FlowState) (id : FlowId)
    (device : DiscoveredDevice) : FlowState :=
  let uniqueId := serialId device.serial
  if state.inProgress id uniqueId then state.dropFlow id
  else if state.configured uniqueId then state.dropFlow id
  else
    (state.createEntry
      s!"{modelName device.deviceType} {device.serial}" uniqueId
      { host := device.ip
        port := some defaultPort
        modbusId := none
        serial := some device.serial
        deviceType := some device.deviceType }).dropFlow id

/-- `async_step_manual` up to the connection test. -/
def submitManual (state : FlowState) (id : FlowId) (host : String)
    (port modbusId : Nat) : FlowState :=
  let uniqueId := endpointId host port
  if state.entriesMatch host port then state.dropFlow id
  else if state.inProgress id uniqueId then state.dropFlow id
  else if state.configured uniqueId then state.dropFlow id
  else
    state.setFlow id
      (some
        { uniqueId := some uniqueId
          step := .validating host port modbusId })

/-- `async_step_manual` after the connection test. -/
def validated (state : FlowState) (id : FlowId) (flow : ConfigFlow)
    (host : String) (port modbusId : Nat) : Option String → FlowState
  | none =>
      (state.createEntry s!"Airfi {host}" (flow.uniqueId.getD "")
        { host
          port := some port
          modbusId := some modbusId
          serial := none
          deviceType := none }).dropFlow id
  | some _ => state.goTo id flow .manual

def announce (state : FlowState) (device : DiscoveredDevice) : FlowState :=
  { state with
    entries := (handleAnnouncement state.entries device).1
    announced :=
      Function.update state.announced device.serial (some device.ip) }

def step (state : FlowState) : FlowAction → Option FlowState
  | .openFlow =>
      some { state with
        flows := Function.update state.flows state.nextFlow
          (some { uniqueId := none, step := .user })
        nextFlow := state.nextFlow + 1 }
  | .closeFlow id =>
      match state.flows id with
      | some _ => some (state.dropFlow id)
      | none => none
  | .chooseDiscover id =>
      match state.flows id with
      | some { uniqueId, step := .user } =>
          some (state.goTo id { uniqueId, step := .user } (.discovering []))
      | _ => none
  | .chooseManual id =>
      match state.flows id with
      | some { uniqueId, step := .user } =>
          some (state.goTo id { uniqueId, step := .user } .manual)
      | _ => none
  | .datagram id device =>
      match state.flows id with
      | some { uniqueId, step := .discovering found } =>
          if ∃ other ∈ found, other.serial = device.serial then some state
          else
            some (state.setFlow id
              (some
                { uniqueId
                  step := .discovering (found ++ [device]) }))
      | _ => none
  | .discovered id =>
      match state.flows id with
      | some { uniqueId, step := .discovering found } =>
          some (state.discover id { uniqueId, step := .discovering found }
            found)
      | _ => none
  | .selectDevice id choice =>
      match state.flows id with
      | some { step := .selectDevice devices, .. } =>
          match devices.find? fun device =>
              decide (serialId device.serial = choice) with
          | some device => some (state.selectDevice id device)
          | none => none
      | _ => none
  | .submitManual id host port modbusId =>
      match state.flows id with
      | some { step := .manual, .. } =>
          some (state.submitManual id (strip host) (port.getD defaultPort)
            (modbusId.getD defaultModbusId))
      | _ => none
  | .validated id error =>
      match state.flows id with
      | some { uniqueId, step := .validating host port modbusId } =>
          some (state.validated id
            { uniqueId, step := .validating host port modbusId } host port
            modbusId error)
      | _ => none
  | .saveOptions id options =>
      some { state with
        entries := updateEntry state.entries id (.saveOptions options) }
  | .announce device => some (state.announce device)

end FlowState

/-- The flows and announcements from an empty entry store. -/
def flowMachine : Machine FlowState FlowAction where
  init := .initial
  step := FlowState.step

end Airfi
