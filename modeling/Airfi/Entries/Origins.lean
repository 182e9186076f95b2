import Airfi.Entries.Forms
import Airfi.Entries.Offered

/-!
# Where entries come from

The config flows with the datagrams and the connection tests themselves.  No
entry is made up: the host and the serial of an entry were carried by one
datagram, or its host, port and Modbus id were tested together and answered.
-/

namespace Airfi

/-! ## Connection tests -/

/-- `_validate_connection`. -/
def validateConnection (host : String) (port modbusId : Nat) :
    ClientProgram (Option String) := do
  let client : AirfiModbusClient := { host, port, deviceId := modbusId }
  match ← (client.readInputRegister 1 none).outcome with
  | .ok _ => pure none
  | .error (.airfiConnectionError _) => pure (some "cannot_connect")
  | .error (.airfiModbusError _) => pure (some "modbus_error")
  | .error error => .raise error

/-- The answers of a unit that is there and has the Modbus id. -/
def ProbeAnswers.Answered (answers : ProbeAnswers) (modbusId : Nat) : Prop :=
  answers .connect = ConnectReply.returned true ∧
    ∃ value rest, answers (.request (.readRegisters .input 1 1 modbusId)) =
      ModbusReply.registers (value :: rest)

/-- A connection test succeeds only on an answer of the unit. -/
theorem answered_of_validateConnection {host : String}
    {port modbusId : Nat} {answers : ProbeAnswers}
    (succeeded : ((validateConnection host port modbusId).runWith
      answers.handler ()).1 = .ok none) :
    answers.Answered modbusId := by
  rw [validateConnection, Coroutine.bind_eq, Coroutine.runWith_bind,
    Coroutine.runWith_outcome] at succeeded
  cases read : ((AirfiModbusClient.readInputRegister
      { host, port, deviceId := modbusId } 1 none).runWith
        answers.handler ()).1 with
  | error raised =>
      simp only [read] at succeeded
      cases raised <;> cases succeeded
  | ok value =>
      obtain ⟨locked, connected, ended, -, opened, ran⟩ :=
        session_ok answers.handler _ read
      obtain ⟨reply, rfl⟩ := Prod.mk.inj opened
      have body : (readInputRegisterBody
          { host, port, deviceId := modbusId } 1 none).runWith
            answers.handler () = (.ok value, ended) := ran
      rw [readInputRegisterBody_runWith] at body
      exact ⟨reply, value, exists_registers_of_ok (Prod.mk.inj body).1⟩

/-! ## Devices that flows hold -/

namespace FlowState

variable {state next : FlowState} {action : FlowAction}
  {device : DiscoveredDevice}

/-- Some open flow has heard of the device. -/
def Holds (state : FlowState) (device : DiscoveredDevice) : Prop :=
  ∃ id flow, state.flows id = some flow ∧ device ∈ flow.step.devices

/-- What a flow holds it held before, or has just received. -/
theorem Holds.of_step (holds : next.Holds device)
    (stepped : state.step action = some next) :
    state.Holds device ∨ ∃ id, action = .datagram id device := by
  obtain ⟨id, flow, found, member⟩ := holds
  rcases flow_of_step stepped found with before | change
  · exact .inl ⟨id, flow, before, member⟩
  · cases change with
    | plain empty settled =>
        rw [empty] at member
        cases member
    | received heard =>
        rcases List.mem_append.mp member with old | new
        · exact .inl ⟨id, _, heard, old⟩
        · rw [List.mem_singleton.mp new]
          exact .inr ⟨id, rfl⟩
    | offered heard =>
        exact .inl ⟨id, _, heard, List.mem_of_mem_filter member⟩
    | submitted => cases member

end FlowState

/-! ## Grounded entries -/

/-- Announced devices and tested endpoints account for the entry. -/
structure ConfigEntry.Grounded (heard : DiscoveredDevice → Prop)
    (answered : String → Nat → Nat → Prop) (entry : ConfigEntry) :
    Prop where
  serial : ∀ serial, entry.data.serial = some serial →
    (∃ device, heard device ∧ device.serial = serial ∧
      device.ip = entry.data.host) ∧
    ∃ device, heard device ∧ device.serial = serial ∧
      entry.data.deviceType = some device.deviceType
  manual : entry.data.serial = none → ∃ port modbusId,
    entry.data.port = some port ∧ entry.data.modbusId = some modbusId ∧
      answered entry.data.host port modbusId
  modbusId : ∀ modbusId, entry.data.modbusId = some modbusId →
    ∃ host port, entry.data.port = some port ∧ answered host port modbusId

namespace FlowState

variable {heard : DiscoveredDevice → Prop}
  {answered : String → Nat → Nat → Prop}
  {state next : FlowState} {action : FlowAction}

structure Grounded (heard : DiscoveredDevice → Prop)
    (answered : String → Nat → Nat → Prop) (state : FlowState) : Prop where
  coherent : state.Coherent
  devices : ∀ device, state.Holds device → heard device
  entries : ∀ entry ∈ state.entries, entry.Grounded heard answered

/-- What is received has been heard, and what passes its test has answered. -/
def Evident (heard : DiscoveredDevice → Prop)
    (answered : String → Nat → Nat → Prop) (state : FlowState) :
    FlowAction → Prop
  | .datagram _ device | .announce device => heard device
  | .validated id none => ∀ uniqueId host port modbusId,
      state.flows id =
        some { uniqueId, step := .validating host port modbusId } →
      answered host port modbusId
  | _ => True

/-- What accounts for an entry still does when more has happened. -/
theorem Grounded.mono {heardLater : DiscoveredDevice → Prop}
    {answeredLater : String → Nat → Nat → Prop}
    (hears : ∀ device, heard device → heardLater device)
    (answers : ∀ host port modbusId, answered host port modbusId →
      answeredLater host port modbusId)
    (grounded : state.Grounded heard answered) :
    state.Grounded heardLater answeredLater where
  coherent := grounded.coherent
  devices := fun device holds => hears device (grounded.devices device holds)
  entries := by
    intro entry member
    have before := grounded.entries entry member
    constructor
    · intro serial tagged
      obtain ⟨⟨device, given, fields⟩, typed, givenType, type⟩ :=
        before.serial serial tagged
      exact ⟨⟨device, hears device given, fields⟩, typed,
        hears typed givenType, type⟩
    · intro untagged
      obtain ⟨port, modbusId, portGiven, idGiven, given⟩ :=
        before.manual untagged
      exact ⟨port, modbusId, portGiven, idGiven, answers _ _ _ given⟩
    · intro modbusId idGiven
      obtain ⟨host, port, portGiven, given⟩ :=
        before.modbusId modbusId idGiven
      exact ⟨host, port, portGiven, answers _ _ _ given⟩

theorem Created.grounded {id : FlowId} {uniqueId : String} {data : EntryData}
    (grounded : state.Grounded heard answered)
    (evident : state.Evident heard answered action)
    (origin : Created state id action uniqueId data) {entry : ConfigEntry}
    (given : entry.data = data) : entry.Grounded heard answered := by
  cases origin with
  | @selected _ devices device choice found chosen free unconfigured =>
      have known := grounded.devices device
        ⟨id, _, found, List.mem_of_find?_eq_some chosen⟩
      constructor <;> rw [given]
      · rintro serial ⟨⟩
        exact ⟨⟨device, known, rfl, rfl⟩, device, known, rfl, rfl⟩
      · intro untagged
        cases untagged
      · intro modbusId idGiven
        cases idGiven
  | @validated _ host port modbusId found =>
      have tested := evident _ host port modbusId found
      constructor <;> rw [given]
      · intro serial tagged
        cases tagged
      · intro untagged
        exact ⟨port, modbusId, rfl, rfl, tested⟩
      · rintro _ ⟨⟩
        exact ⟨host, port, rfl, tested⟩

theorem Grounded.announced {device : DiscoveredDevice}
    (grounded : state.Grounded heard answered) (given : heard device)
    {result : List ConfigEntry × Option EntryId}
    (announced : Announced state.entries device result) :
    ∀ entry ∈ result.1, entry.Grounded heard answered := by
  cases announced with
  | there member identified here => exact grounded.entries
  | unmatched unknown none_upgradable => exact grounded.entries
  | @moved entry member identified elsewhere =>
      intro after found
      obtain ⟨before, beforeMember, rfl⟩ := mem_updateEntry.mp found
      split
      case isFalse => exact grounded.entries before beforeMember
      case isTrue same =>
        obtain rfl := grounded.coherent.entries.eq_of_entryId beforeMember
          member same
        have tagged := (ConfigEntry.Tagged.of_uniqueId
          (grounded.coherent.entries.identity before member) identified).1
        have accounted := grounded.entries before member
        constructor
        · intro serial held
          obtain rfl : device.serial = serial :=
            Option.some.inj (tagged.symm.trans held)
          exact ⟨⟨device, given, rfl, rfl⟩,
            (accounted.serial device.serial tagged).2⟩
        · intro untagged
          cases tagged.symm.trans untagged
        · exact accounted.modbusId
  | @upgraded entry member unknown upgradable =>
      intro after found
      obtain ⟨before, beforeMember, rfl⟩ := mem_updateEntry.mp found
      split
      case isFalse => exact grounded.entries before beforeMember
      case isTrue same =>
        obtain rfl := grounded.coherent.entries.eq_of_entryId beforeMember
          member same
        constructor
        · rintro _ ⟨⟩
          exact ⟨⟨device, given, rfl, upgradable.1.symm⟩, device, given, rfl,
            rfl⟩
        · intro untagged
          cases untagged
        · exact (grounded.entries before member).modbusId

theorem Grounded.step (grounded : state.Grounded heard answered)
    (evident : state.Evident heard answered action)
    (stepped : state.step action = some next) :
    next.Grounded heard answered where
  coherent := grounded.coherent.step stepped
  devices := by
    intro device holds
    rcases holds.of_step stepped with before | ⟨id, rfl⟩
    · exact grounded.devices device before
    · exact evident
  entries := by
    cases stepped_of_step stepped with
    | moved moves =>
        rw [moves.same_entries.1]
        exact grounded.entries
    | submitted found unmatched free unconfigured => exact grounded.entries
    | created origin =>
        intro entry member
        rcases List.mem_append.mp member with old | new
        · exact grounded.entries entry old
        · rw [List.mem_singleton.mp new]
          exact origin.grounded grounded evident rfl
    | saved =>
        intro entry member
        obtain ⟨before, beforeMember, rfl⟩ := mem_updateEntry.mp member
        have accounted := grounded.entries before beforeMember
        split
        case isTrue =>
          exact ⟨accounted.serial, accounted.manual, accounted.modbusId⟩
        case isFalse => exact accounted
    | announced =>
        exact grounded.announced evident
          (handleAnnouncement_announced state.entries _)

theorem grounded_initial : initial.Grounded heard answered where
  coherent := coherent_initial
  devices := by
    rintro device ⟨id, flow, found, -⟩
    cases found
  entries := by
    intro entry member
    cases member

end FlowState

/-! ## Runs -/

/-- What neither receives a datagram nor ends a connection test. -/
def FlowAction.Internal : FlowAction → Prop
  | .datagram _ _ | .announce _ | .validated _ _ => False
  | _ => True

instance : DecidablePred FlowAction.Internal
  | .datagram _ _ | .announce _ | .validated _ _ => isFalse id
  | .openFlow | .closeFlow _ | .chooseDiscover _ | .chooseManual _
  | .discovered _ | .selectDevice _ _ | .submitManual _ _ _ _
  | .saveOptions _ _ => isTrue trivial

inductive OriginAction where
  | flow (action : FlowAction)
  /-- A datagram reaches the discovery window of a flow. -/
  | windowReceives (flow : FlowId) (datagram : Datagram)
  /-- A datagram reaches the shared listener. -/
  | listenerReceives (datagram : Datagram)
  /-- `_validate_connection` ends. -/
  | tested (flow : FlowId) (answers : ProbeAnswers)

def originStep (state : FlowState) : OriginAction → Option FlowState
  | .flow action => if action.Internal then state.step action else none
  | .windowReceives id datagram =>
      match datagramReceived datagram with
      | some (_, device) => state.step (.datagram id device)
      | none => some state
  | .listenerReceives datagram =>
      match datagramReceived datagram with
      | some (_, device) => state.step (.announce device)
      | none => some state
  | .tested id answers =>
      match state.flows id with
      | some { uniqueId, step := .validating host port modbusId } =>
          match ((validateConnection host port modbusId).runWith
              answers.handler ()).1 with
          | .ok error => state.step (.validated id error)
          -- the step raises, and the flow is left at its form
          | .error _ =>
              some (state.goTo id
                { uniqueId, step := .validating host port modbusId } .manual)
      | _ => none

/-- The config flows over the datagrams and answers that they get. -/
def originMachine : Machine FlowState OriginAction where
  init := .initial
  step := originStep

/-- A datagram of the device is received. -/
def Receives (device : DiscoveredDevice) (_ : FlowState) :
    OriginAction → Prop
  | .windowReceives _ datagram | .listenerReceives datagram =>
      datagramReceived datagram = some (device.serial, device)
  | _ => False

/-- A connection test of the endpoint is answered by the unit. -/
def Tests (host : String) (port modbusId : Nat) (state : FlowState) :
    OriginAction → Prop
  | .tested id answers => answers.Answered modbusId ∧ ∃ uniqueId,
      state.flows id =
        some { uniqueId, step := .validating host port modbusId }
  | _ => False

/-- The step of the flows that an action takes, if it takes one. -/
theorem FlowState.Grounded.originStep
    {heard : DiscoveredDevice → Prop}
    {answered : String → Nat → Nat → Prop} {state next : FlowState}
    {action : OriginAction} (grounded : state.Grounded heard answered)
    (hears : ∀ device, Receives device state action → heard device)
    (answers : ∀ host port modbusId, Tests host port modbusId state action →
      answered host port modbusId)
    (stepped : Airfi.originStep state action = some next) :
    next.Grounded heard answered := by
  cases action with
  | flow action =>
      obtain ⟨internal, stepped⟩ :=
        Option.ite_none_right_eq_some.mp stepped
      refine grounded.step ?_ stepped
      cases action with
      | datagram => exact internal.elim
      | announce => exact internal.elim
      | validated => exact internal.elim
      | _ => trivial
  | windowReceives id datagram =>
      simp only [Airfi.originStep] at stepped
      split at stepped
      case h_1 serial device received =>
        obtain ⟨-, rfl, -, -⟩ := carries_of_received received
        refine grounded.step ?_ stepped
        exact hears device received
      case h_2 =>
        cases stepped
        exact grounded
  | listenerReceives datagram =>
      simp only [Airfi.originStep] at stepped
      split at stepped
      case h_1 serial device received =>
        obtain ⟨-, rfl, -, -⟩ := carries_of_received received
        refine grounded.step ?_ stepped
        exact hears device received
      case h_2 =>
        cases stepped
        exact grounded
  | tested id given =>
      simp only [Airfi.originStep] at stepped
      split at stepped
      case h_2 => cases stepped
      case h_1 uniqueId host port modbusId found =>
        split at stepped
        case h_1 error ended =>
          refine grounded.step ?_ stepped
          cases error with
          | some text => trivial
          | none =>
              intro otherId otherHost otherPort otherModbusId same
              cases found.symm.trans same
              exact answers host port modbusId
                ⟨answered_of_validateConnection ended, uniqueId, found⟩
        case h_2 =>
          have failed : state.step (.validated id (some "")) = some next := by
            simp only [FlowState.step, found]
            exact stepped
          refine grounded.step ?_ failed
          trivial

/-- No entry is made up: a tagged entry has the serial, the host and the type
that received datagrams carried, and what was given by hand was tested and
answered as it is. -/
theorem entries_have_origin {actions : List OriginAction}
    {state : FlowState} (ran : originMachine.run actions = some state)
    {entry : ConfigEntry} (member : entry ∈ state.entries) :
    entry.Grounded
      (fun device => originMachine.Happened (Receives device) actions)
      (fun host port modbusId =>
        originMachine.Happened (Tests host port modbusId) actions) := by
  have grounded : state.Grounded
      (fun device => originMachine.Happened (Receives device) actions)
      (fun host port modbusId =>
        originMachine.Happened (Tests host port modbusId) actions) := by
    refine Machine.run_induction
      (fun actions state => state.Grounded
        (fun device => originMachine.Happened (Receives device) actions)
        (fun host port modbusId =>
          originMachine.Happened (Tests host port modbusId) actions))
      FlowState.grounded_initial ?_ ran
    intro before earlier action next ranBefore held stepped
    have later := held.mono
      (fun device happened => happened.snoc action)
      (fun host port modbusId happened => happened.snoc action)
    exact later.originStep
      (fun device received => Machine.happened_last ranBefore received)
      (fun host port modbusId tested =>
        Machine.happened_last ranBefore tested) stepped
  exact grounded.entries entry member

/-- A packet of unit 7 or 9. -/
def unitPacket (serial : UInt8) : List UInt8 :=
  [0, 0, 0, 0, 160, 15, serial, 0, 0, 0, 1, 3, 0, 0, 0]

/-- Unit 7 is discovered and moves; unit 9 is added by hand and announces. -/
def discoveredAndTested : List OriginAction :=
  [.flow .openFlow, .flow (.chooseDiscover 0),
    .windowReceives 0 (unitPacket 7, "10.0.0.7"), .flow (.discovered 0),
    .flow (.selectDevice 0 "7"), .flow .openFlow, .flow (.chooseManual 1),
    .flow (.submitManual 1 " 10.0.0.8 " none none),
    .tested 1 (probeAnswers (.registers [10])),
    .listenerReceives (unitPacket 9, "10.0.0.8"),
    .listenerReceives (unitPacket 7, "10.0.0.17")]

theorem entries_have_origin_discovered_and_tested :
    ∃ state, originMachine.run discoveredAndTested = some state ∧
      state.entries.map (fun entry => (entry.uniqueId, entry.data.host)) =
        [("7", "10.0.0.17"), ("9", "10.0.0.8")] ∧
      ∀ entry ∈ state.entries, entry.Grounded
        (fun device =>
          originMachine.Happened (Receives device) discoveredAndTested)
        (fun host port modbusId => originMachine.Happened
          (Tests host port modbusId) discoveredAndTested) := by
  have finishes : (originMachine.run discoveredAndTested).isSome := rfl
  obtain ⟨state, ran⟩ := Option.isSome_iff_exists.mp finishes
  have entries :
      state.entries.map (fun entry => (entry.uniqueId, entry.data.host)) =
        [("7", "10.0.0.17"), ("9", "10.0.0.8")] := by
    cases ran
    rfl
  exact ⟨state, ran, entries, fun entry member =>
    entries_have_origin ran member⟩

end Airfi
