import Airfi.Modbus.Session
import Airfi.Simulator.Responses

/-!
# The client against the simulator

The operations of the client against the simulator: each request is encoded,
answered by `build_response` and decoded.  Every exchange is one of the ways
in which a device with the registers of the store can treat the request.
-/

namespace Airfi

open Packing

/-- The store, and the transaction number of the next request. -/
structure Simulation where
  store : RegisterStore
  transaction : UInt16

namespace Simulation

/-- A request over the wire, and the simulation after it. -/
def exchange (transport : Transport) (simulation : Simulation)
    (request : ModbusRequest) : ModbusReply × Simulation :=
  match encodeRequest simulation.transaction request with
  | none => (.raised (transport.unencodable request), simulation)
  | some frame =>
      match buildResponse simulation.store frame with
      | .error _ =>
          (.raised (transport.unanswered request),
            { simulation with transaction := simulation.transaction + 1 })
      | .ok (response, store) =>
          ((decodeResponse transport simulation.transaction request
              response).getD (.raised (transport.unanswered request)),
            { store, transaction := simulation.transaction + 1 })

/-- The simulation behind an uncontended client that reaches it. -/
def handler (transport : Transport) (simulation : Simulation) :
    (effect : ClientEffect) → ClientAnswer effect × Simulation
  | .acquireLock => (LockReply.acquired, simulation)
  | .connect => (ConnectReply.returned true, simulation)
  | .request request => simulation.exchange transport request
  | .close => ((), simulation)
  | .releaseLock => ((), simulation)

def run (transport : Transport) (client : AirfiModbusClient)
    (simulation : Simulation) (operation : Operation) :
    Except PyError OperationResult × Simulation :=
  (operation.program client).runWith (handler transport) simulation

/-- One operation after the other. -/
def after (transport : Transport) (client : AirfiModbusClient)
    (simulation : Simulation) (operations : List Operation) : Simulation :=
  operations.foldl
    (fun reached operation => (reached.run transport client operation).2)
    simulation

/-- The simulation with the next transaction number. -/
def answered (simulation : Simulation) (store : RegisterStore) :
    Simulation :=
  { store, transaction := simulation.transaction + 1 }

section Exchange

variable {transport : Transport} {simulation : Simulation}
  {request : ModbusRequest}

theorem exchange_unencodable (unencodable : ¬ request.Encodable) :
    simulation.exchange transport request =
      (.raised (transport.unencodable request), simulation) := by
  rw [exchange, encodeRequest_eq_none unencodable]

/-- An exchange whose response is a frame of the request. -/
theorem exchange_of_isFrame {frame body response : List UInt8}
    {function : Nat} {store : RegisterStore} {reply : ModbusReply}
    (encoded : encodeRequest simulation.transaction request = some frame)
    (built : buildResponse simulation.store frame = .ok (response, store))
    (isFrame : IsFrame simulation.transaction.toNat request.unit function
      body response)
    (decoded : decodeBody transport request function body = some reply) :
    simulation.exchange transport request =
      (reply, simulation.answered store) := by
  rw [exchange, encoded]
  simp only [built]
  rw [decodeResponse_of_isFrame isFrame, decoded]
  rfl

variable {table : RegisterTable} {address count value unit : Nat}

theorem exchange_read (wellFormed : simulation.store.WellFormed)
    (encodable : (ModbusRequest.readRegisters table address count
      unit).Encodable)
    (serves : simulation.store.Serves table address count) :
    simulation.exchange transport (.readRegisters table address count unit) =
      (.registers (simulation.store.device.registers table address count),
        simulation.answered simulation.store) := by
  obtain ⟨frame, encoded, header, words⟩ :=
    @encodeRequest_of_encodable simulation.transaction _ encodable
  obtain ⟨response, body, built, isFrame, isRead⟩ := readResponse_of_serves
    wellFormed serves simulation.transaction.toNat_lt encodable.1
  have size : (simulation.store.device.registers table address
      count).length ≤ maxRegistersPerRead := by
    rw [Device.registers, List.length_map, List.length_range']
    exact serves.1
  apply exchange_of_isFrame encoded ?built isFrame ?decoded
  case built =>
    rw [buildResponse_of_header header]
    refine (respond_read words).trans ?_
    rw [built]
    rfl
  case decoded =>
    refine Eq.trans decodeBody_reply ?_
    rw [decodeReply, decodeWords_of_isReadBody size isRead]
    rfl

theorem exchange_read_refused
    (encodable : (ModbusRequest.readRegisters table address count
      unit).Encodable)
    (refused : ¬ simulation.store.Serves table address count) :
    simulation.exchange transport (.readRegisters table address count unit) =
      (.errorResponse (transport.exceptionText (table.readFunction ||| 0x80)
          illegalDataAddress), simulation.answered simulation.store) := by
  obtain ⟨frame, encoded, header, words⟩ :=
    @encodeRequest_of_encodable simulation.transaction _ encodable
  obtain ⟨response, built, isFrame⟩ := readResponse_of_not_serves
    refused simulation.transaction.toNat_lt encodable.1
  apply exchange_of_isFrame encoded ?built isFrame ?decoded
  case built =>
    rw [buildResponse_of_header header]
    refine (respond_read words).trans ?_
    rw [built]
    rfl
  case decoded => exact decodeBody_exception (by decide)

theorem exchange_write
    (encodable : (ModbusRequest.writeRegister address value
      unit).Encodable)
    (present : (simulation.store.holdingRegisters address).isSome) :
    simulation.exchange transport (.writeRegister address value unit) =
      (.registers [],
        simulation.answered (simulation.store.write address value)) := by
  obtain ⟨frame, encoded, header, words⟩ :=
    @encodeRequest_of_encodable simulation.transaction _ encodable
  obtain ⟨addressFits, valueFits⟩ :
      address < 65536 ∧ value < 65536 := by
    simpa [ModbusRequest.words] using encodable.2
  obtain ⟨response, body, built, isFrame, isEcho⟩ := writeResponse_of_present
    present simulation.transaction.toNat_lt encodable.1 addressFits valueFits
  apply exchange_of_isFrame encoded ?built isFrame ?decoded
  case built =>
    rw [buildResponse_of_header header]
    exact (respond_write words).trans built
  case decoded =>
    refine Eq.trans decodeBody_reply ?_
    rw [decodeReply, unpack_of_pack isEcho]
    rfl

theorem exchange_write_refused
    (encodable : (ModbusRequest.writeRegister address value
      unit).Encodable)
    (absent : simulation.store.holdingRegisters address = none) :
    simulation.exchange transport (.writeRegister address value unit) =
      (.errorResponse (transport.exceptionText (writeSingleFunction ||| 0x80)
          illegalDataAddress), simulation.answered simulation.store) := by
  obtain ⟨frame, encoded, header, words⟩ :=
    @encodeRequest_of_encodable simulation.transaction _ encodable
  obtain ⟨response, built, isFrame⟩ := @writeResponse_of_absent _ _ value _ _
    absent simulation.transaction.toNat_lt encodable.1
  apply exchange_of_isFrame encoded ?built isFrame ?decoded
  case built =>
    rw [buildResponse_of_header header]
    exact (respond_write words).trans built
  case decoded => exact decodeBody_exception (by decide)

/-- Every exchange is an outcome that the device can have. -/
theorem exchange_responds (wellFormed : simulation.store.WellFormed)
    (request : ModbusRequest) :
    ∃ outcome, simulation.store.device.respond request outcome =
      ((simulation.exchange transport request).1,
        (simulation.exchange transport request).2.store.device) := by
  by_cases encodable : request.Encodable
  · cases request with
    | readRegisters table address count unit =>
        by_cases serves : simulation.store.Serves table address count
        · refine ⟨.answered, ?_⟩
          rw [exchange_read wellFormed encodable serves]
          rfl
        · refine ⟨.rejected (transport.exceptionText
            (table.readFunction ||| 0x80) illegalDataAddress), ?_⟩
          rw [exchange_read_refused encodable serves]
          rfl
    | writeRegister address value unit =>
        cases found : simulation.store.holdingRegisters address with
        | some before =>
            refine ⟨.answered, ?_⟩
            rw [exchange_write encodable (Option.isSome_of_eq_some found),
              answered, RegisterStore.device_write]
            rfl
        | none =>
            refine ⟨.rejected (transport.exceptionText
              (writeSingleFunction ||| 0x80) illegalDataAddress), ?_⟩
            rw [exchange_write_refused encodable found]
            rfl
  · refine ⟨.failed (transport.unencodable request) false, ?_⟩
    rw [exchange_unencodable encodable]
    cases request <;> rfl

/-- What the store is, apart from the values of its holding registers. -/
def Keeps (inputs : RegisterMap) (simulation : Simulation) : Prop :=
  simulation.store.WellFormed ∧ simulation.store.inputRegisters = inputs

theorem exchange_keeps {inputs : RegisterMap}
    (keeps : simulation.Keeps inputs) (request : ModbusRequest) :
    (simulation.exchange transport request).2.Keeps inputs := by
  obtain ⟨wellFormed, same⟩ := keeps
  rw [exchange]
  cases encodeRequest simulation.transaction request with
  | none => exact ⟨wellFormed, same⟩
  | some frame =>
      simp only
      cases built : buildResponse simulation.store frame with
      | error error => exact ⟨wellFormed, same⟩
      | ok answer =>
          obtain ⟨kept, inputs⟩ := buildResponse_wellFormed wellFormed built
          exact ⟨kept, inputs.trans same⟩

end Exchange

/-! ## Operations -/

section Run

variable {transport : Transport} {client : AirfiModbusClient}
  {simulation : Simulation} {inputs : RegisterMap}

theorem run_keeps (keeps : simulation.Keeps inputs) (operation : Operation) :
    (simulation.run transport client operation).2.Keeps inputs := by
  apply Coroutine.runWith_preserves _ ?answers _ _ keeps
  intro state effect kept
  cases effect with
  | request request => exact exchange_keeps kept request
  | acquireLock => exact kept
  | connect => exact kept
  | close => exact kept
  | releaseLock => exact kept

theorem after_keeps (keeps : simulation.Keeps inputs)
    (operations : List Operation) :
    (simulation.after transport client operations).Keeps inputs := by
  induction operations generalizing simulation with
  | nil => exact keeps
  | cons operation rest ih => exact ih (run_keeps keeps operation)

/-- The simulation stands for the device of a session that began on
`before`. -/
def Stands (before : Device) : SessionState → Simulation → Prop
  | .waiting, simulation =>
      simulation.store.WellFormed ∧ simulation.store.device = before
  | .locked start, simulation =>
      simulation.store.WellFormed ∧ simulation.store.device = before ∧
        start = before
  | .opened start now, simulation | .closed start now, simulation
  | .released start now, simulation =>
      simulation.store.WellFormed ∧ simulation.store.device = now ∧
        start = before
  | .abandoned, _ => False

/-- The simulated device is an honest one. -/
theorem stands_answers {before : Device} (ghost : SessionState)
    (simulation : Simulation) (effect : ClientEffect)
    (stands : Stands before ghost simulation)
    (allowed : (sessionProtocol True).allowed ghost effect) :
    ∃ next,
      (sessionProtocol True).answers ghost effect
          (handler transport simulation effect).1 next ∧
        Stands before next (handler transport simulation effect).2 := by
  cases ghost with
  | waiting =>
      cases effect with
      | acquireLock =>
          exact ⟨.locked before, ⟨before, rfl⟩, stands.1, stands.2, rfl⟩
      | _ => exact allowed.elim
  | locked start =>
      obtain ⟨wellFormed, same, rfl⟩ := stands
      cases effect with
      | connect =>
          exact ⟨.opened start start, ⟨trivial, rfl⟩, wellFormed, same, rfl⟩
      | _ => exact allowed.elim
  | opened start now =>
      obtain ⟨wellFormed, rfl, rfl⟩ := stands
      cases effect with
      | request request =>
          obtain ⟨outcome, responded⟩ :=
            @exchange_responds transport simulation wellFormed request
          exact ⟨_, ⟨_, rfl, fun _ => ⟨outcome, responded⟩⟩,
            (exchange_keeps ⟨wellFormed, rfl⟩ request).1, rfl, rfl⟩
      | close => exact ⟨_, rfl, wellFormed, rfl, rfl⟩
      | _ => exact allowed.elim
  | closed start now =>
      obtain ⟨wellFormed, rfl, rfl⟩ := stands
      cases effect with
      | releaseLock => exact ⟨_, rfl, wellFormed, rfl, rfl⟩
      | _ => exact allowed.elim
  | released start now => exact allowed.elim
  | abandoned => exact stands.elim

/-- An operation against the simulator does to its registers what it does to
a device on its own. -/
theorem run_performs (wellFormed : simulation.store.WellFormed)
    (operation : Operation) :
    Performed operation.perform simulation.store.device
      (simulation.run transport client operation).2.store.device
      (simulation.run transport client operation).1 := by
  have follows := @Operation.program_follows True client operation
  obtain ⟨ended, ends, stands⟩ := follows.runWith _ stands_answers
    (show Stands simulation.store.device .waiting simulation from
      ⟨wellFormed, rfl⟩)
  cases ended with
  | released start now =>
      obtain ⟨-, rfl, rfl⟩ := stands
      exact ends trivial
  | abandoned => exact stands.elim
  | _ => exact ends.elim

end Run

end Simulation

end Airfi
