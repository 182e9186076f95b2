import Airfi.Coordinator.Cache
import Airfi.Coordinator.Poll
import Airfi.Modbus.Phases

/-!
# Jobs that use a client

The three kinds of work for which a config entry connects to its device: a
refresh of its coordinator, an entity write and a probe of its options flow.
Each begins and ends with the client idle.
-/

namespace Airfi

namespace AirfiCoordinator

/-- `async_write_value` of a coordinator that has data, as it has from its
first refresh on. -/
def asyncWriteValue (self : AirfiCoordinator) (address value : Nat) :
    ClientProgram (Except PyError Unit) := do
  match ← (self.client.writeRegister address value).outcome with
  | .error (.airfiConnectionError text) | .error (.airfiModbusError text) =>
      pure (.error (.other s!"Writing register {address} failed: {text}"))
  | .error error => pure (.error error)
  | .ok () =>
      match confirmedBatch address with
      | none => pure (.ok ())
      | some (start, count) =>
          match ← (self.client.readHoldingBatch start count).outcome with
          | .ok _ => pure (.ok ())
          | .error (.airfiConnectionError _)
          | .error (.airfiModbusError _) => pure (.ok ())
          | .error error => pure (.error error)

theorem asyncUpdateData_stays (self : AirfiCoordinator) :
    Stays .idle self.asyncUpdateData := by
  apply (readAll_stays self.client self.inputExtension).outcome.bind
  intro result
  cases result with
  | error error => exact Stays.done _
  | ok data =>
      simp only
      split
      · exact Stays.done _
      · rw [readExtension]
        split
        · exact Stays.done _
        · apply (readInputBatch_stays _ _ _).outcome.bind
          intro extension
          split
          · exact Stays.done _
          · exact Stays.done _
          · exact Stays.done _
          · exact Stays.done _

theorem asyncWriteValue_stays (self : AirfiCoordinator)
    (address value : Nat) :
    Stays .idle (self.asyncWriteValue address value) := by
  apply (writeRegister_stays self.client address value).outcome.bind
  intro result
  split
  · exact Stays.done _
  · exact Stays.done _
  · exact Stays.done _
  · split
    · exact Stays.done _
    · apply (readHoldingBatch_stays self.client _ _).outcome.bind
      intro confirmed
      split
      · exact Stays.done _
      · exact Stays.done _
      · exact Stays.done _
      · exact Stays.done _

end AirfiCoordinator

/-- The read and the `except` clauses of `_async_validate_modbus_id`. -/
def asyncValidateModbusId (client : AirfiModbusClient)
    (deviceId : Option Nat) : ClientProgram (Option String) := do
  match ← (client.readInputRegister 1 deviceId).outcome with
  | .ok _ => pure none
  | .error (.airfiConnectionError _) => pure (some "cannot_connect")
  | .error (.airfiModbusError _) => pure (some "no_response")
  | .error error => .raise error

theorem asyncValidateModbusId_stays (client : AirfiModbusClient)
    (deviceId : Option Nat) :
    Stays .idle (asyncValidateModbusId client deviceId) := by
  apply (readInputRegister_stays client 1 deviceId).outcome.bind
  intro result
  split
  · exact Stays.done _
  · exact Stays.done _
  · exact Stays.done _
  · exact Stays.raise _

end Airfi
