import Airfi.Machine
import Airfi.Modbus.Operation

/-!
# Polls of one coordinator

`asyncUpdateData` over a scripted device: for each poll the registers, how
the two connects end and how each batch is answered.  The first poll reads
the extension batch on its own and tolerates its failure; every later poll
has it inside `readAll`.
-/

namespace Airfi

/-- The fields of the coordinator that its polls read and set. -/
structure AirfiCoordinator where
  client : AirfiModbusClient
  versionChecked : Bool
  inputExtension : Option Batch

namespace AirfiCoordinator

def init (client : AirfiModbusClient) : AirfiCoordinator :=
  { client
    versionChecked := false
    inputExtension := none }

/-- The first extension whose minimum version is reached. -/
def chooseExtension (reported : Option Nat) : Option Batch :=
  match reported with
  | none => none
  | some version =>
      (inputExtensionBatches.find? fun extension =>
        decide (extension.1 ≤ version)).map Prod.snd

/-- `except (AirfiConnectionError, AirfiModbusError) as err`, which turns a
failed poll into `UpdateFailed`. -/
def updateFailed : PyError → PyError
  | .airfiConnectionError text => .updateFailed text
  | .airfiModbusError text => .updateFailed text
  | error => error

/-- The one-time version check of the first data. -/
def checkVersion (self : AirfiCoordinator) (data : AirfiData) :
    AirfiCoordinator :=
  { self with
    versionChecked := true
    inputExtension :=
      (chooseExtension (data.input 3)).or self.inputExtension }

/-- The first read of the chosen extension, whose failure is only logged. -/
def readExtension (self : AirfiCoordinator) (data : AirfiData) :
    ClientProgram (Except PyError AirfiData × AirfiCoordinator) := do
  match self.inputExtension with
  | none => pure (.ok data, self)
  | some (start, count) =>
      match ← (self.client.readInputBatch start count).outcome with
      | .ok batch =>
          pure (.ok { data with input := data.input.update batch }, self)
      | .error (.airfiConnectionError _) | .error (.airfiModbusError _) =>
          pure (.ok data, self)
      | .error error => pure (.error error, self)

/-- `_async_update_data`: how it ends, and the coordinator after it. -/
def asyncUpdateData (self : AirfiCoordinator) :
    ClientProgram (Except PyError AirfiData × AirfiCoordinator) := do
  match ← (self.client.readAll self.inputExtension).outcome with
  | .error error => pure (.error (updateFailed error), self)
  | .ok data =>
      if self.versionChecked then pure (.ok data, self)
      else (self.checkVersion data).readExtension data

end AirfiCoordinator

/-! ## A scripted device -/

/-- How pymodbus ends a batch request. -/
inductive BatchOutcome where
  | answered
  | errorResponse (text : String)
  | modbusException (io : Bool) (text : String)
  deriving DecidableEq

/-- How the device behaves during one poll.  No register is read twice in a
poll, so one table of contents covers registers that change meanwhile. -/
structure PollBehaviour where
  device : Device
  connect : ConnectReply
  connectDeclared : connect.Declared
  /-- The connect of the separate extension read, where there is one. -/
  extensionConnect : ConnectReply
  extensionDeclared : extensionConnect.Declared
  batch : RegisterTable → Batch → BatchOutcome

namespace PollBehaviour

def reply (behaviour : PollBehaviour) (table : RegisterTable)
    (start count : Nat) : ModbusReply :=
  match behaviour.batch table (start, count) with
  | .answered => .registers (behaviour.device.registers table start count)
  | .errorResponse text => .errorResponse text
  | .modbusException io text => .raised (.modbusException io text)

def connectReply (behaviour : PollBehaviour) : Nat → ConnectReply
  | 0 => behaviour.connect
  | _ => behaviour.extensionConnect

/-- Answers an effect, counting the connects so far. -/
def handler (behaviour : PollBehaviour) (connects : Nat) :
    (effect : ClientEffect) → ClientAnswer effect × Nat
  | .acquireLock => (LockReply.acquired, connects)
  | .connect => (behaviour.connectReply connects, connects + 1)
  | .request (.readRegisters table start count _) =>
      (behaviour.reply table start count, connects)
  | .request (.writeRegister ..) => (ModbusReply.registers [], connects)
  | .close => ((), connects)
  | .releaseLock => ((), connects)

/-- All batches of the list are answered without error. -/
def Serves (behaviour : PollBehaviour) (table : RegisterTable)
    (batches : List Batch) : Prop :=
  ∀ batch ∈ batches, behaviour.batch table batch = .answered

instance (behaviour : PollBehaviour) (table : RegisterTable)
    (batches : List Batch) : Decidable (behaviour.Serves table batches) :=
  inferInstanceAs (Decidable (∀ batch ∈ batches, _))

/-- The connection for the base batches succeeds and all of them are
answered without error. -/
def ServesBase (behaviour : PollBehaviour) : Prop :=
  behaviour.connect = .returned true ∧
    behaviour.Serves .input inputRegisterBatches ∧
    behaviour.Serves .holding holdingRegisterBatches

instance (behaviour : PollBehaviour) : Decidable behaviour.ServesBase :=
  inferInstanceAs (Decidable (_ ∧ _))

end PollBehaviour

namespace AirfiCoordinator

/-- One whole poll. -/
def poll (self : AirfiCoordinator) (behaviour : PollBehaviour) :
    Except PyError AirfiData × AirfiCoordinator :=
  match (self.asyncUpdateData.runWith behaviour.handler 0).1 with
  | .ok ended => ended
  | .error error => (.error error, self)

end AirfiCoordinator

/-- The polls of one coordinator, in order. -/
def pollMachine (client : AirfiModbusClient) :
    Machine AirfiCoordinator PollBehaviour where
  init := .init client
  step self behaviour := some (self.poll behaviour).2

end Airfi
