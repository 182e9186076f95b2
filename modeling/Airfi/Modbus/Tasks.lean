import Airfi.Machine
import Airfi.Modbus.Operation

/-!
# Any number of operations on one client

The tasks of one `AirfiModbusClient` interleave at every effect: a step
answers the effect that one task awaits.  The lock is granted in any order,
connects and requests end in every way, and the device may change by itself.
-/

namespace Airfi

/-- What the tasks of one client share.  The two histories are newest first:
the operations in lock order and the requests in sending order. -/
structure Bus where
  device : Device
  lockedBy : Option TaskId
  /-- Set from the connect call on, whatever it returns, until the close. -/
  connectedBy : Option TaskId
  order : List (TaskId × Operation)
  log : List (TaskId × ModbusRequest)

/-- How the environment answers the effect that a task awaits. -/
inductive BusChoice where
  | lock (reply : LockReply)
  | connect (reply : ConnectReply)
  | respond (outcome : Outcome)
  /-- Any reply at all, and any registers after it. -/
  | disturb (reply : ModbusReply) (device : Device)
  | proceed

namespace Bus

def answer (bus : Bus) (task : TaskId) (operation : Operation) :
    (effect : ClientEffect) → BusChoice → Option (ClientAnswer effect × Bus)
  | .acquireLock, .lock .acquired =>
      if bus.lockedBy = none then
        some (LockReply.acquired,
          { bus with
            lockedBy := some task
            order := (task, operation) :: bus.order })
      else none
  | .acquireLock, .lock .cancelled => some (LockReply.cancelled, bus)
  | .connect, .connect reply =>
      if reply.Declared then
        some (reply, { bus with connectedBy := some task })
      else none
  | .request request, .respond outcome =>
      some ((bus.device.respond request outcome).1,
        { bus with
          device := (bus.device.respond request outcome).2
          log := (task, request) :: bus.log })
  | .request request, .disturb reply device =>
      some (reply,
        { bus with device, log := (task, request) :: bus.log })
  | .close, .proceed => some ((), { bus with connectedBy := none })
  | .releaseLock, .proceed => some ((), { bus with lockedBy := none })
  | _, _ => none

end Bus

/-- A running call with the part of it that is left. -/
structure Task where
  operation : Operation
  program : ClientProgram OperationResult

structure ClientState where
  bus : Bus
  calls : TaskId → Option Operation
  tasks : TaskId → Option Task
  results : TaskId → Option (Except PyError OperationResult)
  nextTask : TaskId

inductive ClientAction where
  | start (operation : Operation)
  | run (task : TaskId) (choice : BusChoice)
  /-- The device changes its registers by itself. -/
  | deviceChanges (device : Device)

/-- Registers change only through writes, and requests are answered from
them. -/
def ClientAction.ThroughClient : ClientAction → Prop
  | .run _ (.disturb _ _) => False
  | .deviceChanges _ => False
  | _ => True

namespace ClientState

def initial (device : Device) : ClientState :=
  { bus :=
      { device
        lockedBy := none
        connectedBy := none
        order := []
        log := [] }
    calls := fun _ => none
    tasks := fun _ => none
    results := fun _ => none
    nextTask := 0 }

/-- The call ends, and its result is kept. -/
def finish (state : ClientState) (bus : Bus) (id : TaskId)
    (result : Except PyError OperationResult) : ClientState :=
  { state with
    bus
    tasks := Function.update state.tasks id none
    results := Function.update state.results id (some result) }

/-- Go on with what is left of the call. -/
def settle (state : ClientState) (bus : Bus) (id : TaskId)
    (operation : Operation) :
    ClientProgram OperationResult → ClientState
  | .done result => state.finish bus id (.ok result)
  | .raise error => state.finish bus id (.error error)
  | .perform effect resume =>
      { state with
        bus
        tasks := Function.update state.tasks id
          (some { operation, program := .perform effect resume }) }

@[simp] theorem settle_bus (state : ClientState) (bus : Bus)
    (id : TaskId) (operation : Operation)
    (program : ClientProgram OperationResult) :
    (state.settle bus id operation program).bus = bus := by
  cases program <;> rfl

def run (state : ClientState) (id : TaskId) (choice : BusChoice) :
    Option ClientState :=
  match state.tasks id with
  | some { operation, program := .perform effect resume } =>
      match state.bus.answer id operation effect choice with
      | some (answer, bus) =>
          some (state.settle bus id operation (resume answer))
      | none => none
  | _ => none

def step (client : AirfiModbusClient) (state : ClientState) :
    ClientAction → Option ClientState
  | .start operation =>
      some { state with
        calls := Function.update state.calls state.nextTask (some operation)
        tasks := Function.update state.tasks state.nextTask
          (some { operation, program := operation.program client })
        nextTask := state.nextTask + 1 }
  | .run id choice => state.run id choice
  | .deviceChanges device =>
      some { state with bus := { state.bus with device } }

end ClientState

def clientMachine (client : AirfiModbusClient) (device : Device) :
    Machine ClientState ClientAction where
  init := .initial device
  step := ClientState.step client

end Airfi
