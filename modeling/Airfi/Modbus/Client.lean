import Airfi.Const
import Airfi.Coroutine

/-!
# The Modbus client

`AirfiModbusClient` as coroutines over the effects of its lock and of its
pymodbus client.  Every operation is one `session`: the lock, the connect,
the body whose `ModbusException`s are translated, and the close that runs on
every exit of the body.
-/

namespace Airfi

/-- The exceptions that reach or leave the client and the coordinator. -/
inductive PyError where
  /-- `ModbusException`; `io` marks the subclass `ModbusIOException`. -/
  | modbusException (io : Bool) (text : String)
  | osError (text : String)
  | timeoutError (text : String)
  | airfiConnectionError (text : String)
  | airfiModbusError (text : String)
  | updateFailed (text : String)
  | keyError (text : String)
  | cancelledError
  | other (text : String)
  deriving DecidableEq

inductive RegisterTable where
  | input
  | holding
  deriving DecidableEq

inductive ModbusRequest where
  /-- `read_input_registers` or `read_holding_registers`. -/
  | readRegisters (table : RegisterTable) (address count deviceId : Nat)
  | writeRegister (address value deviceId : Nat)
  deriving DecidableEq

inductive ConnectReply where
  | returned (connected : Bool)
  | raised (error : PyError)
  deriving DecidableEq

/-- How an awaited request ends. -/
inductive ModbusReply where
  /-- A response that is no error, with its `registers`. -/
  | registers (values : List Nat)
  /-- A response whose `isError()` is true, with its text. -/
  | errorResponse (text : String)
  | raised (error : PyError)
  deriving DecidableEq

inductive LockReply where
  | acquired
  /-- The waiting task was cancelled. -/
  | cancelled
  deriving DecidableEq

inductive ClientEffect where
  | acquireLock
  | connect
  | request (request : ModbusRequest)
  | close
  | releaseLock
  deriving DecidableEq

def ClientAnswer : ClientEffect → Type
  | .acquireLock => LockReply
  | .connect => ConnectReply
  | .request _ => ModbusReply
  | .close => Unit
  | .releaseLock => Unit

abbrev ClientProgram := Coroutine ClientEffect ClientAnswer PyError

/-- `await self._lock.acquire()`. -/
def acquireLock : ClientProgram LockReply :=
  Coroutine.effect ClientEffect.acquireLock

def releaseLock : ClientProgram Unit :=
  Coroutine.effect ClientEffect.releaseLock

/-- `await self._client.connect()`. -/
def clientConnect : ClientProgram ConnectReply :=
  Coroutine.effect ClientEffect.connect

/-- A request awaited on `self._client`. -/
def clientRequest (request : ModbusRequest) : ClientProgram ModbusReply :=
  Coroutine.effect (ClientEffect.request request)

/-- `self._client.close()`. -/
def clientClose : ClientProgram Unit :=
  Coroutine.effect ClientEffect.close

section RunWith

variable {σ α : Type}
  (handler : σ → (effect : ClientEffect) → ClientAnswer effect × σ)

@[simp] theorem acquireLock_bind_runWith
    (next : LockReply → ClientProgram α) (state : σ) :
    (acquireLock >>= next).runWith handler state =
      (next (handler state .acquireLock).1).runWith handler
        (handler state .acquireLock).2 := rfl

@[simp] theorem clientConnect_bind_runWith
    (next : ConnectReply → ClientProgram α) (state : σ) :
    (clientConnect >>= next).runWith handler state =
      (next (handler state .connect).1).runWith handler
        (handler state .connect).2 := rfl

@[simp] theorem clientRequest_bind_runWith (request : ModbusRequest)
    (next : ModbusReply → ClientProgram α) (state : σ) :
    (clientRequest request >>= next).runWith handler state =
      (next (handler state (.request request)).1).runWith handler
        (handler state (.request request)).2 := rfl

@[simp] theorem clientClose_runWith (state : σ) :
    clientClose.runWith handler state =
      (.ok (), (handler state .close).2) := rfl

@[simp] theorem releaseLock_runWith (state : σ) :
    releaseLock.runWith handler state =
      (.ok (), (handler state .releaseLock).2) := rfl

end RunWith

/-- A `dict[int, int]` from 1-based addresses to register values. -/
abbrev RegisterMap := Nat → Option Nat

namespace RegisterMap

def empty : RegisterMap := fun _ => none

/-- `self.update(other)`. -/
def update (self other : RegisterMap) : RegisterMap :=
  fun address => (other address).or (self address)

/-- `{start + i: value for i, value in enumerate(registers)}`. -/
def enumerate (start : Nat) (registers : List Nat) : RegisterMap :=
  fun address =>
    if start ≤ address then registers[address - start]? else none

end RegisterMap

structure AirfiData where
  input : RegisterMap
  holding : RegisterMap

structure AirfiModbusClient where
  host : String
  port : Nat
  deviceId : Nat

/-- The message of `_comm_error`. -/
def commErrorText (io : Bool) (text : String) : String :=
  let message := s!"Modbus communication error: {text}"
  if io then
    message ++ " (connected but no response — this often means a wrong" ++
      " Modbus device ID)"
  else message

def commError (io : Bool) (text : String) : PyError :=
  .airfiModbusError (commErrorText io text)

/-- `async with self._lock`; nothing is held when the wait is cancelled. -/
def withLock {α : Type} (body : ClientProgram α) : ClientProgram α := do
  match ← acquireLock with
  | .cancelled => .raise .cancelledError
  | .acquired => body.tryFinally releaseLock

/-- `except ModbusException as err: raise _comm_error(err) from err`. -/
def translateModbusException {α : Type} (body : ClientProgram α) :
    ClientProgram α :=
  body.tryExcept fun
    | .modbusException io text => .raise (commError io text)
    | error => .raise error

namespace AirfiModbusClient

variable (self : AirfiModbusClient)

def cannotConnect : String :=
  s!"Cannot connect to Airfi device at {self.host}:{self.port}"

/-- Close and raise, the end of both failing branches of `_connect`. -/
def connectFailed (message : String) : ClientProgram Unit := do
  clientClose
  .raise (.airfiConnectionError message)

/-- `_connect`.  Only the three listed exceptions close the client. -/
def connect : ClientProgram Unit := do
  match ← clientConnect with
  | .returned true => pure ()
  | .returned false => connectFailed self.cannotConnect
  | .raised (.osError text) | .raised (.timeoutError text)
  | .raised (.modbusException _ text) =>
      connectFailed s!"{self.cannotConnect}: {text}"
  | .raised error => .raise error

/-- The message of a batch that is answered by an error response. -/
def readErrorText (start count : Nat) (text : String) : String :=
  s!"Modbus error reading registers {start}-{start + count - 1}: {text}"

def readBatch (table : RegisterTable) (start count : Nat)
    (deviceId : Option Nat) : ClientProgram RegisterMap := do
  let request : ModbusRequest :=
    .readRegisters table start count (deviceId.getD self.deviceId)
  match ← clientRequest request with
  | .raised error => .raise error
  | .errorResponse text =>
      .raise (.airfiModbusError (readErrorText start count text))
  | .registers values => pure (RegisterMap.enumerate start values)

/-- One of the two batch loops of `read_all`. -/
def readBatches (table : RegisterTable) :
    List Batch → RegisterMap → ClientProgram RegisterMap
  | [], data => pure data
  | (start, count) :: rest, data => do
      let batch ← self.readBatch table start count none
      readBatches table rest (data.update batch)

/-- The lock, the connect, and the body between `try` and `finally`. -/
def session {α : Type} (body : ClientProgram α) : ClientProgram α :=
  withLock do
    self.connect
    (translateModbusException body).tryFinally clientClose

def readAll (extraInputBatch : Option Batch) : ClientProgram AirfiData :=
  self.session do
    let inputBatches := inputRegisterBatches ++ extraInputBatch.toList
    let input ← self.readBatches .input inputBatches RegisterMap.empty
    let holding ←
      self.readBatches .holding holdingRegisterBatches RegisterMap.empty
    pure { input, holding }

def readHoldingBatch (start count : Nat) : ClientProgram RegisterMap :=
  self.session (self.readBatch .holding start count none)

def readInputBatch (start count : Nat) : ClientProgram RegisterMap :=
  self.session (self.readBatch .input start count none)

def readInputRegister (address : Nat) (deviceId : Option Nat) :
    ClientProgram Nat :=
  self.session do
    let batch ← self.readBatch .input address 1 deviceId
    match batch address with
    | some value => pure value
    | none => .raise (.keyError s!"{address}")

def writeRegister (address value : Nat) : ClientProgram Unit :=
  self.session do
    let request : ModbusRequest := .writeRegister address value self.deviceId
    match ← clientRequest request with
    | .raised error => .raise error
    | .errorResponse text =>
        .raise (.airfiModbusError
          (s!"Device rejected write of {value} to register {address}: " ++
            s!"{text}"))
    | .registers _ => pure ()

end AirfiModbusClient

end Airfi
