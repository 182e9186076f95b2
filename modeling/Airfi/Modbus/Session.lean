import Airfi.Modbus.Operation

/-!
# A session against a handler

What one `session` of the client returns when every effect is answered by a
handler: the cancelled wait for the lock, the refused connect, and the body
with its exceptions translated.
-/

namespace Airfi

/-- What `_comm_error` makes of an exception of the body. -/
def translateError : PyError → PyError
  | .modbusException io text => commError io text
  | error => error

/-- The exceptions of a connect after which the client closes and raises. -/
def PyError.refusal : PyError → Option String
  | .osError text | .timeoutError text | .modbusException _ text => some text
  | _ => none

/-- What `_read_batch` makes of a reply. -/
def batchOfReply (start count : Nat) :
    ModbusReply → Except PyError RegisterMap
  | .registers values => .ok (RegisterMap.enumerate start values)
  | .errorResponse text =>
      .error (.airfiModbusError
        (AirfiModbusClient.readErrorText start count text))
  | .raised error => .error error

/-- What `read_input_register` makes of a reply, `data[address]` being the
first register of the batch. -/
def registerOfReply (address : Nat) : ModbusReply → Except PyError Nat
  | .registers (value :: _) => .ok value
  | .registers [] => .error (.keyError s!"{address}")
  | .errorResponse text =>
      .error (.airfiModbusError
        (AirfiModbusClient.readErrorText address 1 text))
  | .raised error => .error error

/-- What `write_register` makes of a reply. -/
def writtenOfReply (address value : Nat) : ModbusReply → Except PyError Unit
  | .registers _ => .ok ()
  | .errorResponse text =>
      .error (.airfiModbusError
        (s!"Device rejected write of {value} to register {address}: " ++
          s!"{text}"))
  | .raised error => .error error

section Handler

variable {σ α : Type}
  (handler : σ → (effect : ClientEffect) → ClientAnswer effect × σ)
  (client : AirfiModbusClient)

theorem translateModbusException_runWith (body : ClientProgram α)
    (state : σ) :
    (translateModbusException body).runWith handler state =
      ((body.runWith handler state).1.mapError translateError,
        (body.runWith handler state).2) := by
  rw [translateModbusException, Coroutine.runWith_tryExcept]
  rcases body.runWith handler state with ⟨error | value, after⟩
  · cases error <;> rfl
  · rfl

variable {locked connected ended : σ} {state : σ} {body : ClientProgram α}

theorem session_cancelled
    (cancelled : handler state .acquireLock = (LockReply.cancelled, locked)) :
    (client.session body).runWith handler state =
      (.error .cancelledError, locked) := by
  rw [AirfiModbusClient.session, withLock, acquireLock_bind_runWith,
    cancelled]
  rfl

/-- The state after the close and the release of the lock. -/
def closeAndRelease (state : σ) : σ :=
  (handler (handler state .close).2 .releaseLock).2

theorem session_connected {result : Except PyError α}
    (acquired : handler state .acquireLock = (LockReply.acquired, locked))
    (opened : handler locked .connect =
      (ConnectReply.returned true, connected))
    (ran : body.runWith handler connected = (result, ended)) :
    (client.session body).runWith handler state =
      (result.mapError translateError, closeAndRelease handler ended) := by
  rw [AirfiModbusClient.session, withLock, acquireLock_bind_runWith,
    acquired]
  simp only
  rw [Coroutine.runWith_tryFinally, Coroutine.bind_eq,
    Coroutine.runWith_bind, AirfiModbusClient.connect,
    clientConnect_bind_runWith, opened]
  simp only [Coroutine.pure_eq_done, Coroutine.runWith_done]
  rw [Coroutine.runWith_tryFinally, translateModbusException_runWith, ran]
  rfl

theorem session_unconnected
    (acquired : handler state .acquireLock = (LockReply.acquired, locked))
    (opened : handler locked .connect =
      (ConnectReply.returned false, connected)) :
    (client.session body).runWith handler state =
      (.error (.airfiConnectionError client.cannotConnect),
        closeAndRelease handler connected) := by
  rw [AirfiModbusClient.session, withLock, acquireLock_bind_runWith,
    acquired]
  simp only
  rw [Coroutine.runWith_tryFinally, Coroutine.bind_eq,
    Coroutine.runWith_bind, AirfiModbusClient.connect,
    clientConnect_bind_runWith, opened]
  rfl

theorem session_refused_by {error : PyError} {text : String}
    (acquired : handler state .acquireLock = (LockReply.acquired, locked))
    (opened : handler locked .connect =
      (ConnectReply.raised error, connected))
    (refusal : error.refusal = some text) :
    (client.session body).runWith handler state =
      (.error (.airfiConnectionError s!"{client.cannotConnect}: {text}"),
        closeAndRelease handler connected) := by
  rw [AirfiModbusClient.session, withLock, acquireLock_bind_runWith,
    acquired]
  simp only
  rw [Coroutine.runWith_tryFinally, Coroutine.bind_eq,
    Coroutine.runWith_bind, AirfiModbusClient.connect,
    clientConnect_bind_runWith, opened]
  cases error with
  | osError message =>
      cases refusal
      rfl
  | timeoutError message =>
      cases refusal
      rfl
  | modbusException io message =>
      cases refusal
      rfl
  | _ => cases refusal

/-- Every declared end of the connect but success. -/
theorem session_not_connected {reply : ConnectReply}
    (acquired : handler state .acquireLock = (LockReply.acquired, locked))
    (opened : handler locked .connect = (reply, connected))
    (declared : reply.Declared) (failed : reply ≠ .returned true) :
    ∃ text,
      (client.session body).runWith handler state =
        (.error (.airfiConnectionError text),
          closeAndRelease handler connected) := by
  cases reply with
  | returned success =>
      cases success with
      | true => exact (failed rfl).elim
      | false =>
          exact ⟨_, session_unconnected handler client acquired opened⟩
  | raised error =>
      cases error with
      | osError text =>
          exact ⟨_, session_refused_by handler client acquired opened rfl⟩
      | timeoutError text =>
          exact ⟨_, session_refused_by handler client acquired opened rfl⟩
      | modbusException io text =>
          exact ⟨_, session_refused_by handler client acquired opened rfl⟩
      | _ => exact declared.elim

/-- An exception that `_connect` does not list passes through, the lock
released and the client left open. -/
theorem session_escaped {error : PyError}
    (acquired : handler state .acquireLock = (LockReply.acquired, locked))
    (opened : handler locked .connect =
      (ConnectReply.raised error, connected))
    (refusal : error.refusal = none) :
    (client.session body).runWith handler state =
      (.error error, (handler connected .releaseLock).2) := by
  rw [AirfiModbusClient.session, withLock, acquireLock_bind_runWith,
    acquired]
  simp only
  rw [Coroutine.runWith_tryFinally, Coroutine.bind_eq,
    Coroutine.runWith_bind, AirfiModbusClient.connect,
    clientConnect_bind_runWith, opened]
  cases error with
  | osError message => cases refusal
  | timeoutError message => cases refusal
  | modbusException io message => cases refusal
  | _ => rfl

/-- A session that returns has the lock, a connection and a body that
returns. -/
theorem session_ok {value : α}
    (returned : ((client.session body).runWith handler state).1 =
      .ok value) :
    ∃ locked connected ended,
      handler state .acquireLock = (LockReply.acquired, locked) ∧
        handler locked .connect = (ConnectReply.returned true, connected) ∧
        body.runWith handler connected = (.ok value, ended) := by
  rcases acquired : handler state .acquireLock with ⟨reply, locked⟩
  cases reply with
  | cancelled =>
      rw [session_cancelled handler client acquired] at returned
      cases returned
  | acquired =>
      rcases opened : handler locked .connect with ⟨reply, connected⟩
      cases reply with
      | returned success =>
          cases success with
          | false =>
              rw [session_unconnected handler client acquired opened]
                at returned
              cases returned
          | true =>
              rcases ran : body.runWith handler connected with
                ⟨result, ended⟩
              rw [session_connected handler client acquired opened ran]
                at returned
              cases result with
              | ok value =>
                  cases returned
                  exact ⟨locked, connected, ended, rfl, opened, ran⟩
              | error error => cases returned
      | raised error =>
          cases refusal : error.refusal with
          | some text =>
              rw [session_refused_by handler client acquired opened refusal]
                at returned
              cases returned
          | none =>
              rw [session_escaped handler client acquired opened refusal]
                at returned
              cases returned

/-! ## Bodies -/

theorem readBatch_runWith (table : RegisterTable) (start count : Nat)
    (deviceId : Option Nat) (state : σ) :
    (client.readBatch table start count deviceId).runWith handler state =
      let request : ModbusRequest := .readRegisters table start count
        (deviceId.getD client.deviceId)
      (batchOfReply start count (handler state (.request request)).1,
        (handler state (.request request)).2) := by
  rw [AirfiModbusClient.readBatch, clientRequest_bind_runWith]
  simp only
  cases (handler state (.request (.readRegisters table start count
    (deviceId.getD client.deviceId)))).1 <;> rfl

/-- The loop over the batches, each served in the states that `holds` is
true of. -/
theorem readBatches_runWith {holds : σ → Prop} {table : RegisterTable}
    {registers : Nat → Nat} {batches : List Batch}
    (served : ∀ batch ∈ batches, ∀ state, holds state → ∃ after,
      (client.readBatch table batch.1 batch.2 none).runWith handler state =
          (.ok (snapshot registers [batch]), after) ∧
        holds after)
    (done : List Batch) (state : σ) (initially : holds state) :
    ∃ after,
      (client.readBatches table batches (snapshot registers done)).runWith
          handler state =
        (.ok (snapshot registers (done ++ batches)), after) ∧
      holds after := by
  induction batches generalizing done state with
  | nil =>
      rw [List.append_nil]
      exact ⟨state, rfl, initially⟩
  | cons batch rest ih =>
      obtain ⟨middle, ran, holdsMiddle⟩ :=
        served batch List.mem_cons_self state initially
      obtain ⟨after, continued, holdsAfter⟩ :=
        ih (fun other member => served other (List.mem_cons_of_mem _ member))
          (done ++ [batch]) middle holdsMiddle
      refine ⟨after, ?_, holdsAfter⟩
      rw [AirfiModbusClient.readBatches, Coroutine.bind_eq,
        Coroutine.runWith_bind, ran]
      simp only [snapshot_update]
      rw [continued, List.append_assoc, List.singleton_append]

/-- The body of `read_input_register`. -/
def readInputRegisterBody (address : Nat) (deviceId : Option Nat) :
    ClientProgram Nat := do
  let batch ← client.readBatch .input address 1 deviceId
  match batch address with
  | some value => pure value
  | none => .raise (.keyError s!"{address}")

theorem readInputRegisterBody_runWith (address : Nat)
    (deviceId : Option Nat) (state : σ) :
    (readInputRegisterBody client address deviceId).runWith handler state =
      let request : ModbusRequest := .readRegisters .input address 1
        (deviceId.getD client.deviceId)
      (registerOfReply address (handler state (.request request)).1,
        (handler state (.request request)).2) := by
  rw [readInputRegisterBody, Coroutine.bind_eq, Coroutine.runWith_bind,
    readBatch_runWith]
  simp only
  cases (handler state (.request (.readRegisters .input address 1
      (deviceId.getD client.deviceId)))).1 with
  | registers values =>
      cases values <;>
        simp [batchOfReply, registerOfReply, RegisterMap.enumerate]
  | errorResponse text => rfl
  | raised error => rfl

theorem exists_registers_of_ok {address value : Nat} {reply : ModbusReply}
    (read : registerOfReply address reply = .ok value) :
    ∃ rest, reply = .registers (value :: rest) := by
  cases reply with
  | registers values =>
      cases values with
      | nil => cases read
      | cons first rest =>
          cases read
          exact ⟨rest, rfl⟩
  | errorResponse text => cases read
  | raised error => cases read

/-- The body of `write_register`. -/
def writeRegisterBody (address value : Nat) : ClientProgram Unit := do
  let request : ModbusRequest := .writeRegister address value client.deviceId
  match ← clientRequest request with
  | .raised error => .raise error
  | .errorResponse text =>
      .raise (.airfiModbusError
        (s!"Device rejected write of {value} to register {address}: " ++
          s!"{text}"))
  | .registers _ => pure ()

theorem writeRegisterBody_runWith (address value : Nat) (state : σ) :
    (writeRegisterBody client address value).runWith handler state =
      let request : ModbusRequest :=
        .writeRegister address value client.deviceId
      (writtenOfReply address value (handler state (.request request)).1,
        (handler state (.request request)).2) := by
  rw [writeRegisterBody, clientRequest_bind_runWith]
  simp only
  cases (handler state (.request (.writeRegister address value
    client.deviceId))).1 <;> rfl

end Handler

end Airfi
