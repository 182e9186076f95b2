import Airfi.Modbus.Operation

/-!
# Phases of a client call

What a call does to the lock and the connection of its client, whatever it is
answered: it may be cancelled anywhere, and connects and requests may end with
any exception.  A connection is open from the connect that returned true to
the close.
-/

namespace Airfi

inductive Phase where
  | idle
  | locked
  | opened
  | closed
  deriving DecidableEq

namespace Phase

def Allows : Phase → ClientEffect → Prop
  | .idle, .acquireLock => True
  | .locked, .connect => True
  | .opened, .request _ => True
  | .opened, .close => True
  | .closed, .close => True
  | .closed, .releaseLock => True
  | _, _ => False

/-- The phase after an effect and its answer. -/
def after (phase : Phase) :
    (effect : ClientEffect) → ClientAnswer effect → Phase
  | .acquireLock, LockReply.acquired => .locked
  | .acquireLock, LockReply.cancelled => phase
  | .connect, ConnectReply.returned true => .opened
  | .connect, ConnectReply.returned false => .closed
  | .connect, ConnectReply.raised _ => .closed
  | .request _, _ => phase
  | .close, _ => .closed
  | .releaseLock, _ => .idle

end Phase

def phaseProtocol : Coroutine.Protocol Phase ClientEffect ClientAnswer where
  allowed := Phase.Allows
  answers := fun phase effect reply next => next = phase.after effect reply

/-- The program ends in the phase that it begins in. -/
def Stays (phase : Phase) {α : Type} (program : ClientProgram α) : Prop :=
  program.Follows phaseProtocol (fun reached _ => reached = phase) phase

namespace Stays

variable {phase : Phase} {α β : Type}

theorem done (value : α) :
    Stays phase (.done value : ClientProgram α) := rfl

theorem raise (error : PyError) :
    Stays phase (.raise error : ClientProgram α) := rfl

theorem bind {program : ClientProgram α} {next : α → ClientProgram β}
    (first : Stays phase program) (second : ∀ value, Stays phase (next value)) :
    Stays phase (program.bind next) := by
  apply Coroutine.Follows.bind
  apply first.mono
  intro reached result same
  cases result with
  | ok value =>
      rw [same]
      exact second value
  | error error => exact same

theorem outcome {program : ClientProgram α} (first : Stays phase program) :
    Stays phase program.outcome := by
  apply (Coroutine.Follows.outcome first).mono
  intro reached ended found
  obtain ⟨_, _, same⟩ := found
  exact same

theorem translate {program : ClientProgram α} (first : Stays phase program) :
    Stays phase (translateModbusException program) := by
  apply Coroutine.Follows.tryExcept
  apply first.mono
  intro reached result same
  cases result with
  | ok value => exact same
  | error error =>
      cases error with
      | modbusException io text => exact same
      | _ => exact same

end Stays

section Session

variable {α : Type} {client : AirfiModbusClient}

/-- After a connect that did not return true, only the lock is held. -/
theorem releaseLock_from_closed (post : Phase → Except PyError α → Prop)
    (result : Except PyError α) (ends : post .idle result) :
    releaseLock.Follows phaseProtocol (Coroutine.cleanupPost post result)
      .closed := by
  refine ⟨trivial, ?_⟩
  intro _ _ released
  obtain rfl := released
  exact ends

theorem connectFailed_to_idle (message : String)
    (next : Unit → ClientProgram α) :
    ((AirfiModbusClient.connectFailed message).bind next).Follows
      phaseProtocol
      (Coroutine.finallyPost phaseProtocol (fun reached _ => reached = .idle)
        releaseLock) .closed := by
  refine ⟨trivial, ?_⟩
  intro _ _ closed
  obtain rfl := closed
  exact releaseLock_from_closed _ _ rfl

/-- A session frees the lock and leaves nothing open. -/
theorem session_stays {body : ClientProgram α}
    (requests : Stays .opened body) : Stays .idle (client.session body) := by
  refine ⟨trivial, ?_⟩
  intro reply next answered
  obtain rfl := answered
  cases reply with
  | cancelled => rfl
  | acquired =>
      apply Coroutine.Follows.tryFinally
      refine ⟨trivial, ?_⟩
      intro reply next answered
      obtain rfl := answered
      cases reply with
      | returned connected =>
          cases connected with
          | true =>
              apply Coroutine.Follows.tryFinally
              apply requests.translate.mono
              intro reached result same
              rw [same]
              refine ⟨trivial, ?_⟩
              intro _ _ closed
              obtain rfl := closed
              exact releaseLock_from_closed _ _ rfl
          | false => exact connectFailed_to_idle _ _
      | raised error =>
          cases error with
          | osError text => exact connectFailed_to_idle _ _
          | timeoutError text => exact connectFailed_to_idle _ _
          | modbusException io text => exact connectFailed_to_idle _ _
          | _ => exact releaseLock_from_closed _ _ rfl

variable (client)

theorem readBatch_stays (table : RegisterTable) (start count : Nat)
    (deviceId : Option Nat) :
    Stays .opened (client.readBatch table start count deviceId) := by
  refine ⟨trivial, ?_⟩
  intro reply next answered
  obtain rfl := answered
  cases reply with
  | registers values => exact Stays.done _
  | errorResponse text => exact Stays.raise _
  | raised error => exact Stays.raise _

theorem readBatches_stays (table : RegisterTable) (batches : List Batch)
    (data : RegisterMap) :
    Stays .opened (client.readBatches table batches data) := by
  induction batches generalizing data with
  | nil => exact Stays.done data
  | cons batch rest ih =>
      exact (readBatch_stays client table batch.1 batch.2 none).bind
        fun read => ih (data.update read)

theorem readAll_stays (extra : Option Batch) :
    Stays .idle (client.readAll extra) := by
  apply session_stays
  apply (readBatches_stays client .input _ _).bind
  intro input
  apply (readBatches_stays client .holding _ _).bind
  intro holding
  exact Stays.done _

theorem readHoldingBatch_stays (start count : Nat) :
    Stays .idle (client.readHoldingBatch start count) :=
  session_stays (readBatch_stays client .holding start count none)

theorem readInputBatch_stays (start count : Nat) :
    Stays .idle (client.readInputBatch start count) :=
  session_stays (readBatch_stays client .input start count none)

theorem readInputRegister_stays (address : Nat) (deviceId : Option Nat) :
    Stays .idle (client.readInputRegister address deviceId) := by
  apply session_stays
  apply (readBatch_stays client .input address 1 deviceId).bind
  intro batch
  cases batch address with
  | some value => exact Stays.done value
  | none => exact Stays.raise _

theorem writeRegister_stays (address value : Nat) :
    Stays .idle (client.writeRegister address value) := by
  apply session_stays
  refine ⟨trivial, ?_⟩
  intro reply next answered
  obtain rfl := answered
  cases reply with
  | registers values => exact Stays.done _
  | errorResponse text => exact Stays.raise _
  | raised error => exact Stays.raise _

end Session

end Airfi
