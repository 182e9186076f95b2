import Airfi.Modbus.Client

/-!
# Client operations and what they mean

`Operation.perform` states what an operation does to a device when it runs
alone.  `program_follows` proves, against the protocol of one session, that
every path of the five operations takes the lock, connects, sends requests,
closes and only then releases, whatever the device answers, and that a path
which returns has done exactly what `perform` says where the device answers
from its registers.
-/

namespace Airfi

/-- The registers of a device. -/
structure Device where
  input : Nat → Nat
  holding : Nat → Nat

namespace Device

def table (device : Device) : RegisterTable → Nat → Nat
  | .input => device.input
  | .holding => device.holding

def registers (device : Device) (table : RegisterTable)
    (start count : Nat) : List Nat :=
  (List.range' start count).map (device.table table)

def write (device : Device) (address value : Nat) : Device :=
  { device with
    holding := fun other =>
      if other = address then value else device.holding other }

end Device

/-- How the device and the transport treat a request. -/
inductive Outcome where
  | answered
  | rejected (text : String)
  /-- The await raises; a write may have reached the device nevertheless. -/
  | failed (error : PyError) (reached : Bool)
  deriving DecidableEq

namespace Device

def respond (device : Device) :
    ModbusRequest → Outcome → ModbusReply × Device
  | .readRegisters table start count _, .answered =>
      (.registers (device.registers table start count), device)
  | .writeRegister address value _, .answered =>
      (.registers [], device.write address value)
  | .readRegisters .., .failed error _ => (.raised error, device)
  | .writeRegister address value _, .failed error reached =>
      (.raised error,
        if reached then device.write address value else device)
  | _, .rejected text => (.errorResponse text, device)

end Device

def Batch.Covers (batch : Batch) (address : Nat) : Prop :=
  batch.1 ≤ address ∧ address < batch.1 + batch.2

instance (batch : Batch) (address : Nat) :
    Decidable (batch.Covers address) :=
  inferInstanceAs (Decidable (_ ∧ _))

/-- The register values at exactly the addresses of the batches. -/
def snapshot (table : Nat → Nat) (batches : List Batch) : RegisterMap :=
  fun address =>
    if ∃ batch ∈ batches, batch.Covers address then some (table address)
    else none

/-- The number of a running call. -/
abbrev TaskId := Nat

inductive Operation where
  | readAll (extraInputBatch : Option Batch)
  | readHoldingBatch (start count : Nat)
  | readInputBatch (start count : Nat)
  | readInputRegister (address : Nat) (deviceId : Option Nat)
  | writeRegister (address value : Nat)
  deriving DecidableEq

inductive OperationResult where
  | data (data : AirfiData)
  | batch (registers : RegisterMap)
  | value (value : Nat)
  | written

namespace Operation

/-- The operation as the client runs it. -/
def program (client : AirfiModbusClient) :
    Operation → ClientProgram OperationResult
  | .readAll extra => do
      let data ← client.readAll extra
      pure (.data data)
  | .readHoldingBatch start count => do
      let registers ← client.readHoldingBatch start count
      pure (.batch registers)
  | .readInputBatch start count => do
      let registers ← client.readInputBatch start count
      pure (.batch registers)
  | .readInputRegister address deviceId => do
      let value ← client.readInputRegister address deviceId
      pure (.value value)
  | .writeRegister address value => do
      client.writeRegister address value
      pure .written

/-- What `read_all` returns of a device that does not change meanwhile. -/
def snapshotData (extra : Option Batch) (device : Device) : AirfiData :=
  { input := snapshot device.input (inputRegisterBatches ++ extra.toList)
    holding := snapshot device.holding holdingRegisterBatches }

/-- The operation on its own, as one step of the device. -/
def perform (device : Device) : Operation → OperationResult × Device
  | .readAll extra => (.data (snapshotData extra device), device)
  | .readHoldingBatch start count =>
      (.batch (snapshot device.holding [(start, count)]), device)
  | .readInputBatch start count =>
      (.batch (snapshot device.input [(start, count)]), device)
  | .readInputRegister address _ => (.value (device.input address), device)
  | .writeRegister address value => (.written, device.write address value)

end Operation

/-! ## The protocol of a session -/

/-- The connect replies that `_connect` is written for. -/
def ConnectReply.Declared : ConnectReply → Prop
  | .returned _ => True
  | .raised (.osError _) | .raised (.timeoutError _)
  | .raised (.modbusException _ _) => True
  | .raised _ => False

instance : DecidablePred ConnectReply.Declared
  | .returned _ => isTrue trivial
  | .raised (.osError _) | .raised (.timeoutError _)
  | .raised (.modbusException _ _) => isTrue trivial
  | .raised (.airfiConnectionError _) | .raised (.airfiModbusError _)
  | .raised (.updateFailed _) | .raised (.keyError _)
  | .raised .cancelledError | .raised (.other _) => isFalse id

/-- Where an operation stands, with the device as it was when the operation
got the lock and as it is now. -/
inductive SessionState where
  | waiting
  | locked (before : Device)
  | opened (before now : Device)
  | closed (before now : Device)
  | released (before after : Device)
  | abandoned

/-- From the connect call to the close the connection counts as open.
`honest` says that requests are answered from the registers of the device;
without it they may be answered by anything. -/
def sessionProtocol (honest : Prop) :
    Coroutine.Protocol SessionState ClientEffect ClientAnswer where
  allowed
    | .waiting, .acquireLock => True
    | .locked _, .connect => True
    | .opened _ _, .request _ => True
    | .opened _ _, .close => True
    | .closed _ _, .releaseLock => True
    | _, _ => False
  answers
    | .waiting, .acquireLock, reply, next =>
        match reply with
        | LockReply.acquired => ∃ device, next = .locked device
        | LockReply.cancelled => next = .abandoned
    | .locked before, .connect, reply, next =>
        ConnectReply.Declared reply ∧ next = .opened before before
    | .opened before now, .request request, reply, next =>
        ∃ after, next = .opened before after ∧
          (honest → ∃ outcome,
            now.respond request outcome = (reply, after))
    | .opened before now, .close, _, next => next = .closed before now
    | .closed before now, .releaseLock, _, next =>
        next = .released before now
    | _, _, _, _ => False

/-- A returned result is the one of `perform`; an exception leaves the device
alone or has its whole effect. -/
def Performed {α : Type} (perform : Device → α × Device)
    (before after : Device) : Except PyError α → Prop
  | .ok result => perform before = (result, after)
  | .error _ => after = before ∨ after = (perform before).2

section Bracket

variable {honest : Prop} {α β : Type}

/-- How a session ends: released, or given up while waiting for the lock. -/
def SessionEnds (honest : Prop) (perform : Device → α × Device) :
    SessionState → Except PyError α → Prop
  | .released before after, result =>
      honest → Performed perform before after result
  | .abandoned, .error _ => True
  | _, _ => False

/-- How the body of a session that began on `before` ends. -/
def BodyEnds (honest : Prop) (perform : Device → α × Device)
    (before : Device) : SessionState → Except PyError α → Prop
  | .opened start now, result =>
      start = before ∧ (honest → Performed perform before now result)
  | _, _ => False

theorem translateModbusException_follows {body : ClientProgram α}
    {perform : Device → α × Device} {before : Device}
    {state : SessionState}
    (follows : body.Follows (sessionProtocol honest)
      (BodyEnds honest perform before) state) :
    (translateModbusException body).Follows (sessionProtocol honest)
      (BodyEnds honest perform before) state := by
  apply Coroutine.Follows.tryExcept
  apply follows.mono
  intro reached result ends
  cases result with
  | ok value => exact ends
  | error error =>
      cases error with
      | modbusException io text =>
          -- The translated error is an error too, so the device part stays.
          cases reached <;> exact ends
      | _ => exact ends

/-- The body between `try` and `finally`, with its close and the release. -/
theorem closing_follows {body : ClientProgram α}
    {perform : Device → α × Device} {before : Device}
    (follows : body.Follows (sessionProtocol honest)
      (BodyEnds honest perform before) (.opened before before)) :
    ((translateModbusException body).tryFinally clientClose).Follows
      (sessionProtocol honest)
      (Coroutine.finallyPost (sessionProtocol honest)
        (SessionEnds honest perform) releaseLock)
      (.opened before before) := by
  apply Coroutine.Follows.tryFinally
  apply (translateModbusException_follows follows).mono
  intro reached result ends
  cases reached with
  | opened start now =>
      obtain ⟨rfl, performed⟩ := ends
      refine ⟨trivial, ?_⟩
      intro _ _ closed
      obtain rfl := closed
      refine ⟨trivial, ?_⟩
      intro _ _ released
      obtain rfl := released
      exact performed
  | _ => exact ends.elim

theorem connectFailed_follows {perform : Device → α × Device}
    (message : String) (before : Device) (next : Unit → ClientProgram α) :
    ((AirfiModbusClient.connectFailed message).bind next).Follows
      (sessionProtocol honest)
      (Coroutine.finallyPost (sessionProtocol honest)
        (SessionEnds honest perform) releaseLock)
      (.opened before before) := by
  refine ⟨trivial, ?_⟩
  intro _ _ closed
  obtain rfl := closed
  refine ⟨trivial, ?_⟩
  intro _ _ released
  obtain rfl := released
  exact fun _ => .inl rfl

/-- A session keeps the bracket, whatever its body does with the requests. -/
theorem session_follows (client : AirfiModbusClient)
    {body : ClientProgram α} {perform : Device → α × Device}
    (follows : ∀ before, body.Follows (sessionProtocol honest)
      (BodyEnds honest perform before) (.opened before before)) :
    (client.session body).Follows (sessionProtocol honest)
      (SessionEnds honest perform) .waiting := by
  refine ⟨trivial, ?_⟩
  intro reply next answered
  cases reply with
  | cancelled =>
      obtain rfl := answered
      trivial
  | acquired =>
      obtain ⟨before, rfl⟩ := answered
      apply Coroutine.Follows.tryFinally
      refine ⟨trivial, ?_⟩
      intro reply _ connected
      obtain ⟨declared, rfl⟩ := connected
      cases reply with
      | returned connected =>
          cases connected with
          | true => exact closing_follows (follows before)
          | false => exact connectFailed_follows _ before _
      | raised error =>
          cases error with
          | osError text => exact connectFailed_follows _ before _
          | timeoutError text => exact connectFailed_follows _ before _
          | modbusException io text =>
              exact connectFailed_follows _ before _
          | _ => exact declared.elim

/-- How a body that only reads ends, `value` being what an honest device has
it return. -/
def ReadEnds (honest : Prop) (before : Device) (value : α) :
    SessionState → Except PyError α → Prop
  | .opened start now, .ok result =>
      start = before ∧ (honest → now = before ∧ result = value)
  | .opened start now, .error _ => start = before ∧ (honest → now = before)
  | _, _ => False

/-- A reading body, from any state of its session that it can start in. -/
def Reads (honest : Prop) (device : Device) (value : α)
    (program : ClientProgram α) : Prop :=
  ∀ now, (honest → now = device) →
    program.Follows (sessionProtocol honest) (ReadEnds honest device value)
      (.opened device now)

theorem Reads.done {device : Device} {value result : α}
    (known : honest → result = value) :
    Reads honest device value (.done result) :=
  fun _ same => ⟨rfl, fun answers => ⟨same answers, known answers⟩⟩

theorem Reads.raise {device : Device} {value : α} (error : PyError) :
    Reads honest device value (.raise error) :=
  fun _ same => ⟨rfl, same⟩

theorem Reads.bind {device : Device} {value : α} {result : β}
    {program : ClientProgram α} {next : α → ClientProgram β}
    (first : Reads honest device value program)
    (second : ∀ read, (honest → read = value) →
      Reads honest device result (next read)) :
    Reads honest device result (program.bind next) := by
  intro now same
  apply Coroutine.Follows.bind
  apply (first now same).mono
  intro reached ended ends
  cases reached with
  | opened start after =>
      cases ended with
      | ok read =>
          obtain ⟨rfl, known⟩ := ends
          exact second read (fun answers => (known answers).2) after
            (fun answers => (known answers).1)
      | error error => exact ends
  | _ => exact ends.elim

theorem Reads.body {perform : Device → α × Device} {before : Device}
    {value : α} {program : ClientProgram α}
    (performed : perform before = (value, before))
    (reads : Reads honest before value program) :
    program.Follows (sessionProtocol honest)
      (BodyEnds honest perform before) (.opened before before) := by
  apply (reads before fun _ => rfl).mono
  intro reached ended ends
  cases reached with
  | opened start now =>
      cases ended with
      | ok result =>
          refine ⟨ends.1, ?_⟩
          intro answers
          obtain ⟨rfl, rfl⟩ := ends.2 answers
          exact performed
      | error error => exact ⟨ends.1, fun answers => .inl (ends.2 answers)⟩
  | _ => exact ends.elim

end Bracket

/-! ## The loop over the batches -/

theorem enumerate_registers (table : Nat → Nat) (start count : Nat) :
    RegisterMap.enumerate start ((List.range' start count).map table) =
      snapshot table [(start, count)] := by
  funext address
  simp only [RegisterMap.enumerate, snapshot, List.mem_singleton,
    exists_eq_left, Batch.Covers]
  by_cases below : start ≤ address
  · rw [if_pos below, List.getElem?_map]
    by_cases inside : address < start + count
    · have index : address - start < count := by omega
      have element : (List.range' start count)[address - start]? =
          some address := by
        rw [List.getElem?_range' index]
        congr 1
        omega
      rw [element, if_pos ⟨below, inside⟩]
      rfl
    · have outside : (List.range' start count).length ≤ address - start := by
        rw [List.length_range']
        omega
      rw [List.getElem?_eq_none outside, if_neg (fun both => inside both.2)]
      rfl
  · rw [if_neg below, if_neg (fun both => below both.1)]

theorem snapshot_update (table : Nat → Nat) (done : List Batch)
    (batch : Batch) :
    (snapshot table done).update (snapshot table [batch]) =
      snapshot table (done ++ [batch]) := by
  funext address
  have split : (∃ other ∈ done ++ [batch], Batch.Covers other address) ↔
      (∃ other ∈ done, Batch.Covers other address) ∨
        batch.Covers address := by
    simp [or_and_right, exists_or]
  by_cases covered : batch.Covers address
  · simp [RegisterMap.update, snapshot, covered]
  · have rest : (∃ other ∈ done ++ [batch], Batch.Covers other address) ↔
        ∃ other ∈ done, Batch.Covers other address := by
      rw [split, or_iff_left covered]
    simp only [RegisterMap.update, snapshot, List.mem_singleton,
      exists_eq_left, if_neg covered, Option.none_or]
    exact (if_congr rest rfl rfl).symm

theorem snapshot_nil (table : Nat → Nat) :
    snapshot table [] = RegisterMap.empty := by
  funext address
  simp [snapshot, RegisterMap.empty]

section Bodies

variable {honest : Prop} (client : AirfiModbusClient)

theorem readBatch_reads (table : RegisterTable) (start count : Nat)
    (deviceId : Option Nat) (device : Device) :
    Reads honest device (snapshot (device.table table) [(start, count)])
      (client.readBatch table start count deviceId) := by
  intro now same
  refine ⟨trivial, ?_⟩
  intro reply next answered
  obtain ⟨after, rfl, honestly⟩ := answered
  have unchanged : honest → after = device := by
    intro answers
    obtain ⟨outcome, responded⟩ := honestly answers
    rw [← same answers]
    cases outcome <;> exact (Prod.mk.inj responded).2.symm
  cases reply with
  | raised error => exact Reads.raise error after unchanged
  | errorResponse text => exact Reads.raise _ after unchanged
  | registers values =>
      apply Reads.done _ after unchanged
      intro answers
      obtain ⟨outcome, responded⟩ := honestly answers
      rw [← same answers, ← enumerate_registers]
      cases outcome with
      | answered =>
          obtain ⟨read, -⟩ := Prod.mk.inj responded
          cases read
          rfl
      | rejected text => cases (Prod.mk.inj responded).1
      | failed error reached => cases (Prod.mk.inj responded).1

/-- The loop: the accumulator is the snapshot of the batches read so far. -/
theorem readBatches_reads (table : RegisterTable)
    (batches done : List Batch) (device : Device) (data : RegisterMap)
    (known : honest → data = snapshot (device.table table) done) :
    Reads honest device (snapshot (device.table table) (done ++ batches))
      (client.readBatches table batches data) := by
  induction batches generalizing done data with
  | nil =>
      rw [List.append_nil]
      exact Reads.done known
  | cons batch rest ih =>
      obtain ⟨start, count⟩ := batch
      apply Reads.bind (readBatch_reads client table start count none device)
      intro read readKnown
      have accumulated : honest → data.update read =
          snapshot (device.table table) (done ++ [(start, count)]) := by
        intro answers
        rw [known answers, readKnown answers, snapshot_update]
      have continued := ih (done ++ [(start, count)]) _ accumulated
      rw [List.append_assoc] at continued
      exact continued

theorem allBatches_reads (table : RegisterTable) (batches : List Batch)
    (device : Device) :
    Reads honest device (snapshot (device.table table) batches)
      (client.readBatches table batches RegisterMap.empty) :=
  readBatches_reads client table batches [] device RegisterMap.empty
    (fun _ => (snapshot_nil _).symm)

/-! ## The five operations -/

theorem readAll_follows (extra : Option Batch) :
    (client.readAll extra).Follows (sessionProtocol honest)
      (SessionEnds honest fun device =>
        (Operation.snapshotData extra device, device)) .waiting := by
  apply session_follows
  intro before
  apply Reads.body rfl
  apply Reads.bind (allBatches_reads client .input _ before)
  intro input inputKnown
  apply Reads.bind (allBatches_reads client .holding _ before)
  intro holding holdingKnown
  apply Reads.done
  intro answers
  rw [inputKnown answers, holdingKnown answers]
  rfl

theorem readHoldingBatch_follows (start count : Nat) :
    (client.readHoldingBatch start count).Follows (sessionProtocol honest)
      (SessionEnds honest fun device =>
        (snapshot device.holding [(start, count)], device)) .waiting := by
  apply session_follows
  intro before
  apply Reads.body rfl
  exact readBatch_reads client .holding start count none before

theorem readInputBatch_follows (start count : Nat) :
    (client.readInputBatch start count).Follows (sessionProtocol honest)
      (SessionEnds honest fun device =>
        (snapshot device.input [(start, count)], device)) .waiting := by
  apply session_follows
  intro before
  apply Reads.body rfl
  exact readBatch_reads client .input start count none before

theorem readInputRegister_follows (address : Nat)
    (deviceId : Option Nat) :
    (client.readInputRegister address deviceId).Follows
      (sessionProtocol honest)
      (SessionEnds honest fun device => (device.input address, device))
      .waiting := by
  apply session_follows
  intro before
  apply Reads.body rfl
  apply Reads.bind (readBatch_reads client .input address 1 deviceId before)
  intro read readKnown
  have present : honest → read address = some (before.input address) := by
    intro answers
    rw [readKnown answers]
    simp [snapshot, Batch.Covers, Device.table]
  cases found : read address with
  | none =>
      -- `batch[address]` raises only where the reply was not the device's.
      exact Reads.raise _
  | some value =>
      apply Reads.done
      intro answers
      exact Option.some.inj (found.symm.trans (present answers))

theorem writeRegister_follows (address value : Nat) :
    (client.writeRegister address value).Follows (sessionProtocol honest)
      (SessionEnds honest fun device => ((), device.write address value))
      .waiting := by
  apply session_follows
  intro before
  refine ⟨trivial, ?_⟩
  intro reply next answered
  obtain ⟨after, rfl, honestly⟩ := answered
  have applied : honest → after = before ∨
      after = before.write address value := by
    intro answers
    obtain ⟨outcome, responded⟩ := honestly answers
    cases outcome with
    | answered => exact .inr (Prod.mk.inj responded).2.symm
    | rejected text => exact .inl (Prod.mk.inj responded).2.symm
    | failed error reached =>
        cases reached with
        | true => exact .inr (Prod.mk.inj responded).2.symm
        | false => exact .inl (Prod.mk.inj responded).2.symm
  cases reply with
  | raised error => exact ⟨rfl, applied⟩
  | errorResponse text => exact ⟨rfl, applied⟩
  | registers values =>
      refine ⟨rfl, ?_⟩
      intro answers
      obtain ⟨outcome, responded⟩ := honestly answers
      cases outcome with
      | answered =>
          exact Prod.ext rfl (Prod.mk.inj responded).2
      | rejected text => cases (Prod.mk.inj responded).1
      | failed error reached => cases (Prod.mk.inj responded).1

/-- Packing the result keeps what the session performed. -/
theorem SessionEnds.pack {α β : Type} {perform : Device → α × Device}
    {packed : Device → β × Device} {program : ClientProgram α}
    (pack : α → β)
    (packs : ∀ device,
      packed device = (pack (perform device).1, (perform device).2))
    (follows : program.Follows (sessionProtocol honest)
      (SessionEnds honest perform) .waiting) :
    (program.bind fun value => .done (pack value)).Follows
      (sessionProtocol honest) (SessionEnds honest packed) .waiting := by
  apply Coroutine.Follows.bind
  apply follows.mono
  intro reached ended ends
  cases reached with
  | released before after =>
      cases ended with
      | ok value =>
          intro answers
          have performed : perform before = (value, after) := ends answers
          have packedEq : packed before = (pack value, after) := by
            rw [packs, performed]
          exact packedEq
      | error error =>
          intro answers
          have performed : after = before ∨ after = (perform before).2 :=
            ends answers
          have packedEq : after = before ∨ after = (packed before).2 := by
            rw [packs]
            exact performed
          exact packedEq
  | abandoned =>
      cases ended with
      | ok value => exact ends.elim
      | error error => trivial
  | _ => exact ends.elim

/-- Every operation keeps the bracket and performs what it says. -/
theorem Operation.program_follows (operation : Operation) :
    (operation.program client).Follows (sessionProtocol honest)
      (SessionEnds honest operation.perform) .waiting := by
  cases operation with
  | readAll extra =>
      exact SessionEnds.pack _ (fun _ => rfl) (readAll_follows client extra)
  | readHoldingBatch start count =>
      exact SessionEnds.pack _ (fun _ => rfl)
        (readHoldingBatch_follows client start count)
  | readInputBatch start count =>
      exact SessionEnds.pack _ (fun _ => rfl)
        (readInputBatch_follows client start count)
  | readInputRegister address deviceId =>
      exact SessionEnds.pack _ (fun _ => rfl)
        (readInputRegister_follows client address deviceId)
  | writeRegister address value =>
      exact SessionEnds.pack (fun _ => OperationResult.written)
        (fun _ => rfl) (writeRegister_follows client address value)

end Bodies

end Airfi
