import Airfi.Modbus.Session

/-!
# Complete results or a declared error

The operations against calls of the Modbus library that end in any of the
ways the client is written for, the register list of a response having any
length.  A result covers what was asked for exactly where the answered
batches do.
-/

namespace Airfi

/-- The ends of a request that the client is written for. -/
def ModbusReply.Declared : ModbusReply → Prop
  | .registers _ | .errorResponse _ | .raised (.modbusException _ _) => True
  | .raised _ => False

/-- How the calls of one operation end, the requests in their order. -/
structure CallOutcomes where
  connect : ConnectReply
  reply : Nat → ModbusReply
  connect_declared : connect.Declared
  reply_declared : ∀ index, (reply index).Declared

namespace CallOutcomes

variable (outcomes : CallOutcomes)

/-- The state is the number of the next request. -/
def handler : Nat → (effect : ClientEffect) → ClientAnswer effect × Nat
  | index, .acquireLock => (LockReply.acquired, index)
  | index, .connect => (outcomes.connect, index)
  | index, .request _ => (outcomes.reply index, index + 1)
  | index, .close => ((), index)
  | index, .releaseLock => ((), index)

def run (client : AirfiModbusClient) (operation : Operation) :
    Except PyError OperationResult :=
  ((operation.program client).runWith outcomes.handler 0).1

def Connected : Prop := outcomes.connect = .returned true

/-- Each batch with the number of registers it is answered with, `none` where
one of them is not. -/
def answered : Nat → List Batch → Option (List Batch)
  | _, [] => some []
  | index, (start, _) :: rest =>
      match outcomes.reply index with
      | .registers values =>
          (answered (index + 1) rest).map ((start, values.length) :: ·)
      | _ => none

end CallOutcomes

/-- Some batch has the address. -/
def Covered (batches : List Batch) (address : Nat) : Prop :=
  ∃ batch ∈ batches, Batch.Covers batch address

/-- Exactly the addresses of the batches. -/
def RegisterMap.CoversExactly (self : RegisterMap) (batches : List Batch) :
    Prop :=
  ∀ address, (self address).isSome ↔ Covered batches address

/-- A result covers what the operation asked for. -/
def Operation.Complete : Operation → OperationResult → Prop
  | .readAll extra, .data data =>
      data.input.CoversExactly (inputRegisterBatches ++ extra.toList) ∧
        data.holding.CoversExactly holdingRegisterBatches
  | .readHoldingBatch start count, .batch registers
  | .readInputBatch start count, .batch registers =>
      registers.CoversExactly [(start, count)]
  | .readInputRegister _ _, .value _ => True
  | .writeRegister _ _, .written => True
  | _, _ => False

/-- A complete result, or one of the two declared errors, the connection
error exactly where there is no connection. -/
def CompleteOrDeclared {α : Type} (connected : Prop) (complete : α → Prop) :
    Except PyError α → Prop
  | .ok value => connected ∧ complete value
  | .error (.airfiConnectionError _) => ¬ connected
  | .error (.airfiModbusError _) => connected
  | .error _ => False

/-- The responses have the registers that the operation asks for. -/
def CallOutcomes.Whole (outcomes : CallOutcomes) : Operation → Prop
  | .readAll extra =>
      ∀ inputs holdings,
        outcomes.answered 0 (inputRegisterBatches ++ extra.toList) =
            some inputs →
          outcomes.answered (inputRegisterBatches ++ extra.toList).length
              holdingRegisterBatches = some holdings →
            (∀ address, Covered inputs address ↔
              Covered (inputRegisterBatches ++ extra.toList) address) ∧
            ∀ address, Covered holdings address ↔
              Covered holdingRegisterBatches address
  | .readHoldingBatch _ count | .readInputBatch _ count =>
      ∀ values, outcomes.reply 0 = .registers values → values.length = count
  | .readInputRegister _ _ => outcomes.reply 0 ≠ .registers []
  | .writeRegister _ _ => True

/-! ## The batch of a response -/

theorem enumerate_isSome_iff {start address : Nat} {values : List Nat} :
    (RegisterMap.enumerate start values address).isSome ↔
      Batch.Covers (start, values.length) address := by
  rw [RegisterMap.enumerate, Batch.Covers]
  by_cases below : start ≤ address
  · rw [if_pos below, isSome_getElem?]
    simp only [below, true_and]
    omega
  · rw [if_neg below]
    simp [below]

theorem enumerate_coversExactly_iff {start count : Nat}
    {values : List Nat} :
    (RegisterMap.enumerate start values).CoversExactly [(start, count)] ↔
      values.length = count := by
  have covered : ∀ address, Covered [(start, count)] address ↔
      Batch.Covers (start, count) address := by
    intro address
    simp [Covered]
  constructor
  · intro exact
    have first := exact (start + values.length)
    have last := exact (start + count)
    rw [enumerate_isSome_iff, covered] at first last
    simp only [Batch.Covers] at first last
    omega
  · rintro rfl address
    rw [enumerate_isSome_iff, covered]

/-! ## The loop over the batches -/

section Loop

variable {outcomes : CallOutcomes} (client : AirfiModbusClient)

/-- An exception that `except ModbusException` or `_read_batch` turns into an
`AirfiModbusError`. -/
def PyError.Reported (error : PyError) : Prop :=
  ∃ text, translateError error = .airfiModbusError text

theorem batchOfReply_reported {reply : ModbusReply} (start count : Nat)
    (declared : reply.Declared)
    (unanswered : ∀ values, reply ≠ .registers values) :
    ∃ error, batchOfReply start count reply = .error error ∧
      error.Reported := by
  cases reply with
  | registers values => exact (unanswered values rfl).elim
  | errorResponse text => exact ⟨_, rfl, _, rfl⟩
  | raised error =>
      cases error with
      | modbusException io text => exact ⟨_, rfl, _, rfl⟩
      | _ => exact declared.elim

/-- Every batch answered: the addresses of the answers are added. -/
theorem readBatches_answered (table : RegisterTable)
    {batches inputs : List Batch} {index : Nat}
    (answered : outcomes.answered index batches = some inputs)
    (data : RegisterMap) :
    ∃ read,
      (client.readBatches table batches data).runWith outcomes.handler
          index = (.ok read, index + batches.length) ∧
        ∀ address, (read address).isSome ↔
          (data address).isSome ∨ Covered inputs address := by
  induction batches generalizing index inputs data with
  | nil =>
      cases answered
      refine ⟨data, rfl, ?_⟩
      intro address
      simp [Covered]
  | cons batch rest ih =>
      obtain ⟨start, count⟩ := batch
      rw [CallOutcomes.answered] at answered
      cases reply : outcomes.reply index with
      | registers values =>
          simp only [reply] at answered
          obtain ⟨later, answeredRest, rfl⟩ :=
            Option.map_eq_some_iff.mp answered
          obtain ⟨read, ran, covers⟩ := ih answeredRest
            (data.update (RegisterMap.enumerate start values))
          refine ⟨read, ?_, ?_⟩
          · rw [AirfiModbusClient.readBatches, Coroutine.bind_eq,
              Coroutine.runWith_bind, readBatch_runWith]
            simp only [CallOutcomes.handler, reply, batchOfReply]
            rw [ran, List.length_cons, Nat.add_right_comm, Nat.add_assoc]
          · intro address
            rw [covers address, RegisterMap.update, Option.isSome_or,
              Bool.or_eq_true, enumerate_isSome_iff]
            simp only [Covered, List.mem_cons, exists_eq_or_imp]
            tauto
      | errorResponse text => simp only [reply] at answered; cases answered
      | raised error => simp only [reply] at answered; cases answered

/-- Some batch not answered: the loop ends there. -/
theorem readBatches_unanswered (table : RegisterTable)
    {batches : List Batch} {index : Nat}
    (unanswered : outcomes.answered index batches = none)
    (data : RegisterMap) :
    ∃ error after,
      (client.readBatches table batches data).runWith outcomes.handler
          index = (.error error, after) ∧ error.Reported := by
  induction batches generalizing index data with
  | nil => cases unanswered
  | cons batch rest ih =>
      obtain ⟨start, count⟩ := batch
      rw [CallOutcomes.answered] at unanswered
      rw [AirfiModbusClient.readBatches, Coroutine.bind_eq,
        Coroutine.runWith_bind, readBatch_runWith]
      by_cases replied : ∃ values, outcomes.reply index = .registers values
      · obtain ⟨values, reply⟩ := replied
        simp only [reply, Option.map_eq_none_iff] at unanswered
        simp only [CallOutcomes.handler, reply, batchOfReply]
        exact ih unanswered _
      · obtain ⟨error, refused, reported⟩ := batchOfReply_reported start
          count (outcomes.reply_declared index)
          fun values reply => replied ⟨values, reply⟩
        simp only [CallOutcomes.handler, refused]
        exact ⟨error, _, rfl, reported⟩

end Loop

/-! ## Sessions -/

section Session

variable {outcomes : CallOutcomes} {client : AirfiModbusClient}

/-- Packing the result of a program keeps the contract. -/
theorem packed_completeOrDeclared {α β : Type} {connected : Prop}
    {complete : β → Prop} {program : ClientProgram α} (pack : α → β) :
    CompleteOrDeclared connected complete
        ((program.bind fun value => .done (pack value)).runWith
          outcomes.handler 0).1 ↔
      CompleteOrDeclared connected (complete ∘ pack)
        (program.runWith outcomes.handler 0).1 := by
  rw [Coroutine.runWith_bind]
  rcases program.runWith outcomes.handler 0 with ⟨error | value, after⟩
  · cases error <;> rfl
  · rfl

/-- A session meets the contract where its body does, connected, and always
where the connect fails. -/
theorem session_completeOrDeclared {α : Type} {body : ClientProgram α}
    {result : Except PyError α} {ended : Nat}
    (ran : body.runWith outcomes.handler 0 = (result, ended))
    {complete : α → Prop} {whole : Prop}
    (bodyIff : CompleteOrDeclared True complete
      (result.mapError translateError) ↔ whole) :
    CompleteOrDeclared outcomes.Connected complete
        ((client.session body).runWith outcomes.handler 0).1 ↔
      (outcomes.Connected → whole) := by
  have acquired : outcomes.handler 0 .acquireLock =
      (LockReply.acquired, 0) := rfl
  have opened : outcomes.handler 0 .connect = (outcomes.connect, 0) := rfl
  by_cases connected : outcomes.connect = .returned true
  · have isConnected : outcomes.Connected = True := eq_true connected
    rw [connected] at opened
    rw [session_connected _ client acquired opened ran, isConnected, bodyIff,
      true_implies]
  · obtain ⟨text, failed⟩ := @session_not_connected _ _ outcomes.handler
      client _ _ _ body _ acquired opened outcomes.connect_declared connected
    rw [failed]
    exact iff_of_true connected fun isConnected =>
      (connected isConnected).elim

theorem reported_completeOrDeclared {α : Type} {complete : α → Prop}
    {error : PyError} (reported : error.Reported) :
    CompleteOrDeclared True complete
      ((Except.error error).mapError translateError) := by
  obtain ⟨text, translated⟩ := reported
  rw [Except.mapError, translated]
  exact trivial

/-- One batch is complete where its response has the registers asked for. -/
theorem batch_completeOrDeclared (start count : Nat) :
    CompleteOrDeclared True
        (fun registers => registers.CoversExactly [(start, count)])
        ((batchOfReply start count (outcomes.reply 0)).mapError
          translateError) ↔
      ∀ values, outcomes.reply 0 = .registers values →
        values.length = count := by
  by_cases replied : ∃ values, outcomes.reply 0 = .registers values
  · obtain ⟨values, reply⟩ := replied
    rw [reply]
    refine (and_iff_right trivial).trans
      (enumerate_coversExactly_iff.trans ?_)
    constructor
    · intro whole other same
      cases same
      exact whole
    · exact fun whole => whole values rfl
  · obtain ⟨error, refused, reported⟩ := batchOfReply_reported start count
      (outcomes.reply_declared 0) fun values reply =>
        replied ⟨values, reply⟩
    rw [refused]
    exact iff_of_true (reported_completeOrDeclared reported)
      fun values reply => (replied ⟨values, reply⟩).elim

/-- A single register is the first of its response. -/
theorem register_completeOrDeclared (address : Nat) :
    CompleteOrDeclared True (fun _ : Nat => True)
        ((registerOfReply address (outcomes.reply 0)).mapError
          translateError) ↔
      outcomes.reply 0 ≠ .registers [] := by
  have declared := outcomes.reply_declared 0
  cases reply : outcomes.reply 0 with
  | registers values =>
      cases values with
      | nil => exact iff_of_false id fun nonempty => nonempty rfl
      | cons value rest =>
          exact iff_of_true ⟨trivial, trivial⟩ fun same => by cases same
  | errorResponse text =>
      exact iff_of_true trivial fun same => by cases same
  | raised error =>
      rw [reply] at declared
      cases error with
      | modbusException io text =>
          exact iff_of_true trivial fun same => by cases same
      | _ => exact declared.elim

theorem written_completeOrDeclared (address value : Nat) :
    CompleteOrDeclared True (fun _ : Unit => True)
      ((writtenOfReply address value (outcomes.reply 0)).mapError
        translateError) := by
  have declared := outcomes.reply_declared 0
  cases reply : outcomes.reply 0 with
  | registers values => exact ⟨trivial, trivial⟩
  | errorResponse text => exact trivial
  | raised error =>
      rw [reply] at declared
      cases error with
      | modbusException io text => exact trivial
      | _ => exact declared.elim

theorem coversExactly_iff {data : RegisterMap} {inputs batches : List Batch}
    (covers : ∀ address, (data address).isSome ↔ Covered inputs address) :
    data.CoversExactly batches ↔
      ∀ address, Covered inputs address ↔ Covered batches address :=
  forall_congr' fun address => by rw [covers address]

theorem whole_readAll_iff {extra : Option Batch}
    {inputs holdings : List Batch}
    (inputsAnswered : outcomes.answered 0
      (inputRegisterBatches ++ extra.toList) = some inputs)
    (holdingsAnswered : outcomes.answered
      (inputRegisterBatches ++ extra.toList).length
      holdingRegisterBatches = some holdings) :
    outcomes.Whole (.readAll extra) ↔
      (∀ address, Covered inputs address ↔
        Covered (inputRegisterBatches ++ extra.toList) address) ∧
      ∀ address, Covered holdings address ↔
        Covered holdingRegisterBatches address := by
  constructor
  · intro whole
    exact whole inputs holdings inputsAnswered holdingsAnswered
  · intro covered otherInputs otherHoldings sameInputs sameHoldings
    cases inputsAnswered.symm.trans sameInputs
    cases holdingsAnswered.symm.trans sameHoldings
    exact covered

/-- The body of `read_all`. -/
def readAllBody (client : AirfiModbusClient) (extra : Option Batch) :
    ClientProgram AirfiData := do
  let input ← client.readBatches .input
    (inputRegisterBatches ++ extra.toList) RegisterMap.empty
  let holding ←
    client.readBatches .holding holdingRegisterBatches RegisterMap.empty
  pure { input, holding }

/-- `read_all` is complete where its answered batches cover the asked ones. -/
theorem readAll_completeOrDeclared (extra : Option Batch) :
    ∃ result ended,
      (readAllBody client extra).runWith outcomes.handler 0 =
          (result, ended) ∧
        (CompleteOrDeclared True
            (fun data => Operation.Complete (.readAll extra) (.data data))
            (result.mapError translateError) ↔
          outcomes.Whole (.readAll extra)) := by
  rw [readAllBody, Coroutine.bind_eq, Coroutine.runWith_bind]
  cases inputsAnswered : outcomes.answered 0
      (inputRegisterBatches ++ extra.toList) with
  | none =>
      obtain ⟨error, after, ran, reported⟩ := readBatches_unanswered client
        .input inputsAnswered RegisterMap.empty
      rw [ran]
      refine ⟨_, _, rfl, ?_⟩
      refine iff_of_true (reported_completeOrDeclared reported) ?_
      intro inputs holdings answered
      rw [inputsAnswered] at answered
      cases answered
  | some inputs =>
      obtain ⟨input, ranInput, inputCovers⟩ := readBatches_answered client
        .input inputsAnswered RegisterMap.empty
      rw [ranInput]
      simp only [Coroutine.bind_eq, Coroutine.runWith_bind, Nat.zero_add]
      cases holdingsAnswered : outcomes.answered
          (inputRegisterBatches ++ extra.toList).length
          holdingRegisterBatches with
      | none =>
          obtain ⟨error, after, ran, reported⟩ := readBatches_unanswered
            client .holding holdingsAnswered RegisterMap.empty
          rw [ran]
          refine ⟨_, _, rfl, ?_⟩
          refine iff_of_true (reported_completeOrDeclared reported) ?_
          intro inputs holdings _ answered
          rw [holdingsAnswered] at answered
          cases answered
      | some holdings =>
          obtain ⟨holding, ranHolding, holdingCovers⟩ :=
            readBatches_answered client .holding holdingsAnswered
              RegisterMap.empty
          rw [ranHolding]
          refine ⟨_, _, rfl, (and_iff_right trivial).trans ?_⟩
          have inputIff : ∀ address, (input address).isSome ↔
              Covered inputs address := by
            simpa [RegisterMap.empty] using inputCovers
          have holdingIff : ∀ address, (holding address).isSome ↔
              Covered holdings address := by
            simpa [RegisterMap.empty] using holdingCovers
          exact (and_congr (coversExactly_iff inputIff)
            (coversExactly_iff holdingIff)).trans
              (whole_readAll_iff inputsAnswered holdingsAnswered).symm

end Session

/-- An operation returns what it was asked for or raises one of the two
declared errors exactly where, connected, the responses have the registers
asked for. -/
theorem completeOrDeclared_iff_whole (client : AirfiModbusClient)
    (outcomes : CallOutcomes) (operation : Operation) :
    CompleteOrDeclared outcomes.Connected operation.Complete
        (outcomes.run client operation) ↔
      (outcomes.Connected → outcomes.Whole operation) := by
  cases operation with
  | readAll extra =>
      obtain ⟨result, ended, ran, bodyIff⟩ :=
        @readAll_completeOrDeclared outcomes client extra
      exact (packed_completeOrDeclared OperationResult.data).trans
        (session_completeOrDeclared ran bodyIff)
  | readHoldingBatch start count =>
      exact (packed_completeOrDeclared OperationResult.batch).trans
        (session_completeOrDeclared (readBatch_runWith ..)
          (batch_completeOrDeclared start count))
  | readInputBatch start count =>
      exact (packed_completeOrDeclared OperationResult.batch).trans
        (session_completeOrDeclared (readBatch_runWith ..)
          (batch_completeOrDeclared start count))
  | readInputRegister address deviceId =>
      exact (packed_completeOrDeclared OperationResult.value).trans
        (session_completeOrDeclared (readInputRegisterBody_runWith ..)
          (register_completeOrDeclared address))
  | writeRegister address value =>
      exact (packed_completeOrDeclared fun _ => OperationResult.written).trans
        (session_completeOrDeclared (writeRegisterBody_runWith ..)
          (iff_of_true (written_completeOrDeclared address value) trivial))

/-- A device that answers every request without registers. -/
def emptyResponses : CallOutcomes where
  connect := .returned true
  reply := fun _ => .registers []
  connect_declared := trivial
  reply_declared := fun _ => trivial

def probedClient : AirfiModbusClient where
  host := "192.168.1.10"
  port := 502
  deviceId := 1

/-- Then `read_input_register` raises a `KeyError`, and `read_holding_batch`
returns a map without the registers asked for. -/
theorem empty_responses_incomplete :
    emptyResponses.run probedClient (.readInputRegister 1 none) =
        .error (.keyError "1") ∧
      (∃ registers,
        emptyResponses.run probedClient (.readHoldingBatch 1 3) =
            .ok (.batch registers) ∧
          registers 1 = none) ∧
      ¬ ∀ (client : AirfiModbusClient) (outcomes : CallOutcomes)
          (operation : Operation),
        CompleteOrDeclared outcomes.Connected operation.Complete
          (outcomes.run client operation) := by
  refine ⟨rfl, ⟨_, rfl, rfl⟩, ?_⟩
  intro declared
  exact declared probedClient emptyResponses (.readInputRegister 1 none)

end Airfi
