import Airfi.Simulator.Simulation

/-!
# Client and simulator agree

Which operations the simulator serves and what they return, after any
operations before them.
-/

namespace Airfi

/-- The part of a register map that the batches cover. -/
def RegisterMap.restrict (self : RegisterMap) (batches : List Batch) :
    RegisterMap :=
  fun address =>
    if ∃ batch ∈ batches, batch.Covers address then self address else none

/-- At most 20 registers, all of them registers of the device. -/
def Batch.Servable (batch : Batch) (table : RegisterTable) : Prop :=
  0 < batch.2 ∧ batch.2 ≤ maxRegistersPerRead ∧ 1 ≤ batch.1 ∧
    batch.1 + batch.2 ≤ lastAddress table + 1

instance (batch : Batch) (table : RegisterTable) :
    Decidable (batch.Servable table) :=
  inferInstanceAs (Decidable (_ ∧ _ ∧ _ ∧ _))

namespace RegisterStore

variable {store : RegisterStore} {table : RegisterTable}

theorem WellFormed.serves_iff (wellFormed : store.WellFormed)
    {start count : Nat} (positive : 0 < count) :
    store.Serves table start count ↔
      Batch.Servable (start, count) table := by
  constructor
  · rintro ⟨few, present⟩
    have first := (wellFormed.defined table _).mp (present 0 positive)
    have last := (wellFormed.defined table _).mp
      (present (count - 1) (by omega))
    refine ⟨positive, few, first.1, ?_⟩
    simp only
    omega
  · rintro ⟨-, few, low, high⟩
    refine ⟨few, ?_⟩
    intro offset inside
    apply (wellFormed.defined table _).mpr
    simp only at low high
    omega

theorem WellFormed.snapshot_eq (wellFormed : store.WellFormed)
    {batches : List Batch}
    (servable : ∀ batch ∈ batches, batch.Servable table) :
    snapshot (store.device.table table) batches =
      (store.table table).restrict batches := by
  funext address
  rw [snapshot, RegisterMap.restrict]
  split
  case isTrue covered =>
    obtain ⟨batch, member, low, high⟩ := covered
    obtain ⟨-, -, first, last⟩ := servable batch member
    refine (table_eq_some ((wellFormed.defined table address).mpr ?_)).symm
    omega
  case isFalse => rfl

/-- The values of the store that `read_all` asks for. -/
def data (store : RegisterStore) (extra : Option Batch) : AirfiData where
  input :=
    store.inputRegisters.restrict (inputRegisterBatches ++ extra.toList)
  holding := store.holdingRegisters.restrict holdingRegisterBatches

end RegisterStore

theorem lastAddress_lt (table : RegisterTable) :
    lastAddress table < 65535 := by
  cases table with
  | input => exact (by decide : 52 < 65535)
  | holding => exact (by decide : 68 < 65535)

namespace Simulation

section Reads

variable {transport : Transport} {client : AirfiModbusClient}
  {simulation : Simulation} {table : RegisterTable}

theorem encodable_read {start count unit : Nat} (unitFits : unit < 256)
    (servable : Batch.Servable (start, count) table) :
    (ModbusRequest.readRegisters table start count unit).Encodable := by
  obtain ⟨-, few, low, high⟩ := servable
  have bound := lastAddress_lt table
  rw [maxRegistersPerRead] at few
  simp only at few high
  refine ⟨unitFits, ?_⟩
  simp only [ModbusRequest.words, List.mem_cons, List.not_mem_nil, or_false,
    forall_eq_or_imp, forall_eq]
  omega

theorem readBatch_served (unitFits : client.deviceId < 256)
    (wellFormed : simulation.store.WellFormed) {start count : Nat}
    (servable : Batch.Servable (start, count) table) :
    (client.readBatch table start count none).runWith (handler transport)
        simulation =
      (.ok (snapshot (simulation.store.device.table table)
          [(start, count)]),
        simulation.answered simulation.store) := by
  have exchanged := @exchange_read transport simulation table start count
    client.deviceId wellFormed (encodable_read unitFits servable)
    ((wellFormed.serves_iff servable.1).mpr servable)
  rw [readBatch_runWith]
  simp only [Option.getD_none, handler, exchanged, batchOfReply]
  rw [Device.registers, enumerate_registers]

/-- The loop over the batches, each served from the same store. -/
theorem readBatches_served (unitFits : client.deviceId < 256)
    (wellFormed : simulation.store.WellFormed) (batches done : List Batch)
    (servable : ∀ batch ∈ batches, batch.Servable table) :
    ∃ after,
      (client.readBatches table batches
          (snapshot (simulation.store.device.table table) done)).runWith
            (handler transport) simulation =
        (.ok (snapshot (simulation.store.device.table table)
          (done ++ batches)), after) ∧
        after.store = simulation.store := by
  have answered : ∀ batch ∈ batches, ∀ state : Simulation,
      state.store = simulation.store → ∃ after,
        (client.readBatch table batch.1 batch.2 none).runWith
              (handler transport) state =
            (.ok (snapshot (simulation.store.device.table table) [batch]),
              after) ∧
          after.store = simulation.store := by
    intro batch member state same
    rw [← same]
    exact ⟨_, readBatch_served unitFits (same ▸ wellFormed)
      (servable batch member), rfl⟩
  exact readBatches_runWith (handler transport) client answered done
    simulation rfl

/-- Every session against the simulator is connected. -/
theorem session_runWith {α : Type} {body : ClientProgram α}
    {result : Except PyError α} {ended : Simulation}
    (ran : body.runWith (handler transport) simulation = (result, ended)) :
    (client.session body).runWith (handler transport) simulation =
      (result.mapError translateError, ended) :=
  session_connected _ client rfl rfl ran

/-- `read_all` with an extra batch of registers that the store has. -/
theorem readAll_served (unitFits : client.deviceId < 256)
    (wellFormed : simulation.store.WellFormed) {extra : Option Batch}
    (servable : ∀ batch ∈ extra, batch.Servable .input) :
    ∃ after,
      simulation.run transport client (.readAll extra) =
          (.ok (.data (simulation.store.data extra)), after) ∧
        after.store = simulation.store := by
  have inputs : ∀ batch ∈ inputRegisterBatches ++ extra.toList,
      batch.Servable .input := by
    intro batch member
    rcases List.mem_append.mp member with base | added
    · exact (by decide : ∀ batch ∈ inputRegisterBatches,
        batch.Servable .input) batch base
    · exact servable batch (Option.mem_toList.mp added)
  have holdings : ∀ batch ∈ holdingRegisterBatches,
      batch.Servable .holding := by decide
  obtain ⟨middle, ranInputs, same⟩ := @readBatches_served transport client
    simulation .input unitFits wellFormed _ [] inputs
  obtain ⟨after, ranHoldings, sameAfter⟩ := @readBatches_served transport
    client middle .holding unitFits (same ▸ wellFormed) _ [] holdings
  rw [List.nil_append, snapshot_nil, wellFormed.snapshot_eq inputs]
    at ranInputs
  rw [List.nil_append, snapshot_nil, same,
    wellFormed.snapshot_eq holdings] at ranHoldings
  have ran : (client.readAll extra).runWith (handler transport) simulation =
      (.ok (simulation.store.data extra), after) := by
    rw [AirfiModbusClient.readAll]
    refine @session_runWith transport client simulation _ _
      (.ok (simulation.store.data extra)) after ?_
    rw [Coroutine.bind_eq, Coroutine.runWith_bind, ranInputs]
    simp only [Coroutine.bind_eq, Coroutine.runWith_bind, ranHoldings]
    rfl
  refine ⟨after, ?_, sameAfter.trans same⟩
  rw [run, Operation.program, Coroutine.bind_eq, Coroutine.runWith_bind, ran]
  rfl

/-- The operation as its one exchange. -/
theorem readHoldingBatch_runWith {start count : Nat} {reply : ModbusReply}
    {after : Simulation}
    (exchanged : simulation.exchange transport
      (.readRegisters .holding start count client.deviceId) =
        (reply, after)) :
    (client.readHoldingBatch start count).runWith (handler transport)
        simulation =
      ((batchOfReply start count reply).mapError translateError, after) := by
  have read := @session_runWith transport client simulation _ _ _ _
    (readBatch_runWith (handler transport) client .holding start count none
      simulation)
  simp only [Option.getD_none, handler, exchanged] at read
  exact read

theorem run_readHoldingBatch {start count : Nat} {reply : ModbusReply}
    {after : Simulation}
    (exchanged : simulation.exchange transport
      (.readRegisters .holding start count client.deviceId) =
        (reply, after)) :
    simulation.run transport client (.readHoldingBatch start count) =
      (((batchOfReply start count reply).mapError translateError).map .batch,
        after) := by
  rw [run, Operation.program, Coroutine.bind_eq, Coroutine.runWith_bind,
    readHoldingBatch_runWith exchanged]
  cases batchOfReply start count reply <;> rfl

/-- The exchange of a batch that the simulator serves. -/
theorem exchange_servable (unitFits : client.deviceId < 256)
    (wellFormed : simulation.store.WellFormed) {start count : Nat}
    (servable : Batch.Servable (start, count) .holding) :
    ∃ values,
      simulation.exchange transport
          (.readRegisters .holding start count client.deviceId) =
        (.registers values, simulation.answered simulation.store) ∧
      RegisterMap.enumerate start values =
        simulation.store.holdingRegisters.restrict [(start, count)] := by
  have values := enumerate_registers (simulation.store.device.table .holding)
    start count
  rw [wellFormed.snapshot_eq (by simpa using servable)] at values
  exact ⟨_, exchange_read wellFormed (encodable_read unitFits servable)
    ((wellFormed.serves_iff servable.1).mpr servable), values⟩

theorem readHoldingBatch_served (unitFits : client.deviceId < 256)
    (wellFormed : simulation.store.WellFormed) {start count : Nat}
    (servable : Batch.Servable (start, count) .holding) :
    simulation.run transport client (.readHoldingBatch start count) =
      (.ok (.batch (simulation.store.holdingRegisters.restrict
          [(start, count)])),
        simulation.answered simulation.store) := by
  obtain ⟨values, exchanged, registers⟩ :=
    @exchange_servable transport client simulation unitFits wellFormed _ _
      servable
  rw [run_readHoldingBatch exchanged, batchOfReply, registers]
  rfl

/-- A batch that is too long or has an address that the store has not. -/
theorem readHoldingBatch_refused
    (wellFormed : simulation.store.WellFormed) {start count : Nat}
    (positive : 0 < count)
    (refused : ¬ Batch.Servable (start, count) .holding) :
    ∃ error after,
      simulation.run transport client (.readHoldingBatch start count) =
          (.error error, after) ∧
        after.store = simulation.store := by
  have notServed : ¬ simulation.store.Serves .holding start count :=
    fun serves => refused ((wellFormed.serves_iff positive).mp serves)
  by_cases encodable : (ModbusRequest.readRegisters .holding start count
      client.deviceId).Encodable
  · rw [run_readHoldingBatch (exchange_read_refused encodable notServed)]
    exact ⟨_, _, rfl, rfl⟩
  · rw [run_readHoldingBatch (exchange_unencodable encodable)]
    exact ⟨_, _, rfl, rfl⟩

end Reads

/-! ## Writes -/

section Writes

variable {transport : Transport} {client : AirfiModbusClient}
  {simulation : Simulation} {address value : Nat}

theorem writeRegister_runWith {reply : ModbusReply} {after : Simulation}
    (exchanged : simulation.exchange transport
      (.writeRegister address value client.deviceId) = (reply, after)) :
    (client.writeRegister address value).runWith (handler transport)
        simulation =
      ((writtenOfReply address value reply).mapError translateError,
        after) := by
  have wrote := @session_runWith transport client simulation _ _ _ _
    (writeRegisterBody_runWith (handler transport) client address value
      simulation)
  simp only [handler, exchanged] at wrote
  exact wrote

theorem run_writeRegister {reply : ModbusReply} {after : Simulation}
    (exchanged : simulation.exchange transport
      (.writeRegister address value client.deviceId) = (reply, after)) :
    simulation.run transport client (.writeRegister address value) =
      (((writtenOfReply address value reply).mapError translateError).map
          fun _ => .written,
        after) := by
  rw [run, Operation.program, Coroutine.bind_eq, Coroutine.runWith_bind,
    writeRegister_runWith exchanged]
  cases writtenOfReply address value reply <;> rfl

theorem encodable_write {unit : Nat} (unitFits : unit < 256)
    (addressFits : address < 65536) (valueFits : value < 65536) :
    (ModbusRequest.writeRegister address value unit).Encodable := by
  refine ⟨unitFits, ?_⟩
  simp [ModbusRequest.words, addressFits, valueFits]

/-- The exchange of a write that the simulator accepts. -/
theorem exchange_known (unitFits : client.deviceId < 256)
    (valueFits : value < 65536) (wellFormed : simulation.store.WellFormed)
    (known : 1 ≤ address ∧ address ≤ 68) :
    simulation.exchange transport
        (.writeRegister address value client.deviceId) =
      (.registers [],
        simulation.answered (simulation.store.write address value)) :=
  exchange_write (encodable_write unitFits (by omega) valueFits)
    ((wellFormed.defined .holding address).mpr known)

theorem writeRegister_served (unitFits : client.deviceId < 256)
    (valueFits : value < 65536) (wellFormed : simulation.store.WellFormed)
    (known : 1 ≤ address ∧ address ≤ 68) :
    simulation.run transport client (.writeRegister address value) =
      (.ok .written,
        simulation.answered (simulation.store.write address value)) := by
  rw [run_writeRegister (exchange_known unitFits valueFits wellFormed known)]
  rfl

/-- An address that the store has not, on the wire or not. -/
theorem writeRegister_refused (wellFormed : simulation.store.WellFormed)
    (unknown : ¬ (1 ≤ address ∧ address ≤ 68)) :
    ∃ error after,
      simulation.run transport client (.writeRegister address value) =
          (.error error, after) ∧
        after.store = simulation.store := by
  have absent : simulation.store.holdingRegisters address = none := by
    apply Option.not_isSome_iff_eq_none.mp
    exact fun present =>
      unknown ((wellFormed.defined .holding address).mp present)
  by_cases encodable : (ModbusRequest.writeRegister address value
      client.deviceId).Encodable
  · rw [run_writeRegister (exchange_write_refused encodable absent)]
    exact ⟨_, _, rfl, rfl⟩
  · rw [run_writeRegister (exchange_unencodable encodable)]
    exact ⟨_, _, rfl, rfl⟩

end Writes

/-! ## Runs -/

section Runs

variable {transport : Transport} {client : AirfiModbusClient}
  {simulation : Simulation} {address : Nat}

theorem perform_leaves {operation : Operation} (device : Device)
    (other : ∀ value, operation ≠ .writeRegister address value) :
    (operation.perform device).2.holding address =
      device.holding address := by
  cases operation with
  | writeRegister written value =>
      have apart : address ≠ written := by
        rintro rfl
        exact other value rfl
      exact if_neg apart
  | _ => rfl

theorem run_leaves (wellFormed : simulation.store.WellFormed)
    {operation : Operation}
    (other : ∀ value, operation ≠ .writeRegister address value) :
    (simulation.run transport client operation).2.store.device.holding
        address = simulation.store.device.holding address := by
  have performed :=
    @run_performs transport client simulation wellFormed operation
  cases ended : (simulation.run transport client operation).1 with
  | ok result =>
      rw [ended] at performed
      have after : (operation.perform simulation.store.device).2 =
          (simulation.run transport client operation).2.store.device :=
        congrArg Prod.snd performed
      rw [← after, perform_leaves _ other]
  | error error =>
      rw [ended] at performed
      rcases performed with same | after
      · rw [same]
      · rw [after, perform_leaves _ other]

theorem after_leaves (wellFormed : simulation.store.WellFormed)
    (operations : List Operation)
    (other : ∀ value, .writeRegister address value ∉ operations) :
    (simulation.after transport client operations).store.device.holding
        address = simulation.store.device.holding address := by
  induction operations generalizing simulation with
  | nil => rfl
  | cons operation rest ih =>
      have first : ∀ value, operation ≠ .writeRegister address value := by
        rintro value rfl
        exact other value List.mem_cons_self
      have kept := @run_keeps transport client simulation _
        ⟨wellFormed, rfl⟩ operation
      have later := ih kept.1 fun value member =>
        other value (List.mem_cons_of_mem operation member)
      exact later.trans (run_leaves wellFormed first)

/-- A written value stays until the register is written again. -/
theorem holding_after_write (unitFits : client.deviceId < 256)
    (wellFormed : simulation.store.WellFormed) {value : Nat}
    (valueFits : value < 65536) (known : 1 ≤ address ∧ address ≤ 68)
    {between : List Operation}
    (other : ∀ later, .writeRegister address later ∉ between) :
    let reached := (simulation.run transport client
      (.writeRegister address value)).2.after transport client between
    reached.store.WellFormed ∧
      reached.store.holdingRegisters address = some value := by
  intro reached
  have written := @writeRegister_served transport client simulation address
    value unitFits valueFits wellFormed known
  have keptWrite := @run_keeps transport client simulation _
    ⟨wellFormed, rfl⟩ (.writeRegister address value)
  have kept : reached.store.WellFormed :=
    (after_keeps keptWrite between).1
  have held : reached.store.device.holding address = value := by
    refine (@after_leaves transport client _ address keptWrite.1 between
      other).trans ?_
    rw [written]
    simp [answered, RegisterStore.device, RegisterStore.write]
  refine ⟨kept, ?_⟩
  have found := RegisterStore.table_eq_some
    ((kept.defined .holding address).mpr known)
  exact found.trans (congrArg some held)

end Runs

/-- What client and simulator agree on in a state of the simulation. -/
structure Agrees (transport : Transport) (client : AirfiModbusClient)
    (simulation : Simulation) : Prop where
  stored : simulation.store.WellFormed
  reads_all : ∀ extra ∈ [none, some (50, 1), some (50, 3)],
    ∃ after,
      simulation.run transport client (.readAll extra) =
          (.ok (.data (simulation.store.data extra)), after) ∧
        after.store = simulation.store
  writes : ∀ address value, 1 ≤ address ∧ address ≤ 68 → value ≤ 65535 →
    ∃ after,
      simulation.run transport client (.writeRegister address value) =
          (.ok .written, after) ∧
        after.store = simulation.store.write address value
  refuses_writes : ∀ address value, ¬ (1 ≤ address ∧ address ≤ 68) →
    ∃ error after,
      simulation.run transport client (.writeRegister address value) =
          (.error error, after) ∧
        after.store = simulation.store
  reads_back : ∀ address value between start count,
    1 ≤ address ∧ address ≤ 68 → value ≤ 65535 →
      (∀ other, .writeRegister address other ∉ between) →
        Batch.Covers (start, count) address →
          count ≤ 20 ∧ 1 ≤ start ∧ start + count ≤ 69 →
            ∃ registers after,
              ((simulation.run transport client
                  (.writeRegister address value)).2.after transport client
                    between).run transport client
                      (.readHoldingBatch start count) =
                  (.ok (.batch registers), after) ∧
                registers address = some value
  refuses_reads : ∀ start count, 0 < count →
    ¬ (count ≤ 20 ∧ 1 ≤ start ∧ start + count ≤ 69) →
      ∃ error after,
        simulation.run transport client (.readHoldingBatch start count) =
            (.error error, after) ∧
          after.store = simulation.store
  exceptions_keep : ∀ request response after,
    buildResponse simulation.store request = .ok (response, after) →
      IsException response → after = simulation.store
  packs : ∀ request,
    buildResponse simulation.store request ≠ .error .packing

section Agreement

variable {transport : Transport} {client : AirfiModbusClient}
  {simulation : Simulation}

theorem reads_back_of_wellFormed (unitFits : client.deviceId < 256)
    (wellFormed : simulation.store.WellFormed) {address value : Nat}
    {between : List Operation} {start count : Nat}
    (known : 1 ≤ address ∧ address ≤ 68) (valueFits : value < 65536)
    (other : ∀ later, .writeRegister address later ∉ between)
    (covers : Batch.Covers (start, count) address)
    (inside : count ≤ 20 ∧ 1 ≤ start ∧ start + count ≤ 69) :
    ∃ registers after,
      ((simulation.run transport client
          (.writeRegister address value)).2.after transport client
            between).run transport client (.readHoldingBatch start count) =
          (.ok (.batch registers), after) ∧
        registers address = some value := by
  obtain ⟨kept, held⟩ := @holding_after_write transport client simulation
    address unitFits wellFormed value valueFits known between other
  have positive : 0 < count := by
    obtain ⟨low, high⟩ := covers
    simp only at low high
    omega
  refine ⟨_, _, readHoldingBatch_served unitFits kept
    ⟨positive, inside⟩, ?_⟩
  rw [RegisterMap.restrict, if_pos ⟨_, List.mem_singleton_self _, covers⟩]
  exact held

theorem agrees_of_wellFormed (unitFits : client.deviceId < 256)
    (wellFormed : simulation.store.WellFormed) :
    simulation.Agrees transport client where
  stored := wellFormed
  reads_all := by
    intro extra offered
    apply readAll_served unitFits wellFormed
    exact (by decide : ∀ extra ∈ [none, some (50, 1), some (50, 3)],
      ∀ batch ∈ extra, Batch.Servable batch .input) extra offered
  writes := by
    intro address value known valueFits
    exact ⟨_, writeRegister_served unitFits (Nat.lt_succ_of_le valueFits)
      wellFormed known, rfl⟩
  refuses_writes := by
    intro address value unknown
    exact writeRegister_refused wellFormed unknown
  reads_back := by
    intro address value between start count known valueFits other covers
      inside
    exact reads_back_of_wellFormed unitFits wellFormed known
      (Nat.lt_succ_of_le valueFits) other covers inside
  refuses_reads := by
    intro start count positive outside
    exact readHoldingBatch_refused wellFormed positive
      fun servable => outside servable.2
  exceptions_keep := by
    intro request response after built isException
    exact buildResponse_exception wellFormed built isException
  packs := buildResponse_packs wellFormed

end Agreement

/-- After any operations client and simulator agree, and the input registers
are the ones at the start. -/
theorem agrees_after_operations (transport : Transport)
    (client : AirfiModbusClient) (unitFits : client.deviceId < 256)
    (start : Simulation) (wellFormed : start.store.WellFormed)
    (operations : List Operation) :
    (start.after transport client operations).Agrees transport client ∧
      (start.after transport client operations).store.inputRegisters =
        start.store.inputRegisters := by
  obtain ⟨kept, inputs⟩ := @after_keeps transport client start _
    ⟨wellFormed, rfl⟩ operations
  exact ⟨agrees_of_wellFormed unitFits kept, inputs⟩

/-- A transport and a client for the runs below. -/
def plainTransport : Transport where
  exceptionText := fun function code =>
    s!"ExceptionResponse({function}, {code})"
  unencodable := fun _ => .other "struct.error"
  unanswered := fun _ => .modbusException true "No response received"

def simulatorClient : AirfiModbusClient where
  host := "127.0.0.1"
  port := 5020
  deviceId := 1

theorem agrees_after_operations_init :
    ((⟨.init, 0⟩ : Simulation).after plainTransport simulatorClient
        [.writeRegister 5 230, .readAll (some (50, 3))]).Agrees
          plainTransport simulatorClient ∧
      ((⟨.init, 0⟩ : Simulation).after plainTransport simulatorClient
        [.writeRegister 5 230,
          .readAll (some (50, 3))]).store.inputRegisters =
        RegisterStore.init.inputRegisters :=
  agrees_after_operations plainTransport simulatorClient (by decide)
    ⟨.init, 0⟩ RegisterStore.init_wellFormed _

/-- A batch of 21 registers is refused, although it has the written one. -/
theorem long_batch_not_read_back :
    ¬ ∀ address value start count, 1 ≤ address ∧ address ≤ 68 →
      value ≤ 65535 → Batch.Covers (start, count) address →
        ∃ registers after,
          ((⟨.init, 0⟩ : Simulation).run plainTransport simulatorClient
              (.writeRegister address value)).2.run plainTransport
                simulatorClient (.readHoldingBatch start count) =
              (.ok (.batch registers), after) ∧
            registers address = some value := by
  intro readsBack
  have kept := @run_keeps plainTransport simulatorClient ⟨.init, 0⟩ _
    ⟨RegisterStore.init_wellFormed, rfl⟩ (.writeRegister 5 230)
  obtain ⟨registers, after, ran, -⟩ :=
    readsBack 5 230 1 21 (by decide) (by decide) (by decide)
  obtain ⟨error, refusedAfter, refused, -⟩ :=
    @readHoldingBatch_refused plainTransport simulatorClient _ kept.1 1 21
      (by decide) (by decide)
  rw [refused] at ran
  cases ran

end Simulation

end Airfi
