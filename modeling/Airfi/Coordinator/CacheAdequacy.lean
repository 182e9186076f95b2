import Airfi.Coordinator.Cache

/-!
# The tasks of the cache machine are client operations

A poll of the cache machine sends the requests of `read_all` one by one and
accumulates what `read_all` returns; a confirmation updates its dictionary
with the one batch that `read_holding_batch` returns, and an answered write
sets the one value that `write_register` has sent.  Erasing the stamps turns
the data of a task into the data of the client program that it stands for.
-/

namespace Airfi

/-- The dictionary without its stamps. -/
def StampedMap.values (dict : StampedMap) : RegisterMap :=
  fun address => (dict address).map Stamped.value

def PollData.values (data : PollData) : AirfiData :=
  { input := data.input.values
    holding := data.holding.values }

/-- `data[table].update(batch)`. -/
def AirfiData.update (self : AirfiData) (batch : RegisterMap) :
    RegisterTable → AirfiData
  | .input => { self with input := self.input.update batch }
  | .holding => { self with holding := self.holding.update batch }

theorem StampedMap.update_values (self other : StampedMap) :
    (self.update other).values = self.values.update other.values := by
  funext address
  simp only [StampedMap.values, StampedMap.update, RegisterMap.update]
  cases other address with
  | none => rfl
  | some value => rfl

theorem StampedMap.readBatch_values (device : Timeline Device)
    (table : RegisterTable) (start count : Nat) :
    (StampedMap.readBatch device table (start, count)).values =
      RegisterMap.enumerate start
        (device.present.registers table start count) := by
  rw [Device.registers, enumerate_registers]
  funext address
  simp only [StampedMap.values, StampedMap.readBatch, snapshot,
    List.mem_singleton, exists_eq_left]
  by_cases covered : Batch.Covers (start, count) address
  · rw [if_pos covered, if_pos covered]
    rfl
  · rw [if_neg covered, if_neg covered]
    rfl

theorem PollData.update_values (data : PollData) (batch : StampedMap)
    (table : RegisterTable) :
    (data.update batch table).values =
      data.values.update batch.values table := by
  cases table with
  | input =>
      simp only [PollData.update, PollData.values, AirfiData.update,
        StampedMap.update_values]
  | holding =>
      simp only [PollData.update, PollData.values, AirfiData.update,
        StampedMap.update_values]

namespace AirfiModbusClient

variable (client : AirfiModbusClient)

/-- The two loops of `read_all` as one, over the requests that are left. -/
def readRequests : List (RegisterTable × Batch) → AirfiData →
    ClientProgram AirfiData
  | [], data => pure data
  | (table, (start, count)) :: rest, data => do
      let batch ← client.readBatch table start count none
      readRequests rest (data.update batch table)

theorem readBatches_input (batches : List Batch) (input : RegisterMap)
    (holding : RegisterMap) (rest : List (RegisterTable × Batch)) :
    (client.readBatches .input batches input).bind
        (fun read => client.readRequests rest { input := read, holding }) =
      client.readRequests (batches.map (RegisterTable.input, ·) ++ rest)
        { input, holding } := by
  induction batches generalizing input with
  | nil => rfl
  | cons batch batches ih =>
      obtain ⟨start, count⟩ := batch
      simp only [readBatches, List.map_cons, List.cons_append,
        readRequests, Coroutine.bind_eq, Coroutine.bind_assoc]
      congr 1
      funext read
      exact ih _

theorem readBatches_holding (batches : List Batch) (input : RegisterMap)
    (holding : RegisterMap) :
    (client.readBatches .holding batches holding).bind
        (fun read => pure { input, holding := read }) =
      client.readRequests (batches.map (RegisterTable.holding, ·))
        { input, holding } := by
  induction batches generalizing holding with
  | nil => rfl
  | cons batch batches ih =>
      obtain ⟨start, count⟩ := batch
      simp only [readBatches, List.map_cons, readRequests,
        Coroutine.bind_eq, Coroutine.bind_assoc]
      congr 1
      funext read
      exact ih _

/-- A poll starts with the requests of `read_all` and no data. -/
theorem readAll_eq_readRequests (extension : Option Batch) :
    client.readAll extension =
      client.session
        (client.readRequests (pollRequests extension)
          PollData.empty.values) := by
  rw [readAll]
  congr 1
  have holding : ∀ input, (client.readBatches .holding
      holdingRegisterBatches RegisterMap.empty).bind
        (fun read => pure { input, holding := read }) =
      client.readRequests
        (holdingRegisterBatches.map (RegisterTable.holding, ·))
        { input, holding := RegisterMap.empty } :=
    fun input => client.readBatches_holding _ input _
  simp only [Coroutine.bind_eq, holding]
  exact client.readBatches_input _ RegisterMap.empty RegisterMap.empty _

/-- Each answer moves the poll on as it moves `read_all` on. -/
theorem readRequests_answered (device : Timeline Device)
    (table : RegisterTable) (batch : Batch)
    (rest : List (RegisterTable × Batch)) (data : PollData) :
    ∃ resume : ModbusReply → ClientProgram AirfiData,
      client.readRequests ((table, batch) :: rest) data.values =
        .perform (.request (.readRegisters table batch.1 batch.2
          client.deviceId)) resume ∧
      resume (.registers
          (device.present.registers table batch.1 batch.2)) =
        client.readRequests rest
          (data.update (StampedMap.readBatch device table batch)
            table).values := by
  obtain ⟨start, count⟩ := batch
  refine ⟨_, rfl, ?_⟩
  rw [PollData.update_values, StampedMap.readBatch_values]
  rfl

/-- A confirmation is one such request, and returns its batch. -/
theorem readHoldingBatch_answered (device : Device) (batch : Batch) :
    ∃ resume : ModbusReply → ClientProgram RegisterMap,
      client.readHoldingBatch batch.1 batch.2 =
        client.session (.perform (.request (.readRegisters .holding batch.1
          batch.2 client.deviceId)) resume) ∧
      resume (.registers (device.registers .holding batch.1 batch.2)) =
        .done (RegisterMap.enumerate batch.1
          (device.registers .holding batch.1 batch.2)) :=
  ⟨_, rfl, rfl⟩

/-- A write is one request, which returns nothing. -/
theorem writeRegister_answered (address value : Nat) :
    ∃ resume : ModbusReply → ClientProgram Unit,
      client.writeRegister address value =
        client.session (.perform (.request (.writeRegister address value
          client.deviceId)) resume) ∧
      ∀ values, resume (.registers values) = .done () :=
  ⟨_, rfl, fun _ => rfl⟩

end AirfiModbusClient

namespace CacheState

/-- The confirmation updates the dictionary that it has captured with what
`read_holding_batch` returns. -/
theorem answerConfirm_values (state : CacheState) (id : TaskId)
    (batch : Batch) (captured : DictRef) :
    ((state.answerConfirm id batch captured).heap captured).values =
      (state.heap captured).values.update
        (RegisterMap.enumerate batch.1
          (state.device.present.registers .holding batch.1 batch.2)) := by
  have read := StampedMap.readBatch_values
    (state.happens state.device.present).device .holding batch.1 batch.2
  have now : (state.happens state.device.present).device.present =
      state.device.present := Timeline.advance_present ..
  rw [now] at read
  have updated : (state.answerConfirm id batch captured).heap captured =
      (state.heap captured).update
        (StampedMap.readBatch (state.happens state.device.present).device
          .holding batch) := Function.update_self ..
  rw [updated, StampedMap.update_values]
  exact congrArg _ read

/-- The written value is set in the dictionary that is published. -/
theorem answerWrite_values (state : CacheState) (id : TaskId)
    (address value : Nat) :
    ((state.answerWrite id address value).heap state.holding).values =
      Function.update state.published.values address (some value) := by
  have set : ((state.answerWrite id address value).heap
      state.holding).values = (state.published.set address
        { value, time := state.device.now + 1 }).values := by
    rw [answerWrite]
    cases confirmedBatch address <;>
      exact congrArg StampedMap.values (Function.update_self ..)
  rw [set]
  funext other
  by_cases same : other = address
  · rw [same, Function.update_self]
    simp only [StampedMap.values, StampedMap.set, Function.update_self,
      Option.map_some]
  · rw [Function.update_of_ne same]
    simp only [StampedMap.values, StampedMap.set, Function.update_of_ne same]

end CacheState

end Airfi
