import Airfi.Connections.Jobs
import Airfi.Simulator.Agreement

/-!
# A coordinator on the simulated device

`AirfiCoordinator` with the data that it publishes, its polls and writes run
one after the other against the simulator.  The published data are the
registers of the store that the coordinator polls, from the first refresh on
and after every write.
-/

namespace Airfi

/-- `self[address] = value`. -/
def RegisterMap.set (self : RegisterMap) (address value : Nat) :
    RegisterMap :=
  Function.update self address (some value)

/-- A coordinator with its `data`. -/
structure RunningCoordinator where
  coordinator : AirfiCoordinator
  data : AirfiData

namespace RunningCoordinator

variable (self : RunningCoordinator)

/-- A refresh, which sets the data to what `_async_update_data` returns. -/
def refresh : ClientProgram (Except PyError Unit × RunningCoordinator) := do
  match ← self.coordinator.asyncUpdateData with
  | (.ok data, coordinator) => pure (.ok (), { coordinator, data })
  | (.error error, coordinator) =>
      pure (.error error, { self with coordinator })

/-- The data with other holding registers. -/
def setHolding (holding : RegisterMap) : RunningCoordinator :=
  { self with data := { self.data with holding } }

/-- `async_write_value`. -/
def asyncWriteValue (address value : Nat) :
    ClientProgram (Except PyError Unit × RunningCoordinator) := do
  match ← (self.coordinator.client.writeRegister address value).outcome with
  | .error (.airfiConnectionError text) | .error (.airfiModbusError text) =>
      pure (.error (.other s!"Writing register {address} failed: {text}"),
        self)
  | .error error => pure (.error error, self)
  | .ok () =>
      let optimistic :=
        self.setHolding (self.data.holding.set address value)
      match confirmedBatch address with
      | none => pure (.ok (), optimistic)
      | some (start, count) =>
          match ← (self.coordinator.client.readHoldingBatch start
              count).outcome with
          | .ok batch =>
              pure (.ok (), optimistic.setHolding
                (optimistic.data.holding.update batch))
          | .error (.airfiConnectionError _)
          | .error (.airfiModbusError _) => pure (.ok (), optimistic)
          | .error error => pure (.error error, optimistic)

/-- Without its data the coordinator does what it does in the other runs. -/
theorem asyncWriteValue_forget (address value : Nat) :
    (self.asyncWriteValue address value).bind (fun ended => pure ended.1) =
      self.coordinator.asyncWriteValue address value := by
  rw [asyncWriteValue, AirfiCoordinator.asyncWriteValue]
  simp only [Coroutine.bind_eq, Coroutine.bind_assoc]
  congr 1
  funext wrote
  cases wrote with
  | error error => cases error <;> rfl
  | ok _ =>
      cases confirmedBatch address with
      | none => rfl
      | some batch =>
          obtain ⟨start, count⟩ := batch
          simp only [Coroutine.bind_assoc]
          congr 1
          funext confirmed
          cases confirmed with
          | error error => cases error <;> rfl
          | ok registers => rfl

end RunningCoordinator

/-! ## Batches of a store -/

namespace RegisterMap

variable {map : RegisterMap} {batches : List Batch} {batch : Batch}
  {address : Nat}

theorem restrict_covered (member : batch ∈ batches)
    (covers : batch.Covers address) :
    map.restrict batches address = map address :=
  if_pos ⟨batch, member, covers⟩

/-- Reading a further batch. -/
theorem update_restrict (map : RegisterMap) (batches : List Batch)
    (batch : Batch) :
    (map.restrict batches).update (map.restrict [batch]) =
      map.restrict (batches ++ [batch]) := by
  funext address
  by_cases last : batch.Covers address
  · rw [update, restrict_covered List.mem_cons_self last,
      restrict_covered (List.mem_append_right _ List.mem_cons_self) last,
      restrict]
    cases map address with
    | some value => rfl
    | none => simp
  · have others : (∃ other ∈ batches ++ [batch], other.Covers address) ↔
        ∃ other ∈ batches, other.Covers address := by
      simp [last]
    have none_read : map.restrict [batch] address = none := by
      rw [restrict, if_neg (by simpa using last)]
    rw [update, none_read, Option.none_or, restrict, restrict]
    simp only [others]

end RegisterMap

/-- The written register, and the batch read back from the store. -/
theorem RegisterStore.confirmed_write (store : RegisterStore)
    {batches : List Batch} {batch : Batch} (member : batch ∈ batches)
    {address value : Nat} (covers : batch.Covers address) :
    ((store.holdingRegisters.restrict batches).set address value).update
        ((store.write address value).holdingRegisters.restrict [batch]) =
      (store.write address value).holdingRegisters.restrict batches := by
  funext other
  have written : (store.write address value).holdingRegisters other =
      if other = address then some value else store.holdingRegisters other :=
    rfl
  by_cases same : other = address
  · rw [same] at written ⊢
    rw [if_pos rfl] at written
    rw [RegisterMap.update,
      RegisterMap.restrict_covered List.mem_cons_self covers,
      RegisterMap.restrict_covered member covers, written, Option.some_or]
  · rw [if_neg same] at written
    have unset : (store.holdingRegisters.restrict batches).set address value
        other = store.holdingRegisters.restrict batches other :=
      Function.update_of_ne same ..
    rw [RegisterMap.update, unset]
    by_cases read : batch.Covers other
    · rw [RegisterMap.restrict_covered List.mem_cons_self read,
        RegisterMap.restrict_covered member read,
        RegisterMap.restrict_covered member read, written, Option.or_self]
    · have none_read : (store.write address value).holdingRegisters.restrict
          [batch] other = none := by
        rw [RegisterMap.restrict, if_neg (by simpa using read)]
      rw [none_read, Option.none_or, RegisterMap.restrict,
        RegisterMap.restrict, written]

/-! ## Polls and writes against the simulator -/

/-- The coordinator has checked the version that the store reports. -/
structure AirfiCoordinator.Settled (coordinator : AirfiCoordinator)
    (store : RegisterStore) : Prop where
  checked : coordinator.versionChecked = true
  extension : coordinator.inputExtension =
    AirfiCoordinator.chooseExtension (store.inputRegisters 3)

theorem chooseExtension_servable {reported : Option Nat} {batch : Batch}
    (chosen : batch ∈ AirfiCoordinator.chooseExtension reported) :
    batch.Servable .input := by
  cases reported with
  | none => cases chosen
  | some version =>
      obtain ⟨extension, found, rfl⟩ := Option.map_eq_some_iff.mp chosen
      exact (by decide : ∀ extension ∈ inputExtensionBatches,
        extension.2.Servable .input) extension
          (List.mem_of_find?_eq_some found)

section Served

variable {transport : Transport} {simulation : Simulation}
  {client : AirfiModbusClient}

open Simulation

theorem readAll_runWith (unitFits : client.deviceId < 256)
    (wellFormed : simulation.store.WellFormed) {extra : Option Batch}
    (servable : ∀ batch ∈ extra, batch.Servable .input) :
    ∃ after,
      (client.readAll extra).runWith (handler transport) simulation =
          (.ok (simulation.store.data extra), after) ∧
        after.store = simulation.store := by
  obtain ⟨after, ran, same⟩ :=
    @readAll_served transport client simulation unitFits wellFormed extra
      servable
  refine ⟨after, ?_, same⟩
  rw [run, Operation.program, Coroutine.bind_eq, Coroutine.runWith_bind]
    at ran
  rcases ended : (client.readAll extra).runWith (handler transport)
    simulation with ⟨error | data, middle⟩
  · rw [ended] at ran
    cases ran
  · rw [ended] at ran
    cases ran
    rfl

theorem session_readBatch_runWith (unitFits : client.deviceId < 256)
    (wellFormed : simulation.store.WellFormed) {table : RegisterTable}
    {start count : Nat} (servable : Batch.Servable (start, count) table) :
    (client.session (client.readBatch table start count none)).runWith
        (handler transport) simulation =
      (.ok ((simulation.store.table table).restrict [(start, count)]),
        simulation.answered simulation.store) := by
  have read := @readBatch_served transport client simulation table unitFits
    wellFormed start count servable
  rw [wellFormed.snapshot_eq (by simpa using servable)] at read
  exact session_runWith read

/-- The extension batch joins the data of the base batches. -/
theorem readExtension_runWith {coordinator : AirfiCoordinator}
    (unitFits : coordinator.client.deviceId < 256)
    (wellFormed : simulation.store.WellFormed)
    (servable : ∀ batch ∈ coordinator.inputExtension,
      batch.Servable .input) :
    ∃ after,
      (coordinator.readExtension (simulation.store.data none)).runWith
          (handler transport) simulation =
        (.ok (.ok (simulation.store.data coordinator.inputExtension),
          coordinator), after) ∧
        after.store = simulation.store := by
  rw [AirfiCoordinator.readExtension]
  cases chosen : coordinator.inputExtension with
  | none => exact ⟨simulation, rfl, rfl⟩
  | some batch =>
      obtain ⟨start, count⟩ := batch
      have read : (coordinator.client.readInputBatch start count).runWith
          (handler transport) simulation = _ :=
        session_readBatch_runWith unitFits wellFormed (servable _ chosen)
      have joined : (simulation.store.data none).input.update
          ((simulation.store.table .input).restrict [(start, count)]) =
          (simulation.store.data (some (start, count))).input := by
        simp only [RegisterStore.data, RegisterStore.table,
          Option.toList_none, List.append_nil, Option.toList_some]
        exact RegisterMap.update_restrict ..
      simp only [Coroutine.bind_eq, Coroutine.runWith_bind,
        Coroutine.runWith_outcome, read, joined]
      exact ⟨_, rfl, rfl⟩

theorem firstUpdate_runWith {coordinator : AirfiCoordinator}
    (unitFits : coordinator.client.deviceId < 256)
    (wellFormed : simulation.store.WellFormed)
    (unchecked : coordinator.versionChecked = false)
    (unextended : coordinator.inputExtension = none) :
    ∃ settled after,
      coordinator.asyncUpdateData.runWith (handler transport) simulation =
        (.ok (.ok (simulation.store.data settled.inputExtension), settled),
          after) ∧
        settled.client = coordinator.client ∧
        settled.Settled simulation.store ∧
        after.store = simulation.store := by
  obtain ⟨middle, ran, same⟩ := @readAll_runWith transport simulation
    coordinator.client unitFits wellFormed none (by simp)
  have reported : (simulation.store.data none).input 3 =
      simulation.store.inputRegisters 3 := rfl
  have settled : (coordinator.checkVersion
      (simulation.store.data none)).Settled simulation.store := by
    refine ⟨rfl, ?_⟩
    rw [AirfiCoordinator.checkVersion, reported, unextended, Option.or_none]
  obtain ⟨after, extended, sameAfter⟩ := @readExtension_runWith transport
    middle (coordinator.checkVersion (simulation.store.data none)) unitFits
    (same ▸ wellFormed) (by
      intro batch chosen
      rw [settled.extension] at chosen
      exact chooseExtension_servable chosen)
  rw [same] at extended sameAfter
  refine ⟨coordinator.checkVersion (simulation.store.data none), after, ?_,
    rfl, settled, sameAfter⟩
  simp only [AirfiCoordinator.asyncUpdateData, Coroutine.bind_eq,
    Coroutine.runWith_bind, Coroutine.runWith_outcome, unextended, ran,
    unchecked, Bool.false_eq_true, if_false]
  exact extended

theorem laterUpdate_runWith {coordinator : AirfiCoordinator}
    (unitFits : coordinator.client.deviceId < 256)
    (wellFormed : simulation.store.WellFormed)
    (settled : coordinator.Settled simulation.store) :
    ∃ after,
      coordinator.asyncUpdateData.runWith (handler transport) simulation =
        (.ok (.ok (simulation.store.data coordinator.inputExtension),
          coordinator), after) ∧
        after.store = simulation.store := by
  obtain ⟨after, ran, same⟩ := @readAll_runWith transport simulation
    coordinator.client unitFits wellFormed coordinator.inputExtension (by
      intro batch chosen
      rw [settled.extension] at chosen
      exact chooseExtension_servable chosen)
  refine ⟨after, ?_, same⟩
  simp only [AirfiCoordinator.asyncUpdateData, Coroutine.bind_eq,
    Coroutine.runWith_bind, Coroutine.runWith_outcome, ran, settled.checked,
    if_true]
  rfl

theorem exists_confirmedBatch {address : Nat}
    (known : 1 ≤ address ∧ address ≤ 68) :
    ∃ batch, confirmedBatch address = some batch ∧
      batch ∈ holdingRegisterBatches ∧ batch.Covers address ∧
        batch.Servable .holding := by
  have chosen : ∀ address ∈ List.range' 1 68,
      (confirmedBatch address).isSome := by
    decide
  obtain ⟨batch, found⟩ := Option.isSome_iff_exists.mp
    (chosen address (List.mem_range'_1.mpr (by omega)))
  have member := List.mem_of_find?_eq_some found
  have covers := List.find?_some found
  exact ⟨batch, found, member, of_decide_eq_true covers,
    (by decide : ∀ batch ∈ holdingRegisterBatches,
      batch.Servable .holding) batch member⟩

/-- A write leaves the data what a poll would read. -/
theorem RunningCoordinator.asyncWriteValue_runWith
    {running : RunningCoordinator}
    (unitFits : running.coordinator.client.deviceId < 256)
    (wellFormed : simulation.store.WellFormed) {extra : Option Batch}
    (synced : running.data = simulation.store.data extra)
    {address value : Nat} (known : 1 ≤ address ∧ address ≤ 68)
    (valueFits : value < 65536) :
    ∃ after,
      (running.asyncWriteValue address value).runWith (handler transport)
          simulation =
        (.ok (.ok (),
          { running with
            data := (simulation.store.write address value).data extra }),
          after) ∧
        after.store = simulation.store.write address value := by
  have wrote := writeRegister_runWith (@exchange_known transport
    running.coordinator.client simulation _ _ unitFits valueFits wellFormed
    known)
  have written : (simulation.store.write address value).WellFormed :=
    wellFormed.write ((wellFormed.defined .holding address).mpr known)
      valueFits
  obtain ⟨⟨start, count⟩, chosen, member, covers, servable⟩ :=
    exists_confirmedBatch known
  have read : (running.coordinator.client.readHoldingBatch start
      count).runWith (handler transport)
        (simulation.answered (simulation.store.write address value)) = _ :=
    session_readBatch_runWith unitFits written servable
  have confirmed := @RegisterStore.confirmed_write simulation.store _ _
    member address value covers
  refine ⟨(simulation.answered
    (simulation.store.write address value)).answered
      (simulation.store.write address value), ?_, rfl⟩
  simp only [RunningCoordinator.asyncWriteValue, Coroutine.bind_eq,
    Coroutine.runWith_bind, Coroutine.runWith_outcome, wrote, chosen,
    writtenOfReply, Except.mapError, read]
  have published : { input := running.data.input
                     holding := (running.data.holding.set address
                       value).update
                         ((simulation.store.write address
                           value).holdingRegisters.restrict
                             [(start, count)]) } =
      (simulation.store.write address value).data extra := by
    rw [synced, RegisterStore.data, confirmed]
    rfl
  rw [← published]
  rfl

end Served

end Airfi
