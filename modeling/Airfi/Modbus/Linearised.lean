import Airfi.Modbus.Serialised

/-!
# Operations one after another

What the invariant is for: the lock brackets every connection, and the
operations of one client take place one after another in lock order.
-/

namespace Airfi

/-- The lock brackets the connection, and the connection the requests. -/
structure Bracketed (client : AirfiModbusClient) (state : ClientState) :
    Prop where
  neverInterleaved : NeverInterleaved state.bus.log
  lockedWhileOpen : ∀ id, state.bus.connectedBy = some id →
    state.bus.lockedBy = some id
  /-- Whatever frees the lock, the connection was closed before. -/
  closedAtRelease : ∀ action next id,
    state.step client action = some next →
      state.bus.lockedBy = some id → next.bus.lockedBy ≠ some id →
      state.bus.connectedBy = none
  /-- An operation that has ended holds nothing. -/
  holderRuns : ∀ id, state.bus.lockedBy = some id →
    ∃ task, state.tasks id = some task

/-- The operations took effect in lock order, as if each had run alone. -/
structure Linearised (initial : Device) (state : ClientState) : Prop where
  serial : ∃ finished before,
    Serial state.results initial finished before ∧
      match state.bus.lockedBy with
      | none => state.bus.order = finished ∧ state.bus.device = before
      | some id => ∃ operation, state.bus.order = (id, operation) :: finished
  once : (state.bus.order.map Prod.fst).Nodup
  results : ∀ id result, state.results id = some (.ok result) →
    ∃ operation newer older before,
      state.calls id = some operation ∧
        state.bus.order = newer ++ (id, operation) :: older ∧
        Serial state.results initial older before ∧
        result = (operation.perform before).1
  snapshots : ∀ id data, state.results id = some (.ok (.data data)) →
    ∃ extra older before, state.calls id = some (.readAll extra) ∧
      Serial state.results initial older before ∧
      data = Operation.snapshotData extra before

theorem Serial.result
    {results : TaskId → Option (Except PyError OperationResult)}
    {initial device : Device} {newer older : List (TaskId × Operation)}
    {id : TaskId} {operation : Operation} {result : OperationResult}
    (serial : Serial results initial (newer ++ (id, operation) :: older)
      device)
    (recorded : results id = some (.ok result)) :
    ∃ before, Serial results initial older before ∧
      result = (operation.perform before).1 := by
  induction newer generalizing device with
  | nil =>
      cases serial with
      | @next _ before _ _ _ found earlier foundEq performed =>
          rw [recorded] at foundEq
          obtain rfl := Option.some.inj foundEq
          have performedEq : operation.perform before = (result, device) :=
            performed
          exact ⟨before, earlier, by rw [performedEq]⟩
  | cons entry rest ih =>
      cases serial with
      | next earlier _ _ => exact ih earlier

theorem Operation.perform_data {operation : Operation} {device : Device}
    {data : AirfiData}
    (performed : OperationResult.data data =
      (operation.perform device).1) :
    ∃ extra, operation = .readAll extra ∧
      data = Operation.snapshotData extra device := by
  cases operation with
  | readAll extra =>
      cases performed
      exact ⟨extra, rfl, rfl⟩
  | _ => cases performed

/-- While the lock is held, the order ends with the holder. -/
theorem Serialised.holding {honest : Prop} {initial : Device}
    {state : ClientState} {id : TaskId}
    (held : Serialised honest initial state)
    (locked : state.bus.lockedBy = some id) :
    ∃ operation earlier before,
      state.bus.order = (id, operation) :: earlier ∧
        state.results id = none ∧
        (honest → Serial state.results initial earlier before) := by
  obtain ⟨task, found⟩ := held.holder id locked
  obtain ⟨session, -, stands, pending⟩ := held.stands id task found
  have unrecorded := (held.called id task found).2
  cases session with
  | waiting => exact absurd locked stands.1
  | locked before =>
      obtain ⟨-, -, -, earlier, orderEq, serial⟩ := stands
      exact ⟨_, earlier, before, orderEq, unrecorded,
        fun answers => (serial answers).2⟩
  | opened before now =>
      obtain ⟨-, -, -, earlier, orderEq, serial⟩ := stands
      exact ⟨_, earlier, before, orderEq, unrecorded,
        fun answers => (serial answers).2⟩
  | closed before now =>
      obtain ⟨-, -, earlier, orderEq, serial⟩ := stands
      exact ⟨_, earlier, before, orderEq, unrecorded,
        fun answers => (serial answers).2⟩
  | released before after => exact pending.elim
  | abandoned => exact pending.elim

/-- Every recorded success lies in the part of the order that is over. -/
theorem Serialised.result {honest : Prop} {initial : Device}
    {state : ClientState} {id : TaskId} {result : OperationResult}
    (held : Serialised honest initial state) (answers : honest)
    (recorded : state.results id = some (.ok result)) :
    ∃ operation newer older before,
      state.calls id = some operation ∧
        state.bus.order = newer ++ (id, operation) :: older ∧
        Serial state.results initial older before ∧
        result = (operation.perform before).1 := by
  obtain ⟨operation, member⟩ := held.placed id result recorded
  have called := held.entries _ member
  obtain ⟨newer, older, orderEq⟩ := List.append_of_mem member
  cases locked : state.bus.lockedBy with
  | none =>
      have serial := held.free locked answers
      rw [orderEq] at serial
      obtain ⟨before, earlier, resultEq⟩ := serial.result recorded
      exact ⟨operation, newer, older, before, called, orderEq, earlier,
        resultEq⟩
  | some owner =>
      obtain ⟨running, earlier, start, lastEq, unrecorded, serial⟩ :=
        held.holding locked
      cases newer with
      | nil =>
          -- The holder has no result yet, so it is not this operation.
          rw [orderEq] at lastEq
          obtain ⟨rfl, -⟩ := Prod.mk.inj (List.cons.inj lastEq).1
          rw [recorded] at unrecorded
          cases unrecorded
      | cons entry rest =>
          have restEq : rest ++ (id, operation) :: older = earlier := by
            rw [orderEq] at lastEq
            exact (List.cons.inj lastEq).2
          have past := serial answers
          rw [← restEq] at past
          obtain ⟨before, older', resultEq⟩ := past.result recorded
          exact ⟨operation, entry :: rest, older, before, called, orderEq,
            older', resultEq⟩

theorem Serialised.linearised {initial : Device} {state : ClientState}
    (held : Serialised True initial state) : Linearised initial state where
  serial := by
    cases locked : state.bus.lockedBy with
    | none =>
        exact ⟨_, _, held.free locked trivial, rfl, rfl⟩
    | some id =>
        obtain ⟨operation, earlier, before, orderEq, -, serial⟩ :=
          held.holding locked
        exact ⟨earlier, before, serial trivial, operation, orderEq⟩
  once := held.distinct
  results := fun _ _ recorded => held.result trivial recorded
  snapshots := by
    intro id data recorded
    obtain ⟨operation, newer, older, before, called, -, serial, resultEq⟩ :=
      held.result trivial recorded
    obtain ⟨extra, rfl, dataEq⟩ := Operation.perform_data resultEq
    exact ⟨extra, older, before, called, serial, dataEq⟩

/-- Only the release effect frees the lock, and only once it is closed. -/
theorem Serialised.closedAtRelease {honest : Prop} {initial : Device}
    {client : AirfiModbusClient} {state next : ClientState}
    {action : ClientAction} {id : TaskId}
    (held : Serialised honest initial state)
    (stepped : state.step client action = some next)
    (locked : state.bus.lockedBy = some id)
    (freed : next.bus.lockedBy ≠ some id) :
    state.bus.connectedBy = none := by
  cases action with
  | start operation =>
      cases stepped
      exact absurd locked freed
  | deviceChanges device =>
      cases stepped
      exact absurd locked freed
  | run runner choice =>
      simp only [ClientState.step, ClientState.run] at stepped
      split at stepped
      case h_2 => cases stepped
      case h_1 operation effect resume found =>
        split at stepped
        case h_2 => cases stepped
        case h_1 reply bus answered =>
          cases stepped
          rw [ClientState.settle_bus] at freed
          obtain ⟨session, ⟨allowed, -⟩, stands, pending⟩ :=
            held.stands runner _ found
          by_cases same : id = runner
          · rw [← same] at answered
            rcases (Bus.answer_frame answered).lockedBy with
              kept | taken | ⟨released, -⟩
            · exact absurd (kept.trans locked) freed
            · exact absurd taken freed
            · rw [released] at allowed
              cases session with
              | closed before now => exact stands.2.1
              | _ => exact allowed.elim
          · have unchanged := Bus.answer_waiting stands allowed pending
              locked same answered
            rw [unchanged] at freed
            exact absurd locked freed

/-- The operations of one client are linearizable and leave nothing open. -/
theorem client_operations_serialise (client : AirfiModbusClient)
    (device : Device) {actions : List ClientAction} {state : ClientState}
    (ran : (clientMachine client device).run actions = some state) :
    Bracketed client state ∧
      ((∀ action ∈ actions, action.ThroughClient) →
        Linearised device state) := by
  constructor
  · have held : Serialised False device state :=
      serialised_of_run False False.elim ran
    exact
      { neverInterleaved := held.grouped.neverInterleaved
        lockedWhileOpen := held.connected
        closedAtRelease := fun _ _ _ => held.closedAtRelease
        holderRuns := held.holder }
  · intro throughClient
    exact (serialised_of_run True (fun _ => throughClient) ran).linearised

/-- A write and a read that waits for it, its request timing out. -/
def writeThenRead : List ClientAction :=
  [.start (.writeRegister 12 5),
    .start (.readHoldingBatch 10 4),
    .run 0 (.lock .acquired),
    .run 0 (.connect (.returned true)),
    .run 0 (.respond .answered),
    .run 0 .proceed,
    .run 0 .proceed,
    .run 1 (.lock .acquired),
    .run 1 (.connect (.returned true)),
    .run 1 (.respond (.failed .cancelledError false)),
    .run 1 .proceed,
    .run 1 .proceed]

theorem client_operations_serialise_write_read :
    ∃ state,
      (clientMachine ⟨"device", 502, 1⟩ ⟨fun _ => 0, fun _ => 0⟩).run
          writeThenRead = some state ∧
        Bracketed ⟨"device", 502, 1⟩ state ∧
        Linearised ⟨fun _ => 0, fun _ => 0⟩ state := by
  have finishes : ((clientMachine ⟨"device", 502, 1⟩
      ⟨fun _ => 0, fun _ => 0⟩).run writeThenRead).isSome := rfl
  obtain ⟨state, ran⟩ := Option.isSome_iff_exists.mp finishes
  have both := client_operations_serialise _ _ ran
  refine ⟨state, ran, both.1, both.2 ?_⟩
  simp [writeThenRead, ClientAction.ThroughClient]

end Airfi
