import Airfi.Modbus.Standing

/-!
# The invariant of one client

Every task stands in a session state of its own program.  One step of a task
keeps this for all of them, and so does a whole run.
-/

namespace Airfi

/-- The invariant of the tasks of one client. -/
structure Serialised (honest : Prop) (initial : Device)
    (state : ClientState) : Prop where
  stands : ∀ id task, state.tasks id = some task →
    ∃ session, task.program.Follows (sessionProtocol honest)
        (SessionEnds honest task.operation.perform) session ∧
      Stands honest initial state.results state.bus id task.operation
        session ∧
      session.Pending
  holder : ∀ id, state.bus.lockedBy = some id →
    ∃ task, state.tasks id = some task
  connected : ∀ id, state.bus.connectedBy = some id →
    state.bus.lockedBy = some id
  free : state.bus.lockedBy = none → honest →
    Serial state.results initial state.bus.order state.bus.device
  called : ∀ id task, state.tasks id = some task →
    state.calls id = some task.operation ∧ state.results id = none
  fresh : ∀ id, state.nextTask ≤ id →
    state.tasks id = none ∧ state.results id = none ∧
      Absent id state.bus.log ∧ Absent id state.bus.order
  grouped : Grouped state.bus.log
  entries : ∀ entry ∈ state.bus.order,
    state.calls entry.1 = some entry.2
  distinct : (state.bus.order.map Prod.fst).Nodup
  placed : ∀ id result, state.results id = some (.ok result) →
    ∃ operation, (id, operation) ∈ state.bus.order

theorem serialised_initial (honest : Prop) (device : Device) :
    Serialised honest device (.initial device) where
  stands := by
    intro id task found
    cases found
  holder := by
    intro id locked
    cases locked
  connected := by
    intro id connected
    cases connected
  free := fun _ _ => .start
  called := by
    intro id task found
    cases found
  fresh := fun _ _ => ⟨rfl, rfl, absent_nil _, absent_nil _⟩
  grouped := trivial
  entries := by
    intro entry member
    cases member
  distinct := List.nodup_nil
  placed := by
    intro id result recorded
    cases recorded

/-! ## One step -/

section Step

variable {honest : Prop} {initial : Device} {state : ClientState}
  {id : TaskId} {operation : Operation} {effect : ClientEffect}
  {resume : ClientAnswer effect → ClientProgram OperationResult}
  {choice : BusChoice} {reply : ClientAnswer effect} {bus : Bus}

/-- A session whose call has ended no longer holds the lock. -/
theorem Stands.ended {result : Except PyError OperationResult}
    {results : TaskId → Option (Except PyError OperationResult)}
    {session : SessionState}
    (stands : Stands honest initial results bus id operation session)
    (ends : SessionEnds honest operation.perform session result) :
    bus.lockedBy ≠ some id := by
  cases session with
  | released before after =>
      rw [stands.1]
      exact (Option.some_ne_none id).symm
  | abandoned => exact stands.1
  | _ => exact ends.elim

/-- The operation of a call that has ended takes its place in the order. -/
theorem Stands.serial {result : Except PyError OperationResult}
    {results : TaskId → Option (Except PyError OperationResult)}
    {session : SessionState} (unrecorded : results id = none)
    (stands : Stands honest initial results bus id operation session)
    (ends : SessionEnds honest operation.perform session result)
    (unlocked : bus.lockedBy = none) (answers : honest) :
    Serial (Function.update results id (some result)) initial bus.order
      bus.device := by
  cases session with
  | released before after =>
      obtain ⟨-, -, earlier, orderEq, served⟩ := stands
      obtain ⟨rfl, serial⟩ := served answers
      rw [orderEq]
      exact .next (serial.record unrecorded) (Function.update_self ..)
        (ends answers)
  | abandoned => exact (stands.2.2 unlocked answers).record unrecorded
  | _ => exact ends.elim

/-- Only an operation that got the lock returns a result. -/
theorem Stands.placed {result : OperationResult}
    {results : TaskId → Option (Except PyError OperationResult)}
    {session : SessionState}
    (stands : Stands honest initial results bus id operation session)
    (ends : SessionEnds honest operation.perform session (.ok result)) :
    ∃ operation, (id, operation) ∈ bus.order := by
  cases session with
  | released before after =>
      obtain ⟨-, -, earlier, orderEq, -⟩ := stands
      refine ⟨operation, ?_⟩
      rw [orderEq]
      exact List.mem_cons_self
  | _ => exact ends.elim

theorem pending_of_allowed {session : SessionState}
    (allowed : (sessionProtocol honest).allowed session effect) :
    session.Pending := by
  cases session with
  | released before after => cases effect <;> exact allowed
  | abandoned => cases effect <;> exact allowed
  | _ => trivial

theorem Serialised.known (held : Serialised honest initial state)
    {task : Task} (found : state.tasks id = some task) :
    id < state.nextTask := by
  by_contra later
  have absent := (held.fresh id (Nat.le_of_not_lt later)).1
  rw [found] at absent
  cases absent

/-- What an answered effect of the task `id` leaves on the bus for the
others, before the task itself goes on. -/
structure Moved (honest : Prop) (initial : Device) (state : ClientState)
    (id : TaskId) (bus : Bus) : Prop where
  known : id < state.nextTask
  unrecorded : state.results id = none
  others : ∀ other task, other ≠ id → state.tasks other = some task →
    ∃ session, task.program.Follows (sessionProtocol honest)
        (SessionEnds honest task.operation.perform) session ∧
      Stands honest initial state.results bus other task.operation
        session ∧
      session.Pending
  owner : ∀ other, other ≠ id → bus.lockedBy = some other →
    ∃ task, state.tasks other = some task
  connected : ∀ owner, bus.connectedBy = some owner →
    bus.lockedBy = some owner
  absent : ∀ other, state.nextTask ≤ other →
    Absent other bus.log ∧ Absent other bus.order
  grouped : Grouped bus.log
  entries : ∀ entry ∈ bus.order, state.calls entry.1 = some entry.2
  distinct : (bus.order.map Prod.fst).Nodup
  kept : ∀ entry ∈ state.bus.order, entry ∈ bus.order

theorem Serialised.moved {session : SessionState}
    (held : Serialised honest initial state)
    (found : state.tasks id =
      some { operation, program := .perform effect resume })
    (stands : Stands honest initial state.results state.bus id operation
      session)
    (allowed : (sessionProtocol honest).allowed session effect)
    (pending : session.Pending)
    (answered : state.bus.answer id operation effect choice =
      some (reply, bus))
    (connected : ∀ owner, bus.connectedBy = some owner →
      bus.lockedBy = some owner) :
    Moved honest initial state id bus := by
  have frame := Bus.answer_frame answered
  have known := held.known found
  obtain ⟨called, unrecorded⟩ := held.called id _ found
  constructor
  case known => exact known
  case unrecorded => exact unrecorded
  case connected => exact connected
  case grouped => exact frame.grouped stands allowed held.grouped
  case distinct => exact frame.distinct stands allowed held.distinct
  case kept => exact fun _ => frame.mem_order
  case others =>
    intro other task different otherFound
    obtain ⟨otherSession, follows, otherStands, otherPending⟩ :=
      held.stands other task otherFound
    exact ⟨otherSession, follows,
      stands.stable allowed pending answered different otherStands
        otherPending, otherPending⟩
  case owner =>
    intro other different locked
    exact held.holder other (frame.owner_kept different locked)
  case absent =>
    intro other later
    have different : other ≠ id :=
      Nat.ne_of_gt (Nat.lt_of_lt_of_le known later)
    obtain ⟨-, -, absentLog, absentOrder⟩ := held.fresh other later
    exact ⟨frame.absent_log different absentLog,
      frame.absent_order different absentOrder⟩
  case entries =>
    rcases frame.order with same | ⟨-, added⟩
    · rw [same]
      exact held.entries
    · rw [added]
      intro entry member
      rcases List.mem_cons.mp member with here | earlier
      · rw [here]
        exact called
      · exact held.entries entry earlier

theorem Moved.finish {result : Except PyError OperationResult}
    {session : SessionState} (held : Serialised honest initial state)
    (moved : Moved honest initial state id bus)
    (stands : Stands honest initial state.results bus id operation session)
    (ends : SessionEnds honest operation.perform session result) :
    Serialised honest initial (state.finish bus id result) where
  stands := by
    intro other task found
    by_cases same : other = id
    · simp [ClientState.finish, same] at found
    · simp only [ClientState.finish, Function.update_of_ne same] at found
      obtain ⟨otherSession, follows, otherStands, pending⟩ :=
        moved.others other task same found
      exact ⟨otherSession, follows,
        otherStands.record moved.unrecorded pending, pending⟩
  holder := by
    intro owner locked
    have different : owner ≠ id := by
      intro same
      rw [same] at locked
      exact stands.ended ends locked
    obtain ⟨task, found⟩ := moved.owner owner different locked
    refine ⟨task, ?_⟩
    simp only [ClientState.finish, Function.update_of_ne different]
    exact found
  connected := moved.connected
  free := stands.serial moved.unrecorded ends
  called := by
    intro other task found
    by_cases same : other = id
    · simp [ClientState.finish, same] at found
    · simp only [ClientState.finish, Function.update_of_ne same] at found ⊢
      exact held.called other task found
  fresh := by
    intro other later
    have different : other ≠ id :=
      Nat.ne_of_gt (Nat.lt_of_lt_of_le moved.known later)
    obtain ⟨notRunning, unrecorded, -⟩ := held.fresh other later
    simp only [ClientState.finish, Function.update_of_ne different]
    exact ⟨notRunning, unrecorded, moved.absent other later⟩
  grouped := moved.grouped
  entries := moved.entries
  distinct := moved.distinct
  placed := by
    intro other value recorded
    by_cases same : other = id
    · rw [same] at recorded ⊢
      simp only [ClientState.finish, Function.update_self,
        Option.some.injEq] at recorded
      rw [recorded] at ends
      exact stands.placed ends
    · simp only [ClientState.finish, Function.update_of_ne same]
        at recorded
      obtain ⟨earlier, member⟩ := held.placed other value recorded
      exact ⟨earlier, moved.kept _ member⟩

theorem Moved.goesOn {session : SessionState}
    (held : Serialised honest initial state)
    (moved : Moved honest initial state id bus)
    (called : state.calls id = some operation)
    (stands : Stands honest initial state.results bus id operation session)
    (past : session ≠ .waiting)
    (follows : (Coroutine.perform effect resume).Follows
      (sessionProtocol honest) (SessionEnds honest operation.perform)
      session) :
    Serialised honest initial
      (state.settle bus id operation (.perform effect resume)) where
  stands := by
    intro other task found
    by_cases same : other = id
    · rw [same] at found ⊢
      simp only [ClientState.settle, Function.update_self,
        Option.some.injEq] at found
      rw [← found]
      exact ⟨session, follows, stands, pending_of_allowed follows.1⟩
    · simp only [ClientState.settle, Function.update_of_ne same] at found
      exact moved.others other task same found
  holder := by
    intro owner locked
    by_cases same : owner = id
    · exact ⟨_, by rw [same]; exact Function.update_self ..⟩
    · obtain ⟨task, found⟩ := moved.owner owner same locked
      refine ⟨task, ?_⟩
      simp only [ClientState.settle, Function.update_of_ne same]
      exact found
  connected := moved.connected
  free := by
    intro unlocked
    have locked := stands.holds (pending_of_allowed follows.1) past
    rw [show bus.lockedBy = none from unlocked] at locked
    cases locked
  called := by
    intro other task found
    by_cases same : other = id
    · rw [same] at found ⊢
      simp only [ClientState.settle, Function.update_self,
        Option.some.injEq] at found
      rw [← found]
      exact ⟨called, moved.unrecorded⟩
    · simp only [ClientState.settle, Function.update_of_ne same] at found ⊢
      exact held.called other task found
  fresh := by
    intro other later
    have different : other ≠ id :=
      Nat.ne_of_gt (Nat.lt_of_lt_of_le moved.known later)
    obtain ⟨notRunning, unrecorded, -⟩ := held.fresh other later
    simp only [ClientState.settle, Function.update_of_ne different]
    exact ⟨notRunning, unrecorded, moved.absent other later⟩
  grouped := moved.grouped
  entries := moved.entries
  distinct := moved.distinct
  placed := by
    intro other value recorded
    obtain ⟨earlier, member⟩ := held.placed other value recorded
    exact ⟨earlier, moved.kept _ member⟩

theorem Serialised.settle (held : Serialised honest initial state)
    (honestly : honest → (ClientAction.run id choice).ThroughClient)
    (found : state.tasks id =
      some { operation, program := .perform effect resume })
    (answered : state.bus.answer id operation effect choice =
      some (reply, bus)) :
    Serialised honest initial
      (state.settle bus id operation (resume reply)) := by
  obtain ⟨session, ⟨allowed, resumed⟩, stands, pending⟩ :=
    held.stands id _ found
  obtain ⟨after, advanced, standsAfter, past⟩ :=
    Bus.answer_stands honestly held.free held.connected stands allowed
      answered
  have followsAfter := resumed reply after advanced
  have moved : Moved honest initial state id bus :=
    held.moved found stands allowed pending answered
      (standsAfter.connected past)
  cases rest : resume reply with
  | done result =>
      rw [rest] at followsAfter
      exact moved.finish held standsAfter followsAfter
  | raise error =>
      rw [rest] at followsAfter
      exact moved.finish held standsAfter followsAfter
  | perform nextEffect nextResume =>
      rw [rest] at followsAfter
      exact moved.goesOn held (held.called id _ found).1 standsAfter past
        followsAfter

end Step

theorem Serialised.start {honest : Prop} {initial : Device}
    {state : ClientState} (client : AirfiModbusClient)
    (operation : Operation) (held : Serialised honest initial state) :
    Serialised honest initial
      { state with
        calls := Function.update state.calls state.nextTask (some operation)
        tasks := Function.update state.tasks state.nextTask
          (some { operation, program := operation.program client })
        nextTask := state.nextTask + 1 } where
  stands := by
    intro id task found
    by_cases new : id = state.nextTask
    · rw [new] at found ⊢
      simp only [Function.update_self, Option.some.injEq] at found
      rw [← found]
      refine ⟨.waiting, operation.program_follows client, ⟨?_, ?_⟩, trivial⟩
      · intro locked
        obtain ⟨task, running⟩ := held.holder _ locked
        rw [(held.fresh _ le_rfl).1] at running
        cases running
      · exact (held.fresh _ le_rfl).2.2
    · simp only [Function.update_of_ne new] at found
      exact held.stands id task found
  holder := by
    intro id locked
    obtain ⟨task, running⟩ := held.holder id locked
    have known : id ≠ state.nextTask := Nat.ne_of_lt (held.known running)
    exact ⟨task, by simp only [Function.update_of_ne known]; exact running⟩
  connected := held.connected
  free := held.free
  called := by
    intro id task found
    by_cases new : id = state.nextTask
    · rw [new] at found ⊢
      simp only [Function.update_self, Option.some.injEq] at found ⊢
      rw [← found]
      exact ⟨rfl, (held.fresh _ le_rfl).2.1⟩
    · simp only [Function.update_of_ne new] at found ⊢
      exact held.called id task found
  fresh := by
    intro id later
    have different : id ≠ state.nextTask :=
      Nat.ne_of_gt (Nat.lt_of_succ_le later)
    simp only [Function.update_of_ne different]
    exact held.fresh id (Nat.le_of_succ_le later)
  grouped := held.grouped
  entries := by
    intro entry member
    have different : entry.1 ≠ state.nextTask := by
      intro same
      exact (held.fresh _ le_rfl).2.2.2 entry member same
    simp only [Function.update_of_ne different]
    exact held.entries entry member
  distinct := held.distinct
  placed := held.placed

/-- Without honesty nothing is said about the registers. -/
theorem Serialised.deviceChanges {honest : Prop} {initial : Device}
    {state : ClientState} (device : Device) (dishonest : ¬ honest)
    (held : Serialised honest initial state) :
    Serialised honest initial
      { state with bus := { state.bus with device } } :=
  { held with
    stands := by
      intro id task found
      obtain ⟨session, follows, stands, pending⟩ :=
        held.stands id task found
      refine ⟨session, follows, ?_, pending⟩
      have served : ∀ before now,
          Served honest initial state.results state.bus id task.operation
            before now →
          Served honest initial state.results { state.bus with device } id
            task.operation before now := by
        intro before now held
        obtain ⟨earlier, orderEq, -⟩ := held
        exact ⟨earlier, orderEq, fun answers => absurd answers dishonest⟩
      cases session with
      | waiting => exact stands
      | locked before =>
          exact ⟨stands.1, stands.2.1, stands.2.2.1,
            served _ _ stands.2.2.2⟩
      | opened before now =>
          exact ⟨stands.1, stands.2.1, stands.2.2.1,
            served _ _ stands.2.2.2⟩
      | closed before now =>
          exact ⟨stands.1, stands.2.1, served _ _ stands.2.2⟩
      | released before after => exact pending.elim
      | abandoned => exact pending.elim
    free := fun _ answers => absurd answers dishonest }

theorem Serialised.step {honest : Prop} {initial : Device}
    {client : AirfiModbusClient} {state next : ClientState}
    {action : ClientAction} (held : Serialised honest initial state)
    (honestly : honest → action.ThroughClient)
    (stepped : state.step client action = some next) :
    Serialised honest initial next := by
  cases action with
  | start operation =>
      cases stepped
      exact held.start client operation
  | deviceChanges device =>
      cases stepped
      exact held.deviceChanges device honestly
  | run id choice =>
      simp only [ClientState.step, ClientState.run] at stepped
      split at stepped
      case h_2 => cases stepped
      case h_1 operation effect resume found =>
        split at stepped
        case h_2 => cases stepped
        case h_1 reply bus answered =>
          cases stepped
          exact held.settle honestly found answered

/-- The invariant after any run; `honest` restricts the runs, not the code. -/
theorem serialised_of_run {client : AirfiModbusClient} {device : Device}
    {actions : List ClientAction} {state : ClientState} (honest : Prop)
    (honestly : honest → ∀ action ∈ actions, action.ThroughClient)
    (ran : (clientMachine client device).run actions = some state) :
    Serialised honest device state := by
  apply Machine.invariant_of_meets
    (fun _ action => honest → action.ThroughClient)
    (Serialised honest device) (serialised_initial honest device)
    (fun held condition stepped => held.step condition stepped) ran
  apply Machine.meets_of_forall
  intro action member _ answers
  exact honestly answers action member

end Airfi
