import Airfi.Modbus.Phases
import Airfi.Modbus.Serialised
import Mathlib.Algebra.BigOperators.Group.Finset.Basic
import Mathlib.Algebra.Order.BigOperators.Group.Finset

/-!
# Every operation of a client ends

No lock order blocks the tasks of one client, also where a task is cancelled
in its connect: while one is unfinished, the holder of the lock, or any task
when the lock is free, can be answered.  Every operation performs at most
twelve effects, so once no more operations start, all of them have ended after
so many answers each.
-/

namespace Airfi

/-! ## Effects of one operation -/

section Bounds

variable {α : Type} (client : AirfiModbusClient)

theorem connect_bind_within {next : Unit → ClientProgram α} {bound : Nat}
    (positive : 0 < bound) (within : (next ()).Within bound) :
    (client.connect.bind next).Within (bound + 1) := by
  have closes (message : String) :
      ((AirfiModbusClient.connectFailed message).bind next).Within bound := by
    refine ⟨positive, ?_⟩
    intro closed
    exact Coroutine.within_raise _ _
  apply Coroutine.Within.perform
  intro reply
  cases reply with
  | returned connected =>
      cases connected with
      | true => exact within
      | false => exact closes _
  | raised error =>
      cases error with
      | osError text => exact closes _
      | timeoutError text => exact closes _
      | modbusException io text => exact closes _
      | _ => exact Coroutine.within_raise _ _

/-- A session adds the lock, the connect, the close and the release. -/
theorem session_within {body : ClientProgram α} {bound : Nat}
    (within : body.Within bound) :
    (client.session body).Within (bound + 4) := by
  have translated : (translateModbusException body).Within (bound + 0) := by
    apply within.tryExcept
    intro error
    cases error with
    | modbusException io text => exact Coroutine.within_raise _ _
    | _ => exact Coroutine.within_raise _ _
  have closed : clientClose.Within 1 := ⟨Nat.one_pos, fun _ => trivial⟩
  have released : releaseLock.Within 1 := ⟨Nat.one_pos, fun _ => trivial⟩
  have connected : (client.connect.bind fun _ =>
      (translateModbusException body).tryFinally clientClose).Within
        (bound + 1 + 1) :=
    connect_bind_within client (Nat.succ_pos bound)
      (translated.tryFinally closed)
  apply Coroutine.Within.perform
  intro reply
  cases reply with
  | cancelled => exact Coroutine.within_raise _ _
  | acquired => exact connected.tryFinally released

theorem readBatch_within (table : RegisterTable) (start count : Nat)
    (deviceId : Option Nat) :
    (client.readBatch table start count deviceId).Within 1 := by
  apply Coroutine.Within.perform
  intro reply
  cases reply with
  | registers values => exact Coroutine.within_done _ _
  | errorResponse text => exact Coroutine.within_raise _ _
  | raised error => exact Coroutine.within_raise _ _

theorem readBatches_within (table : RegisterTable) (batches : List Batch)
    (data : RegisterMap) :
    (client.readBatches table batches data).Within batches.length := by
  induction batches generalizing data with
  | nil => exact Coroutine.within_done _ _
  | cons batch rest ih =>
      rw [List.length_cons, Nat.add_comm]
      exact (readBatch_within client table batch.1 batch.2 none).bind
        fun read => ih (data.update read)

/-- The result that the operation returns is packed without an effect. -/
theorem packed_within {program : ClientProgram α} {bound : Nat}
    (within : program.Within bound) (pack : α → OperationResult) :
    (program.bind fun value => pure (pack value)).Within bound :=
  within.bind fun value => Coroutine.within_done (pack value) 0

theorem readAll_within (extra : Option Batch) :
    (client.readAll extra).Within 12 := by
  have atMostOne : extra.toList.length ≤ 1 := by
    cases extra <;> simp
  have inputs : (inputRegisterBatches ++ extra.toList).length ≤ 4 := by
    rw [List.length_append]
    exact Nat.add_le_add_left atMostOne 3
  have requests :=
    (readBatches_within client .input
      (inputRegisterBatches ++ extra.toList) RegisterMap.empty).bind
      fun input =>
        (readBatches_within client .holding holdingRegisterBatches
          RegisterMap.empty).bind fun holding =>
            Coroutine.within_done (AirfiData.mk input holding) 0
  apply session_within
  apply requests.mono
  simpa [holdingRegisterBatches] using inputs

theorem readInputRegister_within (address : Nat) (deviceId : Option Nat) :
    (client.readInputRegister address deviceId).Within 5 := by
  apply session_within
  change Coroutine.Within _ (1 + 0)
  apply (readBatch_within client .input address 1 deviceId).bind
  intro batch
  cases batch address with
  | some value => exact Coroutine.within_done value 0
  | none => exact Coroutine.within_raise _ 0

theorem writeRegister_within (address value : Nat) :
    (client.writeRegister address value).Within 5 := by
  apply session_within
  apply Coroutine.Within.perform
  intro reply
  cases reply with
  | registers values => exact Coroutine.within_done _ _
  | errorResponse text => exact Coroutine.within_raise _ _
  | raised error => exact Coroutine.within_raise _ _

/-- `read_all` with an extension batch performs the most effects. -/
theorem Operation.program_within (operation : Operation) :
    (operation.program client).Within 12 := by
  cases operation with
  | readAll extra =>
      exact packed_within (readAll_within client extra) OperationResult.data
  | readHoldingBatch start count =>
      have within := session_within client
        (readBatch_within client .holding start count none)
      exact (packed_within within OperationResult.batch).mono (by decide)
  | readInputBatch start count =>
      have within := session_within client
        (readBatch_within client .input start count none)
      exact (packed_within within OperationResult.batch).mono (by decide)
  | readInputRegister address deviceId =>
      have within := readInputRegister_within client address deviceId
      exact (packed_within within OperationResult.value).mono (by decide)
  | writeRegister address value =>
      have within := writeRegister_within client address value
      exact (packed_within within fun _ => OperationResult.written).mono
        (by decide)

end Bounds

/-! ## Any end of a connect -/

/-- As `Bus.answer`, but a connect may also end with an exception that
`_connect` does not handle, such as its cancellation. -/
def Bus.answerAny (bus : Bus) (task : TaskId) (operation : Operation) :
    (effect : ClientEffect) → BusChoice → Option (ClientAnswer effect × Bus)
  | .connect, .connect reply =>
      some (reply, { bus with connectedBy := some task })
  | effect, choice => bus.answer task operation effect choice

namespace ClientState

def runAny (state : ClientState) (id : TaskId) (choice : BusChoice) :
    Option ClientState :=
  match state.tasks id with
  | some { operation, program := .perform effect resume } =>
      match state.bus.answerAny id operation effect choice with
      | some (answer, bus) =>
          some (state.settle bus id operation (resume answer))
      | none => none
  | _ => none

def stepAny (client : AirfiModbusClient) (state : ClientState) :
    ClientAction → Option ClientState
  | .run id choice => state.runAny id choice
  | action => state.step client action

end ClientState

/-- A connect ends as `_connect` expects. -/
def ClientAction.Declared : ClientAction → Prop
  | .run _ (.connect reply) => reply.Declared
  | _ => True

/-- An allowed effect leaves the lock alone, takes it or frees it. -/
theorem Bus.lockedBy_of_answerAny {bus next : Bus} {id : TaskId}
    {operation : Operation} {effect : ClientEffect} {choice : BusChoice}
    {reply : ClientAnswer effect} {phase : Phase}
    (allowed : phase.Allows effect)
    (answered : bus.answerAny id operation effect choice =
      some (reply, next)) :
    next.lockedBy = bus.lockedBy ∧
        (phase.after effect reply = .idle ↔ phase = .idle) ∨
      bus.lockedBy = none ∧ next.lockedBy = some id ∧
        phase.after effect reply ≠ .idle ∨
      phase ≠ .idle ∧ next.lockedBy = none ∧
        phase.after effect reply = .idle := by
  cases effect with
  | acquireLock =>
      cases choice with
      | lock given =>
          cases given with
          | acquired =>
              simp only [answerAny, answer, Option.ite_none_right_eq_some]
                at answered
              obtain ⟨free, same⟩ := answered
              cases same
              exact .inr (.inl ⟨free, rfl, Phase.noConfusion⟩)
          | cancelled =>
              cases answered
              exact .inl ⟨rfl, Iff.rfl⟩
      | _ => cases answered
  | connect =>
      cases phase with
      | locked =>
          cases choice with
          | connect given =>
              cases answered
              left
              refine ⟨rfl, iff_of_false ?_ Phase.noConfusion⟩
              cases reply with
              | returned connected =>
                  cases connected <;> exact Phase.noConfusion
              | raised error => exact Phase.noConfusion
          | _ => cases answered
      | _ => exact allowed.elim
  | request request =>
      cases choice with
      | respond outcome =>
          cases answered
          exact .inl ⟨rfl, Iff.rfl⟩
      | disturb given device =>
          cases answered
          exact .inl ⟨rfl, Iff.rfl⟩
      | _ => cases answered
  | close =>
      cases choice with
      | proceed =>
          cases answered
          left
          refine ⟨rfl, iff_of_false Phase.noConfusion ?_⟩
          cases phase with
          | idle => exact allowed.elim
          | _ => exact Phase.noConfusion
      | _ => cases answered
  | releaseLock =>
      cases choice with
      | proceed =>
          cases answered
          refine .inr (.inr ⟨?_, rfl, rfl⟩)
          cases phase with
          | idle => exact allowed.elim
          | _ => exact Phase.noConfusion
      | _ => cases answered

theorem Operation.program_stays (client : AirfiModbusClient)
    (operation : Operation) : Stays .idle (operation.program client) := by
  cases operation with
  | readAll extra => exact (readAll_stays client extra).bind fun _ => .done _
  | readHoldingBatch start count =>
      exact (readHoldingBatch_stays client start count).bind
        fun _ => .done _
  | readInputBatch start count =>
      exact (readInputBatch_stays client start count).bind fun _ => .done _
  | readInputRegister address deviceId =>
      exact (readInputRegister_stays client address deviceId).bind
        fun _ => .done _
  | writeRegister address value =>
      exact (writeRegister_stays client address value).bind fun _ => .done _

namespace ClientState

/-- The phase that a task is in says whether it has the lock. -/
def InPhase (state : ClientState) (id : TaskId) (phase : Phase) : Prop :=
  state.bus.lockedBy = some id ↔ phase ≠ .idle

/-- Every task is suspended in a phase of its call, and one that has the lock
is unfinished. -/
structure Suspended (state : ClientState) : Prop where
  tasks : ∀ id task, state.tasks id = some task →
    ∃ effect resume phase, task.program = .perform effect resume ∧
      task.program.Follows phaseProtocol (fun reached _ => reached = .idle)
        phase ∧
      state.InPhase id phase
  holder : ∀ id, state.bus.lockedBy = some id →
    ∃ task, state.tasks id = some task
  known : ∀ id task, state.tasks id = some task → id < state.nextTask

variable {state next : ClientState} {id : TaskId} {choice : BusChoice}

end ClientState

/-! ## One answer -/

section Settle

variable {state next : ClientState} {id : TaskId} {choice : BusChoice}

theorem ClientState.settle_tasks {bus : Bus} {operation : Operation}
    {program : ClientProgram OperationResult} {other : TaskId} {task : Task}
    (found : (state.settle bus id operation program).tasks other =
      some task) :
    other ≠ id ∧ state.tasks other = some task ∨
      other = id ∧ task.program = program ∧
        ∃ effect resume, program = .perform effect resume := by
  by_cases same : other = id
  · right
    refine ⟨same, ?_⟩
    cases program with
    | perform effect resume =>
        simp only [settle, same, Function.update_self] at found
        cases found
        exact ⟨rfl, effect, resume, rfl⟩
    | _ =>
        simp only [settle, finish, same, Function.update_self] at found
        cases found
  · left
    refine ⟨same, ?_⟩
    cases program <;>
      simpa only [settle, finish, Function.update_of_ne same] using found

theorem ClientState.settle_others {bus : Bus} {operation : Operation}
    {program : ClientProgram OperationResult} {other : TaskId}
    (different : other ≠ id) :
    (state.settle bus id operation program).tasks other =
      state.tasks other := by
  cases program <;> exact Function.update_of_ne different ..

theorem ClientState.settle_recorded {bus : Bus} {operation : Operation}
    {program : ClientProgram OperationResult} {other : TaskId}
    (recorded : (state.tasks other).isSome ∨
      (state.results other).isSome) :
    ((state.settle bus id operation program).tasks other).isSome ∨
      ((state.settle bus id operation program).results other).isSome := by
  by_cases same : other = id
  · cases program with
    | perform effect resume =>
        left
        simp only [settle, same, Function.update_self, Option.isSome_some]
    | _ =>
        right
        simp only [settle, finish, same, Function.update_self,
          Option.isSome_some]
  · cases program <;>
      simpa only [settle, finish, Function.update_of_ne same] using recorded

theorem ClientState.settle_nextTask {bus : Bus} {operation : Operation}
    {program : ClientProgram OperationResult} :
    (state.settle bus id operation program).nextTask = state.nextTask := by
  cases program <;> rfl

/-- An answer resumes the task that awaits it. -/
theorem ClientState.of_runAny (ran : state.runAny id choice = some next) :
    ∃ operation effect resume reply bus,
      state.tasks id =
        some { operation, program := .perform effect resume } ∧
      state.bus.answerAny id operation effect choice = some (reply, bus) ∧
      next = state.settle bus id operation (resume reply) := by
  rw [runAny] at ran
  split at ran
  case h_2 => cases ran
  case h_1 operation effect resume found =>
    split at ran <;> cases ran
    case h_1 reply bus answered =>
      exact ⟨operation, effect, resume, reply, bus, found, answered, rfl⟩

/-- The tasks stay suspended in their phases, and none is left with the lock
behind it. -/
theorem ClientState.Suspended.run (held : state.Suspended)
    (ran : state.runAny id choice = some next) : next.Suspended := by
  obtain ⟨operation, effect, resume, reply, bus, found, answered, rfl⟩ :=
    of_runAny ran
  obtain ⟨_, _, phase, -, ⟨allowed, resumed⟩, inPhase⟩ :=
    held.tasks id _ found
  have stands : state.bus.lockedBy = some id ↔ phase ≠ .idle := inPhase
  have follows := resumed reply _ rfl
  have changes := Bus.lockedBy_of_answerAny allowed answered
  -- What the answer makes of the lock, for the task and for the others.
  have own : bus.lockedBy = some id ↔
      phase.after effect reply ≠ .idle := by
    rcases changes with ⟨same, idle⟩ | ⟨-, taken, busy⟩ | ⟨-, freed, idle⟩
    · rw [same, stands, Ne, Ne, idle]
    · exact iff_of_true taken busy
    · rw [freed]
      exact iff_of_false (Option.some_ne_none id).symm
        fun busy => busy idle
  have others : ∀ other, other ≠ id →
      (bus.lockedBy = some other ↔ state.bus.lockedBy = some other) := by
    intro other different
    rcases changes with ⟨same, -⟩ | ⟨free, taken, -⟩ | ⟨busy, freed, -⟩
    · rw [same]
    · rw [free, taken]
      exact iff_of_false (fun same => different (Option.some.inj same).symm)
        (Option.some_ne_none other).symm
    · rw [freed, stands.mpr busy]
      exact iff_of_false (Option.some_ne_none other).symm
        fun same => different (Option.some.inj same).symm
  constructor
  case tasks =>
    intro other task otherFound
    rcases settle_tasks otherFound with
      ⟨different, before⟩ | ⟨rfl, program, nextEffect, nextResume, performs⟩
    · obtain ⟨otherEffect, otherResume, otherPhase, performs, otherFollows,
        otherPhased⟩ := held.tasks other task before
      refine ⟨otherEffect, otherResume, otherPhase, performs, otherFollows,
        ?_⟩
      rw [InPhase, settle_bus, others other different]
      exact otherPhased
    · refine ⟨nextEffect, nextResume, phase.after effect reply,
        program.trans performs, ?_, ?_⟩
      · rw [program]
        exact follows
      · rw [InPhase, settle_bus]
        exact own
  case holder =>
    intro holder locked
    rw [settle_bus] at locked
    by_cases same : holder = id
    · rw [same] at locked ⊢
      have busy := own.mp locked
      cases rest : resume reply with
      | perform nextEffect nextResume => exact ⟨_, Function.update_self ..⟩
      | done result =>
          rw [rest] at follows
          exact absurd follows busy
      | raise error =>
          rw [rest] at follows
          exact absurd follows busy
    · rw [settle_others same]
      exact held.holder holder ((others holder same).mp locked)
  case known =>
    intro other task otherFound
    rw [settle_nextTask]
    rcases settle_tasks otherFound with ⟨-, before⟩ | ⟨rfl, -⟩
    · exact held.known other task before
    · exact held.known other _ found

theorem ClientState.Suspended.start (held : state.Suspended)
    (client : AirfiModbusClient) (operation : Operation) :
    { state with
      calls := Function.update state.calls state.nextTask (some operation)
      tasks := Function.update state.tasks state.nextTask
        (some { operation, program := operation.program client })
      nextTask := state.nextTask + 1 }.Suspended where
  tasks := by
    intro other task found
    by_cases same : other = state.nextTask
    · simp only [same, Function.update_self] at found
      cases found
      have waits : state.bus.lockedBy ≠ some other := by
        intro locked
        obtain ⟨task, running⟩ := held.holder other locked
        exact absurd (held.known other task running)
          (Nat.not_lt_of_le (Nat.le_of_eq same.symm))
      have follows := operation.program_stays client
      have performs : ∃ effect resume,
          operation.program client = .perform effect resume := by
        cases operation <;> exact ⟨_, _, rfl⟩
      obtain ⟨effect, resume, performs⟩ := performs
      exact ⟨effect, resume, .idle, performs, follows,
        iff_of_false waits fun idle => idle rfl⟩
    · simp only [Function.update_of_ne same] at found
      exact held.tasks other task found
  holder := by
    intro holder locked
    obtain ⟨task, running⟩ := held.holder holder locked
    have old : holder ≠ state.nextTask :=
      Nat.ne_of_lt (held.known holder task running)
    refine ⟨task, ?_⟩
    simp only [Function.update_of_ne old]
    exact running
  known := by
    intro other task found
    by_cases same : other = state.nextTask
    · exact Nat.lt_succ_of_le (Nat.le_of_eq same)
    · simp only [Function.update_of_ne same] at found
      exact Nat.lt_succ_of_lt (held.known other task found)

end Settle

/-! ## What is left to do -/

section Budget

variable {state next : ClientState} {id : TaskId} {choice : BusChoice}
  {bound : Nat}

/-- So many answers, and no more, are left for the unfinished tasks. -/
structure ClientState.Budget (state : ClientState) (bound : Nat) :
    Prop where
  held : state.Suspended
  recorded : ∀ id < state.nextTask,
    (state.tasks id).isSome ∨ (state.results id).isSome
  within : ∃ left : TaskId → Nat,
    (∀ id task, state.tasks id = some task →
      task.program.Within (left id)) ∧
    ∑ id ∈ Finset.range state.nextTask, left id ≤ bound

/-- One answer is spent. -/
theorem ClientState.Budget.run (budget : state.Budget bound)
    (ran : state.runAny id choice = some next) :
    ∃ left, next.Budget left ∧ left + 1 ≤ bound := by
  have held := budget.held.run ran
  obtain ⟨operation, effect, resume, reply, bus, found, -, rfl⟩ :=
    of_runAny ran
  obtain ⟨left, within, total⟩ := budget.within
  obtain ⟨positive, rest⟩ := within id _ found
  have member : id ∈ Finset.range state.nextTask :=
    Finset.mem_range.mpr (budget.held.known id _ found)
  have spent : ∑ task ∈ Finset.range state.nextTask,
      Function.update left id (left id - 1) task =
        left id - 1 + ∑ task ∈ Finset.range state.nextTask \ {id},
          left task :=
    Finset.sum_update_of_mem member left _
  have all : left id + ∑ task ∈ Finset.range state.nextTask \ {id},
      left task = ∑ task ∈ Finset.range state.nextTask, left task := by
    rw [← Finset.erase_eq]
    exact Finset.add_sum_erase _ left member
  refine ⟨∑ task ∈ Finset.range state.nextTask,
    Function.update left id (left id - 1) task,
    ⟨held, ?_, Function.update left id (left id - 1), ?_, ?_⟩, ?_⟩
  · intro other known
    rw [settle_nextTask] at known
    exact settle_recorded (budget.recorded other known)
  · intro other task otherFound
    rcases settle_tasks otherFound with
      ⟨different, before⟩ | ⟨rfl, program, -⟩
    · rw [Function.update_of_ne different]
      exact within other task before
    · rw [Function.update_self, program]
      exact rest reply
  · rw [settle_nextTask]
  · omega

/-- Every call is recorded, and what is left of it is bounded. -/
structure ClientState.Bounded (state : ClientState) : Prop where
  held : state.Suspended
  recorded : ∀ id < state.nextTask,
    (state.tasks id).isSome ∨ (state.results id).isSome
  within : ∀ id task, state.tasks id = some task → task.program.Within 12

theorem ClientState.Bounded.step {client : AirfiModbusClient}
    {action : ClientAction} (bounded : state.Bounded)
    (stepped : state.stepAny client action = some next) : next.Bounded := by
  cases action with
  | start operation =>
      cases stepped
      refine ⟨bounded.held.start client operation, ?_, ?_⟩
      · intro id known
        by_cases same : id = state.nextTask
        · left
          simp only [same, Function.update_self, Option.isSome_some]
        · simp only [Function.update_of_ne same]
          exact bounded.recorded id
            (Nat.lt_of_le_of_ne (Nat.le_of_lt_succ known) same)
      · intro id task found
        by_cases same : id = state.nextTask
        · simp only [same, Function.update_self] at found
          cases found
          exact operation.program_within client
        · simp only [Function.update_of_ne same] at found
          exact bounded.within id task found
  | deviceChanges device =>
      cases stepped
      exact ⟨⟨bounded.held.tasks, bounded.held.holder, bounded.held.known⟩,
        bounded.recorded, bounded.within⟩
  | run id choice =>
      have held := bounded.held.run stepped
      obtain ⟨operation, effect, resume, reply, bus, found, -, rfl⟩ :=
        of_runAny stepped
      refine ⟨held, ?_, ?_⟩
      · intro other known
        rw [settle_nextTask] at known
        exact settle_recorded (bounded.recorded other known)
      · intro other task otherFound
        rcases settle_tasks otherFound with
          ⟨different, before⟩ | ⟨-, program, -⟩
        · exact bounded.within other task before
        · rw [program]
          exact ((bounded.within id _ found).2 reply).mono (by decide)

/-- The calls that have not ended. -/
def ClientState.unfinished (state : ClientState) : Finset TaskId :=
  (Finset.range state.nextTask).filter fun id => (state.tasks id).isSome

end Budget

/-! ## Runs -/

/-- One awaited effect is answered. -/
def ClientAction.isAnswer : ClientAction → Bool
  | .run _ _ => true
  | .start _ | .deviceChanges _ => false

def ClientAction.isStart : ClientAction → Bool
  | .start _ => true
  | .run _ _ | .deviceChanges _ => false

/-- Without new calls, every answer is spent from the budget. -/
theorem ClientState.Budget.step {client : AirfiModbusClient}
    {state next : ClientState} {action : ClientAction} {bound : Nat}
    (budget : state.Budget bound) (running : action.isStart = false)
    (stepped : state.stepAny client action = some next) :
    ∃ left, next.Budget left ∧
      left + (if action.isAnswer then 1 else 0) ≤ bound := by
  cases action with
  | start operation => cases running
  | run id choice => exact budget.run stepped
  | deviceChanges changed =>
      cases stepped
      exact ⟨bound, ⟨⟨budget.held.tasks, budget.held.holder,
        budget.held.known⟩, budget.recorded, budget.within⟩, Nat.le_refl _⟩

end Airfi
