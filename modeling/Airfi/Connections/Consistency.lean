import Airfi.Connections.Lines

/-!
# Jobs and lines along a run

What one step of an entry can do, and from it that every job stands in a phase
with which the line of its client agrees, whatever is answered and however the
entry is reloaded meanwhile.
-/

namespace Airfi

namespace EntryClients

/-! ## What a step can do -/

/-- A step of the entry alone. -/
structure Moves (state next : EntryClients) : Prop where
  lines : next.lines = state.lines
  jobs : next.jobs = state.jobs
  nextClient : next.nextClient = state.nextClient
  nextJob : next.nextJob = state.nextJob
  running : ∀ running, next.running = some running →
    state.running = some running

/-- A step that starts a job, on a new client or on the running one. -/
structure Starts (state next : EntryClients) (job : Job) : Prop where
  stays : Stays .idle job.program
  lines : next.lines = state.lines
  jobs : next.jobs = Function.update state.jobs state.nextJob (some job)
  nextJob : next.nextJob = state.nextJob + 1
  client : job.client = state.nextClient ∧
      next.nextClient = state.nextClient + 1 ∨
    (∃ running, state.running = some running ∧
      job.client = running.client) ∧ next.nextClient = state.nextClient
  running : ∀ running, next.running = some running →
    state.running = some running ∨ running.client = job.client

inductive Stepped (state : EntryClients) :
    EntryAction → EntryClients → Prop where
  | moved {action : EntryAction} {next : EntryClients}
      (moves : Moves state next) : Stepped state action next
  | started {action : EntryAction} {next : EntryClients} {job : Job}
      (starts : Starts state next job) : Stepped state action next
  | answered {id : JobId} {answer : LineAnswer} {next : EntryClients}
      (answers : state.answer id answer = some next) :
      Stepped state (.answer id answer) next

theorem Moves.of_status {state : EntryClients} (status : ConfigEntryState) :
    Moves state { state with status } :=
  ⟨rfl, rfl, rfl, rfl, fun _ same => same⟩

theorem Moves.of_stopped {state : EntryClients} (status : ConfigEntryState) :
    Moves state { state with status, running := none } := by
  refine ⟨rfl, rfl, rfl, rfl, ?_⟩
  intro running none
  cases none

theorem starts_construct (state : EntryClients)
    (client : AirfiModbusClient) :
    ∃ job, Starts state (state.construct client) job := by
  refine ⟨_, ?_, rfl, rfl, rfl, .inl ⟨rfl, rfl⟩, ?_⟩
  · exact (AirfiCoordinator.asyncUpdateData_stays _).bind
      fun _ => Stays.done _
  · intro running same
    exact .inr (congrArg Running.client (Option.some.inj same)).symm

theorem starts_running {state : EntryClients} {running : Running}
    (found : state.running = some running)
    {program : ClientProgram JobEnd} (stays : Stays .idle program) :
    Starts state (state.startJob running.client program)
      { client := running.client, program } :=
  ⟨stays, rfl, rfl, rfl, .inr ⟨⟨running, found, rfl⟩, rfl⟩,
    fun _ same => .inl same⟩

theorem starts_probeAlone (state : EntryClients)
    (client : AirfiModbusClient) :
    ∃ job, Starts state (state.probeAlone client) job := by
  refine ⟨_, ?_, rfl, rfl, rfl, .inl ⟨rfl, rfl⟩, fun _ same => .inl same⟩
  exact (asyncValidateModbusId_stays _ _).bind fun _ => Stays.done _

theorem stepped_of_step {host : String} {port : Nat}
    {state next : EntryClients} {action : EntryAction}
    (step : state.step host port action = some next) :
    Stepped state action next := by
  cases action with
  | answer id answer => exact .answered step
  | setup =>
      simp only [EntryClients.step] at step
      split at step
      case h_4 => cases step
      all_goals
        cases step
        exact .moved (.of_status _)
  | construct deviceId =>
      simp only [EntryClients.step] at step
      split at step
      case h_2 => cases step
      case h_1 =>
        cases step
        obtain ⟨job, starts⟩ := starts_construct state
          { host, port, deviceId }
        exact .started starts
  | platformsSetUp succeeded =>
      simp only [EntryClients.step] at step
      split at step
      case h_2 => cases step
      case h_1 =>
        split at step
        · cases step
          exact .moved (.of_status _)
        · cases step
          exact .moved (.of_stopped _)
  | unload =>
      simp only [EntryClients.step] at step
      split at step
      case h_4 => cases step
      all_goals
        cases step
        exact .moved (.of_status _)
  | unloaded succeeded =>
      simp only [EntryClients.step] at step
      split at step
      case h_2 => cases step
      case h_1 =>
        split at step
        · cases step
          exact .moved (.of_stopped _)
        · cases step
          exact .moved (.of_status _)
  | poll =>
      simp only [EntryClients.step] at step
      split at step
      case h_2 => cases step
      case h_1 found =>
        cases step
        exact .started (starts_running found
          ((AirfiCoordinator.asyncUpdateData_stays _).bind
            fun _ => Stays.done _))
  | write address value =>
      simp only [EntryClients.step] at step
      split at step
      case h_2 => cases step
      case h_1 found =>
        cases step
        exact .started (starts_running found
          ((AirfiCoordinator.asyncWriteValue_stays _ address value).bind
            fun _ => Stays.done _))
  | probe deviceId =>
      simp only [EntryClients.step] at step
      split at step
      case h_1 running _ found =>
        cases step
        exact .started (starts_running found
          ((asyncValidateModbusId_stays _ _).bind fun _ => Stays.done _))
      case h_2 => cases step
      case h_3 =>
        cases step
        obtain ⟨job, starts⟩ := starts_probeAlone state
          { host, port, deviceId }
        exact .started starts

/-! ## Jobs and lines -/

/-- Each job stands in a phase that its line agrees with, and a lock is held
by a job of its own client. -/
structure Consistent (state : EntryClients) : Prop where
  stands : ∀ id job, state.jobs id = some job → ∃ phase,
    job.program.Follows phaseProtocol (fun reached _ => reached = .idle)
        phase ∧
      (state.lines job.client).Stands id phase
  openLocked : ∀ client, (state.lines client).OpenLocked
  holder : ∀ client id, (state.lines client).lockedBy = some id →
    ∃ job, state.jobs id = some job ∧ job.client = client
  known : ∀ id job, state.jobs id = some job →
    job.client < state.nextClient
  running : ∀ running, state.running = some running →
    running.client < state.nextClient
  fresh : ∀ id, state.nextJob ≤ id → state.jobs id = none

theorem consistent_initial : initial.Consistent where
  stands := by
    intro id job found
    cases found
  openLocked := by
    intro client job isOpen
    cases isOpen
  holder := by
    intro client id locked
    cases locked
  known := by
    intro id job found
    cases found
  running := by
    intro running found
    cases found
  fresh := fun _ _ => rfl

theorem Consistent.moves {state next : EntryClients}
    (consistent : state.Consistent) (moves : Moves state next) :
    next.Consistent where
  stands := by
    rw [moves.jobs, moves.lines]
    exact consistent.stands
  openLocked := by
    rw [moves.lines]
    exact consistent.openLocked
  holder := by
    rw [moves.jobs, moves.lines]
    exact consistent.holder
  known := by
    rw [moves.jobs, moves.nextClient]
    exact consistent.known
  running := by
    intro running found
    rw [moves.nextClient]
    exact consistent.running running (moves.running running found)
  fresh := by
    rw [moves.jobs, moves.nextJob]
    exact consistent.fresh

/-- A job that is there before another starts is not the new one. -/
theorem Consistent.ne_nextJob {state : EntryClients}
    (consistent : state.Consistent) {id : JobId} {other : Job}
    (found : state.jobs id = some other) : id ≠ state.nextJob := by
  intro same
  rw [consistent.fresh id (Nat.le_of_eq same.symm)] at found
  cases found

section Starts

variable {state next : EntryClients} {job : Job}
  (consistent : state.Consistent) (started : Starts state next job)

include consistent started

theorem Consistent.starts_client :
    state.nextClient ≤ next.nextClient ∧ job.client < next.nextClient := by
  rcases started.client with ⟨isNew, counted⟩ | ⟨⟨running, found, same⟩, kept⟩
  · rw [isNew, counted]
    exact ⟨Nat.le_succ _, Nat.lt_succ_self _⟩
  · rw [same, kept]
    exact ⟨Nat.le_refl _, consistent.running running found⟩

theorem Consistent.starts : next.Consistent where
  stands := by
    intro id other found
    rw [started.jobs] at found
    rw [started.lines]
    by_cases isNew : id = state.nextJob
    · rw [isNew, Function.update_self] at found
      rw [isNew, ← Option.some.inj found]
      refine ⟨.idle, started.stays, ?_⟩
      intro locked
      obtain ⟨holder, there, -⟩ := consistent.holder _ _ locked
      exact consistent.ne_nextJob there rfl
    · rw [Function.update_of_ne isNew] at found
      exact consistent.stands id other found
  openLocked := by
    rw [started.lines]
    exact consistent.openLocked
  holder := by
    intro client id locked
    rw [started.lines] at locked
    obtain ⟨holder, found, isClient⟩ := consistent.holder client id locked
    refine ⟨holder, ?_, isClient⟩
    rw [started.jobs,
      Function.update_of_ne (consistent.ne_nextJob found)]
    exact found
  known := by
    intro id other found
    obtain ⟨counted, known⟩ := consistent.starts_client started
    rw [started.jobs] at found
    by_cases isNew : id = state.nextJob
    · rw [isNew, Function.update_self] at found
      rw [← Option.some.inj found]
      exact known
    · rw [Function.update_of_ne isNew] at found
      exact Nat.lt_of_lt_of_le (consistent.known id other found) counted
  running := by
    intro running found
    obtain ⟨counted, known⟩ := consistent.starts_client started
    rcases started.running running found with before | same
    · exact Nat.lt_of_lt_of_le (consistent.running running before) counted
    · rw [same]
      exact known
  fresh := by
    intro id later
    rw [started.nextJob] at later
    have different : id ≠ state.nextJob := by
      intro same
      rw [same] at later
      exact Nat.not_succ_le_self _ later
    rw [started.jobs, Function.update_of_ne different]
    exact consistent.fresh id (Nat.le_of_succ_le later)

end Starts

/-! ## One effect of a job -/

/-- What is left of a job, if anything. -/
def remaining (client : ClientId) : ClientProgram JobEnd → Option Job
  | .perform effect resume =>
      some { client, program := .perform effect resume }
  | _ => none

theorem remaining_eq {client : ClientId} {program : ClientProgram JobEnd}
    {job : Job} (left : remaining client program = some job) :
    job = { client, program } := by
  cases program with
  | perform effect resume => exact (Option.some.inj left).symm
  | done ended => cases left
  | raise error => cases left

/-- A job of which nothing is left has ended, with its client idle. -/
theorem idle_of_ended {client : ClientId} {program : ClientProgram JobEnd}
    {phase : Phase} (ended : remaining client program = none)
    (follows : program.Follows phaseProtocol
      (fun reached _ => reached = .idle) phase) : phase = .idle := by
  cases program with
  | perform effect resume => cases ended
  | done value => exact follows
  | raise error => exact follows

/-- One effect of a job and what becomes of the entry. -/
structure Performs (state next : EntryClients) (id : JobId)
    (answer : LineAnswer) (client : ClientId)
    (program : ClientProgram JobEnd) (phase : Phase) (line : Line) :
    Prop where
  found : ∃ job, state.jobs id = some job ∧ job.client = client
  follows : program.Follows phaseProtocol
    (fun reached _ => reached = .idle) phase
  answered : Line.Answered (state.lines client) line id phase answer
  acquired : answer = .lock .acquired → line.lockedBy = some id
  lines : next.lines = Function.update state.lines client line
  jobs : next.jobs = Function.update state.jobs id (remaining client program)
  nextClient : next.nextClient = state.nextClient
  nextJob : next.nextJob = state.nextJob
  running : ∀ running, next.running = some running →
    ∃ before, state.running = some before ∧
      before.client = running.client

theorem updateRunning_running {state : EntryClients} {client : ClientId}
    {change : Running → Running}
    (keeps : ∀ running, (change running).client = running.client)
    {running : Running}
    (found : (state.updateRunning client change).running = some running) :
    ∃ before, state.running = some before ∧
      before.client = running.client := by
  obtain ⟨before, there, changed⟩ := Option.map_eq_some_iff.mp found
  refine ⟨before, there, ?_⟩
  rw [← changed]
  split
  · exact (keeps before).symm
  · rfl

theorem finish_running {state : EntryClients} {client : ClientId}
    {ended : JobEnd} {running : Running}
    (found : (state.finish client ended).running = some running) :
    ∃ before, state.running = some before ∧
      before.client = running.client := by
  cases ended with
  | firstRefreshed result coordinator =>
      cases result with
      | ok data =>
          refine updateRunning_running ?_ found
          exact fun _ => rfl
      | error error => cases found
  | polled coordinator =>
      refine updateRunning_running ?_ found
      exact fun _ => rfl
  | wrote result => exact ⟨running, found, rfl⟩
  | probed error => exact ⟨running, found, rfl⟩

/-- The end of a job concerns the coordinator and the status alone. -/
theorem finish_frame (state : EntryClients) (client : ClientId)
    (ended : JobEnd) :
    (state.finish client ended).lines = state.lines ∧
      (state.finish client ended).jobs = state.jobs ∧
      (state.finish client ended).nextClient = state.nextClient ∧
      (state.finish client ended).nextJob = state.nextJob := by
  cases ended with
  | firstRefreshed result coordinator =>
      cases result with
      | ok data => exact ⟨rfl, rfl, rfl, rfl⟩
      | error error => exact ⟨rfl, rfl, rfl, rfl⟩
  | polled coordinator => exact ⟨rfl, rfl, rfl, rfl⟩
  | wrote result => exact ⟨rfl, rfl, rfl, rfl⟩
  | probed error => exact ⟨rfl, rfl, rfl, rfl⟩

theorem Consistent.performs {state next : EntryClients} {id : JobId}
    {answer : LineAnswer} (consistent : state.Consistent)
    (answers : state.answer id answer = some next) :
    ∃ client program phase line,
      Performs state next id answer client program phase line := by
  simp only [EntryClients.answer] at answers
  split at answers
  case h_2 => cases answers
  case h_1 client effect resume found =>
    split at answers
    case h_2 => cases answers
    case h_1 reply line answered =>
      obtain ⟨phase, ⟨allowed, resumes⟩, stands⟩ :=
        consistent.stands id _ found
      have follows := resumes reply _ rfl
      have lineAnswered := Line.answer_answered
        (consistent.openLocked client) stands allowed answered
      have acquired : answer = .lock .acquired →
          line.lockedBy = some id := by
        intro isAcquired
        rw [isAcquired] at answered
        exact Line.lockedBy_of_acquired answered
      refine ⟨client, resume reply, phase.after effect reply, line, ?_⟩
      generalize resume reply = program at answers follows
      have next_eq := (Option.some.inj answers).symm
      cases program with
      | done ended =>
          rw [next_eq, settle]
          obtain ⟨lines, jobs, nextClient, nextJob⟩ := finish_frame
            ((state.setLine client line).setJob id none) client ended
          exact ⟨⟨_, found, rfl⟩, follows, lineAnswered, acquired, lines,
            jobs, nextClient, nextJob, fun _ => finish_running⟩
      | raise error =>
          rw [next_eq, settle]
          exact ⟨⟨_, found, rfl⟩, follows, lineAnswered, acquired, rfl, rfl,
            rfl, rfl, fun running same => ⟨running, same, rfl⟩⟩
      | perform effect resume =>
          rw [next_eq, settle]
          exact ⟨⟨_, found, rfl⟩, follows, lineAnswered, acquired, rfl, rfl,
            rfl, rfl, fun running same => ⟨running, same, rfl⟩⟩

section Performs

variable {state next : EntryClients} {id : JobId} {answer : LineAnswer}
  {client : ClientId} {program : ClientProgram JobEnd} {phase : Phase}
  {line : Line} (consistent : state.Consistent)
  (performs : Performs state next id answer client program phase line)

include performs

theorem Performs.line_self : next.lines client = line := by
  rw [performs.lines, Function.update_self]

theorem Performs.line_other {other : ClientId} (different : other ≠ client) :
    next.lines other = state.lines other := by
  rw [performs.lines, Function.update_of_ne different]

theorem Performs.job_other {other : JobId} (different : other ≠ id) :
    next.jobs other = state.jobs other := by
  rw [performs.jobs, Function.update_of_ne different]

theorem Performs.job_self {job : Job} (found : next.jobs id = some job) :
    job = { client, program } := by
  rw [performs.jobs, Function.update_self] at found
  exact remaining_eq found

/-- A job that has the lock after its effect has not ended. -/
theorem Performs.of_lockedBy (locked : line.lockedBy = some id) :
    ∃ job, next.jobs id = some job ∧ job.client = client := by
  rw [performs.jobs, Function.update_self]
  cases left : remaining client program with
  | some job => exact ⟨job, rfl, by rw [remaining_eq left]⟩
  | none =>
      have stands := performs.answered.stands
      rw [idle_of_ended left performs.follows] at stands
      exact absurd locked stands

include consistent

theorem Consistent.performed : next.Consistent where
  stands := by
    intro other job found
    by_cases same : other = id
    · rw [same] at found ⊢
      rw [performs.job_self found, performs.line_self]
      exact ⟨phase, performs.follows, performs.answered.stands⟩
    · rw [performs.job_other same] at found
      obtain ⟨otherPhase, follows, stands⟩ :=
        consistent.stands other job found
      refine ⟨otherPhase, follows, ?_⟩
      by_cases here : job.client = client
      · rw [here] at stands ⊢
        rw [performs.line_self]
        exact performs.answered.others same stands
      · rw [performs.line_other here]
        exact stands
  openLocked := by
    intro other
    by_cases here : other = client
    · rw [here, performs.line_self]
      exact performs.answered.openLocked
    · rw [performs.line_other here]
      exact consistent.openLocked other
  holder := by
    intro other holder locked
    by_cases here : other = client
    · rw [here, performs.line_self] at locked
      rw [here]
      by_cases same : holder = id
      · rw [same] at locked ⊢
        exact performs.of_lockedBy locked
      · rw [performs.job_other same]
        apply consistent.holder client holder
        rcases performs.answered.lockedBy with
          kept | ⟨-, taken, -⟩ | ⟨-, freed⟩
        · exact kept.symm.trans locked
        · exact absurd (Option.some.inj (locked.symm.trans taken)) same
        · rw [freed] at locked
          cases locked
    · rw [performs.line_other here] at locked
      obtain ⟨job, found, isClient⟩ := consistent.holder other holder locked
      refine ⟨job, ?_, isClient⟩
      rw [performs.job_other _]
      · exact found
      · intro same
        obtain ⟨performer, there, itsClient⟩ := performs.found
        rw [same, there] at found
        rw [← Option.some.inj found, itsClient] at isClient
        exact here isClient.symm
  known := by
    intro other job found
    rw [performs.nextClient]
    by_cases same : other = id
    · rw [same] at found
      obtain ⟨performer, there, itsClient⟩ := performs.found
      have known := consistent.known id performer there
      rw [performs.job_self found]
      rw [itsClient] at known
      exact known
    · rw [performs.job_other same] at found
      exact consistent.known other job found
  running := by
    intro running found
    obtain ⟨before, there, same⟩ := performs.running running found
    rw [performs.nextClient, ← same]
    exact consistent.running before there
  fresh := by
    intro other later
    rw [performs.nextJob] at later
    have none := consistent.fresh other later
    rw [performs.job_other _]
    · exact none
    · intro same
      obtain ⟨performer, there, -⟩ := performs.found
      rw [same, there] at none
      cases none

end Performs

theorem Consistent.step {host : String} {port : Nat}
    {state next : EntryClients} {action : EntryAction}
    (consistent : state.Consistent)
    (step : state.step host port action = some next) : next.Consistent := by
  cases stepped_of_step step with
  | moved moves => exact consistent.moves moves
  | started starts => exact consistent.starts starts
  | answered answers =>
      obtain ⟨client, program, phase, line, performs⟩ :=
        consistent.performs answers
      exact consistent.performed performs

end EntryClients

end Airfi
