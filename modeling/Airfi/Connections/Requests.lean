import Airfi.Connections.Consistency
import Airfi.Connections.Permissions

/-!
# Requests over the runs of an entry

Whatever happens to an entry and however its jobs interleave, a client only
asks its device for what the exchanges so far entitle it to.
-/

namespace Airfi

/-- What is noted of a run. -/
inductive EntryEvent where
  /-- An entity asked for a write, which became this job. -/
  | asked (job : JobId) (address value : Nat)
  | exchanged (job : JobId) (client : ClientId) (request : ModbusRequest)
      (reply : ModbusReply)
  deriving DecidableEq

def EntryEvent.job : EntryEvent → JobId
  | .asked job _ _ => job
  | .exchanged job _ _ _ => job

namespace ModbusRequest

def IsWrite : ModbusRequest → Prop
  | .readRegisters .. => False
  | .writeRegister .. => True

def Fits : ModbusRequest → Prop
  | .readRegisters table start count _ => table.Fits (start, count)
  | .writeRegister .. => True

end ModbusRequest

namespace EntryClients

/-- A response that a job gets to its request. -/
def exchange (state : EntryClients) (id : JobId) :
    LineAnswer → Option EntryEvent
  | .response reply =>
      match state.jobs id with
      | some { client, program := .perform (.request request) _ } =>
          some (.exchanged id client request reply)
      | _ => none
  | _ => none

def event (state : EntryClients) : EntryAction → Option EntryEvent
  | .write address value => some (.asked state.nextJob address value)
  | .answer id answer => state.exchange id answer
  | _ => none

/-- The request that a job has sent and that is not answered yet. -/
def awaited (state : EntryClients) (id : JobId) :
    Option (ClientId × ModbusRequest) :=
  match state.jobs id with
  | some { client, program := .perform (.request request) _ } =>
      some (client, request)
  | _ => none

end EntryClients

/-- What the events entitle a job of the client to: an extension only once a
response to this client showed a version for it, a write only if the job was
asked for it and sent none before. -/
def entitlement (noted : List EntryEvent) (id : JobId)
    (client : ClientId) : Permission where
  reported := fun version => ∃ job request reply,
    .exchanged job client request reply ∈ noted ∧
      Permission.Shows request reply version
  unsent := fun address value =>
    .asked id address value ∈ noted ∧
      ∀ other request reply,
        .exchanged id other request reply ∈ noted → ¬ request.IsWrite

section Entitlement

variable {noted : List EntryEvent} {id : JobId} {client : ClientId}

theorem entitlement_grows (more : List EntryEvent) :
    (entitlement noted id client).Grows
      (entitlement (noted ++ more) id client) := by
  intro version reported
  obtain ⟨job, request, reply, member, shows⟩ := reported
  exact ⟨job, request, reply, List.mem_append_left _ member, shows⟩

/-- The entitlement of a job suffers only from a write that it sends. -/
theorem entitlement_le {more : List EntryEvent}
    (harmless : ∀ other request reply,
      .exchanged id other request reply ∈ more → ¬ request.IsWrite) :
    (entitlement noted id client).Le
      (entitlement (noted ++ more) id client) where
  reported := entitlement_grows more
  unsent := by
    intro address value unsent
    obtain ⟨asked, silent⟩ := unsent
    refine ⟨List.mem_append_left _ asked, ?_⟩
    intro other request reply member
    rcases List.mem_append.mp member with before | newer
    · exact silent other request reply before
    · exact harmless other request reply newer

end Entitlement

/-- What a coordinator learnt in a job was reported. -/
def JobEnd.Known (permission : Permission) : JobEnd → Prop
  | .firstRefreshed _ coordinator => permission.Knows coordinator
  | .polled coordinator => permission.Knows coordinator
  | .wrote _ => True
  | .probed _ => True

theorem JobEnd.known_stable : Stable JobEnd.Known := by
  intro permission later ended grows known
  cases ended with
  | firstRefreshed result coordinator =>
      exact Permission.Knows.grows known grows
  | polled coordinator => exact Permission.Knows.grows known grows
  | wrote result => trivial
  | probed error => trivial

namespace EntryClients

/-- Every job goes on with what it is entitled to, and the extension that the
running coordinator polls was reported to its client. -/
structure Entitled (state : EntryClients) (noted : List EntryEvent) :
    Prop where
  jobs : ∀ id job, state.jobs id = some job →
    Asks (entitlement noted id job.client) JobEnd.Known job.program
  running : ∀ running, state.running = some running → ∀ id,
    (entitlement noted id running.client).Knows running.coordinator
  started : ∀ event ∈ noted, event.job < state.nextJob

theorem entitled_initial : initial.Entitled [] where
  jobs := nofun
  running := nofun
  started := nofun

theorem Entitled.moves {state next : EntryClients} {noted : List EntryEvent}
    (entitled : state.Entitled noted) (moves : Moves state next) :
    next.Entitled noted where
  jobs := by
    rw [moves.jobs]
    exact entitled.jobs
  running := by
    intro running found
    exact entitled.running running (moves.running running found)
  started := by
    rw [moves.nextJob]
    exact entitled.started

/-! ## Jobs that start -/

section Starts

variable {state : EntryClients} {noted : List EntryEvent}
  {client : ClientId} {program : ClientProgram JobEnd}

/-- Only the new job is concerned by what is noted of its start. -/
theorem Entitled.startJob (entitled : state.Entitled noted)
    (asked : Option EntryEvent)
    (isNew : ∀ event, asked = some event →
      ∃ address value, event = .asked state.nextJob address value)
    (asks : Asks (entitlement (noted ++ asked.toList) state.nextJob client)
      JobEnd.Known program) :
    (state.startJob client program).Entitled (noted ++ asked.toList) where
  jobs := by
    intro id job found
    by_cases same : id = state.nextJob
    · rw [same] at found ⊢
      simp only [EntryClients.startJob, Function.update_self,
        Option.some.injEq] at found
      rw [← found]
      exact asks
    · simp only [EntryClients.startJob, Function.update_of_ne same] at found
      apply (entitled.jobs id job found).of_le JobEnd.known_stable
      apply entitlement_le
      intro other request reply member
      obtain ⟨address, value, differs⟩ :=
        isNew _ (Option.mem_toList.mp member)
      cases differs
  running := by
    intro running found id
    exact (entitled.running running found id).grows (entitlement_grows _)
  started := by
    intro event member
    rcases List.mem_append.mp member with before | newer
    · exact Nat.lt_succ_of_lt (entitled.started event before)
    · obtain ⟨address, value, rfl⟩ := isNew event (Option.mem_toList.mp newer)
      exact Nat.lt_succ_self _

end Starts

theorem Entitled.construct {state : EntryClients} {noted : List EntryEvent}
    (entitled : state.Entitled noted) (client : AirfiModbusClient) :
    (state.construct client).Entitled noted := by
  have knows : ∀ permission : Permission,
      permission.Knows (AirfiCoordinator.init client) :=
    fun _ => AirfiCoordinator.init_known client
  have refreshes : Asks
      (entitlement (noted ++ (none : Option EntryEvent).toList)
        state.newClient.nextJob state.nextClient) JobEnd.Known
      (AirfiCoordinator.asyncUpdateData (.init client) >>= fun ended =>
        pure (.firstRefreshed ended.1 ended.2)) :=
    (AirfiCoordinator.asyncUpdateData_asks (knows _)).bind
      fun _ _ _ known => Asks.done known
  have isNew : state.newClient.Entitled noted :=
    ⟨entitled.jobs, entitled.running, entitled.started⟩
  have begun := isNew.startJob none nofun refreshes
  rw [Option.toList_none, List.append_nil] at begun
  refine ⟨begun.jobs, ?_, begun.started⟩
  intro running found id
  rw [← Option.some.inj found]
  exact knows _

/-! ## One effect of a job -/

section Answer

variable {state next : EntryClients} {noted : List EntryEvent} {id : JobId}
  {reply : LineAnswer}

theorem exchange_eq_some {event : EntryEvent}
    (exchanged : state.exchange id reply = some event) :
    ∃ client request reply, event = .exchanged id client request reply ∧
      ∃ job, state.jobs id = some job := by
  simp only [exchange] at exchanged
  split at exchanged
  case h_2 => cases exchanged
  case h_1 reply =>
    split at exchanged
    case h_2 => cases exchanged
    case h_1 client request resume found =>
      exact ⟨client, request, reply, (Option.some.inj exchanged).symm, _,
        found⟩

/-- What a job is entitled to after its effect has been answered. -/
theorem entitlement_after {client : ClientId} {effect : ClientEffect}
    {resume : ClientAnswer effect → ClientProgram JobEnd}
    {answer : ClientAnswer effect} {line following : Line}
    (found : state.jobs id =
      some { client, program := .perform effect resume })
    (answered : line.answer id effect reply = some (answer, following)) :
    (entitlement noted id client).After effect answer
      (entitlement (noted ++ (state.exchange id reply).toList) id
        client) := by
  cases effect with
  | request request =>
      cases reply with
      | response modbusReply =>
          cases answered
          have exchanged : state.exchange id (.response answer) =
              some (.exchanged id client request answer) := by
            simp only [exchange, found]
          rw [exchanged]
          cases request with
          | readRegisters table start count deviceId =>
              refine ⟨entitlement_le ?_, ?_⟩
              · intro other request answered member
                cases List.mem_singleton.mp member
                exact not_false
              · intro version shows
                exact ⟨id, _, answer,
                  List.mem_append_right _ List.mem_cons_self, shows⟩
          | writeRegister address value deviceId => exact entitlement_grows _
      | _ => cases answered
  | _ =>
      cases reply with
      | response modbusReply => cases answered
      | _ => exact entitlement_le nofun

theorem Entitled.finish {client : ClientId} {ended : JobEnd}
    (entitled : state.Entitled noted)
    (known : ended.Known (entitlement noted id client)) :
    (state.finish client ended).Entitled noted := by
  have learns : ∀ (coordinator : AirfiCoordinator)
      (change : Running → Running),
      (∀ running, (change running).client = running.client ∧
        (change running).coordinator = coordinator) →
      (entitlement noted id client).Knows coordinator →
      (state.updateRunning client change).Entitled noted := by
    intro coordinator change changes knows
    refine ⟨entitled.jobs, ?_, entitled.started⟩
    intro running found other
    obtain ⟨before, there, changed⟩ := Option.map_eq_some_iff.mp found
    rw [← changed]
    split
    case isTrue same =>
      obtain ⟨sameClient, learnt⟩ := changes before
      rw [learnt, sameClient, same]
      exact knows
    case isFalse => exact entitled.running before there other
  cases ended with
  | firstRefreshed result coordinator =>
      cases result with
      | ok data => exact learns coordinator _ (fun _ => ⟨rfl, rfl⟩) known
      | error error => exact ⟨entitled.jobs, nofun, entitled.started⟩
  | polled coordinator =>
      exact learns coordinator _ (fun _ => ⟨rfl, rfl⟩) known
  | wrote result => exact entitled
  | probed error => exact entitled

/-- The other jobs and the coordinator, after an exchange of one job. -/
theorem Entitled.exchanged {client : ClientId} {line : Line}
    (entitled : state.Entitled noted) (consistent : state.Consistent)
    {left : Option Job}
    (asks : ∀ job, left = some job →
      Asks (entitlement (noted ++ (state.exchange id reply).toList) id
        job.client) JobEnd.Known job.program) :
    ((state.setLine client line).setJob id left).Entitled
      (noted ++ (state.exchange id reply).toList) where
  jobs := by
    intro other job found
    by_cases same : other = id
    · rw [same] at found ⊢
      simp only [setJob, Function.update_self] at found
      exact asks job found
    · simp only [setJob, Function.update_of_ne same] at found
      apply (entitled.jobs other job found).of_le JobEnd.known_stable
      apply entitlement_le
      intro client request reply member
      obtain ⟨_, _, _, isEvent, -⟩ :=
        exchange_eq_some (Option.mem_toList.mp member)
      cases isEvent
      exact absurd rfl same
  running := by
    intro running found other
    exact (entitled.running running found other).grows (entitlement_grows _)
  started := by
    intro event member
    rcases List.mem_append.mp member with before | newer
    · exact entitled.started event before
    · obtain ⟨_, _, _, rfl, job, found⟩ :=
        exchange_eq_some (Option.mem_toList.mp newer)
      rcases Nat.lt_or_ge id state.nextJob with earlier | later
      · exact earlier
      · rw [consistent.fresh id later] at found
        cases found

theorem Entitled.answer (entitled : state.Entitled noted)
    (consistent : state.Consistent)
    (answers : state.answer id reply = some next) :
    next.Entitled (noted ++ (state.exchange id reply).toList) := by
  simp only [EntryClients.answer] at answers
  split at answers
  case h_2 => cases answers
  case h_1 client effect resume found =>
    split at answers
    case h_2 => cases answers
    case h_1 answer line answered =>
      have asks : Asks _ JobEnd.Known (resume answer) :=
        (entitled.jobs id _ found).2 answer _
          (entitlement_after found answered)
      rw [← Option.some.inj answers]
      generalize resume answer = program at asks
      cases program with
      | done ended =>
          have freed : ((state.setLine client line).setJob id none).Entitled
              (noted ++ (state.exchange id reply).toList) := by
            apply entitled.exchanged consistent
            intro job same
            cases same
          exact freed.finish (asks ended rfl)
      | raise error =>
          apply entitled.exchanged consistent
          intro job same
          cases same
      | perform effect resume =>
          apply entitled.exchanged consistent
          intro job same
          rw [← Option.some.inj same]
          exact asks

end Answer

/-! ## Steps and runs -/

section Step

variable {state : EntryClients} {noted : List EntryEvent}

/-- A start of which nothing is noted. -/
theorem Entitled.startSilent {client : ClientId}
    {program : ClientProgram JobEnd} (entitled : state.Entitled noted)
    (asks : Asks (entitlement noted state.nextJob client) JobEnd.Known
      program) : (state.startJob client program).Entitled noted := by
  have silent : noted ++ (none : Option EntryEvent).toList = noted :=
    List.append_nil noted
  have started : (state.startJob client program).Entitled
      (noted ++ (none : Option EntryEvent).toList) :=
    entitled.startJob none nofun (silent.symm ▸ asks)
  exact silent ▸ started

theorem Entitled.poll {running : Running} (entitled : state.Entitled noted)
    (found : state.running = some running) :
    (state.poll running).Entitled noted := by
  apply entitled.startSilent
  apply (AirfiCoordinator.asyncUpdateData_asks
    (entitled.running running found _)).bind
  exact fun _ _ _ known => Asks.done known

theorem Entitled.write (running : Running) (address value : Nat)
    (entitled : state.Entitled noted) :
    (state.write running address value).Entitled
      (noted ++ [.asked state.nextJob address value]) := by
  apply entitled.startJob (some (.asked state.nextJob address value))
  · intro event same
    exact ⟨address, value, (Option.some.inj same).symm⟩
  · have unsent : (entitlement
        (noted ++ [.asked state.nextJob address value]) state.nextJob
        running.client).unsent address value := by
      refine ⟨List.mem_append_right _ List.mem_cons_self, ?_⟩
      intro other request reply member
      rcases List.mem_append.mp member with before | newer
      · exact absurd (entitled.started _ before) (Nat.lt_irrefl _)
      · cases List.mem_singleton.mp newer
    exact (AirfiCoordinator.asyncWriteValue_asks unsent).bind
      fun _ _ _ _ => Asks.done trivial

theorem Entitled.probeLoaded (running : Running) (deviceId : Nat)
    (entitled : state.Entitled noted) :
    (state.probeLoaded running deviceId).Entitled noted := by
  apply entitled.startSilent
  exact (asyncValidateModbusId_asks _ _).bind fun _ _ _ _ =>
    Asks.done trivial

theorem Entitled.probeAlone (client : AirfiModbusClient)
    (entitled : state.Entitled noted) :
    (state.probeAlone client).Entitled noted := by
  have isNew : state.newClient.Entitled noted :=
    ⟨entitled.jobs, entitled.running, entitled.started⟩
  apply isNew.startSilent
  exact (asyncValidateModbusId_asks _ _).bind fun _ _ _ _ =>
    Asks.done trivial

theorem Entitled.step {host : String} {port : Nat} {next : EntryClients}
    {action : EntryAction} (entitled : state.Entitled noted)
    (consistent : state.Consistent)
    (step : state.step host port action = some next) :
    next.Entitled (noted ++ (state.event action).toList) := by
  cases action with
  | answer id reply => exact entitled.answer consistent step
  | write address value =>
      simp only [EntryClients.step] at step
      split at step
      case h_2 => cases step
      case h_1 =>
        cases step
        exact entitled.write _ address value
  | poll =>
      simp only [EntryClients.step] at step
      split at step
      case h_2 => cases step
      case h_1 found =>
        cases step
        simpa [event] using entitled.poll found
  | probe deviceId =>
      simp only [EntryClients.step] at step
      split at step
      case h_1 =>
        cases step
        simpa [event] using entitled.probeLoaded _ deviceId
      case h_2 => cases step
      case h_3 =>
        cases step
        simpa [event] using entitled.probeAlone _
  | construct deviceId =>
      simp only [EntryClients.step] at step
      split at step
      case h_2 => cases step
      case h_1 =>
        cases step
        simpa [event] using entitled.construct _
  | setup =>
      simp only [EntryClients.step] at step
      split at step
      case h_4 => cases step
      all_goals
        cases step
        simpa [event] using entitled.moves (.of_status _)
  | platformsSetUp succeeded =>
      simp only [EntryClients.step] at step
      split at step
      case h_2 => cases step
      case h_1 =>
        split at step
        · cases step
          simpa [event] using entitled.moves (.of_status _)
        · cases step
          simpa [event] using entitled.moves (.of_stopped _)
  | unload =>
      simp only [EntryClients.step] at step
      split at step
      case h_4 => cases step
      all_goals
        cases step
        simpa [event] using entitled.moves (.of_status _)
  | unloaded succeeded =>
      simp only [EntryClients.step] at step
      split at step
      case h_2 => cases step
      case h_1 =>
        split at step
        · cases step
          simpa [event] using entitled.moves (.of_stopped _)
        · cases step
          simpa [event] using entitled.moves (.of_status _)

end Step

theorem Entitled.awaited {state : EntryClients} {noted : List EntryEvent}
    {id : JobId} {client : ClientId} {request : ModbusRequest}
    (entitled : state.Entitled noted)
    (awaits : state.awaited id = some (client, request)) :
    (entitlement noted id client).Allows (.request request) := by
  simp only [EntryClients.awaited] at awaits
  split at awaits
  case h_2 => cases awaits
  case h_1 found =>
    cases awaits
    exact (entitled.jobs id _ found).1

theorem fits_of_allows {permission : Permission} {request : ModbusRequest}
    (allowed : permission.Allows (.request request)) : request.Fits := by
  cases request with
  | readRegisters table start count deviceId =>
      exact Permission.AllowsRead.fits allowed
  | writeRegister address value deviceId => trivial

/-- Whatever request a job has sent, the exchanges before it entitle the job
to it, and a read stays within the registers and the limit of a device. -/
theorem awaited_entitled {host : String} {port : Nat}
    {actions : List EntryAction} {state : EntryClients}
    (ran : (entryMachine host port).run actions = some state)
    {id : JobId} {client : ClientId} {request : ModbusRequest}
    (awaits : state.awaited id = some (client, request)) :
    (entitlement ((entryMachine host port).history event actions) id
        client).Allows (.request request) ∧ request.Fits := by
  have reached : state.Consistent ∧
      state.Entitled ((entryMachine host port).history event actions) :=
    Machine.invariant_of_history
      (fun current noted => current.Consistent ∧ current.Entitled noted)
      (fun held step => ⟨held.1.step step, held.2.step held.1 step⟩) ran
      ⟨consistent_initial, entitled_initial⟩
  have allowed := reached.2.awaited awaits
  exact ⟨allowed, fits_of_allows allowed⟩

/-- A first refresh of a device with register version 360, as far as the
request for the extension. -/
def refreshOfNewDevice : List EntryAction :=
  let answers : List LineAnswer :=
    [.lock .acquired, .connect (.returned true),
      .response (.registers ([100, 214, 360] ++ List.replicate 17 0)),
      .response (.registers (List.replicate 20 0)),
      .response (.registers (List.replicate 9 0)),
      .response (.registers (List.replicate 20 0)),
      .response (.registers (List.replicate 20 0)),
      .response (.registers (List.replicate 20 0)),
      .response (.registers (List.replicate 8 0)), .proceed, .proceed,
      .lock .acquired, .connect (.returned true)]
  .setup :: .construct 1 :: answers.map (.answer 0)

theorem awaited_entitled_new_device :
    ∃ state, (entryMachine "10.0.0.5" 502).run refreshOfNewDevice =
        some state ∧
      state.awaited 0 = some (0, .readRegisters .input 50 3 1) ∧
      (entitlement ((entryMachine "10.0.0.5" 502).history event
        refreshOfNewDevice) 0 0).Allows
          (.request (.readRegisters .input 50 3 1)) ∧
      (ModbusRequest.readRegisters .input 50 3 1).Fits := by
  have finishes :
      ((entryMachine "10.0.0.5" 502).run refreshOfNewDevice).isSome := rfl
  obtain ⟨state, ran⟩ := Option.isSome_iff_exists.mp finishes
  have awaits : ((entryMachine "10.0.0.5" 502).run refreshOfNewDevice).map
      (fun final => final.awaited 0) =
      some (some (0, .readRegisters .input 50 3 1)) := rfl
  rw [ran] at awaits
  exact ⟨state, ran, Option.some.inj awaits,
    awaited_entitled ran (Option.some.inj awaits)⟩

end EntryClients

end Airfi
