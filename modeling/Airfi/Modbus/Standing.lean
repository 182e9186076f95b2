import Airfi.Modbus.Tasks

/-!
# Where a task of a client stands

The histories of a client, what the session state of a task says about them
and about the lock, and what one answered effect makes of it, for the task
itself and for the others.
-/

namespace Airfi

/-! ## Histories -/

/-- The task has no entry in the history. -/
def Absent {α : Type} (id : TaskId) (history : List (TaskId × α)) : Prop :=
  ∀ entry ∈ history, entry.1 ≠ id

theorem absent_nil {α : Type} (id : TaskId) :
    Absent id ([] : List (TaskId × α)) := by
  intro entry member
  cases member

theorem Absent.cons {α : Type} {id other : TaskId}
    {history : List (TaskId × α)} (absent : Absent other history)
    (different : other ≠ id) (value : α) :
    Absent other ((id, value) :: history) := by
  intro entry member
  rcases List.mem_cons.mp member with here | earlier
  · rw [here]
    exact different.symm
  · exact absent entry earlier

/-- Newest first: a task that appears again was the last one to appear. -/
def Grouped : List (TaskId × ModbusRequest) → Prop
  | [] => True
  | (task, _) :: earlier =>
      (Absent task earlier ∨
        ∃ request rest, earlier = (task, request) :: rest) ∧
        Grouped earlier

/-- Between two requests of one task there are only requests of that task. -/
def NeverInterleaved (log : List (TaskId × ModbusRequest)) : Prop :=
  ∀ newer between older task second first,
    log = newer ++ (task, second) :: between ++ (task, first) :: older →
      ∀ entry ∈ between, entry.1 = task

theorem Grouped.of_append {newer older : List (TaskId × ModbusRequest)}
    (grouped : Grouped (newer ++ older)) : Grouped older := by
  induction newer with
  | nil => exact grouped
  | cons entry rest ih => exact ih grouped.2

theorem Grouped.between {task : TaskId} {second first : ModbusRequest}
    {between older : List (TaskId × ModbusRequest)}
    (grouped : Grouped ((task, second) :: between ++ (task, first) :: older)) :
    ∀ entry ∈ between, entry.1 = task := by
  induction between generalizing second with
  | nil =>
      intro entry member
      cases member
  | cons head rest ih =>
      obtain ⟨fresh | ⟨request, rest', headEq⟩, earlier⟩ := grouped
      · exact absurd rfl (fresh (task, first) (by simp))
      · obtain ⟨rfl, rfl⟩ := List.cons.inj headEq
        intro entry member
        rcases List.mem_cons.mp member with here | later
        · rw [here]
        · exact ih earlier entry later

theorem Grouped.neverInterleaved {log : List (TaskId × ModbusRequest)}
    (grouped : Grouped log) : NeverInterleaved log := by
  intro newer between older task second first logEq
  rw [logEq, List.append_assoc] at grouped
  exact grouped.of_append.between

/-- The operations take place one after another, newest first: each result is
what the operation alone does to the device as the earlier ones left it. -/
inductive Serial (results : TaskId → Option (Except PyError OperationResult))
    (initial : Device) : List (TaskId × Operation) → Device → Prop where
  | start : Serial results initial [] initial
  | next {earlier : List (TaskId × Operation)} {before after : Device}
      {id : TaskId} {operation : Operation}
      {result : Except PyError OperationResult} :
      Serial results initial earlier before →
      results id = some result →
      Performed operation.perform before after result →
      Serial results initial ((id, operation) :: earlier) after

theorem Serial.record
    {results : TaskId → Option (Except PyError OperationResult)}
    {initial device : Device} {order : List (TaskId × Operation)}
    {id : TaskId} {result : Except PyError OperationResult}
    (serial : Serial results initial order device)
    (unrecorded : results id = none) :
    Serial (Function.update results id (some result)) initial order
      device := by
  induction serial with
  | start => exact .start
  | @next earlier before after other operation recorded _ found performed
      ih =>
      apply Serial.next ih _ performed
      have different : other ≠ id := by
        intro same
        rw [same, unrecorded] at found
        cases found
      rw [Function.update_of_ne different]
      exact found

/-! ## Where a task stands -/

section Standing

variable (honest : Prop) (initial : Device)
  (results : TaskId → Option (Except PyError OperationResult))

/-- The operation took the lock on `before`, last of all so far, and the
device is at `now`. -/
def Served (bus : Bus) (id : TaskId) (operation : Operation)
    (before now : Device) : Prop :=
  ∃ earlier, bus.order = (id, operation) :: earlier ∧
    (honest → now = bus.device ∧ Serial results initial earlier before)

def LastToSend (bus : Bus) (id : TaskId) : Prop :=
  Absent id bus.log ∨ ∃ request rest, bus.log = (id, request) :: rest

/-- What the session state of a task says about the bus. -/
def Stands (bus : Bus) (id : TaskId) (operation : Operation) :
    SessionState → Prop
  | .waiting =>
      bus.lockedBy ≠ some id ∧ Absent id bus.log ∧ Absent id bus.order
  | .locked before =>
      bus.lockedBy = some id ∧ bus.connectedBy = none ∧
        Absent id bus.log ∧
        Served honest initial results bus id operation before before
  | .opened before now =>
      bus.lockedBy = some id ∧ bus.connectedBy = some id ∧
        LastToSend bus id ∧
        Served honest initial results bus id operation before now
  | .closed before now =>
      bus.lockedBy = some id ∧ bus.connectedBy = none ∧
        Served honest initial results bus id operation before now
  | .released before after =>
      bus.lockedBy = none ∧ bus.connectedBy = none ∧
        Served honest initial results bus id operation before after
  | .abandoned =>
      bus.lockedBy ≠ some id ∧
        (∀ owner, bus.connectedBy = some owner →
          bus.lockedBy = some owner) ∧
        (bus.lockedBy = none → honest →
          Serial results initial bus.order bus.device)

end Standing

/-- A session that still has effects to perform. -/
def SessionState.Pending : SessionState → Prop
  | .released _ _ | .abandoned => False
  | _ => True

/-! ## One effect -/

section Answer

variable {honest : Prop} {initial : Device}
  {results : TaskId → Option (Except PyError OperationResult)}
  {bus next : Bus} {id other : TaskId} {operation : Operation}

/-- What an answered effect of one task leaves to the others. -/
structure Bus.Frame (bus next : Bus) (id : TaskId) (operation : Operation)
    (effect : ClientEffect) : Prop where
  lockedBy : next.lockedBy = bus.lockedBy ∨ next.lockedBy = some id ∨
    effect = .releaseLock ∧ next.lockedBy = none
  order : next.order = bus.order ∨
    effect = .acquireLock ∧ next.order = (id, operation) :: bus.order
  log : next.log = bus.log ∨ ∃ request, effect = .request request ∧
    next.log = (id, request) :: bus.log

theorem Bus.answer_frame {effect : ClientEffect} {choice : BusChoice}
    {reply : ClientAnswer effect}
    (answered : bus.answer id operation effect choice =
      some (reply, next)) : bus.Frame next id operation effect := by
  cases effect with
  | acquireLock =>
      cases choice with
      | lock lockReply =>
          cases lockReply with
          | acquired =>
              simp only [answer] at answered
              split at answered
              · cases answered
                exact ⟨.inr (.inl rfl), .inr ⟨rfl, rfl⟩, .inl rfl⟩
              · cases answered
          | cancelled =>
              cases answered
              exact ⟨.inl rfl, .inl rfl, .inl rfl⟩
      | _ => cases answered
  | connect =>
      cases choice with
      | connect connectReply =>
          simp only [answer] at answered
          split at answered
          · cases answered
            exact ⟨.inl rfl, .inl rfl, .inl rfl⟩
          · cases answered
      | _ => cases answered
  | request request =>
      cases choice with
      | respond outcome =>
          cases answered
          exact ⟨.inl rfl, .inl rfl, .inr ⟨request, rfl, rfl⟩⟩
      | disturb modbusReply device =>
          cases answered
          exact ⟨.inl rfl, .inl rfl, .inr ⟨request, rfl, rfl⟩⟩
      | _ => cases answered
  | close =>
      cases choice with
      | proceed =>
          cases answered
          exact ⟨.inl rfl, .inl rfl, .inl rfl⟩
      | _ => cases answered
  | releaseLock =>
      cases choice with
      | proceed =>
          cases answered
          exact ⟨.inr (.inr ⟨rfl, rfl⟩), .inl rfl, .inl rfl⟩
      | _ => cases answered

section Frame

variable {effect : ClientEffect}
  (frame : bus.Frame next id operation effect)

include frame

theorem Bus.Frame.absent_log (different : other ≠ id)
    (absent : Absent other bus.log) : Absent other next.log := by
  rcases frame.log with same | ⟨request, -, added⟩
  · rw [same]
    exact absent
  · rw [added]
    exact absent.cons different request

theorem Bus.Frame.absent_order (different : other ≠ id)
    (absent : Absent other bus.order) : Absent other next.order := by
  rcases frame.order with same | ⟨-, added⟩
  · rw [same]
    exact absent
  · rw [added]
    exact absent.cons different operation

theorem Bus.Frame.mem_order {entry : TaskId × Operation}
    (member : entry ∈ bus.order) : entry ∈ next.order := by
  rcases frame.order with same | ⟨-, added⟩
  · rw [same]
    exact member
  · rw [added]
    exact List.mem_cons_of_mem _ member

theorem Bus.Frame.owner_kept (different : other ≠ id)
    (locked : next.lockedBy = some other) :
    bus.lockedBy = some other := by
  rcases frame.lockedBy with same | taken | ⟨-, freed⟩
  · rw [← same]
    exact locked
  · rw [taken] at locked
    exact absurd (Option.some.inj locked).symm different
  · rw [freed] at locked
    cases locked

end Frame

/-- The task goes on in a session state that the answer may lead to, past the
wait for the lock. -/
def Advances (honest : Prop) (initial : Device)
    (results : TaskId → Option (Except PyError OperationResult))
    (next : Bus) (id : TaskId) (operation : Operation)
    (session : SessionState) (effect : ClientEffect)
    (reply : ClientAnswer effect) : Prop :=
  ∃ after, (sessionProtocol honest).answers session effect reply after ∧
    Stands honest initial results next id operation after ∧
    after ≠ .waiting

theorem Bus.acquireLock_advances {choice : BusChoice} {reply : LockReply}
    (free : bus.lockedBy = none → honest →
      Serial results initial bus.order bus.device)
    (connected : ∀ id, bus.connectedBy = some id → bus.lockedBy = some id)
    (stands : Stands honest initial results bus id operation .waiting)
    (answered : bus.answer id operation .acquireLock choice =
      some (reply, next)) :
    Advances honest initial results next id operation .waiting .acquireLock
      reply := by
  cases choice with
  | lock lockReply =>
      cases lockReply with
      | acquired =>
          simp only [answer] at answered
          split at answered
          case isFalse => cases answered
          case isTrue unlocked =>
            cases answered
            have closed : bus.connectedBy = none := by
              cases isOpen : bus.connectedBy with
              | none => rfl
              | some owner =>
                  have locked := connected owner isOpen
                  rw [unlocked] at locked
                  cases locked
            refine ⟨.locked bus.device, ⟨bus.device, rfl⟩,
              ⟨rfl, closed, stands.2.1, bus.order, rfl, ?_⟩,
              SessionState.noConfusion⟩
            exact fun answers => ⟨rfl, free unlocked answers⟩
      | cancelled =>
          cases answered
          exact ⟨.abandoned, rfl, ⟨stands.1, connected, free⟩,
            SessionState.noConfusion⟩
  | _ => cases answered

theorem Bus.connect_advances {choice : BusChoice} {reply : ConnectReply}
    {before : Device}
    (stands : Stands honest initial results bus id operation (.locked before))
    (answered : bus.answer id operation .connect choice =
      some (reply, next)) :
    Advances honest initial results next id operation (.locked before)
      .connect reply := by
  cases choice with
  | connect connectReply =>
      simp only [answer] at answered
      split at answered
      case isFalse => cases answered
      case isTrue declared =>
        cases answered
        obtain ⟨locked, -, silent, served⟩ := stands
        exact ⟨.opened before before, ⟨declared, rfl⟩,
          ⟨locked, rfl, .inl silent, served⟩, SessionState.noConfusion⟩
  | _ => cases answered

/-- A request keeps the connection, whatever it is answered with. -/
theorem Bus.request_advances {choice : BusChoice} {request : ModbusRequest}
    {reply : ModbusReply} {before now : Device}
    (honestly : honest → (ClientAction.run id choice).ThroughClient)
    (stands : Stands honest initial results bus id operation
      (.opened before now))
    (answered : bus.answer id operation (.request request) choice =
      some (reply, next)) :
    Advances honest initial results next id operation (.opened before now)
      (.request request) reply := by
  obtain ⟨locked, isOpen, _, earlier, orderEq, served⟩ := stands
  cases choice with
  | respond outcome =>
      cases answered
      refine ⟨.opened before (bus.device.respond request outcome).2,
        ⟨_, rfl, ?_⟩,
        ⟨locked, isOpen, .inr ⟨request, bus.log, rfl⟩, earlier, orderEq, ?_⟩,
        SessionState.noConfusion⟩
      · intro answers
        refine ⟨outcome, ?_⟩
        rw [(served answers).1]
        rfl
      · exact fun answers => ⟨rfl, (served answers).2⟩
  | disturb modbusReply device =>
      cases answered
      refine ⟨.opened before device, ⟨_, rfl, ?_⟩,
        ⟨locked, isOpen, .inr ⟨request, bus.log, rfl⟩, earlier, orderEq, ?_⟩,
        SessionState.noConfusion⟩
      · exact fun answers => (honestly answers).elim
      · exact fun answers => (honestly answers).elim
  | _ => cases answered

theorem Bus.close_advances {choice : BusChoice} {before now : Device}
    (stands : Stands honest initial results bus id operation
      (.opened before now))
    (answered : bus.answer id operation .close choice = some ((), next)) :
    Advances honest initial results next id operation (.opened before now)
      .close () := by
  obtain ⟨locked, -, -, served⟩ := stands
  cases choice with
  | proceed =>
      cases answered
      exact ⟨.closed before now, rfl, ⟨locked, rfl, served⟩,
        SessionState.noConfusion⟩
  | _ => cases answered

theorem Bus.releaseLock_advances {choice : BusChoice} {before now : Device}
    (stands : Stands honest initial results bus id operation
      (.closed before now))
    (answered : bus.answer id operation .releaseLock choice =
      some ((), next)) :
    Advances honest initial results next id operation (.closed before now)
      .releaseLock () := by
  obtain ⟨-, isClosed, served⟩ := stands
  cases choice with
  | proceed =>
      cases answered
      exact ⟨.released before now, rfl, ⟨rfl, isClosed, served⟩,
        SessionState.noConfusion⟩
  | _ => cases answered

/-- The effect that a task awaits moves its session on. -/
theorem Bus.answer_stands {effect : ClientEffect} {choice : BusChoice}
    {reply : ClientAnswer effect} {session : SessionState}
    (honestly : honest → (ClientAction.run id choice).ThroughClient)
    (free : bus.lockedBy = none → honest →
      Serial results initial bus.order bus.device)
    (connected : ∀ id, bus.connectedBy = some id → bus.lockedBy = some id)
    (stands : Stands honest initial results bus id operation session)
    (allowed : (sessionProtocol honest).allowed session effect)
    (answered : bus.answer id operation effect choice =
      some (reply, next)) :
    Advances honest initial results next id operation session effect
      reply := by
  cases session with
  | waiting =>
      cases effect with
      | acquireLock =>
          exact Bus.acquireLock_advances free connected stands answered
      | _ => exact allowed.elim
  | locked before =>
      cases effect with
      | connect => exact Bus.connect_advances stands answered
      | _ => exact allowed.elim
  | opened before now =>
      cases effect with
      | request request =>
          exact Bus.request_advances honestly stands answered
      | close => exact Bus.close_advances stands answered
      | _ => exact allowed.elim
  | closed before now =>
      cases effect with
      | releaseLock => exact Bus.releaseLock_advances stands answered
      | _ => exact allowed.elim
  | released before after => cases effect <;> exact allowed.elim
  | abandoned => cases effect <;> exact allowed.elim

/-- Past the lock wait, a session says who may hold the connection. -/
theorem Stands.connected {session : SessionState}
    (stands : Stands honest initial results bus id operation session)
    (past : session ≠ .waiting) :
    ∀ owner, bus.connectedBy = some owner →
      bus.lockedBy = some owner := by
  intro owner isOpen
  cases session with
  | waiting => exact absurd rfl past
  | locked before =>
      rw [stands.2.1] at isOpen
      cases isOpen
  | opened before now =>
      rw [stands.2.1] at isOpen
      rw [stands.1, isOpen]
  | closed before now =>
      rw [stands.2.1] at isOpen
      cases isOpen
  | released before after =>
      rw [stands.2.1] at isOpen
      cases isOpen
  | abandoned => exact stands.2.1 owner isOpen

theorem Bus.Frame.grouped {effect : ClientEffect} {session : SessionState}
    (frame : bus.Frame next id operation effect)
    (stands : Stands honest initial results bus id operation session)
    (allowed : (sessionProtocol honest).allowed session effect)
    (grouped : Grouped bus.log) : Grouped next.log := by
  rcases frame.log with same | ⟨request, rfl, added⟩
  · rw [same]
    exact grouped
  · rw [added]
    cases session with
    | opened before now => exact ⟨stands.2.2.1, grouped⟩
    | _ => exact allowed.elim

theorem Bus.Frame.distinct {effect : ClientEffect} {session : SessionState}
    (frame : bus.Frame next id operation effect)
    (stands : Stands honest initial results bus id operation session)
    (allowed : (sessionProtocol honest).allowed session effect)
    (distinct : (bus.order.map Prod.fst).Nodup) :
    (next.order.map Prod.fst).Nodup := by
  rcases frame.order with same | ⟨rfl, added⟩
  · rw [same]
    exact distinct
  · rw [added]
    cases session with
    | waiting =>
        rw [List.map_cons, List.nodup_cons]
        refine ⟨?_, distinct⟩
        intro member
        obtain ⟨entry, entryMember, same⟩ := List.mem_map.mp member
        exact stands.2.2 entry entryMember same
    | _ => exact allowed.elim

/-- Recording the result of a running task changes nothing for another. -/
theorem Stands.record {result : Except PyError OperationResult}
    {session : SessionState} (unrecorded : results id = none)
    (pending : session.Pending)
    (stands : Stands honest initial results bus other operation session) :
    Stands honest initial (Function.update results id (some result)) bus
      other operation session := by
  have served : ∀ before now,
      Served honest initial results bus other operation before now →
      Served honest initial (Function.update results id (some result)) bus
        other operation before now := by
    intro before now held
    obtain ⟨earlier, orderEq, serial⟩ := held
    exact ⟨earlier, orderEq, fun answers =>
      ⟨(serial answers).1, (serial answers).2.record unrecorded⟩⟩
  cases session with
  | waiting => exact stands
  | locked before =>
      exact ⟨stands.1, stands.2.1, stands.2.2.1, served _ _ stands.2.2.2⟩
  | opened before now =>
      exact ⟨stands.1, stands.2.1, stands.2.2.1, served _ _ stands.2.2.2⟩
  | closed before now =>
      exact ⟨stands.1, stands.2.1, served _ _ stands.2.2⟩
  | released before after => exact pending.elim
  | abandoned => exact pending.elim

/-- A pending session either waits or holds the lock. -/
theorem Stands.holds {session : SessionState}
    (stands : Stands honest initial results bus id operation session)
    (pending : session.Pending) (past : session ≠ .waiting) :
    bus.lockedBy = some id := by
  cases session with
  | waiting => exact absurd rfl past
  | locked before => exact stands.1
  | opened before now => exact stands.1
  | closed before now => exact stands.1
  | released before after => exact pending.elim
  | abandoned => exact pending.elim

/-- While another task holds the lock, a task can only give up its wait. -/
theorem Bus.answer_waiting {effect : ClientEffect} {choice : BusChoice}
    {reply : ClientAnswer effect} {session : SessionState}
    (stands : Stands honest initial results bus id operation session)
    (allowed : (sessionProtocol honest).allowed session effect)
    (pending : session.Pending)
    (locked : bus.lockedBy = some other) (different : other ≠ id)
    (answered : bus.answer id operation effect choice =
      some (reply, next)) : next = bus := by
  by_cases waits : session = .waiting
  · subst waits
    cases effect with
    | acquireLock =>
        cases choice with
        | lock lockReply =>
            cases lockReply with
            | acquired =>
                simp only [answer] at answered
                rw [locked, if_neg (Option.some_ne_none other)] at answered
                cases answered
            | cancelled =>
                cases answered
                rfl
        | _ => cases answered
    | _ => exact allowed.elim
  · have holds := stands.holds pending waits
    rw [locked] at holds
    exact absurd (Option.some.inj holds) different

/-- The step of one task leaves where any other task stands. -/
theorem Stands.stable {effect : ClientEffect} {choice : BusChoice}
    {reply : ClientAnswer effect} {session otherSession : SessionState}
    {otherOperation : Operation}
    (stands : Stands honest initial results bus id operation session)
    (allowed : (sessionProtocol honest).allowed session effect)
    (pending : session.Pending)
    (answered : bus.answer id operation effect choice =
      some (reply, next))
    (different : other ≠ id)
    (otherStands : Stands honest initial results bus other otherOperation
      otherSession)
    (otherPending : otherSession.Pending) :
    Stands honest initial results next other otherOperation
      otherSession := by
  by_cases waits : otherSession = .waiting
  · subst waits
    have frame := Bus.answer_frame answered
    refine ⟨?_, frame.absent_log different otherStands.2.1,
      frame.absent_order different otherStands.2.2⟩
    intro locked
    exact otherStands.1 (frame.owner_kept different locked)
  · have locked := otherStands.holds otherPending waits
    rw [Bus.answer_waiting stands allowed pending locked different answered]
    exact otherStands

end Answer

end Airfi
