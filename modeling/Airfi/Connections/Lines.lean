import Airfi.Connections.Clients

/-!
# The line of a client

What an effect does to the lock and the connection of its client, for the job
that performs it and for the others: a connection is only open for the job
that has the lock.
-/

namespace Airfi

namespace Line

/-- A connection is only open for the job that has the lock. -/
def OpenLocked (line : Line) : Prop :=
  ∀ job, line.openFor = some job → line.lockedBy = some job

/-- What the phase of a job says about the line of its client. -/
def Stands (line : Line) (job : JobId) : Phase → Prop
  | .idle => line.lockedBy ≠ some job
  | .locked => line.lockedBy = some job ∧ line.openFor = none
  | .opened => line.lockedBy = some job ∧ line.openFor = some job
  | .closed => line.lockedBy = some job ∧ line.openFor = none

/-- What an allowed and answered effect of a job does to the line. -/
structure Answered (line next : Line) (job : JobId) (phase : Phase)
    (answer : LineAnswer) : Prop where
  stands : next.Stands job phase
  openLocked : next.OpenLocked
  lockedBy : next.lockedBy = line.lockedBy ∨
    line.lockedBy = none ∧ next.lockedBy = some job ∧
      answer = .lock .acquired ∨
    line.lockedBy = some job ∧ next.lockedBy = none
  /-- While another job has the lock, nothing changes. -/
  kept : ∀ other, line.lockedBy = some other → other ≠ job → next = line

variable {line next : Line} {job : JobId} {phase : Phase}
  {answer : LineAnswer}

/-- The connection may be open for the job that keeps the lock. -/
theorem openLocked_of_held (held : line.lockedBy = some job)
    (mine : ∀ other, line.openFor = some other → other = job) :
    line.OpenLocked := by
  intro other isOpen
  rw [mine other isOpen]
  exact held

/-- An effect of the job that has the lock. -/
theorem Answered.of_held (held : line.lockedBy = some job)
    (stands : next.Stands job phase) (openLocked : next.OpenLocked)
    (lockedBy : next.lockedBy = some job ∨ next.lockedBy = none) :
    Answered line next job phase answer where
  stands := stands
  openLocked := openLocked
  lockedBy := by
    rcases lockedBy with same | freed
    · exact .inl (same.trans held.symm)
    · exact .inr (.inr ⟨held, freed⟩)
  kept := by
    intro other lockedByOther different
    rw [held] at lockedByOther
    exact absurd (Option.some.inj lockedByOther).symm different

theorem answered_acquire (openLocked : line.OpenLocked)
    (stands : line.Stands job .idle) {reply : LockReply}
    (answered : line.answer job .acquireLock answer = some (reply, next)) :
    Answered line next job (Phase.idle.after .acquireLock reply) answer := by
  cases answer with
  | lock lockReply =>
      cases lockReply with
      | cancelled =>
          cases answered
          exact ⟨stands, openLocked, .inl rfl, fun _ _ _ => rfl⟩
      | acquired =>
          simp only [Line.answer] at answered
          split at answered
          case isFalse => cases answered
          case isTrue free =>
            cases answered
            have notOpen : line.openFor = none := by
              cases opened : line.openFor with
              | none => rfl
              | some other =>
                  have locked := openLocked other opened
                  rw [free] at locked
                  cases locked
            refine ⟨⟨rfl, notOpen⟩, ?_, .inr (.inl ⟨free, rfl, rfl⟩), ?_⟩
            · intro other isOpen
              rw [notOpen] at isOpen
              cases isOpen
            · intro other locked
              rw [free] at locked
              cases locked
  | _ => cases answered

theorem answered_connect (stands : line.Stands job .locked)
    {reply : ConnectReply}
    (answered : line.answer job .connect answer = some (reply, next)) :
    Answered line next job (Phase.locked.after .connect reply) answer := by
  have closed : line.OpenLocked := by
    intro other isOpen
    rw [stands.2] at isOpen
    cases isOpen
  cases answer with
  | connect connectReply =>
      cases connectReply with
      | returned connected =>
          cases connected with
          | true =>
              cases answered
              refine .of_held stands.1 ⟨stands.1, rfl⟩ ?_ (.inl stands.1)
              exact openLocked_of_held stands.1
                fun other isOpen => (Option.some.inj isOpen).symm
          | false =>
              cases answered
              exact .of_held stands.1 stands closed (.inl stands.1)
      | raised error =>
          cases answered
          exact .of_held stands.1 stands closed (.inl stands.1)
  | _ => cases answered

theorem answered_close (held : line.lockedBy = some job)
    (answered : line.answer job .close answer = some ((), next)) :
    Answered line next job .closed answer := by
  cases answer with
  | proceed =>
      cases answered
      refine .of_held held ⟨held, rfl⟩ ?_ (.inl held)
      intro other isOpen
      cases isOpen
  | _ => cases answered

/-- Every effect that its phase allows a job takes its line along. -/
theorem answer_answered {effect : ClientEffect}
    {reply : ClientAnswer effect} (openLocked : line.OpenLocked)
    (stands : line.Stands job phase) (allowed : phase.Allows effect)
    (answered : line.answer job effect answer = some (reply, next)) :
    Answered line next job (phase.after effect reply) answer := by
  cases effect with
  | acquireLock =>
      cases phase with
      | idle => exact answered_acquire openLocked stands answered
      | _ => exact allowed.elim
  | connect =>
      cases phase with
      | locked => exact answered_connect stands answered
      | _ => exact allowed.elim
  | request request =>
      cases phase with
      | opened =>
          cases answer with
          | response modbusReply =>
              cases answered
              exact .of_held stands.1 stands openLocked (.inl stands.1)
          | _ => cases answered
      | _ => exact allowed.elim
  | close =>
      cases phase with
      | opened => exact answered_close stands.1 answered
      | closed => exact answered_close stands.1 answered
      | _ => exact allowed.elim
  | releaseLock =>
      cases phase with
      | closed =>
          cases answer with
          | proceed =>
              cases answered
              refine .of_held stands.1 ?_ ?_ (.inr rfl)
              · intro held
                cases held
              · intro other isOpen
                rw [stands.2] at isOpen
                cases isOpen
          | _ => cases answered
      | _ => exact allowed.elim

theorem lockedBy_of_acquired {effect : ClientEffect}
    {reply : ClientAnswer effect}
    (answered : line.answer job effect (.lock .acquired) =
      some (reply, next)) : next.lockedBy = some job := by
  cases effect with
  | acquireLock =>
      simp only [Line.answer] at answered
      split at answered
      · cases answered
        rfl
      · cases answered
  | _ => cases answered

/-- The other jobs of the client stand as they did. -/
theorem Answered.others {other : JobId} {otherPhase : Phase}
    (answered : Answered line next job phase answer)
    (different : other ≠ job) (stands : line.Stands other otherPhase) :
    next.Stands other otherPhase := by
  have keeps : line.lockedBy = some other →
      next.Stands other otherPhase := by
    intro held
    rw [answered.kept other held different]
    exact stands
  cases otherPhase with
  | idle =>
      intro held
      rcases answered.lockedBy with same | ⟨-, taken, -⟩ | ⟨-, freed⟩
      · exact stands (same.symm.trans held)
      · exact different (Option.some.inj (held.symm.trans taken))
      · rw [freed] at held
        cases held
  | locked => exact keeps stands.1
  | opened => exact keeps stands.1
  | closed => exact keeps stands.1

end Line

end Airfi
