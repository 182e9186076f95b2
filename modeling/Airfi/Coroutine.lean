import Mathlib.Tactic

/-!
# Coroutines as effect trees

A coroutine performs effects one at a time, each answered from outside, and
ends with a value or an exception.  `Follows` is the program logic: against a
protocol that says which effects are allowed in which ghost state and how
they may be answered, every path obeys the protocol and ends in the
postcondition.
-/

/-- A finite coroutine over effects `E`; an effect `e` is answered in `R e`. -/
inductive Coroutine (E : Type) (R : E → Type) (ε α : Type) : Type where
  | done (value : α)
  | raise (error : ε)
  | perform (effect : E) (resume : R effect → Coroutine E R ε α)

namespace Coroutine

variable {E : Type} {R : E → Type} {ε α β : Type}

/-- Perform one effect and return its answer. -/
def effect (e : E) : Coroutine E R ε (R e) :=
  .perform e .done

protected def bind (program : Coroutine E R ε α)
    (next : α → Coroutine E R ε β) : Coroutine E R ε β :=
  match program with
  | .done value => next value
  | .raise error => .raise error
  | .perform e resume => .perform e fun answer => (resume answer).bind next

instance : Monad (Coroutine E R ε) where
  pure := .done
  bind := Coroutine.bind

/-- `try: … except: handler`. -/
def tryExcept (program : Coroutine E R ε α)
    (handler : ε → Coroutine E R ε α) : Coroutine E R ε α :=
  match program with
  | .done value => .done value
  | .raise error => handler error
  | .perform e resume =>
      .perform e fun answer => (resume answer).tryExcept handler

/-- `try: … finally: cleanup`. -/
def tryFinally (program : Coroutine E R ε α)
    (cleanup : Coroutine E R ε Unit) : Coroutine E R ε α :=
  match program with
  | .done value => cleanup.bind fun _ => .done value
  | .raise error => cleanup.bind fun _ => .raise error
  | .perform e resume =>
      .perform e fun answer => (resume answer).tryFinally cleanup

/-- The outcome as a value, so that a caller can go on after an exception. -/
def outcome (program : Coroutine E R ε α) :
    Coroutine E R ε (Except ε α) :=
  match program with
  | .done value => .done (.ok value)
  | .raise error => .done (.error error)
  | .perform e resume => .perform e fun answer => (resume answer).outcome

@[simp] theorem pure_eq_done (value : α) :
    (pure value : Coroutine E R ε α) = .done value := rfl

@[simp] theorem bind_eq (program : Coroutine E R ε α)
    (next : α → Coroutine E R ε β) :
    program >>= next = program.bind next := rfl

@[simp] theorem done_bind (value : α) (next : α → Coroutine E R ε β) :
    (Coroutine.done value : Coroutine E R ε α).bind next = next value := rfl

@[simp] theorem raise_bind (error : ε) (next : α → Coroutine E R ε β) :
    (Coroutine.raise error : Coroutine E R ε α).bind next =
      .raise error := rfl

@[simp] theorem perform_bind (e : E) (resume : R e → Coroutine E R ε α)
    (next : α → Coroutine E R ε β) :
    (Coroutine.perform e resume).bind next =
      .perform e fun answer => (resume answer).bind next := rfl

@[simp] theorem effect_bind (e : E) (next : R e → Coroutine E R ε β) :
    (effect e : Coroutine E R ε (R e)).bind next = .perform e next := rfl

theorem bind_assoc {γ : Type} (program : Coroutine E R ε α)
    (first : α → Coroutine E R ε β) (second : β → Coroutine E R ε γ) :
    (program.bind first).bind second =
      program.bind fun value => (first value).bind second := by
  induction program with
  | done value => rfl
  | raise error => rfl
  | perform effect resume ih =>
      simp only [perform_bind]
      congr 1
      funext answer
      exact ih answer

/-! ## Protocols -/

/-- Which effects are allowed in a ghost state, and which answers lead to
which next ghost states. -/
structure Protocol (σ E : Type) (R : E → Type) where
  allowed : σ → E → Prop
  answers : σ → (e : E) → R e → σ → Prop

variable {σ : Type} {protocol : Protocol σ E R}

/-- Every path from this ghost state obeys the protocol and ends in the
postcondition. -/
def Follows (protocol : Protocol σ E R) (post : σ → Except ε α → Prop) :
    Coroutine E R ε α → σ → Prop
  | .done value, state => post state (.ok value)
  | .raise error, state => post state (.error error)
  | .perform e resume, state =>
      protocol.allowed state e ∧
        ∀ answer next, protocol.answers state e answer next →
          (resume answer).Follows protocol post next

theorem Follows.mono {post weaker : σ → Except ε α → Prop}
    (weaken : ∀ state result, post state result → weaker state result)
    {program : Coroutine E R ε α} {state : σ}
    (follows : program.Follows protocol post state) :
    program.Follows protocol weaker state := by
  induction program generalizing state with
  | done value => exact weaken _ _ follows
  | raise error => exact weaken _ _ follows
  | perform e resume ih =>
      exact ⟨follows.1, fun answer next answered =>
        ih answer (follows.2 answer next answered)⟩

/-- The postcondition of the first part of a sequence. -/
def bindPost (protocol : Protocol σ E R) (post : σ → Except ε β → Prop)
    (next : α → Coroutine E R ε β) : σ → Except ε α → Prop
  | state, .ok value => (next value).Follows protocol post state
  | state, .error error => post state (.error error)

theorem Follows.bind {post : σ → Except ε β → Prop}
    {program : Coroutine E R ε α} {next : α → Coroutine E R ε β} {state : σ}
    (first : program.Follows protocol (bindPost protocol post next) state) :
    (program.bind next).Follows protocol post state := by
  induction program generalizing state with
  | done value => exact first
  | raise error => exact first
  | perform e resume ih =>
      exact ⟨first.1, fun answer following answered =>
        ih answer (first.2 answer following answered)⟩

/-- The postcondition of a guarded block. -/
def exceptPost (protocol : Protocol σ E R) (post : σ → Except ε α → Prop)
    (handler : ε → Coroutine E R ε α) : σ → Except ε α → Prop
  | state, .ok value => post state (.ok value)
  | state, .error error => (handler error).Follows protocol post state

theorem Follows.tryExcept {post : σ → Except ε α → Prop}
    {program : Coroutine E R ε α} {handler : ε → Coroutine E R ε α}
    {state : σ}
    (first : program.Follows protocol
      (exceptPost protocol post handler) state) :
    (program.tryExcept handler).Follows protocol post state := by
  induction program generalizing state with
  | done value => exact first
  | raise error => exact first
  | perform e resume ih =>
      exact ⟨first.1, fun answer following answered =>
        ih answer (first.2 answer following answered)⟩

/-- A cleanup keeps the block's outcome, or replaces it by its exception. -/
def cleanupPost (post : σ → Except ε α → Prop) (result : Except ε α) :
    σ → Except ε Unit → Prop
  | ended, .ok () => post ended result
  | ended, .error error => post ended (.error error)

/-- The postcondition of a block with a cleanup, which runs on both exits. -/
def finallyPost (protocol : Protocol σ E R) (post : σ → Except ε α → Prop)
    (cleanup : Coroutine E R ε Unit) (state : σ) (result : Except ε α) :
    Prop :=
  cleanup.Follows protocol (cleanupPost post result) state

theorem Follows.tryFinally {post : σ → Except ε α → Prop}
    {program : Coroutine E R ε α} {cleanup : Coroutine E R ε Unit}
    {state : σ}
    (first : program.Follows protocol
      (finallyPost protocol post cleanup) state) :
    (program.tryFinally cleanup).Follows protocol post state := by
  induction program generalizing state with
  | done value =>
      apply Follows.bind
      have cleaned : cleanup.Follows protocol
          (cleanupPost post (.ok value)) state := first
      refine cleaned.mono ?_
      rintro ended (error | ⟨⟩) reached
      · exact reached
      · exact reached
  | raise error =>
      apply Follows.bind
      have cleaned : cleanup.Follows protocol
          (cleanupPost post (.error error)) state := first
      refine cleaned.mono ?_
      rintro ended (raised | ⟨⟩) reached
      · exact reached
      · exact reached
  | perform e resume ih =>
      exact ⟨first.1, fun answer following answered =>
        ih answer (first.2 answer following answered)⟩

/-- The outcome of a program is a value, reached where the program ends. -/
theorem Follows.outcome {post : σ → Except ε α → Prop}
    {program : Coroutine E R ε α} {state : σ}
    (follows : program.Follows protocol post state) :
    program.outcome.Follows protocol
      (fun reached ended => ∃ result, ended = .ok result ∧
        post reached result) state := by
  induction program generalizing state with
  | done value => exact ⟨_, rfl, follows⟩
  | raise error => exact ⟨_, rfl, follows⟩
  | perform e resume ih =>
      exact ⟨follows.1, fun answer next answered =>
        ih answer (follows.2 answer next answered)⟩

/-- What no answer undoes may be used where the program ends. -/
theorem Follows.since {le : σ → σ → Prop} (refl : ∀ state, le state state)
    (trans : ∀ {first second third}, le first second → le second third →
      le first third)
    (grows : ∀ {state e answer next}, protocol.answers state e answer next →
      le state next)
    {post : σ → Except ε α → Prop} {program : Coroutine E R ε α} {state : σ}
    (follows : program.Follows protocol post state) :
    program.Follows protocol
      (fun reached result => le state reached ∧ post reached result)
      state := by
  induction program generalizing state with
  | done value => exact ⟨refl state, follows⟩
  | raise error => exact ⟨refl state, follows⟩
  | perform e resume ih =>
      refine ⟨follows.1, ?_⟩
      intro answer next answered
      apply (ih answer (follows.2 answer next answered)).mono
      intro reached result ended
      exact ⟨trans (grows answered) ended.1, ended.2⟩

/-- A program that follows a protocol follows it from any state that allows
more, is answered less and ends as well. -/
theorem Follows.of_le {le : σ → σ → Prop}
    (allows : ∀ {state larger e}, le state larger →
      protocol.allowed state e → protocol.allowed larger e)
    (answers : ∀ {state larger e answer next}, le state larger →
      protocol.answers larger e answer next →
      protocol.answers state e answer next)
    {post : σ → Except ε α → Prop}
    (ends : ∀ {state larger result}, le state larger → post state result →
      post larger result)
    {program : Coroutine E R ε α} {state larger : σ} (below : le state larger)
    (follows : program.Follows protocol post state) :
    program.Follows protocol post larger := by
  cases program with
  | done value => exact ends below follows
  | raise error => exact ends below follows
  | perform e resume =>
      exact ⟨allows below follows.1, fun answer next answered =>
        follows.2 answer next (answers below answered)⟩

/-! ## Bounded programs -/

/-- Every path performs at most so many effects. -/
def Within : Coroutine E R ε α → Nat → Prop
  | .done _, _ => True
  | .raise _, _ => True
  | .perform _ resume, bound =>
      0 < bound ∧ ∀ answer, (resume answer).Within (bound - 1)

theorem within_done (value : α) (bound : Nat) :
    (Coroutine.done value : Coroutine E R ε α).Within bound := trivial

theorem within_raise (error : ε) (bound : Nat) :
    (Coroutine.raise error : Coroutine E R ε α).Within bound := trivial

theorem Within.mono {program : Coroutine E R ε α} {low high : Nat}
    (within : program.Within low) (atMost : low ≤ high) :
    program.Within high := by
  induction program generalizing low high with
  | done value => trivial
  | raise error => trivial
  | perform e resume ih =>
      exact ⟨Nat.lt_of_lt_of_le within.1 atMost, fun answer =>
        ih answer (within.2 answer) (Nat.sub_le_sub_right atMost 1)⟩

/-- Perform one effect before a program that performs fewer. -/
theorem Within.perform {e : E} {resume : R e → Coroutine E R ε α}
    {bound : Nat} (within : ∀ answer, (resume answer).Within bound) :
    (Coroutine.perform e resume).Within (bound + 1) :=
  ⟨Nat.succ_pos bound, within⟩

theorem Within.bind {program : Coroutine E R ε α}
    {next : α → Coroutine E R ε β} {first second : Nat}
    (within : program.Within first)
    (continues : ∀ value, (next value).Within second) :
    (program.bind next).Within (first + second) := by
  induction program generalizing first with
  | done value => exact (continues value).mono (Nat.le_add_left ..)
  | raise error => trivial
  | perform e resume ih =>
      obtain ⟨positive, rest⟩ := within
      refine ⟨Nat.add_pos_left positive second, ?_⟩
      intro answer
      exact (ih answer (rest answer)).mono (by omega)

theorem Within.tryExcept {program : Coroutine E R ε α}
    {handler : ε → Coroutine E R ε α} {first second : Nat}
    (within : program.Within first)
    (handles : ∀ error, (handler error).Within second) :
    (program.tryExcept handler).Within (first + second) := by
  induction program generalizing first with
  | done value => trivial
  | raise error => exact (handles error).mono (Nat.le_add_left ..)
  | perform e resume ih =>
      obtain ⟨positive, rest⟩ := within
      refine ⟨Nat.add_pos_left positive second, ?_⟩
      intro answer
      exact (ih answer (rest answer)).mono (by omega)

theorem Within.tryFinally {program : Coroutine E R ε α}
    {cleanup : Coroutine E R ε Unit} {first second : Nat}
    (within : program.Within first) (cleans : cleanup.Within second) :
    (program.tryFinally cleanup).Within (first + second) := by
  induction program generalizing first with
  | done value =>
      have cleaned := cleans.bind fun _ => within_done value 0
      exact cleaned.mono (Nat.le_add_left ..)
  | raise error =>
      have cleaned : (cleanup.bind fun _ =>
          (Coroutine.raise error : Coroutine E R ε α)).Within (second + 0) :=
        cleans.bind fun _ => within_raise error 0
      exact cleaned.mono (Nat.le_add_left ..)
  | perform e resume ih =>
      obtain ⟨positive, rest⟩ := within
      refine ⟨Nat.add_pos_left positive second, ?_⟩
      intro answer
      exact (ih answer (rest answer)).mono (by omega)

/-! ## Running against a handler -/

/-- Run to the end, every effect answered by a stateful handler. -/
def runWith (handler : σ → (e : E) → R e × σ) :
    Coroutine E R ε α → σ → Except ε α × σ
  | .done value, state => (.ok value, state)
  | .raise error, state => (.error error, state)
  | .perform e resume, state =>
      (resume (handler state e).1).runWith handler (handler state e).2

section RunWith

variable (handler : σ → (e : E) → R e × σ)

@[simp] theorem runWith_done (value : α) (state : σ) :
    (Coroutine.done value : Coroutine E R ε α).runWith handler state =
      (.ok value, state) := rfl

@[simp] theorem runWith_raise (error : ε) (state : σ) :
    (Coroutine.raise error : Coroutine E R ε α).runWith handler state =
      (.error error, state) := rfl

@[simp] theorem runWith_perform (e : E)
    (resume : R e → Coroutine E R ε α) (state : σ) :
    (Coroutine.perform e resume).runWith handler state =
      (resume (handler state e).1).runWith handler (handler state e).2 := rfl

theorem runWith_bind (program : Coroutine E R ε α)
    (next : α → Coroutine E R ε β) (state : σ) :
    (program.bind next).runWith handler state =
      match program.runWith handler state with
      | (.ok value, middle) => (next value).runWith handler middle
      | (.error error, middle) => (.error error, middle) := by
  induction program generalizing state with
  | done value => rfl
  | raise error => rfl
  | perform e resume ih => exact ih _ _

theorem runWith_tryExcept (program : Coroutine E R ε α)
    (recover : ε → Coroutine E R ε α) (state : σ) :
    (program.tryExcept recover).runWith handler state =
      match program.runWith handler state with
      | (.ok value, middle) => (.ok value, middle)
      | (.error error, middle) => (recover error).runWith handler middle := by
  induction program generalizing state with
  | done value => rfl
  | raise error => rfl
  | perform e resume ih => exact ih _ _

theorem runWith_tryFinally (program : Coroutine E R ε α)
    (cleanup : Coroutine E R ε Unit) (state : σ) :
    (program.tryFinally cleanup).runWith handler state =
      match program.runWith handler state with
      | (result, middle) =>
          match cleanup.runWith handler middle with
          | (.ok (), ended) => (result, ended)
          | (.error error, ended) => (.error error, ended) := by
  induction program generalizing state with
  | done value =>
      simp only [tryFinally, runWith_bind, runWith_done]
      rcases cleanup.runWith handler state with ⟨⟨⟩ | ⟨⟩, ended⟩ <;> rfl
  | raise error =>
      simp only [tryFinally, runWith_bind, runWith_raise]
      rcases cleanup.runWith handler state with ⟨⟨⟩ | ⟨⟩, ended⟩ <;> rfl
  | perform e resume ih => exact ih _ _

/-- What every answer keeps, a run keeps. -/
theorem runWith_preserves {holds : σ → Prop}
    (keeps : ∀ state e, holds state → holds (handler state e).2)
    (program : Coroutine E R ε α) (state : σ) (initially : holds state) :
    holds (program.runWith handler state).2 := by
  induction program generalizing state with
  | done value => exact initially
  | raise error => exact initially
  | perform e resume ih => exact ih _ _ (keeps state e initially)

/-- A handler that answers as the protocol allows ends a program where the
postcondition says, `related` linking the states of the two. -/
theorem Follows.runWith {τ : Type} {protocol : Protocol τ E R}
    {related : τ → σ → Prop}
    (simulates : ∀ ghost state e, related ghost state →
      protocol.allowed ghost e →
        ∃ next, protocol.answers ghost e (handler state e).1 next ∧
          related next (handler state e).2)
    {post : τ → Except ε α → Prop} {program : Coroutine E R ε α}
    {ghost : τ} {state : σ} (follows : program.Follows protocol post ghost)
    (initially : related ghost state) :
    ∃ ended, post ended (program.runWith handler state).1 ∧
      related ended (program.runWith handler state).2 := by
  induction program generalizing ghost state with
  | done value => exact ⟨ghost, follows, initially⟩
  | raise error => exact ⟨ghost, follows, initially⟩
  | perform e resume ih =>
      obtain ⟨allowed, continues⟩ := follows
      obtain ⟨next, answered, linked⟩ :=
        simulates ghost state e initially allowed
      exact ih _ (continues _ next answered) linked

theorem runWith_outcome (program : Coroutine E R ε α) (state : σ) :
    program.outcome.runWith handler state =
      ((.ok (program.runWith handler state).1 : Except ε (Except ε α)),
        (program.runWith handler state).2) := by
  induction program generalizing state with
  | done value => rfl
  | raise error => rfl
  | perform e resume ih => exact ih _ _

end RunWith

end Coroutine
