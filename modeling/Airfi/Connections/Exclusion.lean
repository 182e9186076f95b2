import Airfi.Connections.Consistency

/-!
# One connection at a time

A job that has a connection open has the lock of its client.  So no two
clients are connected at once in a run that takes the lock of a client only
while the locks of the other clients are free, which nothing in the code sees
to.
-/

namespace Airfi

namespace EntryClients

/-- At most one client has an open connection. -/
def AtMostOneOpen (state : EntryClients) : Prop :=
  ∀ first second, (state.lines first).openFor ≠ none →
    (state.lines second).openFor ≠ none → first = second

/-- At most one client is locked. -/
def LocksApart (state : EntryClients) : Prop :=
  ∀ first second, (state.lines first).lockedBy ≠ none →
    (state.lines second).lockedBy ≠ none → first = second

/-- No other client is locked. -/
def OthersFree (state : EntryClients) (client : ClientId) : Prop :=
  ∀ other ∈ List.range state.nextClient, other ≠ client →
    (state.lines other).lockedBy = none

instance (state : EntryClients) (client : ClientId) :
    Decidable (state.OthersFree client) :=
  inferInstanceAs (Decidable (∀ other ∈ List.range state.nextClient, _))

/-- A job is given the lock of its client only when no other client is
locked. -/
def TakesAlone (state : EntryClients) : EntryAction → Prop
  | .answer id (.lock .acquired) =>
      ∀ job ∈ state.jobs id, state.OthersFree job.client
  | _ => True

instance (state : EntryClients) :
    ∀ action, Decidable (state.TakesAlone action)
  | .answer id (.lock .acquired) =>
      inferInstanceAs (Decidable (∀ job ∈ state.jobs id, _))
  | .answer _ (.lock .cancelled) => isTrue trivial
  | .answer _ (.connect _) => isTrue trivial
  | .answer _ (.response _) => isTrue trivial
  | .answer _ .proceed => isTrue trivial
  | .setup => isTrue trivial
  | .construct _ => isTrue trivial
  | .platformsSetUp _ => isTrue trivial
  | .unload => isTrue trivial
  | .unloaded _ => isTrue trivial
  | .poll => isTrue trivial
  | .write _ _ => isTrue trivial
  | .probe _ => isTrue trivial

theorem Consistent.known_of_lockedBy {state : EntryClients}
    (consistent : state.Consistent) {client : ClientId}
    (locked : (state.lines client).lockedBy ≠ none) :
    client < state.nextClient := by
  obtain ⟨id, holder⟩ := Option.ne_none_iff_exists'.mp locked
  obtain ⟨job, found, isClient⟩ := consistent.holder client id holder
  rw [← isClient]
  exact consistent.known id job found

theorem Consistent.atMostOneOpen {state : EntryClients}
    (consistent : state.Consistent) (apart : state.LocksApart) :
    state.AtMostOneOpen := by
  have locked : ∀ client, (state.lines client).openFor ≠ none →
      (state.lines client).lockedBy ≠ none := by
    intro client isOpen
    obtain ⟨id, openFor⟩ := Option.ne_none_iff_exists'.mp isOpen
    rw [consistent.openLocked client id openFor]
    exact Option.some_ne_none id
  intro first second firstOpen secondOpen
  exact apart first second (locked first firstOpen)
    (locked second secondOpen)

section Performs

variable {state next : EntryClients} {id : JobId} {answer : LineAnswer}
  {client : ClientId} {program : ClientProgram JobEnd} {phase : Phase}
  {line : Line} (consistent : state.Consistent)
  (performs : Performs state next id answer client program phase line)

include performs

/-- A client that is locked after an effect was so before it, or the effect
has just locked it. -/
theorem Performs.lockedBy {other : ClientId}
    (locked : (next.lines other).lockedBy ≠ none) :
    (state.lines other).lockedBy ≠ none ∨
      other = client ∧ answer = .lock .acquired := by
  by_cases here : other = client
  · rw [here, performs.line_self] at locked
    rw [here]
    rcases performs.answered.lockedBy with
      kept | ⟨-, -, isAcquired⟩ | ⟨-, freed⟩
    · exact .inl (kept ▸ locked)
    · exact .inr ⟨rfl, isAcquired⟩
    · exact absurd freed locked
  · rw [performs.line_other here] at locked
    exact .inl locked

/-- A lock that is taken beside another one. -/
theorem Performs.not_apart
    (beside : ¬ state.TakesAlone (.answer id answer)) :
    ¬ next.LocksApart := by
  intro apart
  apply beside
  cases answer with
  | lock reply =>
      cases reply with
      | cancelled => trivial
      | acquired =>
          intro job found other _ different
          obtain ⟨performer, there, isClient⟩ := performs.found
          rw [Option.mem_def, there] at found
          rw [← Option.some.inj found, isClient] at different
          by_contra locked
          have stillLocked : (next.lines other).lockedBy ≠ none := by
            rw [performs.line_other different]
            exact locked
          have taken : (next.lines client).lockedBy ≠ none := by
            rw [performs.line_self, performs.acquired rfl]
            exact Option.some_ne_none id
          exact different (apart other client stillLocked taken)
  | _ => trivial

include consistent

theorem LocksApart.performed (apart : state.LocksApart)
    (alone : state.TakesAlone (.answer id answer)) : next.LocksApart := by
  -- A client that was locked before the effect is the one that it locks.
  have joins : ∀ other, (state.lines other).lockedBy ≠ none →
      answer = .lock .acquired → other = client := by
    intro other locked isAcquired
    rw [isAcquired] at alone
    obtain ⟨job, found, isClient⟩ := performs.found
    have free := alone job found other
      (List.mem_range.mpr (consistent.known_of_lockedBy locked))
    by_contra different
    rw [isClient] at free
    exact locked (free different)
  intro first second firstLocked secondLocked
  rcases performs.lockedBy firstLocked with before | ⟨rfl, isAcquired⟩
  · rcases performs.lockedBy secondLocked with alsoBefore | ⟨rfl, isAcquired⟩
    · exact apart first second before alsoBefore
    · exact joins first before isAcquired
  · rcases performs.lockedBy secondLocked with before | ⟨rfl, -⟩
    · exact (joins second before isAcquired).symm
    · rfl

end Performs

theorem LocksApart.congr {state next : EntryClients}
    (apart : state.LocksApart) (same : next.lines = state.lines) :
    next.LocksApart := by
  rw [LocksApart, same]
  exact apart

theorem LocksApart.step {host : String} {port : Nat}
    {state next : EntryClients} {action : EntryAction}
    (apart : state.LocksApart) (consistent : state.Consistent)
    (alone : state.TakesAlone action)
    (step : state.step host port action = some next) : next.LocksApart := by
  cases stepped_of_step step with
  | moved moves => exact apart.congr moves.lines
  | started starts => exact apart.congr starts.lines
  | answered answers =>
      obtain ⟨client, program, phase, line, performs⟩ :=
        consistent.performs answers
      exact apart.performed consistent performs alone

theorem Consistent.not_apart_step {host : String} {port : Nat}
    {state next : EntryClients} {action : EntryAction}
    (consistent : state.Consistent) (beside : ¬ state.TakesAlone action)
    (step : state.step host port action = some next) :
    ¬ next.LocksApart := by
  cases action with
  | answer id answer =>
      obtain ⟨client, program, phase, line, performs⟩ :=
        consistent.performs step
      exact performs.not_apart beside
  | _ => exact absurd trivial beside

end EntryClients

theorem consistent_of_reachable {host : String} {port : Nat}
    {state : EntryClients}
    (reached : (entryMachine host port).Reachable state) :
    state.Consistent :=
  reached.invariant EntryClients.Consistent EntryClients.consistent_initial
    fun consistent step => consistent.step step

namespace EntryClients

/-- The condition is exact for the locks. -/
theorem locksApart_throughout_iff {host : String} {port : Nat}
    {actions : List EntryAction} {final : EntryClients}
    (ran : (entryMachine host port).run actions = some final) :
    (entryMachine host port).Throughout LocksApart actions ↔
      (entryMachine host port).Meets TakesAlone actions :=
  Machine.throughout_iff_meets
    (fun reached => consistent_of_reachable reached)
    (fun _ _ locked => absurd rfl locked)
    (fun consistent apart alone step => apart.step consistent alone step)
    (fun consistent _ beside step => consistent.not_apart_step beside step)
    ran

/-- The clients of an entry are never connected at once in a run that takes
each lock while the others are free. -/
theorem atMostOneOpen_throughout {host : String} {port : Nat}
    {actions : List EntryAction}
    (meets : (entryMachine host port).Meets TakesAlone actions) :
    (entryMachine host port).Throughout AtMostOneOpen actions := by
  intro before isPrefix state ran
  have apart : state.LocksApart :=
    (locksApart_throughout_iff ran).mpr (meets.of_prefix isPrefix) before
      (List.prefix_refl _) state ran
  exact (consistent_of_reachable ⟨before, ran⟩).atMostOneOpen apart

/-- The first refresh fails, the entry is probed while it waits for its next
setup, and that setup refreshes after the probe. -/
def probeBetweenSetups : List EntryAction :=
  [.setup, .construct 1, .answer 0 (.lock .acquired),
    .answer 0 (.connect (.returned false)), .answer 0 .proceed,
    .answer 0 .proceed, .probe 5, .answer 1 (.lock .acquired),
    .answer 1 (.connect (.returned true)),
    .answer 1 (.response (.registers [3])), .answer 1 .proceed,
    .answer 1 .proceed, .setup, .construct 5,
    .answer 2 (.lock .acquired), .answer 2 (.connect (.returned true))]

theorem atMostOneOpen_throughout_probe_between_setups :
    (entryMachine "10.0.0.5" 502).Throughout AtMostOneOpen
      probeBetweenSetups :=
  atMostOneOpen_throughout (Machine.meets_of_meetsFrom _ (by decide))

/-- A probe connects while the first refresh is connected. -/
def probeDuringSetup : List EntryAction :=
  [.setup, .construct 1, .answer 0 (.lock .acquired),
    .answer 0 (.connect (.returned true)), .probe 5,
    .answer 1 (.lock .acquired), .answer 1 (.connect (.returned true))]

theorem two_open_in_setup :
    ∃ state, (entryMachine "10.0.0.5" 502).run probeDuringSetup = some state ∧
      ¬ state.AtMostOneOpen := by
  have finishes :
      ((entryMachine "10.0.0.5" 502).run probeDuringSetup).isSome := rfl
  obtain ⟨state, ran⟩ := Option.isSome_iff_exists.mp finishes
  have lines : ((entryMachine "10.0.0.5" 502).run probeDuringSetup).map
      (fun final => ((final.lines 0).openFor, (final.lines 1).openFor)) =
      some (some 0, some 1) := rfl
  rw [ran] at lines
  obtain ⟨zeroOpen, oneOpen⟩ := Prod.mk.inj (Option.some.inj lines)
  refine ⟨state, ran, ?_⟩
  intro atMostOne
  have same : 0 = 1 := by
    apply atMostOne
    · rw [zeroOpen]
      exact Option.some_ne_none 0
    · rw [oneOpen]
      exact Option.some_ne_none 1
  cases same

end EntryClients

end Airfi
