import Airfi.Coordinator.CacheInvariant

/-!
# Freshness of the published registers

Two consequences of the cache invariant.  A confirmation read reaches the
published data exactly when no poll has published since its write.  Whether
it does or not, the device times of the published values never go back.
-/

namespace Airfi

namespace CacheState

/-! ## Confirmations -/

/-- A confirmation read that completes in this step is not lost: whatever is
then published for its batch is at least as new as the read. -/
def ConfirmationPublished (state : CacheState) : CacheAction → Prop
  | .answer id =>
      ∀ batch captured next,
        state.tasks id = some (.confirms batch captured) →
        state.answer id = some next →
        ∀ address, batch.Covers address →
          ∃ value, next.published address = some value ∧
            next.device.now ≤ value.time
  | _ => True

/-- The dictionary that a completing confirmation captured at its write is
still the published one: no poll has published in between. -/
def CapturedPublished (state : CacheState) : CacheAction → Prop
  | .answer id =>
      ∀ batch captured,
        state.tasks id = some (.confirms batch captured) →
        captured = state.holding
  | _ => True

theorem answer_confirms {state : CacheState} {id : TaskId} {batch : Batch}
    {captured : DictRef}
    (found : state.tasks id = some (.confirms batch captured)) :
    state.answer id = some (state.answerConfirm id batch captured) := by
  rw [answer, found]

/-- The confirmation replaces the values of its batch where the captured
dictionary is the published one. -/
theorem answerConfirm_published {state : CacheState} {id : TaskId}
    {batch : Batch} {address : Nat} (covered : batch.Covers address) :
    (state.answerConfirm id batch state.holding).published address =
      some ((state.device.advance state.device.present).observe
        (holdingAt address)) := by
  have updated : (state.answerConfirm id batch state.holding).published =
      state.published.update (StampedMap.readBatch
        (state.device.advance state.device.present) .holding batch) :=
    Function.update_self ..
  rw [updated, StampedMap.update, StampedMap.readBatch_covered covered]
  rfl

theorem answerConfirm_elsewhere {state : CacheState} {id : TaskId}
    {batch : Batch} {captured : DictRef}
    (elsewhere : captured ≠ state.holding) :
    (state.answerConfirm id batch captured).published = state.published :=
  Function.update_of_ne elsewhere.symm ..

theorem holdingBatch_covers {batch : Batch}
    (member : batch ∈ holdingRegisterBatches) :
    batch.Covers batch.1 := by
  have nonempty : ∀ batch ∈ holdingRegisterBatches, 0 < batch.2 := by
    decide
  exact ⟨Nat.le_refl _, Nat.lt_add_of_pos_right (nonempty batch member)⟩

/-- One step: the condition is exact. -/
theorem CacheInvariant.confirmationPublished_iff {state : CacheState}
    (held : state.CacheInvariant) (action : CacheAction) :
    state.ConfirmationPublished action ↔
      state.CapturedPublished action := by
  cases action with
  | answer id =>
      constructor
      · intro fresh batch captured found
        by_contra elsewhere
        have member := (held.sound id _ found).2
        obtain ⟨value, published, new⟩ := fresh batch captured _ found
          (answer_confirms found) batch.1 (holdingBatch_covers member)
        rw [answerConfirm_elsewhere elsewhere] at published
        -- The published value was there before the confirmation read.
        have old := (held.recorded _ _ value published).1
        exact Nat.not_succ_le_self _ (Nat.le_trans new old)
      · intro same batch captured next found answered address covered
        rw [answer_confirms found, same batch captured found,
          Option.some.injEq] at answered
        rw [← answered]
        exact ⟨_, answerConfirm_published covered, Nat.le_refl _⟩
  | _ => exact ⟨fun _ => trivial, fun _ => trivial⟩

/-- Confirmations are never lost in a run exactly when each of them completes
into the dictionary that is published then. -/
theorem confirmations_published_iff (first : FirstRefresh)
    (actions : List CacheAction) :
    (cacheMachine first).Meets ConfirmationPublished actions ↔
      (cacheMachine first).Meets CapturedPublished actions :=
  Machine.meets_congr
    (fun reached =>
      (cacheInvariant_of_reachable reached).confirmationPublished_iff _)
    actions

/-- A device whose registers were all zero at the first refresh. -/
def zeroRefresh : FirstRefresh where
  device := { now := 0, states := fun _ => ⟨fun _ => 0, fun _ => 0⟩ }
  input := .empty
  holding := fun address =>
    if 1 ≤ address ∧ address < 69 then some { value := 0, time := 0 }
    else none
  extension := none
  recorded := by
    intro address observation found
    split at found
    · obtain rfl := Option.some.inj found
      exact ⟨Nat.le_refl _, rfl⟩
    · cases found
  complete := by
    intro batch member address covered
    have inside : ∀ batch ∈ holdingRegisterBatches,
        1 ≤ batch.1 ∧ batch.1 + batch.2 ≤ 69 := by decide
    obtain ⟨low, high⟩ := inside batch member
    exact ⟨_, if_pos ⟨Nat.le_trans low covered.1,
      Nat.lt_of_lt_of_le covered.2 high⟩⟩

/-- A poll waits while register 12 is written, so it gets the lock before
the confirmation. -/
def pollBeforeConfirmation : List CacheAction :=
  [.write 12 5, .acquire 0, .poll, .answer 0, .acquire 1,
    .answer 1, .answer 1, .answer 1, .answer 1, .answer 1, .answer 1,
    .answer 1, .deviceChanges ⟨fun _ => 0, fun _ => 7⟩, .acquire 0]

theorem confirmation_lost :
    ¬ (cacheMachine zeroRefresh).Meets ConfirmationPublished
      (pollBeforeConfirmation ++ [.answer 0]) := by
  intro meets
  have reaches : ((cacheMachine zeroRefresh).run
        pollBeforeConfirmation).map
      (fun state => (state.tasks 0, state.holding)) =
      some (some (.confirms (1, 20) 0), 1) := rfl
  obtain ⟨state, ran, facts⟩ := Option.map_eq_some_iff.mp reaches
  obtain ⟨found, published⟩ := Prod.mk.inj facts
  have held := cacheInvariant_of_reachable ⟨_, ran⟩
  have fresh := meets pollBeforeConfirmation (.answer 0)
    (List.prefix_refl _) state ran
  have captured : 0 = state.holding :=
    (held.confirmationPublished_iff _).mp fresh (1, 20) 0 found
  rw [published] at captured
  cases captured

/-! ## Published values only get newer -/

/-- Nothing that is published at the address, or about to be published by a
poll, is older than this time. -/
structure NoOlder (address time : Nat) (state : CacheState) : Prop where
  past : time ≤ state.device.now
  published : ∀ value, state.published address = some value →
    time ≤ value.time
  read : ∀ id remaining data,
    state.tasks id = some (.pollReads remaining data) →
    ∀ value, data.holding address = some value → time ≤ value.time

theorem CacheInvariant.noOlder {state : CacheState} {address : Nat}
    {value : Stamped Nat} (held : state.CacheInvariant)
    (published : state.published address = some value) :
    state.NoOlder address value.time where
  past := (held.recorded _ address value published).1
  published := by
    intro other same
    rw [published] at same
    rw [Option.some.inj same]
  read := by
    intro id remaining data found other read
    obtain ⟨-, -, newer, -⟩ := held.sound id _ found
    exact Nat.le_of_lt (newer address other read _ address value published)

section NoOlder

variable {address time : Nat} {state next : CacheState} {id : TaskId}

theorem NoOlder.goOn {task : CacheTask} (held : state.NoOlder address time)
    (read : ∀ remaining data, task = .pollReads remaining data →
      ∀ value, data.holding address = some value → time ≤ value.time) :
    (state.goOn id task).NoOlder address time where
  past := held.past
  published := held.published
  read := by
    intro other remaining data found
    by_cases same : other = id
    · rw [same] at found
      exact read remaining data (goOn_own found).symm
    · rw [goOn_others task other same] at found
      exact held.read other remaining data found

theorem NoOlder.stop (held : state.NoOlder address time) :
    (state.stop id).NoOlder address time where
  past := held.past
  published := held.published
  read := by
    intro other remaining data found
    by_cases same : other = id
    · rw [same] at found
      exact absurd found stop_own
    · rw [stop_others other same] at found
      exact held.read other remaining data found

theorem NoOlder.release (held : state.NoOlder address time) :
    state.release.NoOlder address time :=
  ⟨held.past, held.published, held.read⟩

theorem NoOlder.lock (held : state.NoOlder address time) :
    ({ state with lockedBy := some id }).NoOlder address time :=
  ⟨held.past, held.published, held.read⟩

theorem NoOlder.spawn {task : CacheTask}
    (held : state.NoOlder address time)
    (waits : ¬ task.Holds) : (state.spawn task).NoOlder address time where
  past := held.past
  published := held.published
  read := by
    intro other remaining data found
    by_cases new : other = state.nextTask
    · simp only [CacheState.spawn, new, Function.update_self,
        Option.some.injEq] at found
      rw [found] at waits
      exact absurd trivial waits
    · simp only [CacheState.spawn, Function.update_of_ne new] at found
      exact held.read other remaining data found

theorem NoOlder.happens (device : Device)
    (held : state.NoOlder address time) :
    (state.happens device).NoOlder address time :=
  ⟨Nat.le_succ_of_le held.past, held.published, held.read⟩

theorem NoOlder.publish {data : PollData}
    (held : state.NoOlder address time)
    (read : ∀ value, data.holding address = some value →
      time ≤ value.time) : (state.publish data).NoOlder address time where
  past := held.past
  published := by
    intro value found
    simp only [CacheState.published, CacheState.publish,
      Function.update_self] at found
    exact read value found
  read := held.read

theorem NoOlder.setDict {ref : DictRef} {dict : StampedMap}
    (held : state.NoOlder address time)
    (new : ref = state.holding → ∀ value, dict address = some value →
      time ≤ value.time) :
    (state.setDict ref dict).NoOlder address time where
  past := held.past
  published := by
    intro value found
    simp only [CacheState.published, CacheState.setDict] at found
    by_cases same : ref = state.holding
    · rw [same, Function.update_self] at found
      exact new same value found
    · rw [Function.update_of_ne (Ne.symm same)] at found
      exact held.published value found
  read := held.read

/-- A batch read now is no older than anything. -/
theorem NoOlder.update (held : state.NoOlder address time)
    {dict : StampedMap} {batch : Batch} {table : RegisterTable}
    (kept : ∀ value, dict address = some value → time ≤ value.time)
    {value : Stamped Nat}
    (found : dict.update (StampedMap.readBatch state.device table batch)
      address = some value) : time ≤ value.time := by
  rcases StampedMap.update_some found with read | ⟨-, old⟩
  · rw [StampedMap.readBatch_some read]
    exact held.past
  · exact kept value old

theorem NoOlder.answerPoll {table : RegisterTable} {batch : Batch}
    {rest : List (RegisterTable × Batch)} {data : PollData}
    (held : state.NoOlder address time)
    (found : state.tasks id =
      some (.pollReads ((table, batch) :: rest) data)) :
    (state.answerPoll id table batch rest data).NoOlder address time := by
  have after := held.happens state.device.present
  have read : ∀ value,
      (data.update (StampedMap.readBatch
        (state.device.advance state.device.present) table batch)
          table).holding address = some value → time ≤ value.time := by
    intro value stored
    have kept := held.read id _ data found
    cases table with
    | input => exact kept value stored
    | holding => exact after.update kept stored
  cases rest with
  | nil => exact (after.publish read).release.stop
  | cons request others =>
      apply after.goOn
      intro remaining other same value stored
      obtain ⟨-, rfl⟩ := CacheTask.pollReads.inj same
      exact read value stored

theorem NoOlder.answerWrite {register value : Nat}
    (held : state.NoOlder address time) :
    (state.answerWrite id register value).NoOlder address time := by
  have after := held.happens (state.device.present.write register value)
  have optimistic : ((state.happens
      (state.device.present.write register value)).setDict state.holding
        ((state.happens
          (state.device.present.write register value)).published.set
            register
            { value
              time := state.device.now + 1 })).NoOlder address time := by
    apply after.setDict
    intro _ stored found
    by_cases same : address = register
    · rw [same, StampedMap.set_self] at found
      rw [← Option.some.inj found]
      exact after.past
    · rw [StampedMap.set_of_ne _ _ same] at found
      exact after.published stored found
  rw [CacheState.answerWrite]
  cases confirmedBatch register with
  | none => exact optimistic.release.stop
  | some batch =>
      apply optimistic.release.goOn
      intro remaining data same
      cases same

theorem NoOlder.answerConfirm {batch : Batch} {captured : DictRef}
    (held : state.NoOlder address time) :
    (state.answerConfirm id batch captured).NoOlder address time := by
  have after := held.happens state.device.present
  apply NoOlder.stop
  apply NoOlder.release
  apply after.setDict
  intro same value found
  apply after.update ?_ found
  rw [same]
  exact after.published

theorem NoOlder.step {extension : Option Batch} {action : CacheAction}
    (held : state.NoOlder address time)
    (stepped : state.step extension action = some next) :
    next.NoOlder address time := by
  cases action with
  | poll =>
      cases stepped
      exact held.spawn id
  | write register value =>
      cases stepped
      exact held.spawn id
  | deviceChanges device =>
      cases stepped
      exact held.happens device
  | acquire id =>
      obtain ⟨-, waiting, task, found, starts, rfl⟩ :=
        acquire_cases stepped
      apply held.lock.goOn
      intro remaining data same
      cases starts with
      | poll =>
          obtain ⟨-, rfl⟩ := CacheTask.pollReads.inj same
          intro value read
          cases read
      | write register value => cases same
      | confirm batch captured => cases same
  | answer id =>
      rcases answer_cases stepped with
        ⟨table, batch, rest, data, found, rfl⟩ |
        ⟨register, value, found, rfl⟩ | ⟨batch, captured, found, rfl⟩
      · exact held.answerPoll found
      · exact held.answerWrite
      · exact held.answerConfirm
  | fail id =>
      obtain ⟨task, found, ⟨-, rfl⟩ | ⟨-, rfl⟩⟩ := fail_cases stepped
      · exact held.release.stop
      · exact held.stop

end NoOlder

theorem NoOlder.later {first : FirstRefresh} {address time : Nat}
    {state later : CacheState} {actions : List CacheAction}
    (held : state.NoOlder address time)
    (continued :
      (cacheMachine first).runFrom state actions = some later) :
    later.NoOlder address time :=
  Machine.invariant_of_runFrom (NoOlder address time)
    (fun held stepped => held.step stepped) continued held

/-- The published registers are those that they were before. -/
def SameData (state next : CacheState) : Prop :=
  next.input = state.input ∧ next.holding = state.holding ∧
    next.published = state.published

/-- What the published holding values owe to the device, from this state on. -/
structure NeverGoesBack (first : FirstRefresh) (state : CacheState) :
    Prop where
  /-- Each published value was current at its device time. -/
  current : ∀ address value, state.published address = some value →
    state.device.Records (holdingAt address) value
  complete : ∀ batch ∈ holdingRegisterBatches, ∀ address,
    batch.Covers address → ∃ value, state.published address = some value
  forward : ∀ actions later,
    (cacheMachine first).runFrom state actions = some later →
    ∀ address value other, state.published address = some value →
      later.published address = some other → value.time ≤ other.time
  /-- A write that succeeds now is never published over by older values. -/
  written : ∀ id address value next,
    state.tasks id = some (.writes address value) →
    state.answer id = some next →
    next.device.present.holding address = value ∧
      ∀ actions later,
        (cacheMachine first).runFrom next actions = some later →
        ∀ other, later.published address = some other →
          next.device.now ≤ other.time
  failed : ∀ id next, state.fail id = some next → SameData state next
  /-- A poll publishes nothing before its last answer. -/
  reading : ∀ id request following rest data next,
    state.tasks id = some (.pollReads (request :: following :: rest) data) →
    state.answer id = some next → SameData state next

theorem answerWrite_published {state : CacheState} {id : TaskId}
    {address value : Nat} :
    (state.answerWrite id address value).published address =
      some { value, time := state.device.now + 1 } := by
  have optimistic : (state.answerWrite id address value).published =
      state.published.set address
        { value, time := state.device.now + 1 } := by
    rw [answerWrite]
    cases confirmedBatch address with
    | none => exact Function.update_self ..
    | some batch => exact Function.update_self ..
  rw [optimistic, StampedMap.set_self]

theorem answerWrite_device {state : CacheState} {id : TaskId}
    {address value : Nat} :
    (state.answerWrite id address value).device =
      state.device.advance (state.device.present.write address value) := by
  rw [answerWrite]
  cases confirmedBatch address with
  | none => rfl
  | some batch => rfl

/-- Published holding values never go back in time. -/
theorem published_never_goes_back (first : FirstRefresh)
    {actions : List CacheAction} {state : CacheState}
    (ran : (cacheMachine first).run actions = some state) :
    NeverGoesBack first state := by
  have held := cacheInvariant_of_reachable ⟨actions, ran⟩
  constructor
  case current => exact held.recorded _
  case complete => exact held.complete.publish
  case forward =>
    intro following later continued address value other published found
    exact ((held.noOlder published).later continued).published other found
  case written =>
    intro id address value next found answered
    obtain rfl : state.answerWrite id address value = next := by
      rw [answer, found] at answered
      exact Option.some.inj answered
    rw [answerWrite_device]
    refine ⟨?_, ?_⟩
    · rw [Timeline.advance_present, Device.write]
      exact if_pos rfl
    · intro following later continued other published
      have now := (held.answerWrite found).noOlder answerWrite_published
      exact (now.later continued).published other published
  case failed =>
    intro id next stepped
    obtain ⟨task, found, ⟨-, rfl⟩ | ⟨-, rfl⟩⟩ := fail_cases stepped
    · exact ⟨rfl, rfl, rfl⟩
    · exact ⟨rfl, rfl, rfl⟩
  case reading =>
    intro id request following rest data next found answered
    obtain ⟨table, batch⟩ := request
    rw [answer, found] at answered
    obtain rfl := Option.some.inj answered
    exact ⟨rfl, rfl, rfl⟩

theorem published_never_goes_back_across_poll :
    ∃ state, (cacheMachine zeroRefresh).run pollBeforeConfirmation =
        some state ∧ NeverGoesBack zeroRefresh state := by
  have finishes : ((cacheMachine zeroRefresh).run
      pollBeforeConfirmation).isSome := rfl
  obtain ⟨state, ran⟩ := Option.isSome_iff_exists.mp finishes
  exact ⟨state, ran, published_never_goes_back zeroRefresh ran⟩

end CacheState

end Airfi
