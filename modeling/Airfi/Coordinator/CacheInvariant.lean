import Airfi.Coordinator.Cache

/-!
# The invariant of the published registers

The lock orders the reads, and each of them is published in the step that
frees the lock.  While a poll reads, nothing is published, so what it has
read is newer than every dictionary.
-/

namespace Airfi

namespace StampedMap

@[simp] theorem set_self (map : StampedMap) (address : Nat)
    (value : Stamped Nat) : map.set address value address = some value :=
  Function.update_self ..

theorem set_of_ne (map : StampedMap) {address other : Nat}
    (value : Stamped Nat) (different : other ≠ address) :
    map.set address value other = map other :=
  Function.update_of_ne different ..

theorem update_some {self other : StampedMap} {address : Nat}
    {value : Stamped Nat} (updated : self.update other address = some value) :
    other address = some value ∨
      other address = none ∧ self address = some value := by
  rw [update] at updated
  cases added : other address with
  | none =>
      rw [added, Option.none_or] at updated
      exact .inr ⟨rfl, updated⟩
  | some new =>
      rw [added, Option.some_or] at updated
      exact .inl updated

theorem update_isSome {self other : StampedMap} {address : Nat}
    {value : Stamped Nat}
    (present : other address = some value ∨ self address = some value) :
    ∃ updated, self.update other address = some updated := by
  rw [update]
  cases added : other address with
  | none =>
      rw [added] at present
      rcases present with here | there
      · cases here
      · exact ⟨value, by rw [Option.none_or, there]⟩
  | some new => exact ⟨new, Option.some_or⟩

theorem readBatch_some {device : Timeline Device} {table : RegisterTable}
    {batch : Batch} {address : Nat} {value : Stamped Nat}
    (read : readBatch device table batch address = some value) :
    value = device.observe fun registers =>
      registers.table table address := by
  rw [readBatch] at read
  split at read
  · exact (Option.some.inj read).symm
  · cases read

theorem readBatch_covered {device : Timeline Device}
    {table : RegisterTable} {batch : Batch} {address : Nat}
    (covered : batch.Covers address) :
    readBatch device table batch address =
      some (device.observe fun registers =>
        registers.table table address) :=
  if_pos covered

end StampedMap

/-- The holding registers of the device at one address. -/
def holdingAt (address : Nat) : Device → Nat :=
  fun device => device.holding address

namespace CacheState

/-- Every value was current at its stamp. -/
def Recorded (device : Timeline Device) (dict : StampedMap) : Prop :=
  ∀ address value, dict address = some value →
    device.Records (holdingAt address) value

/-- Every value is newer than every value of every dictionary. -/
def Newer (heap : DictRef → StampedMap) (dict : StampedMap) : Prop :=
  ∀ address value, dict address = some value →
    ∀ ref other old, heap ref other = some old → old.time < value.time

/-- The registers that `read_all` has still to read complete the dictionary. -/
def Completes (remaining : List (RegisterTable × Batch))
    (dict : StampedMap) : Prop :=
  ∀ batch ∈ holdingRegisterBatches, ∀ address, batch.Covers address →
    (∃ value, dict address = some value) ∨
      (RegisterTable.holding, batch) ∈ remaining

/-- What holds of a task between two steps. -/
def TaskSound (state : CacheState) (id : TaskId) : CacheTask → Prop
  | .pollReads remaining data =>
      state.lockedBy = some id ∧ Recorded state.device data.holding ∧
        Newer state.heap data.holding ∧ Completes remaining data.holding
  | .writes _ _ => state.lockedBy = some id
  | .confirms batch _ =>
      state.lockedBy = some id ∧ batch ∈ holdingRegisterBatches
  | .confirmWaits batch _ => batch ∈ holdingRegisterBatches
  | .pollWaits | .writeWaits _ _ => True

structure CacheInvariant (state : CacheState) : Prop where
  sound : ∀ id task, state.tasks id = some task → state.TaskSound id task
  recorded : ∀ ref, Recorded state.device (state.heap ref)
  complete : Completes [] state.published

theorem TaskSound.holder {state : CacheState} {id : TaskId}
    {task : CacheTask} (sound : state.TaskSound id task)
    (holds : task.Holds) : state.lockedBy = some id := by
  cases task with
  | pollReads remaining data => exact sound.1
  | writes address value => exact sound
  | confirms batch captured => exact sound.1
  | _ => exact holds.elim

/-- A task that waits for the lock does not depend on the state. -/
theorem TaskSound.of_waiting {state next : CacheState} {id : TaskId}
    {task : CacheTask} (waits : ¬ task.Holds)
    (sound : state.TaskSound id task) : next.TaskSound id task := by
  cases task with
  | pollReads remaining data => exact absurd trivial waits
  | writes address value => exact absurd trivial waits
  | confirms batch captured => exact absurd trivial waits
  | _ => exact sound

theorem Recorded.advance {device : Timeline Device} {dict : StampedMap}
    (recorded : Recorded device dict) (next : Device) :
    Recorded (device.advance next) dict :=
  fun address value found => (recorded address value found).advance next

theorem TaskSound.happens {state : CacheState} {id : TaskId}
    {task : CacheTask} (sound : state.TaskSound id task)
    (device : Device) : (state.happens device).TaskSound id task := by
  cases task with
  | pollReads remaining data =>
      exact ⟨sound.1, sound.2.1.advance device, sound.2.2⟩
  | _ => exact sound

/-- While one task holds the lock, the others wait. -/
theorem CacheInvariant.waits {state : CacheState} {id other : TaskId}
    {task : CacheTask} (held : state.CacheInvariant)
    (locked : state.lockedBy = some id) (different : other ≠ id)
    (found : state.tasks other = some task) : ¬ task.Holds := by
  intro holds
  have holder := (held.sound other task found).holder holds
  rw [locked] at holder
  exact different (Option.some.inj holder).symm

theorem CacheInvariant.free_waits {state : CacheState} {other : TaskId}
    {task : CacheTask} (held : state.CacheInvariant)
    (unlocked : state.lockedBy = none)
    (found : state.tasks other = some task) : ¬ task.Holds := by
  intro holds
  have holder := (held.sound other task found).holder holds
  rw [unlocked] at holder
  cases holder

/-- The step of one task, all others waiting for the lock. -/
theorem CacheInvariant.after {state next : CacheState} {id : TaskId}
    (held : state.CacheInvariant)
    (waiting : ∀ other task, other ≠ id →
      state.tasks other = some task → ¬ task.Holds)
    (others : ∀ other, other ≠ id →
      next.tasks other = state.tasks other)
    (own : ∀ task, next.tasks id = some task → next.TaskSound id task)
    (recorded : ∀ ref, Recorded next.device (next.heap ref))
    (complete : Completes [] next.published) : next.CacheInvariant where
  sound := by
    intro other task found
    by_cases same : other = id
    · rw [same] at found ⊢
      exact own task found
    · rw [others other same] at found
      exact (held.sound other task found).of_waiting
        (waiting other task same found)
  recorded := recorded
  complete := complete

/-! ## What is read and what is published -/

theorem Completes.publish {dict : StampedMap}
    (completes : Completes [] dict) : ∀ batch ∈ holdingRegisterBatches,
      ∀ address, batch.Covers address → ∃ value, dict address = some value := by
  intro batch member address covered
  rcases completes batch member address covered with found | pending
  · exact found
  · cases pending

theorem Completes.mono {remaining : List (RegisterTable × Batch)}
    {dict wider : StampedMap} (completes : Completes remaining dict)
    (kept : ∀ address value, dict address = some value →
      ∃ other, wider address = some other) : Completes remaining wider := by
  intro batch member address covered
  rcases completes batch member address covered with ⟨value, found⟩ | later
  · exact .inl (kept address value found)
  · exact .inr later

/-- Reading the first of the remaining batches. -/
theorem Completes.read {device : Timeline Device} {table : RegisterTable}
    {batch : Batch} {rest : List (RegisterTable × Batch)}
    {data : PollData}
    (completes : Completes ((table, batch) :: rest) data.holding) :
    Completes rest
      (data.update (StampedMap.readBatch device table batch)
        table).holding := by
  intro other member address covered
  have kept : ∀ value, data.holding address = some value →
      ∃ new, (data.update (StampedMap.readBatch device table batch)
        table).holding address = some new := by
    intro value found
    cases table with
    | input => exact ⟨value, found⟩
    | holding => exact StampedMap.update_isSome (.inr found)
  rcases completes other member address covered with ⟨value, found⟩ | later
  · exact .inl (kept value found)
  · rcases List.mem_cons.mp later with here | later
    · obtain ⟨rfl, rfl⟩ := Prod.mk.inj here
      exact .inl (StampedMap.update_isSome
        (.inl (StampedMap.readBatch_covered covered)))
    · exact .inr later

theorem Recorded.read {device : Timeline Device} {table : RegisterTable}
    {batch : Batch} {data : PollData}
    (recorded : Recorded device data.holding) :
    Recorded device (data.update
      (StampedMap.readBatch device table batch) table).holding := by
  cases table with
  | input => exact recorded
  | holding =>
      intro address value found
      rcases StampedMap.update_some found with read | ⟨-, kept⟩
      · rw [StampedMap.readBatch_some read]
        exact device.records_observe _
      · exact recorded address value kept

/-- A value read now is newer than all that was recorded before. -/
theorem Newer.read {state : CacheState} {table : RegisterTable}
    {batch : Batch} {data : PollData} {device : Device}
    (recorded : ∀ ref, Recorded state.device (state.heap ref))
    (newer : Newer state.heap data.holding) :
    Newer state.heap (data.update (StampedMap.readBatch
      (state.device.advance device) table batch) table).holding := by
  cases table with
  | input => exact newer
  | holding =>
      intro address value found
      rcases StampedMap.update_some found with read | ⟨-, kept⟩
      · intro ref other old member
        rw [StampedMap.readBatch_some read]
        exact Nat.lt_succ_of_le (recorded ref other old member).1
      · exact newer address value kept

theorem Recorded.set {device : Timeline Device} {dict : StampedMap}
    {address : Nat} {value : Stamped Nat} (recorded : Recorded device dict)
    (new : device.Records (holdingAt address) value) :
    Recorded device (dict.set address value) := by
  intro other stored found
  by_cases same : other = address
  · rw [same, StampedMap.set_self] at found
    rw [← Option.some.inj found, same]
    exact new
  · rw [StampedMap.set_of_ne _ _ same] at found
    exact recorded other stored found

theorem Recorded.confirm {device : Timeline Device} {dict : StampedMap}
    {batch : Batch} (recorded : Recorded device dict) :
    Recorded device
      (dict.update (StampedMap.readBatch device .holding batch)) := by
  intro address value found
  rcases StampedMap.update_some found with read | ⟨-, kept⟩
  · rw [StampedMap.readBatch_some read]
    exact device.records_observe _
  · exact recorded address value kept

/-- Updating one dictionary of the heap. -/
theorem recorded_update {device : Timeline Device}
    {heap : DictRef → StampedMap} {ref : DictRef} {dict : StampedMap}
    (recorded : ∀ other, Recorded device (heap other))
    (new : Recorded device dict) (other : DictRef) :
    Recorded device (Function.update heap ref dict other) := by
  by_cases same : other = ref
  · rw [same, Function.update_self]
    exact new
  · rw [Function.update_of_ne same]
    exact recorded other

/-! ## Every step keeps the invariant -/

theorem CacheInvariant.spawn {state : CacheState} {task : CacheTask}
    (held : state.CacheInvariant)
    (sound : ∀ id, (state.spawn task).TaskSound id task) :
    (state.spawn task).CacheInvariant where
  sound := by
    intro id other found
    by_cases new : id = state.nextTask
    · simp only [CacheState.spawn, new, Function.update_self,
        Option.some.injEq] at found
      rw [← found]
      exact sound id
    · simp only [CacheState.spawn, Function.update_of_ne new] at found
      exact held.sound id other found
  recorded := held.recorded
  complete := held.complete

theorem CacheInvariant.happens {state : CacheState} (device : Device)
    (held : state.CacheInvariant) :
    (state.happens device).CacheInvariant where
  sound := fun id task found => (held.sound id task found).happens device
  recorded := fun ref => (held.recorded ref).advance device
  complete := held.complete

section Step

variable {state next : CacheState} {id : TaskId}

/-- What a task does once it has the lock. -/
inductive Starts (extension : Option Batch) :
    CacheTask → CacheTask → Prop where
  | poll :
      Starts extension .pollWaits
        (.pollReads (pollRequests extension) .empty)
  | write (address value : Nat) :
      Starts extension (.writeWaits address value) (.writes address value)
  | confirm (batch : Batch) (captured : DictRef) :
      Starts extension (.confirmWaits batch captured)
        (.confirms batch captured)

theorem acquire_cases {extension : Option Batch}
    (stepped : state.acquire extension id = some next) :
    state.lockedBy = none ∧ ∃ waiting task,
      state.tasks id = some waiting ∧ Starts extension waiting task ∧
        next = ({ state with lockedBy := some id }).goOn id task := by
  rw [acquire] at stepped
  split at stepped
  case isFalse => cases stepped
  case isTrue unlocked =>
    refine ⟨unlocked, ?_⟩
    split at stepped
    case h_1 found =>
      cases stepped
      exact ⟨_, _, found, .poll, rfl⟩
    case h_2 address value found =>
      cases stepped
      exact ⟨_, _, found, .write address value, rfl⟩
    case h_3 batch captured found =>
      cases stepped
      exact ⟨_, _, found, .confirm batch captured, rfl⟩
    case h_4 => cases stepped

theorem answer_cases (stepped : state.answer id = some next) :
    (∃ table batch rest data,
      state.tasks id = some (.pollReads ((table, batch) :: rest) data) ∧
        next = state.answerPoll id table batch rest data) ∨
    (∃ address value, state.tasks id = some (.writes address value) ∧
      next = state.answerWrite id address value) ∨
    (∃ batch captured, state.tasks id = some (.confirms batch captured) ∧
      next = state.answerConfirm id batch captured) := by
  rw [answer] at stepped
  split at stepped
  case h_1 table batch rest data found =>
    cases stepped
    exact .inl ⟨table, batch, rest, data, found, rfl⟩
  case h_2 address value found =>
    cases stepped
    exact .inr (.inl ⟨address, value, found, rfl⟩)
  case h_3 batch captured found =>
    cases stepped
    exact .inr (.inr ⟨batch, captured, found, rfl⟩)
  case h_4 => cases stepped

theorem fail_cases (stepped : state.fail id = some next) :
    ∃ task, state.tasks id = some task ∧
      (task.Holds ∧ next = state.release.stop id ∨
        ¬ task.Holds ∧ next = state.stop id) := by
  rw [fail] at stepped
  cases found : state.tasks id with
  | none =>
      rw [found] at stepped
      cases stepped
  | some task =>
      rw [found] at stepped
      refine ⟨task, rfl, ?_⟩
      cases task with
      | pollReads remaining data =>
          cases stepped
          exact .inl ⟨trivial, rfl⟩
      | writes address value =>
          cases stepped
          exact .inl ⟨trivial, rfl⟩
      | confirms batch captured =>
          cases stepped
          exact .inl ⟨trivial, rfl⟩
      | pollWaits =>
          cases stepped
          exact .inr ⟨not_false, rfl⟩
      | writeWaits address value =>
          cases stepped
          exact .inr ⟨not_false, rfl⟩
      | confirmWaits batch captured =>
          cases stepped
          exact .inr ⟨not_false, rfl⟩

theorem goOn_own {task other : CacheTask}
    (found : (state.goOn id task).tasks id = some other) :
    other = task := by
  simp only [goOn, Function.update_self, Option.some.injEq] at found
  exact found.symm

theorem goOn_others (task : CacheTask) (other : TaskId)
    (different : other ≠ id) :
    (state.goOn id task).tasks other = state.tasks other :=
  Function.update_of_ne different ..

theorem stop_own {task : CacheTask} :
    (state.stop id).tasks id ≠ some task := by
  simp only [stop, Function.update_self]
  exact (Option.some_ne_none task).symm

theorem stop_others (other : TaskId) (different : other ≠ id) :
    (state.stop id).tasks other = state.tasks other :=
  Function.update_of_ne different ..

/-- A task that gets the lock goes on with the first request. -/
theorem CacheInvariant.lock {task : CacheTask}
    (held : state.CacheInvariant) (unlocked : state.lockedBy = none)
    (sound : ({ state with lockedBy := some id }).TaskSound id task) :
    (({ state with lockedBy := some id }).goOn id task).CacheInvariant := by
  apply held.after
  · exact fun other _ _ found => held.free_waits unlocked found
  · exact goOn_others task
  · intro other found
    rw [goOn_own found]
    exact sound
  · exact held.recorded
  · exact held.complete

theorem completes_pollRequests (extension : Option Batch) :
    Completes (pollRequests extension) PollData.empty.holding := by
  intro batch member address covered
  refine .inr ?_
  rw [pollRequests]
  exact List.mem_append_right _ (List.mem_map_of_mem member)

theorem CacheInvariant.acquire {extension : Option Batch}
    (held : state.CacheInvariant)
    (stepped : state.acquire extension id = some next) :
    next.CacheInvariant := by
  obtain ⟨unlocked, waiting, task, found, starts, rfl⟩ :=
    acquire_cases stepped
  apply held.lock unlocked
  cases starts with
  | poll =>
      refine ⟨rfl, ?_, ?_, completes_pollRequests extension⟩
      · intro address value read
        cases read
      · intro address value read
        cases read
  | write address value => exact rfl
  | confirm batch captured => exact ⟨rfl, held.sound id _ found⟩

/-- A task that gives up its wait. -/
theorem CacheInvariant.abandon (held : state.CacheInvariant) :
    (state.stop id).CacheInvariant where
  sound := by
    intro other task found
    by_cases same : other = id
    · rw [same] at found
      exact absurd found stop_own
    · rw [stop_others other same] at found
      exact held.sound other task found
  recorded := held.recorded
  complete := held.complete

theorem CacheInvariant.fail (held : state.CacheInvariant)
    (stepped : state.fail id = some next) : next.CacheInvariant := by
  obtain ⟨task, found, ⟨holds, rfl⟩ | ⟨-, rfl⟩⟩ := fail_cases stepped
  · have locked := (held.sound id task found).holder holds
    apply held.after
    · exact fun other _ different otherFound =>
        held.waits locked different otherFound
    · exact stop_others
    · exact fun other running => absurd running stop_own
    · exact held.recorded
    · exact held.complete
  · exact held.abandon

theorem CacheInvariant.answerPoll {table : RegisterTable} {batch : Batch}
    {rest : List (RegisterTable × Batch)} {data : PollData}
    (held : state.CacheInvariant)
    (found : state.tasks id =
      some (.pollReads ((table, batch) :: rest) data)) :
    (state.answerPoll id table batch rest data).CacheInvariant := by
  obtain ⟨locked, recorded, newer, completes⟩ := held.sound id _ found
  have recordedNow : Recorded (state.device.advance state.device.present)
      (data.update (StampedMap.readBatch
        (state.device.advance state.device.present) table batch)
          table).holding :=
    (recorded.advance _).read
  have heapRecorded : ∀ ref,
      Recorded (state.device.advance state.device.present)
        (state.heap ref) :=
    fun ref => (held.recorded ref).advance _
  have waiting : ∀ other task, other ≠ id →
      state.tasks other = some task → ¬ task.Holds :=
    fun _ _ different otherFound => held.waits locked different otherFound
  cases rest with
  | nil =>
      apply held.after waiting
      · exact stop_others
      · exact fun task found => absurd found stop_own
      · exact recorded_update heapRecorded recordedNow
      · have published : (((state.happens state.device.present).publish
            (data.update (StampedMap.readBatch
              (state.device.advance state.device.present) table batch)
                table)).release.stop id).published =
            (data.update (StampedMap.readBatch
              (state.device.advance state.device.present) table batch)
                table).holding :=
          Function.update_self ..
        exact published ▸ completes.read
  | cons request others =>
      apply held.after waiting
      · exact goOn_others _
      · intro task running
        have newerNow : Newer state.heap
            (data.update (StampedMap.readBatch
              (state.device.advance state.device.present) table batch)
                table).holding := newer.read held.recorded
        rw [goOn_own running]
        exact ⟨locked, recordedNow, newerNow, completes.read⟩
      · exact heapRecorded
      · exact held.complete

/-- Setting one value or more in a dictionary keeps what is published. -/
theorem complete_setDict {ref : DictRef} {dict : StampedMap}
    (complete : Completes [] state.published)
    (kept : ∀ address value, state.heap ref address = some value →
      ∃ other, dict address = some other) :
    Completes [] (state.setDict ref dict).published := by
  apply complete.mono
  intro address value found
  simp only [published, setDict] at found ⊢
  by_cases same : state.holding = ref
  · rw [same] at found ⊢
    rw [Function.update_self]
    exact kept address value found
  · rw [Function.update_of_ne same]
    exact ⟨value, found⟩

theorem confirmedBatch_member {address : Nat} {batch : Batch}
    (chosen : confirmedBatch address = some batch) :
    batch ∈ holdingRegisterBatches :=
  List.mem_of_find?_eq_some chosen

theorem CacheInvariant.answerWrite {address value : Nat}
    (held : state.CacheInvariant)
    (found : state.tasks id = some (.writes address value)) :
    (state.answerWrite id address value).CacheInvariant := by
  have locked : state.lockedBy = some id := held.sound id _ found
  have waiting : ∀ other task, other ≠ id →
      state.tasks other = some task → ¬ task.Holds :=
    fun _ _ different otherFound => held.waits locked different otherFound
  let after := state.happens (state.device.present.write address value)
  have written : after.device.Records (holdingAt address)
      { value, time := after.device.now } := by
    refine ⟨Nat.le_refl _, ?_⟩
    have present : after.device.present =
        state.device.present.write address value :=
      state.device.advance_present _
    have stored : after.device.present.holding address = value := by
      rw [present, Device.write]
      exact if_pos rfl
    exact stored.symm
  have recorded : ∀ ref, Recorded after.device
      ((after.setDict after.holding (after.published.set address
        { value, time := after.device.now })).heap ref) :=
    recorded_update (fun ref => (held.recorded ref).advance _)
      (((held.recorded _).advance _).set written)
  have complete : Completes [] (after.setDict after.holding
      (after.published.set address
        { value, time := after.device.now })).published := by
    apply complete_setDict held.complete
    intro other stored present
    by_cases same : other = address
    · exact ⟨_, by rw [same, StampedMap.set_self]⟩
    · exact ⟨stored, by
        rw [StampedMap.set_of_ne _ _ same]
        exact present⟩
  rw [CacheState.answerWrite]
  cases chosen : confirmedBatch address with
  | none =>
      apply held.after waiting
      · exact stop_others
      · exact fun task running => absurd running stop_own
      · exact recorded
      · exact complete
  | some batch =>
      apply held.after waiting
      · exact goOn_others _
      · intro task running
        rw [goOn_own running]
        exact confirmedBatch_member chosen
      · exact recorded
      · exact complete

theorem CacheInvariant.answerConfirm {batch : Batch} {captured : DictRef}
    (held : state.CacheInvariant)
    (found : state.tasks id = some (.confirms batch captured)) :
    (state.answerConfirm id batch captured).CacheInvariant := by
  have locked : state.lockedBy = some id := (held.sound id _ found).1
  apply held.after
    (fun _ _ different otherFound => held.waits locked different
      otherFound)
  · exact stop_others
  · exact fun task running => absurd running stop_own
  · exact recorded_update (fun ref => (held.recorded ref).advance _)
      ((held.recorded captured).advance _).confirm
  · exact @complete_setDict (state.happens state.device.present) captured _
      held.complete
      (fun _ _ present => StampedMap.update_isSome (.inr present))

theorem CacheInvariant.answer (held : state.CacheInvariant)
    (stepped : state.answer id = some next) : next.CacheInvariant := by
  rcases answer_cases stepped with ⟨table, batch, rest, data, found, rfl⟩ |
    ⟨address, value, found, rfl⟩ | ⟨batch, captured, found, rfl⟩
  · exact held.answerPoll found
  · exact held.answerWrite found
  · exact held.answerConfirm found

theorem CacheInvariant.step {extension : Option Batch}
    {action : CacheAction} (held : state.CacheInvariant)
    (stepped : state.step extension action = some next) :
    next.CacheInvariant := by
  cases action with
  | poll =>
      cases stepped
      exact held.spawn fun _ => trivial
  | write address value =>
      cases stepped
      exact held.spawn fun _ => trivial
  | acquire id => exact held.acquire stepped
  | answer id => exact held.answer stepped
  | fail id => exact held.fail stepped
  | deviceChanges device =>
      cases stepped
      exact held.happens device

end Step

end CacheState

theorem FirstRefresh.invariant (first : FirstRefresh) :
    first.state.CacheInvariant where
  sound := by
    intro id task found
    cases found
  recorded := fun _ => first.recorded
  complete := fun batch member address covered =>
    .inl (first.complete batch member address covered)

theorem cacheInvariant_of_reachable {first : FirstRefresh}
    {state : CacheState}
    (reached : (cacheMachine first).Reachable state) :
    state.CacheInvariant :=
  reached.invariant CacheState.CacheInvariant first.invariant
    fun held stepped => held.step stepped

end Airfi
