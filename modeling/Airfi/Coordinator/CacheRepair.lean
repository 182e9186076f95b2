import Airfi.Coordinator.CacheEffects

/-!
# What a poll repairs

Whatever the published registers were, once a poll has read all its batches
they are those of the device, in both tables, where these have not changed
since the poll began, and they stay so.
-/

namespace Airfi

/-- `data[table]`. -/
def PollData.table (self : PollData) : RegisterTable → StampedMap
  | .input => self.input
  | .holding => self.holding

theorem PollData.update_table {self : PollData} {batch : StampedMap}
    {table other : RegisterTable} {address : Nat} {value : Stamped Nat}
    (found : (self.update batch table).table other address = some value) :
    table = other ∧ batch address = some value ∨
      self.table other address = some value := by
  cases table with
  | input =>
      cases other with
      | input =>
          rcases StampedMap.update_some found with read | ⟨-, kept⟩
          · exact .inl ⟨rfl, read⟩
          · exact .inr kept
      | holding => exact .inr found
  | holding =>
      cases other with
      | input => exact .inr found
      | holding =>
          rcases StampedMap.update_some found with read | ⟨-, kept⟩
          · exact .inl ⟨rfl, read⟩
          · exact .inr kept

theorem PollData.update_table_isSome {self : PollData} {batch : StampedMap}
    {table other : RegisterTable} {address : Nat} {value : Stamped Nat}
    (present : table = other ∧ batch address = some value ∨
      self.table other address = some value) :
    ∃ new, (self.update batch table).table other address = some new := by
  cases table <;> cases other <;>
    first
    | exact StampedMap.update_isSome (by simpa [table] using present)
    | exact ⟨value, by simpa [table, update] using present⟩

namespace CacheState

/-- The values were those of the device at a time since the start, and the
batches that are not read yet complete them. -/
structure ReadSince (extension : Option Batch) (start : Nat)
    (device : Timeline Device) (remaining : List (RegisterTable × Batch))
    (data : RegisterTable → StampedMap) : Prop where
  recorded : ∀ table address value, data table address = some value →
    start ≤ value.time ∧
      device.Records (fun registers => registers.table table address) value
  complete : ∀ table batch, (table, batch) ∈ pollRequests extension →
    ∀ address, batch.Covers address →
      (∃ value, data table address = some value) ∨
        (table, batch) ∈ remaining

section Step

variable {extension : Option Batch} {start : Nat} {device : Timeline Device}
  {remaining : List (RegisterTable × Batch)}
  {data : RegisterTable → StampedMap}

theorem readSince_empty :
    ReadSince extension start device (pollRequests extension)
      PollData.empty.table where
  recorded := by
    intro table address value found
    cases table <;> cases found
  complete := fun _ _ listed _ _ => .inr listed

theorem ReadSince.advance
    (read : ReadSince extension start device remaining data)
    (next : Device) :
    ReadSince extension start (device.advance next) remaining data where
  recorded := by
    intro table address value found
    obtain ⟨since, recorded⟩ := read.recorded table address value found
    exact ⟨since, recorded.advance next⟩
  complete := read.complete

/-- The first of the remaining batches is read. -/
theorem ReadSince.read {table : RegisterTable} {batch : Batch}
    {rest : List (RegisterTable × Batch)} {polled : PollData}
    (past : start ≤ device.now)
    (read : ReadSince extension start device ((table, batch) :: rest)
      polled.table) :
    ReadSince extension start device rest
      (polled.update (StampedMap.readBatch device table batch)
        table).table where
  recorded := by
    intro other address value found
    rcases PollData.update_table found with ⟨rfl, new⟩ | kept
    · rw [StampedMap.readBatch_some new]
      exact ⟨past, device.records_observe _⟩
    · exact read.recorded other address value kept
  complete := by
    intro other covering listed address covered
    rcases read.complete other covering listed address covered with
      ⟨value, found⟩ | later
    · exact .inl (PollData.update_table_isSome (.inr found))
    · rcases List.mem_cons.mp later with here | later
      · obtain ⟨rfl, rfl⟩ := Prod.mk.inj here
        exact .inl (PollData.update_table_isSome
          (.inl ⟨rfl, StampedMap.readBatch_covered covered⟩))
      · exact .inr later

end Step

/-- What the task has read as a poll, it has read since the start. -/
structure PollSince (extension : Option Batch) (start : Nat) (id : TaskId)
    (state : CacheState) : Prop where
  past : start ≤ state.device.now
  read : ∀ remaining data,
    state.tasks id = some (.pollReads remaining data) →
      ReadSince extension start state.device remaining data.table

section Poll

variable {extension : Option Batch} {start : Nat} {id other : TaskId}
  {state next : CacheState} {action : CacheAction}

theorem PollSince.congr (since : state.PollSince extension start id)
    (device : next.device = state.device)
    (tasks : ∀ remaining data,
      next.tasks id = some (.pollReads remaining data) →
        state.tasks id = some (.pollReads remaining data)) :
    next.PollSince extension start id where
  past := device ▸ since.past
  read := fun remaining data found =>
    device ▸ since.read remaining data (tasks remaining data found)

theorem PollSince.release (since : state.PollSince extension start id) :
    state.release.PollSince extension start id :=
  since.congr rfl fun _ _ found => found

theorem PollSince.setDict {ref : DictRef} {dict : StampedMap}
    (since : state.PollSince extension start id) :
    (state.setDict ref dict).PollSince extension start id :=
  since.congr rfl fun _ _ found => found

theorem PollSince.spawn {task : CacheTask} (waits : ¬ task.Holds)
    (since : state.PollSince extension start id) :
    (state.spawn task).PollSince extension start id where
  past := since.past
  read := by
    intro remaining data found
    rcases tasks_of_spawn found with rfl | old
    · exact absurd trivial waits
    · exact since.read remaining data old

theorem PollSince.stop (since : state.PollSince extension start id) :
    (state.stop other).PollSince extension start id :=
  since.congr rfl fun _ _ found => tasks_of_stop found

theorem PollSince.goOn {task : CacheTask}
    (since : state.PollSince extension start id)
    (own : ∀ remaining data, task = .pollReads remaining data → id = other →
      ReadSince extension start state.device remaining data.table) :
    (state.goOn other task).PollSince extension start id where
  past := since.past
  read := by
    intro remaining data found
    rcases tasks_of_goOn found with ⟨same, started⟩ | old
    · exact own remaining data started.symm same
    · exact since.read remaining data old

theorem PollSince.happens (device : Device)
    (since : state.PollSince extension start id) :
    (state.happens device).PollSince extension start id where
  past := Nat.le_succ_of_le since.past
  read := fun remaining data found =>
    (since.read remaining data found).advance device

theorem PollSince.answerPoll {table : RegisterTable} {batch : Batch}
    {rest : List (RegisterTable × Batch)} {data : PollData}
    (since : state.PollSince extension start id)
    (found : state.tasks other =
      some (.pollReads ((table, batch) :: rest) data)) :
    (state.answerPoll other table batch rest data).PollSince extension start
      id := by
  have after := since.happens state.device.present
  cases rest with
  | nil =>
      exact PollSince.stop (after.congr rfl fun _ _ running => running)
  | cons request others =>
      apply after.goOn
      rintro remaining read same rfl
      obtain ⟨rfl, rfl⟩ := CacheTask.pollReads.inj same
      exact (after.read _ _ found).read after.past

theorem PollSince.step (since : state.PollSince extension start id)
    (stepped : state.step extension action = some next) :
    next.PollSince extension start id := by
  cases action with
  | poll =>
      cases stepped
      exact since.spawn not_false
  | write address value =>
      cases stepped
      exact since.spawn not_false
  | acquire other =>
      obtain ⟨-, waiting, task, -, starts, rfl⟩ := acquire_cases stepped
      have locked : ({ state with lockedBy := some other } :
          CacheState).PollSince extension start id :=
        since.congr rfl fun _ _ found => found
      apply locked.goOn
      rintro remaining data same -
      cases starts with
      | poll =>
          obtain ⟨rfl, rfl⟩ := CacheTask.pollReads.inj same
          exact readSince_empty
      | write address value => cases same
      | confirm batch captured => cases same
  | answer other =>
      rcases answer_cases stepped with
        ⟨table, batch, rest, data, found, rfl⟩ | ⟨address, value, -, rfl⟩ |
        ⟨batch, captured, -, rfl⟩
      · exact since.answerPoll found
      · have after := since.happens
          (state.device.present.write address value)
        rw [answerWrite]
        cases confirmedBatch address with
        | none => exact after.setDict.release.stop
        | some batch =>
            apply after.setDict.release.goOn
            intro remaining data same
            cases same
      · exact (since.happens state.device.present).setDict.release.stop
  | fail other =>
      obtain ⟨task, -, ⟨-, rfl⟩ | ⟨-, rfl⟩⟩ := fail_cases stepped
      · exact since.release.stop
      · exact since.stop
  | deviceChanges device =>
      cases stepped
      exact since.happens device

end Poll

/-- Every poll under way has read since the start, and the published input
registers were read by such a poll. -/
structure ShownSince (extension : Option Batch) (start : Nat)
    (state : CacheState) : Prop where
  polls : ∀ id, state.PollSince extension start id
  input : ∃ data, ReadSince extension start state.device [] data ∧
    data .input = state.input

section Shown

variable {extension : Option Batch} {start : Nat} {id : TaskId}
  {state next : CacheState} {action : CacheAction}

/-- The last answer of a poll publishes what it has read. -/
theorem PollSince.publishes {table : RegisterTable} {batch : Batch}
    {data : PollData} (since : state.PollSince extension start id)
    (found : state.tasks id = some (.pollReads [(table, batch)] data)) :
    ∃ read : PollData,
      ReadSince extension start
        (state.answerPoll id table batch [] data).device [] read.table ∧
      read.input = (state.answerPoll id table batch [] data).input ∧
      read.holding =
        (state.answerPoll id table batch [] data).published := by
  have after := since.happens state.device.present
  have published :
      (state.answerPoll id table batch [] data).published =
        (data.update (StampedMap.readBatch
          (state.device.advance state.device.present) table batch)
            table).holding :=
    Function.update_self ..
  exact ⟨_, (after.read _ _ found).read after.past, rfl, published.symm⟩

theorem input_of_step (stepped : state.step extension action = some next) :
    next.input = state.input ∨
      ∃ id table batch data,
        state.tasks id = some (.pollReads [(table, batch)] data) ∧
          next = state.answerPoll id table batch [] data := by
  cases action with
  | poll =>
      cases stepped
      exact .inl rfl
  | write address value =>
      cases stepped
      exact .inl rfl
  | acquire id =>
      obtain ⟨-, waiting, task, -, -, rfl⟩ := acquire_cases stepped
      exact .inl rfl
  | answer id =>
      rcases answer_cases stepped with
        ⟨table, batch, rest, data, found, rfl⟩ | ⟨address, value, -, rfl⟩ |
        ⟨batch, captured, -, rfl⟩
      · cases rest with
        | nil => exact .inr ⟨id, table, batch, data, found, rfl⟩
        | cons request others => exact .inl rfl
      · left
        rw [answerWrite]
        cases confirmedBatch address <;> rfl
      · exact .inl rfl
  | fail id =>
      obtain ⟨task, -, ⟨-, rfl⟩ | ⟨-, rfl⟩⟩ := fail_cases stepped
      · exact .inl rfl
      · exact .inl rfl
  | deviceChanges device =>
      cases stepped
      exact .inl rfl

theorem ShownSince.step (shown : state.ShownSince extension start)
    (stepped : state.step extension action = some next) :
    next.ShownSince extension start where
  polls := fun id => (shown.polls id).step stepped
  input := by
    rcases input_of_step stepped with
      same | ⟨id, table, batch, data, found, rfl⟩
    · obtain ⟨data, read, input⟩ := shown.input
      rw [same]
      rcases device_of_step stepped with unchanged | ⟨device, advanced, -⟩
      · rw [unchanged]
        exact ⟨data, read, input⟩
      · rw [advanced]
        exact ⟨data, read.advance device, input⟩
    · obtain ⟨read, since, input, -⟩ := (shown.polls id).publishes found
      exact ⟨read.table, since, input⟩

/-- While a poll publishes, no other poll is under way. -/
theorem PollSince.shown {table : RegisterTable} {batch : Batch}
    {data : PollData} (held : state.CacheInvariant)
    (since : state.PollSince extension start id)
    (found : state.tasks id = some (.pollReads [(table, batch)] data)) :
    (state.answerPoll id table batch [] data).ShownSince extension start where
  polls := by
    intro other
    refine ⟨(since.happens state.device.present).past, ?_⟩
    intro remaining read running
    by_cases same : other = id
    · rw [same] at running
      exact absurd running stop_own
    · have before : state.tasks other = some (.pollReads remaining read) :=
        tasks_of_stop running
      exact absurd trivial
        (held.waits ((held.sound id _ found).holder trivial) same before)
  input := by
    obtain ⟨read, since, input, -⟩ := since.publishes found
    exact ⟨read.table, since, input⟩

end Shown

/-- `self.data[table]`. -/
def shown (state : CacheState) : RegisterTable → StampedMap
  | .input => state.input
  | .holding => state.published

section Run

variable {first : FirstRefresh} {start : Nat} {id : TaskId}
  {state early later : CacheState} {actions : List CacheAction}

theorem mem_of_holding_request {extension : Option Batch} {batch : Batch}
    (listed : (RegisterTable.holding, batch) ∈ pollRequests extension) :
    batch ∈ holdingRegisterBatches := by
  rcases List.mem_append.mp listed with input | holding
  · obtain ⟨other, -, same⟩ := List.mem_map.mp input
    cases same
  · obtain ⟨other, member, same⟩ := List.mem_map.mp holding
    obtain ⟨-, rfl⟩ := Prod.mk.inj same
    exact member

theorem pollSince_waiting {extension : Option Batch}
    (waits : early.tasks id = some .pollWaits) :
    early.PollSince extension early.device.now id where
  past := Nat.le_refl _
  read := by
    intro remaining data found
    rw [waits] at found
    cases found

theorem PollSince.runFrom (since : early.PollSince first.extension start id)
    (continued :
      (cacheMachine first).runFrom early actions = some later) :
    later.PollSince first.extension start id :=
  Machine.invariant_of_runFrom (PollSince first.extension start id)
    (fun held stepped => held.step stepped) continued since

/-- What is published after a poll and was not changed since it began is what
the device has. -/
theorem PollSince.repairs {table other : RegisterTable}
    {batch covering : Batch} {data : PollData} (held : state.CacheInvariant)
    (since : state.PollSince first.extension start id)
    (found : state.tasks id = some (.pollReads [(table, batch)] data))
    (continued : (cacheMachine first).runFrom
      (state.answerPoll id table batch [] data) actions = some later)
    (listed : (other, covering) ∈ pollRequests first.extension)
    {address : Nat} (covered : covering.Covers address)
    (property : Nat → Prop)
    (unchanged : later.device.Since start fun device =>
      property (device.table other address)) :
    ∃ value, later.shown other address = some value ∧
      property value.value := by
  cases other with
  | input =>
      have shown : later.ShownSince first.extension start :=
        Machine.invariant_of_runFrom (ShownSince first.extension start)
          (fun held stepped => held.step stepped) continued
          (since.shown held found)
      obtain ⟨read, readSince, input⟩ := shown.input
      obtain ⟨value, present⟩ := (readSince.complete .input covering listed
        address covered).resolve_right List.not_mem_nil
      obtain ⟨recent, recorded⟩ :=
        readSince.recorded .input address value present
      rw [input] at present
      exact ⟨value, present, recorded.of_since unchanged recent⟩
  | holding =>
      obtain ⟨read, readSince, -, published⟩ := since.publishes found
      obtain ⟨value, present⟩ := (readSince.complete .holding covering listed
        address covered).resolve_right List.not_mem_nil
      have recent := (readSince.recorded .holding address value present).1
      have present' :
          (state.answerPoll id table batch [] data).published address =
            some value := published ▸ present
      have after := held.answerPoll found
      have noOlder := (after.noOlder present').later continued
      have sinceRead : later.device.Since value.time fun device =>
          property (device.holding address) :=
        fun moment low high => unchanged moment (recent.trans low) high
      exact noOlder.published_since property (after.runFrom continued)
        ⟨covering, mem_of_holding_request listed, covered⟩ sinceRead

end Run

end CacheState

end Airfi
