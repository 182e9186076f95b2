import Airfi.Coordinator.CacheFreshness

/-!
# What the tasks do to the device

A step of the cache machine leaves the device as it is, writes the value of
a task to it, or lets it change by itself.  Where only the tasks change a
register, the published value is the one last written.
-/

namespace Airfi

/-- The write that the task is there for. -/
def CacheTask.asks : CacheTask → Option (Nat × Nat)
  | .writeWaits address value | .writes address value => some (address, value)
  | _ => none

namespace CacheState

/-- A property that the device keeps in this step, if it had it. -/
def Keeps (property : Device → Prop) (state : CacheState) :
    CacheAction → Prop
  | .answer id =>
      ∀ address value, state.tasks id = some (.writes address value) →
        property state.device.present →
          property (state.device.present.write address value)
  | .deviceChanges device => property device
  | _ => True

section Step

variable {extension : Option Batch} {action : CacheAction}
  {state next : CacheState}

/-- What a step does to the device. -/
theorem device_of_step (stepped : state.step extension action = some next) :
    next.device = state.device ∨
      ∃ device, next.device = state.device.advance device ∧
        (device = state.device.present ∨
          (∃ id address value, action = .answer id ∧
            state.tasks id = some (.writes address value) ∧
              device = state.device.present.write address value) ∨
          action = .deviceChanges device) := by
  cases action with
  | poll =>
      cases stepped
      exact .inl rfl
  | write address value =>
      cases stepped
      exact .inl rfl
  | acquire id =>
      obtain ⟨-, waiting, task, -, -, rfl⟩ := acquire_cases stepped
      exact .inl rfl
  | answer id =>
      right
      rcases answer_cases stepped with
        ⟨table, batch, rest, data, -, rfl⟩ | ⟨address, value, found, rfl⟩ |
        ⟨batch, captured, -, rfl⟩
      · refine ⟨_, ?_, .inl rfl⟩
        cases rest <;> rfl
      · exact ⟨_, answerWrite_device,
          .inr (.inl ⟨id, address, value, rfl, found, rfl⟩)⟩
      · exact ⟨_, rfl, .inl rfl⟩
  | fail id =>
      obtain ⟨task, -, ⟨-, rfl⟩ | ⟨-, rfl⟩⟩ := fail_cases stepped
      · exact .inl rfl
      · exact .inl rfl
  | deviceChanges device =>
      cases stepped
      exact .inr ⟨device, rfl, .inr (.inr rfl)⟩

theorem since_of_step {time : Nat} {property : Device → Prop}
    (past : time ≤ state.device.now)
    (since : state.device.Since time property)
    (keeps : state.Keeps property action)
    (stepped : state.step extension action = some next) :
    next.device.Since time property := by
  rcases device_of_step stepped with same | ⟨device, advanced, changes⟩
  · rw [same]
    exact since
  · rw [advanced]
    apply since.advance
    rcases changes with rfl | ⟨id, address, value, rfl, found, rfl⟩ | rfl
    · exact since.present past
    · exact keeps address value found (since.present past)
    · exact keeps

theorem now_le_of_step (stepped : state.step extension action = some next) :
    state.device.now ≤ next.device.now := by
  rcases device_of_step stepped with same | ⟨device, advanced, -⟩
  · rw [same]
  · rw [advanced]
    exact Nat.le_succ _

theorem tasks_of_stop {id other : TaskId} {task : CacheTask}
    (found : (state.stop other).tasks id = some task) :
    state.tasks id = some task := by
  by_cases same : id = other
  · rw [same] at found
    exact absurd found stop_own
  · rwa [stop_others id same] at found

theorem tasks_of_goOn {id other : TaskId} {task started : CacheTask}
    (found : (state.goOn other started).tasks id = some task) :
    id = other ∧ task = started ∨ state.tasks id = some task := by
  by_cases same : id = other
  · rw [same] at found
    exact .inl ⟨same, goOn_own found⟩
  · rw [goOn_others started id same] at found
    exact .inr found

theorem tasks_of_spawn {id : TaskId} {task spawned : CacheTask}
    (found : (state.spawn spawned).tasks id = some task) :
    task = spawned ∨ state.tasks id = some task := by
  by_cases new : id = state.nextTask
  · simp only [spawn, new, Function.update_self, Option.some.injEq] at found
    exact .inl found.symm
  · simp only [spawn, Function.update_of_ne new] at found
    exact .inr found

/-- A task that is there to write was so before, or is new. -/
theorem asks_of_step (stepped : state.step extension action = some next)
    {id : TaskId} {task : CacheTask} {write : Nat × Nat}
    (found : next.tasks id = some task) (asks : task.asks = some write) :
    (∃ before, state.tasks id = some before ∧ before.asks = some write) ∨
      action = .write write.1 write.2 := by
  cases action with
  | poll =>
      cases stepped
      rcases tasks_of_spawn found with rfl | old
      · cases asks
      · exact .inl ⟨task, old, asks⟩
  | write address value =>
      cases stepped
      rcases tasks_of_spawn found with rfl | old
      · cases asks
        exact .inr rfl
      · exact .inl ⟨task, old, asks⟩
  | acquire other =>
      obtain ⟨-, waiting, started, before, starts, rfl⟩ :=
        acquire_cases stepped
      rcases tasks_of_goOn found with ⟨rfl, rfl⟩ | old
      · refine .inl ⟨waiting, before, ?_⟩
        cases starts with
        | poll => cases asks
        | write address value => exact asks
        | confirm batch captured => cases asks
      · exact .inl ⟨task, old, asks⟩
  | answer other =>
      rcases answer_cases stepped with
        ⟨table, batch, rest, data, -, rfl⟩ | ⟨address, value, -, rfl⟩ |
        ⟨batch, captured, -, rfl⟩
      · cases rest with
        | nil => exact .inl ⟨task, tasks_of_stop found, asks⟩
        | cons request others =>
            rcases tasks_of_goOn found with ⟨-, rfl⟩ | old
            · cases asks
            · exact .inl ⟨task, old, asks⟩
      · rw [answerWrite] at found
        cases confirmed : confirmedBatch address with
        | none =>
            rw [confirmed] at found
            exact .inl ⟨task, tasks_of_stop found, asks⟩
        | some batch =>
            rw [confirmed] at found
            rcases tasks_of_goOn found with ⟨-, rfl⟩ | old
            · cases asks
            · exact .inl ⟨task, old, asks⟩
      · exact .inl ⟨task, tasks_of_stop found, asks⟩
  | fail other =>
      obtain ⟨gone, -, ⟨-, rfl⟩ | ⟨-, rfl⟩⟩ := fail_cases stepped
      · exact .inl ⟨task, tasks_of_stop found, asks⟩
      · exact .inl ⟨task, tasks_of_stop found, asks⟩
  | deviceChanges device =>
      cases stepped
      exact .inl ⟨task, found, asks⟩

end Step

section Run

variable {first : FirstRefresh} {state later : CacheState}
  {actions : List CacheAction}

theorem since_later {time : Nat} {property : Device → Prop}
    (past : time ≤ state.device.now)
    (since : state.device.Since time property)
    (continued :
      (cacheMachine first).runFrom state actions = some later)
    (keeps : (cacheMachine first).MeetsFrom (Keeps property) state actions) :
    later.device.Since time property := by
  have both : time ≤ later.device.now ∧
      later.device.Since time property := by
    apply Machine.invariant_of_meetsFrom (Keeps property)
      (fun current => time ≤ current.device.now ∧
        current.device.Since time property) ?_ continued keeps ⟨past, since⟩
    intro reached action next held kept stepped
    exact ⟨held.1.trans (now_le_of_step stepped),
      since_of_step held.1 held.2 kept stepped⟩
  exact both.2

theorem CacheInvariant.runFrom (held : state.CacheInvariant)
    (continued :
      (cacheMachine first).runFrom state actions = some later) :
    later.CacheInvariant :=
  Machine.invariant_of_runFrom CacheInvariant
    (fun held stepped => held.step stepped) continued held

/-- The published value of a register of the batches has every property that
the device's has had since a time no later than what was published then. -/
theorem NoOlder.published_since {address time : Nat}
    (property : Nat → Prop) (noOlder : state.NoOlder address time)
    (held : state.CacheInvariant)
    (covered : ∃ batch ∈ holdingRegisterBatches, batch.Covers address)
    (since : state.device.Since time fun device =>
      property (device.holding address)) :
    ∃ shown, state.published address = some shown ∧
      property shown.value := by
  obtain ⟨batch, member, covers⟩ := covered
  obtain ⟨shown, found⟩ := held.complete.publish batch member address covers
  have recorded := held.recorded _ address shown found
  exact ⟨shown, found,
    recorded.of_since since (noOlder.published shown found)⟩

/-- Once a write is answered, and while only the same value reaches its
register, that value stays published. -/
theorem CacheInvariant.written_published {id : TaskId}
    {address value : Nat} (held : state.CacheInvariant)
    (found : state.tasks id = some (.writes address value))
    (covered : ∃ batch ∈ holdingRegisterBatches, batch.Covers address)
    (continued : (cacheMachine first).runFrom
      (state.answerWrite id address value) actions = some later)
    (keeps : (cacheMachine first).MeetsFrom
      (Keeps fun device => device.holding address = value)
      (state.answerWrite id address value) actions) :
    ∃ shown, later.published address = some shown ∧
      shown.value = value := by
  have answered := held.answerWrite found
  have noOlder := answered.noOlder answerWrite_published
  have written : (state.answerWrite id address value).device.Since
      (state.device.now + 1) fun device => device.holding address = value := by
    rw [answerWrite_device]
    intro moment low high
    have last : moment = state.device.now + 1 := Nat.le_antisymm high low
    have current := state.device.advance_present
      (state.device.present.write address value)
    rw [Timeline.present, Timeline.advance_now] at current
    rw [last, current, Device.write]
    exact if_pos rfl
  exact (noOlder.later continued).published_since (· = value)
    (answered.runFrom continued) covered
    (since_later noOlder.past written continued keeps)

end Run

end CacheState

end Airfi
