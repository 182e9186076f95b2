import Airfi.Coordinator.CacheAdequacy
import Airfi.Coordinator.CacheEffects
import Airfi.Platforms.Commands

/-!
# The controls of a running coordinator

Commands of the writable entities among the polls and the other writes of one
coordinator, in any interleaving.  A control goes on to show what it was last
set to, the device is written nothing but values of the controls, and no
control ever shows a state that its descriptor does not have.
-/

namespace Airfi

theorem control_covered {control : Control} (offered : control ∈ controls) :
    ∃ batch ∈ holdingRegisterBatches, batch.Covers control.address := by
  have known := control_known offered
  have covered : ∀ address ∈ List.range' 1 68,
      ∃ batch ∈ holdingRegisterBatches, batch.Covers address := by
    decide
  exact covered _ (List.mem_range'_1.mpr (by omega))

/-- Every control has a value that its descriptor gives a meaning. -/
def Device.HoldsControls (device : Device) : Prop :=
  ∀ control ∈ controls, control.Holds (device.holding control.address)

namespace EntityCommand

variable {command : EntityCommand} {address value : Nat}

/-- The write of an offered command. -/
def Writes (address value : Nat) (command : EntityCommand) : Prop :=
  command.Offered ∧ command.write = some (address, value)

theorem Writes.of_raw (offered : command.Offered)
    (asked : command.raw = some value) :
    command.Writes command.control.address value :=
  ⟨offered, by rw [write, asked, Option.map_some]⟩

theorem Writes.address_eq (writes : command.Writes address value) :
    address = command.control.address := by
  obtain ⟨raw, -, same⟩ := Option.map_eq_some_iff.mp writes.2
  exact (congrArg Prod.fst same).symm

theorem Writes.holds (writes : command.Writes address value) :
    command.control.Holds value := by
  obtain ⟨raw, asked, holds⟩ := exists_raw writes.1
  have same := writes.2
  rw [write, asked, Option.map_some, Option.some.injEq, Prod.mk.injEq] at same
  exact same.2 ▸ holds

/-- The registers keep values of their controls. -/
theorem Writes.holdsControls (writes : command.Writes address value)
    {device : Device} (held : device.HoldsControls) :
    (device.write address value).HoldsControls := by
  intro control offered
  rw [Device.write]
  by_cases same : control.address = address
  · have own : control = command.control :=
      control_unique offered writes.1.1 (same.trans writes.address_eq)
    simp only [if_pos same]
    exact own ▸ writes.holds
  · simp only [if_neg same]
    exact held control offered

end EntityCommand

namespace CacheState

/-- `self.coordinator.data`. -/
def data (state : CacheState) : AirfiData :=
  { input := state.input.values
    holding := state.published.values }

theorem data_holding {state : CacheState} {address : Nat}
    {shown : Stamped Nat} (found : state.published address = some shown) :
    state.data.holding address = some shown.value :=
  congrArg (Option.map Stamped.value) found

/-- The write that the task awaits the answer to. -/
def writing (state : CacheState) (id : TaskId) : Option (Nat × Nat) :=
  match state.tasks id with
  | some (.writes address value) => some (address, value)
  | _ => none

/-- Nothing but the value reaches the register in this step. -/
def Leaves (address value : Nat) (state : CacheState) :
    CacheAction → Prop
  | .answer id =>
      ∀ write ∈ state.writing id, write.1 = address → write.2 = value
  | .deviceChanges device => device.holding address = value
  | .poll | .write _ _ | .acquire _ | .fail _ => True

instance (address value : Nat) (state : CacheState) :
    DecidablePred (state.Leaves address value)
  | .answer id =>
      inferInstanceAs (Decidable (∀ write ∈ state.writing id, _))
  | .deviceChanges device =>
      inferInstanceAs (Decidable (device.holding address = value))
  | .poll | .write _ _ | .acquire _ | .fail _ => isTrue trivial

theorem keeps_of_leaves {state : CacheState} {address value : Nat}
    {action : CacheAction} (leaves : state.Leaves address value action) :
    state.Keeps (fun device => device.holding address = value) action := by
  cases action with
  | answer id =>
      intro register other found kept
      rw [Device.write]
      by_cases same : address = register
      · simp only [if_pos same]
        exact leaves (register, other) (by rw [writing, found]; rfl) same.symm
      · simp only [if_neg same]
        exact kept
  | deviceChanges device => exact leaves
  | _ => trivial

/-- A control shows what it was set to from the moment that the device has
answered the write, for as long as nothing else reaches its register. -/
theorem command_stays_shown (first : FirstRefresh)
    {before after : List CacheAction} {state next later : CacheState}
    {id : TaskId} {command : EntityCommand} {raw : Nat}
    (offered : command.Offered) (asked : command.raw = some raw)
    (ran : (cacheMachine first).run before = some state)
    (writing : state.tasks id =
      some (.writes command.control.address raw))
    (answered : (cacheMachine first).step state (.answer id) = some next)
    (continued : (cacheMachine first).runFrom next after = some later)
    (undisturbed : (cacheMachine first).MeetsFrom
      (Leaves command.control.address raw) next after) :
    command.Shows later.data := by
  have held := cacheInvariant_of_reachable ⟨before, ran⟩
  obtain rfl : state.answerWrite id command.control.address raw = next := by
    simp only [cacheMachine, step, answer, writing] at answered
    exact Option.some.inj answered
  obtain ⟨shown, found, same⟩ := held.written_published writing
    (control_covered offered.1) continued (undisturbed.imp keeps_of_leaves)
  apply command.shows_of_raw offered asked
  rw [data_holding found, same]

/-- The speed is set while a poll waits, and is confirmed. -/
theorem command_stays_shown_speed :
    ∃ state next later,
      (cacheMachine zeroRefresh).run [.write 1 2, .acquire 0] = some state ∧
      (cacheMachine zeroRefresh).step state (.answer 0) = some next ∧
      (cacheMachine zeroRefresh).runFrom next
        [.poll, .acquire 0, .answer 0] = some later ∧
      (EntityCommand.selectOption speed "speed_2").Shows later.data := by
  have offered : (EntityCommand.selectOption speed "speed_2").Offered :=
    ⟨mem_controls.mpr List.mem_cons_self, by decide⟩
  exact ⟨_, _, _, rfl, rfl, rfl,
    @command_stays_shown zeroRefresh [.write 1 2, .acquire 0]
      [.poll, .acquire 0, .answer 0] _ _ _ 0 _ 2 offered rfl rfl rfl rfl rfl
      (by decide)⟩

/-! ## The panel stays sound -/

/-- Writes come from commands, and the device changes a register to values
of its control only. -/
def Commanded : CacheAction → Prop
  | .write address value => ∃ command : EntityCommand,
      command.Writes address value
  | .deviceChanges device => device.HoldsControls
  | _ => True

structure PanelSound (state : CacheState) : Prop where
  /-- Each write that may reach the device is that of an offered command. -/
  writes : ∀ id address value,
    state.tasks id = some (.writes address value) →
      ∃ command : EntityCommand, command.Writes address value ∧
        1 ≤ address ∧ address ≤ 68 ∧ command.control.Holds value
  device : state.device.present.HoldsControls
  shown : ∀ control ∈ controls, control.ShowsState state.data.holding

/-- What the steps keep. -/
structure PanelInvariant (state : CacheState) : Prop where
  cache : state.CacheInvariant
  asked : ∀ id task address value, state.tasks id = some task →
    task.asks = some (address, value) →
      ∃ command : EntityCommand, command.Writes address value
  since : state.device.Since 0 Device.HoldsControls

theorem PanelInvariant.step {extension : Option Batch}
    {action : CacheAction} {state next : CacheState}
    (held : state.PanelInvariant) (commanded : Commanded action)
    (stepped : state.step extension action = some next) :
    next.PanelInvariant where
  cache := held.cache.step stepped
  asked := by
    intro id task address value found asks
    rcases asks_of_step stepped found asks with ⟨before, old, asked⟩ | rfl
    · exact held.asked id before address value old asked
    · exact commanded
  since := by
    apply since_of_step (Nat.zero_le _) held.since ?_ stepped
    cases action with
    | answer id =>
        intro address value found kept
        obtain ⟨command, writes⟩ := held.asked id _ address value found rfl
        exact writes.holdsControls kept
    | deviceChanges device => exact commanded
    | _ => trivial

theorem PanelInvariant.sound {state : CacheState}
    (held : state.PanelInvariant) : state.PanelSound where
  writes := by
    intro id address value found
    obtain ⟨command, writes⟩ := held.asked id _ address value found rfl
    have known := control_known writes.1.1
    rw [← writes.address_eq] at known
    exact ⟨command, writes, known.1, known.2, writes.holds⟩
  device := held.since.present (Nat.zero_le _)
  shown := by
    intro control offered
    have noOlder : state.NoOlder control.address 0 :=
      ⟨Nat.zero_le _, fun _ _ => Nat.zero_le _,
        fun _ _ _ _ _ _ => Nat.zero_le _⟩
    obtain ⟨shown, found, holds⟩ := noOlder.published_since
      (fun raw => control.Holds raw) held.cache (control_covered offered)
      (fun moment low high => held.since moment low high control offered)
    exact Control.showsState_of_holds offered (data_holding found) holds

/-- Whatever the commands are, and however they and the polls interleave and
fail, the device gets values of the controls only and every control shows a
state of its descriptor. -/
theorem panel_stays_sound (first : FirstRefresh)
    (initially : first.device.Since 0 Device.HoldsControls)
    {actions : List CacheAction} {state : CacheState}
    (ran : (cacheMachine first).run actions = some state)
    (commanded : ∀ action ∈ actions, Commanded action) :
    state.PanelSound := by
  apply PanelInvariant.sound
  have meets : (cacheMachine first).Meets
      (fun _ action => Commanded action) actions :=
    Machine.meets_of_forall _ fun action member _ => commanded action member
  apply Machine.invariant_of_meets (fun _ action => Commanded action)
    PanelInvariant ?initial (fun held met stepped => held.step met stepped)
    ran meets
  refine ⟨first.invariant, ?_, initially⟩
  intro id task address value found
  cases found

end CacheState

/-- A value of the control. -/
def Control.lowest : Control → Nat
  | .number register => (register.rawWritten register.minValue).toNat
  | .select register => (register.options.head?.map Prod.fst).getD 0
  | .switch _ => 0
  | .button _ => 0

/-- A device whose registers hold the lowest values of their controls. -/
def lowestDevice : Device where
  input := fun _ => 0
  holding := fun address =>
    ((controls.find? fun control =>
      decide (control.address = address)).map Control.lowest).getD 0

/-- The first refresh of a device that stays as it is meanwhile. -/
def FirstRefresh.still (device : Device) : FirstRefresh where
  device := { now := 0, states := fun _ => device }
  input := fun address =>
    if 1 ≤ address ∧ address < 50 then
      some { value := device.input address, time := 0 }
    else none
  holding := fun address =>
    if 1 ≤ address ∧ address < 69 then
      some { value := device.holding address, time := 0 }
    else none
  extension := none
  recorded := by
    intro address observation found
    split at found
    · obtain rfl := Option.some.inj found
      exact ⟨Nat.le_refl _, rfl⟩
    · cases found
  complete := by
    intro batch member address covered
    obtain ⟨observation, found⟩ :=
      CacheState.zeroRefresh.complete batch member address covered
    have inside : 1 ≤ address ∧ address < 69 := by
      by_contra outside
      exact absurd (found.symm.trans (if_neg outside))
        (Option.some_ne_none _)
    exact ⟨_, if_pos inside⟩

instance (raw : Nat) : DecidablePred (Control.Holds raw)
  | .number _ => inferInstanceAs (Decidable (_ ∧ _))
  | .select _ => inferInstanceAs (Decidable (_ ∈ _))
  | .switch _ => inferInstanceAs (Decidable (raw ≤ 1))
  | .button _ => isTrue trivial

theorem lowestDevice_holdsControls : lowestDevice.HoldsControls := by
  have holds : ∀ control ∈ controls,
      control.Holds (lowestDevice.holding control.address) := by
    decide +kernel
  exact holds

namespace CacheState

/-- The temperature is set while a poll waits. -/
def temperatureSet : List CacheAction :=
  [.write 5 215, .poll, .acquire 0, .answer 0]

theorem panel_stays_sound_temperature :
    ∃ state, (cacheMachine (.still lowestDevice)).run temperatureSet =
        some state ∧ state.PanelSound := by
  have finishes : ((cacheMachine (.still lowestDevice)).run
      temperatureSet).isSome := rfl
  obtain ⟨state, ran⟩ := Option.isSome_iff_exists.mp finishes
  have writes : (EntityCommand.setNativeValue temperatureSetpoint
      21.5).Writes 5 215 := by
    refine .of_raw ⟨mem_controls.mpr List.mem_cons_self, trivial⟩ ?_
    decide +kernel
  refine ⟨state, ran, panel_stays_sound (.still lowestDevice)
    (fun _ _ _ => lowestDevice_holdsControls) ran ?_⟩
  intro action member
  simp only [temperatureSet, List.mem_cons, List.not_mem_nil,
    or_false] at member
  rcases member with rfl | rfl | rfl | rfl
  · exact ⟨_, writes⟩
  · trivial
  · trivial
  · trivial

end CacheState

end Airfi
