import Airfi.Platforms.Descriptors

/-!
# Controls and their commands

The writable entities, the raw values that each stands for, what a command of
one asks its coordinator to write, and the state that the entity shows once
the register holds what was written.
-/

namespace Airfi

/-- A writable entity, named by its descriptor. -/
inductive Control where
  | number (register : AirfiNumberRegister)
  | select (register : AirfiSelectRegister)
  | switch (register : AirfiSwitchRegister)
  | button (register : AirfiButtonRegister)

/-- The writable entities that the platforms set up. -/
def controls : List Control :=
  numberRegisters.map .number ++ selectRegisters.map .select ++
    switchRegisters.map .switch ++ buttonRegisters.map .button

namespace Control

/-- `self._description.address`. -/
def address : Control → Nat
  | .number register => register.address
  | .select register => register.address
  | .switch register => register.address
  | .button register => register.address

/-- The raw values that the descriptor gives a meaning. -/
def Holds (raw : Nat) : Control → Prop
  | .number register =>
      register.minValue / register.scale ≤ raw ∧
        (raw : ℚ) ≤ register.maxValue / register.scale
  | .select register => raw ∈ register.options.map Prod.fst
  | .switch _ => raw ≤ 1
  | .button _ => True

/-- The entity shows one of the states of its descriptor. -/
def ShowsState (holding : RegisterMap) : Control → Prop
  | .number register =>
      ∃ shown, register.nativeValue holding = some shown ∧
        register.minValue ≤ shown ∧ shown ≤ register.maxValue
  | .select register =>
      ∃ option ∈ register.options.map Prod.snd,
        register.currentOption holding = some option
  | .switch register => ∃ isOn, register.isOn holding = some isOn
  | .button _ => True

end Control

inductive EntityCommand where
  /-- `AirfiNumber.async_set_native_value`. -/
  | setNativeValue (register : AirfiNumberRegister) (value : ℚ)
  /-- `AirfiSelect.async_select_option`. -/
  | selectOption (register : AirfiSelectRegister) (option : String)
  /-- `AirfiSwitch.async_turn_on`. -/
  | turnOn (register : AirfiSwitchRegister)
  /-- `AirfiSwitch.async_turn_off`. -/
  | turnOff (register : AirfiSwitchRegister)
  /-- `AirfiButton.async_press`. -/
  | press (register : AirfiButtonRegister)

namespace EntityCommand

def control : EntityCommand → Control
  | .setNativeValue register _ => .number register
  | .selectOption register _ => .select register
  | .turnOn register => .switch register
  | .turnOff register => .switch register
  | .press register => .button register

/-- The raw value to write; an unknown option raises `KeyError`. -/
def raw : EntityCommand → Option Nat
  | .setNativeValue register value => some (register.rawWritten value).toNat
  | .selectOption register option => register.optionToRaw.get? option
  | .turnOn _ => some 1
  | .turnOff _ => some 0
  | .press register => some register.pressValue

/-- The arguments of `async_write_value`. -/
def write (command : EntityCommand) : Option (Nat × Nat) :=
  command.raw.map (command.control.address, ·)

/-- The entity has been set up, and the option is one that it offers. -/
def Offered (command : EntityCommand) : Prop :=
  command.control ∈ controls ∧
    match command with
    | .selectOption register option => option ∈ register.options.map Prod.snd
    | _ => True

/-- The entities on the register show what the command has written: a number
the written multiple of its scale, which is next to the set point. -/
def Shows (data : AirfiData) : EntityCommand → Prop
  | .setNativeValue register value =>
      register.nativeValue data.holding =
          some (register.rawWritten value * register.scale) ∧
        |register.rawWritten value * register.scale -
            clamp register.minValue register.maxValue value| ≤
          register.scale / 2
  | .selectOption register option =>
      register.currentOption data.holding = some option
  | .turnOn register => register.isOn data.holding = some true
  | .turnOff register => register.isOn data.holding = some false
  | .press register =>
      data.holding register.address = some register.pressValue ∧
        ∀ sensor ∈ binarySensorRegisters, sensor.registerType = .holding →
          sensor.address = register.address → sensor.isOn data = some false

end EntityCommand

/-! ## The tables -/

/-- Every holding register has exactly one control. -/
theorem control_addresses :
    (controls.map Control.address).Perm (List.range' 1 68) := by
  decide

theorem control_known {control : Control} (offered : control ∈ controls) :
    1 ≤ control.address ∧ control.address ≤ 68 := by
  have member := control_addresses.mem_iff.mp (List.mem_map_of_mem offered)
  rw [List.mem_range'_1] at member
  omega

theorem control_unique {first second : Control}
    (firstOffered : first ∈ controls) (secondOffered : second ∈ controls)
    (same : first.address = second.address) : first = second :=
  List.inj_on_of_nodup_map
    (control_addresses.nodup_iff.mpr List.nodup_range') firstOffered
    secondOffered same

theorem mem_controls {control : Control} :
    control ∈ controls ↔
      match control with
      | .number register => register ∈ numberRegisters
      | .select register => register ∈ selectRegisters
      | .switch register => register ∈ switchRegisters
      | .button register => register ∈ buttonRegisters := by
  cases control <;> simp [controls]

section Options

variable {register : AirfiSelectRegister} {option : String} {raw : Nat}

theorem options_distinct :
    ∀ register ∈ selectRegisters,
      (register.options.map Prod.fst).Nodup ∧
        (register.options.map Prod.snd).Nodup := by
  decide

theorem rawToOption_eq_some (listed : register ∈ selectRegisters) :
    register.rawToOption.get? raw = some option ↔
      (raw, option) ∈ register.options := by
  have distinct := (options_distinct register listed).1
  rw [AirfiSelectRegister.rawToOption, OrderedDict.ofLast_of_nodup distinct]
  exact OrderedDict.get?_eq_some_iff distinct

theorem optionToRaw_eq_some (listed : register ∈ selectRegisters) :
    register.optionToRaw.get? option = some raw ↔
      (raw, option) ∈ register.options := by
  have distinct : ((register.options.map Prod.swap).map Prod.fst).Nodup := by
    rw [List.map_map]
    exact (options_distinct register listed).2
  rw [AirfiSelectRegister.optionToRaw, OrderedDict.ofLast_of_nodup distinct,
    OrderedDict.get?_eq_some_iff distinct, List.mem_map]
  constructor
  · rintro ⟨⟨first, second⟩, member, same⟩
    cases same
    exact member
  · intro member
    exact ⟨(raw, option), member, rfl⟩

end Options

/-! ## What is written and what is shown -/

namespace EntityCommand

variable {command : EntityCommand} {raw : Nat}

/-- An offered command has a value to write, which its control stands for. -/
theorem exists_raw (offered : command.Offered) :
    ∃ raw, command.raw = some raw ∧ command.control.Holds raw := by
  cases command with
  | setNativeValue register value =>
      have admissible := numberRegisters_admissible register
        (mem_controls.mp offered.1)
      obtain ⟨nonneg, -⟩ := admissible.rawWritten_fits value
      have same : ((register.rawWritten value).toNat : ℚ) =
          register.rawWritten value := by
        exact_mod_cast Int.toNat_of_nonneg nonneg
      have inside := admissible.rawWritten_mem value
      rw [← same] at inside
      exact ⟨_, rfl, inside⟩
  | selectOption register option =>
      obtain ⟨listed, chosen⟩ := offered
      obtain ⟨⟨raw, _⟩, member, rfl⟩ := List.mem_map.mp chosen
      exact ⟨raw, (optionToRaw_eq_some (mem_controls.mp listed)).mpr member,
        List.mem_map_of_mem member⟩
  | turnOn register => exact ⟨1, rfl, Nat.le_refl 1⟩
  | turnOff register => exact ⟨0, rfl, Nat.zero_le 1⟩
  | press register => exact ⟨register.pressValue, rfl, trivial⟩

/-- The register holds what was written, so the entities show it. -/
theorem shows_of_raw {data : AirfiData} (offered : command.Offered)
    (asked : command.raw = some raw)
    (held : data.holding command.control.address = some raw) :
    command.Shows data := by
  have listed := mem_controls.mp offered.1
  cases command with
  | setNativeValue register value =>
      have admissible := numberRegisters_admissible register listed
      obtain ⟨nonneg, -⟩ := admissible.rawWritten_fits value
      have same : (raw : Int) = register.rawWritten value := by
        rw [← Option.some.inj asked]
        exact Int.toNat_of_nonneg nonneg
      have near := admissible.scaledValue_near value
      have shown : register.nativeValue data.holding =
          some (scaledValue (register.rawWritten value) register.scale
            false) := by
        have found : data.holding register.address = some raw := held
        rw [AirfiNumberRegister.nativeValue, found, ← same]
        rfl
      rw [admissible.scaledValue_eq] at near shown
      exact ⟨shown, near⟩
  | selectOption register option =>
      have member := (optionToRaw_eq_some listed).mp asked
      refine (congrArg (Option.bind · _) held).trans ?_
      exact (rawToOption_eq_some listed).mpr member
  | turnOn register =>
      cases asked
      exact congrArg _ held
  | turnOff register =>
      cases asked
      exact congrArg _ held
  | press register =>
      cases asked
      have pressed : register.pressValue = 0 :=
        (by decide : ∀ button ∈ buttonRegisters, button.pressValue = 0)
          register listed
      refine ⟨held, ?_⟩
      intro sensor member inHolding same
      have plain : sensor.onFor 0 = false :=
        (by decide : ∀ sensor ∈ binarySensorRegisters,
          sensor.registerType = .holding → sensor.onFor 0 = false)
          sensor member inHolding
      rw [AirfiBinarySensorRegister.isOn, inHolding, same]
      refine (congrArg _ held).trans ?_
      rw [pressed, Option.map_some, plain]

end EntityCommand

/-- A control whose register holds one of its values shows its state. -/
theorem Control.showsState_of_holds {control : Control}
    (offered : control ∈ controls) {holding : RegisterMap} {raw : Nat}
    (found : holding control.address = some raw)
    (holds : control.Holds raw) : control.ShowsState holding := by
  have listed := mem_controls.mp offered
  cases control with
  | number register =>
      obtain ⟨low, high⟩ := holds
      have admissible := numberRegisters_admissible register listed
      have shown : register.nativeValue holding =
          some (raw * register.scale) := by
        have held : holding register.address = some raw := found
        have displayed := admissible.scaledValue_eq raw
        rw [Int.cast_natCast] at displayed
        rw [AirfiNumberRegister.nativeValue, held, ← displayed]
        rfl
      exact ⟨_, shown, (div_le_iff₀ admissible.scale_pos).mp low,
        (le_div_iff₀ admissible.scale_pos).mp high⟩
  | select register =>
      obtain ⟨⟨_, option⟩, member, rfl⟩ := List.mem_map.mp holds
      refine ⟨option, List.mem_map_of_mem member, ?_⟩
      refine (congrArg (Option.bind · _) found).trans ?_
      exact (rawToOption_eq_some listed).mpr member
  | switch register => exact ⟨_, congrArg _ found⟩
  | button register => trivial

end Airfi
