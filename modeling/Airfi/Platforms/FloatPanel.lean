import Airfi.Platforms.Floats
import Airfi.Platforms.Panel

/-!
# The panel in floats

The runs of a coordinator in front of the simulated device with set points
that are floats.  Such a run is that of the decimals that the floats are
printed as, and each number entity shows its last set point to the nearest
raw value, digit by digit.
-/

namespace Airfi

open Binary64 Simulation

namespace EntityCommand

variable (command : EntityCommand)

/-- The set point is a float. -/
def OfFloat : EntityCommand → Prop
  | .setNativeValue _ value => IsFloat value
  | _ => True

/-- The raw value to write, of a set point that is a float. -/
def rawFloat : EntityCommand → Option Nat
  | .setNativeValue register value =>
      some (register.rawWrittenFloat value).toNat
  | command => command.raw

/-- The arguments of `async_write_value`, of a set point that is a float. -/
def writeFloat : Option (Nat × Nat) :=
  command.rawFloat.map (command.control.address, ·)

/-- The command of the decimal that the set point is printed as. -/
def printed : EntityCommand → EntityCommand
  | .setNativeValue register value => .setNativeValue register (str value)
  | command => command

variable {command}

@[simp] theorem printed_control : command.printed.control = command.control := by
  cases command <;> rfl

theorem printed_offered (offered : command.Offered) :
    command.printed.Offered := by
  cases command with
  | setNativeValue register value => exact offered
  | selectOption register option => exact offered
  | turnOn register => exact offered
  | turnOff register => exact offered
  | press register => exact offered

/-- A float is written as the decimal it is printed as. -/
theorem writeFloat_eq (offered : command.Offered) (ofFloat : command.OfFloat) :
    command.writeFloat = command.printed.write := by
  cases command with
  | setNativeValue register value =>
      have listed := mem_controls.mp offered.1
      rw [writeFloat, rawFloat, rawWrittenFloat_eq listed ofFloat]
      rfl
  | selectOption register option => rfl
  | turnOn register => rfl
  | turnOff register => rfl
  | press register => rfl

end EntityCommand

namespace PanelStep

def OfferedFloat : PanelStep → Prop
  | .refresh => True
  | .send command => command.Offered ∧ command.OfFloat

def printed : PanelStep → PanelStep
  | .refresh => .refresh
  | .send command => .send command.printed

theorem printed_offered {step : PanelStep} (offered : step.OfferedFloat) :
    step.printed.Offered := by
  cases step with
  | refresh => trivial
  | send command => exact EntityCommand.printed_offered offered.1

theorem printed_spares {address : Nat} {step : PanelStep}
    (spares : Panel.Spares address step) :
    Panel.Spares address step.printed := by
  cases step with
  | refresh => trivial
  | send command =>
      rw [printed, Panel.Spares, EntityCommand.printed_control]
      exact spares

end PanelStep

namespace Stack

def stepFloat (transport : Transport) (stack : Stack) :
    PanelStep → Option Stack
  | .refresh => ran transport stack.simulation stack.running.refresh
  | .send command =>
      match command.writeFloat with
      | some (address, value) =>
          ran transport stack.simulation
            (stack.running.asyncWriteValue address value)
      | none => none

theorem stepFloat_eq {transport : Transport} {stack : Stack}
    {step : PanelStep} (offered : step.OfferedFloat) :
    stack.stepFloat transport step = stack.step transport step.printed := by
  cases step with
  | refresh => rfl
  | send command =>
      rw [stepFloat, EntityCommand.writeFloat_eq offered.1 offered.2]
      rfl

end Stack

/-- Polls and commands with floats, one after the other. -/
def floatMachine (transport : Transport) (start : Stack) :
    Machine Stack PanelStep where
  init := start
  step := Stack.stepFloat transport

/-- Polls and commands with floats all succeed on the simulated device.  Then
each number entity shows the raw value nearest to its last set point, digit by
digit, and entering what it shows changes nothing. -/
theorem floats_reach_device (transport : Transport)
    (client : AirfiModbusClient) (unitFits : client.deviceId < 256)
    (simulation : Simulation) (wellFormed : simulation.store.WellFormed)
    (steps : List PanelStep) (offered : ∀ step ∈ steps, step.OfferedFloat) :
    ∃ start final,
      Stack.setUp transport client simulation = some start ∧
      (floatMachine transport start).runFrom start steps = some final ∧
      ∀ before register value after,
        steps = before ++ .send (.setNativeValue register value) :: after →
        (∀ step ∈ after, Panel.Spares register.address step) →
          ∃ shown,
            register.nativeFloat final.running.data.holding = some shown ∧
            str shown = register.rawWrittenFloat value * register.scale ∧
            |str shown -
                clamp register.minValue register.maxValue (str value)| ≤
              register.scale / 2 ∧
            register.rawWrittenFloat shown =
              register.rawWrittenFloat value := by
  obtain ⟨start, began, represents⟩ :=
    @Stack.setUp_represents transport client simulation unitFits wellFormed
  obtain ⟨final, ran, ended⟩ :=
    @Machine.exists_runFrom_of_simulates _ _ (floatMachine transport start)
      _ (fun stack panel =>
        stack.Represents simulation.store.inputRegisters panel)
      (fun panel step => panel.apply step.printed) PanelStep.OfferedFloat
      (fun held allowed => by
        obtain ⟨next, stepped, nextHeld⟩ :=
          held.next (PanelStep.printed_offered allowed)
        exact ⟨next, (Stack.stepFloat_eq allowed).trans stepped, nextHeld⟩)
      steps offered start _ represents
  refine ⟨start, final, began, ran, ?_⟩
  rintro before register value after rfl last
  obtain ⟨asked, isFloat⟩ := offered (.send (.setNativeValue register value))
    (List.mem_append_right _ List.mem_cons_self)
  have listed := mem_controls.mp asked.1
  obtain ⟨raw, rawEq⟩ : ∃ raw : Nat,
      register.rawWrittenFloat value = raw := by
    apply Int.eq_ofNat_of_zero_le
    rw [rawWrittenFloat_eq listed isFloat]
    exact ((numberRegisters_admissible register listed).rawWritten_fits
      (str value)).1
  have writes : (EntityCommand.setNativeValue register value).printed.Writes
      register.address raw := by
    refine ⟨EntityCommand.printed_offered asked, ?_⟩
    rw [← EntityCommand.writeFloat_eq asked isFloat,
      EntityCommand.writeFloat, EntityCommand.rawFloat, rawEq,
      Int.toNat_natCast]
    rfl
  have published := ended.published asked.1
  rw [← List.foldl_map, List.map_append, List.map_cons] at published
  have spared : ∀ step ∈ after.map PanelStep.printed,
      Panel.Spares register.address step := by
    intro step member
    obtain ⟨origin, listed, rfl⟩ := List.mem_map.mp member
    exact PanelStep.printed_spares (last origin listed)
  have contents := @Panel.foldl_last simulation.store.device.holding _ _ _
    writes (before.map PanelStep.printed) _ spared
  have held : final.running.data.holding register.address = some raw :=
    published.trans (congrArg some contents)
  have shows : register.nativeFloat final.running.data.holding =
      some (scaledFloat raw (nearest register.scale) false) := by
    rw [AirfiNumberRegister.nativeFloat, held]
    rfl
  obtain ⟨digits, near, stable⟩ := scaledFloat_of_written listed isFloat rawEq
  exact ⟨_, shows, digits.trans (by rw [rawEq]; rfl), near,
    stable.trans rawEq.symm⟩

/-- The set point whose quotient by the scale is a half in decimals only. -/
def halfStep : List PanelStep :=
  [.refresh, .send (.setNativeValue temperatureSetpoint (nearest 21.15)),
    .send (.selectOption speed "speed_2")]

theorem floats_reach_device_half_step :
    ∃ start final,
      Stack.setUp plainTransport simulatorClient ⟨.init, 0⟩ = some start ∧
      (floatMachine plainTransport start).runFrom start halfStep =
        some final ∧
      ∀ before register value after,
        halfStep = before ++ .send (.setNativeValue register value) :: after →
        (∀ step ∈ after, Panel.Spares register.address step) →
          ∃ shown,
            register.nativeFloat final.running.data.holding = some shown ∧
            str shown = register.rawWrittenFloat value * register.scale ∧
            |str shown -
                clamp register.minValue register.maxValue (str value)| ≤
              register.scale / 2 ∧
            register.rawWrittenFloat shown =
              register.rawWrittenFloat value := by
  refine floats_reach_device plainTransport simulatorClient (by decide)
    ⟨.init, 0⟩ RegisterStore.init_wellFormed _ ?_
  intro step member
  simp only [halfStep, List.mem_cons, List.not_mem_nil, or_false] at member
  rcases member with rfl | rfl | rfl
  · trivial
  · exact ⟨⟨mem_controls.mpr List.mem_cons_self, trivial⟩, isFloat_nearest _⟩
  · exact ⟨⟨mem_controls.mpr List.mem_cons_self, by decide⟩, trivial⟩

end Airfi
