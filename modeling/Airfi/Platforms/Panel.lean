import Airfi.Platforms.Controls
import Airfi.Platforms.Stack

/-!
# The panel of a device

Seen from its controls, a device is the contents of its holding registers.
The coordinator, its client, the frames on the wire and the simulated device
together do to the real registers and to the published data what a command
does to these contents.
-/

namespace Airfi

open Simulation

/-- What the controls are about. -/
abbrev Panel := Nat → Nat

inductive PanelStep where
  | refresh
  | send (command : EntityCommand)

def PanelStep.Offered : PanelStep → Prop
  | .refresh => True
  | .send command => command.Offered

/-- A command sets the register of its control. -/
def Panel.apply (panel : Panel) : PanelStep → Panel
  | .refresh => panel
  | .send command =>
      match command.write with
      | some (address, value) => Function.update panel address value
      | none => panel

namespace Panel

variable {panel : Panel}

theorem apply_send {command : EntityCommand} {address value : Nat}
    (writes : command.Writes address value) :
    panel.apply (.send command) = Function.update panel address value := by
  rw [apply, writes.2]

/-- The step is no command for the register. -/
def Spares (address : Nat) : PanelStep → Prop
  | .refresh => True
  | .send command => command.control.address ≠ address

theorem apply_spares {address : Nat} {step : PanelStep}
    (spares : Spares address step) :
    panel.apply step address = panel address := by
  cases step with
  | refresh => rfl
  | send command =>
      rw [apply]
      cases raw : command.raw with
      | none => rw [EntityCommand.write, raw, Option.map_none]
      | some value =>
          rw [EntityCommand.write, raw, Option.map_some]
          exact Function.update_of_ne spares.symm ..

theorem foldl_spares {address : Nat} {steps : List PanelStep}
    (spares : ∀ step ∈ steps, Spares address step) :
    steps.foldl apply panel address = panel address := by
  induction steps generalizing panel with
  | nil => rfl
  | cons step rest ih =>
      exact (ih fun later member =>
        spares later (List.mem_cons_of_mem _ member)).trans
          (apply_spares (spares step List.mem_cons_self))

/-- The last command for a register decides its contents. -/
theorem foldl_last {command : EntityCommand} {address value : Nat}
    (writes : command.Writes address value) {before after : List PanelStep}
    (last : ∀ step ∈ after, Spares address step) :
    (before ++ .send command :: after).foldl apply panel address = value := by
  rw [List.foldl_append, List.foldl_cons, foldl_spares last,
    apply_send writes, Function.update_self]

end Panel

/-- A coordinator in front of the simulated device. -/
structure Stack where
  running : RunningCoordinator
  simulation : Simulation

namespace Stack

/-- The stack after the program, `none` where the program raises. -/
def ran (transport : Transport) (simulation : Simulation)
    (program : ClientProgram (Except PyError Unit × RunningCoordinator)) :
    Option Stack :=
  match program.runWith (Simulation.handler transport) simulation with
  | (.ok (.ok (), running), simulation) => some { running, simulation }
  | _ => none

/-- The first refresh of a new coordinator. -/
def setUp (transport : Transport) (client : AirfiModbusClient)
    (simulation : Simulation) : Option Stack :=
  ran transport simulation
    (RunningCoordinator.refresh
      { coordinator := .init client
        data := { input := .empty, holding := .empty } })

def step (transport : Transport) (stack : Stack) : PanelStep → Option Stack
  | .refresh => ran transport stack.simulation stack.running.refresh
  | .send command =>
      match command.write with
      | some (address, value) =>
          ran transport stack.simulation
            (stack.running.asyncWriteValue address value)
      | none => none

/-- The stack stands for a panel, beside input registers that stay. -/
structure Represents (inputs : RegisterMap) (stack : Stack)
    (panel : Panel) : Prop where
  unitFits : stack.running.coordinator.client.deviceId < 256
  wellFormed : stack.simulation.store.WellFormed
  inputs : stack.simulation.store.inputRegisters = inputs
  holding : ∀ address, 1 ≤ address → address ≤ 68 →
    stack.simulation.store.holdingRegisters address = some (panel address)
  settled : stack.running.coordinator.Settled stack.simulation.store
  data : stack.running.data = stack.simulation.store.data
    stack.running.coordinator.inputExtension

end Stack

/-- Polls and commands, one after the other. -/
def stackMachine (transport : Transport) (start : Stack) :
    Machine Stack PanelStep where
  init := start
  step := Stack.step transport

namespace EntityCommand

variable {command : EntityCommand}

theorem exists_writes (offered : command.Offered) :
    ∃ value, command.Writes command.control.address value ∧
      value < 65536 := by
  obtain ⟨raw, asked, -⟩ := exists_raw offered
  refine ⟨raw, .of_raw offered asked, ?_⟩
  have listed := mem_controls.mp offered.1
  cases command with
  | setNativeValue register value =>
      have fits := (numberRegisters_admissible register
        listed).rawWritten_fits value
      have same : raw = (register.rawWritten value).toNat :=
        (Option.some.inj asked).symm
      omega
  | selectOption register option =>
      have member := (optionToRaw_eq_some listed).mp asked
      exact (by decide : ∀ register ∈ selectRegisters,
        ∀ item ∈ register.options, item.1 < 65536) register listed _ member
  | turnOn register =>
      cases asked
      decide
  | turnOff register =>
      cases asked
      decide
  | press register =>
      cases asked
      exact (by decide : ∀ button ∈ buttonRegisters,
        button.pressValue < 65536) register listed

end EntityCommand

namespace Stack

variable {transport : Transport} {inputs : RegisterMap} {stack : Stack}
  {panel : Panel}

theorem Represents.refresh (represents : stack.Represents inputs panel) :
    ∃ next, stack.step transport .refresh = some next ∧
      next.Represents inputs panel := by
  obtain ⟨after, ran, same⟩ := @laterUpdate_runWith transport
    stack.simulation stack.running.coordinator represents.unitFits
    represents.wellFormed represents.settled
  refine ⟨⟨⟨stack.running.coordinator, stack.simulation.store.data
    stack.running.coordinator.inputExtension⟩, after⟩, ?_, ?_⟩
  · rw [step, Stack.ran, RunningCoordinator.refresh, Coroutine.bind_eq,
      Coroutine.runWith_bind, ran]
    rfl
  · constructor
    case unitFits => exact represents.unitFits
    case wellFormed => exact same ▸ represents.wellFormed
    case inputs => exact same ▸ represents.inputs
    case holding => exact same ▸ represents.holding
    case settled => exact same ▸ represents.settled
    case data => exact same ▸ rfl

theorem Represents.send {command : EntityCommand}
    (represents : stack.Represents inputs panel)
    (offered : command.Offered) :
    ∃ next, stack.step transport (.send command) = some next ∧
      next.Represents inputs (panel.apply (.send command)) := by
  obtain ⟨value, writes, fits⟩ := command.exists_writes offered
  have known := control_known offered.1
  obtain ⟨after, ran, same⟩ :=
    @RunningCoordinator.asyncWriteValue_runWith transport stack.simulation
      stack.running represents.unitFits represents.wellFormed _
      represents.data command.control.address value known fits
  refine ⟨⟨⟨stack.running.coordinator, (stack.simulation.store.write
    command.control.address value).data
      stack.running.coordinator.inputExtension⟩, after⟩, ?_, ?_⟩
  · rw [step, writes.2]
    simp only [Stack.ran, ran]
  · rw [Panel.apply_send writes]
    constructor
    case unitFits => exact represents.unitFits
    case wellFormed =>
      rw [same]
      exact represents.wellFormed.write
        ((represents.wellFormed.defined .holding _).mpr known) fits
    case inputs =>
      rw [same]
      exact represents.inputs
    case holding =>
      intro address low high
      rw [same]
      by_cases own : address = command.control.address
      · rw [own, Function.update_self]
        exact if_pos rfl
      · rw [Function.update_of_ne own]
        exact (if_neg own).trans (represents.holding address low high)
    case settled =>
      rw [same]
      exact ⟨represents.settled.checked, represents.settled.extension⟩
    case data =>
      rw [same]

theorem Represents.next {action : PanelStep}
    (represents : stack.Represents inputs panel)
    (offered : action.Offered) :
    ∃ next, stack.step transport action = some next ∧
      next.Represents inputs (panel.apply action) := by
  cases action with
  | refresh => exact represents.refresh
  | send command => exact represents.send offered

theorem setUp_represents {client : AirfiModbusClient}
    {simulation : Simulation} (unitFits : client.deviceId < 256)
    (wellFormed : simulation.store.WellFormed) :
    ∃ start, setUp transport client simulation = some start ∧
      start.Represents simulation.store.inputRegisters
        simulation.store.device.holding := by
  obtain ⟨settled, after, ran, sameClient, checked, same⟩ :=
    @firstUpdate_runWith transport simulation (.init client) unitFits
      wellFormed rfl rfl
  refine ⟨⟨⟨settled, simulation.store.data settled.inputExtension⟩, after⟩,
    ?_, ?_⟩
  · rw [setUp, Stack.ran, RunningCoordinator.refresh, Coroutine.bind_eq,
      Coroutine.runWith_bind, ran]
    rfl
  · constructor
    case unitFits =>
      rw [sameClient]
      exact unitFits
    case wellFormed => exact same ▸ wellFormed
    case inputs => exact congrArg RegisterStore.inputRegisters same
    case holding =>
      intro address low high
      rw [same]
      exact @RegisterStore.table_eq_some simulation.store .holding address
        ((wellFormed.defined .holding address).mpr ⟨low, high⟩)
    case settled => exact same ▸ checked
    case data => rw [same]

/-- The published holding registers are the panel. -/
theorem Represents.published (represents : stack.Represents inputs panel)
    {control : Control} (offered : control ∈ controls) :
    stack.running.data.holding control.address =
      some (panel control.address) := by
  obtain ⟨low, high⟩ := control_known offered
  obtain ⟨batch, member, covers⟩ := control_covered offered
  rw [represents.data, RegisterStore.data]
  simp only [RegisterMap.restrict_covered member covers]
  exact represents.holding _ low high

end Stack

/-- Every poll and every command succeeds on the simulated device, whose
registers and whose published copy become what the commands make of the
panel, so that each entity shows the last command for its register. -/
theorem commands_reach_device (transport : Transport)
    (client : AirfiModbusClient) (unitFits : client.deviceId < 256)
    (simulation : Simulation) (wellFormed : simulation.store.WellFormed)
    (steps : List PanelStep) (offered : ∀ step ∈ steps, step.Offered) :
    ∃ start final,
      Stack.setUp transport client simulation = some start ∧
      (stackMachine transport start).runFrom start steps = some final ∧
      final.Represents simulation.store.inputRegisters
        (steps.foldl Panel.apply simulation.store.device.holding) ∧
      ∀ before command after, steps = before ++ .send command :: after →
        (∀ step ∈ after, Panel.Spares command.control.address step) →
          command.Shows final.running.data := by
  obtain ⟨start, began, represents⟩ :=
    @Stack.setUp_represents transport client simulation unitFits wellFormed
  obtain ⟨final, ran, ended⟩ :=
    @Machine.exists_runFrom_of_simulates _ _ (stackMachine transport start)
      _ (fun stack panel =>
        stack.Represents simulation.store.inputRegisters panel)
      Panel.apply PanelStep.Offered
      (fun held allowed => held.next allowed) steps offered start _
      represents
  refine ⟨start, final, began, ran, ended, ?_⟩
  rintro before command after rfl last
  have asked : command.Offered := offered (.send command)
    (List.mem_append_right _ List.mem_cons_self)
  obtain ⟨value, writes, -⟩ := command.exists_writes asked
  obtain ⟨raw, askedRaw, same⟩ := Option.map_eq_some_iff.mp writes.2
  obtain rfl : raw = value := congrArg Prod.snd same
  apply command.shows_of_raw asked askedRaw
  rw [ended.published asked.1, Panel.foldl_last writes last]

/-- The fan speed is set before a poll and direct control after it. -/
def speedAndDirectControl : List PanelStep :=
  [.send (.selectOption speed "speed_2"), .refresh,
    .send (.turnOn directControlEnabled)]

theorem commands_reach_device_speed :
    ∃ start final,
      Stack.setUp plainTransport simulatorClient ⟨.init, 0⟩ = some start ∧
      (stackMachine plainTransport start).runFrom start
        speedAndDirectControl = some final ∧
      final.Represents RegisterStore.init.inputRegisters
        (speedAndDirectControl.foldl Panel.apply
          RegisterStore.init.device.holding) ∧
      ∀ before command after,
        speedAndDirectControl = before ++ .send command :: after →
        (∀ step ∈ after, Panel.Spares command.control.address step) →
          command.Shows final.running.data := by
  refine commands_reach_device plainTransport simulatorClient (by decide)
    ⟨.init, 0⟩ RegisterStore.init_wellFormed _ ?_
  intro step member
  simp only [speedAndDirectControl, List.mem_cons, List.not_mem_nil,
    or_false] at member
  rcases member with rfl | rfl | rfl
  · exact ⟨mem_controls.mpr List.mem_cons_self, by decide⟩
  · trivial
  · exact ⟨mem_controls.mpr List.mem_cons_self, trivial⟩

end Airfi
