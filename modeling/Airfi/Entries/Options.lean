import Airfi.Connections.Jobs
import Airfi.Entries.SetupFreshness

/-!
# Options flows

Any number of open options flows over the entries and their setups.  A
submission that changes the Modbus id is suspended in its probe while
everything else goes on, and is saved when the probe has been answered.
-/

namespace Airfi

abbrev ProbeId := Nat

/-- The form that `async_step_init` shows, with its defaults. -/
structure OptionsForm where
  entryId : EntryId
  scanInterval : Nat
  modbusId : Nat

/-- What the schema of the form makes of what the user entered. -/
def OptionsForm.fill (form : OptionsForm) (entered : EntryOptions) :
    EntryOptions :=
  { scanInterval := some (entered.scanInterval.getD form.scanInterval)
    modbusId := some (entered.modbusId.getD form.modbusId) }

/-- `async_show_form` for the entry. -/
def ConfigEntry.optionsForm (entry : ConfigEntry) (currentModbusId : Nat) :
    OptionsForm :=
  { entryId := entry.entryId
    scanInterval := entry.options.scanInterval.getD defaultScanInterval
    modbusId := currentModbusId }

/-- A submission suspended in `_async_validate_modbus_id`. -/
structure OptionsProbe where
  form : FlowId
  entryId : EntryId
  input : EntryOptions
  currentModbusId : Nat
  client : AirfiModbusClient
  deviceId : Option Nat

/-- How each effect of a probe is answered; it performs none of them twice. -/
abbrev ProbeAnswers := (effect : ClientEffect) → ClientAnswer effect

def ProbeAnswers.handler (answers : ProbeAnswers) (_ : Unit)
    (effect : ClientEffect) : ClientAnswer effect × Unit :=
  (answers effect, ())

namespace OptionsProbe

/-- What `_async_validate_modbus_id` returns or raises. -/
def error (probe : OptionsProbe) (answers : ProbeAnswers) :
    Except PyError (Option String) :=
  ((asyncValidateModbusId probe.client probe.deviceId).runWith
    answers.handler ()).1

/-- What its `read_input_register(1)` returns or raises. -/
def reading (probe : OptionsProbe) (answers : ProbeAnswers) :
    Except PyError Nat :=
  ((probe.client.readInputRegister 1 probe.deviceId).runWith
    answers.handler ()).1

/-- The id that the probe is sent to. -/
def askedId (probe : OptionsProbe) : Nat :=
  probe.deviceId.getD probe.client.deviceId

end OptionsProbe

structure OptionsState where
  setup : SetupState
  forms : FlowId → Option OptionsForm
  nextForm : FlowId
  probes : ProbeId → Option OptionsProbe
  nextProbe : ProbeId

inductive OptionsAction where
  /-- Anything that is no options save. -/
  | setup (action : SetupAction)
  | openForm (entry : EntryId)
  | closeForm (form : FlowId)
  | submit (form : FlowId) (entered : EntryOptions)
  /-- `_async_validate_modbus_id` ends. -/
  | probed (probe : ProbeId) (answers : ProbeAnswers)

/-- Saving options is left to the options flows. -/
def SetupAction.NotSaving : SetupAction → Prop
  | .flow (.saveOptions _ _) => False
  | _ => True

instance : DecidablePred SetupAction.NotSaving
  | .flow (.saveOptions _ _) => isFalse id
  | .flow .openFlow | .flow (.closeFlow _) | .flow (.chooseDiscover _)
  | .flow (.chooseManual _) | .flow (.datagram _ _) | .flow (.discovered _)
  | .flow (.selectDevice _ _) | .flow (.submitManual _ _ _ _)
  | .flow (.validated _ _) | .flow (.announce _) | .entry _ _ =>
      isTrue trivial

namespace OptionsState

def initial : OptionsState :=
  { setup := .initial
    forms := fun _ => none
    nextForm := 0
    probes := fun _ => none
    nextProbe := 0 }

def entry? (state : OptionsState) (id : EntryId) : Option ConfigEntry :=
  state.setup.flows.entries.find? fun entry => decide (entry.entryId = id)

def setForm (state : OptionsState) (id : FlowId)
    (form : Option OptionsForm) : OptionsState :=
  { state with forms := Function.update state.forms id form }

def setProbe (state : OptionsState) (id : ProbeId)
    (probe : Option OptionsProbe) : OptionsState :=
  { state with probes := Function.update state.probes id probe }

/-- `async_create_entry(data=user_input)`, which ends the flow. -/
def createEntry (state : OptionsState) (form : FlowId) (id : EntryId)
    (input : EntryOptions) : Option OptionsState :=
  match state.setup.step (.flow (.saveOptions id input)) with
  | some setup => some { state.setForm form none with setup }
  | none => none

/-- The client of the probe: the running one if the entry is loaded. -/
def probeClient (state : OptionsState) (entry : ConfigEntry)
    (modbusId : Nat) : Option (AirfiModbusClient × Option Nat) :=
  match (state.setup.runtimes entry.entryId).stage with
  | .loaded client => some (client, some modbusId)
  | _ => (entry.clientWith modbusId).map fun client => (client, none)

/-- `async_step_init` with input, up to its probe if it makes one. -/
def asyncStepInit (state : OptionsState) (form : FlowId)
    (entry : ConfigEntry) (input : EntryOptions) : Option OptionsState :=
  let newModbusId := input.modbusId.getD defaultModbusId
  if newModbusId ≠ entry.currentModbusId then
    match state.probeClient entry newModbusId with
    | some (client, deviceId) =>
        some { state.setProbe state.nextProbe
            (some
              { form
                entryId := entry.entryId
                input
                currentModbusId := entry.currentModbusId
                client
                deviceId }) with
          nextProbe := state.nextProbe + 1 }
    -- `KeyError`: the submission fails and nothing is saved
    | none => some state
  else state.createEntry form entry.entryId input

/-- The rest of `async_step_init` after its probe.  What the flow manager
gets from a flow that was removed meanwhile is dropped. -/
def finishProbe (state : OptionsState) (probe : OptionsProbe) :
    Option String → Option OptionsState
  | none =>
      match state.forms probe.form with
      | some _ => state.createEntry probe.form probe.entryId probe.input
      | none => some state
  | some _ =>
      match state.forms probe.form, state.entry? probe.entryId with
      | some _, some entry =>
          some (state.setForm probe.form
            (some (entry.optionsForm probe.currentModbusId)))
      | _, _ => some state

def step (state : OptionsState) : OptionsAction → Option OptionsState
  | .setup action =>
      if action.NotSaving then
        match state.setup.step action with
        | some setup => some { state with setup }
        | none => none
      else none
  | .openForm id =>
      match state.entry? id with
      | some entry =>
          some { state.setForm state.nextForm
              (some (entry.optionsForm entry.currentModbusId)) with
            nextForm := state.nextForm + 1 }
      | none => none
  | .closeForm id =>
      match state.forms id with
      | some _ => some (state.setForm id none)
      | none => none
  | .submit id entered =>
      match state.forms id with
      | some form =>
          match state.entry? form.entryId with
          | some entry => state.asyncStepInit id entry (form.fill entered)
          | none => none
      | none => none
  | .probed id answers =>
      match state.probes id with
      | some probe =>
          match probe.error answers with
          | .ok error => (state.setProbe id none).finishProbe probe error
          | .error _ => some (state.setProbe id none)
      | none => none

end OptionsState

/-- Every interleaving of the options flows with the setups, the config flows
and the announcements. -/
def optionsMachine : Machine OptionsState OptionsAction where
  init := .initial
  step := OptionsState.step

end Airfi
