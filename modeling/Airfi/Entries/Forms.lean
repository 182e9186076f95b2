import Airfi.Entries.FlowChanges
import Airfi.Entries.OptionsSafety
import Mathlib.Data.Rat.Floor

/-!
# What the forms let through

The schemas of the manual form and of the options form, and what follows from
them for the entries and for every client that is built from one: ports and
Modbus ids that a Modbus TCP frame can carry.
-/

namespace Airfi

/-- `MIN_MODBUS_ID`. -/
def minModbusId : Nat := 1

/-- `MAX_MODBUS_ID`. -/
def maxModbusId : Nat := 247

/-- `MIN_SCAN_INTERVAL`. -/
def minScanInterval : Nat := 5

/-- `MAX_SCAN_INTERVAL`. -/
def maxScanInterval : Nat := 3600

/-! ## Schemas -/

/-- `vol.All(NumberSelector(min, max), vol.Coerce(int))` for any bounds, which
Home Assistant and voluptuous provide. -/
abbrev NumberSelector := (low high : Nat) → ℚ → Option Nat

/-- What the forms rely on. -/
structure NumberSelector.Documented (selector : NumberSelector) : Prop where
  /-- What is let through is within the bounds. -/
  range : ∀ {low high value : Nat} {entered : ℚ},
    selector low high entered = some value → low ≤ value ∧ value ≤ high
  /-- A whole number within the bounds is let through as it is. -/
  whole : ∀ {low high value : Nat}, low ≤ value → value ≤ high →
    selector low high value = some value

/-- What is entered in the manual form. -/
structure ManualInput where
  host : String
  port : Option ℚ
  modbusId : Option ℚ

/-- What is entered in the options form. -/
structure OptionsInput where
  scanInterval : Option ℚ
  modbusId : Option ℚ

section Schemas

variable (selector : NumberSelector)

/-- `_PORT_SELECTOR`. -/
def portSelector : ℚ → Option Nat :=
  selector 1 65535

/-- `_MODBUS_ID_SELECTOR`. -/
def modbusIdSelector : ℚ → Option Nat :=
  selector minModbusId maxModbusId

/-- `STEP_MANUAL_SCHEMA`, which validates its defaults as well. -/
def stepManualSchema (input : ManualInput) : Option (String × Nat × Nat) := do
  let port ← portSelector selector (input.port.getD defaultPort)
  let modbusId ←
    modbusIdSelector selector (input.modbusId.getD defaultModbusId)
  some (input.host, port, modbusId)

/-- The schema of the options form. -/
def OptionsForm.schema (form : OptionsForm) (input : OptionsInput) :
    Option EntryOptions := do
  let scanInterval ← selector minScanInterval maxScanInterval
    (input.scanInterval.getD form.scanInterval)
  let modbusId ← modbusIdSelector selector (input.modbusId.getD form.modbusId)
  some { scanInterval := some scanInterval, modbusId := some modbusId }

end Schemas

def ValidPort (port : Nat) : Prop := 1 ≤ port ∧ port ≤ 65535

def ValidModbusId (modbusId : Nat) : Prop :=
  minModbusId ≤ modbusId ∧ modbusId ≤ maxModbusId

def ValidScanInterval (seconds : Nat) : Prop :=
  minScanInterval ≤ seconds ∧ seconds ≤ maxScanInterval

section Schemas

variable {selector : NumberSelector}

theorem stepManualSchema_range (documented : selector.Documented)
    {input : ManualInput} {host : String} {port modbusId : Nat}
    (accepted :
      stepManualSchema selector input = some (host, port, modbusId)) :
    ValidPort port ∧ ValidModbusId modbusId := by
  simp only [stepManualSchema, Option.bind_eq_bind, Option.bind_eq_some_iff,
    Option.some.injEq, Prod.mk.injEq] at accepted
  obtain ⟨port, portSelected, modbusId, idSelected, -, rfl, rfl⟩ := accepted
  exact ⟨documented.range portSelected, documented.range idSelected⟩

/-- The manual form can be submitted with nothing but a host. -/
theorem stepManualSchema_default (documented : selector.Documented)
    (host : String) :
    stepManualSchema selector ⟨host, none, none⟩ =
      some (host, defaultPort, defaultModbusId) := by
  have port : portSelector selector defaultPort = some defaultPort :=
    documented.whole (by decide) (by decide)
  have modbusId :
      modbusIdSelector selector defaultModbusId = some defaultModbusId :=
    documented.whole (by decide) (by decide)
  simp only [stepManualSchema, Option.getD_none, port, modbusId]
  rfl

/-- Saved options are in range. -/
structure EntryOptions.Valid (options : EntryOptions) : Prop where
  scanInterval : ∀ seconds ∈ options.scanInterval, ValidScanInterval seconds
  modbusId : ∀ modbusId ∈ options.modbusId, ValidModbusId modbusId

theorem OptionsForm.schema_valid (documented : selector.Documented)
    {form : OptionsForm} {input : OptionsInput} {options : EntryOptions}
    (accepted : form.schema selector input = some options) :
    options.Valid := by
  simp only [schema, Option.bind_eq_bind, Option.bind_eq_some_iff,
    Option.some.injEq] at accepted
  obtain ⟨seconds, intervalSelected, modbusId, idSelected, rfl⟩ := accepted
  constructor
  · rintro _ ⟨⟩
    exact documented.range intervalSelected
  · rintro _ ⟨⟩
    exact documented.range idSelected

end Schemas

/-! ## Entries and clients -/

structure ConfigEntry.Valid (entry : ConfigEntry) : Prop where
  port : ∀ port ∈ entry.data.port, ValidPort port
  modbusId : ∀ modbusId ∈ entry.data.modbusId, ValidModbusId modbusId
  options : entry.options.Valid

structure AirfiModbusClient.Valid (client : AirfiModbusClient) : Prop where
  port : ValidPort client.port
  deviceId : ValidModbusId client.deviceId

namespace ConfigEntry

variable {entry : ConfigEntry}

theorem Valid.currentModbusId (valid : entry.Valid) :
    ValidModbusId entry.currentModbusId := by
  rw [ConfigEntry.currentModbusId]
  cases saved : entry.options.modbusId with
  | some modbusId => exact valid.options.modbusId _ saved
  | none =>
      cases given : entry.data.modbusId with
      | some modbusId => exact valid.modbusId _ given
      | none => exact (by decide : 1 ≤ 1 ∧ 1 ≤ 247)

theorem Valid.clientWith (valid : entry.Valid) {modbusId : Nat}
    (validId : ValidModbusId modbusId) {client : AirfiModbusClient}
    (built : entry.clientWith modbusId = some client) : client.Valid := by
  obtain ⟨port, found, rfl⟩ := Option.map_eq_some_iff.mp built
  exact ⟨valid.port port found, validId⟩

end ConfigEntry

/-! ## Flows -/

namespace FlowState

variable {state next : FlowState} {action : FlowAction}

/-- The flow is suspended in `_validate_connection`. -/
def Validating (state : FlowState) (id : FlowId) (port modbusId : Nat) :
    Prop :=
  ∃ uniqueId host, state.flows id =
    some { uniqueId, step := .validating host port modbusId }

structure Valid (state : FlowState) : Prop where
  coherent : state.Coherent
  entries : ∀ entry ∈ state.entries, entry.Valid
  validating : ∀ id port modbusId, state.Validating id port modbusId →
    ValidPort port ∧ ValidModbusId modbusId

/-- Only a manual submission starts a connection test. -/
theorem Validating.of_step {id : FlowId} {port modbusId : Nat}
    (validating : next.Validating id port modbusId)
    (stepped : state.step action = some next) :
    state.Validating id port modbusId ∨
      ∃ host given givenId, action = .submitManual id host given givenId ∧
        port = given.getD defaultPort ∧
          modbusId = givenId.getD defaultModbusId := by
  obtain ⟨uniqueId, host, found⟩ := validating
  rcases flow_of_step stepped found with before | change
  · exact .inl ⟨uniqueId, host, before⟩
  · cases change with
    | plain empty settled => exact absurd rfl (settled host port modbusId)
    | submitted => exact .inr ⟨_, _, _, rfl, rfl, rfl⟩

/-- What is submitted has passed the schema of its form. -/
def Accepted (selector : NumberSelector) : FlowAction → Prop
  | .submitManual _ host port modbusId => ∃ input validPort validId,
      stepManualSchema selector input = some (host, validPort, validId) ∧
        port = some validPort ∧ modbusId = some validId
  | .saveOptions _ options => options.Valid
  | _ => True

theorem Valid.step {selector : NumberSelector}
    (documented : selector.Documented) (valid : state.Valid)
    (accepted : Accepted selector action)
    (stepped : state.step action = some next) : next.Valid where
  coherent := valid.coherent.step stepped
  entries := by
    cases stepped_of_step stepped with
    | moved moves =>
        rw [moves.same_entries.1]
        exact valid.entries
    | submitted found unmatched free unconfigured => exact valid.entries
    | created origin =>
        intro entry member
        rcases List.mem_append.mp member with old | new
        · exact valid.entries entry old
        · rw [List.mem_singleton] at new
          rw [new]
          have unsaved : (EntryOptions.mk none none).Valid := by
            constructor <;> intro _ given <;> cases given
          cases origin with
          | selected found chosen free unconfigured =>
              refine ⟨?_, ?_, unsaved⟩
              · rintro _ ⟨⟩
                exact (by decide : 1 ≤ 502 ∧ 502 ≤ 65535)
              · intro _ given
                cases given
          | validated found =>
              obtain ⟨portValid, idValid⟩ :=
                valid.validating _ _ _ ⟨_, _, found⟩
              refine ⟨?_, ?_, unsaved⟩
              · rintro _ ⟨⟩
                exact portValid
              · rintro _ ⟨⟩
                exact idValid
    | @saved id options =>
        intro entry member
        obtain ⟨old, oldMember, rfl⟩ := mem_updateEntry.mp member
        have before := valid.entries old oldMember
        split
        case isTrue => exact ⟨before.port, before.modbusId, accepted⟩
        case isFalse => exact before
    | announced =>
        obtain ⟨change, changed, kept, -⟩ :=
          valid.coherent.entries.announced_oneChanged
            (handleAnnouncement_announced state.entries _)
        intro entry member
        rw [announce, changed] at member
        obtain ⟨old, oldMember, rfl⟩ := List.mem_map.mp member
        obtain ⟨-, samePort, sameModbusId, sameOptions⟩ := kept old oldMember
        have before := valid.entries old oldMember
        constructor
        · rw [samePort]
          exact before.port
        · rw [sameModbusId]
          exact before.modbusId
        · rw [sameOptions]
          exact before.options
  validating := by
    intro id port modbusId validating
    rcases validating.of_step stepped with
      before | ⟨host, given, givenId, rfl, rfl, rfl⟩
    · exact valid.validating id port modbusId before
    · obtain ⟨input, validPort, validId, schema, rfl, rfl⟩ := accepted
      exact stepManualSchema_range documented schema

end FlowState

/-! ## Setups -/

/-- A client was there before, no more up to date than it is now, or the entry
has just given it. -/
theorem EntryRuntime.client?_of_step {entry : ConfigEntry}
    {runtime next : EntryRuntime} {action : RuntimeAction}
    (stepped : runtime.step entry action = some next)
    {client : AirfiModbusClient} (held : next.stage.client? = some client) :
    runtime.stage.client? = some client ∧
        (next.pendingReloads = 0 → runtime.pendingReloads = 0) ∨
      action = .construct ∧ entry.client = some client := by
  cases change_of_step stepped with
  | constructed stage given =>
      cases held
      exact .inr ⟨rfl, given⟩
  | refreshed stage =>
      cases held
      rw [stage]
      exact .inl ⟨rfl, id⟩
  | loaded stage =>
      cases held
      rw [stage]
      exact .inl ⟨rfl, id⟩
  | scheduled =>
      exact .inl ⟨held, fun settled => absurd settled (Nat.succ_ne_zero _)⟩
  | refused pending stage =>
      rw [stage] at held
      cases held
  | _ => cases held

namespace SetupState

variable {state next : SetupState} {action : SetupAction}

structure Valid (state : SetupState) : Prop where
  flows : state.flows.Valid
  clients : ∀ id client, (state.runtimes id).stage.client? = some client →
    client.Valid

def Accepted (selector : NumberSelector) : SetupAction → Prop
  | .flow action => FlowState.Accepted selector action
  | .entry _ _ => True

theorem Valid.step {selector : NumberSelector}
    (documented : selector.Documented) (valid : state.Valid)
    (accepted : Accepted selector action)
    (stepped : state.step action = some next) : next.Valid := by
  cases action with
  | flow action =>
      obtain ⟨flows, flowStepped, rfl⟩ := of_step_flow stepped
      constructor
      · rw [scheduleReload_flows]
        exact valid.flows.step documented accepted flowStepped
      · intro id client held
        rw [scheduleReload_stage] at held
        exact valid.clients id client held
  | entry id action =>
      obtain ⟨entry, runtime, -, member, -, runtimeStepped, rfl⟩ :=
        of_step_entry stepped
      refine ⟨valid.flows, ?_⟩
      intro other client held
      by_cases same : other = id
      · simp only [setRuntime, same, Function.update_self] at held
        have entryValid := valid.flows.entries entry member
        rcases EntryRuntime.client?_of_step runtimeStepped held with
          ⟨before, -⟩ | ⟨-, given⟩
        · exact valid.clients id client before
        · exact entryValid.clientWith entryValid.currentModbusId given
      · simp only [setRuntime, Function.update_of_ne same] at held
        exact valid.clients other client held

end SetupState

/-! ## Options flows -/

namespace OptionsState

variable {selector : NumberSelector} {state next : OptionsState}
  {action : OptionsAction}

structure ValidForm (form : OptionsForm) : Prop where
  scanInterval : ValidScanInterval form.scanInterval
  modbusId : ValidModbusId form.modbusId

structure ValidProbe (probe : OptionsProbe) : Prop where
  input : probe.input.Valid
  current : ValidModbusId probe.currentModbusId
  client : probe.client.Valid
  asked : ValidModbusId probe.askedId

structure Valid (state : OptionsState) : Prop where
  setup : state.setup.Valid
  forms : ∀ id form, state.forms id = some form → ValidForm form
  probes : ∀ id probe, state.probes id = some probe → ValidProbe probe

/-- What is submitted has passed the schema of its form. -/
def Accepted (selector : NumberSelector) (state : OptionsState) :
    OptionsAction → Prop
  | .setup action => SetupState.Accepted selector action
  | .submit id entered => ∀ form ∈ state.forms id,
      ∃ input, form.schema selector input = some (form.fill entered)
  | _ => True

theorem validForm_of_entry {entry : ConfigEntry} (valid : entry.Valid)
    {modbusId : Nat} (validId : ValidModbusId modbusId) :
    ValidForm (entry.optionsForm modbusId) where
  scanInterval := by
    rw [ConfigEntry.optionsForm]
    cases saved : entry.options.scanInterval with
    | some seconds => exact valid.options.scanInterval _ saved
    | none => exact (by decide : 5 ≤ 30 ∧ 30 ≤ 3600)
  modbusId := validId

theorem Valid.setForm (valid : state.Valid) {id : FlowId}
    {form : Option OptionsForm}
    (validForm : ∀ new, form = some new → ValidForm new) :
    (state.setForm id form).Valid where
  setup := valid.setup
  forms := by
    intro other shown found
    by_cases same : other = id
    · simp only [OptionsState.setForm, same, Function.update_self] at found
      exact validForm shown found
    · simp only [OptionsState.setForm, Function.update_of_ne same] at found
      exact valid.forms other shown found
  probes := valid.probes

theorem Valid.setProbe (valid : state.Valid) {id : ProbeId}
    {probe : Option OptionsProbe}
    (validProbe : ∀ new, probe = some new → ValidProbe new) :
    (state.setProbe id probe).Valid where
  setup := valid.setup
  forms := valid.forms
  probes := by
    intro other asked found
    by_cases same : other = id
    · simp only [OptionsState.setProbe, same, Function.update_self] at found
      exact validProbe asked found
    · simp only [OptionsState.setProbe, Function.update_of_ne same] at found
      exact valid.probes other asked found

theorem Valid.createEntry (documented : selector.Documented)
    (valid : state.Valid) {form : FlowId} {id : EntryId}
    {input : EntryOptions} (validInput : input.Valid)
    (created : state.createEntry form id input = some next) :
    next.Valid := by
  rw [OptionsState.createEntry] at created
  split at created <;> cases created
  case h_1 setup stepped =>
    have closed : (state.setForm form none).Valid := valid.setForm (by simp)
    exact ⟨@SetupState.Valid.step _ _ (.flow (.saveOptions id input))
      selector documented valid.setup validInput stepped, closed.forms,
      closed.probes⟩

/-- A probe asks the running client of the entry, or a new one. -/
theorem Valid.probeClient (valid : state.Valid) {entry : ConfigEntry}
    (member : entry ∈ state.setup.flows.entries) {modbusId : Nat}
    (validId : ValidModbusId modbusId) {client : AirfiModbusClient}
    {deviceId : Option Nat}
    (chosen : state.probeClient entry modbusId = some (client, deviceId)) :
    client.Valid := by
  rw [OptionsState.probeClient] at chosen
  split at chosen
  case h_1 running stage =>
    cases chosen
    exact valid.setup.clients entry.entryId _ (by rw [stage]; rfl)
  case h_2 =>
    obtain ⟨built, builtEq, pair⟩ := Option.map_eq_some_iff.mp chosen
    cases pair
    exact (valid.setup.flows.entries entry member).clientWith validId builtEq

theorem Valid.asyncStepInit (documented : selector.Documented)
    (valid : state.Valid) {form : FlowId} {entry : ConfigEntry}
    (member : entry ∈ state.setup.flows.entries)
    {input : EntryOptions} (validInput : input.Valid)
    (filled : input.modbusId.isSome)
    (stepped : state.asyncStepInit form entry input = some next) :
    next.Valid := by
  obtain ⟨modbusId, given⟩ := Option.isSome_iff_exists.mp filled
  have validId := validInput.modbusId modbusId given
  rw [OptionsState.asyncStepInit, given, Option.getD_some] at stepped
  split at stepped
  case isTrue =>
    split at stepped <;> cases stepped
    case h_1 client deviceId chosen =>
      have suspended : (state.setProbe state.nextProbe
          (some
            { form
              entryId := entry.entryId
              input
              currentModbusId := entry.currentModbusId
              client
              deviceId })).Valid := by
        apply valid.setProbe
        rintro new ⟨⟩
        refine ⟨validInput, ?_, valid.probeClient member validId chosen, ?_⟩
        · exact (valid.setup.flows.entries entry member).currentModbusId
        · rw [OptionsProbe.askedId, askedId_of_probeClient chosen]
          exact validId
      exact ⟨suspended.setup, suspended.forms, suspended.probes⟩
    case h_2 => exact valid
  case isFalse => exact valid.createEntry documented validInput stepped

theorem Valid.finishProbe (documented : selector.Documented)
    (valid : state.Valid) {probe : OptionsProbe}
    (validProbe : ValidProbe probe) {error : Option String}
    (stepped : state.finishProbe probe error = some next) : next.Valid := by
  cases error with
  | none =>
      rw [OptionsState.finishProbe] at stepped
      split at stepped
      case h_1 =>
        exact valid.createEntry documented validProbe.input stepped
      case h_2 =>
        cases stepped
        exact valid
  | some text =>
      rw [OptionsState.finishProbe] at stepped
      split at stepped <;> cases stepped
      case h_1 entry _ found =>
        apply valid.setForm
        rintro new ⟨⟩
        exact validForm_of_entry
          (valid.setup.flows.entries _ (entry?_eq found).1)
          validProbe.current
      case h_2 => exact valid

theorem Valid.step (documented : selector.Documented) (valid : state.Valid)
    (accepted : state.Accepted selector action)
    (stepped : state.step action = some next) : next.Valid := by
  cases action with
  | setup action =>
      obtain ⟨-, stepped⟩ := Option.ite_none_right_eq_some.mp stepped
      split at stepped <;> cases stepped
      case h_1 setup setupStepped =>
        exact ⟨valid.setup.step documented accepted setupStepped,
          valid.forms, valid.probes⟩
  | openForm id =>
      rw [OptionsState.step] at stepped
      split at stepped <;> cases stepped
      case h_1 entry found =>
        have validEntry := valid.setup.flows.entries entry (entry?_eq found).1
        have opened : (state.setForm state.nextForm
            (some (entry.optionsForm entry.currentModbusId))).Valid := by
          apply valid.setForm
          rintro new ⟨⟩
          exact validForm_of_entry validEntry validEntry.currentModbusId
        exact ⟨opened.setup, opened.forms, opened.probes⟩
  | closeForm id =>
      rw [OptionsState.step] at stepped
      split at stepped <;> cases stepped
      exact valid.setForm (by simp)
  | submit id entered =>
      rw [OptionsState.step] at stepped
      split at stepped
      case h_1 form found =>
        split at stepped
        case h_1 entry foundEntry =>
          obtain ⟨input, schema⟩ := accepted form found
          exact valid.asyncStepInit documented (entry?_eq foundEntry).1
            (OptionsForm.schema_valid documented schema) rfl stepped
        case h_2 => cases stepped
      case h_2 => cases stepped
  | probed id answers =>
      have forgotten : (state.setProbe id none).Valid :=
        valid.setProbe (by simp)
      rw [OptionsState.step] at stepped
      split at stepped
      case h_1 probe found =>
        split at stepped
        case h_1 error ended =>
          exact forgotten.finishProbe documented
            (valid.probes id probe found) stepped
        case h_2 =>
          cases stepped
          exact forgotten
      case h_2 => cases stepped

theorem valid_initial : OptionsState.initial.Valid where
  setup := by
    refine ⟨⟨FlowState.coherent_initial, ?_, ?_⟩, ?_⟩
    · intro entry member
      cases member
    · rintro id port modbusId ⟨uniqueId, host, found⟩
      cases found
    · intro id client held
      cases held
  forms := by
    intro id form found
    cases found
  probes := by
    intro id probe found
    cases found

/-- A form that is shown can be submitted as it stands. -/
theorem ValidForm.schema_default (documented : selector.Documented)
    {form : OptionsForm} (valid : ValidForm form) :
    form.schema selector ⟨none, none⟩ =
      some (form.fill ⟨none, none⟩) := by
  have interval : selector minScanInterval maxScanInterval
      form.scanInterval = some form.scanInterval :=
    documented.whole valid.scanInterval.1 valid.scanInterval.2
  have modbusId :
      modbusIdSelector selector form.modbusId = some form.modbusId :=
    documented.whole valid.modbusId.1 valid.modbusId.2
  simp only [OptionsForm.schema, Option.getD_none, interval, modbusId]
  rfl

end OptionsState

/-- While every submission has passed the schema of its form, every entry,
every client and every id that a probe asks is one that a Modbus TCP frame
can carry, and every form can be submitted as it stands. -/
theorem clients_in_range {selector : NumberSelector}
    (documented : selector.Documented) {actions : List OptionsAction}
    {state : OptionsState}
    (ran : optionsMachine.run actions = some state)
    (accepted : optionsMachine.Meets (OptionsState.Accepted selector)
      actions) :
    (∀ entry ∈ state.setup.flows.entries, entry.Valid) ∧
    (∀ id client,
      (state.setup.runtimes id).stage.client? = some client →
        client.Valid) ∧
    (∀ id port modbusId, state.setup.flows.Validating id port modbusId →
      ValidPort port ∧ ValidModbusId modbusId) ∧
    (∀ id probe, state.probes id = some probe →
      probe.client.Valid ∧ ValidModbusId probe.askedId) ∧
    ∀ id form, state.forms id = some form →
      form.schema selector ⟨none, none⟩ =
        some (form.fill ⟨none, none⟩) := by
  have valid : state.Valid :=
    Machine.invariant_of_meets (OptionsState.Accepted selector)
      OptionsState.Valid OptionsState.valid_initial
      (fun held met stepped => held.step documented met stepped) ran accepted
  refine ⟨valid.setup.flows.entries, valid.setup.clients,
    valid.setup.flows.validating, ?_, ?_⟩
  · intro id probe found
    have validProbe := valid.probes id probe found
    exact ⟨validProbe.client, validProbe.asked⟩
  · intro id form found
    exact (valid.forms id form found).schema_default documented

/-- A unit behind another port is added by hand, and its options flow asks
for another id. -/
def manualThenOptions : List OptionsAction :=
  [.setup (.flow .openFlow), .setup (.flow (.chooseManual 0)),
    .setup (.flow (.submitManual 0 " 10.0.0.8 " (some 1502) (some 1))),
    .setup (.flow (.validated 0 none)), .setup (.entry 0 .setup),
    .setup (.entry 0 .construct), .setup (.entry 0 (.refreshed true)),
    .setup (.entry 0 (.platformsSetUp true)), .openForm 0,
    .submit 0 { scanInterval := none, modbusId := some 5 }]

/-- A selector that rounds what it lets through down. -/
def flooringSelector : NumberSelector := fun low high entered =>
  if low ≤ entered ∧ entered ≤ high then some ⌊entered⌋.toNat else none

theorem flooringSelector_documented : flooringSelector.Documented where
  range := by
    intro low high value entered selected
    rw [flooringSelector, Option.ite_none_right_eq_some] at selected
    obtain ⟨⟨above, below⟩, same⟩ := selected
    obtain rfl := Option.some.inj same
    have floorAbove : (low : ℤ) ≤ ⌊entered⌋ :=
      Int.le_floor.mpr (by exact_mod_cast above)
    have floorBelow : ⌊entered⌋ ≤ (high : ℤ) := by
      have lower := (Int.floor_le entered).trans below
      exact_mod_cast lower
    omega
  whole := by
    intro low high value above below
    have inside : (low : ℚ) ≤ value ∧ (value : ℚ) ≤ high := by
      exact_mod_cast And.intro above below
    rw [flooringSelector, if_pos inside, Int.floor_natCast, Int.toNat_natCast]

theorem clients_in_range_manual_then_options :
    ∃ state, optionsMachine.run manualThenOptions = some state ∧
      (∃ client, (state.setup.runtimes 0).stage.client? = some client ∧
        client.port = 1502 ∧ client.Valid) ∧
      ∃ probe, state.probes 0 = some probe ∧ probe.askedId = 5 ∧
        ValidModbusId probe.askedId := by
  have finishes : (optionsMachine.run manualThenOptions).isSome := rfl
  obtain ⟨state, ran⟩ := Option.isSome_iff_exists.mp finishes
  have manual : stepManualSchema flooringSelector
      ⟨" 10.0.0.8 ", some 1502, none⟩ = some (" 10.0.0.8 ", 1502, 1) := by
    norm_num [stepManualSchema, portSelector, modbusIdSelector,
      flooringSelector, minModbusId, maxModbusId, defaultModbusId]
    rfl
  have options : OptionsForm.schema flooringSelector
      { entryId := 0, scanInterval := 30, modbusId := 1 } ⟨none, some 5⟩ =
        some { scanInterval := some 30, modbusId := some 5 } := by
    norm_num [OptionsForm.schema, modbusIdSelector, flooringSelector,
      minModbusId, maxModbusId, minScanInterval, maxScanInterval]
    exact ⟨rfl, rfl⟩
  have accepted : optionsMachine.Meets
      (OptionsState.Accepted flooringSelector) manualThenOptions := by
    apply Machine.meets_of_meetsFrom
    refine ⟨trivial, trivial, ⟨_, _, _, manual, rfl, rfl⟩, trivial, trivial,
      trivial, trivial, trivial, trivial, ?_, trivial⟩
    rintro form ⟨⟩
    exact ⟨_, options⟩
  obtain ⟨-, clients, -, probes, -⟩ :=
    clients_in_range flooringSelector_documented ran accepted
  have reached : (∃ client,
      (state.setup.runtimes 0).stage.client? = some client ∧
        client.port = 1502) ∧
      ∃ probe, state.probes 0 = some probe ∧ probe.askedId = 5 := by
    cases ran
    exact ⟨⟨_, rfl, rfl⟩, _, rfl, rfl⟩
  obtain ⟨⟨client, held, port⟩, probe, suspended, asked⟩ := reached
  exact ⟨state, ran, ⟨client, held, port, clients 0 client held⟩, probe,
    suspended, asked, (probes 0 probe suspended).2⟩

end Airfi
