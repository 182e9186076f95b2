import Airfi.Entries.Forms
import Airfi.Platforms.Descriptors

/-!
# Coordinators and devices of the entries

What a coordinator is constructed with, and the device info that entities
copy from it when their platform adds them.  Both are read from the entry at
one moment and used until the next reload.
-/

namespace Airfi

/-- What `AirfiCoordinator.__init__` reads from the entry. -/
structure CoordinatorSettings where
  name : String
  /-- `update_interval`, in seconds. -/
  updateInterval : Nat
  client : AirfiModbusClient

/-- `DeviceInfo`, without the manufacturer. -/
structure DeviceInfo where
  /-- The entry id of `identifiers`. -/
  identifier : EntryId
  name : String
  model : Option String
  hwVersion : Option String
  swVersion : Option String
  configurationUrl : String

/-- `PLATFORMS`. -/
inductive Platform where
  | binarySensor
  | button
  | number
  | select
  | sensor
  | switch
  deriving DecidableEq

namespace ConfigEntry

def coordinator (entry : ConfigEntry) : Option CoordinatorSettings :=
  entry.client.map fun client =>
    { name := s!"Airfi {entry.data.host}"
      updateInterval := entry.options.scanInterval.getD defaultScanInterval
      client }

/-- `device_info`, with the data that the coordinator publishes. -/
def deviceInfo (entry : ConfigEntry) (data : Option AirfiData) :
    DeviceInfo :=
  { identifier := entry.entryId
    name := entry.title
    model := entry.data.deviceType.map modelName
    hwVersion := (data.bind fun data => data.input 1).map formatVersion
    swVersion := (data.bind fun data => data.input 2).map formatVersion
    configurationUrl := s!"http://{entry.data.host}" }

end ConfigEntry

structure DeviceState where
  setup : SetupState
  coordinators : EntryId → Option CoordinatorSettings
  /-- `coordinator.data`, `None` until the first refresh. -/
  data : EntryId → Option AirfiData
  /-- What the entities of each platform were added with, since the latest
  construction of the coordinator. -/
  devices : EntryId → Platform → Option DeviceInfo

inductive DeviceAction where
  | setup (action : SetupAction)
  /-- A refresh or a write of the coordinator sets its data. -/
  | publish (entry : EntryId) (data : AirfiData)
  /-- A platform adds its entities. -/
  | addEntities (entry : EntryId) (platform : Platform)

namespace DeviceState

def initial : DeviceState :=
  { setup := .initial
    coordinators := fun _ => none
    data := fun _ => none
    devices := fun _ _ => none }

def entry? (state : DeviceState) (id : EntryId) : Option ConfigEntry :=
  state.setup.flows.entries.find? fun entry => decide (entry.entryId = id)

/-- `AirfiCoordinator(hass, entry)`, which has no data and no entities yet. -/
def construct (state : DeviceState) : SetupAction → DeviceState
  | .entry id .construct =>
      { state with
        coordinators := Function.update state.coordinators id
          ((state.entry? id).bind ConfigEntry.coordinator)
        data := Function.update state.data id none
        devices := Function.update state.devices id fun _ => none }
  | _ => state

/-- `async_config_entry_first_refresh` returns only with data. -/
def refreshes (state : DeviceState) : SetupAction → Bool
  | .entry id (.refreshed true) => (state.data id).isSome
  | _ => true

def setDevice (state : DeviceState) (id : EntryId) (platform : Platform)
    (info : DeviceInfo) : DeviceState :=
  { state with
    devices := Function.update state.devices id
      (Function.update (state.devices id) platform (some info)) }

def step (state : DeviceState) : DeviceAction → Option DeviceState
  | .setup action =>
      if state.refreshes action then
        match state.setup.step action with
        | some setup => some { state.construct action with setup }
        | none => none
      else none
  | .publish id data =>
      match state.coordinators id with
      | some _ =>
          some { state with
            data := Function.update state.data id (some data) }
      | none => none
  | .addEntities id platform =>
      match (state.setup.runtimes id).stage, state.entry? id,
        state.devices id platform with
      | .forwarding _, some entry, none =>
          some (state.setDevice id platform
            (entry.deviceInfo (state.data id)))
      | _, _, _ => none

end DeviceState

/-- A platform adds its entities while the coordinator has this data. -/
def AddsEntities (id : EntryId) (platform : Platform) (data : AirfiData)
    (state : DeviceState) (action : DeviceAction) : Prop :=
  action = .addEntities id platform ∧ state.data id = some data

/-- A setup comes to its platforms by a first refresh. -/
theorem EntryRuntime.forwarding_of_step {entry : ConfigEntry}
    {runtime next : EntryRuntime} {action : RuntimeAction}
    (stepped : runtime.step entry action = some next)
    {client : AirfiModbusClient} (forwards : next.stage = .forwarding client) :
    action = .refreshed true ∨
      action = .scheduleReload ∧ runtime.stage = .forwarding client := by
  cases change_of_step stepped with
  | refreshed stage => exact .inl rfl
  | scheduled => exact .inr ⟨rfl, forwards⟩
  | refused pending stage =>
      rw [stage] at forwards
      cases forwards
  | _ => cases forwards

namespace DeviceState

variable {state next : DeviceState} {action : DeviceAction}
  {added : EntryId → Platform → AirfiData → Prop}

/-- The coordinator is what the entry gives now, and so is the device of each
platform, for data that it was added with. -/
structure Describes (added : EntryId → Platform → AirfiData → Prop)
    (state : DeviceState) (entry : ConfigEntry) : Prop where
  coordinator : state.coordinators entry.entryId = entry.coordinator
  devices : ∀ platform info,
    state.devices entry.entryId platform = some info →
      ∃ data, added entry.entryId platform data ∧
        info = entry.deviceInfo (some data)

theorem Describes.congr {entry : ConfigEntry}
    (describes : state.Describes added entry)
    (coordinators : next.coordinators entry.entryId =
      state.coordinators entry.entryId)
    (devices : next.devices entry.entryId = state.devices entry.entryId) :
    next.Describes added entry where
  coordinator := coordinators.trans describes.coordinator
  devices := by
    rw [devices]
    exact describes.devices

structure Described (added : EntryId → Platform → AirfiData → Prop)
    (state : DeviceState) : Prop where
  current : state.setup.Current
  refreshed : ∀ id client,
    (state.setup.runtimes id).stage = .forwarding client →
      (state.data id).isSome
  upToDate : ∀ entry ∈ state.setup.flows.entries,
    (state.setup.runtimes entry.entryId).pendingReloads = 0 →
      ∀ client,
        (state.setup.runtimes entry.entryId).stage.client? = some client →
          state.Describes added entry

theorem Described.mono {more : EntryId → Platform → AirfiData → Prop}
    (described : state.Described added)
    (grows : ∀ id platform data, added id platform data →
      more id platform data) : state.Described more where
  current := described.current
  refreshed := described.refreshed
  upToDate := by
    intro entry member settled client held
    have before := described.upToDate entry member settled client held
    refine ⟨before.coordinator, ?_⟩
    intro platform info given
    obtain ⟨data, happened, same⟩ := before.devices platform info given
    exact ⟨data, grows _ _ _ happened, same⟩

/-- Scheduling a reload leaves nothing settled that was not. -/
theorem settled_of_scheduleReload {setup : SetupState}
    {scheduled : Option EntryId} {id : EntryId}
    (settled :
      ((setup.scheduleReload scheduled).runtimes id).pendingReloads = 0) :
    (setup.runtimes id).pendingReloads = 0 ∧ scheduled ≠ some id := by
  cases scheduled with
  | none => exact ⟨settled, (Option.some_ne_none id).symm⟩
  | some other =>
      by_cases same : id = other
      · rw [same, SetupState.scheduleReload_self] at settled
        exact absurd settled (Nat.succ_ne_zero _)
      · have kept : (setup.scheduleReload (some other)).runtimes id =
            setup.runtimes id := Function.update_of_ne same ..
        rw [kept] at settled
        exact ⟨settled, fun equal => same (Option.some.inj equal).symm⟩

theorem Described.flow (described : state.Described added)
    {action : FlowAction} {flows : FlowState}
    (stepped : state.setup.flows.step action = some flows) :
    { state with
      setup := { state.setup with flows }.scheduleReload
        (scheduledReload state.setup.flows.entries action) }.Described
          added where
  current := described.current.flow stepped
  refreshed := by
    intro id client forwards
    rw [SetupState.scheduleReload_stage] at forwards
    exact described.refreshed id client forwards
  upToDate := by
    intro entry member settled client held
    rw [SetupState.scheduleReload_flows] at member
    rw [SetupState.scheduleReload_stage] at held
    obtain ⟨before, unscheduled⟩ := settled_of_scheduleReload settled
    rcases FlowState.entry_of_step stepped member with
      old | scheduled | fresh
    · exact (described.upToDate entry old before client held).congr rfl rfl
    · exact absurd scheduled unscheduled
    · rw [described.current.unknown entry.entryId (Nat.le_of_eq fresh.symm)]
        at held
      cases held

/-- A construction touches no other entry. -/
theorem construct_of_ne {id other : EntryId} {action : RuntimeAction}
    (different : other ≠ id) :
    (state.construct (.entry id action)).coordinators other =
        state.coordinators other ∧
      (state.construct (.entry id action)).data other = state.data other ∧
      (state.construct (.entry id action)).devices other =
        state.devices other := by
  cases action with
  | construct =>
      exact ⟨Function.update_of_ne different ..,
        Function.update_of_ne different .., Function.update_of_ne different ..⟩
  | _ => exact ⟨rfl, rfl, rfl⟩

theorem describes_construct {entry : ConfigEntry}
    (found : state.entry? entry.entryId = some entry) :
    (state.construct (.entry entry.entryId .construct)).Describes added
      entry where
  coordinator := by
    simp only [construct, Function.update_self, found, Option.bind_some]
  devices := by
    intro platform info given
    simp only [construct, Function.update_self] at given
    cases given

theorem construct_of_not {id : EntryId} {action : RuntimeAction}
    (other : action ≠ .construct) :
    state.construct (.entry id action) = state := by
  cases action with
  | construct => exact absurd rfl other
  | _ => rfl

theorem Described.entry (described : state.Described added)
    {entry : ConfigEntry} (found : state.entry? entry.entryId = some entry)
    {action : RuntimeAction} {runtime : EntryRuntime}
    (refreshes : state.refreshes (.entry entry.entryId action) = true)
    (stepped : (state.setup.runtimes entry.entryId).step entry action =
      some runtime) :
    { state.construct (.entry entry.entryId action) with
      setup := state.setup.setRuntime entry.entryId runtime }.Described
        added where
  current := described.current.entry (List.mem_of_find?_eq_some found) stepped
  refreshed := by
    intro id client forwards
    by_cases same : id = entry.entryId
    · simp only [SetupState.setRuntime, same, Function.update_self]
        at forwards
      rw [same]
      rcases EntryRuntime.forwarding_of_step stepped forwards with
        rfl | ⟨rfl, before⟩
      · exact refreshes
      · exact described.refreshed entry.entryId client before
    · simp only [SetupState.setRuntime, Function.update_of_ne same]
        at forwards
      rw [(@construct_of_ne state entry.entryId id action same).2.1]
      exact described.refreshed id client forwards
  upToDate := by
    have member := List.mem_of_find?_eq_some found
    intro other otherMember settled client held
    by_cases same : other.entryId = entry.entryId
    · obtain rfl := described.current.coherent.entries.eq_of_entryId
        otherMember member same
      simp only [SetupState.setRuntime, Function.update_self]
        at settled held
      by_cases constructs : action = .construct
      · rw [constructs]
        exact (describes_construct found).congr rfl rfl
      · rcases EntryRuntime.client?_of_step stepped held with
          ⟨before, unsettled⟩ | ⟨constructed, -⟩
        · rw [construct_of_not constructs]
          exact (described.upToDate other member (unsettled settled) client
            before).congr rfl rfl
        · exact absurd constructed constructs
    · simp only [SetupState.setRuntime, Function.update_of_ne same]
        at settled held
      obtain ⟨coordinators, -, devices⟩ :=
        @construct_of_ne state entry.entryId other.entryId action same
      exact (described.upToDate other otherMember settled client held).congr
        coordinators devices

theorem Described.publish (described : state.Described added)
    (id : EntryId) (data : AirfiData) :
    { state with
      data := Function.update state.data id (some data) }.Described
        added where
  current := described.current
  refreshed := by
    intro other client forwards
    by_cases same : other = id
    · simp only [same, Function.update_self, Option.isSome_some]
    · simp only [Function.update_of_ne same]
      exact described.refreshed other client forwards
  upToDate := fun entry member settled client held =>
    (described.upToDate entry member settled client held).congr rfl rfl

theorem Described.addEntities (described : state.Described added)
    {entry : ConfigEntry} (found : state.entry? entry.entryId = some entry)
    {platform : Platform} {data : AirfiData}
    (published : state.data entry.entryId = some data)
    (adds : added entry.entryId platform data) :
    (state.setDevice entry.entryId platform
      (entry.deviceInfo (state.data entry.entryId))).Described added where
  current := described.current
  refreshed := described.refreshed
  upToDate := by
    intro other member settled client held
    have before := described.upToDate other member settled client held
    by_cases same : other.entryId = entry.entryId
    · obtain rfl := described.current.coherent.entries.eq_of_entryId member
        (List.mem_of_find?_eq_some found) same
      refine ⟨before.coordinator, ?_⟩
      intro shown info given
      simp only [setDevice, Function.update_self] at given
      by_cases own : shown = platform
      · rw [own, Function.update_self] at given
        rw [own]
        refine ⟨data, adds, ?_⟩
        rw [← published]
        exact (Option.some.inj given).symm
      · rw [Function.update_of_ne own] at given
        exact before.devices shown info given
    · exact before.congr rfl (Function.update_of_ne same ..)

/-- A step keeps what is described, the entities that it adds counted in. -/
theorem Described.step (described : state.Described added)
    (adds : ∀ id platform data,
      AddsEntities id platform data state action → added id platform data)
    (stepped : state.step action = some next) : next.Described added := by
  cases action with
  | setup action =>
      obtain ⟨refreshes, stepped⟩ :=
        Option.ite_none_right_eq_some.mp stepped
      split at stepped <;> cases stepped
      case h_1 setup setupStepped =>
        cases action with
        | flow action =>
            obtain ⟨flows, flowStepped, rfl⟩ :=
              SetupState.of_step_flow setupStepped
            exact described.flow flowStepped
        | entry id action =>
            obtain ⟨entry, runtime, found, -, rfl, runtimeStepped, rfl⟩ :=
              SetupState.of_step_entry setupStepped
            exact described.entry found refreshes runtimeStepped
  | publish id data =>
      simp only [DeviceState.step] at stepped
      split at stepped <;> cases stepped
      exact described.publish id data
  | addEntities id platform =>
      simp only [DeviceState.step] at stepped
      split at stepped
      case h_1 client entry stage found unset =>
        cases stepped
        have matched := List.find?_some found
        obtain rfl : entry.entryId = id := of_decide_eq_true matched
        obtain ⟨data, published⟩ := Option.isSome_iff_exists.mp
          (described.refreshed entry.entryId client stage)
        exact described.addEntities found published
          (adds _ _ _ ⟨rfl, published⟩)
      case h_2 => cases stepped

end DeviceState

end Airfi
