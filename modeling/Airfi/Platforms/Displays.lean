import Airfi.Coordinator.CacheRepair
import Airfi.Platforms.Controls

/-!
# What the entities show after a poll

A poll that reads all its batches leaves every entity with the state of its
register on the device, whatever the published data were before.
-/

namespace Airfi

/-- The entities of the registers that are polled show the device. -/
structure ShowsDevice (extension : Option Batch) (device : Device)
    (data : AirfiData) : Prop where
  sensors : ∀ register ∈ sensorRegisters,
    (register.address < 50 ∨
      ∃ batch ∈ extension, batch.Covers register.address) →
      register.nativeValue data = some (register.shown
        (device.table register.registerType register.address))
  binarySensors : ∀ register ∈ binarySensorRegisters,
    register.isOn data = some (register.onFor
      (device.table register.registerType register.address))
  controls : ∀ control ∈ controls,
    data.holding control.address = some (device.holding control.address)

section Requests

variable {extension : Option Batch}

/-- A poll reads the register. -/
def Polled (extension : Option Batch) (table : RegisterTable)
    (address : Nat) : Prop :=
  ∃ batch, (table, batch) ∈ pollRequests extension ∧ batch.Covers address

theorem polled_of_base {table : RegisterTable} {address : Nat}
    (base : ∃ request ∈ pollRequests none,
      request.1 = table ∧ request.2.Covers address) :
    Polled extension table address := by
  obtain ⟨⟨_, batch⟩, request, rfl, covers⟩ := base
  refine ⟨batch, ?_, covers⟩
  rcases List.mem_append.mp request with input | holding
  · obtain ⟨other, member, same⟩ := List.mem_map.mp input
    rw [← same]
    apply List.mem_append_left
    apply List.mem_map_of_mem
    rw [Option.toList_none, List.append_nil] at member
    exact List.mem_append_left _ member
  · exact List.mem_append_right _ holding

theorem sensor_polled {register : AirfiSensorRegister}
    (listed : register ∈ sensorRegisters)
    (served : register.address < 50 ∨
      ∃ batch ∈ extension, batch.Covers register.address) :
    Polled extension register.registerType register.address := by
  rcases served with base | ⟨batch, member, covers⟩
  · have covered : ∀ register ∈ sensorRegisters, register.address < 50 →
        ∃ request ∈ pollRequests none,
          request.1 = register.registerType ∧
            request.2.Covers register.address := by
      decide +kernel
    exact polled_of_base (covered register listed base)
  · have inInput : ∀ register ∈ sensorRegisters,
        register.registerType = .input := by
      decide +kernel
    rw [inInput register listed]
    refine ⟨batch, List.mem_append_left _ (List.mem_map_of_mem ?_), covers⟩
    exact List.mem_append_right _ (Option.mem_toList.mpr member)

theorem binarySensor_polled {register : AirfiBinarySensorRegister}
    (listed : register ∈ binarySensorRegisters) :
    Polled extension register.registerType register.address := by
  have covered : ∀ register ∈ binarySensorRegisters,
      ∃ request ∈ pollRequests none,
        request.1 = register.registerType ∧
          request.2.Covers register.address := by
    decide
  exact polled_of_base (covered register listed)

theorem control_polled {control : Control} (offered : control ∈ controls) :
    Polled extension .holding control.address := by
  obtain ⟨batch, member, covers⟩ := control_covered offered
  exact ⟨batch, List.mem_append_right _ (List.mem_map_of_mem member), covers⟩

end Requests

namespace CacheState

theorem data_table {state : CacheState} {table : RegisterTable}
    {address : Nat} {value : Stamped Nat}
    (found : state.shown table address = some value) :
    state.data.table table address = some value.value := by
  cases table <;> exact congrArg (Option.map Stamped.value) found

/-- A poll that gets all its answers leaves the entities with the state of
the device, if that has not changed since the poll began, and while it does
not change: whatever was published before, and whatever else is going on. -/
theorem poll_shows_device (first : FirstRefresh)
    {before between after : List CacheAction}
    {early state next later : CacheState} {id : TaskId}
    (ran : (cacheMachine first).run before = some early)
    (waits : early.tasks id = some .pollWaits)
    (polled : (cacheMachine first).runFrom early between = some state)
    {request : RegisterTable × Batch} {data : PollData}
    (last : state.tasks id = some (.pollReads [request] data))
    (answered : (cacheMachine first).step state (.answer id) = some next)
    (continued : (cacheMachine first).runFrom next after = some later)
    {device : Device}
    (unchanged : later.device.Since early.device.now (· = device)) :
    ShowsDevice first.extension device later.data := by
  obtain ⟨table, batch⟩ := request
  obtain rfl : state.answerPoll id table batch [] data = next := by
    simp only [cacheMachine, step, answer, last] at answered
    exact Option.some.inj answered
  have held := (cacheInvariant_of_reachable ⟨before, ran⟩).runFrom polled
  have since := (pollSince_waiting waits).runFrom polled
  have shows : ∀ table address, Polled first.extension table address →
      later.data.table table address = some (device.table table address) := by
    rintro table address ⟨covering, listed, covers⟩
    obtain ⟨value, found, same⟩ := since.repairs held last continued listed
      covers (· = device.table table address)
      (fun moment low high => by rw [unchanged moment low high])
    rw [data_table found, same]
  constructor
  case sensors =>
    intro register listed served
    rw [AirfiSensorRegister.nativeValue,
      shows _ _ (sensor_polled listed served)]
    rfl
  case binarySensors =>
    intro register listed
    rw [AirfiBinarySensorRegister.isOn,
      shows _ _ (binarySensor_polled listed)]
    rfl
  case controls =>
    intro control offered
    exact shows .holding _ (control_polled offered)

/-- The poll after the one that hid a confirmation. -/
def repairingPoll : List CacheAction :=
  [.acquire 2, .answer 2, .answer 2, .answer 2, .answer 2, .answer 2,
    .answer 2]

/-- The confirmation that was lost is repaired by the next poll. -/
theorem poll_shows_device_after_lost_confirmation :
    ∃ early state next,
      (cacheMachine zeroRefresh).run
        (pollBeforeConfirmation ++ [.answer 0, .poll]) = some early ∧
      early.data.holding 12 = some 5 ∧
      (cacheMachine zeroRefresh).runFrom early repairingPoll = some state ∧
      (cacheMachine zeroRefresh).step state (.answer 2) = some next ∧
      ShowsDevice none ⟨fun _ => 0, fun _ => 7⟩ next.data := by
  refine ⟨_, _, _, rfl, rfl, rfl, rfl, @poll_shows_device zeroRefresh
    (pollBeforeConfirmation ++ [.answer 0, .poll]) repairingPoll [] _ _ _ _ 2
    rfl rfl rfl _ _ rfl rfl rfl _ ?_⟩
  intro moment low high
  change 10 ≤ moment at low
  change moment ≤ 17 at high
  interval_cases moment <;> rfl

end CacheState

end Airfi
