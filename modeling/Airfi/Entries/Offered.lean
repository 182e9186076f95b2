import Airfi.Discovery.Announcement
import Airfi.Entries.Coherence
import Airfi.OrderedDict

/-!
# What discovery offers

The devices that one listening window finds, the options that a flow offers
of them, and the entry that submitting one of them creates.
-/

namespace Airfi

open Packing

/-- The bytes of a datagram and the address that it came from. -/
abbrev Datagram := List UInt8 × String

/-- `datagram_received`: the device that is passed on, with its serial. -/
def datagramReceived (datagram : Datagram) : Option (Nat × DiscoveredDevice) :=
  (parseAnnouncement datagram.1 datagram.2).map fun device =>
    (device.serial, device)

/-- `async_discover_devices` for the datagrams of its window. -/
def asyncDiscoverDevices (datagrams : List Datagram) :
    List DiscoveredDevice :=
  (OrderedDict.ofFirst (datagrams.filterMap datagramReceived)).values

namespace FlowState

/-- `_devices` of `async_step_discover`. -/
def devices (state : FlowState) (found : List DiscoveredDevice) :
    OrderedDict String DiscoveredDevice :=
  OrderedDict.ofLast ((state.offered found).map fun device =>
    (serialId device.serial, device))

/-- The options of the selection form, each a value with its label. -/
def selectOptions (devices : OrderedDict String DiscoveredDevice) :
    List (String × String) :=
  devices.map fun item =>
    (item.1, s!"{modelName item.2.deviceType} (SN {item.2.serial}) — " ++
      item.2.ip)

end FlowState

/-- What happens to a flow during its window: the devices that the datagrams
announce, then the end of the window. -/
def discoveryWindow (id : FlowId) (datagrams : List Datagram) :
    List FlowAction :=
  (datagrams.filterMap datagramReceived).map
      (fun item => .datagram id item.2) ++ [.discovered id]

/-! ## The fields of a datagram -/

/-- The serial in bytes 6 to 9. -/
def carriedSerial (data : List UInt8) : Nat :=
  valueOf ((data.drop 6).take 4)

/-- The device type in bytes 11 to 14. -/
def carriedType (data : List UInt8) : Nat :=
  valueOf ((data.drop 11).take 4)

/-- A datagram of 15 bytes with this serial. -/
def Carries (data : List UInt8) (serial : Nat) : Prop :=
  data.length = 15 ∧ carriedSerial data = serial

/-- The first datagram that carries the serial. -/
def FirstCarrier (datagrams : List Datagram) (serial : Nat)
    (datagram : Datagram) : Prop :=
  ∃ before after, datagrams = before ++ datagram :: after ∧
    Carries datagram.1 serial ∧
      ∀ earlier ∈ before, ¬ Carries earlier.1 serial

theorem parseAnnouncement_fields {data : List UInt8}
    (size : data.length = 15) (sourceIp : String) :
    ∃ udpPort protocolVersion,
      parseAnnouncement data sourceIp =
        some
          { ip := sourceIp
            udpPort
            serial := carriedSerial data
            protocolVersion
            deviceType := carriedType data } := by
  refine ⟨valueOf ((data.drop 4).take 2), valueOf ((data.drop 10).take 1), ?_⟩
  have long : ∀ taken width, taken + width ≤ 15 →
      width ≤ (data.drop taken).length := by
    intro taken width within
    rw [List.length_drop, size]
    omega
  have rest : data.drop 15 = [] := List.drop_eq_nil_of_le (Nat.le_of_eq size)
  rw [parseAnnouncement_eq size, identityFormat, unsignedInt, unsignedShort,
    unsignedChar, unpack_cons (long 4 2 (by decide)), List.drop_drop,
    unpack_cons (long 6 4 (by decide)), List.drop_drop,
    unpack_cons (long 10 1 (by decide)), List.drop_drop,
    unpack_cons (long 11 4 (by decide)), List.drop_drop, rest]
  rfl

theorem received_of_carries {datagram : Datagram} {serial : Nat}
    (carries : Carries datagram.1 serial) :
    ∃ device, datagramReceived datagram = some (serial, device) := by
  obtain ⟨size, rfl⟩ := carries
  obtain ⟨udpPort, protocolVersion, parsed⟩ :=
    parseAnnouncement_fields size datagram.2
  exact ⟨_, by rw [datagramReceived, parsed]; rfl⟩

/-- A device that is passed on has the serial and the type that its datagram
carries and the address that it came from. -/
theorem carries_of_received {datagram : Datagram} {serial : Nat}
    {device : DiscoveredDevice}
    (received : datagramReceived datagram = some (serial, device)) :
    Carries datagram.1 serial ∧ device.serial = serial ∧
      device.ip = datagram.2 ∧
      device.deviceType = carriedType datagram.1 := by
  obtain ⟨parsed, accepted, pair⟩ := Option.map_eq_some_iff.mp received
  have size : datagram.1.length = 15 :=
    parseAnnouncement_isSome_iff.mp
      (Option.isSome_iff_exists.mpr ⟨parsed, accepted⟩)
  obtain ⟨udpPort, protocolVersion, fields⟩ :=
    parseAnnouncement_fields size datagram.2
  rw [fields] at accepted
  cases accepted
  cases pair
  exact ⟨⟨size, rfl⟩, rfl, rfl, rfl⟩

/-! ## The devices of a window -/

section Window

variable {datagrams : List Datagram}

theorem not_carries_iff_unheard {before : List Datagram} {serial : Nat} :
    serial ∉ (before.filterMap datagramReceived).map Prod.fst ↔
      ∀ earlier ∈ before, ¬ Carries earlier.1 serial := by
  constructor
  · intro unheard earlier member carries
    obtain ⟨device, received⟩ := received_of_carries carries
    exact unheard (List.mem_map.mpr
      ⟨_, List.mem_filterMap.mpr ⟨earlier, member, received⟩, rfl⟩)
  · intro silent heard
    obtain ⟨⟨_, device⟩, member, rfl⟩ := List.mem_map.mp heard
    obtain ⟨earlier, earlierMember, received⟩ := List.mem_filterMap.mp member
    exact silent earlier earlierMember (carries_of_received received).1

theorem firstCarrier_of_mem {serial : Nat} {device : DiscoveredDevice}
    (member : (serial, device) ∈
      OrderedDict.ofFirst (datagrams.filterMap datagramReceived)) :
    ∃ datagram, FirstCarrier datagrams serial datagram ∧
      datagramReceived datagram = some (serial, device) := by
  obtain ⟨before, after, split, unheard⟩ := OrderedDict.mem_ofFirst.mp member
  obtain ⟨front, back, rfl, frontEq, backEq⟩ :=
    List.filterMap_eq_append_iff.mp split
  obtain ⟨junk, datagram, rest, rfl, silent, received, -⟩ :=
    List.filterMap_eq_cons_iff.mp backEq
  refine ⟨datagram, ⟨front ++ junk, rest, by simp,
    (carries_of_received received).1, ?_⟩, received⟩
  rw [← frontEq] at unheard
  intro earlier earlierMember
  rcases List.mem_append.mp earlierMember with inFront | inJunk
  · exact not_carries_iff_unheard.mp unheard earlier inFront
  · intro carries
    obtain ⟨other, heard⟩ := received_of_carries carries
    rw [silent earlier inJunk] at heard
    cases heard

theorem mem_of_firstCarrier {serial : Nat} {datagram : Datagram}
    (first : FirstCarrier datagrams serial datagram) :
    ∃ device, (serial, device) ∈
        OrderedDict.ofFirst (datagrams.filterMap datagramReceived) ∧
      datagramReceived datagram = some (serial, device) := by
  obtain ⟨before, after, rfl, carries, silent⟩ := first
  obtain ⟨device, received⟩ := received_of_carries carries
  refine ⟨device, OrderedDict.mem_ofFirst.mpr
    ⟨before.filterMap datagramReceived, after.filterMap datagramReceived,
      ?_, not_carries_iff_unheard.mpr silent⟩, received⟩
  rw [List.filterMap_append, List.filterMap_cons, received]

/-- Every found device is kept under its own serial. -/
theorem serial_of_mem {item : Nat × DiscoveredDevice}
    (member : item ∈
      OrderedDict.ofFirst (datagrams.filterMap datagramReceived)) :
    item.2.serial = item.1 := by
  obtain ⟨datagram, -, received⟩ := firstCarrier_of_mem member
  exact (carries_of_received received).2.1

theorem mem_asyncDiscoverDevices {device : DiscoveredDevice} :
    device ∈ asyncDiscoverDevices datagrams ↔
      ∃ datagram, FirstCarrier datagrams device.serial datagram ∧
        datagramReceived datagram = some (device.serial, device) := by
  constructor
  · intro found
    obtain ⟨⟨serial, _⟩, member, rfl⟩ := List.mem_map.mp found
    have own := serial_of_mem member
    simp only at own
    rw [own]
    exact firstCarrier_of_mem member
  · rintro ⟨datagram, first, received⟩
    obtain ⟨other, member, receivedOther⟩ := mem_of_firstCarrier first
    rw [received] at receivedOther
    cases receivedOther
    exact List.mem_map.mpr ⟨_, member, rfl⟩

theorem nodup_serials :
    ((asyncDiscoverDevices datagrams).map
      DiscoveredDevice.serial).Nodup := by
  have serials : (asyncDiscoverDevices datagrams).map
      DiscoveredDevice.serial =
        (OrderedDict.ofFirst (datagrams.filterMap datagramReceived)).keys := by
    rw [asyncDiscoverDevices, OrderedDict.values, List.map_map]
    exact List.map_congr_left fun item member => serial_of_mem member
  rw [serials]
  exact OrderedDict.nodup_keys_ofFirst _

end Window

/-! ## The flow -/

namespace FlowState

variable {state : FlowState} {id : FlowId} {uniqueId : Option String}

theorem setFlow_same {flow : Option ConfigFlow}
    (same : state.flows id = flow) : state.setFlow id flow = state := by
  rw [setFlow, ← same, Function.update_eq_self]

theorem setFlow_setFlow (first second : Option ConfigFlow) :
    (state.setFlow id first).setFlow id second = state.setFlow id second := by
  rw [setFlow, setFlow, setFlow, Function.update_idem]

theorem flows_setFlow (flow : Option ConfigFlow) :
    (state.setFlow id flow).flows id = flow :=
  Function.update_self ..

/-- One announced device, kept as `setdefault` keeps it. -/
theorem step_datagram {dict : OrderedDict Nat DiscoveredDevice}
    (own : ∀ item ∈ dict, item.2.serial = item.1)
    (listening : state.flows id =
      some { uniqueId, step := .discovering dict.values })
    {item : Nat × DiscoveredDevice} (ownItem : item.2.serial = item.1) :
    state.step (.datagram id item.2) =
      some (state.setFlow id
        (some
          { uniqueId
            step := .discovering (dict.setDefault item).values })) := by
  have known : (∃ other ∈ dict.values, other.serial = item.2.serial) ↔
      item.1 ∈ dict.keys := by
    rw [ownItem]
    constructor
    · rintro ⟨_, member, same⟩
      obtain ⟨old, oldMember, rfl⟩ := List.mem_map.mp member
      exact List.mem_map.mpr ⟨old, oldMember,
        (own old oldMember).symm.trans same⟩
    · intro member
      obtain ⟨old, oldMember, same⟩ := List.mem_map.mp member
      exact ⟨old.2, List.mem_map.mpr ⟨old, oldMember, rfl⟩,
        (own old oldMember).trans same⟩
  simp only [FlowState.step, listening]
  rw [OrderedDict.setDefault]
  by_cases old : item.1 ∈ dict.keys
  · rw [if_pos (known.mpr old), if_pos old, setFlow_same listening]
  · rw [if_neg (mt known.mp old), if_neg old, OrderedDict.values,
      OrderedDict.values, List.map_append]
    rfl

theorem runFrom_datagrams {dict : OrderedDict Nat DiscoveredDevice}
    (own : ∀ item ∈ dict, item.2.serial = item.1)
    {items : List (Nat × DiscoveredDevice)}
    (ownItems : ∀ item ∈ items, item.2.serial = item.1)
    (listening : state.flows id =
      some { uniqueId, step := .discovering dict.values }) :
    flowMachine.runFrom state
        (items.map fun item => .datagram id item.2) =
      some (state.setFlow id
        (some
          { uniqueId
            step := .discovering
              (items.foldl OrderedDict.setDefault dict).values })) := by
  induction items generalizing state dict with
  | nil => exact congrArg some (setFlow_same listening).symm
  | cons item rest ih =>
      have ownItem := ownItems item List.mem_cons_self
      have stepped : flowMachine.step state (.datagram id item.2) =
          some (state.setFlow id
            (some
              { uniqueId
                step := .discovering (dict.setDefault item).values })) :=
        step_datagram own listening ownItem
      have ownNext : ∀ other ∈ dict.setDefault item,
          other.2.serial = other.1 := by
        intro other member
        rw [OrderedDict.setDefault] at member
        split at member
        · exact own other member
        · rcases List.mem_append.mp member with old | new
          · exact own other old
          · rw [List.mem_singleton.mp new]
            exact ownItem
      rw [List.map_cons, Machine.runFrom, stepped]
      simp only
      rw [ih ownNext
        (fun other member => ownItems other (List.mem_cons_of_mem _ member))
        (flows_setFlow _), setFlow_setFlow]
      rfl

/-- Where `async_step_discover` goes with the devices it offers. -/
def stepAfterDiscovery : List DiscoveredDevice → FlowStep
  | [] => .manual
  | first :: rest => .selectDevice (first :: rest)

theorem stepAfterDiscovery_of_ne_nil {offers : List DiscoveredDevice}
    (someLeft : offers ≠ []) :
    stepAfterDiscovery offers = .selectDevice offers := by
  cases offers with
  | nil => exact absurd rfl someLeft
  | cons first rest => rfl

theorem stepAfterDiscovery_manual {offers : List DiscoveredDevice} :
    stepAfterDiscovery offers = .manual ↔ offers = [] := by
  constructor
  · intro manual
    by_contra someLeft
    rw [stepAfterDiscovery_of_ne_nil someLeft] at manual
    cases manual
  · intro noneLeft
    rw [noneLeft]
    rfl

theorem step_discovered {found : List DiscoveredDevice}
    (listening : state.flows id =
      some { uniqueId, step := .discovering found }) :
    state.step (.discovered id) =
      some (state.setFlow id
        (some
          { uniqueId
            step := stepAfterDiscovery (state.offered found) })) := by
  simp only [FlowState.step, listening]
  rw [discover]
  cases state.offered found <;> rfl

theorem runFrom_discoveryWindow (datagrams : List Datagram)
    (listening : state.flows id =
      some { uniqueId, step := .discovering [] }) :
    flowMachine.runFrom state (discoveryWindow id datagrams) =
      some (state.setFlow id
        (some
          { uniqueId
            step := stepAfterDiscovery
              (state.offered (asyncDiscoverDevices datagrams)) })) := by
  have ownItems : ∀ item ∈ datagrams.filterMap datagramReceived,
      item.2.serial = item.1 := by
    rintro ⟨serial, device⟩ member
    obtain ⟨datagram, -, received⟩ := List.mem_filterMap.mp member
    exact (carries_of_received received).2.1
  have heard : flowMachine.runFrom state
      ((datagrams.filterMap datagramReceived).map
        fun item => .datagram id item.2) =
      some (state.setFlow id
        (some
          { uniqueId
            step := .discovering (asyncDiscoverDevices datagrams) })) :=
    @runFrom_datagrams state id uniqueId []
      (fun _ member => absurd member List.not_mem_nil) _ ownItems listening
  have discovered : flowMachine.step
      (state.setFlow id
        (some
          { uniqueId
            step := .discovering (asyncDiscoverDevices datagrams) }))
      (.discovered id) = _ :=
    step_discovered (flows_setFlow _)
  rw [discoveryWindow, Machine.runFrom_append, heard, Option.bind_some,
    Machine.runFrom, discovered, setFlow_setFlow]
  rfl

/-! ## Options -/

theorem nodup_offered (state : FlowState) (datagrams : List Datagram) :
    ((state.offered (asyncDiscoverDevices datagrams)).map fun device =>
      serialId device.serial).Nodup := by
  have serials : ((state.offered (asyncDiscoverDevices datagrams)).map
      DiscoveredDevice.serial).Nodup :=
    nodup_serials.sublist (List.filter_sublist.map _)
  have ids := serials.map serialId_injective
  rwa [List.map_map] at ids

/-- The options do not merge devices. -/
theorem devices_eq (state : FlowState) (datagrams : List Datagram) :
    state.devices (asyncDiscoverDevices datagrams) =
      (state.offered (asyncDiscoverDevices datagrams)).map fun device =>
        (serialId device.serial, device) := by
  apply OrderedDict.ofLast_of_nodup
  rw [List.map_map]
  exact nodup_offered state datagrams

theorem keys_devices (state : FlowState) (datagrams : List Datagram) :
    (state.devices (asyncDiscoverDevices datagrams)).keys =
      (state.offered (asyncDiscoverDevices datagrams)).map fun device =>
        serialId device.serial := by
  rw [devices_eq, OrderedDict.keys, List.map_map]
  rfl

theorem values_devices (state : FlowState) (datagrams : List Datagram) :
    (state.devices (asyncDiscoverDevices datagrams)).values =
      state.offered (asyncDiscoverDevices datagrams) := by
  rw [devices_eq, OrderedDict.values, List.map_map]
  exact List.map_id _

theorem keys_devices_eq_nil (state : FlowState)
    (datagrams : List Datagram) :
    (state.devices (asyncDiscoverDevices datagrams)).keys = [] ↔
      state.offered (asyncDiscoverDevices datagrams) = [] := by
  rw [keys_devices, List.map_eq_nil_iff]

theorem mem_offered {found : List DiscoveredDevice}
    {device : DiscoveredDevice} :
    device ∈ state.offered found ↔
      device ∈ found ∧
        (∀ entry ∈ state.entries,
          entry.uniqueId ≠ serialId device.serial) ∧
        ∀ entry ∈ state.entries, entry.data.host ≠ device.ip := by
  rw [offered, List.mem_filter, decide_eq_true_iff, configured]
  simp only [not_exists, not_and, ne_eq]

end FlowState

/-- A datagram carried the serial, no entry has it for its unique id, and no
entry has the address that the first such datagram came from. -/
def Offers (entries : List ConfigEntry) (datagrams : List Datagram)
    (serial : Nat) : Prop :=
  ∃ datagram, FirstCarrier datagrams serial datagram ∧
    (∀ entry ∈ entries, entry.uniqueId ≠ serialId serial) ∧
    ∀ entry ∈ entries, entry.data.host ≠ datagram.2

/-- What the flow has become when its window ends. -/
structure WindowEnds (state next : FlowState) (id : FlowId)
    (uniqueId : Option String) (datagrams : List Datagram)
    (devices : OrderedDict String DiscoveredDevice) : Prop where
  options : (FlowState.selectOptions devices).map Prod.fst = devices.keys
  offers : ∀ serial, serialId serial ∈ devices.keys ↔
    Offers state.entries datagrams serial
  serials : ∀ option ∈ devices.keys, ∃ serial, option = serialId serial
  distinct : devices.keys.Nodup
  manual : next.flows id = some { uniqueId, step := .manual } ↔
    devices.keys = []
  selects : devices.keys ≠ [] →
    next.flows id =
      some { uniqueId, step := .selectDevice devices.values }
  /-- Submitting an option creates the entry of the device, unless another
  flow in progress holds its unique id. -/
  creates : ∀ serial datagram, serialId serial ∈ devices.keys →
    FirstCarrier datagrams serial datagram →
      next.inProgress id (serialId serial) ∨
        ∃ created title,
          flowMachine.step next (.selectDevice id (serialId serial)) =
              some created ∧
            created.entries = state.entries ++
              [{ entryId := state.nextEntry
                 title
                 uniqueId := serialId serial
                 data :=
                   { host := datagram.2
                     port := some defaultPort
                     modbusId := none
                     serial := some serial
                     deviceType := some (carriedType datagram.1) }
                 options := { scanInterval := none, modbusId := none } }]

section Offered

variable {state : FlowState} {datagrams : List Datagram}

theorem eq_of_serial {first second : DiscoveredDevice}
    (firstFound : first ∈ asyncDiscoverDevices datagrams)
    (secondFound : second ∈ asyncDiscoverDevices datagrams)
    (same : first.serial = second.serial) : first = second :=
  List.inj_on_of_nodup_map nodup_serials firstFound secondFound same

/-- An offered serial belongs to one offered device, with the address and the
type of the first datagram that carried the serial. -/
theorem exists_offered {serial : Nat}
    (offered : serialId serial ∈
      (state.devices (asyncDiscoverDevices datagrams)).keys) :
    ∃ device ∈ state.offered (asyncDiscoverDevices datagrams),
      device.serial = serial ∧
        ∀ datagram, FirstCarrier datagrams serial datagram →
          device.ip = datagram.2 ∧
            device.deviceType = carriedType datagram.1 := by
  rw [FlowState.keys_devices] at offered
  obtain ⟨device, member, same⟩ := List.mem_map.mp offered
  have own : device.serial = serial := serialId_injective same
  refine ⟨device, member, own, ?_⟩
  intro datagram first
  obtain ⟨other, otherMember, received⟩ := mem_of_firstCarrier first
  obtain ⟨-, otherSerial, ip, deviceType⟩ := carries_of_received received
  have otherFound : other ∈ asyncDiscoverDevices datagrams :=
    List.mem_map.mpr ⟨_, otherMember, rfl⟩
  have equal : device = other :=
    eq_of_serial (FlowState.mem_offered.mp member).1 otherFound
      (own.trans otherSerial.symm)
  rw [equal]
  exact ⟨ip, deviceType⟩

theorem mem_keys_devices {serial : Nat} :
    serialId serial ∈ (state.devices (asyncDiscoverDevices datagrams)).keys ↔
      Offers state.entries datagrams serial := by
  constructor
  · intro offered
    obtain ⟨device, member, rfl, fields⟩ := exists_offered offered
    obtain ⟨found, unconfigured, elsewhere⟩ := FlowState.mem_offered.mp member
    obtain ⟨datagram, first, -⟩ := mem_asyncDiscoverDevices.mp found
    refine ⟨datagram, first, unconfigured, ?_⟩
    rw [← (fields datagram first).1]
    exact elsewhere
  · rintro ⟨datagram, first, unconfigured, elsewhere⟩
    obtain ⟨device, member, received⟩ := mem_of_firstCarrier first
    obtain ⟨-, own, ip, -⟩ := carries_of_received received
    have found : device ∈ asyncDiscoverDevices datagrams :=
      List.mem_map.mpr ⟨_, member, rfl⟩
    rw [← ip] at elsewhere
    rw [← own] at unconfigured ⊢
    rw [FlowState.keys_devices]
    exact List.mem_map.mpr
      ⟨device, FlowState.mem_offered.mpr ⟨found, unconfigured, elsewhere⟩, rfl⟩

theorem find?_offered {device : DiscoveredDevice}
    (member : device ∈ state.offered (asyncDiscoverDevices datagrams)) :
    ((state.offered (asyncDiscoverDevices datagrams)).find? fun other =>
      decide (serialId other.serial = serialId device.serial)) =
        some device := by
  have present : ((state.offered (asyncDiscoverDevices datagrams)).find?
      fun other =>
        decide (serialId other.serial = serialId device.serial)).isSome :=
    List.find?_isSome.mpr ⟨device, member, decide_eq_true rfl⟩
  obtain ⟨other, found⟩ := Option.isSome_iff_exists.mp present
  have matched := List.find?_some found
  have same : serialId other.serial = serialId device.serial :=
    of_decide_eq_true matched
  have equal : other = device :=
    eq_of_serial
      (FlowState.mem_offered.mp (List.mem_of_find?_eq_some found)).1
      (FlowState.mem_offered.mp member).1 (serialId_injective same)
  rw [found, equal]

/-- Submitting an offered device creates its entry or finds another flow in
progress with its unique id. -/
theorem selectDevice_offered {id : FlowId} {uniqueId : Option String}
    {device : DiscoveredDevice} {next : FlowState}
    (member : device ∈ state.offered (asyncDiscoverDevices datagrams))
    (entries : next.entries = state.entries)
    (nextEntry : next.nextEntry = state.nextEntry)
    (selecting : next.flows id =
      some
        { uniqueId
          step := .selectDevice
            (state.offered (asyncDiscoverDevices datagrams)) }) :
    next.inProgress id (serialId device.serial) ∨
      ∃ created title,
        flowMachine.step next (.selectDevice id (serialId device.serial)) =
            some created ∧
          created.entries = state.entries ++
            [{ entryId := state.nextEntry
               title
               uniqueId := serialId device.serial
               data :=
                 { host := device.ip
                   port := some defaultPort
                   modbusId := none
                   serial := some device.serial
                   deviceType := some device.deviceType }
               options := { scanInterval := none, modbusId := none } }] := by
  by_cases busy : next.inProgress id (serialId device.serial)
  · exact .inl busy
  · right
    have unconfigured : ¬ next.configured (serialId device.serial) := by
      rintro ⟨entry, entryMember, same⟩
      rw [entries] at entryMember
      exact (FlowState.mem_offered.mp member).2.1 entry entryMember same
    have selected : flowMachine.step next
        (.selectDevice id (serialId device.serial)) =
          some (next.selectDevice id device) := by
      simp only [flowMachine, FlowState.step, selecting,
        find?_offered member]
    refine ⟨_, s!"{modelName device.deviceType} {device.serial}", selected, ?_⟩
    rw [FlowState.selectDevice, if_neg busy, if_neg unconfigured, ← entries,
      ← nextEntry]
    rfl

end Offered

/-- Discovery offers exactly the devices whose serial and first address are
not taken, and submitting one creates the entry that its first datagram
describes. -/
theorem discovery_offers_exactly {state : FlowState} {id : FlowId}
    {uniqueId : Option String} (datagrams : List Datagram)
    (listening : state.flows id =
      some { uniqueId, step := .discovering [] }) :
    ∃ next,
      flowMachine.runFrom state (discoveryWindow id datagrams) = some next ∧
        WindowEnds state next id uniqueId datagrams
          (state.devices (asyncDiscoverDevices datagrams)) := by
  refine ⟨_, FlowState.runFrom_discoveryWindow datagrams listening, ?_⟩
  constructor
  case options =>
    rw [FlowState.selectOptions, List.map_map]
    rfl
  case offers => exact fun serial => mem_keys_devices
  case serials =>
    intro option member
    rw [FlowState.keys_devices] at member
    obtain ⟨device, -, rfl⟩ := List.mem_map.mp member
    exact ⟨device.serial, rfl⟩
  case distinct =>
    rw [FlowState.keys_devices]
    exact FlowState.nodup_offered state datagrams
  case manual =>
    rw [FlowState.flows_setFlow, FlowState.keys_devices_eq_nil]
    constructor
    · intro manual
      exact FlowState.stepAfterDiscovery_manual.mp
        (congrArg ConfigFlow.step (Option.some.inj manual))
    · intro noneLeft
      rw [FlowState.stepAfterDiscovery_manual.mpr noneLeft]
  case selects =>
    intro someLeft
    have offersLeft := (FlowState.keys_devices_eq_nil state datagrams).not.mp
      someLeft
    rw [FlowState.flows_setFlow,
      FlowState.stepAfterDiscovery_of_ne_nil offersLeft,
      FlowState.values_devices]
  case creates =>
    intro serial datagram offered first
    obtain ⟨device, member, rfl, fields⟩ := exists_offered offered
    obtain ⟨ip, deviceType⟩ := fields datagram first
    rw [← ip, ← deviceType]
    have selecting : (state.setFlow id
        (some
          { uniqueId
            step := FlowState.stepAfterDiscovery
              (state.offered (asyncDiscoverDevices datagrams)) })).flows id =
        some
          { uniqueId
            step := .selectDevice
              (state.offered (asyncDiscoverDevices datagrams)) } := by
      rw [FlowState.flows_setFlow,
        FlowState.stepAfterDiscovery_of_ne_nil (List.ne_nil_of_mem member)]
    exact selectDevice_offered member rfl rfl selecting

/-- Unit 11 from two addresses, the known unit 7, and a truncated packet. -/
def windowOfUnit11 : List Datagram :=
  [([0, 0, 0, 0, 160, 15, 11, 0, 0, 0, 1, 3, 0, 0], "10.0.0.10"),
    ([0, 0, 0, 0, 160, 15, 11, 0, 0, 0, 1, 3, 0, 0, 0], "10.0.0.11"),
    ([0, 0, 0, 0, 160, 15, 7, 0, 0, 0, 1, 3, 0, 0, 0], "10.0.0.17"),
    ([0, 0, 0, 0, 160, 15, 11, 0, 0, 0, 1, 4, 0, 0, 0], "10.0.0.12")]

/-- A third flow listens while two entries exist. -/
theorem discovery_offers_exactly_unit_11 :
    ∃ state next,
      flowMachine.run (selectAndManual ++ [.openFlow, .chooseDiscover 2]) =
        some state ∧
      flowMachine.runFrom state (discoveryWindow 2 windowOfUnit11) =
        some next ∧
      (state.devices (asyncDiscoverDevices windowOfUnit11)).keys = ["11"] ∧
      WindowEnds state next 2 none windowOfUnit11
        (state.devices (asyncDiscoverDevices windowOfUnit11)) := by
  have finishes : (flowMachine.run
      (selectAndManual ++ [.openFlow, .chooseDiscover 2])).isSome := rfl
  obtain ⟨state, ran⟩ := Option.isSome_iff_exists.mp finishes
  have listens : state.flows 2 =
        some { uniqueId := none, step := .discovering [] } ∧
      (state.devices (asyncDiscoverDevices windowOfUnit11)).keys = ["11"] := by
    cases ran
    exact ⟨rfl, rfl⟩
  obtain ⟨listening, options⟩ := listens
  obtain ⟨next, ended, ends⟩ :=
    discovery_offers_exactly windowOfUnit11 listening
  exact ⟨state, next, ran, ended, options, ends⟩

end Airfi
