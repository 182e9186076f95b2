import Airfi.Entries.AnnouncementOrder
import Airfi.Entries.Coherence

/-!
# Reloads of a stream

Every entry that a stream of announcements modifies is scheduled for a reload,
none of them twice, and units that were handled cause no further reload.
-/

namespace Airfi

/-- `_async_handle_announcement` for one datagram after the other: the entries
after them and the reloads in the order they are scheduled. -/
def handleAnnouncements (entries : List ConfigEntry) :
    List DiscoveredDevice → List ConfigEntry × List EntryId
  | [] => (entries, [])
  | device :: rest =>
      let handled := handleAnnouncement entries device
      let later := handleAnnouncements handled.1 rest
      (later.1, handled.2.toList ++ later.2)

/-- The entries that are no longer what they were. -/
def modified (before after : List ConfigEntry) : List EntryId :=
  (before.filter fun entry => decide (entry ∉ after)).map
    ConfigEntry.entryId

/-- The entries that each announcement of a stream modifies, in order. -/
def modifications (entries : List ConfigEntry) :
    List DiscoveredDevice → List EntryId
  | [] => []
  | device :: rest =>
      let after := (handleAnnouncement entries device).1
      modified entries after ++ modifications after rest

theorem EntriesCoherent.after {entries : List ConfigEntry}
    (coherent : EntriesCoherent entries) (device : DiscoveredDevice) :
    EntriesCoherent (handleAnnouncement entries device).1 :=
  coherent.announced (handleAnnouncement_announced entries device)

/-! ## What is modified is reloaded -/

/-- An entry is found unmodified exactly when it did not react. -/
theorem EntriesCoherent.mem_map_react_iff {entries : List ConfigEntry}
    (coherent : EntriesCoherent entries) {known : Prop} [Decidable known]
    {device : DiscoveredDevice} {entry : ConfigEntry}
    (member : entry ∈ entries) :
    entry ∈ entries.map (react known device) ↔
      react known device entry = entry := by
  constructor
  · intro found
    obtain ⟨other, otherMember, same⟩ := List.mem_map.mp found
    have sameId : other.entryId = entry.entryId := by
      rw [← same, react_entryId]
    have equal := coherent.eq_of_entryId otherMember member sameId
    rw [equal] at same
    exact same
  · intro still
    exact List.mem_map.mpr ⟨entry, member, still⟩

theorem modified_refl (entries : List ConfigEntry) :
    modified entries entries = [] := by
  rw [modified, List.map_eq_nil_iff, List.filter_eq_nil_iff]
  intro entry member absent
  exact of_decide_eq_true absent member

/-- An announcement modifies the entry that it reloads and no other. -/
theorem EntriesCoherent.modified_handleAnnouncement
    {entries : List ConfigEntry} (coherent : EntriesCoherent entries)
    (device : DiscoveredDevice) :
    modified entries (handleAnnouncement entries device).1 =
      (handleAnnouncement entries device).2.toList := by
  have handled := coherent.handled device
  generalize handleAnnouncement entries device = result at handled
  cases handled with
  | still unmoved => exact modified_refl entries
  | @changed reloaded member changes others =>
      have only : ∀ entry ∈ entries,
          decide (entry ∉ entries.map
            (react (Known entries device.serial) device)) =
          decide (entry = reloaded) := by
        intro entry entryMember
        rw [decide_eq_decide, coherent.mem_map_react_iff entryMember]
        constructor
        · exact fun reacts => by_contra
            fun different => reacts (others entry entryMember different)
        · intro same
          rw [same]
          exact changes
      have once : entries.count reloaded = 1 :=
        List.count_eq_one_of_mem coherent.entryIds.of_map member
      rw [modified, List.filter_congr only, List.filter_eq, once]
      rfl

theorem EntriesCoherent.modifications_eq {entries : List ConfigEntry}
    (coherent : EntriesCoherent entries)
    (devices : List DiscoveredDevice) :
    modifications entries devices =
      (handleAnnouncements entries devices).2 := by
  induction devices generalizing entries with
  | nil => rfl
  | cons device rest ih =>
      rw [modifications, handleAnnouncements,
        coherent.modified_handleAnnouncement device,
        ih (coherent.after device)]

/-! ## Settled entries -/

/-- The entry of a unit at the address of the unit. -/
def Units.Settled (units : Units) (entry : ConfigEntry) : Prop :=
  ∃ serial, entry.uniqueId = serialId serial ∧
    entry.data.serial = some serial ∧ entry.data.host = units.ip serial

def Units.SettledAt (units : Units) (entries : List ConfigEntry)
    (id : EntryId) : Prop :=
  ∀ entry ∈ entries, entry.entryId = id → units.Settled entry

section Settled

variable {units : Units} {device : DiscoveredDevice}
  (sends : units.Sends device)

include sends

theorem Units.Settled.react_eq {entry : ConfigEntry} {known : Prop}
    [Decidable known] (settled : units.Settled entry) :
    react known device entry = entry := by
  obtain ⟨serial, identified, tagged, there⟩ := settled
  by_cases same : serial = device.serial
  · rw [same] at identified there
    exact react_there identified (there.trans sends.1.symm)
  · apply react_tagged _ tagged
    rw [identified]
    exact fun sameId => same (serialId_injective sameId)

/-- An entry that reacts is settled by it. -/
theorem Units.settled_of_react {entry : ConfigEntry} {known : Prop}
    [Decidable known] (either : entry.Tagged ∨ entry.Manual)
    (reacts : react known device entry ≠ entry) :
    units.Settled (react known device entry) := by
  by_cases identified : entry.uniqueId = serialId device.serial
  · have tagged := (ConfigEntry.Tagged.of_uniqueId either identified).1
    rw [react_identified identified]
    exact ⟨device.serial, identified, tagged, sends.1⟩
  · by_cases upgrades : ¬ known ∧ entry.Upgradable device
    · rw [react_upgradable identified upgrades.1 upgrades.2]
      exact ⟨device.serial, rfl, rfl, upgrades.2.1.trans sends.1⟩
    · exact absurd (react_other identified upgrades) reacts

theorem Units.SettledAt.after {entries : List ConfigEntry}
    {id : EntryId} (coherent : EntriesCoherent entries)
    (settled : units.SettledAt entries id) :
    units.SettledAt (handleAnnouncement entries device).1 id := by
  rw [(coherent.handled device).map]
  intro after member isId
  obtain ⟨entry, entryMember, rfl⟩ := List.mem_map.mp member
  rw [react_entryId] at isId
  have entrySettled := settled entry entryMember isId
  rw [entrySettled.react_eq sends]
  exact entrySettled

/-- A settled entry is not reloaded. -/
theorem Units.SettledAt.not_reloaded {entries : List ConfigEntry}
    {id : EntryId} (coherent : EntriesCoherent entries)
    (settled : units.SettledAt entries id) :
    (handleAnnouncement entries device).2 ≠ some id := by
  have handled := coherent.handled device
  generalize handleAnnouncement entries device = result at handled
  cases handled with
  | still unmoved => exact Option.some_ne_none id |>.symm
  | @changed reloaded member changes others =>
      intro isId
      have settledHere := settled reloaded member (Option.some.inj isId)
      exact changes (settledHere.react_eq sends)

/-- A reloaded entry is settled after it. -/
theorem Units.settledAt_of_reload {entries : List ConfigEntry}
    {id : EntryId} (coherent : EntriesCoherent entries)
    (reloads : (handleAnnouncement entries device).2 = some id) :
    units.SettledAt (handleAnnouncement entries device).1 id := by
  have handled := coherent.handled device
  generalize handleAnnouncement entries device = result at handled reloads
  cases handled with
  | still unmoved => cases reloads
  | @changed reloaded member changes others =>
      intro after afterMember isId
      obtain ⟨entry, entryMember, rfl⟩ := List.mem_map.mp afterMember
      rw [react_entryId] at isId
      have same := coherent.eq_of_entryId entryMember member
        (isId.trans (Option.some.inj reloads).symm)
      rw [same]
      exact Units.settled_of_react sends (coherent.identity _ member) changes

end Settled

/-! ## Streams -/

section Streams

variable {units : Units} {entries : List ConfigEntry}
  {devices : List DiscoveredDevice}

theorem Units.SettledAt.not_mem_reloads {id : EntryId}
    (coherent : EntriesCoherent entries)
    (settled : units.SettledAt entries id)
    (sent : ∀ device ∈ devices, units.Sends device) :
    id ∉ (handleAnnouncements entries devices).2 := by
  induction devices generalizing entries with
  | nil => exact List.not_mem_nil
  | cons device rest ih =>
      have sends := sent device List.mem_cons_self
      rw [handleAnnouncements, List.mem_append, Option.mem_toList]
      intro found
      rcases found with now | later
      · exact settled.not_reloaded sends coherent now
      · exact ih (coherent.after device)
          (settled.after sends coherent)
          (fun other member => sent other (List.mem_cons_of_mem _ member))
          later

/-- No entry is reloaded twice. -/
theorem EntriesCoherent.reloads_nodup
    (coherent : EntriesCoherent entries)
    (sent : ∀ device ∈ devices, units.Sends device) :
    (handleAnnouncements entries devices).2.Nodup := by
  induction devices generalizing entries with
  | nil => exact List.nodup_nil
  | cons device rest ih =>
      have sends := sent device List.mem_cons_self
      have restSent : ∀ other ∈ rest, units.Sends other :=
        fun other member => sent other (List.mem_cons_of_mem _ member)
      have after := coherent.after device
      have later := ih after restSent
      rw [handleAnnouncements]
      cases reloads : (handleAnnouncement entries device).2 with
      | none => exact later
      | some id =>
          have settled :=
            Units.settledAt_of_reload sends coherent reloads
          exact List.nodup_cons.mpr
            ⟨settled.not_mem_reloads after restSent, later⟩

/-- The entries after a stream are those after the units in its order. -/
theorem handleAnnouncements_eq_foldl
    (sent : ∀ device ∈ devices, units.Sends device) :
    (handleAnnouncements entries devices).1 =
      (devices.map DiscoveredDevice.serial).foldl units.announce
        entries := by
  induction devices generalizing entries with
  | nil => rfl
  | cons device rest ih =>
      rw [handleAnnouncements, List.map_cons, List.foldl_cons,
        Units.announce,
        ← (sent device List.mem_cons_self).handleAnnouncement_eq]
      exact ih fun other member => sent other (List.mem_cons_of_mem _ member)

theorem EntriesCoherent.afterAll
    (coherent : EntriesCoherent entries)
    (devices : List DiscoveredDevice) :
    EntriesCoherent (handleAnnouncements entries devices).1 := by
  induction devices generalizing entries with
  | nil => exact coherent
  | cons device rest ih => exact ih (coherent.after device)

/-- An announcement that leaves the entries as they are reloads none. -/
theorem EntriesCoherent.no_reload {device : DiscoveredDevice}
    (coherent : EntriesCoherent entries)
    (same : (handleAnnouncement entries device).1 = entries) :
    handleAnnouncement entries device = (entries, none) := by
  have modifiedNone := coherent.modified_handleAnnouncement device
  rw [same, modified_refl] at modifiedNone
  apply Prod.ext same
  exact Option.toList_eq_nil_iff.mp modifiedNone.symm

end Streams

/-- A stream reloads each entry that it modifies, none twice, and a unit whose
announcement was handled once causes nothing more. -/
structure Calm (entries : List ConfigEntry)
    (devices : List DiscoveredDevice) : Prop where
  reloaded : modifications entries devices =
    (handleAnnouncements entries devices).2
  once : (handleAnnouncements entries devices).2.Nodup
  quiet : ∀ before device after, devices = before ++ device :: after →
    device.serial ∈ before.map DiscoveredDevice.serial →
    handleAnnouncement (handleAnnouncements entries before).1 device =
      ((handleAnnouncements entries before).1, none)

theorem EntriesCoherent.calm {units : Units} {entries : List ConfigEntry}
    {devices : List DiscoveredDevice} {mentioned : Set Nat}
    (coherent : EntriesCoherent entries)
    (sent : ∀ device ∈ devices, units.Sends device)
    (mentions : ∀ device ∈ devices, device.serial ∈ mentioned)
    (distinct : Set.InjOn units.ip mentioned) :
    Calm entries devices where
  reloaded := coherent.modifications_eq devices
  once := coherent.reloads_nodup sent
  quiet := by
    intro before device after split handledBefore
    have beforeMember : ∀ other ∈ before, other ∈ devices := by
      intro other member
      rw [split]
      exact List.mem_append_left _ member
    have member : device ∈ devices := by
      rw [split]
      exact List.mem_append_right _ List.mem_cons_self
    have beforeSent : ∀ other ∈ before, units.Sends other :=
      fun other found => sent other (beforeMember other found)
    apply EntriesCoherent.no_reload (coherent.afterAll before)
    rw [(sent device member).handleAnnouncement_eq,
      handleAnnouncements_eq_foldl beforeSent]
    apply (units.convergent distinct).absorbed coherent _ handledBefore
    intro serial found
    obtain ⟨other, otherMember, rfl⟩ := List.mem_map.mp found
    exact mentions other (beforeMember other otherMember)

/-- Announcements of units with different addresses take reachable entries to
the same entries in any order, and calmly. -/
theorem announcements_converge {actions : List FlowAction}
    {state : FlowState} {units : Units}
    {first second : List DiscoveredDevice}
    (ran : flowMachine.run actions = some state)
    (firstSent : ∀ device ∈ first, units.Sends device)
    (secondSent : ∀ device ∈ second, units.Sends device)
    (sameUnits : ∀ serial,
      serial ∈ first.map DiscoveredDevice.serial ↔
        serial ∈ second.map DiscoveredDevice.serial)
    (distinct : Set.InjOn units.ip
      {serial | serial ∈ first.map DiscoveredDevice.serial}) :
    (handleAnnouncements state.entries first).1 =
        (handleAnnouncements state.entries second).1 ∧
      Calm state.entries first ∧ Calm state.entries second := by
  have coherent := (coherent_of_reachable ⟨actions, ran⟩).entries
  refine ⟨?_, ?_, ?_⟩
  · rw [handleAnnouncements_eq_foldl firstSent,
      handleAnnouncements_eq_foldl secondSent]
    exact (units.convergent distinct).foldl_eq_of_same coherent
      (fun _ member => member) sameUnits
  · apply coherent.calm firstSent _ distinct
    exact fun device member => List.mem_map_of_mem member
  · apply coherent.calm secondSent _ distinct
    exact fun device member =>
      (sameUnits _).mpr (List.mem_map_of_mem member)

/-- Unit 7 at a new address and unit 9 at that of the manual entry. -/
def movedUnits : Units :=
  { ip := fun serial => if serial = 7 then "10.0.0.17" else "10.0.0.8"
    deviceType := fun _ => 3 }

theorem announcements_converge_moved_units :
    ∃ state, flowMachine.run selectAndManual = some state ∧
      (handleAnnouncements state.entries
          [announcement 7 "10.0.0.17", announcement 9 "10.0.0.8",
            announcement 7 "10.0.0.17"]).1 =
        (handleAnnouncements state.entries
          [announcement 9 "10.0.0.8", announcement 7 "10.0.0.17"]).1 ∧
      Calm state.entries
        [announcement 7 "10.0.0.17", announcement 9 "10.0.0.8",
          announcement 7 "10.0.0.17"] ∧
      Calm state.entries
        [announcement 9 "10.0.0.8", announcement 7 "10.0.0.17"] := by
  have finishes : (flowMachine.run selectAndManual).isSome := rfl
  obtain ⟨state, ran⟩ := Option.isSome_iff_exists.mp finishes
  have seven : movedUnits.Sends (announcement 7 "10.0.0.17") :=
    ⟨rfl, rfl⟩
  have nine : movedUnits.Sends (announcement 9 "10.0.0.8") := ⟨rfl, rfl⟩
  have firstSent : ∀ device ∈ [announcement 7 "10.0.0.17",
      announcement 9 "10.0.0.8", announcement 7 "10.0.0.17"],
      movedUnits.Sends device := by
    simp [seven, nine]
  have secondSent : ∀ device ∈ [announcement 9 "10.0.0.8",
      announcement 7 "10.0.0.17"], movedUnits.Sends device := by
    simp [seven, nine]
  refine ⟨state, ran, announcements_converge ran firstSent secondSent ?_ ?_⟩
  · intro serial
    simp [announcement]
    omega
  · have only : ∀ serial, serial ∈ [announcement 7 "10.0.0.17",
        announcement 9 "10.0.0.8", announcement 7 "10.0.0.17"].map
          DiscoveredDevice.serial → serial = 7 ∨ serial = 9 := by
      intro serial member
      simp [announcement] at member
      omega
    intro one oneMember other otherMember same
    rcases only one oneMember with rfl | rfl
    · rcases only other otherMember with rfl | rfl
      · rfl
      · simp [movedUnits] at same
    · rcases only other otherMember with rfl | rfl
      · simp [movedUnits] at same
      · rfl

end Airfi
