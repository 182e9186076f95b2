import Airfi.Convergence
import Airfi.Entries.Announcements

/-!
# Streams of announcements

Announcements of units with different addresses commute and repetitions change
nothing, so a stream takes the entries to what depends only on the units that
it mentions.  An entry that reacted to its own unit is settled, which bounds
the reloads.
-/

namespace Airfi

/-- The address and the type of every unit. -/
structure Units where
  ip : Nat → String
  deviceType : Nat → Nat

namespace Units

/-- The announcement is what its unit sends. -/
def Sends (units : Units) (device : DiscoveredDevice) : Prop :=
  device.ip = units.ip device.serial ∧
    device.deviceType = units.deviceType device.serial

def device (units : Units) (serial : Nat) : DiscoveredDevice :=
  { ip := units.ip serial
    udpPort := 0
    serial := serial
    protocolVersion := 0
    deviceType := units.deviceType serial }

/-- Only the serial, the address and the type are read. -/
theorem Sends.handleAnnouncement_eq {units : Units}
    {device : DiscoveredDevice} (sends : units.Sends device)
    (entries : List ConfigEntry) :
    handleAnnouncement entries device =
      handleAnnouncement entries (units.device device.serial) := by
  obtain ⟨ip, udpPort, serial, protocolVersion, deviceType⟩ := device
  obtain ⟨sameIp, sameType⟩ := sends
  simp only at sameIp sameType
  rw [sameIp, sameType]
  rfl

/-- The entries after the announcement of a unit. -/
def announce (units : Units) (entries : List ConfigEntry) (serial : Nat) :
    List ConfigEntry :=
  (handleAnnouncement entries (units.device serial)).1

end Units

/-! ## Order -/

theorem Known.map_react {entries : List ConfigEntry} {serial : Nat}
    (coherent : EntriesCoherent entries) (isKnown : Known entries serial)
    (known : Prop) [Decidable known] (device : DiscoveredDevice) :
    Known (entries.map (react known device)) serial := by
  obtain ⟨entry, member, identified⟩ := isKnown
  refine ⟨_, List.mem_map_of_mem member, ?_⟩
  by_cases same : entry.uniqueId = serialId device.serial
  · rw [react_identified same]
    exact identified
  · have tagged := ConfigEntry.Tagged.of_uniqueId
      (coherent.identity entry member) identified
    rw [react_tagged same tagged.1]
    exact identified

theorem Known.of_map_react {entries : List ConfigEntry} {serial : Nat}
    {known : Prop} [Decidable known] {device : DiscoveredDevice}
    (different : device.serial ≠ serial)
    (later : Known (entries.map (react known device)) serial) :
    Known entries serial := by
  obtain ⟨after, member, identified⟩ := later
  obtain ⟨entry, entryMember, rfl⟩ := List.mem_map.mp member
  refine ⟨entry, entryMember, ?_⟩
  rw [react] at identified
  split at identified
  · exact identified
  · split at identified
    · exact absurd (serialId_injective identified) different
    · exact identified

/-- The units whose entry is known are the same after another unit's
announcement. -/
theorem known_map_react_iff {entries : List ConfigEntry} {serial : Nat}
    (coherent : EntriesCoherent entries) (known : Prop) [Decidable known]
    {device : DiscoveredDevice} (different : device.serial ≠ serial) :
    Known (entries.map (react known device)) serial ↔
      Known entries serial :=
  ⟨fun later => later.of_map_react different,
    fun isKnown => isKnown.map_react coherent known device⟩

theorem react_congr {known known' : Prop} [Decidable known]
    [Decidable known'] (same : known ↔ known') (device : DiscoveredDevice)
    (entry : ConfigEntry) :
    react known device entry = react known' device entry := by
  simp only [react, same]

/-- An entry that reacts to one unit reacts to no other, neither before nor
after. -/
theorem react_exclusive {entry : ConfigEntry}
    (either : entry.Tagged ∨ entry.Manual)
    (known known' : Prop) [Decidable known] [Decidable known']
    {device other : DiscoveredDevice}
    (differentSerial : device.serial ≠ other.serial)
    (differentIp : device.ip ≠ other.ip)
    (reacts : react known device entry ≠ entry) :
    react known' other entry = entry ∧
      react known' other (react known device entry) =
        react known device entry := by
  have differentId : serialId device.serial ≠ serialId other.serial :=
    fun same => differentSerial (serialId_injective same)
  by_cases identified : entry.uniqueId = serialId device.serial
  · have tagged := (ConfigEntry.Tagged.of_uniqueId either identified).1
    have unidentified : entry.uniqueId ≠ serialId other.serial :=
      identified.symm ▸ differentId
    rw [react_identified identified]
    exact ⟨react_tagged unidentified tagged,
      react_tagged unidentified tagged⟩
  · by_cases upgrades : ¬ known ∧ entry.Upgradable device
    · obtain ⟨unknown, upgradable⟩ := upgrades
      have isManual := (upgradable.manual either).2
      rw [react_upgradable identified unknown upgradable]
      constructor
      · apply react_other
        · rw [isManual]
          exact (serialId_ne_endpointId _ _ _).symm
        · intro both
          exact differentIp (upgradable.1.symm.trans both.2.1)
      · exact @react_tagged known' _ other (entry.upgrade device)
          device.serial differentId rfl
    · exact absurd (react_other identified upgrades) reacts

theorem react_comm {entry : ConfigEntry}
    (either : entry.Tagged ∨ entry.Manual)
    {known known' : Prop} [Decidable known] [Decidable known']
    {device other : DiscoveredDevice}
    (differentSerial : device.serial ≠ other.serial)
    (differentIp : device.ip ≠ other.ip) :
    react known' other (react known device entry) =
      react known device (react known' other entry) := by
  by_cases still : react known device entry = entry
  · by_cases otherStill : react known' other entry = entry
    · rw [still, otherStill, still]
    · have later := (react_exclusive either known' known
        differentSerial.symm differentIp.symm otherStill).2
      rw [still, later]
  · obtain ⟨before, after⟩ := react_exclusive either known known'
      differentSerial differentIp still
    rw [after, before]

theorem react_react {entry : ConfigEntry} {known known' : Prop}
    [Decidable known] [Decidable known'] {device : DiscoveredDevice}
    (persists : known → known') :
    react known' device (react known device entry) =
      react known device entry := by
  by_cases identified : entry.uniqueId = serialId device.serial
  · rw [react_identified identified]
    exact @react_there known' _ device (entry.move device.ip) identified rfl
  · by_cases upgrades : ¬ known ∧ entry.Upgradable device
    · rw [react_upgradable identified upgrades.1 upgrades.2]
      exact @react_there known' _ device (entry.upgrade device) rfl
        upgrades.2.1
    · rw [react_other identified upgrades]
      apply react_other identified
      intro both
      exact upgrades ⟨fun isKnown => both.1 (persists isKnown), both.2⟩

namespace Units

variable (units : Units)

theorem announce_eq_map {entries : List ConfigEntry}
    (coherent : EntriesCoherent entries) (serial : Nat) :
    units.announce entries serial =
      entries.map (react (Known entries serial) (units.device serial)) :=
  (coherent.handled (units.device serial)).map

theorem announce_coherent {entries : List ConfigEntry}
    (coherent : EntriesCoherent entries) (serial : Nat) :
    EntriesCoherent (units.announce entries serial) :=
  coherent.announced (handleAnnouncement_announced _ _)

theorem announce_comm {entries : List ConfigEntry}
    (coherent : EntriesCoherent entries) {first second : Nat}
    (differentSerial : first ≠ second)
    (differentIp : units.ip first ≠ units.ip second) :
    units.announce (units.announce entries first) second =
      units.announce (units.announce entries second) first := by
  rw [units.announce_eq_map (units.announce_coherent coherent first),
    units.announce_eq_map (units.announce_coherent coherent second),
    units.announce_eq_map coherent first,
    units.announce_eq_map coherent second, List.map_map, List.map_map]
  apply List.map_congr_left
  intro entry member
  simp only [Function.comp_apply]
  rw [react_congr (known_map_react_iff coherent _ differentSerial),
    react_congr (known_map_react_iff coherent _ differentSerial.symm)]
  exact react_comm (coherent.identity entry member) differentSerial
    differentIp

theorem announce_announce {entries : List ConfigEntry}
    (coherent : EntriesCoherent entries) (serial : Nat) :
    units.announce (units.announce entries serial) serial =
      units.announce entries serial := by
  rw [units.announce_eq_map (units.announce_coherent coherent serial),
    units.announce_eq_map coherent, List.map_map]
  apply List.map_congr_left
  intro entry member
  exact react_react fun isKnown => isKnown.map_react coherent _ _

/-- Units with different addresses converge. -/
theorem convergent {mentioned : Set Nat}
    (distinct : Set.InjOn units.ip mentioned) :
    Convergent EntriesCoherent (· ∈ mentioned) units.announce where
  closed := fun coherent _ => units.announce_coherent coherent _
  commutes := by
    intro entries first second coherent firstMember secondMember
    by_cases same : first = second
    · rw [same]
    · apply units.announce_comm coherent same
      exact fun sameIp => same (distinct firstMember secondMember sameIp)
  repeats := fun coherent _ => units.announce_announce coherent _

end Units

end Airfi
