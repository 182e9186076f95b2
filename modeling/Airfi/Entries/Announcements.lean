import Airfi.Entries.FlowInvariant

/-!
# One announcement

On coherent entries an announcement acts on each entry by itself, and at most
one entry reacts to it.
-/

namespace Airfi

/-- Some entry has the serial for its unique id. -/
def Known (entries : List ConfigEntry) (serial : Nat) : Prop :=
  ∃ entry ∈ entries, entry.uniqueId = serialId serial

instance (entries : List ConfigEntry) (serial : Nat) :
    Decidable (Known entries serial) :=
  inferInstanceAs (Decidable (∃ entry ∈ entries, _))

/-- What an announcement makes of one entry. -/
def react (known : Prop) [Decidable known] (device : DiscoveredDevice)
    (entry : ConfigEntry) : ConfigEntry :=
  if entry.uniqueId = serialId device.serial then entry.move device.ip
  else if ¬ known ∧ entry.Upgradable device then entry.upgrade device
  else entry

section React

variable {known : Prop} [Decidable known] {device : DiscoveredDevice}
  {entry : ConfigEntry}

theorem react_identified
    (identified : entry.uniqueId = serialId device.serial) :
    react known device entry = entry.move device.ip :=
  if_pos identified

theorem react_upgradable
    (different : entry.uniqueId ≠ serialId device.serial)
    (unknown : ¬ known) (upgradable : entry.Upgradable device) :
    react known device entry = entry.upgrade device := by
  rw [react, if_neg different, if_pos ⟨unknown, upgradable⟩]

theorem react_other
    (different : entry.uniqueId ≠ serialId device.serial)
    (kept : ¬ (¬ known ∧ entry.Upgradable device)) :
    react known device entry = entry := by
  rw [react, if_neg different, if_neg kept]

theorem move_here (here : entry.data.host = device.ip) :
    entry.move device.ip = entry := by
  rw [ConfigEntry.move, ← here]

/-- An entry that is there already does not react. -/
theorem react_there
    (identified : entry.uniqueId = serialId device.serial)
    (here : entry.data.host = device.ip) :
    react known device entry = entry := by
  rw [react_identified identified, move_here here]

theorem react_tagged {serial : Nat}
    (different : entry.uniqueId ≠ serialId device.serial)
    (tagged : entry.data.serial = some serial) :
    react known device entry = entry := by
  apply react_other different
  intro both
  rw [both.2.2.2] at tagged
  cases tagged

theorem react_entryId :
    (react known device entry).entryId = entry.entryId := by
  rw [react]
  split
  · rfl
  · split
    · rfl
    · rfl

end React

/-- What an announcement does to coherent entries: none of them reacts, or
one does and is reloaded. -/
inductive Handled (entries : List ConfigEntry) (device : DiscoveredDevice) :
    List ConfigEntry × Option EntryId → Prop where
  | still
      (unmoved : ∀ entry ∈ entries,
        react (Known entries device.serial) device entry = entry) :
      Handled entries device (entries, none)
  | changed {entry : ConfigEntry} (member : entry ∈ entries)
      (changes : react (Known entries device.serial) device entry ≠ entry)
      (others : ∀ other ∈ entries, other ≠ entry →
        react (Known entries device.serial) device other = other) :
      Handled entries device
        (entries.map (react (Known entries device.serial) device),
          some entry.entryId)

theorem Handled.map {entries : List ConfigEntry} {device : DiscoveredDevice}
    {result : List ConfigEntry × Option EntryId}
    (handled : Handled entries device result) :
    result.1 =
      entries.map (react (Known entries device.serial) device) := by
  cases handled with
  | still unmoved =>
      calc entries = entries.map id := (List.map_id entries).symm
        _ = entries.map (react (Known entries device.serial) device) :=
          List.map_congr_left
            fun entry member => (unmoved entry member).symm
  | changed => rfl

namespace EntriesCoherent

variable {entries : List ConfigEntry} (coherent : EntriesCoherent entries)

include coherent

/-- Changing the one entry that reacts is letting all of them react. -/
theorem updateEntry_eq_map {entry : ConfigEntry}
    {change reaction : ConfigEntry → ConfigEntry} (member : entry ∈ entries)
    (here : reaction entry = change entry)
    (others : ∀ other ∈ entries, other ≠ entry → reaction other = other) :
    updateEntry entries entry.entryId change = entries.map reaction := by
  rw [updateEntry]
  apply List.map_congr_left
  intro other otherMember
  by_cases same : other.entryId = entry.entryId
  · have equal := coherent.eq_of_entryId otherMember member same
    rw [if_pos same, equal, here]
  · have different : other ≠ entry := fun equal => same (by rw [equal])
    rw [if_neg same, others other otherMember different]

/-- Only one entry can be upgraded, as manual entries at one endpoint would
share their unique id. -/
theorem eq_of_upgradable {device : DiscoveredDevice}
    {first second : ConfigEntry} (firstMember : first ∈ entries)
    (secondMember : second ∈ entries) (firstOpen : first.Upgradable device)
    (secondOpen : second.Upgradable device) : first = second := by
  have firstId := (firstOpen.manual (coherent.identity _ firstMember)).2
  have secondId := (secondOpen.manual (coherent.identity _ secondMember)).2
  exact coherent.eq_of_uniqueId firstMember secondMember
    (firstId.trans secondId.symm)

/-- Next to an entry with the announced serial no other entry reacts. -/
theorem react_beside {device : DiscoveredDevice} {entry : ConfigEntry}
    (member : entry ∈ entries)
    (identified : entry.uniqueId = serialId device.serial) :
    ∀ other ∈ entries, other ≠ entry →
      react (Known entries device.serial) device other = other := by
  intro other otherMember different
  apply react_other
  · intro same
    exact different (coherent.eq_of_uniqueId otherMember member
      (same.trans identified.symm))
  · exact fun both => both.1 ⟨entry, member, identified⟩

/-- The loops of `_async_handle_announcement` as one reaction of each
entry. -/
theorem handled (device : DiscoveredDevice) :
    Handled entries device (handleAnnouncement entries device) := by
  have announced := handleAnnouncement_announced entries device
  generalize handleAnnouncement entries device = result at announced
  cases announced with
  | @there found member identified here =>
      apply Handled.still
      intro entry entryMember
      by_cases same : entry = found
      · rw [same]
        exact react_there identified here
      · exact coherent.react_beside member identified entry entryMember same
  | @moved found member identified elsewhere =>
      have reacts := @react_identified (Known entries device.serial) _ device
        found identified
      have others := coherent.react_beside member identified
      rw [coherent.updateEntry_eq_map member reacts others]
      apply Handled.changed member _ others
      rw [reacts]
      intro same
      have sameHost : device.ip = found.data.host :=
        congrArg (fun entry => entry.data.host) same
      exact elsewhere sameHost.symm
  | @upgraded found member unknown upgradable =>
      have notKnown : ¬ Known entries device.serial :=
        fun known => known.elim fun other both => unknown other both.1 both.2
      have reacts :=
        react_upgradable (unknown found member) notKnown upgradable
      have others : ∀ other ∈ entries, other ≠ found →
          react (Known entries device.serial) device other = other := by
        intro other otherMember different
        apply react_other (unknown other otherMember)
        exact fun both => different
          (coherent.eq_of_upgradable otherMember member both.2 upgradable)
      rw [coherent.updateEntry_eq_map member reacts others]
      apply Handled.changed member _ others
      rw [reacts]
      intro same
      have untagged := upgradable.2.2
      rw [← same] at untagged
      cases untagged
  | unmatched unknown none_upgradable =>
      apply Handled.still
      intro entry member
      apply react_other (unknown entry member)
      exact fun both => none_upgradable entry member both.2

end EntriesCoherent

end Airfi
