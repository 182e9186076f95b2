import Airfi.Entries.Flow
import Mathlib.Tactic

/-!
# Entry identity

A tagged entry carries a serial and is identified by it, a manual entry is
identified by its endpoint.  The two kinds of unique id never meet, so an
announcement touches at most the one entry that is meant.
-/

namespace Airfi

theorem serialId_injective : Function.Injective serialId := by
  intro first second same
  have digits : Nat.toDigits 10 first = Nat.toDigits 10 second := by
    rw [← Nat.toList_repr, ← Nat.toList_repr]
    exact congrArg String.toList same
  rw [← @Nat.ofDigitChars_ten_toDigits first, digits,
    Nat.ofDigitChars_ten_toDigits]

theorem colon_not_mem_serialId (serial : Nat) :
    ':' ∉ (serialId serial).toList := by
  intro member
  rw [serialId, Nat.toList_repr] at member
  have digit := Nat.isDigit_of_mem_toDigits (by decide) (by decide) member
  exact absurd digit (by decide)

theorem serialId_ne_endpointId (serial : Nat) (host : String)
    (port : Nat) : serialId serial ≠ endpointId host port := by
  intro same
  apply colon_not_mem_serialId serial
  rw [same, endpointId]
  simp

namespace ConfigEntry

def Tagged (entry : ConfigEntry) : Prop :=
  ∃ serial, entry.data.serial = some serial ∧
    entry.uniqueId = serialId serial ∧ entry.data.port = some defaultPort

def Manual (entry : ConfigEntry) : Prop :=
  entry.data.serial = none ∧ ∃ port, entry.data.port = some port ∧
    entry.uniqueId = endpointId entry.data.host port

theorem Manual.not_serialId {entry : ConfigEntry}
    (isManual : entry.Manual) (serial : Nat) :
    entry.uniqueId ≠ serialId serial := by
  obtain ⟨-, port, -, identified⟩ := isManual
  rw [identified]
  exact (serialId_ne_endpointId serial _ _).symm

/-- An entry with a serial for its unique id is tagged with that serial. -/
theorem Tagged.of_uniqueId {entry : ConfigEntry} {serial : Nat}
    (either : entry.Tagged ∨ entry.Manual)
    (identified : entry.uniqueId = serialId serial) :
    entry.data.serial = some serial ∧
      entry.data.port = some defaultPort := by
  rcases either with ⟨other, tagged, identifiedOther, atDefault⟩ | isManual
  · have same : other = serial :=
      serialId_injective (identifiedOther.symm.trans identified)
    rw [← same]
    exact ⟨tagged, atDefault⟩
  · exact absurd identified (isManual.not_serialId serial)

/-- An entry that is upgraded was manual, at the default port. -/
theorem Upgradable.manual {entry : ConfigEntry}
    {device : DiscoveredDevice} (upgradable : entry.Upgradable device)
    (either : entry.Tagged ∨ entry.Manual) :
    entry.data.port = some defaultPort ∧
      entry.uniqueId = endpointId device.ip defaultPort := by
  obtain ⟨here, atDefault, untagged⟩ := upgradable
  rcases either with ⟨serial, tagged, -⟩ | ⟨-, port, portEq, identified⟩
  · rw [untagged] at tagged
    cases tagged
  · rw [ConfigEntry.port, portEq, Option.getD_some] at atDefault
    rw [atDefault] at portEq identified
    exact ⟨portEq, by rw [identified, here]⟩

theorem upgrade_tagged {entry : ConfigEntry} {device : DiscoveredDevice}
    (atDefault : entry.data.port = some defaultPort) :
    (entry.upgrade device).Tagged :=
  ⟨device.serial, rfl, rfl, atDefault⟩

end ConfigEntry

/-- Entries are told apart by their ids, and each is tagged or manual. -/
structure EntriesCoherent (entries : List ConfigEntry) : Prop where
  entryIds : (entries.map ConfigEntry.entryId).Nodup
  uniqueIds : (entries.map ConfigEntry.uniqueId).Nodup
  identity : ∀ entry ∈ entries, entry.Tagged ∨ entry.Manual

namespace EntriesCoherent

variable {entries : List ConfigEntry} (coherent : EntriesCoherent entries)

include coherent

theorem eq_of_entryId {first second : ConfigEntry}
    (firstMember : first ∈ entries) (secondMember : second ∈ entries)
    (same : first.entryId = second.entryId) : first = second :=
  List.inj_on_of_nodup_map coherent.entryIds firstMember secondMember same

theorem eq_of_uniqueId {first second : ConfigEntry}
    (firstMember : first ∈ entries) (secondMember : second ∈ entries)
    (same : first.uniqueId = second.uniqueId) : first = second :=
  List.inj_on_of_nodup_map coherent.uniqueIds firstMember secondMember same

/-- A serial is the identity of the entry that has it. -/
theorem uniqueId_of_serial {entry : ConfigEntry} {serial : Nat}
    (member : entry ∈ entries)
    (hasSerial : entry.data.serial = some serial) :
    entry.uniqueId = serialId serial := by
  rcases coherent.identity entry member with
    ⟨other, tagged, identified, -⟩ | ⟨untagged, -⟩
  · rw [identified, Option.some.inj (tagged.symm.trans hasSerial)]
  · rw [untagged] at hasSerial
    cases hasSerial

theorem eq_of_serial {first second : ConfigEntry} {serial : Nat}
    (firstMember : first ∈ entries) (secondMember : second ∈ entries)
    (firstSerial : first.data.serial = some serial)
    (secondSerial : second.data.serial = some serial) : first = second := by
  apply coherent.eq_of_uniqueId firstMember secondMember
  rw [coherent.uniqueId_of_serial firstMember firstSerial,
    coherent.uniqueId_of_serial secondMember secondSerial]

end EntriesCoherent

/-! ## Updating one entry -/

theorem mem_updateEntry {entries : List ConfigEntry} {id : EntryId}
    {change : ConfigEntry → ConfigEntry} {after : ConfigEntry} :
    after ∈ updateEntry entries id change ↔
      ∃ before ∈ entries,
        after = if before.entryId = id then change before else before := by
  rw [updateEntry, List.mem_map]
  constructor
  · intro found
    obtain ⟨before, member, changed⟩ := found
    exact ⟨before, member, changed.symm⟩
  · intro found
    obtain ⟨before, member, changed⟩ := found
    exact ⟨before, member, changed.symm⟩

/-- A field that the change keeps is kept in the whole list. -/
theorem updateEntry_map {α : Type} (entries : List ConfigEntry)
    (id : EntryId) (change : ConfigEntry → ConfigEntry)
    (field : ConfigEntry → α)
    (kept : ∀ entry, field (change entry) = field entry) :
    (updateEntry entries id change).map field = entries.map field := by
  rw [updateEntry, List.map_map]
  apply List.map_congr_left
  intro entry _
  simp only [Function.comp_apply]
  by_cases same : entry.entryId = id
  · rw [if_pos same, kept]
  · rw [if_neg same]

theorem EntriesCoherent.update {entries : List ConfigEntry}
    {entry : ConfigEntry} (coherent : EntriesCoherent entries)
    (change : ConfigEntry → ConfigEntry) (member : entry ∈ entries)
    (keepsId : ∀ other, (change other).entryId = other.entryId)
    (fresh : ∀ other ∈ entries, other ≠ entry →
      other.uniqueId ≠ (change entry).uniqueId)
    (identity : (change entry).Tagged ∨ (change entry).Manual) :
    EntriesCoherent (updateEntry entries entry.entryId change) where
  entryIds := by
    rw [updateEntry_map entries _ change ConfigEntry.entryId keepsId]
    exact coherent.entryIds
  uniqueIds := by
    have distinct := coherent.entryIds.of_map
    rw [updateEntry, List.map_map]
    apply List.Nodup.map_on _ distinct
    intro first firstMember second secondMember same
    simp only [Function.comp_apply] at same
    by_cases firstHere : first.entryId = entry.entryId
    · have firstEq := coherent.eq_of_entryId firstMember member firstHere
      by_cases secondHere : second.entryId = entry.entryId
      · exact coherent.eq_of_entryId firstMember secondMember
          (firstHere.trans secondHere.symm)
      · rw [if_pos firstHere, if_neg secondHere, firstEq] at same
        have different : second ≠ entry :=
          fun equal => secondHere (by rw [equal])
        exact absurd same.symm (fresh second secondMember different)
    · have firstOther : first ≠ entry :=
        fun equal => firstHere (by rw [equal])
      by_cases secondHere : second.entryId = entry.entryId
      · have secondEq :=
          coherent.eq_of_entryId secondMember member secondHere
        rw [if_neg firstHere, if_pos secondHere, secondEq] at same
        exact absurd same (fresh first firstMember firstOther)
      · rw [if_neg firstHere, if_neg secondHere] at same
        exact coherent.eq_of_uniqueId firstMember secondMember same
  identity := by
    intro after found
    obtain ⟨before, beforeMember, rfl⟩ := mem_updateEntry.mp found
    by_cases here : before.entryId = entry.entryId
    · have beforeEq := coherent.eq_of_entryId beforeMember member here
      rw [if_pos here, beforeEq]
      exact identity
    · rw [if_neg here]
      exact coherent.identity before beforeMember

/-! ## Announcements -/

/-- What an announcement does: the entry of the serial is there already, it
moves, a manual entry is upgraded, or nothing matches. -/
inductive Announced (entries : List ConfigEntry)
    (device : DiscoveredDevice) :
    List ConfigEntry × Option EntryId → Prop where
  | there {entry : ConfigEntry} (member : entry ∈ entries)
      (identified : entry.uniqueId = serialId device.serial)
      (here : entry.data.host = device.ip) :
      Announced entries device (entries, none)
  | moved {entry : ConfigEntry} (member : entry ∈ entries)
      (identified : entry.uniqueId = serialId device.serial)
      (elsewhere : entry.data.host ≠ device.ip) :
      Announced entries device
        (updateEntry entries entry.entryId (.move device.ip),
          some entry.entryId)
  | upgraded {entry : ConfigEntry} (member : entry ∈ entries)
      (unknown : ∀ other ∈ entries,
        other.uniqueId ≠ serialId device.serial)
      (upgradable : entry.Upgradable device) :
      Announced entries device
        (updateEntry entries entry.entryId (.upgrade device),
          some entry.entryId)
  | unmatched
      (unknown : ∀ other ∈ entries,
        other.uniqueId ≠ serialId device.serial)
      (none_upgradable : ∀ other ∈ entries, ¬ other.Upgradable device) :
      Announced entries device (entries, none)

theorem handleAnnouncement_announced (entries : List ConfigEntry)
    (device : DiscoveredDevice) :
    Announced entries device (handleAnnouncement entries device) := by
  rw [handleAnnouncement]
  cases found : entries.find? fun entry =>
      decide (entry.uniqueId = serialId device.serial) with
  | some entry =>
      have member := List.mem_of_find?_eq_some found
      have matched := List.find?_some found
      have identified : entry.uniqueId = serialId device.serial :=
        of_decide_eq_true matched
      by_cases here : entry.data.host = device.ip
      · simp only [here, ne_eq, not_true_eq_false, if_false]
        exact .there member identified here
      · simp only [ne_eq, here, not_false_eq_true, if_true]
        exact .moved member identified here
  | none =>
      have unknown : ∀ other ∈ entries,
          other.uniqueId ≠ serialId device.serial := by
        intro other member same
        have missed := List.find?_eq_none.mp found other member
        exact missed (decide_eq_true same)
      cases foundManual : entries.find? fun entry =>
          decide (entry.Upgradable device) with
      | some entry =>
          have matched := List.find?_some foundManual
          have upgradable : entry.Upgradable device :=
            of_decide_eq_true matched
          exact .upgraded (List.mem_of_find?_eq_some foundManual) unknown
            upgradable
      | none =>
          apply Announced.unmatched unknown
          intro other member upgradable
          have missed := List.find?_eq_none.mp foundManual other member
          exact missed (decide_eq_true upgradable)

/-- The ids of an entry after an announcement. -/
theorem Announced.entry {entries : List ConfigEntry}
    {device : DiscoveredDevice}
    {result : List ConfigEntry × Option EntryId} {after : ConfigEntry}
    (announced : Announced entries device result)
    (found : after ∈ result.1) :
    ∃ before ∈ entries, after.entryId = before.entryId ∧
      (after.uniqueId = before.uniqueId ∨
        after.uniqueId = serialId device.serial) := by
  cases announced with
  | there member identified here => exact ⟨after, found, rfl, .inl rfl⟩
  | moved member identified elsewhere =>
      obtain ⟨before, beforeMember, rfl⟩ := mem_updateEntry.mp found
      refine ⟨before, beforeMember, ?_⟩
      split
      · exact ⟨rfl, .inl rfl⟩
      · exact ⟨rfl, .inl rfl⟩
  | upgraded member unknown upgradable =>
      obtain ⟨before, beforeMember, rfl⟩ := mem_updateEntry.mp found
      refine ⟨before, beforeMember, ?_⟩
      split
      · exact ⟨rfl, .inr rfl⟩
      · exact ⟨rfl, .inl rfl⟩
  | unmatched unknown none_upgradable =>
      exact ⟨after, found, rfl, .inl rfl⟩

theorem EntriesCoherent.announced {entries : List ConfigEntry}
    {device : DiscoveredDevice}
    {result : List ConfigEntry × Option EntryId}
    (coherent : EntriesCoherent entries)
    (announced : Announced entries device result) :
    EntriesCoherent result.1 := by
  cases announced with
  | there member identified here => exact coherent
  | @moved entry member identified elsewhere =>
      apply coherent.update (.move device.ip) member (fun _ => rfl)
      · intro other otherMember different same
        exact different
          (coherent.eq_of_uniqueId otherMember member same)
      · obtain ⟨tagged, atDefault⟩ := ConfigEntry.Tagged.of_uniqueId
          (coherent.identity entry member) identified
        exact .inl ⟨device.serial, tagged, identified, atDefault⟩
  | @upgraded entry member unknown upgradable =>
      apply coherent.update (.upgrade device) member (fun _ => rfl)
      · exact fun other otherMember _ => unknown other otherMember
      · exact .inl (ConfigEntry.upgrade_tagged
          (upgradable.manual (coherent.identity entry member)).1)
  | unmatched unknown none_upgradable => exact coherent

/-- What a step may change of an entry. -/
structure Kept (before after : ConfigEntry) : Prop where
  entryId : after.entryId = before.entryId
  port : after.data.port = before.data.port
  /-- A serial, once there, stays. -/
  serial : ∀ serial, before.data.serial = some serial →
    after.data.serial = some serial
  /-- An entry at another port gets no serial and stays where it is. -/
  nondefault : before.port ≠ defaultPort →
    after.data.serial = before.data.serial ∧
      after.data.host = before.data.host

theorem Kept.refl (entry : ConfigEntry) : Kept entry entry :=
  ⟨rfl, rfl, fun _ tagged => tagged, fun _ => ⟨rfl, rfl⟩⟩

theorem Kept.trans {first second third : ConfigEntry}
    (earlier : Kept first second) (later : Kept second third) :
    Kept first third where
  entryId := later.entryId.trans earlier.entryId
  port := later.port.trans earlier.port
  serial := fun serial tagged =>
    later.serial serial (earlier.serial serial tagged)
  nondefault := by
    intro elsewhere
    have samePort : second.port = first.port := by
      rw [ConfigEntry.port, ConfigEntry.port, earlier.port]
    obtain ⟨serial, host⟩ := earlier.nondefault elsewhere
    obtain ⟨serial', host'⟩ := later.nondefault (samePort ▸ elsewhere)
    exact ⟨serial'.trans serial, host'.trans host⟩

/-- Every entry is still there, and what it may not lose is kept. -/
def AllKept (entries later : List ConfigEntry) : Prop :=
  ∀ before ∈ entries, ∃ after ∈ later, Kept before after

theorem AllKept.refl (entries : List ConfigEntry) :
    AllKept entries entries :=
  fun entry member => ⟨entry, member, Kept.refl entry⟩

theorem AllKept.trans {first second third : List ConfigEntry}
    (earlier : AllKept first second) (later : AllKept second third) :
    AllKept first third := by
  intro entry member
  obtain ⟨middle, middleMember, kept⟩ := earlier entry member
  obtain ⟨after, afterMember, kept'⟩ := later middle middleMember
  exact ⟨after, afterMember, kept.trans kept'⟩

theorem allKept_updateEntry {entries : List ConfigEntry} {id : EntryId}
    {change : ConfigEntry → ConfigEntry}
    (kept : ∀ entry ∈ entries, entry.entryId = id →
      Kept entry (change entry)) :
    AllKept entries (updateEntry entries id change) := by
  intro entry member
  refine ⟨_, mem_updateEntry.mpr ⟨entry, member, rfl⟩, ?_⟩
  by_cases here : entry.entryId = id
  · rw [if_pos here]
    exact kept entry member here
  · rw [if_neg here]
    exact Kept.refl entry

theorem EntriesCoherent.announced_kept {entries : List ConfigEntry}
    {device : DiscoveredDevice}
    {result : List ConfigEntry × Option EntryId}
    (coherent : EntriesCoherent entries)
    (announced : Announced entries device result) :
    AllKept entries result.1 := by
  cases announced with
  | there member identified here => exact AllKept.refl entries
  | @moved entry member identified elsewhere =>
      apply allKept_updateEntry
      intro other otherMember same
      obtain rfl := coherent.eq_of_entryId otherMember member same
      obtain ⟨-, atDefault⟩ := ConfigEntry.Tagged.of_uniqueId
        (coherent.identity other member) identified
      refine ⟨rfl, rfl, fun _ tagged => tagged, ?_⟩
      intro elsewhere
      rw [ConfigEntry.port, atDefault] at elsewhere
      exact absurd rfl elsewhere
  | @upgraded entry member unknown upgradable =>
      apply allKept_updateEntry
      intro other otherMember same
      obtain rfl := coherent.eq_of_entryId otherMember member same
      refine ⟨rfl, rfl, ?_, fun elsewhere => absurd upgradable.2.1 elsewhere⟩
      intro serial tagged
      rw [upgradable.2.2] at tagged
      cases tagged
  | unmatched unknown none_upgradable => exact AllKept.refl entries

/-- What an announcement may change: at most one entry, and of it neither the
port nor the Modbus id nor the options. -/
def OneChanged (entries : List ConfigEntry) (later : List ConfigEntry) :
    Prop :=
  ∃ change : ConfigEntry → ConfigEntry, later = entries.map change ∧
    (∀ entry ∈ entries,
      (change entry).entryId = entry.entryId ∧
        (change entry).data.port = entry.data.port ∧
        (change entry).data.modbusId = entry.data.modbusId ∧
        (change entry).options = entry.options) ∧
    ∀ first ∈ entries, ∀ second ∈ entries, change first ≠ first →
      change second ≠ second → first = second

theorem oneChanged_refl (entries : List ConfigEntry) :
    OneChanged entries entries := by
  refine ⟨id, (List.map_id entries).symm, ?_, ?_⟩
  · exact fun entry _ => ⟨rfl, rfl, rfl, rfl⟩
  · exact fun first _ second _ changed => absurd rfl changed

theorem EntriesCoherent.oneChanged_updateEntry
    {entries : List ConfigEntry} (coherent : EntriesCoherent entries)
    (id : EntryId) {change : ConfigEntry → ConfigEntry}
    (kept : ∀ entry, (change entry).entryId = entry.entryId ∧
      (change entry).data.port = entry.data.port ∧
      (change entry).data.modbusId = entry.data.modbusId ∧
      (change entry).options = entry.options) :
    OneChanged entries (updateEntry entries id change) := by
  refine ⟨fun entry => if entry.entryId = id then change entry else entry,
    rfl, ?_, ?_⟩
  · intro entry _
    by_cases here : entry.entryId = id
    · simp only [if_pos here]
      exact kept entry
    · simp only [if_neg here, and_self]
  · intro first firstMember second secondMember firstChanged secondChanged
    have firstHere : first.entryId = id := by
      by_contra elsewhere
      exact firstChanged (if_neg elsewhere)
    have secondHere : second.entryId = id := by
      by_contra elsewhere
      exact secondChanged (if_neg elsewhere)
    exact coherent.eq_of_entryId firstMember secondMember
      (firstHere.trans secondHere.symm)

theorem EntriesCoherent.announced_oneChanged {entries : List ConfigEntry}
    {device : DiscoveredDevice}
    {result : List ConfigEntry × Option EntryId}
    (coherent : EntriesCoherent entries)
    (announced : Announced entries device result) :
    OneChanged entries result.1 := by
  cases announced with
  | there member identified here => exact oneChanged_refl entries
  | moved member identified elsewhere =>
      exact coherent.oneChanged_updateEntry _
        fun _ => ⟨rfl, rfl, rfl, rfl⟩
  | upgraded member unknown upgradable =>
      exact coherent.oneChanged_updateEntry _
        fun _ => ⟨rfl, rfl, rfl, rfl⟩
  | unmatched unknown none_upgradable => exact oneChanged_refl entries

end Airfi
