import Airfi.Entries.FlowInvariant

/-!
# Identity along a run

The entries of every reachable state are told apart by coherent ids, and what
identifies an entry outlives every later step.
-/

namespace Airfi

namespace FlowState

theorem Coherent.step_kept {state next : FlowState} {action : FlowAction}
    (coherent : state.Coherent) (step : state.step action = some next) :
    AllKept state.entries next.entries := by
  cases stepped_of_step step with
  | moved moves =>
      cases moves with
      | opened => exact AllKept.refl _
      | dropped id => exact AllKept.refl _
      | unchanged => exact AllKept.refl _
      | went found settled => exact AllKept.refl _
  | submitted found unmatched free unconfigured => exact AllKept.refl _
  | created origin =>
      exact fun entry member =>
        ⟨entry, List.mem_append_left _ member, Kept.refl entry⟩
  | saved =>
      apply allKept_updateEntry
      exact fun entry _ _ =>
        ⟨rfl, rfl, fun _ tagged => tagged, fun _ => ⟨rfl, rfl⟩⟩
  | announced =>
      exact coherent.entries.announced_kept
        (handleAnnouncement_announced _ _)

theorem allKept_of_run {state later : FlowState}
    {actions : List FlowAction} (reached : flowMachine.Reachable state)
    (continued : flowMachine.runFrom state actions = some later) :
    flowMachine.Reachable later ∧ AllKept state.entries later.entries :=
  Machine.invariant_of_runFrom
    (fun current => flowMachine.Reachable current ∧
      AllKept state.entries current.entries)
    (fun held step =>
      ⟨held.1.step step,
        held.2.trans ((coherent_of_reachable held.1).step_kept step)⟩)
    continued ⟨reached, AllKept.refl _⟩

end FlowState

/-- What a later state still says of an entry. -/
structure SameIdentity (entry later : ConfigEntry) : Prop where
  entryId : later.entryId = entry.entryId
  serial : ∀ serial, entry.data.serial = some serial →
    later.data.serial = some serial
  untagged : entry.port ≠ defaultPort →
    entry.data.serial = none ∧ later.data.serial = none
  host : entry.port ≠ defaultPort → later.data.host = entry.data.host
  port : later.data.port = entry.data.port

theorem Kept.sameIdentity {entry later : ConfigEntry}
    (kept : Kept entry later) (either : entry.Tagged ∨ entry.Manual) :
    SameIdentity entry later where
  entryId := kept.entryId
  serial := kept.serial
  untagged := by
    intro elsewhere
    rcases either with ⟨serial, -, -, atDefault⟩ | isManual
    · rw [ConfigEntry.port, atDefault] at elsewhere
      exact absurd rfl elsewhere
    · exact ⟨isManual.1, (kept.nondefault elsewhere).1.trans isManual.1⟩
  host := fun elsewhere => (kept.nondefault elsewhere).2
  port := kept.port

/-- Entry identity is coherent and unique in every state of a run, survives
to every later one, and an announcement changes one entry's address or tag. -/
theorem entry_identity_coherent {before after : List FlowAction}
    {state later : FlowState} (ran : flowMachine.run before = some state)
    (continued : flowMachine.runFrom state after = some later) :
    EntriesCoherent later.entries ∧
      (∀ entry ∈ state.entries, ∃ same ∈ later.entries,
        SameIdentity entry same) ∧
      ∀ device, OneChanged later.entries (later.announce device).entries := by
  obtain ⟨reached, kept⟩ :=
    FlowState.allKept_of_run ⟨before, ran⟩ continued
  have coherent := (coherent_of_reachable reached).entries
  refine ⟨coherent, ?_, ?_⟩
  · intro entry member
    obtain ⟨same, sameMember, entryKept⟩ := kept entry member
    have either := (coherent_of_reachable ⟨before, ran⟩).entries.identity
      entry member
    exact ⟨same, sameMember, entryKept.sameIdentity either⟩
  · intro device
    exact coherent.announced_oneChanged
      (handleAnnouncement_announced later.entries device)

/-- An announcement of unit 7 or 9. -/
def announcement (serial : Nat) (ip : String) : DiscoveredDevice :=
  { ip
    udpPort := 3000
    serial
    protocolVersion := 1
    deviceType := 3 }

/-- One flow adds unit 7 as discovered, another one a host by hand. -/
def selectAndManual : List FlowAction :=
  [.openFlow, .chooseDiscover 0, .datagram 0 (announcement 7 "10.0.0.7"),
    .discovered 0, .selectDevice 0 "7", .openFlow, .chooseManual 1,
    .submitManual 1 " 10.0.0.8 " none none, .validated 1 none]

/-- Unit 7 moves, and unit 9 turns out to be the manual entry. -/
theorem entry_identity_coherent_select_manual :
    ∃ state later,
      flowMachine.run selectAndManual = some state ∧
      flowMachine.runFrom state
        [.announce (announcement 7 "10.0.0.17"),
          .announce (announcement 9 "10.0.0.8")] = some later ∧
      EntriesCoherent later.entries ∧
      (∀ entry ∈ state.entries, ∃ same ∈ later.entries,
        SameIdentity entry same) ∧
      ∀ device, OneChanged later.entries (later.announce device).entries := by
  have finishes : (flowMachine.run selectAndManual).isSome := rfl
  obtain ⟨state, ran⟩ := Option.isSome_iff_exists.mp finishes
  have continued : flowMachine.runFrom state
      [.announce (announcement 7 "10.0.0.17"),
        .announce (announcement 9 "10.0.0.8")] =
      some ((state.announce (announcement 7 "10.0.0.17")).announce
        (announcement 9 "10.0.0.8")) := rfl
  exact ⟨state, _, ran, continued, entry_identity_coherent ran continued⟩

end Airfi
