import Airfi.Entries.Endpoint
import Airfi.Entries.FlowChanges
import Airfi.Entries.SetupFreshness

/-!
# Rediscovery

From an announcement to the client that talks to the unit: for as long as the
unit announces itself from one address, its entry and every client that is
set up for it have that address.
-/

namespace Airfi

namespace FlowState

variable {device : DiscoveredDevice} {bound : EntryId}
  {state next : FlowState} {action : FlowAction}

/-- The entry of the unit, if it is one of these, is at its address. -/
def Located (device : DiscoveredDevice) (bound : EntryId)
    (state : FlowState) : Prop :=
  ∀ entry ∈ state.entries, entry.entryId < bound →
    entry.data.serial = some device.serial → entry.data.host = device.ip

/-- The unit announces itself from no other address. -/
def StaysAt (device : DiscoveredDevice) : FlowAction → Prop
  | .announce other => other.serial = device.serial → other.ip = device.ip
  | _ => True

instance : DecidablePred (StaysAt device)
  | .announce other => inferInstanceAs
      (Decidable (other.serial = device.serial → other.ip = device.ip))
  | .openFlow | .closeFlow _ | .chooseDiscover _ | .chooseManual _
  | .datagram _ _ | .discovered _ | .selectDevice _ _
  | .submitManual _ _ _ _ | .validated _ _ | .saveOptions _ _ =>
      isTrue trivial

theorem Located.announce {other : DiscoveredDevice}
    (coherent : state.Coherent)
    (before : ∀ entry ∈ state.entries, entry.entryId < bound →
      other.serial ≠ device.serial →
        entry.data.serial = some device.serial →
          entry.data.host = device.ip)
    (stays : StaysAt device (.announce other)) :
    (state.announce other).Located device bound := by
  intro entry member below tagged
  rw [announce_entries coherent.entries] at member
  obtain ⟨old, oldMember, rfl⟩ := List.mem_map.mp member
  rw [react_entryId] at below
  rcases react_cases (coherent.entries.identity old oldMember)
      (Known state.entries other.serial) with ⟨own, here⟩ | ⟨same, foreign⟩
  · rw [own] at tagged
    rw [here]
    exact stays (Option.some.inj tagged)
  · rw [same] at tagged ⊢
    apply before old oldMember below _ tagged
    intro equal
    rw [equal] at foreign
    exact foreign tagged

theorem located_announce (coherent : state.Coherent) :
    (state.announce device).Located device bound :=
  .announce coherent (fun _ _ _ different => absurd rfl different)
    fun _ => rfl

theorem Located.step (located : state.Located device bound)
    (coherent : state.Coherent) (past : bound ≤ state.nextEntry)
    (stays : StaysAt device action)
    (stepped : state.step action = some next) :
    next.Located device bound := by
  cases stepped_of_step stepped with
  | moved moves =>
      rw [Located, moves.same_entries.1]
      exact located
  | submitted found unmatched free unconfigured => exact located
  | created origin =>
      intro entry member below tagged
      rcases List.mem_append.mp member with old | new
      · exact located entry old below tagged
      · rw [List.mem_singleton] at new
        rw [new] at below
        exact absurd below (Nat.not_lt_of_le past)
  | @saved id options =>
      intro entry member below tagged
      obtain ⟨old, oldMember, rfl⟩ := mem_updateEntry.mp member
      have sameData : (if old.entryId = id then old.saveOptions options
          else old).data = old.data := by
        split <;> rfl
      have sameId : (if old.entryId = id then old.saveOptions options
          else old).entryId = old.entryId := by
        split <;> rfl
      rw [sameData] at tagged ⊢
      rw [sameId] at below
      exact located old oldMember below tagged
  | announced =>
      exact .announce coherent
        (fun entry member below _ => located entry member below) stays

end FlowState

namespace SetupState

variable {device : DiscoveredDevice} {bound : EntryId}
  {state next : SetupState} {action : SetupAction}

def StaysAt (device : DiscoveredDevice) : SetupAction → Prop
  | .flow action => FlowState.StaysAt device action
  | .entry _ _ => True

instance : DecidablePred (StaysAt device)
  | .flow action => inferInstanceAs (Decidable (FlowState.StaysAt device action))
  | .entry _ _ => isTrue trivial

/-- What an announcement leaves behind. -/
structure Heard (device : DiscoveredDevice) (bound : EntryId)
    (state : SetupState) : Prop where
  current : state.Current
  past : bound ≤ state.flows.nextEntry
  located : state.flows.Located device bound

theorem Heard.step (heard : state.Heard device bound)
    (stays : StaysAt device action)
    (stepped : state.step action = some next) :
    next.Heard device bound := by
  have current := heard.current.step stepped
  cases action with
  | flow action =>
      obtain ⟨flows, flowStepped, rfl⟩ := of_step_flow stepped
      refine ⟨current, ?_, ?_⟩ <;> rw [scheduleReload_flows]
      · exact heard.past.trans (FlowState.nextEntry_le_of_step flowStepped)
      · exact heard.located.step heard.current.coherent heard.past stays
          flowStepped
  | entry id action =>
      obtain ⟨entry, runtime, -, -, -, -, rfl⟩ := of_step_entry stepped
      exact ⟨current, heard.past, heard.located⟩

theorem heard_announce (current : state.Current)
    (stepped : state.step (.flow (.announce device)) = some next) :
    next.Heard device next.flows.nextEntry where
  current := current.step stepped
  past := Nat.le_refl _
  located := by
    cases stepped
    rw [scheduleReload_flows]
    exact FlowState.located_announce current.coherent

end SetupState

/-- From an announcement on, and for as long as the unit announces itself from
that address, the entry that was there for it has its address.  So has every
client that is set up for the entry, unless a reload of it is pending. -/
theorem rediscovered {before after : List SetupAction}
    {state heard later : SetupState} {device : DiscoveredDevice}
    (ran : setupMachine.run before = some state)
    (announced : setupMachine.step state (.flow (.announce device)) =
      some heard)
    (continued : setupMachine.runFrom heard after = some later)
    (stays : ∀ action ∈ after, SetupState.StaysAt device action)
    {entry : ConfigEntry} (member : entry ∈ later.flows.entries)
    (there : entry.entryId < heard.flows.nextEntry)
    (tagged : entry.data.serial = some device.serial) :
    entry.data.host = device.ip ∧
      ((later.runtimes entry.entryId).pendingReloads = 0 →
        ∀ client,
          (later.runtimes entry.entryId).stage.client? = some client →
            client =
              { host := device.ip
                port := defaultPort
                deviceId := entry.currentModbusId }) := by
  have start := SetupState.heard_announce
    (SetupState.current_of_reachable ⟨before, ran⟩) announced
  have meets : setupMachine.MeetsFrom
      (fun _ action => SetupState.StaysAt device action) heard after :=
    Machine.meetsFrom_of_forall fun action member _ => stays action member
  have held : later.Heard device heard.flows.nextEntry :=
    Machine.invariant_of_meetsFrom
      (fun _ action => SetupState.StaysAt device action)
      (SetupState.Heard device heard.flows.nextEntry)
      (fun held stays stepped => held.step stays stepped) continued meets
      start
  have host := held.located entry member there tagged
  refine ⟨host, ?_⟩
  intro settled client set
  have given := held.current.upToDate entry member settled client set
  have coherent := held.current.coherent.entries
  have atDefault := (ConfigEntry.Tagged.of_uniqueId
    (coherent.identity entry member)
    (coherent.uniqueId_of_serial member tagged)).2
  rw [ConfigEntry.client, ConfigEntry.clientWith, atDefault, host] at given
  exact (Option.some.inj given).symm

/-- Unit 7 moves while its entry is set up, and the entry is reloaded. -/
theorem rediscovered_during_setup :
    ∃ state heard later entry client,
      setupMachine.run (movedDuringSetup.take 11) = some state ∧
      setupMachine.step state
        (.flow (.announce (announcement 7 "10.0.0.17"))) = some heard ∧
      setupMachine.runFrom heard (movedDuringSetup.drop 12) = some later ∧
      entry ∈ later.flows.entries ∧
      (later.runtimes entry.entryId).stage = .loaded client ∧
      client =
        { host := "10.0.0.17"
          port := 502
          deviceId := 1 } := by
  have reaches : ∃ state heard later entry rest client,
      setupMachine.run (movedDuringSetup.take 11) = some state ∧
      setupMachine.step state
        (.flow (.announce (announcement 7 "10.0.0.17"))) = some heard ∧
      setupMachine.runFrom heard (movedDuringSetup.drop 12) = some later ∧
      later.flows.entries = entry :: rest ∧
      entry.entryId < heard.flows.nextEntry ∧
      entry.data.serial = some 7 ∧ entry.currentModbusId = 1 ∧
      (later.runtimes entry.entryId).stage = .loaded client ∧
      (later.runtimes entry.entryId).pendingReloads = 0 :=
    ⟨_, _, _, _, _, _, rfl, rfl, rfl, rfl, by decide, rfl, rfl, rfl, rfl⟩
  obtain ⟨state, heard, later, entry, rest, client, ran, announced,
    continued, entries, there, tagged, modbusId, loaded, settled⟩ := reaches
  have member : entry ∈ later.flows.entries := by
    rw [entries]
    exact List.mem_cons_self
  have stays : ∀ action ∈ movedDuringSetup.drop 12,
      SetupState.StaysAt (announcement 7 "10.0.0.17") action := by
    decide
  have found := (rediscovered ran announced continued stays member there
    tagged).2 settled client (by rw [loaded]; rfl)
  rw [modbusId] at found
  exact ⟨state, heard, later, entry, client, ran, announced, continued,
    member, loaded, found⟩

end Airfi
