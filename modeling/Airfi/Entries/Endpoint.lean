import Airfi.Entries.Announcements
import Airfi.Entries.Coherence

/-!
# Endpoints of entries

Three steps put an entry on an endpoint: a selected device, a manual submission
whose connection test succeeded, and an announcement that moves the entry of
its serial.  None of them looks at the other entries when it does.  As long as
the endpoint is free then, no two entries share one.
-/

namespace Airfi

/-- `(CONF_HOST, CONF_PORT)` with the default for a missing port. -/
def ConfigEntry.endpoint (entry : ConfigEntry) : String × Nat :=
  (entry.data.host, entry.port)

namespace FlowState

/-- Different serials were last announced at different addresses. -/
def AnnouncedApart (state : FlowState) : Prop :=
  ∀ first second ip, state.announced first = some ip →
    state.announced second = some ip → first = second

def EndpointsApart (state : FlowState) : Prop :=
  (state.entries.map ConfigEntry.endpoint).Nodup

/-- The entry has a serial that was last announced at the entry's host. -/
def Placed (state : FlowState) (entry : ConfigEntry) : Prop :=
  ∃ serial ∈ entry.data.serial,
    state.announced serial = some entry.data.host

instance (state : FlowState) (entry : ConfigEntry) :
    Decidable (state.Placed entry) :=
  match tagged : entry.data.serial with
  | none =>
      isFalse (by
        rintro ⟨serial, member, _⟩
        rw [tagged] at member
        cases member)
  | some serial =>
      decidable_of_iff
        (state.announced serial = some entry.data.host) (by
          simp [Placed, tagged])

/-- No entry is on the endpoint. -/
def Free (state : FlowState) (endpoint : String × Nat) : Prop :=
  ∀ entry ∈ state.entries, entry.endpoint ≠ endpoint

/-- The entries on the endpoint are those of units that were last announced
there. -/
def OnlyPlaced (state : FlowState) (endpoint : String × Nat) : Prop :=
  ∀ entry ∈ state.entries, entry.endpoint = endpoint → state.Placed entry

instance (state : FlowState) (endpoint : String × Nat) :
    Decidable (state.Free endpoint) :=
  inferInstanceAs (Decidable (∀ entry ∈ state.entries, _))

instance (state : FlowState) (endpoint : String × Nat) :
    Decidable (state.OnlyPlaced endpoint) :=
  inferInstanceAs (Decidable (∀ entry ∈ state.entries, _))

/-- A selected device comes to a free endpoint, or it was last announced there
as were the units whose entries are there already. -/
def SelectsFree (state : FlowState) (id : FlowId)
    (device : DiscoveredDevice) : Prop :=
  state.inProgress id (serialId device.serial) ∨
    state.configured (serialId device.serial) ∨
    state.Free (device.ip, defaultPort) ∨
    state.announced device.serial = some device.ip ∧
      state.OnlyPlaced (device.ip, defaultPort)

/-- An announcement that moves an entry finds at most entries of units that
were last announced at the same address. -/
def MovesFree (state : FlowState) (device : DiscoveredDevice) : Prop :=
  ∀ entry ∈ state.entries, entry.uniqueId = serialId device.serial →
    entry.data.host ≠ device.ip →
    state.OnlyPlaced (device.ip, defaultPort)

/-- The device that a submission of the flow chooses. -/
def chosenDevice (state : FlowState) (id : FlowId) (choice : String) :
    Option DiscoveredDevice :=
  match state.flows id with
  | some { step := .selectDevice devices, .. } =>
      devices.find? fun device =>
        decide (serialId device.serial = choice)
  | _ => none

/-- The endpoint whose connection test the flow awaits. -/
def testedEndpoint (state : FlowState) (id : FlowId) :
    Option (String × Nat) :=
  match state.flows id with
  | some { step := .validating host port _, .. } => some (host, port)
  | _ => none

/-- No entry is put beside another one, but for units that are announced at
one address. -/
def PutsFree (state : FlowState) : FlowAction → Prop
  | .selectDevice id choice =>
      ∀ device ∈ state.chosenDevice id choice, state.SelectsFree id device
  | .validated id none =>
      ∀ endpoint ∈ state.testedEndpoint id, state.Free endpoint
  | .announce device => state.MovesFree device
  | _ => True

instance (state : FlowState) (id : FlowId) (device : DiscoveredDevice) :
    Decidable (state.SelectsFree id device) :=
  inferInstanceAs (Decidable (_ ∨ _ ∨ _ ∨ _ ∧ _))

instance (state : FlowState) (device : DiscoveredDevice) :
    Decidable (state.MovesFree device) :=
  inferInstanceAs (Decidable (∀ entry ∈ state.entries, _ → _ → _))

instance (state : FlowState) :
    ∀ action, Decidable (state.PutsFree action)
  | .selectDevice id choice =>
      inferInstanceAs (Decidable (∀ device ∈ state.chosenDevice id choice, _))
  | .validated id none =>
      inferInstanceAs (Decidable (∀ endpoint ∈ state.testedEndpoint id, _))
  | .announce device => inferInstanceAs (Decidable (state.MovesFree device))
  | .validated _ (some _) => isTrue trivial
  | .openFlow => isTrue trivial
  | .closeFlow _ => isTrue trivial
  | .chooseDiscover _ => isTrue trivial
  | .chooseManual _ => isTrue trivial
  | .datagram _ _ => isTrue trivial
  | .discovered _ => isTrue trivial
  | .submitManual _ _ _ _ => isTrue trivial
  | .saveOptions _ _ => isTrue trivial

/-- Entries on one endpoint belong to units that were last announced there. -/
def SharedPlaced (state : FlowState) : Prop :=
  ∀ first ∈ state.entries, ∀ second ∈ state.entries, first ≠ second →
    first.endpoint = second.endpoint → state.Placed first

/-! ## Steps -/

theorem sharedPlaced_initial : initial.SharedPlaced := by
  intro first member
  cases member

/-- Being placed depends on the announcements, the serial and the host. -/
theorem Placed.congr {state next : FlowState} {entry other : ConfigEntry}
    (placed : state.Placed entry)
    (sameAnnounced : next.announced = state.announced)
    (sameData : other.data = entry.data) : next.Placed other := by
  obtain ⟨serial, tagged, there⟩ := placed
  refine ⟨serial, ?_, ?_⟩
  · rw [sameData]
    exact tagged
  · rw [sameAnnounced, sameData]
    exact there

/-- A step that changes neither the entries nor what was announced. -/
theorem SharedPlaced.congr {state next : FlowState}
    (shared : state.SharedPlaced) (sameEntries : next.entries = state.entries)
    (sameAnnounced : next.announced = state.announced) :
    next.SharedPlaced := by
  intro first firstMember second secondMember different same
  rw [sameEntries] at firstMember secondMember
  have placed :=
    shared first firstMember second secondMember different same
  exact placed.congr sameAnnounced rfl

theorem SharedPlaced.moves {state next : FlowState}
    (shared : state.SharedPlaced) (moves : FlowMoves state next) :
    next.SharedPlaced := by
  cases moves with
  | opened => exact shared.congr rfl rfl
  | dropped id => exact shared.congr rfl rfl
  | unchanged => exact shared
  | went found settled => exact shared.congr rfl rfl

theorem SharedPlaced.saved {state : FlowState}
    (shared : state.SharedPlaced) (id : EntryId) (options : EntryOptions) :
    ({ state with
      entries :=
        updateEntry state.entries id
          (.saveOptions options) }).SharedPlaced := by
  have data : ∀ entry : ConfigEntry,
      (if entry.entryId = id then entry.saveOptions options
        else entry).data = entry.data := by
    intro entry
    split
    · rfl
    · rfl
  intro first firstFound second secondFound different same
  obtain ⟨before, member, rfl⟩ := mem_updateEntry.mp firstFound
  obtain ⟨other, otherMember, rfl⟩ := mem_updateEntry.mp secondFound
  simp only [ConfigEntry.endpoint, ConfigEntry.port, data] at same
  have differentBefore : before ≠ other := by
    intro equal
    rw [equal] at different
    exact different rfl
  have placed := shared before member other otherMember differentBefore same
  exact placed.congr rfl (data before)

/-- A new entry at an endpoint where at most placed entries are, and then as a
placed entry itself. -/
theorem SharedPlaced.createEntry {state : FlowState} {id : FlowId}
    {title uniqueId : String} {data : EntryData}
    (shared : state.SharedPlaced)
    (arrives : ∀ entry : ConfigEntry, entry.data = data →
      state.Free entry.endpoint ∨
        state.Placed entry ∧ state.OnlyPlaced entry.endpoint) :
    ((state.createEntry title uniqueId data).dropFlow id).SharedPlaced := by
  intro first firstFound second secondFound different same
  rcases List.mem_append.mp firstFound with firstOld | firstNew
  · rcases List.mem_append.mp secondFound with secondOld | secondNew
    · have placed := shared first firstOld second secondOld different same
      exact placed.congr rfl rfl
    · have isNew := List.mem_singleton.mp secondNew
      rcases arrives second (by rw [isNew]) with free | ⟨-, onlyPlaced⟩
      · exact absurd same (free first firstOld)
      · exact (onlyPlaced first firstOld same).congr rfl rfl
  · have isNew := List.mem_singleton.mp firstNew
    rcases arrives first (by rw [isNew]) with free | ⟨placed, -⟩
    · rcases List.mem_append.mp secondFound with secondOld | secondNew
      · exact absurd same.symm (free second secondOld)
      · have alsoNew := List.mem_singleton.mp secondNew
        exact absurd (isNew.trans alsoNew.symm) different
    · exact placed.congr rfl rfl

theorem SharedPlaced.created {state : FlowState} {id : FlowId}
    {action : FlowAction} {title uniqueId : String} {data : EntryData}
    (shared : state.SharedPlaced) (puts : state.PutsFree action)
    (origin : Created state id action uniqueId data) :
    ((state.createEntry title uniqueId data).dropFlow id).SharedPlaced := by
  apply shared.createEntry
  cases origin with
  | @selected _ devices device choice found chosen free unconfigured =>
      have isChosen : state.chosenDevice id choice = some device := by
        rw [chosenDevice, found]
        exact chosen
      intro entry isNew
      have endpointEq : entry.endpoint = (device.ip, defaultPort) := by
        rw [ConfigEntry.endpoint, ConfigEntry.port, isNew]
        rfl
      rw [endpointEq]
      rcases puts device isChosen with busy | known | empty | ⟨there, only⟩
      · exact absurd busy free
      · exact absurd known unconfigured
      · exact .inl empty
      · refine .inr ⟨⟨device.serial, ?_, ?_⟩, only⟩
        · rw [isNew]
          rfl
        · rw [isNew]
          exact there
  | @validated _ host port modbusId found =>
      have tested : state.testedEndpoint id = some (host, port) := by
        rw [testedEndpoint, found]
      intro entry isNew
      have endpointEq : entry.endpoint = (host, port) := by
        rw [ConfigEntry.endpoint, ConfigEntry.port, isNew]
        rfl
      rw [endpointEq]
      exact .inl (puts _ tested)

/-! ### Announcements -/

section Announced

variable {state : FlowState} {device : DiscoveredDevice}
  {entry : ConfigEntry}

/-- An entry is the one of the announced unit at its address, or it did not
react and belongs to no unit or to another one. -/
theorem react_cases (either : entry.Tagged ∨ entry.Manual)
    (known : Prop) [Decidable known] :
    (react known device entry).data.serial = some device.serial ∧
        (react known device entry).data.host = device.ip ∨
      react known device entry = entry ∧
        entry.data.serial ≠ some device.serial := by
  by_cases identified : entry.uniqueId = serialId device.serial
  · rw [react_identified identified]
    exact .inl ⟨(ConfigEntry.Tagged.of_uniqueId either identified).1, rfl⟩
  · by_cases upgrades : ¬ known ∧ entry.Upgradable device
    · rw [react_upgradable identified upgrades.1 upgrades.2]
      exact .inl ⟨rfl, upgrades.2.1⟩
    · refine .inr ⟨react_other identified upgrades, ?_⟩
      intro tagged
      rcases either with ⟨serial, taggedToo, isId, -⟩ | ⟨untagged, -⟩
      · rw [tagged] at taggedToo
        rw [← Option.some.inj taggedToo] at isId
        exact identified isId
      · rw [untagged] at tagged
        cases tagged

theorem react_endpoint_identified (either : entry.Tagged ∨ entry.Manual)
    (known : Prop) [Decidable known]
    (identified : entry.uniqueId = serialId device.serial) :
    (react known device entry).endpoint = (device.ip, defaultPort) := by
  have atDefault := (ConfigEntry.Tagged.of_uniqueId either identified).2
  rw [react_identified identified, ConfigEntry.endpoint, ConfigEntry.port,
    ConfigEntry.move, atDefault]
  rfl

/-- Only the entry of the announced unit changes its endpoint. -/
theorem react_endpoint (either : entry.Tagged ∨ entry.Manual)
    (known : Prop) [Decidable known] :
    (react known device entry).endpoint = entry.endpoint ∨
      entry.uniqueId = serialId device.serial ∧
        entry.data.host ≠ device.ip ∧
        (react known device entry).endpoint = (device.ip, defaultPort) := by
  by_cases identified : entry.uniqueId = serialId device.serial
  · by_cases here : entry.data.host = device.ip
    · rw [react_there identified here]
      exact .inl rfl
    · exact .inr ⟨identified, here,
        react_endpoint_identified either known identified⟩
  · left
    rw [react, if_neg identified]
    split
    · rfl
    · rfl

theorem announce_entries (coherent : EntriesCoherent state.entries) :
    (state.announce device).entries = state.entries.map
      (react (Known state.entries device.serial) device) :=
  (coherent.handled device).map

theorem placed_announced {after : ConfigEntry}
    (tagged : after.data.serial = some device.serial)
    (here : after.data.host = device.ip) :
    (state.announce device).Placed after := by
  refine ⟨device.serial, tagged, ?_⟩
  rw [here]
  exact Function.update_self ..

theorem Placed.announce (placed : state.Placed entry)
    (different : entry.data.serial ≠ some device.serial) :
    (state.announce device).Placed entry := by
  obtain ⟨serial, tagged, there⟩ := placed
  refine ⟨serial, tagged, ?_⟩
  have otherSerial : serial ≠ device.serial := by
    intro same
    rw [same] at tagged
    exact different tagged
  exact (Function.update_of_ne otherSerial ..).trans there

end Announced

theorem SharedPlaced.announce {state : FlowState}
    (shared : state.SharedPlaced) (coherent : EntriesCoherent state.entries)
    {device : DiscoveredDevice} (moves : state.MovesFree device) :
    (state.announce device).SharedPlaced := by
  intro first firstFound second secondFound different same
  rw [announce_entries coherent] at firstFound secondFound
  obtain ⟨before, member, rfl⟩ := List.mem_map.mp firstFound
  obtain ⟨other, otherMember, rfl⟩ := List.mem_map.mp secondFound
  rcases react_cases (coherent.identity before member)
      (Known state.entries device.serial) with
    ⟨tagged, here⟩ | ⟨still, otherSerial⟩
  · exact placed_announced tagged here
  · rw [still] at same different ⊢
    apply Placed.announce _ otherSerial
    -- What shares its endpoint was there before or has just moved there.
    rcases react_endpoint (coherent.identity other otherMember)
        (Known state.entries device.serial) with
      stayed | ⟨identified, elsewhere, arrived⟩
    · apply shared before member other otherMember _ (same.trans stayed)
      intro equal
      rw [← equal, still] at different
      exact different rfl
    · exact moves other otherMember identified elsewhere before member
        (same.trans arrived)

theorem SharedPlaced.step {state next : FlowState} {action : FlowAction}
    (shared : state.SharedPlaced) (coherent : state.Coherent)
    (puts : state.PutsFree action)
    (step : state.step action = some next) : next.SharedPlaced := by
  cases stepped_of_step step with
  | moved moves => exact shared.moves moves
  | submitted found unmatched free unconfigured =>
      exact shared.congr rfl rfl
  | created origin => exact shared.created puts origin
  | saved => exact shared.saved _ _
  | announced => exact shared.announce coherent.entries puts

/-! ### Steps that put an entry beside another one -/

section Beside

variable {state : FlowState} (coherent : state.Coherent)

include coherent

/-- A new entry beside one that is there, where either is not placed. -/
theorem Coherent.not_shared_createEntry {id : FlowId}
    {title uniqueId : String} {data : EntryData} {entry : ConfigEntry}
    (member : entry ∈ state.entries)
    (same : entry.endpoint = (data.host, data.port.getD defaultPort))
    (unplaced : ¬ state.Placed entry ∨
      ∀ serial ∈ data.serial, state.announced serial ≠ some data.host) :
    ¬ ((state.createEntry title uniqueId data).dropFlow id).SharedPlaced := by
  intro shared
  have older : entry ∈
      ((state.createEntry title uniqueId data).dropFlow id).entries :=
    List.mem_append_left _ member
  obtain ⟨created, newer, createdId, createdData⟩ : ∃ created ∈
      ((state.createEntry title uniqueId data).dropFlow id).entries,
      created.entryId = state.nextEntry ∧ created.data = data :=
    ⟨_, List.mem_append_right _ List.mem_cons_self, rfl, rfl⟩
  have different : entry ≠ created := by
    intro equal
    have fresh := coherent.known entry member
    rw [equal, createdId] at fresh
    exact Nat.lt_irrefl _ fresh
  have beside : entry.endpoint = created.endpoint := by
    rw [same, ConfigEntry.endpoint, ConfigEntry.port, createdData]
  rcases unplaced with unplaced | unplaced
  · have placed := shared entry older created newer different beside
    exact unplaced (placed.congr rfl rfl)
  · obtain ⟨serial, tagged, there⟩ :=
      shared created newer entry older different.symm beside.symm
    rw [createdData] at tagged there
    exact unplaced serial tagged there

theorem Coherent.not_shared_selectDevice {id : FlowId}
    {device : DiscoveredDevice} (occupied : ¬ state.SelectsFree id device) :
    ¬ (state.selectDevice id device).SharedPlaced := by
  simp only [SelectsFree, not_or, not_and] at occupied
  obtain ⟨free, unconfigured, notFree, notOnly⟩ := occupied
  rw [selectDevice, if_neg free, if_neg unconfigured]
  by_cases there : state.announced device.serial = some device.ip
  · have unplaced := notOnly there
    simp only [OnlyPlaced, not_forall] at unplaced
    obtain ⟨entry, member, same, notPlaced⟩ := unplaced
    exact coherent.not_shared_createEntry member same (.inl notPlaced)
  · simp only [FlowState.Free, not_forall, not_not] at notFree
    obtain ⟨entry, member, same⟩ := notFree
    apply coherent.not_shared_createEntry member same
    right
    intro serial tagged
    obtain rfl := Option.some.inj tagged
    exact there

theorem Coherent.not_shared_announce {device : DiscoveredDevice}
    (occupied : ¬ state.MovesFree device) :
    ¬ (state.announce device).SharedPlaced := by
  simp only [MovesFree, OnlyPlaced, not_forall] at occupied
  obtain ⟨moving, movingMember, identified, elsewhere, entry, member, same,
    notPlaced⟩ := occupied
  have different : entry ≠ moving := by
    intro equal
    rw [equal] at same
    exact elsewhere (congrArg Prod.fst same)
  have stays := coherent.entries.react_beside movingMember identified entry
    member different
  have arrived := react_endpoint_identified
    (coherent.entries.identity moving movingMember)
    (Known state.entries device.serial) identified
  have entryFound : entry ∈ (state.announce device).entries := by
    rw [announce_entries coherent.entries]
    exact List.mem_map.mpr ⟨entry, member, stays⟩
  have movedFound : react (Known state.entries device.serial) device moving ∈
      (state.announce device).entries := by
    rw [announce_entries coherent.entries]
    exact List.mem_map_of_mem movingMember
  have stillDifferent : entry ≠
      react (Known state.entries device.serial) device moving := by
    intro equal
    have sameId : entry.entryId = moving.entryId := by
      rw [equal, react_entryId]
    exact different
      (coherent.entries.eq_of_entryId member movingMember sameId)
  intro shared
  obtain ⟨serial, tagged, there⟩ := shared entry entryFound _ movedFound
    stillDifferent (same.trans arrived.symm)
  have otherSerial : serial ≠ device.serial := by
    intro equal
    rw [equal] at tagged
    have isId := coherent.entries.uniqueId_of_serial member tagged
    exact different (coherent.entries.eq_of_uniqueId member movingMember
      (isId.trans identified.symm))
  apply notPlaced
  exact ⟨serial, tagged,
    (Function.update_of_ne otherSerial ..).symm.trans there⟩

/-- What misses the condition puts an entry beside one that it may not
share its endpoint with. -/
theorem Coherent.not_shared_step {next : FlowState} {action : FlowAction}
    (occupied : ¬ state.PutsFree action)
    (step : state.step action = some next) : ¬ next.SharedPlaced := by
  cases action with
  | selectDevice id choice =>
      simp only [PutsFree, not_forall] at occupied
      obtain ⟨device, chosen, notFree⟩ := occupied
      have selected : next = state.selectDevice id device := by
        simp only [FlowState.step] at step
        rw [Option.mem_def, chosenDevice] at chosen
        split at chosen
        case h_1 found =>
          simp only [found, chosen, Option.some.injEq] at step
          exact step.symm
        case h_2 => cases chosen
      rw [selected]
      exact coherent.not_shared_selectDevice notFree
  | validated id error =>
      cases error with
      | some text => exact absurd trivial occupied
      | none =>
          simp only [PutsFree, not_forall] at occupied
          obtain ⟨endpoint, tested, notFree⟩ := occupied
          simp only [FlowState.Free, not_forall, not_not] at notFree
          obtain ⟨entry, member, same⟩ := notFree
          rw [Option.mem_def, testedEndpoint] at tested
          split at tested
          case h_1 found =>
            obtain rfl := Option.some.inj tested
            simp only [FlowState.step, found, Option.some.injEq,
              FlowState.validated] at step
            rw [← step]
            apply coherent.not_shared_createEntry member same
            right
            intro serial untagged
            cases untagged
          case h_2 => cases tested
  | announce device =>
      cases step
      exact coherent.not_shared_announce occupied
  | _ => exact absurd trivial occupied

end Beside

/-- The condition is exact for what the entries on one endpoint have in
common. -/
theorem sharedPlaced_throughout_iff {actions : List FlowAction}
    {final : FlowState} (ran : flowMachine.run actions = some final) :
    flowMachine.Throughout SharedPlaced actions ↔
      flowMachine.Meets PutsFree actions :=
  Machine.throughout_iff_meets (fun reached => coherent_of_reachable reached)
    sharedPlaced_initial
    (fun coherent shared puts step => shared.step coherent puts step)
    (fun coherent _ occupied step => coherent.not_shared_step occupied step)
    ran

/-- Placed entries of different units are apart as their units are. -/
theorem SharedPlaced.endpointsApart {state : FlowState}
    (shared : state.SharedPlaced) (coherent : state.Coherent)
    (apart : state.AnnouncedApart) : state.EndpointsApart := by
  apply List.Nodup.map_on _ coherent.entries.entryIds.of_map
  intro first firstMember second secondMember same
  by_contra different
  obtain ⟨serial, tagged, there⟩ :=
    shared first firstMember second secondMember different same
  obtain ⟨otherSerial, otherTagged, otherThere⟩ :=
    shared second secondMember first firstMember (Ne.symm different)
      same.symm
  have sameHost : first.data.host = second.data.host :=
    congrArg Prod.fst same
  have sameSerial : serial = otherSerial := by
    rw [← sameHost] at otherThere
    exact apart serial otherSerial _ there otherThere
  rw [← sameSerial] at otherTagged
  exact different
    (coherent.entries.eq_of_serial firstMember secondMember tagged
      otherTagged)

/-- In a run that puts no entry beside another one, no two entries ever share
an endpoint while their units are announced apart. -/
theorem endpointsApart_throughout {actions : List FlowAction}
    (meets : flowMachine.Meets PutsFree actions) :
    flowMachine.Throughout
      (fun state => state.AnnouncedApart → state.EndpointsApart)
      actions := by
  intro before isPrefix state ran apart
  have shared : state.SharedPlaced :=
    (sharedPlaced_throughout_iff ran).mpr (meets.of_prefix isPrefix) before
      (List.prefix_refl _) state ran
  exact shared.endpointsApart (coherent_of_reachable ⟨before, ran⟩) apart

/-- Unit 7 moves, and unit 9 turns out to be the manual entry. -/
theorem endpointsApart_throughout_select_manual :
    flowMachine.Throughout
      (fun state => state.AnnouncedApart → state.EndpointsApart)
      (selectAndManual ++
        [.announce (announcement 7 "10.0.0.17"),
          .announce (announcement 9 "10.0.0.8")]) :=
  endpointsApart_throughout (Machine.meets_of_meetsFrom _ (by decide))

/-- A flow offers unit 7 at an address that a second flow adds by hand before
the unit is selected. -/
def selectStale : List FlowAction :=
  [.openFlow, .chooseDiscover 0, .datagram 0 (announcement 7 "10.0.0.5"),
    .discovered 0, .openFlow, .chooseManual 1,
    .submitManual 1 "10.0.0.5" none none, .validated 1 none,
    .selectDevice 0 "7"]

/-- Both entries are at the address, and nothing was announced. -/
theorem endpoint_shared_after_stale_select :
    ∃ state, flowMachine.run selectStale = some state ∧
      state.AnnouncedApart ∧ ¬ state.EndpointsApart := by
  have finishes : (flowMachine.run selectStale).isSome := rfl
  obtain ⟨state, ran⟩ := Option.isSome_iff_exists.mp finishes
  have announced : (flowMachine.run selectStale).map
      FlowState.announced = some fun _ => none := rfl
  have endpoints : (flowMachine.run selectStale).map
      (fun final => final.entries.map ConfigEntry.endpoint) =
      some [("10.0.0.5", 502), ("10.0.0.5", 502)] := rfl
  rw [ran] at announced endpoints
  have nothing := Option.some.inj announced
  have both : state.entries.map ConfigEntry.endpoint =
      [("10.0.0.5", 502), ("10.0.0.5", 502)] := Option.some.inj endpoints
  refine ⟨state, ran, ?_, ?_⟩
  · intro first second ip heard
    rw [nothing] at heard
    cases heard
  · rw [EndpointsApart, both]
    decide

end FlowState

end Airfi
