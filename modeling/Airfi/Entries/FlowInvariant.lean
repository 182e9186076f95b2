import Airfi.Entries.Identity

/-!
# The invariant of the flows

What one step of the flow machine can do, and from it the invariant that
keeps the unique ids apart: the entries' ids differ, open flows hold different
ids, and no entry has the id that a suspended manual submission holds.
-/

namespace Airfi

namespace FlowState

/-- A new entry comes from a discovered device or from a manual submission
whose connection test has succeeded. -/
inductive Created (state : FlowState) (id : FlowId) :
    FlowAction → String → EntryData → Prop where
  | selected {uniqueId : Option String}
      {devices : List DiscoveredDevice} {device : DiscoveredDevice}
      {choice : String}
      (found : state.flows id =
        some { uniqueId, step := .selectDevice devices })
      (chosen : (devices.find? fun device =>
        decide (serialId device.serial = choice)) = some device)
      (free : ¬ state.inProgress id (serialId device.serial))
      (unconfigured : ¬ state.configured (serialId device.serial)) :
      Created state id (.selectDevice id choice) (serialId device.serial)
        { host := device.ip
          port := some defaultPort
          modbusId := none
          serial := some device.serial
          deviceType := some device.deviceType }
  | validated {uniqueId : Option String} {host : String}
      {port modbusId : Nat}
      (found : state.flows id =
        some { uniqueId, step := .validating host port modbusId }) :
      Created state id (.validated id none) (uniqueId.getD "")
        { host
          port := some port
          modbusId := some modbusId
          serial := none
          deviceType := none }

/-- A step of one flow that leaves the entries alone and holds no new id. -/
inductive FlowMoves (state : FlowState) : FlowState → Prop where
  | opened :
      FlowMoves state { state with
        flows := Function.update state.flows state.nextFlow
          (some { uniqueId := none, step := .user })
        nextFlow := state.nextFlow + 1 }
  | dropped (id : FlowId) : FlowMoves state (state.dropFlow id)
  | unchanged : FlowMoves state state
  | went {id : FlowId} {flow : ConfigFlow} {step : FlowStep}
      (found : state.flows id = some flow)
      (settled : ∀ host port modbusId,
        step ≠ .validating host port modbusId) :
      FlowMoves state
        (state.setFlow id (some { uniqueId := flow.uniqueId, step }))

/-- What a step can do. -/
inductive Stepped (state : FlowState) : FlowAction → FlowState → Prop where
  | moved {action : FlowAction} {next : FlowState}
      (moves : FlowMoves state next) : Stepped state action next
  | submitted {action : FlowAction} {id : FlowId} {flow : ConfigFlow}
      {host : String} {port modbusId : Nat}
      (found : state.flows id = some flow)
      (unmatched : ¬ state.entriesMatch host port)
      (free : ¬ state.inProgress id (endpointId host port))
      (unconfigured : ¬ state.configured (endpointId host port)) :
      Stepped state action
        (state.setFlow id
          (some
            { uniqueId := some (endpointId host port)
              step := .validating host port modbusId }))
  | created {action : FlowAction} {id : FlowId}
      {title uniqueId : String} {data : EntryData}
      (origin : Created state id action uniqueId data) :
      Stepped state action
        ((state.createEntry title uniqueId data).dropFlow id)
  | saved {id : EntryId} {options : EntryOptions} :
      Stepped state (.saveOptions id options)
        { state with
          entries := updateEntry state.entries id (.saveOptions options) }
  | announced {device : DiscoveredDevice} :
      Stepped state (.announce device) (state.announce device)

theorem stepped_of_step {state next : FlowState} {action : FlowAction}
    (step : state.step action = some next) : Stepped state action next := by
  cases action with
  | openFlow =>
      cases step
      exact .moved .opened
  | saveOptions id options =>
      cases step
      exact .saved
  | announce device =>
      cases step
      exact .announced
  | closeFlow id =>
      simp only [FlowState.step] at step
      split at step
      case h_1 found =>
        cases step
        exact .moved (.dropped id)
      case h_2 => cases step
  | chooseDiscover id =>
      simp only [FlowState.step] at step
      split at step
      case h_1 uniqueId found =>
        cases step
        exact .moved (.went found (by intros; exact FlowStep.noConfusion))
      case h_2 => cases step
  | chooseManual id =>
      simp only [FlowState.step] at step
      split at step
      case h_1 uniqueId found =>
        cases step
        exact .moved (.went found (by intros; exact FlowStep.noConfusion))
      case h_2 => cases step
  | datagram id device =>
      simp only [FlowState.step] at step
      split at step
      case h_1 uniqueId heard found =>
        split at step
        case isTrue =>
          cases step
          exact .moved .unchanged
        case isFalse =>
          cases step
          exact .moved
            (.went found (by intros; exact FlowStep.noConfusion))
      case h_2 => cases step
  | discovered id =>
      simp only [FlowState.step] at step
      split at step
      case h_1 uniqueId heard found =>
        cases step
        rw [discover]
        cases state.offered heard with
        | nil =>
            exact .moved
              (.went found (by intros; exact FlowStep.noConfusion))
        | cons first rest =>
            exact .moved
              (.went found (by intros; exact FlowStep.noConfusion))
      case h_2 => cases step
  | selectDevice id choice =>
      simp only [FlowState.step] at step
      split at step
      case h_1 uniqueId devices found =>
        split at step
        case h_1 device chosen =>
          cases step
          rw [selectDevice]
          split
          · exact .moved (.dropped id)
          case isFalse free =>
            split
            · exact .moved (.dropped id)
            case isFalse unconfigured =>
              exact .created (.selected found chosen free unconfigured)
        case h_2 => cases step
      case h_2 => cases step
  | submitManual id host port modbusId =>
      simp only [FlowState.step] at step
      split at step
      case h_1 uniqueId found =>
        cases step
        rw [submitManual]
        split
        · exact .moved (.dropped id)
        case isFalse unmatched =>
          split
          · exact .moved (.dropped id)
          case isFalse free =>
            split
            · exact .moved (.dropped id)
            case isFalse unconfigured =>
              exact .submitted found unmatched free unconfigured
      case h_2 => cases step
  | validated id error =>
      simp only [FlowState.step] at step
      split at step
      case h_1 uniqueId host port modbusId found =>
        cases step
        cases error with
        | none => exact .created (.validated found)
        | some text =>
            exact .moved
              (.went found (by intros; exact FlowStep.noConfusion))
      case h_2 => cases step

/-- No entry and no other open flow has the unique id. -/
structure Coherent (state : FlowState) : Prop where
  entries : EntriesCoherent state.entries
  known : ∀ entry ∈ state.entries, entry.entryId < state.nextEntry
  flowKnown : ∀ id flow, state.flows id = some flow → id < state.nextFlow
  /-- Open flows hold different unique ids. -/
  flowIds : ∀ first second flow other uniqueId,
    state.flows first = some flow → state.flows second = some other →
    flow.uniqueId = some uniqueId → other.uniqueId = some uniqueId →
    first = second
  /-- A suspended submission holds the id of its endpoint, and no entry has
  that id. -/
  pending : ∀ id uniqueId host port modbusId,
    state.flows id =
      some { uniqueId, step := .validating host port modbusId } →
    uniqueId = some (endpointId host port) ∧
      ¬ state.configured (endpointId host port)

theorem coherent_initial : initial.Coherent where
  entries := ⟨List.nodup_nil, List.nodup_nil, by
    intro entry member
    cases member⟩
  known := by
    intro entry member
    cases member
  flowKnown := by
    intro id flow found
    cases found
  flowIds := by
    intro first second flow other uniqueId found
    cases found
  pending := by
    intro id uniqueId host port modbusId found
    cases found

section Preserved

variable {state : FlowState} (coherent : state.Coherent)

include coherent

/-- An id that no other open flow has, as the code finds it out. -/
theorem Coherent.free {id other : FlowId} {uniqueId : String}
    {flow : ConfigFlow} (free : ¬ state.inProgress id uniqueId)
    (found : state.flows other = some flow)
    (holds : flow.uniqueId = some uniqueId) : other = id := by
  by_contra different
  apply free
  refine ⟨other, List.mem_range.mpr (coherent.flowKnown other flow found),
    different, ?_⟩
  rw [found]
  exact holds

/-- The flow of one id changes, to one that holds no id of another flow. -/
theorem Coherent.setFlow {id : FlowId} {flow : Option ConfigFlow}
    (known : ∀ value, flow = some value → id < state.nextFlow)
    (alone : ∀ value uniqueId other otherFlow, flow = some value →
      value.uniqueId = some uniqueId → state.flows other = some otherFlow →
      otherFlow.uniqueId = some uniqueId → other = id)
    (pending : ∀ uniqueId host port modbusId,
      flow = some { uniqueId, step := .validating host port modbusId } →
      uniqueId = some (endpointId host port) ∧
        ¬ state.configured (endpointId host port)) :
    (state.setFlow id flow).Coherent where
  entries := coherent.entries
  known := coherent.known
  flowKnown := by
    intro other value found
    by_cases same : other = id
    · rw [same] at found ⊢
      simp only [FlowState.setFlow, Function.update_self] at found
      exact known value found
    · simp only [FlowState.setFlow, Function.update_of_ne same] at found
      exact coherent.flowKnown other value found
  flowIds := by
    intro first second value other uniqueId firstFound secondFound holds
      otherHolds
    by_cases firstHere : first = id
    · by_cases secondHere : second = id
      · rw [firstHere, secondHere]
      · simp only [FlowState.setFlow, firstHere, Function.update_self]
          at firstFound
        simp only [FlowState.setFlow, Function.update_of_ne secondHere]
          at secondFound
        exact firstHere.trans
          (alone value uniqueId second other firstFound holds secondFound
            otherHolds).symm
    · simp only [FlowState.setFlow, Function.update_of_ne firstHere]
        at firstFound
      by_cases secondHere : second = id
      · simp only [FlowState.setFlow, secondHere, Function.update_self]
          at secondFound
        exact (alone other uniqueId first value secondFound otherHolds
          firstFound holds).trans secondHere.symm
      · simp only [FlowState.setFlow, Function.update_of_ne secondHere]
          at secondFound
        exact coherent.flowIds first second value other uniqueId firstFound
          secondFound holds otherHolds
  pending := by
    intro other uniqueId host port modbusId found
    by_cases same : other = id
    · simp only [FlowState.setFlow, same, Function.update_self] at found
      exact pending uniqueId host port modbusId found
    · simp only [FlowState.setFlow, Function.update_of_ne same] at found
      exact coherent.pending other uniqueId host port modbusId found

theorem Coherent.dropFlow (id : FlowId) :
    (state.dropFlow id).Coherent := by
  apply coherent.setFlow
  · intro value none
    cases none
  · intro value uniqueId other otherFlow none
    cases none
  · intro uniqueId host port modbusId none
    cases none

theorem Coherent.moves {next : FlowState}
    (moves : FlowMoves state next) : next.Coherent := by
  cases moves with
  | dropped id => exact coherent.dropFlow id
  | unchanged => exact coherent
  | went found settled =>
      apply coherent.setFlow
      · intro value _
        exact coherent.flowKnown _ _ found
      · intro value uniqueId other otherFlow valueEq holds otherFound
          otherHolds
        obtain rfl := Option.some.inj valueEq
        exact coherent.flowIds other _ otherFlow _ uniqueId otherFound found
          otherHolds holds
      · intro uniqueId host port modbusId valueEq
        have stepEq := congrArg ConfigFlow.step (Option.some.inj valueEq)
        exact absurd stepEq (settled host port modbusId)
  | opened =>
      have counted :
          ({ state with nextFlow := state.nextFlow + 1 }).Coherent :=
        { coherent with
          flowKnown := fun id flow found =>
            Nat.lt_succ_of_lt (coherent.flowKnown id flow found) }
      apply counted.setFlow
      · exact fun _ _ => Nat.lt_succ_self _
      · intro value uniqueId other otherFlow valueEq holds
        obtain rfl := Option.some.inj valueEq
        cases holds
      · intro uniqueId host port modbusId valueEq
        cases valueEq

theorem Coherent.submitted {id : FlowId} {flow : ConfigFlow}
    {host : String} {port modbusId : Nat}
    (found : state.flows id = some flow)
    (free : ¬ state.inProgress id (endpointId host port))
    (unconfigured : ¬ state.configured (endpointId host port)) :
    (state.setFlow id
      (some
        { uniqueId := some (endpointId host port)
          step := .validating host port modbusId })).Coherent := by
  apply coherent.setFlow
  · exact fun _ _ => coherent.flowKnown id flow found
  · intro value uniqueId other otherFlow valueEq holds otherFound
      otherHolds
    obtain rfl := Option.some.inj valueEq
    obtain rfl := Option.some.inj holds
    exact coherent.free free otherFound otherHolds
  · intro uniqueId otherHost otherPort otherId valueEq
    obtain ⟨rfl, stepEq⟩ := ConfigFlow.mk.inj (Option.some.inj valueEq)
    obtain ⟨rfl, rfl, rfl⟩ := FlowStep.validating.inj stepEq
    exact ⟨rfl, unconfigured⟩

/-- The entries change, and no pending id is taken. -/
theorem Coherent.setEntries {entries : List ConfigEntry}
    {nextEntry : EntryId} {announced : Nat → Option String}
    (entriesCoherent : EntriesCoherent entries)
    (known : ∀ entry ∈ entries, entry.entryId < nextEntry)
    (pending : ∀ id host port modbusId,
      state.flows id =
        some
          { uniqueId := some (endpointId host port)
            step := .validating host port modbusId } →
      ∀ entry ∈ entries, entry.uniqueId ≠ endpointId host port) :
    ({ state with entries, nextEntry, announced }).Coherent where
  entries := entriesCoherent
  known := known
  flowKnown := coherent.flowKnown
  flowIds := coherent.flowIds
  pending := by
    intro id uniqueId host port modbusId found
    obtain ⟨rfl, -⟩ := coherent.pending id uniqueId host port modbusId found
    refine ⟨rfl, ?_⟩
    intro configured
    obtain ⟨entry, member, same⟩ := configured
    exact pending id host port modbusId found entry member same

/-- The new entry of a flow, before the flow itself is dropped: its id is one
that no entry has and no other flow waits with. -/
theorem Coherent.createEntry {title uniqueId : String} {data : EntryData}
    (unconfigured : ¬ state.configured uniqueId)
    (identity : ∀ entryId options,
      ConfigEntry.Tagged { entryId, title, uniqueId, data, options } ∨
        ConfigEntry.Manual { entryId, title, uniqueId, data, options })
    (pending : ∀ id host port modbusId,
      state.flows id =
        some
          { uniqueId := some (endpointId host port)
            step := .validating host port modbusId } →
      uniqueId ≠ endpointId host port) :
    (state.createEntry title uniqueId data).Coherent := by
  apply coherent.setEntries
  · constructor
    · rw [List.map_append, List.nodup_append]
      refine ⟨coherent.entries.entryIds, List.nodup_singleton _, ?_⟩
      intro first firstMember second secondMember same
      obtain ⟨entry, member, rfl⟩ := List.mem_map.mp firstMember
      rw [List.map_singleton, List.mem_singleton] at secondMember
      rw [secondMember] at same
      exact absurd same (Nat.ne_of_lt (coherent.known entry member))
    · rw [List.map_append, List.nodup_append]
      refine ⟨coherent.entries.uniqueIds, List.nodup_singleton _, ?_⟩
      intro first firstMember second secondMember same
      obtain ⟨entry, member, rfl⟩ := List.mem_map.mp firstMember
      rw [List.map_singleton, List.mem_singleton] at secondMember
      exact unconfigured ⟨entry, member, same.trans secondMember⟩
    · intro entry member
      rcases List.mem_append.mp member with old | new
      · exact coherent.entries.identity entry old
      · rw [List.mem_singleton] at new
        rw [new]
        exact identity _ _
  · intro entry member
    rcases List.mem_append.mp member with old | new
    · exact Nat.lt_succ_of_lt (coherent.known entry old)
    · rw [List.mem_singleton] at new
      rw [new]
      exact Nat.lt_succ_self _
  · intro id host port modbusId found entry member
    rcases List.mem_append.mp member with old | new
    · intro same
      exact (coherent.pending id _ host port modbusId found).2
        ⟨entry, old, same⟩
    · rw [List.mem_singleton] at new
      rw [new]
      exact pending id host port modbusId found

theorem Coherent.created {id : FlowId} {action : FlowAction}
    {title uniqueId : String} {data : EntryData}
    (origin : Created state id action uniqueId data) :
    ((state.createEntry title uniqueId data).dropFlow id).Coherent := by
  -- Dropping the flow first comes to the same state.
  have dropped := coherent.dropFlow id
  cases origin with
  | selected found chosen free unconfigured =>
      apply dropped.createEntry unconfigured
      · exact fun _ _ => .inl ⟨_, rfl, rfl, rfl⟩
      · exact fun _ host port _ _ => serialId_ne_endpointId _ host port
  | @validated _ host port modbusId found =>
      obtain ⟨rfl, unconfigured⟩ :=
        coherent.pending id _ host port modbusId found
      apply dropped.createEntry unconfigured
      · exact fun _ _ => .inr ⟨rfl, port, rfl, rfl⟩
      · intro other otherHost otherPort otherId otherFound same
        by_cases here : other = id
        · have ended : (state.dropFlow id).flows id = none :=
            Function.update_self ..
          rw [here] at otherFound
          cases ended.symm.trans otherFound
        · have kept : (state.dropFlow id).flows other = state.flows other :=
            Function.update_of_ne here ..
          exact here (coherent.flowIds other id _ _ _
            (kept.symm.trans otherFound) found rfl (congrArg some same))

theorem Coherent.saved (id : EntryId) (options : EntryOptions) :
    ({ state with
      entries :=
        updateEntry state.entries id (.saveOptions options) }).Coherent := by
  apply coherent.setEntries
  · constructor
    · rw [updateEntry_map state.entries id (.saveOptions options)
        ConfigEntry.entryId (fun _ => rfl)]
      exact coherent.entries.entryIds
    · rw [updateEntry_map state.entries id (.saveOptions options)
        ConfigEntry.uniqueId (fun _ => rfl)]
      exact coherent.entries.uniqueIds
    · intro after found
      obtain ⟨before, member, rfl⟩ := mem_updateEntry.mp found
      have kept := coherent.entries.identity before member
      split
      · exact kept
      · exact kept
  · intro after found
    obtain ⟨before, member, rfl⟩ := mem_updateEntry.mp found
    have known := coherent.known before member
    split
    · exact known
    · exact known
  · intro flow host port modbusId found after afterFound same
    obtain ⟨before, member, rfl⟩ := mem_updateEntry.mp afterFound
    apply (coherent.pending flow _ host port modbusId found).2
    refine ⟨before, member, ?_⟩
    split at same
    · exact same
    · exact same

theorem Coherent.announce (device : DiscoveredDevice) :
    (state.announce device).Coherent := by
  have announced := handleAnnouncement_announced state.entries device
  apply coherent.setEntries (coherent.entries.announced announced)
  · intro after found
    obtain ⟨before, member, idEq, -⟩ := announced.entry found
    rw [idEq]
    exact coherent.known before member
  · intro flow host port modbusId found after afterFound same
    obtain ⟨before, member, -, uniqueEq | uniqueEq⟩ :=
      announced.entry afterFound
    · rw [uniqueEq] at same
      exact (coherent.pending flow _ host port modbusId found).2
        ⟨before, member, same⟩
    · rw [uniqueEq] at same
      exact serialId_ne_endpointId _ host port same

end Preserved

theorem Coherent.step {state next : FlowState} {action : FlowAction}
    (coherent : state.Coherent) (step : state.step action = some next) :
    next.Coherent := by
  cases stepped_of_step step with
  | moved moves => exact coherent.moves moves
  | submitted found unmatched free unconfigured =>
      exact coherent.submitted found free unconfigured
  | created origin => exact coherent.created origin
  | saved => exact coherent.saved _ _
  | announced => exact coherent.announce _

end FlowState

theorem coherent_of_reachable {state : FlowState}
    (reached : flowMachine.Reachable state) : state.Coherent :=
  reached.invariant FlowState.Coherent FlowState.coherent_initial
    fun coherent step => coherent.step step

end Airfi
