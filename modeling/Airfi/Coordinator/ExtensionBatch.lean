import Airfi.Coordinator.Poll
import Airfi.Modbus.Session

/-!
# The extension batch and the success of a poll

Each client operation run against a poll's behaviour, then the poll itself:
the first poll succeeds exactly when the base batches are served, a later one
only when the chosen extension is served too.
-/

namespace Airfi

/-- The exceptions that a request inside a session ends with. -/
def PyError.FromRequest : PyError → Prop
  | .modbusException _ _ => True
  | .airfiModbusError _ => True
  | _ => False

/-- The exceptions that the coordinator handles. -/
def PyError.Handled : PyError → Prop
  | .airfiConnectionError _ => True
  | .airfiModbusError _ => True
  | _ => False

namespace PollBehaviour

variable (behaviour : PollBehaviour) (client : AirfiModbusClient)

theorem connectReply_declared (connects : Nat) :
    (behaviour.connectReply connects).Declared := by
  cases connects with
  | zero => exact behaviour.connectDeclared
  | succ _ => exact behaviour.extensionDeclared

/-! ## Batches -/

theorem readBatch_runWith (table : RegisterTable)
    (start count connects : Nat) :
    (client.readBatch table start count none).runWith behaviour.handler
        connects =
      (match behaviour.batch table (start, count) with
        | .answered =>
            .ok (snapshot (behaviour.device.table table) [(start, count)])
        | .errorResponse text =>
            .error (.airfiModbusError
              (AirfiModbusClient.readErrorText start count text))
        | .modbusException io text => .error (.modbusException io text),
        connects) := by
  rw [Airfi.readBatch_runWith]
  simp only [handler, reply]
  cases behaviour.batch table (start, count) with
  | answered =>
      rw [← enumerate_registers]
      rfl
  | errorResponse text => rfl
  | modbusException io text => rfl

theorem readBatch_unanswered {table : RegisterTable} {start count : Nat}
    (connects : Nat)
    (unanswered : behaviour.batch table (start, count) ≠ .answered) :
    ∃ error, error.FromRequest ∧
      (client.readBatch table start count none).runWith
          behaviour.handler connects = (.error error, connects) := by
  rw [readBatch_runWith]
  cases outcome : behaviour.batch table (start, count) with
  | answered => exact absurd outcome unanswered
  | errorResponse text => exact ⟨.airfiModbusError _, trivial, rfl⟩
  | modbusException io text =>
      exact ⟨.modbusException io text, trivial, rfl⟩

theorem readBatches_served {table : RegisterTable} {batches : List Batch}
    (done : List Batch) (connects : Nat)
    (served : behaviour.Serves table batches) :
    (client.readBatches table batches
          (snapshot (behaviour.device.table table) done)).runWith
        behaviour.handler connects =
      (.ok (snapshot (behaviour.device.table table) (done ++ batches)),
        connects) := by
  have answered : ∀ batch ∈ batches, ∀ state, state = connects → ∃ after,
      (client.readBatch table batch.1 batch.2 none).runWith
            behaviour.handler state =
          (.ok (snapshot (behaviour.device.table table) [batch]), after) ∧
        after = connects := by
    rintro batch member state rfl
    rw [readBatch_runWith, served batch member]
    exact ⟨_, rfl, rfl⟩
  obtain ⟨after, ran, rfl⟩ :=
    readBatches_runWith behaviour.handler client answered done connects rfl
  exact ran

/-- One batch that is not answered ends the loop, wherever it stands. -/
theorem readBatches_unserved {table : RegisterTable} {batches : List Batch}
    (data : RegisterMap) (connects : Nat)
    (unserved : ¬ behaviour.Serves table batches) :
    ∃ error, error.FromRequest ∧
      (client.readBatches table batches data).runWith behaviour.handler
          connects = (.error error, connects) := by
  induction batches generalizing data with
  | nil =>
      exfalso
      apply unserved
      intro batch member
      cases member
  | cons batch rest ih =>
      obtain ⟨start, count⟩ := batch
      rw [AirfiModbusClient.readBatches, Coroutine.bind_eq,
        Coroutine.runWith_bind]
      by_cases here : behaviour.batch table (start, count) = .answered
      · have later : ¬ behaviour.Serves table rest := by
          intro served
          apply unserved
          intro other member
          rcases List.mem_cons.mp member with same | member
          · rw [same]
            exact here
          · exact served other member
        rw [readBatch_runWith, here]
        exact ih _ later
      · obtain ⟨error, fromRequest, ran⟩ :=
          readBatch_unanswered behaviour client connects here
        rw [ran]
        exact ⟨error, fromRequest, rfl⟩

/-! ## Sessions -/

theorem session_returned {α : Type} {body : ClientProgram α}
    (connects : Nat) {value : α}
    (connected : behaviour.connectReply connects = .returned true)
    (ran : body.runWith behaviour.handler (connects + 1) =
      (.ok value, connects + 1)) :
    (client.session body).runWith behaviour.handler connects =
      (.ok value, connects + 1) := by
  have opened : behaviour.handler connects .connect =
      (behaviour.connectReply connects, connects + 1) := rfl
  rw [connected] at opened
  exact session_connected behaviour.handler client rfl opened ran

/-- The exception of a body, as the session reports it. -/
theorem session_raised {α : Type} {body : ClientProgram α}
    (connects : Nat) {error : PyError}
    (connected : behaviour.connectReply connects = .returned true)
    (fromRequest : error.FromRequest)
    (ran : body.runWith behaviour.handler (connects + 1) =
      (.error error, connects + 1)) :
    ∃ reported, reported.Handled ∧
      (client.session body).runWith behaviour.handler connects =
        (.error reported, connects + 1) := by
  have opened : behaviour.handler connects .connect =
      (behaviour.connectReply connects, connects + 1) := rfl
  rw [connected] at opened
  have handled : (translateError error).Handled := by
    cases error with
    | modbusException io text => exact trivial
    | airfiModbusError text => exact trivial
    | _ => exact fromRequest.elim
  exact ⟨_, handled,
    session_connected behaviour.handler client rfl opened ran⟩

theorem session_refused {α : Type} (body : ClientProgram α)
    (connects : Nat)
    (refused : behaviour.connectReply connects ≠ .returned true) :
    ∃ reported, reported.Handled ∧
      (client.session body).runWith behaviour.handler connects =
        (.error reported, connects + 1) := by
  obtain ⟨text, ran⟩ := @session_not_connected _ _ behaviour.handler client
    _ _ _ body _ rfl rfl (behaviour.connectReply_declared connects) refused
  exact ⟨.airfiConnectionError text, trivial, ran⟩

/-! ## The two reads of a poll -/

theorem readAll_served (extra : Option Batch)
    (base : behaviour.ServesBase)
    (extension : behaviour.Serves .input extra.toList) :
    (client.readAll extra).runWith behaviour.handler 0 =
      (.ok (Operation.snapshotData extra behaviour.device), 1) := by
  obtain ⟨connected, input, holding⟩ := base
  apply session_returned behaviour client 0 connected
  have all : behaviour.Serves .input
      (inputRegisterBatches ++ extra.toList) := by
    intro batch member
    rcases List.mem_append.mp member with fromBase | fromExtra
    · exact input batch fromBase
    · exact extension batch fromExtra
  have readInput := readBatches_served behaviour client [] 1 all
  have readHolding := readBatches_served behaviour client [] 1 holding
  rw [snapshot_nil] at readInput readHolding
  rw [Coroutine.bind_eq, Coroutine.runWith_bind, readInput]
  simp only [Coroutine.bind_eq]
  rw [Coroutine.runWith_bind, readHolding]
  rfl

theorem readAll_unserved (extra : Option Batch)
    (unserved : ¬ (behaviour.ServesBase ∧
      behaviour.Serves .input extra.toList)) :
    ∃ reported, reported.Handled ∧
      (client.readAll extra).runWith behaviour.handler 0 =
        (.error reported, 1) := by
  by_cases connected : behaviour.connect = .returned true
  · by_cases input : behaviour.Serves .input
        (inputRegisterBatches ++ extra.toList)
    · have holding : ¬ behaviour.Serves .holding
          holdingRegisterBatches := by
        intro holding
        apply unserved
        refine ⟨⟨connected, ?_, holding⟩, ?_⟩
        · exact fun batch member =>
            input batch (List.mem_append_left _ member)
        · exact fun batch member =>
            input batch (List.mem_append_right _ member)
      have readInput := readBatches_served behaviour client [] 1 input
      rw [snapshot_nil] at readInput
      obtain ⟨error, fromRequest, ran⟩ := readBatches_unserved behaviour
        client RegisterMap.empty 1 holding
      apply session_raised behaviour client 0 connected fromRequest
      rw [Coroutine.bind_eq, Coroutine.runWith_bind, readInput]
      simp only [Coroutine.bind_eq]
      rw [Coroutine.runWith_bind, ran]
    · obtain ⟨error, fromRequest, ran⟩ := readBatches_unserved behaviour
        client RegisterMap.empty 1 input
      apply session_raised behaviour client 0 connected fromRequest
      rw [Coroutine.bind_eq, Coroutine.runWith_bind, ran]
  · exact session_refused behaviour client _ 0 connected

/-- The separate extension read of a first poll succeeds. -/
def ServesExtension (extension : Batch) : Prop :=
  behaviour.extensionConnect = .returned true ∧
    behaviour.batch .input extension = .answered

instance (extension : Batch) :
    Decidable (behaviour.ServesExtension extension) :=
  inferInstanceAs (Decidable (_ ∧ _))

theorem readInputBatch_served {start count : Nat}
    (served : behaviour.ServesExtension (start, count)) :
    (client.readInputBatch start count).runWith behaviour.handler 1 =
      (.ok (snapshot behaviour.device.input [(start, count)]), 2) := by
  obtain ⟨connected, answered⟩ := served
  apply session_returned behaviour client 1 connected
  rw [readBatch_runWith, answered]
  rfl

theorem readInputBatch_unserved {start count : Nat}
    (unserved : ¬ behaviour.ServesExtension (start, count)) :
    ∃ reported, reported.Handled ∧
      (client.readInputBatch start count).runWith behaviour.handler 1 =
        (.error reported, 2) := by
  by_cases connected : behaviour.extensionConnect = .returned true
  · have unanswered :
        behaviour.batch .input (start, count) ≠ .answered :=
      fun answered => unserved ⟨connected, answered⟩
    obtain ⟨error, fromRequest, ran⟩ :=
      readBatch_unanswered behaviour client 2 unanswered
    exact session_raised behaviour client 1 connected fromRequest ran
  · exact session_refused behaviour client _ 1 connected

end PollBehaviour

/-! ## Polls -/

namespace AirfiCoordinator

variable (self : AirfiCoordinator) (behaviour : PollBehaviour)

theorem poll_unserved
    (unserved : ¬ (behaviour.ServesBase ∧
      behaviour.Serves .input self.inputExtension.toList)) :
    ∃ text, self.poll behaviour = (.error (.updateFailed text), self) := by
  obtain ⟨reported, handled, ran⟩ :=
    behaviour.readAll_unserved self.client self.inputExtension unserved
  rw [poll, asyncUpdateData, Coroutine.bind_eq, Coroutine.runWith_bind,
    Coroutine.runWith_outcome, ran]
  cases reported with
  | airfiConnectionError text => exact ⟨text, rfl⟩
  | airfiModbusError text => exact ⟨text, rfl⟩
  | _ => exact handled.elim

theorem poll_later (later : self.versionChecked = true)
    (base : behaviour.ServesBase)
    (extension : behaviour.Serves .input self.inputExtension.toList) :
    self.poll behaviour =
      (.ok (Operation.snapshotData self.inputExtension behaviour.device),
        self) := by
  rw [poll, asyncUpdateData, Coroutine.bind_eq, Coroutine.runWith_bind,
    Coroutine.runWith_outcome,
    behaviour.readAll_served self.client _ base extension]
  simp only [later]
  rfl

theorem snapshotData_version (extra : Option Batch) (device : Device) :
    (Operation.snapshotData extra device).input 3 =
      some (device.input 3) := by
  have covered : ∃ batch ∈ inputRegisterBatches ++ extra.toList,
      batch.Covers 3 :=
    ⟨(1, 20), by simp [inputRegisterBatches], by decide⟩
  simp only [Operation.snapshotData, snapshot, if_pos covered]

/-- The extension that a first poll of this device chooses. -/
def offeredExtension : Option Batch :=
  chooseExtension (some (behaviour.device.input 3))

theorem poll_first (first : self.versionChecked = false)
    (unset : self.inputExtension = none) (base : behaviour.ServesBase) :
    (self.poll behaviour).1 =
      .ok (Operation.snapshotData
        ((offeredExtension behaviour).filter fun extension =>
          decide (behaviour.ServesExtension extension))
        behaviour.device) := by
  have served : behaviour.Serves .input self.inputExtension.toList := by
    rw [unset]
    intro batch member
    cases member
  have chosen : (self.checkVersion (Operation.snapshotData
      self.inputExtension behaviour.device)).inputExtension =
      offeredExtension behaviour := by
    rw [checkVersion, snapshotData_version, unset]
    exact Option.or_none
  rw [poll, asyncUpdateData, Coroutine.bind_eq, Coroutine.runWith_bind,
    Coroutine.runWith_outcome,
    behaviour.readAll_served self.client _ base served]
  simp only [first, Bool.false_eq_true, if_false, readExtension, chosen]
  cases offered : offeredExtension behaviour with
  | none =>
      rw [unset]
      rfl
  | some extension =>
      obtain ⟨start, count⟩ := extension
      simp only [Coroutine.bind_eq]
      rw [Coroutine.runWith_bind, Coroutine.runWith_outcome]
      by_cases answered : behaviour.ServesExtension (start, count)
      · have ran := behaviour.readInputBatch_served
          (self.checkVersion (Operation.snapshotData self.inputExtension
            behaviour.device)).client answered
        rw [ran, Option.filter_some, if_pos (decide_eq_true answered),
          unset]
        simp only [Operation.snapshotData, Option.toList_none,
          List.append_nil, Option.toList_some, ← snapshot_update]
        rfl
      · obtain ⟨reported, handled, ran⟩ :=
          behaviour.readInputBatch_unserved
            (self.checkVersion (Operation.snapshotData self.inputExtension
              behaviour.device)).client answered
        rw [ran, Option.filter_some,
          if_neg (fun decided => answered (of_decide_eq_true decided)),
          unset]
        cases reported with
        | airfiConnectionError text => rfl
        | airfiModbusError text => rfl
        | _ => exact handled.elim

theorem readExtension_keeps (data : AirfiData) (connects : Nat) :
    ∃ result, ((self.readExtension data).runWith behaviour.handler
      connects).1 = .ok (result, self) := by
  rw [readExtension]
  cases self.inputExtension with
  | none => exact ⟨.ok data, rfl⟩
  | some extension =>
      obtain ⟨start, count⟩ := extension
      simp only [Coroutine.bind_eq]
      rw [Coroutine.runWith_bind, Coroutine.runWith_outcome]
      rcases (self.client.readInputBatch start count).runWith
        behaviour.handler connects with ⟨error | batch, ended⟩
      · cases error with
        | airfiConnectionError text => exact ⟨.ok data, rfl⟩
        | airfiModbusError text => exact ⟨.ok data, rfl⟩
        | _ => exact ⟨.error _, rfl⟩
      · exact ⟨_, rfl⟩

/-- A poll leaves the coordinator alone or checks the version. -/
theorem poll_coordinator :
    (self.poll behaviour).2 = self ∨
      (self.poll behaviour).2.versionChecked = true := by
  rw [poll, asyncUpdateData, Coroutine.bind_eq, Coroutine.runWith_bind,
    Coroutine.runWith_outcome]
  rcases (self.client.readAll self.inputExtension).runWith
    behaviour.handler 0 with ⟨error | data, ended⟩
  · exact .inl rfl
  · cases checkedBefore : self.versionChecked with
    | true =>
        simp only [if_true]
        exact .inl rfl
    | false =>
        simp only [Bool.false_eq_true, if_false]
        obtain ⟨result, ran⟩ := (self.checkVersion data).readExtension_keeps
          behaviour data ended
        rw [ran]
        exact .inr rfl

/-! ## When the extension decides -/

/-- The extension whose read succeeds in this poll, if there is one. -/
def servedExtension : Option Batch :=
  if self.versionChecked then
    self.inputExtension.filter fun extension =>
      decide (behaviour.batch .input extension = .answered)
  else
    (offeredExtension behaviour).filter fun extension =>
      decide (behaviour.ServesExtension extension)

/-- Two polls agree on success and on the base registers. -/
def Agree : Except PyError AirfiData → Except PyError AirfiData → Prop
  | .ok first, .ok later =>
      (∀ batch ∈ inputRegisterBatches, ∀ address, batch.Covers address →
        first.input address = later.input address) ∧
        first.holding = later.holding
  | .error _, .error _ => True
  | _, _ => False

/-- What a poll owes to a device that serves the base batches, and to the
poll that a fresh coordinator makes of the same device. -/
structure ExtensionNeverDecides (coordinator : AirfiCoordinator)
    (behaviour : PollBehaviour) : Prop where
  succeeds : behaviour.ServesBase →
    (coordinator.poll behaviour).1 =
      .ok (Operation.snapshotData (coordinator.servedExtension behaviour)
        behaviour.device)
  agrees : Agree ((init coordinator.client).poll behaviour).1
    (coordinator.poll behaviour).1

/-- Where the base batches are served, an extension chosen by an earlier poll
is served too. -/
def ExtensionServed (coordinator : AirfiCoordinator)
    (behaviour : PollBehaviour) : Prop :=
  behaviour.ServesBase →
    behaviour.Serves .input coordinator.inputExtension.toList

theorem agree_snapshots (first later : Option Batch) (device : Device) :
    Agree (.ok (Operation.snapshotData first device))
      (.ok (Operation.snapshotData later device)) := by
  refine ⟨?_, rfl⟩
  intro batch member address covered
  have covers : ∀ extra : Option Batch,
      ∃ other ∈ inputRegisterBatches ++ extra.toList,
        other.Covers address :=
    fun extra => ⟨batch, List.mem_append_left _ member, covered⟩
  simp only [Operation.snapshotData, snapshot, if_pos (covers _)]

theorem poll_served
    (coherent : self.versionChecked = false → self.inputExtension = none)
    (base : behaviour.ServesBase)
    (extension : behaviour.Serves .input self.inputExtension.toList) :
    (self.poll behaviour).1 =
      .ok (Operation.snapshotData (self.servedExtension behaviour)
        behaviour.device) := by
  cases checkedBefore : self.versionChecked with
  | false =>
      rw [poll_first self behaviour checkedBefore (coherent checkedBefore)
        base, servedExtension, checkedBefore]
      rfl
  | true =>
      have all : self.inputExtension.filter (fun extension =>
          decide (behaviour.batch .input extension = .answered)) =
          self.inputExtension := by
        cases chosen : self.inputExtension with
        | none => rfl
        | some batch =>
            rw [chosen] at extension
            have answered := extension batch (by simp)
            rw [Option.filter_some, if_pos (decide_eq_true answered)]
      rw [poll_later self behaviour checkedBefore base extension,
        servedExtension, checkedBefore, if_pos rfl, all]

/-- One poll: the condition is exact. -/
theorem extensionNeverDecides_iff
    (coherent : self.versionChecked = false → self.inputExtension = none) :
    ExtensionNeverDecides self behaviour ↔
      ExtensionServed self behaviour := by
  constructor
  · intro never base
    by_contra missed
    obtain ⟨text, failed⟩ := self.poll_unserved behaviour
      (fun both => missed both.2)
    have succeeded := never.succeeds base
    rw [failed] at succeeded
    cases succeeded
  · intro served
    have fresh : (init self.client).versionChecked = false →
        (init self.client).inputExtension = none := fun _ => rfl
    have empty : behaviour.Serves .input
        (init self.client).inputExtension.toList := by
      intro batch member
      cases member
    by_cases base : behaviour.ServesBase
    · have polled := self.poll_served behaviour coherent base (served base)
      have polledFresh :=
        (init self.client).poll_served behaviour fresh base empty
      refine ⟨fun _ => polled, ?_⟩
      rw [polled, polledFresh]
      exact agree_snapshots _ _ _
    · refine ⟨fun served => absurd served base, ?_⟩
      obtain ⟨text, failed⟩ := self.poll_unserved behaviour
        (fun both => base both.1)
      obtain ⟨freshText, freshFailed⟩ :=
        (init self.client).poll_unserved behaviour
          (fun both => base both.1)
      rw [failed, freshFailed]
      trivial

/-- Before its first success a coordinator has chosen no extension. -/
theorem reachable_coherent {client : AirfiModbusClient}
    {self : AirfiCoordinator}
    (reached : (pollMachine client).Reachable self) :
    self.versionChecked = false → self.inputExtension = none := by
  apply reached.invariant (fun self =>
    self.versionChecked = false → self.inputExtension = none)
  · exact fun _ => rfl
  · intro state behaviour next coherent stepped unchecked
    cases stepped
    rcases state.poll_coordinator behaviour with same | checked
    · rw [same] at unchecked ⊢
      exact coherent unchecked
    · rw [checked] at unchecked
      cases unchecked

/-- A sequence of polls keeps the extension out of every outcome exactly when
no extension chosen earlier goes unserved while the base is served. -/
theorem extension_never_decides_iff (client : AirfiModbusClient)
    (polls : List PollBehaviour) :
    (pollMachine client).Meets ExtensionNeverDecides polls ↔
      (pollMachine client).Meets ExtensionServed polls :=
  Machine.meets_congr
    (fun reached =>
      extensionNeverDecides_iff _ _ (reachable_coherent reached)) polls

/-- A device that reports version 360 but has no registers 50 to 52. -/
def withoutExtension : PollBehaviour where
  device := ⟨fun _ => 360, fun _ => 0⟩
  connect := .returned true
  connectDeclared := trivial
  extensionConnect := .returned true
  extensionDeclared := trivial
  batch table batch :=
    if table = .input ∧ batch = (50, 3) then
      .errorResponse "IllegalDataAddress"
    else .answered

/-- The first poll of it succeeds, the second one fails. -/
theorem extension_decides_second_poll :
    ¬ (pollMachine ⟨"192.168.1.10", 502, 1⟩).Meets ExtensionNeverDecides
      [withoutExtension, withoutExtension] := by
  intro meets
  have second : ExtensionNeverDecides
      ((init ⟨"192.168.1.10", 502, 1⟩).poll withoutExtension).2
      withoutExtension :=
    meets [withoutExtension] withoutExtension (List.prefix_refl _) _ rfl
  have base : withoutExtension.ServesBase := by decide
  have failed :
      (((init ⟨"192.168.1.10", 502, 1⟩).poll withoutExtension).2.poll
        withoutExtension).1 =
      .error (.updateFailed
        "Modbus error reading registers 50-52: IllegalDataAddress") := by
    rfl
  rw [second.succeeds base] at failed
  cases failed

end AirfiCoordinator

end Airfi
