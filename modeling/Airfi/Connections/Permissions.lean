import Airfi.Connections.Jobs

/-!
# What a client may ask of its device

The requests that the jobs of a config entry make, against a protocol whose
ghost state is what entitles a client to them: the register versions that the
device has reported and the writes that entities asked for.  Other jobs may
add to it at any time; nothing takes a reported version back.
-/

namespace Airfi

/-- A read of at least one and at most twenty registers that a device can
have. -/
def RegisterTable.Fits (table : RegisterTable) (batch : Batch) : Prop :=
  1 ≤ batch.1 ∧ 1 ≤ batch.2 ∧ batch.2 ≤ 20 ∧
    batch.1 + batch.2 ≤
      match table with
      | .input => 53
      | .holding => 69

instance (table : RegisterTable) (batch : Batch) :
    Decidable (table.Fits batch) :=
  inferInstanceAs (Decidable (_ ∧ _))

structure Permission where
  /-- The register versions that the device has reported. -/
  reported : Nat → Prop
  /-- The write that was asked for and has not been sent. -/
  unsent : Nat → Nat → Prop

namespace Permission

/-- The extension batch that some reported version stands for. -/
def Extends (permission : Permission) (batch : Batch) : Prop :=
  ∃ version, permission.reported version ∧
    AirfiCoordinator.chooseExtension (some version) = some batch

def AllowsRead (permission : Permission) :
    RegisterTable → Batch → Prop
  | .input, batch =>
      batch ∈ inputRegisterBatches ∨ batch = (1, 1) ∨
        permission.Extends batch
  | .holding, batch => batch ∈ holdingRegisterBatches

def Allows (permission : Permission) : ClientEffect → Prop
  | .request (.readRegisters table start count _) =>
      permission.AllowsRead table (start, count)
  | .request (.writeRegister address value _) =>
      permission.unsent address value
  | _ => True

/-- The reply to a read shows a register version. -/
def Shows : ModbusRequest → ModbusReply → Nat → Prop
  | .readRegisters .input start _ _, .registers values, version =>
      RegisterMap.enumerate start values 3 = some version
  | _, _, _ => False

/-- The reported versions are all still there. -/
def Grows (permission later : Permission) : Prop :=
  ∀ version, permission.reported version → later.reported version

structure Le (permission larger : Permission) : Prop where
  reported : permission.Grows larger
  unsent : ∀ address value, permission.unsent address value →
    larger.unsent address value

/-- What an answered effect leaves of a permission, at least. -/
def After (permission : Permission) :
    (effect : ClientEffect) → ClientAnswer effect → Permission → Prop
  | .request (.readRegisters table start count deviceId), reply, next =>
      permission.Le next ∧ ∀ version,
        Shows (.readRegisters table start count deviceId) reply version →
          next.reported version
  | .request (.writeRegister ..), _, next => permission.Grows next
  | .acquireLock, _, next => permission.Le next
  | .connect, _, next => permission.Le next
  | .close, _, next => permission.Le next
  | .releaseLock, _, next => permission.Le next

theorem Grows.refl (permission : Permission) : permission.Grows permission :=
  fun _ reported => reported

theorem Grows.trans {first second third : Permission}
    (one : first.Grows second) (two : second.Grows third) :
    first.Grows third :=
  fun version reported => two version (one version reported)

theorem Le.trans {first second third : Permission}
    (one : first.Le second) (two : second.Le third) : first.Le third where
  reported := one.reported.trans two.reported
  unsent := fun address value unsent =>
    two.unsent address value (one.unsent address value unsent)

theorem After.grows {permission next : Permission} {effect : ClientEffect}
    {reply : ClientAnswer effect} (after : permission.After effect reply next) :
    permission.Grows next := by
  cases effect with
  | request request =>
      cases request with
      | readRegisters table start count deviceId => exact after.1.reported
      | writeRegister address value deviceId => exact after
  | acquireLock => exact Le.reported after
  | connect => exact Le.reported after
  | close => exact Le.reported after
  | releaseLock => exact Le.reported after

theorem Extends.grows {permission later : Permission} {batch : Batch}
    (extended : permission.Extends batch) (grows : permission.Grows later) :
    later.Extends batch := by
  obtain ⟨version, reported, chosen⟩ := extended
  exact ⟨version, grows version reported, chosen⟩

theorem AllowsRead.grows {permission later : Permission}
    {table : RegisterTable} {batch : Batch}
    (allowed : permission.AllowsRead table batch)
    (grows : permission.Grows later) : later.AllowsRead table batch := by
  cases table with
  | input =>
      rcases allowed with base | probe | extended
      · exact .inl base
      · exact .inr (.inl probe)
      · exact .inr (.inr (extended.grows grows))
  | holding => exact allowed

theorem Le.allows {permission larger : Permission} {effect : ClientEffect}
    (le : permission.Le larger) (allowed : permission.Allows effect) :
    larger.Allows effect := by
  cases effect with
  | request request =>
      cases request with
      | readRegisters table start count deviceId =>
          exact AllowsRead.grows allowed le.reported
      | writeRegister address value deviceId =>
          exact le.unsent address value allowed
  | _ => trivial

theorem Le.after {permission larger next : Permission}
    {effect : ClientEffect} {reply : ClientAnswer effect}
    (le : permission.Le larger) (after : larger.After effect reply next) :
    permission.After effect reply next := by
  cases effect with
  | request request =>
      cases request with
      | readRegisters table start count deviceId =>
          exact ⟨le.trans after.1, after.2⟩
      | writeRegister address value deviceId =>
          exact le.reported.trans after
  | acquireLock => exact Le.trans le after
  | connect => exact Le.trans le after
  | close => exact Le.trans le after
  | releaseLock => exact Le.trans le after

theorem Extends.mem {permission : Permission} {batch : Batch}
    (extended : permission.Extends batch) :
    batch ∈ inputExtensionBatches.map Prod.snd := by
  obtain ⟨version, -, chosen⟩ := extended
  obtain ⟨extension, found, rfl⟩ := Option.map_eq_some_iff.mp chosen
  exact List.mem_map_of_mem (List.mem_of_find?_eq_some found)

theorem AllowsRead.fits {permission : Permission} {table : RegisterTable}
    {batch : Batch} (allowed : permission.AllowsRead table batch) :
    table.Fits batch := by
  cases table with
  | holding =>
      have all : ∀ known ∈ holdingRegisterBatches,
          RegisterTable.holding.Fits known := by decide
      exact all batch allowed
  | input =>
      have base : ∀ known ∈ inputRegisterBatches,
          RegisterTable.input.Fits known := by decide
      have extensions : ∀ known ∈ inputExtensionBatches.map Prod.snd,
          RegisterTable.input.Fits known := by decide
      rcases allowed with isBase | rfl | extended
      · exact base batch isBase
      · decide
      · exact extensions batch extended.mem

end Permission

def permissionProtocol :
    Coroutine.Protocol Permission ClientEffect ClientAnswer where
  allowed := Permission.Allows
  answers := Permission.After

/-- Every request of the program is permitted, and what it returns meets the
postcondition. -/
def Asks (permission : Permission) {α : Type} (post : Permission → α → Prop)
    (program : ClientProgram α) : Prop :=
  program.Follows permissionProtocol
    (fun reached result => ∀ value, result = .ok value →
      post reached value) permission

/-- A postcondition that later reports do not undo. -/
def Stable {α : Type} (post : Permission → α → Prop) : Prop :=
  ∀ (permission later : Permission) (value : α), permission.Grows later →
    post permission value → post later value

namespace Asks

variable {permission : Permission} {α β : Type}
  {post : Permission → α → Prop} {last : Permission → β → Prop}

theorem done {value : α} (holds : post permission value) :
    Asks permission post (.done value : ClientProgram α) := by
  intro result same
  rw [← Except.ok.inj same]
  exact holds

theorem raise (error : PyError) :
    Asks permission post (.raise error : ClientProgram α) := by
  intro result same
  cases same

theorem mono {weaker : Permission → α → Prop} {program : ClientProgram α}
    (asks : Asks permission post program)
    (weaken : ∀ later value, post later value → weaker later value) :
    Asks permission weaker program := by
  apply Coroutine.Follows.mono _ asks
  intro reached result ended value same
  exact weaken reached value (ended value same)

/-- A program may go on where more is permitted meanwhile. -/
theorem of_le {larger : Permission} {program : ClientProgram α}
    (stable : Stable post) (le : permission.Le larger)
    (asks : Asks permission post program) : Asks larger post program := by
  apply Coroutine.Follows.of_le Permission.Le.allows Permission.Le.after
    _ le asks
  intro state more result below ended value same
  exact stable _ _ _ below.reported (ended value same)

/-- What a program starts with is still reported where it ends. -/
theorem since {program : ClientProgram α}
    (asks : Asks permission post program) :
    program.Follows permissionProtocol
      (fun reached result => permission.Grows reached ∧
        ∀ value, result = .ok value → post reached value) permission :=
  Coroutine.Follows.since Permission.Grows.refl Permission.Grows.trans
    Permission.After.grows asks

theorem bind {program : ClientProgram α} {next : α → ClientProgram β}
    (first : Asks permission post program)
    (second : ∀ later value, permission.Grows later → post later value →
      Asks later last (next value)) :
    Asks permission last (program.bind next) := by
  apply Coroutine.Follows.bind
  apply first.since.mono
  intro reached result ended
  cases result with
  | ok value => exact second reached value ended.1 (ended.2 value rfl)
  | error error =>
      intro value same
      cases same

/-- The outcome of a program, which is a value also where it raised. -/
theorem outcome {program : ClientProgram α}
    (first : Asks permission post program) :
    Asks permission
      (fun reached result => ∀ value, result = .ok value →
        post reached value) program.outcome := by
  apply (Coroutine.Follows.outcome first).mono
  intro reached ended found result same
  obtain ⟨ran, rfl, held⟩ := found
  rw [← Except.ok.inj same]
  exact held

theorem translate {program : ClientProgram α}
    (first : Asks permission post program) :
    Asks permission post (translateModbusException program) := by
  apply Coroutine.Follows.tryExcept
  apply Coroutine.Follows.mono _ first
  intro reached result ended
  cases result with
  | ok value => exact ended
  | error error =>
      cases error with
      | modbusException io text => exact raise _
      | _ => exact raise _

theorem tryFinally {program : ClientProgram α} {cleanup : ClientProgram Unit}
    (stable : Stable post)
    (cleans : ∀ later, Asks later (fun _ _ => True) cleanup)
    (first : Asks permission post program) :
    Asks permission post (program.tryFinally cleanup) := by
  apply Coroutine.Follows.tryFinally
  apply Coroutine.Follows.mono _ first
  intro reached result ended
  apply (cleans reached).since.mono
  intro final cleaned grown
  cases cleaned with
  | ok value =>
      intro returned same
      exact stable _ _ _ grown.1 (ended returned same)
  | error error =>
      intro returned same
      cases same

theorem clientClose (permission : Permission) :
    Asks permission (fun _ _ => True) clientClose :=
  ⟨trivial, fun _ _ _ _ _ => trivial⟩

theorem releaseLock (permission : Permission) :
    Asks permission (fun _ _ => True) releaseLock :=
  ⟨trivial, fun _ _ _ _ _ => trivial⟩

/-- A connect that fails only closes, and one that succeeds leaves all that
was permitted. -/
theorem connect_bind (client : AirfiModbusClient)
    {next : ClientProgram α}
    (continues : ∀ later, permission.Le later → Asks later post next) :
    Asks permission post (client.connect >>= fun _ => next) := by
  refine ⟨trivial, ?_⟩
  intro reply opened le
  cases reply with
  | returned connected =>
      cases connected with
      | true => exact continues opened le
      | false => exact ⟨trivial, fun _ _ _ => raise _⟩
  | raised error =>
      cases error with
      | osError text => exact ⟨trivial, fun _ _ _ => raise _⟩
      | timeoutError text => exact ⟨trivial, fun _ _ _ => raise _⟩
      | modbusException io text => exact ⟨trivial, fun _ _ _ => raise _⟩
      | _ => exact raise _

/-- A session asks what its body asks. -/
theorem session (client : AirfiModbusClient) {body : ClientProgram α}
    (stable : Stable post)
    (asks : ∀ later, permission.Le later → Asks later post body) :
    Asks permission post (client.session body) := by
  refine ⟨trivial, ?_⟩
  intro reply locked le
  cases reply with
  | cancelled => exact raise _
  | acquired =>
      have connected : Asks locked post (client.connect >>= fun _ =>
          (translateModbusException body).tryFinally
            Airfi.clientClose) := by
        apply connect_bind
        intro opened stillLe
        apply tryFinally stable clientClose
        exact (asks opened (le.trans stillLe)).translate
      exact tryFinally stable releaseLock connected

end Asks

/-! ## The operations of the client -/

section Operations

variable {permission : Permission} (client : AirfiModbusClient)

/-- What was read of the version register was reported. -/
def ReportsVersion (permission : Permission) (data : RegisterMap) : Prop :=
  ∀ version, data 3 = some version → permission.reported version

theorem ReportsVersion.grows {later : Permission} {data : RegisterMap}
    (reports : ReportsVersion permission data)
    (grows : permission.Grows later) : ReportsVersion later data :=
  fun version read => grows version (reports version read)

theorem ReportsVersion.update {data batch : RegisterMap}
    (before : ReportsVersion permission data)
    (read : ReportsVersion permission batch) :
    ReportsVersion permission (data.update batch) := by
  intro version found
  rcases Option.or_eq_some_iff.mp found with newer | ⟨-, older⟩
  · exact read version newer
  · exact before version older

theorem readBatch_input_asks {start count : Nat} (deviceId : Option Nat)
    (allowed : permission.AllowsRead .input (start, count)) :
    Asks permission ReportsVersion
      (client.readBatch .input start count deviceId) := by
  refine ⟨allowed, ?_⟩
  intro reply next after
  cases reply with
  | raised error => exact Asks.raise _
  | errorResponse text => exact Asks.raise _
  | registers values => exact Asks.done after.2

theorem readBatch_holding_asks {start count : Nat} (deviceId : Option Nat)
    (allowed : (start, count) ∈ holdingRegisterBatches) :
    Asks permission (fun _ _ => True)
      (client.readBatch .holding start count deviceId) := by
  refine ⟨allowed, ?_⟩
  intro reply next after
  cases reply with
  | raised error => exact Asks.raise _
  | errorResponse text => exact Asks.raise _
  | registers values => exact Asks.done trivial

theorem readBatches_input_asks (batches : List Batch)
    (allowed : ∀ batch ∈ batches, permission.AllowsRead .input batch)
    (data : RegisterMap) (known : ReportsVersion permission data) :
    Asks permission ReportsVersion
      (client.readBatches .input batches data) := by
  induction batches generalizing permission data with
  | nil => exact Asks.done known
  | cons batch rest ih =>
      apply (readBatch_input_asks client none
        (allowed batch List.mem_cons_self)).bind
      intro later read grows reports
      apply ih
      · intro other member
        exact (allowed other (List.mem_cons_of_mem _ member)).grows grows
      · exact (known.grows grows).update reports

theorem readBatches_holding_asks (batches : List Batch)
    (allowed : ∀ batch ∈ batches, batch ∈ holdingRegisterBatches)
    (data : RegisterMap) :
    Asks permission (fun _ _ => True)
      (client.readBatches .holding batches data) := by
  induction batches generalizing permission data with
  | nil => exact Asks.done trivial
  | cons batch rest ih =>
      apply (readBatch_holding_asks client none
        (allowed batch List.mem_cons_self)).bind
      intro later read _ _
      exact ih (fun other member =>
        allowed other (List.mem_cons_of_mem _ member)) _

theorem readAll_asks (extra : Option Batch)
    (allowed : ∀ batch, extra = some batch → permission.Extends batch) :
    Asks permission (fun later data => ReportsVersion later data.input)
      (client.readAll extra) := by
  apply Asks.session client fun _ _ _ grows reports => reports.grows grows
  intro opened le
  have allAllowed : ∀ batch ∈ inputRegisterBatches ++ extra.toList,
      opened.AllowsRead .input batch := by
    intro batch member
    rcases List.mem_append.mp member with base | isExtra
    · exact .inl base
    · exact .inr (.inr ((allowed batch
        (Option.mem_toList.mp isExtra)).grows le.reported))
  apply (readBatches_input_asks client _ allAllowed RegisterMap.empty
    nofun).bind
  intro later input _ reports
  apply (readBatches_holding_asks client holdingRegisterBatches
    (fun _ member => member) RegisterMap.empty).bind
  intro last holding grows _
  exact Asks.done (reports.grows grows)

theorem readHoldingBatch_asks {start count : Nat}
    (allowed : (start, count) ∈ holdingRegisterBatches) :
    Asks permission (fun _ _ => True)
      (client.readHoldingBatch start count) :=
  Asks.session client (fun _ _ _ _ _ => trivial)
    fun _ _ => readBatch_holding_asks client none allowed

theorem readInputBatch_asks {start count : Nat}
    (allowed : permission.Extends (start, count)) :
    Asks permission (fun _ _ => True) (client.readInputBatch start count) := by
  apply Asks.session client (fun _ _ _ _ _ => trivial)
  intro opened le
  exact (readBatch_input_asks client none
    (.inr (.inr (allowed.grows le.reported)))).mono fun _ _ _ => trivial

theorem readInputRegister_asks (deviceId : Option Nat) :
    Asks permission (fun _ _ => True)
      (client.readInputRegister 1 deviceId) := by
  apply Asks.session client (fun _ _ _ _ _ => trivial)
  intro opened _
  apply (readBatch_input_asks client deviceId (.inr (.inl rfl))).bind
  intro later batch _ _
  cases batch 1 with
  | some value => exact Asks.done trivial
  | none => exact Asks.raise _

theorem writeRegister_asks {address value : Nat}
    (unsent : permission.unsent address value) :
    Asks permission (fun _ _ => True)
      (client.writeRegister address value) := by
  apply Asks.session client (fun _ _ _ _ _ => trivial)
  intro opened le
  refine ⟨le.unsent address value unsent, ?_⟩
  intro reply next _
  cases reply with
  | registers values => exact Asks.done trivial
  | errorResponse text => exact Asks.raise _
  | raised error => exact Asks.raise _

end Operations

/-! ## The jobs -/

namespace Permission

/-- The extension that a coordinator reads was chosen by a reported
version. -/
def Knows (permission : Permission) (coordinator : AirfiCoordinator) : Prop :=
  ∀ batch, coordinator.inputExtension = some batch →
    permission.Extends batch

theorem Knows.grows {permission later : Permission}
    {coordinator : AirfiCoordinator} (knows : permission.Knows coordinator)
    (grows : permission.Grows later) : later.Knows coordinator :=
  fun batch chosen => (knows batch chosen).grows grows

end Permission

namespace AirfiCoordinator

variable {permission : Permission} {self : AirfiCoordinator}

theorem init_known (client : AirfiModbusClient) :
    permission.Knows (.init client) := nofun

theorem checkVersion_known {data : AirfiData}
    (knows : permission.Knows self)
    (reports : ReportsVersion permission data.input) :
    permission.Knows (self.checkVersion data) := by
  intro batch chosen
  rcases Option.or_eq_some_iff.mp chosen with newer | ⟨-, older⟩
  · cases read : data.input 3 with
    | none =>
        rw [read] at newer
        cases newer
    | some version =>
        rw [read] at newer
        exact ⟨version, reports version read, newer⟩
  · exact knows batch older

theorem readExtension_asks {data : AirfiData}
    (knows : permission.Knows self) :
    Asks permission (fun later ended => later.Knows ended.2)
      (self.readExtension data) := by
  rw [readExtension]
  split
  case h_1 => exact Asks.done knows
  case h_2 start count chosen =>
    apply (readInputBatch_asks self.client
      (knows _ chosen)).outcome.bind
    intro later extension grows _
    split
    · exact Asks.done (knows.grows grows)
    · exact Asks.done (knows.grows grows)
    · exact Asks.done (knows.grows grows)
    · exact Asks.done (knows.grows grows)

theorem asyncUpdateData_asks (knows : permission.Knows self) :
    Asks permission (fun later ended => later.Knows ended.2)
      self.asyncUpdateData := by
  apply (readAll_asks self.client self.inputExtension knows).outcome.bind
  intro later result grows reports
  cases result with
  | error error => exact Asks.done (knows.grows grows)
  | ok data =>
      simp only
      split
      · exact Asks.done (knows.grows grows)
      · exact readExtension_asks
          (checkVersion_known (knows.grows grows) (reports data rfl))

theorem asyncWriteValue_asks {address value : Nat}
    (unsent : permission.unsent address value) :
    Asks permission (fun _ _ => True)
      (self.asyncWriteValue address value) := by
  apply (writeRegister_asks self.client unsent).outcome.bind
  intro later result _ _
  split
  · exact Asks.done trivial
  · exact Asks.done trivial
  · exact Asks.done trivial
  · split
    · exact Asks.done trivial
    · rename_i start count found
      apply (readHoldingBatch_asks self.client
        (List.mem_of_find?_eq_some found)).outcome.bind
      intro last confirmed _ _
      split
      · exact Asks.done trivial
      · exact Asks.done trivial
      · exact Asks.done trivial
      · exact Asks.done trivial

end AirfiCoordinator

theorem asyncValidateModbusId_asks {permission : Permission}
    (client : AirfiModbusClient) (deviceId : Option Nat) :
    Asks permission (fun _ _ => True)
      (asyncValidateModbusId client deviceId) := by
  apply (readInputRegister_asks client deviceId).outcome.bind
  intro later result _ _
  split
  · exact Asks.done trivial
  · exact Asks.done trivial
  · exact Asks.done trivial
  · exact Asks.raise _

end Airfi
