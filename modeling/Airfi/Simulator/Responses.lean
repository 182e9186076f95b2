import Airfi.Modbus.Operation
import Airfi.Simulator.Frames

/-!
# What `build_response` answers

Over a store with the registers of the device and 16-bit values, every
request is answered with a frame, and only the echo of a write comes with
another store.
-/

namespace Airfi

open Packing

def lastAddress : RegisterTable → Nat
  | .input => 52
  | .holding => 68

namespace RegisterStore

/-- The addresses of the device, each with a 16-bit value. -/
structure WellFormed (store : RegisterStore) : Prop where
  defined : ∀ table address, (store.table table address).isSome ↔
    1 ≤ address ∧ address ≤ lastAddress table
  fits : ∀ table address value,
    store.table table address = some value → value < 65536

/-- The store as the registers of a device. -/
def device (store : RegisterStore) : Device where
  input := fun address => (store.inputRegisters address).getD 0
  holding := fun address => (store.holdingRegisters address).getD 0

variable {store : RegisterStore}

theorem table_eq_some {table : RegisterTable} {address : Nat}
    (present : (store.table table address).isSome) :
    store.table table address =
      some (store.device.table table address) := by
  obtain ⟨value, found⟩ := Option.isSome_iff_exists.mp present
  cases table with
  | input =>
      simp only [table] at found
      simp [table, Device.table, device, found]
  | holding =>
      simp only [table] at found
      simp [table, Device.table, device, found]

theorem items_mem {pairs : List (Nat × Nat)} {address value : Nat}
    (found : items pairs address = some value) :
    (address, value) ∈ pairs := by
  obtain ⟨before, after, rfl, -⟩ := List.lookup_eq_some_iff.mp found
  simp

/-- A table that is made of zeros and then updated inside its range. -/
theorem updated_table {stop : Nat} {pairs : List (Nat × Nat)}
    (inside : ∀ pair ∈ pairs,
      1 ≤ pair.1 ∧ pair.1 < stop ∧ pair.2 < 65536) (address : Nat) :
    (((fromKeys 1 stop).update (items pairs) address).isSome ↔
        1 ≤ address ∧ address < stop) ∧
      ∀ value, (fromKeys 1 stop).update (items pairs) address =
        some value → value < 65536 := by
  rw [RegisterMap.update]
  cases found : items pairs address with
  | some value =>
      obtain ⟨low, high, fits⟩ := inside _ (items_mem found)
      refine ⟨iff_of_true rfl ⟨low, high⟩, ?_⟩
      intro read same
      exact Option.some.inj same ▸ fits
  | none =>
      rw [Option.none_or, fromKeys]
      split
      case isTrue within =>
        refine ⟨iff_of_true rfl within, ?_⟩
        intro read same
        exact Option.some.inj same ▸ (by decide : 0 < 65536)
      case isFalse without =>
        refine ⟨iff_of_false (by simp) without, ?_⟩
        intro read same
        cases same

theorem init_wellFormed : init.WellFormed where
  defined := by
    intro table address
    cases table with
    | input =>
        exact Iff.trans (updated_table (by decide) address).1
          (and_congr_right fun _ => Nat.lt_succ_iff)
    | holding =>
        exact Iff.trans (updated_table (by decide) address).1
          (and_congr_right fun _ => Nat.lt_succ_iff)
  fits := by
    intro table address
    cases table with
    | input => exact (updated_table (by decide) address).2
    | holding => exact (updated_table (by decide) address).2

/-- A write to an address that the store has. -/
theorem WellFormed.write (wellFormed : store.WellFormed) {address value : Nat}
    (present : (store.holdingRegisters address).isSome)
    (fits : value < 65536) : (store.write address value).WellFormed where
  defined := by
    intro table other
    cases table with
    | input => exact wellFormed.defined .input other
    | holding =>
        rw [← wellFormed.defined .holding other]
        by_cases same : other = address
        · rw [same]
          simp [RegisterStore.table, RegisterStore.write, present]
        · simp [RegisterStore.table, RegisterStore.write, same]
  fits := by
    intro table other found read
    cases table with
    | input => exact wellFormed.fits .input other found read
    | holding =>
        by_cases same : other = address
        · simp only [RegisterStore.table, RegisterStore.write,
            if_pos same] at read
          exact Option.some.inj read ▸ fits
        · simp only [RegisterStore.table, RegisterStore.write,
            if_neg same] at read
          exact wellFormed.fits .holding other found read

theorem device_write (address value : Nat) :
    (store.write address value).device =
      store.device.write address value := by
  simp only [device, RegisterStore.write, Device.write]
  congr 1
  funext other
  split <;> rfl

end RegisterStore

/-! ## Reads -/

/-- The store has every register of the batch, and the batch is not too
long. -/
def RegisterStore.Serves (store : RegisterStore) (table : RegisterTable)
    (address count : Nat) : Prop :=
  count ≤ maxRegistersPerRead ∧
    ∀ offset, offset < count → (store.table table (address + offset)).isSome

theorem mapM_eq_some {α β : Type} {read : α → Option β} {values : α → β}
    {keys : List α} (present : ∀ key ∈ keys, read key = some (values key)) :
    keys.mapM read = some (keys.map values) := by
  induction keys with
  | nil => rfl
  | cons key rest ih =>
      have later := ih fun other member =>
        present other (List.mem_cons_of_mem key member)
      rw [List.mapM_cons, present key List.mem_cons_self, later]
      rfl

theorem mapM_eq_none {α β : Type} {read : α → Option β} {keys : List α}
    {key : α} (member : key ∈ keys) (missing : read key = none) :
    keys.mapM read = none := by
  induction keys with
  | nil => cases member
  | cons first rest ih =>
      rw [List.mapM_cons]
      rcases List.mem_cons.mp member with rfl | later
      · rw [missing]
        rfl
      · rw [ih later]
        cases read first <;> rfl

section Read

variable {store : RegisterStore} {table : RegisterTable}
  {address count : Nat}

theorem readValues_of_serves (serves : store.Serves table address count) :
    readValues (store.table table) address count =
      some (store.device.registers table address count) := by
  have present : ∀ offset ∈ List.range count,
      store.table table (address + offset) =
        some (store.device.table table (address + offset)) := by
    intro offset member
    exact RegisterStore.table_eq_some
      (serves.2 offset (List.mem_range.mp member))
  rw [readValues, mapM_eq_some present, Device.registers,
    List.range'_eq_map_range, List.map_map]
  rfl

theorem readValues_of_not_serves
    (refused : ¬ store.Serves table address count)
    (few : count ≤ maxRegistersPerRead) :
    readValues (store.table table) address count = none := by
  have missing : ∃ offset, offset < count ∧
      store.table table (address + offset) = none := by
    by_contra all
    apply refused
    refine ⟨few, ?_⟩
    intro offset inside
    apply Option.isSome_iff_ne_none.mpr
    intro absent
    exact all ⟨offset, inside, absent⟩
  obtain ⟨offset, inside, absent⟩ := missing
  exact mapM_eq_none (List.mem_range.mpr inside) absent

theorem readTable_eq :
    (if table.readFunction = readHoldingFunction then store.holdingRegisters
      else store.inputRegisters) = store.table table := by
  cases table <;> rfl

variable {transaction unit : Nat}

theorem readFunction_lt : table.readFunction < 256 := by
  cases table with
  | input => exact (by decide : readInputFunction < 256)
  | holding => exact (by decide : readHoldingFunction < 256)

theorem readResponse_of_serves (wellFormed : store.WellFormed)
    (serves : store.Serves table address count)
    (transactionFits : transaction < 65536) (unitFits : unit < 256) :
    ∃ response body,
      readResponse store transaction unit table.readFunction address count =
          .ok response ∧
        IsFrame transaction unit table.readFunction body response ∧
        IsReadBody (store.device.registers table address count) body := by
  have size : (store.device.registers table address count).length =
      count := by
    rw [Device.registers, List.length_map, List.length_range']
  have few : (store.device.registers table address count).length ≤
      maxRegistersPerRead := size.trans_le serves.1
  have fits : ∀ value ∈ store.device.registers table address count,
      value < 65536 := by
    intro value member
    rw [Device.registers] at member
    obtain ⟨read, inside, rfl⟩ := List.mem_map.mp member
    obtain ⟨low, high⟩ := List.mem_range'_1.mp inside
    have present := serves.2 (read - address) (by omega)
    rw [Nat.add_sub_cancel' low] at present
    exact wellFormed.fits table read _ (RegisterStore.table_eq_some present)
  obtain ⟨head, words, response, body, packedHead, packedWords, framed,
    isFrame, isRead⟩ := readFrame_isFrame transactionFits unitFits
      (@readFunction_lt table) few fits
  rw [size] at packedHead packedWords
  refine ⟨response, body, ?_, isFrame, isRead⟩
  rw [readResponse, if_neg (Nat.not_lt.mpr serves.1), readTable_eq]
  simp only [readValues_of_serves serves, packedHead, packedWords]
  exact framed

theorem readResponse_of_not_serves
    (refused : ¬ store.Serves table address count)
    (transactionFits : transaction < 65536) (unitFits : unit < 256) :
    ∃ response,
      readResponse store transaction unit table.readFunction address count =
          .ok response ∧
        IsFrame transaction unit (table.readFunction ||| 0x80)
          [UInt8.ofNat illegalDataAddress] response := by
  obtain ⟨response, framed, isFrame⟩ := exceptionFrame_isFrame
    transactionFits unitFits (@readFunction_lt table)
    (by decide : illegalDataAddress < 256)
  refine ⟨response, ?_, isFrame⟩
  by_cases many : count > maxRegistersPerRead
  · rw [readResponse, if_pos many]
    exact framed
  · rw [readResponse, if_neg many, readTable_eq]
    simp only [readValues_of_not_serves refused (Nat.not_lt.mp many)]
    exact framed

end Read

/-! ## Writes -/

section Write

variable {store : RegisterStore} {address value transaction unit : Nat}

theorem writeResponse_of_present
    (present : (store.holdingRegisters address).isSome)
    (transactionFits : transaction < 65536) (unitFits : unit < 256)
    (addressFits : address < 65536) (valueFits : value < 65536) :
    ∃ response body,
      writeResponse store transaction unit writeSingleFunction address
          value = .ok (response, store.write address value) ∧
        IsFrame transaction unit writeSingleFunction body response ∧
        IsEcho address value body := by
  obtain ⟨pdu, response, body, packed, framed, isFrame, isEcho⟩ :=
    echoFrame_isFrame transactionFits unitFits
      (by decide : writeSingleFunction < 256) addressFits valueFits
  obtain ⟨before, found⟩ := Option.isSome_iff_exists.mp present
  refine ⟨response, body, ?_, isFrame, isEcho⟩
  rw [writeResponse, found, if_neg (by simp)]
  simp only [packed, framed, bind, Except.bind]
  rfl

theorem writeResponse_of_absent
    (absent : store.holdingRegisters address = none)
    (transactionFits : transaction < 65536) (unitFits : unit < 256) :
    ∃ response,
      writeResponse store transaction unit writeSingleFunction address
          value = .ok (response, store) ∧
        IsFrame transaction unit (writeSingleFunction ||| 0x80)
          [UInt8.ofNat illegalDataAddress] response := by
  obtain ⟨response, framed, isFrame⟩ := exceptionFrame_isFrame
    transactionFits unitFits (by decide : writeSingleFunction < 256)
    (by decide : illegalDataAddress < 256)
  refine ⟨response, ?_, isFrame⟩
  rw [writeResponse, absent, if_pos Option.isNone_none, framed]
  rfl

end Write

/-! ## Any request -/

/-- What `build_response` can make of a request. -/
inductive Answered (store : RegisterStore) :
    Except StructError (List UInt8 × RegisterStore) → Prop where
  | malformed : Answered store (.error .unpacking)
  | kept {transaction unit function : Nat} {body response : List UInt8} :
      IsFrame transaction unit function body response →
      Answered store (.ok (response, store))
  | written {transaction unit address value : Nat}
      {body response : List UInt8} :
      IsFrame transaction unit writeSingleFunction body response →
      (store.holdingRegisters address).isSome →
      value < 65536 →
      Answered store (.ok (response, store.write address value))

theorem header_fields {bytes : List UInt8} {values : List Nat}
    (unpacked : unpack .bigEndian frameHeader bytes = some values) :
    ∃ transaction protocol length unit function,
      values = [transaction, protocol, length, unit, function] ∧
        transaction < 65536 ∧ unit < 256 ∧ function < 256 := by
  have fits := fits_of_unpack unpacked
  match values, fits with
  | [transaction, protocol, length, unit, function],
      .cons transactionFits (.cons _ (.cons _ (.cons unitFits
        (.cons functionFits .nil)))) =>
      exact ⟨transaction, protocol, length, unit, function, rfl,
        transactionFits, unitFits, functionFits⟩

theorem body_fields {bytes : List UInt8} {values : List Nat}
    (unpacked : unpack .bigEndian [unsignedShort, unsignedShort] bytes =
      some values) :
    ∃ first second, values = [first, second] ∧
      first < 65536 ∧ second < 65536 := by
  have fits := fits_of_unpack unpacked
  match values, fits with
  | [first, second], .cons firstFits (.cons secondFits .nil) =>
      exact ⟨first, second, rfl, firstFits, secondFits⟩

section AnyRequest

variable {store : RegisterStore}

theorem readResponse_answered (wellFormed : store.WellFormed)
    {table : RegisterTable} {transaction unit : Nat} (address count : Nat)
    (transactionFits : transaction < 65536) (unitFits : unit < 256) :
    Answered store ((readResponse store transaction unit table.readFunction
      address count).bind fun response => pure (response, store)) := by
  by_cases serves : store.Serves table address count
  · obtain ⟨response, body, built, isFrame, -⟩ := readResponse_of_serves
      wellFormed serves transactionFits unitFits
    rw [built]
    exact .kept isFrame
  · obtain ⟨response, built, isFrame⟩ := readResponse_of_not_serves
      serves transactionFits unitFits
    rw [built]
    exact .kept isFrame

theorem writeResponse_answered {address value transaction unit : Nat}
    (transactionFits : transaction < 65536) (unitFits : unit < 256)
    (addressFits : address < 65536) (valueFits : value < 65536) :
    Answered store (writeResponse store transaction unit writeSingleFunction
      address value) := by
  cases found : store.holdingRegisters address with
  | some before =>
      have present : (store.holdingRegisters address).isSome :=
        Option.isSome_of_eq_some found
      obtain ⟨response, body, built, isFrame, -⟩ := writeResponse_of_present
        present transactionFits unitFits addressFits valueFits
      rw [built]
      exact .written isFrame present valueFits
  | none =>
      obtain ⟨response, built, isFrame⟩ := @writeResponse_of_absent store
        address value _ _ found transactionFits unitFits
      rw [built]
      exact .kept isFrame

theorem buildResponse_of_header {request : List UInt8}
    {transaction protocol length unit function : Nat}
    (header : unpack .bigEndian frameHeader (request.take 8) =
      some [transaction, protocol, length, unit, function]) :
    buildResponse store request =
      respond store transaction unit function (request.drop 8) := by
  rw [buildResponse, header]

theorem respond_read {table : RegisterTable}
    {transaction unit address count : Nat} {body : List UInt8}
    (words : unpack .bigEndian [unsignedShort, unsignedShort]
      (body.take 4) = some [address, count]) :
    respond store transaction unit table.readFunction body =
      (readResponse store transaction unit table.readFunction address
        count).bind fun response => pure (response, store) := by
  have isRead : table.readFunction = readHoldingFunction ∨
      table.readFunction = readInputFunction := by
    cases table with
    | input => exact .inr rfl
    | holding => exact .inl rfl
  rw [respond, words]
  exact if_pos isRead

theorem respond_write {transaction unit address value : Nat}
    {body : List UInt8}
    (words : unpack .bigEndian [unsignedShort, unsignedShort]
      (body.take 4) = some [address, value]) :
    respond store transaction unit writeSingleFunction body =
      writeResponse store transaction unit writeSingleFunction address
        value := by
  rw [respond, words]
  rfl

theorem respond_answered (wellFormed : store.WellFormed)
    {transaction unit function : Nat} (body : List UInt8)
    (transactionFits : transaction < 65536) (unitFits : unit < 256)
    (functionFits : function < 256) :
    Answered store (respond store transaction unit function body) := by
  by_cases read : ∃ table : RegisterTable, function = table.readFunction
  · obtain ⟨table, rfl⟩ := read
    cases words : unpack .bigEndian [unsignedShort, unsignedShort]
        (body.take 4) with
    | none =>
        rw [respond, words]
        cases table <;> exact .malformed
    | some values =>
        obtain ⟨address, count, rfl, -, -⟩ := body_fields words
        rw [respond_read words]
        exact readResponse_answered wellFormed address count
          transactionFits unitFits
  · have unread : ¬ (function = readHoldingFunction ∨
        function = readInputFunction) := by
      rintro (holding | input)
      · exact read ⟨.holding, holding⟩
      · exact read ⟨.input, input⟩
    by_cases write : function = writeSingleFunction
    · subst write
      cases words : unpack .bigEndian [unsignedShort, unsignedShort]
          (body.take 4) with
      | none =>
          rw [respond, words]
          exact .malformed
      | some values =>
          obtain ⟨address, value, rfl, addressFits, valueFits⟩ :=
            body_fields words
          rw [respond_write words]
          exact writeResponse_answered transactionFits unitFits addressFits
            valueFits
    · obtain ⟨response, framed, isFrame⟩ := exceptionFrame_isFrame
        transactionFits unitFits functionFits
        (by decide : illegalFunction < 256)
      rw [respond]
      simp only [if_neg unread, if_neg write, framed]
      exact .kept isFrame

theorem buildResponse_answered (wellFormed : store.WellFormed)
    (request : List UInt8) :
    Answered store (buildResponse store request) := by
  cases unpacked : unpack .bigEndian frameHeader (request.take 8) with
  | none =>
      rw [buildResponse, unpacked]
      exact .malformed
  | some values =>
      obtain ⟨transaction, protocol, length, unit, function, rfl,
        transactionFits, unitFits, functionFits⟩ := header_fields unpacked
      rw [buildResponse_of_header unpacked]
      exact respond_answered wellFormed _ transactionFits unitFits
        functionFits

/-- The function code of the frame has the exception bit. -/
def IsException (frame : List UInt8) : Prop :=
  ∃ transaction protocol length unit function,
    unpack .bigEndian frameHeader (frame.take 8) =
        some [transaction, protocol, length, unit, function] ∧
      0x80 ≤ function

theorem buildResponse_exception (wellFormed : store.WellFormed)
    {request response : List UInt8} {after : RegisterStore}
    (built : buildResponse store request = .ok (response, after))
    (isException : IsException response) : after = store := by
  have answered := buildResponse_answered wellFormed request
  rw [built] at answered
  cases answered with
  | kept isFrame => rfl
  | written isFrame present fits =>
      obtain ⟨_, _, _, _, function, header, marked⟩ := isException
      rw [isFrame.unpack_take] at header
      cases header
      exact absurd marked (by decide)

theorem buildResponse_packs (wellFormed : store.WellFormed)
    (request : List UInt8) :
    buildResponse store request ≠ .error .packing := by
  intro failed
  have answered := buildResponse_answered wellFormed request
  rw [failed] at answered
  cases answered

theorem buildResponse_wellFormed (wellFormed : store.WellFormed)
    {request response : List UInt8} {after : RegisterStore}
    (built : buildResponse store request = .ok (response, after)) :
    after.WellFormed ∧ after.inputRegisters = store.inputRegisters := by
  have answered := buildResponse_answered wellFormed request
  rw [built] at answered
  cases answered with
  | kept isFrame => exact ⟨wellFormed, rfl⟩
  | written isFrame present fits => exact ⟨wellFormed.write present fits, rfl⟩

end AnyRequest

end Airfi
