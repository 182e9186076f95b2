import Airfi.Modbus.Client
import Airfi.Packing

/-!
# The simulated device

`build_response` of the simulator: one Modbus TCP request frame in, one
response frame out, over the two register tables of a `RegisterStore`.
-/

namespace Airfi

open Packing

def maxRegistersPerRead : Nat := 20

def readHoldingFunction : Nat := 3

def readInputFunction : Nat := 4

def writeSingleFunction : Nat := 6

def illegalFunction : Nat := 1

def illegalDataAddress : Nat := 2

/-- ">HHHBB": transaction, protocol, length, unit and function code. -/
def frameHeader : List Nat :=
  [unsignedShort, unsignedShort, unsignedShort, unsignedChar, unsignedChar]

/-- Register values, keyed by 1-based address. -/
structure RegisterStore where
  inputRegisters : RegisterMap
  holdingRegisters : RegisterMap

namespace RegisterStore

/-- `dict.fromkeys(range(start, stop), 0)`. -/
def fromKeys (start stop : Nat) : RegisterMap :=
  fun address => if start ≤ address ∧ address < stop then some 0 else none

/-- A dictionary display with these items. -/
def items (pairs : List (Nat × Nat)) : RegisterMap :=
  fun address => pairs.lookup address

/-- `RegisterStore()`. -/
def init : RegisterStore :=
  { inputRegisters := (fromKeys 1 53).update
      (items [(1, 100), (2, 214), (3, 360), (4, 52), (5, 215), (6, 221),
        (7, 68), (21, 1450), (22, 1390), (23, 45), (50, 650), (51, 120),
        (52, 115)])
    holdingRegisters := (fromKeys 1 69).update
      (items [(1, 3), (5, 215), (8, 3), (12, 0)]) }

def table (store : RegisterStore) : RegisterTable → RegisterMap
  | .input => store.inputRegisters
  | .holding => store.holdingRegisters

/-- `store.holding_registers[address] = value`. -/
def write (store : RegisterStore) (address value : Nat) : RegisterStore :=
  { store with
    holdingRegisters := fun other =>
      if other = address then some value else store.holdingRegisters other }

end RegisterStore

/-- The two ways in which `struct.error` can be raised. -/
inductive StructError where
  | packing
  | unpacking
  deriving DecidableEq

/-- `struct.pack(">…", *values)`. -/
def structPack (fields values : List Nat) : Except StructError (List UInt8) :=
  match pack .bigEndian fields values with
  | some bytes => .ok bytes
  | none => .error .packing

/-- The response with this body. -/
def responseFrame (transaction unit : Nat) (pdu : List UInt8) :
    Except StructError (List UInt8) := do
  let header ← structPack
    [unsignedShort, unsignedShort, unsignedShort, unsignedChar]
    [transaction, 0, pdu.length + 1, unit]
  pure (header ++ pdu)

/-- `_exception`. -/
def exceptionFrame (transaction unit function code : Nat) :
    Except StructError (List UInt8) := do
  let pdu ← structPack [unsignedChar, unsignedChar] [function ||| 0x80, code]
  responseFrame transaction unit pdu

/-- `[table[address + i] for i in range(count)]`, `none` for a `KeyError`. -/
def readValues (table : RegisterMap) (address count : Nat) :
    Option (List Nat) :=
  (List.range count).mapM fun i => table (address + i)

/-- The branch of `build_response` for both read functions. -/
def readResponse (store : RegisterStore)
    (transaction unit function address count : Nat) :
    Except StructError (List UInt8) :=
  if count > maxRegistersPerRead then
    exceptionFrame transaction unit function illegalDataAddress
  else
    let table :=
      if function = readHoldingFunction then store.holdingRegisters
      else store.inputRegisters
    match readValues table address count with
    | none => exceptionFrame transaction unit function illegalDataAddress
    | some values => do
        let head ← structPack [unsignedChar, unsignedChar]
          [function, count * 2]
        let words ← structPack (List.replicate count unsignedShort) values
        responseFrame transaction unit (head ++ words)

/-- The branch of `build_response` for a single write. -/
def writeResponse (store : RegisterStore)
    (transaction unit function address value : Nat) :
    Except StructError (List UInt8 × RegisterStore) :=
  if (store.holdingRegisters address).isNone then do
    let response ←
      exceptionFrame transaction unit function illegalDataAddress
    pure (response, store)
  else do
    let pdu ← structPack [unsignedChar, unsignedShort, unsignedShort]
      [function, address, value]
    let response ← responseFrame transaction unit pdu
    pure (response, store.write address value)

/-- `build_response` after the header. -/
def respond (store : RegisterStore) (transaction unit function : Nat)
    (body : List UInt8) : Except StructError (List UInt8 × RegisterStore) :=
  let words := unpack .bigEndian [unsignedShort, unsignedShort] (body.take 4)
  if function = readHoldingFunction ∨ function = readInputFunction then
    match words with
    | some [address, count] => do
        let response ←
          readResponse store transaction unit function address count
        pure (response, store)
    | _ => .error .unpacking
  else if function = writeSingleFunction then
    match words with
    | some [address, value] =>
        writeResponse store transaction unit function address value
    | _ => .error .unpacking
  else do
    let response ← exceptionFrame transaction unit function illegalFunction
    pure (response, store)

/-- `build_response`: the response frame and the store after it. -/
def buildResponse (store : RegisterStore) (request : List UInt8) :
    Except StructError (List UInt8 × RegisterStore) :=
  match unpack .bigEndian frameHeader (request.take 8) with
  | some [transaction, _, _, unit, function] =>
      respond store transaction unit function (request.drop 8)
  | _ => .error .unpacking

end Airfi
