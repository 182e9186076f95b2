import Mathlib.Tactic

/-!
# Packed structures

Packed binary structures of unsigned integers: a byte order and the widths of
the fields, without padding.  Packing fails on a value that does not fit its
field, unpacking on a byte string of another length, and each undoes the
other.
-/

namespace Packing

/-- The `width` bytes of a number, the least significant first. -/
def bytesOf : Nat → Nat → List UInt8
  | 0, _ => []
  | width + 1, value => UInt8.ofNat value :: bytesOf width (value / 256)

/-- The number with these bytes, the least significant first. -/
def valueOf : List UInt8 → Nat
  | [] => 0
  | byte :: rest => byte.toNat + 256 * valueOf rest

@[simp] theorem length_bytesOf (width value : Nat) :
    (bytesOf width value).length = width := by
  induction width generalizing value with
  | zero => rfl
  | succ width ih => simp [bytesOf, ih]

theorem valueOf_bytesOf {width value : Nat} (fits : value < 256 ^ width) :
    valueOf (bytesOf width value) = value := by
  induction width generalizing value with
  | zero =>
      simp only [pow_zero, Nat.lt_one_iff] at fits
      rw [fits]
      rfl
  | succ width ih =>
      have rest : value / 256 < 256 ^ width := by
        apply Nat.div_lt_of_lt_mul
        rwa [pow_succ, Nat.mul_comm] at fits
      rw [bytesOf, valueOf, ih rest, UInt8.toNat_ofNat']
      exact Nat.mod_add_div value 256

theorem valueOf_lt (bytes : List UInt8) :
    valueOf bytes < 256 ^ bytes.length := by
  induction bytes with
  | nil => simp [valueOf]
  | cons byte rest ih =>
      have bound := byte.toNat_lt
      rw [valueOf, List.length_cons, pow_succ]
      omega

theorem bytesOf_valueOf (bytes : List UInt8) :
    bytesOf bytes.length (valueOf bytes) = bytes := by
  induction bytes with
  | nil => rfl
  | cons byte rest ih =>
      have bound := byte.toNat_lt
      have quotient :
          (byte.toNat + 256 * valueOf rest) / 256 = valueOf rest := by
        omega
      rw [List.length_cons, valueOf, bytesOf, quotient, ih]
      congr 1
      apply UInt8.toNat_inj.mp
      rw [UInt8.toNat_ofNat']
      omega

inductive ByteOrder where
  | littleEndian
  | bigEndian

/-- Between the bytes in this order and in little-endian order. -/
def ByteOrder.arrange : ByteOrder → List UInt8 → List UInt8
  | .littleEndian, bytes => bytes
  | .bigEndian, bytes => bytes.reverse

@[simp] theorem ByteOrder.arrange_arrange (order : ByteOrder)
    (bytes : List UInt8) : order.arrange (order.arrange bytes) = bytes := by
  cases order with
  | littleEndian => rfl
  | bigEndian => exact List.reverse_reverse bytes

@[simp] theorem ByteOrder.length_arrange (order : ByteOrder)
    (bytes : List UInt8) : (order.arrange bytes).length = bytes.length := by
  cases order with
  | littleEndian => rfl
  | bigEndian => exact List.length_reverse

/-- The widths of the format characters `B`, `H` and `I`. -/
def unsignedChar : Nat := 1

def unsignedShort : Nat := 2

def unsignedInt : Nat := 4

section Structures

variable {order : ByteOrder}

/-- `struct.pack`, `none` where a value does not fit or the counts differ. -/
def pack (order : ByteOrder) : List Nat → List Nat → Option (List UInt8)
  | [], [] => some []
  | width :: widths, value :: values =>
      if value < 256 ^ width then
        (pack order widths values).map fun rest =>
          order.arrange (bytesOf width value) ++ rest
      else none
  | _, _ => none

/-- `struct.unpack`, `none` where the length is another one. -/
def unpack (order : ByteOrder) : List Nat → List UInt8 → Option (List Nat)
  | [], [] => some []
  | [], _ :: _ => none
  | width :: widths, bytes =>
      if width ≤ bytes.length then
        (unpack order widths (bytes.drop width)).map fun rest =>
          valueOf (order.arrange (bytes.take width)) :: rest
      else none

theorem unpack_cons {width : Nat} {widths : List Nat} {bytes : List UInt8}
    (long : width ≤ bytes.length) :
    unpack order (width :: widths) bytes =
      (unpack order widths (bytes.drop width)).map
        (valueOf (order.arrange (bytes.take width)) :: ·) :=
  if_pos long

/-- Each value fits the field at its place. -/
def Fits : List Nat → List Nat → Prop :=
  List.Forall₂ fun width value => value < 256 ^ width

theorem pack_isSome_iff {widths values : List Nat} :
    (pack order widths values).isSome ↔ Fits widths values := by
  induction widths generalizing values with
  | nil =>
      cases values with
      | nil => simp [pack, Fits]
      | cons value values => simp [pack, Fits]
  | cons width widths ih =>
      cases values with
      | nil => simp [pack, Fits]
      | cons value values =>
          rw [Fits, List.forall₂_cons, pack]
          by_cases fits : value < 256 ^ width
          · rw [if_pos fits, Option.isSome_map, ih]
            exact (and_iff_right fits).symm
          · simp [fits]

theorem exists_pack {widths values : List Nat} (fits : Fits widths values) :
    ∃ bytes, pack order widths values = some bytes :=
  Option.isSome_iff_exists.mp (pack_isSome_iff.mpr fits)

theorem length_of_pack {widths values : List Nat} {bytes : List UInt8}
    (packed : pack order widths values = some bytes) :
    bytes.length = widths.sum := by
  induction widths generalizing values bytes with
  | nil =>
      cases values with
      | nil =>
          cases packed
          rfl
      | cons value values => cases packed
  | cons width widths ih =>
      cases values with
      | nil => cases packed
      | cons value values =>
          obtain ⟨-, packed⟩ := Option.ite_none_right_eq_some.mp packed
          obtain ⟨rest, packedRest, rfl⟩ := Option.map_eq_some_iff.mp packed
          simp [ih packedRest]

/-- Packing one structure after the other. -/
theorem pack_append {widths widths' values values' : List Nat}
    {first second : List UInt8}
    (packedFirst : pack order widths values = some first)
    (packedSecond : pack order widths' values' = some second) :
    pack order (widths ++ widths') (values ++ values') =
      some (first ++ second) := by
  induction widths generalizing values first with
  | nil =>
      cases values with
      | nil =>
          cases packedFirst
          exact packedSecond
      | cons value values => cases packedFirst
  | cons width widths ih =>
      cases values with
      | nil => cases packedFirst
      | cons value values =>
          obtain ⟨fits, packed⟩ := Option.ite_none_right_eq_some.mp packedFirst
          obtain ⟨rest, packedRest, rfl⟩ := Option.map_eq_some_iff.mp packed
          rw [List.cons_append, List.cons_append, pack, if_pos fits,
            ih packedRest, Option.map_some, List.append_assoc]

/-- The first fields of a structure are a structure. -/
theorem pack_take {widths values : List Nat} {bytes : List UInt8}
    (packed : pack order widths values = some bytes) (count : Nat) :
    pack order (widths.take count) (values.take count) =
      some (bytes.take (widths.take count).sum) := by
  induction count generalizing widths values bytes with
  | zero => simp [pack]
  | succ count ih =>
      cases widths with
      | nil =>
          cases values with
          | nil =>
              cases packed
              rfl
          | cons value values => cases packed
      | cons width widths =>
          cases values with
          | nil => cases packed
          | cons value values =>
              obtain ⟨fits, packed⟩ :=
                Option.ite_none_right_eq_some.mp packed
              obtain ⟨rest, packedRest, rfl⟩ :=
                Option.map_eq_some_iff.mp packed
              have size : (order.arrange (bytesOf width value)).length =
                  width := by simp
              have first : (order.arrange (bytesOf width value)).take
                  (width + (widths.take count).sum) =
                    order.arrange (bytesOf width value) :=
                List.take_of_length_le (size.trans_le (Nat.le_add_right _ _))
              rw [List.take_succ_cons, List.take_succ_cons, pack,
                if_pos fits, ih packedRest, List.sum_cons,
                Option.map_some, List.take_append, size, first,
                Nat.add_sub_cancel_left]

theorem unpack_of_pack {widths values : List Nat} {bytes : List UInt8}
    (packed : pack order widths values = some bytes) :
    unpack order widths bytes = some values := by
  induction widths generalizing values bytes with
  | nil =>
      cases values with
      | nil =>
          cases packed
          rfl
      | cons value values => cases packed
  | cons width widths ih =>
      cases values with
      | nil => cases packed
      | cons value values =>
          obtain ⟨fits, packed⟩ := Option.ite_none_right_eq_some.mp packed
          obtain ⟨rest, packedRest, rfl⟩ := Option.map_eq_some_iff.mp packed
          have size : (order.arrange (bytesOf width value)).length = width := by
            simp
          have first : (order.arrange (bytesOf width value) ++ rest).take
              width = order.arrange (bytesOf width value) :=
            List.take_left' size
          have later : (order.arrange (bytesOf width value) ++ rest).drop
              width = rest :=
            List.drop_left' size
          rw [unpack_cons (by simp), first, later, ih packedRest,
            ByteOrder.arrange_arrange, valueOf_bytesOf fits]
          rfl

theorem pack_of_unpack {widths values : List Nat} {bytes : List UInt8}
    (unpacked : unpack order widths bytes = some values) :
    pack order widths values = some bytes := by
  induction widths generalizing values bytes with
  | nil =>
      cases bytes with
      | nil =>
          cases unpacked
          rfl
      | cons byte bytes => cases unpacked
  | cons width widths ih =>
      rw [unpack] at unpacked
      obtain ⟨long, unpacked⟩ := Option.ite_none_right_eq_some.mp unpacked
      obtain ⟨rest, unpackedRest, rfl⟩ := Option.map_eq_some_iff.mp unpacked
      have size : (order.arrange (bytes.take width)).length = width := by
        simp [long]
      have fits : valueOf (order.arrange (bytes.take width)) <
          256 ^ width := by
        have bound := valueOf_lt (order.arrange (bytes.take width))
        rwa [size] at bound
      have written : bytesOf width
          (valueOf (order.arrange (bytes.take width))) =
            order.arrange (bytes.take width) := by
        have same := bytesOf_valueOf (order.arrange (bytes.take width))
        rwa [size] at same
      rw [pack, if_pos fits, ih unpackedRest, written,
        ByteOrder.arrange_arrange, Option.map_some,
        List.take_append_drop]

theorem unpack_isSome_iff {widths : List Nat} {bytes : List UInt8} :
    (unpack order widths bytes).isSome ↔ bytes.length = widths.sum := by
  constructor
  · intro accepted
    obtain ⟨values, unpacked⟩ := Option.isSome_iff_exists.mp accepted
    exact length_of_pack (pack_of_unpack unpacked)
  · intro size
    induction widths generalizing bytes with
    | nil =>
        rw [List.length_eq_zero_iff.mp size]
        rfl
    | cons width widths ih =>
        rw [List.sum_cons] at size
        have rest : (bytes.drop width).length = widths.sum := by
          rw [List.length_drop]
          omega
        rw [unpack_cons (by omega), Option.isSome_map]
        exact ih rest

theorem fits_of_unpack {widths values : List Nat} {bytes : List UInt8}
    (unpacked : unpack order widths bytes = some values) :
    Fits widths values :=
  pack_isSome_iff.mp (Option.isSome_iff_exists.mpr
    ⟨bytes, pack_of_unpack unpacked⟩)

/-- The bytes are determined by the values. -/
theorem unpack_injective {widths values : List Nat}
    {first second : List UInt8}
    (unpackedFirst : unpack order widths first = some values)
    (unpackedSecond : unpack order widths second = some values) :
    first = second :=
  Option.some.inj
    ((pack_of_unpack unpackedFirst).symm.trans (pack_of_unpack unpackedSecond))

end Structures

end Packing
