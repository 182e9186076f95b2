import Airfi.Entries.Store

/-!
# Announcement packets

`parse_announcement` and the packet of the simulator's `announce_loop`.  The
parser drops the first field, so two packets are told apart by the eleven
bytes after it.
-/

namespace Airfi

open Packing

/-- `parse_announcement`; the embedded address is ignored. -/
def parseAnnouncement (data : List UInt8) (sourceIp : String) :
    Option DiscoveredDevice :=
  if data.length ≠ announcementSize then none
  else
    match unpack .littleEndian announcementFormat data with
    | some [_, udpPort, serial, protocolVersion, deviceType] =>
        some
          { ip := sourceIp
            udpPort
            serial
            protocolVersion
            deviceType }
    | _ => none

/-- `struct.pack("<IHIBI", …)` of the simulator. -/
def packAnnouncement (ip udpPort serial protocolVersion deviceType : Nat) :
    Option (List UInt8) :=
  pack .littleEndian
    [unsignedInt, unsignedShort, unsignedInt, unsignedChar, unsignedInt]
    [ip, udpPort, serial, protocolVersion, deviceType]

/-- The packet that `announce_loop` sends. -/
def announceLoopPacket (serial deviceType : Nat) : Option (List UInt8) :=
  packAnnouncement 0 4000 serial 1 deviceType

/-! ## Fields -/

/-- The fields after the embedded address. -/
def identityFormat : List Nat :=
  [unsignedShort, unsignedInt, unsignedChar, unsignedInt]

/-- The device of a packet from the fields after the embedded address. -/
def deviceOf (sourceIp : String) : List Nat → Option DiscoveredDevice
  | [udpPort, serial, protocolVersion, deviceType] =>
      some
        { ip := sourceIp
          udpPort
          serial
          protocolVersion
          deviceType }
  | _ => none

theorem four_fields {values : List Nat} (fits : Fits identityFormat values) :
    ∃ udpPort serial protocolVersion deviceType,
      values = [udpPort, serial, protocolVersion, deviceType] := by
  have size := fits.length_eq
  match values, size with
  | [udpPort, serial, protocolVersion, deviceType], _ =>
      exact ⟨udpPort, serial, protocolVersion, deviceType, rfl⟩

theorem parseAnnouncement_eq {data : List UInt8}
    (size : data.length = announcementSize) (sourceIp : String) :
    parseAnnouncement data sourceIp =
      (unpack .littleEndian identityFormat (data.drop unsignedInt)).bind
        (deviceOf sourceIp) := by
  have long : unsignedInt ≤ data.length := by
    rw [size]
    decide
  have skipped : unpack .littleEndian announcementFormat data =
      (unpack .littleEndian identityFormat (data.drop unsignedInt)).map
        (valueOf (data.take unsignedInt) :: ·) :=
    unpack_cons long
  rw [parseAnnouncement, if_neg (not_not.mpr size), skipped]
  cases unpacked : unpack .littleEndian identityFormat
      (data.drop unsignedInt) with
  | none => rfl
  | some values =>
      obtain ⟨udpPort, serial, protocolVersion, deviceType, rfl⟩ :=
        four_fields (fits_of_unpack unpacked)
      rfl

/-- An accepted packet has the four fields after the embedded address. -/
theorem exists_device {data : List UInt8}
    (size : data.length = announcementSize) :
    ∃ udpPort serial protocolVersion deviceType,
      unpack .littleEndian identityFormat (data.drop unsignedInt) =
        some [udpPort, serial, protocolVersion, deviceType] := by
  have rest : (data.drop unsignedInt).length = identityFormat.sum := by
    rw [List.length_drop, size]
    rfl
  obtain ⟨values, unpacked⟩ :=
    Option.isSome_iff_exists.mp (unpack_isSome_iff.mpr rest)
  obtain ⟨udpPort, serial, protocolVersion, deviceType, rfl⟩ :=
    four_fields (fits_of_unpack unpacked)
  exact ⟨udpPort, serial, protocolVersion, deviceType, unpacked⟩

theorem parseAnnouncement_isSome_iff {data : List UInt8}
    {sourceIp : String} :
    (parseAnnouncement data sourceIp).isSome ↔
      data.length = announcementSize := by
  constructor
  · intro accepted
    by_contra other
    rw [parseAnnouncement, if_pos other] at accepted
    cases accepted
  · intro size
    obtain ⟨udpPort, serial, protocolVersion, deviceType, unpacked⟩ :=
      exists_device size
    rw [parseAnnouncement_eq size, unpacked]
    rfl

/-! ## Packing and parsing -/

theorem parseAnnouncement_of_pack
    {ip udpPort serial protocolVersion deviceType : Nat}
    {packet : List UInt8} (sourceIp : String)
    (packed : packAnnouncement ip udpPort serial protocolVersion deviceType =
      some packet) :
    parseAnnouncement packet sourceIp =
      some
        { ip := sourceIp
          udpPort
          serial
          protocolVersion
          deviceType } := by
  have size : packet.length = announcementSize := length_of_pack packed
  have unpacked : unpack .littleEndian announcementFormat packet =
      some [ip, udpPort, serial, protocolVersion, deviceType] :=
    unpack_of_pack packed
  rw [parseAnnouncement, if_neg (not_not.mpr size), unpacked]

theorem exists_packAnnouncement
    {ip udpPort serial protocolVersion deviceType : Nat}
    (ipFits : ip < 2 ^ 32) (portFits : udpPort < 2 ^ 16)
    (serialFits : serial < 2 ^ 32) (versionFits : protocolVersion < 2 ^ 8)
    (typeFits : deviceType < 2 ^ 32) :
    ∃ packet,
      packAnnouncement ip udpPort serial protocolVersion deviceType =
        some packet := by
  refine Option.isSome_iff_exists.mp (pack_isSome_iff.mpr ?_)
  exact .cons ipFits (.cons portFits (.cons serialFits
    (.cons versionFits (.cons typeFits .nil))))

theorem deviceOf_injective {sourceIp : String} {first second : List Nat}
    (fitsFirst : Fits identityFormat first)
    (fitsSecond : Fits identityFormat second)
    (same : deviceOf sourceIp first = deviceOf sourceIp second) :
    first = second := by
  obtain ⟨udpPort, serial, protocolVersion, deviceType, rfl⟩ :=
    four_fields fitsFirst
  obtain ⟨udpPort', serial', protocolVersion', deviceType', rfl⟩ :=
    four_fields fitsSecond
  cases same
  rfl

/-- Packets of the right size name the same device exactly when they agree
after the embedded address. -/
theorem parseAnnouncement_eq_iff {first second : List UInt8}
    (sizeFirst : first.length = announcementSize)
    (sizeSecond : second.length = announcementSize) (sourceIp : String) :
    parseAnnouncement first sourceIp = parseAnnouncement second sourceIp ↔
      first.drop unsignedInt = second.drop unsignedInt := by
  rw [parseAnnouncement_eq sizeFirst, parseAnnouncement_eq sizeSecond]
  constructor
  · obtain ⟨_, _, _, _, unpackedFirst⟩ := exists_device sizeFirst
    obtain ⟨_, _, _, _, unpackedSecond⟩ := exists_device sizeSecond
    intro same
    rw [unpackedFirst, unpackedSecond] at same
    have values := deviceOf_injective (fits_of_unpack unpackedFirst)
      (fits_of_unpack unpackedSecond) same
    rw [values] at unpackedFirst
    exact unpack_injective unpackedFirst unpackedSecond
  · intro same
    rw [same]

/-- A packet is accepted exactly when it has 15 bytes, parsing undoes the
simulator's packing up to the embedded address, and accepted packets name the
same device exactly when they agree on bytes 4 to 14. -/
theorem announcement_codec_exact :
    (∀ data sourceIp, (parseAnnouncement data sourceIp).isSome ↔
      data.length = 15) ∧
    (∀ ip udpPort serial protocolVersion deviceType sourceIp,
      ip < 2 ^ 32 → udpPort < 2 ^ 16 → serial < 2 ^ 32 →
        protocolVersion < 2 ^ 8 → deviceType < 2 ^ 32 →
          ∃ packet,
            packAnnouncement ip udpPort serial protocolVersion deviceType =
                some packet ∧
              parseAnnouncement packet sourceIp =
                some
                  { ip := sourceIp
                    udpPort
                    serial
                    protocolVersion
                    deviceType }) ∧
    (∀ serial deviceType sourceIp, serial < 2 ^ 32 → deviceType < 2 ^ 32 →
      ∃ packet, announceLoopPacket serial deviceType = some packet ∧
        parseAnnouncement packet sourceIp =
          some
            { ip := sourceIp
              udpPort := 4000
              serial
              protocolVersion := 1
              deviceType }) ∧
    ∀ first second sourceIp,
      (parseAnnouncement first sourceIp).isSome →
        (parseAnnouncement second sourceIp).isSome →
          (parseAnnouncement first sourceIp =
              parseAnnouncement second sourceIp ↔
            first.drop 4 = second.drop 4) := by
  refine ⟨?accepts, ?parses, ?announces, ?determines⟩
  case accepts => exact fun _ _ => parseAnnouncement_isSome_iff
  case parses =>
    intro ip udpPort serial protocolVersion deviceType sourceIp ipFits
      portFits serialFits versionFits typeFits
    obtain ⟨packet, packed⟩ := exists_packAnnouncement ipFits portFits
      serialFits versionFits typeFits
    exact ⟨packet, packed, parseAnnouncement_of_pack sourceIp packed⟩
  case announces =>
    intro serial deviceType sourceIp serialFits typeFits
    obtain ⟨packet, packed⟩ :=
      @exists_packAnnouncement 0 4000 serial 1 deviceType (by decide)
        (by decide) serialFits (by decide) typeFits
    exact ⟨packet, packed, parseAnnouncement_of_pack sourceIp packed⟩
  case determines =>
    intro first second sourceIp acceptedFirst acceptedSecond
    exact parseAnnouncement_eq_iff
      (parseAnnouncement_isSome_iff.mp acceptedFirst)
      (parseAnnouncement_isSome_iff.mp acceptedSecond) sourceIp

end Airfi
