import Airfi.Packing

/-!
# Constants of the integration

The constants of `const.py` that the modelled functions use, and the ids that
name config entries everywhere.
-/

namespace Airfi

/-- The `entry_id` of a config entry. -/
abbrev EntryId := Nat

def defaultPort : Nat := 502

def defaultModbusId : Nat := 1

def defaultScanInterval : Nat := 30

/-- The fields of `ANNOUNCEMENT_FORMAT`, "<IHIBI". -/
def announcementFormat : List Nat :=
  [Packing.unsignedInt, Packing.unsignedShort, Packing.unsignedInt,
    Packing.unsignedChar, Packing.unsignedInt]

def announcementSize : Nat := 15

/-- `(start, count)` batches, 1-based. -/
abbrev Batch := Nat × Nat

def inputRegisterBatches : List Batch :=
  [(1, 20), (21, 20), (41, 9)]

/-- `(minimum register version, extension batch)`, newest first. -/
def inputExtensionBatches : List (Nat × Batch) :=
  [(350, (50, 3)), (340, (50, 1))]

def holdingRegisterBatches : List Batch :=
  [(1, 20), (21, 20), (41, 20), (61, 8)]

end Airfi
