import Airfi.Const

/-!
# Config entries and announcements

The entry store of the integration and `_async_handle_announcement`, which
moves the entry of an announced serial to its address or gives the serial to
the manual entry at that address.
-/

namespace Airfi

/-- `entry.data`. -/
structure EntryData where
  host : String
  port : Option Nat
  modbusId : Option Nat
  serial : Option Nat
  deviceType : Option Nat
  deriving DecidableEq

/-- `entry.options`. -/
structure EntryOptions where
  scanInterval : Option Nat
  modbusId : Option Nat
  deriving DecidableEq

structure ConfigEntry where
  entryId : EntryId
  title : String
  uniqueId : String
  data : EntryData
  options : EntryOptions
  deriving DecidableEq

/-- An announcement with the address that it came from. -/
structure DiscoveredDevice where
  ip : String
  udpPort : Nat
  serial : Nat
  protocolVersion : Nat
  deviceType : Nat
  deriving DecidableEq

/-- `str(device.serial)`. -/
def serialId (serial : Nat) : String :=
  Nat.repr serial

namespace ConfigEntry

/-- `entry.data.get(CONF_PORT, DEFAULT_PORT)`. -/
def port (entry : ConfigEntry) : Nat :=
  entry.data.port.getD defaultPort

/-- The entry at a new address. -/
def move (ip : String) (entry : ConfigEntry) : ConfigEntry :=
  { entry with data := { entry.data with host := ip } }

/-- A manual entry at the announced address and the default port. -/
def Upgradable (device : DiscoveredDevice) (entry : ConfigEntry) : Prop :=
  entry.data.host = device.ip ∧ entry.port = defaultPort ∧
    entry.data.serial = none

instance (device : DiscoveredDevice) :
    DecidablePred (Upgradable device) :=
  fun _ => inferInstanceAs (Decidable (_ ∧ _))

/-- The entry with the announced serial as its identity. -/
def upgrade (device : DiscoveredDevice) (entry : ConfigEntry) :
    ConfigEntry :=
  { entry with
    uniqueId := serialId device.serial
    data :=
      { entry.data with
        serial := some device.serial
        deviceType := some device.deviceType } }

/-- The entry with the data that an options flow saves. -/
def saveOptions (options : EntryOptions) (entry : ConfigEntry) :
    ConfigEntry :=
  { entry with options }

end ConfigEntry

/-- `hass.config_entries.async_update_entry`. -/
def updateEntry (entries : List ConfigEntry) (id : EntryId)
    (change : ConfigEntry → ConfigEntry) : List ConfigEntry :=
  entries.map fun entry => if entry.entryId = id then change entry else entry

/-- `_async_handle_announcement`: the entries after it, and the entry whose
reload it schedules. -/
def handleAnnouncement (entries : List ConfigEntry)
    (device : DiscoveredDevice) : List ConfigEntry × Option EntryId :=
  match entries.find? fun entry =>
      decide (entry.uniqueId = serialId device.serial) with
  | some entry =>
      if entry.data.host ≠ device.ip then
        (updateEntry entries entry.entryId (.move device.ip),
          some entry.entryId)
      else (entries, none)
  | none =>
      match entries.find? fun entry =>
          decide (entry.Upgradable device) with
      | some entry =>
          (updateEntry entries entry.entryId (.upgrade device),
            some entry.entryId)
      | none => (entries, none)

end Airfi
