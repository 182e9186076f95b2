import Airfi.Const
import Airfi.Discovery.Listener

/-!
# Config entries and the shared listener

`async_setup_entry`, `async_unload_entry` and `async_remove_entry` for any
number of entries over one `DiscoveryState`.  Home Assistant serialises the
three per entry, so each entry carries the point its own task has reached;
steps of different entries, start completions and timers interleave freely.
-/

namespace Airfi

/-- The state of a config entry, split at the awaits of the task that is
setting it up or unloading it. -/
inductive EntryPhase where
  | notLoaded
  /-- Setting up, at the await of this listener's start. -/
  | ensuring (listener : ListenerId)
  /-- Setting up, at the first refresh or the platform setups. -/
  | refreshing
  | setupRetry
  | loaded
  /-- Unloading, at `async_unload_platforms`. -/
  | unloading
  /-- `async_unload_entry` has returned, the entry is not yet marked. -/
  | leaving (unloaded : Bool)
  | failedUnload
  deriving DecidableEq

/-- `async_setup_entry` has taken its listener step and has not ended. -/
def EntryPhase.InSetup : EntryPhase → Prop
  | .ensuring _ | .refreshing => True
  | _ => False

instance : DecidablePred EntryPhase.InSetup
  | .ensuring _ | .refreshing => isTrue trivial
  | .notLoaded | .setupRetry | .loaded | .unloading | .leaving _
  | .failedUnload => isFalse id

structure EntryStatus where
  entryId : EntryId
  phase : EntryPhase
  deriving DecidableEq

/-- All config entries of the domain and the discovery data they share. -/
structure Integration where
  discovery : DiscoveryState
  /-- `async_entries(DOMAIN)`. -/
  entries : List EntryStatus
  /-- Deleted entries whose `async_remove_entry` has not run yet. -/
  removing : List EntryId
  deriving DecidableEq

namespace Integration

def initial : Integration :=
  { discovery := .initial
    entries := []
    removing := [] }

def setPhase (entryId : EntryId) (phase : EntryPhase)
    (integration : Integration) : Integration :=
  { integration with
    entries := integration.entries.map fun entry =>
      if entry.entryId = entryId then { entry with phase := phase }
      else entry }

/-- The entry exists and its task is at this point. -/
def At (integration : Integration) (entryId : EntryId) (phase : EntryPhase) :
    Prop :=
  ⟨entryId, phase⟩ ∈ integration.entries

instance (integration : Integration) (entryId : EntryId)
    (phase : EntryPhase) : Decidable (integration.At entryId phase) :=
  inferInstanceAs (Decidable (_ ∈ integration.entries))

/-- `async_loaded_entries(DOMAIN)`.  Releases differ on whether an entry that
is being unloaded is still listed, so that is a parameter. -/
def asyncLoadedEntries (listsUnloading : Bool) (integration : Integration) :
    List EntryStatus :=
  integration.entries.filter fun entry =>
    match entry.phase with
    | .loaded => true
    | .unloading | .leaving _ => listsUnloading
    | _ => false

/-- `async_setup_entry` up to its first await that suspends. -/
def asyncSetupEntry (entryId : EntryId) (integration : Integration) :
    Integration :=
  let ensured := integration.discovery.asyncEnsureDiscoveryListener
  let phase :=
    match ensured.2 with
    | some listener => EntryPhase.ensuring listener
    | none => .refreshing
  { integration with discovery := ensured.1 }.setPhase entryId phase

/-- The setups that waited for this start go on to their first refresh. -/
def resumeSetups (listener : ListenerId) (integration : Integration) :
    Integration :=
  { integration with
    entries := integration.entries.map fun entry =>
      if entry.phase = .ensuring listener then
        { entry with phase := .refreshing }
      else entry }

/-- `async_unload_entry` after `async_unload_platforms`. -/
def asyncUnloadEntry (listsUnloading : Bool) (entryId : EntryId)
    (unloaded : Bool) (integration : Integration) : Integration :=
  let remaining :=
    (integration.asyncLoadedEntries listsUnloading).filter fun other =>
      other.entryId ≠ entryId
  let stopped :=
    if remaining = [] then
      { integration with
        discovery := integration.discovery.asyncStopDiscovery }
    else integration
  stopped.setPhase entryId (.leaving unloaded)

def asyncRemoveEntry (integration : Integration) : Integration :=
  if integration.entries = [] then
    { integration with
      discovery := integration.discovery.asyncStopDiscovery }
  else integration

end Integration

inductive LifecycleAction where
  | add (entryId : EntryId)
  | setup (entryId : EntryId)
  | started (listener : ListenerId)
  | failed (listener : ListenerId)
  | refreshed (entryId : EntryId) (succeeded : Bool)
  | unload (entryId : EntryId)
  | platformsUnloaded (entryId : EntryId) (unloaded : Bool)
  | left (entryId : EntryId) (unloaded : Bool)
  /-- Home Assistant unloads an entry that waits for its next setup attempt
  without calling the integration. -/
  | cancelSetupRetry (entryId : EntryId)
  | delete (entryId : EntryId)
  | removed (entryId : EntryId)
  | fire (timer : TimerId)
  deriving DecidableEq

open Integration in
def lifecycleStep (listsUnloading : Bool) (integration : Integration) :
    LifecycleAction → Option Integration
  | .add entryId =>
      if ∃ entry ∈ integration.entries, entry.entryId = entryId then none
      else
        some { integration with
          entries := integration.entries ++ [⟨entryId, .notLoaded⟩] }
  | .setup entryId =>
      if integration.At entryId .notLoaded ∨
          integration.At entryId .setupRetry then
        some (integration.asyncSetupEntry entryId)
      else none
  | .started listener =>
      if listener ∈ integration.discovery.starting then
        some (resumeSetups listener
          { integration with
            discovery := integration.discovery.listenerStarted listener })
      else none
  | .failed listener =>
      if listener ∈ integration.discovery.starting then
        some (resumeSetups listener
          { integration with
            discovery := integration.discovery.listenerFailed listener })
      else none
  | .refreshed entryId succeeded =>
      if integration.At entryId .refreshing then
        some (integration.setPhase entryId
          (if succeeded then .loaded else .setupRetry))
      else none
  | .unload entryId =>
      if integration.At entryId .loaded then
        some (integration.setPhase entryId .unloading)
      else none
  | .platformsUnloaded entryId unloaded =>
      if integration.At entryId .unloading then
        some (integration.asyncUnloadEntry listsUnloading entryId unloaded)
      else none
  | .left entryId unloaded =>
      if integration.At entryId (.leaving unloaded) then
        some (integration.setPhase entryId
          (if unloaded then .notLoaded else .failedUnload))
      else none
  | .cancelSetupRetry entryId =>
      if integration.At entryId .setupRetry then
        some (integration.setPhase entryId .notLoaded)
      else none
  | .delete entryId =>
      if integration.At entryId .notLoaded ∨
          integration.At entryId .setupRetry ∨
          integration.At entryId .failedUnload then
        some { integration with
          entries := integration.entries.filter fun entry =>
            entry.entryId ≠ entryId
          removing := entryId :: integration.removing }
      else none
  | .removed entryId =>
      if entryId ∈ integration.removing then
        some { integration with
          removing := integration.removing.erase entryId }.asyncRemoveEntry
      else none
  | .fire timer =>
      if timer ∈ integration.discovery.timers then
        some { integration with
          discovery :=
            (integration.discovery.retry timer
              (integration.asyncLoadedEntries listsUnloading ≠ [])).1 }
      else none

/-- Every interleaving of the entries' tasks, the starts and the timers. -/
def lifecycleMachine (listsUnloading : Bool) :
    Machine Integration LifecycleAction :=
  { init := .initial
    step := lifecycleStep listsUnloading }

end Airfi
