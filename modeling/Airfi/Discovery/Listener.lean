import Airfi.Machine
import Mathlib.Data.Finset.Basic

/-!
# The shared discovery listener

`_async_ensure_discovery_listener`, `_async_stop_discovery` and
`_async_schedule_discovery_retry` share two keys of `hass.data[DOMAIN]`.
Each definition below is the code between two awaits: a start is split at
its `await listener.async_start()` into the part that reserves the slot and
the parts that run when the start has succeeded or raised `OSError`.
-/

namespace Airfi

abbrev ListenerId := Nat

abbrev TimerId := Nat

/-- `hass.data[DOMAIN]` with the listener objects and the timers it refers
to.  All functions treat a missing `hass.data[DOMAIN]` as an empty one. -/
structure DiscoveryState where
  /-- `data["discovery_listener"]`: absent, reserved (`None`) or a listener. -/
  discoveryListener : Option (Option ListenerId)
  /-- `data["discovery_retry"]`: the cancel handle of a timer. -/
  discoveryRetry : Option TimerId
  /-- Listeners whose `async_start` is in flight. -/
  starting : Finset ListenerId
  /-- Listeners whose `async_start` completed and that were not stopped. -/
  running : Finset ListenerId
  /-- Timers neither cancelled nor fired. -/
  timers : Finset TimerId
  nextListener : ListenerId
  nextTimer : TimerId
  deriving DecidableEq

namespace DiscoveryState

/-- Before the integration touched `hass.data`. -/
def initial : DiscoveryState :=
  { discoveryListener := none
    discoveryRetry := none
    starting := ∅
    running := ∅
    timers := ∅
    nextListener := 0
    nextTimer := 0 }

/-- `AirfiDiscoveryListener.stop`; without a transport it does nothing. -/
def listenerStop (listener : ListenerId) (state : DiscoveryState) :
    DiscoveryState :=
  { state with running := state.running.erase listener }

/-- Pop `discovery_retry` and call the handle when there was one. -/
def cancelRetry (state : DiscoveryState) : DiscoveryState :=
  match state.discoveryRetry with
  | none => state
  | some timer =>
      { state with
        discoveryRetry := none
        timers := state.timers.erase timer }

def asyncStopDiscovery (state : DiscoveryState) : DiscoveryState :=
  let popped := { state with discoveryListener := none }
  match state.discoveryListener with
  | some (some listener) => (popped.listenerStop listener).cancelRetry
  -- a reserved slot is only popped: its starter checks the slot again
  | some none => popped.cancelRetry
  | none => popped.cancelRetry

/-- `_async_ensure_discovery_listener` up to its await, with the listener
whose start the call then awaits. -/
def asyncEnsureDiscoveryListener (state : DiscoveryState) :
    DiscoveryState × Option ListenerId :=
  if state.discoveryListener.isSome then (state, none)
  else
    ({ state with
        discoveryListener := some none
        starting := insert state.nextListener state.starting
        nextListener := state.nextListener + 1 },
      some state.nextListener)

def asyncScheduleDiscoveryRetry (state : DiscoveryState) : DiscoveryState :=
  let cancelled := state.cancelRetry
  { cancelled with
    discoveryRetry := some cancelled.nextTimer
    timers := insert cancelled.nextTimer cancelled.timers
    nextTimer := cancelled.nextTimer + 1 }

/-- The rest of `_async_ensure_discovery_listener` after a successful start. -/
def listenerStarted (listener : ListenerId) (state : DiscoveryState) :
    DiscoveryState :=
  let started :=
    { state with
      starting := state.starting.erase listener
      running := insert listener state.running }
  if state.discoveryListener.isNone then started.listenerStop listener
  else
    { started with discoveryListener := some (some listener) }.cancelRetry

/-- The rest of `_async_ensure_discovery_listener` after an `OSError`. -/
def listenerFailed (listener : ListenerId) (state : DiscoveryState) :
    DiscoveryState :=
  asyncScheduleDiscoveryRetry
    { state with
      starting := state.starting.erase listener
      discoveryListener := none }

/-- `_retry`, run when a timer fires, up to the await of the start it may
begin.  `anyLoaded` is the truth of `async_loaded_entries(DOMAIN)`. -/
def retry (timer : TimerId) (anyLoaded : Bool) (state : DiscoveryState) :
    DiscoveryState × Option ListenerId :=
  let fired :=
    { state with
      timers := state.timers.erase timer
      discoveryRetry := none }
  if anyLoaded then fired.asyncEnsureDiscoveryListener else (fired, none)

end DiscoveryState

/-- What can happen next to the shared listener, in any order. -/
inductive ListenerAction where
  | ensure
  | started (listener : ListenerId)
  | failed (listener : ListenerId)
  | stop
  | fire (timer : TimerId) (anyLoaded : Bool)
  deriving DecidableEq

open DiscoveryState in
def listenerStep (state : DiscoveryState) :
    ListenerAction → Option DiscoveryState
  | .ensure => some state.asyncEnsureDiscoveryListener.1
  | .started listener =>
      if listener ∈ state.starting then some (state.listenerStarted listener)
      else none
  | .failed listener =>
      if listener ∈ state.starting then some (state.listenerFailed listener)
      else none
  | .stop => some state.asyncStopDiscovery
  | .fire timer anyLoaded =>
      if timer ∈ state.timers then some (state.retry timer anyLoaded).1
      else none

/-- All interleavings of ensure calls, start completions, stops and timers. -/
def listenerMachine : Machine DiscoveryState ListenerAction :=
  { init := .initial
    step := listenerStep }

end Airfi
