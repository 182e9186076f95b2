import Airfi.Machine
import Airfi.Timeline
import Airfi.Modbus.Operation

/-!
# The published registers of one coordinator

Polls and `async_write_value` calls after the first refresh.  A step is what
the code does between two awaits; the lock of the client lets one operation
at a time talk to the device.  The holding dictionaries live on a heap, since
a confirmation read updates the one it found published before its await, and
every register value is stamped with the device time at which it was current.
-/

namespace Airfi

/-- A register dictionary whose values are stamped. -/
abbrev StampedMap := Nat → Option (Stamped Nat)

namespace StampedMap

def empty : StampedMap := fun _ => none

/-- `self.update(other)`. -/
def update (self other : StampedMap) : StampedMap :=
  fun address => (other address).or (self address)

/-- `self[address] = value`. -/
def set (self : StampedMap) (address : Nat) (value : Stamped Nat) :
    StampedMap :=
  Function.update self address (some value)

/-- The registers of one batch, as the device answers them now. -/
def readBatch (device : Timeline Device) (table : RegisterTable)
    (batch : Batch) : StampedMap :=
  fun address =>
    if batch.Covers address then
      some (device.observe fun registers => registers.table table address)
    else none

end StampedMap

/-- What a poll has read so far. -/
structure PollData where
  input : StampedMap
  holding : StampedMap

namespace PollData

def empty : PollData :=
  { input := .empty
    holding := .empty }

/-- `data[table].update(batch)`. -/
def update (self : PollData) (batch : StampedMap) :
    RegisterTable → PollData
  | .input => { self with input := self.input.update batch }
  | .holding => { self with holding := self.holding.update batch }

end PollData

abbrev DictRef := Nat

/-- Where a task awaits: for the lock, or for the answer to a request. -/
inductive CacheTask where
  | pollWaits
  | pollReads (remaining : List (RegisterTable × Batch)) (data : PollData)
  | writeWaits (address value : Nat)
  | writes (address value : Nat)
  | confirmWaits (batch : Batch) (captured : DictRef)
  | confirms (batch : Batch) (captured : DictRef)

/-- The task has the lock. -/
def CacheTask.Holds : CacheTask → Prop
  | .pollReads _ _ | .writes _ _ | .confirms _ _ => True
  | _ => False

structure CacheState where
  device : Timeline Device
  lockedBy : Option TaskId
  tasks : TaskId → Option CacheTask
  nextTask : TaskId
  heap : DictRef → StampedMap
  nextRef : DictRef
  /-- `self.data[REG_INPUT]`. -/
  input : StampedMap
  /-- `self.data[REG_HOLDING]`. -/
  holding : DictRef

inductive CacheAction where
  | poll
  | write (address value : Nat)
  | acquire (task : TaskId)
  /-- The device answers the request that the task awaits. -/
  | answer (task : TaskId)
  /-- The operation of the task raises, or its wait is cancelled. -/
  | fail (task : TaskId)
  | deviceChanges (device : Device)

/-- The requests of `read_all`. -/
def pollRequests (extension : Option Batch) :
    List (RegisterTable × Batch) :=
  (inputRegisterBatches ++ extension.toList).map (RegisterTable.input, ·) ++
    holdingRegisterBatches.map (RegisterTable.holding, ·)

/-- The first holding batch with the address, which is the one confirmed. -/
def confirmedBatch (address : Nat) : Option Batch :=
  holdingRegisterBatches.find? fun batch =>
    decide (batch.1 ≤ address ∧ address < batch.1 + batch.2)

namespace CacheState

/-- The published holding registers. -/
def published (state : CacheState) : StampedMap :=
  state.heap state.holding

def spawn (state : CacheState) (task : CacheTask) : CacheState :=
  { state with
    tasks := Function.update state.tasks state.nextTask (some task)
    nextTask := state.nextTask + 1 }

def goOn (state : CacheState) (id : TaskId) (task : CacheTask) :
    CacheState :=
  { state with tasks := Function.update state.tasks id (some task) }

/-- The task ends, or waits no longer. -/
def stop (state : CacheState) (id : TaskId) : CacheState :=
  { state with tasks := Function.update state.tasks id none }

def release (state : CacheState) : CacheState :=
  { state with lockedBy := none }

/-- Something happens at the device. -/
def happens (state : CacheState) (device : Device) : CacheState :=
  { state with device := state.device.advance device }

/-- `_async_update_data` returns, and `self.data` is set in the same step. -/
def publish (state : CacheState) (data : PollData) : CacheState :=
  { state with
    heap := Function.update state.heap state.nextRef data.holding
    nextRef := state.nextRef + 1
    input := data.input
    holding := state.nextRef }

/-- `dictionary[address] = value`, or `dictionary.update(batch)`. -/
def setDict (state : CacheState) (ref : DictRef) (dict : StampedMap) :
    CacheState :=
  { state with heap := Function.update state.heap ref dict }

/-- The answer to the last request of `read_all` ends the poll. -/
def answerPoll (state : CacheState) (id : TaskId) (table : RegisterTable)
    (batch : Batch) (rest : List (RegisterTable × Batch))
    (data : PollData) : CacheState :=
  let after := state.happens state.device.present
  let read := data.update
    (StampedMap.readBatch after.device table batch) table
  match rest with
  | [] => ((after.publish read).release).stop id
  | next :: others => after.goOn id (.pollReads (next :: others) read)

/-- The written value is published, and the dictionary that the confirmation
will update is the one published now. -/
def answerWrite (state : CacheState) (id : TaskId)
    (address value : Nat) : CacheState :=
  let after := state.happens (state.device.present.write address value)
  let optimistic := after.setDict after.holding
    (after.published.set address
      { value
        time := after.device.now })
  match confirmedBatch address with
  | none => optimistic.release.stop id
  | some batch =>
      optimistic.release.goOn id (.confirmWaits batch after.holding)

def answerConfirm (state : CacheState) (id : TaskId) (batch : Batch)
    (captured : DictRef) : CacheState :=
  let after := state.happens state.device.present
  ((after.setDict captured
    ((after.heap captured).update
      (StampedMap.readBatch after.device .holding batch))).release).stop id

def acquire (extension : Option Batch) (state : CacheState)
    (id : TaskId) : Option CacheState :=
  if state.lockedBy = none then
    let locked := { state with lockedBy := some id }
    match state.tasks id with
    | some .pollWaits =>
        some (locked.goOn id (.pollReads (pollRequests extension) .empty))
    | some (.writeWaits address value) =>
        some (locked.goOn id (.writes address value))
    | some (.confirmWaits batch captured) =>
        some (locked.goOn id (.confirms batch captured))
    | _ => none
  else none

def answer (state : CacheState) (id : TaskId) : Option CacheState :=
  match state.tasks id with
  | some (.pollReads ((table, batch) :: rest) data) =>
      some (state.answerPoll id table batch rest data)
  | some (.writes address value) =>
      some (state.answerWrite id address value)
  | some (.confirms batch captured) =>
      some (state.answerConfirm id batch captured)
  | _ => none

/-- A failed operation releases the lock if it had it, and a failed write,
poll or confirmation ends there. -/
def fail (state : CacheState) (id : TaskId) : Option CacheState :=
  match state.tasks id with
  | some (.pollReads _ _) | some (.writes _ _) | some (.confirms _ _) =>
      some (state.release.stop id)
  | some _ => some (state.stop id)
  | none => none

def step (extension : Option Batch) (state : CacheState) :
    CacheAction → Option CacheState
  | .poll => some (state.spawn .pollWaits)
  | .write address value => some (state.spawn (.writeWaits address value))
  | .acquire id => state.acquire extension id
  | .answer id => state.answer id
  | .fail id => state.fail id
  | .deviceChanges device => some (state.happens device)

end CacheState

/-- The coordinator right after its first refresh: what the refresh read, and
the device times at which it did. -/
structure FirstRefresh where
  device : Timeline Device
  input : StampedMap
  holding : StampedMap
  extension : Option Batch
  recorded : ∀ address observation, holding address = some observation →
    device.Records (fun registers => registers.holding address) observation
  complete : ∀ batch ∈ holdingRegisterBatches, ∀ address,
    batch.Covers address → ∃ observation, holding address = some observation

def FirstRefresh.state (first : FirstRefresh) : CacheState :=
  { device := first.device
    lockedBy := none
    tasks := fun _ => none
    nextTask := 0
    heap := fun _ => first.holding
    nextRef := 1
    input := first.input
    holding := 0 }

def cacheMachine (first : FirstRefresh) :
    Machine CacheState CacheAction where
  init := first.state
  step := CacheState.step first.extension

end Airfi
