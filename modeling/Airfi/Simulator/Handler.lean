import Airfi.Framing
import Airfi.Machine
import Airfi.Simulator.Server

/-!
# The connections of the simulator

`ModbusServer.handle`, one call for each connection, over streams that arrive
in pieces of any size.  A call awaits the bytes of a frame, first its header
and then what this announces, answers it and awaits the next one.  It serves
its connection as the active one or closes it at once.
-/

namespace Airfi

open Packing

abbrev ConnectionId := Nat

/-- Where the call of `handle` for a connection stands. -/
inductive HandlerStage where
  /-- The call has not run yet. -/
  | created
  /-- `await reader.readexactly(6)`. -/
  | header
  /-- `await reader.readexactly(length)`, after this header. -/
  | rest (header : List UInt8) (length : Nat)
  /-- `await writer.drain()`. -/
  | drain
  /-- The writer is closed. -/
  | ended
  deriving DecidableEq

/-- The stream pair of a connection and its call. -/
structure Connection where
  stage : HandlerStage
  /-- Received and not read. -/
  buffer : List UInt8
  eof : Bool
  /-- The connection was reset. -/
  lost : Bool
  written : List UInt8
  deriving DecidableEq

/-- How an awaited `readexactly` stands. -/
inductive ReadReply where
  | bytes (read left : List UInt8)
  | waiting
  | incompleteReadError
  | connectionResetError

namespace Connection

def new : Connection :=
  { stage := .created
    buffer := []
    eof := false
    lost := false
    written := [] }

/-- `reader.readexactly(n)`. -/
def readExactly (connection : Connection) (n : Nat) : ReadReply :=
  if connection.lost then .connectionResetError
  else if n ≤ connection.buffer.length then
    .bytes (connection.buffer.take n) (connection.buffer.drop n)
  else if connection.eof then .incompleteReadError
  else .waiting

end Connection

structure ModbusServer where
  store : RegisterStore
  activeClient : Option ConnectionId
  connections : ConnectionId → Option Connection

inductive ServerAction where
  | connect (id : ConnectionId)
  | receive (id : ConnectionId) (bytes : List UInt8)
  | eof (id : ConnectionId)
  | reset (id : ConnectionId)
  /-- The call goes on to its next `await`. -/
  | resume (id : ConnectionId)
  /-- The task of the call is cancelled. -/
  | cancel (id : ConnectionId)

namespace ModbusServer

def init (store : RegisterStore) : ModbusServer :=
  { store
    activeClient := none
    connections := fun _ => none }

def setConnection (server : ModbusServer) (id : ConnectionId)
    (connection : Connection) : ModbusServer :=
  { server with
    connections := Function.update server.connections id (some connection) }

/-- The `finally` block: the slot is free again and the writer closed. -/
def finish (server : ModbusServer) (id : ConnectionId)
    (connection : Connection) : ModbusServer :=
  { server.setConnection id { connection with stage := .ended } with
    activeClient := none }

/-- The start of the call, which serves or rejects its connection. -/
def start (server : ModbusServer) (id : ConnectionId)
    (connection : Connection) : ModbusServer :=
  if server.activeClient.isSome then
    server.setConnection id { connection with stage := .ended }
  else
    { server.setConnection id { connection with stage := .header } with
      activeClient := some id }

/-- After the header: `_, _, length = struct.unpack(">HHH", header)`. -/
def readHeader (server : ModbusServer) (id : ConnectionId)
    (connection : Connection) (header : List UInt8) : ModbusServer :=
  match unpack .bigEndian [unsignedShort, unsignedShort, unsignedShort]
      header with
  | some [_, _, length] =>
      server.setConnection id
        { connection with stage := .rest header length }
  | _ => server.finish id connection

/-- After the rest of a frame, the response is built and written. -/
def answerFrame (server : ModbusServer) (id : ConnectionId)
    (connection : Connection) (request : List UInt8) : ModbusServer :=
  match buildResponse server.store request with
  | .ok (response, store) =>
      { server.setConnection id
          { connection with
            stage := .drain
            written := connection.written ++ response } with
        store }
  | .error _ => server.finish id connection

/-- `none` where what the call awaits is not there. -/
def resume (server : ModbusServer) (id : ConnectionId)
    (connection : Connection) : Option ModbusServer :=
  match connection.stage with
  | .created => some (server.start id connection)
  | .header =>
      match connection.readExactly 6 with
      | .bytes header left =>
          some (server.readHeader id { connection with buffer := left }
            header)
      | .waiting => none
      | .incompleteReadError | .connectionResetError =>
          some (server.finish id connection)
  | .rest header length =>
      match connection.readExactly length with
      | .bytes rest left =>
          some (server.answerFrame id { connection with buffer := left }
            (header ++ rest))
      | .waiting => none
      | .incompleteReadError | .connectionResetError =>
          some (server.finish id connection)
  | .drain =>
      if connection.lost then some (server.finish id connection)
      else some (server.setConnection id { connection with stage := .header })
  | .ended => none

/-- A call that has not run is dropped, any other leaves through its
`finally` block. -/
def cancel (server : ModbusServer) (id : ConnectionId)
    (connection : Connection) : Option ModbusServer :=
  match connection.stage with
  | .created =>
      some (server.setConnection id { connection with stage := .ended })
  | .header | .rest _ _ | .drain => some (server.finish id connection)
  | .ended => none

/-- What arrives on a connection that is not closed. -/
def arrive (server : ModbusServer) (id : ConnectionId)
    (change : Connection → Option Connection) : Option ModbusServer :=
  match server.connections id with
  | some connection =>
      if connection.stage = .ended ∨ connection.lost then none
      else (change connection).map (server.setConnection id)
  | none => none

def step (server : ModbusServer) : ServerAction → Option ModbusServer
  | .connect id =>
      if (server.connections id).isNone then
        some (server.setConnection id .new)
      else none
  | .receive id bytes =>
      server.arrive id fun connection =>
        if connection.eof then none
        else some { connection with buffer := connection.buffer ++ bytes }
  | .eof id =>
      server.arrive id fun connection => some { connection with eof := true }
  | .reset id =>
      server.arrive id fun connection => some { connection with lost := true }
  | .resume id => (server.connections id).bind (server.resume id)
  | .cancel id => (server.connections id).bind (server.cancel id)

end ModbusServer

/-- The server on a register store. -/
def serverMachine (store : RegisterStore) :
    Machine ModbusServer ServerAction where
  init := .init store
  step := ModbusServer.step

/-- What is noted of a run of the server. -/
inductive ServerEvent where
  | received (id : ConnectionId) (bytes : List UInt8)
  | served (id : ConnectionId) (request response : List UInt8)
  deriving DecidableEq

namespace ModbusServer

/-- The frame that the call answers when it goes on. -/
def served (server : ModbusServer) (id : ConnectionId)
    (connection : Connection) : Option ServerEvent :=
  match connection.stage with
  | .rest header length =>
      match connection.readExactly length with
      | .bytes rest _ =>
          match buildResponse server.store (header ++ rest) with
          | .ok (response, _) => some (.served id (header ++ rest) response)
          | .error _ => none
      | _ => none
  | _ => none

def event (server : ModbusServer) : ServerAction → Option ServerEvent
  | .receive id bytes => some (.received id bytes)
  | .resume id => (server.connections id).bind (server.served id)
  | _ => none

end ModbusServer

/-- The call has begun to serve its connection and has not left. -/
def HandlerStage.Serves : HandlerStage → Prop
  | .created => False
  | .header => True
  | .rest _ _ => True
  | .drain => True
  | .ended => False

/-! ## What a step can do -/

namespace ModbusServer

/-- A step, with what is noted of it.  It concerns one connection. -/
inductive Stepped (server : ModbusServer) :
    ConnectionId → Option ServerEvent → ModbusServer → Prop where
  | connected {id : ConnectionId} (absent : server.connections id = none) :
      Stepped server id none (server.setConnection id .new)
  | received {id : ConnectionId} {connection : Connection}
      (found : server.connections id = some connection)
      (bytes : List UInt8) :
      Stepped server id (some (.received id bytes))
        (server.setConnection id
          { connection with buffer := connection.buffer ++ bytes })
  | hungUp {id : ConnectionId} {connection : Connection}
      (found : server.connections id = some connection)
      (eof lost : Bool) :
      Stepped server id none
        (server.setConnection id { connection with eof, lost })
  | dropped {id : ConnectionId} {connection : Connection}
      (found : server.connections id = some connection)
      (stage : connection.stage = .created) :
      Stepped server id none
        (server.setConnection id { connection with stage := .ended })
  | started {id : ConnectionId} {connection : Connection}
      (found : server.connections id = some connection)
      (stage : connection.stage = .created)
      (free : server.activeClient = none) :
      Stepped server id none
        { server.setConnection id { connection with stage := .header } with
          activeClient := some id }
  | headed {id : ConnectionId} {connection : Connection}
      (found : server.connections id = some connection)
      (stage : connection.stage = .header)
      {header left : List UInt8} {first second length : Nat}
      (buffer : connection.buffer = header ++ left)
      (size : header.length = 6)
      (unpacked :
        unpack .bigEndian [unsignedShort, unsignedShort, unsignedShort]
          header = some [first, second, length]) :
      Stepped server id none
        (server.setConnection id
          { connection with
            stage := .rest header length
            buffer := left })
  | answered {id : ConnectionId} {connection : Connection}
      (found : server.connections id = some connection)
      {header rest left : List UInt8}
      (stage : connection.stage = .rest header rest.length)
      (buffer : connection.buffer = rest ++ left)
      {response : List UInt8} {store : RegisterStore}
      (built : buildResponse server.store (header ++ rest) =
        .ok (response, store)) :
      Stepped server id (some (.served id (header ++ rest) response))
        { server.setConnection id
            { connection with
              stage := .drain
              buffer := left
              written := connection.written ++ response } with
          store }
  | drained {id : ConnectionId} {connection : Connection}
      (found : server.connections id = some connection)
      (stage : connection.stage = .drain) :
      Stepped server id none
        (server.setConnection id { connection with stage := .header })
  | finished {id : ConnectionId} {connection : Connection}
      (found : server.connections id = some connection)
      (serves : connection.stage.Serves) (left : List UInt8) :
      Stepped server id none
        (server.finish id { connection with buffer := left })

theorem readExactly_eq_bytes {connection : Connection} {n : Nat}
    {read left : List UInt8}
    (isRead : connection.readExactly n = .bytes read left) :
    connection.buffer = read ++ left ∧ read.length = n := by
  simp only [Connection.readExactly] at isRead
  split at isRead
  case isTrue => cases isRead
  case isFalse =>
    split at isRead
    case isFalse =>
      split at isRead
      · cases isRead
      · cases isRead
    case isTrue long =>
      cases isRead
      exact ⟨(List.take_append_drop n _).symm,
        List.length_take_of_le long⟩

section Inversion

variable {server next : ModbusServer} {id : ConnectionId}
  {connection : Connection}

theorem stepped_of_finish
    (found : server.connections id = some connection)
    (serves : connection.stage.Serves) :
    Stepped server id none (server.finish id connection) :=
  .finished found serves connection.buffer

theorem stepped_of_start (found : server.connections id = some connection)
    (stage : connection.stage = .created) :
    Stepped server id none (server.start id connection) := by
  rw [start]
  cases active : server.activeClient with
  | none => exact .started found stage active
  | some other => exact .dropped found stage

theorem stepped_of_header (found : server.connections id = some connection)
    (stage : connection.stage = .header) {header left : List UInt8}
    (isRead : connection.readExactly 6 = .bytes header left) :
    Stepped server id none
      (server.readHeader id { connection with buffer := left } header) := by
  obtain ⟨buffer, size⟩ := readExactly_eq_bytes isRead
  rw [readHeader]
  split
  case h_1 first second length unpacked =>
    exact .headed found stage buffer size unpacked
  case h_2 =>
    exact .finished found (by rw [stage]; trivial) left

theorem stepped_of_rest (found : server.connections id = some connection)
    {header : List UInt8} {length : Nat}
    (stage : connection.stage = .rest header length)
    {rest left : List UInt8}
    (isRead : connection.readExactly length = .bytes rest left) :
    Stepped server id (server.served id connection)
      (server.answerFrame id { connection with buffer := left }
        (header ++ rest)) := by
  obtain ⟨buffer, rfl⟩ := readExactly_eq_bytes isRead
  simp only [served, stage, isRead, answerFrame]
  cases built : buildResponse server.store (header ++ rest) with
  | ok answer => exact .answered found stage buffer built
  | error error => exact .finished found (by rw [stage]; trivial) left

theorem stepped_of_resume (found : server.connections id = some connection)
    (resumed : server.resume id connection = some next) :
    Stepped server id (server.served id connection) next := by
  rw [resume] at resumed
  split at resumed
  case h_1 stage =>
    cases resumed
    simpa only [served, stage] using stepped_of_start found stage
  case h_2 stage =>
    have serves : connection.stage.Serves := by
      rw [stage]
      trivial
    simp only [served, stage]
    split at resumed
    case h_1 isRead =>
      cases resumed
      exact stepped_of_header found stage isRead
    case h_2 => cases resumed
    all_goals
      cases resumed
      exact stepped_of_finish found serves
  case h_3 header length stage =>
    have serves : connection.stage.Serves := by
      rw [stage]
      trivial
    split at resumed
    case h_1 isRead =>
      cases resumed
      exact stepped_of_rest found stage isRead
    case h_2 => cases resumed
    all_goals
      rename_i isRead
      cases resumed
      simp only [served, stage, isRead]
      exact stepped_of_finish found serves
  case h_4 stage =>
    simp only [served, stage]
    split at resumed
    · cases resumed
      exact stepped_of_finish found (by rw [stage]; trivial)
    · cases resumed
      exact .drained found stage
  case h_5 => cases resumed

theorem stepped_of_cancel (found : server.connections id = some connection)
    (cancelled : server.cancel id connection = some next) :
    Stepped server id none next := by
  rw [cancel] at cancelled
  split at cancelled
  case h_1 stage =>
    cases cancelled
    exact .dropped found stage
  case h_5 => cases cancelled
  all_goals
    rename_i stage
    cases cancelled
    exact stepped_of_finish found (by rw [stage]; trivial)

theorem arrive_eq_some {change : Connection → Option Connection}
    (arrived : server.arrive id change = some next) :
    ∃ before after, server.connections id = some before ∧
      change before = some after ∧ next = server.setConnection id after := by
  rw [arrive] at arrived
  split at arrived
  case h_2 => cases arrived
  case h_1 before found =>
    split at arrived
    · cases arrived
    · obtain ⟨after, changed, same⟩ := Option.map_eq_some_iff.mp arrived
      exact ⟨before, after, found, changed, same.symm⟩

theorem stepped_of_step {action : ServerAction}
    (step : server.step action = some next) :
    ∃ id, Stepped server id (server.event action) next := by
  cases action with
  | connect id =>
      obtain ⟨absent, same⟩ := Option.ite_none_right_eq_some.mp step
      cases same
      exact ⟨id, .connected (Option.isNone_iff_eq_none.mp absent)⟩
  | receive id bytes =>
      obtain ⟨before, after, found, changed, rfl⟩ := arrive_eq_some step
      split at changed
      · cases changed
      · cases changed
        exact ⟨id, .received found bytes⟩
  | eof id =>
      obtain ⟨before, after, found, changed, rfl⟩ := arrive_eq_some step
      cases changed
      exact ⟨id, .hungUp found true before.lost⟩
  | reset id =>
      obtain ⟨before, after, found, changed, rfl⟩ := arrive_eq_some step
      cases changed
      exact ⟨id, .hungUp found before.eof true⟩
  | resume id =>
      obtain ⟨connection, found, resumed⟩ := Option.bind_eq_some_iff.mp step
      simp only [event, found, Option.bind_some]
      exact ⟨id, stepped_of_resume found resumed⟩
  | cancel id =>
      obtain ⟨connection, found, cancelled⟩ :=
        Option.bind_eq_some_iff.mp step
      exact ⟨id, stepped_of_cancel found cancelled⟩

end Inversion

/-! ## One active connection -/

/-- The call of this connection serves it. -/
def Serves (server : ModbusServer) (id : ConnectionId) : Prop :=
  ∃ connection, server.connections id = some connection ∧
    connection.stage.Serves

/-- The active client is the connection that is served, if any. -/
def OneServed (server : ModbusServer) : Prop :=
  ∀ id, server.Serves id ↔ server.activeClient = some id

section OneServed

variable {server : ModbusServer} {id : ConnectionId}
  {connection : Connection}

theorem serves_setConnection_self :
    (server.setConnection id connection).Serves id ↔
      connection.stage.Serves := by
  simp [Serves, setConnection]

theorem serves_setConnection_other {other : ConnectionId}
    (different : other ≠ id) :
    (server.setConnection id connection).Serves other ↔
      server.Serves other := by
  simp [Serves, setConnection, Function.update_of_ne different]

theorem serves_iff (found : server.connections id = some connection) :
    server.Serves id ↔ connection.stage.Serves := by
  simp [Serves, found]

/-- A change to a connection that is served before and after, or neither. -/
theorem OneServed.setConnection (one : server.OneServed)
    (same : server.Serves id ↔ connection.stage.Serves) :
    (server.setConnection id connection).OneServed := by
  intro other
  by_cases here : other = id
  · rw [here, serves_setConnection_self, ← same]
    exact one id
  · rw [serves_setConnection_other here]
    exact one other

theorem OneServed.finish (one : server.OneServed)
    (serves : server.Serves id) :
    (server.finish id connection).OneServed := by
  intro other
  have active := (one id).mp serves
  have ended : ¬ (server.finish id connection).Serves other := by
    by_cases here : other = id
    · rw [here]
      exact serves_setConnection_self.not.mpr not_false
    · intro served
      have before := (serves_setConnection_other here).mp served
      rw [one other, active] at before
      exact here (Option.some.inj before).symm
  exact iff_of_false ended nofun

theorem OneServed.step {next : ModbusServer} {event : Option ServerEvent}
    (one : server.OneServed) (stepped : Stepped server id event next) :
    next.OneServed := by
  cases stepped with
  | connected absent =>
      apply one.setConnection
      exact iff_of_false (by simp [Serves, absent]) not_false
  | received found bytes =>
      apply one.setConnection
      exact (serves_iff found).trans Iff.rfl
  | hungUp found eof lost =>
      apply one.setConnection
      exact (serves_iff found).trans Iff.rfl
  | dropped found stage =>
      apply one.setConnection
      rw [serves_iff found, stage]
      exact Iff.rfl
  | started found stage free =>
      intro other
      by_cases here : other = id
      · rw [here]
        exact iff_of_true (serves_setConnection_self.mpr trivial) rfl
      · have idle : ¬ server.Serves other := by
          rw [one other, free]
          exact nofun
        apply iff_of_false
        · exact (serves_setConnection_other here).not.mpr idle
        · intro active
          exact here (Option.some.inj active).symm
  | headed found stage buffer size unpacked =>
      apply one.setConnection
      rw [serves_iff found, stage]
      exact Iff.rfl
  | @answered connection found header rest left stage buffer response store
        built =>
      have kept : (server.setConnection id
          { connection with
            stage := .drain
            buffer := left
            written := connection.written ++ response }).OneServed := by
        apply one.setConnection
        rw [serves_iff found, stage]
        exact Iff.rfl
      exact kept
  | drained found stage =>
      apply one.setConnection
      rw [serves_iff found, stage]
      exact Iff.rfl
  | finished found serves left =>
      exact one.finish ((serves_iff found).mpr serves)

end OneServed

/-- However connections come and go, the active client is the one connection
that is served, and there is one exactly while one is served. -/
theorem oneServed_of_reachable {store : RegisterStore}
    {server : ModbusServer}
    (reached : (serverMachine store).Reachable server) :
    server.OneServed := by
  apply reached.invariant OneServed
  · intro id
    exact iff_of_false nofun nofun
  · intro state action next one step
    obtain ⟨id, stepped⟩ := stepped_of_step step
    exact one.step stepped

/-- A connection is served, another is rejected, and once the first is closed
a third is served. -/
def threeConnections : List ServerAction :=
  [.connect 0, .connect 1, .resume 0, .resume 1, .eof 0, .resume 0,
    .connect 2, .resume 2]

theorem oneServed_of_reachable_three_connections :
    ∃ server,
      (serverMachine .init).run threeConnections = some server ∧
        server.activeClient = some 2 ∧ server.OneServed := by
  have finishes : ((serverMachine .init).run threeConnections).isSome := rfl
  obtain ⟨server, ran⟩ := Option.isSome_iff_exists.mp finishes
  have active : ((serverMachine .init).run threeConnections).map
      (fun final => final.activeClient) = some (some 2) := rfl
  rw [ran] at active
  exact ⟨server, ran, Option.some.inj active,
    oneServed_of_reachable ⟨threeConnections, ran⟩⟩

end ModbusServer

end Airfi
