import Airfi.Simulator.Handler
import Airfi.Simulator.Simulation

/-!
# Sessions with the simulator

From the moment on at which a connection is accepted the registers are its
own: the frames of its stream are answered one after the other, in whatever
pieces they arrive and whatever happens on other connections, and the client
gets for each request what one exchange over the wire gives.
-/

namespace Airfi

open Packing

/-- A frame is ">HHH" and as many bytes as the third word says. -/
def modbusFraming : Framing UInt8 where
  headerSize := 6
  positive := by decide
  bodySize := fun header =>
    match unpack .bigEndian [unsignedShort, unsignedShort, unsignedShort]
        header with
    | some [_, _, length] => length
    | _ => 0

/-- What arrived on a connection. -/
def receivedBy (id : ConnectionId) (noted : List ServerEvent) : List UInt8 :=
  noted.flatMap fun
    | .received other bytes => if other = id then bytes else []
    | .served .. => []

def requestsTo (id : ConnectionId) (noted : List ServerEvent) :
    List (List UInt8) :=
  noted.flatMap fun
    | .served other request _ => if other = id then [request] else []
    | .received .. => []

def responsesTo (id : ConnectionId) (noted : List ServerEvent) :
    List (List UInt8) :=
  noted.flatMap fun
    | .served other _ response => if other = id then [response] else []
    | .received .. => []

/-- `build_response` for one frame after the other: the responses and the
store after them. -/
def serveAll (store : RegisterStore) :
    List (List UInt8) → Option (List (List UInt8) × RegisterStore)
  | [] => some ([], store)
  | request :: rest =>
      match buildResponse store request with
      | .error _ => none
      | .ok (response, next) =>
          (serveAll next rest).map fun (responses, last) =>
            (response :: responses, last)

theorem serveAll_snoc {store middle last : RegisterStore}
    {requests responses : List (List UInt8)} {request response : List UInt8}
    (served : serveAll store requests = some (responses, middle))
    (built : buildResponse middle request = .ok (response, last)) :
    serveAll store (requests ++ [request]) =
      some (responses ++ [response], last) := by
  induction requests generalizing store responses with
  | nil =>
      cases served
      simp only [List.nil_append, serveAll, built, Option.map_some]
  | cons first rest ih =>
      rw [serveAll] at served
      split at served
      case h_1 => cases served
      case h_2 answer next firstBuilt =>
        obtain ⟨⟨later, final⟩, servedRest, same⟩ :=
          Option.map_eq_some_iff.mp served
        cases same
        simp only [List.cons_append, serveAll, firstBuilt, ih servedRest,
          Option.map_some]

/-! ## One connection along a run -/

/-- What was read of the frame that the call is reading. -/
def HandlerStage.begun : HandlerStage → List UInt8
  | .rest read _ => read
  | _ => []

/-- The call of a connection since it began with this store: what arrived is
what it answered, what it has begun to read and what it has not read. -/
structure SessionHolds (store : RegisterStore) (arrived written : List UInt8)
    (id : ConnectionId) (server : ModbusServer) (connection : Connection)
    (noted : List ServerEvent) : Prop where
  received : arrived ++ receivedBy id noted =
    (requestsTo id noted).flatten ++
      (connection.stage.begun ++ connection.buffer)
  whole : ∀ frame ∈ requestsTo id noted, modbusFraming.IsWhole frame
  begun : ∀ header length, connection.stage = .rest header length →
    header.length = 6 ∧ modbusFraming.bodySize header = length
  served : serveAll store (requestsTo id noted) =
    some (responsesTo id noted, server.store)
  written : connection.written = written ++ (responsesTo id noted).flatten

/-- The call has begun, and while it serves its connection the session
holds. -/
structure Session (store : RegisterStore) (arrived written : List UInt8)
    (id : ConnectionId) (server : ModbusServer) (noted : List ServerEvent) :
    Prop where
  one : server.OneServed
  found : ∃ connection, server.connections id = some connection ∧
    connection.stage ≠ .created ∧ (connection.stage.Serves →
      SessionHolds store arrived written id server connection noted)

/-! ## Steps of other connections -/

section Steps

variable {store : RegisterStore} {arrived written : List UInt8}
  {id other : ConnectionId} {server next : ModbusServer}
  {noted : List ServerEvent} {event : Option ServerEvent}

@[simp] theorem receivedBy_append (more : List ServerEvent) :
    receivedBy id (noted ++ more) =
      receivedBy id noted ++ receivedBy id more := by
  simp [receivedBy]

@[simp] theorem requestsTo_append (more : List ServerEvent) :
    requestsTo id (noted ++ more) =
      requestsTo id noted ++ requestsTo id more := by
  simp [requestsTo]

@[simp] theorem responsesTo_append (more : List ServerEvent) :
    responsesTo id (noted ++ more) =
      responsesTo id noted ++ responsesTo id more := by
  simp [responsesTo]

variable (bytes request response : List UInt8)

@[simp] theorem receivedBy_received :
    receivedBy id [.received id bytes] = bytes := by
  simp [receivedBy]

@[simp] theorem receivedBy_served :
    receivedBy id [.served other request response] = [] := rfl

@[simp] theorem requestsTo_received :
    requestsTo id [.received other bytes] = [] := rfl

@[simp] theorem requestsTo_served :
    requestsTo id [.served id request response] = [request] := by
  simp [requestsTo]

@[simp] theorem responsesTo_received :
    responsesTo id [.received other bytes] = [] := rfl

@[simp] theorem responsesTo_served :
    responsesTo id [.served id request response] = [response] := by
  simp [responsesTo]

/-- What is noted of another connection. -/
theorem elsewhere_noted (stepped : server.Stepped other event next)
    (different : other ≠ id) :
    receivedBy id event.toList = [] ∧ requestsTo id event.toList = [] ∧
      responsesTo id event.toList = [] := by
  cases stepped <;>
    simp [receivedBy, requestsTo, responsesTo, different]

theorem elsewhere_connections (stepped : server.Stepped other event next)
    (different : other ≠ id) :
    next.connections id = server.connections id := by
  cases stepped <;>
    simp [ModbusServer.setConnection, ModbusServer.finish,
      Function.update_of_ne different.symm]

/-- Only the call that serves its connection changes the registers. -/
theorem elsewhere_store (one : server.OneServed)
    (stepped : server.Stepped other event next) (different : other ≠ id)
    (serves : server.Serves id) : next.store = server.store := by
  cases stepped with
  | answered found stage buffer built =>
      have otherServes : server.Serves other :=
        (ModbusServer.serves_iff found).mpr (by rw [stage]; trivial)
      have active := (one other).mp otherServes
      rw [(one id).mp serves] at active
      exact absurd (Option.some.inj active).symm different
  | _ => rfl

theorem Session.elsewhere
    (session : Session store arrived written id server noted)
    (stepped : server.Stepped other event next) (different : other ≠ id) :
    Session store arrived written id next (noted ++ event.toList) where
  one := session.one.step stepped
  found := by
    obtain ⟨connection, found, begun, holds⟩ := session.found
    obtain ⟨noReceived, noRequests, noResponses⟩ :=
      elsewhere_noted stepped different
    refine ⟨connection, ?_, begun, ?_⟩
    · rw [elsewhere_connections stepped different]
      exact found
    · intro serves
      have held := holds serves
      have sameStore := elsewhere_store session.one stepped different
        ((ModbusServer.serves_iff found).mpr serves)
      exact {
        received := by simpa [noReceived, noRequests] using held.received
        whole := by simpa [noRequests] using held.whole
        begun := held.begun
        served := by
          rw [sameStore]
          simpa [noRequests, noResponses] using held.served
        written := by simpa [noResponses] using held.written }

/-! ## Steps of the connection -/

theorem whole_of_header {header rest : List UInt8} (size : header.length = 6)
    (announced : modbusFraming.bodySize header = rest.length) :
    modbusFraming.IsWhole (header ++ rest) := by
  have first : (header ++ rest).take 6 = header := List.take_left' size
  rw [Framing.IsWhole, List.length_append, ← announced]
  simp only [modbusFraming, first, size]

theorem bodySize_of_unpack {header : List UInt8} {first second length : Nat}
    (unpacked :
      unpack .bigEndian [unsignedShort, unsignedShort, unsignedShort]
        header = some [first, second, length]) :
    modbusFraming.bodySize header = length := by
  simp only [modbusFraming, unpacked]

/-- The frame that is answered was announced by its header. -/
theorem SessionHolds.answered {connection : Connection}
    {header rest left response : List UInt8} {after : RegisterStore}
    (held : SessionHolds store arrived written id server connection noted)
    (stage : connection.stage = .rest header rest.length)
    (buffer : connection.buffer = rest ++ left)
    (built : buildResponse server.store (header ++ rest) =
      .ok (response, after))
    (answering : next.store = after) :
    SessionHolds store arrived written id next
      { connection with
        stage := .drain
        buffer := left
        written := connection.written ++ response }
      (noted ++ [.served id (header ++ rest) response]) where
  received := by
    have received := held.received
    rw [stage, buffer] at received
    simp only [HandlerStage.begun] at received
    simpa [← List.append_assoc, HandlerStage.begun] using received
  whole := by
    intro frame member
    rw [requestsTo_append, requestsTo_served] at member
    rcases List.mem_append.mp member with before | last
    · exact held.whole frame before
    · obtain rfl := List.mem_singleton.mp last
      obtain ⟨size, announced⟩ := held.begun header _ stage
      exact whole_of_header size announced
  begun := nofun
  served := by
    rw [answering]
    simpa using serveAll_snoc held.served built
  written := by simp [held.written]

theorem Session.here
    (session : Session store arrived written id server noted)
    (stepped : server.Stepped id event next) :
    Session store arrived written id next (noted ++ event.toList) where
  one := session.one.step stepped
  found := by
    obtain ⟨connection, found, begun, holds⟩ := session.found
    cases stepped with
    | connected absent =>
        rw [found] at absent
        cases absent
    | received same bytes =>
        cases Option.some.inj (found.symm.trans same)
        refine ⟨_, Function.update_self _ _ _, begun, ?_⟩
        intro serves
        have held := holds serves
        exact {
          received := by
            simp [← List.append_assoc, held.received]
          whole := by simpa using held.whole
          begun := held.begun
          served := by
            rw [Option.toList_some, requestsTo_append, responsesTo_append,
              requestsTo_received, responsesTo_received, List.append_nil,
              List.append_nil]
            exact held.served
          written := by simpa using held.written }
    | hungUp same eof lost =>
        cases Option.some.inj (found.symm.trans same)
        refine ⟨_, Function.update_self _ _ _, begun, ?_⟩
        intro serves
        have held := holds serves
        rw [Option.toList_none, List.append_nil]
        exact ⟨held.received, held.whole, held.begun, held.served,
          held.written⟩
    | dropped same stage =>
        cases Option.some.inj (found.symm.trans same)
        exact absurd stage begun
    | started same stage free =>
        cases Option.some.inj (found.symm.trans same)
        exact absurd stage begun
    | headed same stage buffer size unpacked =>
        cases Option.some.inj (found.symm.trans same)
        refine ⟨_, Function.update_self _ _ _, nofun, ?_⟩
        intro _
        have held := holds (by rw [stage]; trivial)
        rw [Option.toList_none, List.append_nil]
        exact {
          received := by
            have received := held.received
            rw [stage, buffer] at received
            exact received
          whole := held.whole
          begun := by
            intro header length same
            cases same
            exact ⟨size, bodySize_of_unpack unpacked⟩
          served := held.served
          written := held.written }
    | answered same stage buffer built =>
        cases Option.some.inj (found.symm.trans same)
        refine ⟨_, Function.update_self _ _ _, nofun, ?_⟩
        intro _
        have held := holds (by rw [stage]; trivial)
        exact held.answered stage buffer built rfl
    | drained same stage =>
        cases Option.some.inj (found.symm.trans same)
        refine ⟨_, Function.update_self _ _ _, nofun, ?_⟩
        intro _
        have held := holds (by rw [stage]; trivial)
        rw [Option.toList_none, List.append_nil]
        exact {
          received := by
            have received := held.received
            rw [stage] at received
            exact received
          whole := held.whole
          begun := nofun
          served := held.served
          written := held.written }
    | finished same serves left =>
        refine ⟨_, Function.update_self _ _ _, nofun, ?_⟩
        intro ended
        exact absurd ended not_false

end Steps

theorem short_of_waiting {connection : Connection} {n : Nat}
    (waiting : connection.readExactly n = .waiting) :
    connection.buffer.length < n := by
  simp only [Connection.readExactly] at waiting
  split at waiting
  · cases waiting
  · split at waiting
    case isTrue => cases waiting
    case isFalse short => exact Nat.lt_of_not_le short

/-- A call that cannot go on has not read the whole of a further frame. -/
theorem SessionHolds.frames_unread {store : RegisterStore}
    {arrived written : List UInt8} {id : ConnectionId}
    {server : ModbusServer} {connection : Connection}
    {noted : List ServerEvent}
    (held : SessionHolds store arrived written id server connection noted)
    (found : server.connections id = some connection)
    (serves : connection.stage.Serves)
    (blocked : server.step (.resume id) = none) :
    modbusFraming.frames (connection.stage.begun ++ connection.buffer) =
      [] := by
  simp only [ModbusServer.step, found, Option.bind_some] at blocked
  apply Framing.frames_short
  intro long
  cases stage : connection.stage with
  | created =>
      rw [stage] at serves
      exact serves.elim
  | ended =>
      rw [stage] at serves
      exact serves.elim
  | drain =>
      simp only [ModbusServer.resume, stage] at blocked
      split at blocked
      · cases blocked
      · cases blocked
  | header =>
      simp only [ModbusServer.resume, stage] at blocked
      split at blocked
      case h_2 waiting =>
        rw [stage] at long
        exact absurd long (Nat.not_le.mpr (short_of_waiting waiting))
      all_goals cases blocked
  | rest header length =>
      obtain ⟨size, announced⟩ := held.begun header length stage
      simp only [ModbusServer.resume, stage] at blocked
      split at blocked
      case h_2 waiting =>
        have short := short_of_waiting waiting
        have first : (header ++ connection.buffer).take
            modbusFraming.headerSize = header := List.take_left' size
        simp only [HandlerStage.begun, first, announced, List.length_append,
          size]
        exact Nat.add_lt_add_left short 6
      all_goals cases blocked

/-- The session of a connection that was accepted in a reachable state. -/
theorem session_of_runFrom {store : RegisterStore}
    {server later : ModbusServer} {id : ConnectionId}
    {connection : Connection} {actions : List ServerAction}
    (reached : (serverMachine store).Reachable server)
    (found : server.connections id = some connection)
    (accepted : connection.stage = .header)
    (ran : (serverMachine store).runFrom server actions = some later) :
    Session server.store connection.buffer connection.written id later
      ((serverMachine store).historyFrom ModbusServer.event server
        actions) := by
  have initially : Session server.store connection.buffer
      connection.written id server [] := by
    refine ⟨ModbusServer.oneServed_of_reachable reached, connection, found,
      ?_, ?_⟩
    · rw [accepted]
      exact nofun
    · intro _
      exact {
        received := by simp [receivedBy, requestsTo, accepted,
          HandlerStage.begun]
        whole := nofun
        begun := by
          intro header length same
          rw [accepted] at same
          cases same
        served := rfl
        written := (List.append_nil _).symm }
  have reachedLater := Machine.invariant_of_history
    (fun state noted => Session server.store connection.buffer
      connection.written id state noted)
    (fun {state action next noted} session step => by
      obtain ⟨other, stepped⟩ := ModbusServer.stepped_of_step step
      by_cases here : other = id
      · exact session.here (here ▸ stepped)
      · exact session.elsewhere stepped here)
    ran initially
  exact reachedLater

/-- From the moment at which a connection is accepted and for as long as it
is served, the frames of its stream are answered in order from the registers
as they were then and its own writes since.  The pieces of the stream and
the other connections do not matter. -/
theorem session_served {store : RegisterStore} {server later : ModbusServer}
    {id : ConnectionId} {connection current : Connection}
    {actions : List ServerAction}
    (reached : (serverMachine store).Reachable server)
    (found : server.connections id = some connection)
    (accepted : connection.stage = .header)
    (ran : (serverMachine store).runFrom server actions = some later)
    (foundLater : later.connections id = some current)
    (serves : current.stage.Serves) :
    ∃ requests responses unserved,
      modbusFraming.frames (connection.buffer ++ receivedBy id
          ((serverMachine store).historyFrom ModbusServer.event server
            actions)) = requests ++ unserved ∧
        serveAll server.store requests = some (responses, later.store) ∧
        current.written = connection.written ++ responses.flatten ∧
        (later.step (.resume id) = none → unserved = []) := by
  have session := session_of_runFrom reached found accepted ran
  obtain ⟨same, foundSame, -, holds⟩ := session.found
  cases Option.some.inj (foundLater.symm.trans foundSame)
  have held := holds serves
  refine ⟨_, _, modbusFraming.frames
    (current.stage.begun ++ current.buffer), ?_, held.served, held.written,
    held.frames_unread foundLater serves⟩
  rw [held.received]
  exact Framing.frames_flatten_append _ held.whole

/-- A connection is accepted. -/
def acceptance : List ServerAction := [.connect 0, .resume 0]

/-- A read of two holding registers arrives in three pieces while another
connection comes and is rejected. -/
def readInPieces : List ServerAction :=
  [.receive 0 [0, 1, 0, 0], .connect 1, .receive 0 [0, 6, 1, 3, 0],
    .resume 0, .resume 1, .receive 0 [1, 0, 2], .resume 0, .resume 0]

def acceptedConnection : Connection :=
  { Connection.new with stage := .header }

/-- The connection after its frame has been answered. -/
def answeredConnection : Connection :=
  { Connection.new with
    stage := .header
    written := [0, 1, 0, 0, 0, 7, 1, 3, 4, 0, 3, 0, 0] }

theorem readInPieces_ran :
    ∃ server later,
      (serverMachine .init).run acceptance = some server ∧
        (serverMachine .init).runFrom server readInPieces = some later ∧
        server.connections 0 = some acceptedConnection ∧
        later.connections 0 = some answeredConnection := by
  have accepts : ((serverMachine .init).run acceptance).bind
      (fun server => server.connections 0) = some acceptedConnection := rfl
  obtain ⟨server, ran, found⟩ := Option.bind_eq_some_iff.mp accepts
  have answers : (((serverMachine .init).run acceptance).bind fun server =>
      (serverMachine .init).runFrom server readInPieces).bind
        (fun later => later.connections 0) = some answeredConnection := rfl
  rw [ran] at answers
  obtain ⟨later, ranLater, foundLater⟩ := Option.bind_eq_some_iff.mp answers
  exact ⟨server, later, ran, ranLater, found, foundLater⟩

theorem session_served_in_pieces :
    ∃ server later requests responses unserved,
      (serverMachine .init).runFrom server readInPieces = some later ∧
        modbusFraming.frames (acceptedConnection.buffer ++ receivedBy 0
          ((serverMachine .init).historyFrom ModbusServer.event server
            readInPieces)) = requests ++ unserved ∧
        serveAll server.store requests = some (responses, later.store) ∧
        answeredConnection.written =
          acceptedConnection.written ++ responses.flatten ∧
        (later.step (.resume 0) = none → unserved = []) := by
  obtain ⟨server, later, ran, ranLater, found, foundLater⟩ :=
    readInPieces_ran
  obtain ⟨requests, responses, unserved, held⟩ := session_served
    ⟨acceptance, ran⟩ found rfl ranLater foundLater trivial
  exact ⟨server, later, requests, responses, unserved, ranLater, held⟩

end Airfi
