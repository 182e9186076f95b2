import Airfi.Simulator.Agreement
import Airfi.Simulator.Sessions

/-!
# The client on a stream

What the exchanges of the simulation leave out: requests and responses travel
in streams that are cut anywhere.  The responses that a session writes are
read back as frames, and each decodes to the reply of its exchange.
-/

namespace Airfi

open Packing

/-- The frames of requests that follow each other. -/
def encodeAll (transaction : UInt16) :
    List ModbusRequest → Option (List (List UInt8))
  | [] => some []
  | request :: rest =>
      match encodeRequest transaction request with
      | none => none
      | some frame => (encodeAll (transaction + 1) rest).map (frame :: ·)

/-- The replies that the responses stand for, one for each request. -/
def decodeAll (transport : Transport) (transaction : UInt16) :
    List ModbusRequest → List (List UInt8) → List ModbusReply
  | request :: rest, response :: responses =>
      (decodeResponse transport transaction request response).getD
          (.raised (transport.unanswered request)) ::
        decodeAll transport (transaction + 1) rest responses
  | _, _ => []

/-- One exchange after the other. -/
def Simulation.exchangeAll (transport : Transport)
    (simulation : Simulation) :
    List ModbusRequest → List ModbusReply × Simulation
  | [] => ([], simulation)
  | request :: rest =>
      let exchanged := simulation.exchange transport request
      let later := exchanged.2.exchangeAll transport rest
      (exchanged.1 :: later.1, later.2)

/-! ## Whole frames -/

theorem isWhole_of_take {frame : List UInt8} {first second length : Nat}
    (header : pack .bigEndian [unsignedShort, unsignedShort, unsignedShort]
      [first, second, length] = some (frame.take 6))
    (size : frame.length = 6 + length) : modbusFraming.IsWhole frame := by
  have announced := bodySize_of_unpack (unpack_of_pack header)
  rw [Framing.IsWhole, size]
  simp only [modbusFraming] at announced ⊢
  rw [announced]

theorem encodeRequest_isWhole {transaction : UInt16}
    {request : ModbusRequest} {frame : List UInt8}
    (encoded : encodeRequest transaction request = some frame) :
    modbusFraming.IsWhole frame :=
  isWhole_of_take (pack_take encoded 3) (length_of_pack encoded)

theorem IsFrame.isWhole {transaction unit function : Nat}
    {body frame : List UInt8}
    (isFrame : IsFrame transaction unit function body frame) :
    modbusFraming.IsWhole frame := by
  have size := isFrame.length_eq
  obtain ⟨header, packed, rfl⟩ := isFrame
  have headerSize : header.length = 8 := length_of_pack packed
  have first : (header ++ body).take 6 = header.take 6 :=
    List.take_append_of_le_length (headerSize.symm ▸ by decide)
  apply isWhole_of_take (first.symm ▸ pack_take packed 3)
  rw [size, Nat.add_comm 6, Nat.add_assoc]

theorem buildResponse_isWhole {store after : RegisterStore}
    (wellFormed : store.WellFormed) {request response : List UInt8}
    (built : buildResponse store request = .ok (response, after)) :
    modbusFraming.IsWhole response := by
  have answered := buildResponse_answered wellFormed request
  rw [built] at answered
  cases answered with
  | kept isFrame => exact isFrame.isWhole
  | written isFrame present fits => exact isFrame.isWhole

theorem serveAll_isWhole {store after : RegisterStore}
    (wellFormed : store.WellFormed) {requests responses : List (List UInt8)}
    (served : serveAll store requests = some (responses, after)) :
    ∀ response ∈ responses, modbusFraming.IsWhole response := by
  induction requests generalizing store responses with
  | nil =>
      cases served
      exact nofun
  | cons request rest ih =>
      rw [serveAll] at served
      split at served
      case h_1 => cases served
      case h_2 response next built =>
        obtain ⟨⟨later, last⟩, servedRest, same⟩ :=
          Option.map_eq_some_iff.mp served
        cases same
        intro other member
        rcases List.mem_cons.mp member with rfl | inRest
        · exact buildResponse_isWhole wellFormed built
        · exact ih (buildResponse_wellFormed wellFormed built).1 servedRest
            other inRest

theorem encodeAll_isWhole {transaction : UInt16}
    {requests : List ModbusRequest} {frames : List (List UInt8)}
    (encoded : encodeAll transaction requests = some frames) :
    ∀ frame ∈ frames, modbusFraming.IsWhole frame := by
  induction requests generalizing transaction frames with
  | nil =>
      cases encoded
      exact nofun
  | cons request rest ih =>
      rw [encodeAll] at encoded
      split at encoded
      case h_1 => cases encoded
      case h_2 first encodedFirst =>
        obtain ⟨later, encodedRest, rfl⟩ :=
          Option.map_eq_some_iff.mp encoded
        intro other member
        rcases List.mem_cons.mp member with rfl | inRest
        · exact encodeRequest_isWhole encodedFirst
        · exact ih encodedRest other inRest

/-! ## Replies -/

/-- What the server makes of the frames is what the exchanges make of the
requests. -/
theorem exchangeAll_of_serveAll (transport : Transport)
    {simulation : Simulation} {requests : List ModbusRequest}
    {frames responses : List (List UInt8)} {after : RegisterStore}
    (encoded : encodeAll simulation.transaction requests = some frames)
    (served : serveAll simulation.store frames = some (responses, after)) :
    (simulation.exchangeAll transport requests).1 =
        decodeAll transport simulation.transaction requests responses ∧
      (simulation.exchangeAll transport requests).2.store = after := by
  induction requests generalizing simulation frames responses with
  | nil =>
      cases encoded
      cases served
      exact ⟨rfl, rfl⟩
  | cons request rest ih =>
      rw [encodeAll] at encoded
      split at encoded
      case h_1 => cases encoded
      case h_2 frame encodedFrame =>
        obtain ⟨later, encodedRest, rfl⟩ :=
          Option.map_eq_some_iff.mp encoded
        rw [serveAll] at served
        split at served
        case h_1 => cases served
        case h_2 response next built =>
          obtain ⟨⟨laterResponses, last⟩, servedRest, same⟩ :=
            Option.map_eq_some_iff.mp served
          cases same
          have exchanged : simulation.exchange transport request =
              ((decodeResponse transport simulation.transaction request
                  response).getD (.raised (transport.unanswered request)),
                simulation.answered next) := by
            rw [Simulation.exchange, encodedFrame]
            simp only [built]
            rfl
          obtain ⟨replies, store⟩ :=
            @ih (simulation.answered next) _ _ encodedRest servedRest
          rw [Simulation.exchangeAll, exchanged]
          exact ⟨congrArg _ replies, store⟩

theorem ModbusServer.Stepped.wellFormed {server next : ModbusServer}
    {id : ConnectionId} {event : Option ServerEvent}
    (stepped : server.Stepped id event next)
    (wellFormed : server.store.WellFormed) : next.store.WellFormed := by
  cases stepped with
  | answered found stage buffer built =>
      exact (buildResponse_wellFormed wellFormed built).1
  | _ => exact wellFormed

theorem wellFormed_of_reachable {store : RegisterStore}
    (wellFormed : store.WellFormed) {server : ModbusServer}
    (reached : (serverMachine store).Reachable server) :
    server.store.WellFormed := by
  apply reached.invariant (fun state => state.store.WellFormed) wellFormed
  intro state action next held step
  obtain ⟨id, stepped⟩ := ModbusServer.stepped_of_step step
  exact stepped.wellFormed held

/-- A connection that has sent these requests, in pieces of any size, has
been written the replies of as many exchanges, once its call waits for more.
The pieces and the other connections do not matter. -/
theorem session_exchanges {store : RegisterStore} (transport : Transport)
    (wellFormed : store.WellFormed) {server later : ModbusServer}
    {id : ConnectionId} {connection current : Connection}
    {actions : List ServerAction}
    (reached : (serverMachine store).Reachable server)
    (found : server.connections id = some connection)
    (accepted : connection.stage = .header)
    (ran : (serverMachine store).runFrom server actions = some later)
    (foundLater : later.connections id = some current)
    (serves : current.stage.Serves)
    (blocked : later.step (.resume id) = none) {transaction : UInt16}
    {requests : List ModbusRequest} {frames : List (List UInt8)}
    (encoded : encodeAll transaction requests = some frames)
    (sent : connection.buffer ++ receivedBy id
      ((serverMachine store).historyFrom ModbusServer.event server actions) =
        frames.flatten) :
    ∃ answer, current.written = connection.written ++ answer ∧
      (Simulation.exchangeAll transport
          { store := server.store, transaction } requests).1 =
        decodeAll transport transaction requests
          (modbusFraming.frames answer) ∧
      (Simulation.exchangeAll transport
          { store := server.store, transaction } requests).2.store =
        later.store := by
  obtain ⟨served, responses, unserved, split, ran, written, finished⟩ :=
    session_served reached found accepted ran foundLater serves
  rw [sent, Framing.frames_flatten (encodeAll_isWhole encoded),
    finished blocked, List.append_nil] at split
  refine ⟨responses.flatten, written, ?_⟩
  rw [Framing.frames_flatten (serveAll_isWhole
    (wellFormed_of_reachable wellFormed reached) ran)]
  exact exchangeAll_of_serveAll transport encoded (split ▸ ran)

theorem session_exchanges_in_pieces :
    ∃ server later answer,
      (serverMachine .init).runFrom server readInPieces = some later ∧
        answeredConnection.written =
          acceptedConnection.written ++ answer ∧
        (Simulation.exchangeAll Simulation.plainTransport
            { store := server.store, transaction := 1 }
            [.readRegisters .holding 1 2 1]).1 =
          decodeAll Simulation.plainTransport 1 [.readRegisters .holding 1 2 1]
            (modbusFraming.frames answer) ∧
        (Simulation.exchangeAll Simulation.plainTransport
            { store := server.store, transaction := 1 }
            [.readRegisters .holding 1 2 1]).2.store = later.store := by
  obtain ⟨server, later, ran, ranLater, found, foundLater⟩ :=
    readInPieces_ran
  have waits : (((serverMachine .init).run acceptance).bind fun start =>
      (serverMachine .init).runFrom start readInPieces).map
        (fun reached => (reached.step (.resume 0)).isNone) =
      some true := rfl
  have arrives : ((serverMachine .init).run acceptance).map (fun start =>
      receivedBy 0 ((serverMachine .init).historyFrom ModbusServer.event
        start readInPieces)) =
      some [0, 1, 0, 0, 0, 6, 1, 3, 0, 1, 0, 2] := rfl
  rw [ran, Option.bind_some, ranLater] at waits
  rw [ran] at arrives
  obtain ⟨answer, held⟩ := session_exchanges Simulation.plainTransport
    RegisterStore.init_wellFormed ⟨acceptance, ran⟩ found rfl ranLater
    foundLater trivial
    (Option.isNone_iff_eq_none.mp (Option.some.inj waits))
    (show encodeAll 1 [.readRegisters .holding 1 2 1] =
      some [[0, 1, 0, 0, 0, 6, 1, 3, 0, 1, 0, 2]] from rfl)
    (Option.some.inj arrives)
  exact ⟨server, later, answer, ranLater, held⟩

end Airfi
