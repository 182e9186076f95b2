import Airfi.Simulator.Server

/-!
# Modbus TCP frames

What the Modbus library puts on the wire for a request and what it reads out
of a response, and the frames that `build_response` answers with.
-/

namespace Airfi

open Packing

def RegisterTable.readFunction : RegisterTable → Nat
  | .input => readInputFunction
  | .holding => readHoldingFunction

def ModbusRequest.functionCode : ModbusRequest → Nat
  | .readRegisters table .. => table.readFunction
  | .writeRegister .. => writeSingleFunction

def ModbusRequest.unit : ModbusRequest → Nat
  | .readRegisters _ _ _ deviceId => deviceId
  | .writeRegister _ _ deviceId => deviceId

/-- The two words after the function code. -/
def ModbusRequest.words : ModbusRequest → List Nat
  | .readRegisters _ address count _ => [address, count]
  | .writeRegister address value _ => [address, value]

/-- The texts and exceptions of the Modbus library that the frames do not
determine. -/
structure Transport where
  exceptionText : (function code : Nat) → String
  /-- Raised for a request with a value that has no place in its frame. -/
  unencodable : ModbusRequest → PyError
  /-- Raised when no response to the request arrives. -/
  unanswered : ModbusRequest → PyError

/-- The frame of a request, `none` where a value does not fit. -/
def encodeRequest (transaction : UInt16) (request : ModbusRequest) :
    Option (List UInt8) :=
  pack .bigEndian (frameHeader ++ [unsignedShort, unsignedShort])
    ([transaction.toNat, 0, 6, request.unit, request.functionCode] ++
      request.words)

/-- The words of a read response after its byte count. -/
def decodeWords : List UInt8 → Option (List Nat)
  | [] => none
  | byteCount :: words =>
      if byteCount.toNat = words.length then
        unpack .bigEndian (List.replicate (words.length / 2) unsignedShort)
          words
      else none

/-- A response that is no exception, after its function code. -/
def decodeReply (body : List UInt8) : ModbusRequest → Option ModbusReply
  | .readRegisters .. => (decodeWords body).map .registers
  | .writeRegister .. =>
      (unpack .bigEndian [unsignedShort, unsignedShort] body).map
        fun _ => .registers []

/-- A response after its function code. -/
def decodeBody (transport : Transport) (request : ModbusRequest)
    (function : Nat) (body : List UInt8) : Option ModbusReply :=
  if function = request.functionCode ||| 0x80 then
    match unpack .bigEndian [unsignedChar] body with
    | some [code] =>
        some (.errorResponse (transport.exceptionText function code))
    | _ => none
  else if function = request.functionCode then decodeReply body request
  else none

/-- `none` where the frame is no response to the request. -/
def decodeResponse (transport : Transport) (transaction : UInt16)
    (request : ModbusRequest) (response : List UInt8) :
    Option ModbusReply :=
  match unpack .bigEndian frameHeader (response.take 8) with
  | some [echoed, protocol, length, unit, function] =>
      if echoed = transaction.toNat ∧ protocol = 0 ∧
          length + 6 = response.length ∧ unit = request.unit then
        decodeBody transport request function (response.drop 8)
      else none
  | _ => none

/-! ## Request frames -/

/-- Every value of the request has a place in its frame. -/
def ModbusRequest.Encodable (request : ModbusRequest) : Prop :=
  request.unit < 256 ∧ ∀ word ∈ request.words, word < 65536

instance (request : ModbusRequest) : Decidable request.Encodable :=
  inferInstanceAs (Decidable (_ ∧ _))

section Encode

variable {serial : UInt16} {request : ModbusRequest}

theorem ModbusRequest.functionCode_lt : request.functionCode < 128 := by
  cases request with
  | readRegisters table address count deviceId =>
      cases table with
      | input => exact (by decide : readInputFunction < 128)
      | holding => exact (by decide : readHoldingFunction < 128)
  | writeRegister address value deviceId =>
      exact (by decide : writeSingleFunction < 128)

theorem fits_words_iff :
    Fits [unsignedShort, unsignedShort] request.words ↔
      ∀ word ∈ request.words, word < 65536 := by
  cases request <;>
    simp [Fits, ModbusRequest.words, unsignedShort]

theorem fits_header_iff :
    Fits frameHeader
        [serial.toNat, 0, 6, request.unit, request.functionCode] ↔
      request.unit < 256 := by
  have serialFits : serial.toNat < 65536 := serial.toNat_lt
  have codeFits := @ModbusRequest.functionCode_lt request
  constructor
  · intro fits
    cases fits with
    | cons _ fits =>
        cases fits with
        | cons _ fits =>
            cases fits with
            | cons _ fits =>
                cases fits with
                | cons unitFits _ => exact unitFits
  · intro unitFits
    exact .cons serialFits (.cons (by decide) (.cons (by decide)
      (.cons unitFits (.cons (Nat.lt_trans codeFits (by decide)) .nil))))

/-- An encodable request is its header followed by its two words. -/
theorem encodeRequest_of_encodable (encodable : request.Encodable) :
    ∃ frame, encodeRequest serial request = some frame ∧
      unpack .bigEndian frameHeader (frame.take 8) =
        some [serial.toNat, 0, 6, request.unit, request.functionCode] ∧
      unpack .bigEndian [unsignedShort, unsignedShort]
          ((frame.drop 8).take 4) = some request.words := by
  obtain ⟨header, packedHeader⟩ := @exists_pack .bigEndian _ _
    ((@fits_header_iff serial request).mpr encodable.1)
  obtain ⟨words, packedWords⟩ := @exists_pack .bigEndian _ _
    (fits_words_iff.mpr encodable.2)
  have sizeHeader : header.length = 8 := length_of_pack packedHeader
  have sizeWords : words.length = 4 := length_of_pack packedWords
  refine ⟨header ++ words, pack_append packedHeader packedWords, ?_, ?_⟩
  · rw [List.take_left' sizeHeader]
    exact unpack_of_pack packedHeader
  · rw [List.drop_left' sizeHeader, List.take_of_length_le sizeWords.le]
    exact unpack_of_pack packedWords

theorem encodeRequest_eq_none (unencodable : ¬ request.Encodable) :
    encodeRequest serial request = none := by
  cases encoded : encodeRequest serial request with
  | none => rfl
  | some frame =>
      rw [encodeRequest] at encoded
      have fits := pack_isSome_iff.mp (Option.isSome_of_eq_some encoded)
      have header : Fits frameHeader
          [serial.toNat, 0, 6, request.unit, request.functionCode] :=
        List.forall₂_take 5 fits
      have words : Fits [unsignedShort, unsignedShort] request.words :=
        List.forall₂_drop 5 fits
      exact (unencodable
        ⟨fits_header_iff.mp header, fits_words_iff.mp words⟩).elim

end Encode

/-! ## Response frames -/

/-- A frame with this header and the body after the function code. -/
def IsFrame (transaction unit function : Nat) (body frame : List UInt8) :
    Prop :=
  ∃ header,
    pack .bigEndian frameHeader
        [transaction, 0, body.length + 2, unit, function] = some header ∧
      frame = header ++ body

section Frame

variable {transaction unit function : Nat} {body frame : List UInt8}

theorem IsFrame.length_eq
    (isFrame : IsFrame transaction unit function body frame) :
    frame.length = body.length + 8 := by
  obtain ⟨header, packed, rfl⟩ := isFrame
  have size : header.length = 8 := length_of_pack packed
  rw [List.length_append, size, Nat.add_comm]

theorem IsFrame.unpack_take
    (isFrame : IsFrame transaction unit function body frame) :
    unpack .bigEndian frameHeader (frame.take 8) =
      some [transaction, 0, body.length + 2, unit, function] := by
  obtain ⟨header, packed, rfl⟩ := isFrame
  have size : header.length = 8 := length_of_pack packed
  rw [List.take_left' size]
  exact unpack_of_pack packed

theorem IsFrame.drop_eq
    (isFrame : IsFrame transaction unit function body frame) :
    frame.drop 8 = body := by
  obtain ⟨header, packed, rfl⟩ := isFrame
  exact List.drop_left' (length_of_pack packed)

theorem pack_unsignedChar {value : Nat} (fits : value < 256) :
    pack .bigEndian [unsignedChar] [value] = some [UInt8.ofNat value] := by
  have inField : value < 256 ^ unsignedChar := fits
  rw [pack, if_pos inField]
  rfl

theorem structPack_of_pack {fields values : List Nat} {bytes : List UInt8}
    (packed : pack .bigEndian fields values = some bytes) :
    structPack fields values = .ok bytes := by
  rw [structPack, packed]

theorem responseFrame_isFrame (transactionFits : transaction < 65536)
    (unitFits : unit < 256) (functionFits : function < 256)
    (short : body.length + 2 < 65536) :
    ∃ response,
      responseFrame transaction unit (UInt8.ofNat function :: body) =
          .ok response ∧
        IsFrame transaction unit function body response := by
  obtain ⟨header, packed⟩ :=
    @exists_pack .bigEndian
      [unsignedShort, unsignedShort, unsignedShort, unsignedChar]
      [transaction, 0, body.length + 2, unit]
      (.cons transactionFits (.cons (by decide) (.cons short
        (.cons unitFits .nil))))
  refine ⟨header ++ UInt8.ofNat function :: body, ?_, ?_⟩
  · rw [responseFrame, List.length_cons, structPack_of_pack packed]
    rfl
  · refine ⟨header ++ [UInt8.ofNat function], ?_, ?_⟩
    · exact pack_append packed (pack_unsignedChar functionFits)
    · rw [List.append_assoc, List.singleton_append]

/-- An exception answers every function code that has a place in a frame. -/
theorem exceptionFrame_isFrame {code : Nat}
    (transactionFits : transaction < 65536) (unitFits : unit < 256)
    (functionFits : function < 256) (codeFits : code < 256) :
    ∃ response,
      exceptionFrame transaction unit function code = .ok response ∧
        IsFrame transaction unit (function ||| 0x80) [UInt8.ofNat code]
          response := by
  have marked : function ||| 0x80 < 256 :=
    Nat.or_lt_two_pow functionFits (by decide : 0x80 < 2 ^ 8)
  have packed : pack .bigEndian [unsignedChar, unsignedChar]
      [function ||| 0x80, code] =
        some (UInt8.ofNat (function ||| 0x80) :: [UInt8.ofNat code]) :=
    pack_append (pack_unsignedChar marked) (pack_unsignedChar codeFits)
  obtain ⟨response, framed, isFrame⟩ := responseFrame_isFrame transactionFits
    unitFits marked (by simp : [UInt8.ofNat code].length + 2 < 65536)
  refine ⟨response, ?_, isFrame⟩
  rw [exceptionFrame, structPack_of_pack packed]
  exact framed

/-- The words are the ones of `values`, after their byte count. -/
def IsReadBody (values : List Nat) (body : List UInt8) : Prop :=
  ∃ words,
    pack .bigEndian (List.replicate values.length unsignedShort) values =
        some words ∧
      body = UInt8.ofNat (values.length * 2) :: words

theorem length_words {values : List Nat} {words : List UInt8}
    (packed : pack .bigEndian
      (List.replicate values.length unsignedShort) values = some words) :
    words.length = values.length * 2 := by
  rw [length_of_pack packed, List.sum_replicate]
  rfl

theorem fits_words {values : List Nat}
    (fits : ∀ value ∈ values, value < 65536) :
    Fits (List.replicate values.length unsignedShort) values := by
  induction values with
  | nil => exact .nil
  | cons value rest ih =>
      refine List.Forall₂.cons (fits value List.mem_cons_self) ?_
      apply ih
      intro other member
      exact fits other (List.mem_cons_of_mem value member)

theorem readFrame_isFrame {values : List Nat}
    (transactionFits : transaction < 65536) (unitFits : unit < 256)
    (functionFits : function < 256)
    (few : values.length ≤ maxRegistersPerRead)
    (fits : ∀ value ∈ values, value < 65536) :
    ∃ head words response body,
      structPack [unsignedChar, unsignedChar]
          [function, values.length * 2] = .ok head ∧
        structPack (List.replicate values.length unsignedShort) values =
          .ok words ∧
        responseFrame transaction unit (head ++ words) = .ok response ∧
        IsFrame transaction unit function body response ∧
        IsReadBody values body := by
  obtain ⟨words, packedWords⟩ :=
    @exists_pack .bigEndian _ _ (fits_words fits)
  have size := length_words packedWords
  rw [maxRegistersPerRead] at few
  have byteCount : values.length * 2 < 256 := by omega
  have packedHead : pack .bigEndian [unsignedChar, unsignedChar]
      [function, values.length * 2] =
        some [UInt8.ofNat function, UInt8.ofNat (values.length * 2)] :=
    pack_append (pack_unsignedChar functionFits)
      (pack_unsignedChar byteCount)
  obtain ⟨response, framed, isFrame⟩ :=
    @responseFrame_isFrame _ _ _ (UInt8.ofNat (values.length * 2) :: words)
      transactionFits unitFits functionFits (by
        rw [List.length_cons, size]
        omega)
  exact ⟨_, words, response, _, structPack_of_pack packedHead,
    structPack_of_pack packedWords, framed, isFrame, words, packedWords, rfl⟩

/-- The echo of a write. -/
def IsEcho (address value : Nat) (body : List UInt8) : Prop :=
  pack .bigEndian [unsignedShort, unsignedShort] [address, value] = some body

theorem echoFrame_isFrame {address value : Nat}
    (transactionFits : transaction < 65536) (unitFits : unit < 256)
    (functionFits : function < 256) (addressFits : address < 65536)
    (valueFits : value < 65536) :
    ∃ pdu response body,
      structPack [unsignedChar, unsignedShort, unsignedShort]
          [function, address, value] = .ok pdu ∧
        responseFrame transaction unit pdu = .ok response ∧
        IsFrame transaction unit function body response ∧
        IsEcho address value body := by
  obtain ⟨body, packed⟩ :=
    @exists_pack .bigEndian [unsignedShort, unsignedShort] [address, value]
      (.cons addressFits (.cons valueFits .nil))
  have size : body.length = 4 := length_of_pack packed
  obtain ⟨response, framed, isFrame⟩ :=
    @responseFrame_isFrame _ _ _ body transactionFits unitFits functionFits
      (by
        rw [size]
        decide)
  exact ⟨_, response, body,
    structPack_of_pack (pack_append (pack_unsignedChar functionFits) packed),
    framed, isFrame, packed⟩

/-! ## Decoding them -/

section Decode

variable {transport : Transport} {request : ModbusRequest}
  {response : List UInt8} {serial : UInt16}

theorem decodeResponse_of_isFrame
    (isFrame : IsFrame serial.toNat request.unit function body response) :
    decodeResponse transport serial request response =
      decodeBody transport request function body := by
  have size : body.length + 2 + 6 = response.length := by
    rw [isFrame.length_eq]
  rw [decodeResponse, isFrame.unpack_take, isFrame.drop_eq]
  exact if_pos ⟨rfl, rfl, size, rfl⟩

theorem decodeBody_exception {code : Nat} (codeFits : code < 256) :
    decodeBody transport request (request.functionCode ||| 0x80)
        [UInt8.ofNat code] =
      some (.errorResponse
        (transport.exceptionText (request.functionCode ||| 0x80) code)) := by
  rw [decodeBody, if_pos rfl, unpack_of_pack (pack_unsignedChar codeFits)]

theorem functionCode_unmarked :
    request.functionCode ≠ request.functionCode ||| 0x80 := by
  have marked : 0x80 ≤ request.functionCode ||| 0x80 := Nat.right_le_or
  have unmarked := @ModbusRequest.functionCode_lt request
  omega

theorem decodeBody_reply :
    decodeBody transport request request.functionCode body =
      decodeReply body request := by
  rw [decodeBody, if_neg functionCode_unmarked, if_pos rfl]

theorem decodeWords_of_isReadBody {values : List Nat}
    (few : values.length ≤ maxRegistersPerRead)
    (isRead : IsReadBody values body) : decodeWords body = some values := by
  obtain ⟨words, packed, rfl⟩ := isRead
  have size := length_words packed
  rw [maxRegistersPerRead] at few
  have byteCount : (UInt8.ofNat (values.length * 2)).toNat =
      words.length := by
    rw [UInt8.toNat_ofNat', size]
    omega
  have half : words.length / 2 = values.length := by omega
  rw [decodeWords, if_pos byteCount, half]
  exact unpack_of_pack packed

end Decode

end Frame

end Airfi
