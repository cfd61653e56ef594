import BoxDoubao.Lib.PyBytes
import BoxDoubao.Protocol.RoundTrip

/-!
# `parse_response` of the Python demo

The Python client decodes the same messages as the firmware by slicing: it
reads a field from the front of `payload` and re-bases `payload` behind it.
The optional event is the exception. It is read from the same four bytes as
the optional sequence number, since `payload` is re-based only after both.

`parseResponse_agrees_iff` says on which messages the two decoders agree.

`gzip.decompress`, `json.loads` and the UTF-8 codec are parameters.
-/

namespace BoxDoubao

open CMemory PyBytes

/-- The library calls of `parse_response`; `none` stands for an exception. -/
structure PyLib (J : Type) where
  gunzip : Bytes → Option Bytes
  utf8 : Bytes → Option String
  loads : String → Option J

/-- `payload_msg`. -/
inductive PyPayload (J : Type) where
  | bytes (b : Bytes)
  | text (s : String)
  | json (j : J)

/-- The dictionary `parse_response` returns; `none` where a key is missing.
`sessionId` is the value `str` is applied to. -/
structure PyResult (J : Type) where
  messageType : Option String
  seq : Option ℕ
  event : Option ℕ
  sessionId : Option Bytes
  code : Option ℕ
  payloadMsg : Option (PyPayload J)
  payloadSize : Option ℕ

namespace PyDemo

variable {J : Type}

/-- `{}`. -/
def empty : PyResult J := ⟨none, none, none, none, none, none, none⟩

def msgWithEvent : UInt8 := 0b0100
def negSequence : UInt8 := 0b0010
def serverFullResponse : UInt8 := 0b1001
def serverAck : UInt8 := 0b1011
def serverErrorResponse : UInt8 := 0b1111
def jsonFormat : UInt8 := 0b0001
def noSerialization : UInt8 := 0b0000
def gzip : UInt8 := 0b0001

/-- `result['message_type']` of a full response or an ack. -/
def typeName (messageType : UInt8) : String :=
  if messageType = serverAck then "SERVER_ACK" else "SERVER_FULL_RESPONSE"

/-- The fields of a full response or an ack; the last two components are
`payload_size` and `payload_msg` before decompression. -/
def responseFields (messageType flags : UInt8) (payload : Bytes) :
    PyResult J × ℕ × Bytes :=
  let seq := if flags &&& negSequence > 0 then some (fromBytes (sliceTo payload 4)) else none
  let start : ℤ := if flags &&& negSequence > 0 then 4 else 0
  -- the slice of the event does not begin at `start`
  let event := if flags &&& msgWithEvent > 0 then some (fromBytes (sliceTo payload 4)) else none
  let start := if flags &&& msgWithEvent > 0 then start + 4 else start
  let payload := sliceFrom payload start
  let sessionIdSize := fromBytesSigned (sliceTo payload 4)
  let sessionId := slice payload 4 (sessionIdSize + 4)
  let payload := sliceFrom payload (4 + sessionIdSize)
  ({ empty with
      messageType := typeName messageType
      seq := seq
      event := event
      sessionId := sessionId },
    fromBytes (sliceTo payload 4), sliceFrom payload 4)

/-- The fields of an error message. -/
def errorFields (payload : Bytes) : PyResult J × ℕ × Bytes :=
  ({ empty with code := fromBytes (sliceTo payload 4) },
    fromBytes (slice payload 4 8), sliceFrom payload 8)

/-- A library call that raises when there is no result. -/
def orRaise {α : Type} : Option α → Except PyError α
  | some a => .ok a
  | none => .error .library

/-- `if message_compression == GZIP: ...`. -/
def decompress (lib : PyLib J) (messageCompression : UInt8) (payloadMsg : Bytes) :
    Except PyError Bytes :=
  if messageCompression = gzip then orRaise (lib.gunzip payloadMsg) else .ok payloadMsg

/-- `if serialization_method == JSON: ...`. -/
def deserialize (lib : PyLib J) (serializationMethod : UInt8) (payloadMsg : Bytes) :
    Except PyError (PyPayload J) :=
  if serializationMethod = jsonFormat then do
    let s ← orRaise (lib.utf8 payloadMsg)
    let j ← orRaise (lib.loads s)
    return .json j
  else if serializationMethod ≠ noSerialization then do
    let s ← orRaise (lib.utf8 payloadMsg)
    return .text s
  else return .bytes payloadMsg

/-- The end of `parse_response`. -/
def finish (lib : PyLib J) (serializationMethod messageCompression : UInt8) :
    PyResult J × ℕ × Bytes → Except PyError (PyResult J)
  | (result, payloadSize, payloadMsg) => do
    let payloadMsg ← decompress lib messageCompression payloadMsg
    let payloadMsg ← deserialize lib serializationMethod payloadMsg
    return { result with payloadMsg := some payloadMsg, payloadSize := some payloadSize }

/-- `parse_response`, on a text frame or a binary one. -/
def parseResponse (lib : PyLib J) : String ⊕ Bytes → Except PyError (PyResult J)
  | .inl _ => .ok empty
  | .inr res => do
    let b0 ← index res 0
    let b1 ← index res 1
    let b2 ← index res 2
    let _reserved ← index res 3
    let headerSize := b0 &&& 0x0f
    let messageType := b1 >>> 4
    let flags := b1 &&& 0x0f
    let payload := sliceFrom res (headerSize.toNat * 4)
    if messageType = serverFullResponse ∨ messageType = serverAck then
      finish lib (b2 >>> 4) (b2 &&& 0x0f) (responseFields messageType flags payload)
    else if messageType = serverErrorResponse then
      finish lib (b2 >>> 4) (b2 &&& 0x0f) (errorFields payload)
    else return empty

/-! ### The decoder on an encoding -/

theorem nibble_and_negSequence_pos : ∀ n : Fin 16,
    nibble n &&& negSequence > 0 ↔ n.val.testBit 1 = true := by
  decide +kernel

theorem nibble_and_msgWithEvent_pos : ∀ n : Fin 16,
    nibble n &&& msgWithEvent > 0 ↔ n.val.testBit 2 = true := by
  decide +kernel

/-- Four bytes that are there or not, with `rest` behind them. -/
def optional (present : Bool) (v : UInt32) : Bytes := if present then beBytes v else []

/-- The two optional fields: the event is read from the first four bytes. -/
theorem optionalFields (hasSeq hasEvent : Bool) (seq event : UInt32) (rest : Bytes) :
    (if hasSeq then some (fromBytes (sliceTo (optional hasSeq seq ++
        (optional hasEvent event ++ rest)) 4)) else none) =
      (if hasSeq then some seq.toNat else none) ∧
    (if hasEvent then some (fromBytes (sliceTo (optional hasSeq seq ++
        (optional hasEvent event ++ rest)) 4)) else none) =
      (if hasEvent then some (if hasSeq then seq else event).toNat else none) ∧
    sliceFrom (optional hasSeq seq ++ (optional hasEvent event ++ rest))
      (if hasEvent then (if hasSeq then (4 : ℤ) else 0) + 4 else if hasSeq then 4 else 0) =
        rest := by
  have hto : ∀ (v : UInt32) (rest : Bytes),
      fromBytes (sliceTo (beBytes v ++ rest) 4) = v.toNat := by
    intro v rest
    rw [sliceTo_append _ _ (by rw [length_beBytes]; rfl), fromBytes_beBytes]
  cases hasSeq with
  | true =>
    cases hasEvent with
    | true =>
      -- both are read from the sequence number, and both are skipped
      refine ⟨congrArg some (hto _ _), congrArg some (hto _ _), ?_⟩
      show sliceFrom (beBytes seq ++ (beBytes event ++ rest)) 8 = rest
      rw [← List.append_assoc, sliceFrom_append]
      rfl
    | false => exact ⟨congrArg some (hto _ _), rfl, sliceFrom_append _ _ rfl⟩
  | false =>
    cases hasEvent with
    | true =>
      refine ⟨rfl, congrArg some (hto _ _), ?_⟩
      show sliceFrom (beBytes event ++ rest) 4 = rest
      exact sliceFrom_append _ _ rfl
    | false => exact ⟨rfl, rfl, sliceFrom_append [] _ rfl⟩

/-- The session id and the payload. -/
theorem countedFields (sid bytes : Bytes) (hsid : sid.length < 2147483648) :
    let payload := ServerMessage.counted sid ++ ServerMessage.counted bytes
    let sessionIdSize := fromBytesSigned (sliceTo payload 4)
    slice payload 4 (sessionIdSize + 4) = sid ∧
      sliceFrom payload (4 + sessionIdSize) = ServerMessage.counted bytes := by
  intro payload sessionIdSize
  have hn : (UInt32.ofNat sid.length).toNat = sid.length :=
    UInt32.toNat_ofNat_of_lt' (lt_of_lt_of_le hsid (by decide))
  have hpayload : payload = beBytes (UInt32.ofNat sid.length) ++
      (sid ++ ServerMessage.counted bytes) := List.append_assoc _ _ _
  -- the size is read as signed, which a length below 2^31 survives
  have hsize : sessionIdSize = sid.length := by
    show fromBytesSigned (sliceTo payload 4) = sid.length
    rw [hpayload, sliceTo_append _ _ (by rw [length_beBytes]; rfl),
      fromBytesSigned_beBytes (by rw [hn]; exact hsid), hn]
  rw [hsize]
  constructor
  · rw [hpayload]
    exact slice_append _ _ _ (by rw [length_beBytes]; rfl)
      (by rw [length_beBytes, Nat.cast_add, Int.add_comm]; rfl)
  · rw [hpayload, ← List.append_assoc]
    refine sliceFrom_append _ _ ?_
    rw [List.length_append, length_beBytes, Nat.cast_add]
    rfl

/-- What the Python decoder returns for a message. When both optional fields
are there, its event is the sequence number. -/
def resultOf (m : ServerMessage) (seq event : UInt32) (sid bytes : Bytes) : PyResult J where
  messageType := typeName (nibble m.body.messageType)
  seq := if m.hasSeq then some seq.toNat else none
  event := if m.hasEvent then some (if m.hasSeq then seq else event).toNat else none
  sessionId := some sid
  code := none
  payloadMsg := some (.bytes bytes)
  payloadSize := some bytes.length

theorem responseFields_encodeBody (m : ServerMessage) {ack : Bool} {seq event : UInt32}
    {sid bytes : Bytes} (hbody : m.body = .response ack seq event sid bytes)
    (hsid : sid.length < 2147483648) (hlen : bytes.length < 4294967296) :
    ∃ result : PyResult J,
      responseFields (nibble m.body.messageType) (nibble m.flags) m.encodeBody =
        (result, bytes.length, bytes) ∧
      { result with payloadMsg := some (.bytes bytes), payloadSize := some bytes.length } =
        (resultOf m seq event sid bytes : PyResult J) := by
  have hfields : m.encodeBody = optional m.hasSeq seq ++ (optional m.hasEvent event ++
      (ServerMessage.counted sid ++ ServerMessage.counted bytes)) := by
    rw [ServerMessage.encodeBody, hbody]
    rfl
  obtain ⟨hseq, hevent, hrest⟩ := optionalFields m.hasSeq m.hasEvent seq event
    (ServerMessage.counted sid ++ ServerMessage.counted bytes)
  obtain ⟨hsession, hdata⟩ := countedFields sid bytes hsid
  have hsize : fromBytes (sliceTo (ServerMessage.counted bytes) 4) = bytes.length := by
    rw [ServerMessage.counted, sliceTo_append _ _ (by rw [length_beBytes]; rfl),
      fromBytes_beBytes, UInt32.toNat_ofNat_of_lt' hlen]
  have hmsg : sliceFrom (ServerMessage.counted bytes) 4 = bytes := sliceFrom_append _ _ rfl
  refine ⟨⟨_, _, _, _, none, none, none⟩, ?_, rfl⟩
  unfold responseFields
  simp only [nibble_and_negSequence_pos, nibble_and_msgWithEvent_pos]
  rw [hfields, show m.flags.val.testBit 1 = m.hasSeq from rfl,
    show m.flags.val.testBit 2 = m.hasEvent from rfl, hrest, hseq, hevent, hsession, hdata,
    hsize, hmsg]
  rfl

theorem parseResponse_encode (lib : PyLib J) (m : ServerMessage) {ack : Bool}
    {seq event : UInt32} {sid bytes : Bytes} (hbody : m.body = .response ack seq event sid bytes)
    (hserial : m.serial = 0) (hgzip : nibble m.compression ≠ compressGzip)
    (hsid : sid.length < 2147483648) (hlen : bytes.length < 4294967296) :
    parseResponse lib (.inr m.encode) = .ok (resultOf m seq event sid bytes) := by
  have hpayload : sliceFrom m.encode ((nibble m.headerSize).toNat * 4) = m.encodeBody := by
    have hpos := m.headerSize_pos
    refine sliceFrom_append ([_, _, _, _] ++ m.extension) m.encodeBody ?_
    rw [nibble_toNat, List.length_append, m.length_extension]
    simp only [List.length_cons, List.length_nil]
    omega
  have htype : nibble m.body.messageType = serverFullResponse ∨
      nibble m.body.messageType = serverAck := by
    rw [hbody]
    exact nibble_messageType_response ack seq event sid bytes
  show (if nibbles m.body.messageType m.flags >>> 4 = serverFullResponse ∨
      nibbles m.body.messageType m.flags >>> 4 = serverAck then
    finish lib (nibbles m.serial m.compression >>> 4) (nibbles m.serial m.compression &&& 0x0f)
      (responseFields (nibbles m.body.messageType m.flags >>> 4)
        (nibbles m.body.messageType m.flags &&& 0x0f)
        (sliceFrom m.encode ((nibbles m.version m.headerSize &&& 0x0f).toNat * 4))) else _) = _
  obtain ⟨result, hfields, hresult⟩ := responseFields_encodeBody (J := J) m hbody hsid hlen
  rw [nibbles_shiftRight, nibbles_shiftRight, nibbles_and, nibbles_and, nibbles_and, if_pos htype,
    hpayload, hfields, hserial]
  -- neither decompressed nor deserialized
  have hbytes : decompress lib (nibble m.compression) bytes = .ok bytes := if_neg hgzip
  unfold finish
  simp only [hbytes]
  exact congrArg Except.ok hresult

end PyDemo

/-! ### Both decoders -/

/-- The two decoders report the same: sequence number, event as an unsigned
value, payload size, payload bytes, and the session id as far as the C array
holds it. -/
structure DecodersAgree {J : Type} (r : ParsedResponse) (p : PyResult J) : Prop where
  seq : p.seq = if r.hasSeq then some r.seq.toNat else none
  event : p.event = if r.hasEvent then some r.event.toUInt32.toNat else none
  payloadSize : p.payloadSize = some r.payloadSize.toNat
  payload : p.payloadMsg = some (.bytes (r.payloadData.getD []))
  sessionId : ∃ sid, p.sessionId = some sid ∧ r.sessionId = CArray.ofBytes 128 (sid.take 127)

/-- The event of the C decoder, read as unsigned, is the event of the
message. -/
theorem decoded_event (m : ServerMessage) {ack : Bool} {seq event : UInt32} {sid bytes : Bytes}
    (hbody : m.body = .response ack seq event sid bytes) (h : m.hasEvent = true) :
    m.decoded.event.toUInt32 = event := by
  unfold ServerMessage.decoded
  rw [hbody]
  show (if m.hasEvent then event.toInt32 else -1).toUInt32 = event
  rw [if_pos h]
  exact UInt32.toUInt32_toInt32 event

/-- **The two decoders agree** on a full response or an ack that is neither
compressed nor serialized if and only if it does not carry both optional
fields, or carries the same number in both. -/
theorem parseResponse_agrees_iff {J : Type} (lib : PyLib J) (tinfl : Tinfl) (heap : Heap)
    (hheap : heap.Generous) (m : ServerMessage) (ack : Bool) (seq event : UInt32)
    (sid bytes : Bytes) (hbody : m.body = .response ack seq event sid bytes)
    (hserial : m.serial = 0) (hgzip : nibble m.compression ≠ compressGzip)
    (hsid : sid.length < 2147483648) (hlen : m.encode.length < 4294967296) :
    (∃ r p, (protocolParseResponse tinfl heap m.encode).1 = .ok r ∧
        PyDemo.parseResponse lib (.inr m.encode) = .ok p ∧ DecodersAgree r p) ↔
      (m.hasSeq = true → m.hasEvent = true → seq = event) := by
  have hbytes : bytes.length < 4294967296 := by
    have hcount : m.encodeBody.length ≤ m.encode.length := by
      rw [(drop_header_encode m).2]
      omega
    rw [ServerMessage.encodeBody, hbody] at hcount
    simp only [List.length_append, length_counted] at hcount
    omega
  have hC := protocolParseResponse_response tinfl hheap m hbody hgzip hsid hlen
  have hPy := PyDemo.parseResponse_encode lib m hbody hserial hgzip hsid hbytes
  have hevent := decoded_event m hbody
  have hdecoded : m.decoded.hasEvent = m.hasEvent := by
    unfold ServerMessage.decoded
    rw [hbody]
  constructor
  · rintro ⟨r, p, hr, hp, hagree⟩ hs he
    obtain rfl : m.decoded = r := Except.ok.inj (hC.symm.trans hr)
    obtain rfl : PyDemo.resultOf m seq event sid bytes = p := Except.ok.inj (hPy.symm.trans hp)
    -- with both fields there, Python's event is the sequence number
    have heq := hagree.event
    rw [hdecoded, if_pos he, hevent he] at heq
    simp only [PyDemo.resultOf, if_pos he, if_pos hs] at heq
    exact UInt32.toNat_inj.mp (Option.some.inj heq)
  · intro hcond
    -- the other fields agree in any case
    have hsame : (if m.hasEvent then some (if m.hasSeq then seq else event).toNat else none) =
        if m.hasEvent then some m.decoded.event.toUInt32.toNat else none := by
      by_cases he : m.hasEvent = true
      · rw [if_pos he, if_pos he, hevent he]
        by_cases hs : m.hasSeq = true
        · rw [if_pos hs, hcond hs he]
        · rw [if_neg hs]
      · rw [if_neg he, if_neg he]
    refine ⟨_, _, hC, hPy, ?_⟩
    unfold ServerMessage.decoded at *
    rw [hbody] at *
    refine ⟨?_, hsame, congrArg some (UInt32.toNat_ofNat_of_lt' hbytes).symm, ?_, sid, rfl, rfl⟩
    · show (if m.hasSeq then some seq.toNat else none) =
        if m.hasSeq then some (if m.hasSeq then seq else 0).toNat else none
      cases m.hasSeq <;> rfl
    · -- `NULL` is the empty payload
      show some (PyPayload.bytes bytes) =
        some (.bytes ((if bytes = [] then none else some bytes).getD []))
      by_cases hnil : bytes = []
      · rw [if_pos hnil, hnil]
        rfl
      · rw [if_neg hnil]
        rfl

/-- A library whose calls always raise. -/
def raisingLib : PyLib Unit := ⟨fun _ => none, fun _ => none, fun _ => none⟩

/-- A full response that carries sequence number 1 and event 352. -/
def seqAndEvent : ServerMessage where
  version := 1
  headerSize := 1
  headerSize_pos := ServerMessage.oneWord_pos
  flags := 6
  serial := 0
  compression := 0
  reserved := 0
  extension := []
  length_extension := ServerMessage.length_oneWord
  body := .response false 1 352 [97] [1, 2, 3]

/-- The firmware reads event 352, the Python client event 1. -/
theorem seqAndEvent_disagree :
    seqAndEvent.encode = [17, 150, 0, 0, 0, 0, 0, 1, 0, 0, 1, 96, 0, 0, 0, 1, 97, 0, 0, 0, 3,
        1, 2, 3] ∧
      ((protocolParseResponse (fun _ _ _ => none) Heap.unlimited seqAndEvent.encode).1.map
        fun r => r.event) = .ok 352 ∧
      ((PyDemo.parseResponse raisingLib (.inr seqAndEvent.encode)).map fun p => p.event) =
        .ok (some 1) ∧
      ¬ ∃ r p,
        (protocolParseResponse (fun _ _ _ => none) Heap.unlimited seqAndEvent.encode).1 = .ok r ∧
        PyDemo.parseResponse raisingLib (.inr seqAndEvent.encode) = .ok p ∧
        DecodersAgree r p := by
  have hC : ((protocolParseResponse (fun _ _ _ => none) Heap.unlimited seqAndEvent.encode).1.map
      fun r => (r.hasEvent, r.event)) = .ok (true, 352) := by decide +kernel
  have hPy : ((PyDemo.parseResponse raisingLib (.inr seqAndEvent.encode)).map fun p => p.event) =
      .ok (some 1) := by decide +kernel
  refine ⟨by decide +kernel, by decide +kernel, hPy, ?_⟩
  rintro ⟨r, p, hr, hp, hagree⟩
  rw [hr] at hC
  rw [hp] at hPy
  obtain ⟨hhas, hevent⟩ := Prod.mk.inj (Except.ok.inj hC)
  have hone : p.event = some 1 := Except.ok.inj hPy
  have heq := hagree.event
  rw [hhas, if_pos rfl, hevent, hone] at heq
  exact absurd heq (by decide)

/-- The two decoders on an ack with an event and no sequence number. -/
theorem parseResponse_agrees_sampleAck :
    ∃ r p,
      (protocolParseResponse (fun _ _ _ => none) Heap.unlimited sampleAck.encode).1 = .ok r ∧
      PyDemo.parseResponse raisingLib (.inr sampleAck.encode) = .ok p ∧ DecodersAgree r p :=
  (parseResponse_agrees_iff raisingLib (fun _ _ _ => none) Heap.unlimited Heap.generous_unlimited
    sampleAck true 0 352 [97, 98] [1, 2, 3] rfl rfl (by decide) (by decide)
    (by decide)).mpr nofun

end BoxDoubao
