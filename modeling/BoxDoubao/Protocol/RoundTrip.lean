import BoxDoubao.Protocol.Parse

/-!
# Decoding undoes encoding

The repository documents the server format in the docstring of the Python
client's `parse_response`. `ServerMessage.encode` lays a message out as that
format says, independently of the parser, and `ServerMessage.decoded` is the
record the message should be read back as. The main result is
`protocolParseResponse_encode`: on every encoding the parser returns that
record.

The parser's cursor is followed by `At payload offset rest`: the cursor is
inside the payload and `rest` is what lies ahead. Each field reader has one
lemma that starts at an encoded field followed by `rest` and ends at `rest`;
the theorem composes them.
-/

namespace BoxDoubao

open CMemory

/-! ### The reference format -/

/-- For the literals of type `Fin 16`. -/
instance neZero_sixteen : NeZero 16 := ⟨Nat.succ_ne_zero 15⟩

/-- A byte of two nibbles. -/
def nibbles (hi lo : Fin 16) : UInt8 := UInt8.ofNat (16 * hi.val + lo.val)

/-- A nibble as a byte. -/
def nibble (n : Fin 16) : UInt8 := UInt8.ofNat n.val

/-- What follows the header of a server message. -/
inductive ServerBody where
  /-- `SERVER_FULL_RESPONSE`, or `SERVER_ACK` when `ack` is set. -/
  | response (ack : Bool) (seq event : UInt32) (sessionId payload : Bytes)
  /-- `SERVER_ERROR`. -/
  | error (code : UInt32) (payload : Bytes)

namespace ServerBody

def messageType : ServerBody → Fin 16
  | response false _ _ _ _ => 9
  | response true _ _ _ _ => 11
  | error _ _ => 15

def payload : ServerBody → Bytes
  | response _ _ _ _ payload => payload
  | error _ payload => payload

/-- The session id, empty for an error message, which has none. -/
def sessionId : ServerBody → Bytes
  | response _ _ _ sessionId _ => sessionId
  | error _ _ => []

end ServerBody

/-- A server message: the header nibbles, the extension words and the body. -/
structure ServerMessage where
  version : Fin 16
  headerSize : Fin 16
  headerSize_pos : 1 ≤ headerSize.val
  flags : Fin 16
  serial : Fin 16
  compression : Fin 16
  reserved : UInt8
  extension : Bytes
  length_extension : extension.length = 4 * (headerSize.val - 1)
  body : ServerBody

namespace ServerMessage

/-- The smallest header is one word. -/
theorem oneWord_pos : 1 ≤ (1 : Fin 16).val := Nat.le_refl 1

/-- It has no extension. -/
theorem length_oneWord : ([] : Bytes).length = 4 * ((1 : Fin 16).val - 1) := rfl

variable (m : ServerMessage)

/-- Flag bit 0x02. -/
def hasSeq : Bool := m.flags.val.testBit 1

/-- Flag bit 0x04. -/
def hasEvent : Bool := m.flags.val.testBit 2

/-- A length and the bytes it counts. -/
def counted (bytes : Bytes) : Bytes := beBytes (UInt32.ofNat bytes.length) ++ bytes

def encodeBody : Bytes :=
  match m.body with
  | .response _ seq event sessionId payload =>
    (if m.hasSeq then beBytes seq else []) ++
      ((if m.hasEvent then beBytes event else []) ++
        (counted sessionId ++ counted payload))
  | .error code payload => beBytes code ++ counted payload

/-- The message on the wire. -/
def encode : Bytes :=
  nibbles m.version m.headerSize :: nibbles m.body.messageType m.flags ::
    nibbles m.serial m.compression :: m.reserved :: (m.extension ++ m.encodeBody)

/-- The record the message is to be read back as. The session id is cut to the
127 characters the array holds, and an empty payload is `NULL` and not
binary. -/
def decoded : ParsedResponse :=
  match m.body with
  | .response _ seq event sessionId payload =>
    { messageType := nibble m.body.messageType
      event := if m.hasEvent then event.toInt32 else -1
      hasEvent := m.hasEvent
      seq := if m.hasSeq then seq else 0
      hasSeq := m.hasSeq
      sessionId := CArray.ofBytes 128 (sessionId.take 127)
      payloadSize := UInt32.ofNat payload.length
      payloadData := if payload = [] then none else some payload
      payloadDataLen := payload.length
      isBinary := payload ≠ [] && nibble m.serial == serialNone
      errorCode := 0 }
  | .error code payload =>
    { ParsedResponse.ofType (nibble m.body.messageType) with
      errorCode := code
      payloadSize := UInt32.ofNat payload.length
      payloadData := if payload = [] then none else some payload
      payloadDataLen := payload.length }

end ServerMessage

theorem length_counted (bytes : Bytes) :
    (ServerMessage.counted bytes).length = 4 + bytes.length := by
  rw [ServerMessage.counted, List.length_append, length_beBytes]

/-! ### Nibbles -/

theorem nibbles_and : ∀ hi lo : Fin 16, nibbles hi lo &&& 0x0F = nibble lo := by
  decide +kernel

theorem nibbles_shiftRight : ∀ hi lo : Fin 16, nibbles hi lo >>> 4 = nibble hi := by
  decide +kernel

theorem nibble_toNat : ∀ n : Fin 16, (nibble n).toNat = n.val := by
  decide +kernel

theorem nibble_and_negSequence : ∀ n : Fin 16,
    nibble n &&& flagNegSequence ≠ 0 ↔ n.val.testBit 1 = true := by
  decide +kernel

theorem nibble_and_withEvent : ∀ n : Fin 16,
    nibble n &&& flagMsgWithEvent ≠ 0 ↔ n.val.testBit 2 = true := by
  decide +kernel

theorem nibble_messageType_response (ack : Bool) (seq event : UInt32) (sid bytes : Bytes) :
    nibble (ServerBody.response ack seq event sid bytes).messageType = msgServerFullResponse ∨
      nibble (ServerBody.response ack seq event sid bytes).messageType = msgServerAck := by
  cases ack
  · exact Or.inl rfl
  · exact Or.inr rfl

theorem nibble_messageType_error (code : UInt32) (bytes : Bytes) :
    nibble (ServerBody.error code bytes).messageType = msgServerError := rfl

theorem parseHeader_encode (m : ServerMessage) :
    parseHeader m.encode = .ok
      { headerSize := nibble m.headerSize
        messageType := nibble m.body.messageType
        msgFlags := nibble m.flags
        serialMethod := nibble m.serial
        compression := nibble m.compression } := by
  change Except.ok (Header.mk _ _ _ _ _) = _
  rw [nibbles_and, nibbles_and, nibbles_and, nibbles_shiftRight, nibbles_shiftRight]

/-- The header with its extension words is skipped exactly. -/
theorem drop_header_encode (m : ServerMessage) :
    m.encode.drop (sz ((nibble m.headerSize).toNat * 4)) = m.encodeBody ∧
      m.encode.length = sz ((nibble m.headerSize).toNat * 4) + m.encodeBody.length := by
  have hpos := m.headerSize_pos
  have hext := m.length_extension
  have hlt := m.headerSize.isLt
  have hsz : sz ((nibble m.headerSize).toNat * 4) = m.extension.length + 4 := by
    rw [nibble_toNat, sz_of_lt (by omega)]
    omega
  constructor
  · rw [hsz]
    exact List.drop_left
  · rw [hsz]
    simp only [ServerMessage.encode, List.length_cons, List.length_append]
    omega

/-! ### The cursor -/

/-- The cursor stands inside the payload and `rest` lies ahead of it. -/
structure At (payload : Bytes) (offset : ℕ) (rest : Bytes) : Prop where
  le : offset ≤ payload.length
  drop : payload.drop offset = rest

/-- The record with the sequence number of a message that carries one. -/
def ParsedResponse.setSeq (r : ParsedResponse) (present : Bool) (v : UInt32) :
    ParsedResponse :=
  if present then { r with seq := v, hasSeq := true } else r

/-- The record with the event code of a message that carries one. -/
def ParsedResponse.setEvent (r : ParsedResponse) (present : Bool) (v : UInt32) :
    ParsedResponse :=
  if present then { r with event := v.toInt32, hasEvent := true } else r

theorem ParsedResponse.setEvent_setSeq_ofType (ty : UInt8) (p q : Bool) (v w : UInt32) :
    ((ParsedResponse.ofType ty).setSeq p v).setEvent q w =
      { ParsedResponse.ofType ty with
        event := if q then w.toInt32 else -1
        hasEvent := q
        seq := if p then v else 0
        hasSeq := p } := by
  cases p <;> cases q <;> rfl

section Cursor

variable {payload : Bytes} {offset : ℕ} {rest : Bytes}

theorem At.length (h : At payload offset rest) : payload.length = offset + rest.length := by
  have h1 := congrArg List.length h.drop
  have h2 := h.le
  rw [List.length_drop] at h1
  omega

theorem At.advance {front : Bytes} (h : At payload offset (front ++ rest)) :
    At payload (offset + front.length) rest := by
  have hl := h.length
  rw [List.length_append] at hl
  refine ⟨by omega, ?_⟩
  rw [← List.drop_drop, h.drop, List.drop_left]

theorem takeU32_at {v : UInt32} (h : At payload offset (beBytes v ++ rest))
    (hlen : payload.length < 4294967296) :
    takeU32 payload payload.length offset = .ok (v, offset + 4) ∧
      At payload (offset + 4) rest := by
  have hl := h.length
  rw [List.length_append, length_beBytes] at hl
  refine ⟨?_, h.advance⟩
  unfold takeU32
  rw [sz_of_lt (by omega), if_neg (by omega), loadBe32_of_drop h.drop]
  rfl

theorem takeSeq_at {v : UInt32} {flags : Fin 16} (resp : ParsedResponse)
    (h : At payload offset ((if flags.val.testBit 1 then beBytes v else []) ++ rest))
    (hlen : payload.length < 4294967296) :
    ∃ offset', At payload offset' rest ∧
      takeSeq payload payload.length (nibble flags) resp offset = .ok
        (resp.setSeq (flags.val.testBit 1) v, offset') := by
  unfold takeSeq
  by_cases hb : flags.val.testBit 1 = true
  · rw [if_pos hb] at h
    obtain ⟨htake, hat⟩ := takeU32_at h hlen
    refine ⟨offset + 4, hat, ?_⟩
    rw [if_pos ((nibble_and_negSequence flags).mpr hb), htake, hb]
    rfl
  · rw [if_neg hb] at h
    refine ⟨offset, h, ?_⟩
    rw [if_neg (fun hc => hb ((nibble_and_negSequence flags).mp hc)), eq_false_of_ne_true hb]
    rfl

theorem takeEvent_at {v : UInt32} {flags : Fin 16} (resp : ParsedResponse)
    (h : At payload offset ((if flags.val.testBit 2 then beBytes v else []) ++ rest))
    (hlen : payload.length < 4294967296) :
    ∃ offset', At payload offset' rest ∧
      takeEvent payload payload.length (nibble flags) resp offset = .ok
        (resp.setEvent (flags.val.testBit 2) v, offset') := by
  unfold takeEvent
  by_cases hb : flags.val.testBit 2 = true
  · rw [if_pos hb] at h
    obtain ⟨htake, hat⟩ := takeU32_at h hlen
    refine ⟨offset + 4, hat, ?_⟩
    rw [if_pos ((nibble_and_withEvent flags).mpr hb), htake, hb]
    rfl
  · rw [if_neg hb] at h
    refine ⟨offset, h, ?_⟩
    rw [if_neg (fun hc => hb ((nibble_and_withEvent flags).mp hc)), eq_false_of_ne_true hb]
    rfl

/-- The session id is cut in the record but skipped whole. -/
theorem takeSessionId_at {sid : Bytes} (resp : ParsedResponse)
    (h : At payload offset (ServerMessage.counted sid ++ rest))
    (hlen : payload.length < 4294967296) (hsid : sid.length < 2147483648)
    (hresp : resp.sessionId = CArray.zero 128) :
    ∃ offset', At payload offset' rest ∧
      takeSessionId payload payload.length resp offset = .ok
        ({ resp with sessionId := CArray.ofBytes 128 (sid.take 127) }, offset') := by
  rw [ServerMessage.counted, List.append_assoc] at h
  obtain ⟨htake, hat⟩ := takeU32_at h hlen
  -- the declared length is the length of the id
  have hn : (UInt32.ofNat sid.length).toNat = sid.length :=
    UInt32.toNat_ofNat_of_lt' (lt_of_lt_of_le hsid (by decide))
  refine ⟨offset + 4 + sid.length, hat.advance, ?_⟩
  unfold takeSessionId
  rw [htake]
  change (if 0 < (UInt32.ofNat sid.length).toInt32 then _ else _) = _
  by_cases hpos : 0 < sid.length
  · have hl := hat.length
    rw [List.length_append] at hl
    rw [if_pos ((toInt32_pos_iff _).mpr ⟨by omega, by omega⟩), UInt32.toUInt32_toInt32, hn,
      sz_of_lt (by omega), if_neg (by omega)]
    -- at most 127 bytes are copied, and a terminator
    have hmin : (if sid.length < 128 - 1 then sid.length else 128 - 1) = min 127 sid.length := by
      split <;> omega
    have hload : loadRange payload (offset + 4) (min 127 sid.length) = .ok (sid.take 127) := by
      rw [loadRange_of_drop hat.le hat.drop (by omega)]
      exact congrArg Except.ok List.take_eq_take_min.symm
    have hcopy : (do let a ← resp.sessionId.memcpy 0 (sid.take 127)
                     a.memcpy (sid.take 127).length [0])
        = .ok (CArray.ofBytes 128 (sid.take 127)) := by
      rw [hresp]
      exact CArray.memcpy_zero_terminate (by rw [List.length_take]; omega)
    simp only [hmin, hload]
    change (do let s ← (do let a ← resp.sessionId.memcpy 0 (sid.take 127)
                           a.memcpy (sid.take 127).length [0])
               Except.ok ({ resp with sessionId := s }, offset + 4 + sid.length)) = _
    rw [hcopy]
    rfl
  · -- an empty id leaves the cleared array, which is the empty string
    obtain rfl : sid = [] := List.eq_nil_of_length_eq_zero (by omega)
    rw [if_neg (by decide)]
    have hzero : ({ resp with sessionId := CArray.ofBytes 128 ([].take 127) } : ParsedResponse)
        = resp := by
      rw [show CArray.ofBytes 128 ([].take 127) = CArray.zero 128 by decide, ← hresp]
    rw [hzero]
    rfl

/-- The payload size is read and the cursor stops at the payload. -/
theorem takePayloadSize_at {bytes : Bytes} (resp : ParsedResponse)
    (h : At payload offset (ServerMessage.counted bytes))
    (hlen : payload.length < 4294967296) :
    ∃ offset', At payload offset' bytes ∧
      takePayloadSize payload payload.length resp offset = .ok
        ({ resp with payloadSize := UInt32.ofNat bytes.length }, offset') := by
  obtain ⟨htake, hat⟩ := takeU32_at h hlen
  refine ⟨offset + 4, hat, ?_⟩
  unfold takePayloadSize
  rw [htake]
  rfl

end Cursor

/-! ### The parser on an encoding -/

/-- All fields before the payload bytes are read back. -/
theorem takeFields_encodeBody (m : ServerMessage) {ack : Bool} {seq event : UInt32}
    {sid bytes : Bytes} (hbody : m.body = .response ack seq event sid bytes)
    (hlen : m.encodeBody.length < 4294967296) (hsid : sid.length < 2147483648)
    (ty : UInt8) :
    ∃ offset, At m.encodeBody offset bytes ∧
      takeFields m.encodeBody m.encodeBody.length (nibble m.flags)
          (ParsedResponse.ofType ty) = .ok
        ({ ParsedResponse.ofType ty with
            event := if m.hasEvent then event.toInt32 else -1
            hasEvent := m.hasEvent
            seq := if m.hasSeq then seq else 0
            hasSeq := m.hasSeq
            sessionId := CArray.ofBytes 128 (sid.take 127)
            payloadSize := UInt32.ofNat bytes.length }, offset) := by
  have h0 : At m.encodeBody 0 ((if m.flags.val.testBit 1 then beBytes seq else []) ++
      ((if m.flags.val.testBit 2 then beBytes event else []) ++
        (ServerMessage.counted sid ++ ServerMessage.counted bytes))) := by
    refine ⟨Nat.zero_le _, ?_⟩
    rw [List.drop_zero, ServerMessage.encodeBody, hbody]
    rfl
  obtain ⟨o₁, h₁, hseq⟩ := takeSeq_at (ParsedResponse.ofType ty) h0 hlen
  obtain ⟨o₂, h₂, hevent⟩ := takeEvent_at
    ((ParsedResponse.ofType ty).setSeq (m.flags.val.testBit 1) seq) h₁ hlen
  rw [ParsedResponse.setEvent_setSeq_ofType] at hevent
  obtain ⟨o₃, h₃, hsess⟩ := takeSessionId_at
    { ParsedResponse.ofType ty with
      event := if m.hasEvent then event.toInt32 else -1
      hasEvent := m.hasEvent
      seq := if m.hasSeq then seq else 0
      hasSeq := m.hasSeq } h₂ hlen hsid rfl
  obtain ⟨o₄, h₄, hsize⟩ := takePayloadSize_at
    { ParsedResponse.ofType ty with
      event := if m.hasEvent then event.toInt32 else -1
      hasEvent := m.hasEvent
      seq := if m.hasSeq then seq else 0
      hasSeq := m.hasSeq
      sessionId := CArray.ofBytes 128 (sid.take 127) } h₃ hlen
  refine ⟨o₄, h₄, ?_⟩
  -- the four readers in a row
  unfold takeFields
  refine (bind_ok hseq).trans ?_
  refine (bind_ok hevent).trans ?_
  exact (bind_ok hsess).trans hsize

/-- The payload bytes ahead of the cursor are the payload buffer. -/
theorem copyPayload_at {heap : Heap} (hheap : heap.Generous) {payload bytes : Bytes}
    {offset : ℕ} (h : At payload offset bytes) :
    (copyPayload heap (payload.drop offset) bytes.length).1 = .ok bytes := by
  unfold copyPayload
  rw [hheap.mallocFallback, h.drop]
  change loadRange bytes 0 bytes.length = _
  exact loadRange_self bytes

/-- A full response or an ack is read back. -/
theorem parseServerResponse_encodeBody (tinfl : Tinfl) {heap : Heap} (hheap : heap.Generous)
    (m : ServerMessage) {ack : Bool} {seq event : UInt32} {sid bytes : Bytes}
    (hbody : m.body = .response ack seq event sid bytes)
    (hgzip : nibble m.compression ≠ compressGzip)
    (hlen : m.encodeBody.length < 4294967296) (hsid : sid.length < 2147483648)
    (hd : Header) (hflags : hd.msgFlags = nibble m.flags)
    (hserial : hd.serialMethod = nibble m.serial)
    (hcomp : hd.compression = nibble m.compression) :
    (parseServerResponse tinfl heap hd m.encodeBody m.encodeBody.length
      (ParsedResponse.ofType (nibble m.body.messageType))).1 = .ok m.decoded := by
  obtain ⟨offset, hat, hfields⟩ :=
    takeFields_encodeBody m hbody hlen hsid (nibble m.body.messageType)
  have hl := hat.length
  have hmsg : szSub m.encodeBody.length offset = bytes.length := by
    rw [szSub_of_le hat.le hlen]
    omega
  have hsize : UInt32.ofNat bytes.length = 0 ↔ bytes = [] := by
    rw [← UInt32.toNat_inj, UInt32.toNat_ofNat_of_lt' (lt_of_le_of_lt (by omega) hlen)]
    exact List.length_eq_zero_iff
  unfold parseServerResponse
  rw [hflags, hfields]
  simp only [hmsg, ServerMessage.decoded, hbody]
  by_cases hnil : bytes = []
  · -- an empty payload leaves `NULL` and the binary flag unset
    subst hnil
    rw [if_pos (Or.inl List.length_nil)]
    rfl
  · have hpos : bytes.length ≠ 0 := fun h => hnil (List.length_eq_zero_iff.mp h)
    rw [if_neg (by rw [hsize]; tauto), decodePayload, hcomp, if_neg hgzip]
    have hcopy := copyPayload_at hheap hat
    obtain ⟨heap', hpair⟩ : ∃ heap', copyPayload heap (m.encodeBody.drop offset) bytes.length
        = (.ok bytes, heap') := ⟨_, Prod.ext hcopy rfl⟩
    rw [hpair, hserial, if_neg hnil]
    simp only [ne_eq, hnil, not_false_eq_true, decide_true, Bool.true_and]
    rfl

/-- An error message is read back. -/
theorem parseServerError_encodeBody (tinfl : Tinfl) {heap : Heap} (hheap : heap.Generous)
    (m : ServerMessage) {code : UInt32} {bytes : Bytes} (hbody : m.body = .error code bytes)
    (hgzip : nibble m.compression ≠ compressGzip)
    (hlen : m.encodeBody.length < 4294967296)
    (hd : Header) (hcomp : hd.compression = nibble m.compression) :
    (parseServerError tinfl heap hd m.encodeBody m.encodeBody.length
      (ParsedResponse.ofType (nibble m.body.messageType))).1 = .ok m.decoded := by
  have h0 : At m.encodeBody 0 (beBytes code ++ ServerMessage.counted bytes) := by
    refine ⟨Nat.zero_le _, ?_⟩
    rw [List.drop_zero, ServerMessage.encodeBody, hbody]
  -- the code, the size and the payload follow each other
  have h4 : At m.encodeBody 4 (beBytes (UInt32.ofNat bytes.length) ++ bytes) := h0.advance
  have h8 : At m.encodeBody 8 bytes := h4.advance
  have hl := h8.length
  have hmsg : szSub m.encodeBody.length 8 = bytes.length := by
    rw [szSub_of_le h8.le hlen]
    omega
  have hcode := loadBe32_of_drop h0.drop
  have hsize := loadBe32_of_drop h4.drop
  unfold parseServerError
  rw [if_neg (by omega), hcode, hsize]
  simp only [bind, Except.bind, pure, Except.pure, hmsg, ServerMessage.decoded, hbody]
  by_cases hnil : bytes = []
  · subst hnil
    rw [if_neg (by rw [List.length_nil]; omega)]
    rfl
  · have hpos : bytes.length ≠ 0 := fun h => hnil (List.length_eq_zero_iff.mp h)
    rw [if_pos (by omega), errorPayload, hcomp, if_neg hgzip, hheap.malloc, h8.drop]
    simp only [loadRange_self, bind, Except.bind, pure, Except.pure, if_neg hnil]

/-- The header of an encoding is read back and skipped, and the body is parsed
by its message type. -/
theorem protocolParseResponse_body (tinfl : Tinfl) (heap : Heap) (m : ServerMessage)
    (hlen : m.encode.length < 4294967296) :
    ∃ hd : Header, hd.msgFlags = nibble m.flags ∧ hd.serialMethod = nibble m.serial ∧
      hd.compression = nibble m.compression ∧
      protocolParseResponse tinfl heap m.encode =
        if nibble m.body.messageType = msgServerFullResponse ∨
            nibble m.body.messageType = msgServerAck then
          parseServerResponse tinfl heap hd m.encodeBody m.encodeBody.length
            (ParsedResponse.ofType (nibble m.body.messageType))
        else if nibble m.body.messageType = msgServerError then
          parseServerError tinfl heap hd m.encodeBody m.encodeBody.length
            (ParsedResponse.ofType (nibble m.body.messageType))
        else (.ok (ParsedResponse.ofType (nibble m.body.messageType)), heap) := by
  obtain ⟨hdrop, hsplit⟩ := drop_header_encode m
  have hfour : 4 ≤ m.encode.length := by
    simp only [ServerMessage.encode, List.length_cons]
    omega
  have hpayload : szSub m.encode.length (sz ((nibble m.headerSize).toNat * 4))
      = m.encodeBody.length := by
    rw [szSub_of_le (by omega) hlen]
    omega
  refine ⟨⟨nibble m.headerSize, nibble m.body.messageType, nibble m.flags, nibble m.serial,
    nibble m.compression⟩, rfl, rfl, rfl, ?_⟩
  unfold protocolParseResponse
  -- both length checks pass and the header is read back
  rw [if_neg (by omega), parseHeader_encode]
  simp only [hdrop, hpayload]
  rw [if_neg (by omega)]

/-- A full response or an ack that is not gzip-compressed is read back. -/
theorem protocolParseResponse_response (tinfl : Tinfl) {heap : Heap} (hheap : heap.Generous)
    (m : ServerMessage) {ack : Bool} {seq event : UInt32} {sid bytes : Bytes}
    (hbody : m.body = .response ack seq event sid bytes)
    (hgzip : nibble m.compression ≠ compressGzip) (hsid : sid.length < 2147483648)
    (hlen : m.encode.length < 4294967296) :
    (protocolParseResponse tinfl heap m.encode).1 = .ok m.decoded := by
  obtain ⟨hd, hflags, hserial, hcomp, hparse⟩ := protocolParseResponse_body tinfl heap m hlen
  have hshort := (drop_header_encode m).2
  rw [hparse, if_pos (by rw [hbody]; exact nibble_messageType_response ack seq event sid bytes)]
  exact parseServerResponse_encodeBody tinfl hheap m hbody hgzip (by omega) hsid hd hflags
    hserial hcomp

/-- An error message that is not gzip-compressed is read back. -/
theorem protocolParseResponse_error (tinfl : Tinfl) {heap : Heap} (hheap : heap.Generous)
    (m : ServerMessage) {code : UInt32} {bytes : Bytes} (hbody : m.body = .error code bytes)
    (hgzip : nibble m.compression ≠ compressGzip) (hlen : m.encode.length < 4294967296) :
    (protocolParseResponse tinfl heap m.encode).1 = .ok m.decoded := by
  obtain ⟨hd, -, -, hcomp, hparse⟩ := protocolParseResponse_body tinfl heap m hlen
  have hshort := (drop_header_encode m).2
  have herr : nibble m.body.messageType = msgServerError := by
    rw [hbody]
    exact nibble_messageType_error code bytes
  rw [hparse, if_neg (by rw [herr]; decide), if_pos herr]
  exact parseServerError_encodeBody tinfl hheap m hbody hgzip (by omega) hd hcomp

/-- **Decoding undoes encoding.** On the encoding of any server message that
is not gzip-compressed the parser returns the record the message stands for:
the message type, the optional sequence number and event, the session id cut
to its array, the declared size, the payload, the serialization flag and the
error code. -/
theorem protocolParseResponse_encode (tinfl : Tinfl) (heap : Heap) (hheap : heap.Generous)
    (m : ServerMessage) (hgzip : nibble m.compression ≠ compressGzip)
    (hsid : m.body.sessionId.length < 2147483648) (hlen : m.encode.length < 4294967296) :
    (protocolParseResponse tinfl heap m.encode).1 = .ok m.decoded := by
  cases hbody : m.body with
  | response ack seq event sid bytes =>
    rw [hbody] at hsid
    exact protocolParseResponse_response tinfl hheap m hbody hgzip hsid hlen
  | error code bytes => exact protocolParseResponse_error tinfl hheap m hbody hgzip hlen

/-- A server ack with an event, an eight-byte header and a three-byte
payload. -/
def sampleAck : ServerMessage where
  version := 1
  headerSize := 2
  headerSize_pos := by decide
  flags := 4
  serial := 0
  compression := 0
  reserved := 0
  extension := [7, 7, 7, 7]
  length_extension := by decide
  body := .response true 0 352 [97, 98] [1, 2, 3]

theorem protocolParseResponse_encode_sampleAck :
    (protocolParseResponse (fun _ _ _ => none) ⟨fun _ => true, 0, 0⟩ sampleAck.encode).1
      = .ok sampleAck.decoded :=
  protocolParseResponse_encode _ _ (fun _ => rfl) sampleAck (by decide) (by decide) (by decide)

end BoxDoubao
