import BoxDoubao.Protocol.Gzip

/-!
# `protocol_parse_response`

The parser moves one cursor `offset` over `payload`, the bytes after the
variable-length header. The four places where the source tests
`offset + 4 > payload_len`, reads a big-endian word and advances by four are
one function, `takeU32`; the optional sequence number, the optional event and
the session id are one function each, in the order of the source.

The result is the filled record, or `Stop.failure` for `return -1`, together
with the allocator after the call.
-/

namespace BoxDoubao

open CMemory

/-- The nibbles of the first three header bytes. -/
structure Header where
  headerSize : UInt8
  messageType : UInt8
  msgFlags : UInt8
  serialMethod : UInt8
  compression : UInt8
  deriving DecidableEq

def parseHeader (data : Bytes) : Except Stop Header := do
  let b0 ← load data 0
  let b1 ← load data 1
  let b2 ← load data 2
  return {
    headerSize := b0 &&& 0x0F
    messageType := b1 >>> 4
    msgFlags := b1 &&& 0x0F
    serialMethod := b2 >>> 4
    compression := b2 &&& 0x0F }

/-! ### The cursor over the payload -/

section Cursor

variable (payload : Bytes) (payloadLen : ℕ)

/-- `if (offset + 4 > payload_len) return -1; v = read_u32_be(payload + offset);
offset += 4;` -/
def takeU32 (offset : ℕ) : Except Stop (UInt32 × ℕ) :=
  if sz (offset + 4) > payloadLen then .error .failure
  else do
    let v ← loadBe32 payload offset
    return (v, sz (offset + 4))

/-- The sequence number, present iff the flag bit is set. -/
def takeSeq (msgFlags : UInt8) (resp : ParsedResponse) (offset : ℕ) :
    Except Stop (ParsedResponse × ℕ) :=
  if msgFlags &&& flagNegSequence ≠ 0 then do
    let (v, offset) ← takeU32 payload payloadLen offset
    return ({ resp with seq := v, hasSeq := true }, offset)
  else return (resp, offset)

/-- The event code, present iff the flag bit is set. -/
def takeEvent (msgFlags : UInt8) (resp : ParsedResponse) (offset : ℕ) :
    Except Stop (ParsedResponse × ℕ) :=
  if msgFlags &&& flagMsgWithEvent ≠ 0 then do
    let (v, offset) ← takeU32 payload payloadLen offset
    return ({ resp with event := v.toInt32, hasEvent := true }, offset)
  else return (resp, offset)

/-- The session id. Its length is read as a signed number, the copy is cut to
the array, the cursor moves by the full length. -/
def takeSessionId (resp : ParsedResponse) (offset : ℕ) :
    Except Stop (ParsedResponse × ℕ) := do
  let (n, offset) ← takeU32 payload payloadLen offset
  if 0 < n.toInt32 then
    let sidLen := n.toInt32.toUInt32.toNat
    if sz (offset + sidLen) > payloadLen then .error .failure
    else do
      let copyLen := if sidLen < 128 - 1 then sidLen else 128 - 1
      let src ← loadRange payload offset copyLen
      let sessionId ← (do let a ← resp.sessionId.memcpy 0 src; a.memcpy src.length [0])
      return ({ resp with sessionId := sessionId }, sz (offset + sidLen))
  else return (resp, offset)

/-- The declared payload size. -/
def takePayloadSize (resp : ParsedResponse) (offset : ℕ) :
    Except Stop (ParsedResponse × ℕ) := do
  let (v, offset) ← takeU32 payload payloadLen offset
  return ({ resp with payloadSize := v }, offset)

/-- Everything before the payload bytes of a full response or an ack. -/
def takeFields (msgFlags : UInt8) (resp : ParsedResponse) :
    Except Stop (ParsedResponse × ℕ) := do
  let (resp, offset) ← takeSeq payload payloadLen msgFlags resp 0
  let (resp, offset) ← takeEvent payload payloadLen msgFlags resp offset
  let (resp, offset) ← takeSessionId payload payloadLen resp offset
  takePayloadSize payload payloadLen resp offset

end Cursor

/-! ### The payload buffer -/

/-- An uncompressed payload is copied into a buffer of its own. -/
def copyPayload (heap : Heap) (msgData : Bytes) (msgLen : ℕ) : Except Stop Bytes × Heap :=
  match heap.mallocFallback with
  | (false, heap) => (.error .failure, heap)
  | (true, heap) => (loadRange msgData 0 msgLen, heap)

/-- The payload of a full response or an ack, inflated or copied. -/
def decodePayload (tinfl : Tinfl) (heap : Heap) (compression : UInt8)
    (msgData : Bytes) (msgLen : ℕ) : Except Stop Bytes × Heap :=
  if compression = compressGzip then gzipDecompress tinfl heap (msgData.take msgLen)
  else copyPayload heap msgData msgLen

/-- `SERVER_FULL_RESPONSE` and `SERVER_ACK`. -/
def parseServerResponse (tinfl : Tinfl) (heap : Heap) (hd : Header)
    (payload : Bytes) (payloadLen : ℕ) (resp : ParsedResponse) :
    Except Stop ParsedResponse × Heap :=
  match takeFields payload payloadLen hd.msgFlags resp with
  | .error e => (.error e, heap)
  | .ok (resp, offset) =>
    let msgLen := szSub payloadLen offset
    if msgLen = 0 ∨ resp.payloadSize = 0 then
      (.ok { resp with payloadData := none, payloadDataLen := 0 }, heap)
    else
      match decodePayload tinfl heap hd.compression (payload.drop offset) msgLen with
      | (.error e, heap) => (.error e, heap)
      | (.ok decompressed, heap) =>
        (.ok { resp with
          isBinary := hd.serialMethod == serialNone
          payloadData := some decompressed
          payloadDataLen := decompressed.length }, heap)

/-- The payload of an error message. A failure leaves `NULL` behind, with
length 0 after a failed inflation and the message length after a failed
allocation; it does not fail the parse. -/
def errorPayload (tinfl : Tinfl) (heap : Heap) (compression : UInt8)
    (msgData : Bytes) (msgLen : ℕ) : Except Stop (Option Bytes × ℕ) × Heap :=
  if compression = compressGzip then
    match gzipDecompress tinfl heap (msgData.take msgLen) with
    | (.ok out, heap) => (.ok (some out, out.length), heap)
    | (.error .failure, heap) => (.ok (none, 0), heap)
    | (.error .outOfBounds, heap) => (.error .outOfBounds, heap)
  else
    match heap.malloc with
    | (false, heap) => (.ok (none, msgLen), heap)
    | (true, heap) => (do let out ← loadRange msgData 0 msgLen; return (some out, msgLen), heap)

/-- `SERVER_ERROR`. -/
def parseServerError (tinfl : Tinfl) (heap : Heap) (hd : Header)
    (payload : Bytes) (payloadLen : ℕ) (resp : ParsedResponse) :
    Except Stop ParsedResponse × Heap :=
  if payloadLen < 8 then (.error .failure, heap)
  else
    match (do let c ← loadBe32 payload 0; let n ← loadBe32 payload 4; return (c, n)) with
    | .error e => (.error e, heap)
    | .ok (errorCode, payloadSize) =>
      let resp := { resp with errorCode := errorCode, payloadSize := payloadSize }
      let msgLen := szSub payloadLen 8
      if msgLen > 0 then
        match errorPayload tinfl heap hd.compression (payload.drop 8) msgLen with
        | (.error e, heap) => (.error e, heap)
        | (.ok (buf, len), heap) =>
          (.ok { resp with payloadData := buf, payloadDataLen := len }, heap)
      else (.ok resp, heap)

/-! ### The parser -/

/-- `protocol_parse_response`. A message of any other type is accepted with
its type alone. -/
def protocolParseResponse (tinfl : Tinfl) (heap : Heap) (data : Bytes) :
    Except Stop ParsedResponse × Heap :=
  if data.length < 4 then (.error .failure, heap)
  else
    match parseHeader data with
    | .error e => (.error e, heap)
    | .ok hd =>
      let headerBytes := sz (hd.headerSize.toNat * 4)
      if data.length < headerBytes then (.error .failure, heap)
      else
        let payload := data.drop headerBytes
        let payloadLen := szSub data.length headerBytes
        let resp := ParsedResponse.ofType hd.messageType
        if hd.messageType = msgServerFullResponse ∨ hd.messageType = msgServerAck then
          parseServerResponse tinfl heap hd payload payloadLen resp
        else if hd.messageType = msgServerError then
          parseServerError tinfl heap hd payload payloadLen resp
        else (.ok resp, heap)

/-! ### Where every allocation succeeds

The result then depends on the message alone, not on the state of the
allocator. -/

/-- Two calls with the same result and different allocators after them. -/
theorem exists_same_result {α : Type} {x y : Except Stop α × Heap} (h : x.1 = y.1) :
    ∃ r h₁ h₂, x = (r, h₁) ∧ y = (r, h₂) := by
  obtain ⟨r, h₁⟩ := x
  obtain ⟨r', h₂⟩ := y
  obtain rfl : r = r' := h
  exact ⟨r, h₁, h₂, rfl, rfl⟩

section Generous

variable (tinfl : Tinfl) {heap heap' : Heap} (hg : heap.Generous) (hg' : heap'.Generous)

include hg hg'

theorem gzipDecompress_generous (data : Bytes) :
    (gzipDecompress tinfl heap data).1 = (gzipDecompress tinfl heap' data).1 := by
  unfold gzipDecompress
  cases gzipBody data with
  | error e => rfl
  | ok slice =>
    obtain ⟨start, len⟩ := slice
    simp only [hg.mallocFallback, hg'.mallocFallback]
    cases loadRange data start len with
    | error e => rfl
    | ok src =>
      simp only
      cases inflateEither tinfl (inflateCapacity data.length) src <;> rfl

theorem decodePayload_generous (compression : UInt8) (msgData : Bytes) (msgLen : ℕ) :
    (decodePayload tinfl heap compression msgData msgLen).1 =
      (decodePayload tinfl heap' compression msgData msgLen).1 := by
  unfold decodePayload
  by_cases hc : compression = compressGzip
  · rw [if_pos hc, if_pos hc]
    exact gzipDecompress_generous tinfl hg hg' _
  · rw [if_neg hc, if_neg hc]
    simp only [copyPayload, hg.mallocFallback, hg'.mallocFallback]

theorem errorPayload_generous (compression : UInt8) (msgData : Bytes) (msgLen : ℕ) :
    (errorPayload tinfl heap compression msgData msgLen).1 =
      (errorPayload tinfl heap' compression msgData msgLen).1 := by
  unfold errorPayload
  by_cases hc : compression = compressGzip
  · rw [if_pos hc, if_pos hc]
    obtain ⟨r, h₁, h₂, hx, hy⟩ := exists_same_result
      (gzipDecompress_generous tinfl hg hg' (msgData.take msgLen))
    rw [hx, hy]
    cases r with
    | ok out => rfl
    | error e => cases e <;> rfl
  · rw [if_neg hc, if_neg hc]
    simp only [hg.malloc, hg'.malloc]

-- the fields before the payload are read without the allocator
theorem parseServerResponse_generous (hd : Header) (payload : Bytes) (payloadLen : ℕ)
    (resp : ParsedResponse) :
    (parseServerResponse tinfl heap hd payload payloadLen resp).1 =
      (parseServerResponse tinfl heap' hd payload payloadLen resp).1 := by
  unfold parseServerResponse
  cases takeFields payload payloadLen hd.msgFlags resp with
  | error e => rfl
  | ok fields =>
    obtain ⟨resp, offset⟩ := fields
    by_cases hz : szSub payloadLen offset = 0 ∨ resp.payloadSize = 0
    · simp only [if_pos hz]
    · simp only [if_neg hz]
      obtain ⟨r, h₁, h₂, hx, hy⟩ := exists_same_result
        (decodePayload_generous tinfl hg hg' hd.compression (payload.drop offset)
          (szSub payloadLen offset))
      rw [hx, hy]
      cases r <;> rfl

theorem parseServerError_generous (hd : Header) (payload : Bytes) (payloadLen : ℕ)
    (resp : ParsedResponse) :
    (parseServerError tinfl heap hd payload payloadLen resp).1 =
      (parseServerError tinfl heap' hd payload payloadLen resp).1 := by
  unfold parseServerError
  by_cases hshort : payloadLen < 8
  · rw [if_pos hshort, if_pos hshort]
  · rw [if_neg hshort, if_neg hshort]
    split
    · rfl
    · by_cases hpos : szSub payloadLen 8 > 0
      · simp only [if_pos hpos]
        obtain ⟨r, h₁, h₂, hx, hy⟩ := exists_same_result
          (errorPayload_generous tinfl hg hg' hd.compression (payload.drop 8)
            (szSub payloadLen 8))
        rw [hx, hy]
        cases r <;> rfl
      · simp only [if_neg hpos]

theorem protocolParseResponse_generous (data : Bytes) :
    (protocolParseResponse tinfl heap data).1 = (protocolParseResponse tinfl heap' data).1 := by
  unfold protocolParseResponse
  by_cases hshort : data.length < 4
  · rw [if_pos hshort, if_pos hshort]
  · rw [if_neg hshort, if_neg hshort]
    cases parseHeader data with
    | error e => rfl
    | ok hd =>
      simp only
      split
      · rfl
      · split
        · exact parseServerResponse_generous tinfl hg hg' _ _ _ _
        · split
          · exact parseServerError_generous tinfl hg hg' _ _ _ _
          · rfl

end Generous

end BoxDoubao
