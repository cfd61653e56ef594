import BoxDoubao.Desktop.Decompress
import BoxDoubao.Protocol.Acceptance
import BoxDoubao.Protocol.GzipRoundTrip

/-!
# `protocol_parse_response` of the desktop client

The two C clients parse a message with the same lines. They differ in what the
lines mean: the desktop's `size_t` does not wrap, and its `gzip_decompress`
grows the buffer that the firmware's leaves as it is.

`parsers_agree_iff` says what comes of it. A message that is not compressed is
parsed the same by both, well formed or not; a compressed one just if its
content fits the buffer of the firmware.
-/

namespace BoxDoubao

open CMemory

namespace Desktop

/-- A call in the loop of `gzip_decompress`, or back with its result. -/
inductive Call (α : Type) where
  | inflating
  | returned (result : Except Stop α) (heap : Heap)

/-! ### The cursor over the payload -/

section Cursor

variable (payload : Bytes) (payloadLen : ℕ)

/-- `if (offset + 4 > payload_len) return -1; v = read_u32_be(payload + offset);
offset += 4;` -/
def takeU32 (offset : ℕ) : Except Stop (UInt32 × ℕ) :=
  if offset + 4 > payloadLen then .error .failure
  else do
    let v ← loadBe32 payload offset
    return (v, offset + 4)

def takeSeq (msgFlags : UInt8) (resp : ParsedResponse) (offset : ℕ) :
    Except Stop (ParsedResponse × ℕ) :=
  if msgFlags &&& flagNegSequence ≠ 0 then do
    let (v, offset) ← takeU32 payload payloadLen offset
    return ({ resp with seq := v, hasSeq := true }, offset)
  else return (resp, offset)

def takeEvent (msgFlags : UInt8) (resp : ParsedResponse) (offset : ℕ) :
    Except Stop (ParsedResponse × ℕ) :=
  if msgFlags &&& flagMsgWithEvent ≠ 0 then do
    let (v, offset) ← takeU32 payload payloadLen offset
    return ({ resp with event := v.toInt32, hasEvent := true }, offset)
  else return (resp, offset)

def takeSessionId (resp : ParsedResponse) (offset : ℕ) :
    Except Stop (ParsedResponse × ℕ) := do
  let (n, offset) ← takeU32 payload payloadLen offset
  if 0 < n.toInt32 then
    let sidLen := n.toInt32.toUInt32.toNat
    if offset + sidLen > payloadLen then .error .failure
    else do
      let copyLen := if sidLen < 128 - 1 then sidLen else 128 - 1
      let src ← loadRange payload offset copyLen
      let sessionId ← (do let a ← resp.sessionId.memcpy 0 src; a.memcpy src.length [0])
      return ({ resp with sessionId := sessionId }, offset + sidLen)
  else return (resp, offset)

def takePayloadSize (resp : ParsedResponse) (offset : ℕ) :
    Except Stop (ParsedResponse × ℕ) := do
  let (v, offset) ← takeU32 payload payloadLen offset
  return ({ resp with payloadSize := v }, offset)

/-- Everything before the payload bytes of a full response or an ack. -/
def takeFields (msgFlags : UInt8) (resp : ParsedResponse) :
    Except Stop (ParsedResponse × ℕ) := do
  let (resp, offset) ← takeSeq payload payloadLen msgFlags resp 0
  let (resp, offset) ← takeEvent payload payloadLen msgFlags resp offset
  let (resp, offset) ← takeSessionId payload payloadLen resp offset
  takePayloadSize payload payloadLen resp offset

end Cursor

/-! ### The payload buffer -/

section

variable (z : Zlib) (memory : ℕ → Bool) (fresh : ℕ → UInt8) (turns : ℕ) (heap : Heap)

/-- The call of `gzip_decompress`, after so many turns of its loop. -/
def callGzipDecompress (data : Bytes) : Call Bytes :=
  match gzipDecompress z memory data fresh heap turns with
  | .error e => .returned (.error e) heap
  | .ok (.head _) => .inflating
  | .ok (.returned ⟨some (out, outLen), heap, _⟩) => .returned (.ok (out.take outLen)) heap
  | .ok (.returned ⟨none, heap, _⟩) => .returned (.error .failure) heap

/-- The payload of a full response or an ack, inflated or copied. -/
def decodePayload (compression : UInt8) (msgData : Bytes) (msgLen : ℕ) : Call Bytes :=
  if compression = compressGzip then
    callGzipDecompress z memory fresh turns heap (msgData.take msgLen)
  else
    match heap.malloc with
    | (false, heap) => .returned (.error .failure) heap
    | (true, heap) => .returned (loadRange msgData 0 msgLen) heap

/-- `resp->is_binary`. -/
def isBinary (serialMethod : UInt8) : Bool :=
  if serialMethod = serialJson then false
  else if serialMethod = serialNone then true
  else false

/-- `MSG_SERVER_FULL_RESPONSE` and `MSG_SERVER_ACK`. -/
def parseServerResponse (hd : Header) (payload : Bytes) (payloadLen : ℕ)
    (resp : ParsedResponse) : Call ParsedResponse :=
  match takeFields payload payloadLen hd.msgFlags resp with
  | .error e => .returned (.error e) heap
  | .ok (resp, offset) =>
    let msgLen := payloadLen - offset
    if msgLen = 0 ∨ resp.payloadSize = 0 then
      .returned (.ok { resp with payloadData := none, payloadDataLen := 0 }) heap
    else
      match decodePayload z memory fresh turns heap hd.compression (payload.drop offset) msgLen with
      | .inflating => .inflating
      | .returned (.error e) heap => .returned (.error e) heap
      | .returned (.ok decompressed) heap =>
        .returned (.ok { resp with
          isBinary := isBinary hd.serialMethod
          payloadData := some decompressed
          payloadDataLen := decompressed.length }) heap

/-- The payload of an error message. -/
def errorPayload (compression : UInt8) (msgData : Bytes) (msgLen : ℕ) :
    Call (Option Bytes × ℕ) :=
  if compression = compressGzip then
    match callGzipDecompress z memory fresh turns heap (msgData.take msgLen) with
    | .inflating => .inflating
    | .returned (.ok out) heap => .returned (.ok (some out, out.length)) heap
    | .returned (.error .failure) heap => .returned (.ok (none, 0)) heap
    | .returned (.error .outOfBounds) heap => .returned (.error .outOfBounds) heap
  else
    match heap.malloc with
    | (false, heap) => .returned (.ok (none, msgLen)) heap
    | (true, heap) =>
      .returned (do let out ← loadRange msgData 0 msgLen; return (some out, msgLen)) heap

/-- `MSG_SERVER_ERROR`. -/
def parseServerError (hd : Header) (payload : Bytes) (payloadLen : ℕ) (resp : ParsedResponse) :
    Call ParsedResponse :=
  if payloadLen < 8 then .returned (.error .failure) heap
  else
    match (do let c ← loadBe32 payload 0; let n ← loadBe32 payload 4; return (c, n)) with
    | .error e => .returned (.error e) heap
    | .ok (errorCode, payloadSize) =>
      let resp := { resp with errorCode := errorCode, payloadSize := payloadSize }
      let msgLen := payloadLen - 8
      if msgLen > 0 then
        match errorPayload z memory fresh turns heap hd.compression (payload.drop 8) msgLen with
        | .inflating => .inflating
        | .returned (.error e) heap => .returned (.error e) heap
        | .returned (.ok (buf, len)) heap =>
          .returned (.ok { resp with payloadData := buf, payloadDataLen := len }) heap
      else .returned (.ok resp) heap

/-- `protocol_parse_response`, when the loop of `gzip_decompress` has taken so
many turns. -/
def protocolParseResponse (data : Bytes) : Call ParsedResponse :=
  if data.length < 4 then .returned (.error .failure) heap
  else
    match parseHeader data with
    | .error e => .returned (.error e) heap
    | .ok hd =>
      let headerBytes := hd.headerSize.toNat * 4
      if data.length < headerBytes then .returned (.error .failure) heap
      else
        let payload := data.drop headerBytes
        let payloadLen := data.length - headerBytes
        let resp := ParsedResponse.ofType hd.messageType
        if hd.messageType = msgServerFullResponse ∨ hd.messageType = msgServerAck then
          parseServerResponse z memory fresh turns heap hd payload payloadLen resp
        else if hd.messageType = msgServerError then
          parseServerError z memory fresh turns heap hd payload payloadLen resp
        else .returned (.ok resp) heap

end

/-- What a full response or an ack hands to `gzip_decompress`. -/
def compressedResponse (hd : Header) (payload : Bytes) (resp : ParsedResponse) : Option Bytes :=
  match takeFields payload payload.length hd.msgFlags resp with
  | .error _ => none
  | .ok (resp, offset) =>
    if payload.length - offset = 0 ∨ resp.payloadSize = 0 then none
    else if hd.compression = compressGzip then some (payload.drop offset)
    else none

/-- What an error message hands to `gzip_decompress`. -/
def compressedError (hd : Header) (payload : Bytes) : Option Bytes :=
  if 8 < payload.length ∧ hd.compression = compressGzip then some (payload.drop 8) else none

/-- The bytes that are handed to `gzip_decompress`, if any are. -/
def gzipPayload (data : Bytes) : Option Bytes :=
  if data.length < 4 then none
  else
    match parseHeader data with
    | .error _ => none
    | .ok hd =>
      let payload := data.drop (hd.headerSize.toNat * 4)
      if data.length < hd.headerSize.toNat * 4 then none
      else if hd.messageType = msgServerFullResponse ∨ hd.messageType = msgServerAck then
        compressedResponse hd payload (.ofType hd.messageType)
      else if hd.messageType = msgServerError then compressedError hd payload
      else none

/-! ### The same fields -/

section Fields

variable {payload : Bytes} {offset : ℕ} {resp : ParsedResponse}

/-- Two computations with one result, and `P` holds of it if there is one. -/
def Alike {α : Type} (x y : Except Stop α) (P : α → Prop) : Prop := x = y ∧ ∀ a, y = .ok a → P a

theorem Alike.bind {α β : Type} {x y : Except Stop α} {f g : α → Except Stop β} {P : α → Prop}
    {Q : β → Prop} (h : Alike x y P) (hf : ∀ a, P a → Alike (f a) (g a) Q) :
    Alike (x >>= f) (y >>= g) Q := by
  obtain ⟨rfl, hP⟩ := h
  cases x with
  | error e => exact ⟨rfl, nofun⟩
  | ok a => exact hf a (hP a rfl)

theorem Alike.pure {α : Type} {a : α} {P : α → Prop} (h : P a) :
    Alike (Pure.pure a) (Pure.pure a) P :=
  ⟨rfl, fun _ heq => Except.ok.inj heq ▸ h⟩

theorem Alike.refl {α : Type} (x : Except Stop α) : Alike x x fun _ => True :=
  ⟨rfl, fun _ _ => trivial⟩

/-- The cursor stays in the payload. -/
def InPayload (payload : Bytes) (r : ParsedResponse × ℕ) : Prop := r.2 ≤ payload.length

theorem takeU32_alike (hlen : payload.length < 2147483648) (ho : offset ≤ payload.length) :
    Alike (takeU32 payload payload.length offset) (BoxDoubao.takeU32 payload payload.length offset)
      fun r => r.2 ≤ payload.length := by
  unfold takeU32 BoxDoubao.takeU32
  -- the cursor is far below `2 ^ 32`
  rw [sz_of_lt (by omega)]
  split
  · exact ⟨rfl, nofun⟩
  · exact (Alike.refl _).bind fun v _ => Alike.pure (by show offset + 4 ≤ _; omega)

theorem takeSeq_alike (flags : UInt8) (hlen : payload.length < 2147483648)
    (h : InPayload payload (resp, offset)) :
    Alike (takeSeq payload payload.length flags resp offset)
      (BoxDoubao.takeSeq payload payload.length flags resp offset) (InPayload payload) := by
  unfold takeSeq BoxDoubao.takeSeq
  split
  · exact (takeU32_alike hlen h).bind fun r hr => Alike.pure hr
  · exact Alike.pure h

theorem takeEvent_alike (flags : UInt8) (hlen : payload.length < 2147483648)
    (h : InPayload payload (resp, offset)) :
    Alike (takeEvent payload payload.length flags resp offset)
      (BoxDoubao.takeEvent payload payload.length flags resp offset) (InPayload payload) := by
  unfold takeEvent BoxDoubao.takeEvent
  split
  · exact (takeU32_alike hlen h).bind fun r hr => Alike.pure hr
  · exact Alike.pure h

theorem takePayloadSize_alike (hlen : payload.length < 2147483648)
    (h : InPayload payload (resp, offset)) :
    Alike (takePayloadSize payload payload.length resp offset)
      (BoxDoubao.takePayloadSize payload payload.length resp offset) (InPayload payload) :=
  (takeU32_alike hlen h).bind fun _ hr => Alike.pure hr

/-- A positive length is below `2 ^ 31`, so the sum does not wrap. -/
theorem takeSessionId_alike (hlen : payload.length < 2147483648)
    (h : InPayload payload (resp, offset)) :
    Alike (takeSessionId payload payload.length resp offset)
      (BoxDoubao.takeSessionId payload payload.length resp offset) (InPayload payload) := by
  unfold takeSessionId BoxDoubao.takeSessionId
  refine (takeU32_alike hlen h).bind ?_
  rintro ⟨n, o⟩ ho
  have ho' : o ≤ payload.length := ho
  simp only
  by_cases hpos : 0 < n.toInt32
  · obtain ⟨-, hsmall⟩ := (toInt32_pos_iff n).mp hpos
    rw [if_pos hpos, if_pos hpos, UInt32.toUInt32_toInt32, sz_of_lt (by omega)]
    split
    · exact ⟨rfl, nofun⟩
    next hin =>
      refine (Alike.refl _).bind fun src _ => (Alike.refl _).bind fun sessionId _ => ?_
      exact Alike.pure (not_lt.mp hin)
  · rw [if_neg hpos, if_neg hpos]
    exact Alike.pure ho

theorem takeFields_alike (resp : ParsedResponse) (flags : UInt8)
    (hlen : payload.length < 2147483648) :
    Alike (takeFields payload payload.length flags resp)
      (BoxDoubao.takeFields payload payload.length flags resp) (InPayload payload) := by
  unfold takeFields BoxDoubao.takeFields
  refine (takeSeq_alike flags hlen (Nat.zero_le _)).bind fun r₁ h₁ => ?_
  refine (takeEvent_alike flags hlen h₁).bind fun r₂ h₂ => ?_
  refine (takeSessionId_alike hlen h₂).bind fun r₃ h₃ => ?_
  exact takePayloadSize_alike hlen h₃

end Fields

/-! ### The same result -/

theorem isBinary_eq (serialMethod : UInt8) :
    isBinary serialMethod = (serialMethod == serialNone) := by
  unfold isBinary
  by_cases hjson : serialMethod = serialJson
  · rw [if_pos hjson, hjson]
    rfl
  · rw [if_neg hjson]
    by_cases hnone : serialMethod = serialNone
    · rw [if_pos hnone, hnone]
      rfl
    · rw [if_neg hnone]
      exact (beq_eq_false_iff_ne.mpr hnone).symm

/-- The call has returned `r`. -/
def Call.Gives {α : Type} (c : Call α) (r : Except Stop α) : Prop := ∃ heap, c = .returned r heap

@[simp] theorem gives_returned {α : Type} {r r' : Except Stop α} {heap : Heap} :
    (Call.returned r heap).Gives r' ↔ r = r' := by
  constructor
  · rintro ⟨heap', h⟩
    exact (Call.returned.inj h).1
  · rintro rfl
    exact ⟨heap, rfl⟩

@[simp] theorem not_gives_inflating {α : Type} {r : Except Stop α} : ¬ Call.inflating.Gives r := by
  rintro ⟨heap, h⟩
  cases h

section

variable (z : Zlib) (memory : ℕ → Bool) (fresh : ℕ → UInt8) (turns : ℕ) (heap : Heap)
  (tinfl : Tinfl) (heap' : Heap)

/-- The two `gzip_decompress` do the same with what is handed to them. -/
def SameInflation (p : Option Bytes) : Prop :=
  ∀ data, p = some data → (callGzipDecompress z memory fresh turns heap data).Gives
    (BoxDoubao.gzipDecompress tinfl heap' data).1

variable {z memory fresh turns heap tinfl heap'}

theorem sameInflation_none : SameInflation z memory fresh turns heap tinfl heap' none := by
  rintro data ⟨⟩

theorem sameInflation_some {data : Bytes} :
    SameInflation z memory fresh turns heap tinfl heap' (some data) ↔
      (callGzipDecompress z memory fresh turns heap data).Gives
        (BoxDoubao.gzipDecompress tinfl heap' data).1 := by
  constructor
  · exact fun h => h data rfl
  · rintro h _ ⟨⟩
    exact h

variable (hheap : heap.Generous) (hheap' : heap'.Generous)

include hheap hheap'

theorem parseServerResponse_gives_iff {hd : Header} {payload : Bytes} {resp : ParsedResponse}
    (hlen : payload.length < 2147483648) :
    (parseServerResponse z memory fresh turns heap hd payload payload.length resp).Gives
        (BoxDoubao.parseServerResponse tinfl heap' hd payload payload.length resp).1 ↔
      SameInflation z memory fresh turns heap tinfl heap'
        (compressedResponse hd payload resp) := by
  -- the fields are the same, so only the payload's bytes are left to compare
  obtain ⟨hsame, hin⟩ := takeFields_alike resp hd.msgFlags hlen
  unfold parseServerResponse BoxDoubao.parseServerResponse compressedResponse
  rw [← hsame] at hin ⊢
  cases hfields : takeFields payload payload.length hd.msgFlags resp with
  | error e => exact iff_of_true (gives_returned.mpr rfl) sameInflation_none
  | ok fields =>
    obtain ⟨r, offset⟩ := fields
    have hmsg : szSub payload.length offset = payload.length - offset :=
      szSub_of_le (hin _ hfields) (by omega)
    have hrest : (payload.drop offset).length = payload.length - offset := List.length_drop
    simp only [hmsg]
    by_cases hempty : payload.length - offset = 0 ∨ r.payloadSize = 0
    · rw [if_pos hempty, if_pos hempty, if_pos hempty]
      exact iff_of_true (gives_returned.mpr rfl) sameInflation_none
    rw [if_neg hempty, if_neg hempty, if_neg hempty, decodePayload, BoxDoubao.decodePayload,
      ← hrest, List.take_length]
    by_cases hgzip : hd.compression = compressGzip
    · rw [if_pos hgzip, if_pos hgzip, if_pos hgzip, sameInflation_some]
      -- different results of the two functions are different payloads
      generalize callGzipDecompress z memory fresh turns heap (payload.drop offset) = c
      generalize BoxDoubao.gzipDecompress tinfl heap' (payload.drop offset) = result
      obtain ⟨result, heap₁⟩ := result
      cases c with
      | inflating => exact iff_of_false not_gives_inflating not_gives_inflating
      | returned out heap₂ =>
        cases out with
        | error e => cases result <;> simp
        | ok out => cases result <;> simp +contextual [isBinary_eq]
    · -- both copy, and memory is granted
      rw [if_neg hgzip, if_neg hgzip, if_neg hgzip]
      refine iff_of_true ?_ sameInflation_none
      simp only [copyPayload, hheap.malloc, hheap'.mallocFallback, loadRange_self, isBinary_eq,
        gives_returned]

theorem parseServerError_gives_iff {hd : Header} {payload : Bytes} {resp : ParsedResponse}
    (hlen : payload.length < 2147483648) :
    (parseServerError z memory fresh turns heap hd payload payload.length resp).Gives
        (BoxDoubao.parseServerError tinfl heap' hd payload payload.length resp).1 ↔
      SameInflation z memory fresh turns heap tinfl heap' (compressedError hd payload) := by
  unfold parseServerError BoxDoubao.parseServerError compressedError
  by_cases hshort : payload.length < 8
  · rw [if_pos hshort, if_pos hshort, if_neg fun h => by omega]
    exact iff_of_true (gives_returned.mpr rfl) sameInflation_none
  rw [if_neg hshort, if_neg hshort]
  obtain ⟨code, -, -, hcode⟩ := loadBe32_of_le (show 0 + 4 ≤ payload.length by omega)
  obtain ⟨size, -, -, hsize⟩ := loadBe32_of_le (show 4 + 4 ≤ payload.length by omega)
  have hrest : (payload.drop 8).length = payload.length - 8 := List.length_drop
  rw [hcode, hsize]
  simp only [bind, Except.bind, pure, Except.pure,
    szSub_of_le (show 8 ≤ payload.length by omega) (by omega)]
  by_cases hpos : payload.length - 8 > 0
  · rw [if_pos hpos, if_pos hpos, errorPayload, BoxDoubao.errorPayload, ← hrest, List.take_length]
    by_cases hgzip : hd.compression = compressGzip
    · rw [if_pos hgzip, if_pos hgzip, if_pos ⟨by omega, hgzip⟩, sameInflation_some]
      generalize callGzipDecompress z memory fresh turns heap (payload.drop 8) = c
      generalize BoxDoubao.gzipDecompress tinfl heap' (payload.drop 8) = result
      obtain ⟨result, heap₁⟩ := result
      cases c with
      | inflating => exact iff_of_false not_gives_inflating not_gives_inflating
      | returned out heap₂ =>
        -- a failure leaves `NULL`, and nothing else does
        rcases out with ⟨_ | _⟩ | out <;> rcases result with ⟨_ | _⟩ | result <;>
          simp +contextual
    · rw [if_neg hgzip, if_neg hgzip, if_neg fun h => hgzip h.2]
      refine iff_of_true ?_ sameInflation_none
      simp only [hheap.malloc, hheap'.malloc, loadRange_self, bind, Except.bind, pure, Except.pure,
        gives_returned]
  · rw [if_neg hpos, if_neg hpos, if_neg fun h => by omega]
    exact iff_of_true (gives_returned.mpr rfl) sameInflation_none

/-- The two parsers give the same just if the two `gzip_decompress` do. -/
theorem protocolParseResponse_gives_iff {data : Bytes} (hlen : data.length < 2147483648) :
    (protocolParseResponse z memory fresh turns heap data).Gives
        (BoxDoubao.protocolParseResponse tinfl heap' data).1 ↔
      SameInflation z memory fresh turns heap tinfl heap' (gzipPayload data) := by
  unfold protocolParseResponse BoxDoubao.protocolParseResponse gzipPayload
  by_cases hfour : data.length < 4
  · rw [if_pos hfour, if_pos hfour, if_pos hfour]
    exact iff_of_true (gives_returned.mpr rfl) sameInflation_none
  rw [if_neg hfour, if_neg hfour, if_neg hfour]
  obtain ⟨hd, hheader, hsize⟩ := parseHeader_of_le (Nat.not_lt.mp hfour)
  simp only [hheader, sz_of_lt (show hd.headerSize.toNat * 4 < 4294967296 by omega)]
  by_cases hbytes : data.length < hd.headerSize.toNat * 4
  · rw [if_pos hbytes, if_pos hbytes, if_pos hbytes]
    exact iff_of_true (gives_returned.mpr rfl) sameInflation_none
  have hpayload : (data.drop (hd.headerSize.toNat * 4)).length =
      data.length - hd.headerSize.toNat * 4 := List.length_drop
  have hshort : (data.drop (hd.headerSize.toNat * 4)).length < 2147483648 := by omega
  rw [if_neg hbytes, if_neg hbytes, if_neg hbytes, szSub_of_le (Nat.not_lt.mp hbytes) (by omega),
    ← hpayload]
  by_cases hresponse : hd.messageType = msgServerFullResponse ∨ hd.messageType = msgServerAck
  · rw [if_pos hresponse, if_pos hresponse, if_pos hresponse]
    exact parseServerResponse_gives_iff hheap hheap' hshort
  rw [if_neg hresponse, if_neg hresponse, if_neg hresponse]
  by_cases herror : hd.messageType = msgServerError
  · rw [if_pos herror, if_pos herror, if_pos herror]
    exact parseServerError_gives_iff hheap hheap' hshort
  · rw [if_neg herror, if_neg herror, if_neg herror]
    exact iff_of_true (gives_returned.mpr rfl) sameInflation_none

end

/-! ### The same payload -/

theorem length_compressedResponse_le {hd : Header} {payload p : Bytes} {resp : ParsedResponse}
    (h : compressedResponse hd payload resp = some p) : p.length ≤ payload.length := by
  unfold compressedResponse at h
  cases hfields : takeFields payload payload.length hd.msgFlags resp with
  | error e =>
    rw [hfields] at h
    cases h
  | ok fields =>
    rw [hfields] at h
    obtain ⟨-, h⟩ := Option.ite_none_left_eq_some.mp h
    obtain ⟨-, ⟨⟩⟩ := Option.ite_none_right_eq_some.mp h
    exact (List.drop_sublist _ _).length_le

theorem length_gzipPayload_le {data p : Bytes} (h : gzipPayload data = some p) :
    p.length ≤ data.length := by
  unfold gzipPayload at h
  obtain ⟨-, h⟩ := Option.ite_none_left_eq_some.mp h
  cases hheader : parseHeader data with
  | error e =>
    rw [hheader] at h
    cases h
  | ok hd =>
    rw [hheader] at h
    obtain ⟨-, h⟩ := Option.ite_none_left_eq_some.mp h
    have hdrop : (data.drop (hd.headerSize.toNat * 4)).length ≤ data.length :=
      (List.drop_sublist _ _).length_le
    split at h
    · exact (length_compressedResponse_le h).trans hdrop
    · obtain ⟨-, h⟩ := Option.ite_none_right_eq_some.mp h
      obtain ⟨-, ⟨⟩⟩ := Option.ite_none_right_eq_some.mp h
      exact (List.drop_sublist _ _).length_le.trans hdrop

section

variable {z : Zlib} {memory : ℕ → Bool} {turns : ℕ} {heap heap' : Heap} {data content : Bytes}

/-- A complete stream is inflated, when everything asked for is granted. -/
theorem callGzipDecompress_complete (fresh : ℕ → UInt8) (hz : z.Inflates data content True)
    (hsize : data.length * 8 < 4294967296) (hcontent : content.length < 4294967296)
    (hmemory : ∀ k, memory k = true) (hheap : heap.Generous)
    (hturns : data.length + content.length + 1 ≤ turns) :
    (callGzipDecompress z memory fresh turns heap data).Gives (.ok content) := by
  obtain ⟨p, n, hp, hleft, hbound⟩ := gzipDecompress_turns hz hsize hcontent fresh heap turns
  unfold callGzipDecompress
  rw [hp]
  cases hleft with
  | head _ hless =>
    -- there were turns enough to leave the loop
    obtain hn | ⟨r, hr⟩ := hbound
    · omega
    · cases hr
  | @returned r hcorrect =>
    obtain ⟨out, hout, htake⟩ :=
      hcorrect.content trivial ⟨fun k _ _ => hheap k, fun k _ => hmemory k⟩
    obtain ⟨_, heap₁, calls⟩ := r
    obtain rfl := hout
    exact gives_returned.mpr (congrArg Except.ok htake)

/-- A payload that is a gzip member of `content`, for both libraries. -/
structure IsMember (z : Zlib) (inflate : Bytes → Option Bytes) (isZlib : Bytes → Prop)
    (content p : Bytes) : Prop where
  member : ∃ m : GzipMember, m.encode = p ∧ inflate m.body = some content ∧ ¬ isZlib m.body
  inflates : z.Inflates p content True
  length_lt : content.length < 4294967296

/-- **The two parsers agree**, where memory is granted, on every message that
carries no compressed payload, and on one that carries a gzip member just if
the content fits the firmware's buffer. -/
theorem parsers_agree_iff {lib : Miniz} {inflate : Bytes → Option Bytes} {isZlib : Bytes → Prop}
    (hlib : lib.Lawful inflate isZlib) (fresh : ℕ → UInt8) (hmemory : ∀ k, memory k = true)
    (hheap : heap.Generous) (hheap' : heap'.Generous) (hlen : data.length < 268435456)
    (hmember : ∀ p, gzipPayload data = some p → IsMember z inflate isZlib content p)
    (hturns : data.length + content.length + 1 ≤ turns) :
    (protocolParseResponse z memory fresh turns heap data).Gives
        (BoxDoubao.protocolParseResponse lib.tinfl heap' data).1 ↔
      ∀ p, gzipPayload data = some p → content.length ≤ max 4096 (8 * p.length) := by
  rw [protocolParseResponse_gives_iff hheap hheap' (by omega)]
  refine forall₂_congr fun p hp => ?_
  have hshort := length_gzipPayload_le hp
  obtain ⟨⟨m, rfl, hx, hzlib⟩, hz, hcontent⟩ := hmember p hp
  -- the desktop gets the content in any case
  obtain ⟨heap₁, hcall⟩ := callGzipDecompress_complete fresh hz (by omega) hcontent
    hmemory hheap (by omega : m.encode.length + content.length + 1 ≤ turns)
  have halloc : heap'.mallocFallback.1 = true := by rw [hheap'.mallocFallback]
  rw [hcall, gives_returned, eq_comm]
  exact gzipDecompress_member_iff hlib hx hzlib (by omega) halloc

end

/-! ### A compressed ack -/

/-- The text `hi`, as zlib compresses it. -/
def greetingMember : GzipMember := { memberOf 0 greeting [203, 200, 4, 0] with os := 3 }

/-- An ack that carries it. -/
def greetingAck : Bytes := [0x11, 0xB0, 0x11, 0, 0, 0, 0, 0, 0, 0, 0, 22] ++ greetingStream

theorem parsers_agree_iff_greetingAck :
    (protocolParseResponse greetingZlib (fun _ => true) (fun _ => 0) 64 Heap.unlimited
      greetingAck).Gives (BoxDoubao.protocolParseResponse
        (tableLib greetingMember.body greeting).tinfl Heap.unlimited greetingAck).1 := by
  have hpayload : gzipPayload greetingAck = some greetingStream := by decide
  have hmember : ∀ p, gzipPayload greetingAck = some p → IsMember greetingZlib
      (inflateTable greetingMember.body greeting) (fun _ => False) greeting p := by
    intro p hp
    obtain rfl := Option.some.inj (hpayload.symm.trans hp)
    exact ⟨⟨greetingMember, by decide, by decide, id⟩, greetingZlib_inflates, by decide⟩
  refine (parsers_agree_iff (tableLib_lawful (by decide) (by decide)) (fun _ => 0) (fun _ => rfl)
    Heap.generous_unlimited Heap.generous_unlimited (by decide) hmember (by decide)).mpr ?_
  intro p _
  exact (show greeting.length ≤ 4096 by decide).trans (le_max_left _ _)

end Desktop

end BoxDoubao
