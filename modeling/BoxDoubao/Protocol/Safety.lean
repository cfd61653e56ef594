import BoxDoubao.Lib.Trap
import BoxDoubao.Protocol.Parse

/-!
# The parser on hostile input

`Trapping` holds the parser a second time, statement by statement, with
arithmetic that stops when it wraps. Only the subtraction of the trailer from
what is left of the gzip data may wrap, as in the source; it is repaired by
the comparison behind it. The size of the output buffer is neither a cursor
nor a bound of a read and stays as it is.

`protocolParseResponse_safe` says, for every message shorter than `2 ^ 31`
bytes, that the trapping parser does what the parser does, that no access is
out of bounds, that the session id is terminated inside its array, that the
slice handed to miniz lies inside the payload, that the scans for a zero byte
end, and that a failed parse leaves no buffer behind.
-/

namespace BoxDoubao

open CMemory

/-! ### The parser with trapping arithmetic -/

namespace Trapping

def skipExtra (flags : UInt8) (data : Bytes) (offset : ℕ) : Except Fault ℕ :=
  if flags &&& 0x04 ≠ 0 then do
    let bound ← addTrap offset 2
    if bound > data.length then .error (.stop .failure)
    else do
      let lo ← noTrap (load data offset)
      let hi ← noTrap (load data (offset + 1))
      let xlen := lo.toUInt16 ||| (hi.toUInt16 <<< 8)
      let skip ← addTrap 2 xlen.toNat
      addTrap offset skip
  else return offset

def scanNul : Bytes → ℕ → Except Fault ℕ
  | [], offset => return offset
  | b :: rest, offset =>
    if b ≠ 0 then do
      let offset ← addTrap offset 1
      scanNul rest offset
    else return offset

def skipString (mask flags : UInt8) (data : Bytes) (offset : ℕ) : Except Fault ℕ :=
  if flags &&& mask ≠ 0 then do
    let offset ← scanNul (data.drop offset) offset
    addTrap offset 1
  else return offset

def skipHeaderCrc (flags : UInt8) (offset : ℕ) : Except Fault ℕ :=
  if flags &&& 0x02 ≠ 0 then addTrap offset 2 else return offset

/-- The subtraction of the trailer may wrap. -/
def deflateLen (dataLen offset : ℕ) : Except Fault ℕ := do
  let left ← subTrap dataLen offset
  let n := szSub left 8
  if n = 0 ∨ (UInt32.ofNat n).toInt32 < 0 then subTrap dataLen offset else return n

def gzipBody (data : Bytes) : Except Fault (ℕ × ℕ) :=
  if data.length < 10 then .error (.stop .failure)
  else do
    let id1 ← noTrap (load data 0)
    if id1 ≠ 0x1F then .error (.stop .failure)
    else do
      let id2 ← noTrap (load data 1)
      if id2 ≠ 0x8B then .error (.stop .failure)
      else do
        let flags ← noTrap (load data 3)
        let offset ← skipExtra flags data 10
        let offset ← skipString 0x08 flags data offset
        let offset ← skipString 0x10 flags data offset
        let offset ← skipHeaderCrc flags offset
        if offset ≥ data.length then .error (.stop .failure)
        else do
          let len ← deflateLen data.length offset
          return (offset, len)

def gzipDecompress (tinfl : Tinfl) (heap : Heap) (data : Bytes) : Except Fault Bytes × Heap :=
  match gzipBody data with
  | .error e => (.error e, heap)
  | .ok (start, len) =>
    match heap.mallocFallback with
    | (false, heap) => (.error (.stop .failure), heap)
    | (true, heap) =>
      match noTrap (loadRange data start len) with
      | .error e => (.error e, heap)
      | .ok src =>
        match inflateEither tinfl (inflateCapacity data.length) src with
        | some out => (.ok out, heap)
        | none => (.error (.stop .failure), heap.free)

section Cursor

variable (payload : Bytes) (payloadLen : ℕ)

def takeU32 (offset : ℕ) : Except Fault (UInt32 × ℕ) := do
  let bound ← addTrap offset 4
  if bound > payloadLen then .error (.stop .failure)
  else do
    let v ← noTrap (loadBe32 payload offset)
    let offset ← addTrap offset 4
    return (v, offset)

def takeSeq (msgFlags : UInt8) (resp : ParsedResponse) (offset : ℕ) :
    Except Fault (ParsedResponse × ℕ) :=
  if msgFlags &&& flagNegSequence ≠ 0 then do
    let (v, offset) ← takeU32 payload payloadLen offset
    return ({ resp with seq := v, hasSeq := true }, offset)
  else return (resp, offset)

def takeEvent (msgFlags : UInt8) (resp : ParsedResponse) (offset : ℕ) :
    Except Fault (ParsedResponse × ℕ) :=
  if msgFlags &&& flagMsgWithEvent ≠ 0 then do
    let (v, offset) ← takeU32 payload payloadLen offset
    return ({ resp with event := v.toInt32, hasEvent := true }, offset)
  else return (resp, offset)

def takeSessionId (resp : ParsedResponse) (offset : ℕ) : Except Fault (ParsedResponse × ℕ) := do
  let (n, offset) ← takeU32 payload payloadLen offset
  if 0 < n.toInt32 then do
    let sidLen := n.toInt32.toUInt32.toNat
    let bound ← addTrap offset sidLen
    if bound > payloadLen then .error (.stop .failure)
    else do
      let copyLen := if sidLen < 128 - 1 then sidLen else 128 - 1
      let src ← noTrap (loadRange payload offset copyLen)
      let sessionId ←
        noTrap (do let a ← resp.sessionId.memcpy 0 src; a.memcpy src.length [0])
      let offset ← addTrap offset sidLen
      return ({ resp with sessionId := sessionId }, offset)
  else return (resp, offset)

def takePayloadSize (resp : ParsedResponse) (offset : ℕ) :
    Except Fault (ParsedResponse × ℕ) := do
  let (v, offset) ← takeU32 payload payloadLen offset
  return ({ resp with payloadSize := v }, offset)

def takeFields (msgFlags : UInt8) (resp : ParsedResponse) :
    Except Fault (ParsedResponse × ℕ) := do
  let (resp, offset) ← takeSeq payload payloadLen msgFlags resp 0
  let (resp, offset) ← takeEvent payload payloadLen msgFlags resp offset
  let (resp, offset) ← takeSessionId payload payloadLen resp offset
  takePayloadSize payload payloadLen resp offset

end Cursor

def decodePayload (tinfl : Tinfl) (heap : Heap) (compression : UInt8)
    (msgData : Bytes) (msgLen : ℕ) : Except Fault Bytes × Heap :=
  if compression = compressGzip then gzipDecompress tinfl heap (msgData.take msgLen)
  else
    match heap.mallocFallback with
    | (false, heap) => (.error (.stop .failure), heap)
    | (true, heap) => (noTrap (loadRange msgData 0 msgLen), heap)

def parseServerResponse (tinfl : Tinfl) (heap : Heap) (hd : Header)
    (payload : Bytes) (payloadLen : ℕ) (resp : ParsedResponse) :
    Except Fault ParsedResponse × Heap :=
  match takeFields payload payloadLen hd.msgFlags resp with
  | .error e => (.error e, heap)
  | .ok (resp, offset) =>
    match subTrap payloadLen offset with
    | .error e => (.error e, heap)
    | .ok msgLen =>
      if msgLen = 0 ∨ resp.payloadSize = 0 then
        (.ok { resp with payloadData := none, payloadDataLen := 0 }, heap)
      else
        match decodePayload tinfl heap hd.compression (payload.drop offset) msgLen with
        | (.error e, heap) => (.error e, heap)
        | (.ok decompressed, heap) =>
          (.ok { resp with
            isBinary := hd.serialMethod == serialNone
            payloadData := some decompressed
            payloadDataLen := decompressed.length }, heap)

def errorPayload (tinfl : Tinfl) (heap : Heap) (compression : UInt8)
    (msgData : Bytes) (msgLen : ℕ) : Except Fault (Option Bytes × ℕ) × Heap :=
  if compression = compressGzip then
    match gzipDecompress tinfl heap (msgData.take msgLen) with
    | (.ok out, heap) => (.ok (some out, out.length), heap)
    | (.error (.stop .failure), heap) => (.ok (none, 0), heap)
    | (.error e, heap) => (.error e, heap)
  else
    match heap.malloc with
    | (false, heap) => (.ok (none, msgLen), heap)
    | (true, heap) =>
      (do let out ← noTrap (loadRange msgData 0 msgLen); return (some out, msgLen), heap)

def parseServerError (tinfl : Tinfl) (heap : Heap) (hd : Header)
    (payload : Bytes) (payloadLen : ℕ) (resp : ParsedResponse) :
    Except Fault ParsedResponse × Heap :=
  if payloadLen < 8 then (.error (.stop .failure), heap)
  else
    match noTrap (do let c ← loadBe32 payload 0; let n ← loadBe32 payload 4; return (c, n)) with
    | .error e => (.error e, heap)
    | .ok (errorCode, payloadSize) =>
      let resp := { resp with errorCode := errorCode, payloadSize := payloadSize }
      match subTrap payloadLen 8 with
      | .error e => (.error e, heap)
      | .ok msgLen =>
        if msgLen > 0 then
          match errorPayload tinfl heap hd.compression (payload.drop 8) msgLen with
          | (.error e, heap) => (.error e, heap)
          | (.ok (buf, len), heap) =>
            (.ok { resp with payloadData := buf, payloadDataLen := len }, heap)
        else (.ok resp, heap)

def protocolParseResponse (tinfl : Tinfl) (heap : Heap) (data : Bytes) :
    Except Fault ParsedResponse × Heap :=
  if data.length < 4 then (.error (.stop .failure), heap)
  else
    match noTrap (parseHeader data) with
    | .error e => (.error e, heap)
    | .ok hd =>
      match mulTrap hd.headerSize.toNat 4 with
      | .error e => (.error e, heap)
      | .ok headerBytes =>
        if data.length < headerBytes then (.error (.stop .failure), heap)
        else
          match subTrap data.length headerBytes with
          | .error e => (.error e, heap)
          | .ok payloadLen =>
            let payload := data.drop headerBytes
            let resp := ParsedResponse.ofType hd.messageType
            if hd.messageType = msgServerFullResponse ∨ hd.messageType = msgServerAck then
              parseServerResponse tinfl heap hd payload payloadLen resp
            else if hd.messageType = msgServerError then
              parseServerError tinfl heap hd payload payloadLen resp
            else (.ok resp, heap)

end Trapping

/-! ### The gzip header walk -/

section Gzip

variable {data : Bytes} {offset : ℕ}

/-- An iteration of `while (offset < data_len && data[offset] != 0) offset++;`
and its end. `Scan data i j` says that the loop entered at `i` ends at `j`. -/
inductive Scan (data : Bytes) : ℕ → ℕ → Prop
  | past {i : ℕ} (h : data.length ≤ i) : Scan data i i
  | zero {i : ℕ} (h : i < data.length) (hb : data[i] = 0) : Scan data i i
  | next {i j : ℕ} (h : i < data.length) (hb : data[i] ≠ 0) (hrest : Scan data (i + 1) j) :
      Scan data i j

/-- The loop ends, and it ends where `scanNul` says. -/
theorem scan_scanNul (data : Bytes) (offset : ℕ) :
    Scan data offset (scanNul (data.drop offset) offset) := by
  -- on the number of bytes that are left
  induction hn : data.length - offset generalizing offset with
  | zero =>
    have hle : data.length ≤ offset := by omega
    rw [List.drop_eq_nil_of_le hle]
    exact .past hle
  | succ n ih =>
    have hlt : offset < data.length := by omega
    rw [List.drop_eq_getElem_cons hlt]
    unfold scanNul
    by_cases hb : data[offset] = 0
    · rw [if_neg (not_not.mpr hb)]
      exact .zero hlt hb
    · rw [if_pos hb]
      exact .next hlt hb (ih (offset + 1) (by omega))

/-- The scan stops at the end of the data at the latest. -/
theorem scanNul_le (bytes : Bytes) (offset : ℕ) :
    scanNul bytes offset ≤ offset + bytes.length := by
  induction bytes generalizing offset with
  | nil => exact le_refl _
  | cons b rest ih =>
    have hrest := ih (offset + 1)
    unfold scanNul
    rw [List.length_cons]
    split <;> omega

theorem scanNul_trapping (bytes : Bytes) (offset : ℕ)
    (hfit : offset + bytes.length < 4294967296) :
    Trapping.scanNul bytes offset = .ok (scanNul bytes offset) := by
  -- the cursor moves once for each byte, so the whole scan fits
  induction bytes generalizing offset with
  | nil => rfl
  | cons b rest ih =>
    rw [List.length_cons] at hfit
    unfold Trapping.scanNul scanNul
    by_cases hb : b ≠ 0
    · have hadd : addTrap offset 1 = .ok (offset + 1) := if_pos (by omega)
      rw [if_pos hb, if_pos hb, hadd]
      exact ih (offset + 1) (by omega)
    · rw [if_neg hb, if_neg hb]
      rfl

/-- The cursor stays below this throughout the walk. -/
def walkBound (data : Bytes) : ℕ := data.length + 65547

theorem skipExtra_safe (flags : UInt8) (hlen : data.length < 2147483648) :
    Safe (Trapping.skipExtra flags data 10) (skipExtra flags data 10)
      (· ≤ walkBound data) := by
  unfold Trapping.skipExtra skipExtra walkBound
  refine Safe.ite (fun _ => ?_) (fun _ => Safe.pure (by omega))
  refine Safe.add (by omega) ?_
  rw [sz_of_lt (by omega)]
  refine Safe.ite (fun _ => Safe.fail) (fun hin => ?_)
  refine (Safe.load (by omega)).bind fun lo _ => ?_
  refine (Safe.load (by omega)).bind fun hi _ => ?_
  -- the length is a 16-bit number
  have hxlen := (lo.toUInt16 ||| (hi.toUInt16 <<< 8)).toNat_lt
  simp only
  generalize (lo.toUInt16 ||| (hi.toUInt16 <<< 8)).toNat = xlen at hxlen ⊢
  refine Safe.add (by omega) ?_
  rw [sz_of_lt (by omega : 2 + xlen < 4294967296), sz_of_lt (by omega)]
  have hsum : addTrap 10 (2 + xlen) = .ok (10 + (2 + xlen)) := if_pos (by omega)
  rw [hsum]
  exact Safe.pure (by omega)

theorem skipString_trapping (data : Bytes) (mask flags : UInt8) (bound : ℕ)
    (hbound : bound + 1 < 4294967296) (hdata : data.length ≤ bound) (ho : offset ≤ bound) :
    Trapping.skipString mask flags data offset = .ok (skipString mask flags data offset) ∧
      skipString mask flags data offset ≤ bound + 1 := by
  -- behind the end of the data the scan does not move at all
  have hend := scanNul_le (data.drop offset) offset
  rw [List.length_drop] at hend
  unfold Trapping.skipString skipString
  by_cases hf : flags &&& mask ≠ 0
  · have hscan := scanNul_trapping (data.drop offset) offset (by rw [List.length_drop]; omega)
    have hadd : addTrap (scanNul (data.drop offset) offset) 1 =
        .ok (scanNul (data.drop offset) offset + 1) := if_pos (by omega)
    rw [if_pos hf, if_pos hf, hscan, sz_of_lt (by omega)]
    exact ⟨hadd, by omega⟩
  · rw [if_neg hf, if_neg hf]
    exact ⟨rfl, by omega⟩

theorem skipHeaderCrc_trapping (flags : UInt8) (ho : offset + 2 < 4294967296) :
    Trapping.skipHeaderCrc flags offset = .ok (skipHeaderCrc flags offset) := by
  unfold Trapping.skipHeaderCrc skipHeaderCrc
  by_cases hf : flags &&& 0x02 ≠ 0
  · rw [if_pos hf, if_pos hf, sz_of_lt ho]
    exact if_pos ho
  · rw [if_neg hf, if_neg hf]
    rfl

/-- The trailer is cut off when there is one and something before it. A
subtraction that wrapped is taken back. -/
theorem deflateLen_eq {dataLen : ℕ} (hlen : dataLen < 2147483648) (ho : offset < dataLen) :
    deflateLen dataLen offset =
      if dataLen - offset ≤ 8 then dataLen - offset else dataLen - offset - 8 := by
  have hleft : szSub dataLen offset = dataLen - offset :=
    szSub_of_le (by omega) (by omega)
  unfold deflateLen
  simp only [hleft]
  by_cases hshort : dataLen - offset ≤ 8
  · rw [if_pos hshort]
    refine if_pos ?_
    by_cases heq : dataLen - offset = 8
    · left
      rw [heq]
      rfl
    · -- the difference wraps to a value just below `2 ^ 32`, negative as an `int`
      right
      have hwrap : szSub (dataLen - offset) 8 = dataLen - offset + 4294967288 :=
        sz_of_lt (by omega)
      rw [toInt32_neg_iff, hwrap, UInt32.toNat_ofNat_of_lt' (by show _ < 4294967296; omega)]
      omega
  · rw [if_neg hshort]
    have hsub : szSub (dataLen - offset) 8 = dataLen - offset - 8 :=
      szSub_of_le (by omega) (by omega)
    rw [hsub]
    refine if_neg ?_
    rintro (hzero | hneg)
    · omega
    · rw [toInt32_neg_iff, UInt32.toNat_ofNat_of_lt' (by show _ < 4294967296; omega)] at hneg
      omega

theorem deflateLen_trapping {dataLen : ℕ} (hlen : dataLen < 2147483648) (ho : offset < dataLen) :
    Trapping.deflateLen dataLen offset = .ok (deflateLen dataLen offset) := by
  have hsub : subTrap dataLen offset = .ok (dataLen - offset) := if_pos (by omega)
  have hleft : szSub dataLen offset = dataLen - offset :=
    szSub_of_le (by omega) (by omega)
  -- where the second subtraction wraps, the first is made once more
  have hrepair : ∀ n : ℕ,
      (if n = 0 ∨ (UInt32.ofNat n).toInt32 < 0 then subTrap dataLen offset else .ok n) =
        .ok (if n = 0 ∨ (UInt32.ofNat n).toInt32 < 0 then dataLen - offset else n) := by
    intro n
    by_cases hn : n = 0 ∨ (UInt32.ofNat n).toInt32 < 0
    · rw [if_pos hn, if_pos hn, hsub]
    · rw [if_neg hn, if_neg hn]
  unfold Trapping.deflateLen deflateLen
  refine (bind_ok hsub).trans ?_
  rw [hleft]
  exact hrepair _

/-- **The header walk** does not leave the data, its cursor does not wrap, and
the slice it ends with lies inside the data and is not empty. -/
theorem gzipBody_safe (hlen : data.length < 2147483648) :
    Safe (Trapping.gzipBody data) (gzipBody data)
      fun slice => 0 < slice.2 ∧ slice.1 + slice.2 ≤ data.length := by
  unfold Trapping.gzipBody gzipBody
  refine Safe.ite (fun _ => Safe.fail) (fun hten => ?_)
  refine (Safe.load (by omega)).bind fun id1 _ => ?_
  refine Safe.ite (fun _ => Safe.fail) (fun _ => ?_)
  refine (Safe.load (by omega)).bind fun id2 _ => ?_
  refine Safe.ite (fun _ => Safe.fail) (fun _ => ?_)
  refine (Safe.load (by omega)).bind fun flags _ => ?_
  refine (skipExtra_safe flags hlen).bind fun o₁ ho₁ => ?_
  -- each of the two strings moves the bound by one
  unfold walkBound at ho₁
  obtain ⟨hname, ho₂⟩ := skipString_trapping data 0x08 flags
    (data.length + 65547) (by omega) (by omega) ho₁
  obtain ⟨hcomment, ho₃⟩ := skipString_trapping data 0x10 flags
    (data.length + 65548) (by omega) (by omega) ho₂
  refine Safe.value hname ?_
  refine Safe.value hcomment ?_
  refine Safe.value (skipHeaderCrc_trapping flags (by omega)) ?_
  refine Safe.ite (fun _ => Safe.fail) (fun hin => ?_)
  have hin' := not_le.mp hin
  refine Safe.value (deflateLen_trapping hlen hin') (Safe.pure ?_)
  rw [deflateLen_eq hlen hin']
  split <;> omega

end Gzip

/-! ### The fields -/

section Fields

variable {payload : Bytes} {offset : ℕ} {resp : ParsedResponse}

theorem takeU32_safe (hlen : payload.length < 2147483648) (ho : offset ≤ payload.length) :
    Safe (Trapping.takeU32 payload payload.length offset) (takeU32 payload payload.length offset)
      (fun r => r.2 ≤ payload.length) := by
  unfold Trapping.takeU32 takeU32
  rw [sz_of_lt (by omega)]
  refine Safe.add (by omega) (Safe.ite (fun _ => Safe.fail) fun hin => ?_)
  refine (Safe.loadBe32 (by omega)).bind fun v _ => ?_
  exact Safe.add (by omega) (Safe.pure (by omega))

/-- What holds between two fields: the cursor is inside the payload and the
session id is a string. -/
def FieldRead (payload : Bytes) (r : ParsedResponse × ℕ) : Prop :=
  r.1.sessionId.Terminated ∧ r.2 ≤ payload.length

theorem takeSeq_safe (flags : UInt8) (hlen : payload.length < 2147483648)
    (h : FieldRead payload (resp, offset)) :
    Safe (Trapping.takeSeq payload payload.length flags resp offset)
      (takeSeq payload payload.length flags resp offset) (FieldRead payload) := by
  refine Safe.ite (fun _ => ?_) (fun _ => Safe.pure h)
  refine (takeU32_safe hlen h.2).bind fun r hr => Safe.pure ⟨h.1, hr⟩

theorem takeEvent_safe (flags : UInt8) (hlen : payload.length < 2147483648)
    (h : FieldRead payload (resp, offset)) :
    Safe (Trapping.takeEvent payload payload.length flags resp offset)
      (takeEvent payload payload.length flags resp offset) (FieldRead payload) := by
  refine Safe.ite (fun _ => ?_) (fun _ => Safe.pure h)
  refine (takeU32_safe hlen h.2).bind fun r hr => Safe.pure ⟨h.1, hr⟩

theorem takePayloadSize_safe (hlen : payload.length < 2147483648)
    (h : FieldRead payload (resp, offset)) :
    Safe (Trapping.takePayloadSize payload payload.length resp offset)
      (takePayloadSize payload payload.length resp offset) (FieldRead payload) := by
  exact (takeU32_safe hlen h.2).bind fun r hr => Safe.pure ⟨h.1, hr⟩

/-- A length that is read as positive is below `2 ^ 31`, so the bound does not
wrap; the copy is cut to 127 bytes. -/
theorem takeSessionId_safe (hlen : payload.length < 2147483648)
    (h : FieldRead payload (resp, offset)) :
    Safe (Trapping.takeSessionId payload payload.length resp offset)
      (takeSessionId payload payload.length resp offset) (FieldRead payload) := by
  unfold Trapping.takeSessionId takeSessionId
  refine (takeU32_safe hlen h.2).bind ?_
  rintro ⟨n, o⟩ ho
  have ho' : o ≤ payload.length := ho
  simp only
  refine Safe.ite (fun hpos => ?_) (fun _ => Safe.pure ⟨h.1, ho⟩)
  obtain ⟨-, hsmall⟩ := (toInt32_pos_iff n).mp hpos
  rw [UInt32.toUInt32_toInt32, sz_of_lt (by omega)]
  refine Safe.add (by omega) (Safe.ite (fun _ => Safe.fail) fun hin => ?_)
  -- one byte of the array is left for the NUL
  have hcopy : (if n.toNat < 128 - 1 then n.toNat else 128 - 1) < 128 ∧
      (if n.toNat < 128 - 1 then n.toNat else 128 - 1) ≤ n.toNat := by
    split <;> omega
  refine (Safe.loadRange (by omega)).bind fun src hsrc => ?_
  obtain ⟨a, ha, hterm⟩ := resp.sessionId.memcpy_terminate (hsrc ▸ hcopy.1)
  refine (Safe.noTrap ha (P := CArray.Terminated) hterm).bind fun sessionId hs => ?_
  exact Safe.add (by omega) (Safe.pure ⟨hs, not_lt.mp hin⟩)

theorem takeFields_safe (flags : UInt8) (hlen : payload.length < 2147483648)
    (hterm : resp.sessionId.Terminated) :
    Safe (Trapping.takeFields payload payload.length flags resp)
      (takeFields payload payload.length flags resp) (FieldRead payload) := by
  unfold Trapping.takeFields takeFields
  refine (takeSeq_safe flags hlen ⟨hterm, Nat.zero_le _⟩).bind fun r₁ h₁ => ?_
  refine (takeEvent_safe flags hlen h₁).bind fun r₂ h₂ => ?_
  refine (takeSessionId_safe hlen h₂).bind fun r₃ h₃ => ?_
  exact takePayloadSize_safe hlen h₃

end Fields

/-! ### The payload buffer -/

section Buffers

variable (tinfl : Tinfl) (heap : Heap)

theorem gzipDecompress_safe {data : Bytes} (hlen : data.length < 2147483648) :
    SafeCall heap (Trapping.gzipDecompress tinfl heap data) (gzipDecompress tinfl heap data)
      (fun _ => True) := by
  unfold Trapping.gzipDecompress gzipDecompress
  obtain ⟨e, ht, hx, he⟩ | ⟨⟨start, len⟩, ht, hx, -, hin⟩ := (gzipBody_safe hlen).cases
  · rw [ht, hx]
    exact SafeCall.error he rfl
  · rw [ht, hx]
    simp only
    obtain ⟨granted, heap', hm⟩ : ∃ granted heap', heap.mallocFallback = (granted, heap') :=
      ⟨_, _, rfl⟩
    have hlive := Heap.live_mallocFallback hm
    rw [hm]
    cases granted with
    | false =>
      -- nothing was allocated
      exact SafeCall.fail hlive
    | true =>
      have hload : loadRange data start len = .ok ((data.drop start).take len) := if_pos hin
      rw [hload]
      simp only [noTrap]
      cases inflateEither tinfl (inflateCapacity data.length) ((data.drop start).take len) with
      | some out => exact SafeCall.ok trivial
      | none =>
        -- the output buffer is given back
        refine SafeCall.fail ?_
        show heap'.live - 1 = heap.live
        rw [hlive]
        rfl

theorem decodePayload_safe (compression : UInt8) {msgData : Bytes}
    (hlen : msgData.length < 2147483648) :
    SafeCall heap (Trapping.decodePayload tinfl heap compression msgData msgData.length)
      (decodePayload tinfl heap compression msgData msgData.length) (fun _ => True) := by
  unfold Trapping.decodePayload decodePayload
  refine SafeCall.ite (fun _ => ?_) (fun _ => ?_)
  · rw [List.take_length]
    exact gzipDecompress_safe tinfl heap hlen
  · unfold copyPayload
    obtain ⟨granted, heap', hm⟩ : ∃ granted heap', heap.mallocFallback = (granted, heap') :=
      ⟨_, _, rfl⟩
    rw [hm]
    cases granted with
    | false => exact SafeCall.fail (Heap.live_mallocFallback hm)
    | true =>
      rw [loadRange_self]
      exact SafeCall.ok trivial

theorem parseServerResponse_safe (hd : Header) {payload : Bytes} {resp : ParsedResponse}
    (hlen : payload.length < 2147483648) (hterm : resp.sessionId.Terminated) :
    SafeCall heap (Trapping.parseServerResponse tinfl heap hd payload payload.length resp)
      (parseServerResponse tinfl heap hd payload payload.length resp)
      (fun r => r.sessionId.Terminated) := by
  unfold Trapping.parseServerResponse parseServerResponse
  obtain ⟨e, ht, hx, he⟩ | ⟨⟨r, offset⟩, ht, hx, hr, ho⟩ :=
    (takeFields_safe hd.msgFlags hlen hterm).cases
  · rw [ht, hx]
    exact SafeCall.error he rfl
  · have ho' : offset ≤ payload.length := ho
    have hsub : subTrap payload.length offset = .ok (payload.length - offset) := if_pos ho'
    have hmsg : payload.length - offset = (payload.drop offset).length := List.length_drop.symm
    rw [ht, hx]
    simp only [hsub, szSub_of_le ho' (by omega : payload.length < 4294967296)]
    refine SafeCall.ite (fun _ => SafeCall.ok hr) (fun _ => ?_)
    rw [hmsg]
    obtain ⟨e, heap', ht', hx', he, hlive⟩ | ⟨out, heap', ht', hx', -⟩ :=
      (decodePayload_safe tinfl heap hd.compression
        (by rw [List.length_drop]; omega : (payload.drop offset).length < 2147483648)).cases
    · rw [ht', hx']
      exact SafeCall.error he hlive
    · rw [ht', hx']
      exact SafeCall.ok hr

/-- The payload of an error message never fails the parse. -/
theorem errorPayload_safe (compression : UInt8) {msgData : Bytes}
    (hlen : msgData.length < 2147483648) :
    SafeCall heap (Trapping.errorPayload tinfl heap compression msgData msgData.length)
      (errorPayload tinfl heap compression msgData msgData.length) (fun _ => True) := by
  unfold Trapping.errorPayload errorPayload
  refine SafeCall.ite (fun _ => ?_) (fun _ => ?_)
  · rw [List.take_length]
    obtain ⟨e, heap', ht, hx, he, -⟩ | ⟨out, heap', ht, hx, -⟩ :=
      (gzipDecompress_safe tinfl heap hlen).cases
    · rw [ht, hx]
      cases e with
      | outOfBounds => exact absurd rfl he
      | failure =>
        -- the message is kept without a payload
        exact SafeCall.ok trivial
    · rw [ht, hx]
      exact SafeCall.ok trivial
  · obtain ⟨granted, heap', hm⟩ : ∃ granted heap', heap.malloc = (granted, heap') := ⟨_, _, rfl⟩
    rw [hm]
    cases granted with
    | false => exact SafeCall.ok trivial
    | true =>
      rw [loadRange_self]
      exact SafeCall.ok trivial

theorem parseServerError_safe (hd : Header) {payload : Bytes} {resp : ParsedResponse}
    (hlen : payload.length < 2147483648) (hterm : resp.sessionId.Terminated) :
    SafeCall heap (Trapping.parseServerError tinfl heap hd payload payload.length resp)
      (parseServerError tinfl heap hd payload payload.length resp)
      (fun r => r.sessionId.Terminated) := by
  unfold Trapping.parseServerError parseServerError
  refine SafeCall.ite (fun _ => SafeCall.fail rfl) (fun hlong => ?_)
  -- the code and the length are there
  have hwords : ∃ w, (do let c ← loadBe32 payload 0; let n ← loadBe32 payload 4; return (c, n)) =
      (.ok w : Except Stop (UInt32 × UInt32)) := by
    obtain ⟨c, -, -, hc⟩ := loadBe32_of_le (by omega : 0 + 4 ≤ payload.length)
    obtain ⟨n, -, -, hn⟩ := loadBe32_of_le (by omega : 4 + 4 ≤ payload.length)
    rw [hc, hn]
    exact ⟨(c, n), rfl⟩
  obtain ⟨⟨code, size⟩, hw⟩ := hwords
  have hsub : subTrap payload.length 8 = .ok (payload.length - 8) := if_pos (by omega)
  have hmsg : payload.length - 8 = (payload.drop 8).length := List.length_drop.symm
  rw [hw]
  simp only [noTrap, hsub, szSub_of_le (by omega : 8 ≤ payload.length)
    (by omega : payload.length < 4294967296)]
  refine SafeCall.ite (fun _ => ?_) (fun _ => SafeCall.ok hterm)
  rw [hmsg]
  obtain ⟨e, heap', ht, hx, he, hlive⟩ | ⟨⟨buf, len⟩, heap', ht, hx, -⟩ :=
    (errorPayload_safe tinfl heap hd.compression
      (by rw [List.length_drop]; omega : (payload.drop 8).length < 2147483648)).cases
  · rw [ht, hx]
    exact SafeCall.error he hlive
  · rw [ht, hx]
    exact SafeCall.ok hterm

end Buffers

/-! ### The parser -/

theorem parseHeader_of_le {data : Bytes} (h : 4 ≤ data.length) :
    ∃ hd : Header, parseHeader data = .ok hd ∧ hd.headerSize.toNat < 16 := by
  match data, h with
  | b0 :: b1 :: b2 :: b3 :: rest, _ =>
    refine ⟨_, rfl, ?_⟩
    show (b0 &&& 0x0F).toNat < 16
    rw [UInt8.toNat_and]
    exact Nat.lt_succ_of_le Nat.and_le_right

theorem protocolParseResponse_call (tinfl : Tinfl) (heap : Heap) {data : Bytes}
    (hlen : data.length < 2147483648) :
    SafeCall heap (Trapping.protocolParseResponse tinfl heap data)
      (protocolParseResponse tinfl heap data) (fun r => r.sessionId.Terminated) := by
  unfold Trapping.protocolParseResponse protocolParseResponse
  refine SafeCall.ite (fun _ => SafeCall.fail rfl) (fun hfour => ?_)
  obtain ⟨hd, hhd, hsize⟩ := parseHeader_of_le (by omega : 4 ≤ data.length)
  have hmul : mulTrap hd.headerSize.toNat 4 = .ok (hd.headerSize.toNat * 4) :=
    if_pos (by omega)
  rw [hhd]
  simp only [noTrap, hmul, sz_of_lt (by omega : hd.headerSize.toNat * 4 < 4294967296)]
  refine SafeCall.ite (fun _ => SafeCall.fail rfl) (fun hfit => ?_)
  have hle := not_lt.mp hfit
  have hsub : subTrap data.length (hd.headerSize.toNat * 4) =
      .ok (data.drop (hd.headerSize.toNat * 4)).length := by
    rw [List.length_drop]
    exact if_pos hle
  have hpayload : szSub data.length (hd.headerSize.toNat * 4) =
      (data.drop (hd.headerSize.toNat * 4)).length := by
    rw [List.length_drop]
    exact szSub_of_le hle (by omega)
  have hshort : (data.drop (hd.headerSize.toNat * 4)).length < 2147483648 := by
    rw [List.length_drop]
    omega
  -- the cleared session id is the empty string
  have hterm : (ParsedResponse.ofType hd.messageType).sessionId.Terminated :=
    ⟨0, by omega, rfl⟩
  simp only [hsub, hpayload]
  refine SafeCall.ite (fun _ => ?_) (fun _ => ?_)
  · exact parseServerResponse_safe tinfl heap hd hshort hterm
  · refine SafeCall.ite (fun _ => ?_) (fun _ => SafeCall.ok hterm)
    exact parseServerError_safe tinfl heap hd hshort hterm

/-- **Hostile input.** For every message shorter than `2 ^ 31` bytes: the
parser makes no access out of bounds; with arithmetic that stops when it wraps
it does the same; what it hands to miniz of a gzip payload is a non-empty slice
of it; the scans of the gzip header end; the session id it returns is
terminated inside its 128 bytes; and when it fails, every buffer it allocated
has been freed. -/
theorem protocolParseResponse_safe (tinfl : Tinfl) (heap : Heap) (data : Bytes)
    (hlen : data.length < 2147483648) :
    (protocolParseResponse tinfl heap data).1 ≠ .error .outOfBounds ∧
      (Trapping.protocolParseResponse tinfl heap data).1 =
        noTrap (protocolParseResponse tinfl heap data).1 ∧
      (∀ payload : Bytes, payload.length < 2147483648 →
        Trapping.gzipBody payload = noTrap (gzipBody payload) ∧
        gzipBody payload ≠ .error .outOfBounds ∧
        ∀ start len, gzipBody payload = .ok (start, len) →
          0 < len ∧ start + len ≤ payload.length) ∧
      (∀ (payload : Bytes) (offset : ℕ),
        Scan payload offset (scanNul (payload.drop offset) offset)) ∧
      (∀ r, (protocolParseResponse tinfl heap data).1 = .ok r →
        ∃ i, i < 128 ∧ r.sessionId.bytes[i]? = some 0) ∧
      (∀ e, (protocolParseResponse tinfl heap data).1 = .error e →
        (protocolParseResponse tinfl heap data).2.live = heap.live) := by
  have hcall := protocolParseResponse_call tinfl heap hlen
  refine ⟨hcall.safe.inBounds, hcall.safe.same, ?_, scan_scanNul, hcall.safe.result, hcall.freed⟩
  intro payload hpayload
  have hbody := gzipBody_safe hpayload
  exact ⟨hbody.same, hbody.inBounds, fun start len h => hbody.result (start, len) h⟩

/-- A gzip payload whose FNAME runs to the end of the message. -/
def openName : Bytes :=
  [17, 144, 1, 0, 0, 0, 0, 0, 0, 0, 0, 12, 0x1F, 0x8B, 8, 8, 0, 0, 0, 0, 0, 3, 97, 98]

theorem protocolParseResponse_safe_openName :
    (protocolParseResponse (fun _ _ _ => none) Heap.unlimited openName).1 = .error .failure ∧
      (protocolParseResponse (fun _ _ _ => none) Heap.unlimited openName).2.live = 0 := by
  have hfail : (protocolParseResponse (fun _ _ _ => none) Heap.unlimited openName).1 =
      .error .failure := by decide +kernel
  exact ⟨hfail, (protocolParseResponse_safe (fun _ _ _ => none) Heap.unlimited openName
    (by decide)).2.2.2.2.2 _ hfail⟩

end BoxDoubao
