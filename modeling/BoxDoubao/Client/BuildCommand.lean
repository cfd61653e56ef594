import BoxDoubao.Protocol.RoundTrip

/-!
# `build_command`

The encoder computes the size of a message first, allocates it and then writes
the fields behind a pointer that advances through the buffer. A buffer from
`malloc` holds anything, so its contents are a parameter (`fresh`).

`Command.layout` is the message as one expression, and
`buildCommand_layout` says that the writer produces it: every byte of the
buffer is written, and none outside it.
-/

namespace BoxDoubao

open CMemory

/-! ### The writer -/

/-- `write_u32_be`. -/
def writeU32Be (buf : Bytes) (p : ℕ) (val : UInt32) : Except Stop Bytes :=
  memcpy buf p (beBytes val)

/-- `protocol_generate_header`, which returns -1 on a buffer of less than four
bytes. -/
def protocolGenerateHeader (buf : Bytes) (p bufLen : ℕ)
    (messageType flags serialMethod compression : UInt8) : Except Stop Bytes :=
  if bufLen < 4 then .error .failure
  else memcpy buf p [(protocolVersion <<< 4) ||| defaultHeaderSize,
    (messageType <<< 4) ||| flags, (serialMethod <<< 4) ||| compression, 0x00]

/-- The copy of the payload, `NULL` when there is none; the flag is unset when
the allocation failed. -/
def copyForSending (heap : Heap) (payload : Option Bytes) : Bool × Option Bytes × Heap :=
  match payload with
  | some bytes =>
    if bytes.length > 0 then
      match heap.mallocFallback with
      | (true, heap) => (true, some bytes, heap)
      | (false, heap) => (false, none, heap)
    else (true, none, heap)
  | none => (true, none, heap)

/-- `total`. -/
def commandSize (sidLen compressedLen : ℕ) (includeSession : Bool) : ℕ :=
  let total := sz (4 + 4)
  let total := if includeSession then sz (total + sz (4 + sidLen)) else total
  sz (total + sz (4 + compressedLen))

/-- A length at `p`, and the bytes it counts when there are any. -/
def writeCounted (buf : Bytes) (p : ℕ) (bytes : Bytes) (n : ℕ) : Except Stop Bytes := do
  let buf ← writeU32Be buf p (UInt32.ofNat n)
  if n > 0 then memcpy buf (p + 4) (bytes.take n) else return buf

/-- The session field at `p`; the result is the buffer and the advanced
pointer. -/
def writeSession (buf : Bytes) (p : ℕ) (sessionId : Option CString) (sidLen : ℕ)
    (includeSession : Bool) : Except Stop (Bytes × ℕ) :=
  if includeSession then do
    let buf ← writeCounted buf p (sessionId.elim [] CString.chars) sidLen
    return (buf, if sidLen > 0 then p + 4 + sidLen else p + 4)
  else return (buf, p)

/-- Everything `build_command` writes. -/
def writeCommand (buf : Bytes) (msgType flags serial : UInt8) (cmdId : UInt32)
    (sessionId : Option CString) (sidLen : ℕ) (compressed : Bytes) (includeSession : Bool) :
    Except Stop Bytes := do
  let buf ← protocolGenerateHeader buf 0 4 msgType flags serial compressNone
  let buf ← writeU32Be buf 4 cmdId
  let (buf, p) ← writeSession buf 8 sessionId sidLen includeSession
  writeCounted buf p compressed compressed.length

/-- `build_command`. The result is the buffer and `out_len`, or `Stop.failure`
for `NULL`. The compression asked for is overridden. -/
def buildCommand (fresh : ℕ → UInt8) (heap : Heap) (msgType flags serial _compress : UInt8)
    (cmdId : UInt32) (sessionId : Option CString) (payload : Option Bytes)
    (includeSession : Bool) : Except Stop (Bytes × ℕ) × Heap :=
  match copyForSending heap payload with
  | (false, _, heap) => (.error .failure, heap)
  | (true, copy, heap) =>
    let compressed := copy.getD []
    let sidLen := sessionId.elim 0 CString.strlen
    let total := commandSize sidLen compressed.length includeSession
    match heap.malloc with
    | (false, heap) => (.error .failure, heap.freeOption copy)
    | (true, heap) =>
      match writeCommand (newBuffer fresh total) msgType flags serial cmdId sessionId sidLen
          compressed includeSession with
      | .error e => (.error e, heap)
      | .ok buf => (.ok (buf, total), heap.freeOption copy)

/-! ### The layout -/

/-- A command, with the parameters of its header. -/
structure Command where
  msgType : Fin 16
  flags : Fin 16
  serial : Fin 16
  cmdId : UInt32
  sessionId : CString
  payload : Bytes
  deriving DecidableEq

namespace Command

/-- The session field: the length of the session id, and the session id. -/
def sessionField (c : Command) (includeSession : Bool) : Bytes :=
  if includeSession then ServerMessage.counted c.sessionId.chars else []

/-- The message: header, command id, session field, payload with its length.
The compression nibble says `COMPRESS_NONE`. -/
def layout (c : Command) (includeSession : Bool) : Bytes :=
  [nibbles 1 1, nibbles c.msgType c.flags, nibbles c.serial 0, 0] ++
    (beBytes c.cmdId ++ (c.sessionField includeSession ++ ServerMessage.counted c.payload))

/-- `build_command` on the command. -/
def build (fresh : ℕ → UInt8) (heap : Heap) (compress : UInt8) (includeSession : Bool)
    (c : Command) : Except Stop (Bytes × ℕ) × Heap :=
  buildCommand fresh heap (nibble c.msgType) (nibble c.flags) (nibble c.serial) compress c.cmdId
    (some c.sessionId) (some c.payload) includeSession

end Command

theorem nibble_shiftLeft_or : ∀ hi lo : Fin 16,
    (nibble hi <<< 4) ||| nibble lo = nibbles hi lo := by
  decide +kernel

theorem Command.length_layout (c : Command) (includeSession : Bool) :
    (c.layout includeSession).length =
      8 + (if includeSession then 4 + c.sessionId.strlen else 0) + (4 + c.payload.length) := by
  have hsess : (c.sessionField includeSession).length =
      if includeSession then 4 + c.sessionId.strlen else 0 := by
    cases includeSession with
    | false => rfl
    | true => exact length_counted _
  simp only [layout, List.length_append, hsess, length_counted, length_beBytes, List.length_cons,
    List.length_nil]
  omega

/-- The size computed beforehand is the length of the message. -/
theorem commandSize_eq (c : Command) (includeSession : Bool)
    (hlen : (c.layout includeSession).length < 2147483648) :
    commandSize c.sessionId.strlen c.payload.length includeSession =
      (c.layout includeSession).length := by
  rw [c.length_layout] at hlen ⊢
  unfold commandSize
  -- the message is shorter than 2^31 bytes, so none of the sums wraps
  cases includeSession with
  | false =>
    simp only [Bool.false_eq_true, if_false] at hlen ⊢
    rw [sz_of_lt (by omega : 4 + 4 < 4294967296), sz_of_lt (by omega : 4 + c.payload.length < _),
      sz_of_lt (by omega)]
  | true =>
    simp only [if_true] at hlen ⊢
    rw [sz_of_lt (by omega : 4 + 4 < 4294967296), sz_of_lt (by omega : 4 + c.sessionId.strlen < _),
      sz_of_lt (by omega : 4 + 4 + (4 + c.sessionId.strlen) < _),
      sz_of_lt (by omega : 4 + c.payload.length < _), sz_of_lt (by omega)]

/-! ### The writer produces the layout -/

theorem writeCounted_extend (bytes : Bytes) {buf written : Bytes} (h : written <+: buf)
    (hfit : written.length + (4 + bytes.length) ≤ buf.length) :
    ∃ buf', writeCounted buf written.length bytes bytes.length = .ok buf' ∧
      written ++ ServerMessage.counted bytes <+: buf' ∧ buf'.length = buf.length := by
  -- the word comes first, and the bytes it counts behind it
  obtain ⟨b₁, hword, hpre₁, hlen₁⟩ :=
    memcpy_extend (beBytes (UInt32.ofNat bytes.length)) h (by rw [length_beBytes]; omega)
  have hplace : (written ++ beBytes (UInt32.ofNat bytes.length)).length = written.length + 4 := by
    rw [List.length_append, length_beBytes]
  obtain ⟨b₂, hcopy, hpre₂, hlen₂⟩ := memcpy_extend bytes hpre₁ (by omega)
  rw [hplace] at hcopy
  rw [List.append_assoc] at hpre₂
  unfold writeCounted
  by_cases hpos : bytes.length > 0
  · refine ⟨b₂, (bind_ok hword).trans ?_, hpre₂, by omega⟩
    rw [if_pos hpos, List.take_length, hcopy]
  · -- the copy is skipped when there is nothing to copy
    obtain rfl : bytes = [] := List.eq_nil_of_length_eq_zero (by omega)
    refine ⟨b₁, (bind_ok hword).trans (if_neg hpos), ?_, hlen₁⟩
    rw [ServerMessage.counted, List.append_nil]
    exact hpre₁

theorem writeSession_extend {buf written : Bytes} (c : Command) (includeSession : Bool)
    (h : written <+: buf)
    (hfit : written.length + (c.sessionField includeSession).length ≤ buf.length) :
    ∃ buf', writeSession buf written.length (some c.sessionId) c.sessionId.strlen
        includeSession =
          .ok (buf', (written ++ c.sessionField includeSession).length) ∧
      written ++ c.sessionField includeSession <+: buf' ∧ buf'.length = buf.length := by
  cases includeSession with
  | false =>
    refine ⟨buf, ?_, ?_, rfl⟩
    · rw [Command.sessionField, if_neg Bool.false_ne_true, List.append_nil]
      rfl
    · rw [Command.sessionField, if_neg Bool.false_ne_true, List.append_nil]
      exact h
  | true =>
    have hfield : c.sessionField true = ServerMessage.counted c.sessionId.chars := if_pos rfl
    rw [hfield, length_counted] at hfit
    rw [hfield]
    obtain ⟨buf', hwrite, hpre, hlen⟩ := writeCounted_extend c.sessionId.chars h hfit
    refine ⟨buf', ?_, hpre, hlen⟩
    unfold writeSession
    rw [if_pos rfl]
    refine (bind_ok hwrite).trans ?_
    -- an empty session id advances by its length as well
    have hp : (if c.sessionId.strlen > 0 then written.length + 4 + c.sessionId.strlen
        else written.length + 4) = (written ++ ServerMessage.counted c.sessionId.chars).length := by
      rw [List.length_append, length_counted, CString.strlen]
      split <;> omega
    rw [hp]
    rfl

/-- **The writer.** Into a buffer of the right size, whatever it holds, the
layout is written. -/
theorem writeCommand_layout (c : Command) (includeSession : Bool) {buf : Bytes}
    (hbuf : buf.length = (c.layout includeSession).length) :
    writeCommand buf (nibble c.msgType) (nibble c.flags) (nibble c.serial) c.cmdId
      (some c.sessionId) c.sessionId.strlen c.payload includeSession =
        .ok (c.layout includeSession) := by
  have htotal : (c.layout includeSession).length =
      4 + (4 + ((c.sessionField includeSession).length + (4 + c.payload.length))) := by
    simp only [Command.layout, List.length_append, length_counted, length_beBytes,
      List.length_cons, List.length_nil]
  have hheader : protocolGenerateHeader buf 0 4 (nibble c.msgType) (nibble c.flags)
      (nibble c.serial) compressNone =
        memcpy buf 0 [nibbles 1 1, nibbles c.msgType c.flags, nibbles c.serial 0, 0] := by
    rw [protocolGenerateHeader, if_neg (by decide), nibble_shiftLeft_or,
      show compressNone = nibble 0 from rfl, nibble_shiftLeft_or]
    rfl
  -- each field is written behind the fields before it, into a buffer that keeps its size
  obtain ⟨b₁, h₁, hpre₁, hlen₁⟩ := memcpy_extend
    [nibbles 1 1, nibbles c.msgType c.flags, nibbles c.serial 0, 0]
    (List.nil_prefix : [] <+: buf) (by simp only [List.length_cons, List.length_nil]; omega)
  obtain ⟨b₂, h₂, hpre₂, hlen₂⟩ := memcpy_extend (beBytes c.cmdId) hpre₁
    (by simp only [List.length_append, List.length_cons, List.length_nil, length_beBytes]; omega)
  obtain ⟨b₃, h₃, hpre₃, hlen₃⟩ := writeSession_extend c includeSession hpre₂
    (by simp only [List.length_append, List.length_cons, List.length_nil, length_beBytes]; omega)
  obtain ⟨b₄, h₄, hpre₄, hlen₄⟩ := writeCounted_extend c.payload hpre₃
    (by simp only [List.length_append, List.length_cons, List.length_nil, length_beBytes]; omega)
  -- the whole buffer has been written
  have hfull : b₄ = c.layout includeSession := by
    have hlayout : [] ++ [nibbles 1 1, nibbles c.msgType c.flags, nibbles c.serial 0, 0] ++
        beBytes c.cmdId ++ c.sessionField includeSession ++ ServerMessage.counted c.payload =
          c.layout includeSession := by
      simp only [Command.layout, List.append_assoc, List.nil_append]
    rw [hlayout] at hpre₄
    exact (hpre₄.eq_of_length (by omega)).symm
  rw [hfull] at h₄
  unfold writeCommand
  rw [hheader]
  refine (bind_ok h₁).trans ?_
  refine (bind_ok h₂).trans ?_
  exact (bind_ok h₃).trans h₄

/-- The copy holds the payload, and is refused only by the allocator. -/
theorem copyForSending_cases (heap : Heap) (bytes : Bytes) :
    (∃ copy heap', copyForSending heap (some bytes) = (true, copy, heap') ∧
      copy.getD [] = bytes ∧ (heap.Generous → heap'.Generous)) ∨
    (∃ copy heap', copyForSending heap (some bytes) = (false, copy, heap') ∧
      ¬ heap.Generous) := by
  unfold copyForSending
  by_cases hpos : bytes.length > 0
  · simp only [if_pos hpos]
    obtain ⟨granted, heap', hmalloc⟩ : ∃ granted heap', heap.mallocFallback = (granted, heap') :=
      ⟨_, _, rfl⟩
    rw [hmalloc]
    cases granted with
    | true =>
      refine Or.inl ⟨some bytes, heap', rfl, rfl, fun hg => ?_⟩
      rw [hg.mallocFallback] at hmalloc
      obtain ⟨-, rfl⟩ := Prod.mk.inj hmalloc
      exact hg
    | false =>
      refine Or.inr ⟨none, heap', rfl, fun hg => ?_⟩
      rw [hg.mallocFallback] at hmalloc
      exact absurd (Prod.mk.inj hmalloc).1 Bool.true_eq_false.mp
  · -- nothing is allocated for an empty payload, and nothing is written from it
    simp only [if_neg hpos]
    have hnil : bytes = [] := List.eq_nil_of_length_eq_zero (by omega)
    exact Or.inl ⟨none, heap, rfl, hnil.symm, id⟩

/-- `build_command` returns the layout or, when an allocation is refused,
`NULL`. -/
theorem build_cases (fresh : ℕ → UInt8) (heap : Heap) (compress : UInt8) (includeSession : Bool)
    (c : Command) (hlen : (c.layout includeSession).length < 2147483648) :
    (c.build fresh heap compress includeSession).1 =
        .ok (c.layout includeSession, (c.layout includeSession).length) ∨
      (c.build fresh heap compress includeSession).1 = .error .failure ∧ ¬ heap.Generous := by
  unfold Command.build buildCommand
  obtain ⟨copy, heap', hcopy, hbytes, hg'⟩ | ⟨copy, heap', hcopy, hg⟩ :=
    copyForSending_cases heap c.payload
  · simp only [hcopy, hbytes]
    change (match heap'.malloc with
      | (false, heap) => _
      | (true, heap) => _ : Except Stop (Bytes × ℕ) × Heap).1 = _ ∨ _
    have hsize := commandSize_eq c includeSession hlen
    -- the second request is for the message itself
    obtain ⟨granted, heap'', hmalloc⟩ : ∃ granted heap'', heap'.malloc = (granted, heap'') :=
      ⟨_, _, rfl⟩
    rw [hmalloc]
    cases granted with
    | true =>
      left
      simp only [Option.elim_some, hsize,
        writeCommand_layout c includeSession (length_newBuffer fresh _)]
    | false =>
      refine Or.inr ⟨rfl, fun hg => ?_⟩
      rw [(hg' hg).malloc] at hmalloc
      exact absurd (Prod.mk.inj hmalloc).1 Bool.true_eq_false.mp
  · rw [hcopy]
    exact Or.inr ⟨rfl, hg⟩

/-! ### The layout read back -/

/-- The server message with the fields of a command. -/
def Command.serverMessage (c : Command) (ack : Bool) : ServerMessage where
  version := 1
  headerSize := 1
  headerSize_pos := ServerMessage.oneWord_pos
  flags := c.flags
  serial := c.serial
  compression := 0
  reserved := 0
  extension := []
  length_extension := ServerMessage.length_oneWord
  body := .response ack 0 c.cmdId c.sessionId.chars c.payload

/-- A command of a server type with the event flag is laid out as a server
message whose event is the command id. -/
theorem Command.layout_eq_encode (c : Command) {ack : Bool} (hflags : c.flags = 4)
    (htype : c.msgType = (c.serverMessage ack).body.messageType) :
    c.layout true = (c.serverMessage ack).encode := by
  unfold layout sessionField ServerMessage.encode ServerMessage.encodeBody
    ServerMessage.hasSeq ServerMessage.hasEvent
  rw [htype, show (c.serverMessage ack).flags = 4 from hflags, hflags]
  rfl

theorem Command.parse_layout (tinfl : Tinfl) {heap : Heap} (hheap : heap.Generous) (c : Command)
    (hlen : (c.layout true).length < 2147483648) (hsid : c.sessionId.strlen ≤ 127)
    (hflags : c.flags = 4) (htype : c.msgType = 9 ∨ c.msgType = 11) :
    ∃ r, (protocolParseResponse tinfl heap (c.layout true)).1 = .ok r ∧
      r.hasEvent = true ∧ r.event = c.cmdId.toInt32 ∧
      r.sessionId = CArray.ofBytes 128 c.sessionId.chars ∧
      r.payloadSize.toNat = c.payload.length ∧
      r.payloadData = (if c.payload = [] then none else some c.payload) ∧
      r.payloadDataLen = c.payload.length := by
  obtain ⟨ack, hack⟩ : ∃ ack, c.msgType = (c.serverMessage ack).body.messageType := by
    obtain h | h := htype
    · exact ⟨false, h⟩
    · exact ⟨true, h⟩
  have hencode := c.layout_eq_encode hflags hack
  have hshort := c.length_layout true
  rw [if_pos rfl] at hshort
  have hbody : (c.serverMessage ack).body =
      .response ack 0 c.cmdId c.sessionId.chars c.payload := rfl
  have hparse := protocolParseResponse_response tinfl hheap (c.serverMessage ack) hbody
    (by decide : nibble 0 ≠ compressGzip) (lt_of_le_of_lt hsid (by decide))
    (hencode ▸ lt_trans hlen (by decide))
  have hevent : (c.serverMessage ack).hasEvent = true := by
    unfold ServerMessage.hasEvent
    rw [show (c.serverMessage ack).flags = 4 from hflags]
    rfl
  refine ⟨_, hencode ▸ hparse, hevent, ?_, ?_, ?_, rfl, rfl⟩
  · exact if_pos hevent
  · -- a session id of at most 127 bytes is not cut
    exact congrArg (CArray.ofBytes 128) (List.take_of_length_le hsid)
  · exact UInt32.toNat_ofNat_of_lt' (by change c.payload.length < 4294967296; omega)

/-! ### The layout determines the command -/

theorem nibbles_injective {a b c d : Fin 16} (h : nibbles a b = nibbles c d) : a = c ∧ b = d := by
  have hhi : nibble a = nibble c := by rw [← nibbles_shiftRight a b, h, nibbles_shiftRight]
  have hlo : nibble b = nibble d := by rw [← nibbles_and a b, h, nibbles_and]
  constructor
  · exact Fin.ext (by rw [← nibble_toNat a, hhi, nibble_toNat])
  · exact Fin.ext (by rw [← nibble_toNat b, hlo, nibble_toNat])

/-- A counted field ends where its length says. -/
theorem counted_append_injective {a b rest rest' : Bytes} (ha : a.length < 4294967296)
    (hb : b.length < 4294967296)
    (h : ServerMessage.counted a ++ rest = ServerMessage.counted b ++ rest') :
    a = b ∧ rest = rest' := by
  rw [ServerMessage.counted, ServerMessage.counted, List.append_assoc, List.append_assoc] at h
  obtain ⟨hword, hrest⟩ := List.append_inj h rfl
  -- the words are the same, so both strings are cut at the same place
  have hlen := congrArg UInt32.toNat (beBytes_injective hword)
  rw [UInt32.toNat_ofNat_of_lt' ha, UInt32.toNat_ofNat_of_lt' hb] at hlen
  exact List.append_inj hrest hlen

/-- What a message says of a command: everything but a session id that is not
sent. -/
structure Command.Agree (includeSession : Bool) (c d : Command) : Prop where
  msgType : c.msgType = d.msgType
  flags : c.flags = d.flags
  serial : c.serial = d.serial
  cmdId : c.cmdId = d.cmdId
  sessionId : includeSession = true → c.sessionId = d.sessionId
  payload : c.payload = d.payload

theorem Command.agree_of_layout {includeSession : Bool} {c d : Command}
    (hc : (c.layout includeSession).length < 2147483648)
    (hd : (d.layout includeSession).length < 2147483648)
    (h : c.layout includeSession = d.layout includeSession) : Agree includeSession c d := by
  rw [c.length_layout] at hc
  rw [d.length_layout] at hd
  unfold layout at h
  -- the header and the command id have a fixed length
  obtain ⟨hheader, hrest⟩ := List.append_inj h rfl
  obtain ⟨hid, hfields⟩ := List.append_inj hrest rfl
  simp only [List.cons.injEq, true_and, and_true] at hheader
  obtain ⟨htype, hflags⟩ := nibbles_injective hheader.1
  obtain ⟨hserial, -⟩ := nibbles_injective hheader.2
  have hcmd := beBytes_injective hid
  -- the last field has nothing behind it
  rw [← List.append_nil (ServerMessage.counted c.payload),
    ← List.append_nil (ServerMessage.counted d.payload)] at hfields
  cases includeSession with
  | false =>
    obtain ⟨hpayload, -⟩ := counted_append_injective (by omega) (by omega)
      (hfields : ServerMessage.counted c.payload ++ [] = ServerMessage.counted d.payload ++ [])
    exact ⟨htype, hflags, hserial, hcmd, nofun, hpayload⟩
  | true =>
    simp only [if_true, CString.strlen] at hc hd
    obtain ⟨hsid, hfields⟩ := counted_append_injective (by omega) (by omega)
      (hfields : ServerMessage.counted c.sessionId.chars ++ (ServerMessage.counted c.payload ++ [])
        = ServerMessage.counted d.sessionId.chars ++ (ServerMessage.counted d.payload ++ []))
    obtain ⟨hpayload, -⟩ := counted_append_injective (by omega) (by omega) hfields
    exact ⟨htype, hflags, hserial, hcmd, fun _ => CString.ext_chars hsid, hpayload⟩

/-! ### Encoder and parser -/

/-- **The encoder and the parser agree.** When the allocations are granted,
`build_command` writes exactly `out_len` bytes and they are the layout; with
the session field, a server type and the event flag the parser reads the
command back; and a call that produces the same bytes was made with the same
type, flags, serialization, command id and payload and, where it is sent, the
same session id. -/
theorem buildCommand_agrees (fresh : ℕ → UInt8) (heap : Heap) (compress : UInt8)
    (includeSession : Bool) (c : Command)
    (hlen : (c.layout includeSession).length < 2147483648)
    (halloc : (c.build fresh heap compress includeSession).1 ≠ .error .failure) :
    (c.build fresh heap compress includeSession).1 =
        .ok (c.layout includeSession, (c.layout includeSession).length) ∧
      (includeSession = true → c.sessionId.strlen ≤ 127 → c.flags = 4 →
        c.msgType = 9 ∨ c.msgType = 11 → ∀ (tinfl : Tinfl) (heap' : Heap), heap'.Generous →
        ∃ r, (protocolParseResponse tinfl heap' (c.layout includeSession)).1 = .ok r ∧
          r.hasEvent = true ∧ r.event = c.cmdId.toInt32 ∧
          r.sessionId = CArray.ofBytes 128 c.sessionId.chars ∧
          r.payloadSize.toNat = c.payload.length ∧
          r.payloadData = (if c.payload = [] then none else some c.payload) ∧
          r.payloadDataLen = c.payload.length) ∧
      ∀ (fresh' : ℕ → UInt8) (heap' : Heap) (compress' : UInt8) (d : Command),
        (d.layout includeSession).length < 2147483648 →
        (d.build fresh' heap' compress' includeSession).1 =
          (c.build fresh heap compress includeSession).1 →
        Command.Agree includeSession c d := by
  have hok : (c.build fresh heap compress includeSession).1 =
      .ok (c.layout includeSession, (c.layout includeSession).length) := by
    obtain hok | ⟨hfail, -⟩ := build_cases fresh heap compress includeSession c hlen
    · exact hok
    · exact absurd hfail halloc
  refine ⟨hok, ?_, ?_⟩
  · rintro rfl hsid hflags htype tinfl heap' hheap
    exact c.parse_layout tinfl hheap hlen hsid hflags htype
  · intro fresh' heap' compress' d hlen' hsame
    rw [hok] at hsame
    obtain hok' | ⟨hfail, -⟩ := build_cases fresh' heap' compress' includeSession d hlen'
    · rw [hok'] at hsame
      obtain ⟨hbytes, -⟩ := Prod.mk.inj (Except.ok.inj hsame)
      exact Command.agree_of_layout hlen hlen' hbytes.symm
    · rw [hfail] at hsame
      cases hsame

/-- An allocator that serves every request never makes `build_command` fail. -/
theorem build_ne_failure (fresh : ℕ → UInt8) {heap : Heap} (hg : heap.Generous) (compress : UInt8)
    (includeSession : Bool) (c : Command)
    (hlen : (c.layout includeSession).length < 2147483648) :
    (c.build fresh heap compress includeSession).1 ≠ .error .failure := by
  obtain hok | ⟨-, hrefused⟩ := build_cases fresh heap compress includeSession c hlen
  · rw [hok]
    exact nofun
  · exact absurd hg hrefused

/-- A command with the header of a server ack. -/
def sampleCommand : Command where
  msgType := 11
  flags := 4
  serial := 0
  cmdId := Cmd.taskRequest.id
  sessionId := CString.ofBytes [97, 98]
  payload := [1, 2, 3]

theorem buildCommand_agrees_sampleCommand :
    (sampleCommand.build (fun _ => 0) Heap.unlimited compressGzip true).1 =
        .ok ([17, 180, 0, 0, 0, 0, 0, 200, 0, 0, 0, 2, 97, 98, 0, 0, 0, 3, 1, 2, 3], 21) ∧
      ∃ r, (protocolParseResponse (fun _ _ _ => none) Heap.unlimited
          (sampleCommand.layout true)).1 = .ok r ∧
        r.event = 200 ∧ r.payloadData = some [1, 2, 3] := by
  obtain ⟨hok, hparse, -⟩ := buildCommand_agrees (fun _ => 0) Heap.unlimited compressGzip true
    sampleCommand (by decide +kernel)
    (build_ne_failure _ Heap.generous_unlimited _ _ _ (by decide +kernel))
  obtain ⟨r, hr, -, hevent, -, -, hdata, -⟩ :=
    hparse rfl (by decide) rfl (Or.inr rfl) (fun _ _ _ => none) Heap.unlimited
      Heap.generous_unlimited
  exact ⟨hok, r, hr, hevent, hdata⟩

/-- A StartConnection for a session id that is not sent. -/
def startConnection (sessionId : CString) : Command where
  msgType := 1
  flags := 4
  serial := 1
  cmdId := Cmd.startConnection.id
  sessionId := sessionId
  payload := [123, 125]

/-- Without the session field two session ids give the same message. -/
theorem startConnection_ignores_sessionId :
    ((startConnection (CString.ofBytes [97])).build (fun _ => 0) Heap.unlimited compressGzip
          false).1 = .ok ([17, 20, 16, 0, 0, 0, 0, 1, 0, 0, 0, 2, 123, 125], 14) ∧
      ((startConnection (CString.ofBytes [98])).build (fun _ => 0) Heap.unlimited compressGzip
          false).1 = .ok ([17, 20, 16, 0, 0, 0, 0, 1, 0, 0, 0, 2, 123, 125], 14) ∧
      (startConnection (CString.ofBytes [97])).sessionId ≠
        (startConnection (CString.ofBytes [98])).sessionId :=
  ⟨by decide +kernel, by decide +kernel, by decide⟩

end BoxDoubao
