import BoxDoubao.Transport.WsWrite

/-!
# Reading from the WebSocket transport

`ws_read` reads a header when no payload is left of the last frame, handles
the frame itself if it is a control frame that the application is not shown,
and otherwise hands over as much of the payload as fits the caller's buffer.

The caller's buffer is part of the model: a function that is given it returns
it as it is afterwards. A masking key passes through it on its way to the frame
state, and what is unmasked behind a payload read are all the bytes that were
asked for, not only those that came. `Hands` says what a caller relies on: the
bytes it was told of stand at the front.

A frame is recognised wherever the parent cuts the server's stream:
`wsReadHeader_of_pending` is the rule for its header, and
`wsReadPayload_of_pending` the rule for the next piece of its payload.
`FrameState.of f left` is the state inside the frame `f` with `left` bytes of
it to come.
-/

namespace TcpTransport

open CMemory WebSocket

def wsOpcodeControlFrame : UInt8 := 0x08
def wsTransportMaxControlFrameBufferLen : ℤ := 125

/-- The test for a control frame. -/
def isControlFrame (opcode : UInt8) : Bool := opcode &&& wsOpcodeControlFrame != 0

namespace TransportWs

/-- The loop that unmasks the first `n` bytes of a buffer, from the first byte of
the key on. Were `n` too large, the buffer would come back longer than it was. -/
def unmask (key : MaskKey) (n : ℕ) (buffer : Bytes) : Bytes :=
  applyMask key 0 ((List.range n).map fun i => buffer.getD i 0) ++ buffer.drop n

/-- `ws_read_payload` into all of a buffer, called with `bytes_remaining ≥ 0`.
What is unmasked is what was asked for, and the parent may have given less. -/
def wsReadPayload (ws : TransportWs) (buffer : Bytes) : ℤ × Bytes × TransportWs :=
  let bytesToRead :=
    if ws.frameState.bytesRemaining > buffer.length then buffer.length
    else ws.frameState.bytesRemaining.toNat
  if bytesToRead ≠ 0 then
    match ws.espTransportReadInternal bytesToRead with
    | (rlen, bytes, ws) =>
      if rlen ≤ 0 then (rlen, buffer, ws)
      else
        (rlen, unmask ws.frameState.maskKey bytesToRead (splice buffer 0 bytes),
          ws.setBytesRemaining (ws.frameState.bytesRemaining - rlen))
  else (0, buffer, ws)

/-- The payload's length in `ws_read_header`, from the seven bits of the second
byte. -/
def readPayloadLen (ws : TransportWs) (code : ℕ) : Except ℤ ℤ × TransportWs :=
  if code = 126 then
    match ws.espTransportReadExactSize 2 with
    | (rlen, d, ws) =>
      if rlen ≤ 0 then (.error rlen, ws)
      else (.ok (ofBe 0 0 (d.getD 0 0) (d.getD 1 0)).toInt32.toInt, ws)
  else if code = 127 then
    match ws.espTransportReadExactSize 8 with
    | (rlen, d, ws) =>
      if rlen ≤ 0 then (.error rlen, ws)
      -- really too big
      else if d.getD 0 0 ≠ 0 ∨ d.getD 1 0 ≠ 0 ∨ d.getD 2 0 ≠ 0 ∨ d.getD 3 0 ≠ 0 then (.ok (-1), ws)
      else
        (.ok (ofBe (d.getD 4 0) (d.getD 5 0) (d.getD 6 0) (d.getD 7 0)).toInt32.toInt, ws)
  else (.ok code, ws)

/-- The fields the first byte of a header sets. -/
def gotFirstByte (ws : TransportWs) (b : UInt8) : TransportWs :=
  { ws with
    frameState :=
      { ws.frameState with
        headerReceived := true
        fin := b &&& 0x80 != 0
        opcode := b &&& 0x0F } }

/-- The fields the end of a header sets. -/
def gotHeader (ws : TransportWs) (maskKey : MaskKey) (payloadLen : ℤ) : TransportWs :=
  { ws with
    frameState :=
      { ws.frameState with
        maskKey := maskKey
        payloadLen := payloadLen
        bytesRemaining := payloadLen } }

/-- The end of `ws_read_header`. The masking key passes through the caller's
buffer, which must hold four bytes; the key of an empty frame is not read, and
what the buffer holds is taken for it. -/
def readMask (ws : TransportWs) (buffer : Bytes) (mask : Bool) (payloadLen : ℤ) :
    Option (ℤ × Bytes × TransportWs) :=
  if mask then
    if buffer.length < 4 then none
    else if payloadLen ≠ 0 then
      match ws.espTransportReadExactSize 4 with
      | (rlen, key, ws) =>
        let buffer := splice buffer 0 key
        if rlen ≤ 0 then some (rlen, buffer, ws)
        else some (payloadLen, buffer, ws.gotHeader (MaskKey.ofBytes buffer) payloadLen)
    else some (payloadLen, buffer, ws.gotHeader (MaskKey.ofBytes buffer) payloadLen)
  else some (payloadLen, buffer, ws.gotHeader MaskKey.zero payloadLen)

/-- `ws_read_header`. -/
def wsReadHeader (ws : TransportWs) (buffer : Bytes) : Option (ℤ × Bytes × TransportWs) :=
  match (ws.setHeaderReceived false).wsPollRead with
  | (pollRead, ws) =>
    -- also where the handshake has left bytes of a frame over
    if pollRead ≤ 0 then some (pollRead, buffer, ws)
    else
      match ws.espTransportReadExactSize 2 with
      | (rlen, header, ws) =>
        if rlen ≤ 0 then some (rlen, buffer, ws)
        else
          match (ws.gotFirstByte (header.getD 0 0)).readPayloadLen
            (header.getD 1 0 &&& 0x7F).toNat with
          | (.error rlen, ws) => some (rlen, buffer, ws)
          | (.ok payloadLen, ws) =>
            ws.readMask buffer ((header.getD 1 0 >>> 7) &&& 0x01 != 0) payloadLen

/-! ### Control frames -/

/-- `malloc`. -/
def malloc (ws : TransportWs) : Bool × TransportWs :=
  (ws.platform.mallocs.head,
    { ws with platform := { ws.platform with mallocs := ws.platform.mallocs.tail } })

/-- `esp_transport_ws_poll_connection_closed`. -/
def espTransportWsPollConnectionClosed (ws : TransportWs) : ℤ × TransportWs :=
  (ws.platform.closed.head,
    { ws with platform := { ws.platform with closed := ws.platform.closed.tail } })

/-- `esp_transport_ws_handle_control_frames`, with `client_closed` false as its
one caller has it. The close code is read for the log as two bytes, which a
payload of one byte does not have. -/
def espTransportWsHandleControlFrames (ws : TransportWs) (buffer : Bytes) :
    Option (ℤ × TransportWs) :=
  if ws.frameState.headerReceived = false ∨ !isControlFrame ws.frameState.opcode then some (0, ws)
  else if ws.frameState.payloadLen > buffer.length then
    some (-1, ws.setBytesRemaining (ws.frameState.payloadLen - buffer.length))
  else if ws.frameState.opcode = wsOpcodePing then
    match ws.wsWriteFrame (wsOpcodePong ||| wsFin) wsMask
      (buffer.take ws.frameState.payloadLen.toNat) with
    | (actualLen, _, ws) =>
      if actualLen ≠ ws.frameState.payloadLen then some (-1, ws)
      else some (0, ws.setHeaderReceived false)
  else if ws.frameState.opcode = wsOpcodeClose then
    if ws.frameState.payloadLen > 0 ∧ buffer.length < 2 then none
    else
      match ws.wsWriteFrame (wsOpcodeClose ||| wsFin) wsMask [] with
      | (written, _, ws) =>
        if written < 0 then some (-1, ws)
        else
          match (ws.setHeaderReceived false).espTransportWsPollConnectionClosed with
          | (ret, ws) => if ret ≤ 0 then some (-1, ws) else some (1, ws)
  else if ws.frameState.opcode = wsOpcodePong then some (2, ws.setHeaderReceived false)
  else some (0, ws)

/-- `ws_handle_control_frame_internal`. The payload has a buffer of its own. -/
def wsHandleControlFrameInternal (ws : TransportWs) : Option (ℤ × TransportWs) :=
  let payloadLen := ws.frameState.payloadLen
  if ws.frameState.headerReceived = false ∨ !isControlFrame ws.frameState.opcode then some (0, ws)
  else if payloadLen > wsTransportMaxControlFrameBufferLen then some (-1, ws)
  else
    match if 0 < payloadLen then ws.malloc else (true, ws) with
    | (false, ws) => some (-1, ws)
    | (true, ws) =>
      match ws.wsReadPayload (newBuffer ws.platform.fresh payloadLen.toNat) with
      | (actualLen, data, ws) =>
        if actualLen ≠ payloadLen then some (-1, ws)
        else
          match ws.espTransportWsHandleControlFrames data with
          | none => none
          | some (ret, ws) => some (if ret > 0 then 0 else ret, ws)

/-! ### `ws_read` -/

/-- The end of `ws_read`, with `rlen` the value it returns for an empty frame. -/
def wsReadBody (ws : TransportWs) (buffer : Bytes) (rlen : ℤ) : ℤ × Bytes × TransportWs :=
  if ws.frameState.payloadLen ≠ 0 then
    match ws.wsReadPayload buffer with
    | (rlen, buffer, ws) =>
      if rlen ≤ 0 then (rlen, buffer, ws.setBytesRemaining 0) else (rlen, buffer, ws)
  else (rlen, buffer, ws)

/-- `ws_read`: the value returned and the caller's buffer afterwards. -/
def wsRead (ws : TransportWs) (buffer : Bytes) : Option (ℤ × Bytes × TransportWs) :=
  if ws.frameState.bytesRemaining ≤ 0 then
    match ws.wsReadHeader buffer with
    | none => none
    | some (rlen, buffer, ws) =>
      if rlen < 0 then some (rlen, buffer, ws.setBytesRemaining 0)
      else if ws.frameState.headerReceived && isControlFrame ws.frameState.opcode &&
          !ws.propagateControlFrames then
        match ws.wsHandleControlFrameInternal with
        | none => none
        | some (ret, ws) => some (ret, buffer, ws)
      else if rlen = 0 then some (0, buffer, ws.setBytesRemaining 0)
      else some (ws.wsReadBody buffer rlen)
  else some (ws.wsReadBody buffer 0)

end TransportWs

/-! ### Frames ahead -/

/-- Inside the frame `f`, with `left` bytes of its payload to come. -/
def FrameState.of (f : Frame) (left : ℕ) : FrameState where
  opcode := UInt8.ofNat f.opcode.val
  fin := f.fin
  maskKey := f.key.getD MaskKey.zero
  payloadLen := f.payload.length
  bytesRemaining := left
  headerReceived := true

/-- The state behind the header of `f`, with the length as it is declared. -/
def FrameState.header (f : Frame) (payloadLen : ℤ) : FrameState :=
  { FrameState.of f 0 with
    payloadLen := payloadLen
    bytesRemaining := payloadLen }

/-- The frames `ws_read_header` gets past: the length is an `int`, and there is
a payload where there is a key. -/
structure Readable (f : Frame) : Prop where
  lt : f.payload.length < 2147483648
  masked : f.key.isSome → f.payload ≠ []

namespace TransportWs

variable {ws : TransportWs} {rest : Bytes}

/-- A length written in eight bytes, as the `int` it is read as. -/
def declaredLen (n : ℕ) : ℤ :=
  if n < 4294967296 then (UInt32.ofNat n).toInt32.toInt else -1

theorem toInt_ofNat_of_lt {n : ℕ} (h : n < 2147483648) : (UInt32.ofNat n).toInt32.toInt = n := by
  have hn : (UInt32.ofNat n).toBitVec.toNat = n := by
    rw [UInt32.toNat_toBitVec, UInt32.toNat_ofNat']
    exact Nat.mod_eq_of_lt (by omega)
  change (UInt32.ofNat n).toBitVec.toInt = n
  rw [BitVec.toInt_eq_toNat_of_lt (by omega), hn]

theorem declaredLen_of_lt {n : ℕ} (h : n < 2147483648) : declaredLen n = n := by
  rw [declaredLen, if_pos (by omega), toInt_ofNat_of_lt h]

theorem declaredLen_neg {n : ℕ} (h : 2147483648 ≤ n) : declaredLen n < 0 := by
  unfold declaredLen
  split
  case isTrue hlt =>
    have := (toInt32_neg_iff (UInt32.ofNat n)).mpr (by
      rw [UInt32.toNat_ofNat', Nat.mod_eq_of_lt hlt]
      exact h)
    exact Int32.lt_iff_toInt_lt.mp this
  case isFalse => decide

theorem declaredLen_ne_zero {n : ℕ} (h : n ≠ 0) : declaredLen n ≠ 0 := by
  rcases Nat.lt_or_ge n 2147483648 with hlt | hge
  · rw [declaredLen_of_lt hlt]
    exact_mod_cast h
  · exact (declaredLen_neg hge).ne

theorem ofBe_eq_ofNat {a b c d : UInt8} {n : ℕ} (hn : n < 4294967296)
    (h : a.toNat * 16777216 + b.toNat * 65536 + c.toNat * 256 + d.toNat = n) :
    ofBe a b c d = UInt32.ofNat n := by
  apply UInt32.toNat_inj.mp
  rw [toNat_ofBe, h, UInt32.toNat_ofNat']
  exact (Nat.mod_eq_of_lt hn).symm

/-- The length of the payload is read in whichever form it is written. -/
theorem readPayloadLen_of_pending {form : LengthForm} {n : ℕ} (hn : n < form.limit)
    (hflows : ws.Flows) (hpending : ws.pending = form.extended n ++ rest) :
    ∃ ws', ws.readPayloadLen (form.code n) = (.ok (declaredLen n), ws') ∧
      ws.Consumes (form.extended n) ws' := by
  obtain ⟨ws', hread, hconsumes⟩ := espTransportReadExactSize_of_pending hflows hpending
  cases form with
  | short =>
    have hshort : n < 126 := hn
    refine ⟨ws, ?_, Consumes.refl ws⟩
    rw [LengthForm.code, readPayloadLen, if_neg (by omega), if_neg (by omega),
      declaredLen_of_lt (by omega)]
  | medium =>
    -- two bytes are never negative
    have hmedium : n < 65536 := hn
    refine ⟨ws', ?_, hconsumes⟩
    rw [LengthForm.code, readPayloadLen, if_pos rfl]
    rw [show (2 : ℕ) = (LengthForm.medium.extended n).length from rfl, hread]
    simp only [LengthForm.extended, List.getD_cons_zero, List.getD_cons_succ]
    rw [if_neg (by simp), ofBe_eq_ofNat (n := n) (by omega), toInt_ofNat_of_lt (by omega),
      declaredLen_of_lt (by omega)]
    rw [UInt8.toNat_ofNat', UInt8.toNat_ofNat', UInt8.toNat_zero]
    omega
  | long =>
    have hlong : n < 18446744073709551616 := hn
    have hzero : ∀ m, UInt8.ofNat m = 0 ↔ m % 256 = 0 := fun m => by
      rw [← UInt8.toNat_inj, UInt8.toNat_ofNat', UInt8.toNat_zero]
    refine ⟨ws', ?_, hconsumes⟩
    rw [LengthForm.code, readPayloadLen, if_neg (by decide), if_pos rfl]
    rw [show (8 : ℕ) = (LengthForm.long.extended n).length from rfl, hread]
    simp only [LengthForm.extended, List.getD_cons_zero, List.getD_cons_succ, ne_eq, hzero]
    rw [if_neg (by simp)]
    by_cases hlt : n < 4294967296
    · -- the lower four bytes, which may still be a negative `int`
      rw [if_neg (by omega), declaredLen, if_pos hlt, ofBe_eq_ofNat hlt]
      simp only [UInt8.toNat_ofNat']
      omega
    · -- one of the four upper bytes is not zero
      rw [if_pos (by omega), declaredLen, if_neg hlt]

/-- Inside `f`, with the bytes `left` of its payload to come and `rest` after
them. -/
structure Inside (ws : TransportWs) (f : Frame) (left rest : Bytes) : Prop where
  frameState : ws.frameState = FrameState.of f left.length
  pending : ws.pending = left ++ rest

/-- The piece `esp_transport_read_internal` gives of a payload that lies ahead. -/
theorem espTransportReadInternal_of_pending {wire : Bytes} {len : ℕ} (hflows : ws.Flows)
    (hpending : ws.pending = wire ++ rest) (hwire : wire ≠ []) (hlen : 0 < len)
    (hle : len ≤ wire.length) :
    ∃ piece left ws', wire = piece ++ left ∧ piece ≠ [] ∧ piece.length ≤ len ∧
      ws.espTransportReadInternal len = ((piece.length : ℤ), piece, ws') ∧ ws.Consumes piece ws' ∧
      ws'.pending = left ++ rest := by
  obtain ⟨ret, piece, ws', hread, hgives⟩ := espTransportReadInternal_gives ws hlen
  -- it gives no more than was asked for, so nothing behind the payload
  have hne : piece ≠ [] := hgives.progress hflows (by
    rw [hpending]
    exact List.append_ne_nil_of_left_ne_nil hwire rest)
  obtain ⟨left, hleft⟩ : piece <+: wire := by
    have hpiece : piece <+: ws.pending := ⟨_, hgives.consumes.pending.symm⟩
    exact List.prefix_of_prefix_length_le hpiece ⟨_, hpending.symm⟩ (hgives.le.trans hle)
  have hret : ret = piece.length := (hgives.ret.resolve_left fun h => hne h.1).2
  refine ⟨piece, left, ws', hleft.symm, hne, hgives.le, by rw [hread, hret], hgives.consumes, ?_⟩
  have hboth : piece ++ ws'.pending = piece ++ (left ++ rest) := by
    rw [← hgives.consumes.pending, hpending, ← hleft, List.append_assoc]
  exact List.append_cancel_left hboth

/-! ### The caller's buffer -/

/-- `data` stands at the front of the buffer, which is as long as it was. -/
structure Hands (buffer data buffer' : Bytes) : Prop where
  front : data <+: buffer'
  length : buffer'.length = buffer.length

theorem Hands.nil (buffer : Bytes) : Hands buffer [] buffer := ⟨List.nil_prefix, rfl⟩

theorem Hands.take {buffer data buffer' : Bytes} (h : Hands buffer data buffer') :
    buffer'.take data.length = data :=
  (List.prefix_iff_eq_take.mp h.front).symm

theorem Hands.eq_of_length {buffer data buffer' : Bytes} (h : Hands buffer data buffer')
    (hlen : data.length = buffer.length) : buffer' = data :=
  (h.front.eq_of_length (hlen.trans h.length.symm)).symm

theorem Hands.of_length {buffer buffer' data buffer'' : Bytes}
    (h : Hands buffer' data buffer'') (hlen : buffer'.length = buffer.length) :
    Hands buffer data buffer'' :=
  ⟨h.front, h.length.trans hlen⟩

theorem unmask_eq (key : MaskKey) {n : ℕ} {buffer : Bytes} (hn : n ≤ buffer.length) :
    unmask key n buffer = applyMask key 0 (buffer.take n) ++ buffer.drop n := by
  have hfront : ((List.range n).map fun i => buffer.getD i 0) = buffer.take n := by
    refine List.ext_getElem (by rw [List.length_map, List.length_range, List.length_take_of_le hn])
      fun i hi _ => ?_
    rw [List.length_map, List.length_range] at hi
    rw [List.getElem_map, List.getElem_range, List.getElem_take, List.getD_eq_getElem?_getD,
      List.getElem?_eq_getElem (hi.trans_le hn), Option.getD_some]
  rw [unmask, hfront]

/-- Bytes laid over the front of a buffer are unmasked where they stand. -/
theorem hands_unmask (key : MaskKey) {n : ℕ} {buffer bytes : Bytes} (hbytes : bytes.length ≤ n)
    (hn : n ≤ buffer.length) :
    Hands buffer (applyMask key 0 bytes) (unmask key n (splice buffer 0 bytes)) := by
  have hlen : (splice buffer 0 bytes).length = buffer.length := length_splice (by omega)
  rw [unmask_eq key (hn.trans_eq hlen.symm)]
  constructor
  · rw [splice_zero, List.take_append, List.take_of_length_le hbytes, applyMask_append,
      List.append_assoc]
    exact List.prefix_append _ _
  · rw [List.length_append, length_applyMask, ← List.length_append, List.take_append_drop, hlen]

/-- How many bytes `ws_read_payload` asks for. -/
def toRead (ws : TransportWs) (buffer : Bytes) : ℕ :=
  min ws.frameState.bytesRemaining.toNat buffer.length

theorem toRead_eq (ws : TransportWs) (buffer : Bytes) :
    (if ws.frameState.bytesRemaining > buffer.length then buffer.length
      else ws.frameState.bytesRemaining.toNat) = ws.toRead buffer := by
  unfold toRead
  split <;> omega

/-- Nothing is read where nothing is left. -/
theorem wsReadPayload_of_nil {f : Frame} (buffer : Bytes) (hinside : ws.Inside f [] rest) :
    ws.wsReadPayload buffer = (0, buffer, ws) := by
  have hzero : ws.toRead buffer = 0 := by
    rw [toRead, hinside.frameState]
    exact Nat.zero_min _
  unfold wsReadPayload
  rw [toRead_eq, hzero]
  rfl

/-- **The next piece of a payload.** -/
theorem wsReadPayload_of_pending {f : Frame} {left buffer : Bytes} (hflows : ws.Flows)
    (hinside : ws.Inside f left rest) (hleft : left ≠ []) (hbuffer : buffer ≠ []) :
    ∃ piece more buffer' ws', left = piece ++ more ∧ piece ≠ [] ∧
      ws.wsReadPayload buffer = ((piece.length : ℤ), buffer', ws') ∧
      Hands buffer (applyMask (f.key.getD MaskKey.zero) 0 piece) buffer' ∧
      ws'.Inside f more rest ∧ ws.Quiet ws' := by
  obtain ⟨hstate, hpending⟩ := hinside
  have hremaining : ws.frameState.bytesRemaining = left.length := by rw [hstate]; rfl
  have hpos : 0 < left.length := List.length_pos_iff.mpr hleft
  have hroom : 0 < buffer.length := List.length_pos_iff.mpr hbuffer
  have hn : ws.toRead buffer = min left.length buffer.length := by
    rw [toRead, hremaining, Int.toNat_natCast]
  obtain ⟨piece, more, ws₁, hsplit, hne, hle, hread, hconsumes, hrest⟩ :=
    espTransportReadInternal_of_pending hflows hpending hleft (by omega : 0 < ws.toRead buffer)
      (by omega)
  have hpiece : 0 < piece.length := List.length_pos_iff.mpr hne
  have hkey : ws₁.frameState.maskKey = f.key.getD MaskKey.zero := by
    rw [hconsumes.frameState, hstate]
    rfl
  refine ⟨piece, more, unmask (f.key.getD MaskKey.zero) (ws.toRead buffer) (splice buffer 0 piece),
    ws₁.setBytesRemaining (ws₁.frameState.bytesRemaining - piece.length), hsplit, hne, ?_,
    hands_unmask _ hle (by omega), ⟨?_, hrest⟩, ?_⟩
  · unfold wsReadPayload
    simp only [toRead_eq]
    rw [if_pos (by omega : ws.toRead buffer ≠ 0), hread]
    simp only
    rw [if_neg (by omega), hkey]
  · -- the count goes down by what has come
    rw [setBytesRemaining, hconsumes.frameState, hstate]
    simp only [FrameState.of, FrameState.mk.injEq, true_and, and_true]
    rw [hsplit, List.length_append]
    omega
  · exact ⟨⟨hconsumes.quiet.flows, hconsumes.quiet.polls, hconsumes.quiet.propagate⟩,
      hconsumes.quiet.outbound, hconsumes.quiet.platform⟩

/-! ### A header that lies ahead -/

/-- What the first byte of a frame sets. -/
theorem gotFirstByte_frameState (ws : TransportWs) (f : Frame) :
    (ws.gotFirstByte f.firstByte).frameState =
      { ws.frameState with
        headerReceived := true
        fin := f.fin
        opcode := UInt8.ofNat f.opcode.val } := by
  rw [gotFirstByte, f.firstByte_fin, f.firstByte_opcode]

/-- The masking key of a frame is read, where it has one. -/
theorem readMask_of_pending {f : Frame} {buffer : Bytes} {payloadLen : ℤ} (hflows : ws.Flows)
    (hpending : ws.pending = f.keyBytes ++ rest)
    (hmasked : f.key.isSome → payloadLen ≠ 0 ∧ 4 ≤ buffer.length) :
    ∃ buffer' ws', ws.readMask buffer f.key.isSome payloadLen = some (payloadLen, buffer', ws') ∧
      buffer'.length = buffer.length ∧
      ws'.frameState = { ws.frameState with
        maskKey := f.key.getD MaskKey.zero
        payloadLen := payloadLen
        bytesRemaining := payloadLen } ∧
      ws'.pending = rest ∧ ws.Quiet ws' := by
  obtain ⟨ws₁, hread, hconsumes⟩ := espTransportReadExactSize_of_pending hflows hpending
  have hrest := List.append_cancel_left (hpending.symm.trans hconsumes.pending)
  cases hkey : f.key with
  | none =>
    refine ⟨buffer, ws.gotHeader MaskKey.zero payloadLen, ?_, rfl, rfl, ?_,
      ⟨⟨id, id, rfl⟩, rfl, rfl⟩⟩
    · rw [readMask]
      exact if_neg Bool.false_ne_true
    · rw [Frame.keyBytes, hkey] at hpending
      exact hpending
  | some key =>
    obtain ⟨hne, hbuffer⟩ := hmasked (by rw [hkey]; rfl)
    have hbytes : f.keyBytes = key.bytes := by rw [Frame.keyBytes, hkey]
    have hfour : key.bytes.length = 4 := rfl
    rw [hbytes] at hread
    refine ⟨splice buffer 0 key.bytes, ws₁.gotHeader key payloadLen, ?_,
      length_splice (by omega), ?_, hrest.symm, ⟨⟨hconsumes.quiet.flows,
      hconsumes.quiet.polls, hconsumes.quiet.propagate⟩, hconsumes.quiet.outbound,
      hconsumes.quiet.platform⟩⟩
    · -- the key is taken from the front of the buffer
      rw [readMask, if_pos (Option.isSome_some), if_neg (by omega), if_pos hne,
        show (4 : ℕ) = key.bytes.length from rfl, hread]
      simp only
      rw [if_neg (by omega), splice_zero, MaskKey.ofBytes_bytes]
    · rw [gotHeader, hconsumes.frameState]
      rfl

/-- Up to its masking key, a header is read however the stream is cut. -/
theorem wsReadHeader_to_mask {f : Frame} (buffer : Bytes) (hflows : ws.Flows)
    (hpoll : 0 < ws.inbound.pollReads.head) (hpending : ws.pending = f.encode ++ rest) :
    ∃ ws', ws.wsReadHeader buffer =
        ws'.readMask buffer f.key.isSome (declaredLen f.payload.length) ∧
      ws'.frameState = { ws.frameState with
        headerReceived := true
        fin := f.fin
        opcode := UInt8.ofNat f.opcode.val } ∧
      ws'.pending = f.keyBytes ++ (f.wire ++ rest) ∧ ws.Quiet ws' := by
  -- the poll
  let ws₁ := (ws.setHeaderReceived false).wsPollRead.2
  have hquiet₁ : ws.Quiet ws₁ := ⟨⟨id, fun h n => h (n + 1), rfl⟩, rfl, rfl⟩
  have hpending₁ : ws₁.pending = [f.firstByte, f.secondByte] ++
      (f.form.extended f.payload.length ++ (f.keyBytes ++ (f.wire ++ rest))) := by
    change ws.pending = _
    rw [hpending, Frame.encode, Frame.header]
    simp only [List.cons_append, List.append_assoc, List.nil_append]
  -- the first two bytes
  obtain ⟨ws₂, hread₂, hcons₂⟩ :=
    espTransportReadExactSize_of_pending (hquiet₁.flows hflows) hpending₁
  have hpending₂ := List.append_cancel_left (hpending₁.symm.trans hcons₂.pending)
  -- the length
  let ws₃ := ws₂.gotFirstByte f.firstByte
  have hquiet₃ : ws.Quiet ws₃ := hquiet₁.trans ⟨⟨hcons₂.quiet.flows, hcons₂.quiet.polls,
    hcons₂.quiet.propagate⟩, hcons₂.quiet.outbound, hcons₂.quiet.platform⟩
  obtain ⟨ws₄, hread₄, hcons₄⟩ := @readPayloadLen_of_pending ws₃ _ _ _ f.fits
    (hquiet₃.flows hflows) hpending₂.symm
  refine ⟨ws₄, ?_, ?_, (List.append_cancel_left (hpending₂.trans hcons₄.pending)).symm,
    hquiet₃.trans hcons₄.quiet⟩
  · have hpoll₁ : (ws.setHeaderReceived false).wsPollRead =
        (ws.inbound.pollReads.head, ws₁) := rfl
    unfold wsReadHeader
    rw [hpoll₁]
    simp only
    rw [if_neg (by omega), show (2 : ℕ) = [f.firstByte, f.secondByte].length from rfl, hread₂]
    simp only [List.getD_cons_zero, List.getD_cons_succ]
    rw [if_neg (by simp), f.secondByte_code, hread₄]
    simp only
    rw [f.secondByte_mask]
  · rw [hcons₄.frameState, gotFirstByte_frameState]
    change { ws₂.frameState with
      headerReceived := true
      fin := f.fin
      opcode := UInt8.ofNat f.opcode.val } = _
    rw [hcons₂.frameState]
    rfl

/-- **The rule for a header.** However the stream is cut, a header is read
whole, and the payload lies ahead. -/
theorem wsReadHeader_of_pending {f : Frame} {buffer : Bytes} (hflows : ws.Flows)
    (hpoll : 0 < ws.inbound.pollReads.head) (hpending : ws.pending = f.encode ++ rest)
    (hmasked : f.key.isSome → f.payload ≠ [] ∧ 4 ≤ buffer.length) :
    ∃ buffer' ws',
      ws.wsReadHeader buffer = some (declaredLen f.payload.length, buffer', ws') ∧
      buffer'.length = buffer.length ∧
      ws'.frameState = FrameState.header f (declaredLen f.payload.length) ∧
      ws'.pending = f.wire ++ rest ∧ ws.Quiet ws' := by
  obtain ⟨ws₁, hheader, hstate₁, hpending₁, hquiet₁⟩ :=
    wsReadHeader_to_mask buffer hflows hpoll hpending
  have hmask : f.key.isSome → declaredLen f.payload.length ≠ 0 ∧ 4 ≤ buffer.length := fun h =>
    ⟨declaredLen_ne_zero fun hzero => (hmasked h).1 (List.length_eq_zero_iff.mp hzero),
      (hmasked h).2⟩
  obtain ⟨buffer', ws₂, hread, hlen, hstate₂, hpending₂, hquiet₂⟩ :=
    readMask_of_pending (hquiet₁.flows hflows) hpending₁ hmask
  refine ⟨buffer', ws₂, hheader.trans hread, hlen, ?_, hpending₂, hquiet₁.trans hquiet₂⟩
  rw [hstate₂, hstate₁]
  rfl

/-! ### One call of `ws_read` -/

/-- Between two frames a poll that is not positive is passed on. -/
theorem wsRead_of_idle (buffer : Bytes) (hbetween : ws.frameState.bytesRemaining ≤ 0)
    (hpoll : ws.inbound.pollReads.head ≤ 0) :
    ws.wsRead buffer = some (ws.inbound.pollReads.head, buffer,
      ((ws.setHeaderReceived false).wsPollRead.2).setBytesRemaining 0) := by
  have hheader : ws.wsReadHeader buffer =
      some (ws.inbound.pollReads.head, buffer, (ws.setHeaderReceived false).wsPollRead.2) :=
    if_pos hpoll
  unfold wsRead
  rw [if_pos hbetween, hheader]
  simp only
  -- a zero passes the test for errors and stops at the one for empty frames
  rcases hpoll.lt_or_eq with hneg | hzero
  · rw [if_pos hneg]
  · rw [if_neg (by omega), if_neg (by simp [wsPollRead, setHeaderReceived]), if_pos hzero, hzero]

/-- Where the stream has ended, no header comes. -/
theorem wsRead_of_end (buffer : Bytes) (hbetween : ws.frameState.bytesRemaining ≤ 0)
    (hpoll : 0 < ws.inbound.pollReads.head) (hpending : ws.pending = []) :
    ∃ ret ws', ws.wsRead buffer = some (ret, buffer, ws') ∧ ret < 0 := by
  let ws₁ := (ws.setHeaderReceived false).wsPollRead.2
  have hpending₁ : ws₁.pending = [] := hpending
  obtain ⟨ret, bytes, ws₂, hread, hgives⟩ := espTransportReadExactSize_spec ws₁ 2
  -- the poll was positive, but two bytes do not come
  have hnone : bytes.length = 0 := by
    have := congrArg List.length (hpending₁.symm.trans hgives.consumes.pending)
    rw [List.length_append, List.length_nil] at this
    omega
  have hneg : ret < 0 := (hgives.ret.resolve_left fun h => by omega).1
  have hpoll₁ : (ws.setHeaderReceived false).wsPollRead =
      (ws.inbound.pollReads.head, ws₁) := rfl
  have hheader : ws.wsReadHeader buffer = some (ret, buffer, ws₂) := by
    unfold wsReadHeader
    rw [hpoll₁]
    simp only
    rw [if_neg (by omega), hread]
    exact if_pos hneg.le
  refine ⟨ret, ws₂.setBytesRemaining 0, ?_, hneg⟩
  unfold wsRead
  rw [if_pos hbetween, hheader]
  exact if_pos hneg

/-- `ws_read` has returned the piece `piece` of the payload of `f`, unmasked at
the front of the caller's buffer, and stands behind it. -/
structure ReadsPiece (ws : TransportWs) (f : Frame) (buffer piece more rest : Bytes)
    (result : Option (ℤ × Bytes × TransportWs)) (ws' : TransportWs) : Prop where
  result : ∃ buffer', result = some ((piece.length : ℤ), buffer', ws') ∧
    Hands buffer (applyMask (f.key.getD MaskKey.zero) 0 piece) buffer'
  inside : ws'.Inside f more rest
  quiet : ws.Quiet ws'

/-- The next piece of a payload, as `ws_read` returns it. -/
theorem wsReadBody_of_pending {f : Frame} {left buffer : Bytes} (r : ℤ) (hflows : ws.Flows)
    (hinside : ws.Inside f left rest) (hleft : left ≠ []) (hpayload : f.payload ≠ [])
    (hbuffer : buffer ≠ []) :
    ∃ piece more ws', left = piece ++ more ∧ piece ≠ [] ∧
      ws.ReadsPiece f buffer piece more rest (some (ws.wsReadBody buffer r)) ws' := by
  obtain ⟨piece, more, buffer', ws', hsplit, hne, hread, hhands, hinside', hquiet⟩ :=
    wsReadPayload_of_pending hflows hinside hleft hbuffer
  have hpos : 0 < piece.length := List.length_pos_iff.mpr hne
  have hlength : ws.frameState.payloadLen ≠ 0 := by
    rw [hinside.frameState]
    exact fun h => hpayload (List.length_eq_zero_iff.mp (Int.ofNat_inj.mp h))
  refine ⟨piece, more, ws', hsplit, hne, ⟨buffer', ?_, hhands⟩, hinside', hquiet⟩
  unfold wsReadBody
  rw [if_pos hlength, hread]
  exact congrArg some (if_neg (by omega))

/-- Inside a frame, `ws_read` goes on with the payload. -/
theorem wsRead_of_inside {f : Frame} {left : Bytes} {buffer : Bytes} (hflows : ws.Flows)
    (hinside : ws.Inside f left rest) (hleft : left ≠ []) (hpayload : f.payload ≠ [])
    (hbuffer : buffer ≠ []) :
    ∃ piece more ws', left = piece ++ more ∧ piece ≠ [] ∧
      ws.ReadsPiece f buffer piece more rest (ws.wsRead buffer) ws' := by
  have hremaining : ws.frameState.bytesRemaining = left.length := by
    rw [hinside.frameState]
    rfl
  have hpos : 0 < left.length := List.length_pos_iff.mpr hleft
  rw [wsRead, if_neg (by omega)]
  exact wsReadBody_of_pending 0 hflows hinside hleft hpayload hbuffer

/-- The header of the next frame, where its length is an `int`. -/
theorem wsReadHeader_inside {f : Frame} {buffer : Bytes} (hreadable : Readable f)
    (hflows : ws.Flows) (hpoll : 0 < ws.inbound.pollReads.head)
    (hpending : ws.pending = f.encode ++ rest) (hmasked : f.key.isSome → 4 ≤ buffer.length) :
    ∃ buffer' ws', ws.wsReadHeader buffer = some ((f.payload.length : ℤ), buffer', ws') ∧
      buffer'.length = buffer.length ∧ ws'.Inside f f.wire rest ∧ ws.Quiet ws' := by
  obtain ⟨buffer', ws', hread, hlen, hstate, hpending', hquiet⟩ :=
    wsReadHeader_of_pending hflows hpoll hpending fun h => ⟨hreadable.masked h, hmasked h⟩
  rw [declaredLen_of_lt hreadable.lt] at hread hstate
  refine ⟨buffer', ws', hread, hlen, ⟨?_, hpending'⟩, hquiet⟩
  rw [hstate, f.length_wire]
  rfl

/-- Whether a frame is shown to the caller of `ws_read`. -/
def Shown (ws : TransportWs) (f : Frame) : Bool := ws.propagateControlFrames || !f.isControl

theorem Inside.control_eq {f : Frame} {left : Bytes} (h : ws.Inside f left rest) :
    isControlFrame ws.frameState.opcode = f.isControl := by
  rw [h.frameState]
  exact Frame.control_bit f.opcode

/-- The test for handling a frame behind its header. -/
theorem Inside.handled {ws₀ : TransportWs} {f : Frame} {left : Bytes}
    (h : ws.Inside f left rest)
    (hpropagate : ws.propagateControlFrames = ws₀.propagateControlFrames) :
    (ws.frameState.headerReceived && isControlFrame ws.frameState.opcode &&
      !ws.propagateControlFrames) = !ws₀.Shown f := by
  rw [h.control_eq, hpropagate, h.frameState, Shown, Bool.not_or, Bool.not_not,
    Bool.and_comm (!ws₀.propagateControlFrames)]
  exact congrArg (· && _) (Bool.true_and _)

/-- The first call for a frame that is shown and has a payload. -/
theorem wsRead_of_frame {f : Frame} {buffer : Bytes} (hreadable : Readable f)
    (hbetween : ws.frameState.bytesRemaining ≤ 0) (hflows : ws.Flows)
    (hpoll : 0 < ws.inbound.pollReads.head) (hpending : ws.pending = f.encode ++ rest)
    (hmasked : f.key.isSome → 4 ≤ buffer.length) (hshown : ws.Shown f = true)
    (hpayload : f.payload ≠ []) (hbuffer : buffer ≠ []) :
    ∃ piece more ws', f.wire = piece ++ more ∧ piece ≠ [] ∧
      ws.ReadsPiece f buffer piece more rest (ws.wsRead buffer) ws' := by
  -- the header, and in the same call a first piece
  obtain ⟨buffer₁, ws₁, hheader, hlen, hinside, hquiet⟩ :=
    wsReadHeader_inside hreadable hflows hpoll hpending hmasked
  have hwire : f.wire ≠ [] := fun h => hpayload (Frame.wire_eq_nil_iff.mp h)
  have hpos : 0 < f.payload.length := List.length_pos_iff.mpr hpayload
  have hbuffer₁ : buffer₁ ≠ [] :=
    List.length_pos_iff.mp (hlen ▸ List.length_pos_iff.mpr hbuffer)
  obtain ⟨piece, more, ws', hsplit, hne, ⟨buffer', hread, hhands⟩, hinside', hquiet'⟩ :=
    wsReadBody_of_pending f.payload.length (hquiet.flows hflows) hinside hwire hpayload hbuffer₁
  refine ⟨piece, more, ws', hsplit, hne, ⟨buffer', ?_, hhands.of_length hlen⟩, hinside',
    hquiet.trans hquiet'⟩
  unfold wsRead
  rw [if_pos hbetween, hheader]
  simp only
  rw [if_neg (by omega), hinside.handled hquiet.propagate, hshown, if_neg (by decide),
    if_neg (by omega), hread]

/-- The call for a frame that is shown and has no payload. -/
theorem wsRead_of_empty_frame {f : Frame} {buffer : Bytes} (hreadable : Readable f)
    (hbetween : ws.frameState.bytesRemaining ≤ 0) (hflows : ws.Flows)
    (hpoll : 0 < ws.inbound.pollReads.head) (hpending : ws.pending = f.encode ++ rest)
    (hshown : ws.Shown f = true) (hpayload : f.payload = []) :
    ∃ ws', ws.ReadsPiece f buffer [] [] rest (ws.wsRead buffer) ws' := by
  obtain ⟨buffer₁, ws₁, hheader, hlen, hinside, hquiet⟩ := @wsReadHeader_inside _ _ _ buffer
    hreadable hflows hpoll hpending fun h => absurd hpayload (hreadable.masked h)
  rw [Frame.wire_eq_nil_iff.mpr hpayload] at hinside
  refine ⟨ws₁.setBytesRemaining 0, ⟨buffer₁, ?_, (Hands.nil buffer₁).of_length hlen⟩,
    ⟨?_, hinside.pending⟩, hquiet.trans ⟨⟨id, id, rfl⟩, rfl, rfl⟩⟩
  · unfold wsRead
    rw [if_pos hbetween, hheader, hpayload]
    simp only
    rw [if_neg (by decide), hinside.handled hquiet.propagate, hshown, if_neg (by decide)]
    exact if_pos rfl
  · rw [setBytesRemaining, hinside.frameState]
    rfl

/-- The call for a control frame that is not shown. -/
theorem wsRead_of_control {f : Frame} {buffer : Bytes} (hreadable : Readable f)
    (hbetween : ws.frameState.bytesRemaining ≤ 0) (hflows : ws.Flows)
    (hpoll : 0 < ws.inbound.pollReads.head) (hpending : ws.pending = f.encode ++ rest)
    (hmasked : f.key.isSome → 4 ≤ buffer.length) (hhidden : ws.Shown f = false) :
    ∃ buffer₁ ws₁, ws₁.Inside f f.wire rest ∧ ws.Quiet ws₁ ∧
      ws.wsRead buffer =
        ws₁.wsHandleControlFrameInternal.map (fun out => (out.1, buffer₁, out.2)) := by
  obtain ⟨buffer₁, ws₁, hheader, -, hinside, hquiet⟩ :=
    wsReadHeader_inside hreadable hflows hpoll hpending hmasked
  refine ⟨buffer₁, ws₁, hinside, hquiet, ?_⟩
  unfold wsRead
  rw [if_pos hbetween, hheader]
  simp only
  rw [if_neg (by omega), hinside.handled hquiet.propagate, hhidden, if_pos (by decide)]
  cases ws₁.wsHandleControlFrameInternal with
  | none => rfl
  | some out => rfl

/-! ### Whatever the server sends -/

/-- The ways `ws_read_payload` can end. -/
inductive PayloadRead (ws : TransportWs) (buffer : Bytes) : ℤ → Bytes → TransportWs → Prop where
  /-- Nothing is left, or there is no room. -/
  | nothing : PayloadRead ws buffer 0 buffer ws
  /-- Nothing has come. -/
  | failed {ret : ℤ} {ws₁ : TransportWs} (hret : ret ≤ 0) (h : ws.Consumes [] ws₁) :
      PayloadRead ws buffer ret buffer ws₁
  | piece {bytes : Bytes} {ws₁ : TransportWs} (hle : bytes.length ≤ ws.toRead buffer)
      (hread : ws.espTransportReadInternal (ws.toRead buffer) =
        ((bytes.length : ℤ), bytes, ws₁))
      (h : ws.Consumes bytes ws₁) :
      PayloadRead ws buffer bytes.length
        (unmask ws.frameState.maskKey (ws.toRead buffer) (splice buffer 0 bytes))
        (ws₁.setBytesRemaining (ws₁.frameState.bytesRemaining - bytes.length))

theorem wsReadPayload_cases (ws : TransportWs) (buffer : Bytes) :
    ∃ ret buffer' ws', ws.wsReadPayload buffer = (ret, buffer', ws') ∧
      PayloadRead ws buffer ret buffer' ws' := by
  unfold wsReadPayload
  simp only [toRead_eq]
  by_cases hzero : ws.toRead buffer = 0
  · rw [if_neg (not_not.mpr hzero)]
    exact ⟨_, _, _, rfl, .nothing⟩
  · obtain ⟨rlen, bytes, ws₁, hread, hgives⟩ :=
      espTransportReadInternal_gives ws (Nat.pos_of_ne_zero hzero)
    rw [if_pos hzero, hread]
    rcases hgives.ret with ⟨hnil, hret⟩ | ⟨hne, hret⟩
    · subst hnil
      exact ⟨rlen, buffer, ws₁, if_pos hret, .failed hret hgives.consumes⟩
    · subst hret
      have hpos : 0 < bytes.length := List.length_pos_iff.mpr hne
      simp only
      rw [if_neg (by omega)]
      refine ⟨_, _, _, rfl, ?_⟩
      -- the key is the one the read has left alone
      have hpiece := PayloadRead.piece hgives.le hread hgives.consumes
      rw [← hgives.consumes.frameState] at hpiece
      exact hpiece

/-- The caller's buffer has its old length, and a positive value counts bytes of
the stream: the last ones taken from it, which stand unmasked at the front of
the buffer. -/
structure HandsOver (ws : TransportWs) (buffer : Bytes) (ret : ℤ) (buffer' : Bytes)
    (ws' : TransportWs) : Prop where
  length : buffer'.length = buffer.length
  handed : 0 < ret → ∃ before data, ws.pending = before ++ (data ++ ws'.pending) ∧
    ret = data.length ∧ applyMask ws'.frameState.maskKey 0 data <+: buffer'

variable {ret : ℤ} {buffer buffer' : Bytes} {ws' : TransportWs}

/-- Where nothing is handed over, the buffer need only keep its length. -/
theorem HandsOver.of_nonpos (hlen : buffer'.length = buffer.length) (hret : ret ≤ 0) :
    ws.HandsOver buffer ret buffer' ws' :=
  ⟨hlen, fun hpos => absurd hret (not_le.mpr hpos)⟩

/-- What was read before belongs to a header. -/
theorem HandsOver.of_takes {ws₁ : TransportWs} {buffer₁ : Bytes}
    (h : ws₁.HandsOver buffer₁ ret buffer' ws') (htakes : ws.Takes ws₁)
    (hlen : buffer₁.length = buffer.length) : ws.HandsOver buffer ret buffer' ws' where
  length := h.length.trans hlen
  handed hpos := by
    obtain ⟨before, data, hpending, hret, hfront⟩ := h.handed hpos
    obtain ⟨header, hheader⟩ := htakes.suffix
    refine ⟨header ++ before, data, ?_, hret, hfront⟩
    rw [← hheader, hpending, List.append_assoc]

theorem PayloadRead.handsOver (h : PayloadRead ws buffer ret buffer' ws') :
    ws.HandsOver buffer ret buffer' ws' := by
  cases h with
  | nothing => exact .of_nonpos rfl (le_refl 0)
  | failed hret _ => exact .of_nonpos rfl hret
  | @piece bytes ws₁ hle _ hconsumes =>
    have hhands := hands_unmask ws.frameState.maskKey hle (Nat.min_le_right _ _)
    refine ⟨hhands.length, fun _ => ⟨[], bytes, hconsumes.pending, rfl, ?_⟩⟩
    rw [setBytesRemaining, hconsumes.frameState]
    exact hhands.front

/-- Reading a payload changes no other field of the frame's state. -/
theorem PayloadRead.frameState (h : PayloadRead ws buffer ret buffer' ws') :
    ws'.frameState.opcode = ws.frameState.opcode ∧
      ws'.frameState.payloadLen = ws.frameState.payloadLen := by
  cases h with
  | nothing => exact ⟨rfl, rfl⟩
  | failed _ hconsumes => rw [hconsumes.frameState]; exact ⟨rfl, rfl⟩
  | piece _ _ hconsumes =>
    rw [setBytesRemaining, hconsumes.frameState]
    exact ⟨rfl, rfl⟩

theorem wsReadBody_handsOver {r : ℤ} (hr : ws.frameState.payloadLen = 0 → r ≤ 0) :
    ∃ ret buffer' ws', ws.wsReadBody buffer r = (ret, buffer', ws') ∧
      ws.HandsOver buffer ret buffer' ws' := by
  unfold wsReadBody
  by_cases hzero : ws.frameState.payloadLen = 0
  · rw [if_neg (not_not.mpr hzero)]
    exact ⟨_, _, _, rfl, .of_nonpos rfl (hr hzero)⟩
  · obtain ⟨ret, buffer', ws', hread, hpayload⟩ := wsReadPayload_cases ws buffer
    rw [if_pos hzero, hread]
    simp only
    by_cases hfail : ret ≤ 0
    · -- `bytes_remaining` is dropped, but the buffer is as long as it was
      rw [if_pos hfail]
      exact ⟨_, _, _, rfl, .of_nonpos hpayload.handsOver.length hfail⟩
    · rw [if_neg hfail]
      exact ⟨_, _, _, rfl, hpayload.handsOver⟩

/-! A header takes its bytes from the stream, whatever they are. -/

theorem espTransportReadExactSize_cases (ws : TransportWs) {n : ℕ} (hn : 0 < n) :
    ∃ ret bytes ws', ws.espTransportReadExactSize n = (ret, bytes, ws') ∧ ws.Takes ws' ∧
      bytes.length ≤ n ∧ (ret ≤ 0 → ret < 0) := by
  obtain ⟨ret, bytes, ws', hread, hgives⟩ := espTransportReadExactSize_spec ws n
  have hret := hgives.ret
  exact ⟨ret, bytes, ws', hread, hgives.consumes.takes, by omega, by omega⟩

theorem readPayloadLen_cases (ws : TransportWs) (code : ℕ) :
    ∃ out ws', ws.readPayloadLen code = (out, ws') ∧ ws.Takes ws' ∧
      ∀ e, out = .error e → e < 0 := by
  obtain ⟨ret₂, d₂, ws₂, hread₂, htakes₂, -, hneg₂⟩ :=
    espTransportReadExactSize_cases ws (by decide : 0 < 2)
  obtain ⟨ret₈, d₈, ws₈, hread₈, htakes₈, -, hneg₈⟩ :=
    espTransportReadExactSize_cases ws (by decide : 0 < 8)
  unfold readPayloadLen
  rw [hread₂, hread₈]
  simp only
  split
  · -- two bytes
    split
    next hfail => exact ⟨_, _, rfl, htakes₂, fun e he => Except.error.inj he ▸ hneg₂ hfail⟩
    next => exact ⟨_, _, rfl, htakes₂, fun e he => by cases he⟩
  · split
    · -- eight bytes
      split
      next hfail => exact ⟨_, _, rfl, htakes₈, fun e he => Except.error.inj he ▸ hneg₈ hfail⟩
      next =>
        split
        · exact ⟨_, _, rfl, htakes₈, fun e he => by cases he⟩
        · exact ⟨_, _, rfl, htakes₈, fun e he => by cases he⟩
    · exact ⟨_, _, rfl, .refl ws, fun e he => by cases he⟩

/-- A key read into a buffer of four bytes stays in it. -/
theorem readMask_bounds (ws : TransportWs) {buffer : Bytes} (h4 : 4 ≤ buffer.length) (mask : Bool)
    (payloadLen : ℤ) : ∃ rlen buffer' ws',
      ws.readMask buffer mask payloadLen = some (rlen, buffer', ws') ∧
      buffer'.length = buffer.length ∧ (0 ≤ rlen → ws'.frameState.payloadLen = rlen) ∧
      ws.Takes ws' := by
  have hkeeps : ∀ ws₁ : TransportWs, ∀ key, ws₁.Takes (ws₁.gotHeader key payloadLen) :=
    fun ws₁ key => ⟨List.suffix_rfl, ⟨⟨id, id, rfl⟩, rfl, rfl⟩⟩
  unfold readMask
  cases mask with
  | false => exact ⟨_, _, _, rfl, rfl, fun _ => rfl, hkeeps ws _⟩
  | true =>
    rw [if_pos rfl, if_neg (by omega)]
    by_cases hzero : payloadLen = 0
    · -- no key is read
      rw [if_neg (not_not.mpr hzero)]
      exact ⟨_, _, _, rfl, rfl, fun _ => rfl, hkeeps ws _⟩
    · obtain ⟨ret, key, ws₁, hread, htakes, hle, hneg⟩ :=
        espTransportReadExactSize_cases ws (by decide : 0 < 4)
      have hlen : (splice buffer 0 key).length = buffer.length := length_splice (by omega)
      rw [if_pos hzero, hread]
      simp only
      by_cases hfail : ret ≤ 0
      · rw [if_pos hfail]
        exact ⟨_, _, _, rfl, hlen, fun hpos => absurd (hneg hfail) (by omega), htakes⟩
      · rw [if_neg hfail]
        exact ⟨_, _, _, rfl, hlen, fun _ => rfl, htakes.trans (hkeeps ws₁ _)⟩

/-- A header read into a buffer of four bytes stays in it, and what it returns
is the payload's length, an error or the answer of a poll. -/
theorem wsReadHeader_bounds (ws : TransportWs) {buffer : Bytes} (h4 : 4 ≤ buffer.length) :
    ∃ rlen buffer' ws', ws.wsReadHeader buffer = some (rlen, buffer', ws') ∧
      buffer'.length = buffer.length ∧
      (0 ≤ rlen → ws'.frameState.payloadLen = rlen ∨
        rlen = 0 ∧ ws'.frameState.headerReceived = false) ∧
      ws.Takes ws' := by
  unfold wsReadHeader
  let ws₁ := (ws.setHeaderReceived false).wsPollRead.2
  have hpoll₁ : (ws.setHeaderReceived false).wsPollRead = (ws.inbound.pollReads.head, ws₁) := rfl
  have htakes₁ : ws.Takes ws₁ :=
    ⟨List.suffix_rfl, ⟨⟨id, fun h n => h (n + 1), rfl⟩, rfl, rfl⟩⟩
  rw [hpoll₁]
  simp only
  by_cases hpoll : ws.inbound.pollReads.head ≤ 0
  · rw [if_pos hpoll]
    exact ⟨_, _, ws₁, rfl, rfl, fun hpos => Or.inr ⟨by omega, rfl⟩, htakes₁⟩
  rw [if_neg hpoll]
  obtain ⟨ret, header, ws₂, hread, htakes₂, -, hneg⟩ :=
    espTransportReadExactSize_cases ws₁ (by decide : 0 < 2)
  rw [hread]
  simp only
  by_cases hfail : ret ≤ 0
  · rw [if_pos hfail]
    exact ⟨_, _, ws₂, rfl, rfl, fun hpos => absurd (hneg hfail) (by omega), htakes₁.trans htakes₂⟩
  rw [if_neg hfail]
  let ws₃ := ws₂.gotFirstByte (header.getD 0 0)
  have htakes₃ : ws.Takes ws₃ :=
    (htakes₁.trans htakes₂).trans ⟨List.suffix_rfl, ⟨⟨id, id, rfl⟩, rfl, rfl⟩⟩
  obtain ⟨out, ws₄, hlen, htakes₄, herror⟩ :=
    readPayloadLen_cases ws₃ (header.getD 1 0 &&& 0x7F).toNat
  rw [hlen]
  cases out with
  | error e =>
    have := herror e rfl
    exact ⟨_, _, ws₄, rfl, rfl, fun hpos => absurd this (by omega), htakes₃.trans htakes₄⟩
  | ok payloadLen =>
    obtain ⟨rlen, buffer', ws₅, hmask, hkept, hpayloadLen, htakes₅⟩ :=
      readMask_bounds ws₄ h4 ((header.getD 1 0 >>> 7) &&& 0x01 != 0) payloadLen
    exact ⟨rlen, buffer', ws₅, hmask, hkept, fun hpos => Or.inl (hpayloadLen hpos),
      (htakes₃.trans htakes₄).trans htakes₅⟩

/-- The one case in which a control frame makes the handler read too far. -/
theorem espTransportWsHandleControlFrames_eq_none {buffer : Bytes}
    (h : ws.espTransportWsHandleControlFrames buffer = none) :
    ws.frameState.opcode = wsOpcodeClose ∧ 0 < ws.frameState.payloadLen ∧ buffer.length < 2 := by
  unfold espTransportWsHandleControlFrames at h
  split at h
  · cases h
  · split at h
    · cases h
    · split at h
      · -- a ping
        cases hwrite : ws.wsWriteFrame (wsOpcodePong ||| wsFin) wsMask
            (buffer.take ws.frameState.payloadLen.toNat) with
        | mk ret out =>
          rw [hwrite] at h
          simp only at h
          split at h <;> cases h
      · split at h
        case isTrue hclose =>
          split at h
          case isTrue hshort => exact ⟨hclose, hshort⟩
          case isFalse =>
            cases hwrite : ws.wsWriteFrame (wsOpcodeClose ||| wsFin) wsMask [] with
            | mk ret out =>
              rw [hwrite] at h
              simp only at h
              split at h
              · cases h
              · by_cases hclosed :
                    (out.2.setHeaderReceived false).espTransportWsPollConnectionClosed.1 ≤ 0
                · cases (if_pos hclosed).symm.trans h
                · cases (if_neg hclosed).symm.trans h
        case isFalse => split at h <;> cases h

/-- Handling a control frame is defined but for a close with one byte, and its
value is never positive. -/
theorem wsHandleControlFrameInternal_bounds (ws : TransportWs) :
    (∃ ret ws', ws.wsHandleControlFrameInternal = some (ret, ws') ∧ ret ≤ 0) ∨
      ws.wsHandleControlFrameInternal = none ∧ ws.frameState.opcode = wsOpcodeClose ∧
        ws.frameState.payloadLen = 1 := by
  unfold wsHandleControlFrameInternal
  by_cases hdata : ws.frameState.headerReceived = false ∨ !isControlFrame ws.frameState.opcode
  · rw [if_pos hdata]
    exact Or.inl ⟨0, ws, rfl, le_refl 0⟩
  rw [if_neg hdata]
  by_cases hlong : ws.frameState.payloadLen > wsTransportMaxControlFrameBufferLen
  · rw [if_pos hlong]
    exact Or.inl ⟨-1, ws, rfl, by decide⟩
  rw [if_neg hlong]
  obtain ⟨granted, ws₁, hmalloc, hstate₁⟩ : ∃ granted ws₁,
      (if 0 < ws.frameState.payloadLen then ws.malloc else (true, ws)) = (granted, ws₁) ∧
        ws₁.frameState = ws.frameState := by
    split
    · exact ⟨_, _, rfl, rfl⟩
    · exact ⟨_, _, rfl, rfl⟩
  rw [hmalloc]
  cases granted with
  | false => exact Or.inl ⟨-1, ws₁, rfl, by decide⟩
  | true =>
    simp only
    obtain ⟨actualLen, data, ws₂, hread, hpayload⟩ :=
      wsReadPayload_cases ws₁ (newBuffer ws₁.platform.fresh ws.frameState.payloadLen.toNat)
    rw [hread]
    simp only
    by_cases hshort : actualLen ≠ ws.frameState.payloadLen
    · rw [if_pos hshort]
      exact Or.inl ⟨-1, ws₂, rfl, by decide⟩
    rw [if_neg hshort]
    cases hreply : ws₂.espTransportWsHandleControlFrames data with
    | some out =>
      obtain ⟨ret, ws₃⟩ := out
      exact Or.inl ⟨_, ws₃, rfl, by split <;> omega⟩
    | none =>
      -- the buffer has the size of the payload
      obtain ⟨hop, hpos, hlen⟩ := espTransportWsHandleControlFrames_eq_none hreply
      obtain ⟨hopcode, hpayloadLen⟩ := hpayload.frameState
      have hsize := hpayload.handsOver.length
      rw [length_newBuffer] at hsize
      rw [hopcode, hstate₁] at hop
      rw [hpayloadLen, hstate₁] at hpos
      exact Or.inr ⟨rfl, hop, by omega⟩

/-- **Whatever the server sends**, a call with room for a masking key writes
nothing outside the caller's buffer, and a positive value is the number of
payload bytes handed over (`HandsOver`). The call is defined, but for a close
frame with one byte of payload that the transport handles itself. -/
theorem wsRead_safe (ws : TransportWs) {buffer : Bytes} (h4 : 4 ≤ buffer.length) :
    (∃ ret buffer' ws', ws.wsRead buffer = some (ret, buffer', ws') ∧
      ws.HandsOver buffer ret buffer' ws') ∨
    ws.wsRead buffer = none ∧ ws.propagateControlFrames = false ∧
      ∃ buffer' ws', ws.wsReadHeader buffer = some (1, buffer', ws') ∧
        ws'.frameState.opcode = wsOpcodeClose := by
  unfold wsRead
  by_cases hbetween : ws.frameState.bytesRemaining ≤ 0
  · rw [if_pos hbetween]
    obtain ⟨rlen, buffer₁, ws₁, hheader, hlen, hpayloadLen, htakes⟩ := wsReadHeader_bounds ws h4
    rw [hheader]
    simp only
    by_cases hneg : rlen < 0
    · rw [if_pos hneg]
      exact Or.inl ⟨rlen, buffer₁, _, rfl, .of_nonpos hlen hneg.le⟩
    rw [if_neg hneg]
    by_cases hhandled : (ws₁.frameState.headerReceived &&
        isControlFrame ws₁.frameState.opcode && !ws₁.propagateControlFrames) = true
    · rw [if_pos hhandled]
      rcases wsHandleControlFrameInternal_bounds ws₁ with ⟨ret, ws₂, hret, hle⟩ | ⟨hnone, hop, hone⟩
      · rw [hret]
        exact Or.inl ⟨ret, buffer₁, ws₂, rfl, .of_nonpos hlen hle⟩
      · -- the close code of two bytes does not stand in one
        rw [hnone]
        simp only [Bool.and_eq_true, Bool.not_eq_true'] at hhandled
        obtain ⟨⟨hreceived, -⟩, hinternal⟩ := hhandled
        have hrlen : rlen = 1 := by
          rcases hpayloadLen (by omega) with hlen | ⟨-, hfalse⟩
          · omega
          · rw [hfalse] at hreceived
            cases hreceived
        exact Or.inr ⟨rfl, htakes.quiet.propagate.symm.trans hinternal, buffer₁, ws₁,
          by rw [hrlen], hop⟩
    · rw [if_neg hhandled]
      by_cases hzero : rlen = 0
      · rw [if_pos hzero]
        exact Or.inl ⟨0, buffer₁, _, rfl, .of_nonpos hlen (le_refl 0)⟩
      · rw [if_neg hzero]
        -- the payload comes right behind the header
        obtain ⟨ret, buffer', ws', hbody, hhands⟩ := @wsReadBody_handsOver ws₁ buffer₁ rlen
          fun h => by rcases hpayloadLen (by omega) with hlen | ⟨hnil, -⟩ <;> omega
        exact Or.inl ⟨ret, buffer', ws', congrArg some hbody, hhands.of_takes htakes hlen⟩
  · rw [if_neg hbetween]
    obtain ⟨ret, buffer', ws', hbody, hhands⟩ :=
      @wsReadBody_handsOver ws buffer 0 fun _ => le_refl 0
    exact Or.inl ⟨ret, buffer', ws', congrArg some hbody, hhands⟩

theorem wsRead_safe_four : ∃ ret buffer' ws',
    { takingTransport 6 with propagateControlFrames := true }.wsRead [1, 2, 3, 4] =
        some (ret, buffer', ws') ∧ buffer'.length = 4 := by
  rcases @wsRead_safe { takingTransport 6 with propagateControlFrames := true } [1, 2, 3, 4]
    (by decide) with ⟨ret, buffer', ws', hread, hhands⟩ | ⟨-, hfalse, -⟩
  · exact ⟨ret, buffer', ws', hread, hhands.length⟩
  · cases hfalse

end TransportWs

end TcpTransport
