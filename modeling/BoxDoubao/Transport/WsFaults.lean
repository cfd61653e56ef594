import BoxDoubao.Transport.WsStream

/-!
# Where the stream is not delivered as it was sent

`reader_delivers_frames` is about frames that are not masked, over a parent
that gives something whenever it is read from. This module says what happens
elsewhere.

* A length that is no `int` is refused, and the key of an empty masked frame is
  left in the stream (`wsReadHeader_length`).
* A masked payload is unmasked from the start of the key on at every call, so
  it arrives intact exactly where the calls are aligned to the key
  (`masked_frame_delivered_iff`).
* The payload of a control frame that the transport handles itself is read by
  one read; what that read does not give is handed to the caller as data
  (`control_payload_leaks_iff`).
* A payload read that times out loses the place in the stream: the rest of the
  payload is read as frames (`timeout_delivers_payload_as_frames`).
-/

namespace TcpTransport

open CMemory WebSocket

variable {ws ws' : TransportWs} {f : Frame} {rest : Bytes}

/-! ### The length of a header -/

/-- What `ws_read_header` leaves of a frame: its payload, or the key of an empty
one. -/
def afterHeader (f : Frame) : Bytes := if f.payload = [] then f.keyBytes else f.wire

/-- The header of an empty masked frame ends before its key. -/
theorem wsReadHeader_of_empty {buffer : Bytes} (hflows : ws.Flows)
    (hpoll : 0 < ws.inbound.pollReads.head) (hpending : ws.pending = f.encode ++ rest)
    (hempty : f.payload = []) (hmasked : f.key.isSome → 4 ≤ buffer.length) :
    ∃ ws', ws.wsReadHeader buffer = some (0, buffer, ws') ∧
      ws'.frameState.opcode = UInt8.ofNat f.opcode.val ∧ ws'.frameState.fin = f.fin ∧
      ws'.pending = f.keyBytes ++ rest := by
  obtain ⟨ws₁, hheader, hstate, hpending₁, -⟩ :=
    TransportWs.wsReadHeader_to_mask buffer hflows hpoll hpending
  rw [Frame.wire_eq_nil_iff.mpr hempty, List.nil_append] at hpending₁
  have hzero : TransportWs.declaredLen f.payload.length = 0 := by
    rw [hempty]
    rfl
  rw [hzero] at hheader
  cases hkey : f.key.isSome with
  | false =>
    refine ⟨ws₁.gotHeader MaskKey.zero 0, ?_, by rw [TransportWs.gotHeader, hstate],
      by rw [TransportWs.gotHeader, hstate], hpending₁⟩
    rw [hheader, hkey]
    exact if_neg Bool.false_ne_true
  | true =>
    have hfour := hmasked hkey
    -- what the caller's buffer holds is taken for the key
    refine ⟨ws₁.gotHeader (MaskKey.ofBytes buffer) 0, ?_, by rw [TransportWs.gotHeader, hstate],
      by rw [TransportWs.gotHeader, hstate], hpending₁⟩
    rw [hheader, hkey, TransportWs.readMask, if_pos rfl, if_neg (by omega)]
    exact if_neg (not_not.mpr rfl)

/-- **A header in any form, cut anywhere**, is read to its end and no further, and
the key of an empty frame is not even read. Its length is returned where it is an
`int`; a longer one is refused. -/
theorem wsReadHeader_length {buffer : Bytes} (hflows : ws.Flows)
    (hpoll : 0 < ws.inbound.pollReads.head) (hpending : ws.pending = f.encode ++ rest)
    (hmasked : f.key.isSome → 4 ≤ buffer.length) :
    ∃ ret buffer' ws', ws.wsReadHeader buffer = some (ret, buffer', ws') ∧
      ws'.pending = afterHeader f ++ rest ∧
      ws'.frameState.opcode = UInt8.ofNat f.opcode.val ∧ ws'.frameState.fin = f.fin ∧
      (ret = f.payload.length ↔ f.payload.length < 2147483648) ∧
      (ret < 0 ↔ 2147483648 ≤ f.payload.length) := by
  by_cases hempty : f.payload = []
  · obtain ⟨ws', hread, hopcode, hfin, hpending'⟩ :=
      wsReadHeader_of_empty hflows hpoll hpending hempty hmasked
    refine ⟨0, buffer, ws', hread, ?_, hopcode, hfin, ?_⟩
    · rw [afterHeader, if_pos hempty]
      exact hpending'
    · rw [hempty]
      exact ⟨iff_of_true rfl (by decide), iff_of_false (by decide) (by decide)⟩
  · obtain ⟨buffer', ws', hread, -, hstate, hpending', -⟩ :=
      TransportWs.wsReadHeader_of_pending hflows hpoll hpending fun h => ⟨hempty, hmasked h⟩
    refine ⟨_, buffer', ws', hread, ?_, by rw [hstate]; rfl, by rw [hstate]; rfl, ?_⟩
    · rw [afterHeader, if_neg hempty]
      exact hpending'
    · rcases Nat.lt_or_ge f.payload.length 2147483648 with hlt | hge
      · rw [TransportWs.declaredLen_of_lt hlt]
        exact ⟨iff_of_true rfl hlt, iff_of_false (by omega) (by omega)⟩
      · have hneg := TransportWs.declaredLen_neg hge
        exact ⟨iff_of_false (by omega) (by omega), iff_of_true hneg hge⟩

theorem wsReadHeader_length_pingAndReply :
    ∃ ret buffer' ws', (slowTransport false pingAndReply).wsReadHeader [0] =
        some (ret, buffer', ws') ∧ ret = 1 ∧ ws'.frameState.opcode = 9 := by
  have hpending : (slowTransport false pingAndReply).pending =
      (plainFrame Opcode.ping [7] (by decide)).encode ++
        encodeAll [plainFrame Opcode.binary [104, 101, 108, 108, 111] (by decide)] :=
    List.take_append_drop 3 (encodeAll pingAndReply)
  have hflows : (slowTransport false pingAndReply).Flows := fun _ => (by decide : (0 : ℤ) < 2)
  obtain ⟨ret, buffer', ws', hread, -, hopcode, -, hret, -⟩ := @wsReadHeader_length _ _ _ [0]
    hflows (by decide : (0 : ℤ) < 1) hpending (fun h => by cases h)
  exact ⟨ret, buffer', ws', hread, hret.mpr (by decide), hopcode⟩

/-! ### Masked frames -/

/-- The calls of `ws_read` with the bytes they return. -/
def pieces : Transducer TransportWs Bytes Bytes where
  step ws buffer :=
    match ws.wsRead buffer with
    | none => none
    | some (ret, buffer, ws) => if ret < 0 then none else some (ws, [buffer.take ret.toNat])

theorem pieces_step {buffer piece more : Bytes}
    (h : ws.ReadsPiece f buffer piece more rest (ws.wsRead buffer) ws') :
    pieces.step ws buffer = some (ws', [applyMask (f.key.getD MaskKey.zero) 0 piece]) := by
  obtain ⟨buffer', hread, hhands⟩ := h.result
  have hdata := hhands.take
  rw [length_applyMask] at hdata
  simp only [pieces, hread, Int.toNat_natCast, hdata]
  exact if_neg (by omega)

/-- The sizes of calls that end exactly where `left` bytes have been read. -/
structure Covers (datas : List Bytes) (left : ℕ) : Prop where
  before : (datas.dropLast.map List.length).sum < left
  all : (datas.map List.length).sum = left

/-- The first call of a run, which gives `piece` of what is left. -/
theorem pieces_cons {piece more buffer : Bytes} {buffers datas : List Bytes}
    {ws₁ : TransportWs} (hread : ws.ReadsPiece f buffer piece more rest (ws.wsRead buffer) ws₁)
    (hrun : pieces.run ws (buffer :: buffers) = some (ws', datas))
    (hcovers : Covers datas (piece ++ more).length) :
    ∃ later, datas = applyMask (f.key.getD MaskKey.zero) 0 piece :: later ∧
      pieces.run ws₁ buffers = some (ws', later) ∧
      (more = [] ∧ later = [] ∨ more ≠ [] ∧ Covers later more.length) := by
  obtain ⟨ws₂, first, later, hstep, hrest, rfl⟩ := Transducer.run_cons_inv hrun
  -- what is unmasked has the length of what was read
  rw [pieces_step hread] at hstep
  obtain ⟨rfl, rfl⟩ := Prod.mk.inj (Option.some.inj hstep)
  obtain ⟨hbefore, hall⟩ := hcovers
  rw [List.singleton_append] at hall hbefore
  rw [List.map_cons, List.sum_cons, length_applyMask, List.length_append] at hall
  refine ⟨later, rfl, hrest, ?_⟩
  cases later with
  | nil =>
    rw [List.map_nil, List.sum_nil] at hall
    exact Or.inl ⟨List.length_eq_zero_iff.mp (by omega), rfl⟩
  | cons d ds =>
    rw [List.dropLast_cons_cons, List.map_cons, List.sum_cons, length_applyMask,
      List.length_append] at hbefore
    refine Or.inr ⟨fun hmore => ?_, by omega, by omega⟩
    rw [hmore, List.length_nil] at hbefore
    omega

/-- The pieces of a payload are pieces of what is left of it, each unmasked from
the start of the key on. -/
theorem pieces_of_inside {left : Bytes} {buffers datas : List Bytes} (hflows : ws.Flows)
    (hinside : ws.Inside f left rest) (hpayload : f.payload ≠ []) (hleft : left ≠ [])
    (hbuffers : ∀ b ∈ buffers, b ≠ []) (hrun : pieces.run ws buffers = some (ws', datas))
    (hcovers : Covers datas left.length) :
    ∃ ps : List Bytes, ps.flatten = left ∧
      datas = ps.map (applyMask (f.key.getD MaskKey.zero) 0) := by
  -- by the calls: each takes a piece off the front of what is left
  induction buffers generalizing ws left datas with
  | nil =>
    obtain ⟨-, rfl⟩ := Prod.mk.inj (Option.some.inj hrun)
    exact absurd (List.length_eq_zero_iff.mp hcovers.all.symm) hleft
  | cons buffer buffers ih =>
    obtain ⟨piece, more, ws₁, rfl, hpiece, hread⟩ :=
      TransportWs.wsRead_of_inside hflows hinside hleft hpayload
        (hbuffers buffer List.mem_cons_self)
    obtain ⟨later, rfl, hrest, ⟨hmore, rfl⟩ | ⟨hmore, hcovers'⟩⟩ :=
      pieces_cons hread hrun hcovers
    · exact ⟨[piece], by simp [hmore], rfl⟩
    · obtain ⟨ps, rfl, rfl⟩ := ih (hread.quiet.flows hflows) hread.inside hmore
        (fun b hb => hbuffers b (List.mem_cons_of_mem buffer hb)) hrest hcovers'
      exact ⟨piece :: ps, rfl, rfl⟩

/-- **A masked frame arrives intact exactly where the calls are aligned to its
key.** The calls are those from the header of the frame to the end of its
payload. -/
theorem masked_frame_delivered_iff {key : MaskKey} {buffers datas : List Bytes}
    (hkey : f.key = some key) (hreadable : Readable f)
    (hbetween : ws.frameState.bytesRemaining ≤ 0) (hflows : ws.Flows)
    (hpoll : 0 < ws.inbound.pollReads.head) (hpending : ws.pending = f.encode ++ rest)
    (hshown : ws.Shown f = true) (hbuffers : ∀ b ∈ buffers, 4 ≤ b.length)
    (hrun : pieces.run ws buffers = some (ws', datas)) (hcovers : Covers datas f.payload.length) :
    datas.flatten = f.payload ↔ Aligned key 0 (datas.map List.length) := by
  have hpayload : f.payload ≠ [] := hreadable.masked (by rw [hkey]; rfl)
  have hne : ∀ b ∈ buffers, b ≠ [] := fun b hb h => by
    have := hbuffers b hb
    rw [h, List.length_nil] at this
    omega
  -- the pieces, as they travel
  obtain ⟨ps, hwire, rfl⟩ : ∃ ps : List Bytes, ps.flatten = f.wire ∧
      datas = ps.map (applyMask key 0) := by
    cases buffers with
    | nil =>
      obtain ⟨-, rfl⟩ := Prod.mk.inj (Option.some.inj hrun)
      exact absurd (List.length_eq_zero_iff.mp hcovers.all.symm) hpayload
    | cons buffer buffers =>
      obtain ⟨piece, more, ws₁, hsplit, -, hread⟩ :=
        TransportWs.wsRead_of_frame hreadable hbetween hflows hpoll hpending
          (fun _ => hbuffers buffer List.mem_cons_self) hshown hpayload
          (hne buffer List.mem_cons_self)
      rw [← f.length_wire, hsplit] at hcovers
      obtain ⟨later, rfl, hrest, ⟨hmore, rfl⟩ | ⟨hmore, hcovers'⟩⟩ :=
        pieces_cons hread hrun hcovers
      · rw [hkey, Option.getD_some]
        exact ⟨[piece], by simp [hsplit, hmore], rfl⟩
      · obtain ⟨ps, hflat, hdatas⟩ := pieces_of_inside (hread.quiet.flows hflows) hread.inside
          hpayload hmore (fun b hb => hne b (List.mem_cons_of_mem buffer hb)) hrest hcovers'
        rw [hkey, Option.getD_some] at hdatas ⊢
        exact ⟨piece :: ps, by rw [List.flatten_cons, hflat, hsplit], by rw [hdatas]; rfl⟩
  -- the server masked the payload as a whole, the transport unmasks piece by piece
  have htrue : f.payload = applyMask key 0 ps.flatten := by
    rw [hwire, Frame.wire, hkey, maskWith, applyMask_applyMask]
  have hlengths : (ps.map (applyMask key 0)).map List.length = ps.map List.length := by
    rw [List.map_map]
    exact List.map_congr_left fun p _ => length_applyMask key 0 p
  rw [htrue, hlengths]
  exact flatten_map_applyMask_iff

/-- A key of four different bytes. -/
def countingKey : MaskKey := fun i => UInt8.ofNat (i.val + 1)

/-- Five masked bytes. -/
def maskedFrame : Frame :=
  Frame.ofMessage true Opcode.binary (some countingKey) [104, 101, 108, 108, 111] (by decide)

/-- Cut into pieces of two bytes, they are not what was sent. -/
theorem masked_frame_delivered_iff_maskedFrame :
    ∃ ws' datas, pieces.run (slowTransport true [maskedFrame]) (List.replicate 3 [0, 0, 0, 0]) =
        some (ws', datas) ∧ datas.map List.length = [2, 2, 1] ∧
      datas.flatten ≠ maskedFrame.payload := by
  have hdatas : (pieces.run (slowTransport true [maskedFrame])
      (List.replicate 3 [0, 0, 0, 0])).map (fun out => out.2.map List.length) =
        some [2, 2, 1] := by decide +kernel
  obtain ⟨⟨ws', datas⟩, hrun, hlen⟩ := Option.map_eq_some_iff.mp hdatas
  have hcovers : Covers datas maskedFrame.payload.length :=
    ⟨by rw [List.map_dropLast, hlen]; decide, by rw [hlen]; decide⟩
  refine ⟨ws', datas, hrun, hlen, fun hflat => ?_⟩
  have hkey : maskedFrame.key = some countingKey := rfl
  have hpending : (slowTransport true [maskedFrame]).pending = maskedFrame.encode ++ [] :=
    List.take_append_drop 3 (encodeAll [maskedFrame])
  have hflows : (slowTransport true [maskedFrame]).Flows := fun _ => (by decide : (0 : ℤ) < 2)
  have haligned := (masked_frame_delivered_iff hkey ⟨by decide, fun _ => by decide⟩ (le_refl 0)
    hflows (by decide : (0 : ℤ) < 1) hpending (Bool.true_or _)
    (fun b hb => by rw [List.eq_of_mem_replicate hb]; decide) hrun hcovers).mp hflat
  rw [hlen] at haligned
  exact absurd (haligned.2.1 0 (by decide)) (by decide)

/-! ### Control frames that the transport handles -/

/-- The most bytes the next read can give. -/
def TransportWs.nextRead (ws : TransportWs) : ℕ :=
  if ws.buffer.length = 0 then min ws.inbound.reads.head.toNat ws.inbound.incoming.length
  else ws.buffer.length

theorem length_of_read {len : ℕ} {ret : ℤ} {bytes : Bytes}
    (h : ws.espTransportReadInternal len = (ret, bytes, ws')) :
    bytes.length = min ws.nextRead len := by
  unfold TransportWs.espTransportReadInternal at h
  unfold TransportWs.nextRead
  -- what the handshake has left over is given before the parent is asked
  by_cases hbuf : ws.buffer.length = 0
  · rw [if_pos hbuf] at h ⊢
    have hbytes : bytes = ws.inbound.incoming.take (min ws.inbound.reads.head.toNat len) := by
      rw [← (Prod.mk.inj (Prod.mk.inj h).2).1]
    rw [hbytes, List.length_take]
    omega
  · rw [if_neg hbuf] at h ⊢
    rw [← (Prod.mk.inj (Prod.mk.inj h).2).1, List.length_take]
    split <;> omega

/-- A payload read gives as much as there is to come and the next read gives. -/
theorem ret_of_readPayload {left buffer buffer' : Bytes} {ret : ℤ}
    (hinside : ws.Inside f left rest) (hlen : left.length ≤ buffer.length)
    (h : ws.wsReadPayload buffer = (ret, buffer', ws')) (hret : 0 < ret) :
    ret = min ws.nextRead left.length := by
  have htoRead : ws.toRead buffer = left.length := by
    rw [TransportWs.toRead, hinside.frameState]
    exact Nat.min_eq_left hlen
  obtain ⟨ret', buffer'', ws'', hread, hpayload⟩ := TransportWs.wsReadPayload_cases ws buffer
  obtain ⟨rfl, -⟩ := Prod.mk.inj (hread.symm.trans h)
  cases hpayload with
  | nothing => omega
  | failed hle _ => omega
  | piece _ hpiece _ =>
    rw [htoRead] at hpiece
    exact congrArg Nat.cast (length_of_read hpiece)

/-- Answering a control frame leaves the place in the stream alone. -/
theorem handleControlFrames_bytesRemaining {ret : ℤ} (hstate : ws.frameState = FrameState.of f 0)
    (hlt : f.payload.length < 2147483648)
    (h : ws.espTransportWsHandleControlFrames f.payload = some (ret, ws')) :
    ws'.frameState.bytesRemaining = 0 := by
  have hzero : ws.frameState.bytesRemaining = 0 := by rw [hstate]; rfl
  have hlen : ws.frameState.payloadLen = f.payload.length := by rw [hstate]; rfl
  obtain ⟨r₁, b₁, s₁, ws₁, hpong, hsends₁, -⟩ := TransportWs.reply_sent ws Opcode.pong hlt
  obtain ⟨r₂, b₂, s₂, ws₂, hclose, hsends₂, -⟩ :=
    TransportWs.reply_sent ws Opcode.close (by decide : ([] : Bytes).length < 2147483648)
  have hzero₁ : ws₁.frameState.bytesRemaining = 0 := by rw [hsends₁.frameState, hzero]
  have hzero₂ : ws₂.frameState.bytesRemaining = 0 := by rw [hsends₂.frameState, hzero]
  unfold TransportWs.espTransportWsHandleControlFrames at h
  rw [hlen, Int.toNat_natCast, List.take_length,
    show wsOpcodePong ||| wsFin = UInt8.ofNat (128 + Opcode.pong.val) from rfl,
    show wsOpcodeClose ||| wsFin = UInt8.ofNat (128 + Opcode.close.val) from rfl, hpong,
    hclose] at h
  have hresult : ∀ (r : ℤ) (ws₀ : TransportWs), ws₀.frameState.bytesRemaining = 0 →
      some (r, ws₀) = some (ret, ws') → ws'.frameState.bytesRemaining = 0 := by
    intro r ws₀ hws₀ heq
    rw [← (Prod.mk.inj (Option.some.inj heq)).2]
    exact hws₀
  simp only at h
  split at h
  · exact hresult _ _ hzero h
  · rw [if_neg (by omega)] at h
    split at h
    · -- a ping
      split at h
      · exact hresult _ _ hzero₁ h
      · exact hresult _ (ws₁.setHeaderReceived false) hzero₁ h
    · split at h
      · -- a close
        split at h
        · cases h
        · split at h
          · exact hresult _ _ hzero₂ h
          · let ws₃ := (ws₂.setHeaderReceived false).espTransportWsPollConnectionClosed.2
            by_cases hclosed :
                (ws₂.setHeaderReceived false).espTransportWsPollConnectionClosed.1 ≤ 0
            · exact hresult _ ws₃ hzero₂ ((if_pos hclosed).symm.trans h)
            · exact hresult _ ws₃ hzero₂ ((if_neg hclosed).symm.trans h)
      · -- a pong, or an opcode that is not known
        split at h
        · exact hresult _ (ws.setHeaderReceived false) hzero h
        · exact hresult _ _ hzero h

/-- What is left of a control frame's payload that the transport has not read in
one piece is data to the next call. -/
def LeaksTo (ws : TransportWs) (f : Frame) (rest : Bytes) : Prop :=
  ∃ left, left ≠ [] ∧ left <:+ f.payload ∧ ws.Inside f left rest ∧
    ∀ buffer : Bytes, buffer ≠ [] → ∃ piece more buffer' ws', left = piece ++ more ∧ piece ≠ [] ∧
      ws.wsRead buffer = some ((piece.length : ℤ), buffer', ws') ∧ piece <+: buffer'

theorem leaksTo_of_inside {left : Bytes} (hunmasked : f.key = none) (hflows : ws.Flows)
    (hinside : ws.Inside f left rest) (hne : left ≠ []) (hsuffix : left <:+ f.payload) :
    LeaksTo ws f rest := by
  have hpayload : f.payload ≠ [] := fun h => hne (List.suffix_nil.mp (h ▸ hsuffix))
  refine ⟨left, hne, hsuffix, hinside, fun buffer hbuffer => ?_⟩
  obtain ⟨piece, more, ws', hsplit, hpiece, ⟨buffer', hread, hhands⟩, -, -⟩ :=
    TransportWs.wsRead_of_inside hflows hinside hne hpayload hbuffer
  rw [TransportWs.maskKey_eq hunmasked, applyMask_zero] at hhands
  exact ⟨piece, more, buffer', ws', hsplit, hpiece, hread, hhands.front⟩

/-- **A control frame that the transport handles reaches the caller as data**
exactly where its payload is longer than the 125 bytes allowed, no memory is
granted for it, or the next read does not give all of it. -/
theorem control_payload_leaks_iff {ret : ℤ} (hunmasked : f.key = none)
    (hlt : f.payload.length < 2147483648) (hcontrol : 8 ≤ f.opcode.val)
    (hpayload : f.payload ≠ []) (hflows : ws.Flows) (hinside : ws.Inside f f.payload rest)
    (h : ws.wsHandleControlFrameInternal = some (ret, ws')) :
    LeaksTo ws' f rest ↔ 125 < f.payload.length ∨ ws.platform.mallocs.head = false ∨
      ws.nextRead < f.payload.length := by
  have hheader : ws.frameState.headerReceived = true := by rw [hinside.frameState]; rfl
  have hlen : ws.frameState.payloadLen = f.payload.length := by rw [hinside.frameState]; rfl
  have hiscontrol : isControlFrame ws.frameState.opcode = true := by
    rw [hinside.frameState]
    exact (Frame.control_bit f.opcode).trans (decide_eq_true hcontrol)
  have hpos : 0 < f.payload.length := List.length_pos_iff.mpr hpayload
  unfold TransportWs.wsHandleControlFrameInternal at h
  rw [if_neg (by simp [hheader, hiscontrol]), hlen, wsTransportMaxControlFrameBufferLen] at h
  by_cases hlong : 125 < f.payload.length
  · -- too long: nothing is read
    rw [if_pos (by omega)] at h
    obtain ⟨-, rfl⟩ := Prod.mk.inj (Option.some.inj h)
    exact iff_of_true (leaksTo_of_inside hunmasked hflows hinside hpayload List.suffix_rfl)
      (Or.inl hlong)
  · rw [if_neg (by omega), if_pos (by omega)] at h
    have hinside₁ : ws.malloc.2.Inside f f.payload rest := ⟨hinside.frameState, hinside.pending⟩
    cases hgranted : ws.platform.mallocs.head with
    | false =>
      -- no buffer to read it into
      have hmalloc : ws.malloc = (false, ws.malloc.2) := Prod.ext hgranted rfl
      rw [hmalloc] at h
      obtain ⟨-, rfl⟩ := Prod.mk.inj (Option.some.inj h)
      exact iff_of_true (leaksTo_of_inside hunmasked hflows hinside₁ hpayload List.suffix_rfl)
        (Or.inr (Or.inl rfl))
    | true =>
      have hmalloc : ws.malloc = (true, ws.malloc.2) := Prod.ext hgranted rfl
      rw [hmalloc] at h
      -- the buffer that was allocated is as long as the payload
      let buffer := newBuffer ws.malloc.2.platform.fresh f.payload.length
      have hsize : buffer.length = f.payload.length := length_newBuffer _ _
      obtain ⟨piece, more, data, ws₂, hsplit, hpiece, hread, hhands, hinside₂, hquiet⟩ :=
        @TransportWs.wsReadPayload_of_pending ws.malloc.2 _ _ _ buffer hflows hinside₁ hpayload
          (List.length_pos_iff.mp (by omega))
      have hpieceLen : 0 < piece.length := List.length_pos_iff.mpr hpiece
      have hgiven := ret_of_readPayload hinside₁ hsize.ge hread (by omega)
      have hnext : ws.malloc.2.nextRead = ws.nextRead := rfl
      have hsum := congrArg List.length hsplit
      rw [List.length_append] at hsum
      rw [Int.toNat_natCast] at h
      simp only at h
      rw [hread] at h
      simp only at h
      by_cases hmore : more = []
      · -- all of it has come
        rw [hmore, List.length_nil] at hsum
        rw [TransportWs.maskKey_eq hunmasked, applyMask_zero] at hhands
        rw [hmore, List.append_nil] at hsplit
        rw [if_neg (by omega), hhands.eq_of_length (by omega), ← hsplit] at h
        subst hmore
        cases hreply : ws₂.espTransportWsHandleControlFrames f.payload with
        | none =>
          rw [hreply] at h
          cases h
        | some out =>
          obtain ⟨ret', ws₃⟩ := out
          rw [hreply] at h
          obtain ⟨-, rfl⟩ := Prod.mk.inj (Option.some.inj h)
          -- the next call reads a header
          have hzero := handleControlFrames_bytesRemaining hinside₂.frameState hlt hreply
          refine iff_of_false ?_ (by simp only [Bool.true_eq_false, false_or]; omega)
          rintro ⟨left, hne, -, hinside₃, -⟩
          rw [hinside₃.frameState] at hzero
          exact hne (List.length_eq_zero_iff.mp (Int.ofNat_inj.mp hzero))
      · -- the call gives up, and `bytes_remaining` still counts the rest
        have hmoreLen : 0 < more.length := List.length_pos_iff.mpr hmore
        rw [if_pos (by omega)] at h
        obtain ⟨-, rfl⟩ := Prod.mk.inj (Option.some.inj h)
        exact iff_of_true (leaksTo_of_inside hunmasked (hquiet.flows hflows) hinside₂ hmore
          ⟨piece, hsplit.symm⟩) (Or.inr (Or.inr (by omega)))

/-- Behind the header of a ping of two bytes, which the parent gives one at a
time. -/
def splitPing : TransportWs :=
  { slowTransport false [] with
    frameState := FrameState.of (plainFrame Opcode.ping [7, 8] (by decide)) 2
    inbound := ⟨[7, 8], Stream'.const 1, Stream'.const 1⟩ }

theorem control_payload_leaks_iff_splitPing :
    ∃ ws', splitPing.wsHandleControlFrameInternal = some (-1, ws') ∧
      LeaksTo ws' (plainFrame Opcode.ping [7, 8] (by decide)) [] := by
  have hret : splitPing.wsHandleControlFrameInternal.map Prod.fst = some (-1) := by
    decide +kernel
  obtain ⟨⟨ret, ws'⟩, hhandle, rfl⟩ := Option.map_eq_some_iff.mp hret
  have hflows : splitPing.Flows := fun _ => (by decide : (0 : ℤ) < 1)
  exact ⟨ws', hhandle, (control_payload_leaks_iff rfl (by decide) (by decide) (by decide) hflows
    ⟨rfl, rfl⟩ hhandle).mpr (Or.inr (Or.inr (by decide)))⟩

/-! ### A timeout inside a payload -/

/-- The state after a read from the parent that gives nothing. -/
def TransportWs.timedOut (ws : TransportWs) : TransportWs :=
  { ws with
    inbound := { ws.inbound with reads := ws.inbound.reads.tail }
    frameState := { ws.frameState with bytesRemaining := 0 } }

/-- A payload read that gives nothing ends the frame. -/
theorem wsRead_of_timeout {left buffer : Bytes} (hinside : ws.Inside f left rest)
    (hleft : left ≠ []) (hpayload : f.payload ≠ []) (hbuf : ws.buffer = [])
    (htimeout : ws.inbound.reads.head ≤ 0) (hbuffer : buffer ≠ []) :
    ws.wsRead buffer = some (ws.inbound.reads.head, buffer, ws.timedOut) := by
  have hremaining : ws.frameState.bytesRemaining = left.length := by
    rw [hinside.frameState]
    rfl
  have hlength : ws.frameState.payloadLen ≠ 0 := by
    rw [hinside.frameState]
    exact fun h => hpayload (List.length_eq_zero_iff.mp (Int.ofNat_inj.mp h))
  have hpos : 0 < left.length := List.length_pos_iff.mpr hleft
  have hroom : 0 < buffer.length := List.length_pos_iff.mpr hbuffer
  -- nothing is left over, so the parent is asked, and it has nothing
  have hread : ∀ len, ws.espTransportReadInternal len = (ws.inbound.reads.head, [],
      { ws with inbound := { ws.inbound with reads := ws.inbound.reads.tail } }) := by
    intro len
    rw [TransportWs.espTransportReadInternal, if_pos (by rw [hbuf]; rfl)]
    simp only [Inbound.read, Int.toNat_of_nonpos htimeout, Nat.zero_min, List.take_zero,
      List.drop_zero, List.length_nil]
    rcases htimeout.lt_or_eq with hneg | hzero
    · rw [if_pos hneg]
    · rw [hzero, if_neg (by decide)]
      rfl
  have hpayloadRead : ws.wsReadPayload buffer = (ws.inbound.reads.head, buffer,
      { ws with inbound := { ws.inbound with reads := ws.inbound.reads.tail } }) := by
    unfold TransportWs.wsReadPayload
    rw [hremaining, if_pos (by split <;> omega), hread]
    exact if_pos htimeout
  unfold TransportWs.wsRead TransportWs.wsReadBody
  rw [if_neg (by omega), if_pos hlength, hpayloadRead]
  simp only
  rw [if_pos htimeout]
  rfl

/-- **A timeout inside a payload turns the rest of it into frames.** Where that
rest spells frames, the calls after the timeout deliver them as if the server
had sent them, and no call has failed. -/
theorem timeout_delivers_payload_as_frames {smuggled frames : List Frame} {buffer : Bytes}
    {buffers : List Bytes} (hinside : ws.Inside f (encodeAll smuggled) (encodeAll frames))
    (hleft : smuggled ≠ []) (hpayload : f.payload ≠ []) (hbuf : ws.buffer = [])
    (htimeout : ws.inbound.reads.head = 0) (hflows : ws.inbound.reads.tail.All (0 < ·))
    (hpolls : ws.inbound.pollReads.All (0 < ·)) (hpropagate : ws.propagateControlFrames = true)
    (hplain : ∀ g ∈ smuggled ++ frames, Plain g) (hbuffer : buffer ≠ [])
    (hbuffers : ∀ b ∈ buffers, b ≠ [])
    (henough : weight (smuggled ++ frames) ≤ buffers.length) :
    ∃ ws' n r', ws.wsRead buffer = some (0, buffer, ws') ∧
      reader.run ⟨ws', []⟩ (buffers.take n) = some (r', (smuggled ++ frames).map Message.of) := by
  have hne : encodeAll smuggled ≠ [] := by
    cases smuggled with
    | nil => exact absurd rfl hleft
    | cons g gs =>
      exact List.append_ne_nil_of_left_ne_nil (TransportWs.encode_ne_nil g) _
  have hread := wsRead_of_timeout hinside hne hpayload hbuf htimeout.le hbuffer
  rw [htimeout] at hread
  -- `bytes_remaining` is zero now, so the reader stands between two frames
  have hpending : ws.timedOut.pending = encodeAll (smuggled ++ frames) := by
    rw [encodeAll, List.flatMap_append]
    exact hinside.pending
  obtain ⟨n, r', msgs, -, hrun, hadv⟩ := run_complete (r := ⟨ws.timedOut, []⟩)
    (At.between rfl (le_refl 0) hpending) hplain hflows hpolls hpropagate hbuffers
    (Nat.le_add_right_of_le henough)
  refine ⟨ws.timedOut, n, r', hread, ?_⟩
  have hmsgs : msgs = (smuggled ++ frames).map Message.of := by
    rw [hadv.delivered, shown, List.filter_eq_self.mpr]
    intro g _
    rw [TransportWs.Shown]
    exact Bool.or_eq_true_iff.mpr (Or.inl hpropagate)
  rw [hrun, hmsgs]

/-- A reply whose payload spells another one. -/
def nestedReply : Frame :=
  plainFrame Opcode.binary (encodeAll [plainFrame Opcode.binary [1, 2] (by decide)]) (by decide)

/-- Behind the header of that reply, with a timeout to come. -/
def interrupted : TransportWs :=
  { slowTransport true [] with
    frameState := FrameState.of nestedReply 4
    inbound := ⟨nestedReply.payload, Stream'.cons 0 (Stream'.const 2), Stream'.const 1⟩ }

theorem timeout_delivers_payload_as_frames_interrupted :
    ∃ ws' n r', interrupted.wsRead [0] = some (0, [0], ws') ∧
      reader.run ⟨ws', []⟩ ((List.replicate 3 [0, 0, 0]).take n) =
        some (r', [⟨2, true, [1, 2]⟩]) :=
  @timeout_delivers_payload_as_frames _ nestedReply [plainFrame Opcode.binary [1, 2] (by decide)]
    [] _ _
    ⟨rfl, rfl⟩
    (List.cons_ne_nil _ _) (by decide) rfl rfl (fun _ => (by decide : (0 : ℤ) < 2))
    (fun _ => (by decide : (0 : ℤ) < 1)) rfl
    (fun g hg => by obtain rfl := List.mem_singleton.mp hg; exact ⟨rfl, by decide, by decide⟩)
    (by decide) (nonempty_buffers 3) (by decide)

end TcpTransport
