import BoxDoubao.Transport.WsRead
import BoxDoubao.Lib.Transducer

/-!
# The stream of frames a reader sees

`reader` is the caller of `ws_read`: it puts the pieces of a frame together
until it has as many bytes as the header announced, and gives up at the first
negative value. The server's frames lie ahead as bytes, cut by the parent at
arbitrary places, and the caller's buffers have arbitrary sizes.

`At r frames` is the invariant: the reader stands between two frames, with the
bytes of `frames` ahead, or inside the first of them, holding the beginning of
its payload. One call of `ws_read` consumes at most one frame (`reader_step`),
and a run consumes a front part of the frames and has delivered exactly those
(`reader_run`): all of them where control frames are propagated, the data
frames otherwise, with the control frames answered as `Replies` says.
-/

namespace TcpTransport

open CMemory WebSocket

/-- A frame as the application receives it. -/
structure Message where
  opcode : UInt8
  fin : Bool
  payload : Bytes
  deriving DecidableEq, Repr

def Message.of (f : Frame) : Message := ⟨UInt8.ofNat f.opcode.val, f.fin, f.payload⟩

/-- A caller of `ws_read` with the bytes it has of the current frame. -/
structure Reader where
  ws : TransportWs
  acc : Bytes

/-- One call of `ws_read`. As many bytes as it returns are taken from the
buffer. -/
def Reader.call (r : Reader) (buffer : Bytes) : Option (Reader × List Message) :=
  match r.ws.wsRead buffer with
  | none => none
  | some (ret, buffer, ws) =>
    if ret < 0 then none
    else
      match ws.espTransportWsGetReadOpcode with
      | none => some (⟨ws, r.acc⟩, [])
      | some opcode =>
        let data := buffer.take ret.toNat
        if (r.acc ++ data).length = ws.espTransportWsGetReadPayloadLen then
          some (⟨ws, []⟩, [⟨opcode, ws.espTransportWsGetFinFlag, r.acc ++ data⟩])
        else some (⟨ws, r.acc ++ data⟩, [])

def reader : Transducer Reader Bytes Message := ⟨Reader.call⟩

/-! ### Answers to control frames -/

/-- The bytes that answer a frame: a ping is answered by a pong with its
payload, a close by a close. An answer without payload is missing where
`poll_write` times out, which `_ws_write` reports as zero bytes written. -/
def ReplyTo (f : Frame) (sent : Bytes) : Prop :=
  if f.opcode = Opcode.ping then
    (∃ key h, sent = (Frame.ofMessage true Opcode.pong (some key) f.payload h).encode) ∨
      f.payload = [] ∧ sent = []
  else if f.opcode = Opcode.close then
    (∃ key h, sent = (Frame.ofMessage true Opcode.close (some key) [] h).encode) ∨ sent = []
  else sent = []

/-- The bytes that answer a sequence of frames, in order. -/
inductive Replies : List Frame → Bytes → Prop where
  | nil : Replies [] []
  | cons {f : Frame} {frames : List Frame} {sent later : Bytes} :
      ReplyTo f sent → Replies frames later → Replies (f :: frames) (sent ++ later)

/-- Frames as a server sends them: not masked, with a payload the transport can
count and an opcode that is not reserved for later control frames. -/
structure Plain (f : Frame) : Prop where
  unmasked : f.key = none
  lt : f.payload.length < 2147483648
  known : f.opcode.val ≤ 10

theorem Sends.keeps {ws ws' : TransportWs} {bytes : Bytes} (h : Sends ws bytes ws') :
    ws.Keeps ws' := by
  refine ⟨fun hflows => ?_, fun hpolls => ?_, h.propagate⟩
  · rw [TransportWs.Flows, h.inbound]
    exact hflows
  · rw [h.inbound]
    exact hpolls

theorem Sends.pending {ws ws' : TransportWs} {bytes : Bytes} (h : Sends ws bytes ws') :
    ws'.pending = ws.pending := by
  rw [TransportWs.pending, TransportWs.pending, h.buffer, h.inbound]

namespace TransportWs

variable {ws ws' : TransportWs} {f : Frame} {rest : Bytes}

/-- What the handling of a control frame leaves behind when it succeeds. -/
structure Answered (ws : TransportWs) (f : Frame) (rest : Bytes) (ws' : TransportWs) : Prop where
  headerReceived : ws'.frameState.headerReceived = false
  bytesRemaining : ws'.frameState.bytesRemaining = 0
  pending : ws'.pending = rest
  keeps : ws.Keeps ws'
  sent : ∃ sent, ReplyTo f sent ∧ ws'.outbound.written = ws.outbound.written ++ sent

/-- A write that returns no negative number for an empty payload has sent the
frame or timed out before it. -/
theorem sent_of_empty {ret : ℤ} {buffer sent : Bytes} (h : WriteOutcome f ret buffer sent)
    (hempty : f.payload = []) (hret : 0 ≤ ret) : sent = f.encode ∨ sent = [] := by
  cases h with
  | notWritable h => exact Or.inr rfl
  | noKey => omega
  | headerCut h hne => omega
  | headerOnly h =>
    left
    rw [Frame.encode, Frame.wire_eq_nil_iff.mpr hempty, List.append_nil]
  | bodyError h hne => exact absurd hempty hne
  | body h hne => exact absurd hempty hne

/-- A write of `n` bytes that returns `n`. -/
theorem sent_of_length {ret : ℤ} {buffer sent : Bytes} (h : WriteOutcome f ret buffer sent)
    (hret : ret = f.payload.length) : sent = f.encode ∨ f.payload = [] ∧ sent = [] := by
  by_cases hempty : f.payload = []
  · exact (sent_of_empty h hempty (by omega)).imp_right fun hsent => ⟨hempty, hsent⟩
  · exact Or.inl ((h.ret_eq_length_iff hempty).mp hret)

theorem known_control (hplain : Plain f) (hcontrol : 8 ≤ f.opcode.val) :
    f.opcode = Opcode.close ∨ f.opcode = Opcode.ping ∨ f.opcode = Opcode.pong := by
  have := hplain.known
  simp only [Fin.ext_iff]
  change f.opcode.val = 8 ∨ f.opcode.val = 9 ∨ f.opcode.val = 10
  omega

/-- A frame that has gone out carries the key that was drawn. -/
theorem outgoing_eq {fin : Bool} {opcode : Fin 16} {payload : Bytes}
    {h : payload.length < 2147483648} {key : MaskKey} (hkey : ws.platform.randoms.head = some key) :
    ws.outgoing fin opcode payload h =
      Frame.ofMessage fin opcode (some key) payload (h.trans (by decide)) := by
  rw [outgoing, hkey]

theorem encode_ne_nil (f : Frame) : f.encode ≠ [] := List.cons_ne_nil _ _

/-- A control frame written in answer, by what `_ws_write` returns. -/
theorem reply_sent (ws : TransportWs) (opcode : Fin 16) {payload : Bytes}
    (h : payload.length < 2147483648) :
    ∃ ret buffer sent ws', ws.wsWriteFrame (UInt8.ofNat (128 + opcode.val)) wsMask payload =
        (ret, buffer, ws') ∧ Sends ws sent ws' ∧
      (ret = payload.length ∨ payload = [] ∧ 0 ≤ ret →
        (∃ key h, sent = (Frame.ofMessage true opcode (some key) payload h).encode) ∨
          payload = [] ∧ sent = []) := by
  obtain ⟨ret, buffer, sent, ws', hwrite, hsends, hout, hdrawn⟩ :=
    wsWriteFrame_outcome ws true opcode h
  refine ⟨ret, buffer, sent, ws', ?_, hsends, fun hret => ?_⟩
  · rw [← hwrite, Frame.firstByte]
    rfl
  · have hsent : sent = (ws.outgoing true opcode payload h).encode ∨ payload = [] ∧ sent = [] := by
      rcases hret with hlen | ⟨hempty, hnonneg⟩
      · exact sent_of_length hout hlen
      · exact (sent_of_empty hout hempty hnonneg).imp_right fun hnil => ⟨hempty, hnil⟩
    refine hsent.imp_left fun hencode => ?_
    obtain ⟨key, hkey⟩ := hdrawn (by rw [hencode]; exact encode_ne_nil _)
    exact ⟨key, h.trans (by decide), by rw [hencode, outgoing_eq hkey]⟩

/-- **Answering a control frame.** -/
theorem espTransportWsHandleControlFrames_answered {ret : ℤ} (hplain : Plain f)
    (hcontrol : 8 ≤ f.opcode.val) (hstate : ws.frameState = FrameState.of f 0)
    (hpending : ws.pending = rest)
    (h : ws.espTransportWsHandleControlFrames f.payload = some (ret, ws')) (hret : 0 ≤ ret) :
    ws.Answered f rest ws' := by
  have hheader : ws.frameState.headerReceived = true := by rw [hstate]; rfl
  have hlen : ws.frameState.payloadLen = f.payload.length := by rw [hstate]; rfl
  have hopcode : ws.frameState.opcode = UInt8.ofNat f.opcode.val := by rw [hstate]; rfl
  have hiscontrol : isControlFrame ws.frameState.opcode = true := by
    rw [hopcode, isControlFrame, wsOpcodeControlFrame, Frame.control_bit]
    exact decide_eq_true hcontrol
  unfold espTransportWsHandleControlFrames at h
  rw [if_neg (by simp [hheader, hiscontrol]), if_neg (by omega)] at h
  rcases known_control hplain hcontrol with hop | hop | hop
  · -- a close
    rw [if_neg (by rw [hopcode, hop]; decide), if_pos (by rw [hopcode, hop]; rfl)] at h
    split at h
    · cases h
    · -- the answer has no payload, so one that is missing is not noticed
      obtain ⟨written, buffer, sent, ws₁, hwrite, hsends, hsent⟩ :=
        reply_sent ws Opcode.close (by decide : ([] : Bytes).length < 2147483648)
      rw [show wsOpcodeClose ||| wsFin = UInt8.ofNat (128 + Opcode.close.val) from rfl,
        hwrite] at h
      simp only at h
      by_cases hneg : written < 0
      · rw [if_pos hneg] at h
        have := (Prod.mk.inj (Option.some.inj h)).1
        omega
      · rw [if_neg hneg] at h
        have hws' : ws' = ((ws₁.setHeaderReceived false).espTransportWsPollConnectionClosed).2 := by
          by_cases hclosed :
              (ws₁.setHeaderReceived false).espTransportWsPollConnectionClosed.1 ≤ 0
          · exact (Prod.mk.inj (Option.some.inj ((if_pos hclosed).symm.trans h))).2.symm
          · exact (Prod.mk.inj (Option.some.inj ((if_neg hclosed).symm.trans h))).2.symm
        subst hws'
        refine ⟨rfl, ?_, hsends.pending.trans hpending, hsends.keeps.trans ⟨id, id, rfl⟩, sent,
          ?_, hsends.written⟩
        · rw [espTransportWsPollConnectionClosed, setHeaderReceived, hsends.frameState, hstate]
          rfl
        · rw [ReplyTo, if_neg (by rw [hop]; decide), if_pos hop]
          exact (hsent (Or.inr ⟨rfl, by omega⟩)).imp_right And.right
  · -- a ping
    obtain ⟨actualLen, buffer, sent, ws₁, hwrite, hsends, hsent⟩ :=
      reply_sent ws Opcode.pong hplain.lt
    rw [if_pos (by rw [hopcode, hop]; rfl), hlen, Int.toNat_natCast, List.take_length,
      show wsOpcodePong ||| wsFin = UInt8.ofNat (128 + Opcode.pong.val) from rfl, hwrite] at h
    simp only [hsends.frameState, hlen] at h
    by_cases hall : actualLen = f.payload.length
    · -- the count is that of the payload, so the pong has gone out whole
      rw [if_neg (not_not.mpr hall)] at h
      obtain ⟨rfl, rfl⟩ := Prod.mk.inj (Option.some.inj h)
      refine ⟨rfl, ?_, hsends.pending.trans hpending, hsends.keeps.trans ⟨id, id, rfl⟩, sent, ?_,
        hsends.written⟩
      · rw [setHeaderReceived, hsends.frameState, hstate]
        rfl
      · rw [ReplyTo, if_pos hop]
        exact hsent (Or.inl hall)
    · rw [if_pos hall] at h
      have := (Prod.mk.inj (Option.some.inj h)).1
      omega
  · -- a pong
    rw [if_neg (by rw [hopcode, hop]; decide), if_neg (by rw [hopcode, hop]; decide),
      if_pos (by rw [hopcode, hop]; rfl)] at h
    obtain ⟨rfl, rfl⟩ := Prod.mk.inj (Option.some.inj h)
    refine ⟨rfl, ?_, hpending, ⟨id, id, rfl⟩, [], ?_, (List.append_nil _).symm⟩
    · rw [setHeaderReceived, hstate]
      rfl
    · rw [ReplyTo, if_neg (by rw [hop]; decide), if_neg (by rw [hop]; decide)]

theorem maskKey_eq (h : f.key = none) : f.key.getD MaskKey.zero = MaskKey.zero := by
  rw [h, Option.getD_none]

theorem Answered.of_keeps {ws₀ : TransportWs} (h : ws.Answered f rest ws') (hkeeps : ws₀.Keeps ws)
    (hwritten : ws.outbound.written = ws₀.outbound.written) : ws₀.Answered f rest ws' := by
  obtain ⟨sent, hreply, hsent⟩ := h.sent
  exact ⟨h.headerReceived, h.bytesRemaining, h.pending, hkeeps.trans h.keeps, sent, hreply,
    by rw [hsent, hwritten]⟩

/-- A piece as long as the payload is all of it. -/
theorem eq_of_whole {payload piece more : Bytes} (hsplit : payload = piece ++ more)
    (hlen : piece.length = payload.length) : piece = payload ∧ more = [] := by
  have hmore : more = [] := by
    have := congrArg List.length hsplit
    rw [List.length_append] at this
    exact List.length_eq_zero_iff.mp (by omega)
  exact ⟨by rw [hsplit, hmore, List.append_nil], hmore⟩

/-- A call that handles a control frame and returns no negative number has read
all of it and answered it. -/
theorem wsHandleControlFrameInternal_answered {ret : ℤ} (hplain : Plain f)
    (hcontrol : 8 ≤ f.opcode.val) (hflows : ws.Flows) (hinside : ws.Inside f f.payload rest)
    (h : ws.wsHandleControlFrameInternal = some (ret, ws')) (hret : 0 ≤ ret) :
    ws.Answered f rest ws' := by
  have hheader : ws.frameState.headerReceived = true := by rw [hinside.frameState]; rfl
  have hlen : ws.frameState.payloadLen = f.payload.length := by rw [hinside.frameState]; rfl
  have hiscontrol : isControlFrame ws.frameState.opcode = true := by
    rw [hinside.frameState]
    exact (Frame.control_bit f.opcode).trans (decide_eq_true hcontrol)
  unfold wsHandleControlFrameInternal at h
  rw [if_neg (by simp [hheader, hiscontrol])] at h
  by_cases hlong : ws.frameState.payloadLen > wsTransportMaxControlFrameBufferLen
  · rw [if_pos hlong] at h
    have := (Prod.mk.inj (Option.some.inj h)).1
    omega
  · rw [if_neg hlong] at h
    -- the buffer
    obtain ⟨granted, ws₁, hmalloc, hstate₁, hpending₁, hkeeps₁, hwritten₁⟩ :
        ∃ granted ws₁, (if 0 < ws.frameState.payloadLen then ws.malloc else (true, ws)) =
          (granted, ws₁) ∧ ws₁.frameState = ws.frameState ∧ ws₁.pending = ws.pending ∧
          ws.Keeps ws₁ ∧ ws₁.outbound.written = ws.outbound.written := by
      split
      · exact ⟨_, _, rfl, rfl, rfl, ⟨id, id, rfl⟩, rfl⟩
      · exact ⟨_, _, rfl, rfl, rfl, ⟨id, id, rfl⟩, rfl⟩
    rw [hmalloc] at h
    cases granted with
    | false =>
      have := (Prod.mk.inj (Option.some.inj h)).1
      omega
    | true =>
      simp only at h
      have hinside₁ : ws₁.Inside f f.payload rest :=
        ⟨hstate₁.trans hinside.frameState, hpending₁.trans hinside.pending⟩
      -- the payload, which must come in one piece
      let buffer := newBuffer ws₁.platform.fresh f.payload.length
      have hsize : buffer.length = f.payload.length := length_newBuffer _ _
      obtain ⟨actualLen, data, ws₂, hread, hdata, hkeeps₂, hwritten₂⟩ :
          ∃ actualLen data ws₂, ws₁.wsReadPayload buffer = (actualLen, data, ws₂) ∧
            (actualLen = f.payload.length → data = f.payload ∧ ws₂.Inside f [] rest) ∧
            ws₁.Keeps ws₂ ∧ ws₂.outbound.written = ws₁.outbound.written := by
        by_cases hempty : f.payload = []
        · -- nothing is read, not even from the parent
          have hnil : buffer = f.payload := by
            rw [hempty] at hsize ⊢
            exact List.length_eq_zero_iff.mp hsize
          rw [hempty] at hinside₁
          exact ⟨0, buffer, ws₁, wsReadPayload_of_nil _ hinside₁, fun _ => ⟨hnil, hinside₁⟩,
            ⟨id, id, rfl⟩, rfl⟩
        · have hroom : buffer ≠ [] :=
            List.length_pos_iff.mp (hsize ▸ List.length_pos_iff.mpr hempty)
          obtain ⟨piece, more, data, ws₂, hsplit, -, hread, hhands, hinside₂, hquiet⟩ :=
            wsReadPayload_of_pending (hkeeps₁.flows hflows) hinside₁ hempty hroom
          refine ⟨_, _, ws₂, hread, fun hall => ?_, hquiet.toKeeps, by rw [hquiet.outbound]⟩
          obtain ⟨rfl, rfl⟩ := eq_of_whole hsplit (Int.ofNat_inj.mp hall)
          rw [maskKey_eq hplain.unmasked, applyMask_zero] at hhands
          exact ⟨hhands.eq_of_length hsize.symm, hinside₂⟩
      rw [hlen, Int.toNat_natCast, hread] at h
      simp only at h
      by_cases hall : actualLen = f.payload.length
      · -- a handler's value counts only by its sign
        rw [if_neg (not_not.mpr hall)] at h
        obtain ⟨rfl, hinside₂⟩ := hdata hall
        cases hreply : ws₂.espTransportWsHandleControlFrames f.payload with
        | none =>
          rw [hreply] at h
          cases h
        | some out =>
          obtain ⟨ret', ws₃⟩ := out
          rw [hreply] at h
          obtain ⟨hret', rfl⟩ := Prod.mk.inj (Option.some.inj h)
          refine (espTransportWsHandleControlFrames_answered hplain hcontrol hinside₂.frameState
            hinside₂.pending hreply ?_).of_keeps (hkeeps₁.trans hkeeps₂)
            (hwritten₂.trans hwritten₁)
          split at hret' <;> omega
      · rw [if_pos hall] at h
        have := (Prod.mk.inj (Option.some.inj h)).1
        omega

end TransportWs

/-! ### Where the reader stands -/

/-- Between two frames with `frames` ahead, or inside the first of them. -/
inductive At (r : Reader) : List Frame → Prop where
  | between {frames : List Frame} (hacc : r.acc = [])
      (hremaining : r.ws.frameState.bytesRemaining ≤ 0)
      (hpending : r.ws.pending = encodeAll frames) : At r frames
  | inside {f : Frame} {left : Bytes} {frames : List Frame} (hshown : r.ws.Shown f = true)
      (hacc : r.acc ≠ []) (hleft : left ≠ []) (hpayload : f.payload = r.acc ++ left)
      (hinside : r.ws.Inside f left (encodeAll frames)) : At r (f :: frames)

/-- What a reader is shown of a sequence of frames. -/
def shown (ws : TransportWs) (frames : List Frame) : List Message :=
  (frames.filter ws.Shown).map Message.of

theorem Readable.of_plain {f : Frame} (h : Plain f) : Readable f :=
  ⟨h.lt, fun hkey => by rw [h.unmasked] at hkey; cases hkey⟩

/-- `ws` has answered the frames that were not shown, and goes on like `ws₀`. -/
structure Since (ws₀ : TransportWs) (frames : List Frame) (ws : TransportWs) : Prop where
  keeps : ws₀.Keeps ws
  sent : ∃ sent, Replies (frames.filter fun f => !ws₀.Shown f) sent ∧
    ws.outbound.written = ws₀.outbound.written ++ sent

namespace Since

variable {ws₀ ws ws' : TransportWs} {f : Frame} {frames : List Frame}

theorem of_quiet (h : ws₀.Quiet ws) : Since ws₀ [] ws :=
  ⟨h.toKeeps, [], Replies.nil, by rw [h.outbound, List.append_nil]⟩

theorem of_shown (h : ws₀.Quiet ws) (hshown : ws₀.Shown f = true) : Since ws₀ [f] ws :=
  ⟨h.toKeeps, [], by
    rw [List.filter_cons_of_neg (by simp [hshown]), List.filter_nil]
    exact Replies.nil, by rw [h.outbound, List.append_nil]⟩

theorem of_answered {rest : Bytes} (h : ws₀.Answered f rest ws) (hhidden : ws₀.Shown f = false) :
    Since ws₀ [f] ws := by
  obtain ⟨sent, hreply, hsent⟩ := h.sent
  refine ⟨h.keeps, sent, ?_, hsent⟩
  rw [List.filter_cons_of_pos (by simp [hhidden]), List.filter_nil, ← List.append_nil sent]
  exact Replies.cons hreply Replies.nil

end Since

theorem Replies.append {frames later : List Frame} {sent more : Bytes} (h : Replies frames sent)
    (h' : Replies later more) : Replies (frames ++ later) (sent ++ more) := by
  induction h with
  | nil => exact h'
  | cons hreply hrest ih =>
    rw [List.cons_append, List.append_assoc]
    exact Replies.cons hreply ih

theorem TransportWs.Keeps.shown {ws₀ ws : TransportWs} (h : ws₀.Keeps ws) :
    ws.Shown = ws₀.Shown := by
  funext f
  rw [TransportWs.Shown, TransportWs.Shown, h.propagate]

theorem Since.trans {ws₀ ws ws' : TransportWs} {frames later : List Frame}
    (h : Since ws₀ frames ws) (h' : Since ws later ws') : Since ws₀ (frames ++ later) ws' := by
  obtain ⟨sent, hreplies, hsent⟩ := h.sent
  obtain ⟨more, hreplies', hmore⟩ := h'.sent
  rw [h.keeps.shown] at hreplies'
  refine ⟨h.keeps.trans h'.keeps, sent ++ more, ?_, by rw [hmore, hsent, List.append_assoc]⟩
  rw [List.filter_append]
  exact hreplies.append hreplies'

/-! ### One call -/

variable {r r' : Reader} {buffer : Bytes} {frames : List Frame}

/-- A call that returns a piece of a frame. -/
theorem call_of_piece {ws : TransportWs} {f : Frame} {piece more rest : Bytes}
    (hread : r.ws.ReadsPiece f buffer piece more rest (r.ws.wsRead buffer) ws)
    (hunmasked : f.key = none) (hpayload : f.payload = r.acc ++ (piece ++ more)) :
    r.call buffer =
      if more = [] then some (⟨ws, []⟩, [Message.of f])
      else some (⟨ws, r.acc ++ piece⟩, []) := by
  obtain ⟨⟨buffer', hread, hhands⟩, hinside, -⟩ := hread
  have hdata : buffer'.take (piece.length : ℤ).toNat = piece := by
    rw [TransportWs.maskKey_eq hunmasked, applyMask_zero] at hhands
    exact hhands.take
  have hopcode : ws.espTransportWsGetReadOpcode = some (UInt8.ofNat f.opcode.val) := by
    rw [TransportWs.espTransportWsGetReadOpcode, hinside.frameState]
    rfl
  have hlen : ws.espTransportWsGetReadPayloadLen = f.payload.length := by
    rw [TransportWs.espTransportWsGetReadPayloadLen, hinside.frameState]
    rfl
  have hfin : ws.espTransportWsGetFinFlag = f.fin := by
    rw [TransportWs.espTransportWsGetFinFlag, hinside.frameState]
    rfl
  unfold Reader.call
  rw [hread]
  simp only
  rw [if_neg (by omega), hopcode]
  simp only [hlen, hfin, hdata]
  by_cases hmore : more = []
  · rw [hmore, List.append_nil] at hpayload
    rw [if_pos hmore, if_pos (by rw [hpayload]), ← hpayload]
    rfl
  · have hpos : 0 < more.length := List.length_pos_iff.mpr hmore
    rw [if_neg hmore, if_neg]
    rw [hpayload, List.length_append, List.length_append, List.length_append]
    omega

/-- A bound on the calls that a sequence of frames takes. -/
def weight (frames : List Frame) : ℕ := (frames.map fun f => f.payload.length + 1).sum

@[simp] theorem weight_cons (f : Frame) (frames : List Frame) :
    weight (f :: frames) = f.payload.length + 1 + weight frames := List.sum_cons

/-- Where the reader stands after `n` calls, and what it has got. Where there
was always something to read, every call has brought it forward. -/
structure Advances (r : Reader) (frames : List Frame) (n : ℕ) (r' : Reader)
    (msgs : List Message) (done rest : List Frame) : Prop where
  split : frames = done ++ rest
  stands : At r' rest
  delivered : msgs = shown r.ws done
  since : Since r.ws done r'.ws
  progress : r.ws.inbound.pollReads.All (0 < ·) →
    weight rest + n + r.acc.length ≤ weight frames + r'.acc.length

/-- After a piece of a frame. -/
theorem advances_of_piece {msgs : List Message} {ws : TransportWs} {f : Frame}
    {piece more : Bytes}
    (hread : r.ws.ReadsPiece f buffer piece more (encodeAll frames) (r.ws.wsRead buffer) ws)
    (hunmasked : f.key = none) (hpayload : f.payload = r.acc ++ (piece ++ more))
    (hpiece : more ≠ [] → piece ≠ []) (hshown : r.ws.Shown f = true)
    (hcall : r.call buffer = some (r', msgs)) :
    ∃ done rest, Advances r (f :: frames) 1 r' msgs done rest := by
  rw [call_of_piece hread hunmasked hpayload] at hcall
  obtain ⟨-, hinside, hquiet⟩ := hread
  by_cases hmore : more = []
  · -- the frame is complete
    rw [if_pos hmore] at hcall
    obtain ⟨rfl, rfl⟩ := Prod.mk.inj (Option.some.inj hcall)
    subst hmore
    refine ⟨[f], frames, rfl, At.between rfl ?_ hinside.pending, ?_,
      Since.of_shown hquiet hshown, fun _ => ?_⟩
    · change ws.frameState.bytesRemaining ≤ 0
      rw [hinside.frameState]
      exact le_refl 0
    · rw [shown, List.filter_cons_of_pos hshown]
      rfl
    · rw [weight_cons, hpayload, List.length_append]
      omega
  · -- the reader stays inside it
    rw [if_neg hmore] at hcall
    obtain ⟨rfl, rfl⟩ := Prod.mk.inj (Option.some.inj hcall)
    refine ⟨[], f :: frames, rfl, At.inside ?_ ?_ hmore ?_ hinside, rfl, Since.of_quiet hquiet,
      fun _ => ?_⟩
    · change ws.Shown f = true
      rw [hquiet.toKeeps.shown]
      exact hshown
    · exact List.append_ne_nil_of_right_ne_nil _ (hpiece hmore)
    · rw [hpayload, List.append_assoc]
    · have hpos : 0 < piece.length := List.length_pos_iff.mpr (hpiece hmore)
      simp only [List.length_append]
      omega

/-- A call between two frames while the parent has nothing to read, also where
bytes wait in the connection buffer: only the parent is polled. -/
theorem call_of_idle {msgs : List Message} (hbetween : r.ws.frameState.bytesRemaining ≤ 0)
    (hpoll : r.ws.inbound.pollReads.head ≤ 0) (hcall : r.call buffer = some (r', msgs)) :
    msgs = [] ∧
      r' = ⟨((r.ws.setHeaderReceived false).wsPollRead.2).setBytesRemaining 0, r.acc⟩ := by
  unfold Reader.call at hcall
  rw [TransportWs.wsRead_of_idle buffer hbetween hpoll] at hcall
  obtain ⟨-, hcall⟩ := Option.ite_none_left_eq_some.mp hcall
  obtain ⟨rfl, rfl⟩ := Prod.mk.inj (Option.some.inj hcall)
  exact ⟨rfl, rfl⟩

/-- **One call of `ws_read`.** Unless it fails, it consumes at most one frame
and delivers what it has consumed. -/
theorem call_advances {msgs : List Message} (hat : At r frames) (hplain : ∀ f ∈ frames, Plain f)
    (hflows : r.ws.Flows) (hbuffer : buffer ≠ []) (hcall : r.call buffer = some (r', msgs)) :
    ∃ done rest, Advances r frames 1 r' msgs done rest := by
  cases hat with
  | inside hshown hacc hleft hpayload hinside =>
    rename_i f left frames
    have hf := hplain f List.mem_cons_self
    have hne : f.payload ≠ [] := by
      rw [hpayload]
      exact List.append_ne_nil_of_left_ne_nil hacc left
    obtain ⟨piece, more, ws, hsplit, hpiece, hread⟩ :=
      TransportWs.wsRead_of_inside hflows hinside hleft hne hbuffer
    exact advances_of_piece hread hf.unmasked (by rw [hpayload, hsplit]) (fun _ => hpiece) hshown
      hcall
  | between hacc hremaining hpending =>
    by_cases hpoll : r.ws.inbound.pollReads.head ≤ 0
    · -- nothing to read yet
      obtain ⟨rfl, rfl⟩ := call_of_idle hremaining hpoll hcall
      exact ⟨[], frames, rfl, At.between hacc (le_refl 0) hpending, rfl,
        Since.of_quiet ⟨⟨id, fun h n => h (n + 1), rfl⟩, rfl, rfl⟩,
        fun hpolls => absurd hpoll (not_le.mpr (hpolls 0))⟩
    · have hpos : 0 < r.ws.inbound.pollReads.head := by omega
      cases frames with
      | nil =>
        -- the stream has ended, which is a failure
        obtain ⟨ret, ws', hread, hneg⟩ := TransportWs.wsRead_of_end buffer hremaining hpos hpending
        rw [Reader.call, hread] at hcall
        simp only [if_pos hneg] at hcall
        cases hcall
      | cons f frames =>
        have hf := hplain f List.mem_cons_self
        have hmasked : f.key.isSome → 4 ≤ buffer.length := fun h => by
          rw [hf.unmasked] at h
          cases h
        have hwire : f.wire = f.payload := Frame.wire_of_unmasked hf.unmasked
        rw [encodeAll_cons] at hpending
        cases hshown : r.ws.Shown f with
        | true =>
          by_cases hempty : f.payload = []
          · -- complete with its header, so the piece may be empty
            obtain ⟨ws, hread⟩ := TransportWs.wsRead_of_empty_frame
              (Readable.of_plain hf) hremaining hflows hpos hpending hshown hempty
            exact advances_of_piece hread hf.unmasked (by rw [hempty, hacc]; rfl)
              (fun h => absurd rfl h) hshown hcall
          · obtain ⟨piece, more, ws, hsplit, hpiece, hread⟩ :=
              TransportWs.wsRead_of_frame (Readable.of_plain hf) hremaining hflows hpos hpending
                hmasked hshown hempty hbuffer
            exact advances_of_piece hread hf.unmasked
              (by rw [hacc, ← hsplit, hwire, List.nil_append]) (fun _ => hpiece) hshown hcall
        | false =>
          -- the transport handles the frame itself
          obtain ⟨buffer₁, ws₁, hinside, hquiet, hread⟩ := TransportWs.wsRead_of_control
            (Readable.of_plain hf) hremaining hflows hpos hpending hmasked hshown
          rw [hwire] at hinside
          have hcontrol : 8 ≤ f.opcode.val := by
            rw [TransportWs.Shown, Bool.or_eq_false_iff, Bool.not_eq_false'] at hshown
            exact of_decide_eq_true hshown.2
          unfold Reader.call at hcall
          rw [hread] at hcall
          cases hout : ws₁.wsHandleControlFrameInternal with
          | none =>
            rw [hout] at hcall
            cases hcall
          | some out =>
            obtain ⟨ret, ws'⟩ := out
            rw [hout] at hcall
            simp only [Option.map_some] at hcall
            by_cases hneg : ret < 0
            · rw [if_pos hneg] at hcall
              cases hcall
            · have hanswered := (TransportWs.wsHandleControlFrameInternal_answered hf hcontrol
                (hquiet.flows hflows) hinside hout (by omega)).of_keeps hquiet.toKeeps
                (by rw [hquiet.outbound])
              rw [if_neg hneg, TransportWs.espTransportWsGetReadOpcode,
                hanswered.headerReceived] at hcall
              obtain ⟨rfl, rfl⟩ := Prod.mk.inj (Option.some.inj hcall)
              refine ⟨[f], frames, rfl, At.between hacc hanswered.bytesRemaining.le
                hanswered.pending, ?_, Since.of_answered hanswered hshown, fun _ => ?_⟩
              · rw [shown, List.filter_cons_of_neg (by simp [hshown])]
                rfl
              · change weight frames + 1 + r.acc.length ≤ weight (f :: frames) + r.acc.length
                rw [weight_cons]
                omega

/-! ### Runs -/

theorem shown_append (ws : TransportWs) (frames later : List Frame) :
    shown ws (frames ++ later) = shown ws frames ++ shown ws later := by
  rw [shown, List.filter_append, List.map_append]
  rfl

theorem Advances.refl (hat : At r frames) : Advances r frames 0 r [] [] frames :=
  ⟨rfl, hat, rfl, Since.of_quiet (TransportWs.Quiet.refl r.ws), fun _ => le_refl _⟩

theorem Advances.trans {r'' : Reader} {n m : ℕ} {msgs more : List Message}
    {done rest done' rest' : List Frame} (h : Advances r frames n r' msgs done rest)
    (h' : Advances r' rest m r'' more done' rest') :
    Advances r frames (n + m) r'' (msgs ++ more) (done ++ done') rest' where
  split := by rw [h.split, h'.split, List.append_assoc]
  stands := h'.stands
  delivered := by
    rw [h.delivered, h'.delivered, shown_append, shown, shown, shown, h.since.keeps.shown]
  since := h.since.trans h'.since
  progress hpolls := by
    have := h.progress hpolls
    have := h'.progress (h.since.keeps.polls hpolls)
    omega

/-- What a run of calls has consumed and delivered. -/
theorem run_advances {buffers : List Bytes} {msgs : List Message} (hat : At r frames)
    (hplain : ∀ f ∈ frames, Plain f) (hflows : r.ws.Flows) (hbuffers : ∀ b ∈ buffers, b ≠ [])
    (hrun : reader.run r buffers = some (r', msgs)) :
    ∃ done rest, Advances r frames buffers.length r' msgs done rest := by
  -- by the calls, with `At` as the invariant
  induction buffers generalizing r frames msgs with
  | nil =>
    obtain ⟨rfl, rfl⟩ := Prod.mk.inj (Option.some.inj hrun)
    exact ⟨[], frames, Advances.refl hat⟩
  | cons buffer buffers ih =>
    obtain ⟨r₁, first, later, hcall, hrest, rfl⟩ := Transducer.run_cons_inv hrun
    obtain ⟨done, rest, hadv⟩ := call_advances hat hplain hflows
      (hbuffers buffer List.mem_cons_self) hcall
    have hplain' : ∀ f ∈ rest, Plain f := fun f hf =>
      hplain f (by rw [hadv.split]; exact List.mem_append_right done hf)
    obtain ⟨done', rest', hadv'⟩ := ih hadv.stands hplain' (hadv.since.keeps.flows hflows)
      (fun b hb => hbuffers b (List.mem_cons_of_mem buffer hb)) hrest
    refine ⟨done ++ done', rest', ?_⟩
    rw [List.length_cons, Nat.add_comm]
    exact hadv.trans hadv'

/-- A reader with as many bytes of a frame as there is weight ahead of it has
nothing ahead. -/
theorem At.eq_nil (hat : At r frames) (h : weight frames ≤ r.acc.length) : frames = [] := by
  cases hat with
  | between hacc hremaining hpending =>
    cases frames with
    | nil => rfl
    | cons f frames =>
      simp only [weight_cons, hacc, List.length_nil] at h
      omega
  | inside hshown hacc hleft hpayload hinside =>
    simp only [weight_cons, hpayload, List.length_append] at h
    omega

/-- A call succeeds where a frame that is shown lies ahead and there is
something to read. -/
theorem call_isSome {f : Frame} (hat : At r (f :: frames)) (hplain : Plain f)
    (hflows : r.ws.Flows) (hpoll : 0 < r.ws.inbound.pollReads.head) (hbuffer : buffer ≠ [])
    (hshown : r.ws.Shown f = true) : ∃ r' msgs, r.call buffer = some (r', msgs) := by
  suffices ∃ ws piece more,
      r.ws.ReadsPiece f buffer piece more (encodeAll frames) (r.ws.wsRead buffer) ws ∧
        f.payload = r.acc ++ (piece ++ more) by
    obtain ⟨ws, piece, more, hread, hpayload⟩ := this
    rw [call_of_piece hread hplain.unmasked hpayload]
    split
    · exact ⟨_, _, rfl⟩
    · exact ⟨_, _, rfl⟩
  cases hat with
  | inside hshown hacc hleft hpayload hinside =>
    have hne : f.payload ≠ [] := by
      rw [hpayload]
      exact List.append_ne_nil_of_left_ne_nil hacc _
    obtain ⟨piece, more, ws, hsplit, -, hread⟩ :=
      TransportWs.wsRead_of_inside hflows hinside hleft hne hbuffer
    exact ⟨ws, piece, more, hread, by rw [hpayload, hsplit]⟩
  | between hacc hremaining hpending =>
    rw [encodeAll_cons] at hpending
    by_cases hempty : f.payload = []
    · obtain ⟨ws, hread⟩ := TransportWs.wsRead_of_empty_frame
        (Readable.of_plain hplain) hremaining hflows hpoll hpending hshown hempty
      exact ⟨ws, [], [], hread, by rw [hempty, hacc]; rfl⟩
    · obtain ⟨piece, more, ws, hsplit, -, hread⟩ :=
        TransportWs.wsRead_of_frame (Readable.of_plain hplain) hremaining hflows hpoll hpending
          (fun h => by rw [hplain.unmasked] at h; cases h) hshown hempty hbuffer
      exact ⟨ws, piece, more, hread,
        by rw [hacc, ← hsplit, Frame.wire_of_unmasked hplain.unmasked, List.nil_append]⟩

/-- Enough calls consume every frame, where all are shown and there is always
something to read. -/
theorem run_complete {buffers : List Bytes} (hat : At r frames) (hplain : ∀ f ∈ frames, Plain f)
    (hflows : r.ws.Flows) (hpolls : r.ws.inbound.pollReads.All (0 < ·))
    (hpropagate : r.ws.propagateControlFrames = true) (hbuffers : ∀ b ∈ buffers, b ≠ [])
    (henough : weight frames ≤ buffers.length + r.acc.length) :
    ∃ n r' msgs, n ≤ buffers.length ∧ reader.run r (buffers.take n) = some (r', msgs) ∧
      Advances r frames n r' msgs frames [] := by
  -- by the calls, each of which makes the weight ahead smaller
  induction buffers generalizing r frames with
  | nil =>
    rw [List.length_nil, Nat.zero_add] at henough
    obtain rfl := hat.eq_nil henough
    exact ⟨0, r, [], le_refl 0, rfl, Advances.refl hat⟩
  | cons buffer buffers ih =>
    cases frames with
    | nil => exact ⟨0, r, [], Nat.zero_le _, rfl, Advances.refl hat⟩
    | cons f frames =>
      have hbuffer := hbuffers buffer List.mem_cons_self
      obtain ⟨r₁, first, hcall⟩ := call_isSome hat (hplain f List.mem_cons_self) hflows (hpolls 0)
        hbuffer (by rw [TransportWs.Shown, hpropagate, Bool.true_or])
      obtain ⟨done, rest, hadv⟩ := call_advances hat hplain hflows hbuffer hcall
      have hplain' : ∀ f ∈ rest, Plain f := fun g hg =>
        hplain g (by rw [hadv.split]; exact List.mem_append_right done hg)
      have hstep := hadv.progress hpolls
      obtain ⟨n, r', later, hn, hrun, hadv'⟩ := ih hadv.stands hplain'
        (hadv.since.keeps.flows hflows) (hadv.since.keeps.polls hpolls)
        (hadv.since.keeps.propagate.trans hpropagate)
        (fun b hb => hbuffers b (List.mem_cons_of_mem buffer hb))
        (by rw [List.length_cons] at henough; omega)
      refine ⟨n + 1, r', first ++ later, Nat.succ_le_succ hn, Transducer.run_cons hcall hrun, ?_⟩
      have hall := hadv.trans hadv'
      rw [← hadv.split, Nat.add_comm] at hall
      exact hall

/-- **The stream is delivered as it was sent.** From a state between two
frames, with the server's frames ahead: however the parent cuts the stream,
whatever sizes the buffers have, and whatever polls and writes answer, as long
as no call fails the messages delivered are those of a front part of the
frames, in order and whole, without the control frames where the transport
handles them, which have then been answered in order; and the reader stands
right behind that part. -/
theorem reader_delivers_frames {ws : TransportWs} {frames : List Frame} {buffers : List Bytes}
    {r' : Reader} {msgs : List Message} (hplain : ∀ f ∈ frames, Plain f)
    (hbetween : ws.frameState.bytesRemaining ≤ 0) (hpending : ws.pending = encodeAll frames)
    (hflows : ws.Flows) (hbuffers : ∀ b ∈ buffers, b ≠ [])
    (hrun : reader.run ⟨ws, []⟩ buffers = some (r', msgs)) :
    ∃ done rest, frames = done ++ rest ∧ msgs = (done.filter ws.Shown).map Message.of ∧
      At r' rest ∧
      ∃ sent, Replies (done.filter fun f => !ws.Shown f) sent ∧
        r'.ws.outbound.written = ws.outbound.written ++ sent := by
  obtain ⟨done, rest, hadv⟩ := run_advances (At.between rfl hbetween hpending) hplain hflows
    hbuffers hrun
  exact ⟨done, rest, hadv.split, hadv.delivered, hadv.stands, hadv.since.sent⟩

/-- A frame of a server, with the shortest header. -/
def plainFrame (opcode : Fin 16) (payload : Bytes) (h : payload.length < 126) : Frame :=
  Frame.ofMessage true opcode none payload (h.trans (by decide))

/-- A reply of five bytes. -/
def helloReply : Frame := plainFrame Opcode.binary [104, 101, 108, 108, 111] (by decide)

/-- A ping and the reply. -/
def pingAndReply : List Frame := [plainFrame Opcode.ping [7] (by decide), helloReply]

/-- A transport whose handshake has left three bytes over and whose parent
gives two at a time. -/
def slowTransport (propagate : Bool) (frames : List Frame) : TransportWs where
  buffer := (encodeAll frames).take 3
  propagateControlFrames := propagate
  frameState := ⟨0, false, MaskKey.zero, 0, 0, false⟩
  inbound := ⟨(encodeAll frames).drop 3, Stream'.const 2, Stream'.const 1⟩
  outbound := ⟨[], Stream'.const 100, Stream'.const 1⟩
  platform :=
    ⟨Stream'.const (some fun _ => 5), Stream'.const true, fun _ => 0, Stream'.const 1⟩

theorem plain_pingAndReply : ∀ f ∈ pingAndReply, Plain f := by
  intro f hf
  rcases List.mem_cons.mp hf with rfl | hf
  · exact ⟨rfl, by decide, by decide⟩
  · obtain rfl := List.mem_singleton.mp hf
    exact ⟨rfl, by decide, by decide⟩

theorem nonempty_buffers (n : ℕ) : ∀ b ∈ List.replicate n ([0, 0, 0] : Bytes), b ≠ [] := by
  intro b hb
  rw [List.eq_of_mem_replicate hb]
  decide

theorem reader_delivers_frames_pingAndReply :
    ∃ r' msgs done rest, pingAndReply = done ++ rest ∧
      reader.run ⟨slowTransport false pingAndReply, []⟩ (List.replicate 4 [0, 0, 0]) =
        some (r', msgs) ∧
      msgs = [⟨2, true, [104, 101, 108, 108, 111]⟩] ∧
      msgs = (done.filter (slowTransport false pingAndReply).Shown).map Message.of := by
  have hmsgs : (reader.run ⟨slowTransport false pingAndReply, []⟩
      (List.replicate 4 [0, 0, 0])).map Prod.snd =
        some [⟨2, true, [104, 101, 108, 108, 111]⟩] := by decide +kernel
  obtain ⟨⟨r', msgs⟩, hrun, hsnd⟩ := Option.map_eq_some_iff.mp hmsgs
  have hflows : (slowTransport false pingAndReply).Flows := fun _ => (by decide : (0 : ℤ) < 2)
  have hpending : (slowTransport false pingAndReply).pending = encodeAll pingAndReply :=
    List.take_append_drop 3 (encodeAll pingAndReply)
  obtain ⟨done, rest, hsplit, hdelivered, -⟩ := reader_delivers_frames plain_pingAndReply
    (le_refl 0) hpending hflows (nonempty_buffers 4) hrun
  exact ⟨r', msgs, done, rest, hsplit, hrun, hsnd, hdelivered⟩

/-- **Nothing is held back.** Where control frames are propagated and there is
always something to read, as many calls as there are frames and payload bytes
deliver every frame and leave nothing of the stream. -/
theorem reader_delivers_all {ws : TransportWs} {frames : List Frame} {buffers : List Bytes}
    (hplain : ∀ f ∈ frames, Plain f) (hbetween : ws.frameState.bytesRemaining ≤ 0)
    (hpending : ws.pending = encodeAll frames) (hflows : ws.Flows)
    (hpolls : ws.inbound.pollReads.All (0 < ·)) (hpropagate : ws.propagateControlFrames = true)
    (hbuffers : ∀ b ∈ buffers, b ≠ []) (henough : weight frames ≤ buffers.length) :
    ∃ n r', reader.run ⟨ws, []⟩ (buffers.take n) = some (r', frames.map Message.of) ∧
      r'.acc = [] ∧ r'.ws.pending = [] := by
  obtain ⟨n, r', msgs, -, hrun, hadv⟩ := run_complete (r := ⟨ws, []⟩)
    (At.between rfl hbetween hpending) hplain hflows hpolls hpropagate hbuffers
    (Nat.le_add_right_of_le henough)
  have hmsgs : msgs = frames.map Message.of := by
    rw [hadv.delivered, shown, List.filter_eq_self.mpr]
    intro f _
    rw [TransportWs.Shown, hpropagate, Bool.true_or]
  cases hadv.stands with
  | between hacc hremaining hpending' => exact ⟨n, r', hmsgs ▸ hrun, hacc, hpending'⟩

theorem reader_delivers_all_pingAndReply :
    ∃ n r', reader.run ⟨slowTransport true pingAndReply, []⟩
        ((List.replicate 8 [0, 0, 0]).take n) =
          some (r', [⟨9, true, [7]⟩, ⟨2, true, [104, 101, 108, 108, 111]⟩]) ∧
      r'.acc = [] ∧ r'.ws.pending = [] :=
  have hflows : (slowTransport true pingAndReply).Flows := fun _ => (by decide : (0 : ℤ) < 2)
  reader_delivers_all plain_pingAndReply (le_refl 0)
    (List.take_append_drop 3 (encodeAll pingAndReply)) hflows
    (fun _ => (by decide : (0 : ℤ) < 1)) rfl (nonempty_buffers 8) (by decide)

end TcpTransport
