import BoxDoubao.Transport.WsState

/-!
# Writing to the WebSocket transport

`_ws_write` sends one frame: it waits until the parent can be written to,
builds the header, masks the caller's buffer in place, writes header and
buffer and masks the buffer once more, which restores it. `ws_write` is its
caller.

Whatever the parent takes and wherever the function gives up, what it has
written is a prefix of one frame's bytes (`Sends`); the return value says how
much of the payload went out, and the caller's buffer is as it was unless the
parent refused a part of the header.
-/

namespace TcpTransport

open CMemory WebSocket

def wsFin : UInt8 := 0x80
def wsMask : UInt8 := 0x80
def wsOpcodeBinary : UInt8 := 0x02
def wsOpcodeClose : UInt8 := 0x08
def wsOpcodePing : UInt8 := 0x09
def wsOpcodePong : UInt8 := 0x0A

/-- The header built by `_ws_write`, up to the masking key. -/
def wsHeader (opcode maskFlag : UInt8) (len : ℕ) : Bytes :=
  if len ≤ 125 then [opcode, UInt8.ofNat len ||| maskFlag]
  else if len < 65536 then
    [opcode, 126 ||| maskFlag, UInt8.ofNat (len >>> 8), UInt8.ofNat (len &&& 0xFF)]
  else
    [opcode, 127 ||| maskFlag, 0, 0, 0, 0, UInt8.ofNat ((len >>> 24) &&& 0xFF),
      UInt8.ofNat ((len >>> 16) &&& 0xFF), UInt8.ofNat ((len >>> 8) &&& 0xFF),
      UInt8.ofNat ((len >>> 0) &&& 0xFF)]

namespace TransportWs

/-- `getrandom` for the four bytes of a key. -/
def getrandom (ws : TransportWs) : Option MaskKey × TransportWs :=
  (ws.platform.randoms.head,
    { ws with platform := { ws.platform with randoms := ws.platform.randoms.tail } })

/-- `esp_transport_write` on the parent. -/
def parentWrite (ws : TransportWs) (bytes : Bytes) : ℤ × TransportWs :=
  ((ws.outbound.write bytes).1, { ws with outbound := (ws.outbound.write bytes).2 })

/-- The rest of `_ws_write`, with the header complete. -/
def sendFrame (ws : TransportWs) (header : Bytes) (mask : Option MaskKey) (buffer : Bytes) :
    ℤ × Bytes × TransportWs :=
  let masked := maskWith mask buffer
  match ws.parentWrite header with
  | (sent, ws) =>
    -- the buffer is left as it was masked
    if sent ≠ header.length then (-1, masked, ws)
    else if buffer.length = 0 then (0, masked, ws)
    else
      match ws.parentWrite masked with
      | (ret, ws) => (ret, maskWith mask masked, ws)

/-- `_ws_write`: the value returned, the caller's buffer afterwards, and the
transport. -/
def wsWriteFrame (ws : TransportWs) (opcode maskFlag : UInt8) (buffer : Bytes) :
    ℤ × Bytes × TransportWs :=
  match ws.wsPollWrite with
  | (pollWrite, ws) =>
    if pollWrite ≤ 0 then (pollWrite, buffer, ws)
    else if maskFlag ≠ 0 then
      match ws.getrandom with
      | (none, ws) => (-1, buffer, ws)
      | (some mask, ws) =>
        ws.sendFrame (wsHeader opcode maskFlag buffer.length ++ mask.bytes) (some mask) buffer
    else ws.sendFrame (wsHeader opcode maskFlag buffer.length) none buffer

/-- `ws_write`: a write of no bytes is a ping. -/
def wsWrite (ws : TransportWs) (buffer : Bytes) : ℤ × Bytes × TransportWs :=
  if buffer.length = 0 then ws.wsWriteFrame (wsOpcodePing ||| wsFin) wsMask []
  else ws.wsWriteFrame (wsOpcodeBinary ||| wsFin) wsMask buffer

end TransportWs

/-! ### The header of a frame -/

/-- A byte of a length, cut out by a shift and a mask or by division. -/
private theorem ofNat_shiftRight_and (n k : ℕ) :
    UInt8.ofNat ((n >>> k) &&& 0xFF) = UInt8.ofNat (n / 2 ^ k) := by
  apply UInt8.toNat_inj.mp
  rw [UInt8.toNat_ofNat', UInt8.toNat_ofNat', show (0xFF : ℕ) = 2 ^ 8 - 1 from rfl,
    Nat.and_two_pow_sub_one_eq_mod, Nat.mod_mod, Nat.shiftRight_eq_div_pow]

private theorem code_or_mask : ∀ code : Fin 128,
    UInt8.ofNat code.val ||| wsMask = UInt8.ofNat (128 * true.toNat + code.val) := by
  decide +kernel

/-- The header built for a payload is the one of the shortest frame with it. -/
theorem wsHeader_eq {f : Frame} {key : MaskKey} (hkey : f.key = some key)
    (hform : f.form = LengthForm.shortest f.payload.length)
    (hlen : f.payload.length < 4294967296) :
    wsHeader f.firstByte wsMask f.payload.length ++ key.bytes = f.header := by
  have hsecond : UInt8.ofNat (f.form.code f.payload.length) ||| wsMask = f.secondByte := by
    rw [Frame.secondByte, hkey]
    exact code_or_mask ⟨_, f.form.code_lt f.fits⟩
  have hkeys : f.keyBytes = key.bytes := by rw [Frame.keyBytes, hkey]
  have hlow : UInt8.ofNat (f.payload.length &&& 0xFF) = UInt8.ofNat f.payload.length := by
    have := ofNat_shiftRight_and f.payload.length 0
    rwa [Nat.shiftRight_zero, Nat.pow_zero, Nat.div_one] at this
  rw [Frame.header, hkeys, ← hsecond, hform, wsHeader, LengthForm.shortest]
  -- both sides choose among the three forms
  by_cases hshort : f.payload.length < 126
  · rw [if_pos (by omega), if_pos hshort]
    rfl
  · rw [if_neg (by omega), if_neg hshort]
    by_cases hmedium : f.payload.length < 65536
    · rw [if_pos hmedium, if_pos hmedium, hlow, Nat.shiftRight_eq_div_pow]
      rfl
    · -- the four upper bytes are written as zero, which they are below `2 ^ 32`
      have hupper : ∀ d, 4294967296 ≤ d → UInt8.ofNat (f.payload.length / d) = 0 := by
        intro d hd
        rw [Nat.div_eq_of_lt (by omega)]
        rfl
      rw [if_neg hmedium, if_neg hmedium, LengthForm.extended, hupper _ (by decide),
        hupper _ (by decide), hupper _ (by decide), hupper _ (by decide),
        ofNat_shiftRight_and, ofNat_shiftRight_and, ofNat_shiftRight_and, ofNat_shiftRight_and,
        Nat.pow_zero, Nat.div_one]
      rfl

/-! ### What a write does -/

/-- `bytes` have been written, and what concerns reading is as it was. -/
structure Sends (ws : TransportWs) (bytes : Bytes) (ws' : TransportWs) : Prop where
  written : ws'.outbound.written = ws.outbound.written ++ bytes
  buffer : ws'.buffer = ws.buffer
  inbound : ws'.inbound = ws.inbound
  frameState : ws'.frameState = ws.frameState
  propagate : ws'.propagateControlFrames = ws.propagateControlFrames

theorem Sends.trans {ws ws' ws'' : TransportWs} {bytes bytes' : Bytes} (h : Sends ws bytes ws')
    (h' : Sends ws' bytes' ws'') : Sends ws (bytes ++ bytes') ws'' where
  written := by rw [h'.written, h.written, List.append_assoc]
  buffer := h'.buffer.trans h.buffer
  inbound := h'.inbound.trans h.inbound
  frameState := h'.frameState.trans h.frameState
  propagate := h'.propagate.trans h.propagate

/-- The ways a write of the frame `f` can end: the value returned, the
caller's buffer and the bytes written. -/
inductive WriteOutcome (f : Frame) : ℤ → Bytes → Bytes → Prop where
  | notWritable {ret : ℤ} (h : ret ≤ 0) : WriteOutcome f ret f.payload []
  | noKey : WriteOutcome f (-1) f.payload []
  /-- The buffer stays masked. -/
  | headerCut {sent : Bytes} (h : sent <+: f.header) (hne : sent ≠ f.header) :
      WriteOutcome f (-1) f.wire sent
  | headerOnly (h : f.payload = []) : WriteOutcome f 0 f.payload f.header
  | bodyError {ret : ℤ} (h : ret < 0) (hne : f.payload ≠ []) :
      WriteOutcome f ret f.payload f.header
  | body {n : ℕ} (h : n ≤ f.payload.length) (hne : f.payload ≠ []) :
      WriteOutcome f n f.payload (f.header ++ f.wire.take n)

/-- The frame a write sends, with the key it draws. -/
def TransportWs.outgoing (ws : TransportWs) (fin : Bool) (opcode : Fin 16) (payload : Bytes)
    (h : payload.length < 2147483648) : Frame :=
  Frame.ofMessage fin opcode ws.platform.randoms.head payload (h.trans (by decide))

namespace WriteOutcome

variable {f : Frame} {ret : ℤ} {buffer sent : Bytes}

/-- The payload's length is returned exactly when the whole frame has gone out. -/
theorem ret_eq_length_iff (h : WriteOutcome f ret buffer sent) (hne : f.payload ≠ []) :
    ret = f.payload.length ↔ sent = f.encode := by
  have hpos : 0 < f.payload.length := List.length_pos_iff.mpr hne
  have hencode : f.encode.length = f.header.length + f.payload.length := by
    rw [Frame.encode, List.length_append, f.length_wire]
  have hheader : 0 < f.header.length := Nat.succ_pos _
  constructor
  · intro hret
    cases h with
    | notWritable h => omega
    | noKey => omega
    | headerCut h hne => omega
    | headerOnly h => exact absurd h hne
    | bodyError h hne => omega
    | body h hne =>
      -- the only end that returns a count, here of the whole payload
      have hn : _ = f.wire.length := (Int.ofNat_inj.mp hret).trans f.length_wire.symm
      rw [hn, List.take_length]
      rfl
  · intro hsent
    -- every other end has sent fewer bytes than the frame has
    have hlen := congrArg List.length hsent
    rw [hencode] at hlen
    cases h with
    | notWritable h =>
      rw [List.length_nil] at hlen
      omega
    | noKey =>
      rw [List.length_nil] at hlen
      omega
    | headerCut h hne =>
      have := h.length_le
      omega
    | headerOnly h => exact absurd h hne
    | bodyError h hne => omega
    | body h hne =>
      rw [List.length_append, List.length_take_of_le (h.trans_eq f.length_wire.symm)] at hlen
      exact congrArg Int.ofNat (by omega)

end WriteOutcome

namespace TransportWs

variable {ws : TransportWs}

theorem parentWrite_sends (ws : TransportWs) (bytes : Bytes) :
    ∃ ret taken ws', ws.parentWrite bytes = (ret, ws') ∧ Sends ws taken ws' ∧
      (ret < 0 ∧ taken = [] ∨ ∃ n, n ≤ bytes.length ∧ ret = n ∧ taken = bytes.take n) := by
  refine ⟨_, _, _, rfl, ⟨rfl, rfl, rfl, rfl, rfl⟩, ?_⟩
  simp only [Outbound.write]
  by_cases hneg : ws.outbound.writes.head < 0
  · left
    rw [if_pos hneg, Int.toNat_of_nonpos hneg.le]
    exact ⟨hneg, List.take_zero⟩
  · right
    refine ⟨(bytes.take ws.outbound.writes.head.toNat).length, List.length_take_le' _ _,
      if_neg hneg, ?_⟩
    rw [List.take_eq_take_iff, List.length_take]
    omega

theorem sendFrame_outcome {f : Frame} (ws : TransportWs) :
    ∃ ret buffer sent ws', ws.sendFrame f.header f.key f.payload = (ret, buffer, ws') ∧
      Sends ws sent ws' ∧ WriteOutcome f ret buffer sent := by
  obtain ⟨ret, taken, ws₁, hwrite, hsends, hret⟩ := parentWrite_sends ws f.header
  by_cases hall : ret = f.header.length
  · -- the header is out
    obtain ⟨n, hn, rfl, rfl⟩ := hret.resolve_left fun h => by omega
    obtain rfl : n = f.header.length := by exact_mod_cast hall
    rw [List.take_length] at hsends
    by_cases hempty : f.payload = []
    · have hwire : f.wire = f.payload := by rw [hempty, Frame.wire_eq_nil_iff.mpr hempty]
      refine ⟨0, f.payload, f.header, ws₁, ?_, hsends, WriteOutcome.headerOnly hempty⟩
      rw [sendFrame, hwrite]
      simp only [ne_eq, not_true_eq_false, if_false]
      rw [if_pos (by rw [hempty]; rfl), ← Frame.wire, hwire]
    · obtain ⟨ret', taken', ws₂, hwrite', hsends', hret'⟩ := parentWrite_sends ws₁ f.wire
      have hpos : f.payload.length ≠ 0 := fun h => hempty (List.length_eq_zero_iff.mp h)
      refine ⟨ret', f.payload, f.header ++ taken', ws₂, ?_, hsends.trans hsends', ?_⟩
      · -- masking the buffer twice restores it, whatever was taken
        rw [sendFrame, hwrite]
        simp only [ne_eq, not_true_eq_false, if_false]
        rw [if_neg hpos, ← Frame.wire, hwrite', Frame.wire, maskWith_maskWith]
      · rcases hret' with ⟨hneg, rfl⟩ | ⟨n, hn, rfl, rfl⟩
        · rw [List.append_nil]
          exact WriteOutcome.bodyError hneg hempty
        · exact WriteOutcome.body (hn.trans_eq f.length_wire) hempty
  · refine ⟨-1, f.wire, taken, ws₁, ?_, hsends, WriteOutcome.headerCut ?_ ?_⟩
    · rw [sendFrame, hwrite]
      exact if_pos hall
    · rcases hret with ⟨-, rfl⟩ | ⟨n, -, -, rfl⟩
      · exact List.nil_prefix
      · exact List.take_prefix n _
    · -- a parent that took all of the header would have said so
      rintro rfl
      rcases hret with ⟨-, hnil⟩ | ⟨n, hn, hret, htake⟩
      · exact List.cons_ne_nil _ _ hnil
      · have := congrArg List.length htake
        rw [List.length_take_of_le hn] at this
        exact hall (by rw [hret, this])

/-- **What `_ws_write` does.** It sends nothing without a key. -/
theorem wsWriteFrame_outcome (ws : TransportWs) (fin : Bool) (opcode : Fin 16)
    {payload : Bytes} (h : payload.length < 2147483648) :
    ∃ ret buffer sent ws', ws.wsWriteFrame (ws.outgoing fin opcode payload h).firstByte wsMask
        payload = (ret, buffer, ws') ∧
      Sends ws sent ws' ∧ WriteOutcome (ws.outgoing fin opcode payload h) ret buffer sent ∧
      (sent ≠ [] → ∃ key, ws.platform.randoms.head = some key) := by
  have hpoll : Sends ws [] ws.wsPollWrite.2 :=
    ⟨(List.append_nil _).symm, rfl, rfl, rfl, rfl⟩
  by_cases hready : ws.wsPollWrite.1 ≤ 0
  · exact ⟨_, _, _, _, if_pos hready, hpoll, WriteOutcome.notWritable hready, absurd rfl⟩
  · have hdrawn : Sends ws [] ws.wsPollWrite.2.getrandom.2 :=
      ⟨(List.append_nil _).symm, rfl, rfl, rfl, rfl⟩
    have hform : (ws.outgoing fin opcode payload h).form = LengthForm.shortest payload.length := rfl
    cases hkey : ws.platform.randoms.head with
    | none =>
      have hnone : ws.wsPollWrite.2.getrandom = (none, ws.wsPollWrite.2.getrandom.2) := by
        rw [← hkey]
        rfl
      refine ⟨-1, payload, [], ws.wsPollWrite.2.getrandom.2, ?_, hdrawn, WriteOutcome.noKey,
        absurd rfl⟩
      unfold wsWriteFrame
      simp only [if_neg hready]
      rw [if_pos (by decide), hnone]
    | some key =>
      have hsome : ws.wsPollWrite.2.getrandom = (some key, ws.wsPollWrite.2.getrandom.2) := by
        rw [← hkey]
        rfl
      obtain ⟨ret, buffer, sent, ws', hsend, hsends, hout⟩ :=
        sendFrame_outcome (f := ws.outgoing fin opcode payload h) ws.wsPollWrite.2.getrandom.2
      refine ⟨ret, buffer, sent, ws', ?_, hdrawn.trans hsends, hout, fun _ => ⟨key, rfl⟩⟩
      unfold wsWriteFrame
      simp only [if_neg hready]
      rw [if_pos (by decide), hsome, ← hsend]
      simp only
      rw [← wsHeader_eq hkey hform (h.trans (by decide))]
      exact congrArg (fun k => sendFrame _ _ k _) hkey.symm

/-- A transport whose parent takes `n` bytes at a time. -/
def takingTransport (n : ℤ) : TransportWs where
  buffer := []
  propagateControlFrames := false
  frameState := ⟨0, false, MaskKey.zero, 0, 0, false⟩
  inbound := ⟨[], Stream'.const 0, Stream'.const 0⟩
  outbound := ⟨[], Stream'.const n, Stream'.const 1⟩
  platform :=
    ⟨Stream'.const (some fun _ => 5), Stream'.const true, fun _ => 0, Stream'.const 1⟩

/-- Writes one after another, as long as each takes all it is given. -/
def wsWriteAll : TransportWs → List Bytes → Option TransportWs
  | ws, [] => some ws
  | ws, payload :: payloads =>
    match ws.wsWrite payload with
    | (ret, _, ws) => if ret = payload.length then wsWriteAll ws payloads else none

/-- A write that takes a whole payload sends it as one binary frame. -/
theorem wsWrite_of_length {payload buffer : Bytes} {ret : ℤ} {ws' : TransportWs}
    (hne : payload ≠ []) (hlt : payload.length < 2147483648)
    (h : ws.wsWrite payload = (ret, buffer, ws')) (hret : ret = payload.length) :
    ∃ key, Sends ws (Frame.ofMessage true Opcode.binary (some key) payload
      (hlt.trans (by decide))).encode ws' := by
  obtain ⟨ret', buffer', sent, ws₁, hwrite, hsends, hout, hdrawn⟩ :=
    wsWriteFrame_outcome ws true Opcode.binary hlt
  -- a payload that is not empty is no ping
  have hsame : ws.wsWrite payload = (ret', buffer', ws₁) := by
    have hfirst :
        wsOpcodeBinary ||| wsFin = (ws.outgoing true Opcode.binary payload hlt).firstByte :=
      (by decide : (0x02 : UInt8) ||| 0x80 = UInt8.ofNat (128 * 1 + 16 * 0 + 2))
    rw [wsWrite, if_neg fun h => hne (List.length_eq_zero_iff.mp h), hfirst, hwrite]
  obtain ⟨rfl, hrest⟩ := Prod.mk.inj (hsame.symm.trans h)
  obtain ⟨-, rfl⟩ := Prod.mk.inj hrest
  have hsent := (hout.ret_eq_length_iff hne).mp hret
  obtain ⟨key, hkey⟩ := hdrawn (by rw [hsent]; exact List.cons_ne_nil _ _)
  refine ⟨key, ?_⟩
  rw [hsent, outgoing, hkey] at hsends
  exact hsends

/-- **A sequence of writes is a sequence of frames.** As long as every write
takes all of its payload, the bytes sent are the binary frames of the payloads,
each masked with its own key, one after another. -/
theorem wsWriteAll_sends {payloads : List Bytes} {ws' : TransportWs}
    (hne : ∀ p ∈ payloads, p ≠ []) (hlt : ∀ p ∈ payloads, p.length < 2147483648)
    (h : ws.wsWriteAll payloads = some ws') :
    ∃ frames, ws'.outbound.written = ws.outbound.written ++ encodeAll frames ∧
      frames.map Frame.payload = payloads ∧
      ∀ f ∈ frames, f.opcode = Opcode.binary ∧ f.fin = true ∧ f.key.isSome := by
  induction payloads generalizing ws with
  | nil =>
    obtain rfl := Option.some.inj h
    exact ⟨[], (List.append_nil _).symm, rfl, nofun⟩
  | cons payload payloads ih =>
    cases hwrite : ws.wsWrite payload with
    | mk ret out =>
      obtain ⟨buffer, ws₁⟩ := out
      rw [wsWriteAll, hwrite] at h
      obtain ⟨hret, hrest⟩ := Option.ite_none_right_eq_some.mp h
      obtain ⟨key, hsends⟩ := wsWrite_of_length (hne payload List.mem_cons_self)
        (hlt payload List.mem_cons_self) hwrite hret
      obtain ⟨frames, hwritten, hpayloads, hall⟩ := ih
        (fun p hp => hne p (List.mem_cons_of_mem payload hp))
        (fun p hp => hlt p (List.mem_cons_of_mem payload hp)) hrest
      have hlt' := (hlt payload List.mem_cons_self).trans (by decide :
        2147483648 < 18446744073709551616)
      refine ⟨Frame.ofMessage true Opcode.binary (some key) payload hlt' :: frames, ?_, ?_, ?_⟩
      · rw [hwritten, hsends.written, encodeAll_cons, List.append_assoc]
      · rw [List.map_cons, hpayloads]
        rfl
      · intro f hf
        rcases List.mem_cons.mp hf with rfl | hf
        · exact ⟨rfl, rfl, rfl⟩
        · exact hall f hf

theorem wsWriteAll_sends_two : ∃ ws' frames,
    (takingTransport 6).wsWriteAll [[104, 105], [33]] = some ws' ∧
      ws'.outbound.written = [] ++ encodeAll frames ∧
      frames.map Frame.payload = [[104, 105], [33]] := by
  have hsome : ((takingTransport 6).wsWriteAll [[104, 105], [33]]).isSome := by decide +kernel
  obtain ⟨ws', hrun⟩ := Option.isSome_iff_exists.mp hsome
  obtain ⟨frames, hwritten, hpayloads, -⟩ :=
    wsWriteAll_sends (by decide) (by decide) hrun
  exact ⟨ws', frames, hrun, hwritten, hpayloads⟩

end TransportWs

end TcpTransport
