import BoxDoubao.Lib.WebSocket
import Mathlib.Data.Stream.Init

/-!
# The state of the WebSocket transport

`transport_ws_t`, as far as reading and writing depend on it, and the reads
from the transport below it.

What lies outside is a script. `Inbound` holds the bytes the server sends and
the answers of the parent transport's `read` and `poll_read`; `Outbound` holds
what has been written to the parent and the answers of its `write` and
`poll_write`; `Platform` holds the answers of `getrandom`, `malloc` and the
wait for the end of the connection. An answer of `read` or `write` is negative
for an error and otherwise the most bytes that call moves, so the server's
stream may be cut anywhere and any call may fail or time out. A read that
returns no positive number has left the memory it was to fill as it was.

`buffer` is what the handshake has read beyond the response header: the first
`buffer_len` bytes of the source's `buffer`. The bytes still to be read are
therefore `pending`, the buffer followed by what comes in, and
`Consumes bytes` says of a read that it has taken `bytes` from their front and
changed nothing else.
-/

namespace TcpTransport

open CMemory WebSocket

/-! ### The transport below -/

/-- What the server sends, and how it is handed over. -/
structure Inbound where
  /-- The bytes not yet read from the parent. -/
  incoming : Bytes
  reads : Stream' ℤ
  pollReads : Stream' ℤ

/-- What is sent to the server, and how it is taken. -/
structure Outbound where
  written : Bytes
  writes : Stream' ℤ
  pollWrites : Stream' ℤ

/-- The answers of the operating system. -/
structure Platform where
  /-- `getrandom` for a masking key, `none` where it fails. -/
  randoms : Stream' (Option MaskKey)
  mallocs : Stream' Bool
  /-- What stands in memory that was just allocated. -/
  fresh : ℕ → UInt8
  /-- `esp_transport_ws_poll_connection_closed`. -/
  closed : Stream' ℤ

/-- `esp_transport_read` on the parent. -/
def Inbound.read (p : Inbound) (len : ℕ) : ℤ × Bytes × Inbound :=
  let answer := p.reads.head
  let bytes := p.incoming.take (min answer.toNat len)
  (if answer < 0 then answer else bytes.length, bytes,
    { p with incoming := p.incoming.drop (min answer.toNat len), reads := p.reads.tail })

/-- `esp_transport_write` on the parent. -/
def Outbound.write (p : Outbound) (bytes : Bytes) : ℤ × Outbound :=
  let answer := p.writes.head
  let taken := bytes.take answer.toNat
  (if answer < 0 then answer else taken.length,
    { p with written := p.written ++ taken, writes := p.writes.tail })

/-! ### The transport -/

/-- `ws_transport_frame_state_t`. -/
structure FrameState where
  opcode : UInt8
  fin : Bool
  maskKey : MaskKey
  payloadLen : ℤ
  bytesRemaining : ℤ
  headerReceived : Bool

/-- `transport_ws_t`, once connected. -/
structure TransportWs where
  buffer : Bytes
  propagateControlFrames : Bool
  frameState : FrameState
  inbound : Inbound
  outbound : Outbound
  platform : Platform

namespace TransportWs

def setBytesRemaining (ws : TransportWs) (n : ℤ) : TransportWs :=
  { ws with frameState := { ws.frameState with bytesRemaining := n } }

def setHeaderReceived (ws : TransportWs) (received : Bool) : TransportWs :=
  { ws with frameState := { ws.frameState with headerReceived := received } }

/-- `ws_poll_read`. -/
def wsPollRead (ws : TransportWs) : ℤ × TransportWs :=
  (ws.inbound.pollReads.head,
    { ws with inbound := { ws.inbound with pollReads := ws.inbound.pollReads.tail } })

/-- `ws_poll_write`. -/
def wsPollWrite (ws : TransportWs) : ℤ × TransportWs :=
  (ws.outbound.pollWrites.head,
    { ws with outbound := { ws.outbound with pollWrites := ws.outbound.pollWrites.tail } })

/-- `esp_transport_ws_get_read_opcode`, `none` for `WS_TRANSPORT_OPCODES_NONE`. -/
def espTransportWsGetReadOpcode (ws : TransportWs) : Option UInt8 :=
  if ws.frameState.headerReceived then some ws.frameState.opcode else none

/-- `esp_transport_ws_get_fin_flag`. -/
def espTransportWsGetFinFlag (ws : TransportWs) : Bool := ws.frameState.fin

/-- `esp_transport_ws_get_read_payload_len`. -/
def espTransportWsGetReadPayloadLen (ws : TransportWs) : ℤ := ws.frameState.payloadLen

/-! ### Reading from below -/

/-- `esp_transport_read_internal`: what the handshake left over comes first. -/
def espTransportReadInternal (ws : TransportWs) (len : ℕ) : ℤ × Bytes × TransportWs :=
  if ws.buffer.length = 0 then
    let (ret, bytes, inbound) := ws.inbound.read len
    (ret, bytes, { ws with inbound := inbound })
  else
    let toRead := if len ≤ ws.buffer.length then len else ws.buffer.length
    (toRead, ws.buffer.take toRead, { ws with buffer := ws.buffer.drop toRead })

/-- The loop of `esp_transport_read_exact_size`, with `got` read so far. Every
turn reads at least one byte, so `len` turns are enough. -/
def readExactLoop : ℕ → TransportWs → ℕ → Bytes → ℤ × Bytes × TransportWs
  | 0, ws, _, got => (got.length, got, ws)
  | turns + 1, ws, len, got =>
    if len = 0 then (got.length, got, ws)
    else
      match ws.espTransportReadInternal len with
      | (bytesRead, bytes, ws) =>
        if bytesRead < 0 then (bytesRead, got, ws)
        -- a timeout is an error here, though nothing of the stream is lost
        else if bytesRead = 0 then (-1, got, ws)
        else readExactLoop turns ws (len - bytes.length) (got ++ bytes)

/-- `esp_transport_read_exact_size`: the value returned and the bytes put into
the buffer, which are fewer than requested where it fails. -/
def espTransportReadExactSize (ws : TransportWs) (requested : ℕ) : ℤ × Bytes × TransportWs :=
  readExactLoop requested ws requested []

/-! ### What a read has taken -/

/-- The bytes still to be read. -/
def pending (ws : TransportWs) : Bytes := ws.buffer ++ ws.inbound.incoming

/-- The parent gives at least one byte whenever it is read from and has one. -/
def Flows (ws : TransportWs) : Prop := ws.inbound.reads.All (0 < ·)

/-- How the parent answers is still so, and so is who handles control frames. -/
structure Keeps (ws ws' : TransportWs) : Prop where
  flows : ws.Flows → ws'.Flows
  polls : ws.inbound.pollReads.All (0 < ·) → ws'.inbound.pollReads.All (0 < ·)
  propagate : ws'.propagateControlFrames = ws.propagateControlFrames

/-- Nothing has been sent either, and nothing asked of the system. -/
structure Quiet (ws ws' : TransportWs) : Prop extends Keeps ws ws' where
  outbound : ws'.outbound = ws.outbound
  platform : ws'.platform = ws.platform

/-- `bytes` have been read, and nothing else has happened. -/
structure Consumes (ws : TransportWs) (bytes : Bytes) (ws' : TransportWs) : Prop where
  pending : ws.pending = bytes ++ ws'.pending
  frameState : ws'.frameState = ws.frameState
  quiet : ws.Quiet ws'

/-- Some bytes have been read, and nothing has happened outside. -/
structure Takes (ws ws' : TransportWs) : Prop where
  suffix : ws'.pending <:+ ws.pending
  quiet : ws.Quiet ws'

variable {ws ws' ws'' : TransportWs} {bytes bytes' : Bytes}

theorem Keeps.trans (h : ws.Keeps ws') (h' : ws'.Keeps ws'') : ws.Keeps ws'' :=
  ⟨h'.flows ∘ h.flows, h'.polls ∘ h.polls, h'.propagate.trans h.propagate⟩

theorem Quiet.refl (ws : TransportWs) : ws.Quiet ws := ⟨⟨id, id, rfl⟩, rfl, rfl⟩

theorem Quiet.trans (h : ws.Quiet ws') (h' : ws'.Quiet ws'') : ws.Quiet ws'' :=
  ⟨h.toKeeps.trans h'.toKeeps, h'.outbound.trans h.outbound, h'.platform.trans h.platform⟩

theorem Consumes.refl (ws : TransportWs) : ws.Consumes [] ws := ⟨rfl, rfl, Quiet.refl ws⟩

/-- Two reads in a row are one read. -/
theorem Consumes.trans (h : ws.Consumes bytes ws') (h' : ws'.Consumes bytes' ws'') :
    ws.Consumes (bytes ++ bytes') ws'' where
  pending := by rw [h.pending, h'.pending, List.append_assoc]
  frameState := h'.frameState.trans h.frameState
  quiet := h.quiet.trans h'.quiet

theorem Consumes.takes (h : ws.Consumes bytes ws') : ws.Takes ws' :=
  ⟨⟨bytes, h.pending.symm⟩, h.quiet⟩

theorem Takes.refl (ws : TransportWs) : ws.Takes ws := ⟨List.suffix_rfl, Quiet.refl ws⟩

theorem Takes.trans (h : ws.Takes ws') (h' : ws'.Takes ws'') : ws.Takes ws'' :=
  ⟨h'.suffix.trans h.suffix, h.quiet.trans h'.quiet⟩

/-- The reads that follow are the parent's later answers. -/
theorem flows_tail (h : ws.Flows) : ws.inbound.reads.tail.All (0 < ·) := fun n => h (n + 1)

/-! ### The reads -/

/-- What `esp_transport_read_internal` promises: it takes some bytes off the
front, at most as many as asked for, and returns their number, or takes none
and returns no positive number. Where the parent flows it takes some. -/
structure Gives (ws : TransportWs) (len : ℕ) (ret : ℤ) (bytes : Bytes) (ws' : TransportWs) :
    Prop where
  consumes : ws.Consumes bytes ws'
  le : bytes.length ≤ len
  ret : bytes = [] ∧ ret ≤ 0 ∨ bytes ≠ [] ∧ ret = bytes.length
  progress : ws.Flows → ws.pending ≠ [] → bytes ≠ []

/-- A read from the parent. -/
theorem gives_parent {len : ℕ} (hlen : 0 < len) (hbuf : ws.buffer = []) :
    ws.Gives len (ws.inbound.read len).1 (ws.inbound.read len).2.1
      { ws with inbound := (ws.inbound.read len).2.2 } := by
  have hpending : ws.pending = ws.inbound.incoming := by rw [pending, hbuf, List.nil_append]
  refine
    { consumes :=
        { pending := ?_
          frameState := rfl
          quiet := ⟨⟨fun h => flows_tail h, id, rfl⟩, rfl, rfl⟩ }
      le := (List.length_take_le _ _).trans (min_le_right _ _)
      ret := ?_
      progress := ?_ }
  · rw [hpending, pending, hbuf]
    exact (List.take_append_drop _ _).symm
  · simp only [Inbound.read]
    by_cases hneg : ws.inbound.reads.head < 0
    · left
      rw [if_pos hneg, Int.toNat_of_nonpos hneg.le, Nat.zero_min]
      exact ⟨List.take_zero, hneg.le⟩
    · rw [if_neg hneg]
      cases h : ws.inbound.incoming.take (min ws.inbound.reads.head.toNat len) with
      | nil => exact Or.inl ⟨rfl, le_refl 0⟩
      | cons b bs => exact Or.inr ⟨List.cons_ne_nil b bs, rfl⟩
  · -- the answer is positive and something is there
    intro hflows hne
    rw [hpending] at hne
    have hhead : 0 < ws.inbound.reads.head := hflows 0
    simp only [Inbound.read, ne_eq, List.take_eq_nil_iff, not_or]
    exact ⟨by omega, hne⟩

/-- A read from what the handshake left over. -/
theorem gives_buffer {len toRead : ℕ} (hbuf : ws.buffer ≠ []) (hpos : 0 < toRead)
    (hlen : toRead ≤ len) (hle : toRead ≤ ws.buffer.length) :
    ws.Gives len toRead (ws.buffer.take toRead) { ws with buffer := ws.buffer.drop toRead } := by
  have hne : ws.buffer.take toRead ≠ [] := by
    rw [ne_eq, List.take_eq_nil_iff, not_or]
    exact ⟨by omega, hbuf⟩
  have hlength : (ws.buffer.take toRead).length = toRead := List.length_take_of_le hle
  exact
    { consumes :=
        { pending := by rw [pending, pending, ← List.append_assoc, List.take_append_drop]
          frameState := rfl
          quiet := ⟨⟨id, id, rfl⟩, rfl, rfl⟩ }
      le := hlength.trans_le hlen
      ret := Or.inr ⟨hne, by rw [hlength]⟩
      progress := fun _ _ => hne }

theorem espTransportReadInternal_gives (ws : TransportWs) {len : ℕ} (hlen : 0 < len) :
    ∃ ret bytes ws', ws.espTransportReadInternal len = (ret, bytes, ws') ∧
      ws.Gives len ret bytes ws' := by
  by_cases hbuf : ws.buffer = []
  · exact ⟨_, _, _, if_pos (by rw [hbuf]; rfl), gives_parent hlen hbuf⟩
  · have hpos : 0 < ws.buffer.length := List.length_pos_iff.mpr hbuf
    refine ⟨_, _, _, if_neg (by omega), gives_buffer hbuf ?_ ?_ ?_⟩ <;> split <;> omega

/-- What `esp_transport_read_exact_size` promises with `got` bytes read and `n` to
come: it reads all of them and returns the total, or it fails with a negative
number, and that not where they lie ahead and the parent flows. -/
structure GivesExactly (ws : TransportWs) (got n : ℕ) (ret : ℤ) (bytes : Bytes)
    (ws' : TransportWs) : Prop where
  consumes : ws.Consumes bytes ws'
  ret : ret = (got + n : ℕ) ∧ bytes.length = n ∨ ret < 0 ∧ bytes.length < n
  progress : ws.Flows → n ≤ ws.pending.length → bytes.length = n

/-- The loop collects the bytes it still needs or fails with a negative number. -/
theorem readExactLoop_spec {turns len : ℕ} (hturns : len ≤ turns) (ws : TransportWs)
    (got : Bytes) :
    ∃ ret bytes ws', readExactLoop turns ws len got = (ret, got ++ bytes, ws') ∧
      ws.GivesExactly got.length len ret bytes ws' := by
  -- by the turns, of which each that goes on has read something
  induction turns generalizing ws len got with
  | zero =>
    obtain rfl := Nat.le_zero.mp hturns
    refine ⟨_, [], ws, ?_, Consumes.refl ws, Or.inl ⟨rfl, rfl⟩, fun _ _ => rfl⟩
    rw [List.append_nil, readExactLoop, Nat.add_zero]
  | succ turns ih =>
    by_cases hlen : len = 0
    · subst hlen
      refine ⟨_, [], ws, ?_, Consumes.refl ws, Or.inl ⟨rfl, rfl⟩, fun _ _ => rfl⟩
      rw [List.append_nil, readExactLoop, if_pos rfl, Nat.add_zero]
    · obtain ⟨ret, bytes, ws₁, hread, hgives⟩ :=
        espTransportReadInternal_gives ws (Nat.pos_of_ne_zero hlen)
      rcases hgives.ret with ⟨hnil, hret⟩ | ⟨hne, hret⟩
      · -- no byte: the function gives up
        subst hnil
        have hpos : ([] : Bytes).length < len := Nat.pos_of_ne_zero hlen
        have hstuck : ws.Flows → len ≤ ws.pending.length → ([] : Bytes).length = len := by
          intro hflows hle
          refine absurd rfl (hgives.progress hflows fun h => hlen ?_)
          rw [h] at hle
          exact Nat.le_zero.mp hle
        rcases hret.lt_or_eq with hneg | hzero
        · refine ⟨ret, [], ws₁, ?_, hgives.consumes, Or.inr ⟨hneg, hpos⟩, hstuck⟩
          rw [readExactLoop, if_neg hlen, hread, List.append_nil]
          exact if_pos hneg
        · refine ⟨-1, [], ws₁, ?_, hgives.consumes, Or.inr ⟨by decide, hpos⟩, hstuck⟩
          rw [readExactLoop, if_neg hlen, hread, hzero, List.append_nil]
          rfl
      · -- the bytes of this turn come before those of the turns that follow
        have hpos : 0 < bytes.length := List.length_pos_iff.mpr hne
        have hturn : readExactLoop (turns + 1) ws len got =
            readExactLoop turns ws₁ (len - bytes.length) (got ++ bytes) := by
          rw [readExactLoop, if_neg hlen, hread]
          simp only [hret]
          rw [if_neg (by omega), if_neg (by omega)]
        obtain ⟨ret', more, ws₂, hrest, hmore⟩ := ih (by omega : len - bytes.length ≤ turns) ws₁
          (got ++ bytes)
        have hle := hgives.le
        refine ⟨ret', bytes ++ more, ws₂, by rw [hturn, hrest, List.append_assoc],
          hgives.consumes.trans hmore.consumes, ?_, ?_⟩
        · have hret' := hmore.ret
          rw [List.length_append] at hret' ⊢
          omega
        · intro hflows hpending
          rw [hgives.consumes.pending, List.length_append] at hpending
          have := hmore.progress (hgives.consumes.quiet.flows hflows) (by omega)
          rw [List.length_append]
          omega

/-- `esp_transport_read_exact_size` takes exactly the bytes it was asked for,
or fails with a negative number. -/
theorem espTransportReadExactSize_spec (ws : TransportWs) (n : ℕ) :
    ∃ ret bytes ws', ws.espTransportReadExactSize n = (ret, bytes, ws') ∧
      ws.GivesExactly 0 n ret bytes ws' :=
  readExactLoop_spec (le_refl n) ws []

/-- Where the parent flows, bytes that lie ahead are read. -/
theorem espTransportReadExactSize_of_pending {rest : Bytes} (hflows : ws.Flows)
    (h : ws.pending = bytes ++ rest) :
    ∃ ws', ws.espTransportReadExactSize bytes.length = ((bytes.length : ℤ), bytes, ws') ∧
      ws.Consumes bytes ws' := by
  obtain ⟨ret, read, ws', hcall, hgives⟩ := espTransportReadExactSize_spec ws bytes.length
  have hlen : read.length = bytes.length := by
    refine hgives.progress hflows ?_
    rw [h, List.length_append]
    exact Nat.le_add_right _ _
  have hread : read = bytes := by
    have happ := hgives.consumes.pending
    rw [h] at happ
    exact (List.append_inj_left happ hlen.symm).symm
  subst hread
  have hret := hgives.ret
  exact ⟨ws', by rw [hcall, show ret = (read.length : ℤ) by omega], hgives.consumes⟩

end TransportWs

end TcpTransport
