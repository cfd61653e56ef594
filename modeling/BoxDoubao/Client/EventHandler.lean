import BoxDoubao.Lib.Transducer
import BoxDoubao.Protocol.Parse

/-!
# `ws_event_handler`

The handler esp_websocket_client calls for each of its events. Data frames
arrive in pieces; the handler appends each piece to the receive buffer, and
when a piece reaches the end of its frame it parses the buffer and calls
`on_recv` with the result.

One invocation takes the allocator's answers for that invocation (`Alloc`) and
the event, and gives the client after it with the list of responses `on_recv`
was called with. It fails when the copy into the receive buffer leaves the
buffer.

`Holds c acc` says that the buffer is a proper object of its capacity and that
its first `recv_buf_len` bytes are `acc`. The specification of the handler is
in terms of `acc` alone: `onData_total` (it never leaves the buffer) and
`onData_cases` (the piece is dropped with everything before it because the
buffer could not grow, `growFails`, completes a frame, or is appended).
-/

namespace BoxDoubao

open CMemory

/-! ### Events and client state -/

/-- The fields of `esp_websocket_event_data_t` the handler reads; `data_len` is
the length of `dataPtr`. -/
structure WsData where
  opCode : UInt8
  dataPtr : Bytes
  payloadOffset : ℕ
  payloadLen : ℕ
  deriving DecidableEq

inductive WsEvent where
  | connected
  | disconnected
  | data (d : WsData)
  | error
  | other
  deriving DecidableEq

/-- What the allocator answers during one invocation: whether
`heap_caps_realloc` succeeds, and the heap the parser allocates from. -/
structure Alloc where
  realloc : Bool
  heap : Heap

/-- The part of `doubao_ws_client_t` the handler uses. `recvBuf` is the object
`recv_buf` points to, `onRecv` says whether a callback is set, and the two bits
are those of the event group. -/
structure DoubaoWsClient where
  recvBuf : Bytes
  recvBufLen : ℕ
  recvBufCap : ℕ
  onRecv : Bool
  connected : Bool
  bitConnected : Bool
  bitDisconnected : Bool
  deriving DecidableEq

/-! ### The handler -/

/-- The capacity asked for: twice the need, at least 8192. -/
def growCapacity (needed : ℕ) : ℕ :=
  if sz (needed * 2) < 8192 then 8192 else sz (needed * 2)

/-- Make room for `needed` bytes; `none` when `heap_caps_realloc` fails. -/
def reserve (realloc : Bool) (needed : ℕ) (c : DoubaoWsClient) : Option DoubaoWsClient :=
  if needed > c.recvBufCap then
    if realloc then
      some { c with
        recvBuf := reallocBytes c.recvBuf (growCapacity needed)
        recvBufCap := growCapacity needed }
    else none
  else some c

/-- There is no room for the bytes of `d` and `heap_caps_realloc` fails. -/
def DoubaoWsClient.growFails (c : DoubaoWsClient) (a : Alloc) (d : WsData) : Bool :=
  (reserve a.realloc (sz (c.recvBufLen + d.dataPtr.length)) c).isNone

/-- `data->payload_offset + data->data_len >= data->payload_len`. -/
def WsData.complete (d : WsData) : Bool :=
  decide (d.payloadOffset + d.dataPtr.length ≥ d.payloadLen)

/-- The opcodes of binary, text and continuation frames. -/
def WsData.isFrame (d : WsData) : Bool :=
  d.opCode == 0x01 || d.opCode == 0x02 || d.opCode == 0x00

/-- The calls of `on_recv` for one complete buffer: one if it parses. -/
def deliver (tinfl : Tinfl) (heap : Heap) (buf : Bytes) : List ParsedResponse :=
  match (protocolParseResponse tinfl heap buf).1 with
  | .ok resp => [resp]
  | .error _ => []

/-- A data frame event. -/
def onData (tinfl : Tinfl) (a : Alloc) (d : WsData) (c : DoubaoWsClient) :
    Option (DoubaoWsClient × List ParsedResponse) :=
  if d.dataPtr.length = 0 then some (c, [])
  else
    match reserve a.realloc (sz (c.recvBufLen + d.dataPtr.length)) c with
    | none => some ({ c with recvBufLen := 0 }, [])
    | some c =>
      match memcpy c.recvBuf c.recvBufLen d.dataPtr with
      | .error _ => none
      | .ok buf =>
        let len := sz (c.recvBufLen + d.dataPtr.length)
        if d.complete then
          let calls :=
            if c.onRecv ∧ len > 0 then deliver tinfl a.heap (buf.take len) else []
          some ({ c with recvBuf := buf, recvBufLen := 0 }, calls)
        else some ({ c with recvBuf := buf, recvBufLen := len }, [])

/-- `ws_event_handler`. Ping, pong and other control frames, errors and unknown
events are only logged. -/
def wsEventHandler (tinfl : Tinfl) (c : DoubaoWsClient) (i : Alloc × WsEvent) :
    Option (DoubaoWsClient × List ParsedResponse) :=
  match i.2 with
  | .connected => some ({ c with connected := true, bitConnected := true }, [])
  | .disconnected => some ({ c with connected := false, bitDisconnected := true }, [])
  | .data d => if d.isFrame then onData tinfl i.1 d c else some (c, [])
  | .error => some (c, [])
  | .other => some (c, [])

/-- The handler over a history of events. -/
def receiver (tinfl : Tinfl) : Transducer DoubaoWsClient (Alloc × WsEvent) ParsedResponse where
  step := wsEventHandler tinfl

/-- `RECV_BUF_INIT_SIZE`. -/
def recvBufInitSize : ℕ := 64 * 1024

/-- The client after a successful `doubao_ws_init` and
`doubao_ws_set_recv_callback`. -/
def DoubaoWsClient.init : DoubaoWsClient where
  recvBuf := List.replicate recvBufInitSize 0
  recvBufLen := 0
  recvBufCap := recvBufInitSize
  onRecv := true
  connected := false
  bitConnected := false
  bitDisconnected := false

/-! ### What the buffer holds -/

/-- The receive buffer is an object of `recv_buf_cap` bytes whose first
`recv_buf_len` bytes are `acc`, and a callback is set. -/
structure Holds (c : DoubaoWsClient) (acc : Bytes) : Prop where
  length_recvBuf : c.recvBuf.length = c.recvBufCap
  cap_lt : c.recvBufCap < 4294967296
  len_eq : c.recvBufLen = acc.length
  len_le : c.recvBufLen ≤ c.recvBufCap
  content : c.recvBuf.take c.recvBufLen = acc
  callback : c.onRecv = true

/-- An empty buffer of any capacity. -/
theorem Holds.of_empty {c : DoubaoWsClient} (hbuf : c.recvBuf.length = c.recvBufCap)
    (hcap : c.recvBufCap < 4294967296) (hempty : c.recvBufLen = 0) (hcb : c.onRecv = true) :
    Holds c [] := by
  refine ⟨hbuf, hcap, hempty, ?_, ?_, hcb⟩
  · rw [hempty]
    exact Nat.zero_le _
  · rw [hempty, List.take_zero]

theorem Holds.init : Holds DoubaoWsClient.init [] :=
  Holds.of_empty List.length_replicate (by decide) rfl rfl

/-- Dropping what was received so far. -/
theorem Holds.reset {c : DoubaoWsClient} {acc : Bytes} (h : Holds c acc) :
    Holds { c with recvBufLen := 0 } [] :=
  ⟨h.length_recvBuf, h.cap_lt, rfl, Nat.zero_le _, rfl, h.callback⟩

/-- The connection flags are not part of the buffer. -/
theorem Holds.flags {c : DoubaoWsClient} {acc : Bytes} (h : Holds c acc)
    (connected bitConnected bitDisconnected : Bool) :
    Holds { c with
      connected := connected
      bitConnected := bitConnected
      bitDisconnected := bitDisconnected } acc :=
  ⟨h.length_recvBuf, h.cap_lt, h.len_eq, h.len_le, h.content, h.callback⟩

theorem growCapacity_lt (needed : ℕ) : growCapacity needed < 4294967296 := by
  unfold growCapacity sz
  split <;> omega

theorem le_growCapacity (needed : ℕ) (h : needed < 2147483648) :
    needed ≤ growCapacity needed := by
  unfold growCapacity
  rw [sz_of_lt (by omega)]
  split <;> omega

/-- `reserve` leaves the client alone or grows its buffer. -/
theorem reserve_cases {realloc : Bool} {needed : ℕ} {c c' : DoubaoWsClient}
    (hr : reserve realloc needed c = some c') :
    (needed ≤ c.recvBufCap ∧ c' = c) ∨ (needed > c.recvBufCap ∧ c' = { c with
      recvBuf := reallocBytes c.recvBuf (growCapacity needed)
      recvBufCap := growCapacity needed }) := by
  unfold reserve at hr
  by_cases hn : needed > c.recvBufCap
  · rw [if_pos hn] at hr
    cases realloc with
    | false => exact absurd hr (by simp)
    | true =>
      rw [if_pos rfl, Option.some.injEq] at hr
      exact Or.inr ⟨hn, hr.symm⟩
  · rw [if_neg hn, Option.some.injEq] at hr
    exact Or.inl ⟨not_lt.mp hn, hr.symm⟩

theorem growFails_eq (c : DoubaoWsClient) (a : Alloc) (d : WsData) : c.growFails a d =
    (decide (sz (c.recvBufLen + d.dataPtr.length) > c.recvBufCap) && !a.realloc) := by
  unfold DoubaoWsClient.growFails reserve
  by_cases hn : sz (c.recvBufLen + d.dataPtr.length) > c.recvBufCap
  · rw [if_pos hn, decide_eq_true hn]
    cases a.realloc <;> rfl
  · rw [if_neg hn, decide_eq_false hn]
    rfl

/-- An allocator that serves every request never makes the buffer fail to
grow. -/
theorem growFails_of_realloc {c : DoubaoWsClient} {a : Alloc} (d : WsData)
    (ha : a.realloc = true) : c.growFails a d = false := by
  rw [growFails_eq, ha, Bool.not_true, Bool.and_false]

/-- Growing to a capacity that still covers the content keeps it. -/
theorem Holds.grow {c : DoubaoWsClient} {acc : Bytes} {needed : ℕ} (h : Holds c acc)
    (hle : c.recvBufLen ≤ growCapacity needed) :
    Holds { c with
      recvBuf := reallocBytes c.recvBuf (growCapacity needed)
      recvBufCap := growCapacity needed } acc := by
  have hlen := h.length_recvBuf
  have hcap := h.len_le
  refine ⟨length_reallocBytes _ _, growCapacity_lt needed, h.len_eq, hle, ?_, h.callback⟩
  -- the content lies in the part of the old buffer that is kept
  change (reallocBytes c.recvBuf (growCapacity needed)).take c.recvBufLen = acc
  rw [take_reallocBytes hle (by omega), h.content]

/-- A successful `reserve` after which `n` more bytes fit. -/
theorem Holds.reserve {c c' : DoubaoWsClient} {acc : Bytes} {realloc : Bool} {needed n : ℕ}
    (h : Holds c acc) (hr : reserve realloc needed c = some c')
    (hfit : c'.recvBufLen + n ≤ c'.recvBuf.length) : Holds c' acc := by
  obtain ⟨-, rfl⟩ | ⟨-, rfl⟩ := reserve_cases hr
  · exact h
  · -- `needed` may have wrapped, so that the capacity covers it says nothing;
    -- that `n` more bytes fit does
    refine h.grow ?_
    change c.recvBufLen + n ≤ (reallocBytes c.recvBuf (growCapacity needed)).length at hfit
    rw [length_reallocBytes] at hfit
    exact le_trans (Nat.le_add_right _ _) hfit

/-- Appending a piece that fits. -/
theorem Holds.append {c : DoubaoWsClient} {acc piece : Bytes} (h : Holds c acc)
    (hfit : c.recvBufLen + piece.length ≤ c.recvBufCap) :
    Holds { c with
      recvBuf := splice c.recvBuf c.recvBufLen piece
      recvBufLen := sz (c.recvBufLen + piece.length) } (acc ++ piece) := by
  have hcap := h.cap_lt
  have hin : c.recvBufLen + piece.length ≤ c.recvBuf.length := by
    rw [h.length_recvBuf]
    exact hfit
  -- a sum that fits in the capacity does not wrap
  have hsz : sz (c.recvBufLen + piece.length) = c.recvBufLen + piece.length :=
    sz_of_lt (by omega)
  refine ⟨?_, hcap, ?_, ?_, ?_, h.callback⟩
  · exact (length_splice hin).trans h.length_recvBuf
  · change sz (c.recvBufLen + piece.length) = (acc ++ piece).length
    rw [hsz, List.length_append, h.len_eq]
  · change sz (c.recvBufLen + piece.length) ≤ c.recvBufCap
    rw [hsz]
    exact hfit
  · change (splice c.recvBuf c.recvBufLen piece).take (sz (c.recvBufLen + piece.length)) = _
    rw [hsz, take_splice hin, h.content]

/-! ### The specification of the handler -/

/-- What one piece can do: be dropped because the buffer could not grow,
complete its frame, or be appended. -/
theorem onData_cases {tinfl : Tinfl} {a : Alloc} {d : WsData} {c c' : DoubaoWsClient}
    {acc : Bytes} {calls : List ParsedResponse} (h : Holds c acc) (hne : d.dataPtr ≠ [])
    (hstep : onData tinfl a d c = some (c', calls)) :
    (c.growFails a d = true ∧ Holds c' [] ∧ calls = []) ∨
      (c.growFails a d = false ∧ d.complete = true ∧ Holds c' [] ∧
        calls = deliver tinfl a.heap (acc ++ d.dataPtr)) ∨
      (c.growFails a d = false ∧ d.complete = false ∧ Holds c' (acc ++ d.dataPtr) ∧
        calls = []) := by
  have hpos : 0 < d.dataPtr.length := List.length_pos_iff.mpr hne
  have hcap := h.cap_lt
  have hle := h.len_le
  unfold onData at hstep
  rw [if_neg (by omega)] at hstep
  cases hr : reserve a.realloc (sz (c.recvBufLen + d.dataPtr.length)) c with
  | none =>
    -- the reallocation failed: what was received of the frame is dropped
    simp only [hr, Option.some.injEq, Prod.mk.injEq] at hstep
    obtain ⟨rfl, rfl⟩ := hstep
    exact Or.inl ⟨by rw [DoubaoWsClient.growFails, hr]; rfl, h.reset, rfl⟩
  | some c₁ =>
    simp only [hr] at hstep
    have hgrows : c.growFails a d = false := by
      rw [DoubaoWsClient.growFails, hr]
      rfl
    by_cases hfit : c₁.recvBufLen + d.dataPtr.length ≤ c₁.recvBuf.length
    · -- the copy stays inside, so a grown buffer still has room for the old content
      have hkeep : Holds c₁ acc := h.reserve hr hfit
      have hin : c₁.recvBufLen + d.dataPtr.length ≤ c₁.recvBufCap := by
        rw [← hkeep.length_recvBuf]
        exact hfit
      have happ := hkeep.append hin
      have hsz : sz (c₁.recvBufLen + d.dataPtr.length) = c₁.recvBufLen + d.dataPtr.length :=
        sz_of_lt (lt_of_le_of_lt hin hkeep.cap_lt)
      have hbuf : (splice c₁.recvBuf c₁.recvBufLen d.dataPtr).take
          (sz (c₁.recvBufLen + d.dataPtr.length)) = acc ++ d.dataPtr := happ.content
      simp only [memcpy_of_le hfit] at hstep
      right
      cases hd : d.complete with
      | true =>
        have hcall : c₁.onRecv = true ∧ sz (c₁.recvBufLen + d.dataPtr.length) > 0 := by
          refine ⟨hkeep.callback, ?_⟩
          rw [hsz]
          omega
        rw [hd, if_pos rfl, if_pos hcall, hbuf, Option.some.injEq, Prod.mk.injEq] at hstep
        obtain ⟨rfl, rfl⟩ := hstep
        exact Or.inl ⟨hgrows, rfl, happ.reset, rfl⟩
      | false =>
        rw [hd, if_neg Bool.false_ne_true, Option.some.injEq, Prod.mk.injEq] at hstep
        obtain ⟨rfl, rfl⟩ := hstep
        exact Or.inr ⟨hgrows, rfl, happ, rfl⟩
    · -- a copy past the buffer is not a step
      simp only [memcpy, if_neg hfit] at hstep
      exact absurd hstep (by simp)

/-- While the frame stays below the sizes the client can announce, the copy
stays inside the buffer, whatever the allocator answers. -/
theorem onData_total (tinfl : Tinfl) (a : Alloc) {d : WsData} {c : DoubaoWsClient}
    {acc : Bytes} (h : Holds c acc) (hsize : acc.length + d.dataPtr.length < 2147483648) :
    (onData tinfl a d c).isSome := by
  have hlen := h.len_eq
  have hsz : sz (c.recvBufLen + d.dataPtr.length) = c.recvBufLen + d.dataPtr.length :=
    sz_of_lt (by omega)
  unfold onData
  by_cases hd0 : d.dataPtr.length = 0
  · rw [if_pos hd0]
    rfl
  rw [if_neg hd0, hsz]
  cases hr : reserve a.realloc (c.recvBufLen + d.dataPtr.length) c with
  | none => rfl
  | some c₁ =>
    -- either there was room already or the grown buffer has it
    have hfit : c₁.recvBufLen + d.dataPtr.length ≤ c₁.recvBuf.length := by
      obtain ⟨hroom, rfl⟩ | ⟨-, rfl⟩ := reserve_cases hr
      · rw [h.length_recvBuf]
        exact hroom
      · change c.recvBufLen + d.dataPtr.length ≤ (reallocBytes c.recvBuf _).length
        rw [length_reallocBytes]
        exact le_growCapacity _ (by omega)
    simp only [memcpy_of_le hfit]
    cases d.complete <;> rfl

end BoxDoubao
