import BoxDoubao.Client.Assembly
import Mathlib.Data.List.Infix

/-!
# Reconnects and the receive buffer

esp_websocket_client reconnects by itself: it posts DISCONNECTED and later
CONNECTED to the same handler and the same client. Neither event touches
`recv_buf_len`, so the beginning of a frame that the drop cut off is still in
the buffer when the first frame of the new connection arrives.

`calls_fresh_of_emptyAtReconnect` is what remains: where the buffer is empty
whenever a CONNECTED event is handled after a drop, every later call of
`on_recv` is made with the parse of consecutive bytes of the new connection.
The invariant is that what the buffer holds is a suffix of what was received
since then.
-/

namespace BoxDoubao

open CMemory

/-- The bytes of the data frame events. -/
def received (es : List (Alloc × WsEvent)) : Bytes :=
  es.flatMap fun i =>
    match i.2 with
    | .data d => if d.isFrame then d.dataPtr else []
    | _ => []

/-- A call of `on_recv` with the parse of consecutive bytes of `es`. -/
def ReadFrom (tinfl : Tinfl) (es : List (Alloc × WsEvent)) (r : ParsedResponse) : Prop :=
  ∃ i ∈ es, ∃ b, b <:+: received es ∧ (protocolParseResponse tinfl i.1.heap b).1 = .ok r

/-- Nothing leaks over a reconnect in the history `es`: every call of `on_recv`
after a CONNECTED event that follows a DISCONNECTED event is made with bytes
received after it. -/
def CallsFresh (tinfl : Tinfl) (c : DoubaoWsClient) (es : List (Alloc × WsEvent)) : Prop :=
  ∀ before a between a' after,
    es = (before ++ (a, .disconnected) :: between ++ [(a', .connected)]) ++ after →
    ∀ c₁ o c₂ calls,
      (receiver tinfl).run c (before ++ (a, .disconnected) :: between ++ [(a', .connected)]) =
        some (c₁, o) →
      (receiver tinfl).run c₁ after = some (c₂, calls) → ∀ r ∈ calls, ReadFrom tinfl after r

/-- The receive buffer is empty whenever a CONNECTED event is handled after a
DISCONNECTED event. -/
def EmptyAtReconnect (tinfl : Tinfl) (c : DoubaoWsClient) (es : List (Alloc × WsEvent)) : Prop :=
  ∀ es₁ a es₂, es = es₁ ++ (a, .connected) :: es₂ → (∃ a', (a', .disconnected) ∈ es₁) →
    ∀ c₁ o, (receiver tinfl).run c es₁ = some (c₁, o) → c₁.recvBufLen = 0

theorem received_append (es fs : List (Alloc × WsEvent)) :
    received (es ++ fs) = received es ++ received fs := List.flatMap_append

theorem ReadFrom.append_left {tinfl : Tinfl} {es : List (Alloc × WsEvent)} {r : ParsedResponse}
    (fs : List (Alloc × WsEvent)) (h : ReadFrom tinfl es r) : ReadFrom tinfl (es ++ fs) r := by
  obtain ⟨i, hi, b, hb, hr⟩ := h
  refine ⟨i, List.mem_append_left fs hi, b, ?_, hr⟩
  rw [received_append]
  exact hb.trans (List.prefix_append _ _).isInfix

theorem mem_deliver {tinfl : Tinfl} {heap : Heap} {buf : Bytes} {r : ParsedResponse}
    (h : r ∈ deliver tinfl heap buf) : (protocolParseResponse tinfl heap buf).1 = .ok r := by
  unfold deliver at h
  cases hp : (protocolParseResponse tinfl heap buf).1 with
  | ok resp =>
    rw [hp] at h
    rw [List.mem_singleton.mp h]
  | error e =>
    rw [hp] at h
    cases h

/-! ### What the buffer holds is a suffix of what was received -/

/-- The step lemma. -/
theorem wsEventHandler_suffix {tinfl : Tinfl} {c c' : DoubaoWsClient} {acc : Bytes}
    {es : List (Alloc × WsEvent)} {i : Alloc × WsEvent} {calls : List ParsedResponse}
    (h : Holds c acc) (hsuf : acc <:+ received es)
    (hstep : wsEventHandler tinfl c i = some (c', calls)) :
    ∃ acc', Holds c' acc' ∧ acc' <:+ received (es ++ [i]) ∧
      ∀ r ∈ calls, ReadFrom tinfl (es ++ [i]) r := by
  -- the events that bring no bytes leave the buffer alone
  have hstay : ∀ {c₁ : DoubaoWsClient}, Holds c₁ acc → some (c₁, []) = some (c', calls) →
      received [i] = [] → ∃ acc', Holds c' acc' ∧ acc' <:+ received (es ++ [i]) ∧
        ∀ r ∈ calls, ReadFrom tinfl (es ++ [i]) r := by
    intro c₁ h₁ heq hnil
    rw [Option.some.injEq, Prod.mk.injEq] at heq
    obtain ⟨rfl, rfl⟩ := heq
    refine ⟨acc, h₁, ?_, fun r hr => absurd hr List.not_mem_nil⟩
    rw [received_append, hnil, List.append_nil]
    exact hsuf
  obtain ⟨a, e⟩ := i
  cases e with
  | connected => exact hstay (h.flags true true c.bitDisconnected) hstep rfl
  | disconnected => exact hstay (h.flags false c.bitConnected true) hstep rfl
  | error | other => exact hstay h hstep rfl
  | data d =>
    simp only [wsEventHandler] at hstep
    by_cases hframe : d.isFrame = true
    · rw [if_pos hframe] at hstep
      have hrec : received (es ++ [(a, .data d)]) = received es ++ d.dataPtr := by
        rw [received_append]
        simp [received, hframe]
      by_cases hnil : d.dataPtr = []
      · rw [onData, if_pos (List.length_eq_zero_iff.mpr hnil)] at hstep
        exact hstay h hstep (by simp [received, hframe, hnil])
      · have happ : acc ++ d.dataPtr <:+ received (es ++ [(a, .data d)]) := by
          rw [hrec]
          exact (List.suffix_append_inj_of_length_eq rfl).mpr ⟨hsuf, rfl⟩
        -- the piece is dropped with what was before it, completes, or is appended
        obtain ⟨-, hc', rfl⟩ | ⟨-, -, hc', rfl⟩ | ⟨-, -, hc', rfl⟩ := onData_cases h hnil hstep
        · exact ⟨[], hc', List.nil_suffix, fun r hr => absurd hr List.not_mem_nil⟩
        · refine ⟨[], hc', List.nil_suffix, fun r hr => ?_⟩
          exact ⟨(a, .data d), List.mem_append_right _ List.mem_cons_self, acc ++ d.dataPtr,
            happ.isInfix, mem_deliver hr⟩
        · exact ⟨acc ++ d.dataPtr, hc', happ, fun r hr => absurd hr List.not_mem_nil⟩
    · rw [if_neg hframe] at hstep
      exact hstay h hstep (by simp [received, hframe])

/-- The run lemma: from an empty buffer on, everything delivered was received
on the way. -/
theorem receiver_readFrom {tinfl : Tinfl} {c c' : DoubaoWsClient} {acc : Bytes}
    {es fs : List (Alloc × WsEvent)} {calls : List ParsedResponse} (h : Holds c acc)
    (hsuf : acc <:+ received es) (hrun : (receiver tinfl).run c fs = some (c', calls)) :
    (∃ acc', Holds c' acc') ∧ ∀ r ∈ calls, ReadFrom tinfl (es ++ fs) r := by
  induction fs generalizing c acc es calls with
  | nil =>
    rw [Transducer.run_nil, Option.some.injEq, Prod.mk.injEq] at hrun
    obtain ⟨rfl, rfl⟩ := hrun
    exact ⟨⟨acc, h⟩, fun r hr => absurd hr List.not_mem_nil⟩
  | cons i fs ih =>
    obtain ⟨c₁, o, o', hstep, hrest, rfl⟩ := Transducer.run_cons_inv hrun
    obtain ⟨acc₁, h₁, hsuf₁, ho⟩ := wsEventHandler_suffix h hsuf hstep
    obtain ⟨hend, ho'⟩ := ih h₁ hsuf₁ hrest
    rw [List.append_assoc] at ho'
    refine ⟨hend, fun r hr => ?_⟩
    -- the call is made in this step or later
    obtain hr | hr := List.mem_append.mp hr
    · have hread := (ho r hr).append_left fs
      rwa [List.append_assoc] at hread
    · exact ho' r hr

/-- **Nothing leaks where the buffer is empty at the reconnect.** -/
theorem calls_fresh_of_emptyAtReconnect (tinfl : Tinfl) {c : DoubaoWsClient}
    (hbuf : c.recvBuf.length = c.recvBufCap) (hcap : c.recvBufCap < 4294967296)
    (hempty : c.recvBufLen = 0) (hcb : c.onRecv = true) (es : List (Alloc × WsEvent))
    (hguard : EmptyAtReconnect tinfl c es) : CallsFresh tinfl c es := by
  intro before a between a' after hes c₁ o c₂ calls hpre hpost r hr
  have hholds : Holds c [] := Holds.of_empty hbuf hcap hempty hcb
  have hnone : [] <:+ received [] := List.nil_suffix
  obtain ⟨c₀, o₀, o₀', hold, hconn, rfl⟩ := Transducer.run_append_inv hpre
  have hdropped : ∃ a₀, (a₀, WsEvent.disconnected) ∈ before ++ (a, .disconnected) :: between :=
    ⟨a, List.mem_append_right _ List.mem_cons_self⟩
  rw [List.append_assoc] at hes
  -- so the buffer is empty when CONNECTED is handled
  have hlen : c₀.recvBufLen = 0 := hguard _ a' after hes hdropped c₀ o₀ hold
  obtain ⟨⟨acc₀, h₀⟩, -⟩ := receiver_readFrom hholds hnone hold
  have h₀' : Holds c₀ [] := Holds.of_empty h₀.length_recvBuf h₀.cap_lt hlen h₀.callback
  -- CONNECTED itself leaves the buffer as it is
  obtain ⟨c₁', o₁, o₁', hstep, hnil, -⟩ := Transducer.run_cons_inv hconn
  obtain ⟨rfl, -⟩ : _ ∧ _ := by
    simpa only [receiver, wsEventHandler, Option.some.injEq, Prod.mk.injEq] using hstep
  rw [Transducer.run_nil, Option.some.injEq, Prod.mk.injEq] at hnil
  obtain ⟨rfl, -⟩ := hnil
  exact (receiver_readFrom (h₀'.flags true true c₀.bitDisconnected) hnone hpost).2 r hr

/-! ### A drop in the middle of a frame -/

/-- A data event of a binary frame of `total` bytes. -/
def binaryPiece (piece : Bytes) (total : ℕ) : Alloc × WsEvent :=
  (Alloc.granting, .data ⟨0x02, piece, 0, total⟩)

/-- A full response without a payload. -/
def emptyReply : Bytes := [0x11, 0x90, 0x10, 0, 0, 0, 0, 0, 0, 0, 0, 0]

/-- The connection drops after the first twelve bytes of an error message; the
first message of the next connection is a full response. -/
def droppedError : List (Alloc × WsEvent) :=
  [binaryPiece [0x11, 0xF0, 0x10, 0, 0, 0, 0, 1, 0, 0, 0, 5] 17, (Alloc.granting, .disconnected),
    (Alloc.granting, .connected), binaryPiece emptyReply 12]

/-- The response on the new connection is delivered as the payload of the
error message of the old one. -/
theorem droppedError_leaks : ¬ CallsFresh (fun _ _ _ => none) smallClient droppedError := by
  intro h
  let T := receiver fun _ _ _ => none
  have hpre : (T.run smallClient (droppedError.take 3)).isSome := by decide +kernel
  obtain ⟨⟨c₁, o⟩, hc₁⟩ := Option.isSome_iff_exists.mp hpre
  have hpost : ((T.run smallClient (droppedError.take 3)).bind fun q =>
      T.run q.1 (droppedError.drop 3)).map (fun q => q.2.map (·.messageType)) =
        some [msgServerError] := by decide +kernel
  rw [hc₁, Option.bind_some, Option.map_eq_some_iff] at hpost
  obtain ⟨⟨c₂, calls⟩, hc₂, hcalls⟩ := hpost
  obtain ⟨r, rfl⟩ : ∃ r, calls = [r] := List.length_eq_one_iff.mp (by
    simpa using congrArg List.length hcalls)
  obtain ⟨i, hi, b, hb, hr⟩ := h [binaryPiece [0x11, 0xF0, 0x10, 0, 0, 0, 0, 1, 0, 0, 0, 5] 17]
    _ [] _ _ rfl c₁ o c₂ [r] hc₁ hc₂ r List.mem_cons_self
  obtain rfl : i = binaryPiece emptyReply 12 := List.mem_singleton.mp hi
  -- no part of the new connection's bytes has the type of an error message
  have hall : ∀ t ∈ emptyReply.tails, ∀ b ∈ t.inits,
      (protocolParseResponse (fun _ _ _ => none) Heap.unlimited b).1.toOption.map
        (·.messageType) ≠ some msgServerError := by decide +kernel
  obtain ⟨t, hbt, ht⟩ := List.infix_iff_prefix_suffix.mp hb
  refine hall t ((List.mem_tails _ _).mpr ht) b ((List.mem_inits _ _).mpr hbt) ?_
  have hmap := congrArg (fun x => x.toOption.map ParsedResponse.messageType) hr
  exact hmap.trans (congrArg some (List.cons.inj hcalls).1)

/-- A drop between two frames. -/
def cleanReconnect : List (Alloc × WsEvent) :=
  [binaryPiece emptyReply 12, (Alloc.granting, .disconnected), (Alloc.granting, .connected),
    binaryPiece emptyReply 12]

theorem emptyAtReconnect_cleanReconnect :
    EmptyAtReconnect (fun _ _ _ => none) smallClient cleanReconnect := by
  intro es₁ a es₂ h _ c₁ o hrun
  -- CONNECTED is the third event
  obtain _ | ⟨x, _ | ⟨y, _ | ⟨z, _ | ⟨w, t⟩⟩⟩⟩ := es₁
  · simp [cleanReconnect, binaryPiece] at h
  · simp [cleanReconnect] at h
  · have hlen : ((receiver fun _ _ _ => none).run smallClient (cleanReconnect.take 2)).map
        (·.1.recvBufLen) = some 0 := by decide +kernel
    have htake : [x, y] = cleanReconnect.take 2 := by rw [h]; rfl
    rw [← htake, hrun, Option.map_some, Option.some.injEq] at hlen
    exact hlen
  · simp [cleanReconnect, binaryPiece] at h
  · simp [cleanReconnect] at h

theorem calls_fresh_cleanReconnect :
    CallsFresh (fun _ _ _ => none) smallClient cleanReconnect :=
  calls_fresh_of_emptyAtReconnect (fun _ _ _ => none) rfl (by decide) rfl rfl cleanReconnect
    emptyAtReconnect_cleanReconnect

end BoxDoubao
