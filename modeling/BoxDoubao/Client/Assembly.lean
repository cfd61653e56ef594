import BoxDoubao.Client.EventHandler

/-!
# Frames, messages and what the receive path delivers

esp_websocket_client cuts a data frame into pieces and posts one
`WEBSOCKET_EVENT_DATA` per piece, with the position of the piece in the frame
and the length of the frame. `Frame` is a frame with its cutting and
`Frame.events` the events posted for it.

`assembler` is what the receive path is for: it holds the bytes of the frame
in progress and nothing else. `receiver_refines_assembler` connects it to the
handler, whose buffer may grow at any piece. What the handler delivers then
follows by computing with the assembler alone: `receiver_delivers_frames` says
that messages of one frame each are delivered exactly once and in order,
whatever the cutting, the capacity and the other events.
-/

namespace BoxDoubao

open CMemory

/-! ### Frames and their events -/

/-- The bytes of a list of pieces. -/
def joinPieces (pieces : List (Alloc × Bytes)) : Bytes := pieces.flatMap (·.2)

/-- A data frame: its opcode and the pieces it is posted in, each with what
the allocator answers during that event. The client announces the length of a
frame as an `int`. -/
structure Frame where
  opCode : UInt8
  pieces : List (Alloc × Bytes)
  isData : opCode = 0x01 ∨ opCode = 0x02 ∨ opCode = 0x00
  pieces_ne : pieces ≠ []
  piece_ne : ∀ p ∈ pieces, p.2 ≠ []
  fits : (joinPieces pieces).length < 2147483648

namespace Frame

/-- The bytes the frame carries. -/
def payload (f : Frame) : Bytes := joinPieces f.pieces

/-- What the allocator answers while the last piece is handled. -/
def lastAlloc (f : Frame) : Alloc := (f.pieces.getLast f.pieces_ne).1

end Frame

/-- The events of the pieces from offset `offset` on, in a frame of `total`
bytes. -/
def dataEvents (opCode : UInt8) (total : ℕ) : ℕ → List (Alloc × Bytes) → List (Alloc × WsEvent)
  | _, [] => []
  | offset, (a, piece) :: rest =>
    (a, .data ⟨opCode, piece, offset, total⟩) ::
      dataEvents opCode total (offset + piece.length) rest

/-- The events posted for a frame. -/
def Frame.events (f : Frame) : List (Alloc × WsEvent) :=
  dataEvents f.opCode f.payload.length 0 f.pieces

/-- Events of data frames; pings, pongs, closes, connects, disconnects and
errors are the others. -/
def isFrameEvent (i : Alloc × WsEvent) : Bool :=
  match i.2 with
  | .data d => d.isFrame
  | _ => false

/-- What the parser reads a frame as, if it accepts it. -/
def Frame.response (tinfl : Tinfl) (f : Frame) : Option ParsedResponse :=
  (protocolParseResponse tinfl f.lastAlloc.heap f.payload).1.toOption

theorem deliver_eq_toList (tinfl : Tinfl) (heap : Heap) (buf : Bytes) :
    deliver tinfl heap buf = (protocolParseResponse tinfl heap buf).1.toOption.toList := by
  unfold deliver
  cases (protocolParseResponse tinfl heap buf).1 <;> rfl

theorem Frame.isFrame (f : Frame) (piece : Bytes) (offset total : ℕ) :
    (WsData.mk f.opCode piece offset total).isFrame = true := by
  obtain h | h | h := f.isData <;> simp [WsData.isFrame, h]

/-! ### The assembler -/

/-- The receive path without its buffer: the bytes of the frame in progress.
It stops where a frame outgrows the lengths the client can announce. -/
def assembler (tinfl : Tinfl) : Transducer Bytes (Alloc × WsEvent) ParsedResponse where
  step acc i :=
    match i.2 with
    | .data d =>
      if d.isFrame then
        if d.dataPtr = [] then some (acc, [])
        else if acc.length + d.dataPtr.length < 2147483648 then
          if d.complete then some ([], deliver tinfl i.1.heap (acc ++ d.dataPtr))
          else some (acc ++ d.dataPtr, [])
        else none
      else some (acc, [])
    | _ => some (acc, [])

/-- The step lemma: while every reallocation succeeds the handler does what
the assembler does. -/
theorem wsEventHandler_refines {tinfl : Tinfl} {c : DoubaoWsClient} {acc acc' : Bytes}
    {i : Alloc × WsEvent} {calls : List ParsedResponse} (h : Holds c acc)
    (hrealloc : i.1.realloc = true) (hstep : (assembler tinfl).step acc i = some (acc', calls)) :
    ∃ c', wsEventHandler tinfl c i = some (c', calls) ∧ Holds c' acc' := by
  obtain ⟨a, e⟩ := i
  cases e with
  | connected | disconnected | error | other =>
    obtain ⟨rfl, rfl⟩ : acc = acc' ∧ [] = calls := by
      simpa only [assembler, Option.some.injEq, Prod.mk.injEq] using hstep
    -- these events change the connection flags at most
    exact ⟨_, rfl, h.flags _ _ _⟩
  | data d =>
    simp only [assembler] at hstep
    simp only [wsEventHandler]
    by_cases hframe : d.isFrame = true
    · rw [if_pos hframe] at hstep ⊢
      by_cases hnil : d.dataPtr = []
      · rw [if_pos hnil, Option.some.injEq, Prod.mk.injEq] at hstep
        obtain ⟨rfl, rfl⟩ := hstep
        exact ⟨c, by rw [onData, if_pos (List.length_eq_zero_iff.mpr hnil)], h⟩
      · rw [if_neg hnil] at hstep
        by_cases hsize : acc.length + d.dataPtr.length < 2147483648
        · have htotal := onData_total tinfl a h hsize
          obtain ⟨⟨c', calls'⟩, hon⟩ := Option.isSome_iff_exists.mp htotal
          rw [if_pos hsize] at hstep
          obtain ⟨hno, -⟩ | ⟨-, hd, hc', rfl⟩ | ⟨-, hd, hc', rfl⟩ := onData_cases h hnil hon
          · -- no reallocation fails here
            rw [growFails_of_realloc d hrealloc] at hno
            cases hno
          · rw [if_pos hd, Option.some.injEq, Prod.mk.injEq] at hstep
            obtain ⟨rfl, rfl⟩ := hstep
            exact ⟨c', hon, hc'⟩
          · rw [hd, if_neg Bool.false_ne_true, Option.some.injEq, Prod.mk.injEq] at hstep
            obtain ⟨rfl, rfl⟩ := hstep
            exact ⟨c', hon, hc'⟩
        · -- the assembler has stopped
          rw [if_neg hsize] at hstep
          cases hstep
    · rw [if_neg hframe, Option.some.injEq, Prod.mk.injEq] at hstep
      obtain ⟨rfl, rfl⟩ := hstep
      exact ⟨c, by rw [if_neg hframe], h⟩

/-- **The handler refines the assembler** over every history in which
reallocation succeeds. -/
theorem receiver_refines_assembler {tinfl : Tinfl} {c : DoubaoWsClient} {acc acc' : Bytes}
    {es : List (Alloc × WsEvent)} {calls : List ParsedResponse} (h : Holds c acc)
    (hrealloc : ∀ e ∈ es, e.1.realloc = true)
    (hrun : (assembler tinfl).run acc es = some (acc', calls)) :
    ∃ c', (receiver tinfl).run c es = some (c', calls) ∧ Holds c' acc' :=
  Transducer.run_simulates Holds (fun i => i.1.realloc = true)
    (fun _ _ _ _ _ hc hi hs => wsEventHandler_refines hc hi hs) hrealloc h hrun

/-- Events that are not of data frames do not touch the assembler. -/
theorem assembler_filter (tinfl : Tinfl) (acc : Bytes) (es : List (Alloc × WsEvent)) :
    (assembler tinfl).run acc (es.filter isFrameEvent) = (assembler tinfl).run acc es := by
  refine Transducer.run_filter (fun acc i hi => ?_) acc es
  obtain ⟨a, e⟩ := i
  cases e with
  | connected | disconnected | error | other => rfl
  | data d =>
    have hframe : d.isFrame = false := hi
    simp only [assembler, hframe, Bool.false_eq_true, if_false]

/-! ### The assembler on frames -/

@[simp] theorem joinPieces_cons (a : Alloc) (piece : Bytes) (rest : List (Alloc × Bytes)) :
    joinPieces ((a, piece) :: rest) = piece ++ joinPieces rest := rfl

theorem dataEvents_append (opCode : UInt8) (total offset : ℕ) (ps qs : List (Alloc × Bytes)) :
    dataEvents opCode total offset (ps ++ qs) = dataEvents opCode total offset ps ++
      dataEvents opCode total (offset + (joinPieces ps).length) qs := by
  induction ps generalizing offset with
  | nil => rfl
  | cons p ps ih =>
    obtain ⟨a, piece⟩ := p
    rw [joinPieces_cons, List.length_append, ← Nat.add_assoc]
    exact congrArg _ (ih (offset + piece.length))

theorem length_dataEvents (opCode : UInt8) (total offset : ℕ) (ps : List (Alloc × Bytes)) :
    (dataEvents opCode total offset ps).length = ps.length := by
  induction ps generalizing offset with
  | nil => rfl
  | cons p ps ih =>
    obtain ⟨a, piece⟩ := p
    exact congrArg (· + 1) (ih (offset + piece.length))

namespace Frame

variable (f : Frame)

/-- The bytes before the last piece. -/
def front : Bytes := joinPieces f.pieces.dropLast

/-- The last piece. -/
def lastPiece : Bytes := (f.pieces.getLast f.pieces_ne).2

/-- The event that completes the frame. -/
def lastEvent : Alloc × WsEvent :=
  (f.lastAlloc, .data ⟨f.opCode, f.lastPiece, f.front.length, f.payload.length⟩)

/-- The events before it. -/
def frontEvents : List (Alloc × WsEvent) :=
  dataEvents f.opCode f.payload.length 0 f.pieces.dropLast

theorem pieces_eq : f.pieces = f.pieces.dropLast ++ [(f.lastAlloc, f.lastPiece)] :=
  (List.dropLast_append_getLast f.pieces_ne).symm

theorem payload_eq : f.payload = f.front ++ f.lastPiece := by
  unfold payload front
  conv_lhs => rw [f.pieces_eq]
  simp [joinPieces]

theorem events_eq : f.events = f.frontEvents ++ [f.lastEvent] := by
  unfold events frontEvents lastEvent
  conv_lhs => rw [f.pieces_eq]
  rw [dataEvents_append, Nat.zero_add]
  rfl

theorem length_payload_lt : f.payload.length < 2147483648 := f.fits

theorem lastPiece_ne : f.lastPiece ≠ [] := f.piece_ne _ (List.getLast_mem f.pieces_ne)

theorem events_ne : f.events ≠ [] := by
  rw [f.events_eq]
  exact List.append_ne_nil_of_right_ne_nil _ (List.cons_ne_nil _ _)

end Frame

/-- Pieces that do not reach the end of their frame are appended. -/
theorem assembler_run_front (tinfl : Tinfl) (f : Frame) (total : ℕ) (htotal : total < 2147483648)
    (ps : List (Alloc × Bytes)) (hne : ∀ p ∈ ps, p.2 ≠ []) (acc : Bytes)
    (hlt : acc.length + (joinPieces ps).length < total) :
    (assembler tinfl).run acc (dataEvents f.opCode total acc.length ps) =
      some (acc ++ joinPieces ps, []) := by
  induction ps generalizing acc with
  | nil => simp [dataEvents, joinPieces]
  | cons p ps ih =>
    obtain ⟨a, piece⟩ := p
    rw [joinPieces_cons, List.length_append] at hlt
    have hpiece : piece ≠ [] := hne (a, piece) List.mem_cons_self
    -- there are bytes of the frame after this piece
    have hopen : (WsData.mk f.opCode piece acc.length total).complete = false :=
      decide_eq_false (by simp only; omega)
    have hstep : (assembler tinfl).step acc (a, .data ⟨f.opCode, piece, acc.length, total⟩) =
        some (acc ++ piece, []) := by
      simp only [assembler]
      rw [if_pos (f.isFrame piece acc.length total), if_neg hpiece, if_pos (by omega), hopen]
      rfl
    have hrest := ih (fun q hq => hne q (List.mem_cons_of_mem _ hq)) (acc ++ piece)
      (by rw [List.length_append]; omega)
    rw [List.length_append] at hrest
    rw [joinPieces_cons, ← List.append_assoc]
    exact Transducer.run_cons hstep hrest

/-- The last piece delivers what the parser makes of the whole frame. -/
theorem assembler_step_last (tinfl : Tinfl) (f : Frame) :
    (assembler tinfl).step f.front f.lastEvent = some ([], (f.response tinfl).toList) := by
  have hlen : f.front.length + f.lastPiece.length = f.payload.length := by
    rw [f.payload_eq, List.length_append]
  -- the last piece ends where its frame ends
  have hdone : (WsData.mk f.opCode f.lastPiece f.front.length f.payload.length).complete = true :=
    decide_eq_true (le_of_eq hlen.symm)
  simp only [assembler, Frame.lastEvent]
  rw [if_pos (f.isFrame _ _ _), if_neg f.lastPiece_ne, hlen, if_pos f.length_payload_lt,
    if_pos hdone, ← f.payload_eq, deliver_eq_toList]
  rfl

theorem assembler_run_frontEvents (tinfl : Tinfl) (f : Frame) :
    (assembler tinfl).run [] f.frontEvents = some (f.front, []) := by
  have hpos := List.length_pos_iff.mpr f.lastPiece_ne
  refine assembler_run_front tinfl f f.payload.length f.fits f.pieces.dropLast
    (fun p hp => f.piece_ne p (List.dropLast_subset _ hp)) [] ?_
  rw [f.payload_eq, List.length_append, List.length_nil, Nat.zero_add]
  exact Nat.lt_add_of_pos_right hpos

/-- One frame, from the first piece to the last. -/
theorem assembler_run_frame (tinfl : Tinfl) (f : Frame) :
    (assembler tinfl).run [] f.events = some ([], (f.response tinfl).toList) := by
  rw [f.events_eq, ← List.nil_append (f.response tinfl).toList]
  refine Transducer.run_append (assembler_run_frontEvents tinfl f) ?_
  rw [← List.append_nil (f.response tinfl).toList]
  exact Transducer.run_cons (assembler_step_last tinfl f) rfl

/-- A sequence of frames is delivered frame by frame. -/
theorem assembler_run_frames (tinfl : Tinfl) (frames : List Frame) :
    (assembler tinfl).run [] (frames.flatMap Frame.events) =
      some ([], frames.filterMap (Frame.response tinfl)) := by
  induction frames with
  | nil => rfl
  | cons f frames ih =>
    have hout : (f :: frames).filterMap (Frame.response tinfl) =
        (f.response tinfl).toList ++ frames.filterMap (Frame.response tinfl) := by
      cases hr : f.response tinfl with
      | none => exact List.filterMap_cons_none hr
      | some r => exact List.filterMap_cons_some hr
    rw [List.flatMap_cons, hout]
    exact Transducer.run_append (assembler_run_frame tinfl f) ih

/-! ### Messages of one frame -/

/-- **Delivery of single-frame messages.** However the frames are cut, whatever
other events come in between and whatever the capacity of the buffer, the
handler calls `on_recv` once for each message the parser accepts, in order, and
never for one it rejects. In every state on the way the length stays within
the capacity of the buffer, and after each message the buffer is empty and
exactly the messages so far have been delivered. -/
theorem receiver_delivers_frames (tinfl : Tinfl) {c : DoubaoWsClient}
    (hbuf : c.recvBuf.length = c.recvBufCap) (hcap : c.recvBufCap < 4294967296)
    (hempty : c.recvBufLen = 0) (hcb : c.onRecv = true)
    (frames : List Frame)
    (es : List (Alloc × WsEvent)) (hes : es.filter isFrameEvent = frames.flatMap Frame.events)
    (hrealloc : ∀ e ∈ es, e.1.realloc = true) :
    (∃ c', (receiver tinfl).run c es = some (c', frames.filterMap (Frame.response tinfl))) ∧
      ∀ es₁ es₂, es = es₁ ++ es₂ → ∃ c₁ calls, (receiver tinfl).run c es₁ = some (c₁, calls) ∧
        c₁.recvBuf.length = c₁.recvBufCap ∧ c₁.recvBufLen ≤ c₁.recvBufCap ∧
        ∀ k, es₁.filter isFrameEvent = (frames.take k).flatMap Frame.events →
          c₁.recvBufLen = 0 ∧ calls = (frames.take k).filterMap (Frame.response tinfl) := by
  have hholds : Holds c [] := Holds.of_empty hbuf hcap hempty hcb
  have habs : (assembler tinfl).run [] es =
      some ([], frames.filterMap (Frame.response tinfl)) := by
    rw [← assembler_filter, hes]
    exact assembler_run_frames tinfl frames
  constructor
  · obtain ⟨c', hrun, -⟩ := receiver_refines_assembler hholds hrealloc habs
    exact ⟨c', hrun⟩
  · intro es₁ es₂ hsplit
    subst hsplit
    -- the assembler runs over every prefix, and the handler with it
    obtain ⟨acc, calls, hrun₁, -⟩ := Transducer.run_prefix habs
    obtain ⟨c₁, hc₁, hholds₁⟩ := receiver_refines_assembler hholds
      (fun e he => hrealloc e (List.mem_append_left es₂ he)) hrun₁
    refine ⟨c₁, calls, hc₁, hholds₁.length_recvBuf, hholds₁.len_le, fun k hk => ?_⟩
    -- at the end of the k-th message the assembler is empty, so the buffer is
    have hk' := assembler_run_frames tinfl (frames.take k)
    rw [← hk, assembler_filter, hrun₁, Option.some.injEq, Prod.mk.injEq] at hk'
    obtain ⟨rfl, rfl⟩ := hk'
    exact ⟨hholds₁.len_eq, rfl⟩

/-- A client whose buffer holds two bytes. -/
def smallClient : DoubaoWsClient where
  recvBuf := [0, 0]
  recvBufLen := 0
  recvBufCap := 2
  onRecv := true
  connected := false
  bitConnected := false
  bitDisconnected := false

/-- An allocator that serves every request. -/
def Alloc.granting : Alloc where
  realloc := true
  heap := Heap.unlimited

/-- A full response with a two-byte payload, in two pieces. -/
def replyFrame : Frame where
  opCode := 0x02
  pieces := [(Alloc.granting, [0x11, 0x90, 0x10, 0, 0, 0, 0, 0]),
    (Alloc.granting, [0, 0, 0, 2, 97, 98])]
  isData := Or.inr (Or.inl rfl)
  pieces_ne := List.cons_ne_nil _ _
  piece_ne := by decide
  fits := by decide

theorem receiver_delivers_frames_reply :
    ∃ c', (receiver fun _ _ _ => none).run smallClient
        ((Alloc.granting, .connected) :: (replyFrame.events ++ replyFrame.events)) =
      some (c', [replyFrame, replyFrame].filterMap (Frame.response fun _ _ _ => none)) :=
  (receiver_delivers_frames (fun _ _ _ => none) rfl (by decide) rfl rfl
    [replyFrame, replyFrame] _ rfl (by decide)).1

end BoxDoubao
