import BoxDoubao.Client.Assembly

/-!
# Messages that could not be buffered

When the receive buffer cannot grow, the handler drops what it holds and leaves
the event. It does not remember that the frame is still being received: the
pieces behind the one that was refused are appended to the empty buffer, and at
the end of the frame they are parsed like a message.

`Attempt` is a frame with what became of each of its pieces, and
`Attempt.kept` what the buffer holds at its end. `receiver_run_attempt` follows
one frame from an empty buffer to an empty buffer, for every pattern of refused
reallocations; the whole run is the concatenation of its frames.
`receiver_discards_iff` says when the handler drops a message whole: exactly
when the parser rejects the pieces behind the last one that was refused.
-/

namespace BoxDoubao

open CMemory

/-! ### What becomes of a frame -/

/-- `heap_caps_realloc` fails while the event is handled. -/
def DoubaoWsClient.reallocFails (c : DoubaoWsClient) (i : Alloc × WsEvent) : Bool :=
  match i.2 with
  | .data d => d.isFrame && !d.dataPtr.isEmpty && c.growFails i.1 d
  | _ => false

/-- A frame with, for each of its pieces, whether the reallocation for it
failed. -/
structure Attempt where
  frame : Frame
  failures : List Bool

/-- The frames of a run with what became of them. -/
def attempts (tinfl : Tinfl) : DoubaoWsClient → List Frame → List Attempt
  | _, [] => []
  | c, f :: fs =>
    ⟨f, (receiver tinfl).observe DoubaoWsClient.reallocFails c f.events⟩ ::
      match (receiver tinfl).run c f.events with
      | none => []
      | some (c', _) => attempts tinfl c' fs

/-- What is left of `acc` and the pieces after it when each refused piece is
dropped with everything before it. -/
def keptFrom : Bytes → List ((Alloc × Bytes) × Bool) → Bytes
  | acc, [] => acc
  | _, (_, true) :: rest => keptFrom [] rest
  | acc, (p, false) :: rest => keptFrom (acc ++ p.2) rest

namespace Attempt

variable (tinfl : Tinfl) (x : Attempt)

/-- The pieces behind the last one that was refused, all pieces if none was. -/
def kept : Bytes := keptFrom [] (x.frame.pieces.zip x.failures)

/-- What should be delivered: nothing of a message that could not be
buffered. -/
def expected : Option ParsedResponse :=
  if true ∈ x.failures then none else x.frame.response tinfl

/-- What the parser reads the kept pieces as. -/
def keptResponse : Option ParsedResponse :=
  (protocolParseResponse tinfl x.frame.lastAlloc.heap x.kept).1.toOption

end Attempt

/-! ### One piece -/

theorem keptFrom_append (acc : Bytes) (ps qs : List ((Alloc × Bytes) × Bool)) :
    keptFrom acc (ps ++ qs) = keptFrom (keptFrom acc ps) qs := by
  induction ps generalizing acc with
  | nil => rfl
  | cons p ps ih =>
    obtain ⟨p, failed⟩ := p
    cases failed with
    | true => exact ih []
    | false => exact ih (acc ++ p.2)

/-- Where nothing was refused everything is kept. -/
theorem keptFrom_of_notMem {ps : List (Alloc × Bytes)} {failures : List Bool}
    (hlen : failures.length = ps.length) (hno : true ∉ failures) (acc : Bytes) :
    keptFrom acc (ps.zip failures) = acc ++ joinPieces ps := by
  induction ps generalizing failures acc with
  | nil => exact (List.append_nil acc).symm
  | cons p ps ih =>
    obtain ⟨a, piece⟩ := p
    cases failures with
    | nil => exact absurd hlen (by simp)
    | cons failed failures =>
      rw [List.mem_cons, not_or] at hno
      obtain rfl : failed = false := Bool.eq_false_iff.mpr fun h => hno.1 h.symm
      rw [joinPieces_cons, ← List.append_assoc]
      exact ih (Nat.succ.inj hlen) hno.2 (acc ++ piece)

theorem length_keptFrom_le (acc : Bytes) (ps : List (Alloc × Bytes)) (failures : List Bool) :
    (keptFrom acc (ps.zip failures)).length ≤ acc.length + (joinPieces ps).length := by
  induction ps generalizing failures acc with
  | nil => exact Nat.le_add_right _ _
  | cons p ps ih =>
    obtain ⟨a, piece⟩ := p
    rw [joinPieces_cons, List.length_append]
    cases failures with
    | nil => exact Nat.le_add_right _ _
    | cons failed failures =>
      cases failed with
      | true =>
        refine le_trans (ih [] failures) ?_
        rw [List.length_nil]
        omega
      | false =>
        have hrest := ih (acc ++ piece) failures
        rw [List.length_append, Nat.add_assoc] at hrest
        exact hrest

/-- The parser rejects the empty buffer. -/
theorem deliver_nil (tinfl : Tinfl) (heap : Heap) : deliver tinfl heap [] = [] := rfl

section Piece

variable (tinfl : Tinfl) {c : DoubaoWsClient} {acc : Bytes} (f : Frame)

theorem reallocFails_piece (c : DoubaoWsClient) (a : Alloc) {piece : Bytes} (hne : piece ≠ [])
    (offset total : ℕ) : c.reallocFails (a, .data ⟨f.opCode, piece, offset, total⟩) =
      c.growFails a ⟨f.opCode, piece, offset, total⟩ := by
  simp only [DoubaoWsClient.reallocFails, f.isFrame, Bool.true_and,
    List.isEmpty_eq_false_iff.mpr hne, Bool.not_false]

/-- The step lemma: one piece, refused or not, that does or does not reach the
end of its frame. -/
theorem wsEventHandler_piece (h : Holds c acc) (a : Alloc) {piece : Bytes} (hne : piece ≠ [])
    (offset total : ℕ) (hsize : acc.length + piece.length < 2147483648)
    {acc' : Bytes} (hacc' : acc' = keptFrom acc
      [((a, piece), c.reallocFails (a, .data ⟨f.opCode, piece, offset, total⟩))]) :
    ∃ c' calls,
      (receiver tinfl).step c (a, .data ⟨f.opCode, piece, offset, total⟩) = some (c', calls) ∧
      (offset + piece.length ≥ total ∧ Holds c' [] ∧ calls = deliver tinfl a.heap acc' ∨
        offset + piece.length < total ∧ Holds c' acc' ∧ calls = []) := by
  have hframe := f.isFrame piece offset total
  obtain ⟨⟨c', calls⟩, hon⟩ := Option.isSome_iff_exists.mp (onData_total tinfl a
    (d := ⟨f.opCode, piece, offset, total⟩) h hsize)
  rw [reallocFails_piece f c a hne] at hacc'
  refine ⟨c', calls, (if_pos hframe).trans hon, ?_⟩
  obtain ⟨hfail, hc', rfl⟩ | ⟨hfail, hd, hc', rfl⟩ | ⟨hfail, hd, hc', rfl⟩ :=
    onData_cases h hne hon
  · -- refused: the buffer is empty, and nothing is delivered at the end of the frame either
    rw [hfail] at hacc'
    subst hacc'
    obtain hend | hopen := Nat.lt_or_ge (offset + piece.length) total
    · exact Or.inr ⟨hend, hc', rfl⟩
    · exact Or.inl ⟨hopen, hc', (deliver_nil tinfl a.heap).symm⟩
  · rw [hfail] at hacc'
    subst hacc'
    exact Or.inl ⟨of_decide_eq_true hd, hc', rfl⟩
  · rw [hfail] at hacc'
    subst hacc'
    exact Or.inr ⟨not_le.mp (of_decide_eq_false hd), hc', rfl⟩

/-- The pieces before the last one. -/
theorem receiver_run_open {total : ℕ} (htotal : total < 2147483648) (ps : List (Alloc × Bytes))
    (hne : ∀ p ∈ ps, p.2 ≠ []) (h : Holds c acc) (offset : ℕ) (hacc : acc.length ≤ offset)
    (hopen : offset + (joinPieces ps).length < total) :
    ∃ c', (receiver tinfl).run c (dataEvents f.opCode total offset ps) = some (c', []) ∧
      Holds c' (keptFrom acc (ps.zip ((receiver tinfl).observe DoubaoWsClient.reallocFails c
        (dataEvents f.opCode total offset ps)))) := by
  induction ps generalizing c acc offset with
  | nil => exact ⟨c, rfl, h⟩
  | cons p ps ih =>
    obtain ⟨a, piece⟩ := p
    have hpiece : piece ≠ [] := hne (a, piece) List.mem_cons_self
    rw [joinPieces_cons, List.length_append] at hopen
    obtain ⟨c₁, calls, hstep, hcase⟩ := wsEventHandler_piece tinfl f h a hpiece
      offset total (by omega) rfl
    obtain ⟨hend, -, -⟩ | ⟨-, h₁, rfl⟩ := hcase
    · exact absurd hend (by omega)
    · -- what is kept is never longer than what was received of the frame
      have hacc₁ := length_keptFrom_le acc [(a, piece)]
        [c.reallocFails (a, .data ⟨f.opCode, piece, offset, total⟩)]
      rw [joinPieces_cons, List.length_append] at hacc₁
      obtain ⟨c', hrun, h'⟩ := ih (fun q hq => hne q (List.mem_cons_of_mem _ hq)) h₁
        (offset + piece.length) (le_trans hacc₁ (Nat.add_le_add_right hacc _)) (by omega)
      refine ⟨c', Transducer.run_cons hstep hrun, ?_⟩
      simp only [dataEvents]
      rw [Transducer.observe_cons hstep, List.zip_cons_cons, ← List.singleton_append,
        keptFrom_append]
      exact h'

/-! ### One frame and all frames -/

/-- The kept pieces of a frame, with the last piece set apart. -/
theorem kept_eq {c₁ c' : DoubaoWsClient} {calls : List ParsedResponse}
    (hfront : (receiver tinfl).run c f.frontEvents = some (c₁, []))
    (hlast : (receiver tinfl).step c₁ f.lastEvent = some (c', calls)) :
    (Attempt.mk f ((receiver tinfl).observe DoubaoWsClient.reallocFails c f.events)).kept =
      keptFrom (keptFrom [] (f.pieces.dropLast.zip
          ((receiver tinfl).observe DoubaoWsClient.reallocFails c f.frontEvents)))
        [((f.lastAlloc, f.lastPiece), c₁.reallocFails f.lastEvent)] := by
  have hlen : f.pieces.dropLast.length =
      ((receiver tinfl).observe DoubaoWsClient.reallocFails c f.frontEvents).length := by
    rw [Transducer.length_observe hfront, Frame.frontEvents, length_dataEvents]
  unfold Attempt.kept
  simp only
  rw [f.events_eq, Transducer.observe_append hfront, Transducer.observe_cons hlast]
  conv_lhs => rw [f.pieces_eq, List.zip_append hlen]
  exact keptFrom_append _ _ _

/-- One frame from an empty buffer to an empty buffer: what is delivered is
what the parser makes of the kept pieces. -/
theorem receiver_run_attempt (h : Holds c []) :
    ∃ c', (receiver tinfl).run c f.events = some (c',
        (Attempt.keptResponse tinfl ⟨f, (receiver tinfl).observe DoubaoWsClient.reallocFails c
          f.events⟩).toList) ∧ Holds c' [] := by
  have hlen : f.front.length + f.lastPiece.length = f.payload.length := by
    rw [f.payload_eq, List.length_append]
  have hpos := List.length_pos_iff.mpr f.lastPiece_ne
  obtain ⟨c₁, hfront, h₁⟩ := receiver_run_open tinfl f f.length_payload_lt
    f.pieces.dropLast (fun p hp => f.piece_ne p (List.dropLast_subset _ hp)) h 0
    (Nat.zero_le _) (by rw [Nat.zero_add]; exact hlen ▸ Nat.lt_add_of_pos_right hpos)
  have hkept := length_keptFrom_le [] f.pieces.dropLast
    ((receiver tinfl).observe DoubaoWsClient.reallocFails c f.frontEvents)
  rw [List.length_nil, Nat.zero_add] at hkept
  obtain ⟨c', calls, hlast, hcase⟩ := wsEventHandler_piece tinfl f h₁ f.lastAlloc
    f.lastPiece_ne f.front.length f.payload.length
    (lt_of_le_of_lt (Nat.add_le_add_right hkept _) (hlen ▸ f.length_payload_lt)) rfl
  obtain ⟨-, hc', hcalls⟩ | ⟨hopen, -⟩ := hcase
  · have hrun : (receiver tinfl).run c f.events = some (c', [] ++ (calls ++ [])) := by
      rw [f.events_eq]
      exact Transducer.run_append hfront (Transducer.run_cons hlast rfl)
    refine ⟨c', ?_, hc'⟩
    rw [hrun, hcalls, deliver_eq_toList, List.append_nil, List.nil_append, Attempt.keptResponse,
      kept_eq tinfl f hfront hlast]
    rfl
  · exact absurd hopen (not_lt.mpr hlen.ge)

end Piece

/-- Where no reallocation failed, the kept pieces are the frame. -/
theorem Attempt.keptResponse_of_notMem (tinfl : Tinfl) {x : Attempt}
    (hlen : x.failures.length = x.frame.pieces.length) (hno : true ∉ x.failures) :
    x.keptResponse tinfl = x.frame.response tinfl := by
  unfold keptResponse kept
  rw [keptFrom_of_notMem hlen hno, List.nil_append]
  rfl

/-- The run lemma: from an empty buffer the handler goes through all frames and
delivers what the parser makes of the kept pieces of each. -/
theorem receiver_run_attempts (tinfl : Tinfl) {c : DoubaoWsClient} (h : Holds c [])
    (frames : List Frame) :
    (∃ c', (receiver tinfl).run c (frames.flatMap Frame.events) =
        some (c', (attempts tinfl c frames).filterMap (Attempt.keptResponse tinfl))) ∧
      ∀ x ∈ attempts tinfl c frames, x.failures.length = x.frame.pieces.length := by
  induction frames generalizing c with
  | nil => exact ⟨⟨c, rfl⟩, fun x hx => absurd hx List.not_mem_nil⟩
  | cons f frames ih =>
    obtain ⟨c₁, hrun, h₁⟩ := receiver_run_attempt tinfl f h
    -- the next frame finds an empty buffer again
    obtain ⟨⟨c', hrest⟩, hlens⟩ := ih h₁
    have hattempts : attempts tinfl c (f :: frames) =
        ⟨f, (receiver tinfl).observe DoubaoWsClient.reallocFails c f.events⟩ ::
          attempts tinfl c₁ frames := by
      simp only [attempts, hrun]
    rw [hattempts, List.flatMap_cons]
    constructor
    · refine ⟨c', ?_⟩
      rw [Transducer.run_append hrun hrest]
      cases hk : Attempt.keptResponse tinfl
          ⟨f, (receiver tinfl).observe DoubaoWsClient.reallocFails c f.events⟩ with
      | none => rw [List.filterMap_cons_none hk]; rfl
      | some r => rw [List.filterMap_cons_some hk]; rfl
    · intro x hx
      obtain rfl | hx := List.mem_cons.mp hx
      · change ((receiver tinfl).observe DoubaoWsClient.reallocFails c f.events).length = _
        rw [Transducer.length_observe hrun, Frame.events, length_dataEvents]
      · exact hlens x hx

/-! ### Which messages are delivered -/

section Selections

variable {α β : Type*} {f g : α → Option β} {l : List α}

/-- A selection that takes some of the elements another one takes is not
longer. -/
theorem length_filterMap_le (hfg : ∀ x ∈ l, g x = none ∨ g x = f x) :
    (l.filterMap g).length ≤ (l.filterMap f).length := by
  induction l with
  | nil => exact le_rfl
  | cons x l ih =>
    have hrest := ih fun y hy => hfg y (List.mem_cons_of_mem x hy)
    rw [List.filterMap_cons, List.filterMap_cons]
    obtain hx | hx := hfg x List.mem_cons_self
    · rw [hx]
      cases f x with
      | none => exact hrest
      | some y => exact le_trans hrest (Nat.le_succ _)
    · rw [hx]
      cases f x with
      | none => exact hrest
      | some y => exact Nat.succ_le_succ hrest

/-- Two selections from a list, one of which takes some of the elements that
the other takes, give the same list only if they take the same elements. -/
theorem filterMap_eq_filterMap_iff (hfg : ∀ x ∈ l, g x = none ∨ g x = f x) :
    l.filterMap f = l.filterMap g ↔ ∀ x ∈ l, g x = f x := by
  constructor
  · intro heq
    induction l with
    | nil => exact fun x hx => absurd hx List.not_mem_nil
    | cons x l ih =>
      have hrest : ∀ y ∈ l, g y = none ∨ g y = f y :=
        fun y hy => hfg y (List.mem_cons_of_mem x hy)
      -- an element that only `f` takes would make its list longer
      have hx : g x = f x := by
        obtain hx | hx := hfg x List.mem_cons_self
        · cases hf : f x with
          | none => exact hx
          | some y =>
            have hlen := congrArg List.length heq
            rw [List.filterMap_cons_some hf, List.filterMap_cons_none hx, List.length_cons]
              at hlen
            have hle := length_filterMap_le hrest
            omega
        · exact hx
      intro y hy
      obtain rfl | hy := List.mem_cons.mp hy
      · exact hx
      · refine ih hrest ?_ y hy
        rw [List.filterMap_cons, List.filterMap_cons, hx] at heq
        cases hf : f x with
        | none => rwa [hf] at heq
        | some z =>
          rw [hf] at heq
          exact List.tail_eq_of_cons_eq heq
  · exact fun h => List.filterMap_congr fun x hx => (h x hx).symm

end Selections

/-- **When a message that could not be buffered is dropped whole.** For every
sequence of single-frame messages, every cutting and every pattern of failed
reallocations: the handler delivers exactly the messages for which no
reallocation failed, in order, if and only if the parser rejects the pieces
behind the last refused piece of each of the others. -/
theorem receiver_discards_iff (tinfl : Tinfl) {c : DoubaoWsClient}
    (hbuf : c.recvBuf.length = c.recvBufCap) (hcap : c.recvBufCap < 4294967296)
    (hempty : c.recvBufLen = 0) (hcb : c.onRecv = true) (frames : List Frame) :
    ∃ c' calls, (receiver tinfl).run c (frames.flatMap Frame.events) = some (c', calls) ∧
      (calls = (attempts tinfl c frames).filterMap (Attempt.expected tinfl) ↔
        ∀ x ∈ attempts tinfl c frames, true ∈ x.failures → x.keptResponse tinfl = none) := by
  obtain ⟨⟨c', hrun⟩, hlens⟩ :=
    receiver_run_attempts tinfl (Holds.of_empty hbuf hcap hempty hcb) frames
  have hexpected : ∀ x ∈ attempts tinfl c frames, x.expected tinfl = none ∨
      x.expected tinfl = x.keptResponse tinfl := by
    intro x hx
    by_cases hfail : true ∈ x.failures
    · exact Or.inl (if_pos hfail)
    · rw [x.keptResponse_of_notMem tinfl (hlens x hx) hfail]
      exact Or.inr (if_neg hfail)
  refine ⟨c', _, hrun, (filterMap_eq_filterMap_iff hexpected).trans (forall₂_congr ?_)⟩
  intro x hx
  unfold Attempt.expected
  by_cases hfail : true ∈ x.failures
  · rw [if_pos hfail]
    exact ⟨fun h _ => h.symm, fun h => (h hfail).symm⟩
  · rw [if_neg hfail, x.keptResponse_of_notMem tinfl (hlens x hx) hfail]
    exact ⟨fun _ h => absurd h hfail, fun _ => rfl⟩

/-! ### A tail that is delivered -/

/-- A piece that fits and does not complete its frame. -/
theorem onData_stored (tinfl : Tinfl) (a : Alloc) {d : WsData} {c : DoubaoWsClient} {acc : Bytes}
    (h : Holds c acc) (hne : d.dataPtr ≠ [])
    (hfit : c.recvBufLen + d.dataPtr.length ≤ c.recvBufCap) (hd : d.complete = false) :
    onData tinfl a d c = some ({ c with
      recvBuf := splice c.recvBuf c.recvBufLen d.dataPtr
      recvBufLen := c.recvBufLen + d.dataPtr.length }, []) := by
  have hin : c.recvBufLen + d.dataPtr.length ≤ c.recvBuf.length := by
    rw [h.length_recvBuf]
    exact hfit
  have hsz : sz (c.recvBufLen + d.dataPtr.length) = c.recvBufLen + d.dataPtr.length :=
    sz_of_lt (lt_of_le_of_lt hfit h.cap_lt)
  unfold onData
  rw [if_neg (mt List.length_eq_zero_iff.mp hne), hsz, reserve, if_neg (not_lt.mpr hfit)]
  simp only [memcpy_of_le hin, hd, Bool.false_eq_true, if_false, hsz]

/-- A piece that is refused. -/
theorem onData_refused (tinfl : Tinfl) {a : Alloc} {d : WsData} {c : DoubaoWsClient}
    (hne : d.dataPtr ≠ []) (hfail : c.growFails a d = true) :
    onData tinfl a d c = some ({ c with recvBufLen := 0 }, []) := by
  unfold onData
  rw [if_neg (mt List.length_eq_zero_iff.mp hne), Option.isNone_iff_eq_none.mp hfail]

/-- A message whose first piece fills the buffer and whose second piece is
refused: the third piece is taken. -/
theorem failures_of_full (tinfl : Tinfl) {c : DoubaoWsClient} (h : Holds c []) {f : Frame}
    {a₁ a₂ a₃ : Alloc} {p₁ p₂ p₃ : Bytes} (hf : f.pieces = [(a₁, p₁), (a₂, p₂), (a₃, p₃)])
    (hfull : p₁.length = c.recvBufCap) (ha₂ : a₂.realloc = false)
    (hp₃ : p₃.length ≤ c.recvBufCap) :
    (receiver tinfl).observe DoubaoWsClient.reallocFails c f.events = [false, true, false] := by
  have hne₁ : p₁ ≠ [] := f.piece_ne (a₁, p₁) (by rw [hf]; exact List.mem_cons_self)
  have hne₂ : p₂ ≠ [] := f.piece_ne (a₂, p₂) (by rw [hf]; simp)
  have hne₃ : p₃ ≠ [] := f.piece_ne (a₃, p₃) (by rw [hf]; simp)
  have hpos₂ := List.length_pos_iff.mpr hne₂
  have hempty : c.recvBufLen = 0 := h.len_eq
  have htotal : f.payload.length = p₁.length + (p₂.length + p₃.length) := by
    simp [Frame.payload, hf, joinPieces]
  have hlt := f.length_payload_lt
  -- the client after the first piece, and after the second
  obtain ⟨c₁, hc₁⟩ : ∃ c₁, c₁ = { c with
    recvBuf := splice c.recvBuf c.recvBufLen p₁
    recvBufLen := c.recvBufLen + p₁.length } := ⟨_, rfl⟩
  have hlen₁ : c₁.recvBufLen = p₁.length := by
    rw [hc₁, hempty, Nat.zero_add]
  have hcap₁ : c₁.recvBufCap = p₁.length := by
    rw [hc₁, hfull]
  have hstep₁ : (receiver tinfl).step c
      (a₁, .data ⟨f.opCode, p₁, 0, f.payload.length⟩) = some (c₁, []) := by
    rw [hc₁]
    refine (if_pos (f.isFrame p₁ 0 f.payload.length)).trans (onData_stored tinfl a₁ h hne₁ ?_ ?_)
    · change c.recvBufLen + p₁.length ≤ c.recvBufCap
      omega
    · exact decide_eq_false (by simp only; omega)
  have hfail₂ : c₁.growFails a₂ ⟨f.opCode, p₂, p₁.length, f.payload.length⟩ = true := by
    rw [growFails_eq, ha₂, hlen₁, hcap₁, sz_of_lt (by simp only; omega)]
    simpa using hpos₂
  have hstep₂ : (receiver tinfl).step c₁ (a₂, .data ⟨f.opCode, p₂, p₁.length, f.payload.length⟩) =
      some ({ c₁ with recvBufLen := 0 }, []) :=
    (if_pos (f.isFrame p₂ p₁.length f.payload.length)).trans (onData_refused tinfl hne₂ hfail₂)
  have hfits₁ : c.growFails a₁ ⟨f.opCode, p₁, 0, f.payload.length⟩ = false := by
    rw [growFails_eq, hempty, Nat.zero_add, sz_of_lt (by simp only; omega), hfull]
    simp
  have hfits₃ : ({ c₁ with recvBufLen := 0 } : DoubaoWsClient).growFails a₃
      ⟨f.opCode, p₃, p₁.length + p₂.length, f.payload.length⟩ = false := by
    rw [growFails_eq, Nat.zero_add, sz_of_lt (by simp only; omega), hcap₁, hfull,
      decide_eq_false (not_lt.mpr hp₃), Bool.false_and]
  rw [Frame.events, hf]
  simp only [dataEvents, Nat.zero_add]
  rw [Transducer.observe_cons hstep₁, Transducer.observe_cons hstep₂,
    Transducer.observe_singleton, reallocFails_piece f c a₁ hne₁, hfits₁,
    reallocFails_piece f c₁ a₂ hne₂, hfail₂, reallocFails_piece f _ a₃ hne₃, hfits₃]

theorem attempts_singleton (tinfl : Tinfl) (c : DoubaoWsClient) (f : Frame) :
    attempts tinfl c [f] =
      [⟨f, (receiver tinfl).observe DoubaoWsClient.reallocFails c f.events⟩] := by
  simp only [attempts]
  cases (receiver tinfl).run c f.events <;> rfl

/-- Bytes the parser reads as a response. -/
def replyBytes : Bytes := [0x11, 0x90, 0x10, 0, 0, 0, 0, 0, 0, 0, 0, 2, 97, 98]

theorem isSome_parse_replyBytes : (protocolParseResponse (fun _ _ _ => none) Heap.unlimited
    replyBytes).1.toOption.isSome = true := by
  decide

theorem lostFrame_pieces : ∀ p ∈ [(Alloc.granting, List.replicate recvBufInitSize (0 : UInt8)),
    (⟨false, Heap.unlimited⟩, [0]), (Alloc.granting, replyBytes)], p.2 ≠ [] := by
  intro p hp
  simp only [List.mem_cons, List.not_mem_nil, or_false] at hp
  obtain rfl | rfl | rfl := hp
  · exact List.ne_nil_of_length_pos (by rw [List.length_replicate]; decide)
  · exact List.cons_ne_nil _ _
  · exact List.cons_ne_nil _ _

theorem lostFrame_fits : (joinPieces [(Alloc.granting, List.replicate recvBufInitSize 0),
    (⟨false, Heap.unlimited⟩, [0]), (Alloc.granting, replyBytes)]).length < 2147483648 := by
  simp only [joinPieces_cons, List.length_append, List.length_replicate]
  decide

theorem isData_binary : (0x02 : UInt8) = 0x01 ∨ (0x02 : UInt8) = 0x02 ∨ (0x02 : UInt8) = 0x00 :=
  Or.inr (Or.inl rfl)

/-- A message that has filled the buffer when its second piece is refused, and
whose third piece reads as a response of its own. -/
def lostFrame : Frame where
  opCode := 0x02
  pieces := [(Alloc.granting, List.replicate recvBufInitSize 0),
    (⟨false, Heap.unlimited⟩, [0]), (Alloc.granting, replyBytes)]
  isData := isData_binary
  pieces_ne := List.cons_ne_nil _ _
  piece_ne := lostFrame_pieces
  fits := lostFrame_fits

/-- The end of a message that could not be buffered is delivered as a
message. -/
theorem lostFrame_delivered : ¬ ∃ c' calls,
    (receiver fun _ _ _ => none).run DoubaoWsClient.init
        ([lostFrame].flatMap Frame.events) = some (c', calls) ∧
      calls = (attempts (fun _ _ _ => none) DoubaoWsClient.init [lostFrame]).filterMap
        (Attempt.expected fun _ _ _ => none) := by
  rintro ⟨c', calls, hrun, hcalls⟩
  obtain ⟨⟨c₁, hrun₁⟩, -⟩ := receiver_run_attempts (fun _ _ _ => none) Holds.init [lostFrame]
  rw [hrun₁, Option.some.injEq, Prod.mk.injEq] at hrun
  have hattempts : attempts (fun _ _ _ => none) DoubaoWsClient.init [lostFrame] =
      [⟨lostFrame, [false, true, false]⟩] := by
    rw [attempts_singleton, failures_of_full (fun _ _ _ => none) Holds.init (f := lostFrame) rfl
      List.length_replicate rfl (by decide)]
  -- the pieces behind the refused one are `replyBytes`
  obtain ⟨r, hr⟩ := Option.isSome_iff_exists.mp isSome_parse_replyBytes
  have hkept : Attempt.keptResponse (fun _ _ _ => none) ⟨lostFrame, [false, true, false]⟩ =
      some r := hr
  rw [← hrun.2, hattempts, List.filterMap_cons_some hkept] at hcalls
  cases hcalls

theorem receiver_discards_iff_lostFrame : ∃ c' calls,
    (receiver fun _ _ _ => none).run DoubaoWsClient.init
        ([lostFrame, replyFrame].flatMap Frame.events) = some (c', calls) ∧
      (calls = (attempts (fun _ _ _ => none) DoubaoWsClient.init
          [lostFrame, replyFrame]).filterMap (Attempt.expected fun _ _ _ => none) ↔
        ∀ x ∈ attempts (fun _ _ _ => none) DoubaoWsClient.init [lostFrame, replyFrame],
          true ∈ x.failures → x.keptResponse (fun _ _ _ => none) = none) :=
  receiver_discards_iff (fun _ _ _ => none) List.length_replicate (by decide) rfl rfl
    [lostFrame, replyFrame]

end BoxDoubao
