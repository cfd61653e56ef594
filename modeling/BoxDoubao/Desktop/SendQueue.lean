import BoxDoubao.Lib.RingBuffer
import BoxDoubao.Lib.Blocks
import BoxDoubao.Lib.Machine

/-!
# The send queue of the desktop client

Any number of threads put messages into a ring of 64 slots with
`client_send_raw`; the thread that runs libwebsockets takes them out in the
WRITEABLE callback. Both do so under one mutex, so a critical section is one
step. A producer asks for the callback after it has left the critical section,
which is a step of its own.

A message is the pair of bytes and length that `client_send_raw` is given. What
it is made of plays no part, so its type is a parameter. A slot holds the
pointer to the copy of a message, or `NULL`; the copies are `Blocks`.

`Holding` ties the ring and the copies to the messages accepted so far and the
number of copies given back. Each operation has one lemma about it.
-/

namespace BoxDoubao

open CMemory

namespace Desktop

def clientSendQueueSize : ℕ := 64

/-- `doubao_client_t`, as far as sending goes. `wsi` says whether the pointer
is set. -/
structure DoubaoClient where
  sendQueue : RingBuffer (Option ℕ)
  wsi : Bool
  connected : Bool
  running : Bool

/-- `client_init`. -/
def clientInit : DoubaoClient where
  sendQueue := ⟨List.replicate clientSendQueueSize none, 0, 0⟩
  wsi := false
  connected := false
  running := true

/-! ### Accesses -/

/-- `send_queue[i].data`. -/
def loadSlot (q : RingBuffer (Option ℕ)) (i : ℕ) : Except Stop (Option ℕ) :=
  match q.slots[i]? with
  | some data => .ok data
  | none => .error .outOfBounds

/-- `send_queue[i].data = data`. -/
def storeSlot (q : RingBuffer (Option ℕ)) (i : ℕ) (data : Option ℕ) :
    Except Stop (RingBuffer (Option ℕ)) :=
  if i < q.slots.length then .ok (q.store i data) else .error .outOfBounds

section Operations

variable {μ : Type}

/-- The message behind the pointer. -/
def loadMessage (blocks : Blocks μ) (data : Option ℕ) : Except Stop μ :=
  match data with
  | some k => blocks.get k
  | none => .error .outOfBounds

/-- `free`, which ignores `NULL`. -/
def freeMessage (blocks : Blocks μ) (data : Option ℕ) : Except Stop (Blocks μ) :=
  match data with
  | some k => blocks.free k
  | none => .ok blocks

/-! ### The client -/

/-- The critical section of `client_send_raw` and its result; `granted` is
whether `malloc` succeeds. -/
def clientSendRaw (c : DoubaoClient) (blocks : Blocks μ) (msg : μ) (granted : Bool) :
    Except Stop (DoubaoClient × Blocks μ × ℤ) :=
  let nextTail := (c.sendQueue.tail + 1) % clientSendQueueSize
  if nextTail = c.sendQueue.head then .ok (c, blocks, -1)
  else if granted = false then .ok (c, blocks, -1)
  else do
    let (copy, blocks) := blocks.alloc msg
    let q ← storeSlot c.sendQueue c.sendQueue.tail (some copy)
    return ({ c with sendQueue := { q with tail := nextTail } }, blocks, 0)

/-- What the WRITEABLE callback leaves: the message given to `lws_write` and
the pointer freed, whether another callback is asked for, and the result. -/
structure WriteResult (μ : Type) where
  client : DoubaoClient
  blocks : Blocks μ
  sent : Option (μ × ℕ)
  request : Bool
  ret : ℤ

/-- `LWS_CALLBACK_CLIENT_WRITEABLE`; `wrote` is whether `lws_write` succeeds. -/
def clientWriteable (c : DoubaoClient) (blocks : Blocks μ) (wrote : Bool) :
    Except Stop (WriteResult μ) :=
  if c.sendQueue.head ≠ c.sendQueue.tail then do
    let data ← loadSlot c.sendQueue c.sendQueue.head
    let msg ← loadMessage blocks data
    let blocks ← freeMessage blocks data
    let q ← storeSlot c.sendQueue c.sendQueue.head none
    let q := { q with head := (q.head + 1) % clientSendQueueSize }
    let c := { c with sendQueue := q }
    let sent := data.map (fun k => (msg, k))
    if wrote = false then return ⟨c, blocks, sent, false, -1⟩
    else return ⟨c, blocks, sent, decide (q.head ≠ q.tail), 0⟩
  else .ok ⟨c, blocks, none, false, 0⟩

/-- The loop of `client_destroy`, with what it has freed. -/
def freeRemaining (fuel : ℕ) (q : RingBuffer (Option ℕ)) (blocks : Blocks μ) (freed : List ℕ) :
    Except Stop (RingBuffer (Option ℕ) × Blocks μ × List ℕ) :=
  match fuel with
  | 0 => .ok (q, blocks, freed)
  | fuel + 1 =>
    if q.head ≠ q.tail then do
      let data ← loadSlot q q.head
      let blocks ← freeMessage blocks data
      freeRemaining fuel { q with head := (q.head + 1) % clientSendQueueSize } blocks
        (freed ++ data.toList)
    else .ok (q, blocks, freed)

/-- The element behind a prefix may be added to it. -/
theorem prefix_snoc {first all : List μ} {m : μ} (hpre : first <+: all)
    (hm : all[first.length]? = some m) : first ++ [m] <+: all := by
  obtain ⟨rest, rfl⟩ := hpre
  rw [List.getElem?_append_right le_rfl, Nat.sub_self] at hm
  rw [List.prefix_append_right_inj]
  cases rest with
  | nil => cases hm
  | cons next rest =>
    obtain rfl := Option.some.inj hm
    exact ⟨rest, rfl⟩

/-! ### What the ring holds -/

/-- The ring holds the copies of the messages accepted and not yet given back,
in order; a pointer left in another slot is that of a copy given back. -/
structure Holding (q : RingBuffer (Option ℕ)) (blocks : Blocks μ) (freed : ℕ) (accepted : List μ) :
    Prop where
  size : q.slots.length = clientSendQueueSize
  bounded : q.Bounded
  le : freed ≤ accepted.length
  contents : q.contents =
    (List.range' freed (accepted.length - freed)).map (fun k => some (some k))
  stale : ∀ i k, q.slots[i]? = some (some k) → ¬ q.Holds i → k < freed
  blocks : blocks = Blocks.fifo freed accepted

variable {q : RingBuffer (Option ℕ)} {blocks : Blocks μ} {freed : ℕ} {accepted : List μ}

theorem Holding.init : Holding clientInit.sendQueue Blocks.empty 0 ([] : List μ) where
  size := rfl
  bounded := ⟨Nat.zero_lt_succ _, Nat.zero_lt_succ _⟩
  le := le_rfl
  contents := rfl
  stale := by
    intro i k hslot _
    rw [clientInit, List.getElem?_replicate] at hslot
    split at hslot <;> cases hslot
  blocks := rfl

section Step

variable (h : Holding q blocks freed accepted)

include h

theorem Holding.count : q.count = accepted.length - freed := by
  rw [← RingBuffer.length_contents, h.contents, List.length_map, List.length_range']

theorem Holding.head_eq_tail_iff : q.head = q.tail ↔ freed = accepted.length := by
  have hle := h.le
  rw [← RingBuffer.count_eq_zero_iff h.bounded, h.count]
  omega

/-- A message put into the slot at the tail. -/
theorem Holding.push (m : μ) (hroom : q.next q.tail ≠ q.head) :
    Holding (q.store q.tail (some accepted.length)).extend (Blocks.fifo freed (accepted ++ [m]))
      freed (accepted ++ [m]) := by
  have hle := h.le
  have hlen : (accepted ++ [m]).length = accepted.length + 1 := List.length_append
  have hbounded := RingBuffer.bounded_store h.bounded q.tail (some accepted.length)
  have hroom' : (q.store q.tail (some accepted.length)).next q.tail ≠ q.head := by
    unfold RingBuffer.next
    rw [RingBuffer.length_store]
    exact hroom
  have hslot : (q.store q.tail (some accepted.length)).slots[q.tail]? =
      some (some accepted.length) := List.getElem?_set_self h.bounded.tail
  refine ⟨List.length_set.trans h.size, RingBuffer.bounded_extend hbounded, by omega, ?_, ?_, rfl⟩
  · -- the tail is a free slot: writing to it leaves the contents as they are
    have hcontents := RingBuffer.contents_extend hbounded hroom'
    rw [RingBuffer.contents_store _ (RingBuffer.not_holds_tail h.bounded), h.contents] at hcontents
    rw [hcontents, hlen, show accepted.length + 1 - freed = accepted.length - freed + 1 by omega,
      List.range'_1_concat, List.map_append, Nat.add_sub_cancel' hle]
    exact congrArg (_ ++ [·]) hslot
  · intro i k hi hfree
    rw [RingBuffer.holds_extend_iff hbounded hroom', RingBuffer.holds_store_iff, not_or] at hfree
    have hother : q.slots[i]? = some (some k) := by
      rw [← hi]
      exact (List.getElem?_set_ne (Ne.symm hfree.2)).symm
    exact h.stale i k hother hfree.1

/-- The slot at the head is that of the oldest copy. -/
theorem Holding.head_slot (hne : q.head ≠ q.tail) :
    freed < accepted.length ∧ q.slots[q.head]? = some (some freed) ∧
      q.advance.contents = (List.range' (freed + 1) (accepted.length - (freed + 1))).map
        (fun k => some (some k)) := by
  have hlt : freed < accepted.length :=
    lt_of_le_of_ne h.le (fun heq => hne (h.head_eq_tail_iff.mpr heq))
  have hcontents := RingBuffer.contents_advance h.bounded hne
  rw [h.contents, show accepted.length - freed = accepted.length - (freed + 1) + 1 by omega,
    List.range'_succ, List.map_cons] at hcontents
  obtain ⟨hslot, hrest⟩ := List.cons.inj hcontents
  exact ⟨hlt, hslot.symm, hrest.symm⟩

/-- The code's index arithmetic is that of the ring. -/
theorem Holding.next_eq (i : ℕ) : (i + 1) % clientSendQueueSize = q.next i := by
  rw [← h.size]
  rfl

theorem Holding.loadSlot_head (hne : q.head ≠ q.tail) : loadSlot q q.head = .ok (some freed) := by
  obtain ⟨-, hslot, -⟩ := h.head_slot hne
  unfold loadSlot
  rw [hslot]

/-- The oldest copy is freed. -/
theorem Holding.freeMessage_head (hne : q.head ≠ q.tail) :
    freeMessage blocks (some freed) = .ok (Blocks.fifo (freed + 1) accepted) := by
  obtain ⟨hlt, -, -⟩ := h.head_slot hne
  rw [h.blocks]
  exact Blocks.free_fifo hlt

/-- The oldest message taken out. -/
theorem Holding.pop (hne : q.head ≠ q.tail) :
    Holding q.advance (Blocks.fifo (freed + 1) accepted) (freed + 1) accepted := by
  obtain ⟨hlt, hslot, hcontents⟩ := h.head_slot hne
  refine ⟨h.size, RingBuffer.bounded_advance h.bounded, hlt, hcontents, ?_, rfl⟩
  intro i k hi hfree
  by_cases hhead : i = q.head
  · -- the pointer stays behind in the slot that is given up
    rw [hhead] at hi
    have heq : k = freed := Option.some.inj (Option.some.inj (hi.symm.trans hslot))
    omega
  · have hnot : ¬ q.Holds i := fun hheld =>
      ((RingBuffer.holds_iff_advance h.bounded hne).mp hheld).elim hfree hhead
    have hlt := h.stale i k hi hnot
    omega

/-- A slot that is not in use may be cleared. -/
theorem Holding.clear {i : ℕ} (hi : ¬ q.Holds i) :
    Holding (q.store i none) blocks freed accepted where
  size := List.length_set.trans h.size
  bounded := RingBuffer.bounded_store h.bounded i none
  le := h.le
  contents := (RingBuffer.contents_store none hi).trans h.contents
  stale := by
    intro j k hj hfree
    rw [RingBuffer.holds_store_iff] at hfree
    by_cases hji : i = j
    · subst hji
      rw [RingBuffer.store, List.getElem?_set_self'] at hj
      cases hold : q.slots[i]? with
      | none =>
        rw [hold] at hj
        cases hj
      | some data =>
        rw [hold] at hj
        cases hj
    · have hother : q.slots[j]? = some (some k) := by
        rw [← hj]
        exact (List.getElem?_set_ne hji).symm
      exact h.stale j k hother hfree
  blocks := h.blocks

end Step

/-! ### One lemma an operation -/

section Spec

variable {c : DoubaoClient} (h : Holding c.sendQueue blocks freed accepted)

include h

/-- The client with one more message in its queue. -/
theorem clientSendRaw_accepted (hroom : c.sendQueue.next c.sendQueue.tail ≠ c.sendQueue.head)
    (msg : μ) :
    ∃ q', clientSendRaw c blocks msg true =
        .ok ({ c with sendQueue := q' }, Blocks.fifo freed (accepted ++ [msg]), 0) ∧
      Holding q' (Blocks.fifo freed (accepted ++ [msg])) freed (accepted ++ [msg]) := by
  refine ⟨_, ?_, h.push msg hroom⟩
  have hnext := h.next_eq c.sendQueue.tail
  have hstore : storeSlot c.sendQueue c.sendQueue.tail (some accepted.length) =
      .ok (c.sendQueue.store c.sendQueue.tail (some accepted.length)) := if_pos h.bounded.tail
  have hextend : (c.sendQueue.store c.sendQueue.tail (some accepted.length)).extend =
      { c.sendQueue.store c.sendQueue.tail (some accepted.length) with
        tail := c.sendQueue.next c.sendQueue.tail } := by
    unfold RingBuffer.extend RingBuffer.next
    rw [RingBuffer.length_store]
    rfl
  unfold clientSendRaw
  simp only [hnext, if_neg hroom, h.blocks, Blocks.alloc_fifo msg h.le, hextend]
  rw [hstore]
  rfl

theorem clientSendRaw_cases (msg : μ) (granted : Bool) :
    clientSendRaw c blocks msg granted = .ok (c, blocks, -1) ∨
      ∃ q', clientSendRaw c blocks msg granted =
          .ok ({ c with sendQueue := q' }, Blocks.fifo freed (accepted ++ [msg]), 0) ∧
        Holding q' (Blocks.fifo freed (accepted ++ [msg])) freed (accepted ++ [msg]) := by
  have hnext := h.next_eq c.sendQueue.tail
  by_cases hfull : c.sendQueue.next c.sendQueue.tail = c.sendQueue.head
  · exact Or.inl (if_pos (hnext.trans hfull))
  · cases granted with
    | true => exact Or.inr (clientSendRaw_accepted h hfull msg)
    | false =>
      left
      unfold clientSendRaw
      simp only [hnext, if_neg hfull, if_true]

/-- The oldest message is written and its copy freed, whatever `lws_write`
says. -/
theorem clientWriteable_sends (hne : c.sendQueue.head ≠ c.sendQueue.tail) (wrote : Bool) :
    ∃ q' msg, accepted[freed]? = some msg ∧
      clientWriteable c blocks wrote =
        .ok ⟨{ c with sendQueue := q' }, Blocks.fifo (freed + 1) accepted, some (msg, freed),
          wrote && decide (q'.head ≠ q'.tail), if wrote then 0 else -1⟩ ∧
      Holding q' (Blocks.fifo (freed + 1) accepted) (freed + 1) accepted := by
  obtain ⟨hlt, -, -⟩ := h.head_slot hne
  have hnot := RingBuffer.not_holds_head h.bounded hne
  have hmsg : accepted[freed]? = some accepted[freed] := List.getElem?_eq_getElem hlt
  refine ⟨_, _, hmsg, ?_, (h.pop hne).clear hnot⟩
  have hnext := h.next_eq c.sendQueue.head
  -- the copy is alive when it is written, and freed behind that
  have hread : loadMessage blocks (some freed) = .ok accepted[freed] := by
    rw [h.blocks]
    exact Blocks.get_fifo le_rfl hmsg
  have hstore : storeSlot c.sendQueue c.sendQueue.head none =
      .ok (c.sendQueue.store c.sendQueue.head none) := if_pos h.bounded.head
  unfold clientWriteable
  rw [if_pos hne, bind_ok (h.loadSlot_head hne), bind_ok hread, bind_ok (h.freeMessage_head hne),
    bind_ok hstore]
  cases wrote with
  | false =>
    simp only [RingBuffer.store, hnext]
    rfl
  | true =>
    simp only [RingBuffer.store, hnext]
    rfl

omit h in
theorem clientWriteable_idle (heq : c.sendQueue.head = c.sendQueue.tail) (wrote : Bool) :
    clientWriteable c blocks wrote = .ok ⟨c, blocks, none, false, 0⟩ :=
  if_neg (not_not.mpr heq)

omit h in
/-- The loop frees what the ring holds, in order, and leaves it empty. -/
theorem freeRemaining_spec {q : RingBuffer (Option ℕ)} (h : Holding q blocks freed accepted)
    {fuel : ℕ} (hfuel : q.count ≤ fuel) (log : List ℕ) :
    ∃ q', freeRemaining fuel q blocks log =
        .ok (q', Blocks.fifo accepted.length accepted,
          log ++ List.range' freed (accepted.length - freed)) ∧
      Holding q' (Blocks.fifo accepted.length accepted) accepted.length accepted := by
  -- one slot each time round, so the count bounds the rounds
  induction fuel generalizing q blocks freed log with
  | zero =>
    have hcount := h.count
    have hle := h.le
    obtain rfl : freed = accepted.length := by omega
    refine ⟨q, ?_, h.blocks ▸ h⟩
    rw [Nat.sub_self, List.range'_zero, List.append_nil, freeRemaining, h.blocks]
  | succ fuel ih =>
    by_cases hne : q.head = q.tail
    · obtain rfl := h.head_eq_tail_iff.mp hne
      refine ⟨q, ?_, h.blocks ▸ h⟩
      rw [Nat.sub_self, List.range'_zero, List.append_nil, freeRemaining, if_neg (not_not.mpr hne),
        h.blocks]
    · obtain ⟨hlt, -, -⟩ := h.head_slot hne
      have hcount : q.advance.count ≤ fuel := by
        have hsucc := RingBuffer.count_advance h.bounded hne
        omega
      obtain ⟨q', hrun, hq'⟩ := ih (h.pop hne) hcount (log ++ [freed])
      refine ⟨q', ?_, hq'⟩
      have hsplit : List.range' freed (accepted.length - freed) =
          freed :: List.range' (freed + 1) (accepted.length - (freed + 1)) := by
        rw [show accepted.length - freed = accepted.length - (freed + 1) + 1 by omega,
          List.range'_succ]
      rw [freeRemaining, if_pos hne, bind_ok (h.loadSlot_head hne),
        bind_ok (h.freeMessage_head hne), h.next_eq, hsplit, List.append_cons]
      exact hrun

end Spec

end Operations

end Desktop

end BoxDoubao
