import BoxDoubao.Lib.CMemory
import BoxDoubao.Lib.LinkedQueue
import BoxDoubao.Lib.Machine

/-!
# The playback queue

`audio.c` of the desktop client hands decoded audio from the thread that runs
the service loop to the player thread through a list of nodes under a mutex.
Each critical section is one step. `queue_push` allocates and fills its node
before it takes the lock, `queue_pop` gives the lock up while it waits, and the
player reads and frees a node after it has left the lock, so these are steps of
their own and anything may happen between them. The allocator may hand out the
address of a node that was freed.

Every node has a number, the position of its allocation. `Books` records what
has become of them: `left` the nodes that left the queue and how, in the order
in which they left it, and `freed` who freed which node. `Balanced` says that
the books agree with what is queued and what the threads have in hand, and each
critical section has its rule. `IsFifo` is the result: the queue is a FIFO
list, the nodes that left it and those in it are the nodes pushed, in order,
and every node is freed once or is still somewhere.
-/

namespace BoxDoubao

open CMemory LinkedQueue

namespace Desktop

/-! ### The operations -/

/-- What a node holds, and the number of its allocation. -/
structure Buffer where
  node : ℕ
  bytes : Bytes
  deriving DecidableEq

abbrev NodeHeap := Cells ℕ Buffer

/-- `queue_init`. -/
def queueInit : Queue ℕ := ⟨none, none, 0⟩

/-- The critical section of `queue_push`. -/
def queuePush (h : NodeHeap) (q : Queue ℕ) (node : ℕ) : Option (NodeHeap × Queue ℕ) :=
  match q.tail with
  | some tail =>
    (setNext h tail (some node)).map fun h => (h, ⟨q.head, some node, q.count + 1⟩)
  | none => some (h, ⟨some node, some node, q.count + 1⟩)

/-- `queue_pop` waits before it looks for a node. -/
def PopWaits (q : Queue ℕ) (timeoutMs : ℤ) : Prop := q.head = none ∧ 0 < timeoutMs

instance decidablePopWaits (q : Queue ℕ) (timeoutMs : ℤ) : Decidable (PopWaits q timeoutMs) :=
  inferInstanceAs (Decidable (_ ∧ _))

/-- What `queue_pop` does behind the wait. -/
def queuePop (h : NodeHeap) (q : Queue ℕ) : Option (Option ℕ × Queue ℕ) :=
  match q.head with
  | none => some (none, q)
  | some node =>
    -- behind its last node the queue has no tail
    (h node).map fun c =>
      (some node, ⟨c.next, if c.next = none then none else q.tail, q.count - 1⟩)

/-- The loop of `queue_clear` and `queue_destroy`, with what the nodes held. -/
def freeNodes : (turns : ℕ) → NodeHeap → Option ℕ → Option (NodeHeap × List Buffer)
  | _, h, none => some (h, [])
  | 0, _, some _ => none
  | turns + 1, h, some node => do
    -- `next` is read before the node is freed
    let c ← h node
    let h ← free h node
    let (h, rest) ← freeNodes turns h c.next
    return (h, c.data :: rest)

/-! ### The threads -/

/-- Where the player thread is. -/
inductive Player where
  | top
  /-- In the wait of `queue_pop`. -/
  | waiting
  /-- With the node it has taken, which held `b` then. -/
  | holding (node : ℕ) (b : Buffer)
  | exited
  deriving DecidableEq

/-- The node the player has. -/
def Player.taken : Player → Option (ℕ × Buffer)
  | .holding node b => some (node, b)
  | _ => none

/-- How a node left the queue. -/
inductive Fate where
  | popped
  | cleared
  | destroyed
  deriving DecidableEq

/-- Who freed a node. -/
inductive Freer where
  | popper
  | clear
  | destroy
  /-- `queue_push`, when there is no memory for the data. -/
  | push
  deriving DecidableEq

/-- What has become of the nodes. -/
structure Books where
  /-- The number of nodes allocated. -/
  allocated : ℕ
  pushed : List Buffer
  left : List (Buffer × Fate)
  /-- What the player has played. -/
  played : List Buffer
  freed : List (ℕ × Freer)
  deriving DecidableEq

namespace Books

def start : Books := ⟨0, [], [], [], []⟩

/-- A node that is freed at once. -/
def refuse (k : Books) : Books :=
  { k with allocated := k.allocated + 1, freed := k.freed ++ [(k.allocated, .push)] }

def fill (k : Books) : Books := { k with allocated := k.allocated + 1 }

def push (k : Books) (b : Buffer) : Books := { k with pushed := k.pushed ++ [b] }

def pop (k : Books) (b : Buffer) : Books := { k with left := k.left ++ [(b, .popped)] }

def play (k : Books) (b : Buffer) : Books :=
  { k with played := k.played ++ [b], freed := k.freed ++ [(b.node, .popper)] }

/-- Everything queued leaves and is freed. -/
def empty (k : Books) (bs : List Buffer) (fate : Fate) (freer : Freer) : Books :=
  { k with
    left := k.left ++ bs.map fun b => (b, fate)
    freed := k.freed ++ bs.map fun b => (b.node, freer) }

/-- The nodes that left the queue in this way. -/
def leftAs (k : Books) (fate : Fate) : List Buffer :=
  (k.left.filter fun b => b.2 = fate).map Prod.fst

/-- The nodes freed there. -/
def freedBy (k : Books) (freer : Freer) : List ℕ :=
  (k.freed.filter fun n => n.2 = freer).map Prod.fst

end Books

structure PlayQueue where
  heap : NodeHeap
  queue : Queue ℕ
  /-- The node `queue_push` has filled and not linked yet, and what it was
  filled with. -/
  pushing : Option (ℕ × Buffer)
  player : Player
  playing : Bool
  destroyed : Bool
  books : Books

inductive PlayAct where
  /-- `queue_push` without memory for the node. -/
  | refuseNode
  /-- `queue_push` without memory for the data. -/
  | refuseData
  /-- `queue_push` up to the lock, with its node at this address. -/
  | fill (node : ℕ) (bytes : Bytes)
  /-- `queue_push` under the lock. -/
  | link
  /-- `queue_clear`. -/
  | clear
  /-- `queue_pop` up to the wait, or to its end. -/
  | pop
  /-- The wait ends, by a signal, by the timeout or by itself. -/
  | wake
  /-- The player plays its node and frees it. -/
  | play
  /-- `playing = false`. -/
  | stop
  /-- The player thread returns. -/
  | exit
  /-- `queue_destroy`, behind the join of the player thread. -/
  | destroy
  deriving DecidableEq

namespace PlayQueue

/-- The queue behind `queue_init`, with the player started. -/
def init : PlayQueue where
  heap := fun _ => none
  queue := queueInit
  pushing := none
  player := .top
  playing := true
  destroyed := false
  books := .start

/-- The action can be taken next. -/
def Enabled (s : PlayQueue) : PlayAct → Prop
  | .refuseNode => s.pushing = none ∧ s.destroyed = false
  | .refuseData => s.pushing = none ∧ s.destroyed = false
  | .fill node _ => s.pushing = none ∧ s.destroyed = false ∧ s.heap node = none
  | .link => s.pushing ≠ none
  | .clear => s.destroyed = false
  | .pop => s.player = .top ∧ s.playing = true
  | .wake => s.player = .waiting
  | .play => s.player.taken ≠ none
  | .stop => True
  | .exit => s.player = .top ∧ s.playing = false
  | .destroy => s.player = .exited ∧ s.pushing = none ∧ s.destroyed = false

/-- `queue_pop` behind the wait, and its return to the player. -/
def take (s : PlayQueue) : Option PlayQueue := do
  let (node, queue) ← queuePop s.heap s.queue
  match node with
  | none => return { s with queue := queue, player := .top }
  | some node =>
    let c ← s.heap node
    return { s with queue := queue, player := .holding node c.data, books := s.books.pop c.data }

/-- `queue_clear`, or `queue_destroy` up to the mutex. -/
def empty (s : PlayQueue) (fate : Fate) (freer : Freer) : Option PlayQueue := do
  let (heap, buffers) ← freeNodes s.queue.count s.heap s.queue.head
  return { s with
    heap := heap
    queue := ⟨none, none, 0⟩
    books := s.books.empty buffers fate freer }

/-- The player plays what its node holds and frees it. -/
def play (s : PlayQueue) : Option PlayQueue := do
  let (node, _) ← s.player.taken
  let c ← s.heap node
  let heap ← free s.heap node
  return { s with heap := heap, player := .top, books := s.books.play c.data }

/-- `queue_push` under the lock. -/
def link (s : PlayQueue) : Option PlayQueue := do
  let (node, b) ← s.pushing
  let (heap, queue) ← queuePush s.heap s.queue node
  return { s with heap := heap, queue := queue, pushing := none, books := s.books.push b }

/-- What an action does, `none` when it reads, writes or frees a node that is
not allocated. -/
def exec (s : PlayQueue) : PlayAct → Option PlayQueue
  | .refuseNode => some s
  | .refuseData => some { s with books := s.books.refuse }
  | .fill node bytes =>
    some { s with
      heap := Function.update s.heap node (some ⟨⟨s.books.allocated, bytes⟩, none⟩)
      pushing := some (node, ⟨s.books.allocated, bytes⟩)
      books := s.books.fill }
  | .link => s.link
  | .clear => s.empty .cleared .clear
  | .pop => if PopWaits s.queue 500 then some { s with player := .waiting } else s.take
  | .wake => s.take
  | .play => s.play
  | .stop => some { s with playing := false }
  | .exit => some { s with player := .exited }
  | .destroy => (s.empty .destroyed .destroy).map fun s => { s with destroyed := true }

instance decidableEnabled (s : PlayQueue) : ∀ a, Decidable (s.Enabled a)
  | .refuseNode => inferInstanceAs (Decidable (_ ∧ _))
  | .refuseData => inferInstanceAs (Decidable (_ ∧ _))
  | .fill node _ =>
    have : Decidable (s.heap node = none) := decidable_of_iff _ Option.isNone_iff_eq_none
    inferInstanceAs (Decidable (_ ∧ _ ∧ _))
  | .link => inferInstanceAs (Decidable (¬ _))
  | .clear => inferInstanceAs (Decidable (_ = _))
  | .pop => inferInstanceAs (Decidable (_ ∧ _))
  | .wake => inferInstanceAs (Decidable (_ = _))
  | .play => inferInstanceAs (Decidable (¬ _))
  | .stop => inferInstanceAs (Decidable True)
  | .exit => inferInstanceAs (Decidable (_ ∧ _))
  | .destroy => inferInstanceAs (Decidable (_ ∧ _ ∧ _))

/-- The threads and the queue. -/
def system : Machine PlayQueue PlayAct := ⟨fun s a => if s.Enabled a then s.exec a else none⟩

/-- What `queue_push` has in hand. -/
def pending (s : PlayQueue) : List Buffer := (s.pushing.map Prod.snd).toList

/-- What the player has in hand. -/
def held (s : PlayQueue) : List Buffer := (s.player.taken.map Prod.snd).toList

end PlayQueue

/-! ### The books -/

/-- The books agree with what is pending, held and queued. -/
structure Books.Balanced (k : Books) (pending held queued : List Buffer) : Prop where
  /-- What has left and what is queued is what was pushed, in order. -/
  order : k.pushed = k.left.map Prod.fst ++ queued
  /-- Nodes are pushed in the order of their allocation. -/
  increasing : ((k.pushed ++ pending).map Buffer.node).Pairwise (· < ·)
  bound : ∀ b ∈ k.pushed ++ pending, b.node < k.allocated
  /-- What was popped has been played, but for the node the player has. -/
  popped : k.leftAs .popped = k.played ++ held
  freedByPopper : k.freedBy .popper = k.played.map Buffer.node
  freedByClear : k.freedBy .clear = (k.leftAs .cleared).map Buffer.node
  freedByDestroy : k.freedBy .destroy = (k.leftAs .destroyed).map Buffer.node
  /-- Every node allocated is freed once, or queued, held or pending. -/
  once : (k.freed.map Prod.fst ++ (queued ++ held ++ pending).map Buffer.node).Perm
    (List.range k.allocated)

namespace Books

variable {k : Books} {pending held queued : List Buffer} {b : Buffer}

section Filed

variable {α β γ : Type} [DecidableEq γ] {c d : γ}

/-- A group filed under `d` comes last under `d`. -/
theorem filed_append (l : List (α × γ)) (bs : List β) (g : β → α) (d : γ) :
    ((l ++ bs.map fun b => (g b, d)).filter fun p => p.2 = d).map Prod.fst =
      (l.filter fun p => p.2 = d).map Prod.fst ++ bs.map g := by
  rw [List.filter_append, List.map_append, List.filter_map, List.map_map]
  congr 1
  simp [Function.comp_def]

/-- And under another heading it changes nothing. -/
theorem filed_append_of_ne (l : List (α × γ)) (bs : List β) (g : β → α) (hcd : c ≠ d) :
    ((l ++ bs.map fun b => (g b, c)).filter fun p => p.2 = d).map Prod.fst =
      (l.filter fun p => p.2 = d).map Prod.fst := by
  rw [List.filter_append, List.map_append, List.filter_map]
  simp [Function.comp_def, hcd]

end Filed

theorem freedBy_refuse {f : Freer} (hf : .push ≠ f) : k.refuse.freedBy f = k.freedBy f :=
  filed_append_of_ne k.freed [k.allocated] id hf

theorem leftAs_pop (k : Books) (b : Buffer) :
    (k.pop b).leftAs .popped = k.leftAs .popped ++ [b] :=
  filed_append k.left [b] id .popped

theorem leftAs_pop_of_ne {f : Fate} (hf : .popped ≠ f) : (k.pop b).leftAs f = k.leftAs f :=
  filed_append_of_ne k.left [b] id hf

theorem freedBy_play (k : Books) (b : Buffer) :
    (k.play b).freedBy .popper = k.freedBy .popper ++ [b.node] :=
  filed_append k.freed [b] Buffer.node .popper

theorem freedBy_play_of_ne {f : Freer} (hf : .popper ≠ f) : (k.play b).freedBy f = k.freedBy f :=
  filed_append_of_ne k.freed [b] Buffer.node hf

/-- How often each node occurs decides. -/
theorem perm_of_count {l l' m m' : List ℕ} (h : l.Perm m)
    (hstep : ∀ n, l.count n = m.count n → l'.count n = m'.count n) : l'.Perm m' :=
  List.perm_iff_count.mpr fun n => hstep n (h.count_eq n)

theorem Balanced.start : start.Balanced [] [] [] where
  order := rfl
  increasing := List.Pairwise.nil
  bound := List.forall_mem_nil _
  popped := rfl
  freedByPopper := rfl
  freedByClear := rfl
  freedByDestroy := rfl
  once := .refl _

theorem Balanced.refuse (h : k.Balanced pending held queued) :
    k.refuse.Balanced pending held queued where
  order := h.order
  increasing := h.increasing
  bound b hb := Nat.lt_succ_of_lt (h.bound b hb)
  popped := h.popped
  freedByPopper := (freedBy_refuse (by decide)).trans h.freedByPopper
  freedByClear := (freedBy_refuse (by decide)).trans h.freedByClear
  freedByDestroy := (freedBy_refuse (by decide)).trans h.freedByDestroy
  once := perm_of_count h.once fun n hn => by
    simp only [Books.refuse, List.map_append, List.count_append, List.range_succ, List.map_cons,
      List.map_nil] at hn ⊢
    omega

theorem Balanced.fill (h : k.Balanced [] held queued) (bytes : Bytes) :
    k.fill.Balanced [⟨k.allocated, bytes⟩] held queued where
  order := h.order
  increasing := by
    rw [List.map_append, List.pairwise_append]
    have hbound := h.bound
    have hincreasing := h.increasing
    rw [List.append_nil] at hbound hincreasing
    refine ⟨hincreasing, List.pairwise_singleton _ _, ?_⟩
    intro n hn m hm
    obtain ⟨b, hb, rfl⟩ := List.mem_map.mp hn
    obtain rfl := List.mem_singleton.mp hm
    exact hbound b hb
  bound := by
    rw [List.forall_mem_append, List.forall_mem_singleton]
    have hbound := h.bound
    rw [List.append_nil] at hbound
    exact ⟨fun b hb => Nat.lt_succ_of_lt (hbound b hb), Nat.lt_succ_self _⟩
  popped := h.popped
  freedByPopper := h.freedByPopper
  freedByClear := h.freedByClear
  freedByDestroy := h.freedByDestroy
  once := perm_of_count h.once fun n hn => by
    simp only [Books.fill, List.map_append, List.count_append, List.range_succ, List.map_cons,
      List.map_nil, List.count_nil] at hn ⊢
    omega

theorem Balanced.push (h : k.Balanced [b] held queued) :
    (k.push b).Balanced [] held (queued ++ [b]) where
  order := by rw [Books.push, h.order, List.append_assoc]
  increasing := by simpa [Books.push] using h.increasing
  bound := by simpa [Books.push] using h.bound
  popped := h.popped
  freedByPopper := h.freedByPopper
  freedByClear := h.freedByClear
  freedByDestroy := h.freedByDestroy
  once := perm_of_count h.once fun n hn => by
    simp only [Books.push, List.map_append, List.count_append, List.map_cons, List.map_nil,
      List.count_nil] at hn ⊢
    omega

theorem Balanced.pop (h : k.Balanced pending [] (b :: queued)) :
    (k.pop b).Balanced pending [b] queued where
  order := by
    rw [Books.pop, List.map_append, List.append_assoc]
    exact h.order
  increasing := h.increasing
  bound := h.bound
  popped := by
    have hpopped := h.popped
    rw [List.append_nil] at hpopped
    rw [leftAs_pop, hpopped]
    rfl
  freedByPopper := h.freedByPopper
  freedByClear := by
    rw [leftAs_pop_of_ne (f := .cleared) nofun]
    exact h.freedByClear
  freedByDestroy := by
    rw [leftAs_pop_of_ne (f := .destroyed) nofun]
    exact h.freedByDestroy
  once := perm_of_count h.once fun n hn => by
    simp only [Books.pop, List.map_append, List.count_append, List.map_cons, List.map_nil,
      List.count_nil, List.count_cons] at hn ⊢
    omega

theorem Balanced.play (h : k.Balanced pending [b] queued) :
    (k.play b).Balanced pending [] queued where
  order := h.order
  increasing := h.increasing
  bound := h.bound
  popped := by
    rw [List.append_nil]
    exact h.popped
  freedByPopper := by
    rw [freedBy_play, h.freedByPopper, Books.play, List.map_append]
    rfl
  freedByClear := (freedBy_play_of_ne (by decide)).trans h.freedByClear
  freedByDestroy := (freedBy_play_of_ne (by decide)).trans h.freedByDestroy
  once := perm_of_count h.once fun n hn => by
    simp only [Books.play, List.map_append, List.count_append, List.map_cons, List.map_nil,
      List.count_nil, List.count_cons] at hn ⊢
    omega

section Empty

variable (k : Books) (bs : List Buffer) (fate : Fate) (freer : Freer)

theorem leftAs_empty : (k.empty bs fate freer).leftAs fate = k.leftAs fate ++ bs :=
  (filed_append k.left bs id fate).trans (congrArg _ (List.map_id bs))

theorem freedBy_empty :
    (k.empty bs fate freer).freedBy freer = k.freedBy freer ++ bs.map Buffer.node :=
  filed_append k.freed bs Buffer.node freer

variable {fate freer}

theorem leftAs_empty_of_ne {f : Fate} (hf : fate ≠ f) :
    (k.empty bs fate freer).leftAs f = k.leftAs f :=
  filed_append_of_ne k.left bs id hf

theorem freedBy_empty_of_ne {f : Freer} (hf : freer ≠ f) :
    (k.empty bs fate freer).freedBy f = k.freedBy f :=
  filed_append_of_ne k.freed bs Buffer.node hf

end Empty

/-- `queue_clear` and `queue_destroy` free what is queued. -/
theorem Balanced.empty {fate : Fate} {freer : Freer} (h : k.Balanced pending held queued)
    (hwho : fate = .cleared ∧ freer = .clear ∨ fate = .destroyed ∧ freer = .destroy) :
    (k.empty queued fate freer).Balanced pending held [] where
  order := by
    rw [Books.empty, h.order, List.append_nil, List.map_append, List.map_map]
    exact congrArg _ (List.map_id' queued).symm
  increasing := h.increasing
  bound := h.bound
  popped := by
    obtain ⟨rfl, rfl⟩ | ⟨rfl, rfl⟩ := hwho
    · exact (leftAs_empty_of_ne k queued (by decide)).trans h.popped
    · exact (leftAs_empty_of_ne k queued (by decide)).trans h.popped
  freedByPopper := by
    obtain ⟨rfl, rfl⟩ | ⟨rfl, rfl⟩ := hwho
    · exact (freedBy_empty_of_ne k queued (by decide)).trans h.freedByPopper
    · exact (freedBy_empty_of_ne k queued (by decide)).trans h.freedByPopper
  freedByClear := by
    obtain ⟨rfl, rfl⟩ | ⟨rfl, rfl⟩ := hwho
    · rw [freedBy_empty, leftAs_empty, List.map_append, h.freedByClear]
    · have hleft : (k.empty queued .destroyed .destroy).leftAs .cleared = k.leftAs .cleared :=
        leftAs_empty_of_ne k queued nofun
      rw [hleft]
      exact (freedBy_empty_of_ne k queued (by decide)).trans h.freedByClear
  freedByDestroy := by
    obtain ⟨rfl, rfl⟩ | ⟨rfl, rfl⟩ := hwho
    · have hleft : (k.empty queued .cleared .clear).leftAs .destroyed = k.leftAs .destroyed :=
        leftAs_empty_of_ne k queued nofun
      rw [hleft]
      exact (freedBy_empty_of_ne k queued (by decide)).trans h.freedByDestroy
    · rw [freedBy_empty, leftAs_empty, List.map_append, h.freedByDestroy]
  once := perm_of_count h.once fun n hn => by
    have hfreed : (queued.map fun b => (b.node, freer)).map Prod.fst = queued.map Buffer.node :=
      List.map_map
    simp only [Books.empty, List.map_append, List.count_append, hfreed, List.map_nil,
      List.count_nil] at hn ⊢
    omega

end Books

/-! ### What holds between the steps -/

/-- `freeNodes` frees the nodes of a chain in order, and nothing else. -/
theorem freeNodes_chain {h : NodeHeap} {p : Option ℕ} {nodes : List ℕ} {queued : List Buffer}
    (hchain : Chain h p nodes) (hnodup : nodes.Nodup)
    (hcontents : nodes.map (fun n => (h n).map Cell.data) = queued.map some) :
    ∃ h', freeNodes nodes.length h p = some (h', queued) ∧ ∀ n, n ∉ nodes → h' n = h n := by
  induction nodes generalizing h p queued with
  | nil =>
    obtain rfl : p = none := hchain
    obtain rfl : queued = [] := List.map_eq_nil_iff.mp hcontents.symm
    exact ⟨h, rfl, fun _ _ => rfl⟩
  | cons node nodes ih =>
    obtain ⟨rfl, c, hc, -⟩ := id hchain
    obtain ⟨hnode, hnodes⟩ := List.nodup_cons.mp hnodup
    cases queued with
    | nil => cases hcontents
    | cons b queued =>
      rw [List.map_cons, List.map_cons, hc] at hcontents
      obtain ⟨hb, hrest⟩ := List.cons.inj hcontents
      obtain rfl : c.data = b := Option.some.inj hb
      have hkeep : ∀ n ∈ nodes, Function.update h node none n = h n := fun n hn =>
        Function.update_of_ne (ne_of_mem_of_not_mem hn hnode) _ _
      obtain ⟨h', hfree, hother⟩ := ih (hchain.free_first hnodup hc) hnodes (by
        rw [← hrest]
        exact List.map_congr_left fun n hn => congrArg (Option.map Cell.data) (hkeep n hn))
      refine ⟨h', ?_, ?_⟩
      · simp [freeNodes, hc, free_of_some hc, hfree]
      · intro n hn
        rw [List.mem_cons, not_or] at hn
        rw [hother n hn.2, Function.update_of_ne hn.1]

namespace PlayQueue

/-- The invariant: the nodes of the queue, the one being pushed and the one the
player has are distinct, and hold what they are said to hold. -/
structure Inv (s : PlayQueue) (nodes : List ℕ) (queued : List Buffer) : Prop where
  represents : Represents s.heap s.queue nodes queued
  pushing : ∀ p ∈ s.pushing, s.heap p.1 = some ⟨p.2, none⟩ ∧ p.1 ∉ nodes
  taken : ∀ p ∈ s.player.taken, (s.heap p.1).map Cell.data = some p.2 ∧ p.1 ∉ nodes
  apart : ∀ p ∈ s.pushing, ∀ r ∈ s.player.taken, p.1 ≠ r.1
  balanced : s.books.Balanced s.pending s.held queued
  closed : s.destroyed = true → nodes = [] ∧ s.pushing = none ∧ s.player = .exited

variable {s : PlayQueue} {nodes : List ℕ} {queued : List Buffer}

theorem Inv.init : Inv init [] [] where
  represents := .empty _
  pushing := by rintro p ⟨⟩
  taken := by rintro p ⟨⟩
  apart := by rintro p ⟨⟩
  balanced := .start
  closed := by rintro ⟨⟩

/-- While something is pushed, or the player runs, the queue is not
destroyed. -/
theorem Inv.not_destroyed (hI : Inv s nodes queued)
    (hbusy : s.pushing ≠ none ∨ s.player ≠ .exited) : ¬ s.destroyed = true := by
  intro hdestroyed
  obtain ⟨-, hpushing, hplayer⟩ := hI.closed hdestroyed
  obtain hbusy | hbusy := hbusy
  · exact hbusy hpushing
  · exact hbusy hplayer

theorem Inv.fill {node : ℕ} (bytes : Bytes) (hI : Inv s nodes queued)
    (h : s.Enabled (.fill node bytes)) :
    ∃ s', s.exec (.fill node bytes) = some s' ∧ Inv s' nodes queued := by
  obtain ⟨hpushing, hopen, hnone⟩ := h
  -- the address is new to the queue and to the player
  have hnodes : node ∉ nodes := by
    intro hmem
    have hsome := hI.represents.chain.isSome node hmem
    rw [hnone] at hsome
    cases hsome
  have htaken : ∀ p ∈ s.player.taken, p.1 ≠ node := by
    rintro p hp rfl
    have hsome := (hI.taken p hp).1
    rw [hnone] at hsome
    cases hsome
  refine ⟨_, rfl, ?_⟩
  constructor
  · exact hI.represents.update _ hnodes
  · rintro p ⟨⟩
    exact ⟨Function.update_self _ _ _, hnodes⟩
  · intro p hp
    refine ⟨?_, (hI.taken p hp).2⟩
    rw [← (hI.taken p hp).1]
    exact congrArg _ (Function.update_of_ne (htaken p hp) _ _)
  · rintro p ⟨⟩ r hr
    exact (htaken r hr).symm
  · have hbalanced := hI.balanced
    rw [pending, hpushing] at hbalanced
    exact hbalanced.fill bytes
  · intro hdestroyed
    exact absurd (hopen.symm.trans hdestroyed) Bool.false_ne_true

theorem Inv.link (hI : Inv s nodes queued) (h : s.Enabled .link) :
    ∃ s' node b, s.exec .link = some s' ∧ Inv s' (nodes ++ [node]) (queued ++ [b]) := by
  obtain ⟨⟨node, b⟩, hp⟩ := Option.ne_none_iff_exists'.mp h
  obtain ⟨hcell, hnode⟩ := hI.pushing (node, b) hp
  have hbalanced := hI.balanced
  rw [pending, hp] at hbalanced
  -- `queue_destroy` waits for the push to end
  have hopen := hI.not_destroyed (Or.inl h)
  -- either the link of the last node or the head is set
  have hpush : ∃ heap queue, queuePush s.heap s.queue node = some (heap, queue) ∧
      (∀ n, n ∉ nodes → heap n = s.heap n) ∧
      Represents heap queue (nodes ++ [node]) (queued ++ [b]) := by
    cases htail : s.queue.tail with
    | none =>
      refine ⟨s.heap, _, ?_, fun _ _ => rfl, hI.represents.link_empty htail hcell⟩
      simp only [queuePush, htail]
    | some tail =>
      obtain ⟨heap, hset, hother, hrep⟩ := hI.represents.link_last htail hnode hcell
      refine ⟨heap, _, ?_, hother, hrep⟩
      simp only [queuePush, htail, hset]
      rfl
  obtain ⟨heap, queue, hqueue, hother, hrep⟩ := hpush
  let s' : PlayQueue :=
    { s with heap := heap, queue := queue, pushing := none, books := s.books.push b }
  refine ⟨s', node, b, ?_, ?_⟩
  · simp only [exec, PlayQueue.link, hp, hqueue, Option.bind_eq_bind, Option.bind_some]
    rfl
  · constructor
    · exact hrep
    · rintro p ⟨⟩
    · -- the player's node is neither in the queue nor the one linked now
      intro p hr
      obtain ⟨hdata, hmem⟩ := hI.taken p hr
      refine ⟨(congrArg _ (hother p.1 hmem)).trans hdata, ?_⟩
      rw [List.mem_append, List.mem_singleton, not_or]
      exact ⟨hmem, (hI.apart (node, b) hp p hr).symm⟩
    · rintro p ⟨⟩
    · exact hbalanced.push
    · exact fun hdestroyed => absurd hdestroyed hopen

/-- The end of `queue_pop`: the first node, or none. -/
theorem Inv.take (hI : Inv s nodes queued) (hfree : s.player.taken = none)
    (hrunning : s.player ≠ .exited) :
    ∃ s', s.take = some s' ∧ Inv s' nodes.tail queued.tail := by
  have hbalanced := hI.balanced
  rw [held, hfree] at hbalanced
  have hopen := hI.not_destroyed (Or.inr hrunning)
  cases hhead : s.queue.head with
  | none =>
    -- the wait ended without a node
    obtain rfl := hI.represents.head_eq_none_iff.mp hhead
    obtain rfl : queued = [] := List.eq_nil_of_length_eq_zero hI.represents.length_eq.symm
    refine ⟨{ s with player := .top }, ?_, ?_⟩
    · simp only [PlayQueue.take, queuePop, hhead]
      rfl
    · exact ⟨hI.represents, hI.pushing, by rintro p ⟨⟩, by rintro p - r ⟨⟩, hbalanced,
        fun hdestroyed => absurd hdestroyed hopen⟩
  | some node =>
    -- the head is taken off, and freed when it has been played
    obtain ⟨c, nodes, queued, hc, rfl, rfl⟩ := hI.represents.cases_head hhead
    have hnode := (List.nodup_cons.mp hI.represents.nodup).1
    let s' : PlayQueue :=
      { s with
        queue := ⟨c.next, if c.next = none then none else s.queue.tail, s.queue.count - 1⟩
        player := .holding node c.data
        books := s.books.pop c.data }
    refine ⟨s', ?_, ?_⟩
    · simp only [PlayQueue.take, queuePop, hhead, hc, Option.map_some, Option.bind_eq_bind,
        Option.bind_some]
      rfl
    · constructor
      · exact hI.represents.take hc
      · intro p hp
        obtain ⟨hcell, hmem⟩ := hI.pushing p hp
        exact ⟨hcell, fun h => hmem (List.mem_cons_of_mem node h)⟩
      · rintro p ⟨⟩
        exact ⟨congrArg (Option.map Cell.data) hc, hnode⟩
      · rintro p hp r ⟨⟩
        exact (ne_of_mem_of_not_mem List.mem_cons_self (hI.pushing p hp).2).symm
      · exact hbalanced.pop
      · exact fun hdestroyed => absurd hdestroyed hopen

/-- The player reads and frees the node it has. -/
theorem Inv.play (hI : Inv s nodes queued) (h : s.Enabled .play) :
    ∃ s', s.exec .play = some s' ∧ Inv s' nodes queued := by
  obtain ⟨⟨node, b⟩, hr⟩ := Option.ne_none_iff_exists'.mp h
  obtain ⟨hdata, hnode⟩ := hI.taken (node, b) hr
  obtain ⟨c, hc, rfl⟩ := Option.map_eq_some_iff.mp hdata
  have hbalanced := hI.balanced
  rw [held, hr] at hbalanced
  have hopen := hI.not_destroyed (Or.inr (by rintro heq; rw [heq] at hr; cases hr))
  let s' : PlayQueue :=
    { s with
      heap := Function.update s.heap node none
      player := .top
      books := s.books.play c.data }
  refine ⟨s', ?_, ?_⟩
  · simp only [exec, PlayQueue.play, hr, hc, free_of_some hc, Option.bind_eq_bind,
      Option.bind_some]
    rfl
  · constructor
    · exact hI.represents.update _ hnode
    · intro p hp
      obtain ⟨hcell, hmem⟩ := hI.pushing p hp
      exact ⟨(Function.update_of_ne (hI.apart p hp _ hr) _ _).trans hcell, hmem⟩
    · rintro p ⟨⟩
    · rintro p - r ⟨⟩
    · exact hbalanced.play
    · exact fun hdestroyed => absurd hdestroyed hopen

/-- Everything queued is freed. -/
theorem Inv.empty {fate : Fate} {freer : Freer} (hI : Inv s nodes queued)
    (hwho : fate = .cleared ∧ freer = .clear ∨ fate = .destroyed ∧ freer = .destroy) :
    ∃ s', s.empty fate freer = some s' ∧ Inv s' [] [] ∧ s'.pushing = s.pushing ∧
      s'.player = s.player := by
  -- the nodes in hand are not in the chain, so they stay as they are
  obtain ⟨heap, hfree, hother⟩ :=
    freeNodes_chain hI.represents.chain hI.represents.nodup hI.represents.contents
  rw [← hI.represents.count] at hfree
  let s' : PlayQueue :=
    { s with heap := heap, queue := ⟨none, none, 0⟩, books := s.books.empty queued fate freer }
  refine ⟨s', ?_, ?_, rfl, rfl⟩
  · simp only [PlayQueue.empty, hfree, Option.bind_eq_bind, Option.bind_some]
    rfl
  · constructor
    · exact .empty heap
    · intro p hp
      obtain ⟨hcell, hmem⟩ := hI.pushing p hp
      exact ⟨(hother p.1 hmem).trans hcell, List.not_mem_nil⟩
    · intro p hp
      obtain ⟨hdata, hmem⟩ := hI.taken p hp
      exact ⟨(congrArg _ (hother p.1 hmem)).trans hdata, List.not_mem_nil⟩
    · exact hI.apart
    · exact hI.balanced.empty hwho
    · exact fun hdestroyed => ⟨rfl, (hI.closed hdestroyed).2⟩

/-- **One action.** It reads, writes and frees allocated nodes only. -/
theorem Inv.exec {a : PlayAct} (hI : Inv s nodes queued) (h : s.Enabled a) :
    ∃ s' nodes' queued', s.exec a = some s' ∧ Inv s' nodes' queued' := by
  cases a with
  | refuseNode => exact ⟨s, nodes, queued, rfl, hI⟩
  | refuseData =>
    exact ⟨_, nodes, queued, rfl,
      hI.represents, hI.pushing, hI.taken, hI.apart, hI.balanced.refuse, hI.closed⟩
  | fill node bytes =>
    obtain ⟨s', hs', hI'⟩ := hI.fill bytes h
    exact ⟨s', _, _, hs', hI'⟩
  | link =>
    obtain ⟨s', node, b, hs', hI'⟩ := hI.link h
    exact ⟨s', _, _, hs', hI'⟩
  | clear =>
    obtain ⟨s', hs', hI', -⟩ := hI.empty (Or.inl ⟨rfl, rfl⟩)
    exact ⟨s', _, _, hs', hI'⟩
  | pop =>
    have htop : s.player = .top := h.1
    by_cases hwait : PopWaits s.queue 500
    · -- the mutex is given back while the player waits
      refine ⟨{ s with player := .waiting }, nodes, queued, if_pos hwait, ?_⟩
      have hbalanced := hI.balanced
      rw [held, htop] at hbalanced
      have hopen := hI.not_destroyed (Or.inr (by rw [htop]; rintro ⟨⟩))
      exact ⟨hI.represents, hI.pushing, by rintro p ⟨⟩, by rintro p - r ⟨⟩, hbalanced,
        fun hdestroyed => absurd hdestroyed hopen⟩
    · obtain ⟨s', hs', hI'⟩ := hI.take (by rw [htop]; rfl) (by rw [htop]; rintro ⟨⟩)
      exact ⟨s', _, _, (if_neg hwait).trans hs', hI'⟩
  | wake =>
    have hwaiting : s.player = .waiting := h
    obtain ⟨s', hs', hI'⟩ := hI.take (by rw [hwaiting]; rfl) (by rw [hwaiting]; rintro ⟨⟩)
    exact ⟨s', _, _, hs', hI'⟩
  | play =>
    obtain ⟨s', hs', hI'⟩ := hI.play h
    exact ⟨s', _, _, hs', hI'⟩
  | stop =>
    -- the flag is for the player, which looks at it at the top of its loop
    exact ⟨_, nodes, queued, rfl,
      hI.represents, hI.pushing, hI.taken, hI.apart, hI.balanced, hI.closed⟩
  | exit =>
    have htop : s.player = .top := h.1
    have hbalanced := hI.balanced
    rw [held, htop] at hbalanced
    refine ⟨{ s with player := .exited }, nodes, queued, rfl, hI.represents, hI.pushing,
      by rintro p ⟨⟩, by rintro p - r ⟨⟩, hbalanced, ?_⟩
    exact fun hdestroyed => ⟨(hI.closed hdestroyed).1, (hI.closed hdestroyed).2.1, rfl⟩
  | destroy =>
    -- the player has been joined and nothing is being pushed
    obtain ⟨s', hs', hI', hpushing, hplayer⟩ := hI.empty (Or.inr ⟨rfl, rfl⟩)
    refine ⟨{ s' with destroyed := true }, [], [], ?_, hI'.represents, hI'.pushing, hI'.taken,
      hI'.apart, hI'.balanced, ?_⟩
    · simp only [PlayQueue.exec, hs', Option.map_some]
    · exact fun _ => ⟨rfl, hpushing.trans h.2.1, hplayer.trans h.1⟩

/-! ### A FIFO list -/

theorem inv_run {acts : List PlayAct} (hrun : system.run PlayQueue.init acts = some s) :
    ∃ nodes queued, Inv s nodes queued := by
  refine Machine.inv_run (I := fun s => ∃ nodes queued, Inv s nodes queued) ?_
    ⟨[], [], Inv.init⟩ hrun
  rintro s a s' ⟨nodes, queued, hI⟩ hstep
  obtain ⟨henabled, hexec⟩ := Option.ite_none_right_eq_some.mp hstep
  obtain ⟨s'', nodes', queued', hs'', hI'⟩ := hI.exec henabled
  obtain rfl : s'' = s' := Option.some.inj (hs''.symm.trans hexec)
  exact ⟨nodes', queued', hI'⟩

end PlayQueue

end Desktop

end BoxDoubao
