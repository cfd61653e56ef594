import Mathlib.Data.List.Basic
import Mathlib.Data.List.Nodup
import Mathlib.Logic.Function.Basic

/-!
# Queues of linked cells

A heap of cells, each with its data and the address of the next one, and a
queue that knows the first cell, the last one and how many there are. Reading,
writing or freeing a cell that is not allocated is a fault, `none`.

`Chain h p as` says that the links lead from `p` through the cells at `as` and
end there. `Represents h q as xs` says that the queue `q` consists of the cells
at `as`, which are distinct and hold `xs`. It depends on the heap at `as` only
(`Represents.congr`), so what happens to other cells leaves it alone. The rules
for a queue that is worked on are `link_empty` and `link_last` for a cell added
behind the last one, `take` for the first cell taken out, and `free_first` for
a loop that frees the cells one after the other.
-/

namespace LinkedQueue

variable {A α : Type*}

structure Cell (A α : Type*) where
  data : α
  next : Option A

/-- The cells by their addresses, `none` where nothing is allocated. -/
abbrev Cells (A α : Type*) := A → Option (Cell A α)

structure Queue (A : Type*) where
  head : Option A
  tail : Option A
  count : ℕ

/-- From `p` on, the links lead through the cells at `as` and end. -/
def Chain (h : Cells A α) : Option A → List A → Prop
  | p, [] => p = none
  | p, a :: as => p = some a ∧ ∃ c, h a = some c ∧ Chain h c.next as

/-- The queue consists of the cells at `as`, which hold `xs`. -/
structure Represents (h : Cells A α) (q : Queue A) (as : List A) (xs : List α) : Prop where
  chain : Chain h q.head as
  tail : q.tail = as.getLast?
  count : q.count = as.length
  nodup : as.Nodup
  contents : as.map (fun a => (h a).map Cell.data) = xs.map some

section

variable {h h' : Cells A α} {p : Option A} {q : Queue A} {a : A} {as : List A} {x : α} {xs : List α}

theorem Chain.congr (hagree : ∀ a ∈ as, h' a = h a) (hchain : Chain h p as) : Chain h' p as := by
  induction as generalizing p with
  | nil => exact hchain
  | cons a as ih =>
    obtain ⟨hp, c, hc, hrest⟩ := hchain
    obtain ⟨ha, has⟩ := List.forall_mem_cons.mp hagree
    exact ⟨hp, c, ha.trans hc, ih has hrest⟩

/-- The cells of a chain are allocated. -/
theorem Chain.isSome (hchain : Chain h p as) : ∀ a ∈ as, (h a).isSome := by
  induction as generalizing p with
  | nil => exact List.forall_mem_nil _
  | cons a as ih =>
    obtain ⟨-, c, hc, hrest⟩ := hchain
    rw [List.forall_mem_cons]
    exact ⟨by rw [hc]; rfl, ih hrest⟩

theorem Represents.congr (hagree : ∀ a ∈ as, h' a = h a) (hrep : Represents h q as xs) :
    Represents h' q as xs where
  chain := hrep.chain.congr hagree
  tail := hrep.tail
  count := hrep.count
  nodup := hrep.nodup
  contents := by
    rw [← hrep.contents]
    exact List.map_congr_left fun a ha => congrArg (Option.map Cell.data) (hagree a ha)

theorem Represents.empty (h : Cells A α) : Represents h ⟨none, none, 0⟩ [] [] :=
  ⟨rfl, rfl, rfl, List.nodup_nil, rfl⟩

theorem Represents.length_eq (hrep : Represents h q as xs) : as.length = xs.length := by
  have := congrArg List.length hrep.contents
  rwa [List.length_map, List.length_map] at this

/-- The head is `NULL` exactly when the queue is empty, and so is the tail. -/
theorem Represents.head_eq_none_iff (hrep : Represents h q as xs) : q.head = none ↔ as = [] := by
  have hchain := hrep.chain
  cases as with
  | nil => exact iff_of_true hchain rfl
  | cons a as =>
    rw [hchain.1]
    exact iff_of_false (Option.some_ne_none a) (List.cons_ne_nil a as)

theorem Represents.tail_eq_none_iff (hrep : Represents h q as xs) : q.tail = none ↔ as = [] := by
  rw [hrep.tail, List.getLast?_eq_none_iff]

/-- The first cell. -/
theorem Represents.cases_head (hrep : Represents h q as xs) (ha : q.head = some a) :
    ∃ c as' xs', h a = some c ∧ as = a :: as' ∧ xs = c.data :: xs' := by
  have hchain := hrep.chain
  have hcontents := hrep.contents
  cases as with
  | nil => exact absurd (hchain.symm.trans ha) (Option.some_ne_none a).symm
  | cons b as' =>
    obtain ⟨hb, c, hc, -⟩ := hchain
    obtain rfl := Option.some.inj (hb.symm.trans ha)
    cases xs with
    | nil => cases hcontents
    | cons x xs' =>
      rw [List.map_cons, List.map_cons, hc] at hcontents
      obtain ⟨hx, -⟩ := List.cons.inj hcontents
      exact ⟨c, as', xs', hc, rfl, congrArg (· :: xs') (Option.some.inj hx).symm⟩

/-- **The first cell is taken out.** -/
theorem Represents.take {c : Cell A α} (hrep : Represents h q (a :: as) (x :: xs))
    (hc : h a = some c) :
    Represents h ⟨c.next, if c.next = none then none else q.tail, q.count - 1⟩ as xs := by
  obtain ⟨-, d, hd, hrest⟩ := hrep.chain
  obtain rfl := Option.some.inj (hc.symm.trans hd)
  have hcount := hrep.count
  have hcontents := hrep.contents
  rw [List.map_cons, List.map_cons] at hcontents
  refine ⟨hrest, ?_, ?_, (List.nodup_cons.mp hrep.nodup).2, (List.cons.inj hcontents).2⟩
  · -- the tail changes only when no cell is left
    cases as with
    | nil => exact if_pos hrest
    | cons b as =>
      rw [if_neg (by rw [hrest.1]; exact Option.some_ne_none b), hrep.tail, List.getLast?_cons_cons]
  · rw [hcount, List.length_cons, Nat.add_sub_cancel]

/-- **A cell is added to an empty queue.** -/
theorem Represents.link_empty (hrep : Represents h q as xs) (htail : q.tail = none)
    (hcell : h a = some ⟨x, none⟩) :
    Represents h ⟨some a, some a, q.count + 1⟩ (as ++ [a]) (xs ++ [x]) := by
  obtain rfl := hrep.tail_eq_none_iff.mp htail
  obtain rfl : xs = [] := List.eq_nil_of_length_eq_zero hrep.length_eq.symm
  refine ⟨⟨rfl, _, hcell, rfl⟩, rfl, ?_, List.nodup_singleton a, ?_⟩
  · rw [hrep.count]
    rfl
  · rw [List.nil_append, List.map_singleton, hcell]
    rfl

end

section

variable [DecidableEq A] {h h' : Cells A α} {p : Option A} {q : Queue A} {a : A} {as : List A}
  {x : α} {xs : List α}

/-- `a->next = p`. -/
def setNext (h : Cells A α) (a : A) (p : Option A) : Option (Cells A α) :=
  (h a).map fun c => Function.update h a (some { c with next := p })

/-- `free(a)`. -/
def free (h : Cells A α) (a : A) : Option (Cells A α) :=
  (h a).map fun _ => Function.update h a none

theorem free_of_some {c : Cell A α} (hc : h a = some c) :
    free h a = some (Function.update h a none) := by
  rw [free, hc]
  rfl

/-- A change to another cell. -/
theorem Represents.update {b : A} (v : Option (Cell A α)) (hrep : Represents h q as xs)
    (hb : b ∉ as) : Represents (Function.update h b v) q as xs :=
  hrep.congr fun _ ha => Function.update_of_ne (ne_of_mem_of_not_mem ha hb) _ _

theorem Chain.snoc {t : A} (hchain : Chain h p (as ++ [t])) (hnodup : (as ++ [t]).Nodup)
    (ha : a ∉ as ++ [t]) (hcell : h a = some ⟨x, none⟩) (hset : setNext h t (some a) = some h') :
    Chain h' p (as ++ [t] ++ [a]) := by
  induction as generalizing p with
  | nil =>
    obtain ⟨hp, c, hc, -⟩ := hchain
    rw [setNext, hc] at hset
    obtain rfl := Option.some.inj hset
    have hne : a ≠ t := fun heq => ha (heq ▸ List.mem_singleton_self t)
    refine ⟨hp, _, Function.update_self _ _ _, rfl, ⟨x, none⟩, ?_, rfl⟩
    exact (Function.update_of_ne hne _ _).trans hcell
  | cons b as ih =>
    obtain ⟨hp, c, hc, hrest⟩ := hchain
    obtain ⟨hb, hnodup⟩ := List.nodup_cons.mp hnodup
    refine ⟨hp, c, ?_, ih hrest hnodup fun hmem => ha (List.mem_cons_of_mem b hmem)⟩
    -- the cell before the last one is as it was
    have hne : b ≠ t :=
      (ne_of_mem_of_not_mem (List.mem_append_right as (List.mem_singleton_self t)) hb).symm
    obtain ⟨d, -, rfl⟩ := Option.map_eq_some_iff.mp hset
    exact (Function.update_of_ne hne _ _).trans hc

/-- **A cell is added behind the last one.** -/
theorem Represents.link_last {t : A} (hrep : Represents h q as xs) (htail : q.tail = some t)
    (ha : a ∉ as) (hcell : h a = some ⟨x, none⟩) :
    ∃ h', setNext h t (some a) = some h' ∧
      (∀ b, b ∉ as → h' b = h b) ∧
      Represents h' ⟨q.head, some a, q.count + 1⟩ (as ++ [a]) (xs ++ [x]) := by
  have hlast : as.getLast? = some t := hrep.tail.symm.trans htail
  obtain ⟨init, hinit⟩ := List.getLast?_eq_some_iff.mp hlast
  have ht : t ∈ as := List.mem_of_getLast? hlast
  obtain ⟨c, hc⟩ := Option.isSome_iff_exists.mp (hrep.chain.isSome t ht)
  have hset : setNext h t (some a) =
      some (Function.update h t (some { c with next := some a })) := by
    rw [setNext, hc]
    rfl
  have hother : ∀ b, b ∉ as →
      Function.update h t (some { c with next := some a }) b = h b := by
    intro b hb
    exact Function.update_of_ne (ne_of_mem_of_not_mem ht hb).symm _ _
  refine ⟨_, hset, hother, ?_, ?_, ?_, ?_, ?_⟩
  · have hchain := hrep.chain
    have hnodup := hrep.nodup
    subst hinit
    exact hchain.snoc hnodup ha hcell hset
  · rw [List.getLast?_concat]
  · rw [hrep.count, List.length_append, List.length_singleton]
  · rw [List.nodup_append_comm]
    exact List.nodup_cons.mpr ⟨ha, hrep.nodup⟩
  · rw [List.map_append, List.map_append, ← hrep.contents, List.map_singleton, List.map_singleton,
      hother a ha, hcell]
    refine congrArg (· ++ _) (List.map_congr_left fun b _ => ?_)
    -- the link of the last cell changes, not its data
    by_cases hb : b = t
    · rw [hb, Function.update_self, hc]
      rfl
    · rw [Function.update_of_ne hb]

/-- **The first cell is freed**, and the rest of the chain is there. -/
theorem Chain.free_first {c : Cell A α} (hchain : Chain h (some a) (a :: as))
    (hnodup : (a :: as).Nodup) (hc : h a = some c) :
    Chain (Function.update h a none) c.next as := by
  obtain ⟨-, d, hd, hrest⟩ := hchain
  obtain rfl := Option.some.inj (hc.symm.trans hd)
  exact hrest.congr fun b hb =>
    Function.update_of_ne (ne_of_mem_of_not_mem hb (List.nodup_cons.mp hnodup).1) _ _

end

end LinkedQueue
