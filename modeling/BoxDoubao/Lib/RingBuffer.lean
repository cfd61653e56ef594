import Mathlib.Data.List.Range
import Mathlib.Data.List.Basic

/-!
# A ring of slots between two indices

An array of slots is filled at `tail` and emptied at `head`; both indices move
forward and wrap at the length of the array. The ring is full one slot before
the indices would meet again, so that equal indices mean it is empty.

`contents` is the queue a ring stands for. Filling the slot at `tail` and moving
`tail` appends to it, moving `head` removes its first element, and writing to a
slot it does not hold leaves it as it is.
-/

/-- An array of slots and the two indices. -/
structure RingBuffer (α : Type*) where
  slots : List α
  head : ℕ
  tail : ℕ

namespace RingBuffer

variable {α : Type*} (r : RingBuffer α)

/-- The index behind `i`. -/
def next (i : ℕ) : ℕ := (i + 1) % r.slots.length

/-- The `j`-th index from the head on. -/
def index (j : ℕ) : ℕ := (r.head + j) % r.slots.length

/-- The number of slots from the head to the tail. -/
def count : ℕ := if r.head ≤ r.tail then r.tail - r.head else r.tail + r.slots.length - r.head

/-- The slots from the head to the tail. -/
def contents : List (Option α) := (List.range r.count).map (fun j => r.slots[r.index j]?)

/-- The slot lies between the head and the tail. -/
def Holds (i : ℕ) : Prop := ∃ j, j < r.count ∧ r.index j = i

/-- Both indices are in the array. -/
structure Bounded : Prop where
  head : r.head < r.slots.length
  tail : r.tail < r.slots.length

/-- The slot at `i` overwritten. -/
def store (i : ℕ) (x : α) : RingBuffer α := { r with slots := r.slots.set i x }

/-- The slot at the tail is taken in. -/
def extend : RingBuffer α := { r with tail := r.next r.tail }

/-- The slot at the head is given up. -/
def advance : RingBuffer α := { r with head := r.next r.head }

variable {r} (h : r.Bounded)

/-! ### Indices -/

theorem next_eq {i : ℕ} (hi : i < r.slots.length) :
    r.next i = if i + 1 = r.slots.length then 0 else i + 1 := by
  unfold next
  by_cases hend : i + 1 = r.slots.length
  · rw [if_pos hend, hend, Nat.mod_self]
  · rw [if_neg hend]
    exact Nat.mod_eq_of_lt (by omega)

theorem next_lt {i : ℕ} (hi : i < r.slots.length) : r.next i < r.slots.length :=
  Nat.mod_lt _ (by omega)

theorem length_contents : r.contents.length = r.count := by
  rw [contents, List.length_map, List.length_range]

include h

theorem index_eq {j : ℕ} (hj : j < r.slots.length) :
    r.index j =
      if r.head + j < r.slots.length then r.head + j else r.head + j - r.slots.length := by
  have hhead := h.head
  unfold index
  by_cases hwrap : r.head + j < r.slots.length
  · rw [if_pos hwrap]
    exact Nat.mod_eq_of_lt hwrap
  · rw [if_neg hwrap, Nat.mod_eq_sub_mod (not_lt.mp hwrap)]
    exact Nat.mod_eq_of_lt (by omega)

/-- At least one slot is free. -/
theorem count_lt : r.count < r.slots.length := by
  have hhead := h.head
  have htail := h.tail
  unfold count
  split <;> omega

theorem count_eq_zero_iff : r.count = 0 ↔ r.head = r.tail := by
  have hhead := h.head
  have htail := h.tail
  unfold count
  split <;> omega

theorem index_zero : r.index 0 = r.head := Nat.mod_eq_of_lt h.head

/-- The slot behind the last one is the tail. -/
theorem index_count : r.index r.count = r.tail := by
  have hhead := h.head
  have htail := h.tail
  rw [index_eq h (count_lt h)]
  unfold count
  split <;> split <;> omega

theorem index_injective {i j : ℕ} (hi : i < r.slots.length) (hj : j < r.slots.length)
    (heq : r.index i = r.index j) : i = j := by
  have hhead := h.head
  -- both before the wrap, both behind it, or one of each, which would be too far apart
  rw [index_eq h hi, index_eq h hj] at heq
  split at heq <;> split at heq <;> omega

theorem not_holds_tail : ¬ r.Holds r.tail := by
  rintro ⟨j, hj, hindex⟩
  have hcount := count_lt h
  -- the tail is the slot behind the last one, and no index is met twice
  rw [← index_count h] at hindex
  have heq := index_injective h (by omega) hcount hindex
  omega

/-! ### A slot written -/

omit h in
theorem length_store (i : ℕ) (x : α) : (r.store i x).slots.length = r.slots.length :=
  List.length_set

theorem bounded_store (i : ℕ) (x : α) : (r.store i x).Bounded :=
  ⟨by rw [length_store]; exact h.head, by rw [length_store]; exact h.tail⟩

omit h in
theorem count_store (i : ℕ) (x : α) : (r.store i x).count = r.count := by
  unfold count
  rw [length_store]
  rfl

omit h in
theorem index_store (i : ℕ) (x : α) (j : ℕ) : (r.store i x).index j = r.index j := by
  unfold index
  rw [length_store]
  rfl

omit h in
theorem holds_store_iff {i j : ℕ} {x : α} : (r.store i x).Holds j ↔ r.Holds j := by
  unfold Holds
  rw [count_store]
  simp only [index_store]

omit h in
/-- A slot outside the contents may be written. -/
theorem contents_store {i : ℕ} (x : α) (hi : ¬ r.Holds i) :
    (r.store i x).contents = r.contents := by
  unfold contents
  rw [count_store]
  apply List.map_congr_left
  intro j hj
  -- the slot read is not the one written
  have hne : i ≠ r.index j := fun heq => hi ⟨j, List.mem_range.mp hj, heq.symm⟩
  rw [index_store]
  exact List.getElem?_set_ne hne

/-! ### The tail moved -/

theorem bounded_extend : r.extend.Bounded := ⟨h.head, next_lt h.tail⟩

theorem count_extend (hroom : r.next r.tail ≠ r.head) : r.extend.count = r.count + 1 := by
  have hhead := h.head
  have htail := h.tail
  rw [next_eq h.tail] at hroom
  show (if r.head ≤ r.next r.tail then r.next r.tail - r.head
    else r.next r.tail + r.slots.length - r.head) = _
  rw [next_eq h.tail]
  unfold count
  -- the tail wraps or not, and the head is on either side of it
  split_ifs at hroom ⊢ <;> omega

/-- **Filling** appends the slot at the tail. -/
theorem contents_extend (hroom : r.next r.tail ≠ r.head) :
    r.extend.contents = r.contents ++ [r.slots[r.tail]?] := by
  show (List.range r.extend.count).map (fun j => r.slots[r.index j]?) = _
  rw [count_extend h hroom, List.range_succ, List.map_append, List.map_singleton, index_count h]
  rfl

theorem holds_extend_iff (hroom : r.next r.tail ≠ r.head) {i : ℕ} :
    r.extend.Holds i ↔ r.Holds i ∨ i = r.tail := by
  constructor
  · rintro ⟨j, hj, hindex⟩
    rw [count_extend h hroom] at hj
    rcases Nat.lt_succ_iff_lt_or_eq.mp hj with hj | rfl
    · exact Or.inl ⟨j, hj, hindex⟩
    · exact Or.inr (hindex.symm.trans (index_count h))
  · rintro (⟨j, hj, hindex⟩ | rfl)
    · exact ⟨j, by rw [count_extend h hroom]; omega, hindex⟩
    · exact ⟨r.count, by rw [count_extend h hroom]; omega, index_count h⟩

/-! ### The head moved -/

theorem bounded_advance : r.advance.Bounded := ⟨next_lt h.head, h.tail⟩

theorem count_advance (hne : r.head ≠ r.tail) : r.count = r.advance.count + 1 := by
  have hhead := h.head
  have htail := h.tail
  show _ = (if r.next r.head ≤ r.tail then r.tail - r.next r.head
    else r.tail + r.slots.length - r.next r.head) + 1
  rw [next_eq h.head]
  unfold count
  split_ifs <;> omega

omit h in
theorem index_advance (j : ℕ) : r.advance.index j = r.index (j + 1) := by
  show ((r.head + 1) % r.slots.length + j) % r.slots.length = (r.head + (j + 1)) % r.slots.length
  rw [Nat.mod_add_mod, Nat.add_assoc, Nat.add_comm 1]

/-- **Emptying** removes the slot at the head. -/
theorem contents_advance (hne : r.head ≠ r.tail) :
    r.contents = r.slots[r.head]? :: r.advance.contents := by
  unfold contents
  rw [count_advance h hne, List.range_succ_eq_map, List.map_cons, List.map_map, index_zero h]
  congr 1
  apply List.map_congr_left
  intro j _
  exact congrArg (r.slots[·]?) (index_advance j).symm

theorem holds_iff_advance (hne : r.head ≠ r.tail) {i : ℕ} :
    r.Holds i ↔ r.advance.Holds i ∨ i = r.head := by
  constructor
  · rintro ⟨j, hj, hindex⟩
    cases j with
    | zero => exact Or.inr (hindex.symm.trans (index_zero h))
    | succ j =>
      rw [count_advance h hne] at hj
      exact Or.inl ⟨j, by omega, (index_advance j).trans hindex⟩
  · rintro (⟨j, hj, hindex⟩ | rfl)
    · exact ⟨j + 1, by rw [count_advance h hne]; omega, (index_advance j).symm.trans hindex⟩
    · exact ⟨0, by rw [count_advance h hne]; omega, index_zero h⟩

theorem not_holds_head (hne : r.head ≠ r.tail) : ¬ r.advance.Holds r.head := by
  rintro ⟨j, hj, hindex⟩
  have hcount := count_lt h
  rw [count_advance h hne] at hcount
  -- the old head has index 0, which none of the later slots has
  rw [index_advance, ← index_zero h] at hindex
  have heq := index_injective h (by omega) (by omega) hindex
  omega

end RingBuffer
