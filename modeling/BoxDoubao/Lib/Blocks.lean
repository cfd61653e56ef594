import BoxDoubao.Lib.CMemory

/-!
# Blocks handed out by an allocator

A block has a number, given in the order of allocation, and holds a value as
long as it is live. Reading or freeing a block that is not live is undefined
behaviour, so a program that never stops there frees no block twice and uses
none after it was freed.

`fifo freed values` is the store after `values` were allocated in order and the
first `freed` of them given back in the same order.
-/

namespace CMemory

/-- All blocks ever allocated; those given back are `none`. -/
structure Blocks (μ : Type*) where
  cells : List (Option μ)

namespace Blocks

variable {μ : Type*} (b : Blocks μ)

def empty : Blocks μ := ⟨[]⟩

/-- The number of the new block, and the store with it. -/
def alloc (m : μ) : ℕ × Blocks μ := (b.cells.length, ⟨b.cells ++ [some m]⟩)

def get (k : ℕ) : Except Stop μ :=
  match b.cells[k]? with
  | some (some m) => .ok m
  | _ => .error .outOfBounds

def free (k : ℕ) : Except Stop (Blocks μ) :=
  match b.cells[k]? with
  | some (some _) => .ok ⟨b.cells.set k none⟩
  | _ => .error .outOfBounds

/-- The block can be read. -/
def Live (k : ℕ) : Prop := ∃ m, b.get k = .ok m

/-! ### First in, first out -/

/-- The blocks of `values`, the first `freed` of which were given back. -/
def fifo (freed : ℕ) (values : List μ) : Blocks μ :=
  ⟨List.replicate freed none ++ (values.drop freed).map some⟩

variable {freed : ℕ} {values : List μ}

theorem fifo_cells_ge {k : ℕ} (hk : freed ≤ k) :
    (fifo freed values).cells[k]? = values[k]?.map some := by
  show (List.replicate freed none ++ _)[k]? = _
  rw [List.getElem?_append_right (by rw [List.length_replicate]; exact hk), List.length_replicate,
    List.getElem?_map, List.getElem?_drop, Nat.add_sub_cancel' hk]

theorem get_fifo {k : ℕ} {m : μ} (hk : freed ≤ k) (hm : values[k]? = some m) :
    (fifo freed values).get k = .ok m := by
  unfold get
  rw [fifo_cells_ge hk, hm]
  rfl

theorem alloc_fifo (m : μ) (hle : freed ≤ values.length) :
    (fifo freed values).alloc m = (values.length, fifo freed (values ++ [m])) := by
  have hlen : (fifo freed values).cells.length = values.length := by
    show (List.replicate freed none ++ _).length = _
    rw [List.length_append, List.length_replicate, List.length_map, List.length_drop]
    omega
  refine Prod.ext hlen ?_
  show Blocks.mk (List.replicate freed none ++ (values.drop freed).map some ++ [some m]) = _
  rw [fifo, List.drop_append_of_le_length hle, List.map_append, List.append_assoc]
  rfl

theorem free_fifo (hlt : freed < values.length) :
    (fifo freed values).free freed = .ok (fifo (freed + 1) values) := by
  have hcell : (fifo freed values).cells[freed]? = some (some values[freed]) := by
    rw [fifo_cells_ge le_rfl, List.getElem?_eq_getElem hlt]
    rfl
  unfold free
  rw [hcell]
  refine congrArg (fun cells => Except.ok (Blocks.mk cells)) ?_
  show (List.replicate freed none ++ (values.drop freed).map some).set freed none = _
  rw [List.drop_eq_getElem_cons hlt, List.map_cons, List.set_append_right _ _ (by simp),
    List.length_replicate, Nat.sub_self, List.set_cons_zero, List.replicate_succ',
    List.append_assoc]
  rfl

end Blocks

end CMemory
