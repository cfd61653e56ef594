import Mathlib.Data.List.ReduceOption

/-!
# Extraction loops

A source is asked for its next item over and over. It answers with an item,
with a mark that says something was lost, or with nothing when there is no
more for now. `some` is an item and `none` a mark, so what a source has to
say is a list of options.

`whileItem` is the loop that stops at any answer that is not an item. A mark
is then taken off the source although what lies behind it is not looked at.
`whileItem_count_eq_iff` says when the loop leaves nothing behind: when no
mark has anything behind it (`MarkLast`). There it is the same as handling
all the items in a row (`whileItem_of_markLast`), and handling items in a row
composes (`runAll_append`), which is why such a loop does not depend on where
the source is cut.
-/

namespace Extraction

variable {σ α ο : Type*}

/-! ### Handling items in a row -/

/-- The state after a list of items, with everything that was emitted. -/
def runAll (f : σ → α → σ × List ο) : σ → List α → σ × List ο
  | s, [] => (s, [])
  | s, x :: xs =>
    let r := f s x
    let t := runAll f r.1 xs
    (t.1, r.2 ++ t.2)

variable (f : σ → α → σ × List ο)

@[simp] theorem runAll_nil (s : σ) : runAll f s [] = (s, []) := rfl

theorem runAll_cons (s : σ) (x : α) (xs : List α) :
    runAll f s (x :: xs) =
      ((runAll f (f s x).1 xs).1, (f s x).2 ++ (runAll f (f s x).1 xs).2) := rfl

/-- Two lists of items in a row are one list. -/
theorem runAll_append (s : σ) (xs ys : List α) :
    runAll f s (xs ++ ys) =
      ((runAll f (runAll f s xs).1 ys).1,
        (runAll f s xs).2 ++ (runAll f (runAll f s xs).1 ys).2) := by
  induction xs generalizing s with
  | nil => rfl
  | cons x xs ih =>
    rw [List.cons_append, runAll_cons, ih, runAll_cons, List.append_assoc]

/-- One item at the end. -/
theorem runAll_snoc (s : σ) (xs : List α) (x : α) :
    runAll f s (xs ++ [x]) =
      ((f (runAll f s xs).1 x).1, (runAll f s xs).2 ++ (f (runAll f s xs).1 x).2) := by
  rw [runAll_append, runAll_cons, runAll_nil, List.append_nil]

/-- **The invariant rule** over a list of items. -/
theorem runAll_inv {I : σ → Prop} (hstep : ∀ s x, I s → I (f s x).1) {s : σ} (hI : I s)
    (xs : List α) : I (runAll f s xs).1 := by
  induction xs generalizing s with
  | nil => exact hI
  | cons x xs ih => exact ih (hstep s x hI)

/-! ### Marks -/

/-- No mark has anything behind it. -/
def MarkLast (rs : List (Option α)) : Prop :=
  ∀ earlier later, rs = earlier ++ none :: later → later = []

theorem MarkLast.nil : MarkLast ([] : List (Option α)) := by
  intro earlier later h
  exact absurd h.symm (by simp)

/-- What is left of a list without an item at its front has the same marks. -/
theorem markLast_some_cons {x : α} {rs : List (Option α)} :
    MarkLast (some x :: rs) ↔ MarkLast rs := by
  constructor
  · intro h earlier later hrs
    exact h (some x :: earlier) later (by rw [hrs, List.cons_append])
  · intro h earlier later hrs
    cases earlier with
    | nil => exact absurd (List.head_eq_of_cons_eq hrs) (by simp)
    | cons e earlier => exact h earlier later (List.tail_eq_of_cons_eq hrs)

theorem markLast_none_cons {rs : List (Option α)} : MarkLast (none :: rs) ↔ rs = [] := by
  constructor
  · intro h
    exact h [] rs rfl
  · rintro rfl earlier later hrs
    cases earlier with
    | nil => exact (List.tail_eq_of_cons_eq hrs).symm
    | cons e earlier => exact absurd (List.tail_eq_of_cons_eq hrs).symm (by simp)

theorem MarkLast.map_some (xs : List α) : MarkLast (xs.map some) := by
  induction xs with
  | nil => exact MarkLast.nil
  | cons x xs ih => exact markLast_some_cons.mpr ih

theorem MarkLast.front {rs rs' : List (Option α)} (h : MarkLast rs') (hpre : rs <+: rs') :
    MarkLast rs := by
  obtain ⟨more, rfl⟩ := hpre
  intro earlier later hrs
  have hlater : later ++ more = [] := h earlier (later ++ more) (by rw [hrs]; simp)
  exact (List.append_eq_nil_iff.mp hlater).1

theorem MarkLast.back {rs rs' : List (Option α)} (h : MarkLast rs') (hsuf : rs <:+ rs') :
    MarkLast rs := by
  obtain ⟨more, rfl⟩ := hsuf
  intro earlier later hrs
  exact h (more ++ earlier) later (by rw [hrs, List.append_assoc])

/-- Such a list is a list of items, with at most one mark at its end. -/
theorem MarkLast.prefix_items {rs : List (Option α)} (h : MarkLast rs) :
    rs.reduceOption.map some <+: rs := by
  induction rs with
  | nil => exact List.prefix_rfl
  | cons r rs ih =>
    cases r with
    | none =>
      rw [markLast_none_cons.mp h]
      exact List.nil_prefix
    | some x =>
      rw [List.reduceOption_cons_of_some, List.map_cons, List.cons_prefix_cons]
      exact ⟨rfl, ih (markLast_some_cons.mp h)⟩

theorem reduceOption_map_some (xs : List α) : (xs.map some).reduceOption = xs := by
  induction xs with
  | nil => rfl
  | cons x xs ih => rw [List.map_cons, List.reduceOption_cons_of_some, ih]

/-- The items before the first mark, which are those a loop that stops at a
mark takes. -/
def items : List (Option α) → List α
  | some x :: rs => x :: items rs
  | none :: _ => []
  | [] => []

theorem items_map_some (xs : List α) : items (xs.map some) = xs := by
  induction xs with
  | nil => rfl
  | cons x xs ih => exact congrArg (x :: ·) ih

/-! ### The loop -/

/-- `while (next(&x) == 1) { body }`: the state at the end, the number of
answers that were taken, and everything that was emitted. -/
def whileItem (f : σ → α → σ × List ο) : σ → List (Option α) → σ × ℕ × List ο
  | s, [] => (s, 0, [])
  | s, none :: _ => (s, 1, [])
  | s, some x :: rs =>
    let r := f s x
    let t := whileItem f r.1 rs
    (t.1, t.2.1 + 1, r.2 ++ t.2.2)

/-- **The invariant rule** for the loop. -/
theorem whileItem_inv {I : σ → Prop} (hstep : ∀ s x, I s → I (f s x).1) {s : σ} (hI : I s)
    (rs : List (Option α)) : I (whileItem f s rs).1 := by
  induction rs generalizing s with
  | nil => exact hI
  | cons r rs ih =>
    cases r with
    | none => exact hI
    | some x => exact ih (hstep s x hI)

/-- **The loop leaves nothing behind exactly when no mark has anything behind
it.** -/
theorem whileItem_count_eq_iff (s : σ) (rs : List (Option α)) :
    (whileItem f s rs).2.1 = rs.length ↔ MarkLast rs := by
  induction rs generalizing s with
  | nil => exact iff_of_true rfl MarkLast.nil
  | cons r rs ih =>
    cases r with
    | none =>
      -- the mark is taken and the rest is not looked at
      rw [markLast_none_cons]
      show 1 = rs.length + 1 ↔ rs = []
      rw [← List.length_eq_zero_iff]
      omega
    | some x =>
      rw [markLast_some_cons, ← ih (f s x).1]
      exact Nat.succ_inj

theorem whileItem_count_le (s : σ) (rs : List (Option α)) :
    (whileItem f s rs).2.1 ≤ rs.length := by
  induction rs generalizing s with
  | nil => exact Nat.le_refl 0
  | cons r rs ih =>
    cases r with
    | none => exact Nat.succ_le_succ (Nat.zero_le _)
    | some x => exact Nat.succ_le_succ (ih (f s x).1)

theorem drop_whileItem_eq_nil_iff (s : σ) (rs : List (Option α)) :
    rs.drop (whileItem f s rs).2.1 = [] ↔ MarkLast rs := by
  rw [List.drop_eq_nil_iff, ← whileItem_count_eq_iff f s rs]
  exact ⟨fun h => Nat.le_antisymm (whileItem_count_le f s rs) h, fun h => Nat.le_of_eq h.symm⟩

/-- There it is the same as handling the items in a row. -/
theorem whileItem_of_markLast (s : σ) {rs : List (Option α)} (h : MarkLast rs) :
    whileItem f s rs =
      ((runAll f s rs.reduceOption).1, rs.length, (runAll f s rs.reduceOption).2) := by
  induction rs generalizing s with
  | nil => rfl
  | cons r rs ih =>
    cases r with
    | none =>
      rw [markLast_none_cons.mp h]
      rfl
    | some x =>
      rw [List.reduceOption_cons_of_some, runAll_cons]
      simp only [whileItem, ih (f s x).1 (markLast_some_cons.mp h), List.length_cons]

theorem whileItem_map_some (s : σ) (xs : List α) :
    whileItem f s (xs.map some) = ((runAll f s xs).1, xs.length, (runAll f s xs).2) := by
  rw [whileItem_of_markLast f s (MarkLast.map_some xs), reduceOption_map_some, List.length_map]

end Extraction
