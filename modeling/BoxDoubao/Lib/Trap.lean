import BoxDoubao.Lib.CMemory

/-!
# Computations that neither leave their objects nor wrap

The arithmetic of `CMemory` wraps silently. `addTrap`, `subTrap` and `mulTrap`
are the same operations on a machine that stops with `Fault.wrapped` instead,
and a function is written a second time with them to say that it does not
depend on wrapping: where both versions end alike, no sum, difference or
product in it has wrapped.

`Safe t x P` says this of a computation `x` with its trapping version `t`,
together with what a memory-safety proof needs: `x` does not access memory out
of bounds, and `P` holds of its result. Its rules follow the statements of a
C function: `Safe.bind` is sequencing, `Safe.ite` is `if`, `Safe.add` is a sum
whose bound is known, `Safe.load` and its siblings are the accesses.
-/

namespace CMemory

/-- How a computation on a trapping machine can stop early. -/
inductive Fault where
  | wrapped
  | stop (e : Stop)
  deriving DecidableEq, Repr

/-- A step in which nothing is computed with `size_t`. -/
def noTrap {α : Type} : Except Stop α → Except Fault α
  | .ok a => .ok a
  | .error e => .error (.stop e)

/-- `a + b`. -/
def addTrap (a b : ℕ) : Except Fault ℕ :=
  if a + b < 4294967296 then .ok (a + b) else .error .wrapped

/-- `a - b`. -/
def subTrap (a b : ℕ) : Except Fault ℕ :=
  if b ≤ a then .ok (a - b) else .error .wrapped

/-- `a * b`. -/
def mulTrap (a b : ℕ) : Except Fault ℕ :=
  if a * b < 4294967296 then .ok (a * b) else .error .wrapped

/-- `x` stays inside its objects, `t` is its trapping version and ends alike,
and `P` holds of the result. -/
structure Safe {α : Type} (t : Except Fault α) (x : Except Stop α) (P : α → Prop) : Prop where
  same : t = noTrap x
  inBounds : x ≠ .error .outOfBounds
  result : ∀ a, x = .ok a → P a

namespace Safe

variable {α β : Type} {t : Except Fault α} {x : Except Stop α} {P : α → Prop}

theorem pure {a : α} (h : P a) : Safe (Except.ok a) (Except.ok a) P where
  same := rfl
  inBounds := nofun
  result := by
    rintro b hb
    exact Except.ok.inj hb ▸ h

/-- The function's own early failure. -/
theorem fail : Safe (.error (.stop .failure)) (.error .failure) P where
  same := rfl
  inBounds := nofun
  result := nofun

/-- How a safe computation ends. -/
theorem cases (h : Safe t x P) :
    (∃ e, t = .error (.stop e) ∧ x = .error e ∧ e ≠ .outOfBounds) ∨
    (∃ a, t = .ok a ∧ x = .ok a ∧ P a) := by
  have ht := h.same
  cases hx : x with
  | error e =>
    rw [hx] at ht
    exact Or.inl ⟨e, ht, rfl, fun he => h.inBounds (by rw [hx, he])⟩
  | ok a =>
    rw [hx] at ht
    exact Or.inr ⟨a, ht, rfl, h.result a hx⟩

/-- **Sequencing.** -/
theorem bind {R : β → Prop} {f : α → Except Fault β} {g : α → Except Stop β} (h : Safe t x P)
    (hf : ∀ a, P a → Safe (f a) (g a) R) : Safe (t >>= f) (x >>= g) R := by
  obtain ⟨e, rfl, rfl, he⟩ | ⟨a, rfl, rfl, ha⟩ := h.cases
  · exact ⟨rfl, fun hc => he (Except.error.inj hc), nofun⟩
  · exact hf a ha

theorem ite {c : Prop} [Decidable c] {t' : Except Fault α} {x' : Except Stop α}
    (h : c → Safe t x P) (h' : ¬ c → Safe t' x' P) :
    Safe (if c then t else t') (if c then x else x') P := by
  by_cases hc : c
  · rw [if_pos hc, if_pos hc]
    exact h hc
  · rw [if_neg hc, if_neg hc]
    exact h' hc

/-- A value that the trapping version computes as well. -/
theorem value {a : β} {v : Except Fault β} {f : β → Except Fault α} (hv : v = .ok a)
    (h : Safe (f a) x P) : Safe (v >>= f) x P := by
  rw [hv]
  exact h

/-- A sum that fits. -/
theorem add {a b : ℕ} {f : ℕ → Except Fault α} (hfit : a + b < 4294967296)
    (h : Safe (f (a + b)) x P) : Safe (addTrap a b >>= f) x P :=
  value (if_pos hfit) h

/-- A step without `size_t` arithmetic that does not fail. -/
theorem noTrap {a : α} (hx : x = .ok a) (h : P a) : Safe (noTrap x) x P := by
  subst hx
  exact Safe.pure h

theorem load {p : Bytes} {i : ℕ} (h : i < p.length) :
    Safe (CMemory.noTrap (load p i)) (load p i) (fun _ => True) := by
  refine Safe.noTrap (a := p[i]) ?_ trivial
  unfold CMemory.load
  rw [List.getElem?_eq_getElem h]

theorem loadRange {p : Bytes} {i n : ℕ} (h : i + n ≤ p.length) :
    Safe (CMemory.noTrap (loadRange p i n)) (loadRange p i n) (fun src => src.length = n) := by
  refine Safe.noTrap (if_pos h) ?_
  rw [List.length_take, List.length_drop]
  omega

theorem loadBe32 {p : Bytes} {i : ℕ} (h : i + 4 ≤ p.length) :
    Safe (CMemory.noTrap (loadBe32 p i)) (loadBe32 p i) (fun _ => True) := by
  obtain ⟨v, -, -, hv⟩ := loadBe32_of_le h
  exact Safe.noTrap hv trivial

end Safe

/-- A call that uses the allocator: it is safe, the trapping version makes the
same requests, and a failed call has given back every buffer it was handed. -/
structure SafeCall {α : Type} (heap : Heap) (t : Except Fault α × Heap)
    (x : Except Stop α × Heap) (P : α → Prop) : Prop where
  safe : Safe t.1 x.1 P
  heap_eq : t.2 = x.2
  freed : ∀ e, x.1 = .error e → x.2.live = heap.live

namespace SafeCall

variable {α : Type} {heap : Heap} {P : α → Prop}

theorem fail {heap' : Heap} (h : heap'.live = heap.live) :
    SafeCall heap (.error (.stop .failure), heap') (.error .failure, heap') P :=
  ⟨Safe.fail, rfl, fun _ _ => h⟩

theorem ok {heap' : Heap} {a : α} (h : P a) : SafeCall heap (.ok a, heap') (.ok a, heap') P :=
  ⟨Safe.pure h, rfl, nofun⟩

theorem ite {c : Prop} [Decidable c] {t t' : Except Fault α × Heap} {x x' : Except Stop α × Heap}
    (h : c → SafeCall heap t x P) (h' : ¬ c → SafeCall heap t' x' P) :
    SafeCall heap (if c then t else t') (if c then x else x') P := by
  by_cases hc : c
  · rw [if_pos hc, if_pos hc]
    exact h hc
  · rw [if_neg hc, if_neg hc]
    exact h' hc

theorem error {heap' : Heap} {e : Stop} (he : e ≠ .outOfBounds) (h : heap'.live = heap.live) :
    SafeCall heap (.error (.stop e), heap') (.error e, heap') P :=
  ⟨⟨rfl, fun hc => he (Except.error.inj hc), nofun⟩, rfl, fun _ _ => h⟩

/-- How a safe call ends. -/
theorem cases {t : Except Fault α × Heap} {x : Except Stop α × Heap} (h : SafeCall heap t x P) :
    (∃ e heap', t = (.error (.stop e), heap') ∧ x = (.error e, heap') ∧ e ≠ .outOfBounds ∧
      heap'.live = heap.live) ∨
    (∃ a heap', t = (.ok a, heap') ∧ x = (.ok a, heap') ∧ P a) := by
  obtain ⟨t, heap₁⟩ := t
  obtain ⟨x, heap₂⟩ := x
  obtain rfl : heap₁ = heap₂ := h.heap_eq
  obtain ⟨e, ht, hx, he⟩ | ⟨a, ht, hx, ha⟩ := h.safe.cases
  · obtain rfl : t = _ := ht
    obtain rfl : x = _ := hx
    exact Or.inl ⟨e, heap₁, rfl, rfl, he, h.freed e rfl⟩
  · obtain rfl : t = _ := ht
    obtain rfl : x = _ := hx
    exact Or.inr ⟨a, heap₁, rfl, rfl, ha⟩

end SafeCall

end CMemory
