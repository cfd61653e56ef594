import Mathlib.Data.List.Basic

/-!
# Partial transducers

A transducer reads one input at a time, moves its state and emits a list of
outputs; a step may also fail. `run` composes the steps over an input list and
concatenates the outputs, and fails as soon as one step does.

Two rules carry the proofs over such machines. `run_simulates` lifts a step
simulation to runs: where an abstract machine runs, the concrete one runs with
the same outputs and ends in a related state. `run_append` splits a run at any
point, which is how a property of every reached state is read off a property
of runs.

`observe` records something of every step of a run, such as whether a resource
it asked for was refused; `observe_append` splits the record where
`run_append` splits the run, and `run_observed` is the simulation by an
abstract machine that is given the record with the inputs.
-/

/-- A transducer with states `σ`, inputs `ι` and outputs `ο`. -/
structure Transducer (σ ι ο : Type*) where
  step : σ → ι → Option (σ × List ο)

namespace Transducer

variable {σ τ ι ο β : Type*} (T : Transducer σ ι ο)

/-- The state after an input list, with everything that was emitted. -/
def run : σ → List ι → Option (σ × List ο)
  | s, [] => some (s, [])
  | s, i :: is =>
    match T.step s i with
    | none => none
    | some (s', o) =>
      match run s' is with
      | none => none
      | some (s'', o') => some (s'', o ++ o')

@[simp] theorem run_nil (s : σ) : T.run s [] = some (s, []) := rfl

/-- What `p` says of each step of a run, from the state the step starts in and
its input. -/
def observe (p : σ → ι → β) : σ → List ι → List β
  | _, [] => []
  | s, i :: is =>
    p s i ::
      match T.step s i with
      | none => []
      | some (s', _) => observe p s' is

variable {T}

theorem run_cons {s s' s'' : σ} {i : ι} {is : List ι} {o o' : List ο}
    (h : T.step s i = some (s', o)) (hr : T.run s' is = some (s'', o')) :
    T.run s (i :: is) = some (s'', o ++ o') := by
  simp only [run, h, hr]

theorem run_cons_inv {s s'' : σ} {i : ι} {is : List ι} {o'' : List ο}
    (h : T.run s (i :: is) = some (s'', o'')) :
    ∃ s' o o', T.step s i = some (s', o) ∧ T.run s' is = some (s'', o') ∧ o'' = o ++ o' := by
  simp only [run] at h
  cases hs : T.step s i with
  | none =>
    rw [hs] at h
    exact absurd h (by simp)
  | some q =>
    obtain ⟨s', o⟩ := q
    rw [hs] at h
    cases hr : T.run s' is with
    | none =>
      simp only [hr] at h
      exact absurd h (by simp)
    | some q' =>
      obtain ⟨t, o'⟩ := q'
      simp only [hr, Option.some.injEq, Prod.mk.injEq] at h
      obtain ⟨rfl, rfl⟩ := h
      exact ⟨s', o, o', rfl, hr, rfl⟩

/-- Two runs in a row are one run. -/
theorem run_append {s s' s'' : σ} {is js : List ι} {o o' : List ο}
    (h : T.run s is = some (s', o)) (h' : T.run s' js = some (s'', o')) :
    T.run s (is ++ js) = some (s'', o ++ o') := by
  induction is generalizing s o with
  | nil =>
    simp only [run_nil, Option.some.injEq, Prod.mk.injEq] at h
    obtain ⟨rfl, rfl⟩ := h
    exact h'
  | cons i is ih =>
    obtain ⟨t, o₁, o₂, hs, hr, rfl⟩ := run_cons_inv h
    rw [List.append_assoc]
    exact run_cons hs (ih hr)

theorem observe_cons {p : σ → ι → β} {s s' : σ} {i : ι} {is : List ι} {o : List ο}
    (h : T.step s i = some (s', o)) :
    T.observe p s (i :: is) = p s i :: T.observe p s' is := by
  simp only [observe, h]

theorem observe_singleton (p : σ → ι → β) (s : σ) (i : ι) : T.observe p s [i] = [p s i] := by
  simp only [observe]
  cases T.step s i <;> rfl

theorem observe_append {p : σ → ι → β} {s s' : σ} {is js : List ι} {o : List ο}
    (h : T.run s is = some (s', o)) :
    T.observe p s (is ++ js) = T.observe p s is ++ T.observe p s' js := by
  induction is generalizing s o with
  | nil =>
    simp only [run_nil, Option.some.injEq, Prod.mk.injEq] at h
    obtain ⟨rfl, -⟩ := h
    rfl
  | cons i is ih =>
    obtain ⟨t, o₁, o₂, hs, hr, -⟩ := run_cons_inv h
    rw [List.cons_append, observe_cons hs, observe_cons hs, List.cons_append, ih hr]

theorem length_observe {p : σ → ι → β} {s s' : σ} {is : List ι} {o : List ο}
    (h : T.run s is = some (s', o)) : (T.observe p s is).length = is.length := by
  induction is generalizing s o with
  | nil => rfl
  | cons i is ih =>
    obtain ⟨t, o₁, o₂, hs, hr, -⟩ := run_cons_inv h
    rw [observe_cons hs, List.length_cons, List.length_cons, ih hr]

/-- A run over a concatenation passes through a state between its parts. -/
theorem run_append_inv {s s'' : σ} {is js : List ι} {o'' : List ο}
    (h : T.run s (is ++ js) = some (s'', o'')) :
    ∃ s' o o', T.run s is = some (s', o) ∧ T.run s' js = some (s'', o') ∧ o'' = o ++ o' := by
  induction is generalizing s o'' with
  | nil =>
    -- the state between the parts is the one the run starts in
    exact ⟨s, [], o'', rfl, h, rfl⟩
  | cons i is ih =>
    obtain ⟨t, o₁, o₂, hs, hr, rfl⟩ := run_cons_inv h
    obtain ⟨s', o, o', hr₁, hr₂, rfl⟩ := ih hr
    exact ⟨s', o₁ ++ o, o', run_cons hs hr₁, hr₂, (List.append_assoc _ _ _).symm⟩

/-- **Simulation.** When every step of the abstract machine `A` on an input
satisfying `P` is matched by a step of `T` with the same outputs between
related states, every run of `A` over such inputs is matched by a run of
`T`. -/
theorem run_simulates {A : Transducer τ ι ο} (R : σ → τ → Prop) (P : ι → Prop)
    (hstep : ∀ s t i t' o, R s t → P i → A.step t i = some (t', o) →
      ∃ s', T.step s i = some (s', o) ∧ R s' t')
    {is : List ι} (hP : ∀ i ∈ is, P i) {s : σ} {t t' : τ} {o : List ο} (hR : R s t)
    (hA : A.run t is = some (t', o)) :
    ∃ s', T.run s is = some (s', o) ∧ R s' t' := by
  induction is generalizing s t o with
  | nil =>
    simp only [run_nil, Option.some.injEq, Prod.mk.injEq] at hA
    obtain ⟨rfl, rfl⟩ := hA
    exact ⟨s, rfl, hR⟩
  | cons i is ih =>
    -- follow the abstract step, then the rest from the related states
    obtain ⟨u, o₁, o₂, hs, hr, rfl⟩ := run_cons_inv hA
    obtain ⟨s₁, hs₁, hR₁⟩ := hstep s t i u o₁ hR (hP i List.mem_cons_self) hs
    obtain ⟨s₂, hr₂, hR₂⟩ := ih (fun j hj => hP j (List.mem_cons_of_mem i hj)) hR₁ hr
    exact ⟨s₂, run_cons hs₁ hr₂, hR₂⟩

/-- **Simulation with a record.** When every step of `T` is matched by a step
of the abstract machine `A` that is told what `p` says of the step, every run
of `T` is matched by a run of `A` over the inputs with their record. -/
theorem run_observed {A : Transducer τ (ι × β) ο} (R : σ → τ → Prop) (p : σ → ι → β)
    (hstep : ∀ s t i, R s t → ∃ s' t' o,
      T.step s i = some (s', o) ∧ A.step t (i, p s i) = some (t', o) ∧ R s' t')
    (is : List ι) {s : σ} {t : τ} (hR : R s t) :
    ∃ s' t' o, T.run s is = some (s', o) ∧
      A.run t (is.zip (T.observe p s is)) = some (t', o) ∧ R s' t' := by
  induction is generalizing s t with
  | nil => exact ⟨s, t, [], rfl, rfl, hR⟩
  | cons i is ih =>
    obtain ⟨s₁, t₁, o₁, hs, ht, hR₁⟩ := hstep s t i hR
    obtain ⟨s₂, t₂, o₂, hrs, hrt, hR₂⟩ := ih hR₁
    refine ⟨s₂, t₂, o₁ ++ o₂, run_cons hs hrs, ?_, hR₂⟩
    rw [observe_cons hs, List.zip_cons_cons]
    exact run_cons ht hrt

/-- Where a whole run goes through, so does the run over every prefix, and
what it emits is a prefix of what the whole run emits. -/
theorem run_prefix {s s'' : σ} {is js : List ι} {o'' : List ο}
    (h : T.run s (is ++ js) = some (s'', o'')) :
    ∃ s' o, T.run s is = some (s', o) ∧ o <+: o'' := by
  obtain ⟨s', o, o', hr, -, rfl⟩ := run_append_inv h
  exact ⟨s', o, hr, List.prefix_append o o'⟩

/-- Inputs on which a machine neither moves nor emits can be left out. -/
theorem run_filter {p : ι → Bool} (hp : ∀ s i, p i = false → T.step s i = some (s, []))
    (s : σ) (is : List ι) : T.run s (is.filter p) = T.run s is := by
  induction is generalizing s with
  | nil => rfl
  | cons i is ih =>
    cases hi : p i with
    | true =>
      rw [List.filter_cons_of_pos hi]
      simp only [run]
      cases T.step s i with
      | none => rfl
      | some q => simp only [ih]
    | false =>
      -- the input left out neither moves the machine nor emits
      rw [List.filter_cons_of_neg (by rw [hi]; exact Bool.false_ne_true), ih]
      simp only [run, hp s i hi, List.nil_append]
      cases T.run s is <;> rfl

end Transducer
