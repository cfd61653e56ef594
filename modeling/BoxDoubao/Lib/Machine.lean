import Mathlib.Data.List.Basic

/-!
# Machines driven by a list of actions

A machine is an executable partial step function `σ → α → Option σ`; the
actions carry every choice the environment makes, so a run is determined by
its action list. `run` composes the steps.

`inv_run` packages the induction over runs: what holds at the start and is
preserved by every step holds in every state reached. `Guarded G` says that
every step of a run is taken in a state where `G` allows it, and
`inv_run_guarded` is the same rule for such runs.

A machine that keeps a history of what can be observed of it, newest entry
first, has properties of the form "whenever this was observed, that had been
observed before". `Throughout P` is that form, and `Throughout.at` reads it at
any point of the history.
-/

/-- A machine with states `σ` and actions `α`. -/
structure Machine (σ α : Type*) where
  step : σ → α → Option σ

namespace Machine

variable {σ α : Type*} (M : Machine σ α)

/-- The state after a list of actions. -/
def run : σ → List α → Option σ
  | s, [] => some s
  | s, a :: as =>
    match M.step s a with
    | some s' => run s' as
    | none => none

/-- Every step of the run from `s` is taken where `G` allows it. -/
def Guarded (G : σ → α → Prop) : σ → List α → Prop
  | _, [] => True
  | s, a :: as => G s a ∧
    match M.step s a with
    | some s' => Guarded G s' as
    | none => True

instance decidableGuarded (G : σ → α → Prop) [∀ s a, Decidable (G s a)] :
    ∀ s as, Decidable (M.Guarded G s as)
  | _, [] => inferInstanceAs (Decidable True)
  | s, a :: as =>
    have : Decidable (match M.step s a with
        | some s' => M.Guarded G s' as
        | none => True) :=
      match M.step s a with
      | some s' => decidableGuarded G s' as
      | none => inferInstanceAs (Decidable True)
    inferInstanceAs (Decidable (_ ∧ _))

@[simp] theorem run_nil (s : σ) : M.run s [] = some s := rfl

variable {M} {s s' : σ} {a : α} {as bs : List α}

theorem run_cons {t : σ} (h : M.step s a = some t) : M.run s (a :: as) = M.run t as := by
  simp only [run, h]

theorem run_cons_inv (h : M.run s (a :: as) = some s') :
    ∃ t, M.step s a = some t ∧ M.run t as = some s' := by
  simp only [run] at h
  cases ht : M.step s a with
  | none =>
    rw [ht] at h
    cases h
  | some t =>
    rw [ht] at h
    exact ⟨t, rfl, h⟩

/-- Two runs in a row are one run. -/
theorem run_append (t : σ) (h : M.run s as = some t) : M.run s (as ++ bs) = M.run t bs := by
  induction as generalizing s with
  | nil =>
    obtain rfl : s = t := Option.some.inj h
    rfl
  | cons a as ih =>
    obtain ⟨u, hu, hrun⟩ := run_cons_inv h
    exact (run_cons hu).trans (ih hrun)

/-- A run over a concatenation passes through a state between its parts. -/
theorem run_append_inv (h : M.run s (as ++ bs) = some s') :
    ∃ t, M.run s as = some t ∧ M.run t bs = some s' := by
  induction as generalizing s with
  | nil => exact ⟨s, rfl, h⟩
  | cons a as ih =>
    obtain ⟨u, hu, hrun⟩ := run_cons_inv h
    obtain ⟨t, has, hbs⟩ := ih hrun
    exact ⟨t, (run_cons hu).trans has, hbs⟩

/-- A run is guarded when every action of it is allowed everywhere. -/
theorem Guarded.of_forall {G : σ → α → Prop} (h : ∀ a ∈ as, ∀ t, G t a) : M.Guarded G s as := by
  induction as generalizing s with
  | nil => exact trivial
  | cons a as ih =>
    refine ⟨h a List.mem_cons_self s, ?_⟩
    cases M.step s a with
    | none => exact trivial
    | some t => exact ih fun b hb => h b (List.mem_cons_of_mem a hb)

/-- The rest of a guarded run is guarded. -/
theorem Guarded.rest {G : σ → α → Prop} {t : σ} (hg : M.Guarded G s (a :: as))
    (h : M.step s a = some t) : M.Guarded G t as := by
  have hrest := hg.2
  rw [h] at hrest
  exact hrest

/-- **The invariant rule** for runs whose steps all meet a guard. -/
theorem inv_run_guarded {I : σ → Prop} {G : σ → α → Prop}
    (hstep : ∀ {s a s'}, I s → G s a → M.step s a = some s' → I s')
    (hI : I s) (hg : M.Guarded G s as) (hrun : M.run s as = some s') : I s' := by
  induction as generalizing s with
  | nil =>
    obtain rfl : s = s' := Option.some.inj hrun
    exact hI
  | cons a as ih =>
    obtain ⟨t, ht, hrest⟩ := run_cons_inv hrun
    exact ih (hstep hI hg.1 ht) (hg.rest ht) hrest

/-- The invariant rule for all runs. -/
theorem inv_run {I : σ → Prop} (hstep : ∀ {s a s'}, I s → M.step s a = some s' → I s')
    (hI : I s) (hrun : M.run s as = some s') : I s' := by
  induction as generalizing s with
  | nil =>
    obtain rfl : s = s' := Option.some.inj hrun
    exact hI
  | cons a as ih =>
    obtain ⟨t, ht, hrest⟩ := run_cons_inv hrun
    exact ih (hstep hI ht) hrest

end Machine

/-! ### Histories -/

/-- Every entry of a history, newest first, stands in the relation `P` to what
came before it. -/
def Throughout {ο : Type*} (P : ο → List ο → Prop) : List ο → Prop
  | [] => True
  | o :: earlier => P o earlier ∧ Throughout P earlier

instance decidableThroughout {ο : Type*} (P : ο → List ο → Prop)
    [∀ o earlier, Decidable (P o earlier)] : ∀ l, Decidable (Throughout P l)
  | [] => inferInstanceAs (Decidable True)
  | _ :: earlier =>
    have := decidableThroughout P earlier
    inferInstanceAs (Decidable (_ ∧ _))

theorem Throughout.at {ο : Type*} {P : ο → List ο → Prop} {later : List ο} {o : ο}
    {earlier : List ο} (h : Throughout P (later ++ o :: earlier)) : P o earlier := by
  induction later with
  | nil => exact h.1
  | cons _ later ih => exact ih h.2
