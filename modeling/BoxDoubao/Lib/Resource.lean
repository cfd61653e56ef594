import BoxDoubao.Lib.Machine
import Mathlib.Data.List.Count
import Mathlib.Data.List.Nodup

/-!
# Ledgers of resources

Memory, handles, locks and threads have the same discipline: what is created
may be used and is released once. A ledger records what a program does to such
resources, newest entry first, and `Sound` says that it keeps to the
discipline: what is acquired is new, and what is used or released is `Live`,
acquired and not released since.

A program is followed step by step with `Owns`, which adds to a sound ledger
the distinct live resources the program still has: `Owns.acquire` adds one,
`Owns.use` takes one that is there, and `Owns.release` takes one away. That
nothing is released twice is a consequence, `Sound.count_release_le_one`.
-/

/-- What is done to a resource. -/
inductive ResourceOp (ρ : Type*) where
  | acquire (r : ρ)
  | use (r : ρ)
  | release (r : ρ)
  deriving DecidableEq

/-- What was done, newest entry first. -/
abbrev Ledger (ρ : Type*) := List (ResourceOp ρ)

namespace Ledger

variable {ρ : Type*}

/-- The resource was acquired and not released since. -/
def Live (r : ρ) : Ledger ρ → Prop
  | [] => False
  | .acquire q :: earlier => q = r ∨ Live r earlier
  | .use _ :: earlier => Live r earlier
  | .release q :: earlier => q ≠ r ∧ Live r earlier

instance decidableLive [DecidableEq ρ] (r : ρ) : ∀ l : Ledger ρ, Decidable (Live r l)
  | [] => inferInstanceAs (Decidable False)
  | .acquire _ :: earlier =>
    have := decidableLive r earlier
    inferInstanceAs (Decidable (_ ∨ _))
  | .use _ :: earlier => decidableLive r earlier
  | .release _ :: earlier =>
    have := decidableLive r earlier
    inferInstanceAs (Decidable (_ ∧ _))

/-- What may be done after `earlier`. -/
def Permits : ResourceOp ρ → Ledger ρ → Prop
  | .acquire r, earlier => .acquire r ∉ earlier
  | .use r, earlier => Live r earlier
  | .release r, earlier => Live r earlier

instance decidablePermits [DecidableEq ρ] :
    ∀ (op : ResourceOp ρ) (earlier : Ledger ρ), Decidable (Permits op earlier)
  | .acquire r, earlier => inferInstanceAs (Decidable (.acquire r ∉ earlier))
  | .use r, earlier => decidableLive r earlier
  | .release r, earlier => decidableLive r earlier

/-- Everything was permitted when it was done. -/
def Sound (l : Ledger ρ) : Prop := Throughout Permits l

instance decidableSound [DecidableEq ρ] (l : Ledger ρ) : Decidable (Sound l) :=
  inferInstanceAs (Decidable (Throughout Permits l))

variable {l : Ledger ρ} {r q : ρ}

/-! ### What is live -/

theorem not_live_release (r : ρ) (l : Ledger ρ) : ¬ Live r (.release r :: l) :=
  fun h => h.1 rfl

/-- What is live was acquired. -/
theorem Live.mem (h : Live r l) : .acquire r ∈ l := by
  induction l with
  | nil => exact h.elim
  | cons op earlier ih =>
    cases op with
    | acquire q =>
      obtain rfl | h := h
      · exact List.mem_cons_self
      · exact List.mem_cons_of_mem _ (ih h)
    | use q => exact List.mem_cons_of_mem _ (ih h)
    | release q => exact List.mem_cons_of_mem _ (ih h.2)

/-! ### Sound ledgers -/

/-- Of a sound ledger, what is live was never released, and what was never
acquired neither. -/
theorem Sound.release_notMem (h : Sound l) (hr : Live r l ∨ .acquire r ∉ l) :
    .release r ∉ l := by
  induction l with
  | nil => exact List.not_mem_nil
  | cons op earlier ih =>
    intro hmem
    obtain ⟨hop, hearlier⟩ := h
    obtain heq | hmem := List.mem_cons.mp hmem
    · -- the release is the last thing that was done
      subst heq
      obtain hlive | hnew := hr
      · exact hlive.1 rfl
      · exact hnew (List.mem_cons_of_mem _ (Live.mem hop))
    · refine ih hearlier ?_ hmem
      obtain hlive | hnew := hr
      · cases op with
        | acquire q =>
          obtain rfl | hlive := hlive
          · exact Or.inr hop
          · exact Or.inl hlive
        | use q => exact Or.inl hlive
        | release q => exact Or.inl hlive.2
      · exact Or.inr fun hmem => hnew (List.mem_cons_of_mem _ hmem)

/-- What is used or released was acquired. -/
theorem Sound.mem_acquire (h : Sound l) (hmem : .use r ∈ l ∨ .release r ∈ l) :
    .acquire r ∈ l := by
  induction l with
  | nil => exact absurd hmem (by simp)
  | cons op earlier ih =>
    obtain ⟨hop, hearlier⟩ := h
    by_cases hlast : op = .use r ∨ op = .release r
    · -- it is the last thing that was done
      have hlive : Live r earlier := by
        obtain rfl | rfl := hlast
        · exact hop
        · exact hop
      exact List.mem_cons_of_mem _ hlive.mem
    · rw [not_or] at hlast
      refine List.mem_cons_of_mem _ (ih hearlier ?_)
      obtain huse | hrelease := hmem
      · exact Or.inl ((List.mem_cons.mp huse).resolve_left (Ne.symm hlast.1))
      · exact Or.inr ((List.mem_cons.mp hrelease).resolve_left (Ne.symm hlast.2))

/-- **Nothing is released twice.** -/
theorem Sound.count_release_le_one [DecidableEq ρ] (h : Sound l) (r : ρ) :
    l.count (.release r) ≤ 1 := by
  induction l with
  | nil => exact Nat.zero_le 1
  | cons op earlier ih =>
    obtain ⟨hop, hearlier⟩ := h
    by_cases heq : op = .release r
    · subst heq
      have hnone : earlier.count (.release r) = 0 :=
        List.count_eq_zero_of_not_mem (Sound.release_notMem hearlier (Or.inl hop))
      exact Nat.le_of_eq (List.count_cons_self.trans (congrArg (· + 1) hnone))
    · rw [List.count_cons_of_ne heq]
      exact ih hearlier

/-! ### What a program owns -/

/-- The resource behind a handle, where the handle is set. -/
def ifSet (handle : Bool) (r : ρ) : List ρ := if handle then [r] else []

@[simp] theorem ifSet_true (r : ρ) : ifSet true r = [r] := rfl

@[simp] theorem ifSet_false (r : ρ) : ifSet false r = [] := rfl

/-- A release where the handle is set. -/
def releaseIf (l : Ledger ρ) (handle : Bool) (r : ρ) : Ledger ρ :=
  if handle then .release r :: l else l

@[simp] theorem acquire_mem_releaseIf {handle : Bool} :
    .acquire q ∈ l.releaseIf handle r ↔ .acquire q ∈ l := by
  cases handle with
  | false => exact Iff.rfl
  | true => exact List.mem_cons.trans (or_iff_right (by simp))

/-- What is used or released is not acquired, and what is acquired is one
resource. -/
theorem acquire_mem_use (h : .acquire q ∈ ResourceOp.use r :: l) : .acquire q ∈ l :=
  List.mem_of_ne_of_mem (by simp) h

theorem acquire_mem_release (h : .acquire q ∈ ResourceOp.release r :: l) : .acquire q ∈ l :=
  List.mem_of_ne_of_mem (by simp) h

theorem acquire_mem_of_ne (h : .acquire q ∈ ResourceOp.acquire r :: l) (hne : q ≠ r) :
    .acquire q ∈ l :=
  List.mem_of_ne_of_mem (fun heq => hne (ResourceOp.acquire.inj heq)) h

/-- The ledger grows by at most one entry. -/
theorem sublist_releaseIf (l : Ledger ρ) (handle : Bool) (r : ρ) :
    l.Sublist (l.releaseIf handle r) := by
  cases handle with
  | false => exact List.Sublist.refl _
  | true => exact List.sublist_cons_self _ _

/-- The ledger is sound, and the resources in `owned` are distinct and live. -/
structure Owns (l : Ledger ρ) (owned : List ρ) : Prop where
  sound : Sound l
  nodup : owned.Nodup
  live : ∀ r ∈ owned, Live r l

instance decidableOwns [DecidableEq ρ] (l : Ledger ρ) (owned : List ρ) :
    Decidable (Owns l owned) :=
  decidable_of_iff (Sound l ∧ owned.Nodup ∧ ∀ r ∈ owned, Live r l)
    ⟨fun h => ⟨h.1, h.2.1, h.2.2⟩, fun h => ⟨h.sound, h.nodup, h.live⟩⟩

namespace Owns

variable {owned owned' : List ρ}

theorem nil : Owns ([] : Ledger ρ) [] := ⟨trivial, List.nodup_nil, nofun⟩

theorem acquire (h : Owns l owned) (hnew : .acquire r ∉ l) :
    Owns (.acquire r :: l) (r :: owned) := by
  refine ⟨⟨hnew, h.sound⟩, List.nodup_cons.mpr ⟨fun hr => hnew (h.live r hr).mem, h.nodup⟩, ?_⟩
  intro q hq
  obtain rfl | hq := List.mem_cons.mp hq
  · exact Or.inl rfl
  · exact Or.inr (h.live q hq)

/-- Several new resources, the last one first. -/
theorem acquireAll (h : Owns l owned) (rs : List ρ) (hnodup : rs.Nodup)
    (hnew : ∀ r ∈ rs, .acquire r ∉ l) : Owns (rs.map .acquire ++ l) (rs ++ owned) := by
  induction rs with
  | nil => exact h
  | cons r rs ih =>
    obtain ⟨hr, hrs⟩ := List.nodup_cons.mp hnodup
    have hrest := ih hrs fun q hq => hnew q (List.mem_cons_of_mem r hq)
    apply hrest.acquire
    intro hmem
    obtain hmem | hmem := List.mem_append.mp hmem
    · obtain ⟨q, hq, heq⟩ := List.mem_map.mp hmem
      exact hr (ResourceOp.acquire.inj heq ▸ hq)
    · exact hnew r List.mem_cons_self hmem

theorem use (h : Owns l owned) (hr : r ∈ owned) : Owns (.use r :: l) owned :=
  ⟨⟨h.live r hr, h.sound⟩, h.nodup, fun q hq => h.live q hq⟩

theorem release (h : Owns l (r :: owned)) : Owns (.release r :: l) owned := by
  obtain ⟨hr, hnodup⟩ := List.nodup_cons.mp h.nodup
  refine ⟨⟨h.live r List.mem_cons_self, h.sound⟩, hnodup, ?_⟩
  intro q hq
  exact ⟨fun heq => hr (heq ▸ hq), h.live q (List.mem_cons_of_mem r hq)⟩

/-- A resource behind a handle that may not be set. -/
theorem releaseIf {handle : Bool} (h : Owns l (ifSet handle r ++ owned)) :
    Owns (l.releaseIf handle r) owned := by
  cases handle with
  | false => exact h
  | true => exact h.release

/-- The order of what is owned does not matter. -/
theorem perm (h : Owns l owned) (hperm : owned.Perm owned') : Owns l owned' :=
  ⟨h.sound, hperm.nodup_iff.mp h.nodup, fun r hr => h.live r (hperm.mem_iff.mpr hr)⟩

/-- What is owned may be forgotten. -/
theorem sublist (h : Owns l owned) (hsub : owned'.Sublist owned) : Owns l owned' :=
  ⟨h.sound, h.nodup.sublist hsub, fun r hr => h.live r (hsub.subset hr)⟩

end Owns

end Ledger
