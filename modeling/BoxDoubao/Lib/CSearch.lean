import BoxDoubao.Lib.CMemory
import Mathlib.Data.List.TakeWhile

/-!
# Searching in C strings

`find needle hay` is the first position at which `needle` stands in `hay`, the
answer of `strstr` and its relatives. A C string ends before its first zero
byte: `cstr` is the string at the start of a buffer.

`findWithin` is `strnstr`, which looks at the first bytes only
(`findWithin_of_find`).

A match in the front part of a text is the match in the whole of it
(`find_append`), so text that arrives in pieces may be searched as it comes.
Text without the needle's first byte is passed over (`find_append_of_not_mem`).
-/

namespace CMemory

variable {needle hay l t : Bytes}

/-- The first position of `needle`. -/
def find (needle : Bytes) : Bytes → Option ℕ
  | [] => if needle = [] then some 0 else none
  | b :: bs => if needle.isPrefixOf (b :: bs) then some 0 else (find needle bs).map (· + 1)

/-- The first position of `needle` in the first `n` bytes. -/
def findWithin (needle hay : Bytes) (n : ℕ) : Option ℕ := find needle (hay.take n)

/-- The C string at the start of a buffer. -/
def cstr (b : Bytes) : Bytes := b.takeWhile (· != 0)

theorem find_of_isPrefix (h : needle <+: hay) : find needle hay = some 0 := by
  cases hay with
  | nil => exact if_pos (List.prefix_nil.mp h)
  | cons b bs => exact if_pos (List.isPrefixOf_iff_prefix.mpr h)

theorem find_cons_of_not_isPrefix {b : UInt8} (h : ¬ needle <+: b :: t) :
    find needle (b :: t) = (find needle t).map (· + 1) :=
  if_neg fun hp => h (List.isPrefixOf_iff_prefix.mp hp)

/-- The match lies inside the text. -/
theorem find_le {i : ℕ} (h : find needle hay = some i) : i + needle.length ≤ hay.length := by
  induction hay generalizing i with
  | nil =>
    obtain ⟨hnil, hi⟩ := Option.ite_none_right_eq_some.mp h
    rw [hnil, ← Option.some.inj hi]
    exact le_refl 0
  | cons b bs ih =>
    by_cases hp : needle <+: b :: bs
    · rw [find_of_isPrefix hp] at h
      obtain rfl := Option.some.inj h
      rw [Nat.zero_add]
      exact hp.length_le
    · rw [find_cons_of_not_isPrefix hp] at h
      obtain ⟨j, hj, rfl⟩ := Option.map_eq_some_iff.mp h
      have := ih hj
      rw [List.length_cons]
      omega

/-- A match in the front of a text is the match in the text. -/
theorem find_append {i : ℕ} (h : find needle hay = some i) : find needle (hay ++ t) = some i := by
  induction hay generalizing i with
  | nil =>
    obtain ⟨rfl, hi⟩ := Option.ite_none_right_eq_some.mp h
    rw [← hi]
    exact find_of_isPrefix List.nil_prefix
  | cons b bs ih =>
    by_cases hp : needle <+: b :: bs
    · rw [find_of_isPrefix hp] at h
      rw [find_of_isPrefix (hp.trans (List.prefix_append _ t)), h]
    · rw [find_cons_of_not_isPrefix hp] at h
      obtain ⟨j, hj, rfl⟩ := Option.map_eq_some_iff.mp h
      have hj' := ih hj
      have hnot : ¬ needle <+: b :: (bs ++ t) := fun hp' => by
        have hle := find_le hj
        refine hp (List.prefix_of_prefix_length_le hp'
          (List.prefix_append (b :: bs) t) ?_)
        rw [List.length_cons]
        omega
      rw [List.cons_append, find_cons_of_not_isPrefix hnot, hj']
      rfl

/-- A match that lies in the front of a text is the match in that front. -/
theorem find_isPrefix {i : ℕ} (hl : l <+: hay) (h : find needle hay = some i)
    (hi : i + needle.length ≤ l.length) : find needle l = some i := by
  induction hay generalizing l i with
  | nil => rwa [List.prefix_nil.mp hl]
  | cons b bs ih =>
    by_cases hp : needle <+: b :: bs
    · rw [find_of_isPrefix hp] at h
      rw [← h]
      exact find_of_isPrefix (List.prefix_of_prefix_length_le hp hl (by omega))
    · rw [find_cons_of_not_isPrefix hp] at h
      obtain ⟨j, hj, rfl⟩ := Option.map_eq_some_iff.mp h
      cases l with
      | nil =>
        rw [List.length_nil] at hi
        omega
      | cons c cs =>
        obtain ⟨rfl, hcs⟩ := List.cons_prefix_cons.mp hl
        rw [find_cons_of_not_isPrefix fun hp' => hp (hp'.trans hl),
          ih hcs hj (by rw [List.length_cons] at hi; omega)]
        rfl

/-- The first match is found where it ends within the bytes looked at. -/
theorem findWithin_of_find {i : ℕ} (h : find needle hay = some i) (n : ℕ) :
    findWithin needle hay n = if i + needle.length ≤ n then some i else none := by
  have hlen := find_le h
  unfold findWithin
  by_cases hn : i + needle.length ≤ n
  · rw [if_pos hn]
    exact find_isPrefix (List.take_prefix n hay) h (by rw [List.length_take]; omega)
  · rw [if_neg hn]
    -- a match in the front would be the first match of all
    cases hfront : find needle (hay.take n) with
    | none => rfl
    | some j =>
      have hle := find_le hfront
      have hwhole := find_append (t := hay.drop n) hfront
      rw [List.take_append_drop, h] at hwhole
      obtain rfl := Option.some.inj hwhole
      rw [List.length_take] at hle
      omega

/-- Text without the needle's first byte holds no match. -/
theorem find_append_of_not_mem {c : UInt8} (hc : needle.head? = some c) (h : c ∉ l) :
    find needle (l ++ t) = (find needle t).map (· + l.length) := by
  induction l with
  | nil => simp
  | cons b bs ih =>
    have hnot : ¬ needle <+: b :: (bs ++ t) := fun hp => by
      cases needle with
      | nil => cases hc
      | cons d ds =>
        obtain rfl := Option.some.inj hc
        exact h ((List.cons_prefix_cons.mp hp).1 ▸ List.mem_cons_self)
    rw [List.cons_append, find_cons_of_not_isPrefix hnot,
      ih fun hm => h (List.mem_cons_of_mem b hm)]
    rw [Option.map_map, List.length_cons]
    exact congrArg (fun f => (find needle t).map f) (funext fun i => by
      simp only [Function.comp_apply]
      omega)

theorem cstr_append (h : (0 : UInt8) ∉ l) (t : Bytes) : cstr (l ++ t) = l ++ cstr t :=
  List.takeWhile_append_of_pos fun _ hb => bne_iff_ne.mpr (ne_of_mem_of_not_mem hb h)

theorem cstr_isPrefix (b : Bytes) : cstr b <+: b := List.takeWhile_prefix _

/-- The front of a buffer up to a place inside its string. -/
theorem cstr_take {b : Bytes} {k : ℕ} (h : k ≤ (cstr b).length) : cstr (b.take k) = b.take k := by
  have htake : b.take k = (cstr b).take k := by
    obtain ⟨rest, hrest⟩ := cstr_isPrefix b
    conv_lhs => rw [← hrest]
    exact List.take_append_of_le_length h
  rw [htake, cstr, List.takeWhile_eq_self_iff]
  intro x hx
  exact List.mem_takeWhile_imp (p := fun y => y != 0) (l := b) (List.mem_of_mem_take hx)

/-- `strncmp(a, b, n) == 0` for the string `a` and a `b` of which `n` bytes are
compared. -/
def strncmpEq : Bytes → Bytes → ℕ → Bool
  | _, _, 0 => true
  | a, b, n + 1 =>
    if a.headD 0 ≠ b.headD 0 then false
    else if a.headD 0 = 0 then true
    else strncmpEq a.tail b.tail n

/-- Compared over the whole of `b`, the strings are equal where `b` is a prefix
of `a`. -/
theorem strncmpEq_iff_isPrefix {a b : Bytes} (ha : (0 : UInt8) ∉ a) (hb : (0 : UInt8) ∉ b) :
    strncmpEq a b b.length = true ↔ b <+: a := by
  induction b generalizing a with
  | nil => exact iff_of_true rfl List.nil_prefix
  | cons y ys ih =>
    have hy : y ≠ 0 := fun h => hb (h ▸ List.mem_cons_self)
    cases a with
    | nil =>
      refine iff_of_false ?_ (fun h => List.cons_ne_nil y ys (List.prefix_nil.mp h))
      rw [List.length_cons, strncmpEq, List.headD_nil, List.headD_cons, if_pos hy.symm]
      exact Bool.false_ne_true
    | cons x xs =>
      rw [List.length_cons, strncmpEq, List.headD_cons, List.headD_cons, List.tail_cons,
        List.tail_cons, List.cons_prefix_cons]
      by_cases hxy : x = y
      · rw [if_neg (not_not.mpr hxy), if_neg (fun h => hy (hxy ▸ h)),
          ih (fun h => ha (List.mem_cons_of_mem x h)) (fun h => hb (List.mem_cons_of_mem y h))]
        exact ⟨fun h => ⟨hxy.symm, h⟩, And.right⟩
      · rw [if_pos hxy]
        exact iff_of_false Bool.false_ne_true fun h => hxy h.1.symm

end CMemory
