import Mathlib

/-!
# Cyclic redundancy checks

A message is a polynomial over the field of two elements, its first bit the
coefficient of the highest power. Its check is the remainder of the message,
moved up by `w` places, modulo a monic `generator` of degree `w`; a fixed word
is added to the first `w` bits beforehand.

A program does not divide polynomials: it keeps a register of `w` bits, takes
in `k` bits of the message with an exclusive or (`absorb`), and shifts it `k`
times (`shift`). The register holds a remainder, its lowest bit the coefficient
of the highest power:

* `X_mul_reading`: moving the register down by one bit is a multiplication by
  `X`, but for the bit that is lost;
* `residue_shift`: with the generator's lower coefficients put in for that bit,
  it is the multiplication modulo the generator;
* `foldl_absorb`: so the register ends with the remainder;
* `foldl_absorb_ne_of_burst`: and a change inside a window of `w` bits shows.

Residues modulo the generator are computed in `AdjoinRoot`.
-/

namespace Crc

open Polynomial

/-- A bit as a coefficient. -/
def bit (b : Bool) : ZMod 2 := if b then 1 else 0

@[simp] theorem bit_false : bit false = 0 := rfl

@[simp] theorem bit_true : bit true = 1 := rfl

theorem bit_xor (a b : Bool) : bit (a ^^ b) = bit a + bit b := by
  revert a b
  decide

theorem bit_injective : Function.Injective bit := by decide

variable {w k : ℕ}

/-! ### Words and messages as polynomials -/

/-- Bit `i` of the word is the coefficient of `X ^ i`. -/
noncomputable def ofWord (v : BitVec w) : (ZMod 2)[X] := ofFn w fun i => bit (v.getLsbD i)

/-- The word of the `w` lowest coefficients. -/
noncomputable def toWord : (w : ℕ) → (ZMod 2)[X] → BitVec w
  | 0, _ => 0#0
  | w + 1, p => BitVec.cons (decide (p.coeff w = 1)) (toWord w p)

/-- The first bit is the coefficient of the highest power. -/
noncomputable def ofBits : List Bool → (ZMod 2)[X]
  | [] => 0
  | b :: bits => C (bit b) * X ^ bits.length + ofBits bits

/-- The bits of a word, least significant first. -/
def wordBits (c : BitVec k) : List Bool := List.ofFn fun i : Fin k => c.getLsbD i

/-- The bits of a message that is cut into words. -/
def messageBits (cs : List (BitVec k)) : List Bool := cs.flatMap wordBits

theorem coeff_ofWord (v : BitVec w) (n : ℕ) : (ofWord v).coeff n = bit (v.getLsbD n) := by
  by_cases hn : n < w
  · exact ofFn_coeff_eq_val_of_lt _ hn
  · rw [BitVec.getLsbD_of_ge v n (not_lt.mp hn)]
    exact ofFn_coeff_eq_zero_of_ge _ (not_lt.mp hn)

theorem degree_ofWord (v : BitVec w) : (ofWord v).degree < w := ofFn_degree_lt _

theorem getLsbD_toWord (p : (ZMod 2)[X]) {n : ℕ} (hn : n < w) :
    (toWord w p).getLsbD n = decide (p.coeff n = 1) := by
  induction w with
  | zero => exact absurd hn n.not_lt_zero
  | succ w ih =>
    show (BitVec.cons (decide (p.coeff w = 1)) (toWord w p)).getLsbD n = _
    rw [BitVec.getLsbD_cons]
    by_cases heq : n = w
    · rw [if_pos heq, heq]
    · rw [if_neg heq]
      exact ih (by omega)

theorem toWord_ofWord (v : BitVec w) : toWord w (ofWord v) = v := by
  apply BitVec.eq_of_getLsbD_eq
  intro i hi
  rw [getLsbD_toWord _ hi, coeff_ofWord]
  cases v.getLsbD i with
  | false => rfl
  | true => rfl

theorem ofBits_append (front back : List Bool) :
    ofBits (front ++ back) = X ^ back.length * ofBits front + ofBits back := by
  induction front with
  | nil =>
    show ofBits back = X ^ back.length * 0 + ofBits back
    rw [mul_zero, zero_add]
  | cons b front ih =>
    show C (bit b) * X ^ (front ++ back).length + ofBits (front ++ back) =
      X ^ back.length * (C (bit b) * X ^ front.length + ofBits front) + ofBits back
    rw [ih, List.length_append, pow_add]
    ring

theorem coeff_ofBits (bits : List Bool) (n : ℕ) :
    (ofBits bits).coeff n = bit (bits.reverse[n]?.getD false) := by
  induction bits with
  | nil => rfl
  | cons b bits ih =>
    show (C (bit b) * X ^ bits.length + ofBits bits).coeff n = _
    rw [coeff_add, coeff_C_mul, coeff_X_pow, ih, List.reverse_cons]
    have hlen : bits.reverse.length = bits.length := List.length_reverse
    have hlen' : (bits.reverse ++ [b]).length = bits.length + 1 := by
      rw [List.length_append, hlen, List.length_singleton]
    -- the new first bit stands behind all the others in the reversed list
    obtain hlt | heq | hgt := lt_trichotomy n bits.length
    · have hfront : (bits.reverse ++ [b])[n]? = bits.reverse[n]? :=
        List.getElem?_append_left (hlt.trans_eq hlen.symm)
      rw [if_neg hlt.ne, mul_zero, zero_add, hfront]
    · have hnone : bits.reverse[n]? = none := List.getElem?_eq_none (hlen.trans heq.symm).le
      have hlast : (bits.reverse ++ [b])[n]? = some b := by
        rw [heq, ← hlen]
        exact List.getElem?_concat_length
      rw [if_pos heq, mul_one, hnone, hlast]
      exact add_zero _
    · have hnone : bits.reverse[n]? = none := List.getElem?_eq_none (hlen.trans_le hgt.le)
      have hnone' : (bits.reverse ++ [b])[n]? = none :=
        List.getElem?_eq_none (hlen'.trans_le hgt)
      rw [if_neg hgt.ne', mul_zero, zero_add, hnone, hnone']

theorem length_wordBits (c : BitVec k) : (wordBits c).length = k := List.length_ofFn

/-! ### The register -/

/-- The remainder a register holds. -/
noncomputable def reading (v : BitVec w) : (ZMod 2)[X] := ofWord v.reverse

/-- The monic polynomial of degree `w` with these lower coefficients. -/
noncomputable def generator (tail : BitVec w) : (ZMod 2)[X] := X ^ w + ofWord tail

/-- Shift the register by one bit. -/
def shift (tail v : BitVec w) : BitVec w :=
  if v.getLsbD 0 then (v >>> 1) ^^^ tail.reverse else v >>> 1

/-- Take in `k` bits of the message. -/
def absorb (tail v : BitVec w) (c : BitVec k) : BitVec w :=
  (shift tail)^[k] (v ^^^ c.setWidth w)

section Reading

variable {n : ℕ}

theorem coeff_reading_of_lt (v : BitVec w) (hn : n < w) :
    (reading v).coeff n = bit (v.getLsbD (w - 1 - n)) := by
  unfold reading
  rw [coeff_ofWord, BitVec.getLsbD_reverse, BitVec.getMsbD_eq_getLsbD, decide_eq_true hn,
    Bool.true_and]

theorem coeff_reading_of_le (v : BitVec w) (hn : w ≤ n) : (reading v).coeff n = 0 := by
  unfold reading
  rw [coeff_ofWord, BitVec.getLsbD_of_ge _ n hn, bit_false]

theorem reading_xor (u v : BitVec w) : reading (u ^^^ v) = reading u + reading v := by
  ext n
  rw [coeff_add]
  obtain hlt | hle := lt_or_ge n w
  · rw [coeff_reading_of_lt _ hlt, coeff_reading_of_lt _ hlt, coeff_reading_of_lt _ hlt,
      BitVec.getLsbD_xor, bit_xor]
  · rw [coeff_reading_of_le _ hle, coeff_reading_of_le _ hle, coeff_reading_of_le _ hle, add_zero]

theorem reading_allOnes : reading (BitVec.allOnes w) = ∑ i ∈ Finset.range w, X ^ i := by
  ext n
  rw [finsetSum_coeff]
  simp only [coeff_X_pow]
  rw [Finset.sum_ite_eq]
  obtain hlt | hle := lt_or_ge n w
  · have hplace : w - 1 - n < w := by omega
    rw [coeff_reading_of_lt _ hlt, BitVec.getLsbD_allOnes, decide_eq_true hplace, bit_true,
      if_pos (Finset.mem_range.mpr hlt)]
  · rw [coeff_reading_of_le _ hle, if_neg (fun h => not_lt.mpr hle (Finset.mem_range.mp h))]

/-- Read from its lowest bit on, a word is the message it spells. -/
theorem ofBits_wordBits (c : BitVec k) : ofBits (wordBits c) = reading c := by
  ext n
  rw [coeff_ofBits]
  obtain hlt | hle := lt_or_ge n k
  · have hget : (wordBits c).reverse[n]? = some (c.getLsbD (k - 1 - n)) := by
      rw [List.getElem?_reverse (hlt.trans_eq (length_wordBits c).symm), length_wordBits]
      unfold wordBits
      rw [List.getElem?_ofFn, dif_pos (by omega)]
    rw [hget, coeff_reading_of_lt c hlt]
    rfl
  · have hlen : (wordBits c).reverse.length = k := List.length_reverse.trans (length_wordBits c)
    rw [List.getElem?_eq_none (hlen.trans_le hle), coeff_reading_of_le c hle]
    rfl

/-- The bit that is shifted out is the coefficient of `X ^ w`. -/
theorem X_mul_reading (v : BitVec w) :
    X * reading v = reading (v >>> 1) + C (bit (v.getLsbD 0)) * X ^ w := by
  ext n
  rw [coeff_add, coeff_C_mul, coeff_X_pow]
  cases n with
  | zero =>
    rw [coeff_X_mul_zero]
    obtain rfl | hw := Nat.eq_zero_or_pos w
    · rw [coeff_reading_of_le _ le_rfl, BitVec.getLsbD_of_ge v 0 le_rfl, bit_false, zero_mul,
        add_zero]
    · -- the highest bit is now clear
      rw [coeff_reading_of_lt _ hw, BitVec.getLsbD_ushiftRight, BitVec.getLsbD_of_ge v _ (by omega),
        bit_false, if_neg hw.ne, mul_zero, add_zero]
  | succ n =>
    rw [coeff_X_mul]
    obtain hlt | rfl | hgt := lt_trichotomy (n + 1) w
    · have hplace : 1 + (w - 1 - (n + 1)) = w - 1 - n := by omega
      rw [coeff_reading_of_lt v (n.lt_succ_self.trans hlt), coeff_reading_of_lt _ hlt,
        BitVec.getLsbD_ushiftRight, hplace, if_neg hlt.ne, mul_zero, add_zero]
    · have hplace : n + 1 - 1 - n = 0 := by omega
      rw [coeff_reading_of_lt v n.lt_succ_self, coeff_reading_of_le _ le_rfl, hplace, if_pos rfl,
        mul_one, zero_add]
    · rw [coeff_reading_of_le v (Nat.le_of_lt_succ hgt), coeff_reading_of_le _ hgt.le,
        if_neg hgt.ne', mul_zero, add_zero]

theorem reading_shift (tail v : BitVec w) : reading (shift tail v) =
    reading (v >>> 1) + C (bit (v.getLsbD 0)) * ofWord tail := by
  unfold shift
  cases v.getLsbD 0 with
  | false => rw [if_neg Bool.false_ne_true, bit_false, map_zero, zero_mul, add_zero]
  | true =>
    have htail : reading tail.reverse = ofWord tail := by
      rw [reading, BitVec.reverse_reverse_eq]
    rw [if_pos rfl, reading_xor, htail, bit_true, map_one, one_mul]

/-- A narrow word is the low end of the register. -/
theorem reading_setWidth (hk : k ≤ w) (c : BitVec k) :
    reading (c.setWidth w) = X ^ (w - k) * reading c := by
  ext n
  rw [coeff_X_pow_mul']
  obtain hlt | hle := lt_or_ge n w
  · have hin : w - 1 - n < w := by omega
    rw [coeff_reading_of_lt _ hlt, BitVec.getLsbD_setWidth, decide_eq_true hin, Bool.true_and]
    by_cases hn : w - k ≤ n
    · have hplace : k - 1 - (n - (w - k)) = w - 1 - n := by omega
      rw [if_pos hn, coeff_reading_of_lt c (by omega), hplace]
    · rw [if_neg hn, BitVec.getLsbD_of_ge c _ (by omega), bit_false]
  · rw [coeff_reading_of_le _ hle, if_pos (by omega), coeff_reading_of_le c (by omega)]

end Reading

section Residue

variable (tail : BitVec w)

theorem monic_generator : (generator tail).Monic := monic_X_pow_add (degree_ofWord tail)

theorem degree_generator : (generator tail).degree = w := by
  unfold generator
  rw [degree_add_eq_left_of_degree_lt, degree_X_pow]
  rw [degree_X_pow]
  exact degree_ofWord tail

/-- The residue of the remainder a register holds. -/
noncomputable def residue (v : BitVec w) : AdjoinRoot (generator tail) :=
  AdjoinRoot.mk (generator tail) (reading v)

/-- Modulo the generator, its leading term is the rest of it. -/
theorem root_pow : AdjoinRoot.root (generator tail) ^ w =
    AdjoinRoot.mk (generator tail) (ofWord tail) := by
  rw [← AdjoinRoot.mk_X, ← map_pow, AdjoinRoot.mk_eq_mk, CharTwo.sub_eq_add]
  exact dvd_rfl

theorem residue_xor (u v : BitVec w) :
    residue tail (u ^^^ v) = residue tail u + residue tail v := by
  unfold residue
  rw [reading_xor, map_add]

/-- **A shift of the register is a multiplication.** -/
theorem residue_shift (v : BitVec w) :
    residue tail (shift tail v) = AdjoinRoot.root (generator tail) * residue tail v := by
  -- what is shifted out stands for `X ^ w`, and what is put in for it is `X ^ w` reduced
  have hput : AdjoinRoot.mk (generator tail) (C (bit (v.getLsbD 0)) * ofWord tail) =
      AdjoinRoot.mk (generator tail) (C (bit (v.getLsbD 0)) * X ^ w) := by
    rw [map_mul, map_mul, map_pow, AdjoinRoot.mk_X, root_pow]
  calc residue tail (shift tail v)
      = AdjoinRoot.mk (generator tail)
          (reading (v >>> 1) + C (bit (v.getLsbD 0)) * ofWord tail) := by
        rw [residue, reading_shift]
    _ = AdjoinRoot.mk (generator tail) (X * reading v) := by
        rw [X_mul_reading, map_add, map_add, hput]
    _ = AdjoinRoot.root (generator tail) * residue tail v := by
        rw [map_mul, AdjoinRoot.mk_X, residue]

theorem residue_iterate (n : ℕ) (v : BitVec w) : residue tail ((shift tail)^[n] v) =
    AdjoinRoot.root (generator tail) ^ n * residue tail v := by
  induction n with
  | zero => exact (one_mul _).symm
  | succ n ih =>
    rw [Function.iterate_succ_apply', residue_shift, ih, pow_succ']
    ring

/-- **Taking in bits** moves what is there up and puts them below. -/
theorem residue_absorb (hk : k ≤ w) (v : BitVec w) (c : BitVec k) :
    residue tail (absorb tail v c) = AdjoinRoot.root (generator tail) ^ k * residue tail v +
      AdjoinRoot.root (generator tail) ^ w *
        AdjoinRoot.mk (generator tail) (ofBits (wordBits c)) := by
  have hlow : residue tail (c.setWidth w) = AdjoinRoot.root (generator tail) ^ (w - k) *
      AdjoinRoot.mk (generator tail) (ofBits (wordBits c)) := by
    unfold residue
    rw [reading_setWidth hk, map_mul, map_pow, AdjoinRoot.mk_X, ofBits_wordBits]
  have hpow : AdjoinRoot.root (generator tail) ^ k *
      AdjoinRoot.root (generator tail) ^ (w - k) = AdjoinRoot.root (generator tail) ^ w := by
    rw [← pow_add, Nat.add_sub_cancel' hk]
  calc residue tail (absorb tail v c)
      = AdjoinRoot.root (generator tail) ^ k *
          (residue tail v + residue tail (c.setWidth w)) := by
        rw [absorb, residue_iterate, residue_xor]
    _ = AdjoinRoot.root (generator tail) ^ k * residue tail v +
          AdjoinRoot.root (generator tail) ^ k * AdjoinRoot.root (generator tail) ^ (w - k) *
            AdjoinRoot.mk (generator tail) (ofBits (wordBits c)) := by
        rw [hlow, mul_add, mul_assoc]
    _ = _ := by rw [hpow]

theorem residue_foldl (hk : k ≤ w) (cs : List (BitVec k)) (v : BitVec w) :
    residue tail (cs.foldl (absorb tail) v) =
      AdjoinRoot.root (generator tail) ^ w *
          AdjoinRoot.mk (generator tail) (ofBits (messageBits cs)) +
        AdjoinRoot.root (generator tail) ^ (messageBits cs).length * residue tail v := by
  induction cs generalizing v with
  | nil =>
    show residue tail v = _ * AdjoinRoot.mk (generator tail) 0 + _ ^ 0 * residue tail v
    rw [map_zero, mul_zero, zero_add, pow_zero, one_mul]
  | cons c cs ih =>
    -- the rest of the message moves the first word up by its own length
    have hbits : messageBits (c :: cs) = wordBits c ++ messageBits cs := rfl
    rw [List.foldl_cons, ih, residue_absorb tail hk, hbits, ofBits_append, List.length_append,
      length_wordBits, map_add, map_mul, map_pow, AdjoinRoot.mk_X, pow_add]
    ring

/-- A polynomial of low degree is its own remainder, and that of every other
one with its residue. -/
theorem eq_modByMonic {p q : (ZMod 2)[X]} (hp : p.degree < w)
    (h : AdjoinRoot.mk (generator tail) p = AdjoinRoot.mk (generator tail) q) :
    p = q %ₘ generator tail := by
  have hself : p %ₘ generator tail = p := by
    rw [modByMonic_eq_self_iff (monic_generator tail), degree_generator]
    exact hp
  rw [← hself]
  exact modByMonic_eq_of_dvd_sub (monic_generator tail) (AdjoinRoot.mk_eq_mk.mp h)

/-- **The register ends with the remainder.** -/
theorem foldl_absorb (hk : k ≤ w) (cs : List (BitVec k)) (v : BitVec w) :
    cs.foldl (absorb tail) v =
      (toWord w ((X ^ w * ofBits (messageBits cs) +
        X ^ (messageBits cs).length * reading v) %ₘ generator tail)).reverse := by
  have hreading : reading (cs.foldl (absorb tail) v) =
      (X ^ w * ofBits (messageBits cs) + X ^ (messageBits cs).length * reading v) %ₘ
        generator tail := by
    apply eq_modByMonic tail (degree_ofWord _)
    rw [map_add, map_mul, map_mul, map_pow, map_pow, AdjoinRoot.mk_X]
    exact residue_foldl tail hk cs v
  rw [← hreading]
  unfold reading
  rw [toWord_ofWord, BitVec.reverse_reverse_eq]

/-! ### Bursts -/

theorem degree_ofBits (bits : List Bool) : (ofBits bits).degree < bits.length := by
  rw [degree_lt_iff_coeff_zero]
  intro n hn
  rw [coeff_ofBits, List.getElem?_eq_none (by rw [List.length_reverse]; exact hn)]
  rfl

theorem ofBits_injective {bits bits' : List Bool} (hlen : bits.length = bits'.length)
    (h : ofBits bits = ofBits bits') : bits = bits' := by
  apply List.reverse_injective
  apply List.ext_getElem (by rw [List.length_reverse, List.length_reverse, hlen])
  intro n hn hn'
  have hcoeff : bit bits.reverse[n] = bit bits'.reverse[n] := by
    have := congrArg (coeff · n) h
    simp only [coeff_ofBits, List.getElem?_eq_getElem hn, List.getElem?_eq_getElem hn',
      Option.getD_some] at this
    exact this
  exact bit_injective hcoeff

/-- A generator with a constant term has no power of `X` as a factor. -/
theorem dvd_of_dvd_X_pow_mul (htail : tail.getLsbD 0 = true) {p : (ZMod 2)[X]} {n : ℕ}
    (h : generator tail ∣ X ^ n * p) : generator tail ∣ p := by
  have hpos : 0 < w := BitVec.lt_of_getLsbD htail
  have hconst : (generator tail).coeff 0 ≠ 0 := by
    unfold generator
    rw [coeff_add, coeff_X_pow, if_neg hpos.ne, coeff_ofWord, htail, zero_add]
    exact one_ne_zero
  have hcoprime : IsCoprime (generator tail) (X ^ n) := by
    apply IsCoprime.pow_right
    apply IsCoprime.symm
    rw [irreducible_X.coprime_iff_not_dvd, X_dvd_iff]
    exact hconst
  exact hcoprime.dvd_of_dvd_mul_left h

/-- **A burst of errors is detected.** Two messages that differ only inside a
window of at most `w` bits leave different words in the register. -/
theorem foldl_absorb_ne_of_burst (hk : k ≤ w) (htail : tail.getLsbD 0 = true)
    {cs cs' : List (BitVec k)} {front burst burst' back : List Bool}
    (hmessage : messageBits cs = front ++ (burst ++ back))
    (hmessage' : messageBits cs' = front ++ (burst' ++ back))
    (hlen : burst.length = burst'.length) (hshort : burst.length ≤ w) (hne : burst ≠ burst')
    (v : BitVec w) : cs.foldl (absorb tail) v ≠ cs'.foldl (absorb tail) v := by
  intro hsame
  have hlength : (messageBits cs).length = (messageBits cs').length := by
    rw [hmessage, hmessage']
    simp only [List.length_append, hlen]
  -- the residues of the messages agree, so the generator divides their difference
  have hresidue := (residue_foldl tail hk cs v).symm.trans
    ((congrArg (residue tail) hsame).trans (residue_foldl tail hk cs' v))
  rw [hlength] at hresidue
  have hmk := add_right_cancel hresidue
  rw [← AdjoinRoot.mk_X, ← map_pow, ← map_mul, ← map_mul, AdjoinRoot.mk_eq_mk, ← mul_sub] at hmk
  have hdiff : ofBits (messageBits cs) - ofBits (messageBits cs') =
      X ^ back.length * (ofBits burst - ofBits burst') := by
    rw [hmessage, hmessage', ofBits_append, ofBits_append, ofBits_append, ofBits_append]
    simp only [List.length_append, hlen]
    ring
  rw [hdiff] at hmk
  have hdvd := dvd_of_dvd_X_pow_mul tail htail (dvd_of_dvd_X_pow_mul tail htail hmk)
  -- but the burst is too short to be divided
  have hdegree : (ofBits burst - ofBits burst').degree < (generator tail).degree := by
    rw [degree_generator]
    refine lt_of_le_of_lt (degree_sub_le _ _) (max_lt ?_ ?_)
    · exact (degree_ofBits burst).trans_le (Nat.cast_le.mpr hshort)
    · exact (degree_ofBits burst').trans_le (Nat.cast_le.mpr (hlen ▸ hshort))
  have hzero := eq_zero_of_dvd_of_degree_lt hdvd hdegree
  exact hne (ofBits_injective hlen (sub_eq_zero.mp hzero))

end Residue

end Crc
