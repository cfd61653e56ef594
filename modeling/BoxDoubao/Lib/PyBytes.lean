import BoxDoubao.Lib.CMemory

/-!
# Byte strings of a Python program

Indexing raises `IndexError` outside the object; slicing never does. An index
of a slice that is negative counts from the end, and one beyond an end is
moved to it. `int.from_bytes` reads a numeral of any number of bytes.

The rules a decoder uses are at the end: a slice that begins where a field
begins and stops where it stops is the field.
-/

namespace PyBytes

open CMemory

/-- The exceptions of the modelled code. -/
inductive PyError where
  | indexError
  /-- Raised by a library call. -/
  | library
  deriving DecidableEq, Repr

/-- `b[i]` for a non-negative `i`. -/
def index (b : Bytes) (i : ℕ) : Except PyError UInt8 :=
  match b[i]? with
  | some x => .ok x
  | none => .error .indexError

/-- The position an index of a slice stands for. -/
def sliceIndex (len : ℕ) (i : ℤ) : ℕ :=
  if i < 0 then (i + len).toNat else min i.toNat len

/-- `b[i:]`. -/
def sliceFrom (b : Bytes) (i : ℤ) : Bytes := b.drop (sliceIndex b.length i)

/-- `b[:j]`. -/
def sliceTo (b : Bytes) (j : ℤ) : Bytes := b.take (sliceIndex b.length j)

/-- `b[i:j]`. -/
def slice (b : Bytes) (i j : ℤ) : Bytes :=
  (b.drop (sliceIndex b.length i)).take (sliceIndex b.length j - sliceIndex b.length i)

/-- `int.from_bytes(b, "big", signed=False)`. -/
def fromBytes (b : Bytes) : ℕ := b.foldl (fun n x => 256 * n + x.toNat) 0

/-- `int.from_bytes(b, "big", signed=True)`. -/
def fromBytesSigned (b : Bytes) : ℤ :=
  if 2 * fromBytes b < 256 ^ b.length then fromBytes b else fromBytes b - 256 ^ b.length

/-! ### Fields -/

theorem sliceIndex_of_le {len n : ℕ} (h : n ≤ len) : sliceIndex len n = n := by
  unfold sliceIndex
  rw [if_neg (by omega), Int.toNat_natCast]
  exact min_eq_left h

theorem sliceFrom_append (front rest : Bytes) {i : ℤ} (hi : i = front.length) :
    sliceFrom (front ++ rest) i = rest := by
  subst hi
  unfold sliceFrom
  rw [sliceIndex_of_le (by rw [List.length_append]; omega), List.drop_left]

theorem sliceTo_append (front rest : Bytes) {j : ℤ} (hj : j = front.length) :
    sliceTo (front ++ rest) j = front := by
  subst hj
  unfold sliceTo
  rw [sliceIndex_of_le (by rw [List.length_append]; omega), List.take_left]

theorem slice_append (front field rest : Bytes) {i j : ℤ} (hi : i = front.length)
    (hj : j = (front.length + field.length : ℕ)) :
    slice (front ++ (field ++ rest)) i j = field := by
  subst hi hj
  have hlen : (front ++ (field ++ rest)).length = front.length + (field.length + rest.length) := by
    rw [List.length_append, List.length_append]
  unfold slice
  rw [sliceIndex_of_le (by omega), sliceIndex_of_le (by omega), List.drop_left,
    Nat.add_sub_cancel_left, List.take_left]

/-- The bytes of a word are a numeral for it. -/
theorem fromBytes_beBytes (v : UInt32) : fromBytes (beBytes v) = v.toNat := by
  have hword := toNat_ofBe (v >>> 24).toUInt8 (v >>> 16).toUInt8 (v >>> 8).toUInt8 v.toUInt8
  rw [ofBe_beBytes] at hword
  show 256 * (256 * (256 * (256 * 0 + (v >>> 24).toUInt8.toNat) + (v >>> 16).toUInt8.toNat) +
    (v >>> 8).toUInt8.toNat) + v.toUInt8.toNat = v.toNat
  rw [hword]
  ring

/-- A word below `2 ^ 31` is read as itself when it is read as signed. -/
theorem fromBytesSigned_beBytes {v : UInt32} (h : v.toNat < 2147483648) :
    fromBytesSigned (beBytes v) = v.toNat := by
  unfold fromBytesSigned
  rw [fromBytes_beBytes]
  refine if_pos ?_
  show 2 * v.toNat < 256 ^ 4
  omega

end PyBytes
