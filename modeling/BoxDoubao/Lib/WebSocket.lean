import BoxDoubao.Lib.CMemory
import Mathlib.Data.Fintype.Basic
import Mathlib.Tactic.FinCases

/-!
# WebSocket frames

The framing layer of the WebSocket protocol, as bytes. A `Frame` is a header
and a payload: the final-fragment bit, three reserved bits, the opcode, an
optional masking key and the form in which the payload's length is written.
`Frame.encode` lays it out.

The length has three forms: in the second byte itself, in two further bytes,
or in eight. A sender may use a longer form than it needs, so the form is a
field of the frame, which also carries that its payload fits it;
`Frame.ofMessage` is the frame with the shortest form.

Masking combines byte `i` of the payload with byte `i % 4` of the key by
exclusive or. `applyMask key i` does this to a piece of the payload that
starts at position `i`, so that a payload may be masked piece by piece
(`applyMask_append`), and it is its own inverse (`applyMask_applyMask`).
-/

namespace WebSocket

open CMemory

/-! ### Masking -/

/-- A masking key. -/
abbrev MaskKey := Fin 4 → UInt8

/-- The key as it stands in a frame. -/
def MaskKey.bytes (key : MaskKey) : Bytes := [key 0, key 1, key 2, key 3]

/-- The key whose bytes come first in `b`. -/
def MaskKey.ofBytes (b : Bytes) : MaskKey := fun i => b.getD i 0

/-- The key that changes nothing. -/
def MaskKey.zero : MaskKey := fun _ => 0

/-- Mask the bytes of a payload from its position `i` on. -/
def applyMask (key : MaskKey) : ℕ → Bytes → Bytes
  | _, [] => []
  | i, b :: bs => (b ^^^ key (Fin.ofNat 4 i)) :: applyMask key (i + 1) bs

theorem MaskKey.ofBytes_bytes (key : MaskKey) (rest : Bytes) :
    MaskKey.ofBytes (key.bytes ++ rest) = key := by
  funext i
  fin_cases i <;> rfl

variable (key : MaskKey)

@[simp] theorem length_applyMask (i : ℕ) (bs : Bytes) :
    (applyMask key i bs).length = bs.length := by
  induction bs generalizing i with
  | nil => rfl
  | cons b bs ih => rw [applyMask, List.length_cons, List.length_cons, ih]

/-- A payload may be masked piece by piece. -/
theorem applyMask_append (i : ℕ) (as bs : Bytes) :
    applyMask key i (as ++ bs) = applyMask key i as ++ applyMask key (i + as.length) bs := by
  induction as generalizing i with
  | nil => rfl
  | cons a as ih =>
    rw [List.cons_append, applyMask, applyMask, ih, List.cons_append, List.length_cons]
    rw [show i + 1 + as.length = i + (as.length + 1) by omega]

/-- Masking twice gives the payload back. -/
@[simp] theorem applyMask_applyMask (i : ℕ) (bs : Bytes) :
    applyMask key i (applyMask key i bs) = bs := by
  induction bs generalizing i with
  | nil => rfl
  | cons b bs ih =>
    rw [applyMask, applyMask, ih, UInt8.xor_assoc, UInt8.xor_self, UInt8.xor_zero]

@[simp] theorem applyMask_zero (i : ℕ) (bs : Bytes) : applyMask MaskKey.zero i bs = bs := by
  induction bs generalizing i with
  | nil => rfl
  | cons b bs ih => rw [applyMask, ih, MaskKey.zero, UInt8.xor_zero]

/-- Two positions mask a piece alike exactly when the bytes of the key that
meet it agree. -/
theorem applyMask_eq_iff {key : MaskKey} {i j : ℕ} {bs : Bytes} :
    applyMask key i bs = applyMask key j bs ↔
      ∀ t, t < bs.length → key (Fin.ofNat 4 (i + t)) = key (Fin.ofNat 4 (j + t)) := by
  induction bs generalizing i j with
  | nil =>
    exact ⟨fun _ t ht => absurd ht (Nat.not_lt_zero t), fun _ => rfl⟩
  | cons b bs ih =>
    rw [applyMask, applyMask, List.cons.injEq, UInt8.xor_right_inj, ih, List.length_cons]
    constructor
    · rintro ⟨h0, hrest⟩ t ht
      cases t with
      | zero => exact h0
      | succ t =>
        have := hrest t (by omega)
        rwa [show i + 1 + t = i + (t + 1) by omega, show j + 1 + t = j + (t + 1) by omega] at this
    · intro h
      refine ⟨h 0 (by omega), fun t ht => ?_⟩
      have := h (t + 1) (by omega)
      rwa [show i + (t + 1) = i + 1 + t by omega, show j + (t + 1) = j + 1 + t by omega] at this

/-- Pieces of these lengths, the first at position `i`, all meet the bytes of
the key they would meet at position zero. -/
def Aligned (key : MaskKey) : ℕ → List ℕ → Prop
  | _, [] => True
  | i, n :: ns =>
    (∀ t, t < n → key (Fin.ofNat 4 t) = key (Fin.ofNat 4 (i + t))) ∧ Aligned key (i + n) ns

/-- **Masking piece by piece from the start of the key** is masking the whole
exactly where the pieces are aligned. -/
theorem flatten_map_applyMask_iff {key : MaskKey} {i : ℕ} {pieces : List Bytes} :
    (pieces.map (applyMask key 0)).flatten = applyMask key i pieces.flatten ↔
      Aligned key i (pieces.map List.length) := by
  induction pieces generalizing i with
  | nil => exact ⟨fun _ => trivial, fun _ => rfl⟩
  | cons p ps ih =>
    rw [List.map_cons, List.map_cons, List.flatten_cons, List.flatten_cons, applyMask_append,
      Aligned, ← ih]
    -- both sides are cut behind the first piece
    have hlen : (applyMask key 0 p).length = (applyMask key i p).length := by
      rw [length_applyMask, length_applyMask]
    constructor
    · intro h
      obtain ⟨hp, hps⟩ := List.append_inj h hlen
      exact ⟨fun t ht => by simpa using applyMask_eq_iff.mp hp t ht, hps⟩
    · rintro ⟨hp, hps⟩
      rw [hps, applyMask_eq_iff.mpr fun t ht => by simpa using hp t ht]

/-- Mask a whole payload, where there is a key. -/
def maskWith : Option MaskKey → Bytes → Bytes
  | none, bs => bs
  | some key, bs => applyMask key 0 bs

@[simp] theorem length_maskWith (key : Option MaskKey) (bs : Bytes) :
    (maskWith key bs).length = bs.length := by
  cases key with
  | none => rfl
  | some key => exact length_applyMask key 0 bs

@[simp] theorem maskWith_maskWith (key : Option MaskKey) (bs : Bytes) :
    maskWith key (maskWith key bs) = bs := by
  cases key with
  | none => rfl
  | some key => exact applyMask_applyMask key 0 bs

/-! ### The length field -/

/-- How the payload's length is written. -/
inductive LengthForm where
  | short
  | medium
  | long
  deriving DecidableEq, Repr

namespace LengthForm

/-- The first length the form cannot write. -/
def limit : LengthForm → ℕ
  | short => 126
  | medium => 65536
  | long => 18446744073709551616

/-- The seven bits in the second byte of the header. -/
def code : LengthForm → ℕ → ℕ
  | short, n => n
  | medium, _ => 126
  | long, _ => 127

/-- The bytes after the second one. -/
def extended : LengthForm → ℕ → Bytes
  | short, _ => []
  | medium, n => [UInt8.ofNat (n / 256), UInt8.ofNat n]
  | long, n =>
    [UInt8.ofNat (n / 72057594037927936), UInt8.ofNat (n / 281474976710656),
      UInt8.ofNat (n / 1099511627776), UInt8.ofNat (n / 4294967296),
      UInt8.ofNat (n / 16777216), UInt8.ofNat (n / 65536), UInt8.ofNat (n / 256), UInt8.ofNat n]

/-- The shortest form that can write `n`. -/
def shortest (n : ℕ) : LengthForm :=
  if n < 126 then short else if n < 65536 then medium else long

theorem code_lt (form : LengthForm) {n : ℕ} (h : n < form.limit) : form.code n < 128 := by
  cases form with
  | short => exact Nat.lt_of_lt_of_le h (by decide)
  | medium => exact (by decide : 126 < 128)
  | long => exact (by decide : 127 < 128)

theorem lt_shortest {n : ℕ} (h : n < 18446744073709551616) : n < (shortest n).limit := by
  unfold shortest
  split
  · assumption
  · split <;> assumption

end LengthForm

/-! ### Frames -/

def Opcode.binary : Fin 16 := ⟨2, by decide⟩
def Opcode.close : Fin 16 := ⟨8, by decide⟩
def Opcode.ping : Fin 16 := ⟨9, by decide⟩
def Opcode.pong : Fin 16 := ⟨10, by decide⟩

/-- A frame of the protocol. -/
structure Frame where
  fin : Bool
  rsv : Fin 8
  opcode : Fin 16
  key : Option MaskKey
  form : LengthForm
  payload : Bytes
  /-- The length can be written in the form chosen. -/
  fits : payload.length < form.limit

namespace Frame

variable (f : Frame)

/-- The first byte of the header. -/
def firstByte : UInt8 :=
  UInt8.ofNat (128 * f.fin.toNat + 16 * f.rsv.val + f.opcode.val)

/-- The second byte of the header. -/
def secondByte : UInt8 :=
  UInt8.ofNat (128 * f.key.isSome.toNat + f.form.code f.payload.length)

/-- The payload as it travels. -/
def wire : Bytes := maskWith f.key f.payload

def keyBytes : Bytes :=
  match f.key with
  | none => []
  | some key => key.bytes

/-- Everything before the payload. -/
def header : Bytes :=
  f.firstByte :: f.secondByte :: (f.form.extended f.payload.length ++ f.keyBytes)

/-- **The bytes of a frame.** -/
def encode : Bytes := f.header ++ f.wire

/-- Whether this is a control frame. -/
def isControl : Bool := 8 ≤ f.opcode.val

/-- The frame with the shortest header for a payload. -/
def ofMessage (fin : Bool) (opcode : Fin 16) (key : Option MaskKey) (payload : Bytes)
    (h : payload.length < 18446744073709551616) : Frame where
  fin := fin
  rsv := 0
  opcode := opcode
  key := key
  form := LengthForm.shortest payload.length
  payload := payload
  fits := LengthForm.lt_shortest h

@[simp] theorem length_wire : f.wire.length = f.payload.length := length_maskWith _ _

theorem wire_of_unmasked {f : Frame} (h : f.key = none) : f.wire = f.payload := by
  rw [wire, h, maskWith]

theorem wire_eq_nil_iff {f : Frame} : f.wire = [] ↔ f.payload = [] := by
  rw [← List.length_eq_zero_iff, f.length_wire, List.length_eq_zero_iff]

end Frame

/-- The bytes of a sequence of frames. -/
def encodeAll (frames : List Frame) : Bytes := frames.flatMap Frame.encode

@[simp] theorem encodeAll_cons (f : Frame) (frames : List Frame) :
    encodeAll (f :: frames) = f.encode ++ encodeAll frames := rfl

/-! ### The bits of the first two bytes -/

/-- A first byte, by its bits. -/
private def first (fin : Bool) (rsv : Fin 8) (opcode : Fin 16) : UInt8 :=
  UInt8.ofNat (128 * fin.toNat + 16 * rsv.val + opcode.val)

private theorem first_bits : ∀ (fin : Bool) (rsv : Fin 8) (opcode : Fin 16),
    (first fin rsv opcode &&& 0x80 != 0) = fin ∧
      first fin rsv opcode &&& 0x0F = UInt8.ofNat opcode.val := by
  decide +kernel

private theorem second_bits : ∀ (masked : Bool) (code : Fin 128),
    ((UInt8.ofNat (128 * masked.toNat + code.val) >>> 7) &&& 0x01 != 0) = masked ∧
      (UInt8.ofNat (128 * masked.toNat + code.val) &&& 0x7F).toNat = code.val := by
  decide +kernel

namespace Frame

variable (f : Frame)

theorem firstByte_fin : (f.firstByte &&& 0x80 != 0) = f.fin :=
  (first_bits f.fin f.rsv f.opcode).1

theorem firstByte_opcode : f.firstByte &&& 0x0F = UInt8.ofNat f.opcode.val :=
  (first_bits f.fin f.rsv f.opcode).2

theorem secondByte_mask : ((f.secondByte >>> 7) &&& 0x01 != 0) = f.key.isSome :=
  (second_bits f.key.isSome ⟨f.form.code f.payload.length, f.form.code_lt f.fits⟩).1

theorem secondByte_code :
    (f.secondByte &&& 0x7F).toNat = f.form.code f.payload.length :=
  (second_bits f.key.isSome ⟨f.form.code f.payload.length, f.form.code_lt f.fits⟩).2

/-- The control bit of an opcode. -/
theorem control_bit : ∀ opcode : Fin 16,
    (UInt8.ofNat opcode.val &&& 0x08 != 0) = decide (8 ≤ opcode.val) := by
  decide

end Frame

end WebSocket
