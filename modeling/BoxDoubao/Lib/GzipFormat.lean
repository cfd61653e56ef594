import BoxDoubao.Lib.CMemory

/-!
# The gzip member format

One member of a gzip file: a ten-byte header, up to four optional fields whose
presence is said by a byte of flags, the deflate body and a trailer of eight
bytes. `GzipMember.encode` lays the fields out in the order of the format; a
member carries that its extra field is short enough for its 16-bit length and,
with the type of its name and comment, that they have no zero byte.

What the body inflates to is no part of the format and is not fixed here.
-/

namespace CMemory

/-- A member of a gzip file. -/
structure GzipMember where
  text : Bool
  mtime : UInt32
  extraFlags : UInt8
  os : UInt8
  extra : Option Bytes
  extra_length : ∀ bytes, extra = some bytes → bytes.length < 65536
  name : Option CString
  comment : Option CString
  headerCrc : Option (UInt8 × UInt8)
  body : Bytes
  crc : UInt32
  inputSize : UInt32

namespace GzipMember

/-- The byte of flags, from the lowest bit: FTEXT, FHCRC, FEXTRA, FNAME and
FCOMMENT. -/
def flagByte (text headerCrc extra name comment : Bool) : UInt8 :=
  (if text then 0x01 else 0) ||| (if headerCrc then 0x02 else 0) |||
    (if extra then 0x04 else 0) ||| (if name then 0x08 else 0) ||| (if comment then 0x10 else 0)

variable (m : GzipMember)

def flags : UInt8 :=
  flagByte m.text m.headerCrc.isSome m.extra.isSome m.name.isSome m.comment.isSome

/-- The ten bytes before the optional fields. -/
def fixedHeader : Bytes :=
  [0x1F, 0x8B, 0x08, m.flags] ++ leBytes m.mtime ++ [m.extraFlags, m.os]

/-- A little-endian 16-bit length and the bytes it counts. -/
def extraField : Bytes :=
  match m.extra with
  | none => []
  | some bytes => UInt8.ofNat bytes.length :: UInt8.ofNat (bytes.length / 256) :: bytes

/-- A string with its terminator. -/
def stringField (s : Option CString) : Bytes :=
  match s with
  | none => []
  | some s => s.chars ++ [0]

def headerCrcField : Bytes :=
  match m.headerCrc with
  | none => []
  | some (lo, hi) => [lo, hi]

def trailer : Bytes := leBytes m.crc ++ leBytes m.inputSize

/-- What stands before the body. -/
def header : Bytes :=
  m.fixedHeader ++ (m.extraField ++ (stringField m.name ++ (stringField m.comment ++
    m.headerCrcField)))

/-- The member as it stands in the file. -/
def encode : Bytes :=
  m.fixedHeader ++ (m.extraField ++ (stringField m.name ++ (stringField m.comment ++
    (m.headerCrcField ++ (m.body ++ m.trailer)))))

theorem encode_eq : m.encode = m.header ++ (m.body ++ m.trailer) := by
  unfold encode header
  simp only [List.append_assoc]

/-! ### The flags say which fields are there -/

theorem flags_headerCrc : m.flags &&& 0x02 ≠ 0 ↔ m.headerCrc.isSome = true := by
  have h : ∀ t c e n k : Bool, flagByte t c e n k &&& 0x02 ≠ 0 ↔ c = true := by decide
  exact h _ _ _ _ _

theorem flags_extra : m.flags &&& 0x04 ≠ 0 ↔ m.extra.isSome = true := by
  have h : ∀ t c e n k : Bool, flagByte t c e n k &&& 0x04 ≠ 0 ↔ e = true := by decide
  exact h _ _ _ _ _

theorem flags_name : m.flags &&& 0x08 ≠ 0 ↔ m.name.isSome = true := by
  have h : ∀ t c e n k : Bool, flagByte t c e n k &&& 0x08 ≠ 0 ↔ n = true := by decide
  exact h _ _ _ _ _

theorem flags_comment : m.flags &&& 0x10 ≠ 0 ↔ m.comment.isSome = true := by
  have h : ∀ t c e n k : Bool, flagByte t c e n k &&& 0x10 ≠ 0 ↔ k = true := by decide
  exact h _ _ _ _ _

@[simp] theorem length_fixedHeader : m.fixedHeader.length = 10 := rfl

@[simp] theorem length_trailer : m.trailer.length = 8 := rfl

/-- The bytes of the length of the extra field spell it. -/
theorem extra_word {n : ℕ} (h : n < 65536) :
    ((UInt8.ofNat n).toUInt16 ||| ((UInt8.ofNat (n / 256)).toUInt16 <<< 8)).toNat = n := by
  have hlo : (UInt8.ofNat n).toNat = n % 256 := UInt8.toNat_ofNat'
  have hhi : (UInt8.ofNat (n / 256)).toNat = n / 256 := by
    rw [UInt8.toNat_ofNat']
    exact Nat.mod_eq_of_lt (by omega)
  have hshift : (n / 256) <<< 8 = n / 256 * 256 := Nat.shiftLeft_eq _ _
  rw [UInt16.toNat_or, UInt16.toNat_shiftLeft, UInt8.toNat_toUInt16, UInt8.toNat_toUInt16, hlo, hhi]
  -- the two bytes occupy disjoint bits, so their disjunction is a sum
  calc n % 256 ||| (n / 256) <<< 8 % 65536
      = (n / 256) <<< 8 ||| n % 256 := by
        rw [Nat.mod_eq_of_lt (a := (n / 256) <<< 8) (by omega), Nat.or_comm]
    _ = (n / 256) <<< 8 + n % 256 :=
        (Nat.shiftLeft_add_eq_or_of_lt (Nat.mod_lt n (by omega)) _).symm
    _ = n := by omega

end GzipMember

end CMemory
