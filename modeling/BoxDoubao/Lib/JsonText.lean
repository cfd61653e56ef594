import Mathlib.Data.List.Basic

/-!
# JSON texts and what they denote

The grammar of JSON as relations between the characters ahead, the value read
and the characters left. A string denotes the UTF-16 code units of its
characters: an unescaped character stands for its own, and `\uXXXX` for the one
it spells, so a pair of such escapes spells a character outside the basic
plane. Members of an object keep their order and may repeat a name.

`chars_plain_iff` reads a string without escapes. `Chars.size_le` and
`Chars.plain` compare the units a string denotes with the ones it is written
in: an escape is longer than what it stands for, so a string that denotes as
much as it is written in is the plain one. `denotes_aroundMember_iff` applies this to
a text put together around a string: the braces close where they should only
if nothing in it is special. A text is exchanged in UTF-8, which loses nothing
(`utf8_injective`).
-/

namespace JsonText

/-! ### Values -/

/-- The code units of a character. -/
def utf16 (c : Char) : List ℕ :=
  if c.toNat < 0x10000 then [c.toNat]
  else [0xD800 + (c.toNat - 0x10000) / 0x400, 0xDC00 + (c.toNat - 0x10000) % 0x400]

/-- The code units of a text. -/
def units (l : List Char) : List ℕ := l.flatMap utf16

/-- A value. A number is shown as it is written. -/
inductive Value where
  | null
  | bool (b : Bool)
  | number (literal : List Char)
  | string (units : List ℕ)
  | array (elements : List Value)
  | object (members : List (List ℕ × Value))

/-! ### The grammar -/

/-- White space between tokens. -/
def IsWs (c : Char) : Prop := c = ' ' ∨ c = '\t' ∨ c = '\n' ∨ c = '\r'

inductive Ws : List Char → List Char → Prop
  | nil {l : List Char} : Ws l l
  | cons {c : Char} {l rest : List Char} : IsWs c → Ws l rest → Ws (c :: l) rest

/-- A character that stands for itself in a string. -/
def Unescaped (c : Char) : Prop := c ≠ '"' ∧ c ≠ '\\' ∧ 0x20 ≤ c.toNat

instance decidableUnescaped (c : Char) : Decidable (Unescaped c) :=
  inferInstanceAs (Decidable (_ ∧ _ ∧ _))

theorem forall_unescaped {l : List Char} (h : l.all (fun c => decide (Unescaped c)) = true) :
    ∀ c ∈ l, Unescaped c :=
  fun c hc => of_decide_eq_true (List.all_eq_true.mp h c hc)

/-- What stands behind a backslash, other than `u`. -/
def escaped : Char → Option ℕ
  | '"' => some 0x22
  | '\\' => some 0x5C
  | '/' => some 0x2F
  | 'b' => some 0x08
  | 'f' => some 0x0C
  | 'n' => some 0x0A
  | 'r' => some 0x0D
  | 't' => some 0x09
  | _ => none

/-- A hexadecimal digit. -/
def hexDigit (c : Char) : Option ℕ :=
  if '0'.toNat ≤ c.toNat ∧ c.toNat ≤ '9'.toNat then some (c.toNat - '0'.toNat)
  else if 'a'.toNat ≤ c.toNat ∧ c.toNat ≤ 'f'.toNat then some (c.toNat - 'a'.toNat + 10)
  else if 'A'.toNat ≤ c.toNat ∧ c.toNat ≤ 'F'.toNat then some (c.toNat - 'A'.toNat + 10)
  else none

/-- The characters of a string up to the quotation mark that closes it. -/
inductive Chars : List Char → List ℕ → List Char → Prop
  | close {rest : List Char} : Chars ('"' :: rest) [] rest
  | plain {c : Char} {l rest : List Char} {us : List ℕ} :
      Unescaped c → Chars l us rest → Chars (c :: l) (utf16 c ++ us) rest
  | escape {c : Char} {u : ℕ} {l rest : List Char} {us : List ℕ} :
      escaped c = some u → Chars l us rest → Chars ('\\' :: c :: l) (u :: us) rest
  | hex {a b c d : Char} {p q r s : ℕ} {l rest : List Char} {us : List ℕ} :
      hexDigit a = some p → hexDigit b = some q → hexDigit c = some r → hexDigit d = some s →
      Chars l us rest →
      Chars ('\\' :: 'u' :: a :: b :: c :: d :: l)
        ((((p * 16 + q) * 16 + r) * 16 + s) :: us) rest

inductive Str : List Char → List ℕ → List Char → Prop
  | quote {l rest : List Char} {us : List ℕ} : Chars l us rest → Str ('"' :: l) us rest

/-- A run of at least one digit. -/
def IsDigits (l : List Char) : Prop := l ≠ [] ∧ ∀ c ∈ l, c.isDigit

/-- A number: a sign, an integer without leading zeros, a fraction and an
exponent, all but the integer optional. -/
inductive IsNumber : List Char → Prop
  | mk {sign integer fraction exponent : List Char} :
      (sign = [] ∨ sign = ['-']) →
      IsDigits integer → (integer.head? = some '0' → integer = ['0']) →
      (fraction = [] ∨ ∃ digits, IsDigits digits ∧ fraction = '.' :: digits) →
      (exponent = [] ∨ ∃ e s digits, (e = 'e' ∨ e = 'E') ∧ (s = [] ∨ s = ['+'] ∨ s = ['-']) ∧
        IsDigits digits ∧ exponent = e :: s ++ digits) →
      IsNumber (sign ++ integer ++ fraction ++ exponent)

mutual

inductive Reads : List Char → Value → List Char → Prop
  | null {l rest : List Char} : l = "null".toList ++ rest → Reads l .null rest
  | false {l rest : List Char} : l = "false".toList ++ rest → Reads l (.bool false) rest
  | true {l rest : List Char} : l = "true".toList ++ rest → Reads l (.bool true) rest
  | number {l literal rest : List Char} :
      IsNumber literal → l = literal ++ rest → Reads l (.number literal) rest
  | string {l rest : List Char} {us : List ℕ} : Str l us rest → Reads l (.string us) rest
  | noElements {l rest : List Char} : Ws l (']' :: rest) → Reads ('[' :: l) (.array []) rest
  | array {l rest : List Char} {vs : List Value} :
      Elements l vs rest → Reads ('[' :: l) (.array vs) rest
  | noMembers {l rest : List Char} : Ws l ('}' :: rest) → Reads ('\x7b' :: l) (.object []) rest
  | object {l rest : List Char} {ms : List (List ℕ × Value)} :
      Members l ms rest → Reads ('\x7b' :: l) (.object ms) rest

/-- Elements up to the bracket that closes the array. -/
inductive Elements : List Char → List Value → List Char → Prop
  | last {l₀ l₁ l₂ rest : List Char} {v : Value} :
      Ws l₀ l₁ → Reads l₁ v l₂ → Ws l₂ (']' :: rest) → Elements l₀ [v] rest
  | more {l₀ l₁ l₂ l₃ rest : List Char} {v : Value} {vs : List Value} :
      Ws l₀ l₁ → Reads l₁ v l₂ → Ws l₂ (',' :: l₃) → Elements l₃ vs rest →
      Elements l₀ (v :: vs) rest

/-- Members up to the brace that closes the object. -/
inductive Members : List Char → List (List ℕ × Value) → List Char → Prop
  | last {l₀ l₁ l₂ rest : List Char} {m : List ℕ × Value} :
      Ws l₀ l₁ → Member l₁ m l₂ → Ws l₂ ('}' :: rest) → Members l₀ [m] rest
  | more {l₀ l₁ l₂ l₃ rest : List Char} {m : List ℕ × Value} {ms : List (List ℕ × Value)} :
      Ws l₀ l₁ → Member l₁ m l₂ → Ws l₂ (',' :: l₃) → Members l₃ ms rest →
      Members l₀ (m :: ms) rest

inductive Member : List Char → List ℕ × Value → List Char → Prop
  | mk {l₀ l₁ l₂ l₃ rest : List Char} {name : List ℕ} {v : Value} :
      Str l₀ name l₁ → Ws l₁ (':' :: l₂) → Ws l₂ l₃ → Reads l₃ v rest → Member l₀ (name, v) rest

end

/-- The text is valid and denotes `v`. -/
def Denotes (text : List Char) (v : Value) : Prop :=
  ∃ l rest, Ws text l ∧ Reads l v rest ∧ Ws rest []

/-! ### Sizes -/

/-- How many units a text is written in. -/
def size (l : List Char) : ℕ := (units l).length

theorem units_append (a b : List Char) : units (a ++ b) = units a ++ units b :=
  List.flatMap_append

theorem size_append (a b : List Char) : size (a ++ b) = size a + size b := by
  rw [size, units_append, List.length_append]
  rfl

theorem size_cons (c : Char) (l : List Char) : size (c :: l) = size [c] + size l :=
  size_append [c] l

theorem length_utf16_pos (c : Char) : 0 < (utf16 c).length := by
  unfold utf16
  split
  · exact Nat.zero_lt_one
  · exact Nat.zero_lt_two

theorem size_singleton (c : Char) : size [c] = (utf16 c).length := by
  simp only [size, units, List.flatMap_cons, List.flatMap_nil, List.append_nil]

theorem size_singleton_pos (c : Char) : 0 < size [c] := by
  rw [size_singleton]
  exact length_utf16_pos c

theorem length_le_size (l : List Char) : l.length ≤ size l := by
  induction l with
  | nil => exact Nat.le_refl _
  | cons c l ih =>
    have := size_singleton_pos c
    rw [size_cons, List.length_cons]
    omega

/-! ### White space -/

theorem Ws.eq_of_head {c : Char} {l rest : List Char} (hc : ¬ IsWs c) (h : Ws (c :: l) rest) :
    rest = c :: l := by
  cases h with
  | nil => rfl
  | cons hws _ => exact absurd hws hc

theorem Ws.size_le {l rest : List Char} (h : Ws l rest) : size rest ≤ size l := by
  induction h with
  | nil => exact Nat.le_refl _
  | cons _ _ ih =>
    rw [size_cons]
    omega

/-- One character is left, and it is not white space. -/
theorem Ws.eq_singleton {c : Char} {l rest : List Char} (h : Ws l (c :: rest))
    (hsize : size l ≤ 1) : l = [c] := by
  have hc := size_singleton_pos c
  cases h with
  | nil =>
    rw [size_cons] at hsize
    have hrest := length_le_size rest
    rw [List.eq_nil_of_length_eq_zero (by omega : rest.length = 0)]
  | @cons d l _ _ h =>
    have hle := h.size_le
    have hd := size_singleton_pos d
    rw [size_cons] at hsize hle
    omega

/-! ### Strings -/

/-- Nothing but the quotation mark ends a string without escapes. -/
theorem chars_plain_iff {raw rest' : List Char} {us : List ℕ} (hraw : ∀ c ∈ raw, Unescaped c)
    (rest : List Char) :
    Chars (raw ++ '"' :: rest) us rest' ↔ us = units raw ∧ rest' = rest := by
  induction raw generalizing us with
  | nil =>
    constructor
    · intro h
      cases h with
      | close => exact ⟨rfl, rfl⟩
      | plain hc _ => exact absurd rfl hc.1
    · rintro ⟨rfl, rfl⟩
      exact .close
  | cons c raw ih =>
    obtain ⟨hc, hrest⟩ := List.forall_mem_cons.mp hraw
    rw [List.cons_append]
    constructor
    · intro h
      -- what lies behind the character plays no part in the case analysis
      generalize hl : raw ++ '"' :: rest = l at h
      cases h with
      | close => exact absurd rfl hc.1
      | plain _ h =>
        rw [← hl] at h
        obtain ⟨rfl, rfl⟩ := (ih hrest).mp h
        exact ⟨rfl, rfl⟩
      | escape _ _ => exact absurd rfl hc.2.1
      | hex _ _ _ _ _ => exact absurd rfl hc.2.1
    · rintro ⟨rfl, rfl⟩
      exact .plain hc ((ih hrest).mpr ⟨rfl, rfl⟩)

/-- A string denotes at most what it is written in. -/
theorem Chars.size_le {l rest : List Char} {us : List ℕ} (h : Chars l us rest) :
    us.length + 1 + size rest ≤ size l := by
  induction h with
  | @close rest =>
    have := size_singleton_pos '"'
    rw [size_cons '"', List.length_nil]
    omega
  | @plain c l rest us _ _ ih =>
    calc (utf16 c ++ us).length + 1 + size rest
        = size [c] + (us.length + 1 + size rest) := by
          rw [List.length_append, size_singleton, Nat.add_assoc, Nat.add_assoc, Nat.add_assoc]
      _ ≤ size [c] + size l := Nat.add_le_add_left ih _
      _ = size (c :: l) := (size_cons c l).symm
  | @escape c u l rest us _ _ ih =>
    have hslash := size_singleton_pos '\\'
    have hc := size_singleton_pos c
    calc (u :: us).length + 1 + size rest
        = 1 + (us.length + 1 + size rest) := by
          rw [List.length_cons]
          omega
      _ ≤ size ['\\'] + (size [c] + size l) := by omega
      _ = size ('\\' :: c :: l) := by rw [← size_cons, ← size_cons]
  | @hex a b c d p q r s l rest us _ _ _ _ _ ih =>
    have := size_singleton_pos '\\'
    have := size_singleton_pos 'u'
    rw [size_cons '\\', size_cons 'u', size_cons a, size_cons b, size_cons c, size_cons d,
      List.length_cons]
    omega

/-- **A string that denotes all it is written in has no escapes.** -/
theorem Chars.plain_of_size {l rest : List Char} {us : List ℕ} (h : Chars l us rest)
    (hsize : size l ≤ us.length + 1 + size rest) :
    ∃ raw, l = raw ++ '"' :: rest ∧ ∀ c ∈ raw, Unescaped c := by
  induction h with
  | close => exact ⟨[], rfl, List.forall_mem_nil _⟩
  | @plain c l rest us hc _ ih =>
    rw [size_cons c, size_singleton, List.length_append] at hsize
    obtain ⟨raw, rfl, hraw⟩ := ih (by omega)
    exact ⟨c :: raw, rfl, List.forall_mem_cons.mpr ⟨hc, hraw⟩⟩
  | @escape c u l rest us _ h ih =>
    have hle := h.size_le
    have hslash := size_singleton_pos '\\'
    have hc := size_singleton_pos c
    rw [size_cons '\\', size_cons c, List.length_cons] at hsize
    omega
  | @hex a b c d p q r s l rest us _ _ _ _ h ih =>
    have hle := h.size_le
    have hslash := size_singleton_pos '\\'
    have hu := size_singleton_pos 'u'
    have ha := size_singleton_pos a
    rw [size_cons '\\', size_cons 'u', size_cons a, List.length_cons] at hsize
    rw [size_cons b, size_cons c, size_cons d] at hsize
    omega

/-! ### An object around a string -/

/-- The text of an object with one member, both strings put in as they are. -/
def aroundMember (name text : List Char) : List Char :=
  '\x7b' :: '"' :: (name ++ '"' :: ':' :: '"' :: (text ++ ['"', '}']))

/-- Put between a quotation mark and a brace, a text that is read as itself and
leaves the brace has nothing special in it. -/
theorem plain_of_closed {text l rest : List Char}
    (h : Chars (text ++ ['"', '}']) (units text) l) (hend : Ws l ('}' :: rest)) :
    ∀ c ∈ text, Unescaped c := by
  have hsize : size (text ++ ['"', '}']) = size text + 2 := by
    rw [size_append]
    rfl
  have hunits : (units text).length = size text := rfl
  -- the string takes all but one character, and that is the brace
  have hle := h.size_le
  obtain rfl : l = ['}'] := hend.eq_singleton (by omega)
  have hone : size ['}'] = 1 := rfl
  obtain ⟨raw, hraw, hplain⟩ := h.plain_of_size (by omega)
  obtain rfl : text = raw := List.append_cancel_right hraw
  exact hplain

/-- **The object denotes the string put in exactly when nothing in it is
special.** -/
theorem denotes_aroundMember_iff {name text : List Char} (hname : ∀ c ∈ name, Unescaped c) :
    Denotes (aroundMember name text) (.object [(units name, .string (units text))]) ↔
      ∀ c ∈ text, Unescaped c := by
  have hbrace : ¬ IsWs '\x7b' := by unfold IsWs; decide
  have hquote : ¬ IsWs '"' := by unfold IsWs; decide
  have hcolon : ¬ IsWs ':' := by unfold IsWs; decide
  constructor
  · rintro ⟨l, rest, hws, hreads, -⟩
    rw [hws.eq_of_head hbrace] at hreads
    cases hreads with
    | object hmembers =>
      cases hmembers with
      | more _ _ _ hnone => cases hnone
      | last hws hmember hend =>
        rw [hws.eq_of_head hquote] at hmember
        cases hmember with
        | mk hstr hws hws' hvalue =>
          -- the name ends where it was put in, and the value starts behind the colon
          cases hstr with
          | quote hchars =>
            obtain ⟨-, rfl⟩ := (chars_plain_iff hname _).mp hchars
            obtain ⟨-, rfl⟩ := List.cons.inj (hws.eq_of_head hcolon)
            rw [hws'.eq_of_head hquote] at hvalue
            cases hvalue with
            | string hstr =>
              cases hstr with
              | quote hchars =>
                exact plain_of_closed hchars hend
  · intro htext
    have hstr := (chars_plain_iff hname (':' :: '"' :: (text ++ ['"', '}']))).mpr ⟨rfl, rfl⟩
    have hvalue := (chars_plain_iff htext ['}']).mpr ⟨rfl, rfl⟩
    exact ⟨_, [], .nil,
      .object (.last .nil (.mk (.quote hstr) .nil .nil (.string (.quote hvalue))) .nil), .nil⟩

/-! ### Bytes -/

/-- A text in UTF-8. -/
def utf8 (text : List Char) : List UInt8 := text.flatMap String.utf8EncodeChar

theorem utf8_append (a b : List Char) : utf8 (a ++ b) = utf8 a ++ utf8 b :=
  List.flatMap_append

theorem utf8_injective : Function.Injective utf8 := by
  intro a b h
  have hbytes : a.utf8Encode = b.utf8Encode := congrArg List.toByteArray h
  have hdecoded : some a.toArray = some b.toArray := by
    rw [← List.utf8Decode?_utf8Encode, hbytes, List.utf8Decode?_utf8Encode]
  exact List.toArray_inj (Option.some.inj hdecoded)

/-- One byte for a character of ASCII, more for any other. -/
theorem length_utf8EncodeChar (c : Char) : 1 ≤ (String.utf8EncodeChar c).length ∧
    ((String.utf8EncodeChar c).length = 1 ↔ c.toNat < 128) := by
  have hone : c.val ≤ UInt32.ofNatLT 0x7F (by decide) ↔ c.toNat < 128 := by
    rw [UInt32.le_iff_toNat_le]
    exact Nat.lt_succ_iff.symm
  rw [String.length_utf8EncodeChar, ← hone, Char.utf8Size]
  split_ifs with h₁ h₂ h₃ <;> simp only [h₁] <;> decide

theorem length_le_length_utf8 (l : List Char) : l.length ≤ (utf8 l).length := by
  induction l with
  | nil => exact Nat.le_refl _
  | cons c l ih =>
    have hc := (length_utf8EncodeChar c).1
    rw [utf8, List.flatMap_cons, List.length_append, List.length_cons, Nat.add_comm]
    exact Nat.add_le_add hc ih

/-- **A text has as many bytes as characters just if it is ASCII.** -/
theorem length_utf8_eq_iff (l : List Char) :
    (utf8 l).length = l.length ↔ ∀ c ∈ l, c.toNat < 128 := by
  induction l with
  | nil => exact ⟨fun _ => List.forall_mem_nil _, fun _ => rfl⟩
  | cons c l ih =>
    obtain ⟨hc, hone⟩ := length_utf8EncodeChar c
    have hl := length_le_length_utf8 l
    have hcons : (utf8 (c :: l)).length = (String.utf8EncodeChar c).length + (utf8 l).length := by
      rw [utf8, List.flatMap_cons, List.length_append]
      rfl
    rw [hcons, List.length_cons, List.forall_mem_cons, ← hone, ← ih]
    omega

/-- The bytes are a valid text that denotes `v`. -/
def Encodes (bytes : List UInt8) (v : Value) : Prop := ∃ text, bytes = utf8 text ∧ Denotes text v

theorem encodes_utf8_iff (text : List Char) (v : Value) :
    Encodes (utf8 text) v ↔ Denotes text v := by
  constructor
  · rintro ⟨text', h, hdenotes⟩
    exact utf8_injective h ▸ hdenotes
  · intro h
    exact ⟨text, rfl, h⟩

end JsonText
