import BoxDoubao.Lib.JsonPrint

/-!
# `json.dumps`

With its default settings `json.dumps` writes `", "` and `": "` between tokens,
escapes the quotation mark and the backslash, and spells every character outside
printable ASCII in code units. So every string is read back as it is
(`str_dumps`).
-/

namespace BoxDoubao

open JsonText

namespace PyDemo

/-- A hexadecimal digit, in lower case. -/
def hexChar (n : ℕ) : Char :=
  if n < 10 then Char.ofNat ('0'.toNat + n) else Char.ofNat ('a'.toNat + (n - 10))

/-- `'\\u{0:04x}'.format(u)`. -/
def spell (u : ℕ) : List Char :=
  ['\\', 'u', hexChar (u / 4096 % 16), hexChar (u / 256 % 16), hexChar (u / 16 % 16),
    hexChar (u % 16)]

/-- What `json.dumps` writes for a character of a string. -/
def escapeChar (c : Char) : List Char :=
  if c = '"' then ['\\', '"']
  else if c = '\\' then ['\\', '\\']
  else if c = '\n' then ['\\', 'n']
  else if c = '\r' then ['\\', 'r']
  else if c = '\t' then ['\\', 't']
  else if c = '\x0c' then ['\\', 'f']
  else if c = '\x08' then ['\\', 'b']
  else if 0x20 ≤ c.toNat ∧ c.toNat ≤ 0x7E then [c]
  else (utf16 c).flatMap spell

/-- `json.dumps` of a string. -/
def dumps (s : List Char) : List Char := '"' :: (s.flatMap escapeChar ++ ['"'])

theorem hexDigit_hexChar {n : ℕ} (h : n < 16) : hexDigit (hexChar n) = some n := by
  have hall : ∀ n : Fin 16, hexDigit (hexChar n) = some n.val := by decide
  exact hall ⟨n, h⟩

/-- A code unit is read back from its four digits. -/
theorem chars_spell {u : ℕ} {l rest : List Char} {us : List ℕ} (hu : u < 0x10000)
    (h : Chars l us rest) : Chars (spell u ++ l) (u :: us) rest := by
  have hdigits : ((u / 4096 % 16 * 16 + u / 256 % 16) * 16 + u / 16 % 16) * 16 + u % 16 = u := by
    omega
  have hread := Chars.hex (hexDigit_hexChar (Nat.mod_lt (u / 4096) (by decide)))
    (hexDigit_hexChar (Nat.mod_lt (u / 256) (by decide)))
    (hexDigit_hexChar (Nat.mod_lt (u / 16) (by decide)))
    (hexDigit_hexChar (Nat.mod_lt u (by decide))) h
  rw [hdigits] at hread
  exact hread

theorem utf16_lt (c : Char) : ∀ u ∈ utf16 c, u < 0x10000 := by
  have hc : c.toNat < 0x110000 := by
    rcases c.valid with h | h
    · exact Nat.lt_trans h (by decide)
    · exact h.2
  unfold utf16
  split
  · intro u hu
    obtain rfl := List.mem_singleton.mp hu
    assumption
  · intro u hu
    simp only [List.mem_cons, List.not_mem_nil, or_false] at hu
    omega

theorem chars_spelled {vs us : List ℕ} {l rest : List Char} (hvs : ∀ u ∈ vs, u < 0x10000)
    (h : Chars l us rest) : Chars (vs.flatMap spell ++ l) (vs ++ us) rest := by
  induction vs with
  | nil => exact h
  | cons v vs ih =>
    obtain ⟨hv, hvs⟩ := List.forall_mem_cons.mp hvs
    rw [List.flatMap_cons, List.append_assoc]
    exact chars_spell hv (ih hvs)

/-- What is written for a character is read as the character. -/
theorem chars_escapeChar {c : Char} {l rest : List Char} {us : List ℕ} (h : Chars l us rest) :
    Chars (escapeChar c ++ l) (utf16 c ++ us) rest := by
  unfold escapeChar
  split_ifs with hquote hslash hn hr ht hf hb hprint
  · subst hquote
    exact .escape rfl h
  · subst hslash
    exact .escape rfl h
  · subst hn
    exact .escape rfl h
  · subst hr
    exact .escape rfl h
  · subst ht
    exact .escape rfl h
  · subst hf
    exact .escape rfl h
  · subst hb
    exact .escape rfl h
  · exact .plain ⟨hquote, hslash, hprint.1⟩ h
  · exact chars_spelled (utf16_lt c) h

theorem chars_escaped (s rest : List Char) :
    Chars (s.flatMap escapeChar ++ '"' :: rest) (units s) rest := by
  induction s with
  | nil => exact .close
  | cons c s ih =>
    rw [List.flatMap_cons, List.append_assoc]
    exact chars_escapeChar ih

theorem str_dumps (s rest : List Char) : Str (dumps s ++ rest) (units s) rest := by
  rw [dumps, List.cons_append, List.append_assoc]
  exact .quote (chars_escaped s rest)

/-- The separators and escapes of `json.dumps`. -/
def dumpsStyle : Style where
  escape := escapeChar
  comma := [' ']
  colon := [' ']
  comma_ws := by
    intro c hc
    exact .inl (List.mem_singleton.mp hc)
  colon_ws := by
    intro c hc
    exact .inl (List.mem_singleton.mp hc)

theorem spells_dumpsStyle (s : List Char) : dumpsStyle.Spells s := fun rest => str_dumps s rest

end PyDemo

end BoxDoubao
