import BoxDoubao.Lib.JsonText
import Mathlib.Data.Nat.Init

/-!
# Printing JSON

A `Doc` is a value whose strings are characters, and a `Style` says how a
character of a string is written and what follows the commas and colons. In a
style that spells every string correctly the text denotes the value
(`Doc.denotes_text`).

The other direction is for the shortest style, in which every string is put in
as it is. A text is at least as long as the shortest text of what it denotes,
and one that is not longer has no escapes (`Reads.shortest`). So a text put
together around strings denotes what was meant just if nothing in the strings
is special (`Doc.denotes_shortest_iff`).
-/

namespace JsonText

/-! ### The units of a text determine it -/

theorem utf16_of_lt {c : Char} (h : c.toNat < 0x10000) : utf16 c = [c.toNat] := if_pos h

theorem utf16_of_le {c : Char} (h : 0x10000 ≤ c.toNat) :
    utf16 c = [0xD800 + (c.toNat - 0x10000) / 0x400, 0xDC00 + (c.toNat - 0x10000) % 0x400] :=
  if_neg (Nat.not_lt.mpr h)

theorem toNat_lt (c : Char) : c.toNat < 0x110000 ∧ (c.toNat < 0xD800 ∨ 0xDFFF < c.toNat) := by
  rcases c.valid with h | ⟨h, h'⟩
  · exact ⟨Nat.lt_trans h (by decide), .inl h⟩
  · exact ⟨h', .inr h⟩

theorem char_ext {c d : Char} (h : c.toNat = d.toNat) : c = d :=
  Char.ext (UInt32.toNat_inj.mp h)

/-- The first character is read off the units ahead. -/
theorem utf16_append_inj {c d : Char} {us vs : List ℕ} (h : utf16 c ++ us = utf16 d ++ vs) :
    c = d ∧ us = vs := by
  have hc := toNat_lt c
  have hd := toNat_lt d
  by_cases hc' : c.toNat < 0x10000
  · by_cases hd' : d.toNat < 0x10000
    · rw [utf16_of_lt hc', utf16_of_lt hd'] at h
      obtain ⟨hcd, hus⟩ := List.cons.inj h
      exact ⟨char_ext hcd, hus⟩
    · -- a surrogate is no character
      rw [utf16_of_lt hc', utf16_of_le (by omega)] at h
      obtain ⟨hcd, -⟩ := List.cons.inj h
      omega
  · by_cases hd' : d.toNat < 0x10000
    · rw [utf16_of_le (by omega), utf16_of_lt hd'] at h
      obtain ⟨hcd, -⟩ := List.cons.inj h
      omega
    · rw [utf16_of_le (by omega), utf16_of_le (by omega)] at h
      obtain ⟨hhigh, h⟩ := List.cons.inj h
      obtain ⟨hlow, hus⟩ := List.cons.inj h
      exact ⟨char_ext (by omega), hus⟩

theorem units_injective : Function.Injective units := by
  intro a
  induction a with
  | nil =>
    intro b h
    cases b with
    | nil => rfl
    | cons c b =>
      have := length_utf16_pos c
      have hlen := congrArg List.length h
      rw [units, units, List.flatMap_nil, List.flatMap_cons, List.length_append,
        List.length_nil] at hlen
      omega
  | cons c a ih =>
    intro b h
    cases b with
    | nil =>
      have := length_utf16_pos c
      have hlen := congrArg List.length h
      rw [units, units, List.flatMap_nil, List.flatMap_cons, List.length_append,
        List.length_nil] at hlen
      omega
    | cons d b =>
      obtain ⟨rfl, hrest⟩ := utf16_append_inj h
      rw [ih hrest]

/-! ### The shortest text of a value -/

mutual

/-- How many units the shortest text of a value has. -/
def Value.cost : Value → ℕ
  | .null => 4
  | .bool b => if b then 4 else 5
  | .number literal => size literal
  | .string us => us.length + 2
  | .array [] => 2
  | .array (v :: vs) => 1 + costElements (v :: vs)
  | .object [] => 2
  | .object (m :: ms) => 1 + costMembers (m :: ms)

/-- Each element with the comma or the bracket behind it. -/
def costElements : List Value → ℕ
  | [] => 0
  | v :: vs => v.cost + 1 + costElements vs

def costMembers : List (List ℕ × Value) → ℕ
  | [] => 0
  | (name, v) :: ms => name.length + 3 + v.cost + 1 + costMembers ms

end

theorem costMembers_cons (m : List ℕ × Value) (ms : List (List ℕ × Value)) :
    costMembers (m :: ms) = m.1.length + 3 + m.2.cost + 1 + costMembers ms := rfl

/-- The units of a text that needs no escapes. -/
def PlainUnits (us : List ℕ) : Prop := ∃ raw, us = units raw ∧ ∀ c ∈ raw, Unescaped c

theorem plainUnits_units_iff (s : List Char) : PlainUnits (units s) ↔ ∀ c ∈ s, Unescaped c := by
  constructor
  · rintro ⟨raw, hraw, hplain⟩
    exact units_injective hraw ▸ hplain
  · exact fun h => ⟨s, rfl, h⟩

mutual

/-- No string in the value needs an escape. -/
def Value.Plain : Value → Prop
  | .null => True
  | .bool _ => True
  | .number _ => True
  | .string us => PlainUnits us
  | .array vs => PlainElements vs
  | .object ms => PlainMembers ms

def PlainElements : List Value → Prop
  | [] => True
  | v :: vs => v.Plain ∧ PlainElements vs

def PlainMembers : List (List ℕ × Value) → Prop
  | [] => True
  | (name, v) :: ms => (PlainUnits name ∧ v.Plain) ∧ PlainMembers ms

end

/-- What is read takes at least `cost` units, and has no escapes if it takes no
more. -/
structure Shortest (l rest : List Char) (cost : ℕ) (plain : Prop) : Prop where
  cost_le : cost + size rest ≤ size l
  plain_of_le : size l ≤ cost + size rest → plain

theorem shortest_of_append {l literal rest : List Char} {cost : ℕ} (hl : l = literal ++ rest)
    (hcost : size literal = cost) : Shortest l rest cost True := by
  have hsize : size l = cost + size rest := by rw [hl, size_append, hcost]
  exact ⟨Nat.le_of_eq hsize.symm, fun _ => trivial⟩

theorem Str.shortest {l rest : List Char} {us : List ℕ} (h : Str l us rest) :
    Shortest l rest (us.length + 2) (PlainUnits us) := by
  have hquote : size ['"'] = 1 := rfl
  cases h with
  | quote h =>
    have hle := h.size_le
    refine ⟨by rw [size_cons]; omega, fun hsize => ?_⟩
    rw [size_cons] at hsize
    obtain ⟨raw, rfl, hraw⟩ := h.plain_of_size (by omega)
    exact ⟨raw, ((chars_plain_iff hraw rest).mp h).1, hraw⟩

/-- Around a bracket, a comma or a colon there may be white space. -/
theorem Ws.size_lt {c : Char} {l rest : List Char} (h : Ws l (c :: rest)) :
    1 + size rest ≤ size l := by
  have hc := size_singleton_pos c
  have hle := h.size_le
  rw [size_cons] at hle
  omega

mutual

/-- **A text is at least as long as the shortest text of what it denotes, and
if it is not longer it has no escapes.** -/
theorem Reads.shortest : ∀ {l : List Char} {v : Value} {rest : List Char}, Reads l v rest →
    Shortest l rest v.cost v.Plain
  | _, _, _, .null h => shortest_of_append h rfl
  | _, _, _, .false h => shortest_of_append h rfl
  | _, _, _, .true h => shortest_of_append h rfl
  | _, _, _, .number _ h => shortest_of_append h rfl
  | _, _, _, .string h => h.shortest
  | _, _, _, .noElements h => by
    have hopen : size ['['] = 1 := rfl
    have hclose := h.size_lt
    refine ⟨?_, fun _ => trivial⟩
    rw [size_cons, Value.cost]
    omega
  | _, _, _, @Reads.array l rest vs h => by
    have hopen : size ['['] = 1 := rfl
    obtain ⟨hle, hplain⟩ := h.shortest
    -- the cost of an array without elements is stated apart
    have hcost : (Value.array vs).cost = 1 + costElements vs := by
      cases h <;> rw [Value.cost]
    refine ⟨?_, fun hsize => hplain ?_⟩
    · rw [size_cons, hcost]
      omega
    · rw [size_cons, hcost] at hsize
      omega
  | _, _, _, .noMembers h => by
    have hopen : size ['\x7b'] = 1 := rfl
    have hclose := h.size_lt
    refine ⟨?_, fun _ => trivial⟩
    rw [size_cons, Value.cost]
    omega
  | _, _, _, @Reads.object l rest ms h => by
    have hopen : size ['\x7b'] = 1 := rfl
    obtain ⟨hle, hplain⟩ := h.shortest
    have hcost : (Value.object ms).cost = 1 + costMembers ms := by
      cases h <;> rw [Value.cost]
    refine ⟨?_, fun hsize => hplain ?_⟩
    · rw [size_cons, hcost]
      omega
    · rw [size_cons, hcost] at hsize
      omega

theorem Elements.shortest : ∀ {l : List Char} {vs : List Value} {rest : List Char},
    Elements l vs rest → Shortest l rest (costElements vs) (PlainElements vs)
  | _, _, _, .last hws h hclose => by
    obtain ⟨hle, hplain⟩ := h.shortest
    have hstart := hws.size_le
    have hend := hclose.size_lt
    refine ⟨?_, fun hsize => ⟨hplain ?_, trivial⟩⟩
    · rw [costElements, costElements]
      omega
    · rw [costElements, costElements] at hsize
      omega
  | _, _, _, .more hws h hcomma hrest => by
    obtain ⟨hle, hplain⟩ := h.shortest
    obtain ⟨hle', hplain'⟩ := hrest.shortest
    have hstart := hws.size_le
    have hend := hcomma.size_lt
    refine ⟨?_, fun hsize => ⟨hplain ?_, hplain' ?_⟩⟩
    · rw [costElements]
      omega
    all_goals
      rw [costElements] at hsize
      omega

theorem Members.shortest : ∀ {l : List Char} {ms : List (List ℕ × Value)} {rest : List Char},
    Members l ms rest → Shortest l rest (costMembers ms) (PlainMembers ms)
  | _, _, _, .last hws h hclose => by
    obtain ⟨hle, hplain⟩ := h.shortest
    have hstart := hws.size_le
    have hend := hclose.size_lt
    refine ⟨?_, fun hsize => ⟨hplain ?_, trivial⟩⟩
    · rw [costMembers_cons, costMembers]
      omega
    · rw [costMembers_cons, costMembers] at hsize
      omega
  | _, _, _, .more hws h hcomma hrest => by
    obtain ⟨hle, hplain⟩ := h.shortest
    obtain ⟨hle', hplain'⟩ := hrest.shortest
    have hstart := hws.size_le
    have hend := hcomma.size_lt
    refine ⟨?_, fun hsize => ⟨hplain ?_, hplain' ?_⟩⟩
    · rw [costMembers_cons]
      omega
    all_goals
      rw [costMembers_cons] at hsize
      omega

theorem Member.shortest : ∀ {l : List Char} {m : List ℕ × Value} {rest : List Char},
    Member l m rest →
      Shortest l rest (m.1.length + 3 + m.2.cost) (PlainUnits m.1 ∧ m.2.Plain)
  | _, _, _, @Member.mk l₀ l₁ l₂ l₃ rest name v hname hcolon hws h => by
    show Shortest l₀ rest (name.length + 3 + v.cost) (PlainUnits name ∧ v.Plain)
    obtain ⟨hle, hplain⟩ := hname.shortest
    obtain ⟨hle', hplain'⟩ := h.shortest
    have hstart := hcolon.size_lt
    have hend := hws.size_le
    exact ⟨by omega, fun hsize => ⟨hplain (by omega), hplain' (by omega)⟩⟩

end

theorem Denotes.shortest {text : List Char} {v : Value} (h : Denotes text v) :
    v.cost ≤ size text ∧ (size text ≤ v.cost → v.Plain) := by
  obtain ⟨l, rest, hws, hreads, -⟩ := h
  obtain ⟨hle, hplain⟩ := hreads.shortest
  have hstart := hws.size_le
  exact ⟨by omega, fun hsize => hplain (by omega)⟩

/-! ### Printing -/

mutual

/-- A value whose strings are characters. -/
inductive Doc where
  | bool (b : Bool)
  | number (literal : List Char)
  | string (s : List Char)
  | object (members : Fields)

/-- The members of an object, which has one at least. -/
inductive Fields where
  | last (name : List Char) (d : Doc)
  | more (name : List Char) (d : Doc) (rest : Fields)

end

/-- White space only. -/
def AllWs (l : List Char) : Prop := ∀ c ∈ l, IsWs c

/-- How a character of a string is written, and the white space that follows a
comma and a colon. -/
structure Style where
  escape : Char → List Char
  comma : List Char
  colon : List Char
  comma_ws : AllWs comma
  colon_ws : AllWs colon

/-- Every string is put in as it is. -/
def Style.shortest : Style where
  escape := fun c => [c]
  comma := []
  colon := []
  comma_ws := List.forall_mem_nil _
  colon_ws := List.forall_mem_nil _

/-- A string as it is written. -/
def Style.quote (st : Style) (s : List Char) : List Char := '"' :: (s.flatMap st.escape ++ ['"'])

mutual

def Doc.text (st : Style) : Doc → List Char
  | .bool true => "true".toList
  | .bool false => "false".toList
  | .number literal => literal
  | .string s => st.quote s
  | .object ms => '\x7b' :: ms.text st

/-- The members and the brace behind them. -/
def Fields.text (st : Style) : Fields → List Char
  | .last name d => st.quote name ++ ':' :: (st.colon ++ (d.text st ++ ['\x7d']))
  | .more name d rest =>
    st.quote name ++ ':' :: (st.colon ++ (d.text st ++ ',' :: (st.comma ++ rest.text st)))

end

mutual

def Doc.value : Doc → Value
  | .bool b => .bool b
  | .number literal => .number literal
  | .string s => .string (units s)
  | .object ms => .object ms.values

def Fields.values : Fields → List (List ℕ × Value)
  | .last name d => [(units name, d.value)]
  | .more name d rest => (units name, d.value) :: rest.values

end

mutual

/-- Every string has the property, and every number is one. -/
def Doc.All (P : List Char → Prop) : Doc → Prop
  | .bool _ => True
  | .number literal => IsNumber literal
  | .string s => P s
  | .object ms => ms.All P

def Fields.All (P : List Char → Prop) : Fields → Prop
  | .last name d => P name ∧ d.All P
  | .more name d rest => (P name ∧ d.All P) ∧ rest.All P

end

/-- The style spells the string. -/
def Style.Spells (st : Style) (s : List Char) : Prop :=
  ∀ rest, Str (st.quote s ++ rest) (units s) rest

theorem Style.spells_shortest_iff (s : List Char) :
    Style.shortest.Spells s ↔ ∀ c ∈ s, Unescaped c := by
  have hquote : ∀ rest, Style.shortest.quote s ++ rest = '"' :: (s ++ '"' :: rest) := by
    intro rest
    simp [Style.quote, Style.shortest]
  constructor
  · intro h
    have hread := h []
    rw [hquote] at hread
    have hone : size ['"'] = 1 := rfl
    have hsize : size (s ++ '"' :: []) = (units s).length + 1 := size_append s ['"']
    -- one unit for a unit of the text: there is no room for an escape
    refine (plainUnits_units_iff s).mp (hread.shortest.plain_of_le ?_)
    rw [size_cons, hsize]
    exact Nat.le_of_eq (by rw [hone, show size [] = 0 from rfl]; omega)
  · intro h rest
    rw [hquote]
    exact .quote ((chars_plain_iff h rest).mpr ⟨rfl, rfl⟩)

theorem ws_append {l : List Char} (h : AllWs l) (rest : List Char) : Ws (l ++ rest) rest := by
  induction l with
  | nil => exact .nil
  | cons c l ih =>
    obtain ⟨hc, hl⟩ := List.forall_mem_cons.mp h
    exact .cons hc (ih hl)

theorem Ws.trans {l₀ l₁ l₂ : List Char} (h : Ws l₀ l₁) (h' : Ws l₁ l₂) : Ws l₀ l₂ := by
  induction h with
  | nil => exact h'
  | cons hc _ ih => exact .cons hc (ih h')

theorem Members.ws {l₀ l rest : List Char} {ms : List (List ℕ × Value)} (h : Members l ms rest)
    (hws : Ws l₀ l) : Members l₀ ms rest := by
  cases h with
  | last hws' hmember hclose => exact .last (hws.trans hws') hmember hclose
  | more hws' hmember hcomma hrest => exact .more (hws.trans hws') hmember hcomma hrest

section

variable {st : Style}

mutual

theorem Doc.reads_text : ∀ (d : Doc), d.All st.Spells → ∀ rest,
    Reads (d.text st ++ rest) d.value rest
  | .bool true, _, _ => .true rfl
  | .bool false, _, _ => .false rfl
  | .number _, h, _ => .number h rfl
  | .string _, h, rest => .string (h rest)
  | .object ms, h, rest => .object (ms.reads_text h rest)

theorem Fields.reads_text : ∀ (ms : Fields), ms.All st.Spells → ∀ rest,
    Members (ms.text st ++ rest) ms.values rest
  | .last name d, ⟨hname, hd⟩, rest => by
    have hvalue := d.reads_text hd ('\x7d' :: rest)
    have htext : (Fields.last name d).text st ++ rest =
        st.quote name ++ ':' :: (st.colon ++ (d.text st ++ '\x7d' :: rest)) := by
      simp [Fields.text]
    rw [htext]
    exact .last .nil (.mk (hname _) .nil (ws_append st.colon_ws _) hvalue) .nil
  | .more name d ms, ⟨⟨hname, hd⟩, hms⟩, rest => by
    have hvalue := d.reads_text hd (',' :: (st.comma ++ (ms.text st ++ rest)))
    have hrest := ms.reads_text hms rest
    have htext : (Fields.more name d ms).text st ++ rest = st.quote name ++ ':' ::
        (st.colon ++ (d.text st ++ ',' :: (st.comma ++ (ms.text st ++ rest)))) := by
      simp [Fields.text]
    rw [htext]
    refine .more .nil (.mk (hname _) .nil (ws_append st.colon_ws _) hvalue) .nil ?_
    exact hrest.ws (ws_append st.comma_ws _)

end

/-- **The text denotes the value.** -/
theorem Doc.denotes_text {d : Doc} (h : d.All st.Spells) : Denotes (d.text st) d.value := by
  have hread := d.reads_text h []
  rw [List.append_nil] at hread
  exact ⟨_, [], .nil, hread, .nil⟩

end
/-! ### The shortest style -/

theorem size_quote_shortest (s : List Char) :
    size (Style.shortest.quote s) = (units s).length + 2 := by
  have hs : s.flatMap Style.shortest.escape = s := by simp [Style.shortest]
  have hone : size ['"'] = 1 := rfl
  rw [Style.quote, hs, size_cons, size_append, hone, size]
  omega

mutual

/-- What the shortest style writes is the shortest text. -/
theorem Doc.size_text : ∀ d : Doc, size (d.text .shortest) = d.value.cost
  | .bool true => rfl
  | .bool false => rfl
  | .number _ => rfl
  | .string s => size_quote_shortest s
  | .object ms => by
    have hone : size ['\x7b'] = 1 := rfl
    have hcost : (Value.object ms.values).cost = 1 + costMembers ms.values := by
      cases ms <;> rw [Fields.values, Value.cost]
    rw [Doc.text, Doc.value, size_cons, hone, hcost, ms.size_text]

theorem Fields.size_text : ∀ ms : Fields, size (ms.text .shortest) = costMembers ms.values
  | .last name d => by
    have hcolon : size [':'] = 1 := rfl
    have hclose : size ['\x7d'] = 1 := rfl
    rw [Fields.text, Fields.values, costMembers_cons, costMembers, size_append, size_quote_shortest,
      size_cons ':', hcolon]
    show (units name).length + 2 + (1 + size (d.text .shortest ++ ['\x7d'])) = _
    rw [size_append, hclose, d.size_text]
    dsimp only
    omega
  | .more name d ms => by
    have hcolon : size [':'] = 1 := rfl
    have hcomma : size [','] = 1 := rfl
    rw [Fields.text, Fields.values, costMembers_cons, size_append, size_quote_shortest,
      size_cons ':', hcolon]
    show (units name).length + 2 + (1 + size (d.text .shortest ++ ',' :: ms.text .shortest)) = _
    rw [size_append, size_cons ',', hcomma, d.size_text, ms.size_text]
    dsimp only
    omega

end

mutual

theorem Doc.plain_iff {P : List Char → Prop} (hP : ∀ s, P s ↔ PlainUnits (units s)) :
    ∀ d : Doc, d.All (fun _ => True) → (d.value.Plain ↔ d.All P)
  | .bool _, _ => Iff.rfl
  | .number _, h => ⟨fun _ => h, fun _ => trivial⟩
  | .string s, _ => (hP s).symm
  | .object ms, h => ms.plain_iff hP h

theorem Fields.plain_iff {P : List Char → Prop} (hP : ∀ s, P s ↔ PlainUnits (units s)) :
    ∀ ms : Fields, ms.All (fun _ => True) → (PlainMembers ms.values ↔ ms.All P)
  | .last name d, h =>
    (and_iff_left trivial).trans (and_congr (hP name).symm (d.plain_iff hP h.2))
  | .more name d ms, h =>
    and_congr (and_congr (hP name).symm (d.plain_iff hP h.1.2)) (ms.plain_iff hP h.2)

end

/-- **A text put together around strings denotes what was meant just if nothing
in the strings is special.** -/
theorem Doc.denotes_shortest_iff {d : Doc} (hnumbers : d.All fun _ => True) :
    Denotes (d.text .shortest) d.value ↔ d.All fun s => ∀ c ∈ s, Unescaped c := by
  constructor
  · intro h
    have hplain := h.shortest.2 (Nat.le_of_eq d.size_text)
    exact (d.plain_iff (fun s => (plainUnits_units_iff s).symm) hnumbers).mp hplain
  · intro h
    refine Doc.denotes_text ?_
    rwa [show Style.shortest.Spells = fun s => ∀ c ∈ s, Unescaped c from
      funext fun s => propext (Style.spells_shortest_iff s)]

/-! ### Decimal numbers -/

theorem isDigits_toDigits (n : ℕ) : IsDigits (Nat.toDigits 10 n) :=
  ⟨Nat.toDigits_ne_nil, fun _ hc => Nat.isDigit_of_mem_toDigits (by decide) (by decide) hc⟩

/-- There is no leading zero. -/
theorem head_toDigits {n : ℕ} (hn : n ≠ 0) : (Nat.toDigits 10 n).head? ≠ some '0' := by
  induction n using Nat.strong_induction_on with
  | _ n ih =>
    by_cases hlt : n < 10
    · rw [Nat.toDigits_of_lt_base hlt, List.head?_cons]
      intro h
      exact hn (Nat.digitChar_eq_zero.mp (Option.some.inj h))
    · -- the first digit is that of a smaller number
      rw [Nat.toDigits_of_base_le (by decide) (by omega),
        List.head?_append_of_ne_nil _ Nat.toDigits_ne_nil]
      exact ih (n / 10) (by omega) (by omega)

/-- An integer as `%d` writes it. -/
def decimal (n : ℤ) : List Char := (if n < 0 then ['-'] else []) ++ Nat.toDigits 10 n.natAbs

theorem isNumber_decimal (n : ℤ) : IsNumber (decimal n) := by
  have hsign : (if n < 0 then ['-'] else []) = [] ∨ (if n < 0 then ['-'] else []) = ['-'] := by
    split
    · exact .inr rfl
    · exact .inl rfl
  have hzero : (Nat.toDigits 10 n.natAbs).head? = some '0' → Nat.toDigits 10 n.natAbs = ['0'] := by
    intro h
    by_cases hn : n.natAbs = 0
    · rw [hn, Nat.toDigits_zero]
    · exact absurd h (head_toDigits hn)
  have h := IsNumber.mk hsign (isDigits_toDigits n.natAbs) hzero (.inl rfl) (.inl rfl)
  rwa [List.append_nil, List.append_nil] at h

end JsonText
