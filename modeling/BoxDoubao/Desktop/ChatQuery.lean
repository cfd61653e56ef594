import Mathlib.Data.List.TakeWhile
import BoxDoubao.Lib.JsonText
import BoxDoubao.Protocol.Format

/-!
# Text queries

`text_input_thread_func` of the desktop client reads lines from the terminal
and hands each to `client_chat_text_query`, which puts it between the quotation
marks of a JSON text as it is. `payload_denotes_iff` says which lines this
carries faithfully. The Python client builds the same payload with
`json.dumps`, which escapes what has to be escaped.
-/

namespace BoxDoubao

open CMemory JsonText

namespace Desktop

/-! ### Reading lines -/

/-- At most `n` characters of the input, up to the end of the line, and what is
left. -/
def takeLine : ℕ → Bytes → Bytes × Bytes
  | 0, input => ([], input)
  | _ + 1, [] => ([], [])
  | n + 1, b :: input =>
    if b = 10 then ([b], input)
    else (b :: (takeLine n input).1, (takeLine n input).2)

/-- `fgets`, which returns `NULL` at the end of the input. -/
def fgets (size : ℕ) (input : Bytes) : Option (Bytes × Bytes) :=
  if input = [] then none else some (takeLine (size - 1) input)

/-- The loop that steps back over newlines, from length `l`. -/
def trimmedLength (chars : Bytes) : ℕ → ℕ
  | 0 => 0
  | l + 1 => if chars[l]? = some 10 ∨ chars[l]? = some 13 then trimmedLength chars l else l + 1

/-- A string cut short is a string. -/
theorem zero_not_mem_take (s : CString) (n : ℕ) : 0 ∉ s.chars.take n :=
  fun h => s.nulFree (List.mem_of_mem_take h)

/-- What `line` holds after a line was read into it and trimmed. -/
def trimLine (read : Bytes) : CString :=
  let line := CString.ofBytes read
  ⟨line.chars.take (trimmedLength line.chars line.strlen), zero_not_mem_take line _⟩

/-- The lines handed to `client_chat_text_query` in the first `rounds` rounds
of the loop. -/
def textInput : (rounds : ℕ) → Bytes → List CString
  | 0, _ => []
  | rounds + 1, input =>
    match fgets 1024 input with
    | none => []
    | some (read, rest) =>
      let line := trimLine read
      if line.strlen > 0 then line :: textInput rounds rest else textInput rounds rest

/-! ### The query -/

/-- What `client_chat_text_query` asks `build_command` for, in the session of
the client. -/
structure CommandArgs where
  msgType : UInt8
  flags : UInt8
  serial : UInt8
  compress : UInt8
  cmdId : UInt32
  payload : Bytes
  includeSession : Bool

/-- The string `snprintf` leaves in a buffer of `size` bytes. -/
def snprintf (size : ℕ) (formatted : Bytes) : CString :=
  CString.ofBytes (formatted.take (size - 1))

/-- `client_chat_text_query`. -/
def clientChatTextQuery (content : CString) : CommandArgs where
  msgType := msgClientFullRequest
  flags := flagMsgWithEvent
  serial := serialJson
  compress := compressGzip
  cmdId := 501
  payload := (snprintf 4096
    (utf8 "\x7b\"content\":\"".toList ++ content.chars ++ utf8 "\"\x7d".toList)).chars
  includeSession := true

/-- The object whose only member is the content. -/
def contentObject (content : List Char) : Value :=
  .object [(units "content".toList, .string (units content))]

/-! ### Which lines are carried -/

theorem length_takeLine_le (n : ℕ) (input : Bytes) : (takeLine n input).1.length ≤ n := by
  induction n generalizing input with
  | zero => exact Nat.le_refl _
  | succ n ih =>
    cases input with
    | nil => exact Nat.zero_le _
    | cons b input =>
      unfold takeLine
      split
      · exact Nat.succ_le_succ (Nat.zero_le n)
      · exact Nat.succ_le_succ (ih input)

theorem strlen_trimLine_le (read : Bytes) : (trimLine read).strlen ≤ read.length := by
  have hprefix : (CString.ofBytes read).chars.length ≤ read.length :=
    (List.takeWhile_prefix _).length_le
  exact (List.length_take_le' _ _).trans hprefix

/-- A line has at least one and at most 1023 bytes. -/
theorem strlen_of_mem_textInput {rounds : ℕ} {input : Bytes} {line : CString}
    (h : line ∈ textInput rounds input) : 0 < line.strlen ∧ line.strlen ≤ 1023 := by
  induction rounds generalizing input with
  | zero => exact absurd h List.not_mem_nil
  | succ rounds ih =>
    unfold textInput at h
    by_cases hend : input = []
    · rw [fgets, if_pos hend] at h
      exact absurd h List.not_mem_nil
    · rw [fgets, if_neg hend] at h
      have hread : (trimLine (takeLine 1023 input).1).strlen ≤ 1023 :=
        (strlen_trimLine_le _).trans (length_takeLine_le 1023 input)
      by_cases hempty : (trimLine (takeLine 1023 input).1).strlen > 0
      · simp only [if_pos hempty, List.mem_cons] at h
        obtain rfl | h := h
        · exact ⟨hempty, hread⟩
        · exact ih h
      · simp only [if_neg hempty] at h
        exact ih h

/-- A string without zeros is left whole in a buffer that is longer than it. -/
theorem snprintf_chars {size : ℕ} {formatted : Bytes} (hnul : 0 ∉ formatted)
    (hlen : formatted.length < size) : (snprintf size formatted).chars = formatted := by
  have hwhole : formatted.take (size - 1) = formatted := List.take_of_length_le (by omega)
  unfold snprintf CString.ofBytes
  rw [hwhole]
  apply List.takeWhile_eq_self_iff.mpr
  intro b hb
  exact decide_eq_true fun hzero => hnul (hzero ▸ hb)

/-- The payload is the line between the two halves of the format. -/
theorem payload_eq {content : CString} {text : List Char} (htext : content.chars = utf8 text)
    (hlen : content.strlen ≤ 1023) :
    (clientChatTextQuery content).payload = utf8 (aroundMember "content".toList text) := by
  have hformat : (utf8 "\x7b\"content\":\"".toList).length = 12 ∧
      (utf8 "\"\x7d".toList).length = 2 := by decide
  have hnul : 0 ∉ utf8 "\x7b\"content\":\"".toList ++ content.chars ++ utf8 "\"\x7d".toList := by
    rw [List.mem_append, List.mem_append]
    rintro ((h | h) | h)
    · exact absurd h (by decide)
    · exact content.nulFree h
    · exact absurd h (by decide)
  calc (clientChatTextQuery content).payload
      = utf8 "\x7b\"content\":\"".toList ++ content.chars ++ utf8 "\"\x7d".toList := by
        apply snprintf_chars hnul
        rw [List.length_append, List.length_append, hformat.1, hformat.2]
        have : content.chars.length ≤ 1023 := hlen
        omega
    _ = utf8 ("\x7b\"content\":\"".toList ++ (text ++ "\"\x7d".toList)) := by
        rw [htext, utf8_append, utf8_append, List.append_assoc]
    _ = utf8 (aroundMember "content".toList text) := rfl

/-- **A line is carried faithfully exactly when it has no quotation mark, no
backslash and no control character.** -/
theorem payload_denotes_iff {rounds : ℕ} {input : Bytes} {line : CString} {text : List Char}
    (hline : line ∈ textInput rounds input) (htext : line.chars = utf8 text) :
    Encodes (clientChatTextQuery line).payload (contentObject text) ↔
      ∀ c ∈ text, Unescaped c := by
  rw [payload_eq htext (strlen_of_mem_textInput hline).2, encodes_utf8_iff]
  exact denotes_aroundMember_iff (forall_unescaped (by decide))

/-! ### A quoted word -/

theorem zero_not_mem_greeting : 0 ∉ utf8 "hi there".toList := by decide

theorem payload_denotes_iff_greeting :
    Encodes (clientChatTextQuery ⟨utf8 "hi there".toList, zero_not_mem_greeting⟩).payload
        (contentObject "hi there".toList) ↔
      ∀ c ∈ "hi there".toList, Unescaped c := by
  have hline : ⟨utf8 "hi there".toList, zero_not_mem_greeting⟩ ∈
      textInput 1 (utf8 "hi there\n".toList) := by decide
  exact payload_denotes_iff hline rfl

theorem zero_not_mem_quotedWord : 0 ∉ utf8 "say \"hi\"".toList := by decide

/-- The quotation mark in the line closes the string. -/
theorem quotedWord_notCarried :
    ⟨utf8 "say \"hi\"".toList, zero_not_mem_quotedWord⟩ ∈
        textInput 1 (utf8 "say \"hi\"\n".toList) ∧
      ¬ Encodes (clientChatTextQuery ⟨utf8 "say \"hi\"".toList, zero_not_mem_quotedWord⟩).payload
        (contentObject "say \"hi\"".toList) := by
  refine ⟨by decide, ?_⟩
  rw [payload_eq rfl (by decide), encodes_utf8_iff, contentObject,
    denotes_aroundMember_iff (forall_unescaped (by decide))]
  exact fun hplain => absurd (hplain '"' (by decide)) (by decide)

end Desktop

end BoxDoubao
