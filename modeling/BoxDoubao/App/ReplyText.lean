import BoxDoubao.Lib.CMemory

/-!
# The reply text

`g_tts_text` accumulates the text of the reply being spoken and
`g_last_reply_id` remembers which reply that is. Both are C strings in arrays
of fixed size. A 350 event appends its text; a 550 event first compares its
`reply_id` with the last one and empties the text when they differ, then
appends its content.

Strings that come out of cJSON are given by their bytes before the
terminator.
-/

namespace BoxDoubao

open CMemory

/-- `strlen`, which reads past an array without a terminator. -/
def strlen {n : ℕ} (a : CArray n) : Except Stop ℕ :=
  match a.bytes.findIdx? (· == 0) with
  | some k => .ok k
  | none => .error .outOfBounds

/-- The bytes of the string in an array. -/
def cString {n : ℕ} (a : CArray n) : Bytes := a.bytes.takeWhile (· != 0)

/-- `a[0] = '\0'`. -/
def clearString {n : ℕ} (a : CArray (n + 1)) : CArray (n + 1) :=
  ⟨0 :: a.bytes.tail, by rw [List.length_cons, List.length_tail, a.size, Nat.add_sub_cancel]⟩

/-- Append as much of `text` as fits in front of the terminator. -/
def appendText {n : ℕ} (a : CArray n) (text : Bytes) : Except Stop (CArray n) := do
  let currentLen ← strlen a
  let available := szSub (szSub n 1) currentLen
  if text.length > 0 ∧ available > 0 then
    let copyLen := if text.length < available then text.length else available
    let a ← a.memcpy currentLen (text.take copyLen)
    a.memcpy (currentLen + copyLen) [0]
  else return a

/-- The two string buffers. -/
structure ReplyText where
  gTtsText : CArray 1024
  gLastReplyId : CArray 256
  deriving DecidableEq

namespace ReplyText

/-- The zero-initialised buffers. -/
def init : ReplyText := ⟨CArray.zero 1024, CArray.zero 256⟩

/-- `g_tts_text[0] = '\0'; g_last_reply_id[0] = '\0';` -/
def clear (t : ReplyText) : ReplyText :=
  ⟨clearString t.gTtsText, clearString t.gLastReplyId⟩

/-- Event 350 with a text. -/
def ttsText (t : ReplyText) (text : Bytes) : Except Stop ReplyText := do
  let gTtsText ← appendText t.gTtsText text
  return { t with gTtsText := gTtsText }

/-- The `reply_id` of a 550 event: a new one empties the text; it is saved,
cut to its array. -/
def replyId (t : ReplyText) (id : Bytes) : Except Stop ReplyText := do
  let first ← load t.gLastReplyId.bytes 0
  let gTtsText :=
    if first ≠ 0 ∧ cString t.gLastReplyId ≠ id then clearString t.gTtsText else t.gTtsText
  let copyLen := if id.length < szSub 256 1 then id.length else szSub 256 1
  let gLastReplyId ← t.gLastReplyId.memcpy 0 (id.take copyLen)
  let gLastReplyId ← gLastReplyId.memcpy copyLen [0]
  return ⟨gTtsText, gLastReplyId⟩

/-- Event 550 with an optional `reply_id` and an optional `content`. -/
def replyUpdate (t : ReplyText) (id content : Option Bytes) : Except Stop ReplyText := do
  let t ← match id with
    | some id => t.replyId id
    | none => .ok t
  match content with
  | some content => t.ttsText content
  | none => .ok t

end ReplyText

end BoxDoubao
