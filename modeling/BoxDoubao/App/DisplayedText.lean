import BoxDoubao.Lib.Machine
import BoxDoubao.App.Receive

/-!
# The displayed reply text

What `g_tts_text` shows after any sequence of 350 and 550 events. `Reply` is
what it is for: the texts and contents received since the last reply change,
and the reply id last received. `act_text` says what one event makes of the
strings in the two buffers.

The buffer of the id is shorter than an id may be, and it is empty both before
the first id and after an empty one. `reply_id` is compared with what is in it,
so the comparison is not the one meant in three cases: behind an empty id, and
behind one of more than 255 bytes, both for the same id again and for its first
255 bytes. `displays_iff` says that the text is right after every event exactly
when, in these cases, the old text makes no difference to what is shown.
-/

namespace CMemory.CArray

variable {n : ℕ}

/-- The array holds the string `s`. -/
structure Holds (a : CArray n) (s : Bytes) : Prop where
  nulFree : 0 ∉ s
  bytes : ∃ rest, a.bytes = s ++ 0 :: rest

theorem Holds.length_lt {a : CArray n} {s : Bytes} (h : a.Holds s) : s.length < n := by
  obtain ⟨rest, hbytes⟩ := h.bytes
  rw [← a.size, hbytes, List.length_append, List.length_cons]
  omega

theorem Holds.terminated {a : CArray n} {s : Bytes} (h : a.Holds s) : a.Terminated := by
  obtain ⟨rest, hbytes⟩ := h.bytes
  refine ⟨s.length, h.length_lt, ?_⟩
  rw [hbytes, List.getElem?_append_right (Nat.le_refl _), Nat.sub_self]
  rfl

theorem holds_zero (n : ℕ) : (zero (n + 1)).Holds [] := ⟨List.not_mem_nil, _, rfl⟩

/-- Copying `src` to index `i` and terminating it keeps what stands before it
and makes it the end of the string. -/
theorem memcpy_terminate_at (a : CArray n) {i : ℕ} {src : Bytes} (h : i + src.length < n) :
    ∃ b : CArray n, (do let a ← a.memcpy i src; a.memcpy (i + src.length) [0]) = .ok b ∧
      ∃ rest, b.bytes = a.bytes.take i ++ src ++ 0 :: rest := by
  obtain ⟨c, hc, hcb⟩ := memcpy_of_le a (Nat.le_of_lt h)
  have hnul : i + src.length + [(0 : UInt8)].length ≤ n := h
  obtain ⟨b, hb, hbb⟩ := memcpy_of_le c hnul
  refine ⟨b, (bind_ok hc).trans hb, c.bytes.drop (i + src.length + 1), ?_⟩
  have hcut : c.bytes.take (i + src.length) = a.bytes.take i ++ src := by
    rw [hcb, take_splice]
    rw [a.size]
    exact Nat.le_of_lt h
  rw [hbb, splice, hcut, List.append_assoc (a.bytes.take i ++ src)]
  rfl

end CMemory.CArray

namespace BoxDoubao

open CMemory

/-! ### The operations on a string in an array -/

section

variable {n : ℕ} {a : CArray n} {s text : Bytes}

theorem strlen_holds (h : a.Holds s) : strlen a = .ok s.length := by
  obtain ⟨rest, hbytes⟩ := h.bytes
  have hnone : s.findIdx? (· == 0) = none := by
    rw [List.findIdx?_eq_none_iff]
    intro b hb
    exact beq_false_of_ne fun hzero => h.nulFree (hzero ▸ hb)
  unfold strlen
  rw [hbytes, List.findIdx?_append, hnone, Option.none_or, List.findIdx?_cons,
    if_pos (beq_self_eq_true _)]
  exact congrArg Except.ok (Nat.zero_add _)

theorem cString_holds (h : a.Holds s) : cString a = s := by
  obtain ⟨rest, hbytes⟩ := h.bytes
  have hall : ∀ b ∈ s, (b != 0) = true := by
    intro b hb
    exact bne_iff_ne.mpr fun hzero => h.nulFree (hzero ▸ hb)
  rw [cString, hbytes, List.takeWhile_append_of_pos hall]
  exact List.append_nil s

theorem clearString_holds {a : CArray (n + 1)} : (clearString a).Holds [] :=
  ⟨List.not_mem_nil, _, rfl⟩

/-- The first byte tells whether the string is empty. -/
theorem load_zero_holds (h : a.Holds s) :
    ∃ first, load a.bytes 0 = .ok first ∧ (first ≠ 0 ↔ s ≠ []) := by
  obtain ⟨rest, hbytes⟩ := h.bytes
  rw [hbytes]
  cases s with
  | nil => exact ⟨0, rfl, iff_of_false (fun hne => hne rfl) (fun hne => hne rfl)⟩
  | cons b s =>
    have hb : b ≠ 0 := fun hzero => h.nulFree (hzero ▸ List.mem_cons_self)
    exact ⟨b, rfl, iff_of_true hb (List.cons_ne_nil b s)⟩

/-- The smaller of the length and the room is copied. -/
theorem take_copyLen (l : Bytes) (k : ℕ) :
    l.take (if l.length < k then l.length else k) = l.take k := by
  split
  · rw [List.take_length, List.take_of_length_le (by omega)]
  · rfl

theorem length_take_copyLen (l : Bytes) (k : ℕ) :
    (l.take k).length = if l.length < k then l.length else k := by
  rw [List.length_take]
  split <;> omega

/-- What is appended is cut at the end of the array. -/
theorem appendText_holds (hn : n < 4294967296) (h : a.Holds s) (htext : 0 ∉ text) :
    ∃ b, appendText a text = .ok b ∧ b.Holds ((s ++ text).take (n - 1)) := by
  have hlen := h.length_lt
  have havail : szSub (szSub n 1) s.length = n - 1 - s.length := by
    rw [szSub_of_le (a := n) (by omega) hn, szSub_of_le (by omega) (by omega)]
  have hcut : (s ++ text).take (n - 1) = s ++ text.take (n - 1 - s.length) := by
    rw [List.take_append, List.take_of_length_le (by omega)]
  rw [hcut]
  by_cases hroom : text.length > 0 ∧ n - 1 - s.length > 0
  · have hfit : s.length + (text.take (n - 1 - s.length)).length < n := by
      rw [List.length_take]
      omega
    obtain ⟨b, hb, rest, hbytes⟩ := a.memcpy_terminate_at hfit
    refine ⟨b, (bind_ok (strlen_holds h)).trans ?_, ?_, rest, ?_⟩
    · simp only [havail, if_pos hroom, take_copyLen]
      rw [← length_take_copyLen]
      exact hb
    · rw [List.mem_append]
      rintro (hs | ht)
      · exact h.nulFree hs
      · exact htext (List.mem_of_mem_take ht)
    · obtain ⟨rest', ha⟩ := h.bytes
      rw [hbytes, ha, List.take_left]
  · -- nothing to append, or no room for it
    have hnothing : text.take (n - 1 - s.length) = [] := by
      rw [List.take_eq_nil_iff, ← List.length_eq_zero_iff]
      omega
    rw [hnothing, List.append_nil]
    refine ⟨a, (bind_ok (strlen_holds h)).trans ?_, h⟩
    simp only [havail, if_neg hroom]
    rfl

end

/-! ### Events -/

/-- An event that changes the reply text, with the strings cJSON gives. -/
inductive TextEvent where
  /-- 350 with a text. -/
  | ttsText (text : CString)
  /-- 550. -/
  | replyUpdate (replyId content : Option CString)
  deriving DecidableEq

namespace TextEvent

/-- The branch of `on_ws_receive` the event takes. -/
def received : TextEvent → Received
  | .ttsText text => .ttsText text.chars
  | .replyUpdate replyId content =>
    .replyUpdate (replyId.map CString.chars) (content.map CString.chars)

/-- The reply id the event carries. -/
def replyId : TextEvent → Option Bytes
  | .ttsText _ => none
  | .replyUpdate replyId _ => replyId.map CString.chars

/-- The text the event carries. -/
def added : TextEvent → Bytes
  | .ttsText text => text.chars
  | .replyUpdate _ content => content.elim [] CString.chars

end TextEvent

/-- The texts and contents since the last reply change, and the reply id last
received. -/
structure Reply where
  texts : Bytes
  lastId : Option Bytes

namespace Reply

/-- Before any event. -/
def init : Reply := ⟨[], none⟩

/-- The event has a reply id, and it differs from the most recent one. -/
def Changes (r : Reply) (e : TextEvent) : Prop := ∃ last ∈ r.lastId, ∃ id ∈ e.replyId, id ≠ last

instance decidableChanges (r : Reply) (e : TextEvent) : Decidable (r.Changes e) :=
  inferInstanceAs (Decidable (∃ _ ∈ _, _))

/-- A reply change starts the text anew, with the event's own. -/
def event (r : Reply) (e : TextEvent) : Reply where
  texts := (if r.Changes e then [] else r.texts) ++ e.added
  lastId := e.replyId.or r.lastId

/-- The replies as a machine driven by the events. -/
def replies : Machine Reply TextEvent := ⟨fun r e => some (r.event e)⟩

/-- What is saved of the last reply id tells whether the event's is another:
the last one is not empty, unless the event's is too, and if it is longer than
what is saved, the event's is neither it nor what is saved. -/
def Told (r : Reply) (e : TextEvent) : Prop :=
  ∀ last ∈ r.lastId, ∀ id ∈ e.replyId,
    (last = [] → id = []) ∧ (255 < last.length → id ≠ last ∧ id ≠ last.take 255)

instance decidableTold (r : Reply) (e : TextEvent) : Decidable (r.Told e) :=
  inferInstanceAs (Decidable (∀ _ ∈ _, _))

/-- The old text would make no difference to what is shown behind the event. -/
def Hidden (r : Reply) (e : TextEvent) : Prop :=
  (r.texts ++ e.added).take 1023 = e.added.take 1023

instance decidableHidden (r : Reply) (e : TextEvent) : Decidable (r.Hidden e) :=
  inferInstanceAs (Decidable (_ = _))

/-- The event is told apart from a reply change, or there is nothing to lose. -/
def Kept (r : Reply) (e : TextEvent) : Prop := r.Told e ∨ r.Hidden e

instance decidableKept (r : Reply) (e : TextEvent) : Decidable (r.Kept e) :=
  inferInstanceAs (Decidable (_ ∨ _))

end Reply

/-- `g_tts_text` is right after each of the events: it is a string, and what
fits into it of the text of the reply. -/
def Firmware.Displays : Firmware → Reply → List TextEvent → Prop
  | _, _, [] => True
  | s, r, e :: events => ∃ s', s.act e.received = some s' ∧ s'.replyText.gTtsText.Terminated ∧
      cString s'.replyText.gTtsText = (r.event e).texts.take 1023 ∧ s'.Displays (r.event e) events

/-! ### What the buffers hold -/

/-- The strings in the two buffers. -/
structure Strings where
  text : Bytes
  id : Bytes

namespace Strings

/-- The event carries an id, and another one is saved. -/
def Clears (b : Strings) (e : TextEvent) : Prop := b.id ≠ [] ∧ ∃ id ∈ e.replyId, b.id ≠ id

instance decidableClears (b : Strings) (e : TextEvent) : Decidable (b.Clears e) :=
  inferInstanceAs (Decidable (_ ∧ _))

/-- What an event makes of the strings. -/
def event (b : Strings) (e : TextEvent) : Strings where
  text := ((if b.Clears e then [] else b.text) ++ e.added).take 1023
  id := (e.replyId.map (List.take 255)).getD b.id

/-- The strings are what the buffers have room for. -/
structure Sync (b : Strings) (r : Reply) : Prop where
  text : b.text = r.texts.take 1023
  id : b.id = (r.lastId.getD []).take 255

end Strings

namespace ReplyText

/-- The strings in the two buffers. -/
structure Holds (t : ReplyText) (b : Strings) : Prop where
  text : t.gTtsText.Holds b.text
  id : t.gLastReplyId.Holds b.id

variable {t : ReplyText} {x y : Bytes}

theorem holds_init : init.Holds ⟨[], []⟩ := ⟨CArray.holds_zero 1023, CArray.holds_zero 255⟩

theorem ttsText_holds (h : t.Holds ⟨x, y⟩) (text : CString) :
    ∃ t', t.ttsText text.chars = .ok t' ∧ t'.Holds ⟨(x ++ text.chars).take 1023, y⟩ := by
  obtain ⟨b, hb, hholds⟩ := appendText_holds (by decide) h.text text.nulFree
  exact ⟨_, bind_ok hb, hholds, h.id⟩

/-- The id is cut when it is saved, and compared with what is there when
something is. -/
theorem replyId_holds (h : t.Holds ⟨x, y⟩) (id : CString) :
    ∃ t', t.replyId id.chars = .ok t' ∧
      t'.Holds ⟨if y ≠ [] ∧ y ≠ id.chars then [] else x, id.chars.take 255⟩ := by
  obtain ⟨first, hload, hfirst⟩ := load_zero_holds h.id
  have hcut : id.chars.take (if id.chars.length < szSub 256 1 then id.chars.length
      else szSub 256 1) = id.chars.take 255 := take_copyLen id.chars 255
  have hlen : (id.chars.take 255).length =
      if id.chars.length < szSub 256 1 then id.chars.length else szSub 256 1 :=
    length_take_copyLen id.chars 255
  have hfit : 0 + (id.chars.take 255).length < 256 := by
    rw [List.length_take]
    omega
  obtain ⟨b, hb, rest, hbytes⟩ := t.gLastReplyId.memcpy_terminate_at hfit
  obtain ⟨c, hc, hcb⟩ := ok_of_bind hb
  rw [Nat.zero_add, hlen] at hcb
  let t' : ReplyText :=
    { gTtsText := if first ≠ 0 ∧ cString t.gLastReplyId ≠ id.chars then clearString t.gTtsText
        else t.gTtsText
      gLastReplyId := b }
  -- the first byte is read before the id is overwritten
  refine ⟨t', (bind_ok hload).trans ?_, ?_, ?_⟩
  · simp only [hcut]
    exact (bind_ok hc).trans (bind_ok hcb)
  · change CArray.Holds (if first ≠ 0 ∧ cString t.gLastReplyId ≠ id.chars then _ else _) _
    rw [cString_holds h.id]
    by_cases hclear : y ≠ [] ∧ y ≠ id.chars
    · rw [if_pos hclear, if_pos ⟨hfirst.mpr hclear.1, hclear.2⟩]
      exact clearString_holds
    · rw [if_neg hclear, if_neg fun hboth => hclear ⟨hfirst.mp hboth.1, hboth.2⟩]
      exact h.text
  · exact ⟨fun hzero => id.nulFree (List.mem_of_mem_take hzero), rest, hbytes⟩

/-- 550: the id first, then the content. -/
theorem replyUpdate_holds {b : Strings} (h : t.Holds b) (replyId content : Option CString) :
    ∃ t', t.replyUpdate (replyId.map CString.chars) (content.map CString.chars) = .ok t' ∧
      t'.Holds (b.event (.replyUpdate replyId content)) := by
  let e : TextEvent := .replyUpdate replyId content
  have hid : ∃ t₁, (replyId.map CString.chars).elim (.ok t) t.replyId = .ok t₁ ∧
      t₁.Holds ⟨if b.Clears e then [] else b.text, (b.event e).id⟩ := by
    cases replyId with
    | none =>
      have hkeep : ¬ b.Clears e := by
        rintro ⟨-, id, hmem, -⟩
        cases hmem
      rw [if_neg hkeep]
      exact ⟨t, rfl, h⟩
    | some id =>
      obtain ⟨t₁, ht₁, hholds⟩ := replyId_holds h id
      have hclears : b.Clears e ↔ b.id ≠ [] ∧ b.id ≠ id.chars := by
        simp [e, Strings.Clears, TextEvent.replyId]
      simp only [hclears]
      exact ⟨t₁, ht₁, hholds⟩
  obtain ⟨t₁, ht₁, hholds⟩ := hid
  have hbind : t.replyUpdate (replyId.map CString.chars) (content.map CString.chars) =
      (replyId.map CString.chars).elim (.ok t) t.replyId >>= fun t =>
        (content.map CString.chars).elim (.ok t) t.ttsText := by
    cases replyId with
    | none => cases content <;> rfl
    | some id => cases content <;> rfl
  rw [hbind, bind_ok ht₁]
  cases content with
  | none =>
    have hlen := hholds.text.length_lt
    refine ⟨t₁, rfl, ?_, hholds.id⟩
    -- nothing is appended, and what is there fits
    change t₁.gTtsText.Holds (((if b.Clears e then [] else b.text) ++ []).take 1023)
    rw [List.append_nil, List.take_of_length_le (Nat.le_of_lt_succ hlen)]
    exact hholds.text
  | some content =>
    exact ttsText_holds hholds content

end ReplyText

/-- **One event of the device.** It stays inside the buffers. -/
theorem Firmware.act_text {s : Firmware} {b : Strings} (h : s.replyText.Holds b)
    (e : TextEvent) : ∃ s', s.act e.received = some s' ∧ s'.replyText.Holds (b.event e) := by
  cases e with
  | ttsText text =>
    obtain ⟨t, ht, hholds⟩ := ReplyText.ttsText_holds h text
    have hkeep : ¬ b.Clears (.ttsText text) := by
      rintro ⟨-, id, hmem, -⟩
      cases hmem
    refine ⟨{ s with replyText := t }, ?_, ?_⟩
    · simp only [TextEvent.received, act, ht]
    · rw [Strings.event, if_neg hkeep]
      exact hholds
  | replyUpdate replyId content =>
    obtain ⟨t, ht, hholds⟩ := ReplyText.replyUpdate_holds h replyId content
    refine ⟨{ s with replyText := t }, ?_, hholds⟩
    simp only [TextEvent.received, act, ht]

/-! ### When the text is right -/

theorem take_append_take (l m : Bytes) (n : ℕ) : (l.take n ++ m).take n = (l ++ m).take n := by
  rw [List.take_append, List.take_append, List.take_take, Nat.min_self, List.length_take]
  congr 2
  omega

namespace Strings

variable {b : Strings} {r : Reply}

theorem told_some_iff {last id saved : Bytes} (hsaved : saved = last.take 255) :
    (last = [] → id = []) ∧ (255 < last.length → id ≠ last ∧ id ≠ last.take 255) ↔
      (saved ≠ [] ∧ saved ≠ id ↔ id ≠ last) := by
  subst hsaved
  by_cases hlong : 255 < last.length
  · -- what is saved is neither empty nor the id
    have hne : last ≠ [] := fun hnil => by rw [hnil] at hlong; cases hlong
    have hsaved : last.take 255 ≠ [] := by simpa using hne
    have hcut : last.take 255 ≠ last := fun heq => by
      have := congrArg List.length heq
      rw [List.length_take] at this
      omega
    constructor
    · rintro ⟨-, htold⟩
      obtain ⟨hlast, hother⟩ := htold hlong
      exact iff_of_true ⟨hsaved, fun heq => hother heq.symm⟩ hlast
    · intro hiff
      have hlast : id ≠ last := fun heq => hiff.mp ⟨hsaved, heq ▸ hcut⟩ heq
      exact ⟨fun hnil => absurd hnil hne, fun _ =>
        ⟨hlast, fun heq => (hiff.mpr hlast).2 heq.symm⟩⟩
  · have hwhole : last.take 255 = last := List.take_of_length_le (by omega)
    rw [hwhole]
    by_cases hnil : last = []
    · simp [hnil]
    · simp only [hnil, hlong, false_implies, ne_eq, not_false_eq_true, true_and, true_iff]
      exact not_congr eq_comm

/-- The comparison with what is saved is the comparison meant exactly when what
is saved tells. -/
theorem Sync.told_iff (h : Sync b r) (e : TextEvent) :
    r.Told e ↔ (b.Clears e ↔ r.Changes e) := by
  have hid := h.id
  unfold Reply.Told Clears Reply.Changes
  cases hlast : r.lastId with
  | none =>
    rw [hlast] at hid
    simp [hid]
  | some last =>
    cases he : e.replyId with
    | none => simp
    | some id =>
      rw [hlast] at hid
      simp only [Option.mem_def, Option.some.injEq, forall_eq', exists_eq_left']
      exact told_some_iff hid

theorem Sync.id_event (h : Sync b r) (e : TextEvent) :
    (b.event e).id = ((r.event e).lastId.getD []).take 255 := by
  unfold event Reply.event
  cases e.replyId with
  | none => exact h.id
  | some id => rfl

/-- **One event.** The text is right behind it exactly when what is saved tells
whether to clear, or it makes no difference. -/
theorem Sync.text_event_iff (h : Sync b r) (e : TextEvent) :
    (b.event e).text = (r.event e).texts.take 1023 ↔ r.Kept e := by
  rw [Reply.Kept, h.told_iff e]
  unfold event Reply.event Reply.Hidden
  -- the device clears the text or not, and the reply changes or not
  by_cases hclear : b.Clears e <;> by_cases hchange : r.Changes e
  · simp [hclear, hchange]
  · simp [hclear, hchange, eq_comm]
  · simp [hclear, hchange, h.text, take_append_take]
  · simp [hclear, hchange, h.text, take_append_take]

end Strings

namespace Firmware

open Reply

theorem displays_iff_guarded {s : Firmware} {b : Strings} {r : Reply} (hb : s.replyText.Holds b)
    (hr : b.Sync r) (events : List TextEvent) :
    s.Displays r events ↔ replies.Guarded Kept r events := by
  induction events generalizing s b r with
  | nil => exact Iff.rfl
  | cons e events ih =>
    obtain ⟨s', hact, hholds⟩ := act_text hb e
    have hshown : cString s'.replyText.gTtsText = (b.event e).text := cString_holds hholds.text
    -- up to the first event that is not kept the strings are in step with the reply
    constructor
    · rintro ⟨s'', hact', -, htext, hrest⟩
      obtain rfl : s' = s'' := Option.some.inj (hact.symm.trans hact')
      rw [hshown] at htext
      exact ⟨(hr.text_event_iff e).mp htext, (ih hholds ⟨htext, hr.id_event e⟩).mp hrest⟩
    · rintro ⟨hkept, hrest⟩
      have htext := (hr.text_event_iff e).mpr hkept
      exact ⟨s', hact, hholds.text.terminated, hshown.trans htext,
        (ih hholds ⟨htext, hr.id_event e⟩).mpr hrest⟩

/-- **The displayed text is what fits into it of the text of the current reply,
after every event, exactly when at each event what is saved of the last reply
id tells whether the reply changes, or the old text makes no difference.** -/
theorem displays_iff {s : Firmware} (h : s.replyText.Holds ⟨[], []⟩) (events : List TextEvent) :
    s.Displays Reply.init events ↔ replies.Guarded Kept Reply.init events :=
  displays_iff_guarded h ⟨rfl, rfl⟩ events

/-! ### An empty id and a long one -/

/-- A content under an empty id, and one under the id `r`. -/
def emptyIdFirst : List TextEvent :=
  [.replyUpdate (some (CString.ofBytes [])) (some (CString.ofBytes [97])),
    .replyUpdate (some (CString.ofBytes [114])) (some (CString.ofBytes [98]))]

theorem zero_not_mem_longId : (0 : UInt8) ∉ List.replicate 256 114 := by
  rw [List.mem_replicate]
  decide

/-- An id of 256 bytes. -/
def longId : CString := ⟨List.replicate 256 114, zero_not_mem_longId⟩

/-- Two contents under it. -/
def longIdTwice : List TextEvent :=
  [.replyUpdate (some longId) (some (CString.ofBytes [97])),
    .replyUpdate (some longId) (some (CString.ofBytes [98]))]

theorem displays_iff_emptyIdFirst :
    boot.Displays Reply.init emptyIdFirst ↔ replies.Guarded Kept Reply.init emptyIdFirst :=
  displays_iff ReplyText.holds_init emptyIdFirst

/-- Behind an empty id the text is not cleared, and behind a long one it is. -/
theorem savedId_doesNotTell :
    ¬ boot.Displays Reply.init emptyIdFirst ∧ ¬ boot.Displays Reply.init longIdTwice := by
  rw [displays_iff_guarded ReplyText.holds_init ⟨rfl, rfl⟩,
    displays_iff_guarded ReplyText.holds_init ⟨rfl, rfl⟩]
  constructor
  · decide
  · rintro ⟨-, htold | hhidden, -⟩
    · have hlen : longId.chars.length = 256 := List.length_replicate
      exact ((htold longId.chars rfl longId.chars rfl).2 (by omega)).1 rfl
    · exact absurd hhidden (by decide)

end Firmware

end BoxDoubao
