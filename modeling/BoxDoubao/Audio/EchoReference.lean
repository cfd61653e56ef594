import Mathlib.Data.List.Forall2
import BoxDoubao.Lib.Machine
import BoxDoubao.Audio.OpusProcessor

/-!
# The echo reference

`afe_feed_task` of `afe_handler.c`. `audio_play_task` writes what is played to
`ref_rb`; each iteration of the feed task reads two microphone channels, fills
`ref_buf` with what it can take out of `ref_rb`, and hands the three channels,
interleaved, to the front end.

`Served` is what `xRingbufferReceive` may do on a byte buffer: any number of
contiguous bytes that are there, and `NULL` only when there are none.
`collect_eq` says what an iteration makes of the items it is given: `ref_buf`
holds the first `ref_buf_bytes` of them and zeros. The return call frees the
whole item and the task keeps nothing from one iteration to the next, so what
an item has beyond the end of the frame is lost, and `reference_unbroken_iff`
says that this is the only way the reference breaks.
-/

namespace BoxDoubao

open CMemory

/-! ### Arrays of samples -/

/-- The sample two bytes hold, low byte first. -/
def sample (lo hi : UInt8) : Int16 := (lo.toUInt16 ||| (hi.toUInt16 <<< 8)).toInt16

/-- The bytes of an array read as `int16_t`. -/
def samples : Bytes → Pcm
  | [] => []
  | [_] => []
  | lo :: hi :: rest => sample lo hi :: samples rest

/-- Read the sample at index `i`. -/
def loadSample (buf : Pcm) (i : ℕ) : Except Stop Int16 :=
  match buf[i]? with
  | some x => .ok x
  | none => .error .outOfBounds

/-- Write the sample at index `i`. -/
def storeSample (buf : Pcm) (i : ℕ) (x : Int16) : Except Stop Pcm :=
  if i < buf.length then .ok (buf.set i x) else .error .outOfBounds

/-! ### The task -/

namespace FeedTask

/-- What `xRingbufferReceive` may give, call by call, while `room` bytes are
wanted and `held` are in the buffer. The last call finds the frame full or the
buffer empty. -/
def Served : (room held : ℕ) → List ℕ → Prop
  | room, held, [] => room = 0 ∨ held = 0
  | room, held, itemSize :: sizes =>
    0 < room ∧ 0 < itemSize ∧ itemSize ≤ held ∧ Served (room - itemSize) (held - itemSize) sizes

instance decidableServed : ∀ room held sizes, Decidable (Served room held sizes)
  | _, _, [] => inferInstanceAs (Decidable (_ ∨ _))
  | room, held, itemSize :: sizes =>
    have := decidableServed (room - itemSize) (held - itemSize) sizes
    inferInstanceAs (Decidable (_ ∧ _ ∧ _ ∧ _))

/-- The collecting loop of one iteration, with what it took out of `ref_rb`. -/
structure Collected where
  refBuf : Bytes
  refCollected : ℕ
  refRb : Bytes
  taken : Bytes
  deriving DecidableEq

/-- `while (ref_collected < ref_buf_bytes)`, on items of the sizes given. -/
def collect (refBufBytes : ℕ) : Collected → List ℕ → Except Stop Collected
  | c, [] => .ok c
  | c, itemSize :: sizes => do
    let item := c.refRb.take itemSize
    let room := refBufBytes - c.refCollected
    let toCopy := if room > itemSize then itemSize else room
    let src ← loadRange item 0 toCopy
    let refBuf ← memcpy c.refBuf c.refCollected src
    -- `vRingbufferReturnItem` frees the item, whatever was copied of it
    collect refBufBytes
      { refBuf := refBuf
        refCollected := c.refCollected + toCopy
        refRb := c.refRb.drop itemSize
        taken := c.taken ++ item } sizes

/-- The interleaving loop from sample `i` on. -/
def interleave (micBuf refBuf : Pcm) : (n i : ℕ) → Pcm → Except Stop Pcm
  | 0, _, feedBuf => .ok feedBuf
  | n + 1, i, feedBuf => do
    let feedBuf ← storeSample feedBuf (i * 3 + 0) (← loadSample micBuf (i * 2 + 0))
    let feedBuf ← storeSample feedBuf (i * 3 + 1) (← loadSample micBuf (i * 2 + 1))
    let feedBuf ← storeSample feedBuf (i * 3 + 2) (← loadSample refBuf i)
    interleave micBuf refBuf n (i + 1) feedBuf

/-- One call of `afe->feed`: the microphone samples read, how much of the
reference was collected, and the buffer handed over. -/
structure Frame where
  micBuf : Pcm
  refCollected : ℕ
  feedBuf : Pcm
  deriving DecidableEq

/-- The task between two iterations, with what it has done so far: the bytes
each iteration took out of `ref_rb`, and the frames fed. `ref_rb` is `none`
when it could not be created. -/
structure State where
  refRb : Option Bytes
  feedBuf : Pcm
  taken : List Bytes
  fed : List Frame
  deriving DecidableEq

/-- What happens next. -/
inductive Act where
  /-- `xRingbufferSend` of an item that fits, by `audio_play_task`. -/
  | write (item : Bytes)
  /-- An iteration in which `audio_hal_read_stereo` fails. -/
  | readFails
  /-- An iteration with the samples read, in which `xRingbufferReceive` gives
  items of these sizes. -/
  | iterate (micBuf : Pcm) (sizes : List ℕ)
  deriving DecidableEq

variable (feedChunksize : ℕ)

/-- `samples_per_ch`. -/
def samplesPerCh : ℕ := feedChunksize / 3

/-- `ref_buf_bytes`. -/
def refBufBytes : ℕ := samplesPerCh feedChunksize * 2

/-- One iteration after the microphones were read. -/
def iterate (s : State) (micBuf : Pcm) (sizes : List ℕ) : Except Stop State := do
  let c ← collect (refBufBytes feedChunksize)
    { refBuf := List.replicate (refBufBytes feedChunksize) 0
      refCollected := 0
      refRb := s.refRb.getD []
      taken := [] } sizes
  let feedBuf ← interleave micBuf (samples c.refBuf) (samplesPerCh feedChunksize) 0 s.feedBuf
  return {
    refRb := s.refRb.map fun _ => c.refRb
    feedBuf := feedBuf
    taken := s.taken ++ [c.taken]
    fed := s.fed ++ [⟨micBuf, c.refCollected, feedBuf⟩] }

/-- One action. There is none with sizes that the ring buffer does not give or
samples that are not what `mic_buf` holds, and none that leaves an array. -/
def step (s : State) : Act → Option State
  | .write item => some { s with refRb := s.refRb.map (· ++ item) }
  | .readFails => some s
  | .iterate micBuf sizes =>
    if Served (refBufBytes feedChunksize) (s.refRb.getD []).length sizes ∧
        micBuf.length = samplesPerCh feedChunksize * 2 then
      (iterate feedChunksize s micBuf sizes).toOption
    else none

/-- The task and its ring buffer. -/
def task : Machine State Act := ⟨step feedChunksize⟩

/-- The task before its first iteration, with whatever is in the new buffer. -/
def start (feedBuf : Pcm) : State := ⟨some [], feedBuf, [], []⟩

/-! ### An unbroken reference -/

/-- The piece `p` of the reference is what the frame carries: its samples and
then zeros, between those of the microphones. -/
structure Carries (frame : Frame) (p : Bytes) : Prop where
  collected : p.length = frame.refCollected
  fits : p.length ≤ refBufBytes feedChunksize
  interleaved : ∀ n, n < samplesPerCh feedChunksize →
    frame.feedBuf[3 * n]? = frame.micBuf[2 * n]? ∧
    frame.feedBuf[3 * n + 1]? = frame.micBuf[2 * n + 1]? ∧
    frame.feedBuf[3 * n + 2]? =
      (samples (p ++ List.replicate (refBufBytes feedChunksize - p.length) 0))[n]?

/-- What was taken out of `ref_rb` is, piece by piece, what the frames carry,
and then the bytes `held`. -/
def Splits (s : State) (held : Bytes) : Prop :=
  ∃ pieces : List Bytes, s.taken.flatten = pieces.flatten ++ held ∧
    List.Forall₂ (Carries feedChunksize) s.fed pieces

/-- The reference has no holes. Between two iterations the task holds nothing
of what it took: `ref_buf` is cleared, and the items have been returned. -/
def Unbroken (s : State) : Prop := Splits feedChunksize s []

/-- No item of the iteration is longer than what is left of the frame. -/
def Act.Fits : Act → Prop
  | .iterate _ sizes => sizes.sum ≤ refBufBytes feedChunksize
  | _ => True

end FeedTask

/-! ### The loops -/

theorem loadSample_of_lt {buf : Pcm} {i : ℕ} (h : i < buf.length) :
    loadSample buf i = .ok buf[i] := by
  unfold loadSample
  rw [List.getElem?_eq_getElem h]

theorem storeSample_of_lt {buf : Pcm} {i : ℕ} (x : Int16) (h : i < buf.length) :
    storeSample buf i x = .ok (buf.set i x) := if_pos h

theorem length_samples (p : Bytes) : (samples p).length = p.length / 2 := by
  induction p using samples.induct with
  | case1 => rfl
  | case2 => exact (Nat.div_eq_of_lt Nat.one_lt_two).symm
  | case3 lo hi rest ih =>
    rw [samples, List.length_cons, ih, List.length_cons, List.length_cons]
    omega

namespace FeedTask

variable {feedChunksize : ℕ}

/-- The ring buffer gives no more than it holds. -/
theorem Served.sum_le {room held : ℕ} {sizes : List ℕ} (h : Served room held sizes) :
    sizes.sum ≤ held := by
  induction sizes generalizing room held with
  | nil => exact Nat.zero_le _
  | cons itemSize sizes ih =>
    obtain ⟨-, -, hheld, hrest⟩ := h
    have := ih hrest
    rw [List.sum_cons]
    omega

/-- Whatever the ring buffer holds, it can serve an iteration. -/
theorem exists_served (room held : ℕ) : ∃ sizes, Served room held sizes := by
  by_cases hdone : room = 0 ∨ held = 0
  · exact ⟨[], hdone⟩
  · have hmore : 0 < room ∧ 0 < held := by omega
    -- all of it at once
    refine ⟨[held], hmore.1, hmore.2, Nat.le_refl _, Or.inr (Nat.sub_self _)⟩

/-- `ref_buf` holds the beginning of what was taken, and zeros. -/
structure Filled (refBufBytes : ℕ) (c : Collected) : Prop where
  refBuf : c.refBuf =
    c.taken.take refBufBytes ++ List.replicate (refBufBytes - c.taken.length) 0
  refCollected : c.refCollected = min refBufBytes c.taken.length

/-- One item: its beginning is copied, as far as the frame has room. -/
theorem Filled.item {n : ℕ} {c : Collected} (h : Filled n c) (item : Bytes)
    (hroom : 0 < n - c.refCollected) :
    ∃ refBuf,
      memcpy c.refBuf c.refCollected (item.take (n - c.refCollected)) = .ok refBuf ∧
      refBuf = (c.taken ++ item).take n ++ List.replicate (n - (c.taken ++ item).length) 0 ∧
      c.refCollected + (item.take (n - c.refCollected)).length =
        min n (c.taken ++ item).length := by
  -- there is room, so all that was taken before has been copied
  have hcollected : c.refCollected = c.taken.length := by
    have := h.refCollected
    omega
  have htaken : c.taken.take n = c.taken := by
    apply List.take_of_length_le
    omega
  have hbuf : c.refBuf = c.taken ++ List.replicate (n - c.taken.length) 0 := by
    rw [h.refBuf, htaken]
  have hlen : (item.take (n - c.taken.length)).length = min (n - c.taken.length) item.length :=
    List.length_take
  rw [hcollected] at hroom ⊢
  have hfit : c.taken.length + (item.take (n - c.taken.length)).length ≤ c.refBuf.length := by
    rw [hbuf, List.length_append, List.length_replicate, hlen]
    omega
  refine ⟨_, memcpy_of_le hfit, ?_, ?_⟩
  · rw [splice, hbuf, List.take_left, List.drop_append, List.drop_replicate, List.take_append,
      htaken, hlen, List.length_append]
    rw [List.drop_eq_nil_of_le (Nat.le_add_right _ _), List.nil_append]
    congr 2
    omega
  · rw [hlen, List.length_append]
    omega

/-- The size the code copies is what is left of the item or of the frame. -/
theorem toCopy_eq_min (room itemSize : ℕ) :
    (if room > itemSize then itemSize else room) = min room itemSize := by
  split <;> omega

/-- **The collecting loop.** It takes what it is given from the front of the
ring buffer and keeps as much of it as a frame holds. -/
theorem collect_eq {n : ℕ} {c : Collected} {sizes : List ℕ} (h : Filled n c)
    (hs : Served (n - c.refCollected) c.refRb.length sizes) :
    ∃ c', collect n c sizes = .ok c' ∧ Filled n c' ∧
      c'.taken = c.taken ++ c.refRb.take sizes.sum ∧ c'.refRb = c.refRb.drop sizes.sum := by
  induction sizes generalizing c with
  | nil => exact ⟨c, rfl, h, (List.append_nil _).symm, rfl⟩
  | cons itemSize sizes ih =>
    obtain ⟨hroom, -, hheld, hrest⟩ := hs
    have hitem : (c.refRb.take itemSize).length = itemSize := List.length_take_of_le hheld
    obtain ⟨refBuf, hcopy, hbuf, hcollected⟩ := h.item (c.refRb.take itemSize) hroom
    have hload : loadRange (c.refRb.take itemSize) 0 (min (n - c.refCollected) itemSize) =
        .ok ((c.refRb.take itemSize).take (n - c.refCollected)) := by
      have hcut : (c.refRb.take itemSize).take (min (n - c.refCollected) itemSize) =
          (c.refRb.take itemSize).take (n - c.refCollected) := by
        rw [List.take_take, List.take_take]
        congr 1
        omega
      rw [← hcut]
      apply if_pos
      omega
    rw [List.length_take, hitem] at hcollected
    -- the loop goes on with the rest of the ring buffer
    obtain ⟨c', hrun, hfilled, htaken, hrb⟩ := @ih
      { refBuf := refBuf
        refCollected := c.refCollected + min (n - c.refCollected) itemSize
        refRb := c.refRb.drop itemSize
        taken := c.taken ++ c.refRb.take itemSize } ⟨hbuf, hcollected⟩ (by
          rw [List.length_drop]
          rw [show n - (c.refCollected + min (n - c.refCollected) itemSize) =
            n - c.refCollected - itemSize by omega]
          exact hrest)
    refine ⟨c', ?_, hfilled, ?_, ?_⟩
    · simp only [collect, toCopy_eq_min]
      exact (bind_ok hload).trans ((bind_ok hcopy).trans hrun)
    · rw [htaken, List.append_assoc, List.sum_cons, List.take_add]
    · rw [hrb, List.sum_cons, List.drop_drop]

/-- **The interleaving loop.** Samples `i` to `i + n` of the three channels
stand side by side, and the rest of the buffer is as it was. -/
theorem interleave_eq (micBuf refBuf : Pcm) {feedBuf : Pcm} {n i : ℕ}
    (hmic : (i + n) * 2 ≤ micBuf.length) (href : i + n ≤ refBuf.length)
    (hfeed : (i + n) * 3 ≤ feedBuf.length) :
    ∃ out, interleave micBuf refBuf n i feedBuf = .ok out ∧ out.length = feedBuf.length ∧
      (∀ k, k < i * 3 → out[k]? = feedBuf[k]?) ∧
      ∀ j, i ≤ j → j < i + n → out[3 * j]? = micBuf[2 * j]? ∧
        out[3 * j + 1]? = micBuf[2 * j + 1]? ∧ out[3 * j + 2]? = refBuf[j]? := by
  induction n generalizing i feedBuf with
  | zero => exact ⟨feedBuf, rfl, rfl, fun _ _ => rfl, fun j hi hj => absurd hj (by omega)⟩
  | succ n ih =>
    have hm₁ : i * 2 + 0 < micBuf.length := by omega
    have hm₂ : i * 2 + 1 < micBuf.length := by omega
    have hr : i < refBuf.length := by omega
    let feed₁ := feedBuf.set (i * 3 + 0) micBuf[i * 2 + 0]
    let feed₂ := feed₁.set (i * 3 + 1) micBuf[i * 2 + 1]
    let feed₃ := feed₂.set (i * 3 + 2) refBuf[i]
    have h₁ : feed₁.length = feedBuf.length := List.length_set
    have h₂ : feed₂.length = feedBuf.length := List.length_set.trans h₁
    have h₃ : feed₃.length = feedBuf.length := List.length_set.trans h₂
    obtain ⟨out, hrun, hlen, hbefore, hfrom⟩ := @ih feed₃ (i + 1) (by omega) (by omega) (by omega)
    refine ⟨out, ?_, hlen.trans h₃, ?_, ?_⟩
    · simp only [interleave, loadSample_of_lt hm₁, loadSample_of_lt hm₂, loadSample_of_lt hr]
      refine (bind_ok (storeSample_of_lt _ (by omega))).trans ?_
      refine (bind_ok (storeSample_of_lt _ (by rw [List.length_set]; omega))).trans ?_
      refine (bind_ok (storeSample_of_lt _ ?_)).trans hrun
      rw [List.length_set, List.length_set]
      omega
    · intro k hk
      rw [hbefore k (by omega)]
      simp only [feed₃, feed₂, feed₁]
      rw [List.getElem?_set_ne (by omega), List.getElem?_set_ne (by omega),
        List.getElem?_set_ne (by omega)]
    · intro j hij hj
      by_cases hji : j = i
      · -- the three samples just stored, which the rest of the loop leaves alone
        subst hji
        rw [hbefore _ (by omega), hbefore _ (by omega), hbefore _ (by omega)]
        rw [show 3 * j = j * 3 + 0 by omega, show 2 * j = j * 2 + 0 by omega]
        refine ⟨?_, ?_, ?_⟩
        · simp only [feed₃, feed₂]
          rw [List.getElem?_set_ne (by omega), List.getElem?_set_ne (by omega),
            List.getElem?_set_self (by omega), List.getElem?_eq_getElem hm₁]
        · simp only [feed₃]
          rw [Nat.add_zero, List.getElem?_set_ne (by omega),
            List.getElem?_set_self (by omega)]
          exact (List.getElem?_eq_getElem hm₂).symm
        · rw [Nat.add_zero, List.getElem?_set_self (by omega), List.getElem?_eq_getElem hr]
      · exact hfrom j (by omega) (by omega)

/-! ### One iteration -/

/-- What holds between two iterations: each frame carries the beginning of what
its iteration took. -/
structure Inv (feedChunksize : ℕ) (s : State) : Prop where
  feedBuf : s.feedBuf.length = feedChunksize
  carries : List.Forall₂ (Carries feedChunksize) s.fed
    (s.taken.map (List.take (refBufBytes feedChunksize)))

/-- **One iteration.** It stays inside its arrays, takes what it is given, and
feeds a frame that carries as much of it as there is room for. -/
theorem iterate_eq {s : State} {micBuf : Pcm} {sizes : List ℕ} (hI : Inv feedChunksize s)
    (hs : Served (refBufBytes feedChunksize) (s.refRb.getD []).length sizes)
    (hmic : micBuf.length = samplesPerCh feedChunksize * 2) :
    ∃ s', iterate feedChunksize s micBuf sizes = .ok s' ∧ Inv feedChunksize s' ∧
      s'.taken = s.taken ++ [(s.refRb.getD []).take sizes.sum] ∧
      s'.refRb = s.refRb.map (List.drop sizes.sum) := by
  obtain ⟨c, hcollect, hfilled, htaken, hrb⟩ := collect_eq (n := refBufBytes feedChunksize)
    (c := ⟨List.replicate (refBufBytes feedChunksize) 0, 0, s.refRb.getD [], []⟩)
    ⟨by simp, by simp⟩ hs
  have hlen : c.refBuf.length = refBufBytes feedChunksize := by
    rw [hfilled.refBuf, List.length_append, List.length_take, List.length_replicate]
    omega
  have href : (samples c.refBuf).length = samplesPerCh feedChunksize := by
    rw [length_samples, hlen, refBufBytes]
    omega
  have hroom : (0 + samplesPerCh feedChunksize) * 3 ≤ s.feedBuf.length := by
    rw [hI.feedBuf, Nat.zero_add]
    exact Nat.div_mul_le_self _ _
  obtain ⟨feedBuf, hinter, hfeed, -, hat⟩ := interleave_eq micBuf (samples c.refBuf)
    (n := samplesPerCh feedChunksize) (i := 0) (by omega) (by omega) hroom
  let frame : Frame := ⟨micBuf, c.refCollected, feedBuf⟩
  have hframe : Carries feedChunksize frame (c.taken.take (refBufBytes feedChunksize)) := by
    refine ⟨?_, ?_, ?_⟩
    · rw [List.length_take]
      exact hfilled.refCollected.symm
    · rw [List.length_take]
      exact Nat.min_le_left _ _
    · intro n hn
      obtain ⟨hmic₁, hmic₂, hrefn⟩ := hat n (Nat.zero_le n) (by omega)
      refine ⟨hmic₁, hmic₂, hrefn.trans ?_⟩
      rw [hfilled.refBuf, List.length_take]
      congr 4
      omega
  refine ⟨_, (bind_ok hcollect).trans ((bind_ok hinter).trans rfl), ⟨hfeed.trans hI.feedBuf, ?_⟩,
    ?_, ?_⟩
  · rw [List.map_append]
    exact List.rel_append hI.carries (.cons hframe .nil)
  · rw [htaken]
    rfl
  · rw [hrb]
    cases s.refRb with
    | none => rfl
    | some rb => rfl

/-- What an action does. -/
theorem step_cases {s s' : State} {a : Act} (hI : Inv feedChunksize s)
    (h : step feedChunksize s a = some s') :
    (∃ item, a = .write item ∧ s' = { s with refRb := s.refRb.map (· ++ item) }) ∨
    (a = .readFails ∧ s' = s) ∨
    ∃ micBuf sizes, a = .iterate micBuf sizes ∧ sizes.sum ≤ (s.refRb.getD []).length ∧
      Inv feedChunksize s' ∧ s'.taken = s.taken ++ [(s.refRb.getD []).take sizes.sum] ∧
      s'.refRb = s.refRb.map (List.drop sizes.sum) := by
  cases a with
  | write item => exact Or.inl ⟨item, rfl, (Option.some.inj h).symm⟩
  | readFails => exact Or.inr (Or.inl ⟨rfl, (Option.some.inj h).symm⟩)
  | iterate micBuf sizes =>
    refine Or.inr (Or.inr ⟨micBuf, sizes, rfl, ?_⟩)
    simp only [step] at h
    obtain ⟨⟨hserved, hmic⟩, h⟩ := Option.ite_none_right_eq_some.mp h
    obtain ⟨next, hnext, hinv, htaken, hrb⟩ := iterate_eq hI hserved hmic
    rw [hnext] at h
    obtain rfl : next = s' := Option.some.inj h
    exact ⟨hserved.sum_le, hinv, htaken, hrb⟩

/-- No access leaves an array: whatever the ring buffer gives, the iteration
goes through. -/
theorem step_iterate_isSome {s : State} {micBuf : Pcm} {sizes : List ℕ}
    (hI : Inv feedChunksize s)
    (hs : Served (refBufBytes feedChunksize) (s.refRb.getD []).length sizes)
    (hmic : micBuf.length = samplesPerCh feedChunksize * 2) :
    (step feedChunksize s (.iterate micBuf sizes)).isSome := by
  obtain ⟨s', hs', -⟩ := iterate_eq hI hs hmic
  simp only [step, if_pos (And.intro hs hmic), hs']
  rfl

theorem Inv.step {s s' : State} {a : Act} (hI : Inv feedChunksize s)
    (h : step feedChunksize s a = some s') : Inv feedChunksize s' := by
  obtain ⟨item, -, rfl⟩ | ⟨-, rfl⟩ | ⟨_, _, -, -, hinv, -⟩ := step_cases hI h
  · exact ⟨hI.feedBuf, hI.carries⟩
  · exact hI
  · exact hinv

theorem Inv.start {feedBuf : Pcm} (h : feedBuf.length = feedChunksize) :
    Inv feedChunksize (start feedBuf) := ⟨h, .nil⟩

/-! ### Runs -/

/-- What the actions write. -/
def written : List Act → Bytes
  | [] => []
  | .write item :: acts => item ++ written acts
  | _ :: acts => written acts

/-- What was written was taken or is still in the ring buffer, in order. -/
theorem written_eq {s s' : State} {acts : List Act} {rb : Bytes} (hI : Inv feedChunksize s)
    (hrb : s.refRb = some rb) (hrun : (task feedChunksize).run s acts = some s') :
    ∃ rb', s'.refRb = some rb' ∧
      s'.taken.flatten ++ rb' = s.taken.flatten ++ rb ++ written acts := by
  induction acts generalizing s rb with
  | nil =>
    obtain rfl : s = s' := Option.some.inj hrun
    exact ⟨rb, hrb, (List.append_nil _).symm⟩
  | cons a acts ih =>
    obtain ⟨t, ht, hrest⟩ := Machine.run_cons_inv hrun
    obtain ⟨item, rfl, rfl⟩ | ⟨rfl, rfl⟩ | ⟨micBuf, sizes, rfl, -, hinv, htaken, hdrop⟩ :=
      step_cases hI ht
    · rw [hrb] at hrest
      have hwrite : Inv feedChunksize { s with refRb := some (rb ++ item) } :=
        ⟨hI.feedBuf, hI.carries⟩
      obtain ⟨rb', hrb', heq⟩ := ih hwrite rfl hrest
      refine ⟨rb', hrb', heq.trans ?_⟩
      simp only [written, List.append_assoc]
    · exact ih hI hrb hrest
    · rw [hrb] at htaken hdrop
      obtain ⟨rb', hrb', heq⟩ := ih hinv hdrop hrest
      refine ⟨rb', hrb', ?_⟩
      -- what was taken and what was left make up the buffer
      calc s'.taken.flatten ++ rb'
          = t.taken.flatten ++ rb.drop sizes.sum ++ written acts := heq
        _ = s.taken.flatten ++ (rb.take sizes.sum ++ rb.drop sizes.sum) ++ written acts := by
            rw [htaken, List.flatten_append, List.flatten_singleton,
              List.append_assoc _ _ (rb.drop _)]
            rfl
        _ = s.taken.flatten ++ rb ++ written acts := by rw [List.take_append_drop]

/-- Cutting lists short makes them shorter. -/
theorem length_flatten_take_le (n : ℕ) (l : List Bytes) :
    (l.map (List.take n)).flatten.length ≤ l.flatten.length := by
  induction l with
  | nil => exact Nat.le_refl _
  | cons x l ih =>
    rw [List.map_cons, List.flatten_cons, List.flatten_cons, List.length_append,
      List.length_append, List.length_take]
    exact Nat.add_le_add (Nat.min_le_right _ _) ih

/-- It makes none of them shorter only where they are short already. -/
theorem length_flatten_take_eq {n : ℕ} {l : List Bytes}
    (h : (l.map (List.take n)).flatten.length = l.flatten.length) : ∀ x ∈ l, x.length ≤ n := by
  induction l with
  | nil => exact List.forall_mem_nil _
  | cons x l ih =>
    have hle := length_flatten_take_le n l
    rw [List.map_cons, List.flatten_cons, List.flatten_cons, List.length_append,
      List.length_append, List.length_take] at h
    rw [List.forall_mem_cons]
    exact ⟨by omega, ih (by omega)⟩

/-- The pieces the frames carry have the lengths that were collected. -/
theorem length_of_carries {fed : List Frame} {pieces : List Bytes}
    (h : List.Forall₂ (Carries feedChunksize) fed pieces) :
    pieces.flatten.length = (fed.map Frame.refCollected).sum := by
  induction h with
  | nil => rfl
  | cons hp _ ih =>
    rw [List.flatten_cons, List.length_append, ih, hp.collected, List.map_cons, List.sum_cons]

/-- The frames carry everything exactly when no iteration took more than a
frame holds. -/
theorem Inv.unbroken_iff {s : State} (hI : Inv feedChunksize s) :
    Unbroken feedChunksize s ↔ ∀ x ∈ s.taken, x.length ≤ refBufBytes feedChunksize := by
  constructor
  · rintro ⟨pieces, htaken, hcarries⟩
    -- the pieces have the lengths of the ones the frames are known to carry
    apply length_flatten_take_eq
    rw [length_of_carries hI.carries, ← length_of_carries hcarries, htaken, List.append_nil]
  · intro hshort
    have hsame : s.taken.map (List.take (refBufBytes feedChunksize)) = s.taken := by
      rw [List.map_congr_left fun x hx => List.take_of_length_le (hshort x hx)]
      exact List.map_id' _
    exact ⟨s.taken, (List.append_nil _).symm, hsame ▸ hI.carries⟩

/-- An action adds at most one iteration. -/
theorem fits_step {s s' : State} {a : Act} (hI : Inv feedChunksize s)
    (h : step feedChunksize s a = some s') :
    (∀ x ∈ s'.taken, x.length ≤ refBufBytes feedChunksize) ↔
      (∀ x ∈ s.taken, x.length ≤ refBufBytes feedChunksize) ∧ a.Fits feedChunksize := by
  obtain ⟨item, rfl, rfl⟩ | ⟨rfl, rfl⟩ | ⟨micBuf, sizes, rfl, hsum, -, htaken, -⟩ :=
    step_cases hI h
  · exact (and_iff_left trivial).symm
  · exact (and_iff_left trivial).symm
  · rw [htaken, List.forall_mem_append, List.forall_mem_singleton,
      List.length_take_of_le hsum]
    rfl

theorem fits_run {s s' : State} {acts : List Act} (hI : Inv feedChunksize s)
    (hrun : (task feedChunksize).run s acts = some s') :
    (∀ x ∈ s'.taken, x.length ≤ refBufBytes feedChunksize) ↔
      (∀ x ∈ s.taken, x.length ≤ refBufBytes feedChunksize) ∧
        ∀ a ∈ acts, a.Fits feedChunksize := by
  induction acts generalizing s with
  | nil =>
    obtain rfl : s = s' := Option.some.inj hrun
    exact (and_iff_left (List.forall_mem_nil _)).symm
  | cons a acts ih =>
    obtain ⟨t, ht, hrest⟩ := Machine.run_cons_inv hrun
    rw [ih (hI.step ht) hrest, fits_step hI ht, List.forall_mem_cons, and_assoc]

/-- **The echo reference is the played signal without holes exactly when no
item is longer than what is left of the frame it is taken for.** -/
theorem reference_unbroken_iff {feedBuf : Pcm} {acts : List Act} {s : State}
    (hbuf : feedBuf.length = feedChunksize)
    (hrun : (task feedChunksize).run (start feedBuf) acts = some s) :
    Unbroken feedChunksize s ↔ ∀ a ∈ acts, a.Fits feedChunksize := by
  have hstart : Inv feedChunksize (start feedBuf) := Inv.start hbuf
  have hI : Inv feedChunksize s :=
    Machine.inv_run (I := Inv feedChunksize) (fun hI h => hI.step h) hstart hrun
  rw [hI.unbroken_iff, fits_run hstart hrun]
  exact and_iff_right (List.forall_mem_nil _)

/-! ### An item that straddles two frames -/

/-- Frames of one sample, and an item of four bytes for the first of them. -/
def straddlingItem : List Act :=
  [.write [1, 0, 2, 0], .iterate [7, 8] [4], .write [3, 0], .iterate [7, 8] [2]]

/-- The second sample of the item is in no frame. -/
def afterStraddlingItem : State where
  refRb := some []
  feedBuf := [7, 8, 3]
  taken := [[1, 0, 2, 0], [3, 0]]
  fed := [⟨[7, 8], 2, [7, 8, 1]⟩, ⟨[7, 8], 2, [7, 8, 3]⟩]

theorem run_straddlingItem :
    (task 3).run (start [0, 0, 0]) straddlingItem = some afterStraddlingItem := by
  decide

theorem reference_unbroken_iff_straddlingItem :
    Unbroken 3 afterStraddlingItem ↔ ∀ a ∈ straddlingItem, a.Fits 3 :=
  reference_unbroken_iff rfl run_straddlingItem

/-- What was taken is in no way the pieces that the frames carry and a rest:
the second frame carries the third sample. -/
theorem straddlingItem_breaks :
    (task 3).run (start [0, 0, 0]) straddlingItem = some afterStraddlingItem ∧
      ∀ held, ¬ Splits 3 afterStraddlingItem held := by
  refine ⟨run_straddlingItem, ?_⟩
  rintro held ⟨pieces, htaken, hcarries⟩
  obtain ⟨p, rest, hp, hrest, rfl⟩ := List.forall₂_cons_left_iff.mp hcarries
  obtain ⟨q, _, hq, -, rfl⟩ := List.forall₂_cons_left_iff.mp hrest
  obtain ⟨a, b, rfl⟩ := List.length_eq_two.mp hp.collected
  obtain ⟨c, d, rfl⟩ := List.length_eq_two.mp hq.collected
  -- the second piece would have to be what was lost
  obtain ⟨rfl, rfl, rfl, rfl, -⟩ :
      a = 1 ∧ b = 0 ∧ c = 2 ∧ d = 0 ∧ [3, 0] = _ ++ held := by
    simpa [afterStraddlingItem, eq_comm] using htaken
  have hsample := (hq.interleaved 0 (by decide)).2.2
  exact absurd hsample (by decide)

end FeedTask

end BoxDoubao
