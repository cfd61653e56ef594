import Mathlib.Data.List.Induction
import BoxDoubao.App.Steps

/-!
# The upload path

`ws_tx_task` cuts what it takes out of `capture_rb` into chunks of 640 bytes.
`Upload` is what it has done so far: the chunks handed to
`doubao_ws_send_audio`, and the bytes still held in `pcm_chunk`. An item that
does not fit behind the bytes held is cut at the end of the chunk, and the
ring buffer takes the whole item back, so the rest of it is lost.
`lossless_iff` says that this is the only way to lose audio.

`run_upload` connects it to the firmware: whatever the other tasks do, as long
as the device listens and is connected, the history and `pcm_chunk` are what
`Upload.items` makes of the items received.
-/

namespace BoxDoubao

open CMemory Firmware

/-! ### Chunks from items -/

/-- What `ws_tx_task` has made of the items received. -/
structure Upload where
  sent : List Bytes
  /-- The first `accumulated` bytes of `pcm_chunk`. -/
  pcmChunk : Bytes
  deriving DecidableEq

namespace Upload

/-- One more item. -/
def item (u : Upload) (x : Bytes) : Upload :=
  let chunk := u.pcmChunk ++ x.take (toCopy u.pcmChunk.length x.length)
  if chunk.length ≥ chunkBytes then ⟨u.sent ++ [chunk], []⟩ else ⟨u.sent, chunk⟩

def items (u : Upload) (xs : List Bytes) : Upload := xs.foldl item u

/-- Nothing has been lost or sent twice, and every chunk is full. -/
structure Lossless (u : Upload) (xs : List Bytes) : Prop where
  concat : u.sent.flatten ++ u.pcmChunk = xs.flatten
  full : ∀ chunk ∈ u.sent, chunk.length = chunkBytes

/-- No item reaches over a multiple of 640 bytes of what was received. -/
def NoneStraddles (xs : List Bytes) : Prop :=
  ∀ before x after, xs = before ++ x :: after →
    before.flatten.length % chunkBytes + x.length ≤ chunkBytes

/-- What holds after any items: full chunks, room left in `pcm_chunk`, and not
more bytes than were received. -/
structure Inv (u : Upload) (xs : List Bytes) : Prop where
  room : u.pcmChunk.length < chunkBytes
  full : ∀ chunk ∈ u.sent, chunk.length = chunkBytes
  bound : u.sent.flatten.length + u.pcmChunk.length ≤ xs.flatten.length

variable {u : Upload} {xs : List Bytes} {x : Bytes}

/-- An item that fits is taken whole. -/
theorem item_of_le (hfit : u.pcmChunk.length + x.length ≤ chunkBytes) :
    u.item x = if u.pcmChunk.length + x.length = chunkBytes then
      ⟨u.sent ++ [u.pcmChunk ++ x], []⟩ else ⟨u.sent, u.pcmChunk ++ x⟩ := by
  have hcopy : toCopy u.pcmChunk.length x.length = x.length := if_neg (by omega)
  unfold item
  rw [hcopy, List.take_length]
  simp only [List.length_append]
  by_cases heq : u.pcmChunk.length + x.length = chunkBytes
  · rw [if_pos (by omega), if_pos heq]
  · rw [if_neg (by omega), if_neg heq]

/-- An item that does not fit fills the chunk, which is sent. -/
theorem item_of_gt (hroom : u.pcmChunk.length < chunkBytes)
    (hlong : chunkBytes < u.pcmChunk.length + x.length) :
    u.item x = ⟨u.sent ++ [u.pcmChunk ++ x.take (chunkBytes - u.pcmChunk.length)], []⟩ := by
  have hcopy : toCopy u.pcmChunk.length x.length = chunkBytes - u.pcmChunk.length :=
    if_pos hlong
  unfold item
  rw [hcopy]
  refine if_pos ?_
  rw [List.length_append, List.length_take]
  omega

theorem length_flatten_of_full {chunks : List Bytes}
    (h : ∀ chunk ∈ chunks, chunk.length = chunkBytes) :
    chunks.flatten.length = chunkBytes * chunks.length := by
  induction chunks with
  | nil => rfl
  | cons c cs ih =>
    have hc : c.length = chunkBytes := h c List.mem_cons_self
    have hcs := ih fun chunk hmem => h chunk (List.mem_cons_of_mem c hmem)
    rw [List.flatten_cons, List.length_append, hc, hcs, List.length_cons, Nat.mul_succ]
    omega

theorem full_append {chunks : List Bytes} {c : Bytes}
    (h : ∀ chunk ∈ chunks, chunk.length = chunkBytes) (hc : c.length = chunkBytes) :
    ∀ chunk ∈ chunks ++ [c], chunk.length = chunkBytes := by
  intro chunk hmem
  obtain hmem | hmem := List.mem_append.mp hmem
  · exact h chunk hmem
  · rw [List.mem_singleton.mp hmem]
    exact hc

theorem Inv.start : Inv ⟨[], []⟩ [] :=
  ⟨by decide, nofun, le_refl _⟩

theorem flatten_concat (xs : List Bytes) (x : Bytes) : (xs ++ [x]).flatten = xs.flatten ++ x := by
  rw [List.flatten_append, List.flatten_singleton]

theorem Inv.item (h : Inv u xs) (x : Bytes) : Inv (u.item x) (xs ++ [x]) := by
  have hroom := h.room
  have hbound := h.bound
  have hlen := congrArg List.length (flatten_concat xs x)
  rw [List.length_append] at hlen
  by_cases hfit : u.pcmChunk.length + x.length ≤ chunkBytes
  · rw [item_of_le hfit]
    by_cases heq : u.pcmChunk.length + x.length = chunkBytes
    · -- the chunk is full and sent
      rw [if_pos heq]
      refine ⟨Nat.zero_lt_succ _, full_append h.full (by rw [List.length_append, heq]), ?_⟩
      rw [flatten_concat, List.length_append, List.length_append, List.length_nil]
      omega
    · rw [if_neg heq]
      have hsum : (u.pcmChunk ++ x).length = u.pcmChunk.length + x.length :=
        List.length_append
      refine ⟨?_, h.full, ?_⟩
      · change (u.pcmChunk ++ x).length < chunkBytes
        omega
      · change u.sent.flatten.length + (u.pcmChunk ++ x).length ≤ _
        omega
  · -- what is sent is full, and the rest of the item is dropped
    rw [item_of_gt hroom (by omega)]
    have hc : (u.pcmChunk ++ x.take (chunkBytes - u.pcmChunk.length)).length = chunkBytes := by
      rw [List.length_append, List.length_take]
      omega
    refine ⟨Nat.zero_lt_succ _, full_append h.full hc, ?_⟩
    rw [flatten_concat, List.length_append, hc, List.length_nil]
    omega

/-- The place in the chunk is the number of bytes received, as long as none
was lost. -/
theorem Inv.held_eq (h : Inv u xs) (hl : Lossless u xs) :
    u.pcmChunk.length = xs.flatten.length % chunkBytes := by
  have hlen := congrArg List.length hl.concat
  rw [List.length_append, length_flatten_of_full h.full] at hlen
  rw [← hlen, Nat.mul_add_mod]
  exact (Nat.mod_eq_of_lt h.room).symm

/-- **One item**: nothing is lost by it exactly when it fits. -/
theorem lossless_item_iff (h : Inv u xs) (x : Bytes) :
    Lossless (u.item x) (xs ++ [x]) ↔
      Lossless u xs ∧ xs.flatten.length % chunkBytes + x.length ≤ chunkBytes := by
  have hroom := h.room
  have hbound := h.bound
  by_cases hfit : u.pcmChunk.length + x.length ≤ chunkBytes
  · have hconcat : (u.item x).sent.flatten ++ (u.item x).pcmChunk =
        (u.sent.flatten ++ u.pcmChunk) ++ x := by
      rw [item_of_le hfit]
      split
      · rw [flatten_concat, List.append_nil, List.append_assoc]
      · rw [List.append_assoc]
    -- the item is appended as it is, so it can be cancelled again
    constructor
    · intro hl
      have hpre := hl.concat
      rw [hconcat, flatten_concat] at hpre
      have hlu : Lossless u xs := ⟨List.append_cancel_right hpre, h.full⟩
      exact ⟨hlu, h.held_eq hlu ▸ hfit⟩
    · rintro ⟨hl, -⟩
      exact ⟨by rw [hconcat, hl.concat, flatten_concat], (h.item x).full⟩
  · -- the chunk ends inside the item, and the bytes behind it are gone
    have hlong : chunkBytes < u.pcmChunk.length + x.length := by omega
    constructor
    · intro hl
      have hlen := congrArg List.length hl.concat
      -- fewer bytes are there than were received, by the invariant's bound
      rw [item_of_gt hroom hlong, flatten_concat, flatten_concat] at hlen
      simp only [List.length_append, List.length_take, List.length_nil] at hlen
      omega
    · rintro ⟨hl, hle⟩
      rw [← h.held_eq hl] at hle
      exact absurd hle hfit

theorem items_concat (u : Upload) (xs : List Bytes) (x : Bytes) :
    u.items (xs ++ [x]) = (u.items xs).item x := List.foldl_concat ..

theorem inv_items (xs : List Bytes) : Inv (items ⟨[], []⟩ xs) xs := by
  induction xs using List.reverseRecOn with
  | nil => exact Inv.start
  | append_singleton xs x ih =>
    rw [items_concat]
    exact ih.item x

theorem noneStraddles_concat (xs : List Bytes) (x : Bytes) :
    NoneStraddles (xs ++ [x]) ↔
      NoneStraddles xs ∧ xs.flatten.length % chunkBytes + x.length ≤ chunkBytes := by
  constructor
  · intro h
    refine ⟨fun before y after heq => ?_, h xs x [] rfl⟩
    refine h before y (after ++ [x]) ?_
    rw [heq, List.append_assoc]
    rfl
  · rintro ⟨h, hx⟩ before y after heq
    -- the item is the last one, or one of those before it
    obtain rfl | ⟨after', z, rfl⟩ := List.eq_nil_or_concat after
    · obtain ⟨rfl, hxy⟩ := List.append_inj' heq rfl
      obtain rfl : x = y := List.singleton_inj.mp hxy
      exact hx
    · refine h before y after' ?_
      rw [List.concat_eq_append, ← List.cons_append, ← List.append_assoc] at heq
      exact (List.append_inj' heq rfl).1

/-- **Audio is lost exactly at a chunk boundary.** What was sent and what is
held are the items received if and only if no item reaches over a multiple of
640 bytes. -/
theorem lossless_iff (xs : List Bytes) : Lossless (items ⟨[], []⟩ xs) xs ↔ NoneStraddles xs := by
  induction xs using List.reverseRecOn with
  | nil =>
    refine ⟨fun _ before x after heq => ?_, fun _ => ⟨rfl, nofun⟩⟩
    exact absurd heq (by simp)
  | append_singleton xs x ih =>
    rw [items_concat, lossless_item_iff (inv_items xs), ih, noneStraddles_concat]

/-- Chunks sent earlier stay in front. -/
theorem items_append_sent (old : List Bytes) (u : Upload) (xs : List Bytes) :
    items ⟨old ++ u.sent, u.pcmChunk⟩ xs =
      ⟨old ++ (u.items xs).sent, (u.items xs).pcmChunk⟩ := by
  induction xs using List.reverseRecOn with
  | nil => rfl
  | append_singleton xs x ih =>
    rw [items_concat, items_concat, ih]
    unfold item
    dsimp only
    split
    · rw [List.append_assoc]
    · rfl

end Upload

/-! ### The firmware while it listens -/

/-- The chunks handed to `doubao_ws_send_audio`, oldest first. -/
def audioChunks (log : List Obs) : List Bytes :=
  (log.filterMap fun o => match o with
    | .audio chunk => some chunk
    | _ => none).reverse

@[simp] theorem audioChunks_audio (chunk : Bytes) (log : List Obs) :
    audioChunks (.audio chunk :: log) = audioChunks log ++ [chunk] := List.reverse_cons

namespace Firmware

/-- What `ws_tx_task` has done so far. -/
def upload (s : Firmware) : Upload := ⟨audioChunks s.log, s.pcmChunk⟩

/-- The item a step takes out of `capture_rb`. -/
def receivedItem (s : Firmware) : Action → List Bytes
  | .tx itemSize _ => if itemSize = 0 then [] else [s.captureRb.take itemSize]
  | _ => []

/-- The items taken out of `capture_rb` along a run. -/
def receivedItems (json : Json) : Firmware → List Action → List Bytes
  | _, [] => []
  | s, a :: as => s.receivedItem a ++
    match s.step json a with
    | some s' => receivedItems json s' as
    | none => []

/-- The device is in LISTENING and connected. -/
def Listens (s : Firmware) (_ : Action) : Prop :=
  s.gAppState = .listening ∧ s.client.connected = true

instance (s : Firmware) (a : Action) : Decidable (s.Listens a) :=
  inferInstanceAs (Decidable (_ ∧ _))

variable {s s' : Firmware}

/-- An iteration of `ws_tx_task` is one more item, or none. -/
theorem tx_upload {itemSize : ℕ} {ok : Bool} (hG : s.Listens (.tx itemSize ok))
    (h : s.tx itemSize ok = some s') :
    s'.upload = s.upload.items (s.receivedItem (.tx itemSize ok)) := by
  obtain ⟨happ, hconn⟩ := hG
  unfold tx at h
  obtain ⟨-, h⟩ := Option.ite_none_left_eq_some.mp h
  rw [if_neg (not_not.mpr happ), if_neg (by rw [hconn]; decide)] at h
  obtain ⟨hmany, h⟩ := Option.ite_none_left_eq_some.mp h
  have hlen : (s.captureRb.take itemSize).length = itemSize := by
    rw [List.length_take]
    omega
  by_cases hzero : itemSize = 0
  · -- the wait timed out
    subst hzero
    rw [if_neg (fun hc => absurd hc.1 (lt_irrefl 0))] at h
    obtain rfl := Option.some.inj h
    simp only [upload, receivedItem, List.take_zero, List.take_nil, List.append_nil]
    rfl
  · rw [receivedItem, if_neg hzero]
    change s'.upload = s.upload.item (s.captureRb.take itemSize)
    unfold Upload.item
    rw [hlen]
    simp only at h ⊢
    split at h
    · next hfull =>
      obtain rfl := Option.some.inj h
      -- the chunk is the newest one in the history, behind its command
      exact (congrArg (Upload.mk · []) (audioChunks_audio _ _)).trans (if_pos hfull.2).symm
    · next hpart =>
      obtain rfl := Option.some.inj h
      exact (if_neg fun hc => hpart ⟨Nat.pos_of_ne_zero hzero, hc⟩).symm

theorem LoopHead.pcmChunk_eq (h : LoopHead s s') : s'.pcmChunk = s.pcmChunk := by
  cases h <;> rfl

theorem LoopHead.upload_eq (h : LoopHead s s') : s'.upload = s.upload := by
  rw [upload, upload, h.pcmChunk_eq, h.frame.2.1]

theorem ClientStep.upload_eq (h : ClientStep s s') : s'.upload = s.upload := by
  have hchunks : audioChunks s'.log = audioChunks s.log := by
    obtain hlog | hlog := h.frame.2.2.2.2
    · rw [hlog]
    · rw [hlog]
      rfl
  rw [upload, upload, hchunks]
  cases h <;> rfl

/-- Only `ws_tx_task` touches `pcm_chunk` and hands over audio. -/
theorem step_upload {json : Json} {a : Action} (hG : s.Listens a)
    (h : s.step json a = some s') : s'.upload = s.upload.items (s.receivedItem a) := by
  cases step_cases h with
  | tx itemSize ok _ => exact tx_upload hG h
  | fsm _ h =>
    cases h with
    | ready _ ht | connecting _ ht | loop _ ht | bargein _ ht | finishHandshake _ ht =>
      exact ht.upload_eq
    | move _ _ | connectFailed _ | sessionStart _ | buttonEnd _ | sessionEnded _ _
    | buttonDebounced _ => rfl
  | client ha hc =>
    have hnone : s.receivedItem a = [] := by
      cases a <;> first | rfl | cases ha
    rw [hnone]
    exact hc.upload_eq
  | receive r _ _ _ hb =>
    generalize r.dispatch json = k at hb
    cases hb <;> rfl
  | wakeWord h => cases h <;> rfl
  | command _ _ _ | connected _ _ _ | disconnected _ _ | wsFinish _ _ | exitDone _ | errorDone _
  | fetch _ _ | appMain _ => rfl

/-- **The task is the fold.** Whatever the other tasks do while the device
listens and is connected. -/
theorem run_upload (json : Json) {as : List Action}
    (hrun : (firmware json).run s as = some s')
    (hguard : (firmware json).Guarded Listens s as) :
    s'.upload = s.upload.items (receivedItems json s as) := by
  induction as generalizing s with
  | nil =>
    obtain rfl : s = s' := Option.some.inj hrun
    rfl
  | cons a as ih =>
    obtain ⟨t, ht, hrest⟩ := Machine.run_cons_inv hrun
    have hfirst := step_upload hguard.1 ht
    have hlater := ih hrest (hguard.rest ht)
    have hitems : receivedItems json s (a :: as) =
        s.receivedItem a ++ receivedItems json t as := by
      rw [receivedItems, show s.step json a = some t from ht]
    rw [hlater, hfirst, hitems]
    exact List.foldl_append.symm

/-- **Audio is lost exactly at a chunk boundary.** Over any stretch of a run
in which the device listens and is connected, and that begins with nothing
accumulated: the chunks handed over in it, followed by the bytes still held,
are the items received in it, and every chunk is full, if and only if no item
reaches over a multiple of 640 bytes. -/
theorem upload_lossless_iff (json : Json) (as : List Action) (s s' : Firmware)
    (hrun : (firmware json).run s as = some s')
    (hguard : (firmware json).Guarded Listens s as) (hempty : s.pcmChunk = []) :
    ∃ chunks, audioChunks s'.log = audioChunks s.log ++ chunks ∧
      (Upload.Lossless ⟨chunks, s'.pcmChunk⟩ (receivedItems json s as) ↔
        Upload.NoneStraddles (receivedItems json s as)) := by
  -- the task is the fold, and what was sent before stays in front of it
  have hend := run_upload json hrun hguard
  have hstart : s.upload = ⟨audioChunks s.log ++ [], []⟩ := by
    rw [upload, hempty, List.append_nil]
  rw [hstart, Upload.items_append_sent (audioChunks s.log) ⟨[], []⟩] at hend
  obtain ⟨hsent, hheld⟩ := Upload.mk.inj hend
  refine ⟨_, hsent, ?_⟩
  rw [hheld]
  exact Upload.lossless_iff _

/-- The AFE task puts a frame of 1024 bytes into the ring buffer, and
`ws_tx_task` receives it as one item. -/
def wholeFrame : List Action := [.fetch (List.replicate 1024 0), .tx 1024 true]

/-- The first 640 bytes of the frame are sent and the other 384 are gone. -/
theorem wholeFrame_loses :
    ∃ s s', (firmware fun _ _ => none).run boot firstSession = some s ∧
      s.pcmChunk = [] ∧
      (firmware fun _ _ => none).Guarded Listens s wholeFrame ∧
      (firmware fun _ _ => none).run s wholeFrame = some s' ∧
      ∃ chunks, audioChunks s'.log = audioChunks s.log ++ chunks ∧
        ¬ Upload.Lossless ⟨chunks, s'.pcmChunk⟩ (receivedItems (fun _ _ => none) s wholeFrame) := by
  have hstart : ((firmware fun _ _ => none).run boot firstSession).map (fun s =>
      (s.upload, decide ((firmware fun _ _ => none).Guarded Listens s wholeFrame),
        receivedItems (fun _ _ => none) s wholeFrame)) =
      some (⟨[], []⟩, true, [List.replicate 1024 0]) := by decide +kernel
  have hend : ((firmware fun _ _ => none).run boot (firstSession ++ wholeFrame)).map upload =
      some ⟨[List.replicate 640 0], []⟩ := by decide +kernel
  obtain ⟨s, hs, heq⟩ := Option.map_eq_some_iff.mp hstart
  simp only [Prod.mk.injEq] at heq
  obtain ⟨hold, hguard, hitems⟩ := heq
  obtain ⟨hsent, hempty⟩ := Upload.mk.inj hold
  obtain ⟨s', hs', hnew⟩ := Option.map_eq_some_iff.mp hend
  rw [Machine.run_append s hs] at hs'
  obtain ⟨hsent', hheld⟩ := Upload.mk.inj hnew
  refine ⟨s, s', hs, hempty, of_decide_eq_true hguard, hs', [List.replicate 640 0],
    by rw [hsent, hsent', List.nil_append], fun hl => ?_⟩
  have hlen := congrArg List.length hl.concat
  rw [hheld, hitems, List.append_nil, List.flatten_singleton, List.flatten_singleton,
    List.length_replicate, List.length_replicate] at hlen
  exact absurd hlen (by decide)

/-- Items of 400 and 240 bytes fill a chunk exactly. -/
def wholeChunk : List Action :=
  [.fetch (List.replicate 400 0), .tx 400 true, .fetch (List.replicate 240 1), .tx 240 true]

theorem upload_lossless_wholeChunk :
    ∃ s s', (firmware fun _ _ => none).run boot firstSession = some s ∧
      (firmware fun _ _ => none).run s wholeChunk = some s' ∧
      ∃ chunks, audioChunks s'.log = audioChunks s.log ++ chunks ∧
        (Upload.Lossless ⟨chunks, s'.pcmChunk⟩ (receivedItems (fun _ _ => none) s wholeChunk) ↔
          Upload.NoneStraddles (receivedItems (fun _ _ => none) s wholeChunk)) := by
  have hstart : ((firmware fun _ _ => none).run boot firstSession).map (fun s =>
      (s.pcmChunk, decide ((firmware fun _ _ => none).Guarded Listens s wholeChunk),
        ((firmware fun _ _ => none).run s wholeChunk).isSome)) = some ([], true, true) := by
    decide +kernel
  obtain ⟨s, hs, heq⟩ := Option.map_eq_some_iff.mp hstart
  simp only [Prod.mk.injEq] at heq
  obtain ⟨hempty, hguard, hrun⟩ := heq
  obtain ⟨s', hs'⟩ := Option.isSome_iff_exists.mp hrun
  exact ⟨s, s', hs, hs', upload_lossless_iff _ _ s s' hs' (of_decide_eq_true hguard) hempty⟩

end Firmware

end BoxDoubao
