import BoxDoubao.Audio.OpusProcessor
import Mathlib.Data.List.Induction
import Mathlib.Data.List.TakeWhile

/-!
# Cutting the audio stream into messages

The server sends an Ogg stream, and where it is cut into messages should not
matter: each call of `opus_proc_decode_ogg` processes everything received so
far, so the packets handed to `opus_decode` are the same however the stream is
cut (`CutIndependent`).

Both loops of the processor stop at any answer other than 1, and libogg
answers `-1` where it skipped bytes or lost a page. A page behind the mark of
a skip, or a packet behind the mark of a gap, then waits for the next call,
which may not come. `cutIndependent_iff` says that this is the only way to
depend on the cut: `NothingBehindMark` holds of a stream in which nothing was
skipped before a page, and no page that follows a gap completes a packet.

One direction follows the processor through a cut: without anything behind a
mark a call is `runAll` over its pages (`decodePieces_eq`), and these compose.
The other cuts the stream where the mark is.
-/

namespace BoxDoubao

open CMemory Extraction

/-- A way of cutting a byte stream into non-empty pieces. -/
structure Cut (b : Bytes) (pieces : List Bytes) : Prop where
  flatten : pieces.flatten = b
  nonempty : ∀ piece ∈ pieces, piece ≠ []

/-- Two pieces, of which the second is left out when it is empty. -/
theorem Cut.pair {a c : Bytes} (ha : a ≠ []) :
    ∃ later, Cut (a ++ c) ([a] ++ later) := by
  by_cases hc : c = []
  · refine ⟨[], by rw [hc, List.append_nil]; rfl, ?_⟩
    simpa using ha
  · refine ⟨[c], by simp, ?_⟩
    simpa using ⟨ha, hc⟩

variable {lib : LibOgg} {opus : LibOpus lib.Packet}

namespace OpusProcessor

/-- The pieces passed in order to `opus_proc_decode_ogg`. -/
def decodePieces (proc : OpusProcessor lib opus) (pieces : List Bytes) :
    OpusProcessor lib opus × List (Decoded lib) :=
  runAll (fun proc piece => proc.opusProcDecodeOgg true piece) proc pieces

/-- Every complete page and packet received so far has been processed: no
answer of libogg is waiting in either layer. -/
def Processed (proc : OpusProcessor lib opus) : Prop :=
  proc.oggSync.returned = (lib.pageout proc.oggSync.fed).length ∧ proc.toPageDecoder.Idle

/-- Decoding does not depend on how the stream `b` is cut. -/
structure CutIndependent (proc : OpusProcessor lib opus) (b : Bytes) : Prop where
  /-- The packets handed to `opus_decode` are the same for any two cuts. -/
  same : ∀ pieces pieces', Cut b pieces → Cut b pieces' →
    (proc.decodePieces pieces).2.map Decoded.packet =
      (proc.decodePieces pieces').2.map Decoded.packet
  /-- Each call processes everything received so far. -/
  complete : ∀ received later, Cut b (received ++ later) →
    (proc.decodePieces received).1.Processed

end OpusProcessor

/-- The stream has nothing behind a mark: no page that libogg found after
skipping bytes, and no packet that a page completes behind a gap. -/
structure NothingBehindMark (lib : LibOgg) (b : Bytes) : Prop where
  skips : MarkLast (lib.pageout b)
  gaps : ∀ (pages : List lib.Page) page rest,
    lib.pageout b = pages.map some ++ some page :: rest →
      MarkLast (lib.answers (lib.position pages) page)

/-- A stream of pages found without a skip, each of them looked at after those
before it. -/
theorem NothingBehindMark.of_pages {b : Bytes} {all : List lib.Page}
    (hout : lib.pageout b = all.map some)
    (hgaps : ∀ k (hk : k < all.length),
      MarkLast (lib.answers (lib.position (all.take k)) all[k])) :
    NothingBehindMark lib b := by
  constructor
  · rw [hout]
    exact MarkLast.map_some all
  · intro pages page rest h
    rw [hout] at h
    obtain ⟨before, after, rfl, hbefore, hafter⟩ := List.map_eq_append_iff.mp h
    obtain ⟨page', later, rfl, hpage, -⟩ := List.map_eq_cons_iff.mp hafter
    obtain rfl := Option.some.inj hpage
    obtain rfl := List.map_injective_iff.mpr (Option.some_injective _) hbefore
    simpa using hgaps before.length (by simp)

/-! ### The state after some pages -/

namespace PageDecoder

variable {d : PageDecoder lib opus}

theorem decoder_runAll (h : d.decoder.isSome = true) (pages : List lib.Page) :
    (runAll handlePage d pages).1.decoder.isSome = true :=
  runAll_inv handlePage (I := fun d => d.decoder.isSome = true) decoder_handlePage h pages

/-- The position after pages that were handled since a reset. -/
theorem position_runAll (h : d.oggStream = none) (pages : List lib.Page) :
    (runAll handlePage d pages).1.position = lib.position pages := by
  induction pages using List.reverseRecOn with
  | nil =>
    show d.oggStream.map OggStream.pos = none
    rw [h, Option.map_none]
  | append_singleton pages page ih =>
    rw [runAll_snoc, position_handlePage, ih, lib.position_snoc]

/-- Nothing waits in the stream when no packet was behind a gap. -/
theorem idle_runAll (h : d.oggStream = none) {b : Bytes} (hb : NothingBehindMark lib b)
    (pages : List lib.Page) (hpages : pages.map some <+: lib.pageout b) :
    (runAll handlePage d pages).1.Idle := by
  induction pages using List.reverseRecOn with
  | nil =>
    intro stream hstream
    exact absurd (h.symm.trans hstream) (by simp)
  | append_singleton pages page ih =>
    obtain ⟨rest, hrest⟩ := hpages
    have hout : lib.pageout b = pages.map some ++ some page :: rest := by
      rw [← hrest, List.map_append, List.append_assoc]
      rfl
    have hidle := ih ⟨some page :: rest, hout.symm⟩
    rw [runAll_snoc]
    obtain ⟨stream, hstream, -, waiting, hwaiting, hqueue⟩ :=
      (runAll handlePage d pages).1.handlePage_stream page
    intro stream' hstream'
    obtain rfl : stream = stream' := Option.some.inj (hstream.symm.trans hstream')
    -- what the page adds is all there is, and that has nothing behind a mark
    rw [hqueue, hwaiting hidle, List.nil_append, position_runAll h]
    exact hb.gaps pages page rest hout

end PageDecoder

/-! ### The state after some pieces -/

/-- The pages libogg finds. -/
def LibOgg.pages (lib : LibOgg) (b : Bytes) : List lib.Page := (lib.pageout b).reduceOption

namespace OpusProcessor

variable {proc : OpusProcessor lib opus}

/-- The processor when `b` was fed and all its pages were handled in a row. -/
def handled (proc : OpusProcessor lib opus) (b : Bytes) :
    OpusProcessor lib opus × List (Decoded lib) :=
  let r := runAll PageDecoder.handlePage proc.toPageDecoder (lib.pages b)
  (⟨r.1, ⟨b, (lib.pageout b).length⟩⟩, r.2)

theorem handled_nil (hlib : lib.Lawful) (hproc : proc.oggSync = ⟨[], 0⟩) :
    proc.handled [] = (proc, []) := by
  obtain ⟨d, sync⟩ := proc
  obtain rfl : sync = ⟨[], 0⟩ := hproc
  simp only [handled, LibOgg.pages, hlib.nil]
  rfl

/-- One call handles the pages its data completes. -/
theorem decode_handled (hlib : lib.Lawful) (hdec : proc.decoder.isSome = true) {a data : Bytes}
    (hdata : data ≠ []) (hmark : MarkLast (lib.pageout (a ++ data))) : ∃ out,
    (proc.handled a).1.opusProcDecodeOgg true data = ((proc.handled (a ++ data)).1, out) ∧
      (proc.handled (a ++ data)).2 = (proc.handled a).2 ++ out := by
  -- the early return is not taken: there is data, and pages keep the decoder
  have hguard : ¬ (data = [] ∨ (proc.handled a).1.decoder.isNone = true) := by
    rintro (h | h)
    · exact hdata h
    · rw [Option.isNone_iff_eq_none] at h
      have hsome := PageDecoder.decoder_runAll hdec (lib.pages a)
      exact absurd (h ▸ hsome : (none : Option opus.Decoder).isSome = true) Bool.false_ne_true
  obtain ⟨new, hnew⟩ := hlib.append a data
  have hpages : lib.pages (a ++ data) = lib.pages a ++ new.reduceOption := by
    rw [LibOgg.pages, ← hnew, List.reduceOption_append]
    rfl
  have hdrop : (lib.pageout (a ++ data)).drop (lib.pageout a).length = new := by
    rw [← hnew, List.drop_left]
  refine ⟨(runAll PageDecoder.handlePage (proc.handled a).1.toPageDecoder
    new.reduceOption).2, ?_, ?_⟩
  · simp only [opusProcDecodeOgg, if_neg hguard, Bool.true_eq_false, if_false]
    simp only [handled, hdrop, hpages, runAll_append,
      whileItem_of_markLast _ _ (hmark.back ⟨_, hnew⟩), ← List.length_append, hnew]
  · simp only [handled, hpages, runAll_append]

/-- **A cut stream is handled page by page**: where nothing is behind the mark
of a skip, the calls together handle all the pages found in a row. -/
theorem decodePieces_eq (hlib : lib.Lawful) (hdec : proc.decoder.isSome = true)
    (hproc : proc.oggSync = ⟨[], 0⟩) {b : Bytes} (hb : MarkLast (lib.pageout b))
    (pieces : List Bytes) (hne : ∀ piece ∈ pieces, piece ≠ []) (hpre : pieces.flatten <+: b) :
    proc.decodePieces pieces = proc.handled pieces.flatten := by
  induction pieces using List.reverseRecOn with
  | nil => exact (handled_nil hlib hproc).symm
  | append_singleton pieces piece ih =>
    have hflat : (pieces ++ [piece]).flatten = pieces.flatten ++ piece := by
      rw [List.flatten_append, List.flatten_singleton]
    rw [hflat] at hpre ⊢
    have hbefore := ih (fun p hp => hne p (List.mem_append_left _ hp))
      ((List.prefix_append _ _).trans hpre)
    -- what the call finds is part of what the whole stream shows
    have hmark : MarkLast (lib.pageout (pieces.flatten ++ piece)) := by
      obtain ⟨more, rfl⟩ := hpre
      exact hb.front (hlib.append _ more)
    obtain ⟨out, hcall, hout⟩ := decode_handled hlib hdec
      (hne piece (List.mem_append_right _ List.mem_cons_self)) hmark
    rw [decodePieces, runAll_snoc]
    show ((proc.decodePieces pieces).1.opusProcDecodeOgg true piece |>.1,
      (proc.decodePieces pieces).2 ++
        ((proc.decodePieces pieces).1.opusProcDecodeOgg true piece).2) = _
    rw [hbefore, hcall, ← hout]

/-! ### Independence of the cut -/

/-- Without anything behind a mark the cut does not matter. -/
theorem CutIndependent.of_nothingBehindMark (hlib : lib.Lawful)
    (hdec : proc.decoder.isSome = true) (hproc : proc.oggSync = ⟨[], 0⟩)
    (hstream : proc.oggStream = none) {b : Bytes} (hb : NothingBehindMark lib b) :
    proc.CutIndependent b := by
  -- the calls so far are one run over the pages of what was received
  have heq : ∀ received later, Cut b (received ++ later) →
      proc.decodePieces received = proc.handled received.flatten ∧
        received.flatten <+: b := by
    intro received later hcut
    have hpre : received.flatten <+: b := ⟨later.flatten, by
      rw [← List.flatten_append, hcut.flatten]⟩
    exact ⟨decodePieces_eq hlib hdec hproc hb.skips received
      (fun p hp => hcut.nonempty p (List.mem_append_left _ hp)) hpre, hpre⟩
  constructor
  · intro pieces pieces' hcut hcut'
    have h := (heq pieces [] (by rw [List.append_nil]; exact hcut)).1
    have h' := (heq pieces' [] (by rw [List.append_nil]; exact hcut')).1
    rw [h, h', hcut.flatten, hcut'.flatten]
  · intro received later hcut
    obtain ⟨h, more, hmore⟩ := heq received later hcut
    rw [h]
    have hfound : lib.pageout received.flatten <+: lib.pageout b :=
      hmore ▸ hlib.append received.flatten more
    exact ⟨rfl, PageDecoder.idle_runAll hstream hb _
      ((hb.skips.front hfound).prefix_items.trans hfound)⟩

/-- One piece shows what is behind the mark of a skip. -/
theorem CutIndependent.skips (hlib : lib.Lawful) (hdec : proc.decoder.isSome = true)
    (hproc : proc.oggSync = ⟨[], 0⟩) {b : Bytes} (h : proc.CutIndependent b) :
    MarkLast (lib.pageout b) := by
  by_cases hb : b = []
  · rw [hb, hlib.nil]
    exact MarkLast.nil
  · have hcut : Cut b ([b] ++ []) := by
      refine ⟨by simp, ?_⟩
      simpa using hb
    have hdone := (h.complete [b] [] hcut).1
    have hguard : ¬ (b = [] ∨ proc.decoder.isNone = true) := by
      rintro (hnil | hnone)
      · exact hb hnil
      · rw [Option.isNone_iff_eq_none.mp hnone] at hdec
        exact Bool.false_ne_true hdec
    simp only [decodePieces, runAll_cons, runAll_nil, opusProcDecodeOgg, if_neg hguard,
      Bool.true_eq_false, if_false, hproc, List.nil_append, List.drop_zero, zero_add] at hdone
    -- the only call took every answer, so none of them was behind a mark
    exact (whileItem_count_eq_iff _ _ _).mp hdone

/-- A cut behind a page shows what is behind a gap in it. -/
theorem CutIndependent.gaps (hlib : lib.Lawful) (hdec : proc.decoder.isSome = true)
    (hproc : proc.oggSync = ⟨[], 0⟩) (hstream : proc.oggStream = none) {b : Bytes}
    (h : proc.CutIndependent b) (pages : List lib.Page) (page : lib.Page)
    (rest : List (Option lib.Page))
    (hb : lib.pageout b = pages.map some ++ some page :: rest) :
    MarkLast (lib.answers (lib.position pages) page) := by
  -- `a` ends with the page; what follows it is the other piece
  obtain ⟨a, ⟨c, rfl⟩, ha⟩ := hlib.page b pages page rest hb
  have hne : a ≠ [] := by
    rintro rfl
    rw [hlib.nil] at ha
    exact absurd ha.symm (by simp)
  obtain ⟨later, hcut⟩ := Cut.pair hne (c := c)
  have hmark : MarkLast (lib.pageout a) :=
    (h.skips hlib hdec hproc).front (hlib.append a c)
  have heq := decodePieces_eq hlib hdec hproc hmark [a] (by simpa using hne) (by simp)
  have hidle := (h.complete [a] later hcut).2
  -- the call ends with the page, so what waits then is what the page left
  have hpages : lib.pages [a].flatten = pages ++ [page] := by
    rw [List.flatten_singleton, LibOgg.pages, ha, List.reduceOption_append, reduceOption_map_some]
    rfl
  rw [heq, handled, hpages, runAll_snoc] at hidle
  obtain ⟨stream, hs, -, waiting, -, hqueue⟩ :=
    (runAll PageDecoder.handlePage proc.toPageDecoder pages).1.handlePage_stream page
  have hall := hqueue.mp (hidle stream hs)
  rw [PageDecoder.position_runAll hstream] at hall
  exact hall.back (List.suffix_append _ _)

end OpusProcessor

open OpusProcessor in
/-- **The packets handed to `opus_decode` do not depend on how the stream is
cut, and each call processes everything received so far, exactly when the
stream has nothing behind a mark.** -/
theorem cutIndependent_iff (hlib : lib.Lawful) (proc : OpusProcessor lib opus)
    (hdec : proc.decoder.isSome = true) (b : Bytes) :
    proc.opusProcResetOgg.CutIndependent b ↔ NothingBehindMark lib b := by
  have hreset : proc.opusProcResetOgg.decoder.isSome = true := by
    rw [← hdec]
    exact Option.isSome_map
  constructor
  · intro h
    exact ⟨h.skips hlib hreset rfl, h.gaps hlib hreset rfl rfl⟩
  · exact CutIndependent.of_nothingBehindMark hlib hreset rfl rfl

/-! ### A known stream -/

/-- A page of a stream whose packets do not cross pages. -/
structure WholePage where
  serialno : Int32
  bos : Bool
  pageno : ℕ
  packets : List Bytes
  deriving DecidableEq

/-- How many bytes two byte strings have in common at the front. -/
def common : Bytes → Bytes → ℕ
  | x :: xs, y :: ys => if x = y then common xs ys + 1 else 0
  | _, _ => 0

/-- libogg on a known byte stream: `marks` lists what `ogg_sync_pageout`
answers and after how many bytes it does. -/
abbrev LibOgg.known (stream : Bytes) (marks : List (ℕ × Option WholePage)) : LibOgg where
  Page := WholePage
  Packet := Bytes
  -- the number of the page expected next
  Lacing := Option ℕ
  serialno := WholePage.serialno
  bos := WholePage.bos
  pageout b := (marks.takeWhile fun mark => mark.1 ≤ common stream b).map Prod.snd
  start _ := none
  pagein expected page :=
    (some (page.pageno + 1),
      (if expected = none ∨ expected = some page.pageno then [] else [none]) ++
        page.packets.map some)

theorem common_append (stream a b : Bytes) : common stream a ≤ common stream (a ++ b) := by
  induction stream generalizing a with
  | nil => exact Nat.zero_le _
  | cons x xs ih =>
    cases a with
    | nil => exact Nat.zero_le _
    | cons y ys =>
      simp only [common, List.cons_append]
      split
      · exact Nat.succ_le_succ (ih ys)
      · exact Nat.le_refl 0

/-- What is in common stays so when less of it is looked at. -/
theorem common_take {stream b : Bytes} {n : ℕ} (h : n ≤ common stream b) :
    common stream (b.take n) = n := by
  induction stream generalizing b n with
  | nil =>
    obtain rfl : n = 0 := Nat.le_zero.mp h
    rfl
  | cons x xs ih =>
    cases n with
    | zero => rfl
    | succ n =>
      cases b with
      | nil => exact absurd h (Nat.not_succ_le_zero n)
      | cons y ys =>
        simp only [common] at h
        split at h
        · next hxy =>
          simp only [List.take_succ_cons, common, if_pos hxy, ih (Nat.le_of_succ_le_succ h)]
        · exact absurd h (Nat.not_succ_le_zero n)

/-- The marks that are reached with more bytes begin with those reached with
fewer. -/
theorem takeWhile_le_mono {α : Type*} (marks : List (ℕ × α)) {m n : ℕ} (h : m ≤ n) :
    (marks.takeWhile fun mark => mark.1 ≤ m) <+: marks.takeWhile fun mark => mark.1 ≤ n := by
  have htake : (marks.takeWhile fun mark => mark.1 ≤ m) =
      (marks.takeWhile fun mark => mark.1 ≤ n).takeWhile fun mark => mark.1 ≤ m := by
    rw [List.takeWhile_takeWhile]
    congr 1
    funext mark
    simp only [decide_eq_decide, decide_eq_true_eq]
    exact ⟨fun hm => ⟨hm, hm.trans h⟩, And.left⟩
  rw [htake]
  exact List.takeWhile_prefix _

/-- The marks reached with as many bytes as one of them needs end with it. -/
theorem takeWhile_le_mark {α : Type*} {before after : List (ℕ × α)} {mark : ℕ × α}
    (hsorted : (before ++ mark :: after).Pairwise fun m m' => m.1 < m'.1) :
    ((before ++ mark :: after).takeWhile fun m => m.1 ≤ mark.1) = before ++ [mark] := by
  obtain ⟨-, hafter, hbefore⟩ := List.pairwise_append.mp hsorted
  have hle : ∀ m ∈ before, decide (m.1 ≤ mark.1) = true := by
    intro m hm
    exact decide_eq_true (hbefore m hm mark List.mem_cons_self).le
  have hself : decide (mark.1 ≤ mark.1) = true := decide_eq_true le_rfl
  rw [List.takeWhile_append_of_pos hle, List.takeWhile_cons, if_pos hself]
  cases after with
  | nil => rfl
  | cons m after =>
    have hlt : mark.1 < m.1 := (List.pairwise_cons.mp hafter).1 m List.mem_cons_self
    rw [List.takeWhile_cons_of_neg (by simpa using hlt)]

/-- It behaves as assumed when every answer needs more bytes than the one
before it. -/
theorem LibOgg.known_lawful {stream : Bytes} {marks : List (ℕ × Option WholePage)}
    (hpos : ∀ mark ∈ marks, 0 < mark.1) (hsorted : marks.Pairwise fun m m' => m.1 < m'.1) :
    (LibOgg.known stream marks).Lawful where
  nil := by
    have hzero : common stream [] = 0 := by cases stream <;> rfl
    simp only [known, hzero, List.map_eq_nil_iff]
    cases marks with
    | nil => rfl
    | cons mark marks =>
      have hmark := hpos mark List.mem_cons_self
      exact List.takeWhile_cons_of_neg (by simpa using hmark.ne')
  append a b := by
    exact List.IsPrefix.map _ (takeWhile_le_mono marks (common_append stream a b))
  page b pages p rest h := by
    obtain ⟨before, after, hfound, hbefore, hafter⟩ := List.map_eq_append_iff.mp h
    obtain ⟨mark, later, rfl, hmark, -⟩ := List.map_eq_cons_iff.mp hafter
    have hall : before ++ mark :: (later ++
        marks.dropWhile fun mark => mark.1 ≤ common stream b) = marks := by
      rw [← List.cons_append, ← List.append_assoc, ← hfound, List.takeWhile_append_dropWhile]
    have hle : mark.1 ≤ common stream b := by
      have hmem : mark ∈ marks.takeWhile fun mark => mark.1 ≤ common stream b := by
        rw [hfound]
        exact List.mem_append_right _ List.mem_cons_self
      simpa using List.mem_takeWhile_imp hmem
    refine ⟨b.take mark.1, List.take_prefix _ _, ?_⟩
    -- the mark of the page is the last one that this many bytes reach
    have htake : (marks.takeWhile fun m => m.1 ≤ common stream (b.take mark.1)) =
        before ++ [mark] := by
      rw [common_take hle]
      rw [← hall] at hsorted ⊢
      exact takeWhile_le_mark hsorted
    show (marks.takeWhile fun m => m.1 ≤ common stream (b.take mark.1)).map Prod.snd = _
    rw [htake, List.map_append, hbefore, List.map_singleton, hmark]

/-! ### A reply -/

/-- The BOS page of a reply, with OpusHead. -/
def headPage : Bytes :=
  [0x4F, 0x67, 0x67, 0x53, 0x00, 0x02, 0x00, 0x00, 0x00, 0x00, 0x00, 0x00, 0x00, 0x00,
    0x01, 0x00, 0x00, 0x00, 0x00, 0x00, 0x00, 0x00, 0xCF, 0x6E, 0x9A, 0xF6, 0x01, 0x13,
    0x4F, 0x70, 0x75, 0x73, 0x48, 0x65, 0x61, 0x64, 0x01, 0x01, 0x00, 0x00,
    0x80, 0x3E, 0x00, 0x00, 0x00, 0x00, 0x00]

/-- The page with OpusTags. -/
def tagsPage : Bytes :=
  [0x4F, 0x67, 0x67, 0x53, 0x00, 0x00, 0x00, 0x00, 0x00, 0x00, 0x00, 0x00, 0x00, 0x00,
    0x01, 0x00, 0x00, 0x00, 0x01, 0x00, 0x00, 0x00, 0x87, 0x58, 0x60, 0x1A, 0x01, 0x10,
    0x4F, 0x70, 0x75, 0x73, 0x54, 0x61, 0x67, 0x73, 0x00, 0x00, 0x00, 0x00,
    0x00, 0x00, 0x00, 0x00]

/-- A page with 20 ms of silence, an Opus packet of one byte. -/
def audioPage : Bytes :=
  [0x4F, 0x67, 0x67, 0x53, 0x00, 0x00, 0xC0, 0x03, 0x00, 0x00, 0x00, 0x00, 0x00, 0x00,
    0x01, 0x00, 0x00, 0x00, 0x02, 0x00, 0x00, 0x00, 0x84, 0x95, 0xBE, 0xEA, 0x01, 0x01,
    0x48]

def replyStream : Bytes := headPage ++ tagsPage ++ audioPage

/-- The pages of the reply, each with the number of bytes it ends at. -/
def replyMarks : List (ℕ × Option WholePage) :=
  [(47, some ⟨1, true, 0, [headPage.drop 28]⟩), (91, some ⟨1, false, 1, [tagsPage.drop 28]⟩),
    (120, some ⟨1, false, 2, [[0x48]]⟩)]

/-- libogg on the reply. -/
abbrev LibOgg.reply : LibOgg := LibOgg.known replyStream replyMarks

/-- A decoder that answers every packet with 20 ms of silence. -/
def LibOpus.silence (Packet : Type) : LibOpus Packet where
  Decoder := Unit
  resetState := id
  decode _ _ := ((), List.replicate 320 0)

/-- The processor after `opus_proc_init`. -/
def OpusProcessor.fresh (lib : LibOgg) : OpusProcessor lib (LibOpus.silence lib.Packet) where
  decoder := some ()
  oggStream := none
  oggHeadersParsed := false
  oggHeaderCount := 0
  oggSync := ⟨[], 0⟩

theorem LibOgg.reply_lawful : LibOgg.reply.Lawful := by
  refine LibOgg.known_lawful ?_ ?_
  · simp [replyMarks]
  · simp [replyMarks]

/-- The reply has no marks. -/
theorem nothingBehindMark_reply : NothingBehindMark LibOgg.reply replyStream := by
  have hout : @Eq (List (Option WholePage)) (LibOgg.reply.pageout replyStream)
      ((replyMarks.filterMap Prod.snd).map some) := by
    decide +kernel
  refine NothingBehindMark.of_pages hout fun k hk => ?_
  match k, hk with
  | 0, _ => exact MarkLast.map_some _
  | 1, _ => exact MarkLast.map_some _
  | 2, _ => exact MarkLast.map_some _

/-- The reply from its start is decoded the same however it is cut. -/
theorem cutIndependent_reply :
    (OpusProcessor.fresh LibOgg.reply).opusProcResetOgg.CutIndependent replyStream :=
  (cutIndependent_iff LibOgg.reply_lawful (OpusProcessor.fresh LibOgg.reply) rfl
    replyStream).mpr nothingBehindMark_reply

/-! ### A stray byte -/

/-- libogg on the reply with a stray byte before it. It looks at no fewer
than the 27 bytes of a page header before it skips the byte. -/
abbrev LibOgg.strayReply : LibOgg :=
  LibOgg.known (0x00 :: replyStream)
    ((27, none) :: replyMarks.map fun mark => (mark.1 + 1, mark.2))

/-- In one message nothing of the reply is decoded; cut behind the first 27
bytes all of it is. -/
theorem strayReply_cutDependent :
    LibOgg.strayReply.Lawful ∧
      ¬ (OpusProcessor.fresh LibOgg.strayReply).opusProcResetOgg.CutIndependent
        (0x00 :: replyStream) := by
  constructor
  · refine LibOgg.known_lawful ?_ ?_
    · simp [replyMarks]
    · simp [replyMarks]
  · intro h
    have hone : Cut (0x00 :: replyStream) [0x00 :: replyStream] :=
      ⟨rfl, by decide⟩
    have htwo : Cut (0x00 :: replyStream)
        [(0x00 :: replyStream).take 27, (0x00 :: replyStream).drop 27] :=
      ⟨rfl, by decide⟩
    have hsame := h.same _ _ hone htwo
    exact absurd hsame (by decide +kernel)

end BoxDoubao
