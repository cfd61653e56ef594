import BoxDoubao.Lib.CMemory
import BoxDoubao.Lib.Extraction

/-!
# The Opus processor

The decoding side of `opus_processor.c`. `opus_proc_decode_ogg` feeds a message
to the sync layer of libogg, takes pages from it, puts each page in the logical
stream it finds open, takes packets from the stream and hands those that are
not headers to `opus_decode`. Both loops are `while (… == 1)`, which is
`Extraction.whileItem`.

libogg and libopus are not part of the repository. `LibOgg` is what the
processor uses of libogg: what `ogg_sync_pageout` answers on the bytes fed so
far, and what `ogg_stream_packetout` answers on a page. An answer of `-1` is
`none`. `LibOpus` is the decoder.

The serial number of the open stream and the point libogg has reached in it
are the position of the processor. It depends on the pages alone and not on
what the packet loop leaves behind (`PageDecoder.position_handlePage`).
-/

namespace BoxDoubao

open CMemory Extraction

/-! ### The libraries -/

/-- What the processor uses of libogg. -/
structure LibOgg where
  Page : Type
  Packet : Type
  /-- How far a logical stream has been read. -/
  Lacing : Type
  /-- `ogg_page_serialno`. -/
  serialno : Page → Int32
  /-- `ogg_page_bos`. -/
  bos : Page → Bool
  /-- The answers of `ogg_sync_pageout` on the bytes fed since
  `ogg_sync_init`, before it answers 0. -/
  pageout : Bytes → List (Option Page)
  /-- A stream after `ogg_stream_init`. -/
  start : Int32 → Lacing
  /-- `ogg_stream_pagein` of a page of the stream, with the answers of
  `ogg_stream_packetout` that it adds. -/
  pagein : Lacing → Page → Lacing × List (Option Packet)

/-- What the sync layer is assumed to do. -/
structure LibOgg.Lawful (lib : LibOgg) : Prop where
  /-- Without bytes there is no answer but 0. -/
  nil : lib.pageout [] = []
  /-- What was answered does not depend on what is fed later. -/
  append : ∀ a b, lib.pageout a <+: lib.pageout (a ++ b)
  /-- Before anything was skipped, a page is found at its last byte. -/
  page : ∀ b (pages : List lib.Page) p rest,
    lib.pageout b = pages.map some ++ some p :: rest →
    ∃ a, a <+: b ∧ lib.pageout a = pages.map some ++ [some p]

/-- Samples. -/
abbrev Pcm := List Int16

/-- What the processor uses of libopus. -/
structure LibOpus (Packet : Type) where
  Decoder : Type
  /-- `OPUS_RESET_STATE`. -/
  resetState : Decoder → Decoder
  /-- `opus_decode`, with the samples it wrote: none when it returned an error
  or 0. -/
  decode : Decoder → Packet → Decoder × Pcm

/-! ### Logical streams -/

/-- `ogg_stream_state`: the serial number, how far it has been read, and the
answers `ogg_stream_packetout` has not given yet. -/
structure OggStream (lib : LibOgg) where
  serialno : Int32
  lacing : lib.Lacing
  queue : List (Option lib.Packet)

namespace OggStream

variable {lib : LibOgg}

/-- `ogg_stream_init`. -/
def init (lib : LibOgg) (serialno : Int32) : OggStream lib where
  serialno := serialno
  lacing := lib.start serialno
  queue := []

/-- `ogg_stream_pagein`, which refuses a page of another stream. -/
def pagein (stream : OggStream lib) (page : lib.Page) : OggStream lib :=
  if lib.serialno page = stream.serialno then
    { stream with
      lacing := (lib.pagein stream.lacing page).1
      queue := stream.queue ++ (lib.pagein stream.lacing page).2 }
  else stream

end OggStream

/-! ### The processor -/

/-- The part of `opus_processor_t` that the pages act on. `ogg_stream` is used
only where `ogg_stream_inited` holds, and is `none` elsewhere; a decoder that
is `NULL` is `none`. -/
structure PageDecoder (lib : LibOgg) (opus : LibOpus lib.Packet) where
  decoder : Option opus.Decoder
  oggStream : Option (OggStream lib)
  oggHeadersParsed : Bool
  oggHeaderCount : ℕ

/-- `ogg_sync_state`: the bytes fed, and the number of answers that
`ogg_sync_pageout` has given. -/
structure OggSync where
  fed : Bytes
  returned : ℕ
  deriving DecidableEq

/-- The decoding side of `opus_processor_t`. -/
structure OpusProcessor (lib : LibOgg) (opus : LibOpus lib.Packet) extends
    PageDecoder lib opus where
  oggSync : OggSync

/-- A packet that was handed to `opus_decode`, and the samples that went to
`pcm_cb`. -/
structure Decoded (lib : LibOgg) where
  packet : lib.Packet
  pcm : Pcm

variable {lib : LibOgg} {opus : LibOpus lib.Packet}

namespace PageDecoder

/-- The body of the packet loop. -/
def handlePacket (d : PageDecoder lib opus) (packet : lib.Packet) :
    PageDecoder lib opus × List (Decoded lib) :=
  if d.oggHeadersParsed = false then
    ({ d with
        oggHeaderCount := d.oggHeaderCount + 1
        oggHeadersParsed := decide (d.oggHeaderCount + 1 ≥ 2) }, [])
  else
    match d.decoder with
    | some decoder =>
      let r := opus.decode decoder packet
      ({ d with decoder := some r.1 }, [⟨packet, r.2⟩])
    | none => (d, [])

/-- `ogg_stream_init` and the header flags. -/
def initStream (d : PageDecoder lib opus) (serialno : Int32) : PageDecoder lib opus :=
  { d with
    oggStream := some (OggStream.init lib serialno)
    oggHeadersParsed := false
    oggHeaderCount := 0 }

/-- Initialize stream on first page. -/
def firstPage (d : PageDecoder lib opus) (page : lib.Page) : PageDecoder lib opus :=
  match d.oggStream with
  | none => d.initStream (lib.serialno page)
  | some _ => d

/-- Check for new logical stream. -/
def newStream (d : PageDecoder lib opus) (page : lib.Page) : PageDecoder lib opus :=
  match d.oggStream with
  | some stream =>
    if lib.bos page = true ∧ lib.serialno page ≠ stream.serialno then
      d.initStream (lib.serialno page)
    else d
  | none => d

/-- The packet loop. -/
def packetLoop (d : PageDecoder lib opus) (stream : OggStream lib) :
    PageDecoder lib opus × List (Decoded lib) :=
  let r := whileItem handlePacket d stream.queue
  ({ r.1 with oggStream := some { stream with queue := stream.queue.drop r.2.1 } }, r.2.2)

/-- The body of the page loop. -/
def handlePage (d : PageDecoder lib opus) (page : lib.Page) :
    PageDecoder lib opus × List (Decoded lib) :=
  let d := (d.firstPage page).newStream page
  match d.oggStream with
  | some stream => d.packetLoop (stream.pagein page)
  | none => (d, [])

end PageDecoder

namespace OpusProcessor

/-- `opus_proc_decode_ogg`. `granted` says whether `ogg_sync_buffer` found
room for the data. -/
def opusProcDecodeOgg (proc : OpusProcessor lib opus) (granted : Bool) (data : Bytes) :
    OpusProcessor lib opus × List (Decoded lib) :=
  if data = [] ∨ proc.decoder.isNone = true then (proc, [])
  else if granted = false then (proc, [])
  else
    let fed := proc.oggSync.fed ++ data
    let r := whileItem PageDecoder.handlePage proc.toPageDecoder
      ((lib.pageout fed).drop proc.oggSync.returned)
    (⟨r.1, ⟨fed, proc.oggSync.returned + r.2.1⟩⟩, r.2.2)

/-- `opus_proc_reset_ogg`. -/
def opusProcResetOgg (proc : OpusProcessor lib opus) : OpusProcessor lib opus where
  decoder := proc.decoder.map opus.resetState
  oggStream := none
  oggHeadersParsed := false
  oggHeaderCount := 0
  oggSync := ⟨[], 0⟩

/-- **A reset leaves nothing of what was decoded.** With a libopus that takes
every decoder back to one and the same state, two processors are alike after
it. -/
theorem opusProcResetOgg_eq {proc proc' : OpusProcessor lib opus}
    (hopus : ∀ d d', opus.resetState d = opus.resetState d')
    (h : proc.decoder.isSome = proc'.decoder.isSome) :
    proc.opusProcResetOgg = proc'.opusProcResetOgg := by
  have hdecoder : proc.decoder.map opus.resetState = proc'.decoder.map opus.resetState := by
    cases hd : proc.decoder with
    | none =>
      rw [hd, Option.isSome_none] at h
      rw [Option.isNone_iff_eq_none.mp (Option.isSome_eq_false_iff.mp h.symm)]
    | some d =>
      rw [hd, Option.isSome_some] at h
      obtain ⟨d', hd'⟩ := Option.isSome_iff_exists.mp h.symm
      rw [hd', Option.map_some, Option.map_some, hopus d d']
  rw [opusProcResetOgg, opusProcResetOgg, hdecoder]

end OpusProcessor

/-! ### The decoder stays -/

namespace PageDecoder

variable (d : PageDecoder lib opus)

theorem decoder_handlePacket (packet : lib.Packet) (h : d.decoder.isSome = true) :
    (d.handlePacket packet).1.decoder.isSome = true := by
  simp only [handlePacket]
  split
  · exact h
  · split
    · rfl
    · exact h

/-- No page takes the decoder away. -/
theorem decoder_handlePage (page : lib.Page) (h : d.decoder.isSome = true) :
    (d.handlePage page).1.decoder.isSome = true := by
  have hopen : ((d.firstPage page).newStream page).decoder = d.decoder := by
    simp only [firstPage, newStream, initStream]
    split <;> split <;> (try split) <;> rfl
  simp only [handlePage]
  split
  · exact whileItem_inv handlePacket (I := fun d => d.decoder.isSome = true)
      decoder_handlePacket (hopen ▸ h) _
  · exact hopen ▸ h

end PageDecoder

/-! ### Positions -/

/-- The serial number of the open stream, and how far it has been read. -/
abbrev LibOgg.Position (lib : LibOgg) := Option (Int32 × lib.Lacing)

namespace LibOgg

variable (lib : LibOgg)

/-- The stream a page finds open. -/
def select (pos : lib.Position) (page : lib.Page) : Int32 × lib.Lacing :=
  let opened := (lib.serialno page, lib.start (lib.serialno page))
  match pos with
  | none => opened
  | some stream =>
    if lib.bos page = true ∧ lib.serialno page ≠ stream.1 then opened else stream

/-- The answers of `ogg_stream_packetout` that a page adds. -/
def answers (pos : lib.Position) (page : lib.Page) : List (Option lib.Packet) :=
  let stream := lib.select pos page
  if lib.serialno page = stream.1 then (lib.pagein stream.2 page).2 else []

/-- The position after a page. -/
def advance (pos : lib.Position) (page : lib.Page) : lib.Position :=
  let stream := lib.select pos page
  if lib.serialno page = stream.1 then some (stream.1, (lib.pagein stream.2 page).1)
  else some stream

/-- The position after the pages since the last reset. -/
def position (pages : List lib.Page) : lib.Position :=
  pages.foldl lib.advance none

theorem position_snoc (pages : List lib.Page) (page : lib.Page) :
    lib.position (pages ++ [page]) = lib.advance (lib.position pages) page := by
  rw [position, List.foldl_append]
  rfl

end LibOgg

/-- The position of a stream. -/
def OggStream.pos (stream : OggStream lib) : Int32 × lib.Lacing :=
  (stream.serialno, stream.lacing)

namespace PageDecoder

variable (d : PageDecoder lib opus) (page : lib.Page)

/-- The position of the processor. -/
def position : lib.Position := d.oggStream.map OggStream.pos

/-- No answer of `ogg_stream_packetout` is waiting. -/
def Idle : Prop := ∀ stream, d.oggStream = some stream → stream.queue = []

/-- What the first two steps of the page loop leave open. -/
theorem opened_stream : ∃ stream,
    ((d.firstPage page).newStream page).oggStream = some stream ∧
    stream.pos = lib.select d.position page ∧ (d.Idle → stream.queue = []) := by
  cases hs : d.oggStream with
  | none =>
    -- the first page opens its own stream, which the BOS check then keeps
    refine ⟨OggStream.init lib (lib.serialno page), ?_, ?_, fun _ => rfl⟩
    · simp only [firstPage, hs, newStream, initStream, OggStream.init, ne_eq, not_true_eq_false,
        and_false, if_false]
    · simp only [position, hs, Option.map_none, LibOgg.select]
      rfl
  | some stream =>
    have hpos : d.position = some stream.pos := by rw [position, hs, Option.map_some]
    simp only [firstPage, hs, newStream, hpos, LibOgg.select]
    -- a BOS page of another stream replaces the open one, with what waited in it
    by_cases hnew : lib.bos page = true ∧ lib.serialno page ≠ stream.serialno
    · refine ⟨OggStream.init lib (lib.serialno page), ?_, ?_, fun _ => rfl⟩
      · rw [if_pos hnew]
        rfl
      · exact (if_pos hnew).symm
    · refine ⟨stream, ?_, (if_neg hnew).symm, fun hidle => hidle stream hs⟩
      rw [if_neg hnew]
      exact hs

end PageDecoder

/-- A page moves a stream on and adds its answers. -/
theorem OggStream.pagein_eq {stream : OggStream lib} {pos : lib.Position} {page : lib.Page}
    (h : stream.pos = lib.select pos page) :
    some (stream.pagein page).pos = lib.advance pos page ∧
      (stream.pagein page).queue = stream.queue ++ lib.answers pos page := by
  simp only [LibOgg.advance, LibOgg.answers, ← h]
  -- `ogg_stream_pagein` refuses a page of another stream
  by_cases hserial : lib.serialno page = stream.serialno
  · have hpos : lib.serialno page = stream.pos.1 := hserial
    simp only [pagein, if_pos hserial, if_pos hpos]
    exact ⟨rfl, rfl⟩
  · have hpos : ¬ lib.serialno page = stream.pos.1 := hserial
    simp only [pagein, if_neg hserial, if_neg hpos, List.append_nil, and_self]

namespace PageDecoder

variable (d : PageDecoder lib opus) (page : lib.Page)

/-- A page moves the position on by itself. The answers it adds come behind
those that were left, and the packet loop takes them up to the first mark. -/
theorem handlePage_stream : ∃ stream,
    (d.handlePage page).1.oggStream = some stream ∧
    some stream.pos = lib.advance d.position page ∧
    ∃ waiting, (d.Idle → waiting = []) ∧
      (stream.queue = [] ↔ MarkLast (waiting ++ lib.answers d.position page)) := by
  obtain ⟨stream, hopen, hpos, hidle⟩ := d.opened_stream page
  obtain ⟨hadvance, hqueue⟩ := OggStream.pagein_eq hpos
  have hpage : d.handlePage page =
      ((d.firstPage page).newStream page).packetLoop (stream.pagein page) := by
    simp only [handlePage, hopen]
  rw [hpage]
  refine ⟨_, rfl, hadvance, stream.queue, hidle, ?_⟩
  -- nothing is left exactly when the loop took as many answers as there were
  rw [← hqueue]
  exact drop_whileItem_eq_nil_iff handlePacket _ _

/-- The position depends on the pages alone. -/
theorem position_handlePage : (d.handlePage page).1.position = lib.advance d.position page := by
  obtain ⟨stream, hstream, hpos, -⟩ := d.handlePage_stream page
  rw [position, hstream, Option.map_some, hpos]

end PageDecoder

end BoxDoubao
