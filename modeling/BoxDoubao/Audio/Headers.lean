import BoxDoubao.Audio.Cutting

/-!
# Which packets are decoded

Every logical stream begins with the packets OpusHead and OpusTags, which are
not audio. The processor skips the first two packets it takes from a stream it
opened, and it opens a stream at the first page after a reset and at a BOS page
with another serial number.

`HeadersSkipped` is what this is for: of the packets `ogg_stream_packetout`
completes during a call, those handed to `opus_decode` are the ones that are
not headers. It fails where the first page after a reset is in the middle of a
stream, whose next two packets are then taken for headers, and where a stream
follows another one with the same serial number, whose headers are then taken
for audio (`replayedReply_decodesHeaders`). `Separated` excludes both, and
`headers_skipped` says that nothing else goes wrong.

The invariant (`Reading`) looks ahead: it says what libogg will answer on the
pages of the open stream that are still to come, and that the two flags of the
processor count the headers among these answers.
-/

namespace BoxDoubao

open CMemory Extraction

/-! ### The audio of the server -/

/-- A logical stream: its pages, and the packets they carry. -/
structure LogicalStream (lib : LibOgg) where
  pages : List lib.Page
  opusHead : lib.Packet
  opusTags : lib.Packet
  audio : List lib.Packet

variable {lib : LibOgg} {opus : LibOpus lib.Packet}

/-- The answers of `ogg_stream_packetout` on some pages of a stream. -/
def LibOgg.answersFrom (lib : LibOgg) : lib.Lacing → List lib.Page → List (Option lib.Packet)
  | _, [] => []
  | lacing, page :: pages =>
    (lib.pagein lacing page).2 ++ lib.answersFrom (lib.pagein lacing page).1 pages

namespace LogicalStream

/-- All packets, in order. -/
def packets (s : LogicalStream lib) : List lib.Packet := s.opusHead :: s.opusTags :: s.audio

/-- The first page is the BOS page and all pages have one serial number; a
packet tells whether it is one of the first two of its stream; and libogg
answers the packets when it reads all pages from the first one on. -/
structure WellFormed (isHeader : lib.Packet → Bool) (s : LogicalStream lib) : Prop where
  pages : ∃ first rest, s.pages = first :: rest ∧ lib.bos first = true ∧
    (∀ page ∈ rest, lib.bos page = false ∧ lib.serialno page = lib.serialno first) ∧
    lib.answersFrom (lib.start (lib.serialno first)) s.pages = s.packets.map some
  opusHead : isHeader s.opusHead = true
  opusTags : isHeader s.opusTags = true
  audio : ∀ packet ∈ s.audio, isHeader packet = false

end LogicalStream

/-- Where the bytes fed are those of whole pages, `ogg_sync_pageout` answers
these pages. -/
structure LibOgg.Framed (lib : LibOgg) (bytes : lib.Page → Bytes) (all : List lib.Page) :
    Prop where
  ne : ∀ page ∈ all, bytes page ≠ []
  pageout : ∀ pages : List lib.Page, (∀ page ∈ pages, page ∈ all) →
    lib.pageout (pages.flatMap bytes) = pages.map some

/-! ### Calls -/

/-- What the app does with the processor: a message of whole pages is decoded,
or the Ogg state is reset. -/
inductive OggCall (lib : LibOgg) where
  | decode (pages : List lib.Page)
  | reset

/-- A page is handled, or the Ogg state is reset. -/
inductive OggEvent (lib : LibOgg) where
  | page (page : lib.Page)
  | reset

namespace OggCall

def pages : OggCall lib → List lib.Page
  | decode pages => pages
  | reset => []

def events : OggCall lib → List (OggEvent lib)
  | decode pages => pages.map .page
  | reset => [.reset]

end OggCall

namespace OpusProcessor

/-- The call itself. -/
def call (bytes : lib.Page → Bytes) (proc : OpusProcessor lib opus) :
    OggCall lib → OpusProcessor lib opus × List (Decoded lib)
  | .decode pages => proc.opusProcDecodeOgg true (pages.flatMap bytes)
  | .reset => (proc.opusProcResetOgg, [])

end OpusProcessor

namespace PageDecoder

/-- The packets `ogg_stream_packetout` completes while a page is handled. -/
def completed (d : PageDecoder lib opus) (page : lib.Page) : List lib.Packet :=
  match ((d.firstPage page).newStream page).oggStream with
  | some stream => items (stream.pagein page).queue
  | none => []

/-- Those it completes while some pages are handled. -/
def completedAll : PageDecoder lib opus → List lib.Page → List lib.Packet
  | _, [] => []
  | d, page :: pages => d.completed page ++ completedAll (d.handlePage page).1 pages

end PageDecoder

/-- Of the packets completed during the call, exactly those that are not
headers are handed to `opus_decode`. -/
def HeadersSkipped (bytes : lib.Page → Bytes) (isHeader : lib.Packet → Bool)
    (proc : OpusProcessor lib opus) (c : OggCall lib) : Prop :=
  (proc.call bytes c).2.map Decoded.packet =
    (proc.completedAll c.pages).filter fun packet => !isHeader packet

/-- The page after a reset is a BOS page, and a BOS page that follows another
page without a reset in between has another serial number. `opened` is the
serial number of the page before, if there was no reset since. -/
def Separated (lib : LibOgg) : Option Int32 → List (OggEvent lib) → Prop
  | _, [] => True
  | _, .reset :: es => Separated lib none es
  | none, .page p :: es => lib.bos p = true ∧ Separated lib (some (lib.serialno p)) es
  | some opened, .page p :: es =>
    (lib.bos p = true → lib.serialno p ≠ opened) ∧ Separated lib (some (lib.serialno p)) es

/-! ### Packets -/

namespace PageDecoder

variable {isHeader : lib.Packet → Bool} {d : PageDecoder lib opus}

/-- The packets to come from the open stream: the headers that the processor
has not counted yet, and audio. -/
structure Ahead (isHeader : lib.Packet → Bool) (d : PageDecoder lib opus)
    (packets : List lib.Packet) : Prop where
  decoder : d.decoder.isSome = true
  split : ∃ headers audio, packets = headers ++ audio ∧
    (∀ packet ∈ headers, isHeader packet = true) ∧
    (∀ packet ∈ audio, isHeader packet = false) ∧
    d.oggHeaderCount + headers.length = 2 ∧ (d.oggHeadersParsed = true ↔ headers = [])

/-- A header is counted, and anything else is decoded. -/
theorem Ahead.handlePacket {packet : lib.Packet} {packets : List lib.Packet}
    (h : Ahead isHeader d (packet :: packets)) :
    (d.handlePacket packet).2.map Decoded.packet = [packet].filter (fun p => !isHeader p) ∧
      Ahead isHeader (d.handlePacket packet).1 packets := by
  have hdec := decoder_handlePacket d packet h.decoder
  obtain ⟨headers, audio, hsplit, hheaders, haudio, hcount, hparsed⟩ := h.split
  cases headers with
  | nil =>
    have hdone : ¬ d.oggHeadersParsed = false := by
      rw [hparsed.mpr rfl]
      exact Bool.true_eq_false.mp
    obtain ⟨decoder, hsome⟩ := Option.isSome_iff_exists.mp h.decoder
    rw [List.nil_append] at hsplit
    have hnot : isHeader packet = false := haudio packet (hsplit ▸ List.mem_cons_self)
    simp only [PageDecoder.handlePacket, if_neg hdone, hsome] at hdec ⊢
    refine ⟨?_, hdec, [], packets, rfl, List.forall_mem_nil _, ?_, hcount, hparsed⟩
    · rw [List.filter_cons_of_pos (by rw [hnot]; rfl)]
      rfl
    · intro p hp
      exact haudio p (hsplit ▸ List.mem_cons_of_mem packet hp)
  | cons header headers =>
    obtain ⟨rfl, rfl⟩ := List.cons.inj hsplit
    have hopen : d.oggHeadersParsed = false := by
      apply eq_false_of_ne_true
      intro htrue
      exact absurd (hparsed.mp htrue) (List.cons_ne_nil _ _)
    rw [List.length_cons] at hcount
    simp only [PageDecoder.handlePacket, if_pos hopen] at hdec ⊢
    refine ⟨?_, hdec, headers, audio, rfl, ?_, haudio, by show _ + 1 + _ = 2; omega, ?_⟩
    · rw [List.filter_cons_of_neg (by rw [hheaders packet List.mem_cons_self]; decide)]
      rfl
    · intro p hp
      exact hheaders p (List.mem_cons_of_mem _ hp)
    · -- the second header completes the count
      rw [← List.length_eq_zero_iff]
      show decide (d.oggHeaderCount + 1 ≥ 2) = true ↔ headers.length = 0
      rw [decide_eq_true_eq]
      omega

/-- The packets of a page, with more of them to come on later pages. -/
theorem Ahead.runAll {packets more : List lib.Packet}
    (h : Ahead isHeader d (packets ++ more)) :
    (runAll PageDecoder.handlePacket d packets).2.map Decoded.packet =
        packets.filter (fun p => !isHeader p) ∧
      Ahead isHeader (runAll PageDecoder.handlePacket d packets).1 more := by
  induction packets generalizing d with
  | nil => exact ⟨rfl, h⟩
  | cons packet packets ih =>
    obtain ⟨hout, hnext⟩ := Ahead.handlePacket h
    obtain ⟨hrest, hmore⟩ := ih hnext
    rw [runAll_cons]
    refine ⟨?_, hmore⟩
    rw [List.map_append, hout, hrest, ← List.filter_append]
    rfl

/-! ### Pages -/

/-- The pages that are still to come of the open stream: none of them begins
another stream, and their packets are those ahead. -/
structure Reading (isHeader : lib.Packet → Bool) (d : PageDecoder lib opus)
    (stream : OggStream lib) (unread : List lib.Page) : Prop where
  queue : stream.queue = []
  pages : ∀ page ∈ unread, lib.bos page = false ∧ lib.serialno page = stream.serialno
  ahead : ∃ packets, lib.answersFrom stream.lacing unread = packets.map some ∧
    Ahead isHeader d packets

/-- What a page does: the packets it completes are decoded unless they are
headers, and the open stream is its own, with the pages behind it to come. -/
structure PageRead (isHeader : lib.Packet → Bool) (d : PageDecoder lib opus) (page : lib.Page)
    (unread : List lib.Page) : Prop where
  decoded : (d.handlePage page).2.map Decoded.packet =
    (d.completed page).filter fun p => !isHeader p
  stream : ∃ stream', (d.handlePage page).1.oggStream = some stream' ∧
    stream'.serialno = lib.serialno page ∧ Reading isHeader (d.handlePage page).1 stream' unread

/-- A page of the stream that is open when the packet loop begins. -/
theorem Reading.handlePage {page : lib.Page} {unread : List lib.Page} {stream : OggStream lib}
    (hopen : ((d.firstPage page).newStream page).oggStream = some stream)
    (hserial : lib.serialno page = stream.serialno) (hqueue : stream.queue = [])
    (hpages : ∀ p ∈ unread, lib.bos p = false ∧ lib.serialno p = stream.serialno)
    (hahead : ∃ packets, lib.answersFrom stream.lacing (page :: unread) = packets.map some ∧
      Ahead isHeader ((d.firstPage page).newStream page) packets) :
    PageRead isHeader d page unread := by
  obtain ⟨packets, hanswers, hahead⟩ := hahead
  -- the packets of this page, and those of the pages behind it
  obtain ⟨here, later, rfl, hhere, hlater⟩ := List.map_eq_append_iff.mp hanswers.symm
  have hnext : (stream.pagein page).queue = here.map some := by
    rw [OggStream.pagein, if_pos hserial, hqueue, List.nil_append, hhere]
  obtain ⟨hout, hmore⟩ := Ahead.runAll hahead
  have hcompleted : d.completed page = here := by
    simp only [completed, hopen, hnext, items_map_some]
  have hpage : d.handlePage page =
      ({ (runAll PageDecoder.handlePacket ((d.firstPage page).newStream page) here).1 with
          oggStream := some { stream.pagein page with queue := [] } },
        (runAll PageDecoder.handlePacket ((d.firstPage page).newStream page) here).2) := by
    simp only [PageDecoder.handlePage, hopen, packetLoop, hnext, whileItem_map_some]
    rw [← List.length_map (f := some), List.drop_length]
  have hlacing : (stream.pagein page).lacing = (lib.pagein stream.lacing page).1 := by
    rw [OggStream.pagein, if_pos hserial]
  have hserial' : (stream.pagein page).serialno = stream.serialno := by
    rw [OggStream.pagein, if_pos hserial]
  constructor
  · rw [hpage, hcompleted]
    exact hout
  · rw [hpage]
    refine ⟨_, rfl, hserial'.trans hserial.symm, rfl, ?_, later, ?_, hmore.decoder, hmore.split⟩
    · intro p hp
      rw [hserial']
      exact hpages p hp
    · rw [hlacing, hlater]

/-- A stream that was just opened has all its packets ahead. -/
theorem Ahead.initStream {s : LogicalStream lib} (hs : s.WellFormed isHeader)
    (hdec : d.decoder.isSome = true) (serialno : Int32) :
    Ahead isHeader (d.initStream serialno) s.packets := by
  refine ⟨hdec, [s.opusHead, s.opusTags], s.audio, rfl, ?_, hs.audio, rfl, ?_⟩
  · intro packet hmem
    simp only [List.mem_cons, List.not_mem_nil, or_false] at hmem
    obtain rfl | rfl := hmem
    · exact hs.opusHead
    · exact hs.opusTags
  · exact iff_of_false Bool.false_ne_true (List.cons_ne_nil _ _)

/-- The first page of a logical stream, where it opens one. -/
theorem Reading.firstPage {s : LogicalStream lib} (hs : s.WellFormed isHeader)
    (hdec : d.decoder.isSome = true) {page : lib.Page} {unread : List lib.Page}
    (hpages : s.pages = page :: unread)
    (hother : ∀ stream, d.oggStream = some stream → lib.serialno page ≠ stream.serialno) :
    PageRead isHeader d page unread := by
  obtain ⟨first, rest, hfirst, hbos, hrest, hanswers⟩ := hs.pages
  obtain ⟨rfl, rfl⟩ := List.cons.inj (hpages.symm.trans hfirst)
  have hinit : (d.firstPage page).newStream page = d.initStream (lib.serialno page) := by
    cases hstream : d.oggStream with
    | none =>
      -- the stream opened for the page has its serial number, so it stays
      simp only [PageDecoder.firstPage, hstream, newStream, PageDecoder.initStream,
        OggStream.init, ne_eq, not_true_eq_false, and_false, if_false]
    | some stream =>
      have hnew : lib.bos page = true ∧ lib.serialno page ≠ stream.serialno :=
        ⟨hbos, hother stream hstream⟩
      simp only [PageDecoder.firstPage, hstream, newStream, if_pos hnew]
  have hopened : ((d.firstPage page).newStream page).oggStream =
      some (OggStream.init lib (lib.serialno page)) := by
    rw [hinit]
    rfl
  refine Reading.handlePage hopened rfl rfl hrest ?_
  rw [hinit]
  rw [hpages] at hanswers
  exact ⟨s.packets, hanswers, Ahead.initStream hs hdec _⟩

/-- Another page of the open stream. -/
theorem Reading.nextPage {stream : OggStream lib} {page : lib.Page} {unread : List lib.Page}
    (hstream : d.oggStream = some stream) (h : Reading isHeader d stream (page :: unread)) :
    PageRead isHeader d page unread := by
  obtain ⟨hbos, hserial⟩ := h.pages page List.mem_cons_self
  have hkeep : (d.firstPage page).newStream page = d := by
    have hold : ¬ (lib.bos page = true ∧ lib.serialno page ≠ stream.serialno) := by
      rintro ⟨htrue, -⟩
      rw [hbos] at htrue
      exact Bool.false_ne_true htrue
    simp only [PageDecoder.firstPage, hstream, newStream, if_neg hold]
  have hstream' : ((d.firstPage page).newStream page).oggStream = some stream := by
    rw [hkeep]
    exact hstream
  refine Reading.handlePage hstream' hserial h.queue ?_ ?_
  · intro p hp
    exact h.pages p (List.mem_cons_of_mem page hp)
  · rw [hkeep]
    exact h.ahead

/-! ### Runs -/

/-- Where the processor stands in the audio: `opened` is the serial number of
its stream, and `rest` are the pages that are still to come. -/
structure Standing (isHeader : lib.Packet → Bool) (d : PageDecoder lib opus)
    (opened : Option Int32) (rest : List lib.Page) : Prop where
  decoder : d.decoder.isSome = true
  opened : d.oggStream.map OggStream.serialno = opened
  rest : ∃ (unread : List lib.Page) (later : List (LogicalStream lib)),
    rest = unread ++ later.flatMap LogicalStream.pages ∧
    (∀ s ∈ later, s.WellFormed isHeader) ∧ (∀ page ∈ unread, lib.bos page = false) ∧
    ∀ stream, d.oggStream = some stream → Reading isHeader d stream unread

/-- Behind a page the processor stands in the stream of that page. -/
theorem PageRead.standing {page : lib.Page} {unread : List lib.Page}
    {later : List (LogicalStream lib)} (h : PageRead isHeader d page unread)
    (hdec : d.decoder.isSome = true) (hlater : ∀ s ∈ later, s.WellFormed isHeader)
    (hunread : ∀ page ∈ unread, lib.bos page = false) :
    Standing isHeader (d.handlePage page).1 (some (lib.serialno page))
      (unread ++ later.flatMap LogicalStream.pages) := by
  obtain ⟨stream, hstream, hserial, hreading⟩ := h.stream
  refine ⟨decoder_handlePage d page hdec, ?_, unread, later, rfl, hlater, hunread, ?_⟩
  · rw [hstream, Option.map_some, hserial]
  · intro stream' hstream'
    obtain rfl := Option.some.inj (hstream.symm.trans hstream')
    exact hreading

/-- **One page** of separated audio. -/
theorem Standing.page {opened : Option Int32} {page : lib.Page} {rest : List lib.Page}
    {es : List (OggEvent lib)} (h : Standing isHeader d opened (page :: rest))
    (hsep : Separated lib opened (.page page :: es)) :
    (d.handlePage page).2.map Decoded.packet =
        (d.completed page).filter (fun p => !isHeader p) ∧
      Standing isHeader (d.handlePage page).1 (some (lib.serialno page)) rest ∧
      Separated lib (some (lib.serialno page)) es := by
  obtain ⟨unread, later, hrest, hlater, hunread, hreading⟩ := h.rest
  have hes : Separated lib (some (lib.serialno page)) es := by
    cases opened with
    | none => exact hsep.2
    | some n => exact hsep.2
  cases unread with
  | nil =>
    -- the page begins the next stream
    cases later with
    | nil => cases hrest
    | cons s later =>
      have hs := hlater s List.mem_cons_self
      obtain ⟨first, others, hpages, hbos, hothers, -⟩ := hs.pages
      rw [List.nil_append, List.flatMap_cons, hpages, List.cons_append] at hrest
      obtain ⟨rfl, rfl⟩ := List.cons.inj hrest
      have hother : ∀ stream, d.oggStream = some stream →
          lib.serialno page ≠ stream.serialno := by
        intro stream hstream
        have hopened := h.opened
        rw [hstream, Option.map_some] at hopened
        rw [← hopened] at hsep
        exact hsep.1 hbos
      have hread := Reading.firstPage hs h.decoder hpages hother
      refine ⟨hread.decoded, hread.standing h.decoder ?_ ?_, hes⟩
      · intro t ht
        exact hlater t (List.mem_cons_of_mem s ht)
      · intro p hp
        exact (hothers p hp).1
  | cons next unread =>
    rw [List.cons_append] at hrest
    obtain ⟨rfl, rfl⟩ := List.cons.inj hrest
    have hnot := hunread page List.mem_cons_self
    cases hstream : d.oggStream with
    | none =>
      -- after a reset only a BOS page may come
      have hopened := h.opened
      rw [hstream, Option.map_none] at hopened
      rw [← hopened] at hsep
      exact absurd (hnot.symm.trans hsep.1) Bool.false_ne_true
    | some stream =>
      have hread := Reading.nextPage hstream (hreading stream hstream)
      refine ⟨hread.decoded, hread.standing h.decoder hlater ?_, hes⟩
      intro p hp
      exact hunread p (List.mem_cons_of_mem page hp)

/-- The pages of a message. -/
theorem Standing.pages {opened : Option Int32} {pages rest : List lib.Page}
    {es : List (OggEvent lib)} (h : Standing isHeader d opened (pages ++ rest))
    (hsep : Separated lib opened (pages.map .page ++ es)) :
    (runAll PageDecoder.handlePage d pages).2.map Decoded.packet =
        (d.completedAll pages).filter (fun p => !isHeader p) ∧
      ∃ opened', Standing isHeader (runAll PageDecoder.handlePage d pages).1 opened' rest ∧
        Separated lib opened' es := by
  induction pages generalizing d opened with
  | nil => exact ⟨rfl, opened, h, hsep⟩
  | cons page pages ih =>
    obtain ⟨hout, hnext, hsep'⟩ := Standing.page h hsep
    obtain ⟨hrest, opened', hend, hes⟩ := ih hnext hsep'
    rw [runAll_cons]
    refine ⟨?_, opened', hend, hes⟩
    rw [List.map_append, hout, hrest, ← List.filter_append]
    rfl

end PageDecoder

namespace OpusProcessor

variable {bytes : lib.Page → Bytes} {isHeader : lib.Packet → Bool} {all : List lib.Page}
  {proc : OpusProcessor lib opus}

/-- A message of whole pages is handled page by page. -/
theorem opusProcDecodeOgg_pages (hlib : lib.Framed bytes all) (hdec : proc.decoder.isSome = true)
    {since pages : List lib.Page}
    (hsync : proc.oggSync = ⟨since.flatMap bytes, since.length⟩)
    (hall : ∀ page ∈ since ++ pages, page ∈ all) :
    proc.opusProcDecodeOgg true (pages.flatMap bytes) =
      (⟨(runAll PageDecoder.handlePage proc.toPageDecoder pages).1,
        ⟨(since ++ pages).flatMap bytes, (since ++ pages).length⟩⟩,
        (runAll PageDecoder.handlePage proc.toPageDecoder pages).2) := by
  obtain ⟨d, sync⟩ := proc
  obtain rfl : sync = _ := hsync
  cases pages with
  | nil =>
    rw [List.flatMap_nil, opusProcDecodeOgg, if_pos (Or.inl rfl), List.append_nil]
    rfl
  | cons page pages =>
    have hguard : ¬ ((page :: pages).flatMap bytes = [] ∨ d.decoder.isNone = true) := by
      rintro (hnil | hnone)
      · rw [List.flatMap_cons, List.append_eq_nil_iff] at hnil
        exact hlib.ne page (hall page (List.mem_append_right _ List.mem_cons_self)) hnil.1
      · rw [Option.isNone_iff_eq_none.mp hnone] at hdec
        exact Bool.false_ne_true hdec
    have hfound := hlib.pageout (since ++ page :: pages) hall
    rw [opusProcDecodeOgg, if_neg hguard, if_neg Bool.true_eq_false.mp]
    simp only [← List.flatMap_append, hfound]
    -- what was found before has been taken already
    rw [List.map_append, List.drop_append_of_le_length (by rw [List.length_map]),
      show since.length = (since.map some).length from (List.length_map some).symm,
      List.drop_length, List.nil_append, whileItem_map_some, List.length_map, List.length_append]

/-- What holds between two calls: where the processor stands, and that the
sync layer holds the pages since the last reset, all of which were found. -/
structure Between (bytes : lib.Page → Bytes) (isHeader : lib.Packet → Bool)
    (all : List lib.Page) (proc : OpusProcessor lib opus) (opened : Option Int32)
    (rest : List lib.Page) : Prop where
  standing : PageDecoder.Standing isHeader proc.toPageDecoder opened rest
  sync : ∃ since : List lib.Page, proc.oggSync = ⟨since.flatMap bytes, since.length⟩ ∧
    ∀ page ∈ since, page ∈ all

/-- **One call.** -/
theorem Between.call (hlib : lib.Framed bytes all) {c : OggCall lib} {opened : Option Int32}
    {rest : List lib.Page} {es : List (OggEvent lib)}
    (h : Between bytes isHeader all proc opened (c.pages ++ rest))
    (hall : ∀ page ∈ c.pages, page ∈ all) (hsep : Separated lib opened (c.events ++ es)) :
    HeadersSkipped bytes isHeader proc c ∧
      ∃ opened', Between bytes isHeader all (proc.call bytes c).1 opened' rest ∧
        Separated lib opened' es := by
  obtain ⟨since, hsync, hsince⟩ := h.sync
  cases c with
  | decode pages =>
    obtain ⟨hout, opened', hend, hes⟩ := PageDecoder.Standing.pages h.standing hsep
    have hboth : ∀ page ∈ since ++ pages, page ∈ all := by
      intro page hmem
      obtain hmem | hmem := List.mem_append.mp hmem
      · exact hsince page hmem
      · exact hall page hmem
    have hcall := opusProcDecodeOgg_pages hlib h.standing.decoder hsync hboth
    unfold HeadersSkipped OpusProcessor.call
    simp only [hcall]
    exact ⟨hout, opened', ⟨hend, since ++ pages, rfl, hboth⟩, hes⟩
  | reset =>
    have hdec : (proc.opusProcResetOgg).decoder.isSome = true := by
      rw [← h.standing.decoder]
      exact Option.isSome_map
    obtain ⟨unread, later, hrest, hlater, hunread, -⟩ := h.standing.rest
    refine ⟨rfl, none, ⟨⟨hdec, rfl, unread, later, hrest, hlater, hunread, nofun⟩, [], rfl, nofun⟩,
      ?_⟩
    cases opened with
    | none => exact hsep
    | some n => exact hsep

/-- The run lemma. -/
theorem Between.calls (hlib : lib.Framed bytes all) {calls : List (OggCall lib)}
    {opened : Option Int32} {rest : List lib.Page}
    (h : Between bytes isHeader all proc opened (calls.flatMap OggCall.pages ++ rest))
    (hall : ∀ page ∈ calls.flatMap OggCall.pages, page ∈ all)
    (hsep : Separated lib opened (calls.flatMap OggCall.events))
    (before : List (OggCall lib)) (c : OggCall lib) (after : List (OggCall lib))
    (hcalls : calls = before ++ c :: after) :
    HeadersSkipped bytes isHeader (runAll (OpusProcessor.call bytes) proc before).1 c := by
  induction before generalizing proc opened calls with
  | nil =>
    subst hcalls
    rw [List.nil_append, List.flatMap_cons, List.append_assoc] at h
    rw [List.nil_append, List.flatMap_cons] at hall hsep
    exact (Between.call hlib h (fun p hp => hall p (List.mem_append_left _ hp)) hsep).1
  | cons first before ih =>
    subst hcalls
    rw [List.cons_append, List.flatMap_cons, List.append_assoc] at h
    rw [List.cons_append, List.flatMap_cons] at hall hsep
    obtain ⟨-, opened', hnext, hsep'⟩ :=
      Between.call hlib h (fun p hp => hall p (List.mem_append_left _ hp)) hsep
    rw [runAll_cons]
    exact ih hnext (fun p hp => hall p (List.mem_append_right _ hp)) hsep' rfl

end OpusProcessor

/-- **Exactly the headers are skipped** in every run in which the page after a
reset is a BOS page and a BOS page that follows another page has another serial
number. -/
theorem headers_skipped (bytes : lib.Page → Bytes) (isHeader : lib.Packet → Bool)
    (streams : List (LogicalStream lib)) (proc : OpusProcessor lib opus)
    (hlib : lib.Framed bytes (streams.flatMap LogicalStream.pages))
    (hstreams : ∀ s ∈ streams, s.WellFormed isHeader) (hdec : proc.decoder.isSome = true)
    (calls : List (OggCall lib))
    (hlossless : calls.flatMap OggCall.pages <+: streams.flatMap LogicalStream.pages)
    (hsep : Separated lib none (calls.flatMap OggCall.events)) :
    ∀ before c after, calls = before ++ c :: after →
      HeadersSkipped bytes isHeader
        (runAll (OpusProcessor.call bytes) proc.opusProcResetOgg before).1 c := by
  obtain ⟨rest, hrest⟩ := hlossless
  have hreset : proc.opusProcResetOgg.decoder.isSome = true := by
    rw [← hdec]
    exact Option.isSome_map
  have hstart : OpusProcessor.Between bytes isHeader (streams.flatMap LogicalStream.pages)
      proc.opusProcResetOgg none (calls.flatMap OggCall.pages ++ rest) :=
    ⟨⟨hreset, rfl, [], streams, hrest, hstreams, nofun, nofun⟩, [], rfl, nofun⟩
  have hall : ∀ page ∈ calls.flatMap OggCall.pages,
      page ∈ streams.flatMap LogicalStream.pages := by
    intro page hmem
    rw [← hrest]
    exact List.mem_append_left rest hmem
  intro before c after hcalls
  exact hstart.calls hlib hall hsep before c after hcalls

/-! ### A reply that is played twice -/

/-- The pages of the reply. -/
inductive ReplyPage where
  | head
  | tags
  | audio
  deriving DecidableEq

namespace ReplyPage

def bytes : ReplyPage → Bytes
  | head => headPage
  | tags => tagsPage
  | audio => audioPage

/-- What stands in the page. -/
def page : ReplyPage → WholePage
  | head => ⟨1, true, 0, [headPage.drop 28]⟩
  | tags => ⟨1, false, 1, [tagsPage.drop 28]⟩
  | audio => ⟨1, false, 2, [[0x48]]⟩

/-- The page that the bytes begin with. -/
def next (b : Bytes) : Option ReplyPage :=
  if headPage.isPrefixOf b then some head
  else if tagsPage.isPrefixOf b then some tags
  else if audioPage.isPrefixOf b then some audio
  else none

/-- The pages that the bytes consist of. -/
def sync : ℕ → Bytes → List (Option ReplyPage)
  | 0, _ => []
  | fuel + 1, b =>
    match next b with
    | some p => some p :: sync fuel (b.drop p.bytes.length)
    | none => []

theorem next_append (p : ReplyPage) (rest : Bytes) : next (p.bytes ++ rest) = some p := by
  cases p <;> rfl

theorem sync_pages (pages : List ReplyPage) {fuel : ℕ} (h : pages.length ≤ fuel) :
    sync fuel (pages.flatMap bytes) = pages.map some := by
  induction pages generalizing fuel with
  | nil => cases fuel <;> rfl
  | cons p pages ih =>
    obtain ⟨fuel, rfl⟩ : ∃ n, fuel = n + 1 := Nat.exists_eq_add_one.mpr (by simp at h; omega)
    rw [List.flatMap_cons, sync, next_append, List.map_cons]
    simp only [List.drop_left]
    rw [ih (Nat.le_of_succ_le_succ h)]

theorem length_le (pages : List ReplyPage) : pages.length ≤ (pages.flatMap bytes).length := by
  induction pages with
  | nil => exact Nat.le_refl 0
  | cons p pages ih =>
    have hpos : 1 ≤ p.bytes.length := by cases p <;> decide
    rw [List.flatMap_cons, List.length_append, List.length_cons]
    omega

end ReplyPage

/-- libogg on these pages, in any order. -/
abbrev LibOgg.replayed : LibOgg where
  Page := ReplyPage
  Packet := Bytes
  -- the number of the page expected next
  Lacing := Option ℕ
  serialno p := p.page.serialno
  bos p := p.page.bos
  pageout b := ReplyPage.sync b.length b
  start _ := none
  pagein expected p :=
    (some (p.page.pageno + 1),
      (if expected = none ∨ expected = some p.page.pageno then [] else [none]) ++
        p.page.packets.map some)

theorem LibOgg.replayed_framed (all : List ReplyPage) :
    LibOgg.replayed.Framed ReplyPage.bytes all where
  ne := by
    intro p _
    cases p <;> exact List.cons_ne_nil _ _
  pageout := by
    intro pages _
    exact ReplyPage.sync_pages pages (ReplyPage.length_le pages)

/-- The packet is OpusHead or OpusTags. -/
def replyHeader (packet : Bytes) : Bool := packet != [0x48]

/-- The reply as a logical stream. -/
def replyLogical : LogicalStream LibOgg.replayed where
  pages := [.head, .tags, .audio]
  opusHead := headPage.drop 28
  opusTags := tagsPage.drop 28
  audio := [[0x48]]

theorem replyLogical_wellFormed : replyLogical.WellFormed replyHeader where
  pages := ⟨.head, [.tags, .audio], rfl, rfl, by decide, rfl⟩
  opusHead := by decide
  opusTags := by decide
  audio := by decide

/-- The reply, a reset and the reply again. -/
theorem headers_skipped_resetBetween :
    HeadersSkipped ReplyPage.bytes replyHeader
      (runAll (OpusProcessor.call ReplyPage.bytes)
        (OpusProcessor.fresh LibOgg.replayed).opusProcResetOgg
          [.decode [.head, .tags, .audio], .reset]).1 (.decode [.head, .tags, .audio]) :=
  headers_skipped ReplyPage.bytes replyHeader [replyLogical, replyLogical]
    (OpusProcessor.fresh LibOgg.replayed) (LibOgg.replayed_framed _)
    (by
      intro s hs
      obtain rfl : s = replyLogical := by simpa using hs
      exact replyLogical_wellFormed)
    rfl [.decode [.head, .tags, .audio], .reset, .decode [.head, .tags, .audio]]
    (List.prefix_rfl) ⟨rfl, nofun, nofun, rfl, nofun, nofun, trivial⟩ _ _ [] rfl

/-- After a reset in the middle of the reply its audio packet is not decoded,
and without a reset the OpusHead packet of the second reply is. -/
theorem replayedReply_decodesHeaders :
    LibOgg.replayed.Framed ReplyPage.bytes [.head, .tags, .audio] ∧
      replyLogical.WellFormed replyHeader ∧
      ¬ HeadersSkipped ReplyPage.bytes replyHeader
        (runAll (OpusProcessor.call ReplyPage.bytes)
          (OpusProcessor.fresh LibOgg.replayed).opusProcResetOgg
            [.decode [.head, .tags], .reset]).1 (.decode [.audio]) ∧
      ¬ HeadersSkipped ReplyPage.bytes replyHeader
        (runAll (OpusProcessor.call ReplyPage.bytes)
          (OpusProcessor.fresh LibOgg.replayed).opusProcResetOgg
            [.decode [.head, .tags, .audio]]).1 (.decode [.head, .tags]) := by
  refine ⟨LibOgg.replayed_framed _, replyLogical_wellFormed, ?_, ?_⟩
  · unfold HeadersSkipped
    decide +kernel
  · unfold HeadersSkipped
    decide +kernel

end BoxDoubao
