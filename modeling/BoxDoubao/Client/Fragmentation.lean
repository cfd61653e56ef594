import BoxDoubao.Client.Assembly

/-!
# Messages of several frames

A message may be sent as a first frame with opcode `0x01` or `0x02` and
continuation frames with opcode `0x00`. The handler takes data frames of all
three opcodes, but it decides that a message is complete from the position of
the piece in its *frame*, so it parses and empties the buffer at the end of
every frame.

`receiver_fragmented_iff` says for which messages and fragmentations `on_recv`
is still called once, at the end, with the message: those where the parser
rejects every frame but the last and reads the last frame alone as what it
reads the message as.
-/

namespace BoxDoubao

open CMemory

/-- What the parser reads a message as when every allocation succeeds. -/
def parse (tinfl : Tinfl) (m : Bytes) : Option ParsedResponse :=
  (protocolParseResponse tinfl Heap.unlimited m).1.toOption

/-- A message in two or more frames. -/
structure Fragmentation (m : Bytes) where
  first : Frame
  middle : List Frame
  last : Frame
  first_opCode : first.opCode = 0x01 ∨ first.opCode = 0x02
  middle_opCode : ∀ f ∈ middle, f.opCode = 0x00
  last_opCode : last.opCode = 0x00
  joined : (first :: middle ++ [last]).flatMap Frame.payload = m

namespace Fragmentation

variable {m : Bytes} (F : Fragmentation m)

/-- Every frame but the last. -/
def init : List Frame := F.first :: F.middle

/-- The frames in the order in which they are sent. -/
def frames : List Frame := F.init ++ [F.last]

theorem events_frames :
    F.frames.flatMap Frame.events = F.init.flatMap Frame.events ++ F.last.events := by
  rw [frames, List.flatMap_append, List.flatMap_singleton]

/-- The events of the frames end with the last event of the last frame. -/
theorem events_frames_last : F.frames.flatMap Frame.events =
    (F.init.flatMap Frame.events ++ F.last.frontEvents) ++ [F.last.lastEvent] := by
  rw [F.events_frames, F.last.events_eq, List.append_assoc]

end Fragmentation

/-- `on_recv` is called exactly once, with `r`, and not before the last data
frame event of `es` is handled. -/
def CallsOnceAtEnd (tinfl : Tinfl) (c : DoubaoWsClient) (es : List (Alloc × WsEvent))
    (r : ParsedResponse) : Prop :=
  ∀ es₁ es₂, es = es₁ ++ es₂ → ∃ c₁,
    (receiver tinfl).run c es₁ = some (c₁, if es₂.any isFrameEvent then [] else [r])

theorem Frame.response_eq_parse (tinfl : Tinfl) (f : Frame)
    (hheap : f.lastAlloc.heap.Generous) : f.response tinfl = parse tinfl f.payload :=
  congrArg Except.toOption
    (protocolParseResponse_generous tinfl hheap Heap.generous_unlimited f.payload)

theorem Frame.lastEvent_mem (f : Frame) : f.lastEvent ∈ f.events := by
  rw [f.events_eq]
  exact List.mem_append_right _ List.mem_cons_self

theorem any_isFrameEvent (es : List (Alloc × WsEvent)) :
    es.any isFrameEvent = true ↔ es.filter isFrameEvent ≠ [] := by
  rw [List.any_eq_true, Ne, List.filter_eq_nil_iff]
  push Not
  rfl

section Fragmented

variable {tinfl : Tinfl} {c : DoubaoWsClient} {m : Bytes} {r : ParsedResponse}
  {F : Fragmentation m} {es : List (Alloc × WsEvent)}

/-- Where the frames before the last are rejected and the last one gives `r`,
nothing is delivered before the last event, which delivers `r`. -/
theorem callsOnceAtEnd_of_responses (h : Holds c [])
    (hes : es.filter isFrameEvent = F.frames.flatMap Frame.events)
    (hrealloc : ∀ e ∈ es, e.1.realloc = true)
    (hinit : ∀ f ∈ F.init, f.response tinfl = none) (hlast : F.last.response tinfl = some r) :
    CallsOnceAtEnd tinfl c es r := by
  have hnone : F.init.filterMap (Frame.response tinfl) = [] := List.filterMap_eq_nil_iff.mpr hinit
  -- before its last event the last frame is only stored
  have hfront : (assembler tinfl).run []
      (F.init.flatMap Frame.events ++ F.last.frontEvents) = some (F.last.front, []) := by
    have hrun := assembler_run_frames tinfl F.init
    rw [hnone] at hrun
    exact Transducer.run_append hrun (assembler_run_frontEvents tinfl F.last)
  have hall : (assembler tinfl).run [] (F.frames.flatMap Frame.events) = some ([], [r]) := by
    rw [assembler_run_frames, Fragmentation.frames, List.filterMap_append, hnone,
      List.filterMap_cons_some hlast]
    rfl
  intro es₁ es₂ hsplit
  subst hsplit
  have hrealloc₁ : ∀ e ∈ es₁, e.1.realloc = true :=
    fun e he => hrealloc e (List.mem_append_left es₂ he)
  rw [List.filter_append] at hes
  by_cases hmore : es₂.any isFrameEvent = true
  · rw [if_pos hmore]
    -- the events so far are among those before the last one
    have hne := (any_isFrameEvent es₂).mp hmore
    obtain ⟨xs, x, hxs⟩ := List.eq_nil_or_concat (es₂.filter isFrameEvent) |>.resolve_left hne
    rw [hxs, List.concat_eq_append, F.events_frames_last, ← List.append_assoc] at hes
    obtain ⟨hpre, -⟩ := List.append_inj' hes rfl
    rw [← hpre] at hfront
    obtain ⟨acc, o, hrun, ho⟩ := Transducer.run_prefix hfront
    obtain rfl : o = [] := List.prefix_nil.mp ho
    rw [assembler_filter] at hrun
    obtain ⟨c₁, hc₁, -⟩ := receiver_refines_assembler h hrealloc₁ hrun
    exact ⟨c₁, hc₁⟩
  · rw [if_neg hmore]
    -- all data frame events have been handled
    have hnil : es₂.filter isFrameEvent = [] :=
      Classical.byContradiction fun hne => hmore ((any_isFrameEvent es₂).mpr hne)
    rw [hnil, List.append_nil] at hes
    rw [← hes, assembler_filter] at hall
    obtain ⟨c₁, hc₁, -⟩ := receiver_refines_assembler h hrealloc₁ hall
    exact ⟨c₁, hc₁⟩

/-- Where nothing is delivered before the last event and `r` with it, the
frames before the last are rejected and the last one gives `r`. -/
theorem responses_of_callsOnceAtEnd (h : Holds c [])
    (hes : es.filter isFrameEvent = F.frames.flatMap Frame.events)
    (hrealloc : ∀ e ∈ es, e.1.realloc = true) (hcalls : CallsOnceAtEnd tinfl c es r) :
    (∀ f ∈ F.init, f.response tinfl = none) ∧ F.last.response tinfl = some r := by
  rw [F.events_frames] at hes
  obtain ⟨es₁, es₂, rfl, hes₁, hes₂⟩ := List.filter_eq_append_iff.mp hes
  -- at the end of the last frame but one nothing has been delivered
  have hmore : es₂.any isFrameEvent = true := by
    rw [any_isFrameEvent, hes₂]
    exact F.last.events_ne
  obtain ⟨c₁, hrun₁⟩ := hcalls es₁ es₂ rfl
  rw [if_pos hmore] at hrun₁
  have habs₁ := assembler_run_frames tinfl F.init
  rw [← hes₁, assembler_filter] at habs₁
  obtain ⟨c₁', hrun₁', -⟩ := receiver_refines_assembler h
    (fun e he => hrealloc e (List.mem_append_left es₂ he)) habs₁
  rw [hrun₁, Option.some.injEq, Prod.mk.injEq] at hrun₁'
  have hinit : F.init.filterMap (Frame.response tinfl) = [] := hrun₁'.2.symm
  refine ⟨List.filterMap_eq_nil_iff.mp hinit, ?_⟩
  -- so what has been delivered at the end is the last frame's
  obtain ⟨c₂, hrun₂⟩ := hcalls (es₁ ++ es₂) [] (List.append_nil _).symm
  have habs₂ := assembler_run_frames tinfl F.frames
  rw [F.events_frames, ← hes, assembler_filter] at habs₂
  obtain ⟨c₂', hrun₂', -⟩ := receiver_refines_assembler h hrealloc habs₂
  rw [hrun₂, Option.some.injEq, Prod.mk.injEq] at hrun₂'
  have hout := hrun₂'.2
  rw [Fragmentation.frames, List.filterMap_append, hinit, List.nil_append] at hout
  cases hlast : F.last.response tinfl with
  | none =>
    rw [List.filterMap_cons_none hlast] at hout
    cases hout
  | some r' =>
    rw [List.filterMap_cons_some hlast] at hout
    obtain rfl : r = r' := (List.cons.inj hout).1
    rfl

end Fragmented

/-- **When a fragmented message is reassembled.** For a message the parser
reads as `r`, in two or more frames cut into pieces in any way, with other
events anywhere: `on_recv` is called exactly once, at the last piece of the
last frame, with `r`, if and only if the parser rejects every frame but the
last and reads the last frame alone as `r`. -/
theorem receiver_fragmented_iff (tinfl : Tinfl) {c : DoubaoWsClient}
    (hbuf : c.recvBuf.length = c.recvBufCap) (hcap : c.recvBufCap < 4294967296)
    (hempty : c.recvBufLen = 0) (hcb : c.onRecv = true)
    {m : Bytes} {r : ParsedResponse} (hm : parse tinfl m = some r) (F : Fragmentation m)
    (es : List (Alloc × WsEvent)) (hes : es.filter isFrameEvent = F.frames.flatMap Frame.events)
    (halloc : ∀ e ∈ es, e.1.realloc = true ∧ e.1.heap.Generous) :
    CallsOnceAtEnd tinfl c es r ↔
      (∀ f ∈ F.init, parse tinfl f.payload = none) ∧
        parse tinfl F.last.payload = parse tinfl m := by
  have hholds : Holds c [] := Holds.of_empty hbuf hcap hempty hcb
  have hrealloc : ∀ e ∈ es, e.1.realloc = true := fun e he => (halloc e he).1
  -- with allocations granted a frame's response depends on its bytes alone
  have hresp : ∀ f ∈ F.frames, f.response tinfl = parse tinfl f.payload := by
    intro f hf
    refine f.response_eq_parse tinfl (halloc f.lastEvent ?_).2
    have hmem : f.lastEvent ∈ es.filter isFrameEvent := by
      rw [hes]
      exact List.mem_flatMap.mpr ⟨f, hf, f.lastEvent_mem⟩
    exact List.mem_of_mem_filter hmem
  have hlast := hresp F.last (List.mem_append_right _ List.mem_cons_self)
  rw [hm, ← hlast]
  constructor
  · intro hcalls
    obtain ⟨hinit, hr⟩ := responses_of_callsOnceAtEnd hholds hes hrealloc hcalls
    exact ⟨fun f hf => (hresp f (List.mem_append_left _ hf)).symm.trans (hinit f hf), hr⟩
  · rintro ⟨hinit, hr⟩
    exact callsOnceAtEnd_of_responses hholds hes hrealloc
      (fun f hf => (hresp f (List.mem_append_left _ hf)).trans (hinit f hf)) hr

/-! ### A split response -/

/-- A full response with the payload `ab`. -/
def replyMessage : Bytes := [0x11, 0x90, 0x10, 0, 0, 0, 0, 0, 0, 0, 0, 2, 97, 98]

/-- A frame posted in one piece. -/
def Frame.whole (opCode : UInt8) (payload : Bytes)
    (isData : opCode = 0x01 ∨ opCode = 0x02 ∨ opCode = 0x00) (ne : payload ≠ [])
    (fits : (joinPieces [(Alloc.granting, payload)]).length < 2147483648) : Frame :=
  ⟨opCode, [(Alloc.granting, payload)], isData, List.cons_ne_nil _ _,
    fun p hp => by rw [List.mem_singleton.mp hp]; exact ne, fits⟩

/-- The response, with its last byte in a continuation frame. -/
def splitReply : Fragmentation replyMessage where
  first := Frame.whole 0x02 (replyMessage.take 13) replyFrame.isData (by decide) (by decide)
  middle := []
  last := Frame.whole 0x00 [98] (by decide) (by decide) (by decide)
  first_opCode := Or.inr rfl
  middle_opCode := nofun
  last_opCode := rfl
  joined := by decide

/-- The record the whole message stands for. -/
def replyRecord : ParsedResponse :=
  { ParsedResponse.ofType msgServerFullResponse with
    payloadSize := 2
    payloadData := some [97, 98]
    payloadDataLen := 2 }

/-- The first frame is parsed on its own: the callback gets a payload of one
byte, where the message carries two. -/
theorem splitReply_not_reassembled :
    parse (fun _ _ _ => none) replyMessage = some replyRecord ∧
      ¬ CallsOnceAtEnd (fun _ _ _ => none) smallClient
        (splitReply.frames.flatMap Frame.events) replyRecord := by
  refine ⟨by decide +kernel, fun h => ?_⟩
  obtain ⟨c, hrun⟩ := h _ [] (List.append_nil _).symm
  have hcalls : ((receiver fun _ _ _ => none).run smallClient
      (splitReply.frames.flatMap Frame.events)).map Prod.snd ≠ some [replyRecord] := by
    decide +kernel
  rw [hrun] at hcalls
  exact hcalls rfl

theorem receiver_fragmented_iff_splitReply :
    CallsOnceAtEnd (fun _ _ _ => none) smallClient
        (splitReply.frames.flatMap Frame.events) replyRecord ↔
      (∀ f ∈ splitReply.init, parse (fun _ _ _ => none) f.payload = none) ∧
        parse (fun _ _ _ => none) splitReply.last.payload =
          parse (fun _ _ _ => none) replyMessage :=
  receiver_fragmented_iff (fun _ _ _ => none) rfl (by decide) rfl rfl
    (by decide +kernel) splitReply _ rfl fun e he => by
      have he' : e ∈ [splitReply.first.lastEvent, splitReply.last.lastEvent] := he
      obtain rfl | rfl := List.mem_pair.mp he' <;> exact ⟨rfl, Heap.generous_unlimited⟩

end BoxDoubao
