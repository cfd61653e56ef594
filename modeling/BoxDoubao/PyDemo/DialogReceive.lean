import BoxDoubao.PyDemo.DialogOrder

/-!
# What the Python demo does with the server's messages

The audio goes through a queue from `receive_loop` to the player thread. Every
chunk leaves the queue once, in order (`audio_conserved`), and once the handler
of event 450 has emptied it, only the chunk the player already holds is older
than what is played from then on (`bargeIn_clears`).

`receive_loop` ends with an exception on every error message of the server:
`parse_response` gives it no `message_type`, so the branch that would report it
is not reached (`receiveLoop_ends_iff`).
-/

namespace BoxDoubao

open CMemory PyBytes

namespace PyDemo

variable {J : Type} {ttsType : J → Option (Option String)} {mod : Mod} {acts : List (DialogAct J)}
  {s s' : DialogSession} {a : DialogAct J}

/-! ### The audio -/

/-- The chunk the player thread holds. -/
def DialogSession.hand (s : DialogSession) : List Bytes :=
  match s.player with
  | .writing chunk => [chunk]
  | _ => []

/-- What a step can do to the audio. -/
inductive AudioStep (s s' : DialogSession) : Prop where
  | aside (queue : s'.audioQueue = s.audioQueue) (received : s'.received = s.received)
      (left : s'.left = s.left) (hand : s'.hand = s.hand) (written : s'.written = s.written)
      (buffer : s.mod ≠ .audioFile → s'.audioBuffer = s.audioBuffer)
  | put (chunk : Bytes) (queue : s'.audioQueue = s.audioQueue ++ [chunk])
      (received : s'.received = s.received ++ [chunk]) (left : s'.left = s.left)
      (hand : s'.hand = s.hand) (written : s'.written = s.written)
      (buffer : s'.audioBuffer = s.audioBuffer ++ chunk)
  | drop (chunk : Bytes) (queue : s.audioQueue = chunk :: s'.audioQueue)
      (received : s'.received = s.received) (left : s'.left = s.left ++ [(chunk, false)])
      (hand : s'.hand = s.hand) (written : s'.written = s.written)
      (buffer : s'.audioBuffer = s.audioBuffer)
  | take (chunk : Bytes) (queue : s.audioQueue = chunk :: s'.audioQueue)
      (received : s'.received = s.received) (left : s'.left = s.left ++ [(chunk, true)])
      (before : s.hand = []) (hand : s'.hand = [chunk]) (written : s'.written = s.written)
      (buffer : s'.audioBuffer = s.audioBuffer)
  | write (ok : Bool) (queue : s'.audioQueue = s.audioQueue) (received : s'.received = s.received)
      (left : s'.left = s.left) (hand : s'.hand = [])
      (written : s'.written = s.written ++ if ok then s.hand else [])
      (buffer : s'.audioBuffer = s.audioBuffer)

theorem AudioStep.refl (s : DialogSession) : AudioStep s s :=
  .aside rfl rfl rfl rfl rfl fun _ => rfl

/-- A step of `start` or of the input task. -/
theorem audioStep_of_eq (h : s'.audioQueue = s.audioQueue ∧ s'.received = s.received ∧
    s'.left = s.left ∧ s'.player = s.player ∧ s'.written = s.written ∧
    s'.audioBuffer = s.audioBuffer) : AudioStep s s' := by
  obtain ⟨hqueue, hreceived, hleft, hplayer, hwritten, hbuffer⟩ := h
  refine .aside hqueue hreceived hleft ?_ hwritten fun _ => hbuffer
  rw [DialogSession.hand, DialogSession.hand, hplayer]

theorem audioStep_putAudio (s : DialogSession) (chunk : Bytes) :
    AudioStep s (s.putAudio chunk) := by
  unfold DialogSession.putAudio
  split
  · exact .refl s
  · split
    -- a file's audio is recorded and not played
    next hmod => exact .aside rfl rfl rfl rfl rfl fun h => absurd hmod h
    next => exact .put chunk rfl rfl rfl rfl rfl rfl

theorem audioStep_handleServerResponse {response : PyResult J}
    (h : s.handleServerResponse ttsType response = .returned s') : AudioStep s s' := by
  unfold DialogSession.handleServerResponse at h
  split at h
  · cases h
    exact .refl s
  · split at h
    · cases h
    · cases h
      exact audioStep_putAudio s _
    · unfold DialogSession.handleEvent at h
      split at h
      · cases h
      · split at h
        · split at h
          · cases h
          · split at h
            · cases h
            · cases h
              exact .refl s
        · split at h <;> cases h <;> exact audioStep_of_eq ⟨rfl, rfl, rfl, rfl, rfl, rfl⟩
    · cases h
    · cases h
      exact .refl s

theorem audioStep_receiveResponse (answer : Option (PyResult J)) :
    AudioStep s (s.receiveResponse ttsType answer) := by
  cases answer with
  | none => exact audioStep_of_eq ⟨rfl, rfl, rfl, rfl, rfl, rfl⟩
  | some response =>
    rw [DialogSession.receiveResponse]
    cases hhandled : s.handleServerResponse ttsType response with
    | raised | clears => exact audioStep_of_eq ⟨rfl, rfl, rfl, rfl, rfl, rfl⟩
    | returned s₁ =>
      -- the loop goes on or ends without touching the audio
      have hsame : ∀ event, (s₁.afterHandling event).audioQueue = s₁.audioQueue ∧
          (s₁.afterHandling event).received = s₁.received ∧
          (s₁.afterHandling event).left = s₁.left ∧
          (s₁.afterHandling event).hand = s₁.hand ∧
          (s₁.afterHandling event).written = s₁.written ∧
          (s₁.afterHandling event).audioBuffer = s₁.audioBuffer := by
        intro event
        unfold DialogSession.afterHandling
        split
        · exact ⟨rfl, rfl, rfl, rfl, rfl, rfl⟩
        · split
          · split <;> exact ⟨rfl, rfl, rfl, rfl, rfl, rfl⟩
          · exact ⟨rfl, rfl, rfl, rfl, rfl, rfl⟩
      obtain ⟨hqueue, hreceived, hleft, hhand, hwritten, hbuffer⟩ := hsame response.event
      cases audioStep_handleServerResponse hhandled with
      | aside q r l p w b =>
        exact .aside (hqueue.trans q) (hreceived.trans r) (hleft.trans l) (hhand.trans p)
          (hwritten.trans w) fun hmod => hbuffer.trans (b hmod)
      | put chunk q r l p w b =>
        exact .put chunk (hqueue.trans q) (hreceived.trans r) (hleft.trans l) (hhand.trans p)
          (hwritten.trans w) (hbuffer.trans b)
      | drop chunk q r l p w b =>
        exact .drop chunk (by rw [q, hqueue]) (hreceived.trans r) (hleft.trans l) (hhand.trans p)
          (hwritten.trans w) (hbuffer.trans b)
      | take chunk q r l n p w b =>
        exact .take chunk (by rw [q, hqueue]) (hreceived.trans r) (hleft.trans l) n
          (hhand.trans p) (hwritten.trans w) (hbuffer.trans b)
      | write ok q r l p w b =>
        exact .write ok (hqueue.trans q) (hreceived.trans r) (hleft.trans l) (hhand.trans p)
          (hwritten.trans w) (hbuffer.trans b)

theorem audioStep_startStep {ok : Bool} (hstep : s.startStep ok = some s') : AudioStep s s' := by
  apply audioStep_of_eq
  unfold DialogSession.startStep DialogSession.createTasks DialogSession.send at hstep
  grind

theorem audioStep_inputStep {got : Got} (hstep : s.inputStep got = some s') : AudioStep s s' := by
  apply audioStep_of_eq
  unfold DialogSession.inputStep DialogSession.readStep DialogSession.send at hstep
  grind

/-- **What one step does to the audio.** -/
theorem audioStep_act (hstep : s.act ttsType a = some s') : AudioStep s s' := by
  cases a with
  | start ok => exact audioStep_startStep (Option.ite_none_right_eq_some.mp hstep).2
  | input got => exact audioStep_inputStep (Option.ite_none_right_eq_some.mp hstep).2
  | receive answer =>
    obtain ⟨-, hstep⟩ := Option.ite_none_right_eq_some.mp hstep
    obtain rfl := Option.some.inj hstep
    exact audioStep_receiveResponse answer
  | clearOne =>
    simp only [DialogSession.act] at hstep
    split at hstep
    next event chunk rest _ hqueue =>
      cases hstep
      exact .drop chunk hqueue rfl rfl rfl rfl rfl
    next => cases hstep
  | clearEnd =>
    simp only [DialogSession.act] at hstep
    split at hstep
    next event _ _ =>
      obtain rfl := Option.some.inj hstep
      unfold DialogSession.cleared
      split <;> exact audioStep_of_eq ⟨rfl, rfl, rfl, rfl, rfl, rfl⟩
    next => cases hstep
  | playerTest =>
    obtain ⟨htest, hstep⟩ := Option.ite_none_right_eq_some.mp hstep
    obtain rfl := Option.some.inj hstep
    refine .aside rfl rfl rfl ?_ rfl fun _ => rfl
    cases hplaying : s.isPlaying <;> simp [DialogSession.hand, htest]
  | playerGet =>
    simp only [DialogSession.act] at hstep
    split at hstep
    next chunk rest hgetting hqueue =>
      cases hstep
      exact .take chunk hqueue rfl rfl (by rw [DialogSession.hand, hgetting]) rfl rfl rfl
    next => cases hstep
  | playerTimeout =>
    obtain ⟨⟨hgetting, -⟩, hstep⟩ := Option.ite_none_right_eq_some.mp hstep
    obtain rfl := Option.some.inj hstep
    exact .aside rfl rfl rfl (by rw [DialogSession.hand, DialogSession.hand, hgetting]) rfl
      fun _ => rfl
  | playerWrite ok =>
    simp only [DialogSession.act] at hstep
    split at hstep
    next chunk hwriting =>
      cases hstep
      refine .write ok rfl rfl rfl rfl ?_ rfl
      cases ok <;> simp [DialogSession.hand, hwriting]
    next => cases hstep
  | sigint =>
    obtain ⟨-, hstep⟩ := Option.ite_none_left_eq_some.mp hstep
    obtain rfl := Option.some.inj hstep
    exact audioStep_of_eq ⟨rfl, rfl, rfl, rfl, rfl, rfl⟩

/-! ### Runs -/

/-- The chunks the player has taken. -/
def DialogSession.taken (s : DialogSession) : List Bytes := (s.left.filter Prod.snd).map Prod.fst

/-- Where the chunks received so far are. -/
structure Conserved (s : DialogSession) : Prop where
  queue : s.received = s.left.map Prod.fst ++ s.audioQueue
  written : (s.written ++ s.hand).Sublist s.taken
  buffer : s.mod ≠ .audioFile → s.audioBuffer = s.received.flatten

theorem conserved_step (hmod : s'.mod = s.mod) (h : Conserved s) (hstep : AudioStep s s') :
    Conserved s' := by
  obtain ⟨hq, hw, hb⟩ := h
  cases hstep with
  | aside queue received left hand written buffer =>
    refine ⟨by rw [received, left, queue, hq], ?_, fun hm => ?_⟩
    · rw [written, hand, DialogSession.taken, left]
      exact hw
    · rw [hmod] at hm
      rw [buffer hm, received, hb hm]
  | put chunk queue received left hand written buffer =>
    refine ⟨by rw [received, left, queue, hq, List.append_assoc], ?_, fun hm => ?_⟩
    · rw [written, hand, DialogSession.taken, left]
      exact hw
    · rw [hmod] at hm
      rw [buffer, received, hb hm, List.flatten_append, List.flatten_singleton]
  | drop chunk queue received left hand written buffer =>
    refine ⟨by rw [received, left, hq, queue]; simp, ?_, fun hm => ?_⟩
    · rw [written, hand, DialogSession.taken, left]
      simpa [DialogSession.taken] using hw
    · rw [hmod] at hm
      rw [buffer, received, hb hm]
  | take chunk queue received left before hand written buffer =>
    refine ⟨by rw [received, left, hq, queue]; simp, ?_, fun hm => ?_⟩
    · -- the player's hand was empty, so the chunk comes behind all it has written
      rw [before, List.append_nil] at hw
      rw [written, hand, DialogSession.taken, left]
      simpa [DialogSession.taken] using hw.append (List.Sublist.refl [chunk])
    · rw [hmod] at hm
      rw [buffer, received, hb hm]
  | write ok queue received left hand written buffer =>
    refine ⟨by rw [received, left, queue, hq], ?_, fun hm => ?_⟩
    · -- a chunk whose write fails is skipped
      rw [written, hand, DialogSession.taken, left, List.append_nil]
      refine List.Sublist.trans ?_ hw
      refine (List.Sublist.refl s.written).append ?_
      cases ok with
      | true => exact List.Sublist.refl _
      | false => exact List.nil_sublist _
    · rw [hmod] at hm
      rw [buffer, received, hb hm]

/-- **Every chunk leaves the queue once, in order.** In every reachable state
the chunks put in the queue are those that have left it, followed by those in
it; the player has written, in order, chunks that it has taken; and but for file
input, in which no chunk is queued, the recording holds all of them. -/
theorem audio_conserved (hrun : (dialog ttsType).run (DialogSession.init mod) acts = some s) :
    s.received = s.left.map Prod.fst ++ s.audioQueue ∧ s.written.Sublist s.taken ∧
      (mod ≠ .audioFile → s.audioBuffer = s.received.flatten) := by
  have hinit : Conserved (DialogSession.init mod) := by
    refine ⟨rfl, ?_, fun _ => rfl⟩
    cases mod <;> exact List.Sublist.refl _
  have h : Conserved s := Machine.inv_run
    (fun h hstep => conserved_step (mod_act hstep) h (audioStep_act hstep)) hinit hrun
  refine ⟨h.queue, (List.sublist_append_left _ _).trans h.written, fun hm => h.buffer ?_⟩
  rw [mod_run hrun]
  exact hm

/-- An audio chunk of one byte. -/
def chunkResponse (b : UInt8) : PyResult Unit :=
  ⟨some "SERVER_ACK", none, some 352, none, none, some (.bytes [b]), some 1⟩

/-- Event 450 while the player holds one chunk and the queue another. -/
def interrupted : List (DialogAct Unit) :=
  [.start true, .start true, .start true, .receive (some (chunkResponse 1)), .playerTest,
    .playerGet, .receive (some (chunkResponse 2)), .receive (some (eventResponse 450)), .clearOne]

theorem audio_conserved_interrupted :
    ∃ s, (dialog fun _ : Unit => none).run (DialogSession.init .audio) interrupted = some s ∧
      s.left = [([1], true), ([2], false)] ∧ s.received = s.left.map Prod.fst ++ s.audioQueue := by
  have hleft : ((dialog fun _ : Unit => none).run (DialogSession.init .audio) interrupted).map
      DialogSession.left = some [([1], true), ([2], false)] := by decide +kernel
  obtain ⟨s, hrun, hleft⟩ := Option.map_eq_some_iff.mp hleft
  exact ⟨s, hrun, hleft, (audio_conserved hrun).1⟩

/-- What has been heard since `s₀`, where the queue was empty. -/
def HeardSince (s₀ s : DialogSession) : Prop :=
  ∃ heard news, s.written = s₀.written ++ heard ∧ s.received = s₀.received ++ news ∧
    (heard ++ (s.hand ++ s.audioQueue)).Sublist (s₀.hand ++ news)

theorem heardSince_step {s₀ : DialogSession} (h : HeardSince s₀ s) (hstep : AudioStep s s') :
    HeardSince s₀ s' := by
  obtain ⟨heard, news, hwritten, hreceived, hsub⟩ := h
  cases hstep with
  | aside queue received left hand written buffer =>
    exact ⟨heard, news, written.trans hwritten, received.trans hreceived, by rwa [hand, queue]⟩
  | put chunk queue received left hand written buffer =>
    refine ⟨heard, news ++ [chunk], written.trans hwritten, ?_, ?_⟩
    · rw [received, hreceived, List.append_assoc]
    · rw [hand, queue]
      simpa only [List.append_assoc] using hsub.append (List.Sublist.refl [chunk])
  | drop chunk queue received left hand written buffer =>
    refine ⟨heard, news, written.trans hwritten, received.trans hreceived, ?_⟩
    rw [queue] at hsub
    rw [hand]
    refine List.Sublist.trans ?_ hsub
    exact (List.Sublist.refl heard).append
      ((List.Sublist.refl s.hand).append (List.sublist_cons_self chunk _))
  | take chunk queue received left before hand written buffer =>
    refine ⟨heard, news, written.trans hwritten, received.trans hreceived, ?_⟩
    rw [before, queue] at hsub
    rw [hand]
    exact hsub
  | write ok queue received left hand written buffer =>
    refine ⟨heard ++ if ok then s.hand else [], news, ?_, received.trans hreceived, ?_⟩
    · rw [written, hwritten, List.append_assoc]
    · rw [hand, queue, List.nil_append]
      refine List.Sublist.trans ?_ hsub
      rw [List.append_assoc]
      refine (List.Sublist.refl heard).append (List.Sublist.append ?_ (List.Sublist.refl _))
      cases ok with
      | true => exact List.Sublist.refl _
      | false => exact List.nil_sublist _

/-- **Barge-in.** From the moment at which the handler of event 450 has found
the queue empty, whatever is heard comes, in order, from the chunk the player
held at that moment and from the chunks received later. -/
theorem bargeIn_clears {s₀ s₁ s₂ : DialogSession}
    (hclear : s₀.act ttsType (.clearEnd : DialogAct J) = some s₁)
    (hrun : (dialog ttsType).run s₁ acts = some s₂) :
    ∃ heard news, s₂.written = s₁.written ++ heard ∧ s₂.received = s₁.received ++ news ∧
      heard.Sublist (s₁.hand ++ news) ∧ s₁.hand.length ≤ 1 := by
  -- the loop of the handler ends on an empty queue only
  have hempty : s₁.audioQueue = [] := by
    simp only [DialogSession.act] at hclear
    split at hclear
    next event _ hqueue =>
      obtain rfl := Option.some.inj hclear
      unfold DialogSession.cleared
      split <;> exact hqueue
    next => cases hclear
  have hstart : HeardSince s₁ s₁ :=
    ⟨[], [], (List.append_nil _).symm, (List.append_nil _).symm, by
      rw [hempty, List.append_nil]
      exact List.Sublist.refl _⟩
  obtain ⟨heard, news, hwritten, hreceived, hsub⟩ : HeardSince s₁ s₂ := Machine.inv_run
    (fun h hstep => heardSince_step h (audioStep_act hstep)) hstart hrun
  refine ⟨heard, news, hwritten, hreceived, (List.sublist_append_left _ _).trans hsub, ?_⟩
  unfold DialogSession.hand
  split
  · exact le_refl 1
  · exact Nat.zero_le 1

/-- The player writes the chunk it held, and then one that arrives later. -/
theorem bargeIn_clears_interrupted :
    ∃ s₀ s₁ s₂ : DialogSession,
      (dialog fun _ : Unit => none).run (DialogSession.init .audio) interrupted = some s₀ ∧
      s₀.act (fun _ : Unit => none) .clearEnd = some s₁ ∧ s₁.hand = [[1]] ∧
      (dialog fun _ : Unit => none).run s₁ [.playerWrite true, .receive (some (chunkResponse 3)),
        .playerTest, .playerGet, .playerWrite true] = some s₂ ∧ s₂.written = [[1], [3]] ∧
      ∃ heard news, s₂.written = s₁.written ++ heard ∧ s₂.received = s₁.received ++ news ∧
        heard.Sublist (s₁.hand ++ news) ∧ s₁.hand.length ≤ 1 := by
  obtain ⟨s₀, hrun₀⟩ := Option.isSome_iff_exists.mp (show ((dialog fun _ : Unit => none).run
    (DialogSession.init .audio) interrupted).isSome from by decide +kernel)
  have hafter : (((dialog fun _ : Unit => none).run (DialogSession.init .audio) interrupted).bind
      fun s => (s.act (fun _ : Unit => none) .clearEnd).bind fun s₁ =>
        ((dialog fun _ : Unit => none).run s₁ [.playerWrite true,
          .receive (some (chunkResponse 3)), .playerTest, .playerGet, .playerWrite true]).map
          fun s₂ => (s₁.hand, s₂.written)) = some ([[1]], [[1], [3]]) := by decide +kernel
  rw [hrun₀, Option.bind_some] at hafter
  obtain ⟨s₁, hclear, hafter⟩ := Option.bind_eq_some_iff.mp hafter
  obtain ⟨s₂, hrun, hafter⟩ := Option.map_eq_some_iff.mp hafter
  obtain ⟨hhand, hwritten⟩ := Prod.mk.inj hafter
  exact ⟨s₀, s₁, s₂, hrun₀, hclear, hhand, hrun, hwritten, bargeIn_clears hclear hrun⟩

/-! ### How `receive_loop` ends -/

theorem sending_startStep {ok : Bool} (hstep : s.startStep ok = some s') :
    s'.isSendingChatTtsText = s.isSendingChatTtsText := by
  unfold DialogSession.startStep DialogSession.createTasks DialogSession.send at hstep
  grind

theorem sending_inputStep {got : Got} (hstep : s.inputStep got = some s') :
    s'.isSendingChatTtsText = s.isSendingChatTtsText := by
  unfold DialogSession.inputStep DialogSession.readStep DialogSession.send at hstep
  grind

theorem sending_receiveResponse (hidle : s.isSendingChatTtsText = false)
    (answer : Option (PyResult J)) :
    (s.receiveResponse ttsType answer).isSendingChatTtsText = false := by
  cases answer with
  | none => exact hidle
  | some response =>
    rw [DialogSession.receiveResponse]
    cases hhandled : s.handleServerResponse ttsType response with
    | raised | clears => exact hidle
    | returned s₁ =>
      have hsame : s₁.isSendingChatTtsText = s.isSendingChatTtsText := by
        unfold DialogSession.handleServerResponse DialogSession.handleEvent
          DialogSession.putAudio at hhandled
        grind
      unfold DialogSession.afterHandling DialogSession.endReceive DialogSession.stop
        DialogSession.setFinished
      grind

theorem sending_act (hidle : s.isSendingChatTtsText = false) (hstep : s.act ttsType a = some s') :
    s'.isSendingChatTtsText = false := by
  cases a with
  | start ok => exact (sending_startStep (Option.ite_none_right_eq_some.mp hstep).2).trans hidle
  | input got => exact (sending_inputStep (Option.ite_none_right_eq_some.mp hstep).2).trans hidle
  | receive answer =>
    obtain ⟨-, hstep⟩ := Option.ite_none_right_eq_some.mp hstep
    obtain rfl := Option.some.inj hstep
    exact sending_receiveResponse hidle answer
  | clearOne | clearEnd | playerTest | playerGet | playerTimeout | playerWrite | sigint =>
    simp only [DialogSession.act, DialogSession.cleared, DialogSession.stop] at hstep
    grind

/-- No step sets the flag: what would start a ChatTTSText request is commented
out. -/
theorem sending_run (hrun : (dialog ttsType).run (DialogSession.init mod) acts = some s) :
    s.isSendingChatTtsText = false :=
  Machine.inv_run (I := fun s => s.isSendingChatTtsText = false)
    (fun h hstep => sending_act h hstep) rfl hrun

/-- The message type of a frame; a text frame has none. -/
def typeNibble : String ⊕ Bytes → Option UInt8
  | .inl _ => none
  | .inr res => res[1]?.map fun b : UInt8 => b >>> 4

theorem finish_ok {lib : PyLib J} {serial compression : UInt8} {fields : PyResult J × ℕ × Bytes}
    {response : PyResult J} (h : finish lib serial compression fields = .ok response) :
    response.messageType = fields.1.messageType ∧ response.event = fields.1.event ∧
      response.payloadSize.isSome := by
  obtain ⟨result, size, msg⟩ := fields
  obtain ⟨msg, -, h⟩ := ok_of_bind h
  obtain ⟨payload, -, h⟩ := ok_of_bind h
  cases h
  exact ⟨rfl, rfl, rfl⟩

/-- What `parse_response` returns. -/
inductive Parsed (raw : String ⊕ Bytes) (response : PyResult J) : Prop where
  | empty (htype : typeNibble raw ≠ some serverErrorResponse) (h : response = empty)
  | response (messageType : UInt8) (htype : typeNibble raw ≠ some serverErrorResponse)
      (h : response.messageType = some (typeName messageType))
  | error (htype : typeNibble raw = some serverErrorResponse) (h : response.messageType = none)
      (hsize : response.payloadSize.isSome)

theorem parsed_of_parseResponse {lib : PyLib J} {raw : String ⊕ Bytes} {response : PyResult J}
    (h : parseResponse lib raw = .ok response) : Parsed raw response := by
  cases raw with
  | inl text =>
    cases h
    exact .empty nofun rfl
  | inr res =>
    obtain ⟨b0, -, h⟩ := ok_of_bind h
    obtain ⟨b1, hb1, h⟩ := ok_of_bind h
    obtain ⟨b2, -, h⟩ := ok_of_bind h
    obtain ⟨reserved, -, h⟩ := ok_of_bind h
    -- the second byte decides between the three branches
    have htype : typeNibble (.inr res) = some (b1 >>> 4) := by
      unfold index at hb1
      split at hb1
      next hget =>
        cases hb1
        rw [typeNibble, hget, Option.map_some]
      next => cases hb1
    dsimp only at h
    split at h
    next hresponse =>
      refine .response (b1 >>> 4) ?_ (finish_ok h).1
      rw [htype]
      rintro herror
      rw [Option.some.inj herror] at hresponse
      exact absurd hresponse (by decide)
    next =>
      split at h
      next herror =>
        exact .error (by rw [htype, herror]) (finish_ok h).1 (finish_ok h).2.2
      next herror =>
        cases h
        exact .empty (fun heq => herror (Option.some.inj (htype.symm.trans heq))) rfl

/-- The loop ends after this event. -/
def Ends (mod : Mod) (event : Option ℕ) : Prop :=
  event = some 152 ∨ event = some 153 ∨ event = some 359 ∧ mod = .audioFile

theorem ended_afterHandling (event : Option ℕ) :
    (s.afterHandling event).receive = .ended ↔ Ends s.mod event := by
  unfold DialogSession.afterHandling Ends
  split
  next h => exact ⟨fun _ => h.imp id .inl, fun _ => rfl⟩
  next h =>
    split
    next hevent =>
      split
      next hfile => exact ⟨fun _ => .inr (.inr ⟨hevent, hfile⟩), fun _ => rfl⟩
      next hfile => simp_all
    next hevent => simp_all

/-- A response with a message type does not raise, and none that empties the
queue ends the loop. -/
theorem ended_receiveResponse (hidle : s.isSendingChatTtsText = false) {response : PyResult J}
    {messageType : UInt8} (htype : response.messageType = some (typeName messageType)) :
    (s.receiveResponse ttsType (some response)).receive = .ended ↔ Ends s.mod response.event := by
  rw [DialogSession.receiveResponse]
  have hname : typeName messageType ≠ "SERVER_ERROR" := by
    unfold typeName
    split <;> decide
  cases hhandled : s.handleServerResponse ttsType response with
  | raised =>
    -- `tts_type` is looked up only while the flag is set
    unfold DialogSession.handleServerResponse DialogSession.handleEvent at hhandled
    grind
  | clears event =>
    -- so is the other event that empties the queue
    have h450 : response.event = some 450 := by
      unfold DialogSession.handleServerResponse DialogSession.handleEvent at hhandled
      grind
    refine ⟨ReceivePc.noConfusion, fun h => ?_⟩
    rw [h450] at h
    rcases h with h | h | ⟨h, -⟩ <;> exact absurd (Option.some.inj h) (by decide)
  | returned s₁ =>
    rw [← (aside_handleServerResponse hhandled).mod]
    exact ended_afterHandling response.event

/-- **When `receive_loop` ends.** In every reachable state a message ends the
loop just if `parse_response` raises, if it is an error message, or if its
event is one of those that end the loop. -/
theorem receiveLoop_ends_iff (lib : PyLib J) (raw : String ⊕ Bytes)
    (hrun : (dialog ttsType).run (DialogSession.init mod) acts = some s)
    (hstep : s.act ttsType (.receive (parseResponse lib raw).toOption) = some s') :
    s'.receive = .ended ↔
      (∃ e, parseResponse lib raw = .error e) ∨ typeNibble raw = some serverErrorResponse ∨
        ∃ response, parseResponse lib raw = .ok response ∧ Ends mod response.event := by
  obtain ⟨-, hstep⟩ := Option.ite_none_right_eq_some.mp hstep
  obtain rfl := Option.some.inj hstep
  have hidle := sending_run hrun
  rw [← mod_run hrun]
  cases hparse : parseResponse lib raw with
  | error e => exact ⟨fun _ => .inl ⟨e, rfl⟩, fun _ => rfl⟩
  | ok response =>
    rw [Except.toOption]
    cases parsed_of_parseResponse hparse with
    | empty htype h =>
      -- `{}` is passed over
      subst h
      refine ⟨ReceivePc.noConfusion, ?_⟩
      rintro (⟨e, he⟩ | herror | ⟨r, hr, hends⟩)
      · cases he
      · exact absurd herror htype
      · cases hr
        rcases hends with h | h | ⟨h, -⟩ <;> cases h
    | response messageType htype h =>
      rw [ended_receiveResponse hidle h]
      refine ⟨fun hends => .inr (.inr ⟨response, rfl, hends⟩), ?_⟩
      rintro (⟨e, he⟩ | herror | ⟨r, hr, hends⟩)
      · cases he
      · exact absurd herror htype
      · cases hr
        exact hends
    | error htype h hsize =>
      -- `response['message_type']` raises
      have hraised : s.handleServerResponse ttsType response = .raised := by
        have hkeys : DialogSession.isEmpty response = false := by
          obtain ⟨size, hsize⟩ := Option.isSome_iff_exists.mp hsize
          rw [DialogSession.isEmpty, hsize]
          exact Bool.and_false _
        rw [DialogSession.handleServerResponse, hkeys, if_neg Bool.false_ne_true, h]
      refine ⟨fun _ => .inr (.inl htype), fun _ => ?_⟩
      rw [DialogSession.receiveResponse, hraised]
      rfl

/-- An error message of the server: code 1, one byte of text. -/
def errorMessage : Bytes := [0x11, 0xf0, 0, 0, 0, 0, 0, 1, 0, 0, 0, 1, 69]

/-- The message is decoded, and it ends the loop. -/
theorem receiveLoop_ends_iff_errorMessage :
    ∃ s s' : DialogSession,
      (dialog fun _ : Unit => none).run (DialogSession.init .text)
        [.start true, .start true, .start true] = some s ∧
      s.act (fun _ : Unit => none)
        (.receive (parseResponse raisingLib (.inr errorMessage)).toOption) = some s' ∧
      (parseResponse raisingLib (.inr errorMessage)).toOption.isSome ∧ s'.receive = .ended := by
  obtain ⟨s, hrun⟩ := Option.isSome_iff_exists.mp (show ((dialog fun _ : Unit => none).run
    (DialogSession.init .text) [.start true, .start true, .start true]).isSome from
      by decide +kernel)
  have hafter : (((dialog fun _ : Unit => none).run (DialogSession.init .text)
      [.start true, .start true, .start true]).bind fun s => s.act (fun _ : Unit => none)
        (.receive (parseResponse raisingLib (.inr errorMessage)).toOption)).isSome := by
    decide +kernel
  rw [hrun, Option.bind_some] at hafter
  obtain ⟨s', hstep⟩ := Option.isSome_iff_exists.mp hafter
  exact ⟨s, s', hrun, hstep, by decide +kernel,
    (receiveLoop_ends_iff raisingLib (.inr errorMessage) hrun hstep).mpr
      (.inr (.inl (by decide +kernel)))⟩

end PyDemo

end BoxDoubao
