import BoxDoubao.App.Steps
import BoxDoubao.Audio.Cutting

/-!
# Barge-in

The wake word interrupts a reply: `on_wake_word` clears what is buffered and
resets the Ogg state, and `main_fsm_task` finishes the session and starts a
new one. The server does not know that yet, and audio it produced for the
interrupted session is still on its way.

`Playback` is the firmware with the Opus processor behind it. Sessions are
numbered by the StartSession commands sent, and every audio message carries
the session the server produced it for, which the firmware does not look at.
A message may be handled at any time after its session was started, so the
order of the messages around a barge-in is arbitrary. `sounds` is the history
of barge-ins and of PCM placed in `playback_rb`, newest first.

The reset at the barge-in leaves nothing of the interrupted reply in the
processor (`bargeIn_forgets`), which is why it clears `sources`; but nothing
keeps a message that arrives later out of it (`lateReply_placed`).
`bargeIn_silences`: the interrupted reply is silent in every run in which no
such message is handled.
-/

namespace BoxDoubao

open CMemory

/-! ### The speaker -/

/-- What happens at the speaker. -/
inductive Sound where
  /-- `on_wake_word` in SPEAKING, while `session` is the one started last. -/
  | bargeIn (session : ℕ)
  /-- `on_decoded_pcm` places `pcm` in `playback_rb`. `sessions` are those
  whose audio has been fed to libogg since it was reset. -/
  | placed (sessions : List ℕ) (pcm : Pcm)
  deriving DecidableEq

/-- The firmware with the Opus processor. -/
structure Playback (lib : LibOgg) (opus : LibOpus lib.Packet) where
  firmware : Firmware
  proc : OpusProcessor lib opus
  /-- The sessions of the audio fed to libogg since it was reset. -/
  sources : List ℕ
  sounds : List Sound

/-- A step of the firmware, with what it meets: the session an audio message
was produced for, whether `ogg_sync_buffer` finds room, and the answers of
`xRingbufferSend`, which refuses what has no answer. -/
structure Delivery where
  action : Action
  session : ℕ
  granted : Bool
  accepted : List Bool

/-- An audio message is handled. -/
def Delivery.carriesAudio (json : Json) (a : Delivery) : Bool :=
  match a.action.branch json with
  | some (.ttsAudio _) => true
  | _ => false

/-- A step without audio. -/
def Action.silent (a : Action) : Delivery := ⟨a, 0, true, []⟩

namespace Firmware

/-- The number of sessions started, which is the number of the last one. -/
def session (s : Firmware) : ℕ := s.log.count (.command .startSession true)

/-- What a step from `s` to `t` adds to the history, oldest first. -/
def newObs (s t : Firmware) : List Obs :=
  (t.log.take (t.log.length - s.log.length)).reverse

theorem newObs_eq {s t : Firmware} {new : List Obs} (h : t.log = new ++ s.log) :
    newObs s t = new.reverse := by
  rw [newObs, h, List.length_append, Nat.add_sub_cancel, List.take_left]

end Firmware

namespace Playback

variable {lib : LibOgg} {opus : LibOpus lib.Packet}

/-- The state when the tasks are created. -/
def boot (proc : OpusProcessor lib opus) : Playback lib opus where
  firmware := Firmware.boot
  proc := proc
  sources := []
  sounds := []

/-- `on_decoded_pcm`, called for each packet that gave samples. -/
def onDecodedPcm (sessions : List ℕ) : List (Decoded lib) → List Bool → List Sound
  | [], _ => []
  | d :: out, accepted =>
    if d.pcm = [] then onDecodedPcm sessions out accepted
    else
      match accepted with
      | true :: accepted => .placed sessions d.pcm :: onDecodedPcm sessions out accepted
      | false :: accepted => onDecodedPcm sessions out accepted
      | [] => []

/-- What the processor does when the firmware calls it. -/
def hear (a : Delivery) (p : Playback lib opus) : Obs → Playback lib opus
  | .speaker .resetOgg => { p with proc := p.proc.opusProcResetOgg, sources := [] }
  | .speaker (.decodeOgg data) =>
    let r := p.proc.opusProcDecodeOgg a.granted data
    { p with
      proc := r.1
      sources := a.session :: p.sources
      sounds := (onDecodedPcm (a.session :: p.sources) r.2 a.accepted).reverse ++ p.sounds }
  | _ => p

/-- `on_wake_word` is called in SPEAKING. -/
def Interrupts (p : Playback lib opus) (a : Delivery) : Prop :=
  a.action = .wakeWord ∧ p.firmware.gAppState = .speaking

instance (p : Playback lib opus) (a : Delivery) : Decidable (p.Interrupts a) :=
  inferInstanceAs (Decidable (_ ∧ _))

/-- The server produces audio for a session that was started. -/
def Produced (json : Json) (p : Playback lib opus) (a : Delivery) : Prop :=
  a.carriesAudio json = true → 1 ≤ a.session ∧ a.session ≤ p.firmware.session

instance (json : Json) (p : Playback lib opus) (a : Delivery) : Decidable (p.Produced json a) :=
  inferInstanceAs (Decidable (_ → _))

/-- The history with a barge-in, when there is one. -/
def interrupted (p : Playback lib opus) (a : Delivery) : List Sound :=
  if p.Interrupts a then .bargeIn p.firmware.session :: p.sounds else p.sounds

/-- One step. -/
def step (json : Json) (p : Playback lib opus) (a : Delivery) : Option (Playback lib opus) :=
  if p.Produced json a then
    match p.firmware.step json a.action with
    | some t =>
      some ((Firmware.newObs p.firmware t).foldl (hear a)
        { p with firmware := t, sounds := p.interrupted a })
    | none => none
  else none

end Playback

/-- The firmware with its speaker as a machine. -/
def playback (json : Json) (lib : LibOgg) (opus : LibOpus lib.Packet) :
    Machine (Playback lib opus) Delivery where
  step := Playback.step json

/-- PCM is not placed when it can come from a session that was interrupted
before. -/
def Silenced : Sound → List Sound → Prop
  | .placed sessions _, earlier => ∀ session ∈ sessions, .bargeIn session ∉ earlier
  | .bargeIn _, _ => True

/-! ### What a step of the firmware does to the speaker -/

namespace Firmware

variable {json : Json} {s t : Firmware}

/-- Only the handler of an audio message decodes. -/
theorem decodeOgg_new {a : Action} (h : s.step json a = some t) : ∃ new,
    t.log = new ++ s.log ∧
      ∀ data, .speaker (.decodeOgg data) ∈ new → a.branch json = some (.ttsAudio data) := by
  have hnone : ∀ new : List Obs, t.log = new ++ s.log →
      (∀ data, .speaker (.decodeOgg data) ∉ new) → ∃ new, t.log = new ++ s.log ∧
        ∀ data, .speaker (.decodeOgg data) ∈ new → a.branch json = some (.ttsAudio data) :=
    fun new hlog hno => ⟨new, hlog, fun data hmem => absurd hmem (hno data)⟩
  cases step_cases h with
  | fsm _ h =>
    cases h with
    | ready _ ht | connecting _ ht | loop _ ht | bargein _ ht =>
      exact hnone [] ht.frame.2.1 (by simp)
    | finishHandshake _ ht => exact hnone [_] ht.frame.2.1 (by simp)
    | move _ _ | connectFailed _ | sessionStart _ | buttonEnd _ | sessionEnded _ _
    | buttonDebounced _ => exact hnone [] rfl (by simp)
  | client _ h =>
    obtain hlog | hlog := h.frame.2.2.2.2
    · exact hnone [] hlog (by simp)
    · exact hnone [_] hlog (by simp)
  | receive r _ _ _ h =>
    show ∃ new, t.log = new ++ s.log ∧ ∀ data, .speaker (.decodeOgg data) ∈ new →
      some (r.dispatch json) = some (.ttsAudio data)
    generalize r.dispatch json = k at h
    cases h with
    | audio data => exact ⟨[_, _], rfl, by simp⟩
    | turn _ | greetingEnded _ _ | exitIntent _ | recoverableError =>
      exact ⟨[_, _, _, _], rfl, by simp⟩
    | text _ _ | userQueryEnd | sessionFinish | fatalError => exact ⟨[_], rfl, by simp⟩
  | wakeWord h =>
    cases h with
    | bargein _ => exact hnone [_, _, _] rfl (by simp)
    | ignored | start _ _ => exact hnone [] rfl (by simp)
  | tx _ _ h =>
    cases h with
    | quiet _ _ => exact hnone [] rfl (by simp)
    | send _ _ _ _ => exact hnone [_, _] rfl (by simp)
  | command _ _ _ | connected _ _ _ | disconnected _ _ | wsFinish _ _ =>
    exact hnone [_] rfl (by simp)
  | exitDone _ | errorDone _ | fetch _ _ | appMain _ => exact hnone [] rfl (by simp)

/-- The barge-in resets the Ogg state. -/
theorem newObs_bargeIn (happ : s.gAppState = .speaking) (h : s.step json .wakeWord = some t) :
    newObs s t = [.speaker .clearPlayback, .speaker .clearRef, .speaker .resetOgg] := by
  obtain rfl := Option.some.inj h
  have hlog : s.onWakeWord.log =
      [.speaker .resetOgg, .speaker .clearRef, .speaker .clearPlayback] ++ s.log := by
    simp only [onWakeWord, happ]
    rfl
  exact newObs_eq hlog

end Firmware

/-! ### What is placed -/

namespace Playback

variable {lib : LibOgg} {opus : LibOpus lib.Packet}

theorem mem_onDecodedPcm {sessions : List ℕ} {out : List (Decoded lib)} {accepted : List Bool}
    {o : Sound} (h : o ∈ onDecodedPcm sessions out accepted) : ∃ pcm, o = .placed sessions pcm := by
  induction out generalizing accepted with
  | nil => exact absurd h List.not_mem_nil
  | cons d out ih =>
    simp only [onDecodedPcm] at h
    split at h
    · exact ih h
    · split at h
      · obtain rfl | h := List.mem_cons.mp h
        · exact ⟨d.pcm, rfl⟩
        · exact ih h
      · exact ih h
      · exact absurd h List.not_mem_nil

/-- PCM of sessions that were not interrupted may be placed. -/
theorem throughout_placed {sessions : List ℕ} {placed sounds : List Sound}
    (hplaced : ∀ o ∈ placed, ∃ pcm, o = .placed sessions pcm)
    (hsessions : ∀ session ∈ sessions, .bargeIn session ∉ sounds)
    (hsounds : Throughout Silenced sounds) : Throughout Silenced (placed.reverse ++ sounds) := by
  induction placed generalizing sounds with
  | nil => exact hsounds
  | cons o placed ih =>
    obtain ⟨pcm, rfl⟩ := hplaced o List.mem_cons_self
    rw [List.reverse_cons, List.append_assoc]
    -- what has been placed is no barge-in
    refine ih (fun o ho => hplaced o (List.mem_cons_of_mem _ ho)) ?_ ⟨hsessions, hsounds⟩
    intro session hmem hbar
    obtain hbar | hbar := List.mem_cons.mp hbar
    · cases hbar
    · exact hsessions session hmem hbar

/-- Nothing that was placed came from an interrupted session, and nothing of
one is in the processor. -/
structure Quiet (p : Playback lib opus) : Prop where
  sources : ∀ session ∈ p.sources, .bargeIn session ∉ p.sounds
  sounds : Throughout Silenced p.sounds

theorem Quiet.boot (proc : OpusProcessor lib opus) : Quiet (boot proc) where
  sources := by
    intro session h
    cases h
  sounds := trivial

variable {p p' : Playback lib opus} {a : Delivery}

/-- The processor places no barge-in. -/
theorem bargeIn_hear {session : ℕ} {o : Obs} :
    .bargeIn session ∈ (hear a p o).sounds ↔ .bargeIn session ∈ p.sounds := by
  unfold hear
  split
  · exact Iff.rfl
  · simp only [List.mem_append, List.mem_reverse]
    constructor
    · rintro (h | h)
      · obtain ⟨pcm, hpcm⟩ := mem_onDecodedPcm h
        cases hpcm
      · exact h
    · exact Or.inr
  · exact Iff.rfl

theorem Quiet.hear (hI : Quiet p) {o : Obs}
    (ho : ∀ data, o = .speaker (.decodeOgg data) → .bargeIn a.session ∉ p.sounds) :
    Quiet (hear a p o) := by
  unfold Playback.hear
  split
  · refine ⟨?_, hI.sounds⟩
    intro session h
    cases h
  · next data =>
    -- what the call decodes may come from this message or from those before it
    have hnew : ∀ session ∈ a.session :: p.sources, .bargeIn session ∉ p.sounds := by
      intro session h
      obtain rfl | h := List.mem_cons.mp h
      · exact ho data rfl
      · exact hI.sources session h
    constructor
    · intro session h hbar
      have hheard : .bargeIn session ∈
          (Playback.hear a p (.speaker (.decodeOgg data))).sounds := hbar
      exact hnew session h (bargeIn_hear.mp hheard)
    · exact throughout_placed (fun o => mem_onDecodedPcm) hnew hI.sounds
  · exact hI

/-- Everything a step has the processor do. -/
theorem Quiet.foldl_hear (hI : Quiet p) (os : List Obs)
    (hos : ∀ data, .speaker (.decodeOgg data) ∈ os → .bargeIn a.session ∉ p.sounds) :
    Quiet (os.foldl (Playback.hear a) p) := by
  induction os generalizing p with
  | nil => exact hI
  | cons o os ih =>
    rw [List.foldl_cons]
    refine ih (hI.hear fun data ho => hos data (by rw [ho]; exact List.mem_cons_self)) ?_
    intro data hmem hbar
    exact hos data (List.mem_cons_of_mem o hmem) (bargeIn_hear.mp hbar)

/-- No audio message of an interrupted session is handled after the
barge-in. -/
def Filtered (json : Json) (p : Playback lib opus) (a : Delivery) : Prop :=
  a.carriesAudio json = true → .bargeIn a.session ∉ p.sounds

instance (json : Json) (p : Playback lib opus) (a : Delivery) : Decidable (Filtered json p a) :=
  inferInstanceAs (Decidable (_ → _))

/-- **A barge-in empties the processor, and every other step feeds it only
audio of sessions that were not interrupted.** -/
theorem Quiet.step {json : Json} (hI : Quiet p) (hguard : Filtered json p a)
    (h : p.step json a = some p') : Quiet p' := by
  unfold Playback.step at h
  split at h
  · split at h
    · next t ht =>
      obtain rfl := Option.some.inj h
      by_cases hbar : p.Interrupts a
      · obtain ⟨haction, happ⟩ := hbar
        rw [haction] at ht
        -- the history gains a barge-in, and the reset empties the processor
        rw [Firmware.newObs_bargeIn happ ht, interrupted, if_pos ⟨haction, happ⟩]
        refine ⟨?_, trivial, hI.sounds⟩
        intro session hmem
        cases hmem
      · rw [interrupted, if_neg hbar]
        obtain ⟨new, hlog, hnew⟩ := Firmware.decodeOgg_new ht
        rw [Firmware.newObs_eq hlog]
        have hkept : Quiet { p with firmware := t, sounds := p.sounds } := ⟨hI.sources, hI.sounds⟩
        -- what is decoded is the payload of this message, which the guard is about
        refine hkept.foldl_hear new.reverse fun data hmem => ?_
        refine hguard ?_
        rw [Delivery.carriesAudio, hnew data (List.mem_reverse.mp hmem)]
    · cases h
  · cases h

end Playback

namespace Playback

variable {lib : LibOgg} {opus : LibOpus lib.Packet} {p p' q q' : Playback lib opus} {a : Delivery}

/-- **A barge-in leaves nothing of earlier audio.** Whatever two processors have
decoded, they are alike after it. -/
theorem bargeIn_forgets {json : Json} (hopus : ∀ d d', opus.resetState d = opus.resetState d')
    (hdecoder : p.proc.decoder.isSome = q.proc.decoder.isSome) (hp : p.Interrupts a)
    (hq : q.Interrupts a) (hstep : p.step json a = some p') (hstep' : q.step json a = some q') :
    p'.proc = q'.proc := by
  -- of what a barge-in has the processor do, only the reset acts on it
  have hreset : ∀ {r r' : Playback lib opus}, r.Interrupts a → r.step json a = some r' →
      r'.proc = r.proc.opusProcResetOgg := by
    intro r r' ⟨haction, happ⟩ hr
    unfold Playback.step at hr
    split at hr
    · split at hr
      · next t ht =>
        rw [haction] at ht
        rw [Firmware.newObs_bargeIn happ ht] at hr
        obtain rfl := Option.some.inj hr
        rfl
      · cases hr
    · cases hr
  rw [hreset hp hstep, hreset hq hstep']
  exact OpusProcessor.opusProcResetOgg_eq hopus hdecoder

end Playback

/-- **A barge-in silences the interrupted reply** in every run in which no
audio message of an interrupted session is handled after its barge-in: PCM
that can come from such a session is never placed in `playback_rb`. -/
theorem bargeIn_silences (json : Json) (lib : LibOgg) (opus : LibOpus lib.Packet)
    (proc : OpusProcessor lib opus) (as : List Delivery) (p : Playback lib opus)
    (hrun : (playback json lib opus).run (Playback.boot proc) as = some p)
    (hguard : (playback json lib opus).Guarded (Playback.Filtered json) (Playback.boot proc) as) :
    Throughout Silenced p.sounds :=
  have hI : p.Quiet := Machine.inv_run_guarded (I := Playback.Quiet)
    (fun hI hG h => hI.step hG h) (Playback.Quiet.boot proc) hguard hrun
  hI.sounds

/-! ### A late reply -/

/-- An audio message. -/
def audioMessage (data : Bytes) : ParsedResponse :=
  { ParsedResponse.ofType msgServerAck with
    isBinary := true
    payloadData := some data
    payloadDataLen := data.length }

/-- A message with a whole reply, for which there is room. -/
def replyDelivery (session : ℕ) : Delivery :=
  ⟨.receive (audioMessage replyStream), session, true, [true]⟩

/-- The first reply begins. -/
def replyBegun : List Delivery :=
  (firstSession ++ [Action.receive (serverEvent eventUserQueryEnd)]).map Action.silent ++
    [replyDelivery 1]

/-- The wake word is heard and the main task finishes the session. -/
def interruptedReply : List Delivery :=
  replyBegun ++ ([.wakeWord, .fsm false, .fsmCommand true] : List Action).map Action.silent

/-- Another message of the interrupted session arrives after the barge-in. -/
def lateReply : List Delivery := interruptedReply ++ [replyDelivery 1]

/-- It is decoded, with nothing but audio of the interrupted session in the
processor, and placed. -/
theorem lateReply_placed :
    ∃ p, (playback (fun _ _ => none) LibOgg.reply (LibOpus.silence _)).run
        (Playback.boot (OpusProcessor.fresh LibOgg.reply)) lateReply = some p ∧
      p.sounds = [.placed [1] (List.replicate 320 0), .bargeIn 1,
        .placed [1] (List.replicate 320 0)] ∧
      ¬ Throughout Silenced p.sounds := by
  have hend : ((playback (fun _ _ => none) LibOgg.reply (LibOpus.silence _)).run
      (Playback.boot (OpusProcessor.fresh LibOgg.reply)) lateReply).map (·.sounds) =
        some [.placed [1] (List.replicate 320 0), .bargeIn 1,
          .placed [1] (List.replicate 320 0)] := by decide +kernel
  obtain ⟨p, hp, hsounds⟩ := Option.map_eq_some_iff.mp hend
  refine ⟨p, hp, hsounds, fun hquiet => ?_⟩
  rw [hsounds] at hquiet
  exact hquiet.1 1 List.mem_cons_self List.mem_cons_self

/-- The new session is started and its reply arrives. -/
def newReply : List Delivery :=
  interruptedReply ++
    ([.fsm false, .fsm false, .fsmCommand true] : List Action).map Action.silent ++
      [replyDelivery 2]

/-- The reply to the new session is placed, and nothing of the old one. -/
theorem newReply_silenced :
    ∃ p, (playback (fun _ _ => none) LibOgg.reply (LibOpus.silence _)).run
        (Playback.boot (OpusProcessor.fresh LibOgg.reply)) newReply = some p ∧
      p.sounds = [.placed [2] (List.replicate 320 0), .bargeIn 1,
        .placed [1] (List.replicate 320 0)] ∧
      Throughout Silenced p.sounds := by
  have hend : ((playback (fun _ _ => none) LibOgg.reply (LibOpus.silence _)).run
      (Playback.boot (OpusProcessor.fresh LibOgg.reply)) newReply).map (·.sounds) =
        some [.placed [2] (List.replicate 320 0), .bargeIn 1,
          .placed [1] (List.replicate 320 0)] := by decide +kernel
  obtain ⟨p, hp, hsounds⟩ := Option.map_eq_some_iff.mp hend
  exact ⟨p, hp, hsounds, bargeIn_silences _ _ _ _ _ p hp (by decide +kernel)⟩

end BoxDoubao
