import BoxDoubao.App.Steps

/-!
# Sessions

A session is opened by a StartSession that was sent and closed by a
FinishSession that was sent or by event 152 or 153 (`sessionOpen`). The device
streams in LISTENING, so audio stays inside sessions as long as LISTENING
does. Two places let it out: the button and `on_ws_receive` send FinishSession
while the device is still in LISTENING, and events 450 and 359 put it there
without looking at the session. `audio_inSession` is what holds without them.

The end of a session by the server can be lost: the main task writes
`g_session_active` 500 ms after StartSession and LISTENING after the greeting,
whatever has been handled since. `sessionEnd_kept` says that nowhere else is it
lost (`sessionOver`).

Both invariants speak of the same stretch of the main task, from a StartSession
that was sent to LISTENING (`FsmPc.inHandshake`).
-/

namespace BoxDoubao

/-! ### Sessions in the history -/

/-- A StartSession was sent, and since then neither a FinishSession was sent
nor event 152 or 153 handled. -/
def sessionOpen (json : Json) : List Obs → Bool
  | [] => false
  | .command .startSession true :: _ => true
  | .command .finishSession true :: _ => false
  | .received r :: earlier =>
    if r.dispatch json = .sessionFinish then false else sessionOpen json earlier
  | _ :: earlier => sessionOpen json earlier

/-- Some StartSession was sent. -/
def sessionStartSent : List Obs → Bool
  | [] => false
  | .command .startSession true :: _ => true
  | _ :: earlier => sessionStartSent earlier

/-- Event 152 or 153 or a recoverable server error was handled after a
StartSession was sent, and no StartSession was sent since. -/
def sessionOver (json : Json) : List Obs → Bool
  | [] => false
  | .command .startSession true :: _ => false
  | .received r :: earlier =>
    if r.dispatch json = .sessionFinish ∨ r.dispatch json = .recoverableError then
      sessionStartSent earlier
    else sessionOver json earlier
  | _ :: earlier => sessionOver json earlier

section History

variable {json : Json} {log : List Obs}

/-- A command other than a StartSession that was sent leaves an ended session
ended. -/
theorem sessionOver_command {c : Cmd} {ok : Bool} (h : c ≠ .startSession ∨ ok = false) :
    sessionOver json (.command c ok :: log) = sessionOver json log := by
  cases c with
  | startSession =>
    obtain h | rfl := h
    · exact absurd rfl h
    · rfl
  | _ => rfl

theorem sessionOver_startSession {ok : Bool}
    (h : sessionOver json (.command .startSession ok :: log) = true) :
    sessionOver json log = true := by
  cases ok with
  | true => cases h
  | false => exact h

/-- A command that is not a FinishSession that was sent keeps a session
open. -/
theorem sessionOpen_command {c : Cmd} {ok : Bool} (h : c = .finishSession → ok = false)
    (hopen : sessionOpen json log = true) : sessionOpen json (.command c ok :: log) = true := by
  cases c with
  | finishSession =>
    rw [h rfl]
    exact hopen
  | _ => cases ok <;> first | rfl | exact hopen

theorem sessionOpen_received {r : ParsedResponse} (h : r.dispatch json ≠ .sessionFinish) :
    sessionOpen json (.received r :: log) = sessionOpen json log := if_neg h

end History

namespace Firmware

variable {s t : Firmware} {json : Json}

/-! ### Audio stays inside sessions -/

/-- The step sends a FinishSession. -/
def sendsFinish (s : Firmware) : Action → Bool
  | .fsmCommand ok =>
    (s.fsm == .call .finishBargein || s.fsm == .call .finishButton) && s.canSend ok
  | .wsFinish ok => s.canSend ok
  | _ => false

/-- The user is given the turn inside a session only; events 152 and 153 are
not handled in the handshake; and no FinishSession is sent in LISTENING or in
the handshake. -/
def ListensInSession (json : Json) (s : Firmware) (a : Action) : Prop :=
  (∀ k ∈ a.branch json, s.TakesTurn k → sessionOpen json s.log = true) ∧
    (a.branch json = some .sessionFinish → s.fsm.inHandshake = false) ∧
    (s.sendsFinish a = true → s.gAppState ≠ .listening ∧ s.fsm.inHandshake = false)

instance (json : Json) (s : Firmware) (a : Action) : Decidable (ListensInSession json s a) :=
  inferInstanceAs (Decidable (_ ∧ _ ∧ _))

/-- In LISTENING and in the handshake a session is open, and every chunk of
audio was handed over while one was. -/
structure InSession (json : Json) (s : Firmware) : Prop where
  listening : s.gAppState = .listening → sessionOpen json s.log = true
  handshake : s.fsm.inHandshake = true → sessionOpen json s.log = true
  audio : Throughout (fun o earlier => ∀ chunk, o = .audio chunk →
    sessionOpen json earlier = true) s.log

theorem InSession.boot : InSession json boot where
  listening h := by cases h
  handshake h := by cases h
  audio := trivial

theorem InSession.of_loopHead (h : LoopHead s t) (hI : InSession json s) :
    InSession json t := by
  have hlog := h.frame.2.1
  refine ⟨fun happ => ?_, fun hpc => ?_, ?_⟩
  · rw [hlog]
    exact hI.listening (h.listening happ)
  · rw [h.inHandshake] at hpc
    cases hpc
  · rw [hlog]
    exact hI.audio

theorem InSession.stretch (hI : InSession json s) (h : Stretch s t) : InSession json t := by
  -- no stretch sends anything, so the session stays as it is
  cases h with
  | move p hmove => exact ⟨hI.listening, fun hp => hI.handshake (hmove.inHandshake hp), hI.audio⟩
  | sessionStart hpc => exact ⟨hI.listening, fun _ => hI.handshake (by rw [hpc]; rfl), hI.audio⟩
  | buttonDebounced _ => exact ⟨hI.listening, nofun, hI.audio⟩
  | connectFailed _ | buttonEnd _ | sessionEnded _ _ =>
    exact ⟨nofun, nofun, hI.audio⟩
  | loop _ ht =>
    exact .of_loopHead ht ⟨hI.listening, nofun, hI.audio⟩
  | ready _ ht | connecting _ ht | bargein _ ht =>
    exact .of_loopHead ht ⟨nofun, nofun, hI.audio⟩
  | finishHandshake hpc ht =>
    -- the handshake ends in LISTENING with the session it opened
    have hopen := hI.handshake (inHandshake_of_endsHandshake hpc)
    exact .of_loopHead ht ⟨fun _ => hopen, nofun, nofun, hI.audio⟩

/-- A branch other than the end of the session. -/
theorem InSession.branch {k : Received} (hI : InSession json s) (hk : k ≠ .sessionFinish)
    (hturn : s.TakesTurn k → sessionOpen json s.log = true) (h : Branch s k t) :
    InSession json t := by
  cases h with
  | audio _ => exact ⟨hI.listening, hI.handshake, nofun, hI.audio⟩
  | text _ _ | fatalError => exact ⟨hI.listening, hI.handshake, hI.audio⟩
  | turn hturns =>
    -- the device goes to LISTENING, inside a session by the guard
    have hopen := hturn hturns
    exact ⟨fun _ => hopen, hI.handshake, nofun, nofun, nofun, hI.audio⟩
  | userQueryEnd => exact ⟨nofun, hI.handshake, hI.audio⟩
  | greetingEnded _ _ | exitIntent _ | recoverableError =>
    exact ⟨hI.listening, hI.handshake, nofun, nofun, nofun, hI.audio⟩
  | sessionFinish => exact absurd rfl hk

theorem InSession.receive {r : ParsedResponse} (hI : InSession json s)
    (hturn : s.TakesTurn (r.dispatch json) → sessionOpen json s.log = true)
    (hfinish : r.dispatch json = .sessionFinish → s.fsm.inHandshake = false)
    (h : Branch { s with log := .received r :: s.log } (r.dispatch json) t) :
    InSession json t := by
  by_cases hk : r.dispatch json = .sessionFinish
  · -- the session is over, and the main task is not about to listen
    have hpc := hfinish hk
    rw [hk] at h
    cases h with
    | text htext _ => cases htext
    | turn hturns => obtain hc | ⟨hc, -⟩ := hturns <;> cases hc
    | exitIntent hexit => cases hexit.1
    | sessionFinish =>
      refine ⟨nofun, fun hp => ?_, nofun, hI.audio⟩
      have hp : s.fsm.inHandshake = true := hp
      rw [hpc] at hp
      cases hp
  · -- any other response leaves the session as it is
    have hkeep : sessionOpen json (.received r :: s.log) = sessionOpen json s.log :=
      sessionOpen_received hk
    have hI' : InSession json { s with log := .received r :: s.log } :=
      ⟨fun happ => hkeep.trans (hI.listening happ), fun hp => hkeep.trans (hI.handshake hp),
        nofun, hI.audio⟩
    exact hI'.branch hk (fun hturns => hkeep.trans (hturn hturns)) h

/-- A command of the main task. -/
theorem InSession.command {ok : Bool} {c : FsmCall} {cmd : Cmd} (hI : InSession json s)
    (hpc : s.fsm = .call c) (hcmd : callCmd c = some cmd)
    (hfinish : s.sendsFinish (.fsmCommand ok) = true → s.gAppState ≠ .listening) :
    InSession json { s.sendCommand cmd ok with fsm := .ret c (s.canSend ok) } := by
  refine ⟨fun happ => ?_, fun hret => ?_, nofun, hI.audio⟩
  · refine sessionOpen_command (fun hcmd' => ?_) (hI.listening happ)
    -- a FinishSession that was sent would have been sent in LISTENING
    refine eq_false_of_ne_true fun hsent => hfinish ?_ happ
    subst hcmd'
    have hc : c = .finishBargein ∨ c = .finishButton := by
      cases c with
      | finishBargein => exact Or.inl rfl
      | finishButton => exact Or.inr rfl
      | _ => cases hcmd
    obtain rfl | rfl := hc <;> simp [sendsFinish, hpc, hsent]
  · obtain ⟨rfl, hsent⟩ | hcall := FsmPc.inHandshake_of_ret hret
    · -- the StartSession that was sent opens the session of the handshake
      obtain rfl : Cmd.startSession = cmd := Option.some.inj hcmd
      change sessionOpen json (.command .startSession (s.canSend ok) :: s.log) = true
      rw [hsent]
      rfl
    · -- in the handshake only SayHello is sent
      have hopen : sessionOpen json s.log = true := hI.handshake (by rw [hpc]; exact hcall)
      refine sessionOpen_command (fun hcmd' => ?_) hopen
      subst hcmd'
      cases c with
      | sayHello => cases hcmd
      | _ => cases hcall

/-- Every step that meets the guard keeps the invariant. -/
theorem InSession.step {a : Action} (hI : InSession json s) (hguard : ListensInSession json s a)
    (h : s.step json a = some t) : InSession json t := by
  obtain ⟨hturn, hover, hfinish⟩ := hguard
  cases step_cases h with
  | fsm _ h => exact hI.stretch h
  | command ok hpc hcmd => exact hI.command hpc hcmd fun hsent => (hfinish hsent).1
  | client _ h =>
    -- stopping the client does not close the session
    obtain ⟨-, happ, -, -, hlog⟩ := h.frame
    refine ⟨fun hlisten => ?_, fun hp => ?_, ?_⟩
    · have hopen := hI.listening (happ.symm.trans hlisten)
      obtain hlog | hlog := hlog <;> rw [hlog] <;> exact hopen
    · rw [FsmPc.inHandshake_of_inClient h.inClient.2] at hp
      cases hp
    · obtain hlog | hlog := hlog <;> rw [hlog]
      · exact hI.audio
      · exact ⟨nofun, hI.audio⟩
  | connected _ _ _ | disconnected _ _ => exact ⟨hI.listening, hI.handshake, nofun, hI.audio⟩
  | receive r _ _ _ h =>
    exact hI.receive (hturn _ rfl) (fun hk => hover (congrArg some hk)) h
  | wsFinish ok _ =>
    refine ⟨fun happ => ?_, fun hp => ?_, nofun, hI.audio⟩
    · refine sessionOpen_command (fun _ => ?_) (hI.listening happ)
      exact eq_false_of_ne_true fun hsent => (hfinish hsent).1 happ
    · refine sessionOpen_command (fun _ => ?_) (hI.handshake hp)
      refine eq_false_of_ne_true fun hsent => ?_
      have hp : s.fsm.inHandshake = true := hp
      rw [(hfinish hsent).2] at hp
      cases hp
  | exitDone _ | errorDone _ | appMain _ => exact ⟨nofun, hI.handshake, hI.audio⟩
  | wakeWord h =>
    cases h with
    | ignored => exact hI
    | start _ _ => exact ⟨nofun, hI.handshake, hI.audio⟩
    | bargein _ => exact ⟨hI.listening, hI.handshake, nofun, nofun, nofun, hI.audio⟩
  | fetch _ _ => exact ⟨hI.listening, hI.handshake, hI.audio⟩
  | tx _ _ h =>
    cases h with
    | quiet _ _ => exact ⟨hI.listening, hI.handshake, hI.audio⟩
    | send happ _ _ _ =>
      -- audio is handed over in LISTENING
      have hopen := hI.listening happ
      have hkeep : ∀ {ok chunk}, sessionOpen json s.log = true →
          sessionOpen json (.command .taskRequest ok :: .audio chunk :: s.log) = true :=
        fun h => sessionOpen_command nofun h
      exact ⟨fun _ => hkeep hopen, fun hp => hkeep (hI.handshake hp), nofun,
        fun _ _ => hopen, hI.audio⟩

/-- Whenever `ws_tx_task` handed a chunk to `doubao_ws_send_audio`, a session
was open. -/
def AudioInSession (json : Json) (log : List Obs) : Prop :=
  ∀ later chunk earlier, log = later ++ .audio chunk :: earlier → sessionOpen json earlier = true

/-- **No audio leaves the device outside a session** in a run that listens in
sessions only. -/
theorem audio_inSession (json : Json) (as : List Action) (s : Firmware)
    (hrun : (firmware json).run boot as = some s)
    (hguard : (firmware json).Guarded (ListensInSession json) boot as) :
    AudioInSession json s.log := by
  intro later chunk earlier hlog
  have hI : InSession json s := Machine.inv_run_guarded (I := InSession json)
    (fun hI hG h => hI.step hG h) InSession.boot hguard hrun
  have haudio := hI.audio
  rw [hlog] at haudio
  exact haudio.at chunk rfl

/-- The button ends the first session; the microphone data still in
`capture_rb` is sent after FinishSession. -/
def lateAudio : List Action :=
  firstSession ++ [.fetch (List.replicate 640 0), .fsm true, .fsmCommand true, .tx 640 true]

theorem lateAudio_outsideSession :
    ∃ s, (firmware fun _ _ => none).run boot lateAudio = some s ∧
      ¬ AudioInSession (fun _ _ => none) s.log := by
  have hend : ((firmware fun _ _ => none).run boot lateAudio).map (fun s =>
      ((s.log.drop 1).head?, sessionOpen (fun _ _ => none) (s.log.drop 2))) =
      some (some (.audio (List.replicate 640 0)), false) := by decide +kernel
  obtain ⟨s, hs, heq⟩ := Option.map_eq_some_iff.mp hend
  obtain ⟨hhead, hclosed⟩ := Prod.mk.inj heq
  -- the newest entry is the command, the one before it the chunk
  obtain ⟨earlier, hdrop⟩ := List.head?_eq_some_iff.mp hhead
  refine ⟨s, hs, fun haudio => ?_⟩
  have hopen := haudio (s.log.take 1) _ earlier (by rw [← hdrop, List.take_append_drop])
  have hearlier : s.log.drop 2 = earlier := by
    rw [show s.log.drop 2 = (s.log.drop 1).drop 1 by rw [List.drop_drop], hdrop]
    rfl
  rw [hearlier, hopen] at hclosed
  cases hclosed

/-- A chunk is sent while the first session lasts. -/
theorem audio_inSession_firstChunk :
    ∃ s, (firmware fun _ _ => none).run boot
        (firstSession ++ [.fetch (List.replicate 640 0), .tx 640 true]) = some s ∧
      AudioInSession (fun _ _ => none) s.log := by
  have hrun : ((firmware fun _ _ => none).run boot
      (firstSession ++ [.fetch (List.replicate 640 0), .tx 640 true])).isSome = true := by
    decide +kernel
  obtain ⟨s, hs⟩ := Option.isSome_iff_exists.mp hrun
  exact ⟨s, hs, audio_inSession _ _ s hs (by decide +kernel)⟩

/-! ### The end of a session is kept -/

/-- Events 152 and 153 and recoverable errors are not handled in the
handshake. -/
def EndsOutsideHandshake (json : Json) (s : Firmware) (a : Action) : Prop :=
  a.branch json = some .sessionFinish ∨ a.branch json = some .recoverableError →
    s.fsm.inHandshake = false

instance (json : Json) (s : Firmware) (a : Action) : Decidable (EndsOutsideHandshake json s a) :=
  inferInstanceAs (Decidable (_ → _))

/-- After the end of a session `g_session_active` is false and the main task
is not on its way to LISTENING, and it never went there. -/
structure EndKept (json : Json) (s : Firmware) : Prop where
  inactive : sessionOver json s.log = true → s.gSessionActive = false
  handshake : s.fsm.inHandshake = true → sessionOver json s.log = false
  notListening : Throughout (fun o earlier => o = .fsmListening →
    sessionOver json earlier = false) s.log

theorem EndKept.boot : EndKept json boot where
  inactive h := by cases h
  handshake h := by cases h
  notListening := trivial

theorem EndKept.of_loopHead (h : LoopHead s t) (hI : EndKept json s) : EndKept json t := by
  obtain ⟨-, hlog, hactive, -⟩ := h.frame
  refine ⟨fun hover => ?_, fun hpc => ?_, ?_⟩
  · rw [hlog] at hover
    exact hactive.trans (hI.inactive hover)
  · rw [h.inHandshake] at hpc
    cases hpc
  · rw [hlog]
    exact hI.notListening

theorem EndKept.stretch (hI : EndKept json s) (h : Stretch s t) : EndKept json t := by
  cases h with
  | move p hmove =>
    exact ⟨hI.inactive, fun hp => hI.handshake (hmove.inHandshake hp), hI.notListening⟩
  | sessionStart hpc =>
    -- `g_session_active` is set in the handshake, where the session is not over
    have hopen := hI.handshake (by rw [hpc]; rfl)
    refine ⟨fun hover => ?_, fun _ => hopen, hI.notListening⟩
    have hover : sessionOver json s.log = true := hover
    rw [hopen] at hover
    cases hover
  | buttonEnd _ => exact ⟨fun _ => rfl, nofun, hI.notListening⟩
  | connectFailed _ | sessionEnded _ _ | buttonDebounced _ =>
    exact ⟨hI.inactive, nofun, hI.notListening⟩
  | loop _ ht | ready _ ht | connecting _ ht =>
    exact .of_loopHead ht ⟨hI.inactive, nofun, hI.notListening⟩
  | bargein _ ht => exact .of_loopHead ht ⟨fun _ => rfl, nofun, hI.notListening⟩
  | finishHandshake hpc ht =>
    -- the task goes to LISTENING with a session that is not over
    have hopen := hI.handshake (inHandshake_of_endsHandshake hpc)
    exact .of_loopHead ht ⟨hI.inactive, nofun, fun _ => hopen, hI.notListening⟩

/-- A branch that does not end the session. -/
theorem EndKept.branch {k : Received} (hI : EndKept json s)
    (hk : k ≠ .sessionFinish ∧ k ≠ .recoverableError) (h : Branch s k t) : EndKept json t := by
  cases h with
  | audio _ => exact ⟨hI.inactive, hI.handshake, nofun, hI.notListening⟩
  | text _ _ | userQueryEnd | fatalError => exact ⟨hI.inactive, hI.handshake, hI.notListening⟩
  | turn _ | greetingEnded _ _ | exitIntent _ =>
    exact ⟨hI.inactive, hI.handshake, nofun, nofun, nofun, hI.notListening⟩
  | sessionFinish => exact absurd rfl hk.1
  | recoverableError => exact absurd rfl hk.2

theorem EndKept.receive {r : ParsedResponse} (hI : EndKept json s)
    (hguard : EndsOutsideHandshake json s (.receive r))
    (h : Branch { s with log := .received r :: s.log } (r.dispatch json) t) :
    EndKept json t := by
  by_cases hk : r.dispatch json = .sessionFinish ∨ r.dispatch json = .recoverableError
  · -- the session ends: the handler clears `g_session_active` at once
    have hpc := hguard (hk.imp (congrArg some) (congrArg some))
    -- and the main task is not on its way to LISTENING
    have hout : s.fsm.inHandshake = true → ∀ {b : Bool}, b = false := fun hp => by
      rw [hpc] at hp
      cases hp
    generalize r.dispatch json = k at h hk
    cases h with
    | sessionFinish => exact ⟨fun _ => rfl, fun hp => hout hp, nofun, hI.notListening⟩
    | recoverableError =>
      exact ⟨fun _ => rfl, fun hp => hout hp, nofun, nofun, nofun, nofun, hI.notListening⟩
    | text htext _ => obtain rfl | rfl := hk <;> cases htext
    | turn hturns =>
      obtain hc | ⟨hc, -⟩ := hturns <;> subst hc <;> obtain hk | hk := hk <;> cases hk
    | exitIntent hexit =>
      have hc := hexit.1
      subst hc
      obtain hk | hk := hk <;> cases hk
    | audio _ | userQueryEnd | greetingEnded _ _ | fatalError => obtain hk | hk := hk <;> cases hk
  · have hkeep : sessionOver json (.received r :: s.log) = sessionOver json s.log := if_neg hk
    have hI' : EndKept json { s with log := .received r :: s.log } :=
      ⟨fun hover => hI.inactive (hkeep.symm.trans hover),
        fun hp => hkeep.trans (hI.handshake hp), nofun, hI.notListening⟩
    exact hI'.branch (not_or.mp hk) h

/-- A command of the main task. -/
theorem EndKept.command {ok : Bool} {c : FsmCall} {cmd : Cmd} (hI : EndKept json s)
    (hpc : s.fsm = .call c) (hcmd : callCmd c = some cmd) :
    EndKept json { s.sendCommand cmd ok with fsm := .ret c (s.canSend ok) } := by
  refine ⟨fun hover => hI.inactive ?_, fun hret => ?_, nofun, hI.notListening⟩
  · -- a command never ends a session, so it was over before
    have hover : sessionOver json (.command cmd (s.canSend ok) :: s.log) = true := hover
    by_cases hstart : cmd = .startSession
    · subst hstart
      exact sessionOver_startSession hover
    · exact (sessionOver_command (Or.inl hstart)).symm.trans hover
  · change sessionOver json (.command cmd (s.canSend ok) :: s.log) = false
    obtain ⟨rfl, hsent⟩ | hcall := FsmPc.inHandshake_of_ret hret
    · -- the StartSession that was sent begins the next session
      obtain rfl : Cmd.startSession = cmd := Option.some.inj hcmd
      rw [hsent]
      rfl
    · cases c with
      | sayHello =>
        obtain rfl : Cmd.sayHello = cmd := Option.some.inj hcmd
        rw [sessionOver_command (Or.inl Cmd.noConfusion)]
        exact hI.handshake (by rw [hpc]; rfl)
      | _ => cases hcall

/-- Every step that meets the guard keeps the invariant. -/
theorem EndKept.step {a : Action} (hI : EndKept json s) (hguard : EndsOutsideHandshake json s a)
    (h : s.step json a = some t) : EndKept json t := by
  cases step_cases h with
  | fsm _ h => exact hI.stretch h
  | command ok hpc hcmd => exact hI.command hpc hcmd
  | client _ h =>
    obtain ⟨-, -, -, hactive, hlog⟩ := h.frame
    refine ⟨fun hover => ?_, fun hp => ?_, ?_⟩
    · refine hactive.trans (hI.inactive ?_)
      obtain hlog | hlog := hlog <;> rw [hlog] at hover <;> exact hover
    · rw [FsmPc.inHandshake_of_inClient h.inClient.2] at hp
      cases hp
    · obtain hlog | hlog := hlog <;> rw [hlog]
      · exact hI.notListening
      · exact ⟨nofun, hI.notListening⟩
  | connected _ _ _ | disconnected _ _ =>
    exact ⟨hI.inactive, hI.handshake, nofun, hI.notListening⟩
  | receive r _ _ _ h => exact hI.receive hguard h
  | wsFinish ok _ =>
    have hkeep : sessionOver json (.command .finishSession (s.canSend ok) :: s.log) =
        sessionOver json s.log := sessionOver_command (Or.inl Cmd.noConfusion)
    exact ⟨fun hover => hI.inactive (hkeep.symm.trans hover),
      fun hp => hkeep.trans (hI.handshake hp), nofun, hI.notListening⟩
  | exitDone _ => exact ⟨fun _ => rfl, hI.handshake, hI.notListening⟩
  | errorDone _ | appMain _ => exact ⟨hI.inactive, hI.handshake, hI.notListening⟩
  | wakeWord h =>
    cases h with
    | ignored => exact hI
    | start _ _ => exact ⟨hI.inactive, hI.handshake, hI.notListening⟩
    | bargein _ => exact ⟨hI.inactive, hI.handshake, nofun, nofun, nofun, hI.notListening⟩
  | fetch _ _ => exact ⟨hI.inactive, hI.handshake, hI.notListening⟩
  | tx _ _ h =>
    cases h with
    | quiet _ _ => exact ⟨hI.inactive, hI.handshake, hI.notListening⟩
    | send _ _ _ _ =>
      have hkeep : ∀ {ok chunk}, sessionOver json (.command .taskRequest ok ::
          .audio chunk :: s.log) = sessionOver json s.log :=
        fun {_ _} => sessionOver_command (Or.inl Cmd.noConfusion)
      exact ⟨fun hover => hI.inactive (hkeep.symm.trans hover),
        fun hp => hkeep.trans (hI.handshake hp), nofun, nofun, hI.notListening⟩

/-- The end of a session is not lost: after it `g_session_active` is false, and
the main task never put the device in LISTENING between it and the next
StartSession. -/
def SessionEndKept (json : Json) (s : Firmware) : Prop :=
  (sessionOver json s.log = true → s.gSessionActive = false) ∧
    ∀ later earlier, s.log = later ++ .fsmListening :: earlier →
      sessionOver json earlier = false

/-- **The end of a session is kept** in a run where it does not come in the
handshake. -/
theorem sessionEnd_kept (json : Json) (as : List Action) (s : Firmware)
    (hrun : (firmware json).run boot as = some s)
    (hguard : (firmware json).Guarded (EndsOutsideHandshake json) boot as) :
    SessionEndKept json s := by
  have hI : EndKept json s := Machine.inv_run_guarded (I := EndKept json)
    (fun hI hG h => hI.step hG h) EndKept.boot hguard hrun
  refine ⟨hI.inactive, fun later earlier hlog => ?_⟩
  have hlisten := hI.notListening
  rw [hlog] at hlisten
  exact hlisten.at rfl

/-- The server ends the session while the main task sleeps after
StartSession. -/
def earlyEnd : List Action :=
  sessionStarted ++ [.receive (serverEvent eventSessionFinish2), .fsm false]

theorem earlyEnd_lost :
    ∃ s, (firmware fun _ _ => none).run boot earlyEnd = some s ∧
      ¬ SessionEndKept (fun _ _ => none) s := by
  have hend : ((firmware fun _ _ => none).run boot earlyEnd).map (fun s =>
      (sessionOver (fun _ _ => none) s.log, s.gSessionActive)) = some (true, true) := by
    decide +kernel
  obtain ⟨s, hs, heq⟩ := Option.map_eq_some_iff.mp hend
  obtain ⟨hover, hactive⟩ := Prod.mk.inj heq
  -- the flag was written after the event had cleared it
  refine ⟨s, hs, fun hkept => ?_⟩
  rw [hkept.1 hover] at hactive
  cases hactive

/-- The server ends the first session in LISTENING. -/
theorem sessionEnd_kept_firstSession :
    ∃ s, (firmware fun _ _ => none).run boot
        (firstSession ++ [.receive (serverEvent eventSessionFinish1)]) = some s ∧
      SessionEndKept (fun _ _ => none) s := by
  have hrun : ((firmware fun _ _ => none).run boot
      (firstSession ++ [.receive (serverEvent eventSessionFinish1)])).isSome = true := by
    decide +kernel
  obtain ⟨s, hs⟩ := Option.isSome_iff_exists.mp hrun
  exact ⟨s, hs, sessionEnd_kept _ _ s hs (by decide +kernel)⟩

end Firmware

end BoxDoubao
