import BoxDoubao.App.Steps

/-!
# SPEAKING

While the device speaks the microphone is not streamed and the wake word is
armed (`speaking_micOff`). Only event 459 puts the device in SPEAKING, and it
switches both the right way; every later step that turns streaming on or the
wake word off puts the device in another state in the same stretch.

The reply ends with event 359, which ends the session when it carries the exit
code and gives the user the turn when it does not (`GivesTurnBack`).
`on_ws_receive` tells the end of a reply from the end of the greeting by
`g_say_hello_done` alone. The main task resets the flag 500 ms after
StartSession and leaves it unset when the wait for the greeting times out, so a
reply can end with the flag unset, and the device then stays in SPEAKING.
`givesTurnBack_of_afterGreeting`: the turn is given back in every run in which
a reply begins only after the greeting has ended.
-/

namespace BoxDoubao

namespace Firmware

/-- In SPEAKING the microphone is not streamed and WakeNet is enabled. -/
def MicOff (s : Firmware) : Prop :=
  s.gAppState = .speaking → s.sStreaming = false ∧ s.wakenet = true

variable {s t : Firmware}

theorem MicOff.boot : MicOff boot := by
  intro h
  cases h

theorem MicOff.loopHead (hI : MicOff s) (h : LoopHead s t) : MicOff t := by
  cases h with
  | exit | bargein _ | lostIdle _ _ | lostHandshaking _ _ | ready _ _ | startSession _ _
  | inSession _ _ => exact hI
  | idle _ | alreadyConnected _ _ | button _ _ | sessionEnded _ _ =>
    -- the device leaves for another state
    intro happ
    cases happ
  | cleanUp hconn _ | init hconn _ _ =>
    -- WakeNet goes off, but in CONNECTING
    intro happ
    have happ : s.gAppState = .speaking := happ
    rw [hconn] at happ
    cases happ
  | buttonInSession _ =>
    intro happ
    exact ⟨rfl, (hI happ).2⟩

theorem MicOff.stretch (hI : MicOff s) (h : Stretch s t) : MicOff t := by
  cases h with
  | move p _ => exact hI
  | sessionStart _ | buttonDebounced _ => exact hI
  | loop _ ht =>
    have htop : MicOff { s with fsm := .top } := hI
    exact htop.loopHead ht
  | ready _ ht | connecting _ ht | bargein _ ht | finishHandshake _ ht =>
    refine MicOff.loopHead (fun happ => ?_) ht
    cases happ
  | connectFailed _ | buttonEnd _ | sessionEnded _ _ =>
    intro happ
    cases happ

theorem MicOff.branch {k : Received} (hI : MicOff s) (h : Branch s k t) : MicOff t := by
  cases h with
  | audio _ | text _ _ | greetingEnded _ _ | fatalError => exact hI
  | turn _ | sessionFinish =>
    intro happ
    cases happ
  | userQueryEnd => exact fun _ => ⟨rfl, rfl⟩
  | exitIntent _ => exact fun _ => ⟨rfl, rfl⟩
  | recoverableError =>
    -- streaming goes off and WakeNet stays as it was in SPEAKING
    intro happ
    exact ⟨rfl, (hI happ).2⟩

theorem MicOff.clientStep (hI : MicOff s) (h : ClientStep s t) : MicOff t := by
  cases h <;> exact hI

/-- Every step keeps the microphone off in SPEAKING. -/
theorem MicOff.step {json : Json} {a : Action} (hI : MicOff s)
    (h : s.step json a = some t) : MicOff t := by
  cases step_cases h with
  | fsm _ h => exact hI.stretch h
  | client _ h => exact hI.clientStep h
  | receive r _ _ _ h =>
    have hlog : MicOff { s with log := .received r :: s.log } := hI
    exact hlog.branch h
  | command _ _ _ | connected _ _ _ | disconnected _ _ | wsFinish _ _ | fetch _ _ => exact hI
  | exitDone _ | errorDone _ | appMain _ =>
    intro happ
    cases happ
  | wakeWord h =>
    cases h with
    | ignored | bargein _ => exact hI
    | start _ _ =>
      intro happ
      cases happ
  | tx _ _ h => cases h <;> exact hI

/-- **While the device speaks the microphone is not streamed and the wake word
is armed**, in every state of every run. -/
theorem speaking_micOff (json : Json) (as : List Action) (s : Firmware)
    (hrun : (firmware json).run boot as = some s) (hspeaking : s.gAppState = .speaking) :
    s.sStreaming = false ∧ s.wakenet = true :=
  Machine.inv_run (I := MicOff) (fun hI h => hI.step h) MicOff.boot hrun hspeaking

/-- The first reply begins. -/
theorem speaking_micOff_firstReply :
    ∃ s, (firmware fun _ _ => none).run boot
        (firstSession ++ [.receive (serverEvent eventUserQueryEnd)]) = some s ∧
      s.sStreaming = false ∧ s.wakenet = true := by
  have happ : ((firmware fun _ _ => none).run boot
      (firstSession ++ [.receive (serverEvent eventUserQueryEnd)])).map (·.gAppState) =
        some .speaking := by decide +kernel
  obtain ⟨s, hs, hspeaking⟩ := Option.map_eq_some_iff.mp happ
  exact ⟨s, hs, speaking_micOff _ _ s hs hspeaking⟩

/-! ### Giving the turn back -/

/-- From the state after a step of `on_ws_receive`, the other tasks go on until
the handler has returned. -/
inductive HandlerReturns (json : Json) : Firmware → Firmware → Prop
  | done {s : Firmware} (h : s.ws = .idle) : HandlerReturns json s s
  | step {s t u : Firmware} {a : Action} (h : s.ws ≠ .idle) (hstep : s.step json a = some t)
      (hrest : HandlerReturns json t u) : HandlerReturns json s u

/-- The user has the turn. -/
def UserTurn (u : Firmware) : Prop := u.gAppState = .listening ∧ u.sStreaming = true

/-- FinishSession has been sent since `s`, and the device waits for a new
session. -/
def SessionClosed (s u : Firmware) : Prop :=
  u.gAppState = .connectedIdle ∧
    ∃ later ok earlier, u.log = later ++ .command .finishSession ok :: earlier ∧ s.log <:+ earlier

/-- Handling `r` comes to an end. It leaves the device in CONNECTED_IDLE after
FinishSession when `r` carries the exit code, and in LISTENING with streaming on
when it does not. -/
def GivesTurnBack (json : Json) (s : Firmware) (r : ParsedResponse) : Prop :=
  ∀ t, s.step json (.receive r) = some t → (∃ u, HandlerReturns json t u) ∧
    ∀ u, HandlerReturns json t u →
      (r.exitIntent json = true → SessionClosed s u) ∧ (r.exitIntent json = false → UserTurn u)

/-- A reply begins only after the greeting has ended: event 459 is handled
with `g_say_hello_done` set, and not between the decision to start a session
and the reset of the flag. -/
def AfterGreeting (json : Json) (s : Firmware) (a : Action) : Prop :=
  a.branch json = some .userQueryEnd → s.gSayHelloDone = true ∧ s.fsm.beforeGreeting = false

instance (json : Json) (s : Firmware) (a : Action) : Decidable (AfterGreeting json s a) :=
  inferInstanceAs (Decidable (_ → _))

/-- In SPEAKING the greeting has ended and the flag will not be reset. -/
def Greeted (s : Firmware) : Prop :=
  s.gAppState = .speaking → s.gSayHelloDone = true ∧ s.fsm.beforeGreeting = false

theorem Greeted.loopHead (hI : Greeted s) (h : LoopHead s t) : Greeted t := by
  cases h with
  | exit | bargein _ | lostIdle _ _ | ready _ _ | cleanUp _ _ | init _ _ _
  | lostHandshaking _ _ | buttonInSession _ | inSession _ _ =>
    exact fun happ => ⟨(hI happ).1, rfl⟩
  | idle _ | alreadyConnected _ _ | button _ _ | sessionEnded _ _ =>
    intro happ
    cases happ
  | startSession hhand _ =>
    -- a session is started in HANDSHAKING only
    intro happ
    have happ : s.gAppState = .speaking := happ
    rw [hhand] at happ
    cases happ

theorem Greeted.stretch (hI : Greeted s) (h : Stretch s t) : Greeted t := by
  cases h with
  | move p hmove =>
    intro happ
    refine ⟨(hI happ).1, eq_false_of_ne_true fun hp => ?_⟩
    exact absurd (hmove.beforeGreeting hp) (by rw [(hI happ).2]; exact Bool.false_ne_true)
  | sessionStart hpc =>
    -- the flag is reset here, but the device was not in SPEAKING
    intro happ
    have hbefore := (hI happ).2
    rw [hpc] at hbefore
    cases hbefore
  | buttonDebounced _ => exact fun happ => ⟨(hI happ).1, rfl⟩
  | loop _ ht =>
    have htop : Greeted { s with fsm := .top } := fun happ => ⟨(hI happ).1, rfl⟩
    exact htop.loopHead ht
  | ready _ ht | connecting _ ht | bargein _ ht | finishHandshake _ ht =>
    refine Greeted.loopHead (fun happ => ?_) ht
    cases happ
  | connectFailed _ | buttonEnd _ | sessionEnded _ _ =>
    intro happ
    cases happ

theorem Greeted.branch {k : Received} (hI : Greeted s)
    (hguard : k = .userQueryEnd → s.gSayHelloDone = true ∧ s.fsm.beforeGreeting = false)
    (h : Branch s k t) : Greeted t := by
  cases h with
  | audio _ | text _ _ | exitIntent _ | recoverableError | fatalError => exact hI
  | greetingEnded _ _ => exact fun happ => ⟨rfl, (hI happ).2⟩
  | turn _ | sessionFinish =>
    intro happ
    cases happ
  | userQueryEnd =>
    -- the only way into SPEAKING is the one the guard is about
    intro _
    exact hguard rfl

/-- Every step that meets the guard keeps the flag set in SPEAKING. -/
theorem Greeted.step {json : Json} {a : Action} (hI : Greeted s) (hguard : AfterGreeting json s a)
    (h : s.step json a = some t) : Greeted t := by
  cases step_cases h with
  | fsm _ h => exact hI.stretch h
  | client _ h =>
    intro happ
    have hpc := FsmPc.beforeGreeting_of_inClient h.inClient.2
    cases h <;> exact ⟨(hI happ).1, hpc⟩
  | receive r _ _ _ h =>
    have hlog : Greeted { s with log := .received r :: s.log } := hI
    exact hlog.branch (fun hk => hguard (congrArg some hk)) h
  | command ok hpc _ =>
    -- after the call the task is before the greeting only if it was at the call
    intro happ
    refine ⟨(hI happ).1, eq_false_of_ne_true fun hret => ?_⟩
    have hbefore := (hI happ).2
    rw [hpc, FsmPc.beforeGreeting_of_ret hret] at hbefore
    cases hbefore
  | connected _ _ _ | disconnected _ _ | wsFinish _ _ | fetch _ _ => exact hI
  | exitDone _ | errorDone _ | appMain _ =>
    intro happ
    cases happ
  | wakeWord h =>
    cases h with
    | ignored | bargein _ => exact hI
    | start _ _ =>
      intro happ
      cases happ
  | tx _ _ h => cases h <;> exact hI

/-- Wherever `on_ws_receive` stands, its own steps bring it to its end. -/
theorem exists_handlerReturns (json : Json) (s : Firmware) : ∃ u, HandlerReturns json s u := by
  have hdelay : ∀ {s : Firmware} {b : WsBranch}, s.ws = .delay b →
      ∃ u, HandlerReturns json s u := by
    intro s b hws
    have hne : s.ws ≠ .idle := by rw [hws]; exact WsPc.noConfusion
    have hres : s.step json .wsResume = s.wsResume := rfl
    unfold wsResume at hres
    cases b with
    | exitIntent =>
      simp only [hws] at hres
      exact ⟨_, .step hne hres (.done rfl)⟩
    | recoverableError =>
      simp only [hws] at hres
      exact ⟨_, .step hne hres (.done rfl)⟩
  -- from its place the handler has at most FinishSession and its delay ahead
  cases hws : s.ws with
  | idle => exact ⟨s, .done hws⟩
  | delay b => exact hdelay hws
  | finishSession b =>
    have hne : s.ws ≠ .idle := by rw [hws]; exact WsPc.noConfusion
    have hfin : s.step json (.wsFinish true) = s.wsFinish true := rfl
    simp only [wsFinish, hws] at hfin
    obtain ⟨u, hu⟩ := hdelay (s := { s.sendCommand .finishSession true with ws := .delay b }) rfl
    exact ⟨u, .step hne hfin hu⟩

/-- Once `on_ws_receive` has sent FinishSession it returns in CONNECTED_IDLE. -/
theorem HandlerReturns.of_delay {json : Json} (h : HandlerReturns json s t) {b : WsBranch}
    (hws : s.ws = .delay b) : t.gAppState = .connectedIdle ∧ s.log <:+ t.log := by
  induction h with
  | done hidle =>
    rw [hidle] at hws
    cases hws
  | step hne hstep hrest ih =>
    have hlog := log_suffix hstep
    obtain hsame | ⟨b', ok, hfin, -, -⟩ | ⟨b', -, hidle, happ⟩ := ws_cases hne hstep
    · obtain ⟨happ, hrest'⟩ := ih (hsame.trans hws)
      exact ⟨happ, hlog.trans hrest'⟩
    · rw [hfin] at hws
      cases hws
    · -- the handler has returned, so nothing more belongs to it
      cases hrest with
      | done _ => exact ⟨happ, hlog⟩
      | step hne' _ _ => exact absurd hidle hne'

/-- Once `on_ws_receive` has to finish the session it does so and returns in
CONNECTED_IDLE. -/
theorem HandlerReturns.of_finishSession {json : Json} (h : HandlerReturns json s t)
    {b : WsBranch} (hws : s.ws = .finishSession b) :
    t.gAppState = .connectedIdle ∧
      ∃ later ok earlier, t.log = later ++ .command .finishSession ok :: earlier ∧
        s.log <:+ earlier := by
  induction h with
  | done hidle =>
    rw [hidle] at hws
    cases hws
  | step hne hstep hrest ih =>
    obtain hsame | ⟨b', ok, -, hdelay, hsent⟩ | ⟨b', hdelay, -, -⟩ := ws_cases hne hstep
    · obtain ⟨happ, later, ok, earlier, hlog, hsuf⟩ := ih (hsame.trans hws)
      exact ⟨happ, later, ok, earlier, hlog, (log_suffix hstep).trans hsuf⟩
    · obtain ⟨happ, later, hlog⟩ := hrest.of_delay hdelay
      rw [hsent] at hlog
      exact ⟨happ, later, ok, _, hlog.symm, List.suffix_rfl⟩
    · rw [hws] at hdelay
      cases hdelay

/-- With the flag set, a 359 event gives the turn back. -/
theorem givesTurnBack_of_sayHelloDone {json : Json} {r : ParsedResponse}
    (hr : r.dispatch json = .ttsEnded (r.exitIntent json)) (hdone : s.gSayHelloDone = true) :
    GivesTurnBack json s r := by
  intro t hstep
  refine ⟨exists_handlerReturns json t, fun u hret => ?_⟩
  obtain ⟨hidle, -, -, hbranch⟩ := onWsReceive_cases hstep
  rw [hr] at hbranch
  generalize hk : Received.ttsEnded (r.exitIntent json) = k at hbranch
  cases hbranch with
  | turn hturn =>
    -- only an event without the exit code takes this branch
    have hnot : r.exitIntent json = false := by
      obtain hclear | ⟨hend, -⟩ := hturn
      · cases hk.trans hclear
      · exact Received.ttsEnded.inj (hk.trans hend)
    refine ⟨fun hexit => absurd (hexit.symm.trans hnot) (by decide), fun _ => ?_⟩
    -- the handler does not block, so it has returned
    cases hret with
    | done _ => exact ⟨rfl, rfl⟩
    | step hne _ _ => exact absurd hidle hne
  | exitIntent hends =>
    have hexit : r.exitIntent json = true := Received.ttsEnded.inj (hk.trans hends.1)
    refine ⟨fun _ => ?_, fun hnot => absurd (hexit.symm.trans hnot) (by decide)⟩
    obtain ⟨happ, later, ok, earlier, hlog, hsuf⟩ := hret.of_finishSession rfl
    exact ⟨happ, later, ok, earlier, hlog, (List.suffix_append [_, _, _, _] s.log).trans hsuf⟩
  | greetingEnded _ hnot =>
    have hnot : s.gSayHelloDone = false := hnot
    rw [hdone] at hnot
    cases hnot
  | text htext _ =>
    rw [← hk] at htext
    cases htext
  | audio _ | userQueryEnd | sessionFinish | recoverableError | fatalError => cases hk

/-- **The turn is given back** in every run in which replies begin only after
the greeting: a 359 event handled in SPEAKING leaves the device in LISTENING
with streaming on or, if and only if it carries the exit code, in CONNECTED_IDLE
after FinishSession, whatever the other tasks do while the handler blocks. -/
theorem givesTurnBack_of_afterGreeting (json : Json) (as : List Action) (s : Firmware)
    (hrun : (firmware json).run boot as = some s)
    (hguard : (firmware json).Guarded (AfterGreeting json) boot as)
    (hspeaking : s.gAppState = .speaking) (r : ParsedResponse)
    (hr : r.dispatch json = .ttsEnded (r.exitIntent json)) : GivesTurnBack json s r := by
  have hboot : Greeted boot := fun happ => by cases happ
  have hgreeted : Greeted s :=
    Machine.inv_run_guarded (I := Greeted) (fun hI hG h => hI.step hG h) hboot hguard hrun
  exact givesTurnBack_of_sayHelloDone hr (hgreeted hspeaking).1

/-- The greeting does not end within its 10 s; the first reply begins. -/
def greetingTimedOut : List Action :=
  greetingAsked ++ List.replicate 100 (.fsm false) ++ [.receive (serverEvent eventUserQueryEnd)]

/-- The end of the first reply is taken for the end of the greeting and the
device stays in SPEAKING. -/
theorem greetingTimedOut_keepsTurn :
    ∃ s, (firmware fun _ _ => none).run boot greetingTimedOut = some s ∧
      s.gAppState = .speaking ∧ s.gSessionActive = true ∧
      (serverEvent eventTtsEnded).dispatch (fun _ _ => none) =
        .ttsEnded ((serverEvent eventTtsEnded).exitIntent fun _ _ => none) ∧
      ¬ GivesTurnBack (fun _ _ => none) s (serverEvent eventTtsEnded) := by
  have hend : (((firmware fun _ _ => none).run boot greetingTimedOut).bind fun s =>
      (s.step (fun _ _ => none) (.receive (serverEvent eventTtsEnded))).map fun t =>
        (s.gAppState, s.gSessionActive, t.ws, t.gAppState)) =
      some (.speaking, true, .idle, .speaking) := by decide +kernel
  obtain ⟨s, hs, hstep⟩ := Option.bind_eq_some_iff.mp hend
  obtain ⟨t, ht, heq⟩ := Option.map_eq_some_iff.mp hstep
  simp only [Prod.mk.injEq] at heq
  obtain ⟨happ, hactive, hidle, hstay⟩ := heq
  refine ⟨s, hs, happ, hactive, by decide +kernel, fun hback => ?_⟩
  -- the handler has returned in SPEAKING
  obtain ⟨hlisten, -⟩ := ((hback t ht).2 t (.done hidle)).2 (by decide +kernel)
  rw [hstay] at hlisten
  cases hlisten

theorem givesTurnBack_firstReply :
    ∃ s, (firmware fun _ _ => none).run boot
        (firstSession ++ [.receive (serverEvent eventUserQueryEnd)]) = some s ∧
      GivesTurnBack (fun _ _ => none) s (serverEvent eventTtsEnded) := by
  have happ : ((firmware fun _ _ => none).run boot
      (firstSession ++ [.receive (serverEvent eventUserQueryEnd)])).map (·.gAppState) =
        some .speaking := by decide +kernel
  obtain ⟨s, hs, hspeaking⟩ := Option.map_eq_some_iff.mp happ
  exact ⟨s, hs, givesTurnBack_of_afterGreeting _ _ s hs (by decide +kernel) hspeaking _
    (by decide +kernel)⟩

end Firmware

end BoxDoubao
