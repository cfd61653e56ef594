import BoxDoubao.App.Firmware

/-!
# What a step can do

The inversion lemmas of the step function. A pass from the head of the loop to
the next blocking call has the outcomes of `LoopHead` (`loopHead_cases`); a
stretch of the main task is one of the ten kinds of `Stretch`
(`fsmResume_cases`); the steps of the client calls change the client, the
link and the place of the main task and nothing else (`clientStep_cases`); and
`on_ws_receive` runs the branch its response selects
(`onWsReceive_cases`). Every invariant of the firmware is proved from these,
without unfolding the code again.
-/

namespace BoxDoubao

/-- The branches that at most change the reply text. -/
def Received.isText : Received → Bool
  | .ttsText _ => true
  | .replyUpdate _ _ => true
  | .ignored => true
  | _ => false

/-! ### Places of the main task -/

namespace FsmPc

/-- Between StartSession and the end of the greeting: the session has been
started and the task will put the device in LISTENING. -/
def inHandshake : FsmPc → Bool
  | .ret .startSession true => true
  | .delay .sessionStart => true
  | .call .sayHello => true
  | .ret .sayHello _ => true
  | .delay (.helloWait _) => true
  | _ => false

/-- In a call that sets the client up or takes it down, or just after one. -/
def inClient : FsmPc → Bool
  | .call .init => true
  | .ret .init _ => true
  | .call .setRecvCallback => true
  | .ret .setRecvCallback _ => true
  | .call .connect => true
  | .connectWait => true
  | .connectStop => true
  | .ret .connect _ => true
  | .call (.destroy _) => true
  | .destroyStop _ => true
  | .ret (.destroy _) _ => true
  | _ => false

/-- The stretches that do nothing but go on to the next blocking call. -/
inductive Move : FsmPc → FsmPc → Prop
  | finishBargein (ok : Bool) : Move (.ret .finishBargein ok) (.delay .bargein)
  | finishButton (ok : Bool) : Move (.ret .finishButton ok) (.delay .buttonEnd)
  | cleanedUp (ok : Bool) : Move (.ret (.destroy .beforeInit) ok) (.call .init)
  | initDone : Move (.ret .init true) (.call .setRecvCallback)
  | callbackSet (ok : Bool) : Move (.ret .setRecvCallback ok) (.call .connect)
  | connected : Move (.ret .connect true) (.call .startConnection)
  | notConnected : Move (.ret .connect false) (.call (.destroy .connectFailed))
  | notStarted : Move (.ret .startConnection false) (.call (.destroy .startFailed))
  | sessionStarted : Move (.ret .startSession true) (.delay .sessionStart)
  | debounced : Move (.delay .debounce) (.delay .poll)
  | helloSent (ok : Bool) : Move (.ret .sayHello ok) (.delay (.helloWait 0))
  | helloWait (waitCount : ℕ) :
      Move (.delay (.helloWait waitCount)) (.delay (.helloWait (waitCount + 1)))

/-- About to start a session, or in the 500 ms after it, at the end of which
`g_say_hello_done` is reset. -/
def beforeGreeting : FsmPc → Bool
  | .call .startSession => true
  | .ret .startSession true => true
  | .delay .sessionStart => true
  | _ => false

/-- After a failed attempt to connect. -/
inductive ConnectFailed : FsmPc → Prop
  | init : ConnectFailed (.ret .init false)
  | connect (ok : Bool) : ConnectFailed (.ret (.destroy .connectFailed) ok)
  | start (ok : Bool) : ConnectFailed (.ret (.destroy .startFailed) ok)

/-- Where the task goes back to CONNECTED_IDLE and round the loop. -/
inductive BackToReady : FsmPc → Prop
  | connectionStarted : BackToReady (.ret .startConnection true)
  | sessionFailed : BackToReady (.ret .startSession false)

/-- Where the task goes back to CONNECTING and round the loop. -/
inductive BackToConnecting : FsmPc → Prop
  | lostIdle (ok : Bool) : BackToConnecting (.ret (.destroy .idle) ok)
  | lostHandshaking (ok : Bool) : BackToConnecting (.ret (.destroy .handshaking) ok)
  | retry : BackToConnecting (.delay .retry)

/-- Where a pass through the loop begins. -/
inductive AtTop : FsmPc → Prop
  | top : AtTop .top
  | poll : AtTop (.delay .poll)

end FsmPc

namespace FsmPc

variable {p q : FsmPc} {c : FsmCall} {ok : Bool}

theorem Move.inHandshake (h : Move p q) (hq : q.inHandshake = true) : p.inHandshake = true := by
  cases h with
  | sessionStarted | helloSent _ | helloWait _ => rfl
  | _ => cases hq

theorem inHandshake_of_inClient (h : p.inClient = true) : p.inHandshake = false := by
  unfold inClient at h
  split at h
  all_goals first | rfl | cases h

/-- A call ends in the handshake only if it is the StartSession that begins it
or is made in it. -/
theorem inHandshake_of_ret (h : (ret c ok).inHandshake = true) :
    (c = .startSession ∧ ok = true) ∨ (call c).inHandshake = true := by
  cases c with
  | startSession =>
    -- only a StartSession that was sent begins the handshake
    cases ok with
    | true => exact Or.inl ⟨rfl, rfl⟩
    | false => cases h
  | sayHello => exact Or.inr rfl
  | _ => cases h

theorem Move.beforeGreeting (h : Move p q) (hq : q.beforeGreeting = true) :
    p.beforeGreeting = true := by
  cases h with
  | sessionStarted => rfl
  | _ => cases hq

theorem beforeGreeting_of_inClient (h : p.inClient = true) : p.beforeGreeting = false := by
  unfold inClient at h
  split at h
  all_goals first | rfl | cases h

theorem beforeGreeting_of_ret (h : (ret c ok).beforeGreeting = true) :
    (call c).beforeGreeting = true := by
  cases c with
  | startSession => rfl
  | _ => cases h

end FsmPc

/-! ### The main task -/

namespace Firmware

/-- The wait for the greeting is over after `waitCount` delays. -/
def helloOver (s : Firmware) (waitCount : ℕ) : Bool :=
  s.gSayHelloDone || decide (waitCount ≥ 100) || !s.gRunning

/-- The next stretch of the main task ends the handshake. -/
def endsHandshake (s : Firmware) : Bool :=
  match s.fsm with
  | .ret .sayHello _ => s.helloOver 0
  | .delay (.helloWait waitCount) => s.helloOver (waitCount + 1)
  | _ => false

theorem inHandshake_of_endsHandshake {s : Firmware} (h : s.endsHandshake = true) :
    s.fsm.inHandshake = true := by
  unfold endsHandshake at h
  split at h
  · next hpc => rw [hpc]; rfl
  · next hpc => rw [hpc]; rfl
  · cases h

/-- The outcomes of a pass from the head of the loop to the next blocking
call. -/
inductive LoopHead (s : Firmware) : Firmware → Prop
  | exit : LoopHead s { s with fsm := .exited }
  | bargein (h : s.gBargeinRequested = true) :
      LoopHead s { s with
        gBargeinRequested := false
        replyText := s.replyText.clear
        fsm := .call .finishBargein }
  | idle (happ : s.gAppState = .idle) :
      LoopHead s { s with gAppState := .connecting, fsm := .delay .poll }
  | cleanUp (happ : s.gAppState = .connecting) (hc : s.client.connected = false) :
      LoopHead s { s with wakenet := false, fsm := .call (.destroy .beforeInit) }
  | init (happ : s.gAppState = .connecting) (hc : s.client.connected = false)
      (hhandle : s.client.wsHandle = false) :
      LoopHead s { s with wakenet := false, fsm := .call .init }
  | lostIdle (happ : s.gAppState = .connectedIdle) (hc : s.client.connected = false) :
      LoopHead s { s with fsm := .call (.destroy .idle) }
  | lostHandshaking (happ : s.gAppState = .handshaking) (hc : s.client.connected = false) :
      LoopHead s { s with fsm := .call (.destroy .handshaking) }
  | alreadyConnected (happ : s.gAppState = .connecting) (hc : s.client.connected = true) :
      LoopHead s { s with wakenet := true, gAppState := .connectedIdle, fsm := .delay .poll }
  | ready (happ : s.gAppState = .connectedIdle) (hc : s.client.connected = true) :
      LoopHead s { s with fsm := .delay .poll }
  | button (happ : s.gAppState = .connecting ∨ s.gAppState = .connectedIdle)
      (hc : s.client.connected = true) :
      LoopHead s { s with wakenet := false, gAppState := .handshaking, fsm := .delay .debounce }
  | startSession (happ : s.gAppState = .handshaking) (hc : s.client.connected = true) :
      LoopHead s { s with replyText := s.replyText.clear, fsm := .call .startSession }
  | buttonInSession (happ : s.gAppState = .listening ∨ s.gAppState = .speaking) :
      LoopHead s { s with sStreaming := false, fsm := .call .finishButton }
  | sessionEnded (happ : s.gAppState = .listening ∨ s.gAppState = .speaking)
      (hactive : s.gSessionActive = false) :
      LoopHead s { s with
        sStreaming := false
        wakenet := true
        gAppState := .connectedIdle
        fsm := .delay .poll }
  | inSession (happ : s.gAppState = .listening ∨ s.gAppState = .speaking)
      (hactive : s.gSessionActive = true) :
      LoopHead s { s with fsm := .delay .poll }

variable {s s' : Firmware} {button : Bool}

theorem stateConnectedIdle_cases (happ : s.gAppState = .connectedIdle) :
    LoopHead s (stateConnectedIdle button s) := by
  unfold stateConnectedIdle
  by_cases hc : s.client.connected = false
  · rw [if_pos hc]
    exact .lostIdle happ hc
  · rw [if_neg hc]
    have hc' := eq_true_of_ne_false hc
    cases button with
    | true => exact .button (Or.inr happ) hc'
    | false => exact .ready happ hc'

theorem stateConnecting_cases (happ : s.gAppState = .connecting) :
    LoopHead s (stateConnecting button s) := by
  unfold stateConnecting
  by_cases hc : s.client.connected = true
  · -- the pass goes on in CONNECTED_IDLE with the client connected
    rw [if_pos hc, stateConnectedIdle, if_neg (by simp [hc])]
    cases button with
    | true => exact .button (Or.inl happ) hc
    | false => exact .alreadyConnected happ hc
  · have hc' := eq_false_of_ne_true hc
    rw [if_neg hc]
    -- what is left of an old client is taken down first
    by_cases hclean : (s.client.eventGroup || s.client.recvBuf || s.client.wsHandle) = true
    · rw [if_pos hclean]
      exact .cleanUp happ hc'
    · rw [if_neg hclean]
      rw [Bool.or_eq_true, not_or] at hclean
      exact .init happ hc' (eq_false_of_ne_true hclean.2)

theorem stateHandshaking_cases (happ : s.gAppState = .handshaking) :
    LoopHead s (stateHandshaking s) := by
  unfold stateHandshaking
  by_cases hc : s.client.connected = false
  · rw [if_pos hc]
    exact .lostHandshaking happ hc
  · rw [if_neg hc]
    exact .startSession happ (eq_true_of_ne_false hc)

theorem stateInSession_cases (happ : s.gAppState = .listening ∨ s.gAppState = .speaking) :
    LoopHead s (stateInSession button s) := by
  unfold stateInSession
  cases button with
  | true => exact .buttonInSession happ
  | false =>
    rw [if_neg Bool.false_ne_true, checkSessionEnded]
    -- the second test of the check holds in both states
    have hne : s.gAppState ≠ .connectedIdle := by
      obtain h | h := happ <;> rw [h] <;> decide
    by_cases hactive : s.gSessionActive = false
    · rw [if_pos ⟨hactive, hne⟩]
      exact .sessionEnded happ hactive
    · rw [if_neg (fun h => hactive h.1)]
      exact .inSession happ (eq_true_of_ne_false hactive)

/-- A pass through the loop has one of the outcomes of `LoopHead`. -/
theorem loopHead_cases (button : Bool) (s : Firmware) : LoopHead s (loopHead button s) := by
  unfold loopHead
  by_cases hrun : s.gRunning = false
  · rw [if_pos hrun]
    exact .exit
  · rw [if_neg hrun]
    by_cases hbar : s.gBargeinRequested = true
    · rw [if_pos hbar]
      exact .bargein hbar
    · rw [if_neg hbar]
      cases happ : s.gAppState with
      | idle => exact .idle happ
      | connecting => exact stateConnecting_cases happ
      | connectedIdle => exact stateConnectedIdle_cases happ
      | handshaking => exact stateHandshaking_cases happ
      | listening => exact stateInSession_cases (Or.inl happ)
      | speaking => exact stateInSession_cases (Or.inr happ)

/-- The kinds of stretches of the main task. -/
inductive Stretch (s : Firmware) : Firmware → Prop
  | move (p : FsmPc) (h : FsmPc.Move s.fsm p) : Stretch s { s with fsm := p }
  | connectFailed (h : FsmPc.ConnectFailed s.fsm) : Stretch s (connectFailed s)
  | ready {t : Firmware} (h : FsmPc.BackToReady s.fsm)
      (ht : LoopHead { s with wakenet := true, gAppState := .connectedIdle, fsm := .top } t) :
      Stretch s t
  | connecting {t : Firmware} (h : FsmPc.BackToConnecting s.fsm)
      (ht : LoopHead { s with gAppState := .connecting, fsm := .top } t) : Stretch s t
  | loop {t : Firmware} (h : FsmPc.AtTop s.fsm) (ht : LoopHead { s with fsm := .top } t) :
      Stretch s t
  | bargein {t : Firmware} (h : s.fsm = .delay .bargein)
      (ht : LoopHead { s with
        gSessionActive := false
        gAppState := .handshaking
        fsm := .top } t) : Stretch s t
  | sessionStart (h : s.fsm = .delay .sessionStart) :
      Stretch s { s with gSayHelloDone := false, gSessionActive := true, fsm := .call .sayHello }
  | finishHandshake {t : Firmware} (h : s.endsHandshake = true)
      (ht : LoopHead { s with
        captureRb := []
        wakenet := false
        sStreaming := true
        log := .fsmListening :: s.log
        gAppState := .listening
        fsm := .top } t) : Stretch s t
  | buttonEnd (h : s.fsm = .delay .buttonEnd) :
      Stretch s { s with
        gSessionActive := false
        wakenet := true
        gAppState := .connectedIdle
        fsm := .delay .buttonDebounce }
  | sessionEnded (h : s.fsm = .delay .buttonDebounce) (hactive : s.gSessionActive = false) :
      Stretch s { s with
        sStreaming := false
        wakenet := true
        gAppState := .connectedIdle
        fsm := .delay .poll }
  | buttonDebounced (h : s.fsm = .delay .buttonDebounce) :
      Stretch s { s with fsm := .delay .poll }

theorem waitHello_cases (waitCount : ℕ) (hend : s.endsHandshake = s.helloOver waitCount)
    (hmove : FsmPc.Move s.fsm (.delay (.helloWait waitCount))) :
    Stretch s (waitHello button waitCount s) := by
  unfold waitHello
  -- the `while` condition, tested after the delay numbered `waitCount`
  by_cases hwait : s.gSayHelloDone = false ∧ waitCount < 100 ∧ s.gRunning = true
  · rw [if_pos hwait]
    exact .move _ hmove
  · rw [if_neg hwait]
    refine .finishHandshake (hend.trans (eq_true_of_ne_false fun hover => hwait ?_))
      (loopHead_cases button _)
    simpa [helloOver, and_assoc] using hover

theorem afterCall_cases {c : FsmCall} {ok : Bool} (h : s.fsm = .ret c ok) :
    Stretch s (afterCall button s c ok) := by
  cases c with
  | finishBargein => exact .move _ (h ▸ .finishBargein ok)
  | finishButton => exact .move _ (h ▸ .finishButton ok)
  | setRecvCallback => exact .move _ (h ▸ .callbackSet ok)
  | sayHello => exact waitHello_cases 0 (by rw [endsHandshake, h]) (h ▸ .helloSent ok)
  | startConnection =>
    cases ok with
    | true => exact .ready (h ▸ .connectionStarted) (loopHead_cases button _)
    | false => exact .move _ (h ▸ .notStarted)
  | startSession =>
    cases ok with
    | true => exact .move _ (h ▸ .sessionStarted)
    | false => exact .ready (h ▸ .sessionFailed) (loopHead_cases button _)
  | init =>
    cases ok with
    | true => exact .move _ (h ▸ .initDone)
    | false => exact .connectFailed (h ▸ .init)
  | connect =>
    cases ok with
    | true => exact .move _ (h ▸ .connected)
    | false => exact .move _ (h ▸ .notConnected)
  | destroy site =>
    cases site with
    | beforeInit => exact .move _ (h ▸ .cleanedUp ok)
    | connectFailed => exact .connectFailed (h ▸ .connect ok)
    | startFailed => exact .connectFailed (h ▸ .start ok)
    | idle => exact .connecting (h ▸ .lostIdle ok) (loopHead_cases button _)
    | handshaking => exact .connecting (h ▸ .lostHandshaking ok) (loopHead_cases button _)

theorem afterDelay_cases {d : FsmDelay} (h : s.fsm = .delay d) :
    Stretch s (afterDelay button s d) := by
  cases d with
  | poll => exact .loop (h ▸ .poll) (loopHead_cases button _)
  | bargein =>
    -- the task goes on into the `switch`, which is what a pass that finds the
    -- device in HANDSHAKING does
    have hhead : LoopHead { s with
        gSessionActive := false
        gAppState := .handshaking
        fsm := .top } (afterDelay button s .bargein) := by
      refine (congrArg (LoopHead _) ?_).mp (stateHandshaking_cases rfl)
      unfold afterDelay stateHandshaking
      split <;> rfl
    exact .bargein h hhead
  | retry => exact .connecting (h ▸ .retry) (loopHead_cases button _)
  | debounce => exact .move _ (h ▸ .debounced)
  | sessionStart => exact .sessionStart h
  | helloWait waitCount =>
    exact waitHello_cases (waitCount + 1) (by rw [endsHandshake, h]) (h ▸ .helloWait waitCount)
  | buttonEnd => exact .buttonEnd h
  | buttonDebounce =>
    unfold afterDelay checkSessionEnded
    by_cases hend : s.gSessionActive = false ∧ s.gAppState ≠ .connectedIdle
    · simp only [if_pos hend]
      exact .sessionEnded h hend.1
    · simp only [if_neg hend]
      exact .buttonDebounced h

/-- **The main task.** A stretch is of one of the kinds of `Stretch`. -/
theorem fsmResume_cases (h : s.fsmResume button = some s') : Stretch s s' := by
  unfold fsmResume at h
  cases hpc : s.fsm with
  | top =>
    rw [hpc, Option.some.injEq] at h
    subst h
    -- the first pass: the task stands at the head of the loop already
    refine .loop (hpc ▸ .top) ?_
    have hs : s = { s with fsm := .top } := by rw [← hpc]
    rw [← hs]
    exact loopHead_cases button s
  | ret c ok =>
    rw [hpc, Option.some.injEq] at h
    subst h
    exact afterCall_cases hpc
  | delay d =>
    rw [hpc, Option.some.injEq] at h
    subst h
    exact afterDelay_cases hpc
  | exited | call _ | connectWait | connectStop | destroyStop _ =>
    rw [hpc] at h
    cases h

/-! ### The calls of the main task -/

/-- A command call records the command and its result. -/
theorem fsmCommand_cases {ok : Bool} (h : s.fsmCommand ok = some s') :
    ∃ c cmd, s.fsm = .call c ∧ callCmd c = some cmd ∧
      s' = { s.sendCommand cmd ok with fsm := .ret c (s.canSend ok) } := by
  unfold fsmCommand at h
  cases hpc : s.fsm with
  | call c =>
    rw [hpc] at h
    cases hcmd : callCmd c with
    | none =>
      simp only [hcmd] at h
      cases h
    | some cmd =>
      simp only [hcmd, Option.some.injEq] at h
      exact ⟨c, cmd, rfl, hcmd, h.symm⟩
  | top | exited | connectWait | connectStop | destroyStop _ | ret _ _ | delay _ =>
    rw [hpc] at h
    cases h

/-- The steps of the calls that set the client up or take it down. -/
inductive ClientStep (s : Firmware) : Firmware → Prop
  | init (h : s.fsm = .call .init) (eventGroup recvBuf ok : Bool) :
      ClientStep s { s with
        client := { WsClient.zero with eventGroup := eventGroup, recvBuf := recvBuf }
        fsm := .ret .init ok }
  | setRecvCallback (h : s.fsm = .call .setRecvCallback) :
      ClientStep s { s with client.onRecv := true, fsm := .ret .setRecvCallback true }
  | started (h : s.fsm = .call .connect) :
      ClientStep s { s with client.wsHandle := true, fsm := .connectWait }
  | notStarted (h : s.fsm = .call .connect) :
      ClientStep s { s with client.wsHandle := false, fsm := .ret .connect false }
  | waited (h : s.fsm = .connectWait) :
      ClientStep s { s with
        client.bitConnected := false
        client.bitDisconnected := false
        fsm := .ret .connect true }
  | waitFailed (h : s.fsm = .connectWait) :
      ClientStep s { s with
        client.bitConnected := false
        client.bitDisconnected := false
        fsm := .connectStop }
  | connectStopped (h : s.fsm = .connectStop) (hws : s.ws = .idle) :
      ClientStep s { s.stopClient with fsm := .ret .connect false }
  | destroying (site : DestroySite) (h : s.fsm = .call (.destroy site))
      (bitConnected bitDisconnected : Bool) :
      ClientStep s { s with
        client.connected := false
        client.bitConnected := bitConnected
        client.bitDisconnected := bitDisconnected
        fsm := .destroyStop site }
  | destroyed (site : DestroySite) (h : s.fsm = .destroyStop site) (hws : s.ws = .idle) :
      ClientStep s { s.stopClient with
        client.recvBuf := false
        client.eventGroup := false
        fsm := .ret (.destroy site) true }

end Firmware

/-- The actions of those calls. -/
def Action.isClient : Action → Bool
  | .wsInit _ => true
  | .wsSetRecvCallback => true
  | .wsConnect _ => true
  | .wsConnectWait => true
  | .wsConnectStop => true
  | .wsDestroy => true
  | .wsDestroyStop => true
  | _ => false

namespace Firmware

variable {s s' : Firmware}

theorem wsInit_cases {r : InitResult} (h : s.wsInit r = some s') : ClientStep s s' := by
  unfold wsInit at h
  split at h
  · next hpc =>
    obtain rfl := Option.some.inj h
    exact .init hpc true true true
  · next hpc =>
    obtain rfl := Option.some.inj h
    exact .init hpc false false false
  · next hpc =>
    obtain rfl := Option.some.inj h
    exact .init hpc false true false
  · cases h

theorem wsSetRecvCallback_cases (h : s.wsSetRecvCallback = some s') : ClientStep s s' := by
  unfold wsSetRecvCallback at h
  split at h
  · next hpc =>
    obtain rfl := Option.some.inj h
    exact .setRecvCallback hpc
  · cases h

theorem wsConnect_cases {started : Bool} (h : s.wsConnect started = some s') :
    ClientStep s s' := by
  unfold wsConnect at h
  split at h
  · next hpc =>
    cases started with
    | true =>
      obtain rfl := Option.some.inj h
      exact .started hpc
    | false =>
      obtain rfl := Option.some.inj h
      exact .notStarted hpc
  · cases h

theorem wsConnectWait_cases (h : s.wsConnectWait = some s') : ClientStep s s' := by
  unfold wsConnectWait at h
  split at h
  · next hpc =>
    by_cases hbit : s.client.bitConnected = true
    · rw [if_pos hbit] at h
      obtain rfl := Option.some.inj h
      exact .waited hpc
    · rw [if_neg hbit] at h
      obtain rfl := Option.some.inj h
      exact .waitFailed hpc
  · cases h

theorem wsConnectStop_cases (h : s.wsConnectStop = some s') : ClientStep s s' := by
  unfold wsConnectStop at h
  split at h
  · next hpc =>
    obtain ⟨hws, h⟩ := Option.ite_none_right_eq_some.mp h
    obtain rfl := Option.some.inj h
    exact .connectStopped hpc hws
  · cases h

theorem wsDestroy_cases (h : s.wsDestroy = some s') : ClientStep s s' := by
  unfold wsDestroy at h
  split at h
  · next site hpc =>
    obtain rfl := Option.some.inj h
    exact .destroying site hpc _ _
  · cases h

theorem wsDestroyStop_cases (h : s.wsDestroyStop = some s') : ClientStep s s' := by
  unfold wsDestroyStop at h
  split at h
  · next site hpc =>
    obtain ⟨hws, h⟩ := Option.ite_none_right_eq_some.mp h
    obtain rfl := Option.some.inj h
    exact .destroyed site hpc hws
  · cases h

/-- What the client calls leave alone, and that the task stays among them. -/
theorem ClientStep.inClient (h : ClientStep s s') :
    s.fsm.inClient = true ∧ s'.fsm.inClient = true := by
  cases h with
  | init h | setRecvCallback h | started h | notStarted h | waited h | waitFailed h
  | connectStopped h | destroying _ h | destroyed _ h => exact ⟨by rw [h]; rfl, rfl⟩

/-! ### The network task -/

/-- The branches that give the user the turn: 450, and 359 after the greeting
without the exit code. -/
def TakesTurn (s : Firmware) (k : Received) : Prop :=
  k = .clearCache ∨ (k = .ttsEnded false ∧ s.gSayHelloDone = true)

instance (s : Firmware) (k : Received) : Decidable (s.TakesTurn k) :=
  inferInstanceAs (Decidable (_ ∨ _))

/-- The branch of a 359 event that ends the session. -/
def EndsByExit (s : Firmware) (k : Received) : Prop :=
  k = .ttsEnded true ∧ s.gSayHelloDone = true

instance (s : Firmware) (k : Received) : Decidable (s.EndsByExit k) :=
  inferInstanceAs (Decidable (_ ∧ _))

/-- What a branch of `on_ws_receive` does up to its first blocking call. -/
inductive Branch (s : Firmware) : Received → Firmware → Prop
  | audio (data : CMemory.Bytes) :
      Branch s (.ttsAudio data) { s with log := .speaker (.decodeOgg data) :: s.log }
  | text {k : Received} (h : k.isText = true) (t : ReplyText) :
      Branch s k { s with replyText := t }
  | turn {k : Received} (h : s.TakesTurn k) :
      Branch s k { s.silence with
        captureRb := []
        wakenet := false
        sStreaming := true
        gAppState := .listening }
  | userQueryEnd :
      Branch s .userQueryEnd { s with
        sStreaming := false
        wakenet := true
        captureRb := []
        gAppState := .speaking }
  | greetingEnded (exitIntent : Bool) (h : s.gSayHelloDone = false) :
      Branch s (.ttsEnded exitIntent) { s.silence with captureRb := [], gSayHelloDone := true }
  | exitIntent {k : Received} (h : s.EndsByExit k) :
      Branch s k { s.silence with
        captureRb := []
        sStreaming := false
        wakenet := true
        ws := .finishSession .exitIntent }
  | sessionFinish :
      Branch s .sessionFinish { s with
        gSessionActive := false
        sStreaming := false
        wakenet := true
        gAppState := .connectedIdle }
  | recoverableError :
      Branch s .recoverableError { s.silence with
        captureRb := []
        sStreaming := false
        gSessionActive := false
        replyText := s.replyText.clear
        ws := .finishSession .recoverableError }
  | fatalError : Branch s .fatalError { s with gRunning := false }

theorem act_cases {k : Received} (h : s.act k = some s') : Branch s k s' := by
  cases k with
  | ttsAudio data =>
    obtain rfl := Option.some.inj h
    exact .audio data
  | ttsText text =>
    -- a copy past an array would not be a step
    simp only [act] at h
    cases ht : s.replyText.ttsText text with
    | error e =>
      rw [ht] at h
      cases h
    | ok t =>
      rw [ht] at h
      obtain rfl := Option.some.inj h
      exact .text rfl t
  | replyUpdate replyId content =>
    simp only [act] at h
    cases ht : s.replyText.replyUpdate replyId content with
    | error e =>
      rw [ht] at h
      cases h
    | ok t =>
      rw [ht] at h
      obtain rfl := Option.some.inj h
      exact .text rfl t
  | clearCache =>
    obtain rfl := Option.some.inj h
    exact .turn (Or.inl rfl)
  | userQueryEnd =>
    obtain rfl := Option.some.inj h
    exact .userQueryEnd
  | ttsEnded exitIntent =>
    -- the end of the greeting, or of a reply, with or without the exit code
    change (if s.gSayHelloDone = false then _ else _) = some s' at h
    by_cases hdone : s.gSayHelloDone = false
    · rw [if_pos hdone] at h
      obtain rfl := Option.some.inj h
      exact .greetingEnded exitIntent hdone
    · rw [if_neg hdone] at h
      cases exitIntent with
      | true =>
        obtain rfl := Option.some.inj h
        exact .exitIntent ⟨rfl, eq_true_of_ne_false hdone⟩
      | false =>
        obtain rfl := Option.some.inj h
        exact .turn (Or.inr ⟨rfl, eq_true_of_ne_false hdone⟩)
  | sessionFinish =>
    obtain rfl := Option.some.inj h
    exact .sessionFinish
  | recoverableError =>
    obtain rfl := Option.some.inj h
    exact .recoverableError
  | fatalError =>
    obtain rfl := Option.some.inj h
    exact .fatalError
  | ignored =>
    obtain rfl := Option.some.inj h
    exact .text rfl s.replyText

/-- **The receive callback.** It records the response and takes one branch. -/
theorem onWsReceive_cases {json : Json} {r : ParsedResponse}
    (h : s.onWsReceive json r = some s') :
    s.ws = .idle ∧ s.client.wsHandle = true ∧ s.link = true ∧
      Branch { s with log := .received r :: s.log } (r.dispatch json) s' := by
  unfold onWsReceive at h
  obtain ⟨⟨hws, hhandle, hlink, -⟩, h⟩ := Option.ite_none_right_eq_some.mp h
  exact ⟨hws, hhandle, hlink, act_cases h⟩

/-! ### The other tasks -/

/-- The outcomes of an iteration of `ws_tx_task`. -/
inductive TxStep (ok : Bool) (s : Firmware) : Firmware → Prop
  | quiet (captureRb pcmChunk : CMemory.Bytes) :
      TxStep ok s { s with captureRb := captureRb, pcmChunk := pcmChunk }
  | send (happ : s.gAppState = .listening) (hc : s.client.connected = true)
      (captureRb chunk : CMemory.Bytes) :
      TxStep ok s { s with
        captureRb := captureRb
        pcmChunk := []
        log := .command .taskRequest (s.canSend ok) :: .audio chunk :: s.log }

theorem tx_cases {itemSize : ℕ} {ok : Bool} (h : s.tx itemSize ok = some s') :
    TxStep ok s s' := by
  unfold tx at h
  obtain ⟨-, h⟩ := Option.ite_none_left_eq_some.mp h
  by_cases happ : s.gAppState = .listening
  · rw [if_neg (not_not.mpr happ)] at h
    by_cases hc : s.client.connected = false
    · rw [if_pos hc] at h
      obtain rfl := Option.some.inj h
      exact .quiet s.captureRb s.pcmChunk
    · rw [if_neg hc] at h
      obtain ⟨-, h⟩ := Option.ite_none_left_eq_some.mp h
      -- a whole chunk has been accumulated, or not
      simp only at h
      split at h
      · obtain rfl := Option.some.inj h
        exact .send happ (eq_true_of_ne_false hc) _ _
      · obtain rfl := Option.some.inj h
        exact .quiet _ _
  · rw [if_pos happ] at h
    obtain rfl := Option.some.inj h
    exact .quiet s.captureRb []

/-- The outcomes of `on_wake_word`. -/
inductive WakeWord (s : Firmware) : Firmware → Prop
  | ignored : WakeWord s s
  | start (happ : s.gAppState = .connectedIdle) (hc : s.client.connected = true) :
      WakeWord s { s with wakenet := false, gAppState := .handshaking }
  | bargein (happ : s.gAppState = .speaking) :
      WakeWord s { s.silence with gBargeinRequested := true }

theorem onWakeWord_cases (s : Firmware) : WakeWord s s.onWakeWord := by
  unfold onWakeWord
  cases happ : s.gAppState with
  | connectedIdle =>
    simp only
    by_cases hc : s.client.connected = false
    · rw [if_pos hc]
      exact .ignored
    · rw [if_neg hc]
      exact .start happ (eq_true_of_ne_false hc)
  | speaking => exact .bargein happ
  | idle | connecting | handshaking | listening => exact .ignored

/-! ### All steps -/

/-- The steps of the firmware, by task. -/
inductive Step (json : Json) (s : Firmware) : Action → Firmware → Prop
  | fsm {t : Firmware} (button : Bool) (h : Stretch s t) : Step json s (.fsm button) t
  | command (ok : Bool) {c : FsmCall} {cmd : Cmd} (hpc : s.fsm = .call c)
      (hcmd : callCmd c = some cmd) :
      Step json s (.fsmCommand ok) { s.sendCommand cmd ok with fsm := .ret c (s.canSend ok) }
  | client {t : Firmware} {a : Action} (ha : a.isClient = true) (h : ClientStep s t) :
      Step json s a t
  | connected (hws : s.ws = .idle) (hhandle : s.client.wsHandle = true) (hlink : s.link = false) :
      Step json s .connected { s with
        link := true
        client.connected := true
        client.bitConnected := true
        log := .connected :: s.log }
  | disconnected (hws : s.ws = .idle) (hhandle : s.client.wsHandle = true) :
      Step json s .disconnected { s with
        link := false
        client.connected := false
        client.bitDisconnected := true
        log := .disconnected :: s.log }
  | receive {t : Firmware} (r : ParsedResponse) (hws : s.ws = .idle)
      (hhandle : s.client.wsHandle = true) (hlink : s.link = true)
      (h : Branch { s with log := .received r :: s.log } (r.dispatch json) t) :
      Step json s (.receive r) t
  | wsFinish (ok : Bool) {b : WsBranch} (hws : s.ws = .finishSession b) :
      Step json s (.wsFinish ok) { s.sendCommand .finishSession ok with ws := .delay b }
  | exitDone (hws : s.ws = .delay .exitIntent) :
      Step json s .wsResume { s with
        gSessionActive := false
        gAppState := .connectedIdle
        ws := .idle }
  | errorDone (hws : s.ws = .delay .recoverableError) :
      Step json s .wsResume { s with wakenet := true, gAppState := .connectedIdle, ws := .idle }
  | wakeWord {t : Firmware} (h : WakeWord s t) : Step json s .wakeWord t
  | fetch (data : CMemory.Bytes) (hstream : s.sStreaming = true) :
      Step json s (.fetch data) { s with captureRb := s.captureRb ++ data }
  | tx {t : Firmware} (itemSize : ℕ) (ok : Bool) (h : TxStep ok s t) :
      Step json s (.tx itemSize ok) t
  | appMain (hboot : s.booting = true) :
      Step json s .appMain { s with gAppState := .connecting, booting := false }

/-- **What a step can do.** -/
theorem step_cases {json : Json} {a : Action} (h : s.step json a = some s') :
    Step json s a s' := by
  cases a with
  | fsm button => exact .fsm button (fsmResume_cases h)
  | fsmCommand ok =>
    obtain ⟨c, cmd, hpc, hcmd, rfl⟩ := fsmCommand_cases h
    exact .command ok hpc hcmd
  | wsInit r => exact .client rfl (wsInit_cases h)
  | wsSetRecvCallback => exact .client rfl (wsSetRecvCallback_cases h)
  | wsConnect started => exact .client rfl (wsConnect_cases h)
  | wsConnectWait => exact .client rfl (wsConnectWait_cases h)
  | wsConnectStop => exact .client rfl (wsConnectStop_cases h)
  | wsDestroy => exact .client rfl (wsDestroy_cases h)
  | wsDestroyStop => exact .client rfl (wsDestroyStop_cases h)
  | connected =>
    simp only [step, onConnected] at h
    split at h
    · next hup =>
      obtain rfl := Option.some.inj h
      exact .connected hup.1 hup.2.1 hup.2.2
    · cases h
  | disconnected =>
    simp only [step, onDisconnected] at h
    split at h
    · next hup =>
      obtain rfl := Option.some.inj h
      exact .disconnected hup.1 hup.2
    · cases h
  | receive r =>
    obtain ⟨hws, hhandle, hlink, hbranch⟩ := onWsReceive_cases h
    exact .receive r hws hhandle hlink hbranch
  | wsFinish ok =>
    simp only [step, wsFinish] at h
    split at h
    · next b hws =>
      obtain rfl := Option.some.inj h
      exact .wsFinish ok hws
    · cases h
  | wsResume =>
    simp only [step, wsResume] at h
    split at h
    · next hws =>
      obtain rfl := Option.some.inj h
      exact .exitDone hws
    · next hws =>
      obtain rfl := Option.some.inj h
      exact .errorDone hws
    · cases h
  | wakeWord =>
    obtain rfl := Option.some.inj h
    exact .wakeWord (onWakeWord_cases s)
  | fetch data =>
    simp only [step, Firmware.fetch] at h
    split at h
    · next hstream =>
      obtain rfl := Option.some.inj h
      exact .fetch data hstream
    · cases h
  | tx itemSize ok => exact .tx itemSize ok (tx_cases h)
  | appMain =>
    simp only [step, Firmware.appMain] at h
    split at h
    · next hboot =>
      obtain rfl := Option.some.inj h
      exact .appMain hboot
    · cases h

/-! ### What a step leaves alone -/

/-- A pass from the head of the loop ends outside the handshake. -/
theorem LoopHead.inHandshake (h : LoopHead s s') : s'.fsm.inHandshake = false := by
  cases h <;> rfl

/-- It never puts the device in LISTENING. -/
theorem LoopHead.listening (h : LoopHead s s') (happ : s'.gAppState = .listening) :
    s.gAppState = .listening := by
  cases h with
  | idle _ | alreadyConnected _ _ | button _ _ | sessionEnded _ _ => cases happ
  | _ => exact happ

theorem LoopHead.frame (h : LoopHead s s') :
    s'.ws = s.ws ∧ s'.log = s.log ∧ s'.gSessionActive = s.gSessionActive ∧
      s'.gSayHelloDone = s.gSayHelloDone ∧ s'.client = s.client ∧ s'.link = s.link ∧
      s'.booting = s.booting := by
  cases h <;> exact ⟨rfl, rfl, rfl, rfl, rfl, rfl, rfl⟩

theorem Stretch.ws_eq (h : Stretch s s') : s'.ws = s.ws := by
  cases h with
  | ready _ ht | connecting _ ht | loop _ ht | bargein _ ht | finishHandshake _ ht =>
    exact ht.frame.1
  | move _ _ | connectFailed _ | sessionStart _ | buttonEnd _ | sessionEnded _ _
  | buttonDebounced _ => rfl

/-- The client calls touch none of the application's variables; taking the
client down is recorded. -/
theorem ClientStep.frame (h : ClientStep s s') :
    s'.ws = s.ws ∧ s'.gAppState = s.gAppState ∧ s'.sStreaming = s.sStreaming ∧
      s'.gSessionActive = s.gSessionActive ∧ (s'.log = s.log ∨ s'.log = .stopped :: s.log) := by
  cases h with
  | connectStopped _ _ | destroyed _ _ _ =>
    -- the client is stopped only where there is one
    refine ⟨rfl, rfl, rfl, rfl, ?_⟩
    change (if s.client.wsHandle then .stopped :: s.log else s.log) = s.log ∨
      (if s.client.wsHandle then .stopped :: s.log else s.log) = .stopped :: s.log
    cases s.client.wsHandle with
    | true => exact Or.inr rfl
    | false => exact Or.inl rfl
  | _ => exact ⟨rfl, rfl, rfl, rfl, Or.inl rfl⟩

theorem Branch.log_suffix {k : Received} (h : Branch s k s') : s.log <:+ s'.log := by
  cases h with
  | audio _ => exact List.suffix_cons _ _
  | turn _ | greetingEnded _ _ | exitIntent _ | recoverableError =>
    exact List.suffix_append [_, _, _] _
  | text _ _ | userQueryEnd | sessionFinish | fatalError => exact List.suffix_rfl

/-- The history only grows. -/
theorem log_suffix {json : Json} {a : Action} (h : s.step json a = some s') :
    s.log <:+ s'.log := by
  cases step_cases h with
  | fsm _ h =>
    cases h with
    | ready _ ht | connecting _ ht | loop _ ht | bargein _ ht =>
      exact ht.frame.2.1.symm ▸ List.suffix_rfl
    | finishHandshake _ ht => exact ht.frame.2.1.symm ▸ List.suffix_cons _ _
    | move _ _ | connectFailed _ | sessionStart _ | buttonEnd _ | sessionEnded _ _
    | buttonDebounced _ => exact List.suffix_rfl
  | client _ h =>
    obtain hlog | hlog := h.frame.2.2.2.2
    · exact hlog.symm ▸ List.suffix_rfl
    · exact hlog.symm ▸ List.suffix_cons _ _
  | receive r _ _ _ h =>
    exact (List.suffix_cons (.received r) s.log).trans h.log_suffix
  | wakeWord h =>
    cases h with
    | bargein _ => exact List.suffix_append [_, _, _] _
    | ignored | start _ _ => exact List.suffix_rfl
  | tx _ _ h =>
    cases h with
    | quiet _ _ => exact List.suffix_rfl
    | send _ _ _ _ => exact List.suffix_append [_, _] _
  | command _ _ _ | connected _ _ _ | disconnected _ _ | wsFinish _ _ =>
    exact List.suffix_cons _ _
  | exitDone _ | errorDone _ | fetch _ _ | appMain _ => exact List.suffix_rfl

/-- While the network task is in `on_ws_receive`, a step leaves it where it is,
or is its FinishSession, or its return to CONNECTED_IDLE. -/
theorem ws_cases {json : Json} {a : Action} (hws : s.ws ≠ .idle)
    (h : s.step json a = some s') :
    s'.ws = s.ws ∨
      (∃ b ok, s.ws = .finishSession b ∧ s'.ws = .delay b ∧
        s'.log = .command .finishSession ok :: s.log) ∨
      (∃ b, s.ws = .delay b ∧ s'.ws = .idle ∧ s'.gAppState = .connectedIdle) := by
  cases step_cases h with
  | fsm _ h => exact Or.inl h.ws_eq
  | client _ h => exact Or.inl h.frame.1
  | wsFinish ok hpc => exact Or.inr (Or.inl ⟨_, _, hpc, rfl, rfl⟩)
  | exitDone hpc | errorDone hpc => exact Or.inr (Or.inr ⟨_, hpc, rfl, rfl⟩)
  | connected hidle _ _ | disconnected hidle _ | receive _ hidle _ _ _ =>
    -- these are handled by the same task
    exact absurd hidle hws
  | wakeWord h => cases h <;> exact Or.inl rfl
  | tx _ _ h => cases h <;> exact Or.inl rfl
  | command _ _ _ | fetch _ _ | appMain _ => exact Or.inl rfl

end Firmware

end BoxDoubao
