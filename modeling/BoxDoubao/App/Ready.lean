import BoxDoubao.App.Steps

/-!
# Ready

CONNECTED_IDLE is shown as "Ready". Most of the places that put the device
there turn streaming off first, but not in the same step: in between comes a
blocking call, or the main task has decided on the way to CONNECTED_IDLE
earlier. An event that turns streaming on in between leaves it on in
CONNECTED_IDLE. `ready_micOff` says that these are the only ways: while no task
is on its way out of LISTENING (`leaving`) when streaming is turned on, Ready
means that the microphone is off.
-/

namespace BoxDoubao

namespace FsmPc

/-- From here the main task takes the device to another state without turning
streaming off again. -/
def leaving : FsmPc → Bool
  | .call .finishBargein => true
  | .ret .finishBargein _ => true
  | .delay .bargein => true
  | .call .finishButton => true
  | .ret .finishButton _ => true
  | .delay .buttonEnd => true
  | .call .startConnection => true
  | .ret .startConnection _ => true
  | .delay .retry => true
  | .call .startSession => true
  | .ret .startSession false => true
  | p => p.inClient

variable {p q : FsmPc} {c : FsmCall} {ok : Bool}

theorem leaving_of_inClient (h : p.inClient = true) : p.leaving = true := by
  unfold leaving
  split <;> first | rfl | exact h

theorem Move.leaving (h : Move p q) (hq : q.leaving = true) : p.leaving = true := by
  cases h with
  | sessionStarted | debounced | helloSent _ | helloWait _ => cases hq
  | _ => rfl

theorem ConnectFailed.leaving (h : ConnectFailed p) : p.leaving = true := by
  cases h <;> rfl

theorem BackToReady.leaving (h : BackToReady p) : p.leaving = true := by
  cases h <;> rfl

theorem BackToConnecting.leaving (h : BackToConnecting p) : p.leaving = true := by
  cases h <;> rfl

theorem leaving_of_ret (h : (ret c ok).leaving = true) : (call c).leaving = true := by
  cases c with
  | sayHello => cases h
  | _ => rfl

end FsmPc

namespace Firmware

variable {s t : Firmware} {json : Json}

/-- Some task is on its way out of LISTENING: `app_main` before its last
assignment, a barge-in that was requested, `on_ws_receive` in a branch that
blocks, or the main task. -/
def leaving (s : Firmware) : Bool :=
  s.booting || s.gBargeinRequested || decide (s.ws ≠ .idle) || s.fsm.leaving

/-- Streaming is turned on, by an event or at the end of the handshake, only
while no task is on its way out of LISTENING. -/
def StreamsToStay (json : Json) (s : Firmware) (a : Action) : Prop :=
  (∀ k ∈ a.branch json, s.TakesTurn k → s.leaving = false) ∧
    (a.isFsm = true → s.endsHandshake = true → s.leaving = false)

instance (json : Json) (s : Firmware) (a : Action) : Decidable (StreamsToStay json s a) :=
  inferInstanceAs (Decidable (_ ∧ _))

/-- Streaming is on in LISTENING only, and stays on there. -/
def StreamsListening (s : Firmware) : Prop :=
  s.sStreaming = true → s.gAppState = .listening ∧ s.leaving = false

/-- While a task is on its way out of LISTENING, or outside LISTENING, the
microphone is off. -/
theorem StreamsListening.off (hI : StreamsListening s)
    (h : s.leaving = true ∨ s.gAppState ≠ .listening) : s.sStreaming = false := by
  refine eq_false_of_ne_true fun hon => ?_
  obtain ⟨happ, hstay⟩ := hI hon
  obtain h | h := h
  · rw [hstay] at h
    cases h
  · exact h happ

theorem StreamsListening.of_off (h : s.sStreaming = false) : StreamsListening s := by
  intro hon
  rw [h] at hon
  cases hon

theorem leaving_of_fsm (h : s.fsm.leaving = true) : s.leaving = true := by
  simp [leaving, h]

theorem leaving_of_ws (h : s.ws ≠ .idle) : s.leaving = true := by
  simp [leaving, h]

/-- A step that only moves the main task stays in LISTENING unless the place it
leaves was already on the way out. -/
theorem StreamsListening.move {p : FsmPc} (hI : StreamsListening s)
    (hp : p.leaving = true → s.fsm.leaving = true) : StreamsListening { s with fsm := p } := by
  intro hon
  obtain ⟨happ, hstay⟩ := hI hon
  refine ⟨happ, eq_false_of_ne_true fun hleave => ?_⟩
  -- the other tasks stand where they stood
  have hs : s.leaving = true := by
    simp only [leaving, Bool.or_eq_true] at hleave ⊢
    exact hleave.imp_right hp
  rw [hstay] at hs
  cases hs

theorem StreamsListening.of_loopHead (h : LoopHead s t) (hI : StreamsListening s) :
    StreamsListening t := by
  -- outside LISTENING the microphone is off already
  have houtside : ∀ {app : AppState}, s.gAppState = app → app ≠ .listening →
      s.sStreaming = false := fun happ hne => hI.off (Or.inr (by rw [happ]; exact hne))
  cases h with
  | exit | inSession _ _ => exact hI.move nofun
  | bargein h => exact .of_off (hI.off (Or.inl (by simp [leaving, h])))
  | idle happ | cleanUp happ _ | init happ _ _ | lostIdle happ _ | lostHandshaking happ _
  | alreadyConnected happ _ | ready happ _ | startSession happ _ =>
    exact .of_off (houtside happ AppState.noConfusion)
  | button happ _ =>
    refine .of_off (hI.off (Or.inr ?_))
    obtain happ | happ := happ <;> rw [happ] <;> exact AppState.noConfusion
  | buttonInSession _ => exact .of_off rfl
  | sessionEnded _ _ => exact .of_off rfl

theorem StreamsListening.stretch (hI : StreamsListening s)
    (hguard : s.endsHandshake = true → s.leaving = false) (h : Stretch s t) :
    StreamsListening t := by
  -- on its way out of LISTENING the task finds the microphone off
  have hoff : s.fsm.leaving = true → s.sStreaming = false :=
    fun hpc => hI.off (Or.inl (leaving_of_fsm hpc))
  cases h with
  | move p hmove => exact hI.move hmove.leaving
  | connectFailed hpc => exact .of_off (hoff hpc.leaving)
  | ready hpc ht => exact .of_loopHead ht (.of_off (hoff hpc.leaving))
  | connecting hpc ht => exact .of_loopHead ht (.of_off (hoff hpc.leaving))
  | loop _ ht => exact .of_loopHead ht (hI.move nofun)
  | bargein hpc ht => exact .of_loopHead ht (.of_off (hoff (by rw [hpc]; rfl)))
  | sessionStart _ => exact hI.move (p := .call .sayHello) nofun
  | finishHandshake hend ht =>
    -- streaming goes on, and no task is on its way out
    have hstay := hguard hend
    refine .of_loopHead ht fun _ => ⟨rfl, ?_⟩
    simp only [leaving, Bool.or_eq_false_iff] at hstay ⊢
    exact ⟨hstay.1, rfl⟩
  | buttonEnd hpc => exact .of_off (hoff (by rw [hpc]; rfl))
  | sessionEnded _ _ => exact .of_off rfl
  | buttonDebounced _ => exact hI.move nofun

theorem StreamsListening.branch {k : Received} (hI : StreamsListening s)
    (hturn : s.TakesTurn k → s.leaving = false) (h : Branch s k t) : StreamsListening t := by
  cases h with
  | audio _ | text _ _ | greetingEnded _ _ | fatalError => exact hI
  | turn hturns =>
    -- streaming goes on where no task is on its way out
    have hstay := hturn hturns
    intro _
    exact ⟨rfl, hstay⟩
  | userQueryEnd | sessionFinish => exact .of_off rfl
  | exitIntent _ => exact .of_off rfl
  | recoverableError => exact .of_off rfl

/-- Every step that meets the guard keeps the invariant. -/
theorem StreamsListening.step {a : Action} (hI : StreamsListening s)
    (hguard : StreamsToStay json s a) (h : s.step json a = some t) : StreamsListening t := by
  cases step_cases h with
  | fsm _ h => exact hI.stretch (hguard.2 rfl) h
  | command ok hpc _ =>
    refine hI.move fun hret => ?_
    rw [hpc]
    exact FsmPc.leaving_of_ret hret
  | client _ h =>
    have hpc := leaving_of_fsm (FsmPc.leaving_of_inClient h.inClient.1)
    exact .of_off (h.frame.2.2.1.trans (hI.off (Or.inl hpc)))
  | connected _ _ _ | disconnected _ _ | fetch _ _ => exact hI
  | receive r _ _ _ h =>
    have hI' : StreamsListening { s with log := .received r :: s.log } := hI
    exact hI'.branch (hguard.1 _ rfl) h
  | wsFinish _ hws =>
    -- the branch turned streaming off before it blocked
    exact .of_off (hI.off (Or.inl (leaving_of_ws (by rw [hws]; exact WsPc.noConfusion))))
  | exitDone hws | errorDone hws =>
    exact .of_off (hI.off (Or.inl (leaving_of_ws (by rw [hws]; exact WsPc.noConfusion))))
  | wakeWord h =>
    cases h with
    | ignored => exact hI
    | start happ _ =>
      exact .of_off (hI.off (Or.inr (by rw [happ]; exact AppState.noConfusion)))
    | bargein happ =>
      exact .of_off (hI.off (Or.inr (by rw [happ]; exact AppState.noConfusion)))
  | tx _ _ h => cases h <;> exact hI
  | appMain hboot => exact .of_off (hI.off (Or.inl (by simp [leaving, hboot])))

/-- **Ready means the microphone stream is off**, in every state of a run that
turns streaming on only while no task is on its way out of LISTENING. -/
theorem ready_micOff (json : Json) (as : List Action) (s : Firmware)
    (hrun : (firmware json).run boot as = some s)
    (hguard : (firmware json).Guarded (StreamsToStay json) boot as)
    (hready : s.gAppState = .connectedIdle) : s.sStreaming = false := by
  have hI : StreamsListening s := Machine.inv_run_guarded (I := StreamsListening)
    (fun hI hG h => hI.step hG h) (.of_off rfl) hguard hrun
  exact hI.off (Or.inr (by rw [hready]; exact AppState.noConfusion))

/-- The button ends the first session, and the server interrupts before the
main task has woken up. -/
def interruptedEnd : List Action :=
  firstSession ++ [.fsm true, .fsmCommand true, .fsm false,
    .receive (serverEvent eventClearCache), .fsm false]

theorem interruptedEnd_streams :
    ∃ s, (firmware fun _ _ => none).run boot interruptedEnd = some s ∧
      s.gAppState = .connectedIdle ∧ s.sStreaming = true := by
  have hend : ((firmware fun _ _ => none).run boot interruptedEnd).map (fun s =>
      (s.gAppState, s.sStreaming)) = some (.connectedIdle, true) := by decide +kernel
  obtain ⟨s, hs, heq⟩ := Option.map_eq_some_iff.mp hend
  exact ⟨s, hs, Prod.mk.inj heq⟩

/-- The button ends the first session. -/
theorem ready_micOff_firstSession :
    ∃ s, (firmware fun _ _ => none).run boot
        (firstSession ++ [.fsm true, .fsmCommand true, .fsm false, .fsm false]) = some s ∧
      s.sStreaming = false := by
  have hend : ((firmware fun _ _ => none).run boot
      (firstSession ++ [.fsm true, .fsmCommand true, .fsm false, .fsm false])).map
        (·.gAppState) = some .connectedIdle := by decide +kernel
  obtain ⟨s, hs, hready⟩ := Option.map_eq_some_iff.mp hend
  exact ⟨s, hs, ready_micOff _ _ s hs (by decide +kernel) hready⟩

end Firmware

end BoxDoubao
