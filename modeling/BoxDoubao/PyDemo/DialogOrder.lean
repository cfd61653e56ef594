import BoxDoubao.PyDemo.DialogSession

/-!
# The order of the requests of the Python demo

`InOrderAt mod o earlier` says what must have been seen before `o`: the
connection is started before the session, the session before anything the input
task sends, the greeting comes first and is over before a query follows, and
the connection is finished once, after the session.

Nothing keeps the input task from sending after FinishSession. Its loop tests
the flags, the greeting in front of it does not, so at most two of its requests
come too late (`slack`); over a file, which no flag ends, there is no bound.
-/

namespace BoxDoubao

namespace PyDemo

/-- The input task sends this. -/
def Request.isInput : Request → Bool
  | .sayHello | .chatTextQuery | .taskRequest => true
  | _ => false

def Seen.isInput : Seen → Bool
  | .sent request => request.isInput
  | _ => false

/-- What comes before each entry of the history. -/
def InOrderAt (mod : Mod) : Seen → List Seen → Prop
  -- `connect` alone runs, so these two are first
  | .sent .startConnection, earlier => earlier = []
  | .sent .startSession, earlier => earlier = [.sent .startConnection]
  | .sent .sayHello, earlier =>
    .sent .startSession ∈ earlier ∧ mod ≠ .audioFile ∧ ∀ o ∈ earlier, o.isInput = false
  -- the microphone asks one question, in front of its loop
  | .sent .chatTextQuery, earlier =>
    mod ≠ .audioFile ∧ .sent .sayHello ∈ earlier ∧ .helloOver ∈ earlier ∧
      (mod = .audio → .sent .chatTextQuery ∉ earlier)
  | .sent .taskRequest, earlier =>
    .sent .startSession ∈ earlier ∧ mod ≠ .text ∧
      (mod = .audio → .sent .chatTextQuery ∈ earlier)
  | .sent .finishSession, earlier =>
    .sent .startSession ∈ earlier ∧ .sent .finishSession ∉ earlier
  | .sent .finishConnection, earlier =>
    .sent .finishSession ∈ earlier ∧ .finished ∈ earlier ∧ .sent .finishConnection ∉ earlier
  | .helloOver, earlier | .finished, earlier => .sent .startSession ∈ earlier

/-- The requests of the input task behind FinishSession. -/
def lateRequests : List Seen → ℕ
  | [] => 0
  | o :: earlier =>
    if o = .sent .finishSession then 0
    else if o.isInput ∧ .sent .finishSession ∈ earlier then lateRequests earlier + 1
    else lateRequests earlier

/-! ### The invariant -/

/-- What `start` has sent where it stands. -/
def StartOk (history : List Seen) : StartPc → Prop
  | .connect => history = []
  | .awaitConnection => history = [.sent .startConnection]
  | .awaitSession => history = [.sent .startSession, .sent .startConnection]
  | .running | .finishSession =>
    .sent .startSession ∈ history ∧ .sent .finishSession ∉ history ∧
      .sent .finishConnection ∉ history
  | .waitFinished | .finishConnection =>
    .sent .finishSession ∈ history ∧ .sent .finishConnection ∉ history
  -- reached by an exception from anywhere, and nothing is sent any more
  | .awaitFinish | .closing | .cleanup | .done => True

/-- What the input task has sent where it stands. -/
def InputOk (mod : Mod) (history : List Seen) : InputPc → Prop
  | .notStarted => ∀ o ∈ history, o.isInput = false
  | .sayHello => mod ≠ .audioFile ∧ ∀ o ∈ history, o.isInput = false
  | .waitHello =>
    mod ≠ .audioFile ∧ .sent .sayHello ∈ history ∧ .sent .chatTextQuery ∉ history
  | .query =>
    mod = .audio ∧ .sent .sayHello ∈ history ∧ .helloOver ∈ history ∧
      .sent .chatTextQuery ∉ history
  | .openStream => mod = .audio ∧ .sent .chatTextQuery ∈ history
  -- the loop, which the three modes reach by different ways
  | .test | .reading =>
    (mod = .audio → .sent .chatTextQuery ∈ history) ∧
      (mod = .text → .sent .sayHello ∈ history ∧ .helloOver ∈ history)
  | .ended => True

/-- The requests the input task may still send once the flags are down. -/
def slack : InputPc → ℕ
  -- the greeting and the query behind it
  | .notStarted | .sayHello => 2
  -- in `reading` the test of the flag lies behind
  | .waitHello | .query | .reading => 1
  | .openStream | .test | .ended => 0

/-- The tasks do not exist yet. -/
def StartPc.early : StartPc → Bool
  | .connect | .awaitConnection | .awaitSession => true
  | _ => false

structure Inv (s : DialogSession) : Prop where
  order : Throughout (InOrderAt s.mod) s.history
  startOk : StartOk s.history s.start
  inputOk : InputOk s.mod s.history s.input
  early : s.start.early = true → s.input = .notStarted ∧ s.receive = .notStarted
  created : s.input ≠ .notStarted ∨ s.receive ≠ .notStarted → .sent .startSession ∈ s.history
  hello : s.sayHelloOver = true → .helloOver ∈ s.history
  finished : s.isSessionFinished = true → .finished ∈ s.history ∧ s.receive = .ended
  flags : s.isRecording = s.isRunning
  -- what the tests in front of these two requests have seen is still so
  halted : s.start = .finishSession → s.mod ≠ .audioFile → s.isRunning = false
  finishing : s.start = .finishConnection → s.isSessionFinished = true
  exclusive : s.start = .awaitFinish → s.receive = .ended
  late : .sent .finishSession ∈ s.history → s.mod ≠ .audioFile →
    s.isRunning = false ∧ lateRequests s.history + slack s.input ≤ 2

theorem inv_init (mod : Mod) : Inv (DialogSession.init mod) where
  order := trivial
  startOk := rfl
  inputOk := fun _ ho => absurd ho List.not_mem_nil
  early := fun _ => ⟨rfl, rfl⟩
  created := fun h => h.elim (absurd rfl) (absurd rfl)
  hello := Bool.noConfusion
  finished := Bool.noConfusion
  flags := rfl
  halted := StartPc.noConfusion
  finishing := StartPc.noConfusion
  exclusive := StartPc.noConfusion
  late := fun h => absurd h List.not_mem_nil

/-! ### What a new entry keeps -/

section Cons

variable {mod : Mod} {history : List Seen} {o : Seen}

theorem InputOk.cons {pc : InputPc} (h : InputOk mod history pc) (ho : o.isInput = false) :
    InputOk mod (o :: history) pc := by
  -- entries are added only, so just what has not been sent needs a word
  have hquery : .sent .chatTextQuery ∉ history → .sent .chatTextQuery ∉ o :: history :=
    fun hnot hmem => (List.mem_cons.mp hmem).elim (fun heq => by rw [← heq] at ho; cases ho) hnot
  have hnone : (∀ x ∈ history, x.isInput = false) → ∀ x ∈ o :: history, x.isInput = false :=
    fun hall => List.forall_mem_cons.mpr ⟨ho, hall⟩
  cases pc with
  | notStarted => exact hnone h
  | sayHello => exact ⟨h.1, hnone h.2⟩
  | waitHello => exact ⟨h.1, List.mem_cons_of_mem o h.2.1, hquery h.2.2⟩
  | query =>
    exact ⟨h.1, List.mem_cons_of_mem o h.2.1, List.mem_cons_of_mem o h.2.2.1, hquery h.2.2.2⟩
  | openStream => exact ⟨h.1, List.mem_cons_of_mem o h.2⟩
  | test | reading =>
    exact ⟨fun hmod => List.mem_cons_of_mem o (h.1 hmod), fun hmod =>
      ⟨List.mem_cons_of_mem o (h.2 hmod).1, List.mem_cons_of_mem o (h.2 hmod).2⟩⟩
  | ended => trivial

theorem StartOk.cons {pc : StartPc} (h : StartOk history pc) (hpc : pc.early = false)
    (hsession : o ≠ .sent .finishSession) (hconnection : o ≠ .sent .finishConnection) :
    StartOk (o :: history) pc := by
  have hnot : ∀ {x : Seen}, o ≠ x → x ∉ history → x ∉ o :: history := fun hne hnot hmem =>
    (List.mem_cons.mp hmem).elim (fun heq => hne heq.symm) hnot
  cases pc with
  | connect | awaitConnection | awaitSession => cases hpc
  | running | finishSession =>
    exact ⟨List.mem_cons_of_mem o h.1, hnot hsession h.2.1, hnot hconnection h.2.2⟩
  | waitFinished | finishConnection => exact ⟨List.mem_cons_of_mem o h.1, hnot hconnection h.2⟩
  | awaitFinish | closing | cleanup | done => trivial

theorem slack_le (pc : InputPc) : slack pc ≤ 2 := by cases pc <;> decide

theorem lateRequests_cons_le (o : Seen) (history : List Seen) :
    lateRequests (o :: history) ≤ lateRequests history + 1 := by
  rw [lateRequests]
  split
  · exact Nat.zero_le _
  · split <;> omega

theorem lateRequests_cons_of_not_input (ho : o.isInput = false) :
    lateRequests (o :: history) ≤ lateRequests history := by
  rw [lateRequests]
  split
  · exact Nat.zero_le _
  · rw [if_neg fun h => by rw [ho] at h; exact Bool.false_ne_true h.1]

theorem lateRequests_of_not_mem (h : .sent .finishSession ∉ history) :
    lateRequests history = 0 := by
  induction history with
  | nil => rfl
  | cons o earlier ih =>
    have hearlier : .sent .finishSession ∉ earlier := fun hmem => h (List.mem_cons_of_mem o hmem)
    rw [lateRequests, if_neg fun heq : o = _ => h (heq ▸ List.mem_cons_self),
      if_neg fun hlate => hearlier hlate.2, ih hearlier]

theorem lateRequests_cons_finishSession (history : List Seen) :
    lateRequests (.sent .finishSession :: history) = 0 := if_pos rfl

end Cons

/-! ### The steps -/

section Steps

variable {s : DialogSession}

/-- `start` moves on without a request. -/
theorem Inv.moveStart (h : Inv s) {pc : StartPc} (hok : StartOk s.history pc)
    (hearly : pc.early = false)
    (hhalted : pc = .finishSession → s.mod ≠ .audioFile → s.isRunning = false)
    (hfinishing : pc = .finishConnection → s.isSessionFinished = true)
    (hexclusive : pc = .awaitFinish → s.receive = .ended) : Inv { s with start := pc } :=
  { h with
    startOk := hok
    early := fun he => by
      change pc.early = true at he
      rw [hearly] at he
      cases he
    halted := hhalted
    finishing := hfinishing
    exclusive := hexclusive }

/-- `start` sends a request and moves on. -/
theorem Inv.sendControl (h : Inv s) {pc : StartPc} {r : Request} (hr : r.isInput = false)
    (horder : InOrderAt s.mod (.sent r) s.history) (hok : StartOk (.sent r :: s.history) pc)
    (hearly : pc.early = true → s.start.early = true)
    (hfinish : r = .finishSession → s.mod ≠ .audioFile → s.isRunning = false)
    (hhalted : pc ≠ .finishSession) (hfinishing : pc ≠ .finishConnection)
    (hexclusive : pc = .awaitFinish → s.receive = .ended) :
    Inv ({ s with start := pc }.send r) where
  order := ⟨horder, h.order⟩
  startOk := hok
  inputOk := h.inputOk.cons hr
  early := fun he => h.early (hearly he)
  created := fun hc => List.mem_cons_of_mem _ (h.created hc)
  hello := fun hh => List.mem_cons_of_mem _ (h.hello hh)
  finished := fun hf => ⟨List.mem_cons_of_mem _ (h.finished hf).1, (h.finished hf).2⟩
  flags := h.flags
  halted := fun hpc => absurd hpc hhalted
  finishing := fun hpc => absurd hpc hfinishing
  exclusive := hexclusive
  late := fun hmem hmod => by
    rcases List.mem_cons.mp hmem with heq | hmem
    · -- FinishSession itself starts the count
      obtain rfl : r = .finishSession := (Seen.sent.inj heq).symm
      exact ⟨hfinish rfl hmod, by
        change lateRequests (.sent .finishSession :: s.history) + slack s.input ≤ 2
        rw [lateRequests_cons_finishSession, Nat.zero_add]
        exact slack_le _⟩
    · obtain ⟨hrunning, hle⟩ := h.late hmem hmod
      refine ⟨hrunning, le_trans (Nat.add_le_add_right ?_ _) hle⟩
      exact lateRequests_cons_of_not_input (o := .sent r) hr

/-- The tasks begin. -/
theorem Inv.createTasks (h : Inv s) (hpc : s.start = .awaitSession) : Inv s.createTasks := by
  have hhistory : s.history = [.sent .startSession, .sent .startConnection] := by
    have hok := h.startOk
    rw [hpc] at hok
    exact hok
  have hnone : ∀ o ∈ s.history, o.isInput = false := by
    rw [hhistory]
    decide
  have hfinish : .sent .finishSession ∉ s.history := by
    rw [hhistory]
    decide
  -- only `receive_loop` could have finished the session, and it begins here
  have hunfinished : s.isSessionFinished ≠ true := fun hf => by
    have hended := (h.finished hf).2
    rw [(h.early (by rw [hpc]; rfl)).2] at hended
    cases hended
  exact
    { h with
      startOk := by
        change StartOk s.history .running
        rw [hhistory]
        exact ⟨by decide, by decide, by decide⟩
      inputOk := by
        change InputOk s.mod s.history (if s.mod = .audioFile then .test else .sayHello)
        split
        next hfile =>
          -- over a file there is no greeting
          refine ⟨fun hmod => ?_, fun hmod => ?_⟩
          all_goals
            rw [hfile] at hmod
            cases hmod
        next hfile => exact ⟨hfile, hnone⟩
      early := fun he => Bool.noConfusion (he : false = true)
      created := fun _ => by
        change .sent .startSession ∈ s.history
        rw [hhistory]
        exact List.mem_cons_self
      finished := fun hf => absurd hf hunfinished
      halted := StartPc.noConfusion
      finishing := StartPc.noConfusion
      exclusive := StartPc.noConfusion
      late := fun hmem => absurd hmem hfinish }

/-- The tasks run, so `start` is past its first answers. -/
theorem Inv.late_start (h : Inv s) (hin : s.input ≠ .notStarted ∨ s.receive ≠ .notStarted) :
    s.start.early = false := by
  cases hstart : s.start.early with
  | false => rfl
  | true =>
    obtain ⟨hinput, hreceive⟩ := h.early hstart
    exact hin.elim (absurd hinput) (absurd hreceive)

/-- The input task moves on without a request. -/
theorem Inv.moveInput (h : Inv s) {pc : InputPc} (hin : s.input ≠ .notStarted)
    (hok : InputOk s.mod s.history pc)
    (hslack : .sent .finishSession ∈ s.history → s.mod ≠ .audioFile → slack pc ≤ slack s.input) :
    Inv { s with input := pc } :=
  { h with
    inputOk := hok
    early := fun he => by
      change s.start.early = true at he
      rw [h.late_start (Or.inl hin)] at he
      cases he
    created := fun _ => h.created (Or.inl hin)
    late := fun hmem hmod => by
      obtain ⟨hrunning, hle⟩ := h.late hmem hmod
      exact ⟨hrunning, (Nat.add_le_add_left (hslack hmem hmod) _).trans hle⟩ }

/-- The input task sends a request and moves on. -/
theorem Inv.sendInput (h : Inv s) {pc : InputPc} {r : Request} (hin : s.input ≠ .notStarted)
    (hr : r.isInput = true) (horder : InOrderAt s.mod (.sent r) s.history)
    (hok : InputOk s.mod (.sent r :: s.history) pc) (hslack : slack pc + 1 ≤ slack s.input) :
    Inv ({ s with input := pc }.send r) where
  order := ⟨horder, h.order⟩
  startOk := h.startOk.cons (h.late_start (Or.inl hin))
    (fun heq => by rw [Seen.sent.inj heq] at hr; cases hr)
    (fun heq => by rw [Seen.sent.inj heq] at hr; cases hr)
  inputOk := hok
  early := fun he => by
    change s.start.early = true at he
    rw [h.late_start (Or.inl hin)] at he
    cases he
  created := fun _ => List.mem_cons_of_mem _ (h.created (Or.inl hin))
  hello := fun hh => List.mem_cons_of_mem _ (h.hello hh)
  finished := fun hf => ⟨List.mem_cons_of_mem _ (h.finished hf).1, (h.finished hf).2⟩
  flags := h.flags
  halted := h.halted
  finishing := h.finishing
  exclusive := h.exclusive
  late := fun hmem hmod => by
    -- one more late request, paid for by the slack
    have hmem : .sent .finishSession ∈ s.history := by
      refine (List.mem_cons.mp hmem).resolve_left fun heq => ?_
      rw [← Seen.sent.inj heq] at hr
      cases hr
    obtain ⟨hrunning, hle⟩ := h.late hmem hmod
    refine ⟨hrunning, ?_⟩
    have := lateRequests_cons_le (.sent r) s.history
    change lateRequests (.sent r :: s.history) + slack pc ≤ 2
    omega

/-- `receive_loop` goes on, or begins to empty the queue. -/
theorem Inv.moveReceive (h : Inv s) (hstarted : s.receive ≠ .notStarted)
    (hended : s.receive ≠ .ended) (pc : ReceivePc) : Inv { s with receive := pc } :=
  { h with
    early := fun he => by
      change s.start.early = true at he
      rw [h.late_start (Or.inr hstarted)] at he
      cases he
    created := fun _ => h.created (Or.inr hstarted)
    finished := fun hf => absurd (h.finished hf).2 hended
    exclusive := fun hpc => absurd (h.exclusive hpc) hended }

theorem Inv.endReceive (h : Inv s) (hstarted : s.receive ≠ .notStarted) : Inv s.endReceive where
  order := ⟨h.created (Or.inr hstarted), h.order⟩
  startOk := h.startOk.cons (h.late_start (Or.inr hstarted)) Seen.noConfusion Seen.noConfusion
  inputOk := h.inputOk.cons rfl
  early := fun he => by
    change s.start.early = true at he
    rw [h.late_start (Or.inr hstarted)] at he
    cases he
  created := fun _ => List.mem_cons_of_mem _ (h.created (Or.inr hstarted))
  hello := fun hh => List.mem_cons_of_mem _ (h.hello hh)
  finished := fun _ => ⟨List.mem_cons_self, rfl⟩
  flags := rfl
  halted := fun _ _ => rfl
  finishing := fun _ => rfl
  exclusive := fun _ => rfl
  late := fun hmem hmod => by
    have hmem := (List.mem_cons.mp hmem).resolve_left Seen.noConfusion
    exact ⟨rfl, (Nat.add_le_add_right (lateRequests_cons_of_not_input (o := .finished) rfl) _).trans
      (h.late hmem hmod).2⟩

theorem Inv.helloOver (h : Inv s) (hstarted : s.receive ≠ .notStarted)
    (hended : s.receive ≠ .ended) :
    Inv { s with
      receive := .awaiting, sayHelloOver := true, history := .helloOver :: s.history } where
  order := ⟨h.created (Or.inr hstarted), h.order⟩
  startOk := h.startOk.cons (h.late_start (Or.inr hstarted)) Seen.noConfusion Seen.noConfusion
  inputOk := h.inputOk.cons rfl
  early := fun he => by
    change s.start.early = true at he
    rw [h.late_start (Or.inr hstarted)] at he
    cases he
  created := fun _ => List.mem_cons_of_mem _ (h.created (Or.inr hstarted))
  hello := fun _ => List.mem_cons_self
  finished := fun hf => absurd (h.finished hf).2 hended
  flags := h.flags
  halted := h.halted
  finishing := h.finishing
  exclusive := fun hpc => absurd (h.exclusive hpc) hended
  late := fun hmem hmod => by
    have hmem := (List.mem_cons.mp hmem).resolve_left Seen.noConfusion
    obtain ⟨hrunning, hle⟩ := h.late hmem hmod
    exact ⟨hrunning,
      (Nat.add_le_add_right (lateRequests_cons_of_not_input (o := .helloOver) rfl) _).trans hle⟩

/-- Nothing has changed that the order of the requests depends on. -/
structure Aside (s s' : DialogSession) : Prop where
  mod : s'.mod = s.mod
  isRunning : s'.isRunning = s.isRunning
  isRecording : s'.isRecording = s.isRecording
  isSessionFinished : s'.isSessionFinished = s.isSessionFinished
  sayHelloOver : s'.sayHelloOver = s.sayHelloOver
  start : s'.start = s.start
  input : s'.input = s.input
  receive : s'.receive = s.receive
  history : s'.history = s.history

theorem Inv.aside {s' : DialogSession} (h : Inv s) (ha : Aside s s') : Inv s' where
  order := by rw [ha.mod, ha.history]; exact h.order
  startOk := by rw [ha.history, ha.start]; exact h.startOk
  inputOk := by rw [ha.mod, ha.history, ha.input]; exact h.inputOk
  early := by rw [ha.start, ha.input, ha.receive]; exact h.early
  created := by rw [ha.input, ha.receive, ha.history]; exact h.created
  hello := by rw [ha.sayHelloOver, ha.history]; exact h.hello
  finished := by rw [ha.isSessionFinished, ha.history, ha.receive]; exact h.finished
  flags := by rw [ha.isRecording, ha.isRunning]; exact h.flags
  halted := by rw [ha.start, ha.mod, ha.isRunning]; exact h.halted
  finishing := by rw [ha.start, ha.isSessionFinished]; exact h.finishing
  exclusive := by rw [ha.start, ha.receive]; exact h.exclusive
  late := by rw [ha.history, ha.mod, ha.isRunning, ha.input]; exact h.late

theorem aside_refl (s : DialogSession) : Aside s s := ⟨rfl, rfl, rfl, rfl, rfl, rfl, rfl, rfl, rfl⟩

/-- The flags go down. -/
theorem Inv.stop (h : Inv s) : Inv s.stop :=
  { h with
    flags := rfl
    halted := fun _ _ => rfl
    late := fun hmem hmod => ⟨rfl, (h.late hmem hmod).2⟩ }

variable {J : Type} {ttsType : J → Option (Option String)} {response : PyResult J}
  {s' : DialogSession}

theorem aside_putAudio (s : DialogSession) (chunk : CMemory.Bytes) :
    Aside s (s.putAudio chunk) := by
  unfold DialogSession.putAudio
  split
  · exact aside_refl s
  · split
    · exact ⟨rfl, rfl, rfl, rfl, rfl, rfl, rfl, rfl, rfl⟩
    · exact ⟨rfl, rfl, rfl, rfl, rfl, rfl, rfl, rfl, rfl⟩

theorem aside_handleEvent (h : s.handleEvent ttsType response = .returned s') : Aside s s' := by
  unfold DialogSession.handleEvent at h
  split at h
  · cases h
  · split at h
    · split at h
      · cases h
      · split at h
        · cases h
        · cases h
          exact aside_refl s
    · split at h
      · cases h
        exact ⟨rfl, rfl, rfl, rfl, rfl, rfl, rfl, rfl, rfl⟩
      · cases h
        exact aside_refl s

theorem aside_handleServerResponse (h : s.handleServerResponse ttsType response = .returned s') :
    Aside s s' := by
  unfold DialogSession.handleServerResponse at h
  split at h
  · cases h
    exact aside_refl s
  · split at h
    · cases h
    · cases h
      exact aside_putAudio s _
    · exact aside_handleEvent h
    · cases h
    · cases h
      exact aside_refl s

theorem inv_receiveResponse (h : Inv s) (hawaiting : s.receive = .awaiting)
    (answer : Option (PyResult J)) : Inv (s.receiveResponse ttsType answer) := by
  have hstarted : s.receive ≠ .notStarted := by rw [hawaiting]; exact ReceivePc.noConfusion
  have hended : s.receive ≠ .ended := by rw [hawaiting]; exact ReceivePc.noConfusion
  cases answer with
  | none => exact h.endReceive hstarted
  | some response =>
    rw [DialogSession.receiveResponse]
    cases hhandled : s.handleServerResponse ttsType response with
    | raised => exact h.endReceive hstarted
    | clears event => exact h.moveReceive hstarted hended _
    | returned s₁ =>
      have ha := aside_handleServerResponse hhandled
      have h₁ := h.aside ha
      rw [← ha.receive] at hstarted hended
      simp only [DialogSession.afterHandling]
      split
      · exact h₁.endReceive hstarted
      · split
        · -- 359 ends a file, and is the end of the greeting elsewhere
          split
          · exact h₁.endReceive hstarted
          · exact h₁.helloOver hstarted hended
        · exact h₁.moveReceive hstarted hended _

theorem inv_startStep {ok : Bool} (h : Inv s) (hstep : s.startStep ok = some s') : Inv s' := by
  have hok := h.startOk
  -- giving up is possible everywhere
  have hcleanup : Inv { s with start := .cleanup } :=
    h.moveStart trivial rfl StartPc.noConfusion StartPc.noConfusion StartPc.noConfusion
  unfold DialogSession.startStep at hstep
  cases hpc : s.start with
  | connect =>
    rw [hpc] at hstep hok
    cases hstep
    cases ok with
    | false => exact hcleanup
    | true =>
      refine h.sendControl rfl hok (congrArg _ hok) (fun _ => by rw [hpc]; rfl) Request.noConfusion
        StartPc.noConfusion StartPc.noConfusion StartPc.noConfusion
  | awaitConnection =>
    rw [hpc] at hstep hok
    cases hstep
    cases ok with
    | false => exact hcleanup
    | true =>
      refine h.sendControl rfl hok (congrArg _ hok) (fun _ => by rw [hpc]; rfl) Request.noConfusion
        StartPc.noConfusion StartPc.noConfusion StartPc.noConfusion
  | awaitSession =>
    rw [hpc] at hstep hok
    cases hstep
    cases ok with
    | false => exact hcleanup
    | true => exact h.createTasks hpc
  | running =>
    rw [hpc] at hstep hok
    simp only at hstep
    split at hstep
    next hfile =>
      -- a file is left with `receive_loop`, whatever the flags say
      obtain ⟨-, heq⟩ := Option.ite_none_right_eq_some.mp hstep
      cases heq
      exact h.moveStart (show StartOk s.history .finishSession from hok) rfl
        (fun _ hmod => absurd hfile hmod) StartPc.noConfusion StartPc.noConfusion
    next =>
      obtain rfl := Option.some.inj hstep
      split
      next => exact h
      -- no flag goes up again, so FinishSession will find it down
      next hrunning =>
        exact h.moveStart (show StartOk s.history .finishSession from hok) rfl
          (fun _ _ => Bool.not_eq_true _ ▸ hrunning) StartPc.noConfusion StartPc.noConfusion
  | finishSession =>
    rw [hpc] at hstep hok
    cases hstep
    cases ok with
    | false => exact hcleanup
    | true =>
      obtain ⟨hsession, hnot, hnone⟩ := hok
      have hsent : StartOk (.sent .finishSession :: s.history) .waitFinished :=
        ⟨List.mem_cons_self, fun hmem => hnone ((List.mem_cons.mp hmem).resolve_left (by decide))⟩
      exact h.sendControl rfl ⟨hsession, hnot⟩ hsent Bool.noConfusion (fun _ => h.halted hpc)
        StartPc.noConfusion StartPc.noConfusion StartPc.noConfusion
  | waitFinished =>
    rw [hpc] at hstep hok
    obtain rfl := Option.some.inj hstep
    split
    next hfinished =>
      exact h.moveStart (show StartOk s.history .finishConnection from hok) rfl StartPc.noConfusion
        (fun _ => hfinished) StartPc.noConfusion
    next => exact h
  | finishConnection =>
    rw [hpc] at hstep hok
    cases hstep
    cases ok with
    | false => exact hcleanup
    | true =>
      -- `receive_loop` has ended, so the answer is `start`'s
      obtain ⟨hseen, hended⟩ := h.finished (h.finishing hpc)
      have hsent : StartOk (.sent .finishConnection :: s.history) .awaitFinish := trivial
      exact h.sendControl rfl ⟨hok.1, hseen, hok.2⟩ hsent Bool.noConfusion Request.noConfusion
        StartPc.noConfusion StartPc.noConfusion fun _ => hended
  | awaitFinish =>
    rw [hpc] at hstep
    cases hstep
    cases ok with
    | false => exact hcleanup
    | true =>
      exact h.moveStart trivial rfl StartPc.noConfusion StartPc.noConfusion StartPc.noConfusion
  | closing =>
    rw [hpc] at hstep
    cases hstep
    exact hcleanup
  | cleanup =>
    rw [hpc] at hstep
    cases hstep
    exact h.moveStart trivial rfl StartPc.noConfusion StartPc.noConfusion StartPc.noConfusion
  | done =>
    rw [hpc] at hstep
    cases hstep

/-- No flag is up once FinishSession has been sent. -/
theorem Inv.not_continues (h : Inv s) (hmem : .sent .finishSession ∈ s.history)
    (hmod : s.mod ≠ .audioFile) : s.inputContinues = false := by
  have hrunning := (h.late hmem hmod).1
  unfold DialogSession.inputContinues
  cases hm : s.mod with
  | audio => exact h.flags.trans hrunning
  | text => exact hrunning
  | audioFile => exact absurd hm hmod

/-- The request of the loop comes after what it needs. -/
theorem Inv.inputRequest_inOrder (h : Inv s) (hpc : s.input = .reading) :
    InOrderAt s.mod (.sent s.inputRequest) s.history := by
  have hok := h.inputOk
  rw [hpc] at hok
  have hsession := h.created (Or.inl (by rw [hpc]; exact InputPc.noConfusion))
  unfold DialogSession.inputRequest
  split
  next htext =>
    obtain ⟨hhello, hover⟩ := hok.2 htext
    refine ⟨?_, hhello, hover, fun hmod => ?_⟩
    · rw [htext]
      exact Mod.noConfusion
    · rw [htext] at hmod
      cases hmod
  next htext => exact ⟨hsession, htext, hok.1⟩

theorem inv_readStep (h : Inv s) (hpc : s.input = .reading) (got : Got) :
    Inv (s.readStep got) := by
  have hin : s.input ≠ .notStarted := by rw [hpc]; exact InputPc.noConfusion
  have hok := h.inputOk
  rw [hpc] at hok
  have htest : Inv { s with input := .test } := h.moveInput hin
    (show InputOk s.mod s.history .test from hok) fun _ _ => Nat.zero_le _
  have hended : Inv { s with input := .ended } := h.moveInput hin trivial fun _ _ => Nat.zero_le _
  cases got with
  | data =>
    -- FinishSession may have gone out since the test, so this uses up the slack
    have hinput : s.inputRequest.isInput = true := by
      unfold DialogSession.inputRequest
      split <;> rfl
    refine h.sendInput hin hinput (h.inputRequest_inOrder hpc) ?_ (by rw [hpc]; decide)
    exact ⟨fun hmod => List.mem_cons_of_mem _ (hok.1 hmod), fun hmod =>
      ⟨List.mem_cons_of_mem _ (hok.2 hmod).1, List.mem_cons_of_mem _ (hok.2 hmod).2⟩⟩
  | nothing => exact htest
  | eof => exact hended
  | failed =>
    -- the loop over the microphone catches its exceptions inside
    by_cases hmod : s.mod = .audio
    · simp only [DialogSession.readStep, if_pos hmod]
      exact htest
    · simp only [DialogSession.readStep, if_neg hmod]
      exact hended

theorem inv_inputStep {got : Got} (h : Inv s) (hstep : s.inputStep got = some s') : Inv s' := by
  have hok := h.inputOk
  unfold DialogSession.inputStep at hstep
  cases hpc : s.input with
  | notStarted =>
    rw [hpc] at hstep
    cases hstep
  | sayHello =>
    rw [hpc] at hstep hok
    have hin : s.input ≠ .notStarted := by rw [hpc]; exact InputPc.noConfusion
    obtain rfl := Option.some.inj hstep
    split
    · exact h.moveInput hin trivial fun _ _ => Nat.zero_le _
    · obtain ⟨hmod, hnone⟩ := hok
      have hsent : InputOk s.mod (.sent .sayHello :: s.history) .waitHello := by
        refine ⟨hmod, List.mem_cons_self, fun hmem => ?_⟩
        have hquery := hnone _ ((List.mem_cons.mp hmem).resolve_left (by decide))
        cases hquery
      exact h.sendInput hin rfl ⟨h.created (Or.inl hin), hmod, hnone⟩ hsent (by rw [hpc]; decide)
  | waitHello =>
    rw [hpc] at hstep hok
    have hin : s.input ≠ .notStarted := by rw [hpc]; exact InputPc.noConfusion
    obtain ⟨hover, hstep⟩ := Option.ite_none_right_eq_some.mp hstep
    obtain rfl := Option.some.inj hstep
    obtain ⟨hmod, hhello, hquery⟩ := hok
    split
    next haudio =>
      exact h.moveInput hin (show InputOk s.mod s.history .query from
        ⟨haudio, hhello, h.hello hover, hquery⟩) fun _ _ => by rw [hpc]; decide
    next haudio =>
      exact h.moveInput hin (show InputOk s.mod s.history .test from
        ⟨fun ha => absurd ha haudio, fun _ => ⟨hhello, h.hello hover⟩⟩) fun _ _ => Nat.zero_le _
  | query =>
    rw [hpc] at hstep hok
    have hin : s.input ≠ .notStarted := by rw [hpc]; exact InputPc.noConfusion
    obtain rfl := Option.some.inj hstep
    split
    · exact h.moveInput hin trivial fun _ _ => Nat.zero_le _
    · obtain ⟨hmod, hhello, hover, hquery⟩ := hok
      have hsent : InputOk s.mod (.sent .chatTextQuery :: s.history) .openStream :=
        ⟨hmod, List.mem_cons_self⟩
      have hfile : s.mod ≠ .audioFile := by rw [hmod]; exact Mod.noConfusion
      exact h.sendInput hin rfl ⟨hfile, hhello, hover, fun _ => hquery⟩ hsent (by rw [hpc]; decide)
  | openStream =>
    rw [hpc] at hstep hok
    have hin : s.input ≠ .notStarted := by rw [hpc]; exact InputPc.noConfusion
    obtain rfl := Option.some.inj hstep
    split
    · exact h.moveInput hin trivial fun _ _ => Nat.zero_le _
    · refine h.moveInput hin (show InputOk s.mod s.history .test from
        ⟨fun _ => hok.2, fun hmod => ?_⟩) fun _ _ => Nat.zero_le _
      rw [hok.1] at hmod
      cases hmod
  | test =>
    rw [hpc] at hstep hok
    have hin : s.input ≠ .notStarted := by rw [hpc]; exact InputPc.noConfusion
    obtain rfl := Option.some.inj hstep
    split
    next hcontinues =>
      -- behind FinishSession no flag is up, so no slack is needed
      refine h.moveInput hin (show InputOk s.mod s.history .reading from hok) fun hmem hmod => ?_
      rw [h.not_continues hmem hmod] at hcontinues
      cases hcontinues
    next => exact h.moveInput hin trivial fun _ _ => Nat.zero_le _
  | reading =>
    rw [hpc] at hstep
    obtain ⟨-, hstep⟩ := Option.ite_none_left_eq_some.mp hstep
    obtain rfl := Option.some.inj hstep
    exact inv_readStep h hpc got
  | ended =>
    rw [hpc] at hstep
    cases hstep

theorem inv_act {a : DialogAct J} (h : Inv s) (hstep : s.act ttsType a = some s') : Inv s' := by
  cases a with
  | start ok => exact inv_startStep h (Option.ite_none_right_eq_some.mp hstep).2
  | input got => exact inv_inputStep h (Option.ite_none_right_eq_some.mp hstep).2
  | receive answer =>
    obtain ⟨⟨-, hawaiting⟩, hstep⟩ := Option.ite_none_right_eq_some.mp hstep
    obtain rfl := Option.some.inj hstep
    exact inv_receiveResponse h hawaiting answer
  | clearOne =>
    simp only [DialogSession.act] at hstep
    split at hstep
    · cases hstep
      exact h.aside ⟨rfl, rfl, rfl, rfl, rfl, rfl, rfl, rfl, rfl⟩
    · cases hstep
  | clearEnd =>
    simp only [DialogSession.act] at hstep
    split at hstep
    next event _ hreceive _ =>
      obtain rfl := Option.some.inj hstep
      have hmove := h.moveReceive (by rw [hreceive]; exact ReceivePc.noConfusion)
        (by rw [hreceive]; exact ReceivePc.noConfusion) .awaiting
      unfold DialogSession.cleared
      split <;> exact hmove.aside ⟨rfl, rfl, rfl, rfl, rfl, rfl, rfl, rfl, rfl⟩
    next => cases hstep
  | playerTest =>
    obtain ⟨-, hstep⟩ := Option.ite_none_right_eq_some.mp hstep
    obtain rfl := Option.some.inj hstep
    exact h.aside ⟨rfl, rfl, rfl, rfl, rfl, rfl, rfl, rfl, rfl⟩
  | playerGet =>
    simp only [DialogSession.act] at hstep
    split at hstep
    · cases hstep
      exact h.aside ⟨rfl, rfl, rfl, rfl, rfl, rfl, rfl, rfl, rfl⟩
    · cases hstep
  | playerTimeout =>
    obtain ⟨-, hstep⟩ := Option.ite_none_right_eq_some.mp hstep
    obtain rfl := Option.some.inj hstep
    exact h.aside ⟨rfl, rfl, rfl, rfl, rfl, rfl, rfl, rfl, rfl⟩
  | playerWrite ok =>
    simp only [DialogSession.act] at hstep
    split at hstep
    · cases hstep
      exact h.aside ⟨rfl, rfl, rfl, rfl, rfl, rfl, rfl, rfl, rfl⟩
    · cases hstep
  | sigint =>
    obtain ⟨-, hstep⟩ := Option.ite_none_left_eq_some.mp hstep
    obtain rfl := Option.some.inj hstep
    exact h.stop

end Steps

/-! ### Runs -/

section Runs

variable {J : Type} {ttsType : J → Option (Option String)} {mod : Mod} {acts : List (DialogAct J)}
  {s : DialogSession}

theorem inv_run (hrun : (dialog ttsType).run (DialogSession.init mod) acts = some s) : Inv s :=
  Machine.inv_run (fun h hstep => inv_act h hstep) (inv_init mod) hrun

theorem mod_startStep {ok : Bool} {s' : DialogSession} (hstep : s.startStep ok = some s') :
    s'.mod = s.mod := by
  unfold DialogSession.startStep DialogSession.createTasks DialogSession.send at hstep
  grind

theorem mod_inputStep {got : Got} {s' : DialogSession} (hstep : s.inputStep got = some s') :
    s'.mod = s.mod := by
  unfold DialogSession.inputStep DialogSession.readStep DialogSession.send at hstep
  grind

theorem mod_receiveResponse (answer : Option (PyResult J)) :
    (s.receiveResponse ttsType answer).mod = s.mod := by
  cases answer with
  | none => rfl
  | some response =>
    rw [DialogSession.receiveResponse]
    cases hhandled : s.handleServerResponse ttsType response with
    | raised | clears => rfl
    | returned s₁ =>
      rw [← (aside_handleServerResponse hhandled).mod]
      simp only [DialogSession.afterHandling]
      split
      · rfl
      · split
        · split <;> rfl
        · rfl

theorem mod_act {a : DialogAct J} {s' : DialogSession} (hstep : s.act ttsType a = some s') :
    s'.mod = s.mod := by
  cases a with
  | start ok => exact mod_startStep (Option.ite_none_right_eq_some.mp hstep).2
  | input got => exact mod_inputStep (Option.ite_none_right_eq_some.mp hstep).2
  | receive answer =>
    obtain ⟨-, hstep⟩ := Option.ite_none_right_eq_some.mp hstep
    obtain rfl := Option.some.inj hstep
    exact mod_receiveResponse answer
  | clearOne | clearEnd | playerTest | playerGet | playerTimeout | playerWrite | sigint =>
    simp only [DialogSession.act, DialogSession.cleared, DialogSession.stop] at hstep
    grind

theorem mod_run (hrun : (dialog ttsType).run (DialogSession.init mod) acts = some s) :
    s.mod = mod :=
  Machine.inv_run (I := fun s => s.mod = mod) (fun h hstep => (mod_act hstep).trans h) rfl hrun

/-- **The order of the requests.** In every run the requests go out in the order
of the protocol, each after what it depends on. Outside of file input at most
two requests of the input task follow FinishSession. -/
theorem requests_inOrder (hrun : (dialog ttsType).run (DialogSession.init mod) acts = some s) :
    Throughout (InOrderAt mod) s.history ∧
      (mod ≠ .audioFile → lateRequests s.history ≤ 2) := by
  have hinv := inv_run hrun
  have horder := hinv.order
  have hmod := mod_run hrun
  rw [hmod] at horder
  refine ⟨horder, fun hfile => ?_⟩
  by_cases hmem : .sent .finishSession ∈ s.history
  · exact (Nat.le_add_right _ _).trans (hinv.late hmem (hmod ▸ hfile)).2
  · exact (lateRequests_of_not_mem hmem).trans_le (Nat.zero_le _)

/-- The full response of an event. -/
def eventResponse (event : ℕ) : PyResult Unit :=
  { empty with messageType := some "SERVER_FULL_RESPONSE", event := some event }

/-- Ctrl+C before the greeting. -/
def hasty : List (DialogAct Unit) :=
  [.start true, .start true, .start true, .sigint, .start true, .start true, .input .data,
    .receive (some (eventResponse 359)), .input .data, .input .data,
    .receive (some (eventResponse 152)), .start true, .start true]

theorem requests_inOrder_hasty :
    ∃ s, (dialog fun _ : Unit => none).run (DialogSession.init .audio) hasty = some s ∧
      lateRequests s.history = 2 ∧ lateRequests s.history ≤ 2 := by
  have hlate : ((dialog fun _ : Unit => none).run (DialogSession.init .audio) hasty).map
      (fun s => lateRequests s.history) = some 2 := by decide +kernel
  obtain ⟨s, hrun, hlate⟩ := Option.map_eq_some_iff.mp hlate
  exact ⟨s, hrun, hlate, (requests_inOrder hrun).2 Mod.noConfusion⟩

/-- **One coroutine at a time waits for a message.** While `receive_loop` is in
`recv`, `start` is not. -/
theorem recv_exclusive (hrun : (dialog ttsType).run (DialogSession.init mod) acts = some s)
    (hreceive : s.receive = .awaiting) :
    s.start ≠ .awaitConnection ∧ s.start ≠ .awaitSession ∧ s.start ≠ .awaitFinish := by
  have hinv := inv_run hrun
  have hearly : s.start.early = false := hinv.late_start
    (Or.inr (by rw [hreceive]; exact ReceivePc.noConfusion))
  refine ⟨fun h => ?_, fun h => ?_, fun h => ?_⟩
  · rw [h] at hearly
    cases hearly
  · rw [h] at hearly
    cases hearly
  · have := hinv.exclusive h
    rw [hreceive] at this
    cases this

theorem recv_exclusive_hasty :
    ∃ s, (dialog fun _ : Unit => none).run (DialogSession.init .audio) (hasty.take 10) = some s ∧
      s.receive = .awaiting ∧ s.start ≠ .awaitFinish := by
  have hreceive : ((dialog fun _ : Unit => none).run (DialogSession.init .audio)
      (hasty.take 10)).map DialogSession.receive = some .awaiting := by decide +kernel
  obtain ⟨s, hrun, hreceive⟩ := Option.map_eq_some_iff.mp hreceive
  exact ⟨s, hrun, hreceive, (recv_exclusive hrun hreceive).2.2⟩

end Runs

end PyDemo

end BoxDoubao
