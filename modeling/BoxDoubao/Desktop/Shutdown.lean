import BoxDoubao.Desktop.Session

/-!
# The order of the commands of a session

`InOrder` is what a session is to put on the wire: the connection and the
session are started, input is sent, and both are finished, and the service loop
does not stop before. The flags do not bring it about: the input threads go on
sending until `running` is cleared, which a finish event does not do, and SIGINT
clears the flag of the service loop before `main` has queued the two finish
commands.

`Orderly` says of a step that it does none of this, and `inOrder_run` that a run
of such steps is in order. The invariant ties the queued commands to the place
where `main` stands (`Phase`) and says who may still queue.
-/

namespace BoxDoubao

open CMemory

namespace Desktop

/-! ### The order on the wire -/

/-- The commands up to the last input. -/
def Speaking (cmds : List Cmd) : Prop :=
  ∃ hello inputs, (hello = [] ∨ hello = [Cmd.sayHello]) ∧
    (∀ cmd ∈ inputs, cmd = Cmd.taskRequest ∨ cmd = Cmd.chatTextQuery) ∧
    cmds = [.startConnection, .startSession] ++ (hello ++ inputs)

/-- The commands of a whole session. -/
def WholeSession (cmds : List Cmd) : Prop :=
  ∃ spoken, Speaking spoken ∧ cmds = spoken ++ [.finishSession, .finishConnection]

/-- A session in protocol order. What is written is the first part of what was
queued, and that is the first part of a whole session; behind `FinishSession`
only `FinishConnection` is queued. The service loop has not stopped before the
whole session is written, nor has `main` come to its end. -/
structure InOrder (s : DesktopSession) : Prop where
  written : s.written <+: s.queued
  queued : ∃ cmds, WholeSession cmds ∧ s.queued <+: cmds
  finish : ∀ before after, s.queued = before ++ Cmd.finishSession :: after →
    after = [] ∨ after = [Cmd.finishConnection]
  stopped : s.service = .stopped → WholeSession s.written
  done : s.main = .done → WholeSession s.written

/-! ### Orderly steps -/

/-- The input thread will queue nothing more: it has not been started, has
ended, or is not behind a test of `running`, which is cleared. -/
def InputQuiet (s : DesktopSession) : Prop :=
  s.input = .notStarted ∨ s.input = .ended ∨ (s.running = false ∧ s.input ≠ .reading)

instance (s : DesktopSession) : Decidable (InputQuiet s) := inferInstanceAs (Decidable (_ ∨ _))

/-- `main` has queued `FinishConnection`. -/
def MainPc.Finished : MainPc → Prop
  | .stopSession | .stopClient | .joinService | .joinInput | .destroy | .done => True
  | _ => False

instance : ∀ pc, Decidable (MainPc.Finished pc)
  | .stopSession | .stopClient | .joinService | .joinInput | .destroy | .done =>
    inferInstanceAs (Decidable True)
  | .startConnection | .startSession | .sayHello | .startInput | .fileTest | .fileRead | .waiting
  | .finishSession | .waitFinish _ | .finishConnection => inferInstanceAs (Decidable False)

/-- Nothing waits to be written. -/
def QueueEmpty (s : DesktopSession) : Prop := s.client.sendQueue.head = s.client.sendQueue.tail

instance (s : DesktopSession) : Decidable (QueueEmpty s) := inferInstanceAs (Decidable (_ = _))

/-- A step of `main` that does not break the order: there is memory for the
commands that open and close the session; when `FinishSession` is queued the
input thread is quiet; and the flag of the service loop is cleared when nothing
waits to be written. -/
def OrderlyMain (s : DesktopSession) (granted : Bool) : MainPc → Prop
  | .startConnection | .startSession | .finishConnection => granted = true
  | .finishSession => granted = true ∧ InputQuiet s
  | .stopClient => QueueEmpty s
  | _ => True

/-- The handler, too, clears that flag only when `FinishConnection` has been
queued and nothing waits to be written. -/
def Orderly (s : DesktopSession) : DesktopAct → Prop
  | .main _ granted => OrderlyMain s granted s.main
  | .sigintClient => s.main.Finished ∧ QueueEmpty s
  | _ => True

instance (s : DesktopSession) (granted : Bool) : ∀ pc, Decidable (OrderlyMain s granted pc)
  | .startConnection | .startSession | .finishConnection =>
    inferInstanceAs (Decidable (granted = true))
  | .finishSession => inferInstanceAs (Decidable (granted = true ∧ InputQuiet s))
  | .stopClient => inferInstanceAs (Decidable (QueueEmpty s))
  | .sayHello | .startInput | .fileTest | .fileRead | .waiting | .waitFinish _ | .stopSession
  | .joinService | .joinInput | .destroy | .done => inferInstanceAs (Decidable True)

instance (s : DesktopSession) : ∀ a, Decidable (Orderly s a)
  | .main _ granted => inferInstanceAs (Decidable (OrderlyMain s granted s.main))
  | .sigintClient => inferInstanceAs (Decidable (s.main.Finished ∧ QueueEmpty s))
  | .input _ _ | .cancelled | .serviceTest | .writeable | .receive _ | .serviceReturn | .sigint =>
    inferInstanceAs (Decidable True)

/-- The same of a step of the machine, which takes none after a stop. -/
def OrderlyStep : Except Stop DesktopSession → DesktopAct → Prop
  | .ok s, a => Orderly s a
  | .error _, _ => True

instance : ∀ r a, Decidable (OrderlyStep r a)
  | .ok s, a => inferInstanceAs (Decidable (Orderly s a))
  | .error _, _ => inferInstanceAs (Decidable True)

/-! ### The invariant -/

/-- What `main` has queued, by the place where it stands. -/
def Phase : MainPc → List Cmd → Prop
  | .startConnection, cmds => cmds = []
  | .startSession, cmds => cmds = [.startConnection]
  | .sayHello, cmds => cmds = [.startConnection, .startSession]
  | .startInput, cmds | .fileTest, cmds | .fileRead, cmds | .waiting, cmds
  | .finishSession, cmds => Speaking cmds
  | .waitFinish _, cmds | .finishConnection, cmds =>
    ∃ spoken, Speaking spoken ∧ cmds = spoken ++ [.finishSession]
  | .stopSession, cmds | .stopClient, cmds | .joinService, cmds | .joinInput, cmds
  | .destroy, cmds | .done, cmds => WholeSession cmds

/-- `main` has not started the input thread. -/
def MainPc.BeforeInput : MainPc → Prop
  | .startConnection | .startSession | .sayHello | .startInput => True
  | _ => False

/-- `main` has queued `FinishSession`. -/
def MainPc.Finishing : MainPc → Prop
  | .waitFinish _ | .finishConnection => True
  | pc => pc.Finished

/-- `main` has cleared the flag of the service loop. -/
def MainPc.Joining : MainPc → Prop
  | .joinService | .joinInput | .destroy | .done => True
  | _ => False

theorem MainPc.Finished.finishing {pc : MainPc} (h : pc.Finished) : pc.Finishing := by
  cases pc <;> first | exact h | trivial

theorem MainPc.Joining.finished {pc : MainPc} (h : pc.Joining) : pc.Finished := by
  cases pc <;> first | exact h.elim | trivial

/-- The invariant of an orderly run. `phase` carries the order of the commands,
and `drained` that the service loop is told to stop only when all of them have
been written. -/
structure Inv (s : DesktopSession) : Prop where
  holding : Holding s.client.sendQueue s.blocks s.written.length s.queued
  written : s.written <+: s.queued
  phase : Phase s.main s.queued
  notStarted : s.main.BeforeInput → s.input = .notStarted
  quiet : s.main.Finishing → InputQuiet s
  drained : s.client.running = false → s.main.Finished ∧ s.written = s.queued
  stopped : s.service = .stopped → s.client.running = false
  joining : s.main.Joining → s.client.running = false

theorem inv_start (inputMod : InputMod) : Inv (DesktopSession.start inputMod) where
  holding := Holding.init
  written := List.prefix_refl _
  phase := rfl
  notStarted := fun _ => rfl
  quiet := nofun
  drained := nofun
  stopped := nofun
  joining := nofun

/-! ### What the invariant says -/

theorem Speaking.append_input {cmds : List Cmd} (h : Speaking cmds) {cmd : Cmd}
    (hcmd : cmd = .taskRequest ∨ cmd = .chatTextQuery) : Speaking (cmds ++ [cmd]) := by
  obtain ⟨hello, inputs, hhello, hinputs, rfl⟩ := h
  refine ⟨hello, inputs ++ [cmd], hhello, ?_, ?_⟩
  · intro c hc
    obtain hc | hc := List.mem_append.mp hc
    · exact hinputs c hc
    · rw [List.mem_singleton.mp hc]
      exact hcmd
  · simp only [List.append_assoc]

/-- No finish command has been queued while the session is spoken. -/
theorem Speaking.finish_notMem {cmds : List Cmd} (h : Speaking cmds) :
    Cmd.finishSession ∉ cmds := by
  obtain ⟨hello, inputs, hhello, hinputs, rfl⟩ := h
  intro hmem
  obtain hmem | hmem := List.mem_append.mp hmem
  · exact absurd hmem (by decide)
  · obtain hmem | hmem := List.mem_append.mp hmem
    · obtain rfl | rfl := hhello
      · cases hmem
      · exact absurd hmem (by decide)
    · obtain h | h := hinputs _ hmem <;> cases h

/-- In every place of `main` a whole session can still be queued. -/
theorem Phase.extends {pc : MainPc} {cmds : List Cmd} (h : Phase pc cmds) :
    ∃ whole, WholeSession whole ∧ cmds <+: whole := by
  have hopen : Speaking [.startConnection, .startSession] := ⟨[], [], Or.inl rfl, nofun, rfl⟩
  cases pc with
  | startConnection =>
    obtain rfl := h
    exact ⟨_, ⟨_, hopen, rfl⟩, List.nil_prefix⟩
  | startSession =>
    obtain rfl := h
    exact ⟨_, ⟨_, hopen, rfl⟩, _, rfl⟩
  | sayHello =>
    obtain rfl := h
    exact ⟨_, ⟨_, hopen, rfl⟩, _, rfl⟩
  | startInput | fileTest | fileRead | waiting | finishSession =>
    exact ⟨_, ⟨_, h, rfl⟩, List.prefix_append _ _⟩
  | waitFinish _ | finishConnection =>
    obtain ⟨spoken, hspoken, rfl⟩ := h
    exact ⟨_, ⟨_, hspoken, rfl⟩, [.finishConnection], by rw [List.append_assoc]; rfl⟩
  | stopSession | stopClient | joinService | joinInput | destroy | done =>
    exact ⟨_, h, List.prefix_refl _⟩

theorem Phase.whole {pc : MainPc} {cmds : List Cmd} (h : Phase pc cmds) (hpc : pc.Finished) :
    WholeSession cmds := by
  cases pc with
  | stopSession | stopClient | joinService | joinInput | destroy | done => exact h
  | startConnection | startSession | sayHello | startInput | fileTest | fileRead | waiting
  | finishSession | waitFinish _ | finishConnection => exact hpc.elim

/-- Behind the first `FinishSession` of a whole session comes the end. -/
theorem WholeSession.finish {whole cmds before after : List Cmd} (h : WholeSession whole)
    (hpre : cmds <+: whole) (hcmds : cmds = before ++ .finishSession :: after) :
    after = [] ∨ after = [.finishConnection] := by
  obtain ⟨spoken, hspoken, rfl⟩ := h
  obtain ⟨rest, hrest⟩ := hpre
  rw [hcmds, List.append_assoc, List.cons_append] at hrest
  have hend : after ++ rest = [Cmd.finishConnection] → after = [] ∨ after = [.finishConnection] :=
    fun heq => (List.append_eq_singleton_iff.mp heq).imp And.left And.left
  obtain ⟨mid, hmid, htail⟩ | ⟨mid, hmid, htail⟩ := List.append_eq_append_iff.mp hrest
  · cases mid with
    | nil => exact hend (List.cons.inj htail).2
    | cons cmd mid =>
      -- the `FinishSession` would be among the commands before it
      obtain rfl := (List.cons.inj htail).1
      refine absurd ?_ hspoken.finish_notMem
      rw [hmid]
      exact List.mem_append_right _ List.mem_cons_self
  · match mid, htail with
    | [], htail => exact hend (List.cons.inj htail).2.symm
    | [_], htail => cases (List.cons.inj (List.cons.inj htail).2).1
    | _ :: _ :: _, htail =>
      have hnil := (List.cons.inj (List.cons.inj htail).2).2
      exact absurd hnil.symm (List.append_ne_nil_of_right_ne_nil _ (List.cons_ne_nil _ _))

theorem Inv.inOrder {s : DesktopSession} (h : Inv s) : InOrder s where
  written := h.written
  queued := h.phase.extends
  finish := by
    intro before after hqueued
    obtain ⟨whole, hwhole, hpre⟩ := h.phase.extends
    exact hwhole.finish hpre hqueued
  stopped := by
    intro hstopped
    obtain ⟨hfinished, heq⟩ := h.drained (h.stopped hstopped)
    rw [heq]
    exact h.phase.whole hfinished
  done := by
    intro hdone
    have hjoining : s.main.Joining := by
      rw [hdone]
      trivial
    obtain ⟨hfinished, heq⟩ := h.drained (h.joining hjoining)
    rw [heq]
    exact h.phase.whole hfinished

/-! ### One lemma an action -/

section Steps

variable {s : DesktopSession} (h : Inv s)

/-- A command is queued at the end, or refused for want of memory. -/
theorem queue_cases {s : DesktopSession}
    (hold : Holding s.client.sendQueue s.blocks s.written.length s.queued)
    {cmd : Cmd} {granted : Bool} {r : Except Stop DesktopSession}
    (hqueue : s.queue cmd granted = some r) :
    (granted = false ∧ r = .ok s) ∨
      ∃ q, r = .ok { s with
          client := { s.client with sendQueue := q }
          blocks := Blocks.fifo s.written.length (s.queued ++ [cmd])
          queued := s.queued ++ [cmd] } ∧
        Holding q (Blocks.fifo s.written.length (s.queued ++ [cmd])) s.written.length
          (s.queued ++ [cmd]) := by
  unfold DesktopSession.queue at hqueue
  -- a full ring is left out of the machine
  by_cases hfull : s.Full
  · rw [if_pos hfull] at hqueue
    cases hqueue
  · rw [if_neg hfull] at hqueue
    obtain rfl := Option.some.inj hqueue
    cases granted with
    | true =>
      obtain ⟨q, hrun, hq⟩ := clientSendRaw_accepted hold hfull cmd
      exact Or.inr ⟨q, (bind_ok hrun).trans rfl, hq⟩
    | false =>
      obtain hrun | ⟨q, hrun, hq⟩ := clientSendRaw_cases hold cmd false
      · exact Or.inl ⟨rfl, (bind_ok hrun).trans rfl⟩
      · exact Or.inr ⟨q, (bind_ok hrun).trans rfl, hq⟩

include h

theorem Inv.client_running (hpc : ¬ s.main.Finished) : s.client.running = true := by
  by_contra hstop
  exact hpc (h.drained (Bool.eq_false_of_not_eq_true hstop)).1

/-- A thread queues a command, after which `main` stands at `pc` and the input
thread at `i`. -/
theorem Inv.queue {pc : MainPc} {i : InputPc} {cmd : Cmd} {granted : Bool}
    {r : Except Stop DesktopSession} (hfree : ¬ s.main.Finished) (hjoin : ¬ pc.Joining)
    (hrefused : granted = false → Phase pc s.queued) (haccepted : Phase pc (s.queued ++ [cmd]))
    (hstart : pc.BeforeInput → i = .notStarted)
    (hquiet : pc.Finishing → InputQuiet { s with input := i })
    (hqueue : { s with main := pc, input := i }.queue cmd granted = some r) :
    ∃ s', r = .ok s' ∧ Inv s' := by
  have hclient : ¬ s.client.running = false := ne_false_of_eq_true (h.client_running hfree)
  have hold : Holding { s with main := pc, input := i }.client.sendQueue
    { s with main := pc, input := i }.blocks { s with main := pc, input := i }.written.length
    { s with main := pc, input := i }.queued := h.holding
  obtain ⟨hg, rfl⟩ | ⟨q, rfl, hq⟩ := queue_cases hold hqueue
  · refine ⟨_, rfl, ?_⟩
    exact { h with
      phase := hrefused hg
      notStarted := hstart
      quiet := hquiet
      drained := fun hstop => absurd hstop hclient
      joining := fun hpc => absurd hpc hjoin }
  · refine ⟨_, rfl, ?_⟩
    exact { h with
      holding := hq
      written := h.written.trans (List.prefix_append _ _)
      phase := haccepted
      notStarted := hstart
      quiet := hquiet
      drained := fun hstop => absurd hstop hclient
      joining := fun hpc => absurd hpc hjoin }

/-- An empty queue has been written whole. -/
theorem Inv.written_of_empty (hempty : QueueEmpty s) : s.written = s.queued :=
  h.written.eq_of_length (h.holding.head_eq_tail_iff.mp hempty)

omit h in
/-- A quiet thread stays quiet when the session stops. -/
theorem InputQuiet.stop (hquiet : InputQuiet s) : InputQuiet { s with running := false } :=
  hquiet.imp_right (Or.imp_right (fun hstopped => ⟨rfl, hstopped.2⟩))

/-- Clearing the flag of the service loop when the session is written. -/
theorem Inv.clear_running (pc : MainPc) (handling : Bool) (hpc : pc.Finished)
    (hempty : QueueEmpty s) (hphase : Phase pc s.queued) (hquiet : InputQuiet s) :
    Inv { s with
      main := pc
      handling := handling
      client := { s.client with running := false } } where
  holding := h.holding
  written := h.written
  phase := hphase
  notStarted := by
    intro hbefore
    cases pc <;> first | exact hbefore.elim | exact hpc.elim
  quiet := fun _ => hquiet
  drained := fun _ => ⟨hpc, h.written_of_empty hempty⟩
  stopped := fun _ => rfl
  joining := fun _ => rfl

/-- A step that queues nothing and leaves the client as it is. -/
theorem Inv.move (pc : MainPc) (i : InputPc) (running : Bool) (hphase : Phase pc s.queued)
    (hstart : pc.BeforeInput → i = .notStarted)
    (hquiet : pc.Finishing → InputQuiet { s with input := i, running := running })
    (hfinished : s.main.Finished → pc.Finished) (hjoin : pc.Joining → s.client.running = false) :
    Inv { s with main := pc, input := i, running := running } :=
  { h with
    phase := hphase
    notStarted := hstart
    quiet := hquiet
    drained := fun hstop => (h.drained hstop).imp_left hfinished
    joining := hjoin }

/-- `client_destroy` finds nothing to free. -/
theorem Inv.clientDestroy (hmain : s.main = .destroy) :
    ∃ s', s.clientDestroy = .ok s' ∧ Inv s' := by
  have hjoining : s.main.Joining := by
    rw [hmain]
    trivial
  have hstop := h.joining hjoining
  obtain ⟨-, heq⟩ := h.drained hstop
  have hphase := h.phase
  rw [hmain] at hphase
  have hcount := RingBuffer.count_lt h.holding.bounded
  rw [h.holding.size] at hcount
  obtain ⟨q', hrun, hq'⟩ := freeRemaining_spec h.holding hcount.le []
  refine ⟨_, (bind_ok hrun).trans rfl, ?_⟩
  exact {
    holding := by
      show Holding q' _ s.written.length s.queued
      rw [heq]
      exact hq'
    written := h.written
    phase := hphase
    notStarted := nofun
    quiet := fun _ => h.quiet (by rw [hmain]; trivial)
    drained := fun _ => ⟨trivial, heq⟩
    stopped := fun _ => rfl
    joining := fun _ => rfl }

/-- `main` while input may still be sent. -/
theorem Inv.speaking (pc : MainPc) (i : InputPc) (running : Bool) (hpc : ¬ pc.Finishing)
    (hphase : Phase pc s.queued) (hmain : ¬ s.main.Finishing)
    (hstart : pc.BeforeInput → i = .notStarted) :
    Inv { s with main := pc, input := i, running := running } := by
  exact h.move pc i running hphase hstart (fun hf => absurd hf hpc)
    (fun hf => absurd hf.finishing hmain) (fun hjoin => absurd hjoin.finished.finishing hpc)

/-- `main` before it starts the input. -/
theorem Inv.mainStep_opening {ok granted : Bool} {r : Except Stop DesktopSession}
    (hpc : s.main.BeforeInput)
    (hord : Orderly s (.main ok granted)) (hstep : s.mainStep ok granted = some r) :
    ∃ s', r = .ok s' ∧ Inv s' := by
  have hphase := h.phase
  have hstart := h.notStarted
  unfold DesktopSession.mainStep at hstep
  unfold Orderly OrderlyMain at hord
  cases hmain : s.main with
  | startConnection =>
    simp only [hmain] at hstep hord hphase hstart
    have hopen : s.queued = [] := hphase
    refine h.queue (by rw [hmain]; exact id) id ?_ ?_ (fun _ => hstart trivial) False.elim hstep
    · intro hg
      cases hg.symm.trans hord
    · rw [hopen]
      rfl
  | startSession =>
    simp only [hmain] at hstep hord hphase hstart
    have hopen : s.queued = [.startConnection] := hphase
    refine h.queue (by rw [hmain]; exact id) id ?_ ?_ (fun _ => hstart trivial) False.elim hstep
    · intro hg
      cases hg.symm.trans hord
    · rw [hopen]
      rfl
  | sayHello =>
    simp only [hmain] at hstep hphase hstart
    have hopen : s.queued = [.startConnection, .startSession] := hphase
    have hspoken : Speaking s.queued := ⟨[], [], Or.inl rfl, nofun, hopen⟩
    -- an audio file is sent without a greeting
    by_cases hfile : s.inputMod = .audioFile
    · rw [if_pos hfile] at hstep
      obtain rfl := Option.some.inj hstep
      exact ⟨_, rfl, h.speaking .startInput s.input s.running id hspoken
        (by rw [hmain]; exact id) (fun _ => hstart trivial)⟩
    · rw [if_neg hfile] at hstep
      refine h.queue (by rw [hmain]; exact id) id ?_ ?_ (fun _ => hstart trivial) False.elim hstep
      · intro _
        exact hspoken
      · refine ⟨[.sayHello], [], Or.inr rfl, nofun, ?_⟩
        rw [hopen]
        rfl
  | startInput =>
    simp only [hmain] at hstep hphase
    have hfree : ¬ s.main.Finishing := by rw [hmain]; exact id
    -- a file is read by `main` itself; text and microphone have a thread each
    split at hstep
    · obtain rfl := Option.some.inj hstep
      cases ok with
      | true => exact ⟨_, rfl, h.speaking .fileTest s.input s.running id hphase hfree False.elim⟩
      | false => exact ⟨_, rfl, h.speaking .waiting s.input s.running id hphase hfree False.elim⟩
    · obtain rfl := Option.some.inj hstep
      exact ⟨_, rfl, h.speaking .waiting .waitHello s.running id hphase hfree False.elim⟩
    · cases ok with
      | true =>
        obtain rfl := Option.some.inj hstep
        exact ⟨_, rfl, h.speaking .waiting .waitHello s.running id hphase hfree False.elim⟩
      | false =>
        obtain rfl := Option.some.inj hstep
        exact ⟨_, rfl, h.speaking .waiting s.input false id hphase hfree False.elim⟩
  | fileTest | fileRead | waiting | finishSession | waitFinish _ | finishConnection | stopSession
  | stopClient | joinService | joinInput | destroy | done =>
    rw [hmain] at hpc
    exact hpc.elim

/-- `main` while input may be sent, up to `FinishSession`. -/
theorem Inv.mainStep_speaking {ok granted : Bool} {r : Except Stop DesktopSession}
    (hbefore : ¬ s.main.BeforeInput) (hfinishing : ¬ s.main.Finishing)
    (hord : Orderly s (.main ok granted)) (hstep : s.mainStep ok granted = some r) :
    ∃ s', r = .ok s' ∧ Inv s' := by
  have hphase := h.phase
  have hunfinished : ¬ s.main.Finished := fun hf => hfinishing hf.finishing
  unfold DesktopSession.mainStep at hstep
  unfold Orderly OrderlyMain at hord
  cases hmain : s.main with
  | fileTest =>
    simp only [hmain] at hstep hphase
    obtain rfl := Option.some.inj hstep
    by_cases hrunning : s.running = true
    · rw [if_pos hrunning]
      exact ⟨_, rfl, h.speaking .fileRead s.input s.running id hphase hfinishing False.elim⟩
    · rw [if_neg hrunning]
      exact ⟨_, rfl, h.speaking .waiting s.input s.running id hphase hfinishing False.elim⟩
  | fileRead =>
    simp only [hmain] at hstep hphase
    cases ok with
    | true =>
      rw [if_pos rfl] at hstep
      have hspoken : Speaking s.queued := hphase
      refine h.queue hunfinished id ?_ ?_ False.elim False.elim hstep
      · intro _
        exact hspoken
      · exact hspoken.append_input (Or.inl rfl)
    | false =>
      rw [if_neg Bool.false_ne_true] at hstep
      obtain rfl := Option.some.inj hstep
      exact ⟨_, rfl, h.speaking .waiting s.input s.running id hphase hfinishing False.elim⟩
  | waiting =>
    simp only [hmain] at hstep hphase
    -- the loop goes round, or the session is over
    by_cases hwait : s.running = true ∧ s.sessionFinished = false
    · rw [if_pos hwait] at hstep
      obtain rfl := Option.some.inj hstep
      exact ⟨s, rfl, h⟩
    · rw [if_neg hwait] at hstep
      obtain rfl := Option.some.inj hstep
      exact ⟨_, rfl, h.speaking .finishSession s.input s.running id hphase hfinishing
        False.elim⟩
  | finishSession =>
    simp only [hmain] at hstep hord hphase
    -- an orderly step finds the input thread quiet, and it stays so
    refine h.queue hunfinished id ?_ ?_ False.elim (fun _ => hord.2) hstep
    · intro hg
      cases hg.symm.trans hord.1
    · exact ⟨s.queued, hphase, rfl⟩
  | startConnection | startSession | sayHello | startInput =>
    rw [hmain] at hbefore
    exact absurd trivial hbefore
  | waitFinish _ | finishConnection | stopSession | stopClient | joinService | joinInput | destroy
  | done =>
    rw [hmain] at hfinishing
    exact absurd trivial hfinishing

/-- `main` behind `FinishSession`. -/
theorem Inv.mainStep_finishing {ok granted : Bool} {r : Except Stop DesktopSession}
    (hpc : s.main.Finishing)
    (hord : Orderly s (.main ok granted)) (hstep : s.mainStep ok granted = some r) :
    ∃ s', r = .ok s' ∧ Inv s' := by
  have hphase := h.phase
  have hquiet := h.quiet
  unfold DesktopSession.mainStep at hstep
  unfold Orderly OrderlyMain at hord
  cases hmain : s.main with
  | waitFinish left =>
    simp only [hmain] at hstep hphase hquiet
    obtain rfl := Option.some.inj hstep
    -- the finish event has come, or the time for it is over
    by_cases hend : left = 0 ∨ s.sessionFinished = true
    · rw [if_pos hend]
      exact ⟨_, rfl, h.move .finishConnection s.input s.running hphase False.elim
        (fun _ => hquiet trivial) (by rw [hmain]; exact False.elim) False.elim⟩
    · rw [if_neg hend]
      exact ⟨_, rfl, h.move (.waitFinish (left - 1)) s.input s.running hphase False.elim
        (fun _ => hquiet trivial) (by rw [hmain]; exact False.elim) False.elim⟩
  | finishConnection =>
    simp only [hmain] at hstep hord hphase hquiet
    refine h.queue (by rw [hmain]; exact id) id ?_ ?_ False.elim (fun _ => hquiet trivial) hstep
    · intro hg
      cases hg.symm.trans hord
    · obtain ⟨spoken, hspoken, heq⟩ := hphase
      refine ⟨spoken, hspoken, ?_⟩
      rw [heq, List.append_assoc]
      rfl
  | stopSession =>
    simp only [hmain] at hstep hphase hquiet
    obtain rfl := Option.some.inj hstep
    exact ⟨_, rfl, h.move .stopClient s.input false hphase False.elim
      (fun _ => (hquiet trivial).stop) (fun _ => trivial) False.elim⟩
  | stopClient =>
    simp only [hmain] at hstep hord hphase hquiet
    obtain rfl := Option.some.inj hstep
    -- the queue is empty, so all that was queued has been written
    exact ⟨_, rfl, h.clear_running .joinService s.handling trivial hord hphase (hquiet trivial)⟩
  | joinService =>
    simp only [hmain] at hstep hphase hquiet
    obtain ⟨hjoin, hr⟩ := Option.ite_none_right_eq_some.mp hstep
    obtain rfl := Option.some.inj hr
    -- the service thread ends only when its flag is cleared
    exact ⟨_, rfl, h.move .joinInput s.input s.running hphase False.elim
      (fun _ => hquiet trivial) (fun _ => trivial) (fun _ => h.stopped hjoin)⟩
  | joinInput =>
    simp only [hmain] at hstep hphase hquiet
    obtain ⟨-, hr⟩ := Option.ite_none_right_eq_some.mp hstep
    obtain rfl := Option.some.inj hr
    exact ⟨_, rfl, h.move .destroy s.input s.running hphase False.elim
      (fun _ => hquiet trivial) (fun _ => trivial)
      (fun _ => h.joining (by rw [hmain]; trivial))⟩
  | destroy =>
    simp only [hmain] at hstep
    obtain rfl := Option.some.inj hstep
    exact h.clientDestroy hmain
  | done =>
    simp only [hmain] at hstep
    cases hstep
  | startConnection | startSession | sayHello | startInput | fileTest | fileRead | waiting
  | finishSession =>
    rw [hmain] at hpc
    exact hpc.elim

theorem Inv.mainStep {ok granted : Bool} {r : Except Stop DesktopSession}
    (hord : Orderly s (.main ok granted)) (hstep : s.mainStep ok granted = some r) :
    ∃ s', r = .ok s' ∧ Inv s' := by
  by_cases hbefore : s.main.BeforeInput
  · exact h.mainStep_opening hbefore hord hstep
  · by_cases hfinishing : s.main.Finishing
    · exact h.mainStep_finishing hfinishing hord hstep
    · exact h.mainStep_speaking hbefore hfinishing hord hstep

/-- The input thread moves on without queueing anything; it does not come behind
the test of a flag that is cleared. -/
theorem Inv.moveInput (i : InputPc) (hstart : s.input ≠ .notStarted) (hend : s.input ≠ .ended)
    (hread : s.running = false → i ≠ .reading) : Inv { s with input := i } := by
  refine h.move s.main i s.running h.phase (fun hbefore => absurd (h.notStarted hbefore) hstart)
    ?_ id h.joining
  intro hfinishing
  obtain hq | hq | ⟨hstop, -⟩ := h.quiet hfinishing
  · exact absurd hq hstart
  · exact absurd hq hend
  · exact Or.inr (Or.inr ⟨hstop, hread hstop⟩)

omit h in
/-- Input may be queued where `main` has started the input and not finished
the session. -/
theorem Phase.append_input {pc : MainPc} {cmds : List Cmd} {cmd : Cmd} (h : Phase pc cmds)
    (hbefore : ¬ pc.BeforeInput) (hfinishing : ¬ pc.Finishing)
    (hcmd : cmd = .taskRequest ∨ cmd = .chatTextQuery) : Phase pc (cmds ++ [cmd]) := by
  cases pc with
  | startConnection | startSession | sayHello | startInput => exact absurd trivial hbefore
  | fileTest | fileRead | waiting | finishSession => exact Speaking.append_input h hcmd
  | waitFinish _ | finishConnection | stopSession | stopClient | joinService | joinInput | destroy
  | done => exact absurd trivial hfinishing

/-- The input thread behind its test: `main` has not queued `FinishSession`. -/
theorem Inv.reading (hinput : s.input = .reading) :
    ¬ s.main.BeforeInput ∧ ¬ s.main.Finishing := by
  constructor
  · intro hbefore
    cases hinput.symm.trans (h.notStarted hbefore)
  · intro hfinishing
    obtain hq | hq | ⟨-, hq⟩ := h.quiet hfinishing
    · cases hinput.symm.trans hq
    · cases hinput.symm.trans hq
    · exact hq hinput

theorem Inv.inputStep {got : Input} {granted : Bool} {r : Except Stop DesktopSession}
    (hstep : s.inputStep got granted = some r) : ∃ s', r = .ok s' ∧ Inv s' := by
  unfold DesktopSession.inputStep at hstep
  cases hinput : s.input with
  | notStarted =>
    simp only [hinput] at hstep
    cases hstep
  | waitHello =>
    simp only [hinput] at hstep
    -- woken by the end of the greeting or by the end of the session
    obtain ⟨-, hr⟩ := Option.ite_none_right_eq_some.mp hstep
    obtain rfl := Option.some.inj hr
    exact ⟨_, rfl, h.moveInput .checkRunning (by rw [hinput]; nofun) (by rw [hinput]; nofun)
      nofun⟩
  | checkRunning =>
    simp only [hinput] at hstep
    obtain rfl := Option.some.inj hstep
    refine ⟨_, rfl, h.moveInput _ (by rw [hinput]; nofun) (by rw [hinput]; nofun) ?_⟩
    intro hstop
    rw [hstop]
    nofun
  | loopTest =>
    simp only [hinput] at hstep
    obtain rfl := Option.some.inj hstep
    refine ⟨_, rfl, h.moveInput _ (by rw [hinput]; nofun) (by rw [hinput]; nofun) ?_⟩
    intro hstop
    rw [hstop]
    nofun
  | reading =>
    simp only [hinput] at hstep
    -- behind its test of the flag the thread may still queue what it reads
    obtain ⟨hbefore, hfinishing⟩ := h.reading hinput
    cases got with
    | data =>
      have hcmd : s.inputCommand = .taskRequest ∨ s.inputCommand = .chatTextQuery := by
        unfold DesktopSession.inputCommand
        split
        · exact Or.inr rfl
        · exact Or.inl rfl
      exact h.queue (fun hf => hfinishing hf.finishing)
        (fun hjoin => hfinishing hjoin.finished.finishing) (fun _ => h.phase)
        (h.phase.append_input hbefore hfinishing hcmd) (fun hb => absurd hb hbefore)
        (fun hf => absurd hf hfinishing) hstep
    | nothing =>
      obtain rfl := Option.some.inj hstep
      exact ⟨_, rfl, h.moveInput .loopTest (by rw [hinput]; nofun) (by rw [hinput]; nofun) nofun⟩
    | eof =>
      by_cases htext : s.inputMod = .text
      · simp only [if_pos htext] at hstep
        obtain rfl := Option.some.inj hstep
        exact ⟨_, rfl, h.moveInput .ended (by rw [hinput]; nofun) (by rw [hinput]; nofun) nofun⟩
      · simp only [if_neg htext] at hstep
        cases hstep
  | ended =>
    simp only [hinput] at hstep
    cases hstep

/-- The WRITEABLE callback writes the next command of the queue. -/
theorem Inv.writeable : ∃ s', s.writeable = .ok s' ∧ Inv s' := by
  by_cases hne : s.client.sendQueue.head = s.client.sendQueue.tail
  · have hidle : s.writeable = .ok s := by
      unfold DesktopSession.writeable
      rw [bind_ok (clientWriteable_idle hne true)]
      show Except.ok { s with written := s.written ++ [] } = _
      rw [List.append_nil]
    exact ⟨s, hidle, h⟩
  · obtain ⟨q', cmd, hcmd, hrun, hq'⟩ := clientWriteable_sends h.holding hne true
    have hlen : (s.written ++ [cmd]).length = s.written.length + 1 := List.length_append
    refine ⟨_, (bind_ok hrun).trans rfl, ?_⟩
    exact { h with
      holding := by
        show Holding q' _ (s.written ++ [cmd]).length _
        rw [hlen]
        exact hq'
      written := prefix_snoc h.written hcmd
      drained := by
        -- a session that is written leaves nothing to write
        intro hstop
        obtain ⟨-, heq⟩ := h.drained hstop
        refine absurd (h.holding.head_eq_tail_iff.mpr ?_) hne
        rw [heq] }

end Steps

/-- **One step** that is orderly keeps the invariant. -/
theorem Inv.act {s : DesktopSession} (h : Inv s) {a : DesktopAct} {r : Except Stop DesktopSession}
    (hord : Orderly s a) (hact : s.act a = some r) : ∃ s', r = .ok s' ∧ Inv s' := by
  cases a with
  | main ok granted => exact h.mainStep hord hact
  | input got granted => exact h.inputStep hact
  | cancelled =>
    obtain ⟨hon, hr⟩ := Option.ite_none_right_eq_some.mp hact
    obtain rfl := Option.some.inj hr
    -- `main` cancels the thread when it joins it
    refine ⟨_, rfl, h.move s.main .ended s.running h.phase ?_ ?_ id h.joining⟩
    · intro hbefore
      exact absurd (h.notStarted hbefore) hon.2
    · intro _
      exact Or.inr (Or.inl rfl)
  | serviceTest =>
    obtain ⟨-, hr⟩ := Option.ite_none_right_eq_some.mp hact
    obtain rfl := Option.some.inj hr
    refine ⟨_, rfl, ?_⟩
    exact { h with
      stopped := by
        intro hstop
        by_contra hrunning
        rw [Bool.not_eq_false] at hrunning
        have hserving : (if s.client.running = true then ServicePc.serving else .stopped) =
          .stopped := hstop
        rw [if_pos hrunning] at hserving
        cases hserving }
  | writeable =>
    obtain ⟨-, hr⟩ := Option.ite_none_right_eq_some.mp hact
    obtain rfl := Option.some.inj hr
    exact h.writeable
  | receive msg =>
    obtain ⟨-, hr⟩ := Option.ite_none_right_eq_some.mp hact
    obtain rfl := Option.some.inj hr
    refine ⟨_, rfl, ?_⟩
    -- only an error message clears the flag of the session
    cases msg with
    | ttsEnded => exact { h with }
    | sessionFinish => exact { h with }
    | error => exact { h with quiet := fun hf => (h.quiet hf).stop }
    | other => exact h
  | serviceReturn =>
    obtain ⟨-, hr⟩ := Option.ite_none_right_eq_some.mp hact
    obtain rfl := Option.some.inj hr
    exact ⟨_, rfl, { h with stopped := nofun }⟩
  | sigint =>
    obtain ⟨-, hr⟩ := Option.ite_none_left_eq_some.mp hact
    obtain rfl := Option.some.inj hr
    exact ⟨_, rfl, { h with quiet := fun hf => (h.quiet hf).stop }⟩
  | sigintClient =>
    obtain ⟨-, hr⟩ := Option.ite_none_right_eq_some.mp hact
    obtain rfl := Option.some.inj hr
    obtain ⟨hfinished, hempty⟩ := hord
    exact ⟨_, rfl, h.clear_running s.main false hfinished hempty h.phase
      (h.quiet hfinished.finishing)⟩

/-- **A run of orderly steps is in protocol order**, in every state it
reaches. -/
theorem inOrder_run {inputMod : InputMod} {acts : List DesktopAct}
    {r : Except Stop DesktopSession}
    (hord : desktop.Guarded OrderlyStep (.ok (DesktopSession.start inputMod)) acts)
    (hrun : desktop.run (.ok (DesktopSession.start inputMod)) acts = some r) :
    ∃ s, r = .ok s ∧ InOrder s := by
  have hinv : ∃ s, r = .ok s ∧ Inv s := by
    refine Machine.inv_run_guarded
      (I := fun r : Except Stop DesktopSession => ∃ s, r = .ok s ∧ Inv s)
      ?_ ⟨_, rfl, inv_start inputMod⟩ hord hrun
    rintro r a r' ⟨s, rfl, hs⟩ hg hstep
    exact hs.act hg hstep
  obtain ⟨s, rfl, hs⟩ := hinv
  exact ⟨s, rfl, hs.inOrder⟩

/-- Whole handshake of a text session, each command written when it is
queued. -/
def handshake : List DesktopAct :=
  [.serviceTest, .main true true, .writeable, .main true true, .writeable, .main true true,
    .writeable, .main true true]

/-- The server ends the session after one query, when the input is at its end. -/
def endedBySession : List DesktopAct :=
  handshake ++ [.receive .ttsEnded, .input .data true, .input .data true, .input .data true,
    .input .data true, .writeable, .input .data true, .input .eof true, .receive .sessionFinish,
    .main true true, .main true true, .writeable, .main true true, .main true true, .writeable,
    .main true true, .main true true, .serviceReturn, .serviceTest, .main true true,
    .main true true, .main true true]

theorem inOrder_endedBySession :
    ∃ s, desktop.run (.ok (DesktopSession.start .text)) endedBySession = some (.ok s) ∧
      InOrder s ∧ s.main = .done ∧
      s.written = [.startConnection, .startSession, .sayHello, .chatTextQuery, .finishSession,
        .finishConnection] := by
  have hord : desktop.Guarded OrderlyStep (.ok (DesktopSession.start .text)) endedBySession := by
    decide
  obtain ⟨s, hs, horder⟩ := inOrder_run hord rfl
  obtain rfl := Except.ok.inj hs
  exact ⟨_, rfl, horder, rfl, rfl⟩

/-- SIGINT while the session is spoken: the service loop tests its flag before
`main` has queued anything. -/
def endedBySigint : List DesktopAct :=
  handshake ++ [.receive .ttsEnded, .sigint, .sigintClient, .serviceReturn, .serviceTest,
    .main true true, .main true true] ++ List.replicate 31 (.main true true) ++
    [.main true true, .main true true, .main true true, .main true true, .cancelled,
      .main true true, .main true true]

/-- The server ends the session while the microphone thread reads. -/
def endedWhileReading : List DesktopAct :=
  handshake ++ [.receive .ttsEnded, .input .data true, .input .data true, .input .data true,
    .receive .sessionFinish, .main true true, .main true true, .input .data true]

/-- After SIGINT neither finish command is written; after a finish event the
input goes on behind `FinishSession`. -/
theorem shutdown_outOfOrder :
    (∃ s, desktop.run (.ok (DesktopSession.start .audio)) endedBySigint = some (.ok s) ∧
      s.main = .done ∧ s.queued = [.startConnection, .startSession, .sayHello, .finishSession,
        .finishConnection] ∧
      s.written = [.startConnection, .startSession, .sayHello] ∧ ¬ InOrder s) ∧
    (∃ s, desktop.run (.ok (DesktopSession.start .audio)) endedWhileReading = some (.ok s) ∧
      s.queued = [.startConnection, .startSession, .sayHello, .finishSession, .taskRequest] ∧
      ¬ InOrder s) := by
  constructor
  · refine ⟨_, rfl, rfl, rfl, rfl, ?_⟩
    intro horder
    obtain ⟨spoken, -, hwhole⟩ := horder.done rfl
    have hmem : Cmd.finishConnection ∈ [Cmd.startConnection, .startSession, .sayHello] := by
      rw [show [Cmd.startConnection, .startSession, .sayHello] = _ from hwhole]
      exact List.mem_append_right _ (List.mem_cons_of_mem _ List.mem_cons_self)
    exact absurd hmem (by decide)
  · refine ⟨_, rfl, rfl, ?_⟩
    intro horder
    have hafter := horder.finish [.startConnection, .startSession, .sayHello] [.taskRequest] rfl
    exact absurd hafter (by decide)

end Desktop

end BoxDoubao
