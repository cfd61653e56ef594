import BoxDoubao.Desktop.StartUp

/-!
# The clean-up after a failed start

`clientOwned`, `oggOwned` and `playerOwned` are what `client_destroy` and
`audio_cleanup` release; `clientDestroy_owns` and `audioCleanup_owns` say that
they release exactly that. The start-up then only has to reach them with these
resources live: `ClientReady` is the state after `client_init`, `OggLive` what
the messages that arrive during the wait keep, and `Running` the state in which
`client_connect` returns.

`main_cleansUp_iff` says when that is so: not when `audio_open_output` fails,
since `audio_cleanup` joins a player thread that was never created, and not when
the connection cannot be initiated, since `client_connect` then destroys the
context and `client_destroy` does so again.
-/

namespace BoxDoubao

namespace Desktop

namespace StartUp

open Ledger (ifSet)

/-! ### What the clean-up releases -/

/-- What `client_destroy` releases. -/
def clientOwned (s : StartUp) (rest : List DesktopResource) : List DesktopResource :=
  ifSet s.context .lwsContext ++ (ifSet s.recvBuf .recvBuf ++ .sendMutex :: rest)

/-- The Ogg state and the raw data. -/
def oggOwned (s : StartUp) (rest : List DesktopResource) : List DesktopResource :=
  ifSet s.oggStreamInited (.oggStream s.streams) ++
    .oggSync s.syncs :: (ifSet s.oggBuffer (.oggBuffer s.buffers) ++ rest)

/-- The rest of what `audio_cleanup` releases. -/
def playerOwned (s : StartUp) (rest : List DesktopResource) : List DesktopResource :=
  .playerThread :: (ifSet s.inputStream .inputStream ++ (ifSet s.outputStream .outputStream ++
    .portAudio :: (ifSet s.opusEncoder .opusEncoder ++ (ifSet s.opusDecoder .opusDecoder ++
      .playQueue :: rest))))

variable {s : StartUp} {rest : List DesktopResource}

/-- `client_destroy` releases what the client owns. -/
theorem clientDestroy_owns (h : Ledger.Owns s.ledger (s.clientOwned rest)) :
    Ledger.Owns s.clientDestroy.ledger rest := by
  exact (h.releaseIf.releaseIf.use List.mem_cons_self).release

theorem audioCleanup_ledger (s : StartUp) : s.audioCleanup.ledger =
    Ledger.releaseIf (.release .playQueue :: .release (.oggSync s.syncs) ::
      Ledger.releaseIf (Ledger.releaseIf (Ledger.releaseIf (.release .portAudio ::
        Ledger.releaseIf (Ledger.releaseIf (.release .playerThread :: .use .playQueue :: s.ledger)
          s.inputStream .inputStream) s.outputStream .outputStream)
        s.opusEncoder .opusEncoder) s.opusDecoder .opusDecoder)
        s.oggStreamInited (.oggStream s.streams)) s.oggBuffer (.oggBuffer s.buffers) := by
  simp only [audioCleanup, use, release, releaseIf]

/-- `audio_cleanup` releases what the audio manager owns. -/
theorem audioCleanup_owns (h : Ledger.Owns s.ledger (s.oggOwned (s.playerOwned rest))) :
    Ledger.Owns s.audioCleanup.ledger rest := by
  have hperm : (s.oggOwned (s.playerOwned rest)).Perm (.playerThread ::
      (ifSet s.inputStream .inputStream ++ (ifSet s.outputStream .outputStream ++
        .portAudio :: (ifSet s.opusEncoder .opusEncoder ++ (ifSet s.opusDecoder .opusDecoder ++
          (ifSet s.oggStreamInited (.oggStream s.streams) ++ .oggSync s.syncs :: .playQueue ::
            (ifSet s.oggBuffer (.oggBuffer s.buffers) ++ rest))))))) := by
    rw [List.perm_iff_count]
    intro r
    simp only [oggOwned, playerOwned, List.count_append, List.count_cons]
    omega
  have hqueue : DesktopResource.playQueue ∈ s.oggOwned (s.playerOwned rest) := by
    simp [oggOwned, playerOwned]
  have hjoined := ((h.use hqueue).perm hperm).release
  rw [audioCleanup_ledger]
  exact hjoined.releaseIf.releaseIf.release.releaseIf.releaseIf.releaseIf.release.release.releaseIf

/-! ### What may arrive during the wait -/

/-- The Ogg state is live beside `rest`, and its numbers are new. -/
structure OggLive (s : StartUp) (rest : List DesktopResource) : Prop where
  owns : s.ledger.Owns (s.oggOwned rest)
  streams : ∀ n, .acquire (.oggStream n) ∈ s.ledger →
    n < s.streams ∨ n = s.streams ∧ s.oggStreamInited = true
  syncs : ∀ n, .acquire (.oggSync n) ∈ s.ledger → n ≤ s.syncs
  buffers : ∀ n, .acquire (.oggBuffer n) ∈ s.ledger → n ≤ s.buffers

/-- After `ogg_stream_clear` no logical stream is open, and its number is
new. -/
theorem OggLive.clearStream (h : s.OggLive rest) :
    s.clearStream.OggLive rest ∧ s.clearStream.oggStreamInited = false := by
  unfold StartUp.clearStream
  cases hinited : s.oggStreamInited with
  | false =>
    rw [if_neg Bool.false_ne_true]
    exact ⟨h, hinited⟩
  | true =>
    have howns := h.owns
    unfold oggOwned at howns
    rw [hinited] at howns
    rw [if_pos rfl]
    refine ⟨⟨howns.release, ?_, ?_, ?_⟩, rfl⟩
    · intro n hn
      have hold := h.streams n (Ledger.acquire_mem_release hn)
      exact Or.inl (Nat.lt_succ_of_le (by omega))
    · intro n hn
      exact h.syncs n (Ledger.acquire_mem_release hn)
    · intro n hn
      exact h.buffers n (Ledger.acquire_mem_release hn)

/-- A logical stream is opened. -/
theorem OggLive.openStream (h : s.OggLive rest) (hinited : s.oggStreamInited = false) :
    OggLive { s.acquire (.oggStream s.streams) with oggStreamInited := true } rest := by
  have howns := h.owns
  unfold oggOwned at howns
  rw [hinited] at howns
  -- the numbers in the ledger are smaller, since no stream is open
  have hnew : .acquire (.oggStream s.streams) ∉ s.ledger := by
    intro hmem
    obtain hlt | ⟨-, htrue⟩ := h.streams _ hmem
    · exact Nat.lt_irrefl _ hlt
    · rw [hinited] at htrue
      exact Bool.false_ne_true htrue
  refine ⟨howns.acquire hnew, ?_, ?_, ?_⟩
  · intro n hn
    obtain heq | hn := List.mem_cons.mp hn
    · cases heq
      exact Or.inr ⟨rfl, rfl⟩
    · obtain hlt | ⟨heq, -⟩ := h.streams n hn
      · exact Or.inl hlt
      · exact Or.inr ⟨heq, rfl⟩
  · intro n hn
    exact h.syncs n (Ledger.acquire_mem_of_ne hn nofun)
  · intro n hn
    exact h.buffers n (Ledger.acquire_mem_of_ne hn nofun)

/-- The raw data of another message are appended, to a new buffer. -/
theorem OggLive.append (h : s.OggLive rest) : (s.arrive .append).OggLive rest := by
  -- the buffer stands behind the Ogg states
  have hfirst : (s.oggOwned rest).Perm (ifSet s.oggBuffer (.oggBuffer s.buffers) ++
      (ifSet s.oggStreamInited (.oggStream s.streams) ++ .oggSync s.syncs :: rest)) := by
    rw [List.perm_iff_count]
    intro r
    simp only [oggOwned, List.count_append, List.count_cons]
    omega
  have hback : (.oggBuffer (s.buffers + 1) ::
      (ifSet s.oggStreamInited (.oggStream s.streams) ++ .oggSync s.syncs :: rest)).Perm
      ((s.arrive .append).oggOwned rest) := by
    rw [List.perm_iff_count]
    intro r
    simp only [oggOwned, StartUp.arrive, StartUp.acquire, StartUp.releaseIf, Ledger.ifSet_true,
      List.count_append, List.count_cons, List.count_nil]
    omega
  have hnew : .acquire (.oggBuffer (s.buffers + 1)) ∉
      s.ledger.releaseIf s.oggBuffer (.oggBuffer s.buffers) := by
    rw [Ledger.acquire_mem_releaseIf]
    intro hmem
    exact Nat.not_succ_le_self _ (h.buffers _ hmem)
  refine ⟨((h.owns.perm hfirst).releaseIf.acquire hnew).perm hback, ?_, ?_, ?_⟩
  · intro n hn
    have hold := Ledger.acquire_mem_of_ne hn nofun
    exact h.streams n (Ledger.acquire_mem_releaseIf.mp hold)
  · intro n hn
    have hold := Ledger.acquire_mem_of_ne hn nofun
    exact h.syncs n (Ledger.acquire_mem_releaseIf.mp hold)
  · intro n hn
    obtain heq | hold := List.mem_cons.mp hn
    · cases heq
      exact Nat.le_refl _
    · exact Nat.le_succ_of_le (h.buffers n (Ledger.acquire_mem_releaseIf.mp hold))

/-- The sync state is replaced by a new one. -/
theorem OggLive.replaceSync (h : s.OggLive rest) (hinited : s.oggStreamInited = false) :
    OggLive { (s.release (.oggSync s.syncs)).acquire (.oggSync (s.syncs + 1)) with
      syncs := s.syncs + 1 } rest := by
  have howns := h.owns
  unfold oggOwned at howns
  rw [hinited] at howns
  have hnew : .acquire (.oggSync (s.syncs + 1)) ∉ .release (.oggSync s.syncs) :: s.ledger := by
    intro hmem
    exact Nat.not_succ_le_self _ (h.syncs _ (Ledger.acquire_mem_release hmem))
  have hreset := howns.release.acquire hnew
  refine ⟨?_, ?_, ?_, ?_⟩
  · unfold oggOwned
    simp only [StartUp.acquire, StartUp.release, hinited]
    exact hreset
  · intro n hn
    have hold := Ledger.acquire_mem_of_ne hn nofun
    exact h.streams n (Ledger.acquire_mem_release hold)
  · intro n hn
    obtain heq | hold := List.mem_cons.mp hn
    · cases heq
      exact Nat.le_refl _
    · exact Nat.le_succ_of_le (h.syncs n (Ledger.acquire_mem_release hold))
  · intro n hn
    have hold := Ledger.acquire_mem_of_ne hn nofun
    exact h.buffers n (Ledger.acquire_mem_release hold)

/-- The step lemma. -/
theorem OggLive.arrive (h : s.OggLive rest) (c : OggChange) : (s.arrive c).OggLive rest := by
  cases c with
  | append => exact h.append
  | firstPage =>
    unfold StartUp.arrive
    cases hinited : s.oggStreamInited with
    | true => exact h
    | false => exact h.openStream hinited
  | newStream =>
    obtain ⟨hclear, hinited⟩ := h.clearStream
    exact hclear.openStream hinited
  | reset =>
    -- the stream goes first
    obtain ⟨hclear, hinited⟩ := h.clearStream
    exact hclear.replaceSync hinited

theorem OggLive.arrivals (h : s.OggLive rest) (cs : List OggChange) :
    (cs.foldl StartUp.arrive s).OggLive rest := by
  induction cs generalizing s with
  | nil => exact h
  | cons c cs ih => exact ih (h.arrive c)

/-! ### Up to the connection -/

/-- After `client_init`: only the client owns something. -/
structure ClientReady (s : StartUp) : Prop where
  owns : s.ledger.Owns (s.clientOwned [])
  context : s.context = false
  inputStream : s.inputStream = false
  oggBuffer : s.oggBuffer = false
  acquired : ∀ r, .acquire r ∈ s.ledger → r = .sendMutex ∨ r = .recvBuf

theorem clientInit_ready {o : Outcomes} (henv : o.environment = true) :
    ∃ s, zero.clientInit o = (true, s) ∧ s.ClientReady := by
  unfold clientInit
  rw [if_neg (by rw [henv]; exact Bool.true_eq_false.mp)]
  cases o.recvBuf with
  | true =>
    refine ⟨_, rfl, by decide, rfl, rfl, rfl, ?_⟩
    intro r hr
    simpa [acquire, zero, or_comm] using hr
  | false =>
    refine ⟨_, rfl, by decide, rfl, rfl, rfl, ?_⟩
    intro r hr
    simpa [acquire, zero] using Or.inl hr

theorem audioInit_done {o : Outcomes}
    (hinit : (o.opusEncoder && o.opusDecoder && o.paInitialize) = true) :
    s.audioInit o = (true, { s with
      opusEncoder := true
      opusDecoder := true
      oggStreamInited := false
      ledger := .acquire .portAudio :: .acquire (.oggSync s.syncs) :: .acquire .opusDecoder ::
        .acquire .opusEncoder :: .acquire .playQueue :: s.ledger }) := by
  rw [Bool.and_eq_true, Bool.and_eq_true] at hinit
  obtain ⟨⟨hencoder, hdecoder⟩, hpa⟩ := hinit
  simp only [audioInit, hencoder, hdecoder, hpa, Bool.true_eq_false, if_false, acquire]

theorem audioOpenOutput_done {o : Outcomes}
    (hopen : (o.openStream && o.startStream && o.createThread) = true) :
    s.audioOpenOutput o = (true, { s with
      outputStream := true
      ledger := .acquire .playerThread :: .use .outputStream :: .acquire .outputStream ::
        s.ledger }) := by
  rw [Bool.and_eq_true, Bool.and_eq_true] at hopen
  obtain ⟨⟨hstream, hstarted⟩, hthread⟩ := hopen
  simp only [audioOpenOutput, hstream, hstarted, hthread, Bool.true_eq_false, if_false, acquire,
    use]

namespace ClientReady

variable {o : Outcomes}

theorem notMem (h : s.ClientReady) {r : DesktopResource} (hmutex : r ≠ .sendMutex)
    (hbuf : r ≠ .recvBuf) : .acquire r ∉ s.ledger := by
  intro hmem
  obtain heq | heq := h.acquired r hmem
  · exact hmutex heq
  · exact hbuf heq

/-- What is acquired next, the last one first. -/
theorem acquireAll (h : s.ClientReady) (rs : List DesktopResource) (hnodup : rs.Nodup)
    (hmutex : .sendMutex ∉ rs) (hbuf : .recvBuf ∉ rs) :
    Ledger.Owns (rs.map .acquire ++ s.ledger) (rs ++ s.clientOwned []) :=
  h.owns.acquireAll rs hnodup fun _ hr =>
    h.notMem (ne_of_mem_of_not_mem hr hmutex) (ne_of_mem_of_not_mem hr hbuf)

/-- `audio_init` fails: `client_destroy` still releases what the client owns. -/
theorem audioInit_failed (h : s.ClientReady)
    (hfails : (o.opusEncoder && o.opusDecoder && o.paInitialize) = false) :
    ∃ t, s.audioInit o = (false, t) ∧ t.ledger.Owns (t.clientOwned []) := by
  have hqueue := h.acquireAll [.playQueue] (by simp) (by simp) (by simp)
  unfold audioInit
  cases hencoder : o.opusEncoder with
  | false => exact ⟨_, rfl, hqueue.sublist (List.sublist_cons_self _ _)⟩
  | true =>
    have hencoded := h.acquireAll [.opusEncoder, .playQueue] (by simp) (by simp) (by simp)
    -- what was acquired up to the failure is released or left behind
    cases hdecoder : o.opusDecoder with
    | false => exact ⟨_, rfl, hencoded.release.sublist (List.sublist_cons_self _ _)⟩
    | true =>
      have hsynced := h.acquireAll [.oggSync s.syncs, .opusDecoder, .opusEncoder, .playQueue]
        (by simp) (by simp) (by simp)
      have hpa : o.paInitialize = false := by
        rw [hencoder, hdecoder] at hfails
        exact hfails
      rw [hpa]
      exact ⟨_, rfl, hsynced.sublist (List.sublist_append_right [_, _, _, _] _)⟩

/-- The speaker is open: `audio_cleanup` and `client_destroy` find what they
release. -/
theorem startAudio_open (h : s.ClientReady) (hmode : o.audioFile = false)
    (hinit : (o.opusEncoder && o.opusDecoder && o.paInitialize) = true)
    (hopen : (o.openStream && o.startStream && o.createThread) = true) :
    ∃ t, s.startAudio o = (true, t) ∧ t.OggLive (t.playerOwned (t.clientOwned [])) ∧
      t.context = false ∧ .acquire .lwsContext ∉ t.ledger := by
  have hopened := h.acquireAll
    [.outputStream, .portAudio, .oggSync s.syncs, .opusDecoder, .opusEncoder, .playQueue]
    (by simp) (by simp) (by simp)
  have hplaying := (hopened.use List.mem_cons_self).acquire (r := .playerThread)
    (by simp [h.notMem (r := .playerThread) nofun nofun])
  unfold startAudio
  simp only [hmode, audioInit_done hinit, audioOpenOutput_done hopen, Bool.false_eq_true,
    if_false]
  -- the same resources, in the order in which the clean-up releases them
  refine ⟨_, rfl, ⟨hplaying.perm ?_, ?_, ?_, ?_⟩, h.context, ?_⟩
  · rw [List.perm_iff_count]
    intro r
    simp only [oggOwned, playerOwned, clientOwned, h.inputStream, h.oggBuffer, h.context,
      Ledger.ifSet_true, Ledger.ifSet_false, List.count_append, List.count_cons, List.count_nil]
    omega
  · intro n hn
    simp [h.notMem (r := .oggStream n) nofun nofun] at hn
  · intro n hn
    have hn : n = s.syncs := by
      simpa [h.notMem (r := .oggSync n) nofun nofun] using hn
    exact Nat.le_of_eq hn
  · intro n hn
    simp [h.notMem (r := .oggBuffer n) nofun nofun] at hn
  · simp [h.notMem (r := .lwsContext) nofun nofun]

end ClientReady

/-- The messages change the Ogg state only. -/
theorem arrivals_rest (s : StartUp) (cs : List OggChange) (rest : List DesktopResource) :
    (cs.foldl StartUp.arrive s).playerOwned rest = s.playerOwned rest ∧
      (cs.foldl StartUp.arrive s).clientOwned rest = s.clientOwned rest := by
  induction cs generalizing s with
  | nil => exact ⟨rfl, rfl⟩
  | cons c cs ih =>
    have hstep : (s.arrive c).playerOwned rest = s.playerOwned rest ∧
        (s.arrive c).clientOwned rest = s.clientOwned rest := by
      cases c with
      | append => exact ⟨rfl, rfl⟩
      | firstPage =>
        unfold StartUp.arrive
        cases hinited : s.oggStreamInited <;> exact ⟨rfl, rfl⟩
      | newStream | reset =>
        unfold StartUp.arrive StartUp.clearStream
        cases hinited : s.oggStreamInited <;> exact ⟨rfl, rfl⟩
    obtain ⟨hplayer, hclient⟩ := ih (s.arrive c)
    exact ⟨hplayer.trans hstep.1, hclient.trans hstep.2⟩

theorem audioCleanup_clientOwned (s : StartUp) (rest : List DesktopResource) :
    s.audioCleanup.clientOwned rest = s.clientOwned rest := by
  simp only [clientOwned, audioCleanup, use, release, releaseIf]

/-! ### The connection -/

/-- What `main` finds when `client_connect` fails. -/
structure Running (o : Outcomes) (s : StartUp) : Prop where
  file : o.audioFile = true → s.ledger.Owns (s.clientOwned [])
  audio : o.audioFile = false → s.OggLive (s.playerOwned (s.clientOwned []))

namespace Running

variable {o : Outcomes}

theorem sound (h : Running o s) : s.ledger.Sound := by
  cases hmode : o.audioFile with
  | true => exact (h.file hmode).sound
  | false => exact (h.audio hmode).owns.sound

/-- The clean-up after `client_connect`. -/
theorem cleanUp (h : Running o s) :
    (if o.audioFile then s.clientDestroy else s.audioCleanup.clientDestroy).ledger.Sound := by
  cases hmode : o.audioFile with
  | true => exact (clientDestroy_owns (h.file hmode)).sound
  | false =>
    have hcleaned := audioCleanup_owns (h.audio hmode).owns
    rw [← audioCleanup_clientOwned] at hcleaned
    exact (clientDestroy_owns hcleaned).sound

/-- The context was created and is served. -/
theorem context (h : Running o s) (hcontext : s.context = false)
    (hnew : .acquire .lwsContext ∉ s.ledger) :
    Running o ({ s.acquire .lwsContext with context := true }.use .lwsContext) := by
  constructor
  · intro hmode
    have howns := h.file hmode
    unfold clientOwned at howns
    rw [hcontext] at howns
    exact (howns.acquire hnew).use List.mem_cons_self
  · intro hmode
    have hlive := h.audio hmode
    have howns := (hlive.owns.acquire hnew).use List.mem_cons_self
    refine ⟨howns.perm ?_, ?_, ?_, ?_⟩
    · rw [List.perm_iff_count]
      intro r
      simp only [oggOwned, playerOwned, clientOwned, acquire, use, hcontext, Ledger.ifSet_true,
        Ledger.ifSet_false, List.count_append, List.count_cons, List.count_nil]
      omega
    · intro n hn
      have hold := Ledger.acquire_mem_use hn
      exact hlive.streams n (Ledger.acquire_mem_of_ne hold nofun)
    · intro n hn
      have hold := Ledger.acquire_mem_use hn
      exact hlive.syncs n (Ledger.acquire_mem_of_ne hold nofun)
    · intro n hn
      have hold := Ledger.acquire_mem_use hn
      exact hlive.buffers n (Ledger.acquire_mem_of_ne hold nofun)

/-- Messages have arrived. -/
theorem arrivals (h : Running o s) (cs : List OggChange) :
    Running o (if o.audioFile then s else cs.foldl StartUp.arrive s) := by
  cases hmode : o.audioFile with
  | true => exact h
  | false =>
    refine ⟨fun hfile => absurd (hmode.symm.trans hfile) Bool.false_ne_true, fun _ => ?_⟩
    have hlive := (h.audio hmode).arrivals cs
    rw [← (arrivals_rest s cs []).2, ← (arrivals_rest s cs _).1] at hlive
    exact hlive

/-- The connection, unless it cannot be initiated. -/
theorem startClient (h : Running o s) (hcontext : s.context = false)
    (hnew : .acquire .lwsContext ∉ s.ledger)
    (hinitiate : o.createContext = true → o.initiate = true) :
    (s.startClient o).2.ledger.Sound := by
  unfold StartUp.startClient clientConnect
  -- without a context there is nothing to destroy
  cases hcreate : o.createContext with
  | false =>
    have hsame : Running o { s with context := false } := by
      rw [← hcontext]
      exact h
    exact hsame.cleanUp
  | true =>
    have hwaited := (h.context hcontext hnew).arrivals o.arrivals
    simp only [hinitiate hcreate, Bool.true_eq_false, if_false]
    cases o.connected with
    | true => exact hwaited.sound
    | false =>
      -- the context is left to `client_destroy`
      exact hwaited.cleanUp

end Running

end StartUp

/-! ### When the clean-up is right -/

/-- Nothing is released twice, and nothing is joined, stopped or destroyed that
was never created. -/
def CleansUp (l : Ledger DesktopResource) : Prop :=
  ∀ r, l.count (.release r) ≤ 1 ∧ (.use r ∈ l ∨ .release r ∈ l → .acquire r ∈ l)

namespace Outcomes

variable (o : Outcomes)

/-- `audio_init` succeeds. -/
def audioInits : Bool := o.opusEncoder && o.opusDecoder && o.paInitialize

/-- `audio_open_output` succeeds. -/
def outputOpens : Bool := o.openStream && o.startStream && o.createThread

/-- `audio_open_output` is called and fails. -/
def OpenOutputFails : Prop :=
  o.environment = true ∧ o.audioFile = false ∧ o.audioInits = true ∧ o.outputOpens = false

/-- `client_connect` is called and cannot initiate the connection. -/
def InitiateFails : Prop :=
  o.environment = true ∧ (o.audioFile = true ∨ o.audioInits = true ∧ o.outputOpens = true) ∧
    o.createContext = true ∧ o.initiate = false

end Outcomes

namespace StartUp

variable {o : Outcomes} {s : StartUp}

/-- Every other start-up is sound. -/
theorem main_sound (hopen : ¬ o.OpenOutputFails) (hinitiate : ¬ o.InitiateFails) :
    (main o).2.ledger.Sound := by
  cases henv : o.environment with
  | false =>
    unfold main clientInit
    rw [henv]
    exact trivial
  | true =>
    obtain ⟨s, hinit, hready⟩ := clientInit_ready henv
    unfold main
    rw [hinit]
    cases hmode : o.audioFile with
    | true =>
      -- without a speaker nothing but the client is to be cleaned up
      have hstart : s.startAudio o = (true, s) := if_pos hmode
      have hrunning : Running o s :=
        ⟨fun _ => hready.owns, fun hfile => absurd (hmode.symm.trans hfile) Bool.true_eq_false.mp⟩
      simp only [hstart]
      refine hrunning.startClient hready.context (hready.notMem nofun nofun) fun hcreate => ?_
      by_contra hfails
      exact hinitiate ⟨henv, Or.inl hmode, hcreate, Bool.eq_false_iff.mpr hfails⟩
    | false =>
      cases haudio : o.audioInits with
      | false =>
        obtain ⟨t, ht, howns⟩ := hready.audioInit_failed haudio
        have hstart : s.startAudio o = (false, t.clientDestroy) := by
          simp only [startAudio, hmode, ht, Bool.false_eq_true, if_false]
        simp only [hstart]
        exact (clientDestroy_owns howns).sound
      | true =>
        have hopens : o.outputOpens = true := by
          by_contra hfails
          exact hopen ⟨henv, hmode, haudio, Bool.eq_false_iff.mpr hfails⟩
        obtain ⟨t, ht, hlive, hcontext, hnew⟩ := hready.startAudio_open hmode haudio hopens
        have hrunning : Running o t :=
          ⟨fun hfile => absurd (hmode.symm.trans hfile) Bool.false_ne_true, fun _ => hlive⟩
        simp only [ht]
        refine hrunning.startClient hcontext hnew fun hcreate => ?_
        by_contra hfails
        exact hinitiate ⟨henv, Or.inr ⟨haudio, hopens⟩, hcreate, Bool.eq_false_iff.mpr hfails⟩

theorem clientDestroy_ledger (s : StartUp) : s.clientDestroy.ledger =
    .release .sendMutex :: .use .sendMutex ::
      (s.ledger.releaseIf s.context .lwsContext).releaseIf s.recvBuf .recvBuf := rfl

/-- The clean-up keeps what was recorded. -/
theorem sublist_clientDestroy (s : StartUp) : s.ledger.Sublist s.clientDestroy.ledger :=
  ((Ledger.sublist_releaseIf _ _ _).trans (Ledger.sublist_releaseIf _ _ _)).trans
    (List.sublist_append_right [_, _] _)

theorem sublist_audioCleanup (s : StartUp) :
    (.release .playerThread :: .use .playQueue :: s.ledger).Sublist s.audioCleanup.ledger := by
  rw [audioCleanup_ledger]
  refine List.Sublist.trans ?_ (Ledger.sublist_releaseIf _ _ _)
  refine List.Sublist.trans ?_ (List.sublist_append_right [_, _] _)
  refine List.Sublist.trans ?_ (Ledger.sublist_releaseIf _ _ _)
  refine List.Sublist.trans ?_ (Ledger.sublist_releaseIf _ _ _)
  refine List.Sublist.trans ?_ (Ledger.sublist_releaseIf _ _ _)
  refine List.Sublist.trans ?_ (List.sublist_cons_self _ _)
  exact (Ledger.sublist_releaseIf _ _ _).trans (Ledger.sublist_releaseIf _ _ _)

/-- Where `audio_open_output` fails the player thread was not created. -/
theorem audioOpenOutput_failed (hopen : o.outputOpens = false)
    (hnew : .acquire .playerThread ∉ s.ledger) :
    ∃ t, s.audioOpenOutput o = (false, t) ∧ .acquire .playerThread ∉ t.ledger := by
  unfold audioOpenOutput
  -- the thread comes last of the three, so each failure is before it or its own
  cases hstream : o.openStream with
  | false => exact ⟨s, rfl, hnew⟩
  | true =>
    cases hstarted : o.startStream with
    | false => exact ⟨_, rfl, by simp [use, acquire, hnew]⟩
    | true =>
      have hthread : o.createThread = false := by
        rw [Outcomes.outputOpens, hstream, hstarted] at hopen
        exact hopen
      rw [hthread]
      exact ⟨_, rfl, by simp [use, acquire, hnew]⟩

/-- `audio_cleanup` joins a thread that was not created. -/
theorem openOutputFails_joins (h : o.OpenOutputFails) :
    .release .playerThread ∈ (main o).2.ledger ∧ .acquire .playerThread ∉ (main o).2.ledger := by
  obtain ⟨henv, hmode, haudio, hopen⟩ := h
  obtain ⟨s, hinit, hready⟩ := clientInit_ready henv
  obtain ⟨t, ht, hnever⟩ := audioOpenOutput_failed (o := o) (s := { s with
    opusEncoder := true
    opusDecoder := true
    oggStreamInited := false
    ledger := .acquire .portAudio :: .acquire (.oggSync s.syncs) :: .acquire .opusDecoder ::
      .acquire .opusEncoder :: .acquire .playQueue :: s.ledger }) hopen
    (by simp [hready.notMem (r := .playerThread) nofun nofun])
  have hmain : main o = (false, t.audioCleanup.clientDestroy) := by
    simp only [main, hinit, startAudio, hmode, audioInit_done haudio, ht, Bool.false_eq_true,
      if_false]
  rw [hmain]
  constructor
  · exact (sublist_clientDestroy _).subset ((sublist_audioCleanup t).subset List.mem_cons_self)
  · simp [clientDestroy_ledger, audioCleanup_ledger, hnever]

/-- `client_destroy` with a stale handle destroys the context again. -/
theorem destroysAgain (hstale : s.context = true) (hreleased : .release .lwsContext ∈ s.ledger) :
    2 ≤ s.clientDestroy.ledger.count (.release .lwsContext) := by
  have hsub : (ResourceOp.release .lwsContext :: s.ledger).Sublist s.clientDestroy.ledger := by
    rw [clientDestroy_ledger, hstale]
    exact (Ledger.sublist_releaseIf _ _ _).trans (List.sublist_append_right [_, _] _)
  calc 2 ≤ s.ledger.count (.release .lwsContext) + 1 :=
        Nat.succ_le_succ (List.one_le_count_iff.mpr hreleased)
    _ = (ResourceOp.release .lwsContext :: s.ledger).count (.release .lwsContext) :=
        List.count_cons_self.symm
    _ ≤ s.clientDestroy.ledger.count (.release .lwsContext) := hsub.count_le _

/-- The context is destroyed by `client_connect` and by `client_destroy`. -/
theorem initiateFails_destroys (h : o.InitiateFails) :
    2 ≤ (main o).2.ledger.count (.release .lwsContext) := by
  obtain ⟨henv, haudio, hcreate, hinitiate⟩ := h
  obtain ⟨s, hinit, hready⟩ := clientInit_ready henv
  have hstart : ∃ t, s.startAudio o = (true, t) := by
    obtain hmode | ⟨haudio, hopens⟩ := haudio
    · exact ⟨s, if_pos hmode⟩
    · cases hmode : o.audioFile with
      | true => exact ⟨s, if_pos hmode⟩
      | false =>
        obtain ⟨t, ht, -⟩ := hready.startAudio_open hmode haudio hopens
        exact ⟨t, ht⟩
  obtain ⟨t, ht⟩ := hstart
  -- the handle is stale when `client_connect` returns
  obtain ⟨u, hu, hstale, hreleased⟩ : ∃ u, t.clientConnect o = (false, u) ∧ u.context = true ∧
      .release .lwsContext ∈ u.ledger := by
    have hconnect : t.clientConnect o = (false, (({ t.acquire .lwsContext with
        context := true }).use .lwsContext).release .lwsContext) := by
      simp only [clientConnect, hcreate, hinitiate, Bool.true_eq_false, if_false, if_true]
    exact ⟨_, hconnect, rfl, List.mem_cons_self⟩
  have hmain : (main o).2 =
      if o.audioFile then u.clientDestroy else u.audioCleanup.clientDestroy := by
    simp only [main, hinit, ht, startClient, hu]
  rw [hmain]
  cases o.audioFile with
  | true => exact destroysAgain hstale hreleased
  | false =>
    refine destroysAgain ?_ ?_
    · simp only [audioCleanup, use, release, releaseIf]
      exact hstale
    · have hkept := List.mem_append_right [.release .playerThread, .use .playQueue] hreleased
      exact (sublist_audioCleanup u).subset hkept

/-- **When a failed start-up cleans up what it acquired.** -/
theorem main_cleansUp_iff (o : Outcomes) :
    CleansUp (main o).2.ledger ↔ ¬ o.OpenOutputFails ∧ ¬ o.InitiateFails := by
  constructor
  · intro h
    constructor
    · intro hfails
      obtain ⟨hjoin, hnever⟩ := openOutputFails_joins hfails
      exact hnever ((h .playerThread).2 (Or.inr hjoin))
    · intro hfails
      have htwice := initiateFails_destroys hfails
      have honce := (h .lwsContext).1
      omega
  · rintro ⟨hopen, hinitiate⟩ r
    have hsound := main_sound hopen hinitiate
    exact ⟨hsound.count_release_le_one r, hsound.mem_acquire⟩

end StartUp

/-- Nothing fails and nothing arrives. -/
def Outcomes.good : Outcomes where
  audioFile := false
  environment := true
  recvBuf := true
  opusEncoder := true
  opusDecoder := true
  paInitialize := true
  openStream := true
  startStream := true
  createThread := true
  createContext := true
  initiate := true
  arrivals := []
  connected := true

/-- Without a speaker a thread is joined that was not created; without a route
to the server the context is destroyed twice, also in the audio file mode. -/
theorem main_doesNotCleanUp :
    ¬ CleansUp (StartUp.main { Outcomes.good with openStream := false }).2.ledger ∧
      ¬ CleansUp (StartUp.main
        { Outcomes.good with audioFile := true, initiate := false }).2.ledger := by
  constructor
  · intro h
    exact absurd ((h .playerThread).2 (by decide)) (by decide)
  · intro h
    exact absurd (h .lwsContext).1 (by decide)

end Desktop

end BoxDoubao
