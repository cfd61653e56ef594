import BoxDoubao.App.Steps

/-!
# Connections

A connection begins when the client reports it and ends when the client
reports that it is down or the main task stops it (`sentOn` forgets what was
sent before). The main task opens the connections it sets up itself with
StartConnection. esp_websocket_client also reconnects on its own, and the main
task looks at `connected` only in CONNECTING, in CONNECTED_IDLE and before
StartSession: of a connection that went down and came back between two of its
looks it learns nothing and goes on where it was.

`commands_inOrder` is what holds when every connection comes up while the main
task is setting one up (`FsmPc.beforeStart`). There LISTENING and the greeting
always belong to the connection that is up, since they come after a
StartSession that was sent on it.
-/

namespace BoxDoubao

/-! ### Connections in the history -/

/-- `c` was sent on the connection that is up. -/
def sentOn (c : Cmd) : List Obs → Bool
  | [] => false
  | .connected :: _ => false
  | .disconnected :: _ => false
  | .stopped :: _ => false
  | .command c' ok :: earlier => (decide (c' = c) && ok) || sentOn c earlier
  | _ :: earlier => sentOn c earlier

/-- StartConnection is the first command on its connection, and SayHello and
TaskRequest come after a StartSession on it. -/
def InOrder (c : Cmd) (earlier : List Obs) : Prop :=
  (c = .startConnection ∨ sentOn .startConnection earlier = true) ∧
    (c = .sayHello ∨ c = .taskRequest → sentOn .startSession earlier = true)

/-- Every command that was sent was sent in order. -/
def CommandsInOrder (log : List Obs) : Prop :=
  ∀ later c earlier, log = later ++ .command c true :: earlier → InOrder c earlier

section History

variable {c c' : Cmd} {ok : Bool} {log : List Obs}

/-- A further command on the connection forgets nothing. -/
theorem sentOn_command (h : sentOn c log = true) : sentOn c (.command c' ok :: log) = true := by
  change ((decide (c' = c) && ok) || sentOn c log) = true
  rw [h, Bool.or_true]

theorem sentOn_self : sentOn c (.command c true :: log) = true := by
  change ((decide (c = c) && true) || sentOn c log) = true
  rw [decide_eq_true rfl]
  rfl

/-- Only a command that was sent is remembered, as itself. -/
theorem sentOn_other (h : c' = c → ok = false) :
    sentOn c (.command c' ok :: log) = sentOn c log := by
  change ((decide (c' = c) && ok) || sentOn c log) = sentOn c log
  by_cases hc : c' = c
  · rw [h hc, Bool.and_false, Bool.false_or]
  · rw [decide_eq_false hc, Bool.false_and, Bool.false_or]

end History

/-! ### Places of the main task -/

namespace FsmPc

/-- The task sends nothing before the next StartConnection: it sets the client
up or takes it down, or is at StartConnection, or StartConnection has failed. -/
def beforeStart : FsmPc → Bool
  | .call .startConnection => true
  | .ret .startConnection false => true
  | p => p.inClient

/-- The client has been taken down and not been started again. -/
def clientDown : FsmPc → Bool
  | .ret (.destroy _) _ => true
  | .call .init => true
  | .ret .init _ => true
  | _ => false

variable {p q : FsmPc}

theorem beforeStart_of_inClient (h : p.inClient = true) : p.beforeStart = true := by
  unfold beforeStart
  split
  · rfl
  · rfl
  · exact h

theorem inHandshake_of_beforeStart (h : p.beforeStart = true) : p.inHandshake = false := by
  unfold beforeStart at h
  split at h
  · rfl
  · rfl
  · exact inHandshake_of_inClient h

theorem beforeStart_of_inHandshake (h : p.inHandshake = true) : p.beforeStart = false := by
  refine eq_false_of_ne_true fun hstart => ?_
  rw [inHandshake_of_beforeStart hstart] at h
  cases h

theorem beforeStart_of_clientDown (h : p.clientDown = true) : p.beforeStart = true := by
  unfold clientDown at h
  split at h
  · rfl
  · rfl
  · rfl
  · cases h

/-- A stretch that only goes on neither begins nor ends the set-up of a
connection. -/
theorem Move.beforeStart_eq (h : Move p q) : q.beforeStart = p.beforeStart := by
  cases h <;> rfl

theorem Move.clientDown (h : Move p q) (hq : q.clientDown = true) : p.clientDown = true := by
  cases h with
  | cleanedUp _ => rfl
  | _ => cases hq

theorem ConnectFailed.clientDown (h : ConnectFailed p) : p.clientDown = true := by
  cases h <;> rfl

theorem BackToReady.beforeStart_eq (h : BackToReady p) : p.beforeStart = false := by
  cases h <;> rfl

theorem AtTop.beforeStart_eq (h : AtTop p) : p.beforeStart = false := by
  cases h <;> rfl

/-- The task goes back to CONNECTING with no client or with one whose
connection it has opened. -/
theorem BackToConnecting.noConnection (h : BackToConnecting p) :
    p.beforeStart = false ∨ p.clientDown = true := by
  cases h with
  | lostIdle _ | lostHandshaking _ => exact Or.inr rfl
  | retry => exact Or.inl rfl

end FsmPc

namespace Firmware

variable {s t : Firmware} {json : Json}

/-! ### The guard -/

/-- A connection comes up only while the main task is setting one up. The user
is given the turn only after a StartSession on the connection, and what sends
FinishSession is handled only after a StartConnection on it. -/
def NoticesConnection (json : Json) (s : Firmware) (a : Action) : Prop :=
  (a = .connected → s.fsm.beforeStart = true) ∧
    (∀ k ∈ a.branch json, s.TakesTurn k → sentOn .startSession s.log = true) ∧
    (∀ k ∈ a.branch json, s.EndsByExit k ∨ k = .recoverableError →
      sentOn .startConnection s.log = true)

instance (json : Json) (s : Firmware) (a : Action) : Decidable (NoticesConnection json s a) :=
  inferInstanceAs (Decidable (_ ∧ _ ∧ _))

/-! ### The invariant -/

/-- Every command has been in order, and what the tasks rely on to go on so:
away from the set-up the connection that is up has been opened, and LISTENING
and the handshake have their StartSession on it. -/
structure Opened (s : Firmware) : Prop where
  down : s.fsm.clientDown = true → s.client.wsHandle = false
  started : s.client.connected = true → s.client.wsHandle = true →
    s.fsm.beforeStart = true ∨ sentOn .startConnection s.log = true
  noSession : s.fsm.beforeStart = true ∨ s.client.connected = false →
    sentOn .startSession s.log = false
  notListening : s.fsm.beforeStart = true → s.gAppState ≠ .listening
  listening : s.gAppState = .listening → s.client.connected = true →
    s.client.wsHandle = true → sentOn .startSession s.log = true
  handshake : s.fsm.inHandshake = true → s.client.connected = true →
    s.client.wsHandle = true → sentOn .startSession s.log = true
  finishing : s.ws ≠ .idle → sentOn .startConnection s.log = true
  inOrder : Throughout (fun o earlier => ∀ c, o = .command c true → InOrder c earlier) s.log

theorem Opened.boot : Opened boot where
  down := nofun
  started := nofun
  noSession _ := rfl
  notListening := nofun
  listening := nofun
  handshake := nofun
  finishing h := absurd rfl h
  inOrder := trivial

/-- Away from the set-up the connection that is up has been opened. -/
theorem Opened.startConnection_sent (hI : Opened s)
    (hpc : s.fsm.beforeStart = false ∨ s.fsm.clientDown = true)
    (hc : s.client.connected = true) (hhandle : s.client.wsHandle = true) :
    sentOn .startConnection s.log = true := by
  -- with the client down there is no connection
  obtain hpc | hdown := hpc
  · refine (hI.started hc hhandle).resolve_left fun hstart => ?_
    rw [hpc] at hstart
    cases hstart
  · rw [hI.down hdown] at hhandle
    cases hhandle

/-- What the connection does not depend on. -/
theorem Opened.frame (hI : Opened s) (hpc : t.fsm = s.fsm)
    (hframe : t.client = s.client ∧ t.log = s.log ∧ t.ws = s.ws)
    (hlisten : t.gAppState = .listening → s.gAppState = .listening) : Opened t := by
  obtain ⟨hclient, hlog, hws⟩ := hframe
  constructor
  · rw [hpc, hclient]
    exact hI.down
  · rw [hpc, hclient, hlog]
    exact hI.started
  · rw [hpc, hclient, hlog]
    exact hI.noSession
  · rw [hpc]
    exact fun hset happ => hI.notListening hset (hlisten happ)
  · rw [hclient, hlog]
    exact fun happ => hI.listening (hlisten happ)
  · rw [hpc, hclient, hlog]
    exact hI.handshake
  · rw [hws, hlog]
    exact hI.finishing
  · rw [hlog]
    exact hI.inOrder

/-- Something is observed that is no command and says nothing of the
connection. -/
theorem Opened.observe {o : Obs} (hI : Opened s)
    (hkeep : ∀ c, sentOn c (o :: s.log) = sentOn c s.log) (hcmd : ∀ c, o ≠ .command c true) :
    Opened { s with log := o :: s.log } := by
  refine ⟨hI.down, ?_, ?_, hI.notListening, ?_, ?_, ?_, fun c h => absurd h (hcmd c), hI.inOrder⟩
  · rw [hkeep]
    exact hI.started
  · rw [hkeep]
    exact hI.noSession
  · rw [hkeep]
    exact hI.listening
  · rw [hkeep]
    exact hI.handshake
  · rw [hkeep]
    exact hI.finishing

/-- `on_ws_receive` goes on to send FinishSession on a connection that has been
opened. -/
theorem Opened.toFinish (hI : Opened s) (hsent : sentOn .startConnection s.log = true)
    (hpc : t.fsm = s.fsm) (hframe : t.client = s.client ∧ t.log = s.log)
    (hlisten : t.gAppState = .listening → s.gAppState = .listening) : Opened t := by
  have hI' : Opened { t with ws := s.ws } := hI.frame hpc ⟨hframe.1, hframe.2, rfl⟩ hlisten
  refine ⟨hI'.down, hI'.started, hI'.noSession, hI'.notListening, hI'.listening, hI'.handshake,
    fun _ => ?_, hI'.inOrder⟩
  rw [hframe.2]
  exact hsent

theorem Opened.silence (hI : Opened s) : Opened s.silence :=
  ((hI.observe (o := .speaker .clearPlayback) (fun _ => rfl) nofun).observe
    (o := .speaker .clearRef) (fun _ => rfl) nofun).observe
    (o := .speaker .resetOgg) (fun _ => rfl) nofun

/-- The main task goes on away from the set-up. -/
theorem Opened.goOn (hI : Opened s) (hset : s.fsm.beforeStart = false ∨ s.fsm.clientDown = true)
    (hframe : t.client = s.client ∧ t.log = s.log ∧ t.ws = s.ws)
    (hpc : t.fsm.beforeStart = false)
    (hlisten : t.gAppState = .listening → s.gAppState = .listening ∨ s.fsm.inHandshake = true)
    (hhandshake : t.fsm.inHandshake = true → s.fsm.inHandshake = true) : Opened t := by
  obtain ⟨hclient, hlog, hws⟩ := hframe
  have hnot : t.fsm.beforeStart ≠ true := ne_true_of_eq_false hpc
  constructor
  · exact fun hdown => absurd (FsmPc.beforeStart_of_clientDown hdown) hnot
  · rw [hclient, hlog]
    exact fun hc hhandle => Or.inr (hI.startConnection_sent hset hc hhandle)
  · rw [hclient, hlog]
    exact fun h => hI.noSession (Or.inr (h.resolve_left hnot))
  · exact fun h => absurd h hnot
  · rw [hclient, hlog]
    exact fun happ => (hlisten happ).elim hI.listening hI.handshake
  · rw [hclient, hlog]
    exact fun h => hI.handshake (hhandshake h)
  · rw [hws, hlog]
    exact hI.finishing
  · rw [hlog]
    exact hI.inOrder

/-- A pass through the loop goes back to the set-up only when the client is not
connected, and not in LISTENING. -/
theorem Opened.of_loopHead (h : LoopHead s t) (hpc : s.fsm.beforeStart = false)
    (hI : Opened s) : Opened t := by
  obtain ⟨hws, hlog, -, -, hclient, -, -⟩ := h.frame
  by_cases hset : t.fsm.beforeStart = true
  · -- the client is set up or taken down from CONNECTING, CONNECTED_IDLE and
    -- HANDSHAKING, and only where it is not connected
    have hfrom : s.client.connected = false ∧ t.gAppState ≠ .listening ∧
        (t.fsm.clientDown = true → s.client.wsHandle = false) := by
      cases h with
      | init happ hc hhandle => exact ⟨hc, by rw [happ]; nofun, fun _ => hhandle⟩
      | cleanUp happ hc | lostIdle happ hc | lostHandshaking happ hc =>
        exact ⟨hc, by rw [happ]; nofun, nofun⟩
      | _ => cases hset
    obtain ⟨hc, happ, hdown⟩ := hfrom
    refine ⟨?_, fun _ _ => Or.inl hset, fun _ => ?_, fun _ => happ, fun h => absurd h happ,
      fun hp => ?_, ?_, ?_⟩
    · rw [hclient]
      exact hdown
    · rw [hlog]
      exact hI.noSession (Or.inr hc)
    · rw [h.inHandshake] at hp
      cases hp
    · rw [hws, hlog]
      exact hI.finishing
    · rw [hlog]
      exact hI.inOrder
  · refine hI.goOn (Or.inl hpc) ⟨hclient, hlog, hws⟩ (eq_false_of_ne_true hset)
      (fun happ => Or.inl (h.listening happ)) fun hp => ?_
    rw [h.inHandshake] at hp
    cases hp

theorem Opened.stretch (hI : Opened s) (h : Stretch s t) : Opened t := by
  cases h with
  | move p hmove =>
    -- the task stays in the set-up or outside it
    have hpc := hmove.beforeStart_eq
    refine ⟨fun hp => hI.down (hmove.clientDown hp), ?_, ?_, ?_, hI.listening,
      fun hp => hI.handshake (hmove.inHandshake hp), hI.finishing, hI.inOrder⟩
    · rw [hpc]
      exact hI.started
    · rw [hpc]
      exact hI.noSession
    · rw [hpc]
      exact hI.notListening
  | connectFailed hpc => exact hI.goOn (Or.inr hpc.clientDown) ⟨rfl, rfl, rfl⟩ rfl nofun nofun
  | ready hpc ht =>
    exact .of_loopHead ht rfl
      (hI.goOn (Or.inl hpc.beforeStart_eq) ⟨rfl, rfl, rfl⟩ rfl nofun nofun)
  | connecting hpc ht =>
    exact .of_loopHead ht rfl (hI.goOn hpc.noConnection ⟨rfl, rfl, rfl⟩ rfl nofun nofun)
  | loop hpc ht =>
    exact .of_loopHead ht rfl
      (hI.goOn (Or.inl hpc.beforeStart_eq) ⟨rfl, rfl, rfl⟩ rfl Or.inl nofun)
  | bargein hpc ht =>
    exact .of_loopHead ht rfl
      (hI.goOn (Or.inl (by rw [hpc]; rfl)) ⟨rfl, rfl, rfl⟩ rfl nofun nofun)
  | sessionStart hpc =>
    exact hI.goOn (Or.inl (by rw [hpc]; rfl)) ⟨rfl, rfl, rfl⟩ rfl Or.inl
      fun _ => by rw [hpc]; rfl
  | finishHandshake hend ht =>
    -- the greeting is over on the connection its session was started on
    have hpc := inHandshake_of_endsHandshake hend
    have hset : s.fsm.beforeStart = false := FsmPc.beforeStart_of_inHandshake hpc
    have hI' := hI.observe (o := .fsmListening) (fun _ => rfl) nofun
    exact .of_loopHead ht rfl
      (hI'.goOn (Or.inl hset) ⟨rfl, rfl, rfl⟩ rfl (fun _ => Or.inr hpc) nofun)
  | buttonEnd hpc | sessionEnded hpc _ =>
    exact hI.goOn (Or.inl (by rw [hpc]; rfl)) ⟨rfl, rfl, rfl⟩ rfl nofun nofun
  | buttonDebounced hpc =>
    exact hI.goOn (Or.inl (by rw [hpc]; rfl)) ⟨rfl, rfl, rfl⟩ rfl Or.inl nofun

/-- Setting the client up or taking it down. -/
theorem Opened.client (hI : Opened s) (h : ClientStep s t) : Opened t := by
  have hfrom := FsmPc.beforeStart_of_inClient h.inClient.1
  have hto := FsmPc.beforeStart_of_inClient h.inClient.2
  obtain ⟨hws, happ, -, -, hlog⟩ := h.frame
  have hquiet := hI.notListening hfrom
  have hdown : t.fsm.clientDown = true → t.client.wsHandle = false := by
    intro hp
    cases h with
    | init _ _ _ _ | destroyed _ _ _ => rfl
    | _ => cases hp
  -- the client is not stopped under a handler that is running
  have hfinishing : t.ws ≠ .idle → t.log = s.log := by
    intro hbusy
    cases h with
    | connectStopped _ hidle | destroyed _ _ hidle => exact absurd hidle hbusy
    | _ => rfl
  refine ⟨hdown, fun _ _ => Or.inl hto, fun _ => ?_, fun _ => ?_, fun hlisten => ?_,
    fun hp => ?_, fun hbusy => ?_, ?_⟩
  · obtain hlog | hlog := hlog <;> rw [hlog]
    · exact hI.noSession (Or.inl hfrom)
    · rfl
  · rw [happ]
    exact hquiet
  · exact absurd (happ.symm.trans hlisten) hquiet
  · rw [FsmPc.inHandshake_of_beforeStart hto] at hp
    cases hp
  · rw [hfinishing hbusy]
    exact hI.finishing (hws ▸ hbusy)
  · obtain hlog | hlog := hlog <;> rw [hlog]
    · exact hI.inOrder
    · exact ⟨nofun, hI.inOrder⟩

theorem up_of_canSend {ok : Bool} (h : s.canSend ok = true) :
    s.client.connected = true ∧ s.client.wsHandle = true := by
  unfold canSend at h
  rw [Bool.and_eq_true, Bool.and_eq_true] at h
  exact h.1

/-- A command in order, of any task, that starts no session. -/
theorem Opened.send {c : Cmd} {ok : Bool} (hI : Opened s)
    (hc : c = .startSession → s.canSend ok = false)
    (horder : s.canSend ok = true → InOrder c s.log) : Opened (s.sendCommand c ok) := by
  have hkeep : sentOn .startSession (s.sendCommand c ok).log = sentOn .startSession s.log :=
    sentOn_other hc
  refine ⟨hI.down, fun hup hhandle => (hI.started hup hhandle).imp_right sentOn_command,
    ?_, hI.notListening, ?_, ?_, fun hbusy => sentOn_command (hI.finishing hbusy), ?_, hI.inOrder⟩
  · rw [hkeep]
    exact hI.noSession
  · rw [hkeep]
    exact hI.listening
  · rw [hkeep]
    exact hI.handshake
  · intro c' hobs
    obtain ⟨rfl, hsent⟩ := Obs.command.inj hobs
    exact horder hsent

/-- The main task at StartConnection: from here on the connection is open. -/
theorem Opened.startConnection {ok : Bool} (hI : Opened s) (hset : s.fsm.beforeStart = true) :
    Opened { s.sendCommand .startConnection ok with
      fsm := .ret .startConnection (s.canSend ok) } := by
  have hI' : Opened (s.sendCommand .startConnection ok) :=
    hI.send nofun fun _ => ⟨Or.inl rfl, by simp⟩
  have hsession := hI'.noSession (Or.inl hset)
  have hquiet := hI'.notListening hset
  refine ⟨nofun, fun hc hhandle => ?_, fun _ => hsession, fun _ => hquiet, hI'.listening, nofun,
    hI'.finishing, hI'.inOrder⟩
  -- a StartConnection that was not sent leaves the task in the set-up
  cases hsent : s.canSend ok with
  | true =>
    right
    change sentOn .startConnection (.command .startConnection (s.canSend ok) :: s.log) = true
    rw [hsent]
    exact sentOn_self
  | false => exact Or.inl rfl

/-- The main task at StartSession: what follows belongs to the connection. -/
theorem Opened.startSession {ok : Bool} (hI : Opened s) (hset : s.fsm.beforeStart = false) :
    Opened { s.sendCommand .startSession ok with fsm := .ret .startSession (s.canSend ok) } := by
  cases hsent : s.canSend ok with
  | false =>
    -- nothing was sent, and the task goes back to CONNECTED_IDLE
    have hI' : Opened (s.sendCommand .startSession ok) :=
      hI.send (fun _ => hsent) fun h => by
        rw [hsent] at h
        cases h
    exact hI'.goOn (Or.inl hset) ⟨rfl, rfl, rfl⟩ rfl Or.inl nofun
  | true =>
    obtain ⟨hup, hhandle⟩ := up_of_canSend hsent
    have hstarted := hI.startConnection_sent (Or.inl hset) hup hhandle
    have hsession : sentOn .startSession (s.sendCommand .startSession ok).log = true := by
      change sentOn .startSession (.command .startSession (s.canSend ok) :: s.log) = true
      rw [hsent]
      exact sentOn_self
    refine ⟨nofun, fun _ _ => Or.inr (sentOn_command hstarted), ?_, nofun,
      fun _ _ _ => hsession, fun _ _ _ => hsession, fun _ => sentOn_command hstarted, ?_,
      hI.inOrder⟩
    · rintro (hp | hc)
      · cases hp
      · exact absurd hup (ne_true_of_eq_false hc)
    · intro c hobs
      obtain ⟨rfl, -⟩ := Obs.command.inj hobs
      exact ⟨Or.inr hstarted, by simp⟩

/-- A command call of the main task. -/
theorem Opened.command {ok : Bool} {c : FsmCall} {cmd : Cmd} (hI : Opened s)
    (hpc : s.fsm = .call c) (hcmd : callCmd c = some cmd) :
    Opened { s.sendCommand cmd ok with fsm := .ret c (s.canSend ok) } := by
  have hstarted : s.fsm.beforeStart = false → s.canSend ok = true →
      sentOn .startConnection s.log = true := fun hset hsent =>
    hI.startConnection_sent (Or.inl hset) (up_of_canSend hsent).1 (up_of_canSend hsent).2
  cases c with
  | startConnection =>
    obtain rfl : Cmd.startConnection = cmd := Option.some.inj hcmd
    exact hI.startConnection (by rw [hpc]; rfl)
  | startSession =>
    obtain rfl : Cmd.startSession = cmd := Option.some.inj hcmd
    exact hI.startSession (by rw [hpc]; rfl)
  | finishBargein | finishButton =>
    obtain rfl : Cmd.finishSession = cmd := Option.some.inj hcmd
    have hset : s.fsm.beforeStart = false := by rw [hpc]; rfl
    have hI' : Opened (s.sendCommand .finishSession ok) :=
      hI.send nofun fun hsent => ⟨Or.inr (hstarted hset hsent), by simp⟩
    exact hI'.goOn (Or.inl hset) ⟨rfl, rfl, rfl⟩ rfl Or.inl nofun
  | sayHello =>
    obtain rfl : Cmd.sayHello = cmd := Option.some.inj hcmd
    have hset : s.fsm.beforeStart = false := by rw [hpc]; rfl
    have hpc' : s.fsm.inHandshake = true := by rw [hpc]; rfl
    -- SayHello is sent in the handshake
    have hI' : Opened (s.sendCommand .sayHello ok) :=
      hI.send nofun fun hsent => ⟨Or.inr (hstarted hset hsent), fun _ =>
        hI.handshake hpc' (up_of_canSend hsent).1 (up_of_canSend hsent).2⟩
    exact hI'.goOn (Or.inl hset) ⟨rfl, rfl, rfl⟩ rfl Or.inl fun _ => hpc'
  | _ => cases hcmd

/-- `on_ws_receive`, whose branches take up the turn or send FinishSession only
where the guard allows it. -/
theorem Opened.branch {k : Received} (hI : Opened s)
    (hturn : s.TakesTurn k → sentOn .startSession s.log = true)
    (hfinish : s.EndsByExit k ∨ k = .recoverableError → sentOn .startConnection s.log = true)
    (h : Branch s k t) : Opened t := by
  cases h with
  | audio data => exact hI.observe (o := .speaker (.decodeOgg data)) (fun _ => rfl) nofun
  | text _ _ | fatalError => exact hI.frame rfl ⟨rfl, rfl, rfl⟩ id
  | userQueryEnd | sessionFinish => exact hI.frame rfl ⟨rfl, rfl, rfl⟩ nofun
  | greetingEnded _ _ => exact hI.silence.frame rfl ⟨rfl, rfl, rfl⟩ id
  | turn hturns =>
    have hsent := hturn hturns
    have hI' := hI.silence
    -- the session is on the connection, so the main task is not setting one up
    have hset : s.fsm.beforeStart ≠ true := by
      intro hset
      rw [hI.noSession (Or.inl hset)] at hsent
      cases hsent
    exact ⟨hI'.down, hI'.started, hI'.noSession, fun h => absurd h hset, fun _ _ _ => hsent,
      hI'.handshake, hI'.finishing, hI'.inOrder⟩
  | exitIntent hexit =>
    -- the handler is about to send FinishSession
    have hsent := hfinish (Or.inl hexit)
    exact hI.silence.toFinish hsent rfl ⟨rfl, rfl⟩ id
  | recoverableError =>
    have hsent := hfinish (Or.inr rfl)
    exact hI.silence.toFinish hsent rfl ⟨rfl, rfl⟩ id

/-- An iteration of `ws_tx_task`. -/
theorem Opened.tx {ok : Bool} (hI : Opened s) (h : TxStep ok s t) : Opened t := by
  cases h with
  | quiet _ _ => exact hI.frame rfl ⟨rfl, rfl, rfl⟩ id
  | send happ _ captureRb chunk =>
    have hI' : Opened { s with
        captureRb := captureRb
        pcmChunk := []
        log := .audio chunk :: s.log } :=
      (hI.observe (o := .audio chunk) (fun _ => rfl) nofun).frame rfl ⟨rfl, rfl, rfl⟩ id
    -- LISTENING is away from the set-up and has its StartSession
    refine Opened.send (c := .taskRequest) hI' nofun fun hsent => ?_
    obtain ⟨hup, hhandle⟩ := up_of_canSend hsent
    have hset : s.fsm.beforeStart = false :=
      eq_false_of_ne_true fun hp => hI.notListening hp happ
    exact ⟨Or.inr (hI.startConnection_sent (Or.inl hset) hup hhandle),
      fun _ => hI.listening happ hup hhandle⟩

/-- Every step that meets the guard keeps the invariant. -/
theorem Opened.step {a : Action} (hI : Opened s) (hguard : NoticesConnection json s a)
    (h : s.step json a = some t) : Opened t := by
  obtain ⟨hnotice, hturn, hfinish⟩ := hguard
  cases step_cases h with
  | fsm _ h => exact hI.stretch h
  | command ok hpc hcmd => exact hI.command hpc hcmd
  | client _ h => exact hI.client h
  | connected hws _ _ =>
    -- nothing has been sent on the new connection, and the task is setting it up
    have hset := hnotice rfl
    have hquiet := hI.notListening hset
    refine ⟨hI.down, fun _ _ => Or.inl hset, fun _ => rfl, hI.notListening,
      fun happ => absurd happ hquiet, fun hp => ?_, fun hbusy => absurd hws hbusy, nofun,
      hI.inOrder⟩
    rw [FsmPc.inHandshake_of_beforeStart hset] at hp
    cases hp
  | disconnected hws _ =>
    -- with no connection up there is nothing to know
    exact ⟨hI.down, nofun, fun _ => rfl, hI.notListening, fun _ => nofun, fun _ => nofun,
      fun hbusy => absurd hws hbusy, nofun, hI.inOrder⟩
  | receive r _ _ _ h =>
    have hI' := hI.observe (o := .received r) (fun _ => rfl) nofun
    exact hI'.branch (hturn _ rfl) (hfinish _ rfl) h
  | wsFinish ok hws =>
    have hstarted := hI.finishing (by rw [hws]; nofun)
    have hI' : Opened (s.sendCommand .finishSession ok) :=
      hI.send nofun fun _ => ⟨Or.inr hstarted, by simp⟩
    exact hI'.toFinish (sentOn_command hstarted) rfl ⟨rfl, rfl⟩ id
  | exitDone _ | errorDone _ =>
    exact ⟨hI.down, hI.started, hI.noSession, nofun, nofun, hI.handshake,
      fun hbusy => absurd rfl hbusy, hI.inOrder⟩
  | appMain _ => exact hI.frame rfl ⟨rfl, rfl, rfl⟩ nofun
  | wakeWord h =>
    cases h with
    | ignored => exact hI
    | start _ _ => exact hI.frame rfl ⟨rfl, rfl, rfl⟩ nofun
    | bargein _ => exact hI.silence.frame rfl ⟨rfl, rfl, rfl⟩ id
  | fetch _ _ => exact hI.frame rfl ⟨rfl, rfl, rfl⟩ id
  | tx _ _ h => exact hI.tx h

/-- **Every connection is opened with the handshake** in a run that notices
its connections. -/
theorem commands_inOrder (json : Json) (as : List Action) (s : Firmware)
    (hrun : (firmware json).run boot as = some s)
    (hguard : (firmware json).Guarded (NoticesConnection json) boot as) :
    CommandsInOrder s.log := by
  intro later c earlier hlog
  have hI : Opened s := Machine.inv_run_guarded (I := Opened)
    (fun hI hG h => hI.step hG h) Opened.boot hguard hrun
  have horder := hI.inOrder
  rw [hlog] at horder
  exact horder.at c rfl

/-- In LISTENING the connection is lost and comes back, and the next chunk is
the first command on it. -/
def reconnectListening : List Action :=
  firstSession ++ [.fetch (List.replicate 640 0), .disconnected, .connected, .tx 640 true]

theorem reconnectListening_outOfOrder :
    ∃ s, (firmware fun _ _ => none).run boot reconnectListening = some s ∧
      ¬ CommandsInOrder s.log := by
  have hend : ((firmware fun _ _ => none).run boot reconnectListening).map (fun s =>
      (s.log.head?, sentOn .startConnection (s.log.drop 1))) =
      some (some (.command .taskRequest true), false) := by decide +kernel
  obtain ⟨s, hs, heq⟩ := Option.map_eq_some_iff.mp hend
  obtain ⟨hhead, hunopened⟩ := Prod.mk.inj heq
  obtain ⟨earlier, hlog⟩ := List.head?_eq_some_iff.mp hhead
  refine ⟨s, hs, fun horder => ?_⟩
  obtain ⟨hopened, -⟩ := horder [] _ earlier hlog
  rw [hlog, List.drop_succ_cons, List.drop_zero] at hunopened
  rw [hopened.resolve_left nofun] at hunopened
  cases hunopened

/-- The first session, with a chunk sent and the connection lost and set up
anew. -/
theorem commands_inOrder_secondConnection :
    ∃ s, (firmware fun _ _ => none).run boot
        (firstSession ++ [.fetch (List.replicate 640 0), .tx 640 true,
          .receive (serverEvent eventSessionFinish1), .disconnected, .fsm false, .wsDestroy,
          .wsDestroyStop, .fsm false, .wsInit .done, .fsm false, .wsSetRecvCallback, .fsm false,
          .wsConnect true, .connected, .wsConnectWait, .fsm false, .fsmCommand true]) = some s ∧
      CommandsInOrder s.log := by
  have hrun : ((firmware fun _ _ => none).run boot
      (firstSession ++ [.fetch (List.replicate 640 0), .tx 640 true,
        .receive (serverEvent eventSessionFinish1), .disconnected, .fsm false, .wsDestroy,
        .wsDestroyStop, .fsm false, .wsInit .done, .fsm false, .wsSetRecvCallback, .fsm false,
        .wsConnect true, .connected, .wsConnectWait, .fsm false, .fsmCommand true])).isSome =
      true := by
    decide +kernel
  obtain ⟨s, hs⟩ := Option.isSome_iff_exists.mp hrun
  exact ⟨s, hs, commands_inOrder _ _ s hs (by decide +kernel)⟩

end Firmware

end BoxDoubao
