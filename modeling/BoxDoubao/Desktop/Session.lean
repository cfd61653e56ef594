import BoxDoubao.Desktop.SendQueue

/-!
# A session of the desktop client

From the return of `client_connect` to `client_destroy`: the main thread, the
thread that runs the lws service loop, the microphone or text input thread, and
the handler of SIGINT. Each has a program counter and takes one step at a time;
the steps of the four interleave freely. The connection stays up, so every
`lws_write` succeeds and no callback reports a closed connection, and a command
is queued only while the ring has room.

The flags are those of the source: `running` and `session_finished` of the
session, and `running` of the client, which the service loop tests.

`queued` and `written` record the commands accepted by `client_send_raw` and
those handed to `lws_write`.
-/

namespace BoxDoubao

open CMemory

namespace Desktop

/-- The command of a message, `CMD_*`. -/
inductive Cmd where
  | startConnection
  | finishConnection
  | startSession
  | finishSession
  | taskRequest
  | sayHello
  | chatTextQuery
  deriving DecidableEq, Repr

/-- `input_mod`. -/
inductive InputMod where
  | audio
  | text
  | audioFile
  deriving DecidableEq, Repr

/-- Where `main` stands. -/
inductive MainPc where
  | startConnection
  | startSession
  | sayHello
  | startInput
  /-- At the test of the loop of `process_audio_file`. -/
  | fileTest
  /-- Behind that test, before `fread`. -/
  | fileRead
  /-- `while (s->running && !s->session_finished)`. -/
  | waiting
  | finishSession
  /-- The wait for the finish event, with the rounds left. -/
  | waitFinish (left : ℕ)
  | finishConnection
  | stopSession
  | stopClient
  | joinService
  | joinInput
  | destroy
  | done
  deriving DecidableEq, Repr

/-- Where the input thread stands. -/
inductive InputPc where
  | notStarted
  | waitHello
  | checkRunning
  | loopTest
  /-- Behind the test, before the data is read. -/
  | reading
  | ended
  deriving DecidableEq, Repr

inductive ServicePc where
  | test
  /-- In `lws_service`. -/
  | serving
  | stopped
  deriving DecidableEq, Repr

/-- `session_t`, the threads and the history. -/
structure DesktopSession where
  inputMod : InputMod
  client : DoubaoClient
  blocks : Blocks Cmd
  running : Bool
  sessionFinished : Bool
  sayHelloDone : Bool
  main : MainPc
  input : InputPc
  service : ServicePc
  /-- The signal handler is between its two stores. -/
  handling : Bool
  queued : List Cmd
  written : List Cmd

/-- What an input thread or `fread` gets. -/
inductive Input where
  | data
  | nothing
  | eof
  deriving DecidableEq, Repr

/-- A message from the server, as far as `on_ws_receive` changes a flag. -/
inductive ServerMsg where
  | ttsEnded
  | sessionFinish
  | error
  | other
  deriving DecidableEq, Repr

inductive DesktopAct where
  /-- `ok` is whether a file or the microphone opens and `fread` yields data;
  `granted` whether memory for a command is available. -/
  | main (ok granted : Bool)
  | input (got : Input) (granted : Bool)
  /-- The input thread acts on `pthread_cancel`. -/
  | cancelled
  | serviceTest
  | writeable
  | receive (msg : ServerMsg)
  | serviceReturn
  /-- The first store of `signal_handler`. -/
  | sigint
  /-- The second. -/
  | sigintClient
  deriving DecidableEq, Repr

namespace DesktopSession

/-- When `client_connect` has returned 0. -/
def start (inputMod : InputMod) : DesktopSession where
  inputMod := inputMod
  client := { clientInit with wsi := true, connected := true }
  blocks := Blocks.empty
  running := true
  sessionFinished := false
  sayHelloDone := false
  main := .startConnection
  input := .notStarted
  service := .test
  handling := false
  queued := []
  written := []

variable (s : DesktopSession)

/-- The ring has no free slot. -/
def Full : Prop := s.client.sendQueue.next s.client.sendQueue.tail = s.client.sendQueue.head

instance : Decidable s.Full := inferInstanceAs (Decidable (_ = _))

/-- `client_send_raw` with a command, while the ring has room. -/
def queue (cmd : Cmd) (granted : Bool) : Option (Except Stop DesktopSession) :=
  if s.Full then none
  else some (do
    let (client, blocks, ret) ← clientSendRaw s.client s.blocks cmd granted
    return { s with
      client := client
      blocks := blocks
      queued := if ret = 0 then s.queued ++ [cmd] else s.queued })

/-- `client_destroy`. -/
def clientDestroy : Except Stop DesktopSession := do
  let (q, blocks, _) ← freeRemaining clientSendQueueSize s.client.sendQueue s.blocks []
  return { s with
    main := .done
    client := { s.client with sendQueue := q, running := false }
    blocks := blocks }

/-- `main` from the first command on. -/
def mainStep (ok granted : Bool) : Option (Except Stop DesktopSession) :=
  match s.main with
  | .startConnection => { s with main := .startSession }.queue .startConnection granted
  | .startSession => { s with main := .sayHello }.queue .startSession granted
  | .sayHello =>
    if s.inputMod = .audioFile then some (.ok { s with main := .startInput })
    else { s with main := .startInput }.queue .sayHello granted
  | .startInput =>
    match s.inputMod with
    | .audioFile => some (.ok { s with main := if ok then .fileTest else .waiting })
    | .text => some (.ok { s with main := .waiting, input := .waitHello })
    | .audio =>
      -- without a microphone the session is given up
      if ok then some (.ok { s with main := .waiting, input := .waitHello })
      else some (.ok { s with main := .waiting, running := false })
  | .fileTest => some (.ok { s with main := if s.running then .fileRead else .waiting })
  | .fileRead =>
    if ok then { s with main := .fileTest }.queue .taskRequest granted
    else some (.ok { s with main := .waiting })
  | .waiting =>
    if s.running = true ∧ s.sessionFinished = false then some (.ok s)
    else some (.ok { s with main := .finishSession })
  | .finishSession => { s with main := .waitFinish 30 }.queue .finishSession granted
  | .waitFinish left =>
    -- 30 delays of 100 ms
    some (.ok { s with
      main := if left = 0 ∨ s.sessionFinished = true then .finishConnection
        else .waitFinish (left - 1) })
  | .finishConnection => { s with main := .stopSession }.queue .finishConnection granted
  | .stopSession => some (.ok { s with main := .stopClient, running := false })
  | .stopClient =>
    some (.ok { s with main := .joinService, client := { s.client with running := false } })
  | .joinService => if s.service = .stopped then some (.ok { s with main := .joinInput }) else none
  | .joinInput =>
    if s.input = .notStarted ∨ s.input = .ended then some (.ok { s with main := .destroy })
    else none
  | .destroy => some s.clientDestroy
  | .done => none

/-- The command the input thread sends. -/
def inputCommand : Cmd := if s.inputMod = .text then .chatTextQuery else .taskRequest

/-- `mic_input_thread_func` and `text_input_thread_func`; only the second ends
at the end of its input. -/
def inputStep (got : Input) (granted : Bool) : Option (Except Stop DesktopSession) :=
  match s.input with
  | .notStarted => none
  | .waitHello =>
    if s.sayHelloDone = true ∨ s.running = false then some (.ok { s with input := .checkRunning })
    else none
  | .checkRunning => some (.ok { s with input := if s.running then .loopTest else .ended })
  | .loopTest => some (.ok { s with input := if s.running then .reading else .ended })
  | .reading =>
    match got with
    | .data => { s with input := .loopTest }.queue s.inputCommand granted
    | .nothing => some (.ok { s with input := .loopTest })
    | .eof => if s.inputMod = .text then some (.ok { s with input := .ended }) else none
  | .ended => none

/-- The flags after `on_ws_receive`. -/
def onWsReceive : ServerMsg → DesktopSession
  | .ttsEnded => { s with sayHelloDone := true }
  | .sessionFinish => { s with sessionFinished := true }
  | .error => { s with running := false }
  | .other => s

/-- The WRITEABLE callback. -/
def writeable : Except Stop DesktopSession := do
  let r ← clientWriteable s.client s.blocks true
  return { s with
    client := r.client
    blocks := r.blocks
    written := s.written ++ (r.sent.map Prod.fst).toList }

/-- One step; `none` where it is not enabled. -/
def act : DesktopAct → Option (Except Stop DesktopSession)
  | .main ok granted => s.mainStep ok granted
  | .input got granted => s.inputStep got granted
  | .cancelled =>
    if s.main = .joinInput ∧ s.input ≠ .notStarted then some (.ok { s with input := .ended })
    else none
  | .serviceTest =>
    if s.service = .test then
      some (.ok { s with service := if s.client.running then .serving else .stopped })
    else none
  | .writeable => if s.service = .serving then some s.writeable else none
  | .receive msg => if s.service = .serving then some (.ok (s.onWsReceive msg)) else none
  | .serviceReturn =>
    if s.service = .serving then some (.ok { s with service := .test }) else none
  | .sigint =>
    if s.main = .done then none
    else some (.ok { s with running := false, handling := true })
  | .sigintClient =>
    if s.handling = true then
      some (.ok { s with client := { s.client with running := false }, handling := false })
    else none

end DesktopSession

/-- The machine; no step leaves a stop. -/
def desktop : Machine (Except Stop DesktopSession) DesktopAct where
  step r a :=
    match r with
    | .ok s => s.act a
    | .error _ => none

end Desktop

end BoxDoubao
