import BoxDoubao.PyDemo.ParseResponse
import BoxDoubao.Lib.Machine

/-!
# A session of the Python demo

`DialogSession.start` runs on one event loop with the task that handles the
input and with `receive_loop`. A thread plays what `receive_loop` has queued,
and Ctrl+C may be pressed at any time. A coroutine runs up to its next `await`.
A `send` may have to wait before it writes, so other tasks run between the test
of a flag and the request behind it as well.

The player thread and the signal handler interleave with everything. The loop
that empties the audio queue therefore takes a step for each chunk, and no
coroutine runs until it is through (`ReceivePc.clearing`).

`history` records, newest first, what the order of the requests depends on;
`received`, `left` and `written` record what becomes of the audio.
-/

namespace BoxDoubao

open CMemory

namespace PyDemo

/-- `mod`, where every other value than `text` stands for the microphone. -/
inductive Mod where
  | audio
  | text
  | audioFile
  deriving DecidableEq, Repr

/-- The requests of `RealtimeDialogClient` that a session sends. -/
inductive Request where
  | startConnection
  | startSession
  | sayHello
  | chatTextQuery
  | taskRequest
  | finishSession
  | finishConnection
  deriving DecidableEq, Repr

/-- Where `start` stands: before a request, or waiting. -/
inductive StartPc where
  | connect
  /-- In `recv` for the answer to StartConnection. -/
  | awaitConnection
  /-- In `recv` for the answer to StartSession. -/
  | awaitSession
  /-- `while self.is_running`, or in `receive_loop` for a file. -/
  | running
  | finishSession
  /-- `while not self.is_session_finished`. -/
  | waitFinished
  | finishConnection
  /-- In `recv` for the answer to FinishConnection. -/
  | awaitFinish
  | closing
  | cleanup
  | done
  deriving DecidableEq, Repr

/-- Where `process_microphone_input`, `process_text_input` or
`process_audio_file_input` stands. -/
inductive InputPc where
  | notStarted
  | sayHello
  | waitHello
  | query
  | openStream
  | test
  /-- Behind the test of the loop. -/
  | reading
  | ended
  deriving DecidableEq, Repr

inductive ReceivePc where
  | notStarted
  /-- In `recv`. -/
  | awaiting
  /-- In the loop that empties the audio queue, for this event. -/
  | clearing (event : ℕ)
  | ended
  deriving DecidableEq, Repr

inductive PlayerPc where
  | test
  | getting
  /-- With a chunk for the output stream. -/
  | writing (chunk : Bytes)
  | ended
  deriving DecidableEq, Repr

/-- What can be observed of a session. -/
inductive Seen where
  | sent (request : Request)
  /-- `say_hello_over_event` is set. -/
  | helloOver
  /-- `is_session_finished` is set. -/
  | finished
  deriving DecidableEq, Repr

/-- `DialogSession`, its tasks, the player thread and the history. -/
structure DialogSession where
  mod : Mod
  isRunning : Bool
  isRecording : Bool
  isPlaying : Bool
  isSessionFinished : Bool
  isUserQuerying : Bool
  isSendingChatTtsText : Bool
  sayHelloOver : Bool
  audioQueue : List Bytes
  audioBuffer : Bytes
  start : StartPc
  input : InputPc
  receive : ReceivePc
  player : PlayerPc
  history : List Seen
  /-- The chunks put in the queue. -/
  received : List Bytes
  /-- The chunks taken out again, and whether the player took them. -/
  left : List (Bytes × Bool)
  /-- The chunks the output stream has accepted. -/
  written : List Bytes
  deriving DecidableEq

/-- What the input task gets when it reads. -/
inductive Got where
  | data
  | nothing
  | eof
  /-- An exception. -/
  | failed
  deriving DecidableEq, Repr

inductive DialogAct (J : Type) where
  /-- `ok` is whether the library call succeeds. -/
  | start (ok : Bool)
  | input (got : Got)
  /-- `recv` in `receive_loop` returns this response, or raises. -/
  | receive (response : Option (PyResult J))
  /-- A turn of the loop that empties the queue. -/
  | clearOne
  | clearEnd
  | playerTest
  | playerGet
  | playerTimeout
  | playerWrite (ok : Bool)
  | sigint

namespace DialogSession

variable {J : Type} (s : DialogSession)

/-- `DialogSession(...)`. -/
def init (mod : Mod) : DialogSession where
  mod := mod
  isRunning := true
  isRecording := true
  isPlaying := true
  isSessionFinished := false
  isUserQuerying := false
  isSendingChatTtsText := false
  sayHelloOver := false
  audioQueue := []
  audioBuffer := []
  start := .connect
  input := .notStarted
  receive := .notStarted
  player := if mod = .audioFile then .ended else .test
  history := []
  received := []
  left := []
  written := []

/-- A request goes out. -/
def send (request : Request) : DialogSession :=
  { s with history := .sent request :: s.history }

/-- `stop`. -/
def stop : DialogSession := { s with isRecording := false, isPlaying := false, isRunning := false }

/-- `self.is_session_finished = True`. -/
def setFinished : DialogSession :=
  { s with isSessionFinished := true, history := .finished :: s.history }

/-! ### `start` -/

/-- The tasks are created. For a file `start` goes into `receive_loop` itself. -/
def createTasks : DialogSession :=
  { s with
    start := .running
    receive := .awaiting
    input := if s.mod = .audioFile then .test else .sayHello }

/-- `start` from one `await` to the next. -/
def startStep (ok : Bool) : Option DialogSession :=
  match s.start with
  | .connect =>
    some (if ok then { s with start := .awaitConnection }.send .startConnection
      else { s with start := .cleanup })
  | .awaitConnection =>
    some (if ok then { s with start := .awaitSession }.send .startSession
      else { s with start := .cleanup })
  | .awaitSession => some (if ok then s.createTasks else { s with start := .cleanup })
  | .running =>
    -- over a file `start` is in `receive_loop`, and looks at no flag
    if s.mod = .audioFile then
      if s.receive = .ended then some { s with start := .finishSession } else none
    else some (if s.isRunning then s else { s with start := .finishSession })
  | .finishSession =>
    some (if ok then { s with start := .waitFinished }.send .finishSession
      else { s with start := .cleanup })
  | .waitFinished =>
    some (if s.isSessionFinished then { s with start := .finishConnection } else s)
  | .finishConnection =>
    some (if ok then { s with start := .awaitFinish }.send .finishConnection
      else { s with start := .cleanup })
  | .awaitFinish => some { s with start := if ok then .closing else .cleanup }
  | .closing => some { s with start := .cleanup }
  | .cleanup => some { s with start := .done }
  | .done => none

/-! ### The input -/

/-- The request of the loop. -/
def inputRequest : Request := if s.mod = .text then .chatTextQuery else .taskRequest

/-- The condition of the loop; the one over a file is `while True`. -/
def inputContinues : Bool :=
  match s.mod with
  | .audio => s.isRecording
  | .text => s.isRunning
  | .audioFile => true

/-- A turn of the loop. An exception ends it, but for the microphone, which has
no end either. -/
def readStep : Got → DialogSession
  | .data => { s with input := .test }.send s.inputRequest
  | .nothing => { s with input := .test }
  | .eof => { s with input := .ended }
  | .failed => { s with input := if s.mod = .audio then .test else .ended }

/-- The input task from one `await` to the next. -/
def inputStep (got : Got) : Option DialogSession :=
  match s.input with
  | .notStarted => none
  | .sayHello =>
    some (if got = .failed then { s with input := .ended }
      else { s with input := .waitHello }.send .sayHello)
  | .waitHello =>
    -- the event has no timeout
    if s.sayHelloOver then some { s with input := if s.mod = .audio then .query else .test }
    else none
  | .query =>
    some (if got = .failed then { s with input := .ended }
      else { s with input := .openStream }.send .chatTextQuery)
  | .openStream => some { s with input := if got = .failed then .ended else .test }
  | .test => some { s with input := if s.inputContinues then .reading else .ended }
  -- the microphone's stream has no end
  | .reading => if s.mod = .audio ∧ got = .eof then none else some (s.readStep got)
  | .ended => none

/-! ### `receive_loop` -/

/-- `response == {}`. -/
def isEmpty (response : PyResult J) : Bool :=
  response.messageType.isNone && response.seq.isNone && response.event.isNone &&
    response.sessionId.isNone && response.code.isNone && response.payloadMsg.isNone &&
    response.payloadSize.isNone

/-- How `handle_server_response` ends, or the event for which it empties the
audio queue. -/
inductive Handled where
  | raised
  | returned (s : DialogSession)
  | clears (event : ℕ)

/-- `payload_msg.get("tts_type")`, which raises on anything but a dictionary. -/
def ttsTypeOf (ttsType : J → Option (Option String)) :
    Option (PyPayload J) → Option (Option String)
  | none => some none
  | some (.json j) => ttsType j
  | some _ => none

/-- An audio chunk arrives. -/
def putAudio (chunk : Bytes) : DialogSession :=
  if s.isSendingChatTtsText then s
  else if s.mod = .audioFile then { s with audioBuffer := s.audioBuffer ++ chunk }
  else
    { s with
      audioQueue := s.audioQueue ++ [chunk]
      received := s.received ++ [chunk]
      audioBuffer := s.audioBuffer ++ chunk }

/-- The events of a full response. -/
def handleEvent (ttsType : J → Option (Option String)) (response : PyResult J) : Handled :=
  if response.event = some 450 then .clears 450
  else if response.event = some 350 ∧ s.isSendingChatTtsText then
    match ttsTypeOf ttsType response.payloadMsg with
    | none => .raised
    | some ty =>
      if ty = some "chat_tts_text" ∨ ty = some "external_rag" then .clears 350 else .returned s
  else if response.event = some 459 then .returned { s with isUserQuerying := false }
  else .returned s

/-- `handle_server_response`. A missing `message_type` raises. -/
def handleServerResponse (ttsType : J → Option (Option String)) (response : PyResult J) :
    Handled :=
  if isEmpty response then .returned s
  else
    match response.messageType, response.payloadMsg with
    -- a `KeyError`
    | none, _ => .raised
    | some "SERVER_ACK", some (.bytes chunk) => .returned (s.putAudio chunk)
    | some "SERVER_FULL_RESPONSE", _ => s.handleEvent ttsType response
    | some "SERVER_ERROR", _ => .raised
    | some _, _ => .returned s

/-- The loop ends, by `break` or by an exception, and so does its `finally`. -/
def endReceive : DialogSession := { s.stop.setFinished with receive := .ended }

/-- The loop behind `handle_server_response`. -/
def afterHandling (event : Option ℕ) : DialogSession :=
  if event = some 152 ∨ event = some 153 then s.endReceive
  else if event = some 359 then
    if s.mod = .audioFile then s.endReceive
    else { s with receive := .awaiting, sayHelloOver := true, history := .helloOver :: s.history }
  else { s with receive := .awaiting }

/-- A turn of the loop, up to the emptying of the queue if there is one. -/
def receiveResponse (ttsType : J → Option (Option String)) :
    Option (PyResult J) → DialogSession
  | none => s.endReceive
  | some response =>
    match s.handleServerResponse ttsType response with
    | .raised => s.endReceive
    | .returned s => s.afterHandling response.event
    | .clears event => { s with receive := .clearing event }

/-- Behind the emptying of the queue. -/
def cleared (event : ℕ) : DialogSession :=
  if event = 450 then { s with isUserQuerying := true, receive := .awaiting }
  else { s with isSendingChatTtsText := false, receive := .awaiting }

/-! ### The steps -/

/-- A coroutine can run. -/
def Free : Prop := s.start ≠ .done ∧ ∀ event, s.receive ≠ .clearing event

instance : Decidable s.Free :=
  match h : s.receive with
  | .clearing event => isFalse fun hfree => hfree.2 event h
  | .notStarted | .awaiting | .ended =>
    decidable_of_iff (s.start ≠ .done) ⟨fun hs => ⟨hs, fun event => by rw [h]; nofun⟩, And.left⟩

/-- One step; `none` where it is not enabled. -/
def act (ttsType : J → Option (Option String)) : DialogAct J → Option DialogSession
  | .start ok => if s.Free then s.startStep ok else none
  | .input got => if s.Free then s.inputStep got else none
  | .receive response =>
    if s.start ≠ .done ∧ s.receive = .awaiting then some (s.receiveResponse ttsType response)
    else none
  | .clearOne =>
    match s.receive, s.audioQueue with
    | .clearing _, chunk :: rest =>
      some { s with audioQueue := rest, left := s.left ++ [(chunk, false)] }
    | _, _ => none
  | .clearEnd =>
    match s.receive, s.audioQueue with
    | .clearing event, [] => some (s.cleared event)
    | _, _ => none
  | .playerTest =>
    if s.player = .test then some { s with player := if s.isPlaying then .getting else .ended }
    else none
  | .playerGet =>
    match s.player, s.audioQueue with
    | .getting, chunk :: rest =>
      some { s with
        audioQueue := rest
        left := s.left ++ [(chunk, true)]
        player := .writing chunk }
    | _, _ => none
  | .playerTimeout =>
    if s.player = .getting ∧ s.audioQueue = [] then some { s with player := .test } else none
  | .playerWrite ok =>
    match s.player with
    | .writing chunk =>
      some { s with player := .test, written := if ok then s.written ++ [chunk] else s.written }
    | _ => none
  | .sigint => if s.start = .done then none else some s.stop

end DialogSession

/-- The machine of a session. -/
def dialog {J : Type} (ttsType : J → Option (Option String)) :
    Machine DialogSession (DialogAct J) where
  step s a := s.act ttsType a

end PyDemo

end BoxDoubao
