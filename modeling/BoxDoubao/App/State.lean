import BoxDoubao.App.ReplyText
import BoxDoubao.Protocol.Format

/-!
# The state of the firmware

The global variables of `app_main.c` and `afe_handler.c` that its tasks share,
the part of `doubao_ws_client_t` the main task looks at, and where each task
stands. Four tasks act on the state: the main FSM task, the network task of
esp_websocket_client (which runs `on_ws_receive`), the AFE fetch task (which
runs `on_wake_word` and fills `capture_rb`), and the TX task.

Between two blocking calls a task's code is one step, so the place of a task
is the blocking call it is in, the call it has just returned from, or its
`vTaskDelay`: `FsmPc` for the main task and `WsPc` for the network task inside
`on_ws_receive`.

`log` is the history of what can be observed, newest entry first: connections,
commands, audio, events handled, and what is done to the speaker. It is
written and never read by the firmware.
-/

namespace BoxDoubao

open CMemory

/-- `app_state_t`. -/
inductive AppState where
  | idle
  | connecting
  | connectedIdle
  | handshaking
  | listening
  | speaking
  deriving DecidableEq, Repr

/-! ### Where the tasks stand -/

/-- The calls of `doubao_ws_destroy`. -/
inductive DestroySite where
  /-- Clean-up before a new connection. -/
  | beforeInit
  | connectFailed
  | startFailed
  /-- The connection was found down in CONNECTED_IDLE. -/
  | idle
  /-- The connection was found down in HANDSHAKING. -/
  | handshaking
  deriving DecidableEq, Repr

/-- The blocking client calls of `main_fsm_task`. -/
inductive FsmCall where
  | finishBargein
  | finishButton
  | startConnection
  | startSession
  | sayHello
  | init
  | setRecvCallback
  | connect
  | destroy (site : DestroySite)
  deriving DecidableEq, Repr

/-- The delays of `main_fsm_task`. -/
inductive FsmDelay where
  /-- The 50 ms at the end of a pass. -/
  | poll
  | bargein
  /-- The 3 s after a failed connection attempt. -/
  | retry
  | debounce
  /-- The 500 ms after StartSession. -/
  | sessionStart
  /-- The 100 ms wait for the end of the greeting, after `waitCount` of them. -/
  | helloWait (waitCount : ℕ)
  | buttonEnd
  | buttonDebounce
  deriving DecidableEq, Repr

/-- Where `main_fsm_task` stands. -/
inductive FsmPc where
  /-- At `while (g_running)`. -/
  | top
  | exited
  /-- About to make a call. -/
  | call (c : FsmCall)
  /-- In `doubao_ws_connect`, waiting for the event group. -/
  | connectWait
  /-- In `doubao_ws_connect`, stopping the client after the wait failed. -/
  | connectStop
  /-- In `doubao_ws_destroy`, stopping the client. -/
  | destroyStop (site : DestroySite)
  /-- A call has returned; `ok` says whether with success. -/
  | ret (c : FsmCall) (ok : Bool)
  | delay (d : FsmDelay)
  deriving DecidableEq, Repr

/-- The branches of `on_ws_receive` that block. -/
inductive WsBranch where
  | exitIntent
  | recoverableError
  deriving DecidableEq, Repr

/-- Where the network task stands. -/
inductive WsPc where
  /-- Not in `on_ws_receive`. -/
  | idle
  /-- About to call `doubao_ws_finish_session`. -/
  | finishSession (b : WsBranch)
  /-- In the delay after it. -/
  | delay (b : WsBranch)
  deriving DecidableEq, Repr

/-! ### The client and the history -/

/-- `doubao_ws_client_t`: which pointers are set, the connection flag and the
two bits of the event group. -/
structure WsClient where
  eventGroup : Bool
  recvBuf : Bool
  wsHandle : Bool
  onRecv : Bool
  connected : Bool
  bitConnected : Bool
  bitDisconnected : Bool
  deriving DecidableEq

/-- The client after `memset(client, 0, sizeof(*client))`. -/
def WsClient.zero : WsClient := ⟨false, false, false, false, false, false, false⟩

/-- What is done to the speaker. -/
inductive SpeakerOp where
  | clearPlayback
  | clearRef
  | resetOgg
  | decodeOgg (data : Bytes)
  deriving DecidableEq

/-- What can be observed of the firmware. -/
inductive Obs where
  /-- The client reports a connection. -/
  | connected
  /-- The client reports that it is down. -/
  | disconnected
  /-- The main task has stopped the client. -/
  | stopped
  /-- A command was handed to the client; `ok` says whether it was sent. -/
  | command (c : Cmd) (ok : Bool)
  /-- `ws_tx_task` hands a chunk to `doubao_ws_send_audio`. -/
  | audio (chunk : Bytes)
  /-- `on_ws_receive` is called. -/
  | received (r : ParsedResponse)
  /-- `main_fsm_task` puts the device in LISTENING. -/
  | fsmListening
  | speaker (op : SpeakerOp)
  deriving DecidableEq

/-! ### The state -/

structure Firmware where
  gAppState : AppState
  gRunning : Bool
  gSessionActive : Bool
  gSayHelloDone : Bool
  gBargeinRequested : Bool
  replyText : ReplyText
  sStreaming : Bool
  wakenet : Bool
  captureRb : Bytes
  /-- The first `accumulated` bytes of `pcm_chunk`. -/
  pcmChunk : Bytes
  client : WsClient
  /-- The transport under the client is up. -/
  link : Bool
  fsm : FsmPc
  ws : WsPc
  /-- `app_main` has not yet made its last assignment. -/
  booting : Bool
  log : List Obs
  deriving DecidableEq

/-- The state when the tasks are created. -/
def Firmware.boot : Firmware where
  gAppState := .idle
  gRunning := true
  gSessionActive := false
  gSayHelloDone := false
  gBargeinRequested := false
  replyText := ReplyText.init
  sStreaming := false
  wakenet := true
  captureRb := []
  pcmChunk := []
  client := WsClient.zero
  link := false
  fsm := .top
  ws := .idle
  booting := true
  log := []

/-- Whether `send_command` gets a message out: it checks `connected`, and the
client checks its handle. `ok` is what the allocator, the compressor and the
transport say. -/
def Firmware.canSend (s : Firmware) (ok : Bool) : Bool :=
  s.client.connected && s.client.wsHandle && ok

/-- One command call. -/
def Firmware.sendCommand (s : Firmware) (c : Cmd) (ok : Bool) : Firmware :=
  { s with log := .command c (s.canSend ok) :: s.log }

end BoxDoubao
