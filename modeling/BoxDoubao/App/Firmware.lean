import BoxDoubao.App.MainFsm
import BoxDoubao.App.Receive
import BoxDoubao.Lib.Machine

/-!
# The firmware as a machine

One action is one atomic step of one task: a stretch of `main_fsm_task` or one
of its calls, an event of the network task, an invocation of `on_ws_receive`
or of what it blocks in, an invocation of `on_wake_word`, a frame of the AFE
fetch task, an iteration of `ws_tx_task`, or the last assignment of
`app_main`. A run is a list of actions, so it is one interleaving of the tasks
with one choice of what the server, the user, the allocator and the network
do.
-/

namespace BoxDoubao

open CMemory

/-- `chunk_bytes`. -/
def chunkBytes : ℕ := 640

/-- The atomic steps. -/
inductive Action where
  | fsm (button : Bool)
  | fsmCommand (ok : Bool)
  | wsInit (r : InitResult)
  | wsSetRecvCallback
  | wsConnect (started : Bool)
  | wsConnectWait
  | wsConnectStop
  | wsDestroy
  | wsDestroyStop
  | connected
  | disconnected
  | receive (r : ParsedResponse)
  | wsFinish (ok : Bool)
  | wsResume
  | wakeWord
  | fetch (data : Bytes)
  | tx (itemSize : ℕ) (ok : Bool)
  | appMain
  deriving DecidableEq

/-- The actions that are stretches of the main task. -/
def Action.isFsm : Action → Bool
  | .fsm _ => true
  | _ => false

/-- The branch of `on_ws_receive` an action takes. -/
def Action.branch (json : Json) : Action → Option Received
  | .receive r => some (r.dispatch json)
  | _ => none

namespace Firmware

/-- `WEBSOCKET_EVENT_CONNECTED`: the transport came up. -/
def onConnected (s : Firmware) : Option Firmware :=
  if s.ws = .idle ∧ s.client.wsHandle = true ∧ s.link = false then
    some { s with
      link := true
      client.connected := true
      client.bitConnected := true
      log := .connected :: s.log }
  else none

/-- `WEBSOCKET_EVENT_DISCONNECTED`: the transport went down, or an attempt
failed. -/
def onDisconnected (s : Firmware) : Option Firmware :=
  if s.ws = .idle ∧ s.client.wsHandle = true then
    some { s with
      link := false
      client.connected := false
      client.bitDisconnected := true
      log := .disconnected :: s.log }
  else none

/-- The end of `afe_fetch_task`'s loop body: a frame goes to `capture_rb` while
streaming is on. -/
def fetch (data : Bytes) (s : Firmware) : Option Firmware :=
  if s.sStreaming then some { s with captureRb := s.captureRb ++ data } else none

/-- How much of an item fits behind what has been accumulated. -/
def toCopy (accumulated itemSize : ℕ) : ℕ :=
  if accumulated + itemSize > chunkBytes then chunkBytes - accumulated else itemSize

/-- `doubao_ws_send_audio`. -/
def sendAudio (s : Firmware) (chunk : Bytes) (ok : Bool) : Firmware :=
  { s with log := .audio chunk :: s.log }.sendCommand .taskRequest ok

/-- An iteration of `ws_tx_task`. The ring buffer hands out an item of
`itemSize` bytes, or none when that is 0. -/
def tx (itemSize : ℕ) (ok : Bool) (s : Firmware) : Option Firmware :=
  if s.gRunning = false then none
  else if s.gAppState ≠ .listening then some { s with pcmChunk := [] }
  else if s.client.connected = false then some s
  else if itemSize > s.captureRb.length then none
  else
    let item := s.captureRb.take itemSize
    let chunk := s.pcmChunk ++ item.take (toCopy s.pcmChunk.length itemSize)
    if itemSize > 0 ∧ chunk.length ≥ chunkBytes then
      some { s.sendAudio chunk ok with captureRb := s.captureRb.drop itemSize, pcmChunk := [] }
    else some { s with captureRb := s.captureRb.drop itemSize, pcmChunk := chunk }

/-- The last assignment of `app_main`. -/
def appMain (s : Firmware) : Option Firmware :=
  if s.booting then some { s with gAppState := .connecting, booting := false } else none

/-- One step. -/
def step (json : Json) (s : Firmware) : Action → Option Firmware
  | .fsm button => s.fsmResume button
  | .fsmCommand ok => s.fsmCommand ok
  | .wsInit r => s.wsInit r
  | .wsSetRecvCallback => s.wsSetRecvCallback
  | .wsConnect started => s.wsConnect started
  | .wsConnectWait => s.wsConnectWait
  | .wsConnectStop => s.wsConnectStop
  | .wsDestroy => s.wsDestroy
  | .wsDestroyStop => s.wsDestroyStop
  | .connected => s.onConnected
  | .disconnected => s.onDisconnected
  | .receive r => s.onWsReceive json r
  | .wsFinish ok => s.wsFinish ok
  | .wsResume => s.wsResume
  | .wakeWord => some s.onWakeWord
  | .fetch data => s.fetch data
  | .tx itemSize ok => s.tx itemSize ok
  | .appMain => s.appMain

end Firmware

/-- The firmware as a machine. -/
def firmware (json : Json) : Machine Firmware Action where
  step := Firmware.step json

/-! ### A first session -/

/-- A full response with an event and no payload. -/
def serverEvent (event : Int32) : ParsedResponse :=
  { ParsedResponse.ofType msgServerFullResponse with hasEvent := true, event := event }

/-- From power-up to CONNECTED_IDLE on the first connection. -/
def bringUp : List Action :=
  [.appMain, .fsm false, .wsInit .done, .fsm false, .wsSetRecvCallback, .fsm false,
    .wsConnect true, .connected, .wsConnectWait, .fsm false, .fsmCommand true, .fsm false]

/-- The button is pressed and the session started. -/
def sessionStarted : List Action :=
  bringUp ++ [.fsm true, .fsm false, .fsm false, .fsmCommand true, .fsm false]

/-- The greeting is asked for and the wait for it begins. -/
def greetingAsked : List Action :=
  sessionStarted ++ [.fsm false, .fsmCommand true, .fsm false]

/-- The greeting has been spoken and the device listens. -/
def firstSession : List Action :=
  greetingAsked ++ [.receive (serverEvent eventTtsEnded), .fsm false]

/-- The state the first session ends in. -/
example : ((firmware fun _ _ => none).run Firmware.boot firstSession).map
    (fun s => (s.gAppState, s.sStreaming, s.gSessionActive)) = some (.listening, true, true) := by
  decide +kernel

end BoxDoubao
