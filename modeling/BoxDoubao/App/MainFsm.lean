import BoxDoubao.App.State

/-!
# `main_fsm_task`

The loop of the main task, cut at its blocking calls. `loopHead` is the part
from `while (g_running)` to the next blocking call; `fsmResume` is what
follows a call or a delay, which ends in another call or delay or runs on into
`loopHead`. `fsmCall` and the functions after it are the calls themselves: the
commands, and `doubao_ws_init`, `doubao_ws_connect` and `doubao_ws_destroy`,
of which the last two block in the middle.

`button` is the level of the button when the stretch reads it.
-/

namespace BoxDoubao

/-- How `doubao_ws_init` can end. -/
inductive InitResult where
  | done
  /-- No receive buffer. -/
  | noBuffer
  /-- No event group; the buffer is freed and its pointer kept. -/
  | noEventGroup
  deriving DecidableEq, Repr

namespace Firmware

/-! ### From the head of the loop to the next blocking call -/

/-- APP_STATE_CONNECTED_IDLE. -/
def stateConnectedIdle (button : Bool) (s : Firmware) : Firmware :=
  if s.client.connected = false then { s with fsm := .call (.destroy .idle) }
  else if button then
    { s with wakenet := false, gAppState := .handshaking, fsm := .delay .debounce }
  else { s with fsm := .delay .poll }

/-- APP_STATE_CONNECTING. Where the client is connected already the task goes
round to APP_STATE_CONNECTED_IDLE without blocking. -/
def stateConnecting (button : Bool) (s : Firmware) : Firmware :=
  if s.client.connected then
    stateConnectedIdle button { s with wakenet := true, gAppState := .connectedIdle }
  -- what an earlier attempt has left behind
  else if s.client.eventGroup || s.client.recvBuf || s.client.wsHandle then
    { s with wakenet := false, fsm := .call (.destroy .beforeInit) }
  else { s with wakenet := false, fsm := .call .init }

/-- APP_STATE_HANDSHAKING, up to StartSession. -/
def stateHandshaking (s : Firmware) : Firmware :=
  if s.client.connected = false then { s with fsm := .call (.destroy .handshaking) }
  else { s with replyText := s.replyText.clear, fsm := .call .startSession }

/-- The check that ends a pass through LISTENING and SPEAKING. -/
def checkSessionEnded (s : Firmware) : Firmware :=
  if s.gSessionActive = false ∧ s.gAppState ≠ .connectedIdle then
    { s with
      sStreaming := false
      wakenet := true
      gAppState := .connectedIdle
      fsm := .delay .poll }
  else { s with fsm := .delay .poll }

/-- APP_STATE_LISTENING and APP_STATE_SPEAKING. -/
def stateInSession (button : Bool) (s : Firmware) : Firmware :=
  if button then { s with sStreaming := false, fsm := .call .finishButton }
  else checkSessionEnded s

/-- From `while (g_running)` on. -/
def loopHead (button : Bool) (s : Firmware) : Firmware :=
  if s.gRunning = false then { s with fsm := .exited }
  else if s.gBargeinRequested then
    { s with
      gBargeinRequested := false
      replyText := s.replyText.clear
      fsm := .call .finishBargein }
  else
    match s.gAppState with
    | .idle => { s with gAppState := .connecting, fsm := .delay .poll }
    | .connecting => stateConnecting button s
    | .connectedIdle => stateConnectedIdle button s
    | .handshaking => stateHandshaking s
    | .listening | .speaking => stateInSession button s

/-! ### After a call or a delay -/

/-- `break`, after the device has been put in the state `app`. -/
def leaveCase (button : Bool) (app : AppState) (s : Firmware) : Firmware :=
  loopHead button { s with gAppState := app, fsm := .top }

/-- The end of the handshake. -/
def finishHandshake (button : Bool) (s : Firmware) : Firmware :=
  leaveCase button .listening { s with
    captureRb := []
    wakenet := false
    sStreaming := true
    log := .fsmListening :: s.log }

/-- `while (!g_say_hello_done && wait_count < 100 && g_running)`. -/
def waitHello (button : Bool) (waitCount : ℕ) (s : Firmware) : Firmware :=
  if s.gSayHelloDone = false ∧ waitCount < 100 ∧ s.gRunning = true then
    { s with fsm := .delay (.helloWait waitCount) }
  -- also after a timeout, with `g_say_hello_done` left unset
  else finishHandshake button s

/-- A connection attempt failed: show Ready and try again after the delay. -/
def connectFailed (s : Firmware) : Firmware :=
  { s with wakenet := true, gAppState := .connectedIdle, fsm := .delay .retry }

/-- What follows a call. -/
def afterCall (button : Bool) (s : Firmware) : FsmCall → Bool → Firmware
  | .finishBargein, _ => { s with fsm := .delay .bargein }
  | .finishButton, _ => { s with fsm := .delay .buttonEnd }
  | .destroy .beforeInit, _ => { s with fsm := .call .init }
  | .init, true => { s with fsm := .call .setRecvCallback }
  | .init, false => connectFailed s
  | .setRecvCallback, _ => { s with fsm := .call .connect }
  | .connect, true => { s with fsm := .call .startConnection }
  | .connect, false => { s with fsm := .call (.destroy .connectFailed) }
  | .startConnection, true => leaveCase button .connectedIdle { s with wakenet := true }
  | .startConnection, false => { s with fsm := .call (.destroy .startFailed) }
  | .destroy .connectFailed, _ => connectFailed s
  | .destroy .startFailed, _ => connectFailed s
  | .destroy .idle, _ => leaveCase button .connecting s
  | .destroy .handshaking, _ => leaveCase button .connecting s
  | .startSession, true => { s with fsm := .delay .sessionStart }
  | .startSession, false => leaveCase button .connectedIdle { s with wakenet := true }
  -- a greeting that could not be asked for is waited for all the same
  | .sayHello, _ => waitHello button 0 s

/-- What follows a delay. -/
def afterDelay (button : Bool) (s : Firmware) : FsmDelay → Firmware
  | .poll => loopHead button { s with fsm := .top }
  -- the switch comes right behind, in the same pass
  | .bargein => stateHandshaking { s with gSessionActive := false, gAppState := .handshaking }
  | .retry => leaveCase button .connecting s
  | .debounce => { s with fsm := .delay .poll }
  -- events of the session may have been handled during the 500 ms before
  | .sessionStart =>
    { s with gSayHelloDone := false, gSessionActive := true, fsm := .call .sayHello }
  | .helloWait waitCount => waitHello button (waitCount + 1) s
  | .buttonEnd =>
    { s with
      gSessionActive := false
      wakenet := true
      gAppState := .connectedIdle
      fsm := .delay .buttonDebounce }
  | .buttonDebounce => checkSessionEnded s

/-- One stretch of `main_fsm_task`. -/
def fsmResume (button : Bool) (s : Firmware) : Option Firmware :=
  match s.fsm with
  | .top => some (loopHead button s)
  | .ret c ok => some (afterCall button s c ok)
  | .delay d => some (afterDelay button s d)
  | _ => none

/-! ### The calls -/

/-- The command a call sends. -/
def callCmd : FsmCall → Option Cmd
  | .finishBargein => some .finishSession
  | .finishButton => some .finishSession
  | .startConnection => some .startConnection
  | .startSession => some .startSession
  | .sayHello => some .sayHello
  | _ => none

/-- A command call of the main task. -/
def fsmCommand (ok : Bool) (s : Firmware) : Option Firmware :=
  match s.fsm with
  | .call c =>
    match callCmd c with
    | some cmd => some { s.sendCommand cmd ok with fsm := .ret c (s.canSend ok) }
    | none => none
  | _ => none

/-- `doubao_ws_init`. -/
def wsInit (r : InitResult) (s : Firmware) : Option Firmware :=
  match s.fsm, r with
  | .call .init, .done =>
    some { s with
      client := { WsClient.zero with eventGroup := true, recvBuf := true }
      fsm := .ret .init true }
  | .call .init, .noBuffer => some { s with client := WsClient.zero, fsm := .ret .init false }
  | .call .init, .noEventGroup =>
    some { s with client := { WsClient.zero with recvBuf := true }, fsm := .ret .init false }
  | _, _ => none

/-- `doubao_ws_set_recv_callback`. -/
def wsSetRecvCallback (s : Firmware) : Option Firmware :=
  match s.fsm with
  | .call .setRecvCallback =>
    some { s with client.onRecv := true, fsm := .ret .setRecvCallback true }
  | _ => none

/-- `doubao_ws_connect` up to the wait. When the client cannot be created or
started its handle is `NULL`. -/
def wsConnect (started : Bool) (s : Firmware) : Option Firmware :=
  match s.fsm with
  | .call .connect =>
    if started then some { s with client.wsHandle := true, fsm := .connectWait }
    else some { s with client.wsHandle := false, fsm := .ret .connect false }
  | _ => none

/-- `xEventGroupWaitBits` in `doubao_ws_connect`, which clears the bits it saw.
With no bit set it returns after the timeout. -/
def wsConnectWait (s : Firmware) : Option Firmware :=
  match s.fsm with
  | .connectWait =>
    let s' := { s with client.bitConnected := false, client.bitDisconnected := false }
    if s.client.bitConnected then some { s' with fsm := .ret .connect true }
    else some { s' with fsm := .connectStop }
  | _ => none

/-- The client is stopped and destroyed. Its task has left the handler by then. -/
def stopClient (s : Firmware) : Firmware :=
  { s with
    client.wsHandle := false
    link := false
    log := if s.client.wsHandle then .stopped :: s.log else s.log }

/-- `esp_websocket_client_stop` after a failed wait. -/
def wsConnectStop (s : Firmware) : Option Firmware :=
  match s.fsm with
  | .connectStop =>
    if s.ws = .idle then some { s.stopClient with fsm := .ret .connect false } else none
  | _ => none

/-- `doubao_ws_destroy` up to `esp_websocket_client_stop`. -/
def wsDestroy (s : Firmware) : Option Firmware :=
  match s.fsm with
  | .call (.destroy site) =>
    some { s with
      client.connected := false
      client.bitConnected := s.client.bitConnected || s.client.eventGroup
      client.bitDisconnected := s.client.bitDisconnected || s.client.eventGroup
      fsm := .destroyStop site }
  | _ => none

/-- The rest of `doubao_ws_destroy`. -/
def wsDestroyStop (s : Firmware) : Option Firmware :=
  match s.fsm with
  | .destroyStop site =>
    if s.ws = .idle then
      some { s.stopClient with
        client.recvBuf := false
        client.eventGroup := false
        fsm := .ret (.destroy site) true }
    else none
  | _ => none

end Firmware

end BoxDoubao
