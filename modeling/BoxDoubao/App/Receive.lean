import BoxDoubao.App.State

/-!
# `on_ws_receive` and `on_wake_word`

`on_ws_receive` first decides on the message type, the event, the error code
and the JSON payload, without touching any state, and then acts.
`ParsedResponse.dispatch` is the decision and `onWsReceive` the action, up to
the first blocking call: two branches call `doubao_ws_finish_session` and
sleep, and `wsFinish` and `wsResume` are what comes after.

cJSON is not part of the repository. What the handler takes from it is a
string member of a JSON object: `json payload key` is the value of
`cJSON_GetObjectItem(cJSON_ParseWithLength(payload), key)` when that is a
string.
-/

namespace BoxDoubao

open CMemory

/-- A string member of a JSON text. -/
abbrev Json := Bytes → String → Option Bytes

/-- The branches of `on_ws_receive` that do more than log or set the screen. -/
inductive Received where
  | ttsAudio (data : Bytes)
  /-- 350 with a text. -/
  | ttsText (text : Bytes)
  /-- 550. -/
  | replyUpdate (replyId content : Option Bytes)
  /-- 450. -/
  | clearCache
  /-- 459. -/
  | userQueryEnd
  /-- 359. -/
  | ttsEnded (exitIntent : Bool)
  /-- 152 and 153. -/
  | sessionFinish
  | recoverableError
  | fatalError
  | ignored
  deriving DecidableEq

/-- The dialogue text update, a bare number in the source. -/
def eventReplyUpdate : Int32 := 550

/-- The status code `20000002`. -/
def exitStatusCode : Bytes := [50, 48, 48, 48, 48, 48, 48, 50]

/-- DialogAudioIdleTimeoutError. -/
def errorAudioIdleTimeout : UInt32 := 55000001

/-- The other error code after which the connection is kept. -/
def errorSessionRecoverable : UInt32 := 52000042

namespace ParsedResponse

/-- `resp->payload_data && !resp->is_binary`. -/
def jsonPayload (r : ParsedResponse) : Option Bytes :=
  if r.isBinary then none else r.payloadData

/-- A string member of the JSON payload. -/
def jsonString (json : Json) (r : ParsedResponse) (key : String) : Option Bytes :=
  r.jsonPayload.bind fun payload => json payload key

/-- The exit intent of a 359 event. -/
def exitIntent (json : Json) (r : ParsedResponse) : Bool :=
  decide (r.payloadDataLen > 0) && r.jsonString json "status_code" == some exitStatusCode

/-- The branch an event takes. -/
def dispatchEvent (json : Json) (r : ParsedResponse) : Received :=
  if r.event = eventTtsTextClear then
    match r.jsonString json "text" with
    | some text => .ttsText text
    | none => .ignored
  else if r.event = eventClearCache then .clearCache
  else if r.event = eventUserQueryEnd then .userQueryEnd
  else if r.event = eventReplyUpdate then
    .replyUpdate (r.jsonString json "reply_id") (r.jsonString json "content")
  else if r.event = eventTtsEnded then .ttsEnded (r.exitIntent json)
  else if r.event = eventSessionFinish1 ∨ r.event = eventSessionFinish2 then .sessionFinish
  else .ignored

/-- The branch a response takes. -/
def dispatch (json : Json) (r : ParsedResponse) : Received :=
  if r.messageType = msgServerAck ∧ r.isBinary = true ∧ r.payloadData.isSome = true then
    .ttsAudio (r.payloadData.getD [])
  else if r.messageType = msgServerFullResponse then
    if r.hasEvent then r.dispatchEvent json else .ignored
  else if r.messageType = msgServerError then
    if r.errorCode = errorAudioIdleTimeout ∨ r.errorCode = errorSessionRecoverable then
      .recoverableError
    else .fatalError
  else .ignored

end ParsedResponse

namespace Firmware

/-- `audio_hal_clear_playback(); audio_hal_clear_ref(); opus_proc_reset_ogg();` -/
def silence (s : Firmware) : Firmware :=
  { s with log := .speaker .resetOgg :: .speaker .clearRef :: .speaker .clearPlayback :: s.log }

/-- The device takes the user's turn. -/
def startListening (s : Firmware) : Firmware :=
  { s with wakenet := false, sStreaming := true, gAppState := .listening }

/-- One branch of `on_ws_receive`, up to its first blocking call. -/
def act (s : Firmware) : Received → Option Firmware
  | .ttsAudio data =>
    some { s with log := .speaker (.decodeOgg data) :: s.log }
  | .ttsText text =>
    match s.replyText.ttsText text with
    | .ok t => some { s with replyText := t }
    | .error _ => none
  | .replyUpdate replyId content =>
    match s.replyText.replyUpdate replyId content with
    | .ok t => some { s with replyText := t }
    | .error _ => none
  | .clearCache => some { s.silence with captureRb := [] }.startListening
  | .userQueryEnd =>
    some { s with
      sStreaming := false
      wakenet := true
      captureRb := []
      gAppState := .speaking }
  | .ttsEnded exitIntent =>
    let s := { s.silence with captureRb := [] }
    if s.gSayHelloDone = false then some { s with gSayHelloDone := true }
    else if exitIntent then
      some { s with sStreaming := false, wakenet := true, ws := .finishSession .exitIntent }
    else some s.startListening
  | .sessionFinish =>
    some { s with
      gSessionActive := false
      sStreaming := false
      wakenet := true
      gAppState := .connectedIdle }
  | .recoverableError =>
    some { s.silence with
      captureRb := []
      sStreaming := false
      gSessionActive := false
      replyText := s.replyText.clear
      ws := .finishSession .recoverableError }
  | .fatalError => some { s with gRunning := false }
  | .ignored => some s

/-- `on_ws_receive`. The network task calls it for a response while it is not
in it already and the client is up. -/
def onWsReceive (json : Json) (s : Firmware) (r : ParsedResponse) : Option Firmware :=
  if s.ws = .idle ∧ s.client.wsHandle = true ∧ s.link = true ∧ s.client.onRecv = true then
    act { s with log := .received r :: s.log } (r.dispatch json)
  else none

/-- The FinishSession of `on_ws_receive`. -/
def wsFinish (s : Firmware) (ok : Bool) : Option Firmware :=
  match s.ws with
  | .finishSession b => some { s.sendCommand .finishSession ok with ws := .delay b }
  | _ => none

/-- What `on_ws_receive` does after its delay. -/
def wsResume (s : Firmware) : Option Firmware :=
  match s.ws with
  | .delay .exitIntent =>
    some { s with gSessionActive := false, gAppState := .connectedIdle, ws := .idle }
  | .delay .recoverableError =>
    some { s with wakenet := true, gAppState := .connectedIdle, ws := .idle }
  | _ => none

/-- `on_wake_word`. -/
def onWakeWord (s : Firmware) : Firmware :=
  match s.gAppState with
  | .connectedIdle =>
    if s.client.connected = false then s
    else { s with wakenet := false, gAppState := .handshaking }
  | .speaking => { s.silence with gBargeinRequested := true }
  | _ => s

end Firmware

end BoxDoubao
