import BoxDoubao.Client.BuildCommand
import BoxDoubao.Client.StartSession
import BoxDoubao.Protocol.Request

/-!
# The requests of the firmware

Each `doubao_ws_*` call builds one command and sends it. `wsRequest_meaning`
says what the message says to a server that knows the format: what the call was
for, without compression, whatever compression it asked `build_command` for.
-/

namespace BoxDoubao

open CMemory JsonText

/-- The part of `doubao_ws_client_t` that requests are made of. -/
structure WsSession where
  sessionId : CString
  config : DoubaoWsConfig
  /-- `char session_id[64]`. -/
  sid_fits : sessionId.strlen ≤ 63

/-- What a `doubao_ws_*` call sends. -/
inductive WsRequest where
  | startConnection
  | startSession
  | sayHello
  | sendAudio (audio : Bytes)
  | finishSession
  | finishConnection

/-- The payload `{}`. -/
def emptyPayload : Bytes := utf8 "\x7b\x7d".toList

namespace WsSession

variable (c : WsSession) (fresh : ℕ → UInt8) (heap : Heap)

/-- `doubao_ws_start_connection`. -/
def startConnection : Except Stop (Bytes × ℕ) × Heap :=
  buildCommand fresh heap msgClientFullRequest flagMsgWithEvent serialJson compressGzip
    Cmd.startConnection.id none (some emptyPayload) false

/-- `doubao_ws_start_session`. -/
def startSession : Except Stop (Bytes × ℕ) × Heap :=
  buildCommand fresh heap msgClientFullRequest flagMsgWithEvent serialJson compressGzip
    Cmd.startSession.id (some c.sessionId) (some c.config.buildStartSessionJson.chars) true

/-- The payload of `doubao_ws_say_hello`. -/
def helloPayload : Bytes := utf8 "\x7b\"content\":\"我在。\"\x7d".toList

/-- `doubao_ws_say_hello`. -/
def sayHello : Except Stop (Bytes × ℕ) × Heap :=
  buildCommand fresh heap msgClientFullRequest flagMsgWithEvent serialJson compressGzip
    Cmd.sayHello.id (some c.sessionId) (some helloPayload) true

/-- The compression `doubao_ws_send_audio` asks for. -/
def audioCompress : UInt8 :=
  if c.config.asrAudioFormat.map CString.chars = some (utf8 "ogg_opus".toList) then compressNone
  else compressGzip

/-- `doubao_ws_send_audio`. -/
def sendAudio (audio : Bytes) : Except Stop (Bytes × ℕ) × Heap :=
  buildCommand fresh heap msgClientAudioOnly flagMsgWithEvent serialNone c.audioCompress
    Cmd.taskRequest.id (some c.sessionId) (some audio) true

/-- `doubao_ws_finish_session`. -/
def finishSession : Except Stop (Bytes × ℕ) × Heap :=
  buildCommand fresh heap msgClientFullRequest flagMsgWithEvent serialJson compressGzip
    Cmd.finishSession.id (some c.sessionId) (some emptyPayload) true

/-- `doubao_ws_finish_connection`. -/
def finishConnection : Except Stop (Bytes × ℕ) × Heap :=
  buildCommand fresh heap msgClientFullRequest flagMsgWithEvent serialJson compressGzip
    Cmd.finishConnection.id none (some emptyPayload) false

/-- The message a call builds. -/
def build : WsRequest → Except Stop (Bytes × ℕ) × Heap
  | .startConnection => startConnection fresh heap
  | .startSession => c.startSession fresh heap
  | .sayHello => c.sayHello fresh heap
  | .sendAudio audio => c.sendAudio fresh heap audio
  | .finishSession => c.finishSession fresh heap
  | .finishConnection => finishConnection fresh heap

/-- What a call is for. -/
def intent : WsRequest → Intent
  | .startConnection => .ofConnection 1 emptyPayload
  | .startSession => .inSession 1 1 100 c.sessionId.chars c.config.buildStartSessionJson.chars
  | .sayHello => .inSession 1 1 300 c.sessionId.chars helloPayload
  | .sendAudio audio => .inSession 2 0 200 c.sessionId.chars audio
  | .finishSession => .inSession 1 1 102 c.sessionId.chars emptyPayload
  | .finishConnection => .ofConnection 2 emptyPayload

/-! ### Commands and requests -/

theorem fits_intent (r : WsRequest) : (c.intent r).Fits := by
  have hsid : c.sessionId.chars.length < 4294967296 :=
    Nat.lt_of_le_of_lt c.sid_fits (by decide)
  cases r with
  | startConnection => exact Intent.fits_ofConnection (by decide)
  | finishConnection => exact Intent.fits_ofConnection (by decide)
  | startSession | sayHello | sendAudio | finishSession =>
    exact Intent.fits_inSession (by decide) hsid

/-- The command of a call; a session id that is not sent may be anything. -/
def command (c : WsSession) (r : WsRequest) : Command where
  msgType := (c.intent r).messageType
  flags := 4
  serial := (c.intent r).serial
  cmdId := (c.intent r).event
  sessionId := c.sessionId
  payload := (c.intent r).content

/-- The session id is sent. -/
def includeSession (r : WsRequest) : Bool := (c.intent r).sessionId.isSome

theorem layout_command (r : WsRequest) :
    (c.command r).layout (c.includeSession r) =
      ((c.intent r).request 0 (c.intent r).content).layout := by
  cases r <;> rfl

theorem build_eq (r : WsRequest) : ∃ compress, c.build fresh heap r =
    (c.command r).build fresh heap compress (c.includeSession r) := by
  cases r with
  | sendAudio audio => exact ⟨c.audioCompress, rfl⟩
  | startConnection | startSession | sayHello | finishSession | finishConnection =>
    exact ⟨compressGzip, rfl⟩

/-- **What the firmware says.** The message of a call, if it is built, says what
the call is for. -/
theorem wsRequest_meaning (gunzip : Bytes → Option Bytes) (r : WsRequest) {bytes : Bytes} {n : ℕ}
    (hlen : (c.intent r).content.length < 2147483000)
    (hbuild : (c.build fresh heap r).1 = .ok (bytes, n)) :
    n = bytes.length ∧ meaning gunzip bytes = some (c.intent r) := by
  obtain ⟨compress, heq⟩ := c.build_eq fresh heap r
  have hshort : ((c.command r).layout (c.includeSession r)).length < 2147483648 := by
    have hsid : (c.command r).sessionId.strlen ≤ 63 := c.sid_fits
    have hpayload : (c.command r).payload.length < 2147483000 := hlen
    rw [Command.length_layout]
    split <;> omega
  rw [heq] at hbuild
  obtain hok | ⟨hfail, -⟩ := build_cases fresh heap compress (c.includeSession r) (c.command r)
    hshort
  · rw [hok] at hbuild
    obtain ⟨rfl, rfl⟩ := Prod.mk.inj (Except.ok.inj hbuild)
    refine ⟨rfl, ?_⟩
    rw [layout_command]
    exact Intent.meaning_plain (c.fits_intent r) (by omega)
  · rw [hfail] at hbuild
    cases hbuild

/-- The session `s1`. -/
def sample : WsSession where
  sessionId := literal "s1" (by decide)
  config := .default
  sid_fits := by decide

/-- Three bytes of audio: the header announces no compression, although gzip
was asked for. -/
theorem wsRequest_meaning_sample :
    sample.audioCompress = compressGzip ∧
      meaning (fun _ => none) [0x11, 0x24, 0, 0, 0, 0, 0, 200, 0, 0, 0, 2, 115, 49, 0, 0, 0, 3,
        1, 2, 3] = some (.inSession 2 0 200 [115, 49] [1, 2, 3]) :=
  ⟨by decide, (sample.wsRequest_meaning (n := 21) (fun _ => 0) Heap.unlimited (fun _ => none)
    (.sendAudio [1, 2, 3]) (by decide) (by decide +kernel)).2⟩

end WsSession

end BoxDoubao
