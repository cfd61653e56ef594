import BoxDoubao.Desktop.Requests
import BoxDoubao.PyDemo.JsonDumps
import BoxDoubao.PyDemo.ParseResponse

/-!
# The requests of the Python client

`RealtimeDialogClient` puts each request together in a `bytearray`. The length
in front of the session id is `len(self.session_id)`, the number of characters,
while the bytes behind it are those of UTF-8. `pyRequest_meaning_iff` says when
the message is understood all the same.

The payloads are printed by `json.dumps`, which spells every string
(`pyRequest_encodes`). `gzip.compress` is a parameter.
-/

namespace BoxDoubao

open CMemory JsonText

namespace PyDemo

def clientFullRequest : UInt8 := 0b0001
def clientAudioOnlyRequest : UInt8 := 0b0010
def protocolVersion : UInt8 := 0b0001

/-- `generate_header`, whose other arguments are never given. -/
def generateHeader (messageType serialMethod : UInt8) : Bytes :=
  let extensionHeader : Bytes := []
  let headerSize := UInt8.ofNat (extensionHeader.length / 4 + 1)
  [(protocolVersion <<< 4) ||| headerSize, (messageType <<< 4) ||| msgWithEvent,
    (serialMethod <<< 4) ||| gzip, 0x00] ++ extensionHeader

/-- `n.to_bytes(4, 'big')`, which raises when `n` does not fit. -/
def toBytes (n : ℕ) : Except PyBytes.PyError Bytes :=
  if n < 4294967296 then .ok (beBytes (UInt32.ofNat n)) else .error .library

/-- A request about the connection. -/
def connectionRequest (compress : Bytes → Bytes) (event : UInt32) (payload : Bytes) :
    Except PyBytes.PyError Bytes := do
  let payloadBytes := compress payload
  let payloadSize ← toBytes payloadBytes.length
  return generateHeader clientFullRequest jsonFormat ++ beBytes event ++ payloadSize ++ payloadBytes

/-- A request in the session `sessionId`. -/
def sessionRequest (compress : Bytes → Bytes) (messageType serialMethod : UInt8) (event : UInt32)
    (sessionId : List Char) (payload : Bytes) : Except PyBytes.PyError Bytes := do
  let payloadBytes := compress payload
  let sessionIdSize ← toBytes sessionId.length
  let payloadSize ← toBytes payloadBytes.length
  return generateHeader messageType serialMethod ++ beBytes event ++ sessionIdSize ++
    utf8 sessionId ++ payloadSize ++ payloadBytes

/-! ### The payloads -/

/-- `str.encode(json.dumps(d))`. -/
def encodeDumps (d : Doc) : Bytes := utf8 (d.text dumpsStyle)

/-- A string of the program under its name. -/
def member (name : String) (s : List Char) : Doc := .object (.last name.toList (.string s))

/-- The payload of `chat_tts_text`. -/
def ttsTextDoc (start finish : Bool) (content : List Char) : Doc :=
  .object (.more "start".toList (.bool start) (.more "end".toList (.bool finish)
    (.last "content".toList (.string content))))

/-- `config.start_session_req`, as far as it is that of the other clients. -/
def startSessionReq : SessionFormat := ⟨1500, "豆包", "北京", false⟩

/-- What a method of `RealtimeDialogClient` sends. -/
inductive ClientCall where
  | startConnection
  | startSession
  | sayHello
  | chatTextQuery (content : List Char)
  | chatTtsText (start finish : Bool) (content : List Char)
  | chatRagText (externalRag : List Char)
  | taskRequest (audio : Bytes)
  | finishSession
  | finishConnection

/-- `RealtimeDialogClient`. -/
structure DialogClient where
  sessionId : List Char
  outputAudioFormat : List Char
  mod : List Char
  recvTimeout : ℤ

namespace DialogClient

variable (c : DialogClient)

/-- `start_session_req["tts"]["audio_config"]["format"]`. -/
def audioFormat : List Char :=
  if c.outputAudioFormat = "pcm_s16le".toList then "pcm_s16le".toList else "pcm".toList

/-- The object behind the payload of a call; there is none for audio. -/
def doc : ClientCall → Option Doc
  | .startSession =>
    some (sessionDoc startSessionReq none "zh_female_vv_jupiter_bigtts".toList c.audioFormat
      c.recvTimeout c.mod)
  | .sayHello => some (member "content" "你好，我是豆包，有什么可以帮助你的？".toList)
  | .chatTextQuery content => some (member "content" content)
  | .chatTtsText start finish content => some (ttsTextDoc start finish content)
  | .chatRagText externalRag => some (member "external_rag" externalRag)
  | _ => none

/-- The payload before `gzip.compress`. -/
def payload (call : ClientCall) : Bytes :=
  match call, c.doc call with
  | .taskRequest audio, _ => audio
  | _, some d => encodeDumps d
  | _, none => emptyPayload

/-- The message of a call, `none` where the call returns without one. -/
def message (compress : Bytes → Bytes) (isUserQuerying : Bool) (call : ClientCall) :
    Except PyBytes.PyError (Option Bytes) :=
  let session (messageType serialMethod : UInt8) (event : UInt32) :=
    some <$> sessionRequest compress messageType serialMethod event c.sessionId (c.payload call)
  match call with
  | .startConnection => some <$> connectionRequest compress 1 (c.payload call)
  | .startSession => session clientFullRequest jsonFormat 100
  | .sayHello => session clientFullRequest jsonFormat 300
  | .chatTextQuery _ => session clientFullRequest jsonFormat 501
  | .chatTtsText _ _ _ =>
    if isUserQuerying then return none else session clientFullRequest jsonFormat 500
  | .chatRagText _ =>
    if isUserQuerying then return none else session clientFullRequest jsonFormat 502
  | .taskRequest _ => session clientAudioOnlyRequest noSerialization 200
  | .finishSession => session clientFullRequest jsonFormat 102
  | .finishConnection => some <$> connectionRequest compress 2 (c.payload call)

/-- What a call is for. -/
def intent (call : ClientCall) : Intent :=
  match call with
  | .startConnection => .ofConnection 1 (c.payload call)
  | .startSession => .inSession 1 1 100 (utf8 c.sessionId) (c.payload call)
  | .sayHello => .inSession 1 1 300 (utf8 c.sessionId) (c.payload call)
  | .chatTextQuery _ => .inSession 1 1 501 (utf8 c.sessionId) (c.payload call)
  | .chatTtsText _ _ _ => .inSession 1 1 500 (utf8 c.sessionId) (c.payload call)
  | .chatRagText _ => .inSession 1 1 502 (utf8 c.sessionId) (c.payload call)
  | .taskRequest _ => .inSession 2 0 200 (utf8 c.sessionId) (c.payload call)
  | .finishSession => .inSession 1 1 102 (utf8 c.sessionId) (c.payload call)
  | .finishConnection => .ofConnection 2 (c.payload call)

/-! ### The payloads are JSON -/

theorem encodes_encodeDumps {d : Doc} (h : d.All fun _ => True) :
    Encodes (encodeDumps d) d.value := by
  have hspells : dumpsStyle.Spells = fun _ => True :=
    funext fun s => propext (iff_of_true (spells_dumpsStyle s) trivial)
  refine (encodes_utf8_iff _ _).mpr (Doc.denotes_text ?_)
  rwa [hspells]

/-- Every text query arrives as it is; the C client's payload for the same object
escapes nothing. -/
theorem chatTextQuery_encodes (content : List Char) :
    Encodes (c.payload (.chatTextQuery content)) (Desktop.contentObject content) :=
  encodes_encodeDumps ⟨trivial, trivial⟩

/-- **The payload of every call but `task_request` is the JSON text of its
object**, whatever the strings are. -/
theorem pyRequest_encodes {call : ClientCall} {d : Doc} (h : c.doc call = some d) :
    Encodes (c.payload call) d.value := by
  have hnumbers : d.All fun _ => True := by
    cases call with
    | startSession =>
      obtain rfl := Option.some.inj h
      exact (sessionDoc_all (fun _ _ => trivial) trivial trivial trivial none _ _ _).mpr
        ⟨nofun, trivial, trivial⟩
    | sayHello | chatTextQuery | chatRagText =>
      obtain rfl := Option.some.inj h
      exact ⟨trivial, trivial⟩
    | chatTtsText =>
      obtain rfl := Option.some.inj h
      exact ⟨⟨trivial, trivial⟩, ⟨trivial, trivial⟩, trivial, trivial⟩
    | startConnection | taskRequest | finishSession | finishConnection => cases h
  have hpayload : c.payload call = encodeDumps d := by
    cases call with
    | startConnection | taskRequest | finishSession | finishConnection => cases h
    | startSession | sayHello | chatTextQuery | chatTtsText | chatRagText =>
      obtain rfl := Option.some.inj h
      rfl
  rw [hpayload]
  exact encodes_encodeDumps hnumbers

/-- A question in two scripts. -/
theorem pyRequest_encodes_question :
    Encodes (utf8 "\x7b\"content\": \"\\u4f60\\u597d?\"\x7d".toList)
      (member "content" "你好?".toList).value :=
  @pyRequest_encodes (DialogClient.mk [] [] [] 0) (.chatTextQuery "你好?".toList) _ rfl

/-! ### What the messages say -/

variable {compress : Bytes → Bytes} {gunzip : Bytes → Option Bytes}

theorem ok_of_map {r : Except PyBytes.PyError Bytes} {bytes : Bytes}
    (h : some <$> r = .ok (some bytes)) : r = .ok bytes := by
  cases r with
  | error e => cases h
  | ok b =>
    cases h
    rfl

theorem toBytes_ok {n : ℕ} {b : Bytes} (h : toBytes n = .ok b) :
    n < 4294967296 ∧ b = beBytes (UInt32.ofNat n) := by
  unfold toBytes at h
  split at h
  next hlt =>
    cases h
    exact ⟨hlt, rfl⟩
  next => cases h

theorem generateHeader_nibble (messageType serial : Fin 16) :
    generateHeader (nibble messageType) (nibble serial) =
      [nibbles 1 1, nibbles messageType 4, nibbles serial 1, 0] := by
  unfold generateHeader
  rw [show msgWithEvent = nibble 4 from rfl, show gzip = nibble 1 from rfl, nibble_shiftLeft_or,
    nibble_shiftLeft_or]
  rfl

/-- The message of a request about the connection. -/
theorem connectionRequest_ok {event : UInt32} {payload bytes : Bytes}
    (h : connectionRequest compress event payload = .ok bytes) :
    (compress payload).length < 4294967296 ∧
      bytes = ((Intent.ofConnection event payload).request 1 (compress payload)).layout := by
  obtain ⟨size, hsize, h⟩ := ok_of_bind h
  obtain ⟨hlt, rfl⟩ := toBytes_ok hsize
  cases h
  refine ⟨hlt, ?_⟩
  rw [show clientFullRequest = nibble 1 from rfl, show jsonFormat = nibble 1 from rfl,
    generateHeader_nibble]
  simp only [List.append_assoc]
  rfl

/-- The message of a request in the session. -/
theorem sessionRequest_ok {messageType serial : Fin 16} {event : UInt32} {sessionId : List Char}
    {payload bytes : Bytes} (h : sessionRequest compress (nibble messageType) (nibble serial) event
      sessionId payload = .ok bytes) :
    sessionId.length < 4294967296 ∧ (compress payload).length < 4294967296 ∧
      bytes = [nibbles 1 1, nibbles messageType 4, nibbles serial 1, 0] ++ (beBytes event ++
        (beBytes (UInt32.ofNat sessionId.length) ++ (utf8 sessionId ++
          ServerMessage.counted (compress payload)))) := by
  obtain ⟨sidSize, hsid, h⟩ := ok_of_bind h
  obtain ⟨size, hsize, h⟩ := ok_of_bind h
  obtain ⟨hlt, rfl⟩ := toBytes_ok hsid
  obtain ⟨hlt', rfl⟩ := toBytes_ok hsize
  cases h
  refine ⟨hlt, hlt', ?_⟩
  rw [generateHeader_nibble]
  simp only [List.append_assoc]
  rfl

theorem sessionId_readPayload {r r' : BoxDoubao.Request} {l : Bytes}
    (h : r.readPayload l = some r') : r'.sessionId = r.sessionId := by
  obtain ⟨⟨payload, rest⟩, -, h⟩ := Option.bind_eq_some_iff.mp h
  obtain ⟨-, h⟩ := Option.ite_none_right_eq_some.mp h
  cases h
  rfl

/-- The session id that is read has as many bytes as are announced. -/
theorem length_of_meaning {messageType serial : Fin 16} {event : UInt32} {n : ℕ} {rest : Bytes}
    (hevent : ¬ OfConnection event) (hn : n < 4294967296) (hrest : n ≤ rest.length) {i : Intent}
    {sid : Bytes} (h : meaning gunzip ([nibbles 1 1, nibbles messageType 4, nibbles serial 1, 0] ++
      (beBytes event ++ (beBytes (UInt32.ofNat n) ++ rest))) = some i)
    (hsid : i.sessionId = some sid) : sid.length = n := by
  obtain ⟨r, hdecode, h⟩ := Option.bind_eq_some_iff.mp h
  obtain ⟨content, -, h⟩ := Option.bind_eq_some_iff.mp h
  cases h
  rw [Request.decode_header, Request.readFields, if_neg hevent,
    takeCounted_word hn hrest] at hdecode
  have hr := sessionId_readPayload hdecode
  rw [show r.sessionId = some sid from hsid] at hr
  rw [Option.some.inj hr, List.length_take, Nat.min_eq_left hrest]

theorem sessionRequest_meaning_iff (hgzip : ∀ b, gunzip (compress b) = some b)
    {messageType serial : Fin 16} {event : UInt32} (hevent : ¬ OfConnection event)
    {sessionId : List Char} {payload bytes : Bytes}
    (h : sessionRequest compress (nibble messageType) (nibble serial) event sessionId payload =
      .ok bytes) :
    meaning gunzip bytes = some (.inSession messageType serial event (utf8 sessionId) payload) ↔
      ∀ ch ∈ sessionId, ch.toNat < 128 := by
  obtain ⟨hsid, hpayload, rfl⟩ := sessionRequest_ok h
  -- the size announced counts characters, and what follows are bytes
  have hle := length_le_length_utf8 sessionId
  rw [← length_utf8_eq_iff]
  constructor
  · intro hmeaning
    exact length_of_meaning hevent hsid (by rw [List.length_append]; omega) hmeaning rfl
  · intro hascii
    rw [← hascii] at hsid ⊢
    have hlayout := Intent.meaning_gzip (i := .inSession messageType serial event (utf8 sessionId)
      payload) (Intent.fits_inSession hevent hsid) hpayload (hgzip payload)
    rw [← hlayout]
    simp only [Intent.request, Intent.inSession, Request.layout, Option.elim_some,
      ServerMessage.counted, List.append_assoc]

/-- **What the Python client says.** The message of a call in a session says
what the call is for just if the session id is ASCII; one about the connection
always does. -/
theorem pyRequest_meaning_iff (hgzip : ∀ b, gunzip (compress b) = some b) (isUserQuerying : Bool)
    (call : ClientCall) {bytes : Bytes}
    (h : c.message compress isUserQuerying call = .ok (some bytes)) :
    meaning gunzip bytes = some (c.intent call) ↔
      OfConnection (c.intent call).event ∨ ∀ ch ∈ c.sessionId, ch.toNat < 128 := by
  have hsession : ∀ (messageType serial : Fin 16) (event : UInt32), ¬ OfConnection event →
      some <$> sessionRequest compress (nibble messageType) (nibble serial) event c.sessionId
        (c.payload call) = .ok (some bytes) →
      (meaning gunzip bytes = some (.inSession messageType serial event (utf8 c.sessionId)
        (c.payload call)) ↔ OfConnection event ∨ ∀ ch ∈ c.sessionId, ch.toNat < 128) := by
    intro messageType serial event hevent h
    rw [or_iff_right hevent]
    exact sessionRequest_meaning_iff hgzip hevent (ok_of_map h)
  have hconnection : ∀ event : UInt32, OfConnection event →
      some <$> connectionRequest compress event (c.payload call) = .ok (some bytes) →
      (meaning gunzip bytes = some (.ofConnection event (c.payload call)) ↔
        OfConnection event ∨ ∀ ch ∈ c.sessionId, ch.toNat < 128) := by
    intro event hevent h
    obtain ⟨hlen, rfl⟩ := connectionRequest_ok (ok_of_map h)
    exact iff_of_true (Intent.meaning_gzip (Intent.fits_ofConnection hevent) hlen (hgzip _))
      (.inl hevent)
  cases call with
  | startConnection => exact hconnection 1 (by decide) h
  | startSession => exact hsession 1 1 100 (by decide) h
  | sayHello => exact hsession 1 1 300 (by decide) h
  | chatTextQuery content => exact hsession 1 1 501 (by decide) h
  | chatTtsText start finish content =>
    cases isUserQuerying with
    | true =>
      -- the method returns without a message while the user speaks
      cases h
    | false => exact hsession 1 1 500 (by decide) h
  | chatRagText externalRag =>
    cases isUserQuerying with
    | true => cases h
    | false => exact hsession 1 1 502 (by decide) h
  | taskRequest audio => exact hsession 2 0 200 (by decide) h
  | finishSession => exact hsession 1 1 102 (by decide) h
  | finishConnection => exact hconnection 2 (by decide) h

/-! ### Two bytes of audio -/

/-- gzip on the text `hi`; every other text is marked. -/
def greetingCompress (data : Bytes) : Bytes :=
  if data = Desktop.greeting then Desktop.greetingStream else 0 :: data

def greetingDecompress : Bytes → Option Bytes
  | [] => none
  | b :: data =>
    if b = 0 then some data
    else if b :: data = Desktop.greetingStream then some Desktop.greeting else none

theorem greetingDecompress_compress (data : Bytes) :
    greetingDecompress (greetingCompress data) = some data := by
  unfold greetingCompress
  split
  next h =>
    rw [h]
    decide
  next =>
    unfold greetingDecompress
    exact if_pos rfl

/-- A client with the defaults of the constructor. -/
def sample (sessionId : List Char) : DialogClient := ⟨sessionId, "pcm".toList, "audio".toList, 10⟩

/-- The session id `é` is announced as one byte. -/
theorem pyRequest_meaning_iff_sample :
    meaning greetingDecompress
        ([0x11, 0x24, 0x01, 0, 0, 0, 0, 200, 0, 0, 0, 2, 115, 49] ++
          ServerMessage.counted Desktop.greetingStream) =
      some (.inSession 2 0 200 [115, 49] Desktop.greeting) ∧
    meaning greetingDecompress
        ([0x11, 0x24, 0x01, 0, 0, 0, 0, 200, 0, 0, 0, 1, 0xc3, 0xa9] ++
          ServerMessage.counted Desktop.greetingStream) ≠
      some (.inSession 2 0 200 [0xc3, 0xa9] Desktop.greeting) := by
  have hascii := @pyRequest_meaning_iff (sample ['s', '1']) greetingCompress _
    greetingDecompress_compress false (.taskRequest Desktop.greeting) _ rfl
  have haccent := @pyRequest_meaning_iff (sample ['é']) greetingCompress _
    greetingDecompress_compress false (.taskRequest Desktop.greeting) _ rfl
  refine ⟨hascii.mpr (.inr ?_), fun h => ?_⟩
  · exact List.forall_mem_cons.mpr ⟨by decide, List.forall_mem_singleton.mpr (by decide)⟩
  · obtain hevent | hshort := haccent.mp h
    · exact absurd hevent (by decide)
    · exact absurd (hshort 'é' (List.mem_singleton_self _)) (by decide)

end DialogClient

end PyDemo

end BoxDoubao
