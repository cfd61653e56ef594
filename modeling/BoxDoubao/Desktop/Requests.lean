import BoxDoubao.Client.Requests
import BoxDoubao.Desktop.Decompress

/-!
# The requests of the desktop client

The desktop's `build_command` compresses the payload, and lays the message out
behind the `LWS_PRE` bytes that libwebsockets wants in front of it. zlib is not
part of the repository; `Deflater` is what `gzip_compress` needs of it.

`clientRequest_meaning` says what the messages say. The compression plays no
part in it, so they say what the firmware's say for the same call.
-/

namespace BoxDoubao

open CMemory JsonText

namespace Desktop

/-- zlib's compressor: `compressBound`, and what `deflate` writes when
`deflateInit2` succeeds and one call with `Z_FINISH` reaches the end of the
stream in so many bytes. -/
structure Deflater where
  compressBound : ℕ → ℕ
  deflate : Bytes → ℕ → Option Bytes

/-- The stream fits the room and decodes to the input. -/
structure Deflater.Lawful (z : Deflater) (gunzip : Bytes → Option Bytes) : Prop where
  length_le : ∀ {data room out}, z.deflate data room = some out → out.length ≤ room
  decodes : ∀ {data room out}, z.deflate data room = some out → gunzip out = some data

section

variable (z : Deflater)

/-- `gzip_compress`. -/
def gzipCompress (heap : Heap) (data : Bytes) : Except Stop Bytes × Heap :=
  match heap.malloc with
  | (false, heap) => (.error .failure, heap)
  | (true, heap) =>
    match z.deflate (data.take (uInt data.length))
        (uInt (z.compressBound data.length + 256)) with
    | some out => (.ok out, heap)
    | none => (.error .failure, heap.free)

/-- The payload as it is sent, `NULL` when there is none. -/
def compressForSending (heap : Heap) (compress : UInt8) (payload : Option Bytes) :
    Except Stop (Option Bytes) × Heap :=
  match payload with
  | some bytes =>
    if compress = compressGzip ∧ bytes.length > 0 then
      match gzipCompress z heap bytes with
      | (.ok out, heap) => (.ok (some out), heap)
      | (.error e, heap) => (.error e, heap)
    else if bytes.length > 0 then
      match heap.malloc with
      | (true, heap) => (.ok (some bytes), heap)
      | (false, heap) => (.error .failure, heap)
    else (.ok none, heap)
  | none => (.ok none, heap)

/-- Everything `build_command` writes, from `p` on. -/
def writeCommand (buf : Bytes) (p : ℕ) (msgType flags serial compress : UInt8) (cmdId : UInt32)
    (sessionId : Option CString) (sidLen : ℕ) (compressed : Bytes) (includeSession : Bool) :
    Except Stop Bytes := do
  let buf ← protocolGenerateHeader buf p 4 msgType flags serial compress
  let buf ← writeU32Be buf (p + 4) cmdId
  let (buf, p) ← writeSession buf (p + 4 + 4) sessionId sidLen includeSession
  writeCounted buf p compressed compressed.length

/-- `build_command`. The message is behind the first `lwsPre` bytes of the
buffer. -/
def buildCommand (lwsPre : ℕ) (fresh : ℕ → UInt8) (heap : Heap)
    (msgType flags serial compress : UInt8) (cmdId : UInt32) (sessionId : Option CString)
    (payload : Option Bytes) (includeSession : Bool) : Except Stop (Bytes × ℕ) × Heap :=
  match compressForSending z heap compress payload with
  | (.error e, heap) => (.error e, heap)
  | (.ok copy, heap) =>
    let compressed := copy.getD []
    let sidLen := sessionId.elim 0 CString.strlen
    let total := 4 + 4
    let total := if includeSession then total + (4 + sidLen) else total
    let total := total + (4 + compressed.length)
    match heap.malloc with
    | (false, heap) => (.error .failure, heap.freeOption copy)
    | (true, heap) =>
      match writeCommand (newBuffer fresh (lwsPre + total)) lwsPre msgType flags serial compress
          cmdId sessionId sidLen compressed includeSession with
      | .error e => (.error e, heap)
      | .ok buf => (.ok (buf, total), heap.freeOption copy)

end

/-! ### The layout -/

/-- **The writer.** Behind a front that is there already, the message of the
request is written. -/
theorem writeCommand_request (c : Command) (compression : Fin 16) (includeSession : Bool)
    (message : Bytes) {buf front : Bytes} (hfront : front <+: buf)
    (hmessage : message = [nibbles 1 1, nibbles c.msgType c.flags,
      nibbles c.serial compression, 0] ++ (beBytes c.cmdId ++ (c.sessionField includeSession ++
        ServerMessage.counted c.payload)))
    (hbuf : buf.length = front.length + message.length) :
    writeCommand buf front.length (nibble c.msgType) (nibble c.flags) (nibble c.serial)
        (nibble compression) c.cmdId (some c.sessionId) c.sessionId.strlen c.payload
        includeSession = .ok (front ++ message) := by
  have htotal : message.length =
      4 + (4 + ((c.sessionField includeSession).length + (4 + c.payload.length))) := by
    rw [hmessage]
    simp only [List.length_append, length_counted, length_beBytes, List.length_cons,
      List.length_nil]
  have hheader : protocolGenerateHeader buf front.length 4 (nibble c.msgType) (nibble c.flags)
      (nibble c.serial) (nibble compression) = memcpy buf front.length
        [nibbles 1 1, nibbles c.msgType c.flags, nibbles c.serial compression, 0] := by
    rw [protocolGenerateHeader, if_neg (by decide), nibble_shiftLeft_or, nibble_shiftLeft_or]
    rfl
  -- each field is written behind the fields before it, into a buffer that keeps its size
  obtain ⟨b₁, h₁, hpre₁, hlen₁⟩ := memcpy_extend
    [nibbles 1 1, nibbles c.msgType c.flags, nibbles c.serial compression, 0] hfront
    (by simp only [List.length_cons, List.length_nil]; omega)
  obtain ⟨b₂, h₂, hpre₂, hlen₂⟩ := memcpy_extend (beBytes c.cmdId) hpre₁
    (by simp only [List.length_append, List.length_cons, List.length_nil, length_beBytes]; omega)
  obtain ⟨b₃, h₃, hpre₃, hlen₃⟩ := writeSession_extend c includeSession hpre₂
    (by simp only [List.length_append, List.length_cons, List.length_nil, length_beBytes]; omega)
  obtain ⟨b₄, h₄, hpre₄, hlen₄⟩ := writeCounted_extend c.payload hpre₃
    (by simp only [List.length_append, List.length_cons, List.length_nil, length_beBytes]; omega)
  -- the whole buffer has been written
  have hfull : b₄ = front ++ message := by
    have hwritten : front ++ [nibbles 1 1, nibbles c.msgType c.flags,
        nibbles c.serial compression, 0] ++ beBytes c.cmdId ++ c.sessionField includeSession ++
          ServerMessage.counted c.payload = front ++ message := by
      rw [hmessage]
      simp only [List.append_assoc]
    rw [hwritten] at hpre₄
    exact (hpre₄.eq_of_length (by rw [List.length_append]; omega)).symm
  rw [hfull] at h₄
  rw [List.length_append] at h₂ h₃
  rw [List.length_append, length_beBytes] at h₃
  unfold writeCommand
  rw [hheader]
  refine (bind_ok h₁).trans ?_
  refine (bind_ok h₂).trans ?_
  exact (bind_ok h₃).trans h₄

/-! ### The calls -/

/-- What a `client_*` call sends. -/
inductive ClientRequest where
  | startConnection
  | startSession
  | sayHello
  | taskRequest (audio : Bytes)
  | chatTextQuery (content : CString)
  | finishSession
  | finishConnection

/-- The part of `doubao_client_t` that requests are made of. -/
structure ClientSession where
  sessionId : CString
  settings : SessionSettings
  /-- `char session_id[128]`. -/
  sid_fits : sessionId.strlen ≤ 127

/-- A full request in JSON, compressed. -/
def jsonCommand (cmdId : UInt32) (payload : Bytes) (includeSession : Bool) : CommandArgs where
  msgType := msgClientFullRequest
  flags := flagMsgWithEvent
  serial := serialJson
  compress := compressGzip
  cmdId := cmdId
  payload := payload
  includeSession := includeSession

/-- `client_start_connection`. -/
def clientStartConnection : CommandArgs := jsonCommand 1 emptyPayload false

/-- The payload of `client_say_hello`. -/
def helloPayload : Bytes :=
  utf8 "\x7b\"content\":\"你好，我是豆包，有什么可以帮助你的？\"\x7d".toList

/-- `client_say_hello`. -/
def clientSayHello : CommandArgs := jsonCommand 300 helloPayload true

/-- `client_finish_session`. -/
def clientFinishSession : CommandArgs := jsonCommand 102 emptyPayload true

/-- `client_finish_connection`. -/
def clientFinishConnection : CommandArgs := jsonCommand 2 emptyPayload false

namespace ClientSession

variable (c : ClientSession)

/-- `client_start_session`. -/
def clientStartSession : CommandArgs := jsonCommand 100 c.settings.buildStartSessionJson.chars true

/-- `client->use_opus_input`. -/
def useOpusInput : Bool := c.settings.asrAudioFormat.strlen > 0

/-- `client_task_request`. -/
def clientTaskRequest (audio : Bytes) : CommandArgs where
  msgType := msgClientAudioOnly
  flags := flagMsgWithEvent
  serial := serialNone
  compress := if c.useOpusInput then compressNone else compressGzip
  cmdId := 200
  payload := audio
  includeSession := true

/-- What a call asks `build_command` for. -/
def args : ClientRequest → CommandArgs
  | .startConnection => clientStartConnection
  | .startSession => c.clientStartSession
  | .sayHello => clientSayHello
  | .taskRequest audio => c.clientTaskRequest audio
  | .chatTextQuery content => clientChatTextQuery content
  | .finishSession => clientFinishSession
  | .finishConnection => clientFinishConnection

/-- The message a call builds. -/
def build (z : Deflater) (lwsPre : ℕ) (fresh : ℕ → UInt8) (heap : Heap) (r : ClientRequest) :
    Except Stop (Bytes × ℕ) × Heap :=
  buildCommand z lwsPre fresh heap (c.args r).msgType (c.args r).flags (c.args r).serial
    (c.args r).compress (c.args r).cmdId
    (if (c.args r).includeSession then some c.sessionId else none) (some (c.args r).payload)
    (c.args r).includeSession

/-- The compression of a call. -/
def compression : ClientRequest → Fin 16
  | .taskRequest _ => if c.useOpusInput then 0 else 1
  | _ => 1

/-- What a call is for. -/
def intent : ClientRequest → Intent
  | .startConnection => .ofConnection 1 emptyPayload
  | .startSession =>
    .inSession 1 1 100 c.sessionId.chars c.settings.buildStartSessionJson.chars
  | .sayHello => .inSession 1 1 300 c.sessionId.chars helloPayload
  | .taskRequest audio => .inSession 2 0 200 c.sessionId.chars audio
  | .chatTextQuery content =>
    .inSession 1 1 501 c.sessionId.chars (clientChatTextQuery content).payload
  | .finishSession => .inSession 1 1 102 c.sessionId.chars emptyPayload
  | .finishConnection => .ofConnection 2 emptyPayload

theorem build_eq (z : Deflater) (lwsPre : ℕ) (fresh : ℕ → UInt8) (heap : Heap)
    (r : ClientRequest) : c.build z lwsPre fresh heap r =
      buildCommand z lwsPre fresh heap (nibble (c.intent r).messageType) (nibble 4)
        (nibble (c.intent r).serial) (nibble (c.compression r)) (c.intent r).event
        (if (c.intent r).sessionId.isSome then some c.sessionId else none)
        (some (c.intent r).content) (c.intent r).sessionId.isSome := by
  cases r with
  | taskRequest audio =>
    simp only [build, args, clientTaskRequest, compression]
    split <;> rfl
  | startConnection | startSession | sayHello | chatTextQuery | finishSession
  | finishConnection => rfl

/-- An audio request carries a chunk that has been read. -/
def HasAudio (r : ClientRequest) : Prop :=
  ∀ audio, r = .taskRequest audio → audio ≠ [] ∧ audio.length < 4294967296

end ClientSession

theorem strlen_snprintf_le (size : ℕ) (formatted : Bytes) :
    (snprintf size formatted).strlen ≤ size - 1 :=
  (List.takeWhile_prefix _).length_le.trans (List.length_take_le _ _)

/-- A format that begins with a byte other than zero leaves a string. -/
theorem snprintf_ne_nil {size : ℕ} {b : UInt8} {formatted : Bytes} (hsize : 2 ≤ size)
    (hb : b ≠ 0) : (snprintf size (b :: formatted)).chars ≠ [] := by
  obtain ⟨n, rfl⟩ : ∃ n, size = n + 2 := ⟨size - 2, by omega⟩
  unfold snprintf CString.ofBytes
  show ((b :: formatted).take (n + 1)).takeWhile (fun x => decide (x ≠ 0)) ≠ []
  rw [List.take_succ_cons, List.takeWhile_cons, if_pos (decide_eq_true hb)]
  exact List.cons_ne_nil _ _

namespace ClientSession

variable (c : ClientSession)

theorem content_bounds {r : ClientRequest} (haudio : HasAudio r) :
    (c.intent r).content ≠ [] ∧ (c.intent r).content.length < 4294967296 := by
  have hempty : emptyPayload ≠ [] ∧ emptyPayload.length < 4294967296 := by decide
  cases r with
  | startConnection | finishConnection | finishSession => exact hempty
  | sayHello =>
    have hhello : helloPayload ≠ [] ∧ helloPayload.length < 4294967296 := by decide
    exact hhello
  | taskRequest audio => exact haudio audio rfl
  | startSession =>
    refine ⟨snprintf_ne_nil (b := 123) (by decide) (by decide), ?_⟩
    exact Nat.lt_of_le_of_lt (strlen_snprintf_le _ _) (by decide)
  | chatTextQuery content =>
    refine ⟨snprintf_ne_nil (b := 123) (by decide) (by decide), ?_⟩
    exact Nat.lt_of_le_of_lt (strlen_snprintf_le _ _) (by decide)

/-! ### What the messages say -/

section

variable {z : Deflater} {gunzip : Bytes → Option Bytes} {heap heap' : Heap} {bytes : Bytes}

theorem gzipCompress_ok (hz : z.Lawful gunzip) (hlen : bytes.length < 4294967296) {out : Bytes}
    (h : gzipCompress z heap bytes = (.ok out, heap')) :
    gunzip out = some bytes ∧ out.length < 4294967296 := by
  unfold gzipCompress at h
  split at h
  · cases h
  · rw [uInt_of_lt hlen, List.take_length] at h
    split at h
    next out' hdeflate =>
      cases h
      -- the stream fits the bound that zlib was given, a `uInt`
      have hroom := hz.length_le hdeflate
      exact ⟨hz.decodes hdeflate, Nat.lt_of_le_of_lt hroom (Nat.mod_lt _ (by decide))⟩
    next => cases h

/-- The payload is sent as it is or as a stream that decodes to it. -/
theorem compressForSending_ok (hz : z.Lawful gunzip) (hne : bytes ≠ [])
    (hlen : bytes.length < 4294967296) {compression : Fin 16} {copy : Option Bytes}
    (h : compressForSending z heap (nibble compression) (some bytes) = (.ok copy, heap')) :
    (copy.getD []).length < 4294967296 ∧
      if nibble compression = compressGzip then gunzip (copy.getD []) = some bytes
      else copy.getD [] = bytes := by
  -- an empty payload would be announced as compressed and not be
  have hpos : bytes.length > 0 := List.length_pos_of_ne_nil hne
  unfold compressForSending at h
  simp only [hpos, and_true, if_true] at h
  split at h
  next hgzip =>
    rw [if_pos hgzip]
    split at h
    next out heap'' hcompress =>
      cases h
      exact (gzipCompress_ok hz hlen hcompress).symm
    next => cases h
  next hnone =>
    rw [if_neg hnone]
    split at h
    next =>
      cases h
      exact ⟨hlen, rfl⟩
    next => cases h

/-- The command of a request. -/
def commandOf (i : Intent) (sid : CString) (compressed : Bytes) : Command :=
  ⟨i.messageType, 4, i.serial, i.event, sid, compressed⟩

theorem writeCommand_noSession (buf : Bytes) (p : ℕ) (msgType flags serial compress : UInt8)
    (cmdId : UInt32) (sid : CString) (compressed : Bytes) (includeSession : Bool) :
    writeCommand buf p msgType flags serial compress cmdId
        (if includeSession then some sid else none)
        ((if includeSession then some sid else none).elim 0 CString.strlen) compressed
        includeSession =
      writeCommand buf p msgType flags serial compress cmdId (some sid) sid.strlen compressed
        includeSession := by
  cases includeSession <;> rfl

/-- `build_command`, for any request that is not empty. -/
theorem buildCommand_meaning (hz : z.Lawful gunzip) {i : Intent} (hfits : i.Fits) (sid : CString)
    (hsid : i.sessionId = none ∨ i.sessionId = some sid.chars) (compression : Fin 16)
    (hcompression : compression = 0 ∨ compression = 1) (hne : i.content ≠ [])
    (hlen : i.content.length < 4294967296) {lwsPre : ℕ} {fresh : ℕ → UInt8} {buf : Bytes} {n : ℕ}
    (hbuild : (buildCommand z lwsPre fresh heap (nibble i.messageType) (nibble 4)
      (nibble i.serial) (nibble compression) i.event
      (if i.sessionId.isSome then some sid else none) (some i.content) i.sessionId.isSome).1 =
        .ok (buf, n)) :
    buf.length = lwsPre + n ∧ meaning gunzip ((buf.drop lwsPre).take n) = some i := by
  unfold buildCommand at hbuild
  split at hbuild
  next => cases hbuild
  next copy heap' hcopy =>
    obtain ⟨hshort, hdecodes⟩ := compressForSending_ok hz hne hlen hcopy
    generalize hcompressed : copy.getD [] = compressed at hbuild hshort hdecodes
    simp only at hbuild
    split at hbuild
    next => cases hbuild
    next heap'' _ =>
      rw [writeCommand_noSession] at hbuild
      -- the message of the request, behind what the buffer begins with
      have hfield : (commandOf i sid compressed).sessionField i.sessionId.isSome =
          i.sessionId.elim [] ServerMessage.counted := by
        obtain h | h := hsid <;> rw [h] <;> rfl
      generalize htotal : (if i.sessionId.isSome then 4 + 4 + (4 +
        (if i.sessionId.isSome then some sid else none).elim 0 CString.strlen) else 4 + 4) +
          (4 + compressed.length) = total at hbuild
      have hlength : total = (i.request compression compressed).layout.length := by
        rw [Request.length_layout, ← htotal, Intent.request]
        obtain h | h := hsid <;> rw [h]
        · rfl
        · rfl
      have hfront : ((newBuffer fresh (lwsPre + total)).take lwsPre).length = lwsPre := by
        rw [List.length_take, length_newBuffer]
        omega
      have hwrite := writeCommand_request (commandOf i sid compressed) compression
        i.sessionId.isSome (i.request compression compressed).layout
        (List.take_prefix lwsPre (newBuffer fresh (lwsPre + total))) (by rw [hfield]; rfl)
        (by rw [length_newBuffer, hfront, hlength])
      rw [hfront] at hwrite
      simp only [commandOf] at hwrite
      rw [hwrite] at hbuild
      obtain ⟨rfl, rfl⟩ := Prod.mk.inj (Except.ok.inj hbuild)
      refine ⟨by rw [List.length_append, hfront, hlength], ?_⟩
      rw [List.drop_left' hfront, hlength, List.take_length]
      refine Intent.meaning_layout hfits hshort compression ?_
      -- what is announced is what has been done with the payload
      obtain rfl | rfl := hcompression
      · rw [if_neg (by decide)] at hdecodes
        rw [hdecodes]
        rfl
      · rw [if_pos (by decide)] at hdecodes
        exact hdecodes

/-- **What the desktop client says.** The message of a call, if it is built,
says what the call is for; it is behind the room for libwebsockets. -/
theorem clientRequest_meaning (hz : z.Lawful gunzip) (lwsPre : ℕ) (fresh : ℕ → UInt8)
    {r : ClientRequest} (haudio : HasAudio r) {buf : Bytes} {n : ℕ}
    (hbuild : (c.build z lwsPre fresh heap r).1 = .ok (buf, n)) :
    buf.length = lwsPre + n ∧ meaning gunzip ((buf.drop lwsPre).take n) = some (c.intent r) := by
  obtain ⟨hne, hlen⟩ := c.content_bounds haudio
  have hsid : (c.intent r).sessionId = none ∨ (c.intent r).sessionId = some c.sessionId.chars := by
    cases r with
    | startConnection | finishConnection => exact .inl rfl
    | startSession | sayHello | taskRequest | chatTextQuery | finishSession => exact .inr rfl
  have hfits : (c.intent r).Fits := by
    have hshort : c.sessionId.chars.length < 4294967296 :=
      Nat.lt_of_le_of_lt c.sid_fits (by decide)
    cases r with
    | startConnection | finishConnection => exact Intent.fits_ofConnection (by decide)
    | startSession | sayHello | taskRequest | chatTextQuery | finishSession =>
      exact Intent.fits_inSession (by decide) hshort
  have hcompression : c.compression r = 0 ∨ c.compression r = 1 := by
    cases r with
    | taskRequest audio =>
      show (if c.useOpusInput then 0 else 1) = 0 ∨ (if c.useOpusInput then 0 else 1) = 1
      cases c.useOpusInput with
      | true => exact .inl rfl
      | false => exact .inr rfl
    | startConnection | startSession | sayHello | chatTextQuery | finishSession
    | finishConnection => exact .inr rfl
  rw [build_eq] at hbuild
  exact buildCommand_meaning hz hfits c.sessionId hsid _ hcompression hne hlen hbuild

end

/-! ### Two bytes from a file -/

/-- zlib on the text `hi`. -/
def greetingDeflater : Deflater where
  compressBound := fun n => n + n / 4096 + n / 16384 + n / 33554432 + 13
  deflate := fun data room =>
    if data = greeting ∧ greetingStream.length ≤ room then some greetingStream else none

/-- gzip on its stream. -/
def greetingGunzip (stream : Bytes) : Option Bytes :=
  if stream = greetingStream then some greeting else none

theorem greetingDeflater_lawful : greetingDeflater.Lawful greetingGunzip where
  length_le := by
    intro data room out h
    obtain ⟨hroom, hout⟩ := Option.ite_none_right_eq_some.mp h
    cases hout
    exact hroom.2
  decodes := by
    intro data room out h
    obtain ⟨hroom, hout⟩ := Option.ite_none_right_eq_some.mp h
    cases hout
    rw [hroom.1]
    exact if_pos rfl

/-- The session `s1` over a file. -/
def fileSession : ClientSession where
  sessionId := WsSession.sample.sessionId
  settings := {
    SessionSettings.withMod (literal "audio_file" (by decide)) (by decide) with
    asrAudioFormat := literal "" (by decide)
    asr_fits := by decide }
  sid_fits := WsSession.sample.sid_fits.trans (by decide)

theorem clientRequest_meaning_file :
    ∃ buf n, (fileSession.build greetingDeflater 16 (fun _ => 0) Heap.unlimited
        (.taskRequest greeting)).1 = .ok (buf, n) ∧ buf.length = 16 + n ∧
      meaning greetingGunzip ((buf.drop 16).take n) =
        some (.inSession 2 0 200 [115, 49] greeting) := by
  have hok : ((fileSession.build greetingDeflater 16 (fun _ => 0) Heap.unlimited
      (.taskRequest greeting)).1.toOption).isSome := by decide +kernel
  cases hbuild : (fileSession.build greetingDeflater 16 (fun _ => 0) Heap.unlimited
      (.taskRequest greeting)).1 with
  | error e =>
    rw [hbuild] at hok
    cases hok
  | ok message =>
    have haudio : HasAudio (.taskRequest greeting) := by
      rintro audio h
      obtain rfl := ClientRequest.taskRequest.inj h
      decide
    exact ⟨message.1, message.2, rfl,
      fileSession.clientRequest_meaning greetingDeflater_lawful 16 (fun _ => 0) haudio hbuild⟩

end ClientSession

end Desktop

end BoxDoubao
