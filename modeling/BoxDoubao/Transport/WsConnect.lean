import BoxDoubao.Transport.WsStream
import BoxDoubao.Lib.CSearch
import Mathlib.Data.PNat.Notation

/-!
# The opening handshake

`ws_connect` sends the upgrade request, reads the response into the connection
buffer until the empty line has come, walks over its header lines, and keeps
what has been read beyond the empty line for the first calls of `ws_read`.

The base64 and SHA-1 functions of the platform are parameters (`Crypto`), and
so are the answers of the parent's `connect` and of `getrandom` for the client's
key. An application may ask for a copy of the response header; the copy itself
is left out, but a copy too short for the header also bounds the walk over it
(`headerLen`). The header hook is left out.
-/

namespace TcpTransport

open CMemory WebSocket

/-- The characters of a string. -/
def ascii (s : String) : Bytes := s.toList.map fun c => UInt8.ofNat c.toNat

def crlf : Bytes := [13, 10]

/-- The end of a response header. -/
def delimiter : Bytes := [13, 10, 13, 10]

def wsBufferSize : ℕ := 4096

/-- What `esp_transport_ws_set_config` has stored for the handshake. -/
structure HandshakeConfig where
  path : Bytes
  subProtocol : Option Bytes
  userAgent : Option Bytes
  headers : Option Bytes
  auth : Option Bytes
  /-- `response_header_len`, where a copy of the header was asked for. The setter
  refuses zero. -/
  responseHeaderLen : Option ℕ+

/-- `esp_crypto_base64_encode` and `esp_crypto_sha1`. -/
structure Crypto where
  base64 : Bytes → Bytes
  sha1 : Bytes → Bytes

/-! ### The request -/

/-- One `snprintf` after `written` bytes in the buffer, which must leave room for
its end. -/
def snprintfAppend (written piece : Bytes) : Option Bytes :=
  if piece.length = 0 ∨ wsBufferSize ≤ (written ++ piece).length then none
  else some (written ++ piece)

def snprintfOptional (written : Bytes) (name : String) (value : Option Bytes) (eol : Bytes) :
    Option Bytes :=
  match value with
  | none => some written
  | some value => snprintfAppend written (ascii name ++ value ++ eol)

/-- The request, unless it does not fit the buffer. -/
def upgradeRequest (config : HandshakeConfig) (host : Bytes) (port : ℕ) (clientKey : Bytes) :
    Option Bytes := do
  let request ← snprintfAppend []
    (ascii "GET " ++ config.path ++ ascii " HTTP/1.1" ++ crlf ++
      ascii "Connection: Upgrade" ++ crlf ++
      ascii "Host: " ++ host ++ ascii ":" ++ ascii (toString port) ++ crlf ++
      ascii "User-Agent: " ++ config.userAgent.getD (ascii "ESP32 Websocket Client") ++ crlf ++
      ascii "Upgrade: websocket" ++ crlf ++
      ascii "Sec-WebSocket-Version: 13" ++ crlf ++
      ascii "Sec-WebSocket-Key: " ++ clientKey ++ crlf)
  let request ← snprintfOptional request "Sec-WebSocket-Protocol: " config.subProtocol crlf
  let request ← snprintfOptional request "Authorization: " config.auth crlf
  let request ← snprintfOptional request "" config.headers []
  snprintfAppend request crlf

/-! ### The response -/

/-- The loop that reads the response, with `got` in the buffer. A read gives at
least one byte, so the size of the buffer bounds the turns. -/
def readResponse : ℕ → Inbound → Bytes → Option (Bytes × Inbound)
  | 0, _, _ => none
  | turns + 1, inbound, got =>
    match inbound.read (wsBufferSize - 1 - got.length) with
    | (len, bytes, inbound) =>
      if len ≤ 0 then none
      else if find delimiter (cstr (got ++ bytes)) = none ∧
          (got ++ bytes).length < wsBufferSize - 1 then
        readResponse turns inbound (got ++ bytes)
      else some (got ++ bytes, inbound)

/-- `tolower` on a byte. -/
def toLower (b : UInt8) : UInt8 := if 65 ≤ b ∧ b ≤ 90 then b + 32 else b

/-- `strncasecmp(text, name, strlen(name)) == 0`. -/
def startsNoCase (name text : Bytes) : Bool :=
  (name.map toLower).isPrefixOf (text.map toLower)

def isDigit (b : UInt8) : Bool := 48 ≤ b && b ≤ 57

def isSpace (b : UInt8) : Bool := b == 32 || (9 ≤ b && b ≤ 13)

/-- The digits at the start of a text. -/
def digitsValue (text : Bytes) : ℤ :=
  (text.takeWhile isDigit).foldl (fun n b => 10 * n + (b.toNat - 48 : ℕ)) 0

/-- `atoi`. -/
def atoi (text : Bytes) : ℤ :=
  match text.dropWhile isSpace with
  | 43 :: rest => digitsValue rest
  | 45 :: rest => -digitsValue rest
  | rest => digitsValue rest

/-- `get_http_status_code`. -/
def getHttpStatusCode (text : Bytes) : ℤ :=
  match find (ascii "http/") (text.map toLower) with
  | none => -1
  | some i =>
    match find [32] (text.drop (i + 5)) with
    | none => -1
    | some j =>
      let code := atoi ((text.drop (i + 5 + j + 1)).take 3)
      if code = 0 then -1 else code

/-- What the walk over the header lines has found. -/
structure Found where
  serverKey : Option Bytes
  location : Option Bytes

/-- One header line. -/
def headerLine (line : Bytes) (found : Found) : Option Found :=
  let located (found : Found) : Found :=
    if startsNoCase (ascii "Location: ") line then { found with location := some (line.drop 10) }
    else found
  if startsNoCase (ascii "Sec-WebSocket-Accept: ") line then
    -- the header must not appear more than once
    if found.serverKey.isSome then none
    else some (located { found with serverKey := some (line.drop 22) })
  else some (located found)

/-- The walk over the header lines from `cursor` on, in the first `headerLen`
bytes. A line takes at least two bytes, so the length of the text bounds the
turns. -/
def walkHeader (text : Bytes) (headerLen delim : ℕ) : ℕ → ℕ → Found → Option Found
  | 0, _, _ => none
  | turns + 1, cursor, found =>
    if cursor < delim then
      match findWithin crlf (text.drop cursor) (headerLen - cursor) with
      | none => none
      -- the empty line
      | some 0 => some found
      | some lineLen =>
        match headerLine ((text.drop cursor).take lineLen) found with
        | none => none
        | some found => walkHeader text headerLen delim turns (cursor + lineLen + 2) found
    else some found

/-- `header_len` behind the copy of the header. -/
def headerLen (config : HandshakeConfig) (gotLen : ℕ) : ℕ :=
  match config.responseHeaderLen with
  | none => gotLen
  | some n => if (n : ℕ) - 1 < gotLen then n else gotLen

def isRedirect (code : ℤ) : Bool :=
  code == 301 || code == 302 || code == 303 || code == 307 || code == 308

/-- How `ws_connect` ends. -/
inductive Connection where
  /-- `-1`. -/
  | failed
  /-- The status code, with the host to go to. -/
  | redirected (code : ℤ) (host : Bytes)
  /-- `0`. -/
  | connected (ws : TransportWs)

/-- The server's key for a client's. -/
def expectedServerKey (crypto : Crypto) (clientKey : Bytes) : Bytes :=
  crypto.base64 (crypto.sha1 (clientKey ++ ascii "258EAFA5-E914-47DA-95CA-C5AB0DC85B11"))

/-- The part of `ws_connect` behind the reading of the response: `got` is in the
buffer, and `expected` is the key the server must give. -/
def acceptResponse (config : HandshakeConfig) (ws : TransportWs) (expected got : Bytes) :
    Connection :=
  if wsBufferSize - 1 ≤ got.length then .failed
  else
    let text := cstr got
    let len := headerLen config got.length
    match find delimiter text, findWithin crlf text len with
    | some delim, some firstLine =>
      if getHttpStatusCode text = -1 then .failed
      else
        match walkHeader text len delim (text.length + 1) (firstLine + 2) ⟨none, none⟩ with
        | none => .failed
        | some found =>
          if isRedirect (getHttpStatusCode text) then
            -- a redirection is followed by the application
            match found.location with
            | none => .failed
            | some location =>
              if location.length = 0 then .failed
              else .redirected (getHttpStatusCode text) location
          else
            match found.serverKey with
            | none => .failed
            | some serverKey =>
              -- as far as the server's key goes
              if strncmpEq expected serverKey serverKey.length then
                .connected { ws with buffer := got.drop (delim + 4) }
              else .failed
    | _, _ => .failed

/-- `ws_connect`, where `connectRet` is what the parent's `connect` returns and
`randomKey` what `getrandom` gives. -/
def wsConnect (crypto : Crypto) (config : HandshakeConfig) (connectRet : ℤ)
    (randomKey : Option Bytes) (host : Bytes) (port : ℕ) (ws : TransportWs) : Connection :=
  if connectRet < 0 then .failed
  else
    match randomKey with
    | none => .failed
    | some key =>
      match upgradeRequest config host port (crypto.base64 key) with
      | none => .failed
      | some request =>
        match ws.parentWrite request with
        | (written, ws) =>
          if written ≤ 0 then .failed
          else
            match readResponse wsBufferSize ws.inbound [] with
            | none => .failed
            | some (got, inbound) =>
              acceptResponse config { ws with inbound := inbound }
                (expectedServerKey crypto (crypto.base64 key)) got

/-! ### Nothing of the stream is lost -/

/-- What the loop has read is the front of the stream. -/
theorem readResponse_stream {turns : ℕ} {inbound inbound' : Inbound} {got got' : Bytes}
    (h : readResponse turns inbound got = some (got', inbound')) :
    got ++ inbound.incoming = got' ++ inbound'.incoming ∧
      (inbound.reads.All (0 < ·) → inbound'.reads.All (0 < ·)) ∧
      inbound'.pollReads = inbound.pollReads := by
  induction turns generalizing inbound got with
  | zero => cases h
  | succ turns ih =>
    -- one read moves bytes from the stream behind those that were got before
    have hsplit : got ++ inbound.incoming =
        (got ++ (inbound.read (wsBufferSize - 1 - got.length)).2.1) ++
          (inbound.read (wsBufferSize - 1 - got.length)).2.2.incoming := by
      rw [List.append_assoc]
      exact congrArg (got ++ ·) (List.take_append_drop _ _).symm
    have hflows : inbound.reads.All (0 < ·) →
        (inbound.read (wsBufferSize - 1 - got.length)).2.2.reads.All (0 < ·) :=
      fun h n => h (n + 1)
    rw [readResponse] at h
    cases hread : inbound.read (wsBufferSize - 1 - got.length) with
    | mk len out =>
      obtain ⟨bytes, inbound₁⟩ := out
      have hpolls : inbound₁.pollReads = inbound.pollReads := by
        rw [show inbound₁ = (inbound.read (wsBufferSize - 1 - got.length)).2.2 by rw [hread]]
        rfl
      rw [hread] at h hsplit hflows
      obtain ⟨-, h⟩ := Option.ite_none_left_eq_some.mp h
      split at h
      · obtain ⟨hstream, hflows', hpolls'⟩ := ih h
        exact ⟨hsplit.trans hstream, hflows' ∘ hflows, hpolls'.trans hpolls⟩
      · obtain ⟨rfl, rfl⟩ := Prod.mk.inj (Option.some.inj h)
        exact ⟨hsplit, hflows, hpolls⟩

/-- A connection that is accepted keeps what stands behind the empty line. -/
theorem acceptResponse_connected {config : HandshakeConfig} {ws ws' : TransportWs}
    {expected got : Bytes} (h : acceptResponse config ws expected got = .connected ws') :
    ∃ delim, find delimiter (cstr got) = some delim ∧
      ws' = { ws with buffer := got.drop (delim + 4) } := by
  unfold acceptResponse at h
  split at h
  · cases h
  · simp only at h
    split at h
    next delim firstLine hdelim hfirst =>
      refine ⟨delim, hdelim, ?_⟩
      split at h
      · cases h
      · split at h
        · cases h
        · split at h
          · split at h
            · cases h
            · split at h <;> cases h
          · split at h
            · cases h
            · split at h
              · exact (Connection.connected.inj h).symm
              · cases h
    · cases h

/-- The steps of a handshake that succeeds. -/
theorem wsConnect_connected_inv {crypto : Crypto} {config : HandshakeConfig} {connectRet : ℤ}
    {randomKey : Option Bytes} {host : Bytes} {port : ℕ} {ws ws' : TransportWs}
    (h : wsConnect crypto config connectRet randomKey host port ws = .connected ws') :
    ∃ expected request got inbound,
      readResponse wsBufferSize (ws.parentWrite request).2.inbound [] = some (got, inbound) ∧
      acceptResponse config { (ws.parentWrite request).2 with inbound := inbound } expected got =
        .connected ws' := by
  unfold wsConnect at h
  split at h
  · cases h
  · split at h
    · cases h
    · split at h
      · cases h
      next key _ request hrequest =>
        simp only at h
        split at h
        · cases h
        · cases hread : readResponse wsBufferSize (ws.parentWrite request).2.inbound [] with
          | none =>
            rw [hread] at h
            cases h
          | some out =>
            rw [hread] at h
            exact ⟨_, request, out.1, out.2, hread, h⟩

/-- **Nothing is lost between the handshake and the frames.** A handshake that
succeeds has consumed the stream up to and including the first empty line, and
everything behind it is still to be read. The state of the last frame is kept
as well. -/
theorem wsConnect_connected {crypto : Crypto} {config : HandshakeConfig} {connectRet : ℤ}
    {randomKey : Option Bytes} {host : Bytes} {port : ℕ} {ws ws' : TransportWs}
    (h : wsConnect crypto config connectRet randomKey host port ws = .connected ws') :
    ∃ head, ws.inbound.incoming = head ++ ws'.pending ∧
      find delimiter (cstr head) = some (head.length - 4) ∧ 4 ≤ head.length ∧
      ws'.frameState = ws.frameState ∧ ws'.inbound.pollReads = ws.inbound.pollReads ∧
      ws.Keeps ws' := by
  obtain ⟨expected, request, got, inbound, hread, haccept⟩ := wsConnect_connected_inv h
  obtain ⟨hstream, hflows, hpolls⟩ := readResponse_stream hread
  obtain ⟨delim, hdelim, rfl⟩ := acceptResponse_connected haccept
  rw [List.nil_append] at hstream
  -- the empty line was found before the first zero byte, and `got` may go on
  have hfits : delim + 4 ≤ (cstr got).length := find_le hdelim
  have hlen : (got.take (delim + 4)).length = delim + 4 :=
    List.length_take_of_le (hfits.trans (cstr_isPrefix got).length_le)
  refine ⟨got.take (delim + 4), ?_, ?_, by omega, rfl, hpolls, ⟨hflows, fun hpoll => ?_, rfl⟩⟩
  · change _ = _ ++ (got.drop (delim + 4) ++ inbound.incoming)
    rw [← List.append_assoc, List.take_append_drop]
    exact hstream
  · rw [cstr_take hfits, hlen, Nat.add_sub_cancel]
    have hinside : got.take (delim + 4) <+: cstr got :=
      List.prefix_of_prefix_length_le (List.take_prefix _ got) (cstr_isPrefix got) (by omega)
    exact find_isPrefix hinside hdelim hlen.ge
  · change inbound.pollReads.All (0 < ·)
    rw [hpolls]
    exact hpoll

end TcpTransport
