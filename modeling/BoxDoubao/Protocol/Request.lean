import BoxDoubao.Protocol.Acceptance

/-!
# What a request says

A request is a header of four bytes, the event, the session id with its length
unless the event concerns the connection, and the payload with its length.
`Request.decode` reads a message in this format and accepts nothing else;
`decode_layout` is the round trip. `meaning` also undoes the compression that
the header announces, so messages of clients that compress differently can be
compared.
-/

namespace BoxDoubao

open CMemory

/-- The fields of a request. -/
structure Request where
  messageType : Fin 16
  serial : Fin 16
  compression : Fin 16
  event : UInt32
  sessionId : Option Bytes
  payload : Bytes
  deriving DecidableEq

/-- StartConnection and FinishConnection, which carry no session id. -/
def OfConnection (event : UInt32) : Prop := event = 1 ∨ event = 2

instance (event : UInt32) : Decidable (OfConnection event) :=
  inferInstanceAs (Decidable (event = 1 ∨ event = 2))

theorem hiNibble_nibbles : ∀ hi lo : Fin 16, hiNibble (nibbles hi lo) = hi := by
  decide +kernel

theorem loNibble_nibbles : ∀ hi lo : Fin 16, loNibble (nibbles hi lo) = lo := by
  decide +kernel

/-- The bytes behind a length, and what follows them. -/
def takeCounted : Bytes → Option (Bytes × Bytes)
  | a :: b :: c :: d :: rest =>
    if rest.length < (ofBe a b c d).toNat then none
    else some (rest.take (ofBe a b c d).toNat, rest.drop (ofBe a b c d).toNat)
  | _ => none

/-- The length need not be that of `bytes`, as long as there are so many bytes. -/
theorem takeCounted_word {n : ℕ} {rest : Bytes} (hn : n < 4294967296) (hrest : n ≤ rest.length) :
    takeCounted (beBytes (UInt32.ofNat n) ++ rest) = some (rest.take n, rest.drop n) := by
  show (if rest.length < (ofBe _ _ _ _).toNat then none else some (_, _)) = _
  rw [ofBe_beBytes, UInt32.toNat_ofNat_of_lt' hn, if_neg (by show ¬ rest.length < n; omega)]
  rfl

theorem takeCounted_counted {bytes : Bytes} (hlen : bytes.length < 4294967296) (rest : Bytes) :
    takeCounted (ServerMessage.counted bytes ++ rest) = some (bytes, rest) := by
  rw [ServerMessage.counted, List.append_assoc, takeCounted_word hlen (by simp),
    List.take_left, List.drop_left]

namespace Request

/-- The request with its last field read; nothing may follow. -/
def readPayload (r : Request) (l : Bytes) : Option Request := do
  let (payload, rest) ← takeCounted l
  if rest = [] then some { r with payload := payload } else none

/-- What is read behind the event. -/
def readFields (r : Request) (l : Bytes) : Option Request :=
  if OfConnection r.event then r.readPayload l
  else do
    let (sid, rest) ← takeCounted l
    { r with sessionId := some sid }.readPayload rest

/-- The request in a message. -/
def decode : Bytes → Option Request
  | b0 :: b1 :: b2 :: b3 :: e0 :: e1 :: e2 :: e3 :: rest =>
    if b0 = nibbles 1 1 ∧ loNibble b1 = 4 ∧ b3 = 0 then
      readFields ⟨hiNibble b1, hiNibble b2, loNibble b2, ofBe e0 e1 e2 e3, none, []⟩ rest
    else none
  | _ => none

/-- The message of a request. -/
def layout (r : Request) : Bytes :=
  [nibbles 1 1, nibbles r.messageType 4, nibbles r.serial r.compression, 0] ++
    (beBytes r.event ++ (r.sessionId.elim [] ServerMessage.counted ++
      ServerMessage.counted r.payload))

theorem length_layout (r : Request) : r.layout.length =
    8 + r.sessionId.elim 0 (fun sid => 4 + sid.length) + (4 + r.payload.length) := by
  obtain ⟨messageType, serial, compression, event, sessionId, payload⟩ := r
  cases sessionId <;>
    simp only [layout, Option.elim_none, Option.elim_some, List.length_append, List.length_cons,
      List.length_nil, length_beBytes, length_counted] <;> omega

/-- There is a session id just if the event has one, and the lengths fit their
fields. -/
structure Fits (r : Request) : Prop where
  session : r.sessionId = none ↔ OfConnection r.event
  length_session : ∀ sid, r.sessionId = some sid → sid.length < 4294967296
  length_payload : r.payload.length < 4294967296

theorem decode_header (messageType serial compression : Fin 16) (event : UInt32) (rest : Bytes) :
    decode ([nibbles 1 1, nibbles messageType 4, nibbles serial compression, 0] ++
        (beBytes event ++ rest)) =
      readFields ⟨messageType, serial, compression, event, none, []⟩ rest := by
  show (if nibbles 1 1 = nibbles 1 1 ∧ loNibble (nibbles messageType 4) = 4 ∧ (0 : UInt8) = 0 then
    readFields ⟨hiNibble (nibbles messageType 4), hiNibble (nibbles serial compression),
      loNibble (nibbles serial compression), ofBe _ _ _ _, none, []⟩ rest else none) = _
  rw [loNibble_nibbles, loNibble_nibbles, hiNibble_nibbles, hiNibble_nibbles, ofBe_beBytes,
    if_pos ⟨rfl, rfl, rfl⟩]

theorem readPayload_counted (r : Request) {payload : Bytes} (hlen : payload.length < 4294967296) :
    r.readPayload (ServerMessage.counted payload) = some { r with payload := payload } := by
  rw [readPayload, ← List.append_nil (ServerMessage.counted payload), takeCounted_counted hlen]
  rfl

/-- **A message is read as the request it was laid out for.** -/
theorem decode_layout {r : Request} (h : r.Fits) : decode r.layout = some r := by
  obtain ⟨messageType, serial, compression, event, sessionId, payload⟩ := r
  rw [layout, decode_header, readFields]
  cases sessionId with
  | none =>
    rw [if_pos (h.session.mp rfl)]
    exact readPayload_counted _ h.length_payload
  | some sid =>
    -- the reader tells by the event whether there is a session id
    have hevent : ¬ OfConnection event :=
      fun hc => absurd (h.session.mpr hc) (Option.some_ne_none _)
    rw [if_neg hevent]
    show (takeCounted (ServerMessage.counted sid ++ ServerMessage.counted payload)).bind _ = _
    rw [takeCounted_counted (h.length_session sid rfl)]
    exact readPayload_counted _ h.length_payload

/-- The payload without its compression. -/
def content (gunzip : Bytes → Option Bytes) (r : Request) : Option Bytes :=
  if r.compression = 1 then gunzip r.payload
  else if r.compression = 0 then some r.payload
  else none

end Request

/-- What a client wants to say. -/
structure Intent where
  messageType : Fin 16
  serial : Fin 16
  event : UInt32
  sessionId : Option Bytes
  content : Bytes
  deriving DecidableEq

/-- What a message says. -/
def meaning (gunzip : Bytes → Option Bytes) (message : Bytes) : Option Intent := do
  let r ← Request.decode message
  let content ← r.content gunzip
  return ⟨r.messageType, r.serial, r.event, r.sessionId, content⟩

namespace Intent

/-- There is a session id just if the event has one, and its length fits. -/
structure Fits (i : Intent) : Prop where
  session : i.sessionId = none ↔ OfConnection i.event
  length_session : ∀ sid, i.sessionId = some sid → sid.length < 4294967296

/-- The request that says it, with the payload as it is sent. -/
def request (i : Intent) (compression : Fin 16) (payload : Bytes) : Request :=
  ⟨i.messageType, i.serial, compression, i.event, i.sessionId, payload⟩

variable {gunzip : Bytes → Option Bytes} {i : Intent} {payload : Bytes}

theorem meaning_layout (h : i.Fits) (hlen : payload.length < 4294967296) (compression : Fin 16)
    (hcontent : (i.request compression payload).content gunzip = some i.content) :
    meaning gunzip (i.request compression payload).layout = some i := by
  have hfits : (i.request compression payload).Fits := ⟨h.session, h.length_session, hlen⟩
  rw [meaning, Request.decode_layout hfits]
  show ((i.request compression payload).content gunzip).bind _ = _
  rw [hcontent]
  rfl

/-- A payload sent as it is. -/
theorem meaning_plain (h : i.Fits) (hlen : i.content.length < 4294967296) :
    meaning gunzip (i.request 0 i.content).layout = some i :=
  meaning_layout h hlen 0 rfl

/-- A payload sent compressed. -/
theorem meaning_gzip (h : i.Fits) (hlen : payload.length < 4294967296)
    (hgunzip : gunzip payload = some i.content) :
    meaning gunzip (i.request 1 payload).layout = some i :=
  meaning_layout h hlen 1 hgunzip

/-- A request in a session. -/
def inSession (messageType serial : Fin 16) (event : UInt32) (sid content : Bytes) : Intent :=
  ⟨messageType, serial, event, some sid, content⟩

/-- A request about the connection. -/
def ofConnection (event : UInt32) (content : Bytes) : Intent := ⟨1, 1, event, none, content⟩

theorem fits_inSession {messageType serial : Fin 16} {event : UInt32} {sid content : Bytes}
    (hevent : ¬ OfConnection event) (hlen : sid.length < 4294967296) :
    (inSession messageType serial event sid content).Fits where
  session := ⟨nofun, fun h => absurd h hevent⟩
  length_session := by
    rintro _ ⟨⟩
    exact hlen

theorem fits_ofConnection {event : UInt32} {content : Bytes} (hevent : OfConnection event) :
    (ofConnection event content).Fits where
  session := ⟨fun _ => hevent, fun _ => rfl⟩
  length_session := nofun

end Intent

end BoxDoubao
