import BoxDoubao.Protocol.RoundTrip

/-!
# What the parser accepts

The converse of the round trip: from a message that was accepted, the fields
it is made of. Each reader has an inversion lemma in the terms of `At`, and
`takeFields_ok` composes them to the layout of everything before the payload.

The layout is not always the one the message declares. `Wire` reads the
length words off the bytes, and `accepted_isEncoding_iff` says that a full
response or an ack that is accepted is the encoding of the returned fields
exactly when its header counts itself, its session-id length is not negative
and its payload length is the number of bytes behind it.
-/

namespace BoxDoubao

open CMemory

/-! ### The words of a message -/

/-- The word at index `i`, or 0 where there is none. -/
def wordAt (b : Bytes) (i : ℕ) : UInt32 :=
  match b.drop i with
  | x :: y :: z :: w :: _ => ofBe x y z w
  | _ => 0

/-- How far the parser moves over a session id of the declared length. -/
def skippedLen (n : UInt32) : ℕ := if 0 < n.toInt32 then n.toNat else 0

theorem skippedLen_lt (n : UInt32) : skippedLen n < 2147483648 := by
  unfold skippedLen
  by_cases hpos : 0 < n.toInt32
  · rw [if_pos hpos]
    exact ((toInt32_pos_iff n).mp hpos).2
  · rw [if_neg hpos]
    decide

/-- A length that is not negative as an `int` is skipped as it stands. -/
theorem skippedLen_of_lt {n : UInt32} (h : n.toNat < 2147483648) : skippedLen n = n.toNat := by
  unfold skippedLen
  by_cases hpos : 0 < n.toInt32
  · rw [if_pos hpos]
  · -- neither positive nor negative
    rw [if_neg hpos]
    by_contra hne
    exact hpos ((toInt32_pos_iff n).mpr ⟨Nat.pos_of_ne_zero (Ne.symm hne), h⟩)

namespace Wire

variable (data : Bytes)

def headerSize : ℕ := ((data.getD 0 0) &&& 0x0F).toNat

def flags : UInt8 := (data.getD 1 0) &&& 0x0F

/-- The bytes the parser calls `payload`. -/
def body : Bytes := data.drop (headerSize data * 4)

def hasSeq : Bool := decide (flags data &&& flagNegSequence ≠ 0)

def hasEvent : Bool := decide (flags data &&& flagMsgWithEvent ≠ 0)

/-- Where the length of the session id stands in `body`. -/
def sidAt : ℕ := (if hasSeq data then 4 else 0) + (if hasEvent data then 4 else 0)

def sidWord : UInt32 := wordAt (body data) (sidAt data)

/-- Where the length of the payload stands in `body`. -/
def sizeAt : ℕ := sidAt data + 4 + skippedLen (sidWord data)

def sizeWord : UInt32 := wordAt (body data) (sizeAt data)

/-- The bytes behind the length of the payload. -/
def rest : Bytes := (body data).drop (sizeAt data + 4)

/-- The header counts itself, the length of the session id is not negative,
and the payload has the declared length. -/
structure Exact : Prop where
  header : 1 ≤ headerSize data
  sessionId : (sidWord data).toNat < 2147483648
  payload : (sizeWord data).toNat = (rest data).length

end Wire

/-! ### The readers inverted -/

section Readers

variable {payload : Bytes} {offset o : ℕ} {resp r : ParsedResponse} {rest : Bytes}

theorem wordAt_of_at {v : UInt32} (h : At payload offset (beBytes v ++ rest)) :
    wordAt payload offset = v := by
  unfold wordAt
  rw [h.drop]
  exact ofBe_beBytes v

theorem At.unique {rest' : Bytes} (h : At payload offset rest) (h' : At payload offset rest') :
    rest = rest' := h.drop.symm.trans h'.drop

theorem takeU32_ok {v : UInt32} (hfit : offset + 4 < 4294967296)
    (h : takeU32 payload payload.length offset = .ok (v, o)) :
    o = offset + 4 ∧ ∃ rest, At payload offset (beBytes v ++ rest) ∧
      At payload (offset + 4) rest := by
  unfold takeU32 at h
  rw [sz_of_lt hfit] at h
  by_cases hle : offset + 4 > payload.length
  · rw [if_pos hle] at h
    cases h
  · rw [if_neg hle] at h
    obtain ⟨w, rest, hdrop, hload⟩ := loadBe32_of_le (not_lt.mp hle)
    rw [hload] at h
    obtain ⟨rfl, rfl⟩ := Prod.mk.inj (Except.ok.inj h)
    have hat : At payload offset (beBytes w ++ rest) := ⟨by omega, hdrop⟩
    exact ⟨rfl, rest, hat, hat.advance⟩

/-- An optional word that was read: `set` puts it into the record. -/
theorem takeOptional_ok (set : UInt32 → ParsedResponse) {c : Prop} [Decidable c]
    (hfit : offset + 4 < 4294967296) (ho : offset ≤ payload.length)
    (h : (if c then do
        let (v, offset) ← takeU32 payload payload.length offset
        return (set v, offset)
      else return (resp, offset)) = .ok (r, o)) :
    ∃ (v : UInt32) (rest : Bytes), r = (if c then set v else resp) ∧
      o = offset + (if c then 4 else 0) ∧
      At payload offset ((if c then beBytes v else []) ++ rest) ∧ At payload o rest := by
  by_cases hc : c
  · rw [if_pos hc] at h
    obtain ⟨⟨v, o'⟩, hu, hret⟩ := ok_of_bind h
    obtain ⟨rfl, rest, hat, hnext⟩ := takeU32_ok hfit hu
    obtain ⟨rfl, rfl⟩ := Prod.mk.inj (Except.ok.inj hret)
    refine ⟨v, rest, (if_pos hc).symm, by rw [if_pos hc], ?_, hnext⟩
    rw [if_pos hc]
    exact hat
  · rw [if_neg hc] at h
    obtain ⟨rfl, rfl⟩ := Prod.mk.inj (Except.ok.inj h)
    refine ⟨0, payload.drop offset, (if_neg hc).symm, by rw [if_neg hc, Nat.add_zero], ?_,
      ⟨ho, rfl⟩⟩
    rw [if_neg hc]
    exact ⟨ho, rfl⟩

/-- The session id is skipped whole and kept as far as the array holds it. A
length that is negative as an `int` skips nothing. -/
theorem takeSessionId_ok (hfit : offset + 2147483652 < 4294967296)
    (hlen : payload.length < 4294967296) (hresp : resp.sessionId = CArray.zero 128)
    (h : takeSessionId payload payload.length resp offset = .ok (r, o)) :
    ∃ (n : UInt32) (sid rest : Bytes), sid.length = skippedLen n ∧
      r = { resp with sessionId := CArray.ofBytes 128 (sid.take 127) } ∧
      o = offset + 4 + sid.length ∧ At payload offset (beBytes n ++ (sid ++ rest)) ∧
      At payload o rest := by
  obtain ⟨⟨n, o'⟩, hu, hrest⟩ := ok_of_bind h
  obtain ⟨rfl, ahead, hat, hnext⟩ := takeU32_ok (by omega) hu
  by_cases hpos : 0 < n.toInt32
  · obtain ⟨-, hsmall⟩ := (toInt32_pos_iff n).mp hpos
    simp only [if_pos hpos, UInt32.toUInt32_toInt32,
      sz_of_lt (by omega : offset + 4 + n.toNat < 4294967296)] at hrest
    by_cases hlong : offset + 4 + n.toNat > payload.length
    · rw [if_pos hlong] at hrest
      cases hrest
    · -- the id is there, so it is read as on an encoding
      have hahead := hnext.length
      obtain ⟨sid, rest, hsid, rfl⟩ : ∃ sid rest, sid.length = n.toNat ∧ ahead = sid ++ rest := by
        refine ⟨ahead.take n.toNat, ahead.drop n.toNat, ?_, (List.take_append_drop _ _).symm⟩
        rw [List.length_take]
        omega
      have hcount : ServerMessage.counted sid = beBytes n ++ sid := by
        rw [ServerMessage.counted, hsid, UInt32.ofNat_toNat]
      have hfield : At payload offset (ServerMessage.counted sid ++ rest) := by
        rw [hcount, List.append_assoc]
        exact hat
      obtain ⟨o', hat', hread⟩ := takeSessionId_at resp hfield hlen (by omega) hresp
      obtain ⟨rfl, rfl⟩ := Prod.mk.inj (Except.ok.inj (hread.symm.trans h))
      have hend := hat'.length
      rw [List.length_append] at hahead
      exact ⟨n, sid, rest, by rw [hsid, skippedLen, if_pos hpos], rfl, by omega, hat, hat'⟩
  · -- nothing is skipped, and the array stays as it was cleared
    simp only [if_neg hpos] at hrest
    obtain ⟨rfl, rfl⟩ := Prod.mk.inj (Except.ok.inj hrest)
    refine ⟨n, [], ahead, by rw [skippedLen, if_neg hpos]; rfl, ?_, rfl, hat, hnext⟩
    have hzero : CArray.ofBytes 128 (([] : Bytes).take 127) = CArray.zero 128 := by decide
    rw [hzero, ← hresp]

theorem takePayloadSize_ok (hfit : offset + 4 < 4294967296)
    (h : takePayloadSize payload payload.length resp offset = .ok (r, o)) :
    ∃ (n : UInt32) (rest : Bytes), r = { resp with payloadSize := n } ∧ o = offset + 4 ∧
      At payload offset (beBytes n ++ rest) ∧ At payload o rest := by
  obtain ⟨⟨n, o'⟩, hu, hret⟩ := ok_of_bind h
  obtain ⟨rfl, rest, hat, hnext⟩ := takeU32_ok hfit hu
  obtain ⟨rfl, rfl⟩ := Prod.mk.inj (Except.ok.inj hret)
  exact ⟨n, rest, rfl, rfl, hat, hnext⟩

/-- **The fields before the payload**, from the bytes they were read from. -/
theorem takeFields_ok {flags ty : UInt8} (hlen : payload.length < 4294967296)
    (h : takeFields payload payload.length flags (ParsedResponse.ofType ty) = .ok (r, o)) :
    ∃ (seq event sidLen size : UInt32) (sid rest : Bytes), sid.length = skippedLen sidLen ∧
      payload = (if flags &&& flagNegSequence ≠ 0 then beBytes seq else []) ++
        ((if flags &&& flagMsgWithEvent ≠ 0 then beBytes event else []) ++
          (beBytes sidLen ++ (sid ++ (beBytes size ++ rest)))) ∧
      At payload o rest ∧
      r = { ParsedResponse.ofType ty with
        event := if flags &&& flagMsgWithEvent ≠ 0 then event.toInt32 else -1
        hasEvent := decide (flags &&& flagMsgWithEvent ≠ 0)
        seq := if flags &&& flagNegSequence ≠ 0 then seq else 0
        hasSeq := decide (flags &&& flagNegSequence ≠ 0)
        sessionId := CArray.ofBytes 128 (sid.take 127)
        payloadSize := size } := by
  -- the four readers in a row, each from where the one before it stopped
  obtain ⟨⟨r₁, o₁⟩, h₁, h⟩ := ok_of_bind h
  obtain ⟨⟨r₂, o₂⟩, h₂, h⟩ := ok_of_bind h
  obtain ⟨⟨r₃, o₃⟩, h₃, h₄⟩ := ok_of_bind h
  obtain ⟨seq, rest₁, hr₁, ho₁, hat₀, hat₁⟩ := takeOptional_ok
    (fun v => { ParsedResponse.ofType ty with seq := v, hasSeq := true }) (by omega)
    (Nat.zero_le _) h₁
  have hle₁ : o₁ ≤ 4 := by
    rw [ho₁]
    split <;> omega
  obtain ⟨event, rest₂, hr₂, ho₂, hat₁', hat₂⟩ := takeOptional_ok
    (fun v => { r₁ with event := v.toInt32, hasEvent := true }) (by omega) hat₁.le h₂
  have hle₂ : o₂ ≤ 8 := by
    rw [ho₂]
    split <;> omega
  have hsession : r₂.sessionId = CArray.zero 128 := by
    rw [hr₂, hr₁]
    split <;> split <;> rfl
  obtain ⟨sidLen, sid, rest₃, hsid, hr₃, ho₃, hat₂', hat₃⟩ :=
    takeSessionId_ok (by omega) hlen hsession h₃
  have hskip := skippedLen_lt sidLen
  obtain ⟨size, rest, hr₄, -, hat₃', hat₄⟩ := takePayloadSize_ok (by omega) h₄
  refine ⟨seq, event, sidLen, size, sid, rest, hsid, ?_, hat₄, ?_⟩
  · -- each field begins where the one before it ends
    have hrest₁ := hat₁.unique hat₁'
    have hrest₂ := hat₂.unique hat₂'
    have hrest₃ := hat₃.unique hat₃'
    calc payload
        = (if flags &&& flagNegSequence ≠ 0 then beBytes seq else []) ++ rest₁ := hat₀.drop
      _ = _ := by rw [hrest₁, hrest₂, hrest₃]
  · -- the record, by the two flags
    rw [hr₄, hr₃, hr₂, hr₁]
    by_cases hs : flags &&& flagNegSequence ≠ 0
    · by_cases he : flags &&& flagMsgWithEvent ≠ 0
      · simp only [if_pos hs, if_pos he, decide_eq_true hs, decide_eq_true he]
      · simp only [if_pos hs, if_neg he, decide_eq_true hs, decide_eq_false he]
        rfl
    · by_cases he : flags &&& flagMsgWithEvent ≠ 0
      · simp only [if_neg hs, if_pos he, decide_eq_false hs, decide_eq_true he]
        rfl
      · simp only [if_neg hs, if_neg he, decide_eq_false hs, decide_eq_false he]
        rfl

end Readers

/-! ### The words of a layout -/

/-- Four bytes that are there or not are skipped by the length that is
added for them. -/
theorem At.optional {payload rest : Bytes} {offset : ℕ} {p : Bool} {v : UInt32}
    (h : At payload offset ((if p then beBytes v else []) ++ rest)) :
    At payload (offset + if p then 4 else 0) rest := by
  cases p with
  | true => exact h.advance
  | false => exact h

/-- The words and the payload `Wire` finds are those of the layout. -/
theorem wire_of_layout {data sid rest : Bytes} {seq event sidLen size : UInt32}
    (hsid : sid.length = skippedLen sidLen)
    (h : Wire.body data = (if Wire.hasSeq data then beBytes seq else []) ++
      ((if Wire.hasEvent data then beBytes event else []) ++
        (beBytes sidLen ++ (sid ++ (beBytes size ++ rest))))) :
    Wire.sidWord data = sidLen ∧ Wire.sizeWord data = size ∧ Wire.rest data = rest := by
  have h₀ : At (Wire.body data) 0 ((if Wire.hasSeq data then beBytes seq else []) ++
      ((if Wire.hasEvent data then beBytes event else []) ++
        (beBytes sidLen ++ (sid ++ (beBytes size ++ rest))))) := ⟨Nat.zero_le _, h⟩
  -- behind the two optional words stands the length of the session id
  have h₁ := h₀.optional.optional
  rw [Nat.zero_add] at h₁
  have hword : Wire.sidWord data = sidLen := wordAt_of_at h₁
  have h₂ : At (Wire.body data) (Wire.sidAt data + 4 + sid.length) (beBytes size ++ rest) :=
    h₁.advance.advance
  rw [hsid, ← hword] at h₂
  exact ⟨hword, wordAt_of_at h₂, h₂.advance.drop⟩

/-- The encoding of a message whose session id is shorter than `2 ^ 31` bytes
is exact. -/
theorem exact_encode (m : ServerMessage) {ack : Bool} {seq event : UInt32} {sid bytes : Bytes}
    (hbody : m.body = .response ack seq event sid bytes) (hsid : sid.length < 2147483648)
    (hlen : m.encode.length < 4294967296) : Wire.Exact m.encode := by
  have hpos := m.headerSize_pos
  have hsize : Wire.headerSize m.encode = m.headerSize.val := by
    show (nibbles m.version m.headerSize &&& 0x0F).toNat = _
    rw [nibbles_and, nibble_toNat]
  have hflags : Wire.flags m.encode = nibble m.flags := nibbles_and _ _
  -- the parser finds the body of the message, and its flags
  have hpayload : Wire.body m.encode = m.encodeBody := by
    unfold Wire.body
    rw [hsize, ← nibble_toNat m.headerSize,
      ← sz_of_lt (by rw [nibble_toNat]; omega : (nibble m.headerSize).toNat * 4 < 4294967296)]
    exact (drop_header_encode m).1
  have hseq : Wire.hasSeq m.encode = m.hasSeq := by
    unfold Wire.hasSeq
    rw [hflags, Bool.eq_iff_iff, decide_eq_true_iff]
    exact nibble_and_negSequence m.flags
  have hevent : Wire.hasEvent m.encode = m.hasEvent := by
    unfold Wire.hasEvent
    rw [hflags, Bool.eq_iff_iff, decide_eq_true_iff]
    exact nibble_and_withEvent m.flags
  have hshort := (drop_header_encode m).2
  have hlayout : m.encodeBody = (if m.hasSeq then beBytes seq else []) ++
      ((if m.hasEvent then beBytes event else []) ++ (beBytes (UInt32.ofNat sid.length) ++
        (sid ++ (beBytes (UInt32.ofNat bytes.length) ++ bytes)))) := by
    unfold ServerMessage.encodeBody ServerMessage.counted
    rw [hbody]
    simp only [List.append_assoc]
  have hbytes : bytes.length < 4294967296 := by
    have hcount := congrArg List.length hlayout
    simp only [List.length_append] at hcount
    omega
  have hn : (UInt32.ofNat sid.length).toNat = sid.length :=
    UInt32.toNat_ofNat_of_lt' (lt_trans hsid (by decide))
  have hskip : sid.length = skippedLen (UInt32.ofNat sid.length) := by
    rw [skippedLen_of_lt (by rw [hn]; exact hsid), hn]
  obtain ⟨hsidWord, hsizeWord, hrest⟩ :=
    wire_of_layout hskip (by rw [hpayload, hseq, hevent]; exact hlayout)
  refine ⟨hsize ▸ hpos, ?_, ?_⟩
  · rw [hsidWord, hn]
    exact hsid
  · rw [hsizeWord, hrest]
    exact UInt32.toNat_ofNat_of_lt' hbytes

/-! ### The parser inverted -/

/-- What becomes of the bytes behind the payload length: nothing when there
are none or none are declared, else they are inflated or copied. -/
def PayloadRead (tinfl : Tinfl) (heap : Heap) (hd : Header) (rest : Bytes)
    (r₀ r : ParsedResponse) : Prop :=
  ((rest = [] ∨ r₀.payloadSize = 0) ∧ r = { r₀ with payloadData := none, payloadDataLen := 0 }) ∨
  (¬ (rest = [] ∨ r₀.payloadSize = 0) ∧
    ∃ out, (decodePayload tinfl heap hd.compression rest rest.length).1 = .ok out ∧
      r = { r₀ with
        isBinary := hd.serialMethod == serialNone
        payloadData := some out
        payloadDataLen := out.length })

theorem parseServerResponse_ok {tinfl : Tinfl} {heap : Heap} {hd : Header} {payload : Bytes}
    {resp r : ParsedResponse} (hlen : payload.length < 4294967296)
    (hcur : ∀ r₀ o, takeFields payload payload.length hd.msgFlags resp = .ok (r₀, o) →
      o ≤ payload.length)
    (h : (parseServerResponse tinfl heap hd payload payload.length resp).1 = .ok r) :
    ∃ r₀ o, takeFields payload payload.length hd.msgFlags resp = .ok (r₀, o) ∧
      PayloadRead tinfl heap hd (payload.drop o) r₀ r := by
  unfold parseServerResponse at h
  cases hf : takeFields payload payload.length hd.msgFlags resp with
  | error e =>
    rw [hf] at h
    cases h
  | ok fields =>
    obtain ⟨r₀, o⟩ := fields
    have ho := hcur r₀ o hf
    have hmsg : szSub payload.length o = (payload.drop o).length := by
      rw [szSub_of_le ho hlen, List.length_drop]
    rw [hf] at h
    simp only [hmsg, List.length_eq_zero_iff] at h
    refine ⟨r₀, o, rfl, ?_⟩
    by_cases hnone : payload.drop o = [] ∨ r₀.payloadSize = 0
    · rw [if_pos hnone] at h
      exact Or.inl ⟨hnone, (Except.ok.inj h).symm⟩
    · rw [if_neg hnone] at h
      refine Or.inr ⟨hnone, ?_⟩
      obtain ⟨res, heap', hd'⟩ : ∃ res heap', decodePayload tinfl heap hd.compression
        (payload.drop o) (payload.drop o).length = (res, heap') := ⟨_, _, rfl⟩
      rw [hd'] at h
      cases res with
      | error e => cases h
      | ok out => exact ⟨out, by rw [hd'], (Except.ok.inj h).symm⟩

/-- An error message keeps its type. -/
theorem parseServerError_messageType {tinfl : Tinfl} {heap : Heap} {hd : Header}
    {payload : Bytes} {n : ℕ} {resp r : ParsedResponse}
    (h : (parseServerError tinfl heap hd payload n resp).1 = .ok r) :
    r.messageType = resp.messageType := by
  unfold parseServerError at h
  -- no branch writes the type
  by_cases hshort : n < 8
  · rw [if_pos hshort] at h
    cases h
  · rw [if_neg hshort] at h
    split at h
    · cases h
    · simp only at h
      split at h
      · split at h
        · cases h
        · obtain rfl := Except.ok.inj h
          rfl
      · obtain rfl := Except.ok.inj h
        rfl

/-- The header of a message of at least four bytes. -/
def Wire.header (data : Bytes) : Header where
  headerSize := (data.getD 0 0) &&& 0x0F
  messageType := (data.getD 1 0) >>> 4
  msgFlags := Wire.flags data
  serialMethod := (data.getD 2 0) >>> 4
  compression := (data.getD 2 0) &&& 0x0F

theorem parseHeader_eq {data : Bytes} (h : 4 ≤ data.length) :
    parseHeader data = .ok (Wire.header data) := by
  match data, h with
  | _ :: _ :: _ :: _ :: _, _ => rfl

theorem Wire.headerSize_lt (data : Bytes) : Wire.headerSize data < 16 := by
  unfold Wire.headerSize
  rw [UInt8.toNat_and]
  exact Nat.lt_succ_of_le Nat.and_le_right

/-- **An accepted full response or ack**: its fields were read from the bytes
behind the header, and its payload from the bytes behind them. -/
theorem protocolParseResponse_ok {tinfl : Tinfl} {heap : Heap} {data : Bytes}
    {r : ParsedResponse} (hlen : data.length < 4294967296)
    (h : (protocolParseResponse tinfl heap data).1 = .ok r)
    (htype : r.messageType = msgServerFullResponse ∨ r.messageType = msgServerAck) :
    4 ≤ data.length ∧ Wire.headerSize data * 4 ≤ data.length ∧
      (Wire.header data).messageType = r.messageType ∧
      ∃ r₀ o, takeFields (Wire.body data) (Wire.body data).length (Wire.flags data)
          (ParsedResponse.ofType r.messageType) = .ok (r₀, o) ∧
        PayloadRead tinfl heap (Wire.header data) ((Wire.body data).drop o) r₀ r := by
  have hsize := Wire.headerSize_lt data
  unfold protocolParseResponse at h
  by_cases hfour : data.length < 4
  · rw [if_pos hfour] at h
    cases h
  rw [if_neg hfour, parseHeader_eq (not_lt.mp hfour)] at h
  -- a header of at most 15 words does not wrap
  have hsz : sz ((Wire.header data).headerSize.toNat * 4) = Wire.headerSize data * 4 :=
    sz_of_lt (by show Wire.headerSize data * 4 < _; omega)
  simp only [hsz] at h
  by_cases hfit : data.length < Wire.headerSize data * 4
  · rw [if_pos hfit] at h
    cases h
  have hle := not_lt.mp hfit
  have hbody : szSub data.length (Wire.headerSize data * 4) = (Wire.body data).length := by
    rw [szSub_of_le hle hlen, Wire.body, List.length_drop]
  rw [if_neg hfit, hbody] at h
  by_cases hresp : (Wire.header data).messageType = msgServerFullResponse ∨
      (Wire.header data).messageType = msgServerAck
  · rw [if_pos hresp] at h
    have hshort : (Wire.body data).length < 4294967296 := by
      rw [Wire.body, List.length_drop]
      omega
    obtain ⟨r₀, o, hfields, hread⟩ := parseServerResponse_ok hshort
      (fun r₀ o hf => by
        obtain ⟨_, _, _, _, _, _, _, _, hat, _⟩ := takeFields_ok hshort hf
        exact hat.le) h
    have hmt : (Wire.header data).messageType = r.messageType := by
      obtain ⟨_, _, _, _, _, _, _, _, _, hr₀⟩ := takeFields_ok hshort hfields
      obtain ⟨-, rfl⟩ | ⟨-, -, -, rfl⟩ := hread <;> rw [hr₀] <;> rfl
    exact ⟨not_lt.mp hfour, hle, hmt, r₀, o, hmt ▸ hfields, hread⟩
  · -- a message of another type keeps it
    rw [if_neg hresp] at h
    refine absurd ?_ hresp
    by_cases herr : (Wire.header data).messageType = msgServerError
    · rw [if_pos herr] at h
      have hmt := parseServerError_messageType h
      rw [hmt] at htype
      exact htype
    · rw [if_neg herr] at h
      obtain rfl := Except.ok.inj h
      exact htype

/-! ### Accepted and well formed -/

/-- The record without what the payload was decoded to. -/
def ParsedResponse.withoutPayload (r : ParsedResponse) : ParsedResponse :=
  { r with isBinary := false, payloadData := none, payloadDataLen := 0 }

/-- The message is the encoding of the fields of `r`. The session id of the
encoding, which `r` holds up to 127 bytes of, is the one that was skipped; its
payload is the one returned, or what the one returned was inflated from. -/
def IsEncoding (tinfl : Tinfl) (heap : Heap) (data : Bytes) (r : ParsedResponse) : Prop :=
  ∃ (m : ServerMessage) (ack : Bool) (seq event : UInt32) (sid payload : Bytes),
    m.body = .response ack seq event sid payload ∧ m.encode = data ∧
    sid.length < 2147483648 ∧ r.withoutPayload = m.decoded.withoutPayload ∧
    (nibble m.compression ≠ compressGzip ∨ payload = [] → r = m.decoded) ∧
    (nibble m.compression = compressGzip ∧ payload ≠ [] →
      ∃ out, (gzipDecompress tinfl heap payload).1 = .ok out ∧ r.payloadData = some out ∧
        r.payloadDataLen = out.length)

theorem IsEncoding.exact {tinfl : Tinfl} {heap : Heap} {data : Bytes} {r : ParsedResponse}
    (hlen : data.length < 4294967296) (h : IsEncoding tinfl heap data r) : Wire.Exact data := by
  obtain ⟨m, ack, seq, event, sid, payload, hbody, rfl, hsid, -⟩ := h
  exact exact_encode m hbody hsid hlen

/-! ### The message of an exact layout -/

def hiNibble (b : UInt8) : Fin 16 := ⟨b.toNat / 16, by have := b.toNat_lt; omega⟩

def loNibble (b : UInt8) : Fin 16 := ⟨b.toNat % 16, Nat.mod_lt _ (Nat.zero_lt_succ _)⟩

theorem nibbles_self (b : UInt8) : nibbles (hiNibble b) (loNibble b) = b := by
  apply UInt8.toNat_inj.mp
  have hb := b.toNat_lt
  show (UInt8.ofNat (16 * (b.toNat / 16) + b.toNat % 16)).toNat = b.toNat
  rw [Nat.div_add_mod]
  exact congrArg UInt8.toNat UInt8.ofNat_toNat

theorem nibble_loNibble (b : UInt8) : nibble (loNibble b) = b &&& 0x0F := by
  have h := nibbles_and (hiNibble b) (loNibble b)
  rw [nibbles_self] at h
  exact h.symm

theorem nibble_hiNibble (b : UInt8) : nibble (hiNibble b) = b >>> 4 := by
  have h := nibbles_shiftRight (hiNibble b) (loNibble b)
  rw [nibbles_self] at h
  exact h.symm

/-- The server message whose header is that of `data`, with a given session
id and payload. -/
def Wire.message (data : Bytes) (ack : Bool) (seq event : UInt32) (sid payload : Bytes)
    (hpos : 1 ≤ Wire.headerSize data) (hle : Wire.headerSize data * 4 ≤ data.length) :
    ServerMessage where
  version := hiNibble (data.getD 0 0)
  headerSize := loNibble (data.getD 0 0)
  headerSize_pos := by
    rw [← nibble_toNat, nibble_loNibble]
    exact hpos
  flags := loNibble (data.getD 1 0)
  serial := hiNibble (data.getD 2 0)
  compression := loNibble (data.getD 2 0)
  reserved := data.getD 3 0
  extension := (data.drop 4).take (4 * (Wire.headerSize data - 1))
  length_extension := by
    rw [← nibble_toNat, nibble_loNibble]
    show _ = 4 * (Wire.headerSize data - 1)
    rw [List.length_take, List.length_drop]
    omega
  body := .response ack seq event sid payload

/-- Its encoding is `data` when the type is that of `data` and the body is what
lies behind the header. -/
theorem Wire.message_encode {data : Bytes} {ack : Bool} {seq event : UInt32} {sid payload : Bytes}
    {hpos : 1 ≤ Wire.headerSize data} {hle : Wire.headerSize data * 4 ≤ data.length}
    (htype : hiNibble (data.getD 1 0) = (ServerBody.response ack seq event sid payload).messageType)
    (hbody : (Wire.message data ack seq event sid payload hpos hle).encodeBody = Wire.body data) :
    (Wire.message data ack seq event sid payload hpos hle).encode = data := by
  have hfour : 4 ≤ data.length := by omega
  obtain ⟨b0, b1, b2, b3, tail, rfl⟩ : ∃ b0 b1 b2 b3 tail, data = b0 :: b1 :: b2 :: b3 :: tail := by
    match data, hfour with
    | b0 :: b1 :: b2 :: b3 :: tail, _ => exact ⟨b0, b1, b2, b3, tail, rfl⟩
  unfold ServerMessage.encode
  rw [hbody]
  show nibbles (hiNibble b0) (loNibble b0) ::
    nibbles (ServerBody.response ack seq event sid payload).messageType (loNibble b1) ::
    nibbles (hiNibble b2) (loNibble b2) :: b3 :: _ = _
  rw [← htype]
  show nibbles (hiNibble b0) (loNibble b0) :: nibbles (hiNibble b1) (loNibble b1) ::
    nibbles (hiNibble b2) (loNibble b2) :: b3 :: _ = _
  rw [nibbles_self, nibbles_self, nibbles_self]
  -- the extension words and the body are the bytes behind the first four
  have hsplit : Wire.body (b0 :: b1 :: b2 :: b3 :: tail) =
      tail.drop (4 * (Wire.headerSize (b0 :: b1 :: b2 :: b3 :: tail) - 1)) := by
    unfold Wire.body
    obtain ⟨k, hk⟩ : ∃ k, Wire.headerSize (b0 :: b1 :: b2 :: b3 :: tail) = k + 1 :=
      ⟨_, (Nat.sub_add_cancel hpos).symm⟩
    rw [hk, show (k + 1) * 4 = 4 * (k + 1 - 1) + 4 by omega]
    rfl
  rw [hsplit]
  exact congrArg (b0 :: b1 :: b2 :: b3 :: ·) (List.take_append_drop _ tail)

theorem hiNibble_type {b : UInt8} {ty : UInt8} (h : b >>> 4 = ty)
    (htype : ty = msgServerFullResponse ∨ ty = msgServerAck) (seq event : UInt32)
    (sid payload : Bytes) :
    ∃ ack, hiNibble b = (ServerBody.response ack seq event sid payload).messageType ∧
      nibble (ServerBody.response ack seq event sid payload).messageType = ty := by
  have hval : (hiNibble b).val = ty.toNat := by
    rw [← nibble_toNat, nibble_hiNibble, h]
  obtain rfl | rfl := htype
  · exact ⟨false, Fin.ext hval, rfl⟩
  · exact ⟨true, Fin.ext hval, rfl⟩

/-- An uncompressed payload is the bytes behind its length. -/
theorem decodePayload_plain {tinfl : Tinfl} {heap : Heap} {compression : UInt8} {rest out : Bytes}
    (hplain : compression ≠ compressGzip)
    (h : (decodePayload tinfl heap compression rest rest.length).1 = .ok out) : out = rest := by
  unfold decodePayload copyPayload at h
  rw [if_neg hplain] at h
  split at h
  · cases h
  · rw [loadRange_self] at h
    exact (Except.ok.inj h).symm

/-- The bytes of a length and of what it counts, when it is the length. -/
theorem counted_of_length {n : UInt32} {bytes : Bytes} (h : bytes.length = n.toNat) :
    ServerMessage.counted bytes = beBytes n ++ bytes := by
  rw [ServerMessage.counted, h, UInt32.ofNat_toNat]

/-- The record of an exact layout, before its payload is decoded, is that of
the message it encodes. -/
theorem exists_message {data payload : Bytes} {ty : UInt8} {r₀ : ParsedResponse} {o : ℕ}
    (hexact : Wire.Exact data) (hle : Wire.headerSize data * 4 ≤ data.length)
    (hlen : data.length < 4294967296) (hmt : (Wire.header data).messageType = ty)
    (htype : ty = msgServerFullResponse ∨ ty = msgServerAck)
    (hfields : takeFields (Wire.body data) (Wire.body data).length (Wire.flags data)
      (ParsedResponse.ofType ty) = .ok (r₀, o))
    (hpayload : (Wire.body data).drop o = payload) :
    ∃ (m : ServerMessage) (ack : Bool) (seq event : UInt32) (sid : Bytes),
      m.body = .response ack seq event sid payload ∧ m.encode = data ∧
      sid.length < 2147483648 ∧ nibble m.serial = (Wire.header data).serialMethod ∧
      nibble m.compression = (Wire.header data).compression ∧
      r₀ = m.decoded.withoutPayload ∧ r₀.payloadSize.toNat = payload.length := by
  have hshort : (Wire.body data).length < 4294967296 := by
    rw [Wire.body, List.length_drop]
    omega
  obtain ⟨seq, event, sidLen, size, sid, rest, hsid, hlayout, hat, hr₀⟩ :=
    takeFields_ok hshort hfields
  obtain rfl : rest = payload := hat.drop.symm.trans hpayload
  obtain ⟨ack, hack, hty⟩ := hiNibble_type hmt htype seq event sid rest
  -- the two flags of the message are those of the bytes
  have hseq : Wire.flags data &&& flagNegSequence ≠ 0 ↔ Wire.hasSeq data = true :=
    decide_eq_true_iff.symm
  have hevent : Wire.flags data &&& flagMsgWithEvent ≠ 0 ↔ Wire.hasEvent data = true :=
    decide_eq_true_iff.symm
  rw [if_congr hseq rfl rfl, if_congr hevent rfl rfl] at hlayout
  obtain ⟨hsidWord, hsizeWord, hrest⟩ := wire_of_layout hsid hlayout
  -- an exact layout counts its session id and its payload as the encoder does
  have hsmall := hexact.sessionId
  rw [hsidWord] at hsmall
  have hsize := hexact.payload
  rw [hsizeWord, hrest] at hsize
  have hskip : sid.length = sidLen.toNat := hsid.trans (skippedLen_of_lt hsmall)
  have hsize' : rest.length = size.toNat := hsize.symm
  have hmflags : nibble (loNibble (data.getD 1 0)) = Wire.flags data := nibble_loNibble _
  have hmseq : (loNibble (data.getD 1 0)).val.testBit 1 = Wire.hasSeq data := by
    rw [Bool.eq_iff_iff, ← hseq, ← nibble_and_negSequence, hmflags]
  have hmevent : (loNibble (data.getD 1 0)).val.testBit 2 = Wire.hasEvent data := by
    rw [Bool.eq_iff_iff, ← hevent, ← nibble_and_withEvent, hmflags]
  refine ⟨Wire.message data ack seq event sid rest hexact.header hle, ack, seq, event, sid, rfl,
    Wire.message_encode hack ?_, by omega, nibble_hiNibble _, nibble_loNibble _, ?_, ?_⟩
  · show (if (loNibble (data.getD 1 0)).val.testBit 1 then beBytes seq else []) ++
      ((if (loNibble (data.getD 1 0)).val.testBit 2 then beBytes event else []) ++
        (ServerMessage.counted sid ++ ServerMessage.counted rest)) = _
    rw [hmseq, hmevent, counted_of_length hskip, counted_of_length hsize', hlayout]
    simp only [List.append_assoc]
  · rw [hr₀, if_congr hseq rfl rfl, if_congr hevent rfl rfl]
    show _ = ParsedResponse.mk (nibble (ServerBody.response ack seq event sid rest).messageType)
      (if (loNibble (data.getD 1 0)).val.testBit 2 then event.toInt32 else -1)
      ((loNibble (data.getD 1 0)).val.testBit 2)
      (if (loNibble (data.getD 1 0)).val.testBit 1 then seq else 0)
      ((loNibble (data.getD 1 0)).val.testBit 1) (CArray.ofBytes 128 (sid.take 127))
      (UInt32.ofNat rest.length) none 0 false 0
    rw [hmseq, hmevent, hty, hsize', UInt32.ofNat_toNat]
    rfl
  · rw [hr₀]
    exact hsize

/-- The payload of an exact layout is the one of its message, or inflated
from it. -/
theorem PayloadRead.isEncoding {tinfl : Tinfl} {heap : Heap} {hd : Header} {r₀ r : ParsedResponse}
    {m : ServerMessage} {ack : Bool} {seq event : UInt32} {sid payload : Bytes}
    (hread : PayloadRead tinfl heap hd payload r₀ r)
    (hbody : m.body = .response ack seq event sid payload)
    (hserial : nibble m.serial = hd.serialMethod) (hcomp : nibble m.compression = hd.compression)
    (hr₀ : r₀ = m.decoded.withoutPayload) (hsize : r₀.payloadSize.toNat = payload.length) :
    r.withoutPayload = m.decoded.withoutPayload ∧
      (nibble m.compression ≠ compressGzip ∨ payload = [] → r = m.decoded) ∧
      (nibble m.compression = compressGzip ∧ payload ≠ [] →
        ∃ out, (gzipDecompress tinfl heap payload).1 = .ok out ∧ r.payloadData = some out ∧
          r.payloadDataLen = out.length) := by
  have hempty : payload = [] ∨ r₀.payloadSize = 0 ↔ payload = [] := by
    refine ⟨fun h => h.elim id fun h => ?_, Or.inl⟩
    rw [h] at hsize
    exact List.length_eq_zero_iff.mp hsize.symm
  obtain ⟨hnone, rfl⟩ | ⟨hsome, out, hout, rfl⟩ := hread
  · -- no payload: the record is the one of the fields
    obtain rfl := hempty.mp hnone
    have hdec : m.decoded.withoutPayload = m.decoded := by
      unfold ServerMessage.decoded
      rw [hbody]
      rfl
    have hr : { r₀ with payloadData := none, payloadDataLen := 0 } = m.decoded := by
      rw [hr₀, ← hdec]
      rfl
    rw [hr]
    exact ⟨rfl, fun _ => rfl, fun h => absurd rfl h.2⟩
  · -- a payload: copied, or inflated where the message says it is compressed
    have hne : payload ≠ [] := fun h => hsome (Or.inl h)
    refine ⟨by rw [hr₀]; rfl, ?_, ?_⟩
    · intro hplain
      have hnot : hd.compression ≠ compressGzip := hcomp ▸ hplain.resolve_right hne
      obtain rfl := decodePayload_plain hnot hout
      rw [hr₀]
      unfold ServerMessage.decoded
      rw [hbody]
      simp only [ParsedResponse.withoutPayload, ← hserial, hne, if_false, ne_eq,
        not_false_eq_true, decide_true, Bool.true_and]
    · intro ⟨hgzip, _⟩
      refine ⟨out, ?_, rfl, rfl⟩
      unfold decodePayload at hout
      rw [if_pos (hcomp.symm.trans hgzip), List.take_length] at hout
      exact hout

/-- **What is accepted is well formed** exactly when the layout is exact. -/
theorem accepted_isEncoding_iff (tinfl : Tinfl) (heap : Heap) (data : Bytes)
    (r : ParsedResponse) (hlen : data.length < 4294967296)
    (hok : (protocolParseResponse tinfl heap data).1 = .ok r)
    (htype : r.messageType = msgServerFullResponse ∨ r.messageType = msgServerAck) :
    IsEncoding tinfl heap data r ↔ Wire.Exact data := by
  refine ⟨fun h => h.exact hlen, fun hexact => ?_⟩
  obtain ⟨-, hle, hmt, r₀, o, hfields, hread⟩ := protocolParseResponse_ok hlen hok htype
  obtain ⟨m, ack, seq, event, sid, hbody, hencode, hsid, hserial, hcomp, hr₀, hsize⟩ :=
    exists_message hexact hle hlen hmt htype hfields rfl
  exact ⟨m, ack, seq, event, sid, _, hbody, hencode, hsid,
    hread.isEncoding hbody hserial hcomp hr₀ hsize⟩

theorem accepted_isEncoding_iff_sampleAck :
    IsEncoding (fun _ _ _ => none) Heap.unlimited sampleAck.encode sampleAck.decoded ↔
      Wire.Exact sampleAck.encode :=
  accepted_isEncoding_iff _ _ _ _ (by decide) (by decide +kernel) (by decide)

/-- An ack that declares two bytes of payload and ends after one. -/
def truncatedAck : Bytes := [0x11, 0xB0, 0x10, 0, 0, 0, 0, 0, 0, 0, 0, 2, 97]

/-- It is accepted, and is the encoding of nothing. -/
theorem truncatedAck_accepted :
    ∃ r, (protocolParseResponse (fun _ _ _ => none) Heap.unlimited truncatedAck).1 = .ok r ∧
      r.messageType = msgServerAck ∧ r.payloadSize = 2 ∧ r.payloadDataLen = 1 ∧
      ¬ IsEncoding (fun _ _ _ => none) Heap.unlimited truncatedAck r := by
  have hsome :
      (protocolParseResponse (fun _ _ _ => none) Heap.unlimited truncatedAck).1.toOption.map
        (fun r => (r.messageType, r.payloadSize, r.payloadDataLen)) =
      some (msgServerAck, 2, 1) := by
    decide +kernel
  obtain ⟨r, hr, hfields⟩ := Option.map_eq_some_iff.mp hsome
  obtain ⟨hty, hfields⟩ := Prod.mk.inj hfields
  obtain ⟨hsize, hlen⟩ := Prod.mk.inj hfields
  -- one byte is there where two are declared
  have hne : ¬ Wire.Exact truncatedAck := fun h =>
    absurd h.payload (by decide +kernel)
  refine ⟨r, ?_, hty, hsize, hlen, fun h => hne (h.exact (by decide))⟩
  cases hp : (protocolParseResponse (fun _ _ _ => none) Heap.unlimited truncatedAck).1 with
  | error e =>
    rw [hp] at hr
    cases hr
  | ok r' =>
    rw [hp] at hr
    rw [Option.some.inj hr]

end BoxDoubao
