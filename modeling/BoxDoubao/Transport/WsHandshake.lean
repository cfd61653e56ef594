import BoxDoubao.Transport.WsConnect
import BoxDoubao.Transport.WsFaults

/-!
# What the handshake accepts

A `Response` is an upgrade response as a server writes it: a status line, header
lines and an empty line. `readResponse` stops behind it however the parent cuts
the stream, and the walk over the header is a fold over its lines.

The handshake then succeeds exactly where one line gives the key and what it
gives is the beginning of the expected key (`handshake_accepts_iff`): the empty
key is accepted, and so is any status that is no redirection.
-/

namespace TcpTransport

open CMemory WebSocket

/-! ### Responses -/

/-- Neither the end of a C string nor of a line stands in the text. -/
def Clean (text : Bytes) : Prop := (0 : UInt8) ∉ text ∧ (13 : UInt8) ∉ text

theorem Clean.append {a b : Bytes} (ha : Clean a) (hb : Clean b) : Clean (a ++ b) :=
  ⟨fun h => (List.mem_append.mp h).elim ha.1 hb.1, fun h => (List.mem_append.mp h).elim ha.2 hb.2⟩

/-- Header lines, each with its end. -/
def linesBytes (lines : List Bytes) : Bytes := lines.flatMap (· ++ crlf)

@[simp] theorem linesBytes_cons (line : Bytes) (lines : List Bytes) :
    linesBytes (line :: lines) = line ++ (crlf ++ linesBytes lines) := by
  rw [linesBytes, List.flatMap_cons, List.append_assoc]
  rfl

theorem length_le_linesBytes (lines : List Bytes) : lines.length ≤ (linesBytes lines).length := by
  induction lines with
  | nil => exact Nat.zero_le _
  | cons line lines ih =>
    rw [linesBytes_cons]
    simp only [crlf, List.length_append, List.length_cons]
    omega

/-- The three digits of a status code. -/
def statusDigits (n : Fin 1000) : Bytes :=
  [UInt8.ofNat (48 + n / 100), UInt8.ofNat (48 + n / 10 % 10), UInt8.ofNat (48 + n % 10)]

/-- A response to the upgrade request. -/
structure Response where
  status : Fin 1000
  reason : Bytes
  lines : List Bytes
  reason_clean : Clean reason
  lines_clean : ∀ line ∈ lines, line ≠ [] ∧ Clean line

namespace Response

variable (r : Response)

def statusLine : Bytes := ascii "HTTP/1.1 " ++ (statusDigits r.status ++ (ascii " " ++ r.reason))

/-- The response as it is sent. -/
def encode : Bytes := r.statusLine ++ (crlf ++ (linesBytes r.lines ++ crlf))

/-- The keys that the response gives. -/
def serverKeys : List Bytes :=
  (r.lines.filter (startsNoCase (ascii "Sec-WebSocket-Accept: "))).map (List.drop 22)

theorem length_encode :
    r.encode.length = r.statusLine.length + (linesBytes r.lines).length + 4 := by
  simp only [encode, crlf, List.length_append, List.length_cons, List.length_nil]
  omega

theorem statusLine_clean : Clean r.statusLine := by
  have hdigits : ∀ n : Fin 1000, (0 : UInt8) ∉ statusDigits n ∧ (13 : UInt8) ∉ statusDigits n := by
    decide +kernel
  have hversion : Clean (ascii "HTTP/1.1 ") := ⟨by decide, by decide⟩
  have hspace : Clean (ascii " ") := ⟨by decide, by decide⟩
  exact hversion.append (.append (hdigits r.status) (hspace.append r.reason_clean))

end Response

theorem linesBytes_no_zero {lines : List Bytes} (h : ∀ line ∈ lines, line ≠ [] ∧ Clean line) :
    (0 : UInt8) ∉ linesBytes lines := by
  rw [linesBytes, List.mem_flatMap]
  rintro ⟨line, hline, hzero⟩
  rcases List.mem_append.mp hzero with hzero | hzero
  · exact (h line hline).2.1 hzero
  · exact absurd hzero (by decide)

theorem Response.encode_no_zero (r : Response) : (0 : UInt8) ∉ r.encode := by
  simp only [Response.encode, List.mem_append, not_or]
  exact ⟨r.statusLine_clean.1, by decide, linesBytes_no_zero r.lines_clean, by decide⟩

theorem getHttpStatusCode_of_find {text : Bytes} {i j : ℕ}
    (hversion : find (ascii "http/") (text.map toLower) = some i)
    (hspace : find [32] (text.drop (i + 5)) = some j) :
    getHttpStatusCode text =
      if atoi ((text.drop (i + 5 + j + 1)).take 3) = 0 then -1
      else atoi ((text.drop (i + 5 + j + 1)).take 3) := by
  rw [getHttpStatusCode, hversion]
  simp only
  rw [hspace]

theorem atoi_statusDigits : ∀ n : Fin 1000, atoi (statusDigits n) = n.val := by decide +kernel

/-- The status of a response. -/
theorem getHttpStatusCode_encode (r : Response) (rest : Bytes) :
    getHttpStatusCode (r.encode ++ rest) = if r.status.val = 0 then -1 else (r.status.val : ℤ) := by
  obtain ⟨tail, htail⟩ : ∃ tail, r.encode ++ rest =
      ascii "HTTP/1.1 " ++ (statusDigits r.status ++ tail) :=
    ⟨ascii " " ++ r.reason ++ (crlf ++ (linesBytes r.lines ++ crlf)) ++ rest, by
      simp only [Response.encode, Response.statusLine, List.append_assoc]⟩
  have hversion : ascii "http/" <+: (ascii "HTTP/1.1 " ++ (statusDigits r.status ++ tail)).map
      toLower := by
    rw [List.map_append]
    exact (by decide : ascii "http/" <+: (ascii "HTTP/1.1 ").map toLower).trans
      (List.prefix_append _ _)
  have hspace : find [32] (ascii "1.1 " ++ (statusDigits r.status ++ tail)) = some 3 := by
    change find [32] ([49, 46, 49] ++ (32 :: (statusDigits r.status ++ tail))) = some 3
    have hhere : [32] <+: 32 :: (statusDigits r.status ++ tail) := List.prefix_append [32] _
    rw [find_append_of_not_mem rfl (by decide), find_of_isPrefix hhere]
    rfl
  have hdigits : (statusDigits r.status ++ tail).take 3 = statusDigits r.status :=
    List.take_left' rfl
  rw [htail, getHttpStatusCode_of_find (find_of_isPrefix hversion) hspace]
  change (if atoi ((statusDigits r.status ++ tail).take 3) = 0 then (-1 : ℤ)
    else atoi ((statusDigits r.status ++ tail).take 3)) = _
  rw [hdigits, atoi_statusDigits]
  simp only [Nat.cast_eq_zero]

/-! ### The end of the header -/

/-- Behind the end of a line, the empty line comes behind the lines. -/
theorem find_delimiter_lines {lines : List Bytes} (h : ∀ line ∈ lines, line ≠ [] ∧ Clean line)
    (rest : Bytes) :
    find delimiter (crlf ++ (linesBytes lines ++ (crlf ++ rest))) =
      some (linesBytes lines).length := by
  induction lines with
  | nil => exact find_of_isPrefix ⟨rest, rfl⟩
  | cons line lines ih =>
    obtain ⟨hne, hclean⟩ := h line List.mem_cons_self
    have hih := ih fun l hl => h l (List.mem_cons_of_mem line hl)
    cases line with
    | nil => exact absurd rfl hne
    | cons b bs =>
      -- a line that is not empty separates the two ends of lines
      have hb : b ≠ 13 := fun h => hclean.2 (h ▸ List.mem_cons_self)
      have hnot : ¬ delimiter <+:
          13 :: ([10] ++ ((b :: bs) ++ (crlf ++ (linesBytes lines ++ (crlf ++ rest))))) := by
        intro hp
        have h3 := (List.cons_prefix_cons.mp (List.cons_prefix_cons.mp
          (List.cons_prefix_cons.mp hp).2).2).1
        exact hb h3.symm
      rw [linesBytes_cons]
      simp only [List.append_assoc]
      change find delimiter (13 :: ([10] ++ ((b :: bs) ++ _))) = _
      rw [find_cons_of_not_isPrefix hnot, find_append_of_not_mem rfl (by decide),
        find_append_of_not_mem rfl hclean.2, hih]
      simp only [Option.map_some, crlf, List.length_append, List.length_cons, List.length_nil]
      congr 1
      omega

/-- The first empty line of a response is its last. -/
theorem find_delimiter_encode (r : Response) (rest : Bytes) :
    find delimiter (r.encode ++ rest) = some (r.encode.length - 4) := by
  have hsplit : r.encode ++ rest =
      r.statusLine ++ (crlf ++ (linesBytes r.lines ++ (crlf ++ rest))) := by
    simp only [Response.encode, List.append_assoc]
  rw [hsplit, find_append_of_not_mem rfl r.statusLine_clean.2, find_delimiter_lines r.lines_clean,
    Option.map_some, r.length_encode, Nat.add_sub_cancel, Nat.add_comm]

/-! ### Reading it -/

/-- Less than a response holds no empty line. -/
theorem find_delimiter_short {r : Response} {got rest more : Bytes}
    (hsplit : r.encode ++ rest = got ++ more) (hshort : got.length < r.encode.length) :
    find delimiter (cstr got) = none := by
  cases h : find delimiter (cstr got) with
  | none => rfl
  | some i =>
    -- it would be the first of the whole stream, which ends the response
    obtain ⟨tail, htail⟩ := cstr_isPrefix got
    have hfound : find delimiter (r.encode ++ rest) = some i := by
      rw [hsplit, ← htail, List.append_assoc]
      exact find_append h
    rw [find_delimiter_encode] at hfound
    have hi := Option.some.inj hfound
    have hle := (find_le h).trans (cstr_isPrefix got).length_le
    have hfour : delimiter.length = 4 := rfl
    have := r.length_encode
    omega

/-- The number of bytes read when `need` of them are there or the buffer is
full, of a stream of `available` bytes that the parent cuts by its answers. -/
def readCount : ℕ → Stream' ℤ → ℕ → ℕ → ℕ → ℕ
  | 0, _, _, _, got => got
  | turns + 1, answers, available, need, got =>
    let read := min (min answers.head.toNat (wsBufferSize - 1 - got)) (available - got)
    if got + read < need ∧ got + read < wsBufferSize - 1 then
      readCount turns answers.tail available need (got + read)
    else got + read

/-- A stream that is shorter than the buffer does not fill it. -/
theorem readCount_le {turns : ℕ} {answers : Stream' ℤ} {available need got : ℕ}
    (h : got ≤ available) : readCount turns answers available need got ≤ available := by
  induction turns generalizing answers got with
  | zero => exact h
  | succ turns ih =>
    rw [readCount]
    split
    · exact ih (by omega)
    · omega

/-- **The response is read however it is cut.** Behind the response, some of
what follows it may have come along. -/
theorem readResponse_encode {r : Response} {turns : ℕ} {inbound : Inbound} {got rest : Bytes}
    (hsplit : r.encode ++ rest = got ++ inbound.incoming) (hflows : inbound.reads.All (0 < ·))
    (hshort : got.length < r.encode.length) (hroom : got.length < wsBufferSize - 1)
    (hturns : wsBufferSize - 1 ≤ turns + got.length) :
    ∃ got' inbound', readResponse turns inbound got = some (got', inbound') ∧
      r.encode ++ rest = got' ++ inbound'.incoming ∧
      got'.length =
        readCount turns inbound.reads (r.encode ++ rest).length r.encode.length got.length ∧
      (r.encode.length ≤ got'.length ∨ wsBufferSize - 1 ≤ got'.length) := by
  induction turns generalizing got inbound with
  | zero => omega
  | succ turns ih =>
    have hhead : 0 < inbound.reads.head := hflows 0
    have hlen := congrArg List.length hsplit
    simp only [List.length_append] at hlen
    -- a read gives at least one byte
    obtain ⟨bytes, inbound₁, hread, hbytes, hrest, hreads₁⟩ : ∃ bytes inbound₁,
        inbound.read (wsBufferSize - 1 - got.length) = ((bytes.length : ℤ), bytes, inbound₁) ∧
        bytes.length = min (min inbound.reads.head.toNat (wsBufferSize - 1 - got.length))
          inbound.incoming.length ∧
        inbound.incoming = bytes ++ inbound₁.incoming ∧ inbound₁.reads = inbound.reads.tail :=
      ⟨_, _, Prod.ext (if_neg (by omega)) rfl, List.length_take, (List.take_append_drop _ _).symm,
        rfl⟩
    have hsplit₁ : r.encode ++ rest = (got ++ bytes) ++ inbound₁.incoming := by
      rw [hsplit, hrest, List.append_assoc]
    have hcount : got.length + min (min inbound.reads.head.toNat (wsBufferSize - 1 - got.length))
        ((r.encode ++ rest).length - got.length) = (got ++ bytes).length := by
      rw [List.length_append, List.length_append, hbytes]
      omega
    rw [readResponse, hread, readCount]
    simp only [hcount]
    rw [if_neg (by omega)]
    by_cases hmore : (got ++ bytes).length < r.encode.length ∧
        (got ++ bytes).length < wsBufferSize - 1
    · -- the empty line has not come yet
      rw [if_pos ⟨find_delimiter_short hsplit₁ hmore.1, hmore.2⟩, if_pos hmore, ← hreads₁]
      exact ih hsplit₁ (hreads₁ ▸ fun n => hflows (n + 1)) hmore.1 hmore.2
        (by rw [List.length_append]; omega)
    · rw [if_neg hmore]
      have hends : r.encode.length ≤ (got ++ bytes).length ∨
          wsBufferSize - 1 ≤ (got ++ bytes).length := by omega
      refine ⟨got ++ bytes, inbound₁, if_neg fun hgoes => ?_, hsplit₁, rfl, hends⟩
      -- behind the whole response the empty line is found
      have hwhole : r.encode.length ≤ (got ++ bytes).length :=
        hends.resolve_right (not_le.mpr hgoes.2)
      obtain ⟨more, hprefix⟩ : r.encode <+: got ++ bytes :=
        List.prefix_of_prefix_length_le ⟨rest, hsplit₁⟩ (List.prefix_append _ _) hwhole
      have hnone := hgoes.1
      rw [← hprefix, cstr_append r.encode_no_zero, find_delimiter_encode] at hnone
      cases hnone

/-! ### The walk over its lines -/

/-- The walk reads line after line, as long as their ends lie in the bytes it
may look at. -/
theorem walkHeader_lines {text rest : Bytes} {len delim turns cursor : ℕ} {lines : List Bytes}
    {found : Found} (h : ∀ line ∈ lines, line ≠ [] ∧ Clean line)
    (htext : text.drop cursor = linesBytes lines ++ (crlf ++ rest))
    (hdelim : delim + 2 = cursor + (linesBytes lines).length) (hturns : lines.length < turns)
    (hcursor : cursor ≤ len) :
    walkHeader text len delim turns cursor found =
      if delim + 2 ≤ len then lines.foldlM (fun found line => headerLine line found) found
      else none := by
  -- by the lines, with the cursor at the start of the first
  induction lines generalizing turns cursor found with
  | nil =>
    obtain ⟨turns, rfl⟩ := Nat.exists_eq_succ_of_ne_zero hturns.ne_bot
    rw [linesBytes, List.flatMap_nil, List.length_nil] at hdelim
    rw [walkHeader, if_neg (by omega), if_pos (by omega)]
    rfl
  | cons line lines ih =>
    obtain ⟨hne, hclean⟩ := h line List.mem_cons_self
    have hpos : 0 < line.length := List.length_pos_iff.mpr hne
    obtain ⟨turns, rfl⟩ := Nat.exists_eq_succ_of_ne_zero (Nat.ne_zero_of_lt hturns)
    rw [linesBytes_cons] at htext hdelim
    simp only [List.append_assoc] at htext
    have hcrlf : crlf.length = 2 := rfl
    simp only [List.length_append, hcrlf, List.length_cons] at hdelim hturns
    have hfind : find crlf (text.drop cursor) = some line.length := by
      rw [htext, find_append_of_not_mem rfl hclean.2, find_of_isPrefix (List.prefix_append _ _),
        Option.map_some, Nat.zero_add]
    have hnext : text.drop (cursor + line.length + 2) = linesBytes lines ++ (crlf ++ rest) := by
      rw [Nat.add_assoc, ← List.drop_drop, htext, ← List.append_assoc]
      exact List.drop_left' (by rw [List.length_append, hcrlf])
    rw [walkHeader, if_pos (by omega), findWithin_of_find hfind, hcrlf, List.foldlM_cons]
    by_cases hend : line.length + 2 ≤ len - cursor
    · rw [if_pos hend]
      obtain ⟨n, hn⟩ := Nat.exists_eq_succ_of_ne_zero hpos.ne'
      rw [hn]
      simp only
      rw [← hn, htext, List.take_left]
      cases headerLine line found with
      | none => exact (ite_self none).symm
      | some found' =>
        exact ih (fun l hl => h l (List.mem_cons_of_mem line hl)) hnext (by omega) (by omega)
          (by omega)
    · -- the end of this line is cut off, and so is that of the last one
      rw [if_neg hend, if_neg (by omega)]

/-- What the fold over the lines finds is the one key they give. -/
theorem foldlM_headerLine_serverKey {lines : List Bytes} {found : Found} {key : Bytes} :
    (∃ found', lines.foldlM (fun found line => headerLine line found) found = some found' ∧
      found'.serverKey = some key) ↔
      found.serverKey.toList ++
        (lines.filter (startsNoCase (ascii "Sec-WebSocket-Accept: "))).map (List.drop 22) =
        [key] := by
  induction lines generalizing found with
  | nil => cases h : found.serverKey <;> simp [h]
  | cons line lines ih =>
    rw [List.foldlM_cons]
    cases haccept : startsNoCase (ascii "Sec-WebSocket-Accept: ") line with
    | true =>
      cases hkey : found.serverKey with
      -- a second key ends the walk, and it makes the list of keys too long
      | some old => simp [headerLine, haccept, hkey]
      | none =>
        obtain ⟨found₁, hline, hfound₁⟩ : ∃ found₁, headerLine line found = some found₁ ∧
            found₁.serverKey = some (line.drop 22) := by
          refine ⟨_, by simp only [headerLine, haccept, hkey]; rfl, ?_⟩
          split <;> rfl
        rw [hline]
        refine Iff.trans ih ?_
        rw [hfound₁, List.filter_cons_of_pos haccept]
        rfl
    | false =>
      obtain ⟨found₁, hline, hfound₁⟩ : ∃ found₁, headerLine line found = some found₁ ∧
          found₁.serverKey = found.serverKey := by
        refine ⟨_, by simp only [headerLine, haccept]; rfl, ?_⟩
        split <;> rfl
      rw [hline]
      refine Iff.trans ih ?_
      rw [hfound₁, List.filter_cons_of_neg (by simp [haccept])]

/-! ### Acceptance -/

/-- The keys of a response hold no zero byte. -/
theorem Response.serverKey_no_zero {r : Response} {key : Bytes} (h : r.serverKeys = [key]) :
    (0 : UInt8) ∉ key := by
  have hmem : key ∈ r.serverKeys := h ▸ List.mem_singleton_self key
  obtain ⟨line, hline, rfl⟩ := List.mem_map.mp hmem
  have hclean := (r.lines_clean line (List.mem_filter.mp hline).1).2
  exact fun hzero => hclean.1 (List.mem_of_mem_drop hzero)

/-- The walk over a response. -/
theorem walkHeader_encode (r : Response) (rest : Bytes) {len : ℕ}
    (hlen : r.statusLine.length + 2 ≤ len) (found : Found) :
    walkHeader (r.encode ++ rest) len (r.encode.length - 4) ((r.encode ++ rest).length + 1)
        (r.statusLine.length + 2) found =
      if r.encode.length ≤ len + 2 then
        r.lines.foldlM (fun found line => headerLine line found) found
      else none := by
  have hsize := r.length_encode
  have hlines := length_le_linesBytes r.lines
  have hrest : (r.encode ++ rest).drop (r.statusLine.length + 2) =
      linesBytes r.lines ++ (crlf ++ rest) := by
    simp only [Response.encode, List.append_assoc]
    rw [← List.append_assoc]
    exact List.drop_left' (by rw [List.length_append]; rfl)
  rw [walkHeader_lines r.lines_clean hrest (by omega) (by rw [List.length_append]; omega) hlen]
  exact if_congr (by omega) rfl rfl

theorem find_crlf_encode (r : Response) (rest : Bytes) :
    find crlf (r.encode ++ rest) = some r.statusLine.length := by
  simp only [Response.encode, List.append_assoc]
  rw [find_append_of_not_mem rfl r.statusLine_clean.2, find_of_isPrefix (List.prefix_append _ _),
    Option.map_some, Nat.zero_add]

/-- A copy of the header that the application has asked for has room for it, but
perhaps not for the last two bytes. -/
def Response.CopyFits (r : Response) (config : HandshakeConfig) : Prop :=
  ∀ n ∈ config.responseHeaderLen, r.encode.length ≤ (n : ℕ) + 2

/-- What comes behind the response does not matter for the walk. -/
theorem Response.copyFits_iff {r : Response} {config : HandshakeConfig} (more : Bytes) :
    r.encode.length ≤ headerLen config (r.encode ++ more).length + 2 ↔ r.CopyFits config := by
  have hlen : (r.encode ++ more).length = r.encode.length + more.length := List.length_append
  unfold headerLen Response.CopyFits
  cases config.responseHeaderLen with
  | none =>
    simp only [Option.mem_def, reduceCtorEq, false_implies, implies_true, iff_true]
    omega
  | some n =>
    have hpos := n.pos
    simp only [Option.mem_some_iff, forall_eq']
    split <;> omega

/-- What `ws_connect` makes of a response that is no redirection. -/
theorem acceptResponse_encode {config : HandshakeConfig} {ws : TransportWs} {r : Response}
    {expected more : Bytes} (hfits : (r.encode ++ more).length < wsBufferSize - 1)
    (hredirect : isRedirect r.status.val = false) (hexpected : (0 : UInt8) ∉ expected) :
    (∃ ws', acceptResponse config ws expected (r.encode ++ more) = .connected ws') ↔
      r.CopyFits config ∧ r.status.val ≠ 0 ∧ ∃ key, r.serverKeys = [key] ∧ key <+: expected := by
  have hkeys : ∀ key, (∃ found, r.lines.foldlM (fun found line => headerLine line found)
      ⟨none, none⟩ = some found ∧ found.serverKey = some key) ↔ r.serverKeys = [key] := fun _ =>
    foldlM_headerLine_serverKey
  have hsize := r.length_encode
  have hcrlf : crlf.length = 2 := rfl
  rw [← Response.copyFits_iff more]
  unfold acceptResponse
  rw [if_neg (by omega), cstr_append r.encode_no_zero]
  simp only [find_delimiter_encode, findWithin_of_find (find_crlf_encode r _),
    getHttpStatusCode_encode, hcrlf]
  generalize headerLen config (r.encode ++ more).length = len
  by_cases hfirst : r.statusLine.length + 2 ≤ len
  case neg =>
    -- not even the end of the status line is looked at
    rw [if_neg hfirst]
    exact iff_of_false (fun ⟨ws', h⟩ => Connection.noConfusion h) fun h => by omega
  rw [if_pos hfirst]
  simp only [walkHeader_encode r _ hfirst]
  by_cases hcopy : r.encode.length ≤ len + 2
  case neg =>
    -- the walk stops at a line that is cut off
    rw [if_neg hcopy]
    refine iff_of_false (fun ⟨ws', h⟩ => ?_) fun h => hcopy h.1
    simp only at h
    split at h <;> cases h
  rw [if_pos hcopy, and_iff_right hcopy]
  by_cases hzero : r.status.val = 0
  · rw [if_pos hzero, if_pos rfl]
    exact iff_of_false (fun ⟨ws', h⟩ => Connection.noConfusion h) (fun h => h.1 hzero)
  · rw [if_neg hzero, if_neg (by omega), and_iff_right hzero]
    cases hwalk : r.lines.foldlM (fun found line => headerLine line found) ⟨none, none⟩ with
    | none =>
      refine iff_of_false (fun ⟨ws', h⟩ => Connection.noConfusion h) fun ⟨key, hkey, _⟩ => ?_
      obtain ⟨found, hfound, -⟩ := (hkeys key).mpr hkey
      rw [hwalk] at hfound
      cases hfound
    | some found =>
      simp only [hredirect, Bool.false_eq_true, if_false]
      cases hkey : found.serverKey with
      | none =>
        refine iff_of_false (fun ⟨ws', h⟩ => Connection.noConfusion h) fun ⟨key, hgiven, _⟩ => ?_
        obtain ⟨found', hfound, hnone⟩ := (hkeys key).mpr hgiven
        obtain rfl := Option.some.inj (hwalk.symm.trans hfound)
        rw [hkey] at hnone
        cases hnone
      | some key =>
        have hgiven : r.serverKeys = [key] := (hkeys key).mp ⟨found, hwalk, hkey⟩
        have hkeyPrefixed := strncmpEq_iff_isPrefix hexpected (Response.serverKey_no_zero hgiven)
        simp only
        by_cases hok : strncmpEq expected key key.length = true
        · rw [if_pos hok]
          exact iff_of_true ⟨_, rfl⟩ ⟨key, hgiven, hkeyPrefixed.mp hok⟩
        · rw [if_neg hok]
          refine iff_of_false (fun ⟨ws', h⟩ => Connection.noConfusion h) fun ⟨key', h', hp⟩ => ?_
          obtain rfl := List.singleton_inj.mp (hgiven.symm.trans h')
          exact hok (hkeyPrefixed.mpr hp)

section

variable {crypto : Crypto} {config : HandshakeConfig} {connectRet : ℤ} {host : Bytes} {port : ℕ}
  {ws ws' : TransportWs} {r : Response}

/-- The handshake consumes the response and nothing behind it. -/
theorem wsConnect_pending {randomKey : Option Bytes} {rest : Bytes}
    (hincoming : ws.inbound.incoming = r.encode ++ rest)
    (h : wsConnect crypto config connectRet randomKey host port ws = .connected ws') :
    ws'.pending = rest := by
  obtain ⟨head, hhead, hfound, hfour, -⟩ := wsConnect_connected h
  rw [hincoming] at hhead
  -- the first empty line of the stream is that of the response
  have hlen : head.length = r.encode.length := by
    have hr := r.length_encode
    have hd : delimiter.length = 4 := rfl
    rcases Nat.lt_or_ge head.length r.encode.length with hlt | hge
    · rw [find_delimiter_short hhead hlt] at hfound
      cases hfound
    · obtain ⟨more, rfl⟩ : r.encode <+: head :=
        List.prefix_of_prefix_length_le ⟨rest, hhead⟩ (List.prefix_append _ _) hge
      rw [cstr_append r.encode_no_zero, find_delimiter_encode] at hfound
      have := Option.some.inj hfound
      omega
  exact (List.append_inj_right hhead hlen.symm).symm

/-- **What the handshake accepts.** With the request sent and a response that is
no redirection ahead, cut anywhere, the handshake succeeds exactly where what
the reads give until the response is complete does not fill the buffer, a copy
of the header has room, and the response has a status and gives one key, which
is a prefix of the expected one. Everything behind the response is then still to
be read. -/
theorem handshake_accepts_iff {key request rest : Bytes} (hconnect : 0 ≤ connectRet)
    (hrequest : upgradeRequest config host port (crypto.base64 key) = some request)
    (hwritten : 0 < (ws.parentWrite request).1) (hflows : ws.Flows)
    (hincoming : ws.inbound.incoming = r.encode ++ rest)
    (hredirect : isRedirect r.status.val = false)
    (hclean : (0 : UInt8) ∉ expectedServerKey crypto (crypto.base64 key)) :
    (∃ ws', wsConnect crypto config connectRet (some key) host port ws = .connected ws' ∧
      ws'.pending = rest) ↔
      readCount wsBufferSize ws.inbound.reads (r.encode ++ rest).length r.encode.length 0 <
          wsBufferSize - 1 ∧
        r.CopyFits config ∧ r.status.val ≠ 0 ∧ ∃ serverKey, r.serverKeys = [serverKey] ∧
          serverKey <+: expectedServerKey crypto (crypto.base64 key) := by
  have hpos : 0 < r.encode.length := by
    rw [r.length_encode]
    omega
  obtain ⟨got, inbound, hread, hstream, hcount, hends⟩ :=
    @readResponse_encode r wsBufferSize (ws.parentWrite request).2.inbound [] rest
      hincoming.symm hflows hpos (by decide) (by decide)
  have hconnected : wsConnect crypto config connectRet (some key) host port ws =
      acceptResponse config { (ws.parentWrite request).2 with inbound := inbound }
        (expectedServerKey crypto (crypto.base64 key)) got := by
    unfold wsConnect
    simp only [if_neg (not_lt.mpr hconnect), hrequest, hread]
    exact if_neg (by omega)
  have hpending : (∃ ws', wsConnect crypto config connectRet (some key) host port ws =
      .connected ws' ∧ ws'.pending = rest) ↔
      ∃ ws', wsConnect crypto config connectRet (some key) host port ws = .connected ws' :=
    ⟨fun ⟨ws', h, _⟩ => ⟨ws', h⟩, fun ⟨ws', h⟩ => ⟨ws', h, wsConnect_pending hincoming h⟩⟩
  change got.length = readCount wsBufferSize ws.inbound.reads _ _ 0 at hcount
  rw [hpending, hconnected, ← hcount]
  by_cases hfull : got.length < wsBufferSize - 1
  · -- the reads have ended behind the response
    obtain ⟨more, rfl⟩ : r.encode <+: got :=
      List.prefix_of_prefix_length_le ⟨rest, hstream⟩ (List.prefix_append _ _)
        (hends.resolve_right (not_le.mpr hfull))
    rw [and_iff_right hfull]
    exact acceptResponse_encode hfull hredirect hclean
  · -- a full buffer is refused, whatever it holds
    have hfailed : acceptResponse config { (ws.parentWrite request).2 with inbound := inbound }
        (expectedServerKey crypto (crypto.base64 key)) got = .failed := if_pos (not_lt.mp hfull)
    rw [hfailed]
    exact iff_of_false (fun ⟨ws', h⟩ => Connection.noConfusion h) fun h => hfull h.1

/-- The example of RFC 6455. -/
def sampleNonce : Bytes := ascii "the sample nonce"

def sampleClientKey : Bytes := ascii "dGhlIHNhbXBsZSBub25jZQ=="

def sampleDigest : Bytes :=
  [179, 122, 79, 44, 192, 98, 79, 22, 144, 246, 70, 6, 207, 56, 89, 69, 178, 190, 196, 234]

/-- Base64 and SHA-1 on the values of that key. -/
def sampleCrypto : Crypto where
  base64 b := if b = sampleNonce then sampleClientKey
    else if b = sampleDigest then ascii "s3pPLMBiTxaQ9kYGzzhZRbK+xOo=" else []
  sha1 b :=
    if b = sampleClientKey ++ ascii "258EAFA5-E914-47DA-95CA-C5AB0DC85B11" then sampleDigest else []

def sampleConfig : HandshakeConfig := ⟨ascii "/chat", none, none, none, none, none⟩

/-- The response that goes with it. -/
def sampleResponse : Response where
  status := 101
  reason := ascii "Switching Protocols"
  lines := [ascii "Upgrade: websocket", ascii "Connection: Upgrade",
    ascii "Sec-WebSocket-Accept: s3pPLMBiTxaQ9kYGzzhZRbK+xOo="]
  reason_clean := ⟨by decide, by decide⟩
  lines_clean := by
    intro line hline
    simp only [List.mem_cons, List.not_mem_nil, or_false] at hline
    rcases hline with rfl | rfl | rfl <;> exact ⟨by decide, by decide, by decide⟩

/-- A transport to a server that sends a response and then the stream, of which
the parent gives `n` bytes at a time. -/
def answering (n : ℤ) (stream : Bytes) : TransportWs :=
  { slowTransport true [] with
    inbound := ⟨sampleResponse.encode ++ stream, Stream'.const n, Stream'.const 1⟩
    outbound := ⟨[], Stream'.const 1000, Stream'.const 1⟩ }

def sampleRequest : Bytes :=
  (upgradeRequest sampleConfig (ascii "example") 443 sampleClientKey).getD []

theorem handshake_accepts_iff_sample :
    ∃ ws', wsConnect sampleCrypto sampleConfig 0 (some sampleNonce) (ascii "example") 443
        (answering 7 [130, 0]) = .connected ws' ∧ ws'.pending = [130, 0] :=
  have hrequest : upgradeRequest sampleConfig (ascii "example") 443
      (sampleCrypto.base64 sampleNonce) = some sampleRequest := by decide +kernel
  have hflows : (answering 7 [130, 0]).Flows := fun _ => (by decide : (0 : ℤ) < 7)
  have hincoming : (answering 7 [130, 0]).inbound.incoming = sampleResponse.encode ++ [130, 0] :=
    rfl
  -- all there is does not fill the buffer
  have hroom : readCount wsBufferSize (answering 7 [130, 0]).inbound.reads
      (sampleResponse.encode ++ [130, 0]).length sampleResponse.encode.length 0 <
        wsBufferSize - 1 :=
    Nat.lt_of_le_of_lt (readCount_le (Nat.zero_le _)) (by decide +kernel)
  (handshake_accepts_iff (le_refl 0) hrequest (by decide +kernel) hflows hincoming
    (by decide +kernel) (by decide +kernel)).mpr
    ⟨hroom, fun n hn => absurd hn (by simp [sampleConfig]), by decide, _, rfl,
      by decide +kernel⟩

/-- The handshake of the example. -/
def sampleConnect (ws : TransportWs) : Connection :=
  wsConnect sampleCrypto sampleConfig 0 (some sampleNonce) (ascii "example") 443 ws

def Connection.transport : Connection → Option TransportWs
  | .connected ws => some ws
  | _ => none

theorem Connection.transport_eq_some {c : Connection} (h : c.transport = some ws) :
    c = .connected ws := by
  cases c with
  | connected ws' => rw [Option.some.inj h]
  | failed => cases h
  | redirected code host => cases h

/-- **A reconnection inside a frame.** The handshake keeps the state of the last
frame, so where the connection was lost with part of a payload to come, the
first bytes of the new stream are returned as that part, each piece unmasked
with the old key. -/
theorem reconnect_continues_frame {randomKey : Option Bytes} {f : Frame} {left : ℕ}
    {stream : Bytes} {buffers datas : List Bytes} {ws'' : TransportWs}
    (hstate : ws.frameState = FrameState.of f left) (hleft : 0 < left) (hpayload : f.payload ≠ [])
    (hincoming : ws.inbound.incoming = r.encode ++ stream) (hlong : left ≤ stream.length)
    (h : wsConnect crypto config connectRet randomKey host port ws = .connected ws')
    (hflows : ws.Flows) (hbuffers : ∀ b ∈ buffers, b ≠ [])
    (hrun : pieces.run ws' buffers = some (ws'', datas)) (hcovers : Covers datas left) :
    ∃ ps : List Bytes, ps.flatten = stream.take left ∧
      datas = ps.map (applyMask (f.key.getD MaskKey.zero) 0) := by
  obtain ⟨-, -, -, -, hkept, -, hkeeps⟩ := wsConnect_connected h
  have hlen : (stream.take left).length = left := List.length_take_of_le hlong
  -- the old frame's state with the new stream behind it
  have hinside : ws'.Inside f (stream.take left) (stream.drop left) := by
    refine ⟨by rw [hkept, hstate, hlen], ?_⟩
    rw [List.take_append_drop]
    exact wsConnect_pending hincoming h
  refine pieces_of_inside (hkeeps.flows hflows) hinside hpayload ?_ hbuffers hrun ?_
  · exact List.ne_nil_of_length_pos (by omega)
  · rwa [hlen]

/-- Two bytes of the reply had not come when the connection was lost. -/
def lostConnection : TransportWs :=
  { answering 200 (encodeAll pingAndReply) with frameState := FrameState.of helloReply 2 }

theorem reconnect_continues_frame_lostReply : ∃ ws' ws'' datas,
    sampleConnect lostConnection = .connected ws' ∧
      pieces.run ws' [[0, 0, 0]] = some (ws'', datas) ∧
      datas.flatten = (encodeAll pingAndReply).take 2 := by
  have hdatas : ((sampleConnect lostConnection).transport.bind fun ws' =>
      (pieces.run ws' [[0, 0, 0]]).map Prod.snd) = some [[137, 1]] := by decide +kernel
  obtain ⟨ws', hws', hrun⟩ := Option.bind_eq_some_iff.mp hdatas
  obtain ⟨⟨ws'', datas⟩, hrun, rfl⟩ := Option.map_eq_some_iff.mp hrun
  have hconnected := Connection.transport_eq_some hws'
  have hstate : lostConnection.frameState = FrameState.of helloReply 2 := rfl
  have hincoming : lostConnection.inbound.incoming =
      sampleResponse.encode ++ encodeAll pingAndReply := rfl
  obtain ⟨ps, hps, hmasked⟩ := reconnect_continues_frame hstate (by decide) (by decide) hincoming
    (by decide) hconnected (fun _ => (by decide : (0 : ℤ) < 200)) (nonempty_buffers 1) hrun
    ⟨by decide, by decide⟩
  refine ⟨ws', ws'', [[137, 1]], hconnected, hrun, ?_⟩
  rw [← hps, hmasked]
  exact congrArg List.flatten (List.map_id'' (fun p => applyMask_zero 0 p) ps)

end

end TcpTransport
