import BoxDoubao.Protocol.GzipCompress
import BoxDoubao.Protocol.RoundTrip
import BoxDoubao.Protocol.Safety

/-!
# `gzip_decompress` on a gzip member

The header walk finds the deflate body of every member shorter than `2 ^ 31`
bytes, whichever of the optional fields it has: each field has a lemma that
starts where it stands and ends behind it, `gzipBody_encode` composes them, and
`gzipDecompress_slice` says that this body is what is inflated.

What miniz makes of the body is assumed (`Miniz.Lawful`). The body is then
inflated when its content fits in a buffer that was sized once, from the length
of the member; `gzipDecompress_member_iff` says that nothing else decides.

What `gzip_compress` returns is a member too, but not one that encodes its
input: the body holds the bytes at `&in_ptr`. So `gzip_decompress` undoes
`gzip_compress` where these are by chance the input's, and for `{}`, which does
not go through miniz.
-/

namespace BoxDoubao

open CMemory

/-! ### The header walk on a member -/

section Walk

variable {data rest : Bytes} {offset : ℕ} (hlen : data.length < 2147483648)

include hlen

theorem skipExtra_at (m : GzipMember) (h : At data offset (m.extraField ++ rest)) :
    skipExtra m.flags data offset = .ok (offset + m.extraField.length) := by
  have hsize := h.length
  unfold skipExtra
  cases hextra : m.extra with
  | none =>
    have hfield : m.extraField = [] := by
      unfold GzipMember.extraField
      rw [hextra]
    have hflag : ¬ m.flags &&& 0x04 ≠ 0 := by
      rw [m.flags_extra, hextra]
      exact Bool.false_ne_true
    rw [if_neg hflag, hfield]
    rfl
  | some bytes =>
    have hfield : m.extraField =
        UInt8.ofNat bytes.length :: UInt8.ofNat (bytes.length / 256) :: bytes := by
      unfold GzipMember.extraField
      rw [hextra]
    have hflag : m.flags &&& 0x04 ≠ 0 := by
      rw [m.flags_extra, hextra]
      rfl
    rw [hfield, List.length_append, List.length_cons, List.length_cons] at hsize
    have hword := GzipMember.extra_word (m.extra_length bytes hextra)
    -- the two bytes of the length
    have hlo := h.drop
    rw [hfield] at hlo
    have hhi : data.drop (offset + 1) = UInt8.ofNat (bytes.length / 256) :: (bytes ++ rest) := by
      rw [← List.drop_drop, hlo]
      rfl
    rw [if_pos hflag, sz_of_lt (by omega), if_neg (by omega), bind_ok (load_of_drop hlo),
      bind_ok (load_of_drop hhi)]
    simp only [hword]
    rw [sz_of_lt (by omega : 2 + bytes.length < 4294967296), sz_of_lt (by omega), hfield,
      List.length_cons, List.length_cons, Nat.add_comm 2]
    rfl

omit hlen in
/-- The loop stops at the terminator. -/
theorem scanNul_terminated {chars : Bytes} (hfree : 0 ∉ chars) (offset : ℕ) :
    scanNul (chars ++ 0 :: rest) offset = offset + chars.length := by
  induction chars generalizing offset with
  | nil =>
    show (if (0 : UInt8) ≠ 0 then _ else offset) = offset
    exact if_neg (fun h => h rfl)
  | cons b chars ih =>
    have hb : b ≠ 0 := fun h => hfree (h ▸ List.mem_cons_self)
    show (if b ≠ 0 then scanNul (chars ++ 0 :: rest) (offset + 1) else offset) = _
    rw [if_pos hb, ih (fun h => hfree (List.mem_cons_of_mem b h)), List.length_cons]
    omega

theorem skipString_at {mask flags : UInt8} (s : Option CString)
    (hflag : flags &&& mask ≠ 0 ↔ s.isSome = true)
    (h : At data offset (GzipMember.stringField s ++ rest)) :
    skipString mask flags data offset = offset + (GzipMember.stringField s).length := by
  have hsize := h.length
  unfold skipString
  cases s with
  | none => exact if_neg (fun hc => Bool.false_ne_true (hflag.mp hc))
  | some s =>
    have hdrop : data.drop offset = s.chars ++ 0 :: rest := by
      rw [h.drop]
      exact List.append_assoc _ _ _
    have hfield : (GzipMember.stringField (some s)).length = s.chars.length + 1 :=
      List.length_append
    rw [List.length_append, hfield] at hsize
    rw [if_pos (hflag.mpr rfl), hdrop, scanNul_terminated s.nulFree, hfield]
    exact sz_of_lt (by omega)

theorem skipHeaderCrc_at (m : GzipMember) (h : At data offset (m.headerCrcField ++ rest)) :
    skipHeaderCrc m.flags offset = offset + m.headerCrcField.length := by
  have hsize := h.length
  unfold skipHeaderCrc
  cases hcrc : m.headerCrc with
  | none =>
    have hflag : ¬ m.flags &&& 0x02 ≠ 0 := by
      rw [m.flags_headerCrc, hcrc]
      exact Bool.false_ne_true
    rw [if_neg hflag, GzipMember.headerCrcField, hcrc]
    rfl
  | some crc =>
    have hflag : m.flags &&& 0x02 ≠ 0 := by
      rw [m.flags_headerCrc, hcrc]
      rfl
    have hfield : m.headerCrcField.length = 2 := by
      unfold GzipMember.headerCrcField
      rw [hcrc]
      rfl
    rw [List.length_append, hfield] at hsize
    rw [if_pos hflag, hfield]
    exact sz_of_lt (by omega)

end Walk

/-- **The header walk finds the body.** -/
theorem gzipBody_encode (m : GzipMember) (hlen : m.encode.length < 2147483648)
    (hbody : m.body ≠ []) :
    ∃ offset, gzipBody m.encode = .ok (offset, m.body.length) ∧
      At m.encode offset (m.body ++ m.trailer) := by
  have hpos : 0 < m.body.length := List.length_pos_iff.mpr hbody
  -- the cursor behind each of the fields
  have h₁ : At m.encode 10 (m.extraField ++ (GzipMember.stringField m.name ++
      (GzipMember.stringField m.comment ++ (m.headerCrcField ++ (m.body ++ m.trailer))))) :=
    ⟨by rw [GzipMember.encode, List.length_append, m.length_fixedHeader]; omega, rfl⟩
  have h₂ := h₁.advance
  have h₃ := h₂.advance
  have h₄ := h₃.advance
  have h₅ := h₄.advance
  have hsize := h₅.length
  rw [List.length_append, m.length_trailer] at hsize
  refine ⟨_, ?_, h₅⟩
  have hten : ¬ m.encode.length < 10 := by omega
  -- magic and method are those of every member
  have hid₁ : load m.encode 0 = .ok 0x1F := rfl
  have hid₂ : load m.encode 1 = .ok 0x8B := rfl
  have hflags : load m.encode 3 = .ok m.flags := rfl
  unfold gzipBody
  rw [if_neg hten, bind_ok hid₁, if_neg (fun h => h rfl), bind_ok hid₂, if_neg (fun h => h rfl),
    bind_ok hflags, bind_ok (skipExtra_at hlen m h₁)]
  simp only [skipString_at hlen m.name m.flags_name h₂,
    skipString_at hlen m.comment m.flags_comment h₃, skipHeaderCrc_at hlen m h₄]
  -- the trailer is there, so it is cut off
  rw [if_neg (by omega), deflateLen_eq hlen (by omega), if_neg (by omega)]
  refine congrArg Except.ok (Prod.ext rfl ?_)
  show _ - _ - 8 = m.body.length
  omega

/-- `gzip_decompress` from the allocation of its output buffer on, when `src`
is the slice it has found. -/
def inflateSlice (tinfl : Tinfl) (heap : Heap) (cap : ℕ) (src : Bytes) :
    Except Stop Bytes × Heap :=
  match heap.mallocFallback with
  | (false, heap) => (.error .failure, heap)
  | (true, heap) =>
    match inflateEither tinfl cap src with
    | some out => (.ok out, heap)
    | none => (.error .failure, heap.free)

theorem gzipDecompress_of_slice {data src : Bytes} {start len : ℕ}
    (hwalk : gzipBody data = .ok (start, len)) (hslice : loadRange data start len = .ok src)
    (tinfl : Tinfl) (heap : Heap) :
    gzipDecompress tinfl heap data = inflateSlice tinfl heap (inflateCapacity data.length) src := by
  unfold gzipDecompress inflateSlice
  rw [hwalk]
  rcases heap.mallocFallback with ⟨_ | _, heap'⟩
  · rfl
  · cases hout : inflateEither tinfl (inflateCapacity data.length) src with
    | none => simp only [hslice, hout]
    | some out => simp only [hslice, hout]

/-- The slice begins behind the header. -/
theorem gzipBody_header (m : GzipMember) (hlen : m.encode.length < 2147483648)
    (hbody : m.body ≠ []) :
    gzipBody m.encode = .ok (m.header.length, m.body.length) ∧
      loadRange m.encode m.header.length m.body.length = .ok m.body := by
  obtain ⟨offset, hwalk, hat⟩ := gzipBody_encode m hlen hbody
  -- two splits of the member with the same second part
  have hoffset : offset = m.header.length := by
    have hsize := hat.length
    rw [m.encode_eq, List.length_append] at hsize
    exact (Nat.add_right_cancel hsize).symm
  rw [← hoffset]
  refine ⟨hwalk, ?_⟩
  rw [loadRange_of_drop hat.le hat.drop le_rfl, List.take_length]

/-- **The slice that is inflated is the deflate body** of every member shorter
than `2 ^ 31` bytes, whatever miniz does with it. -/
theorem gzipDecompress_slice (m : GzipMember) (hlen : m.encode.length < 2147483648)
    (hbody : m.body ≠ []) :
    m.encode = m.header ++ (m.body ++ m.trailer) ∧
      gzipBody m.encode = .ok (m.header.length, m.body.length) ∧
      loadRange m.encode m.header.length m.body.length = .ok m.body ∧
      ∀ (tinfl : Tinfl) (heap : Heap), gzipDecompress tinfl heap m.encode =
        inflateSlice tinfl heap (inflateCapacity m.encode.length) m.body := by
  obtain ⟨hwalk, hslice⟩ := gzipBody_header m hlen hbody
  exact ⟨m.encode_eq, hwalk, hslice, gzipDecompress_of_slice hwalk hslice⟩

/-- Two spaces as a stored block, behind all four of the optional fields. -/
def fullMember : GzipMember where
  text := true
  mtime := 0x12345678
  extraFlags := 0x04
  os := 3
  extra := some [0, 0x1F, 0x8B]
  extra_length := fun _ h => Option.some.inj h ▸ Nat.lt_of_sub_eq_succ rfl
  name := some (CString.ofBytes [97, 46, 98])
  comment := some (CString.ofBytes [99])
  headerCrc := some (0x68, 0x73)
  body := [1, 2, 0, 0xFD, 0xFF, 32, 32]
  crc := 0xEF331695
  inputSize := 2

/-- A library that copies its source shows what it was given. -/
theorem gzipDecompress_slice_full :
    (gzipDecompress (fun _ src _ => some src) Heap.unlimited fullMember.encode).1 =
      .ok [1, 2, 0, 0xFD, 0xFF, 32, 32] := by
  obtain ⟨-, -, -, hinflates⟩ := gzipDecompress_slice fullMember (by decide) (by decide)
  rw [hinflates]
  rfl

/-! ### What miniz does -/

/-- The contract of miniz, with `inflate` for what a raw deflate stream
decodes to (`none` where the bytes are not one complete stream) and `isZlib`
for the streams with a zlib header. -/
structure Miniz.Lawful (lib : Miniz) (inflate : Bytes → Option Bytes) (isZlib : Bytes → Prop) :
    Prop where
  /-- Without flags a complete stream is inflated when its content fits. -/
  tinfl_raw : ∀ cap src out, inflate src = some out → out.length ≤ cap →
    lib.tinfl cap src 0 = some out
  /-- It fails on everything else. -/
  tinfl_fails : ∀ cap src, (∀ out, inflate src = some out → cap < out.length) →
    lib.tinfl cap src 0 = none
  tinfl_zlib : ∀ cap src, ¬ isZlib src →
    lib.tinfl cap src (tinflFlagParseZlibHeader ||| tinflFlagComputeAdler32) = none
  tdefl_inflates : ∀ data cap, (lib.tdeflCompress data cap).done = true →
    (lib.tdeflCompress data cap).inBytes = data.length →
    inflate (lib.tdeflCompress data cap).out = some data
  /-- A stream has at least one block. -/
  inflate_nil : inflate [] = none
  /-- One block with the fixed codes: two literals and the end of the block. -/
  inflate_emptyObject : inflate emptyObjectBody = some emptyObject

/-- The buffer does not wrap for members below `2 ^ 28` bytes. -/
theorem inflateCapacity_eq {n : ℕ} (h : n < 268435456) : inflateCapacity n = max 4096 (8 * n) := by
  have hsz : sz (n * 8) = 8 * n := by
    rw [Nat.mul_comm]
    exact sz_of_lt (by omega)
  unfold inflateCapacity
  rw [hsz]
  split <;> omega

section Member

variable {lib : Miniz} {inflate : Bytes → Option Bytes} {isZlib : Bytes → Prop}
  (hlib : lib.Lawful inflate isZlib)

include hlib

theorem inflateEither_eq {cap : ℕ} {src : Bytes} (hzlib : ¬ isZlib src) :
    inflateEither lib.tinfl cap src = lib.tinfl cap src 0 := by
  unfold inflateEither
  rw [hlib.tinfl_zlib cap src hzlib]

/-- **A member is inflated exactly when its content fits.** -/
theorem gzipDecompress_member {m : GzipMember} {x : Bytes} (hx : inflate m.body = some x)
    (hzlib : ¬ isZlib m.body) (hlen : m.encode.length < 268435456) {heap : Heap}
    (halloc : heap.mallocFallback.1 = true) :
    (gzipDecompress lib.tinfl heap m.encode).1 =
      if x.length ≤ max 4096 (8 * m.encode.length) then .ok x else .error .failure := by
  have hbody : m.body ≠ [] := by
    intro hnil
    rw [hnil, hlib.inflate_nil] at hx
    cases hx
  obtain ⟨hwalk, hslice⟩ := gzipBody_header m (by omega) hbody
  obtain ⟨heap', hgranted⟩ : ∃ heap', heap.mallocFallback = (true, heap') :=
    ⟨heap.mallocFallback.2, Prod.ext halloc rfl⟩
  rw [gzipDecompress_of_slice hwalk hslice]
  unfold inflateSlice
  simp only [hgranted, inflateEither_eq hlib hzlib, inflateCapacity_eq hlen]
  by_cases hfits : x.length ≤ max 4096 (8 * m.encode.length)
  · rw [if_pos hfits, hlib.tinfl_raw _ _ x hx hfits]
  · -- the body has one content, and that one is too long
    have hfails : ∀ out, inflate m.body = some out →
        max 4096 (8 * m.encode.length) < out.length := by
      intro out hout
      obtain rfl := Option.some.inj (hx.symm.trans hout)
      exact not_le.mp hfits
    rw [if_neg hfits, hlib.tinfl_fails _ _ hfails]

theorem gzipDecompress_member_iff {m : GzipMember} {x : Bytes} (hx : inflate m.body = some x)
    (hzlib : ¬ isZlib m.body) (hlen : m.encode.length < 268435456) {heap : Heap}
    (halloc : heap.mallocFallback.1 = true) :
    (gzipDecompress lib.tinfl heap m.encode).1 = .ok x ↔
      x.length ≤ max 4096 (8 * m.encode.length) := by
  rw [gzipDecompress_member hlib hx hzlib hlen halloc]
  by_cases hfits : x.length ≤ max 4096 (8 * m.encode.length)
  · rw [if_pos hfits]
    exact ⟨fun _ => hfits, fun _ => rfl⟩
  · rw [if_neg hfits]
    exact ⟨nofun, fun h => absurd h hfits⟩

/-- What `gzip_compress` returns is a member whose body encodes the bytes at
`&in_ptr`, or for `{}` the input. -/
theorem gzipCompress_member {fresh : ℕ → UInt8} {inPtr : InPtr} {heap : Heap} {now : UInt32}
    {x z : Bytes} (h : (gzipCompress lib fresh inPtr heap now x).1 = .ok z) :
    ∃ m : GzipMember, m.encode = z ∧ m.crc = crc32Calc x ∧ m.inputSize = UInt32.ofNat x.length ∧
      inflate m.body = some (if x = emptyObject then x else inPtr.bytes x.length) := by
  obtain ⟨body, rfl, hbody⟩ := gzipCompress_ok h
  refine ⟨memberOf now x body, rfl, rfl, rfl, ?_⟩
  -- from the table, or from miniz
  obtain ⟨rfl, rfl⟩ | ⟨hgeneral, hdone, hall, rfl⟩ := hbody
  · rw [if_pos rfl]
    exact hlib.inflate_emptyObject
  · rw [if_neg hgeneral]
    exact hlib.tdefl_inflates _ _ hdone (by rw [InPtr.length_bytes]; exact hall)

/-- `gzip_decompress` undoes `gzip_compress` where the bytes at `&in_ptr` are
the input's. -/
theorem gzipDecompress_gzipCompress_iff {fresh : ℕ → UInt8} {inPtr : InPtr} {heap : Heap}
    {now : UInt32} {x z : Bytes} (h : (gzipCompress lib fresh inPtr heap now x).1 = .ok z) :
    ∃ m : GzipMember, m.encode = z ∧
      (¬ isZlib m.body → z.length < 268435456 → ∀ heap : Heap, heap.mallocFallback.1 = true →
        ((gzipDecompress lib.tinfl heap z).1 = .ok x ↔
          (x = emptyObject ∨ inPtr.bytes x.length = x) ∧ x.length ≤ max 4096 (8 * z.length))) := by
  obtain ⟨m, rfl, -, -, hbody⟩ := gzipCompress_member hlib h
  refine ⟨m, rfl, fun hzlib hlen heap halloc => ?_⟩
  rw [gzipDecompress_member hlib hbody hzlib hlen halloc]
  by_cases hspecial : x = emptyObject
  · -- two bytes always fit
    have hfits : x.length ≤ max 4096 (8 * m.encode.length) := by
      rw [hspecial]
      exact le_max_of_le_left (by decide)
    rw [if_pos hspecial, if_pos hfits]
    exact iff_of_true rfl ⟨Or.inl hspecial, hfits⟩
  · rw [if_neg hspecial, InPtr.length_bytes]
    by_cases hfits : x.length ≤ max 4096 (8 * m.encode.length)
    · rw [if_pos hfits]
      refine ⟨fun hsame => ⟨Or.inr (Except.ok.inj hsame), hfits⟩, ?_⟩
      rintro ⟨hsame | hsame, -⟩
      · exact absurd hsame hspecial
      · rw [hsame]
    · rw [if_neg hfits]
      exact iff_of_false (fun hfail => by cases hfail) (fun hboth => hfits hboth.2)

/-- **`gzip_decompress` undoes gzip encoding** exactly up to the size of its
buffer: of every member whose body is not also a zlib stream. Of what
`gzip_compress` returns it makes the input where this is `{}` or, in addition to
fitting the buffer, what stands at `&in_ptr`. -/
theorem gzipDecompress_undoes_iff :
    (∀ (m : GzipMember) (x : Bytes) (heap : Heap), inflate m.body = some x →
      ¬ isZlib m.body → m.encode.length < 268435456 → heap.mallocFallback.1 = true →
      ((gzipDecompress lib.tinfl heap m.encode).1 = .ok x ↔
        x.length ≤ max 4096 (8 * m.encode.length))) ∧
    (∀ (fresh : ℕ → UInt8) (inPtr : InPtr) (heap : Heap) (now : UInt32) (x z : Bytes),
      (gzipCompress lib fresh inPtr heap now x).1 = .ok z →
      ∃ m : GzipMember, m.encode = z ∧
        (¬ isZlib m.body → z.length < 268435456 → ∀ heap : Heap,
          heap.mallocFallback.1 = true →
          ((gzipDecompress lib.tinfl heap z).1 = .ok x ↔
            (x = emptyObject ∨ inPtr.bytes x.length = x) ∧
              x.length ≤ max 4096 (8 * z.length)))) := by
  constructor
  · intro m x heap hx hzlib hlen halloc
    exact gzipDecompress_member_iff hlib hx hzlib hlen halloc
  · intro fresh inPtr heap now x z hz
    exact gzipDecompress_gzipCompress_iff hlib hz

end Member

/-! ### A library with one more stream -/

/-- What two streams inflate to: the one of `{}` and another. -/
def inflateTable (body content : Bytes) (src : Bytes) : Option Bytes :=
  if src = emptyObjectBody then some emptyObject
  else if src = body then some content
  else none

/-- Without flags, what the table says is written if it fits. -/
def tableTinfl (body content : Bytes) : Tinfl := fun cap src flags =>
  if flags = 0 then (inflateTable body content src).filter (·.length ≤ cap) else none

/-- miniz as far as these two streams go. -/
def tableLib (body content : Bytes) : Miniz where
  tinfl := tableTinfl body content
  tdeflInit := true
  tdeflCompress data _ :=
    { done := decide (data = content), inBytes := data.length, out := body }

/-- The contract holds of a stream that is not empty nor the one of `{}`. -/
theorem tableLib_lawful {body content : Bytes} (hne : body ≠ []) (hother : body ≠ emptyObjectBody) :
    (tableLib body content).Lawful (inflateTable body content) (fun _ => False) where
  tinfl_raw := by
    intro cap src out hout hfits
    show (inflateTable body content src).filter _ = _
    rw [hout]
    exact Option.filter_some_pos (decide_eq_true hfits)
  tinfl_fails := by
    intro cap src hlong
    show (inflateTable body content src).filter _ = _
    cases hout : inflateTable body content src with
    | none => rfl
    | some out => exact Option.filter_some_neg (decide_eq_false (not_le.mpr (hlong out hout)))
  tinfl_zlib := by
    intro cap src _
    have hflags : ¬ tinflFlagParseZlibHeader ||| tinflFlagComputeAdler32 = 0 := by decide
    show tableTinfl body content cap src
      (tinflFlagParseZlibHeader ||| tinflFlagComputeAdler32) = none
    rw [tableTinfl, if_neg hflags]
  tdefl_inflates := by
    intro data cap hdone _
    obtain rfl : data = content := of_decide_eq_true hdone
    show inflateTable body data body = some data
    rw [inflateTable, if_neg hother, if_pos rfl]
  inflate_nil := by
    unfold inflateTable
    rw [if_neg (by decide), if_neg hne.symm]
  inflate_emptyObject := if_pos rfl

/-- A deflate stream of five thousand zero bytes. -/
def zerosBody : Bytes :=
  [237, 193, 49, 1, 0, 0, 0, 194, 160, 245, 79, 109, 10, 63, 160, 0, 0, 0, 0, 128, 183, 1]

def zeros : Bytes := List.replicate 5000 0

theorem zerosLib_lawful :
    (tableLib zerosBody zeros).Lawful (inflateTable zerosBody zeros) (fun _ => False) :=
  tableLib_lawful (by decide) (by decide)

/-- The member of 40 bytes that encodes them. -/
def zerosMember : GzipMember := memberOf 0 zeros zerosBody

theorem inflateTable_self {body content : Bytes} (hother : body ≠ emptyObjectBody) :
    inflateTable body content body = some content := by
  rw [inflateTable, if_neg hother, if_pos rfl]

/-- Five thousand bytes do not fit. -/
theorem zerosMember_fails :
    (gzipDecompress (tableLib zerosBody zeros).tinfl Heap.unlimited zerosMember.encode).1 =
      .error .failure := by
  have hzeros : zeros.length = 5000 := List.length_replicate
  have hforty : zerosMember.encode.length = 40 := rfl
  have hx : inflateTable zerosBody zeros zerosMember.body = some zeros :=
    inflateTable_self (by decide)
  rw [gzipDecompress_member zerosLib_lawful hx id (by rw [hforty]; decide) rfl, hzeros, hforty]
  exact if_neg (by decide)

/-- The two low bytes of an address, stored in a block. -/
def addressBody : Bytes := [1, 2, 0, 0xFD, 0xFF, 0x68, 0x04]

theorem addressLib_lawful :
    (tableLib addressBody [0x68, 0x04]).Lawful (inflateTable addressBody [0x68, 0x04])
      (fun _ => False) :=
  tableLib_lawful (by decide) (by decide)

/-- The text `hi`, compressed and decompressed, is the beginning of its address. -/
theorem hiText_becomes_address :
    ∃ z, (gzipCompress (tableLib addressBody [0x68, 0x04]) (fun _ => 0) hiPtr Heap.unlimited 0
        hiText).1 = .ok z ∧
      (gzipDecompress (tableLib addressBody [0x68, 0x04]).tinfl Heap.unlimited z).1 =
        .ok [0x68, 0x04] := by
  let lib := tableLib addressBody [0x68, 0x04]
  have hspecial : hiText ≠ emptyObject := by decide
  have hdeflated : deflated lib hiPtr hiText.length = ⟨true, 2, addressBody⟩ := rfl
  have hz : (gzipCompress lib (fun _ => 0) hiPtr Heap.unlimited 0 hiText).1 =
      .ok (memberOf 0 hiText (deflated lib hiPtr hiText.length).out).encode :=
    gzipCompress_generous Heap.generous_unlimited rfl hspecial (by decide) (by rw [hdeflated])
      (by rw [hdeflated]; rfl) (by rw [hdeflated]; decide)
  rw [hdeflated] at hz
  have hx : inflateTable addressBody [0x68, 0x04] (memberOf 0 hiText addressBody).body =
      some [0x68, 0x04] := inflateTable_self (by decide)
  refine ⟨_, hz, ?_⟩
  rw [gzipDecompress_member addressLib_lawful hx id (by decide) rfl]
  exact if_pos (by decide)

/-- A member of five thousand zero bytes is not inflated, and of `hi` the round
trip makes two bytes of an address. -/
theorem gzipDecompress_loses :
    ((tableLib zerosBody zeros).Lawful (inflateTable zerosBody zeros) (fun _ => False) ∧
      inflateTable zerosBody zeros zerosMember.body = some zeros ∧
      zerosMember.encode.length = 40 ∧
      (gzipDecompress (tableLib zerosBody zeros).tinfl Heap.unlimited zerosMember.encode).1 =
        .error .failure) ∧
    (tableLib addressBody [0x68, 0x04]).Lawful (inflateTable addressBody [0x68, 0x04])
        (fun _ => False) ∧
      ∃ z, (gzipCompress (tableLib addressBody [0x68, 0x04]) (fun _ => 0) hiPtr Heap.unlimited 0
          hiText).1 = .ok z ∧
        (gzipDecompress (tableLib addressBody [0x68, 0x04]).tinfl Heap.unlimited z).1 ≠
          .ok hiText := by
  obtain ⟨z, hz, haddress⟩ := hiText_becomes_address
  refine ⟨⟨zerosLib_lawful, inflateTable_self (by decide), rfl, zerosMember_fails⟩,
    addressLib_lawful, z, hz, ?_⟩
  rw [haddress]
  decide

/-- Six spaces as a stored block, behind an extra field and a name. -/
def spacesMember : GzipMember where
  text := false
  mtime := 0
  extraFlags := 0
  os := 3
  extra := some [1, 2, 3]
  extra_length := fun _ h => Option.some.inj h ▸ Nat.lt_of_sub_eq_succ rfl
  name := some (CString.ofBytes [97])
  comment := none
  headerCrc := none
  body := [1, 6, 0, 0xF9, 0xFF, 32, 32, 32, 32, 32, 32]
  crc := 0x413A6625
  inputSize := 6

theorem gzipDecompress_undoes_spaces :
    (gzipDecompress (tableLib spacesMember.body (List.replicate 6 32)).tinfl Heap.unlimited
        spacesMember.encode).1 = .ok (List.replicate 6 32) ↔
      (List.replicate 6 (32 : UInt8)).length ≤ max 4096 (8 * spacesMember.encode.length) :=
  (gzipDecompress_undoes_iff (tableLib_lawful (by decide) (by decide))).1 spacesMember
    (List.replicate 6 32) Heap.unlimited (by decide) id (by decide) rfl

end BoxDoubao
