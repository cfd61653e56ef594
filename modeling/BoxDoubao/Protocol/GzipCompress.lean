import BoxDoubao.Protocol.Gzip
import BoxDoubao.Lib.GzipFormat

/-!
# `gzip_compress`

The compressor writes a gzip header, has miniz deflate behind it, and writes the
checksum and the length of the data behind that. The text `{}` is answered from
a table.

`tdefl_compress` takes the address of its input and is given the address of the
variable that holds it: `&in_ptr` for `in_ptr`. What is deflated is therefore as
many bytes as the data has, from that variable on (`InPtr`): the address of the
data and what lies behind the variable on the stack.

miniz is not part of the repository. `Miniz` is the part of it that is called:
`tdefl_init`, `tdefl_compress` with `TDEFL_FINISH`, and
`tinfl_decompress_mem_to_mem`.

A result is the first `out_len` bytes of the buffer; `gzipCompress_ok` says
that they are a member of the gzip format.
-/

namespace BoxDoubao

open CMemory

/-- What `tdefl_compress` leaves: whether the status is `TDEFL_STATUS_DONE`,
how many bytes were consumed and which were written. -/
structure TdeflResult where
  done : Bool
  inBytes : ℕ
  out : Bytes

structure Miniz where
  tinfl : Tinfl
  /-- `tdefl_init` returns `TDEFL_STATUS_OKAY`. -/
  tdeflInit : Bool
  /-- `tdefl_compress` as a function of the input and the output capacity. -/
  tdeflCompress : Bytes → ℕ → TdeflResult

/-! ### The checksum -/

def crc32Bit (crc : UInt32) : UInt32 := (crc >>> 1) ^^^ (0xEDB88320 &&& (-(crc &&& 1)))

def crc32Byte (crc : UInt32) (b : UInt8) : UInt32 := crc32Bit^[8] (crc ^^^ b.toUInt32)

/-- `crc32_calc`. -/
def crc32Calc (data : Bytes) : UInt32 := ~~~(data.foldl crc32Byte 0xFFFFFFFF)

/-! ### The compressor -/

/-- The text `{}`. -/
def emptyObject : Bytes := [0x7B, 0x7D]

def precomputed : Bytes :=
  [0x1f, 0x8b, 0x08, 0x00, 0x00, 0x00, 0x00, 0x00, 0x02, 0xff,
    0xab, 0xae, 0x05, 0x00, 0x43, 0xbf, 0xa6, 0xa3, 0x02, 0x00, 0x00, 0x00]

/-- The ten bytes of the gzip header. -/
def gzipHeader (mtime : UInt32) : Bytes :=
  [0x1F, 0x8B, 0x08, 0x00] ++ leBytes mtime ++ [0x02, 0xFF]

def deflateBound (dataLen : ℕ) : ℕ := sz (sz (dataLen + dataLen / 1000) + 256)

def totalBound (dataLen : ℕ) : ℕ := sz (sz (10 + deflateBound dataLen) + 8)

/-- The memory from the variable `in_ptr` on. -/
structure InPtr where
  /-- The value of the variable, the address of the data. -/
  address : UInt32
  /-- The bytes behind the variable. -/
  stack : ℕ → UInt8

/-- The first `n` bytes at `&in_ptr`. -/
def InPtr.bytes (p : InPtr) (n : ℕ) : Bytes := (leBytes p.address ++ newBuffer p.stack n).take n

@[simp] theorem InPtr.length_bytes (p : InPtr) (n : ℕ) : (p.bytes n).length = n := by
  rw [InPtr.bytes, List.length_take, List.length_append, length_newBuffer]
  omega

/-- What miniz makes of the `dataLen` bytes at `&in_ptr`. -/
def deflated (lib : Miniz) (inPtr : InPtr) (dataLen : ℕ) : TdeflResult :=
  lib.tdeflCompress (inPtr.bytes dataLen) (deflateBound dataLen)

/-- The compressor's state is allocated, used once and given back. -/
def tdeflOnce (lib : Miniz) (inPtr : InPtr) (heap : Heap) (dataLen : ℕ) :
    Except Stop Bytes × Heap :=
  match heap.mallocFallback with
  | (false, heap) => (.error .failure, heap)
  | (true, heap) =>
    if lib.tdeflInit = false then (.error .failure, heap.free)
    else
      let res := deflated lib inPtr dataLen
      if res.done = false ∨ res.inBytes ≠ dataLen then (.error .failure, heap.free)
      else (.ok res.out, heap.free)

/-- The deflated bytes behind the header, and the trailer behind them. -/
def writeTrailer (out data compressed : Bytes) : Except Stop Bytes := do
  let out ← memcpy out 10 compressed
  let pos := sz (10 + compressed.length)
  let out ← memcpy out pos (leBytes (crc32Calc data))
  let out ← memcpy out (pos + 4) (leBytes (UInt32.ofNat data.length))
  return out.take (sz (pos + 8))

/-- `gzip_compress`; `now` is the time. `Stop.failure` is the `NULL` result. -/
def gzipCompress (lib : Miniz) (fresh : ℕ → UInt8) (inPtr : InPtr) (heap : Heap) (now : UInt32)
    (data : Bytes) : Except Stop Bytes × Heap :=
  match heap.mallocFallback with
  | (false, heap) => (.error .failure, heap)
  | (true, heap) =>
    if data = emptyObject then (memcpy precomputed 4 (leBytes now), heap)
    else
      match memcpy (newBuffer fresh (totalBound data.length)) 0 (gzipHeader now) with
      | .error e => (.error e, heap)
      | .ok out =>
        match tdeflOnce lib inPtr heap data.length with
        | (.error e, heap) => (.error e, heap.free)
        | (.ok compressed, heap) => (writeTrailer out data compressed, heap)

/-! ### What is written -/

/-- The member with this body that says what `gzip_compress` says about the
data. -/
def memberOf (now : UInt32) (data body : Bytes) : GzipMember where
  text := false
  mtime := now
  extraFlags := 0x02
  os := 0xFF
  extra := none
  extra_length := nofun
  name := none
  comment := none
  headerCrc := none
  body := body
  crc := crc32Calc data
  inputSize := UInt32.ofNat data.length

theorem memberOf_encode (now : UInt32) (data body : Bytes) :
    (memberOf now data body).encode =
      gzipHeader now ++ (body ++ (leBytes (crc32Calc data) ++
        leBytes (UInt32.ofNat data.length))) := by
  -- none of the optional fields is there
  have hflags : (memberOf now data body).flags = 0 := by
    show GzipMember.flagByte false false false false false = 0
    decide
  unfold GzipMember.encode GzipMember.fixedHeader
  rw [hflags]
  rfl

/-- The body that stands in `precomputed`. -/
def emptyObjectBody : Bytes := [0xab, 0xae, 0x05, 0x00]

theorem precomputed_encode (now : UInt32) :
    memcpy precomputed 4 (leBytes now) =
      .ok (memberOf now emptyObject emptyObjectBody).encode := by
  have hcrc : crc32Calc emptyObject = 0xa3a6bf43 := by decide
  rw [memberOf_encode, hcrc]
  rfl

section Trailer

variable {out data compressed z : Bytes}

/-- The rest of the member is written behind the header when it fits. -/
theorem writeTrailer_eq {written : Bytes} (hpre : written <+: out) (hten : written.length = 10)
    (hout : out.length < 4294967296) (hfit : 10 + compressed.length + 8 ≤ out.length) :
    writeTrailer out data compressed = .ok (written ++ (compressed ++
      (leBytes (crc32Calc data) ++ leBytes (UInt32.ofNat data.length)))) := by
  have hplace₁ : (written ++ compressed).length = 10 + compressed.length := by
    rw [List.length_append, hten]
  have hplace₂ : (written ++ compressed ++ leBytes (crc32Calc data)).length =
      10 + compressed.length + 4 := by
    rw [List.length_append, hplace₁, length_leBytes]
  have hplace₃ : (written ++ compressed ++ leBytes (crc32Calc data) ++
      leBytes (UInt32.ofNat data.length)).length = 10 + compressed.length + 8 := by
    rw [List.length_append, hplace₂, length_leBytes]
  -- body, checksum and length, each behind what is there
  obtain ⟨out₁, h₁, hpre₁, hlen₁⟩ := memcpy_extend compressed hpre (by omega)
  obtain ⟨out₂, h₂, hpre₂, hlen₂⟩ :=
    memcpy_extend (leBytes (crc32Calc data)) hpre₁ (by rw [length_leBytes]; omega)
  obtain ⟨out₃, h₃, hpre₃, hlen₃⟩ := memcpy_extend (leBytes (UInt32.ofNat data.length)) hpre₂
    (by rw [length_leBytes]; omega)
  rw [hten] at h₁
  rw [hplace₁] at h₂
  rw [hplace₂] at h₃
  have hpos : sz (10 + compressed.length) = 10 + compressed.length := sz_of_lt (by omega)
  have hend : sz (10 + compressed.length + 8) = 10 + compressed.length + 8 := sz_of_lt (by omega)
  unfold writeTrailer
  rw [bind_ok h₁]
  simp only [hpos, hend]
  rw [bind_ok h₂, bind_ok h₃]
  -- the result is as long as what was written
  have hall := List.prefix_iff_eq_take.mp hpre₃
  rw [hplace₃] at hall
  rw [← hall]
  simp only [List.append_assoc]
  rfl

theorem writeTrailer_fits (hout : out.length < 4294967296)
    (h : writeTrailer out data compressed = .ok z) : 10 + compressed.length + 8 ≤ out.length := by
  -- the last of the three copies is the one that reaches furthest
  obtain ⟨out₁, h₁, h⟩ := ok_of_bind h
  have hfit₁ := le_of_memcpy h₁
  have hpos : sz (10 + compressed.length) = 10 + compressed.length := sz_of_lt (by omega)
  simp only [hpos] at h
  obtain ⟨out₂, h₂, h⟩ := ok_of_bind h
  obtain ⟨out₃, h₃, -⟩ := ok_of_bind h
  have hfit₃ := le_of_memcpy h₃
  rw [length_of_memcpy h₂, length_of_memcpy h₁, length_leBytes] at hfit₃
  exact hfit₃

end Trailer

theorem tdeflOnce_ok {lib : Miniz} {inPtr : InPtr} {heap heap' : Heap} {n : ℕ} {compressed : Bytes}
    (h : tdeflOnce lib inPtr heap n = (.ok compressed, heap')) :
    (deflated lib inPtr n).done = true ∧ (deflated lib inPtr n).inBytes = n ∧
      (deflated lib inPtr n).out = compressed := by
  unfold tdeflOnce at h
  split at h
  · cases h
  · by_cases hinit : lib.tdeflInit = false
    · rw [if_pos hinit] at h
      cases h
    · rw [if_neg hinit] at h
      simp only at h
      split at h
      · cases h
      next hres =>
        rw [not_or, Bool.not_eq_false, not_not] at hres
        exact ⟨hres.1, hres.2, Except.ok.inj (Prod.mk.inj h).1⟩

theorem tdeflOnce_generous {lib : Miniz} {inPtr : InPtr} {heap : Heap} {n : ℕ}
    (hg : heap.Generous) (hinit : lib.tdeflInit = true)
    (hdone : (deflated lib inPtr n).done = true) (hall : (deflated lib inPtr n).inBytes = n) :
    ∃ heap', tdeflOnce lib inPtr heap n = (.ok (deflated lib inPtr n).out, heap') := by
  have hres : ¬ ((deflated lib inPtr n).done = false ∨ (deflated lib inPtr n).inBytes ≠ n) := by
    rw [hdone, hall]
    rintro (h | h)
    · cases h
    · exact h rfl
  unfold tdeflOnce
  simp only [hg.mallocFallback, hinit, if_neg hres, Bool.true_eq_false, if_false]
  exact ⟨_, rfl⟩

section Compress

variable {lib : Miniz} {fresh : ℕ → UInt8} {inPtr : InPtr} {heap : Heap} {now : UInt32}
  {data z : Bytes}

theorem totalBound_lt (n : ℕ) : totalBound n < 4294967296 := Nat.mod_lt _ (Nat.zero_lt_succ _)

/-- Nothing is written before the header. -/
theorem memcpy_gzipHeader {out : Bytes}
    (h : memcpy (newBuffer fresh (totalBound data.length)) 0 (gzipHeader now) = .ok out) :
    gzipHeader now <+: out ∧ out.length = totalBound data.length := by
  have hfit := le_of_memcpy h
  obtain ⟨out', hcopy, hpre, hlen⟩ := memcpy_extend (gzipHeader now)
    (List.nil_prefix (l := newBuffer fresh (totalBound data.length))) hfit
  rw [List.length_nil, h] at hcopy
  obtain rfl := Except.ok.inj hcopy
  rw [length_newBuffer] at hlen
  exact ⟨hpre, hlen⟩

/-- **What `gzip_compress` returns** is a gzip member. Its body is the table's
for `{}` and else what miniz made of the bytes at `&in_ptr`. -/
theorem gzipCompress_ok (h : (gzipCompress lib fresh inPtr heap now data).1 = .ok z) :
    ∃ body, z = (memberOf now data body).encode ∧
      ((data = emptyObject ∧ body = emptyObjectBody) ∨
        (data ≠ emptyObject ∧ (deflated lib inPtr data.length).done = true ∧
          (deflated lib inPtr data.length).inBytes = data.length ∧
          (deflated lib inPtr data.length).out = body)) := by
  unfold gzipCompress at h
  split at h
  · cases h
  by_cases hspecial : data = emptyObject
  · rw [if_pos hspecial, precomputed_encode] at h
    -- the table's member, with the time written into it
    subst hspecial
    exact ⟨emptyObjectBody, (Except.ok.inj h).symm, Or.inl ⟨rfl, rfl⟩⟩
  rw [if_neg hspecial] at h
  split at h
  · cases h
  next out hheader =>
    obtain ⟨hpre, hlen⟩ := memcpy_gzipHeader hheader
    have hout : out.length < 4294967296 := hlen ▸ totalBound_lt _
    split at h
    · cases h
    next compressed heap' hdeflate =>
      have hz : writeTrailer out data compressed = _ :=
        writeTrailer_eq hpre rfl hout (writeTrailer_fits hout h)
      refine ⟨compressed, ?_, Or.inr ⟨hspecial, tdeflOnce_ok hdeflate⟩⟩
      rw [memberOf_encode]
      exact Except.ok.inj (h.symm.trans hz)

/-- With memory for it, a deflated text that fits its bound is returned. -/
theorem gzipCompress_generous (hg : heap.Generous) (hinit : lib.tdeflInit = true)
    (hspecial : data ≠ emptyObject) (hlen : data.length < 2147483648)
    (hdone : (deflated lib inPtr data.length).done = true)
    (hall : (deflated lib inPtr data.length).inBytes = data.length)
    (hfit : (deflated lib inPtr data.length).out.length ≤ deflateBound data.length) :
    (gzipCompress lib fresh inPtr heap now data).1 =
      .ok (memberOf now data (deflated lib inPtr data.length).out).encode := by
  -- none of the sums wraps
  have hbound : deflateBound data.length = data.length + data.length / 1000 + 256 := by
    unfold deflateBound
    rw [sz_of_lt (by omega : data.length + data.length / 1000 < 4294967296), sz_of_lt (by omega)]
  have htotal : totalBound data.length = 10 + deflateBound data.length + 8 := by
    unfold totalBound
    rw [sz_of_lt (by omega : 10 + deflateBound data.length < 4294967296), sz_of_lt (by omega)]
  have hroom : 0 + (gzipHeader now).length ≤
      (newBuffer fresh (totalBound data.length)).length := by
    rw [length_newBuffer, htotal]
    show 0 + 10 ≤ _
    omega
  have hheader := memcpy_of_le hroom
  obtain ⟨hpre, hsize⟩ := memcpy_gzipHeader hheader
  have hg' : Heap.Generous { heap with requests := heap.requests + 1, live := heap.live + 1 } := hg
  obtain ⟨heap', hdeflate⟩ := tdeflOnce_generous hg' hinit hdone hall
  unfold gzipCompress
  simp only [hg.mallocFallback, if_neg hspecial, hheader, hdeflate]
  have hout : (splice (newBuffer fresh (totalBound data.length)) 0 (gzipHeader now)).length <
      4294967296 := by
    rw [hsize]
    exact totalBound_lt _
  rw [memberOf_encode]
  exact writeTrailer_eq hpre rfl hout (by rw [hsize, htotal]; omega)

end Compress

/-- The text `hi`. -/
def hiText : Bytes := [0x68, 0x69]

/-- The variable that holds its address. -/
def hiPtr : InPtr := ⟨0x3C120468, fun _ => 0⟩

end BoxDoubao
