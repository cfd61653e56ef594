import BoxDoubao.Protocol.Format

/-!
# `gzip_decompress`

The firmware walks the gzip header itself (`gzipBody`), takes everything but
the last eight bytes as the deflate body, and hands that slice to miniz. The
header walk is on attacker-controlled bytes: every read is checked, and all
cursor arithmetic is `size_t` arithmetic.

`tinfl_decompress_mem_to_mem` belongs to miniz, which is not part of the
repository, so it is a parameter: `none` stands for
`TINFL_DECOMPRESS_MEM_TO_MEM_FAILED`.
-/

namespace BoxDoubao

open CMemory

/-- `tinfl_decompress_mem_to_mem` as a function of the output capacity, the
source slice and the flags. -/
abbrev Tinfl := ℕ → Bytes → ℕ → Option Bytes

def tinflFlagParseZlibHeader : ℕ := 1
def tinflFlagComputeAdler32 : ℕ := 8

/-- FEXTRA: a 16-bit little-endian length and that many bytes. -/
def skipExtra (flags : UInt8) (data : Bytes) (offset : ℕ) : Except Stop ℕ :=
  if flags &&& 0x04 ≠ 0 then
    if sz (offset + 2) > data.length then .error .failure
    else do
      let lo ← load data offset
      let hi ← load data (offset + 1)
      let xlen := lo.toUInt16 ||| (hi.toUInt16 <<< 8)
      return sz (offset + sz (2 + xlen.toNat))
  else return offset

/-- `while (offset < data_len && data[offset] != 0) offset++;`, on the bytes
from `offset` on. -/
def scanNul : Bytes → ℕ → ℕ
  | [], offset => offset
  | b :: rest, offset => if b ≠ 0 then scanNul rest (offset + 1) else offset

/-- FNAME and FCOMMENT: a zero-terminated string, present iff `mask` is set. -/
def skipString (mask flags : UInt8) (data : Bytes) (offset : ℕ) : ℕ :=
  if flags &&& mask ≠ 0 then sz (scanNul (data.drop offset) offset + 1) else offset

/-- FHCRC: two bytes. -/
def skipHeaderCrc (flags : UInt8) (offset : ℕ) : ℕ :=
  if flags &&& 0x02 ≠ 0 then sz (offset + 2) else offset

/-- The length of the deflate body from `offset` on: all but the eight trailer
bytes, or everything when that is empty or negative as an `int`. -/
def deflateLen (dataLen offset : ℕ) : ℕ :=
  let n := szSub (szSub dataLen offset) 8
  if n = 0 ∨ (UInt32.ofNat n).toInt32 < 0 then szSub dataLen offset else n

/-- The header walk: start and length of the slice handed to miniz. -/
def gzipBody (data : Bytes) : Except Stop (ℕ × ℕ) :=
  if data.length < 10 then .error .failure
  else do
    let id1 ← load data 0
    if id1 ≠ 0x1F then .error .failure
    else do
      let id2 ← load data 1
      if id2 ≠ 0x8B then .error .failure
      else do
        let flags ← load data 3
        let offset ← skipExtra flags data 10
        let offset := skipString 0x08 flags data offset
        let offset := skipString 0x10 flags data offset
        let offset := skipHeaderCrc flags offset
        if offset ≥ data.length then .error .failure
        else return (offset, deflateLen data.length offset)

/-- The output buffer: eight times the input, at least 4096 bytes. -/
def inflateCapacity (dataLen : ℕ) : ℕ :=
  if sz (dataLen * 8) < 4096 then 4096 else sz (dataLen * 8)

/-- Inflate with the zlib-header flags first, then as raw deflate. -/
def inflateEither (tinfl : Tinfl) (cap : ℕ) (src : Bytes) : Option Bytes :=
  match tinfl cap src (tinflFlagParseZlibHeader ||| tinflFlagComputeAdler32) with
  | some out => some out
  | none => tinfl cap src 0

/-- `gzip_decompress`. `Stop.failure` is the `NULL` result; on it the output
buffer has been freed. -/
def gzipDecompress (tinfl : Tinfl) (heap : Heap) (data : Bytes) :
    Except Stop Bytes × Heap :=
  match gzipBody data with
  | .error e => (.error e, heap)
  | .ok (start, len) =>
    match heap.mallocFallback with
    | (false, heap) => (.error .failure, heap)
    | (true, heap) =>
      match loadRange data start len with
      | .error e => (.error e, heap)
      | .ok src =>
        match inflateEither tinfl (inflateCapacity data.length) src with
        | some out => (.ok out, heap)
        | none => (.error .failure, heap.free)

end BoxDoubao
