import BoxDoubao.Lib.Crc
import BoxDoubao.Protocol.GzipCompress

/-!
# The checksum of a gzip member

The gzip format defines its checksum by a division of polynomials over the
field of two elements (`gzipCrc32`). `crc32_calc` shifts a register instead. Its
loop body is `Crc.shift` (`crc32Bit_toBitVec`), with the generator's bits
reversed in the constant and the test of the lowest bit in a mask, and a byte is
taken in as `Crc.absorb` takes it in; `Crc.foldl_absorb` does the rest.
-/

namespace BoxDoubao

open CMemory Polynomial

/-! ### The definition -/

/-- The bits of a text, the least significant bit of each byte first. -/
def messageBits (data : Bytes) : List Bool := Crc.messageBits (data.map UInt8.toBitVec)

/-- The coefficients of the generator below `x ^ 32`. -/
def crc32Tail : BitVec 32 := 0x04C11DB7

/-- The text as a polynomial, 32 places up, with its first 32 bits flipped. -/
noncomputable def crc32Dividend (data : Bytes) : (ZMod 2)[X] :=
  X ^ 32 * Crc.ofBits (messageBits data) +
    X ^ (messageBits data).length * ∑ i ∈ Finset.range 32, X ^ i

/-- The checksum of the gzip format: the remainder, its bits reversed and
flipped. -/
noncomputable def gzipCrc32 (data : Bytes) : UInt32 :=
  ⟨~~~(Crc.toWord 32 (crc32Dividend data %ₘ Crc.generator crc32Tail)).reverse⟩

/-! ### The register of `crc32_calc` -/

/-- The constant of the loop is the generator with its bits reversed. -/
theorem reverse_crc32Tail : crc32Tail.reverse = 0xEDB88320#32 := by decide +kernel

/-- The mask is all ones or all zeros. -/
theorem neg_lowBit (v : BitVec 32) :
    -(v &&& 1#32) = if v.getLsbD 0 then BitVec.allOnes 32 else 0#32 := by
  rw [BitVec.and_one_eq_setWidth_ofBool_getLsbD]
  cases v.getLsbD 0 with
  | false => rfl
  | true => rfl

theorem crc32Bit_toBitVec (crc : UInt32) :
    (crc32Bit crc).toBitVec = Crc.shift crc32Tail crc.toBitVec := by
  show crc.toBitVec >>> 1 ^^^ (0xEDB88320#32 &&& -(crc.toBitVec &&& 1#32)) = _
  rw [neg_lowBit, ← reverse_crc32Tail]
  unfold Crc.shift
  cases crc.toBitVec.getLsbD 0 with
  | false =>
    show _ ^^^ (_ &&& 0#32) = _
    rw [BitVec.and_zero, BitVec.xor_zero]
    rfl
  | true =>
    show _ ^^^ (_ &&& BitVec.allOnes 32) = _
    rw [BitVec.and_allOnes]
    rfl

theorem crc32Byte_toBitVec (crc : UInt32) (b : UInt8) :
    (crc32Byte crc b).toBitVec = Crc.absorb crc32Tail crc.toBitVec b.toBitVec := by
  have hshift : Function.Semiconj UInt32.toBitVec crc32Bit (Crc.shift crc32Tail) :=
    crc32Bit_toBitVec
  exact hshift.iterate_right 8 (crc ^^^ b.toUInt32)

theorem foldl_crc32Byte_toBitVec (data : Bytes) (crc : UInt32) :
    (data.foldl crc32Byte crc).toBitVec =
      (data.map UInt8.toBitVec).foldl (Crc.absorb crc32Tail) crc.toBitVec := by
  induction data generalizing crc with
  | nil => rfl
  | cons b data ih => rw [List.foldl_cons, List.map_cons, List.foldl_cons, ih, crc32Byte_toBitVec]

theorem crc32Calc_eq (data : Bytes) : crc32Calc data = gzipCrc32 data := by
  have hinit : Crc.reading (0xFFFFFFFF : UInt32).toBitVec = ∑ i ∈ Finset.range 32, X ^ i :=
    Crc.reading_allOnes
  have hregister := Crc.foldl_absorb crc32Tail (by decide : 8 ≤ 32) (data.map UInt8.toBitVec)
    (0xFFFFFFFF : UInt32).toBitVec
  rw [hinit, ← foldl_crc32Byte_toBitVec] at hregister
  apply UInt32.toBitVec_inj.mp
  exact congrArg (~~~ ·) hregister

/-- **`crc32_calc` is the checksum of the gzip format**, and behind what it has
deflated `gzip_compress` writes the checksum and the length of the data. -/
theorem gzipCompress_checksum :
    (∀ data : Bytes, crc32Calc data = gzipCrc32 data) ∧
      ∀ (lib : Miniz) (fresh : ℕ → UInt8) (inPtr : InPtr) (heap : Heap) (now : UInt32)
        (data z : Bytes),
        data ≠ emptyObject → (gzipCompress lib fresh inPtr heap now data).1 = .ok z →
        z = gzipHeader now ++ ((deflated lib inPtr data.length).out ++
          (leBytes (gzipCrc32 data) ++ leBytes (UInt32.ofNat data.length))) := by
  refine ⟨crc32Calc_eq, ?_⟩
  intro lib fresh inPtr heap now data z hgeneral hz
  obtain ⟨body, rfl, ⟨hspecial, -⟩ | ⟨-, -, -, hout⟩⟩ := gzipCompress_ok hz
  · exact absurd hspecial hgeneral
  · rw [memberOf_encode, crc32Calc_eq, hout]

/-- miniz, storing two bytes in a block. -/
def storeTwo : Miniz where
  tinfl _ _ _ := none
  tdeflInit := true
  tdeflCompress data _ :=
    { done := true, inBytes := data.length, out := [1, 2, 0, 0xFD, 0xFF] ++ data }

/-- The body holds two bytes of the address, the trailer is the one of `hi`. -/
theorem gzipCompress_checksum_hiText :
    gzipCrc32 hiText = 0xD8932AAC ∧
      ∃ z, (gzipCompress storeTwo (fun _ => 0) hiPtr Heap.unlimited 0 hiText).1 = .ok z ∧
        z = gzipHeader 0 ++ ([1, 2, 0, 0xFD, 0xFF, 0x68, 0x04] ++
          (leBytes (gzipCrc32 hiText) ++ leBytes 2)) := by
  have hspecial : hiText ≠ emptyObject := by decide
  have hcrc : crc32Calc hiText = 0xD8932AAC := by decide
  have hz : (gzipCompress storeTwo (fun _ => 0) hiPtr Heap.unlimited 0 hiText).1 =
      .ok (memberOf 0 hiText _).encode :=
    gzipCompress_generous Heap.generous_unlimited rfl hspecial (by decide) rfl rfl (by decide)
  obtain ⟨hcalc, htrailer⟩ := gzipCompress_checksum
  refine ⟨(hcalc hiText).symm.trans hcrc, _, hz, ?_⟩
  exact htrailer storeTwo (fun _ => 0) hiPtr Heap.unlimited 0 hiText _ hspecial hz

/-- **A burst of at most 32 bits changes the checksum**, wherever it stands and
whatever else the text holds. The bits of a byte count from the least significant
one on. -/
theorem crc32Calc_ne_of_burst {data data' : Bytes} {front burst burst' back : List Bool}
    (hdata : messageBits data = front ++ (burst ++ back))
    (hdata' : messageBits data' = front ++ (burst' ++ back))
    (hlen : burst.length = burst'.length) (hshort : burst.length ≤ 32) (hne : burst ≠ burst') :
    crc32Calc data ≠ crc32Calc data' := by
  intro hsame
  have hregister := congrArg UInt32.toBitVec (UInt32.not_inj.mp hsame)
  rw [foldl_crc32Byte_toBitVec, foldl_crc32Byte_toBitVec] at hregister
  exact Crc.foldl_absorb_ne_of_burst crc32Tail (by decide) (by decide) hdata hdata' hlen hshort hne
    _ hregister

/-- A byte of the text inverted. -/
theorem crc32Calc_ne_of_burst_hiText : crc32Calc hiText ≠ crc32Calc [0x68, 0x96] := by
  have hdata : messageBits hiText = messageBits [0x68] ++ (messageBits [0x69] ++ []) := rfl
  have hdata' : messageBits [0x68, 0x96] = messageBits [0x68] ++ (messageBits [0x96] ++ []) := rfl
  exact crc32Calc_ne_of_burst hdata hdata' rfl (by decide) (by decide)

end BoxDoubao
