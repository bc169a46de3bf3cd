import Mathlib.Tactic.Ring
import QnnEp.MatMulNBits.Builder

namespace QnnEp.MatMulNBits
open BlockQuant Model Registry Scatter Status
variable {bits : Nat} {node : Node} {u : Unit} {backend : Backend}

structure NodeUnit extends Node where
  weightShape : List Nat
  scalesDataType : QnnDataType
  scalesShape : List Nat
  zeroPointsDataType : QnnDataType
  zeroPointsShape : List Nat
  hasGIdx : Bool
  hasBias : Bool
  weightSized : ∀ data, weightData = some data → data.length = weightShape.prod

def kHtpSupportedBitsAndBlockSizeMultipliers : Nat → Option Nat
  | 2 => some 16
  | 4 => some 8
  | 8 => some 4
  | _ => none

def Node.zpBlobSize (node : Node) : Nat := (node.kBlocks * node.bits + 8 - 1) / 8

def checkAttributes (node : Node) : Except String Unit :=
  match kHtpSupportedBitsAndBlockSizeMultipliers node.bits with
  | none => .error ("QNN HTP does not support MatMulNBits with bits=" ++ toString node.bits)
  | some multiplier => do
    returnIf (node.blockSize % multiplier ≠ 0)
      ("QNN HTP does not support MatMulNBits with block_size=" ++ toString node.blockSize)
    returnIf (node.k % node.blockSize ≠ 0) "K must be divisible by block_size."
    returnIf (node.totalBlocks = 0) "(N * K) / block_size must be > 0"

def checkInput (input : EncodedDef) : Except String Unit := do
  returnIf (input.dataType ≠ .float32 ∧ input.dataType ≠ .float16 ∧ isQuant16bit input.dataType = false)
    "Unsupported input A datatype, expecting float32, float16, uint16, or int16."
  returnIf (input.shape.length ≠ 3) "Unsupported input A rank, expecting 3D shape."

def checkWeight (unit : NodeUnit) : Except String Unit :=
  returnIf (unit.weightShape.prod * unit.numElementsPerUint8 ≠ unit.n * unit.k)
    ("Unexpected input B size, expecting " ++ toString (unit.n * unit.k / unit.numElementsPerUint8))

def checkScales (unit : NodeUnit) : Except String Unit := do
  returnIf (unit.scalesDataType ≠ .float32 ∧ unit.scalesDataType ≠ .float16)
    "Unsupported input scales datatype, expecting float32 or float16."
  returnIf (unit.scalesShape.prod ≠ unit.totalBlocks)
    ("Unexpected input scales size, expecting " ++ toString unit.totalBlocks)

def checkZeroPoints (unit : NodeUnit) : Except String Unit :=
  if unit.zeroPoints.isSome then do
    returnIf (unit.zeroPointsDataType ≠ .uint8)
      "Unsupported input zero_points datatype, expecting uint8."
    returnIf (unit.zeroPointsShape.prod ≠ unit.n * unit.zpBlobSize)
      ("Unexpected input zero_points size, expecting " ++ toString (unit.n * unit.zpBlobSize))
  else .ok ()

def isOpSupported (backend : Backend) (s : EncodedModel) (unit : NodeUnit) : Except String Unit := do
  checkAttributes unit.toNode
  checkInput unit.input
  checkWeight unit
  checkScales unit
  checkZeroPoints unit
  returnIf (unit.hasGIdx ∨ unit.hasBias) "Unsupported inputs g_idx or bias."
  let _ ← addToModelBuilder backend s unit.toNode
  pure ()

structure Packed (node : Node) : Prop where
  bits : node.bits = 2 ∨ node.bits = 4 ∨ node.bits = 8
  positive : 0 < node.blockSize
  aligned : node.numElementsPerUint8 ∣ node.blockSize
  blocks : node.k = node.kBlocks * node.blockSize
  weight : ∀ data, node.weightData = some data →
    data.length * node.numElementsPerUint8 = node.n * node.k

theorem multiplier_cases {multiplier : Nat}
    (h : kHtpSupportedBitsAndBlockSizeMultipliers bits = some multiplier) :
    (bits = 2 ∨ bits = 4 ∨ bits = 8) ∧ 8 / bits ∣ multiplier := by
  unfold kHtpSupportedBitsAndBlockSizeMultipliers at h
  split at h
  · cases h
    decide
  · cases h
    decide
  · cases h
    decide
  · cases h

theorem checkAttributes_ok (h : checkAttributes node = .ok u) :
    (node.bits = 2 ∨ node.bits = 4 ∨ node.bits = 8) ∧ node.numElementsPerUint8 ∣ node.blockSize ∧
      node.k % node.blockSize = 0 ∧ node.totalBlocks ≠ 0 := by
  unfold checkAttributes at h
  split at h
  · cases h
  · next multiplier hmultiplier =>
    obtain ⟨hbits,hdvd⟩ := multiplier_cases hmultiplier
    simp only [returnIf_bind_ok,returnIf_ok_iff,ne_eq,not_not] at h
    exact ⟨hbits,hdvd.trans (Nat.dvd_of_mod_eq_zero h.1),h.2⟩

theorem packed_of_isOpSupported {s : EncodedModel} {unit : NodeUnit}
    (h : isOpSupported backend s unit = .ok u) : Packed unit.toNode := by
  obtain ⟨_,hattributes,h⟩ := bind_ok h
  obtain ⟨_,_,h⟩ := bind_ok h
  obtain ⟨_,hweight,_⟩ := bind_ok h
  obtain ⟨hbits,haligned,hdivides,htotal⟩ := checkAttributes_ok hattributes
  have hpositive : 0 < unit.blockSize := by
    refine Nat.pos_of_ne_zero fun hzero => htotal ?_
    simp [Node.totalBlocks,Node.kBlocks,hzero]
  refine ⟨hbits,hpositive,haligned,(Nat.div_mul_cancel (Nat.dvd_of_mod_eq_zero hdivides)).symm,?_⟩
  intro data hdata
  rw [unit.weightSized data hdata]
  simpa [checkWeight] using hweight

def subByte (bits : Nat) (bytes : List Byte) (bitPosition : Nat) : Nat :=
  (bytes.getD (bitPosition / 8) 0 >>> (bitPosition % 8)).toNat % 2 ^ bits

namespace Node
variable (node : Node)

def onnxKBlocks : Nat := (node.k + node.blockSize - 1) / node.blockSize

def onnxBlobSize : Nat := node.blockSize * node.bits / 8

def quantized (n k : Nat) : Nat :=
  subByte node.bits (node.weightData.getD [])
    (8 * ((n * node.onnxKBlocks + k / node.blockSize) * node.onnxBlobSize) +
      k % node.blockSize * node.bits)

def zeroPoint (n block : Nat) : Nat :=
  match node.zeroPoints with
  | some (some packed) =>
    subByte node.bits packed
      (8 * (n * ((node.onnxKBlocks * node.bits + 7) / 8)) + block * node.bits)
  | _ => 2 ^ (node.bits - 1)

def dequantized (n k : Nat) : ℚ :=
  (node.scales.getD []).getD (n * node.onnxKBlocks + k / node.blockSize) 0 *
    ((node.quantized n k : ℚ) - (node.zeroPoint n (k / node.blockSize) : ℚ))

end Node

def kHtpNativeBQBits : Nat := 4

def decodeBlocks (bits blockSize rows cols : Nat) (scales offsets : List ℚ) (data : List Byte)
    (k n : Nat) : ℚ :=
  let block := n * (rows / blockSize) + k / blockSize
  scales.getD block 0 * ((lowBits bits (data.getD (k * cols + n) 0) : ℚ) + offsets.getD block 0)

def decodeWeight (weight : EncodedTensor) (k n : Nat) : Option ℚ :=
  match weight.shape, weight.encoding with
  | [_,_,rows,cols], .block scales offsets [_,_,blockSize,_] =>
    some (decodeBlocks kHtpNativeBQBits blockSize rows cols scales (offsets.map (↑)) weight.data k n)
  | [_,_,rows,cols], .bwFloatBlock scales offsets bits [_,_,blockSize,_] =>
    some (decodeBlocks bits blockSize rows cols scales offsets weight.data k n)
  | _, _ => none

structure Decodes (weight : EncodedTensor) (node : Node) : Prop where
  shape : weight.shape = [1,1,node.k,node.n]
  value : ∀ k < node.k, ∀ n < node.n, decodeWeight weight k n = some (node.dequantized n k)

def flipMask : Nat → Byte
  | 2 => 0b10101010#8
  | 4 => 0b10001000#8
  | 8 => 0b10000000#8
  | _ => 0

theorem transform_ok {packed quantData : List Byte}
    (h : transformUnsignedToSignedFixedPoint packed bits = .ok quantData) :
    quantData = packed.map (· ^^^ flipMask bits) := by
  unfold transformUnsignedToSignedFixedPoint at h
  split at h
  · cases h
    rfl
  · cases h
    rfl
  · cases h
    rfl
  · cases h

theorem lowBits_field_two : ∀ b : Byte, ∀ i < 4,
    lowBits 2 (((b ^^^ flipMask 2) >>> (2 * i)) &&& lowMask 2) =
      ((b >>> (2 * i)).toNat % 2 ^ 2 : Nat) - 2 ^ 1 := by
  decide +kernel

theorem lowBits_field_four : ∀ b : Byte, ∀ i < 2,
    lowBits 4 (((b ^^^ flipMask 4) >>> (4 * i)) &&& lowMask 4) =
      ((b >>> (4 * i)).toNat % 2 ^ 4 : Nat) - 2 ^ 3 := by
  decide +kernel

theorem lowBits_field_eight : ∀ b : Byte, ∀ i < 1,
    lowBits 8 (((b ^^^ flipMask 8) >>> (8 * i)) &&& lowMask 8) =
      ((b >>> (8 * i)).toNat % 2 ^ 8 : Nat) - 2 ^ 7 := by
  decide +kernel

theorem lowBits_field (hbits : bits = 2 ∨ bits = 4 ∨ bits = 8) (b : Byte) {i : Nat} (hi : i < 8 / bits) :
    lowBits bits (((b ^^^ flipMask bits) >>> (bits * i)) &&& lowMask bits) =
      ((b >>> (bits * i)).toNat % 2 ^ bits : Nat) - 2 ^ (bits - 1) := by
  rcases hbits with rfl | rfl | rfl
  · exact lowBits_field_two b i hi
  · exact lowBits_field_four b i hi
  · exact lowBits_field_eight b i hi

theorem masked_toNat : ∀ b : Byte, (b &&& lowMask 2).toNat = b.toNat % 2 ^ 2 ∧
    (b &&& lowMask 4).toNat = b.toNat % 2 ^ 4 ∧ (b &&& lowMask 8).toNat = b.toNat % 2 ^ 8 := by
  decide +kernel

theorem and_lowMask (hbits : bits = 2 ∨ bits = 4 ∨ bits = 8) (b : Byte) :
    (b &&& lowMask bits).toNat = b.toNat % 2 ^ bits := by
  rcases hbits with rfl | rfl | rfl
  · exact (masked_toNat b).1
  · exact (masked_toNat b).2.1
  · exact (masked_toNat b).2.2

theorem perByte_mul (hbits : bits = 2 ∨ bits = 4 ∨ bits = 8) : 8 / bits * bits = 8 := by
  rcases hbits with rfl | rfl | rfl <;> rfl

theorem subByte_element (hbits : bits = 2 ∨ bits = 4 ∨ bits = 8) (bytes : List Byte) (i : Nat) :
    subByte bits bytes (i * bits) =
      (bytes.getD (i / (8 / bits)) 0 >>> (bits * (i % (8 / bits)))).toNat % 2 ^ bits := by
  have hpos : 0 < bits := by omega
  have hdiv : i * bits / 8 = i / (8 / bits) := by
    rw [← Nat.mul_div_mul_right i (8 / bits) hpos,perByte_mul hbits]
  have hmod : i * bits % 8 = bits * (i % (8 / bits)) := by
    rw [Nat.mul_comm bits,← Nat.mul_mod_mul_right,perByte_mul hbits]
  rw [subByte,hdiv,hmod]

section
variable {node : Node} {packed : List Byte}

theorem length_fields (bits numElements : Nat) (value : Byte) :
    ((List.range numElements).map fun idx => (value >>> (bits * idx)) &&& lowMask bits).length =
      numElements := by
  simp

theorem unpackWeightData_getD (bits : Nat) {perByte i : Nat} (hper : 0 < perByte)
    (hi : i < packed.length * perByte) :
    (unpackWeightData packed bits perByte).getD i 0 =
      (packed.getD (i / perByte) 0 >>> (bits * (i % perByte))) &&& lowMask bits := by
  have hbyte : i / perByte < packed.length := (Nat.div_lt_iff_lt_mul hper).mpr hi
  have hidx : i % perByte < perByte := Nat.mod_lt _ hper
  have hsplit := getD_flatMap (length_fields bits perByte) packed 0 0 hbyte hidx
  rw [Nat.mul_comm,Nat.div_add_mod] at hsplit
  rw [unpackWeightData,hsplit]
  exact getD_map_range _ 0 hidx

theorem length_unpackWeightData (bits perByte : Nat) :
    (unpackWeightData packed bits perByte).length = packed.length * perByte :=
  length_flatMap (length_fields bits perByte) packed

theorem Packed.perByte_pos (h : Packed node) : 0 < node.numElementsPerUint8 := by
  unfold Node.numElementsPerUint8
  rcases h.bits with hbits | hbits | hbits <;> simp [hbits]

theorem Packed.onnxKBlocks_eq (h : Packed node) : node.onnxKBlocks = node.kBlocks := by
  have hsum : node.k + node.blockSize - 1 = (node.blockSize - 1) + node.kBlocks * node.blockSize := by
    rw [← h.blocks]
    have := h.positive
    omega
  rw [Node.onnxKBlocks,hsum,Nat.add_mul_div_right _ _ h.positive,
    Nat.div_eq_of_lt (Nat.sub_lt h.positive Nat.one_pos),Nat.zero_add]

theorem Packed.bitPosition (h : Packed node) (n k : Nat) :
    8 * ((n * node.onnxKBlocks + k / node.blockSize) * node.onnxBlobSize) +
      k % node.blockSize * node.bits = (n * node.k + k) * node.bits := by
  obtain ⟨blob,hblob⟩ := h.aligned
  have hper : node.numElementsPerUint8 * node.bits = 8 := perByte_mul h.bits
  have hbytes : node.blockSize * node.bits = 8 * blob := by
    rw [hblob,Nat.mul_right_comm,hper]
  have hsize : node.onnxBlobSize = blob := by
    rw [Node.onnxBlobSize,hbytes,Nat.mul_div_cancel_left _ (by decide)]
  calc 8 * ((n * node.onnxKBlocks + k / node.blockSize) * node.onnxBlobSize) +
        k % node.blockSize * node.bits
      = (n * node.kBlocks + k / node.blockSize) * (node.blockSize * node.bits) +
          k % node.blockSize * node.bits := by
        rw [h.onnxKBlocks_eq,hsize,hbytes]
        ring
    _ = (n * (node.kBlocks * node.blockSize) +
          (node.blockSize * (k / node.blockSize) + k % node.blockSize)) * node.bits := by ring
    _ = (n * node.k + k) * node.bits := by rw [← h.blocks,Nat.div_add_mod]

theorem Packed.lowBits_weight (h : Packed node) (hdata : node.weightData = some packed)
    {k n : Nat} (hk : k < node.k) (hn : n < node.n) :
    lowBits node.bits ((transpose node.n node.k 0 (unpackWeightData
      (packed.map (· ^^^ flipMask node.bits)) node.bits node.numElementsPerUint8)).getD
        (k * node.n + n) 0) = (node.quantized n k : Int) - 2 ^ (node.bits - 1) := by
  have hflat : n * node.k + k < packed.length * node.numElementsPerUint8 := by
    rw [h.weight packed hdata]
    exact index_lt hn hk
  have hlen : (unpackWeightData (packed.map (· ^^^ flipMask node.bits)) node.bits
      node.numElementsPerUint8).length = node.n * node.k := by
    rw [length_unpackWeightData,List.length_map,h.weight packed hdata]
  have hbyte : (n * node.k + k) / node.numElementsPerUint8 < packed.length :=
    (Nat.div_lt_iff_lt_mul h.perByte_pos).mpr hflat
  have hfield := lowBits_field h.bits (packed.getD ((n * node.k + k) / node.numElementsPerUint8) 0)
    (Nat.mod_lt (n * node.k + k) h.perByte_pos)
  rw [transpose_getD node.n node.k 0 _ hlen hn hk,
    unpackWeightData_getD node.bits h.perByte_pos (by rwa [List.length_map]),
    getD_map (· ^^^ flipMask node.bits) packed hbyte 0 0,Node.quantized,h.bitPosition,hdata,
    Option.getD_some,subByte_element h.bits]
  exact hfield

end

section
variable {node : Node} {offsets : List ℚ}

theorem length_row {α : Type} (f : Nat → Nat → α) (blocks row : Nat) :
    ((List.range blocks).map (f row)).length = blocks := by
  simp

theorem unpackZeroPointData_getD (hbits : node.bits = 2 ∨ node.bits = 4 ∨ node.bits = 8)
    (packed : List Byte) {n block : Nat} (hn : n < node.n) (hblock : block < node.kBlocks) :
    (unpackZeroPointData packed node.bits node.n node.kBlocks).getD (n * node.kBlocks + block) 0 =
      (subByte node.bits packed (8 * (n * ((node.kBlocks * node.bits + 7) / 8)) + block * node.bits) :
        ℚ) := by
  have hn' : n < (List.range node.n).length := by simpa using hn
  rw [unpackZeroPointData,getD_flatMap (length_row _ node.kBlocks) _ 0 0 hn' hblock,
    getD_map_range _ 0 hblock,subByte,Nat.mul_add_div (by decide),Nat.mul_add_mod,
    ← and_lowMask hbits,List.getD_eq_getElem _ _ hn',List.getElem_range]
  rfl

theorem length_unpackZeroPointData (packed : List Byte) :
    (unpackZeroPointData packed node.bits node.n node.kBlocks).length = node.totalBlocks := by
  rw [unpackZeroPointData,length_flatMap (length_row _ node.kBlocks),List.length_range]
  rfl

theorem perBlockOffsets_getD (h : Packed node) (hoffsets : perBlockOffsets node = .ok offsets)
    {n block : Nat} (hn : n < node.n) (hblock : block < node.kBlocks) :
    offsets.getD (n * node.kBlocks + block) 0 = 2 ^ (node.bits - 1) - (node.zeroPoint n block : ℚ) := by
  have hflat : n * node.kBlocks + block < node.totalBlocks := index_lt hn hblock
  unfold perBlockOffsets at hoffsets
  split at hoffsets
  · next hnone =>
    cases hoffsets
    simp [Node.zeroPoint,hnone]
  · cases hoffsets
  · next packed hsome =>
    cases hoffsets
    rw [getD_map _ _ (by rwa [length_unpackZeroPointData]) 0,
      unpackZeroPointData_getD h.bits packed hn hblock,Node.zeroPoint,hsome,h.onnxKBlocks_eq]
    ring

end

theorem unpackWeight_ok {params : WeightParams} (h : unpackWeight node = .ok params) :
    ∃ packed, node.weightData = some packed ∧ node.scales = some params.scales ∧
      perBlockOffsets node = .ok params.offsets ∧
      params.data = transpose node.n node.k 0 (unpackWeightData
        (packed.map (· ^^^ flipMask node.bits)) node.bits node.numElementsPerUint8) := by
  unfold unpackWeight at h
  split at h
  · cases h
  · next packed hdata =>
    obtain ⟨quantData,htransform,h⟩ := bind_ok h
    split at h
    · cases h
    · next scales hscales =>
      split at h
      · obtain ⟨offsets,hoffsets,h⟩ := bind_ok h
        cases h
        rw [transform_ok htransform]
        exact ⟨packed,hdata,hscales,hoffsets,rfl⟩
      · cases h

theorem decodeBlocks_eq (h : Packed node) {params : WeightParams} (hparams : unpackWeight node = .ok params)
    {k n : Nat} (hk : k < node.k) (hn : n < node.n) :
    decodeBlocks node.bits node.blockSize node.k node.n params.scales params.offsets params.data k n =
      node.dequantized n k := by
  obtain ⟨packed,hdata,hscales,hoffsets,hbytes⟩ := unpackWeight_ok hparams
  have hblock : k / node.blockSize < node.kBlocks := by
    rw [Nat.div_lt_iff_lt_mul h.positive,← h.blocks]
    exact hk
  rw [decodeBlocks,Node.dequantized,hbytes,h.lowBits_weight hdata hk hn,h.onnxKBlocks_eq,hscales]
  have hoffset := perBlockOffsets_getD h hoffsets hn hblock
  rw [Node.kBlocks] at hoffset ⊢
  rw [hoffset,Option.getD_some]
  push_cast
  ring

theorem map_zero_eq {offsets : List ℚ} (h : ∀ offset ∈ offsets, offset = 0) :
    (List.replicate offsets.length (0 : Int)).map (fun z : Int => (z : ℚ)) = offsets := by
  rw [List.map_replicate,Int.cast_zero]
  exact (List.eq_replicate_of_mem h).symm

theorem decodes_weightEncoding (h : Packed node) {params : WeightParams}
    (hparams : unpackWeight node = .ok params) {actDataType : QnnDataType} (tensorType : QnnTensorType)
    (hencoding : weightEncoding backend node actDataType params ≠ .blockwiseExpansion) :
    Decodes ⟨tensorType,.sfixedPoint8,weightEncoding backend node actDataType params,
      [1,1,node.k,node.n],params.data⟩ node := by
  refine ⟨rfl,fun k hk n hn => ?_⟩
  rw [← decodeBlocks_eq h hparams hk hn]
  unfold weightEncoding at hencoding ⊢
  simp only at hencoding ⊢
  split at hencoding
  · exact absurd rfl hencoding
  · next hlpbq =>
    rw [if_neg hlpbq]
    split
    · next hnative =>
      simp only [isHTPSupportedNativeBQ,decide_eq_true_eq] at hnative
      obtain ⟨_,_,hbits,hzero,_⟩ := hnative
      simp only [decodeWeight,kHtpNativeBQBits,map_zero_eq hzero,hbits]
    · rfl

end QnnEp.MatMulNBits
