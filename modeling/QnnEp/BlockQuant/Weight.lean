import Mathlib.Tactic.Ring
import QnnEp.BlockQuant.SubByte
import QnnEp.Foundation.Scatter

namespace QnnEp.BlockQuant
open Registry Scatter

structure BQWeight where
  type : BQType
  weight : Initializer type
  scaleShape : List Nat
  scales : List ℚ
  zeroPoint : Option (Initializer type)
  blockSize : Option Nat

structure BwFloatBlockTensor where
  shape : List Nat
  data : List Byte
  bitwidth : Nat
  blockSizes : List Nat
  scaleOffsets : List (ℚ × ℚ)

def isBQScale (scaleShape weightShape : List Nat) (blockAxis : Nat) : Bool :=
  match scaleShape[blockAxis]?, weightShape[blockAxis]? with
  | some numBlocks, some weightDim =>
    decide (0 < numBlocks) && decide (numBlocks < weightDim) && weightDim % numBlocks == 0
  | _, _ => false

def blockSizeMultiplier : Nat → Option Nat
  | 2 => some 16
  | 4 => some 8
  | 8 => some 4
  | _ => none

def validateBQBitwidthAndBlockSize (bitwidth blockSize : Nat) (opTag : String) : Except String Unit :=
  match blockSizeMultiplier bitwidth with
  | none => .error ("QNN HTP " ++ opTag ++ " BQ: unsupported weight bitwidth=" ++ toString bitwidth)
  | some multiplier =>
    if blockSize % multiplier = 0 then .ok ()
    else .error ("QNN HTP " ++ opTag ++ " BQ: block_size=" ++ toString blockSize ++
      " must be a multiple of " ++ toString multiplier ++ " for " ++ toString bitwidth ++ "-bit weight")

def resolveBlockSize (attr : Option Nat) (contractionDim numBlocks : Nat) (opTag : String) :
    Except String Nat :=
  if numBlocks = 0 ∨ contractionDim % numBlocks ≠ 0 then
    .error ("QNN EP: BQ " ++ opTag ++
      ": contraction dim must be a positive multiple of num_blocks")
  else
    let blockSize := contractionDim / numBlocks
    match attr with
    | some attrBlockSize =>
      if attrBlockSize = blockSize then .ok blockSize
      else .error ("QNN EP: BQ " ++ opTag ++ ": block_size attribute (" ++ toString attrBlockSize ++
        ") disagrees with scale-derived block_size (" ++ toString blockSize ++ ")")
    | none => .ok blockSize

def computeBQOffsets {type : BQType} (zeroPoint : Option (Initializer type)) (count : Nat) :
    Except String (List ℚ) :=
  let unsignedBias : ℚ := unsignedBias type
  if count = 0 then .error "QNN EP: BQ ComputeBQOffsets: count must be positive"
  else
    match zeroPoint with
    | none => .ok (List.replicate count unsignedBias)
    | some zeroPoint => do
      let zpValues ← unpackZeroPoints zeroPoint
      if zpValues.length = count then pure (zpValues.map fun zp : Int => unsignedBias - (zp : ℚ))
      else .error "QNN EP: BQ zero_point size mismatch"

structure BQLayout where
  k : Nat
  n : Nat
  numBlocks : Nat
  transposeWeight : Bool
  transposeScales : Bool
  shape : List Nat
  blockSizes : Nat → List Nat

def processBQWeight (opTag : String) (w : BQWeight) (layout : BQLayout) :
    Except String BwFloatBlockTensor := do
  let blockSize ← resolveBlockSize w.blockSize layout.k layout.numBlocks opTag
  validateBQBitwidthAndBlockSize (getBQBitwidth w.type) blockSize opTag
  let unpacked ← unpackInitializerData w.weight
  let signed ← toSignedDomain w.type unpacked
  if w.scales.length = layout.n * layout.numBlocks then
    let offsets ← computeBQOffsets w.zeroPoint (layout.n * layout.numBlocks)
    let orient (values : List ℚ) : List ℚ :=
      if layout.transposeScales then transpose layout.numBlocks layout.n 0 values else values
    pure ⟨layout.shape,
      if layout.transposeWeight then transpose layout.k layout.n 0 signed else signed,
      getBQBitwidth w.type,layout.blockSizes blockSize,(orient w.scales).zip (orient offsets)⟩
  else .error ("QNN EP: BQ " ++ opTag ++ " scale size mismatch")

def isBQGemmWeight (w : BQWeight) (transB : Bool) : Bool :=
  w.weight.shape.length == 2 && w.scaleShape.length == 2 &&
    isBQScale w.scaleShape w.weight.shape (if transB then 1 else 0)

def processInputsForBQGemm (transB : Bool) (w : BQWeight) : Except String BwFloatBlockTensor :=
  match w.weight.shape with
  | [dim0,dim1] =>
    match w.scaleShape with
    | [blocks0,blocks1] =>
      let n := if transB then dim0 else dim1
      let k := if transB then dim1 else dim0
      processBQWeight "Gemm" w ⟨k,n,if transB then blocks1 else blocks0,!transB,!transB,[n,k],
        fun blockSize => [1,blockSize]⟩
    | _ => .error "QNN EP: BQ Gemm scale must be rank-2"
  | _ => .error "QNN EP: BQ Gemm weight must be rank-2"

def isBQMatMulWeight (w : BQWeight) : Bool :=
  let rank := w.weight.shape.length
  decide (2 ≤ rank) && decide (rank ≤ 4) && (w.weight.shape.take (rank - 2)).all (· == 1) &&
    w.scaleShape.length == rank && (w.scaleShape.take (rank - 2)).all (· == 1) &&
    isBQScale w.scaleShape w.weight.shape (rank - 2)

def processInputsForBQMatMul (w : BQWeight) : Except String BwFloatBlockTensor :=
  let rank := w.weight.shape.length
  if 2 ≤ rank ∧ rank ≤ 4 then
    let k := w.weight.shape.getD (rank - 2) 0
    let n := w.weight.shape.getD (rank - 1) 0
    if w.scaleShape.length = rank then
      processBQWeight "MatMul" w ⟨k,n,w.scaleShape.getD (rank - 2) 0,false,true,[1,1,k,n],
        fun blockSize => [1,1,blockSize,1]⟩
    else .error "QNN EP: BQ MatMul scale rank must match weight rank"
  else .error "QNN EP: BQ MatMul weight must be rank 2, 3, or 4 with shape [..., K, N]"

inductive BQOp where
  | gemm (transB : Bool)
  | matMul
  deriving DecidableEq, Repr

namespace BQOp

def isBQWeight : BQOp → BQWeight → Bool
  | .gemm transB, w => isBQGemmWeight w transB
  | .matMul, w => isBQMatMulWeight w

def processInputs : BQOp → BQWeight → Except String BwFloatBlockTensor
  | .gemm transB, w => processInputsForBQGemm transB w
  | .matMul, w => processInputsForBQMatMul w

end BQOp

section
variable {type : BQType}

def zeroPointAt (zeroPoint : Option (Initializer type)) (i : Nat) : Int :=
  (zeroPoint.map fun z => z.element i).getD 0

theorem computeBQOffsets_ok {zeroPoint : Option (Initializer type)} {count : Nat} {offsets : List ℚ}
    (h : computeBQOffsets zeroPoint count = .ok offsets) :
    offsets.length = count ∧ ∀ i < count,
      offsets.getD i 0 = (unsignedBias type : ℚ) + (zeroPointAt zeroPoint i : ℚ) := by
  unfold computeBQOffsets at h
  split at h
  · cases h
  · cases zeroPoint with
    | none =>
      obtain rfl := Except.ok.inj h
      refine ⟨by simp,?_⟩
      intro i hi
      simp [hi,zeroPointAt]
    | some z =>
      obtain ⟨zps,hzps,hlen,hneg⟩ := unpackZeroPoints_neg z
      obtain ⟨zps',hzps',hmap⟩ := bind_ok h
      obtain rfl := Except.ok.inj (hzps.symm.trans hzps')
      split at hmap
      · next hcount =>
        obtain rfl := Except.ok.inj hmap
        refine ⟨by simp [hcount],?_⟩
        intro i hi
        rw [getD_map _ zps (by omega) 0,hneg i (by omega)]
        simp [zeroPointAt]
      · cases hmap

end

section
variable {w : BQWeight} {layout : BQLayout} {r : BwFloatBlockTensor}

theorem resolveBlockSize_ok {attr : Option Nat} {k numBlocks blockSize : Nat} {opTag : String}
    (h : resolveBlockSize attr k numBlocks opTag = .ok blockSize) :
    blockSize = k / numBlocks ∧ 0 < numBlocks ∧ k % numBlocks = 0 := by
  unfold resolveBlockSize at h
  split at h
  · cases h
  · next hne =>
    push Not at hne
    refine ⟨?_,Nat.pos_of_ne_zero hne.1,hne.2⟩
    cases attr with
    | none => exact (Except.ok.inj h).symm
    | some a =>
      simp only at h
      split at h
      · exact (Except.ok.inj h).symm
      · cases h

def orient {α : Type} (transposed : Bool) (rows cols : Nat) (zero : α) (values : List α) : List α :=
  if transposed then transpose rows cols zero values else values

structure Registered (w : BQWeight) (layout : BQLayout) (r : BwFloatBlockTensor) : Prop where
  shape : r.shape = layout.shape
  bitwidth : r.bitwidth = getBQBitwidth w.type
  blockSizes : r.blockSizes = layout.blockSizes (layout.k / layout.numBlocks)
  blocks_pos : 0 < layout.numBlocks
  blocks_dvd : layout.k % layout.numBlocks = 0
  data : ∃ signed, r.data = orient layout.transposeWeight layout.k layout.n 0 signed ∧
    signed.length = w.weight.shape.prod ∧ ∀ i < w.weight.shape.prod,
      lowBits (getBQBitwidth w.type) (signed.getD i 0) = w.weight.element i - unsignedBias w.type
  scaleOffsets : ∃ offsets, r.scaleOffsets =
      (orient layout.transposeScales layout.numBlocks layout.n 0 w.scales).zip
        (orient layout.transposeScales layout.numBlocks layout.n 0 offsets) ∧
    w.scales.length = layout.n * layout.numBlocks ∧ offsets.length = layout.n * layout.numBlocks ∧
    ∀ i < layout.n * layout.numBlocks,
      offsets.getD i 0 = (unsignedBias w.type : ℚ) + (zeroPointAt w.zeroPoint i : ℚ)

theorem processBQWeight_registered {opTag : String} (h : processBQWeight opTag w layout = .ok r) :
    Registered w layout r := by
  obtain ⟨blockSize,hblock,h⟩ := bind_ok h
  obtain ⟨_,_,h⟩ := bind_ok h
  obtain ⟨unpacked,hunpacked,h⟩ := bind_ok h
  obtain ⟨signed,hsigned,h⟩ := bind_ok h
  obtain ⟨rfl,hpos,hdvd⟩ := resolveBlockSize_ok hblock
  obtain ⟨us,hus,hunpacks⟩ := unpackInitializerData_unpacks w.weight
  obtain rfl := Except.ok.inj (hus.symm.trans hunpacked)
  obtain ⟨signed',hsigned',hlen,hlow⟩ := toSignedDomain_lowBits hunpacks
  obtain rfl := Except.ok.inj (hsigned'.symm.trans hsigned)
  split at h
  · next hscales =>
    obtain ⟨offsets,hoffsets,h⟩ := bind_ok h
    obtain rfl := Except.ok.inj h
    obtain ⟨hcount,hvalue⟩ := computeBQOffsets_ok hoffsets
    exact ⟨rfl,rfl,rfl,hpos,hdvd,⟨signed',rfl,hlen,hlow⟩,⟨offsets,rfl,hscales,hcount,hvalue⟩⟩
  · cases h

end

namespace BwFloatBlockTensor
variable (r : BwFloatBlockTensor)

def position (n k : Nat) : Nat :=
  match r.shape with
  | [_,dimK] => n * dimK + k
  | [_,_,_,dimN] => k * dimN + n
  | _ => 0

def blockSize : Nat :=
  match r.blockSizes with
  | [_,blockSize] => blockSize
  | [_,_,blockSize,_] => blockSize
  | _ => 0

def numBlocks : Nat :=
  match r.shape with
  | [_,dimK] => dimK / r.blockSize
  | [_,_,dimK,_] => dimK / r.blockSize
  | _ => 0

def decode (n k : Nat) : ℚ :=
  let scaleOffset := r.scaleOffsets.getD (n * r.numBlocks + k / r.blockSize) (0,0)
  scaleOffset.1 * ((lowBits r.bitwidth (r.data.getD (r.position n k) 0) : ℚ) + scaleOffset.2)

end BwFloatBlockTensor

namespace BQOp
variable (op : BQOp) (w : BQWeight)

def contractionAxis : Nat :=
  match op with
  | .gemm transB => if transB then 1 else 0
  | .matMul => w.weight.shape.length - 2

def outputAxis : Nat :=
  match op with
  | .gemm transB => if transB then 0 else 1
  | .matMul => w.weight.shape.length - 1

def dimK : Nat := w.weight.shape.getD (op.contractionAxis w) 0

def dimN : Nat := w.weight.shape.getD (op.outputAxis w) 0

def numBlocks : Nat := w.scaleShape.getD (op.contractionAxis w) 0

def rowMajor (n k extent : Nat) : Nat :=
  match op with
  | .gemm true => n * extent + k
  | _ => k * op.dimN w + n

def weightIndex (n k : Nat) : Nat := op.rowMajor w n k (op.dimK w)

def scaleIndex (n k : Nat) : Nat :=
  op.rowMajor w n (k / (op.dimK w / op.numBlocks w)) (op.numBlocks w)

def scaleAt (n k : Nat) : ℚ := w.scales.getD (op.scaleIndex w n k) 0

def zeroPointAt (n k : Nat) : Int := BlockQuant.zeroPointAt w.zeroPoint (op.scaleIndex w n k)

def dequantized (n k : Nat) : ℚ :=
  op.scaleAt w n k * ((w.weight.element (op.weightIndex w n k) : ℚ) - op.zeroPointAt w n k)

end BQOp

theorem shifted_eq_iff (scale : ℚ) (element bias zeroPoint : Int) :
    scale * (((element - bias : Int) : ℚ) + ((bias : ℚ) + zeroPoint)) =
      scale * ((element : ℚ) - zeroPoint) ↔ scale = 0 ∨ zeroPoint = 0 := by
  have hdiff : scale * (((element - bias : Int) : ℚ) + ((bias : ℚ) + zeroPoint)) -
      scale * ((element : ℚ) - zeroPoint) = 2 * (scale * zeroPoint) := by
    push_cast
    ring
  rw [← sub_eq_zero,hdiff]
  simp

section
variable {w : BQWeight} {layout : BQLayout} {r : BwFloatBlockTensor}

theorem orient_getD {α : Type} {rows cols row col : Nat} {zero : α} {values : List α}
    (hlen : values.length = rows * cols) (hr : row < rows) (hc : col < cols) :
    (orient true rows cols zero values).getD (col * rows + row) zero =
      values.getD (row * cols + col) zero :=
  transpose_getD rows cols zero values hlen hr hc

theorem length_orient {α : Type} (transposed : Bool) (rows cols : Nat) (zero : α) (values : List α) :
    (orient transposed rows cols zero values).length = values.length := by
  cases transposed <;> simp [orient]

theorem getD_zip {α β : Type} {xs : List α} {ys : List β} {i : Nat} (hx : i < xs.length)
    (hy : i < ys.length) (a : α) (b : β) : (xs.zip ys).getD i (a,b) = (xs.getD i a,ys.getD i b) := by
  simp [hx,hy]

theorem Registered.lowBits_at (h : Registered w layout r) {i p : Nat} (hi : i < w.weight.shape.prod)
    (hp : ∀ signed : List Byte, signed.length = w.weight.shape.prod →
      (orient layout.transposeWeight layout.k layout.n 0 signed).getD p 0 = signed.getD i 0) :
    lowBits r.bitwidth (r.data.getD p 0) = w.weight.element i - unsignedBias w.type := by
  obtain ⟨signed,hdata,hlen,hlow⟩ := h.data
  rw [h.bitwidth,hdata,hp signed hlen,hlow i hi]

theorem Registered.scaleOffset_at (h : Registered w layout r) {i p : Nat}
    (hi : i < layout.n * layout.numBlocks) (hplt : p < layout.n * layout.numBlocks)
    (hp : ∀ values : List ℚ, values.length = layout.n * layout.numBlocks →
      (orient layout.transposeScales layout.numBlocks layout.n 0 values).getD p 0 = values.getD i 0) :
    r.scaleOffsets.getD p (0,0) =
      (w.scales.getD i 0,(unsignedBias w.type : ℚ) + (zeroPointAt w.zeroPoint i : ℚ)) := by
  obtain ⟨offsets,hso,hscales,hoffsets,hvalue⟩ := h.scaleOffsets
  rw [hso,getD_zip (by simpa [length_orient,hscales] using hplt)
    (by simpa [length_orient,hoffsets] using hplt),hp _ hscales,hp _ hoffsets,hvalue i hi]

theorem Registered.decode_iff (h : Registered w layout r) {n k i j : Nat}
    (hi : i < w.weight.shape.prod) (hj : j < layout.n * layout.numBlocks)
    (hplt : n * r.numBlocks + k / r.blockSize < layout.n * layout.numBlocks)
    (hdata : ∀ signed : List Byte, signed.length = w.weight.shape.prod →
      (orient layout.transposeWeight layout.k layout.n 0 signed).getD (r.position n k) 0 =
        signed.getD i 0)
    (hscale : ∀ values : List ℚ, values.length = layout.n * layout.numBlocks →
      (orient layout.transposeScales layout.numBlocks layout.n 0 values).getD
        (n * r.numBlocks + k / r.blockSize) 0 = values.getD j 0) :
    r.decode n k = w.scales.getD j 0 *
        ((w.weight.element i : ℚ) - (zeroPointAt w.zeroPoint j : ℚ)) ↔
      w.scales.getD j 0 = 0 ∨ zeroPointAt w.zeroPoint j = 0 := by
  unfold BwFloatBlockTensor.decode
  rw [h.scaleOffset_at hj hplt hscale,h.lowBits_at hi hdata]
  exact shifted_eq_iff _ _ _ _

end

section
variable {extent numBlocks k : Nat}

theorem block_lt (hdvd : extent % numBlocks = 0) (hk : k < extent) :
    k / (extent / numBlocks) < numBlocks := by
  have hmul : numBlocks * (extent / numBlocks) = extent :=
    Nat.mul_div_cancel' (Nat.dvd_of_mod_eq_zero hdvd)
  have hsize : 0 < extent / numBlocks := by
    apply Nat.pos_of_ne_zero
    intro h0
    rw [h0,Nat.mul_zero] at hmul
    omega
  rw [Nat.div_lt_iff_lt_mul hsize,hmul]
  exact hk

theorem blocks_eq (hdvd : extent % numBlocks = 0) (hk : k < extent) :
    extent / (extent / numBlocks) = numBlocks :=
  Nat.div_div_self (Nat.dvd_of_mod_eq_zero hdvd) (by omega)

end

namespace BQOp
variable (op : BQOp) (w : BQWeight)

def layout : BQLayout :=
  match op with
  | .gemm transB => ⟨op.dimK w,op.dimN w,op.numBlocks w,!transB,!transB,[op.dimN w,op.dimK w],
      fun blockSize => [1,blockSize]⟩
  | .matMul => ⟨op.dimK w,op.dimN w,op.numBlocks w,false,true,[1,1,op.dimK w,op.dimN w],
      fun blockSize => [1,1,blockSize,1]⟩

theorem prod_of_leading_ones : ∀ shape : List Nat, 2 ≤ shape.length →
    (shape.take (shape.length - 2)).all (· == 1) = true →
    shape.prod = shape.getD (shape.length - 2) 0 * shape.getD (shape.length - 1) 0
  | [a,b], _, _ => by simp
  | a :: b :: c :: rest, _, h => by
    have hcons : a = 1 ∧ ((b :: c :: rest).take ((b :: c :: rest).length - 2)).all (· == 1) = true := by
      simpa using h
    have ih := prod_of_leading_ones (b :: c :: rest) (by simp) hcons.2
    rw [List.prod_cons,ih,hcons.1,Nat.one_mul]
    rfl

variable {op w} {r : BwFloatBlockTensor}

theorem processInputs_registered (hbq : op.isBQWeight w = true) (h : op.processInputs w = .ok r) :
    Registered w (op.layout w) r ∧ w.weight.shape.prod = op.dimK w * op.dimN w := by
  cases op with
  | gemm transB =>
    simp only [processInputs,processInputsForBQGemm] at h
    split at h
    · next dim0 dim1 hshape =>
      split at h
      · next blocks0 blocks1 hscale =>
        have hreg := processBQWeight_registered h
        cases transB with
        | false =>
          refine ⟨?_,by simp [dimK,dimN,contractionAxis,outputAxis,hshape]⟩
          simpa [layout,dimK,dimN,numBlocks,contractionAxis,outputAxis,hshape,hscale] using hreg
        | true =>
          refine ⟨?_,by simp [dimK,dimN,contractionAxis,outputAxis,hshape,Nat.mul_comm]⟩
          simpa [layout,dimK,dimN,numBlocks,contractionAxis,outputAxis,hshape,hscale] using hreg
      · cases h
    · cases h
  | matMul =>
    simp only [processInputs,processInputsForBQMatMul] at h
    split at h
    · next hrank =>
      split at h
      · refine ⟨processBQWeight_registered h,prod_of_leading_ones _ hrank.1 ?_⟩
        simp only [isBQWeight,isBQMatMulWeight,Bool.and_eq_true] at hbq
        exact hbq.1.1.1.2
      · cases h
    · cases h

theorem blockSize_eq (hreg : Registered w (op.layout w) r) :
    r.blockSize = op.dimK w / op.numBlocks w := by
  cases op <;> simp [BwFloatBlockTensor.blockSize,hreg.blockSizes,layout]

theorem numBlocks_eq (hreg : Registered w (op.layout w) r) {k : Nat} (hk : k < op.dimK w) :
    r.numBlocks = op.numBlocks w := by
  have hdvd : op.dimK w % op.numBlocks w = 0 := by
    cases op <;> exact hreg.blocks_dvd
  rw [← blocks_eq hdvd hk,← blockSize_eq hreg]
  cases op <;> simp [BwFloatBlockTensor.numBlocks,hreg.shape,layout]

theorem weight_at (hreg : Registered w (op.layout w) r)
    (hprod : w.weight.shape.prod = op.dimK w * op.dimN w) {n k : Nat} (hn : n < op.dimN w)
    (hk : k < op.dimK w) : op.weightIndex w n k < w.weight.shape.prod ∧
      ∀ signed : List Byte, signed.length = w.weight.shape.prod →
        (orient (op.layout w).transposeWeight (op.layout w).k (op.layout w).n 0 signed).getD
          (r.position n k) 0 = signed.getD (op.weightIndex w n k) 0 := by
  have hkn : k * op.dimN w + n < w.weight.shape.prod := hprod ▸ index_lt hk hn
  have hnk : n * op.dimK w + k < w.weight.shape.prod := by
    rw [hprod,Nat.mul_comm (op.dimK w)]
    exact index_lt hn hk
  cases op with
  | gemm transB =>
    have hpos : r.position n k = n * dimK (.gemm transB) w + k := by
      simp [BwFloatBlockTensor.position,hreg.shape,layout]
    cases transB with
    | false =>
      refine ⟨hkn,?_⟩
      intro signed hlen
      rw [hpos]
      exact orient_getD (hlen.trans hprod) hk hn
    | true =>
      refine ⟨hnk,?_⟩
      intro signed _
      rw [hpos]
      rfl
  | matMul =>
    have hpos : r.position n k = k * dimN .matMul w + n := by
      simp [BwFloatBlockTensor.position,hreg.shape,layout]
    refine ⟨hkn,?_⟩
    intro signed _
    rw [hpos]
    rfl

theorem scale_at {n b : Nat} (hn : n < op.dimN w) (hb : b < op.numBlocks w) :
    op.rowMajor w n b (op.numBlocks w) < op.dimN w * op.numBlocks w ∧
      ∀ values : List ℚ, values.length = op.dimN w * op.numBlocks w →
        (orient (op.layout w).transposeScales (op.numBlocks w) (op.dimN w) 0 values).getD
          (n * op.numBlocks w + b) 0 = values.getD (op.rowMajor w n b (op.numBlocks w)) 0 := by
  have hbn : b * op.dimN w + n < op.dimN w * op.numBlocks w := by
    rw [Nat.mul_comm (op.dimN w)]
    exact index_lt hb hn
  have htransposed (values : List ℚ) (hlen : values.length = op.dimN w * op.numBlocks w) :
      (orient true (op.numBlocks w) (op.dimN w) 0 values).getD (n * op.numBlocks w + b) 0 =
        values.getD (b * op.dimN w + n) 0 :=
    orient_getD (hlen.trans (Nat.mul_comm ..)) hb hn
  rcases op with ⟨_ | _⟩ | _
  · exact ⟨hbn,htransposed⟩
  · exact ⟨index_lt hn hb,fun _ _ => rfl⟩
  · exact ⟨hbn,htransposed⟩

theorem decode_eq_dequantized_iff (hbq : op.isBQWeight w = true) (h : op.processInputs w = .ok r)
    {n k : Nat} (hn : n < op.dimN w) (hk : k < op.dimK w) :
    r.decode n k = op.dequantized w n k ↔ op.scaleAt w n k = 0 ∨ op.zeroPointAt w n k = 0 := by
  obtain ⟨hreg,hprod⟩ := processInputs_registered hbq h
  have hdims : (op.layout w).n = op.dimN w ∧ (op.layout w).numBlocks = op.numBlocks w := by
    cases op <;> exact ⟨rfl,rfl⟩
  have hdvd : op.dimK w % op.numBlocks w = 0 := by
    cases op <;> exact hreg.blocks_dvd
  have hblock := block_lt hdvd hk
  obtain ⟨hweight,hdata⟩ := weight_at hreg hprod hn hk
  obtain ⟨hscale,hvalues⟩ := scale_at hn hblock
  apply hreg.decode_iff hweight
  · rw [hdims.1,hdims.2]
    exact hscale
  · rw [hdims.1,hdims.2,blockSize_eq hreg,numBlocks_eq hreg hk]
    exact index_lt hn hblock
  · exact hdata
  · rw [hdims.1,hdims.2,blockSize_eq hreg,numBlocks_eq hreg hk]
    exact hvalues

theorem processInputs_decode_iff (op : BQOp) (w : BQWeight) {r : BwFloatBlockTensor}
    (hbq : op.isBQWeight w = true) (h : op.processInputs w = .ok r) :
    (∀ n < op.dimN w, ∀ k < op.dimK w, r.decode n k = op.dequantized w n k) ↔
      ∀ n < op.dimN w, ∀ k < op.dimK w, op.scaleAt w n k = 0 ∨ op.zeroPointAt w n k = 0 := by
  constructor
  · intro hall n hn k hk
    exact (decode_eq_dequantized_iff hbq h hn hk).mp (hall n hn k hk)
  · intro hall n hn k hk
    exact (decode_eq_dequantized_iff hbq h hn hk).mpr (hall n hn k hk)

def uint4Weight (zeroPoint : Option (Initializer .uint4)) : BQWeight where
  type := .uint4
  weight := ⟨[1,16],List.replicate 8 0x88#8,rfl⟩
  scaleShape := [1,2]
  scales := [1,1 / 2]
  zeroPoint := zeroPoint
  blockSize := some 8

theorem processInputs_decode_withoutZeroPoint :
    ∃ r, (gemm true).processInputs (uint4Weight none) = .ok r ∧
      ∀ n < (gemm true).dimN (uint4Weight none), ∀ k < (gemm true).dimK (uint4Weight none),
        r.decode n k = (gemm true).dequantized (uint4Weight none) n k := by
  refine ⟨_,rfl,(processInputs_decode_iff (gemm true) (uint4Weight none) rfl rfl).mpr ?_⟩
  intro n _ k _
  exact .inr rfl

theorem processInputs_decode_zeroPoint :
    ∃ r, (gemm true).isBQWeight (uint4Weight (some ⟨[1,2],[0x88#8],rfl⟩)) = true ∧
      (gemm true).processInputs (uint4Weight (some ⟨[1,2],[0x88#8],rfl⟩)) = .ok r ∧
      (gemm true).dequantized (uint4Weight (some ⟨[1,2],[0x88#8],rfl⟩)) 0 0 = 0 ∧
      r.decode 0 0 = 16 := by
  refine ⟨_,rfl,rfl,?_,?_⟩
  · decide +kernel
  · decide +kernel

end BQOp

end QnnEp.BlockQuant
