import QnnEp.Model.Wrapper
import QnnEp.Qdq.Annotated
import QnnEp.Quant.ParamsWrapper

namespace QnnEp.Quant
open Model (unsqueezeAxis)
open Qdq (OnnxType)

namespace QuantizeParams

def axis? : QuantizeParams → Option Int
  | .axisScaleOffset axis _ _ => some axis
  | .bwAxisScaleOffset axis _ _ _ _ => some axis
  | .blockwiseExpansion axis _ _ _ _ => some axis
  | _ => none

def setAxis (axis : Int) : QuantizeParams → QuantizeParams
  | .axisScaleOffset _ n entries => .axisScaleOffset axis n entries
  | .bwAxisScaleOffset _ bitwidth n scales offsets => .bwAxisScaleOffset axis bitwidth n scales offsets
  | .blockwiseExpansion _ numBlocksPerAxis bitwidth scaleOffsets blocksScale8 =>
    .blockwiseExpansion axis numBlocksPerAxis bitwidth scaleOffsets blocksScale8
  | params => params

def isPerTensor : QuantizeParams → Bool
  | .scaleOffset _ => true
  | _ => false

def isPerChannel : QuantizeParams → Bool
  | .axisScaleOffset _ _ _ => true
  | .bwAxisScaleOffset _ _ _ _ _ => true
  | _ => false

def isLPBQ : QuantizeParams → Bool
  | .blockwiseExpansion _ _ _ _ _ => true
  | _ => false

def axisRangeMessage (params : QuantizeParams) : String :=
  if params.isLPBQ then "LPBQ axis value is out of range of the provided permutation"
  else "Axis value is out of range of the provided permutation"

def handleTranspose (perm : List Nat) (params : QuantizeParams) : Except String QuantizeParams :=
  match params.axis? with
  | none => .ok params
  | some axis =>
    if 0 ≤ axis ∧ axis.toNat < perm.length then .ok (params.setAxis (perm.getD axis.toNat 0))
    else .error params.axisRangeMessage

def handleUnsqueeze (origShape newShape : List Nat) (params : QuantizeParams) :
    Except String QuantizeParams :=
  match params.axis? with
  | none => .ok params
  | some axis =>
    if origShape.length < newShape.length then
      .ok (params.setAxis (unsqueezeAxis newShape origShape axis.toNat 0))
    else .error "Expected unsqueezed shape to have a greater rank."

theorem axis?_setAxis {params : QuantizeParams} {axis : Int} (h : params.axis? = some axis)
    (axis' : Int) : (params.setAxis axis').axis? = some axis' := by
  cases params <;> first | rfl | cases h

theorem isLPBQ_of_axis {params : QuantizeParams} {axis : Int} (h : params.axis? = some axis)
    (hper : params.isPerChannel = false) : params.isLPBQ := by
  cases params <;> simp_all [axis?,isPerChannel,isLPBQ]

theorem isPerChannel_setAxis (params : QuantizeParams) (axis : Int) :
    (params.setAxis axis).isPerChannel = params.isPerChannel := by
  cases params <;> rfl

def channel (params : QuantizeParams) (position : List Nat) : Option Nat :=
  params.axis?.bind fun axis => position[axis.toNat]?

theorem channel_of_axis {params : QuantizeParams} {axis : Int} (h : params.axis? = some axis)
    (position : List Nat) : params.channel position = position[axis.toNat]? := by
  rw [channel,h]
  rfl

theorem handleTranspose_ok {perm : List Nat} {params params' : QuantizeParams} {axis : Int}
    (haxis : params.axis? = some axis) (h : params.handleTranspose perm = .ok params') :
    axis.toNat < perm.length ∧ params' = params.setAxis (perm.getD axis.toNat 0) := by
  unfold handleTranspose at h
  rw [haxis] at h
  simp only at h
  split at h
  · next hrange => exact ⟨hrange.2,(Except.ok.inj h).symm⟩
  · cases h

theorem handleUnsqueeze_ok {origShape newShape : List Nat} {params params' : QuantizeParams}
    {axis : Int} (haxis : params.axis? = some axis)
    (h : params.handleUnsqueeze origShape newShape = .ok params') :
    params' = params.setAxis (unsqueezeAxis newShape origShape axis.toNat 0) := by
  unfold handleUnsqueeze at h
  rw [haxis] at h
  simp only at h
  split at h
  · exact (Except.ok.inj h).symm
  · cases h

end QuantizeParams

structure OrtQuantParam where
  scaleShape : List Nat
  scales : List FloatBits
  zeroPoint : Option (OnnxType × List Int)
  axis : Option Int
  blockSize : Option Nat
  deriving DecidableEq, Repr

structure LpbqScales where
  perChannelScales : List FloatBits
  perBlockIntScales : List (BitVec 8)
  offsets : List Int

abbrev LpbqConversion := List FloatBits → List Int → Nat → Nat → Option LpbqScales

namespace OrtQuantParam
variable (q : OrtQuantParam)

def zeroPoints : List Int := (q.zeroPoint.map Prod.snd).getD []

def isInt4Type : Bool := (q.zeroPoint.map Prod.fst).any fun t => t = .int4 ∨ t = .uint4

def isBlockQuant : Bool := q.blockSize.any (0 < ·)

def normalizedAxis (rank : Nat) : Int :=
  let axis := q.axis.getD 1
  if axis < 0 then axis + rank else axis

def perTensorOffset : Except String Int :=
  match q.zeroPoint with
  | none => .ok 0
  | some (_,[zeroPoint]) => .ok zeroPoint
  | some _ => .error "Expected one zero-point value"

def perChannelOffsets : Except String (List Int) :=
  if q.zeroPoints = [] then .ok (List.replicate q.scales.length 0)
  else if q.zeroPoints.length = q.scales.length then .ok q.zeroPoints
  else .error "Expected the same number of zero-points and scales for per-channel quantization"

def initPerTensor (scale : FloatBits) : Except String QuantizeParams := do
  let offset ← q.perTensorOffset
  pure (if q.isInt4Type then .bwScaleOffset 4 ⟨scale,offset⟩ else .scaleOffset ⟨scale,offset⟩)

def initPerChannel (rank : Nat) : Except String QuantizeParams :=
  let axis := q.normalizedAxis rank
  if 0 ≤ axis ∧ axis < rank then do
    let offsets ← q.perChannelOffsets
    let n := uint32 q.scales.length
    pure (if q.isInt4Type then .bwAxisScaleOffset axis 4 n q.scales offsets
      else .axisScaleOffset axis n (List.zipWith ScaleOffset.mk q.scales offsets))
  else .error "Quantization axis must be within the range [0, rank - 1]"

def effectiveScaleShape (shape : List Nat) (axis : Nat) : List Nat :=
  let n := shape.getD (1 - axis) 0
  match q.scaleShape with
  | [count] => if 1 < shape.length ∧ 0 < n ∧ count % n = 0 then [n,count / n] else [count]
  | scaleShape => scaleShape

def blockMajor (axis numChannels numBlocks : Nat) : List FloatBits :=
  if axis = 0 then q.scales else Scatter.transpose numChannels numBlocks 0 q.scales

def initLpbq (convert : LpbqConversion) (shape : List Nat) : Except String QuantizeParams :=
  let axis := q.normalizedAxis shape.length
  if axis = 0 ∨ axis = 1 then
    let scaleShape := q.effectiveScaleShape shape axis.toNat
    if ¬(2 ≤ scaleShape.length ∧ scaleShape.length ≤ 4) then
      .error "Block quantization scale tensors must have rank between 2 and 4 for LPBQ conversion"
    else if ¬(0 < scaleShape.getD 0 0 ∧ 0 < scaleShape.getD 1 0) then
      .error "Block quantization scale tensor dimensions must be positive"
    else if scaleShape.getD 0 0 * scaleShape.getD 1 0 ≠ q.scales.length then
      .error "Block quantization scale tensor shape product must equal number of scales"
    else
      let numBlocks := uint32 (scaleShape.getD axis.toNat 0)
      let numChannels := uint32 (scaleShape.getD (1 - axis.toNat) 0)
      match convert (q.blockMajor axis.toNat numChannels numBlocks) q.zeroPoints numBlocks numChannels with
      | none => .ok .undefined
      | some lpbq =>
        .ok (.blockwiseExpansion (1 - axis)
          (uint32 lpbq.perBlockIntScales.length / uint32 lpbq.perChannelScales.length)
          4 (zipScaleOffsets lpbq.perChannelScales lpbq.offsets)
          (lpbq.perBlockIntScales.take (uint32 lpbq.perBlockIntScales.length)))
  else .error "Only axis 0 or 1 is supported for block quantization LPBQ conversion"

def initBlock (convert : LpbqConversion) (enableBlockQuantWeightOptimization : Bool) (type : OnnxType)
    (shape : List Nat) : Except String QuantizeParams :=
  if ¬enableBlockQuantWeightOptimization ∨ type ≠ .int4 ∨ q.zeroPoints.any (· ≠ 0) then .ok .undefined
  else q.initLpbq convert shape

end OrtQuantParam

def initFromIODef (convert : LpbqConversion) (enableBlockQuantWeightOptimization : Bool)
    (type : OnnxType) (shape : List Nat) : Option OrtQuantParam → Except String QuantizeParams
  | none => .ok .undefined
  | some q =>
    if q.isBlockQuant then q.initBlock convert enableBlockQuantWeightOptimization type shape
    else
      match q.scales with
      | [] => .error "Unexpected tensor kind for QuantParamsWrapper::Init()"
      | [scale] => q.initPerTensor scale
      | _ => q.initPerChannel shape.length

section
variable {q : OrtQuantParam} {params : QuantizeParams} {axis : Int}

theorem initPerTensor_axis {scale : FloatBits} (h : q.initPerTensor scale = .ok params) :
    params.axis? = none := by
  obtain ⟨offset,-,h⟩ := Registry.bind_ok h
  obtain rfl := Except.ok.inj h
  split <;> rfl

theorem initPerChannel_axis {rank : Nat} (h : q.initPerChannel rank = .ok params)
    (haxis : params.axis? = some axis) : params.isLPBQ = false ∧ 0 ≤ axis ∧ axis < rank := by
  unfold OrtQuantParam.initPerChannel at h
  simp only at h
  split at h
  · next hrange =>
    obtain ⟨offsets,-,h⟩ := Registry.bind_ok h
    obtain rfl := Except.ok.inj h
    split at haxis
    · next hint4 =>
      obtain rfl := Option.some.inj haxis
      exact ⟨by rw [if_pos hint4]; rfl,hrange⟩
    · next hint4 =>
      obtain rfl := Option.some.inj haxis
      exact ⟨by rw [if_neg hint4]; rfl,hrange⟩
  · cases h

theorem initLpbq_axis {convert : LpbqConversion} {shape : List Nat}
    (h : q.initLpbq convert shape = .ok params) (haxis : params.axis? = some axis) :
    params.isLPBQ ∧ (axis = 0 ∨ axis = 1) := by
  unfold OrtQuantParam.initLpbq at h
  simp only at h
  split at h
  · next hrange =>
    repeat' split at h
    all_goals cases h
    · cases haxis
    · obtain rfl := Option.some.inj haxis
      exact ⟨rfl,by omega⟩
  · cases h

theorem initFromIODef_axis {convert : LpbqConversion} {enable : Bool} {type : OnnxType}
    {shape : List Nat} {quantParam : Option OrtQuantParam}
    (h : initFromIODef convert enable type shape quantParam = .ok params)
    (haxis : params.axis? = some axis) :
    0 ≤ axis ∧ (params.isLPBQ → axis = 0 ∨ axis = 1) ∧ (params.isLPBQ = false → axis < shape.length) := by
  unfold initFromIODef at h
  split at h
  · obtain rfl := Except.ok.inj h
    cases haxis
  · next q =>
    split at h
    · unfold OrtQuantParam.initBlock at h
      split at h
      · obtain rfl := Except.ok.inj h
        cases haxis
      · obtain ⟨hlpbq,hrange⟩ := initLpbq_axis h haxis
        refine ⟨by omega,fun _ => hrange,fun hother => ?_⟩
        rw [hlpbq] at hother
        cases hother
    · split at h
      · cases h
      · rw [initPerTensor_axis h] at haxis
        cases haxis
      · obtain ⟨hlpbq,hrange⟩ := initPerChannel_axis h haxis
        refine ⟨hrange.1,fun hl => ?_,fun _ => hrange.2⟩
        rw [hlpbq] at hl
        cases hl

end

end QnnEp.Quant
