import Mathlib.Algebra.Order.Ring.Int
import Mathlib.Data.List.Basic

namespace QnnEp.Quant

abbrev FloatBits := BitVec 32

def uint32 (n : Nat) : Nat := n % 2 ^ 32

def int32 (n : Int) : Int := n.bmod (2 ^ 32)

structure ScaleOffset where
  scale : FloatBits
  offset : Int
  deriving DecidableEq, Repr

structure FloatScaleOffset where
  scale : FloatBits
  offset : FloatBits
  deriving DecidableEq, Repr

inductive QuantizeParams where
  | undefined
  | scaleOffset (encoding : ScaleOffset)
  | bwScaleOffset (bitwidth : Nat) (encoding : ScaleOffset)
  | axisScaleOffset (axis : Int) (numScaleOffsets : Nat) (scaleOffset : List ScaleOffset)
  | bwAxisScaleOffset (axis : Int) (bitwidth numElements : Nat) (scales : List FloatBits)
      (offsets : List Int)
  | blockwiseExpansion (axis : Int) (numBlocksPerAxis blockScaleBitwidth : Nat)
      (scaleOffsets : List ScaleOffset) (blocksScale8 : List (BitVec 8))
  | block (blockSize : List Nat) (scaleOffset : List ScaleOffset)
  | bwFloatBlock (bitwidth : Nat) (blockSize : List Nat) (floatScaleOffset : List FloatScaleOffset)
  deriving DecidableEq, Repr

inductive QuantizationEncoding where
  | undefined
  | scaleOffset
  | bwScaleOffset
  | axisScaleOffset
  | bwAxisScaleOffset
  | blockwiseExpansion
  | block
  | bwFloatBlock
  deriving DecidableEq, Repr

def QuantizeParams.quantizationEncoding : QuantizeParams → QuantizationEncoding
  | .undefined => .undefined
  | .scaleOffset .. => .scaleOffset
  | .bwScaleOffset .. => .bwScaleOffset
  | .axisScaleOffset .. => .axisScaleOffset
  | .bwAxisScaleOffset .. => .bwAxisScaleOffset
  | .blockwiseExpansion .. => .blockwiseExpansion
  | .block .. => .block
  | .bwFloatBlock .. => .bwFloatBlock

structure QnnQuantParamsWrapper where
  params : QuantizeParams
  perChannelScalesSize : Nat
  blockEncodingTensorRank : Nat
  numBlocks : Nat
  deriving DecidableEq, Repr

variable {w u : QnnQuantParamsWrapper} {floats : List FloatScaleOffset}

inductive ScalesError where
  | unquantized
  | unsupportedEncoding (quantizationEncoding : QuantizationEncoding)
  deriving DecidableEq, Repr

def memcpy {α : Type} (n : Nat) (source : List α) : Option (List α) :=
  if n ≤ source.length then some (source.take n) else none

namespace QnnQuantParamsWrapper

def empty : QnnQuantParamsWrapper := ⟨.undefined,0,0,0⟩

def isLPBQ (w : QnnQuantParamsWrapper) : Bool :=
  w.params.quantizationEncoding == .blockwiseExpansion

def isBlockQuantized (w : QnnQuantParamsWrapper) : Bool :=
  w.params.quantizationEncoding == .block || w.params.quantizationEncoding == .bwFloatBlock

def getPerChannelScalesSize (w : QnnQuantParamsWrapper) : Nat := w.perChannelScalesSize

def getScales (w : QnnQuantParamsWrapper) : Except ScalesError (List FloatBits) :=
  match w.params with
  | .undefined => .error .unquantized
  | .scaleOffset encoding => .ok [encoding.scale]
  | .bwScaleOffset _ encoding => .ok [encoding.scale]
  | .axisScaleOffset _ n scaleOffset => .ok ((scaleOffset.take n).map ScaleOffset.scale)
  | .bwAxisScaleOffset _ _ n scales _ => .ok (scales.take n)
  | .block _ scaleOffset => .ok ((scaleOffset.take w.numBlocks).map ScaleOffset.scale)
  | params => .error (.unsupportedEncoding params.quantizationEncoding)

def init (self : QnnQuantParamsWrapper) (params : QuantizeParams) (numScaleoffsets tensorRank : Nat) :
    Option QnnQuantParamsWrapper :=
  match params with
  | .axisScaleOffset axis n scaleOffset => do
    let scaleOffset ← memcpy n scaleOffset
    some { self with params := .axisScaleOffset axis n scaleOffset }
  | .bwAxisScaleOffset axis bitwidth n scales offsets => do
    let scales ← memcpy n scales
    let offsets ← memcpy n offsets
    some { self with params := .bwAxisScaleOffset axis bitwidth n scales offsets }
  | .blockwiseExpansion axis numBlocksPerAxis bitwidth scaleOffsets blocksScale8 => do
    let scaleOffsets ← memcpy numScaleoffsets scaleOffsets
    let blocksScale8 ← memcpy (numScaleoffsets * numBlocksPerAxis) blocksScale8
    some { self with
      params := .blockwiseExpansion axis numBlocksPerAxis bitwidth scaleOffsets blocksScale8
      perChannelScalesSize := numScaleoffsets }
  | .block blockSize scaleOffset => do
    let blockSize ← memcpy tensorRank blockSize
    let scaleOffset ← memcpy numScaleoffsets scaleOffset
    some { self with
      params := .block blockSize scaleOffset
      numBlocks := numScaleoffsets
      blockEncodingTensorRank := tensorRank }
  | .bwFloatBlock bitwidth blockSize floatScaleOffset => do
    let blockSize ← memcpy tensorRank blockSize
    let floatScaleOffset ← memcpy numScaleoffsets floatScaleOffset
    some { self with
      params := .bwFloatBlock bitwidth blockSize floatScaleOffset
      blockEncodingTensorRank := tensorRank }
  | params => some { self with params := params }

def copyFrom (self other : QnnQuantParamsWrapper) : Option QnnQuantParamsWrapper :=
  if other.isLPBQ then
    self.init other.params other.perChannelScalesSize self.blockEncodingTensorRank
  else if other.isBlockQuantized then
    { self with blockEncodingTensorRank := other.blockEncodingTensorRank }.init other.params
      other.numBlocks other.blockEncodingTensorRank
  else self.init other.params 0 self.blockEncodingTensorRank

end QnnQuantParamsWrapper

open QnnQuantParamsWrapper

inductive Factory where
  | perTensor (scale : FloatBits) (offset : Int)
  | perTensorBw (scale : FloatBits) (offset : Int) (bitwidth : Nat)
  | perChannel (scales : List FloatBits) (offsets : List Int) (axis : Int)
  | perChannelBw (scales : List FloatBits) (offsets : List Int) (axis : Int) (bitwidth : Nat)
  | lowPowerBlockwise (perChannelFloatScales : List FloatBits) (perBlockIntScales : List (BitVec 8))
      (offsets : List Int) (axis : Int) (blockScaleBitwidth : Nat)
  | block (scales : List FloatBits) (offsets : List Int) (blockSizes : List Nat)
  | bwFloatBlock (scales offsets : List FloatBits) (bitwidth : Nat) (blockSizes : List Nat)
  deriving DecidableEq, Repr

def zipScaleOffsets (scales : List FloatBits) (offsets : List Int) : List ScaleOffset :=
  (List.zipWith ScaleOffset.mk scales offsets).take (uint32 scales.length)

def Factory.build : Factory → Option QnnQuantParamsWrapper
  | .perTensor scale offset => some ⟨.scaleOffset ⟨scale,offset⟩,0,0,0⟩
  | .perTensorBw scale offset bitwidth => some ⟨.bwScaleOffset bitwidth ⟨scale,offset⟩,0,0,0⟩
  | .perChannel scales offsets axis =>
    let n := uint32 scales.length
    if scales.length = offsets.length then
      some ⟨.axisScaleOffset axis n (zipScaleOffsets scales offsets),n,0,0⟩
    else none
  | .perChannelBw scales offsets axis bitwidth =>
    let n := uint32 scales.length
    if scales.length = offsets.length then
      some ⟨.bwAxisScaleOffset axis bitwidth n (scales.take n) (offsets.take n),n,0,0⟩
    else none
  | .lowPowerBlockwise scales perBlockIntScales offsets axis blockScaleBitwidth =>
    let n := uint32 scales.length
    if scales.length = offsets.length ∧ n ≠ 0 then
      some ⟨.blockwiseExpansion (int32 axis) (uint32 perBlockIntScales.length / n) blockScaleBitwidth
        (zipScaleOffsets scales offsets)
        (perBlockIntScales.take (uint32 perBlockIntScales.length)),n,0,0⟩
    else none
  | .block scales offsets blockSizes =>
    if blockSizes ≠ [] ∧ scales ≠ [] ∧ scales.length = offsets.length then
      some ⟨.block (blockSizes.take (uint32 blockSizes.length)) (zipScaleOffsets scales offsets),0,
        uint32 blockSizes.length,uint32 scales.length⟩
    else none
  | .bwFloatBlock scales offsets bitwidth blockSizes =>
    if scales ≠ [] ∧ scales.length = offsets.length ∧ 0 < bitwidth ∧ blockSizes ≠ [] then
      some ⟨.bwFloatBlock bitwidth (blockSizes.take (uint32 blockSizes.length))
        ((List.zipWith FloatScaleOffset.mk scales offsets).take (uint32 scales.length)),0,
        uint32 blockSizes.length,uint32 scales.length⟩
    else none

inductive CopyStep where
  | construct
  | assign (dest : QnnQuantParamsWrapper)
  | selfAssign
  deriving DecidableEq, Repr

def CopyStep.apply (u : QnnQuantParamsWrapper) : CopyStep → Option QnnQuantParamsWrapper
  | .construct => QnnQuantParamsWrapper.empty.copyFrom u
  | .assign dest => dest.copyFrom u
  | .selfAssign => some u

def copyChain : List CopyStep → QnnQuantParamsWrapper → Option QnnQuantParamsWrapper
  | [], u => some u
  | step :: steps, u => do
    let v ← step.apply u
    copyChain steps v

section
variable {α : Type} {n : Nat} {source : List α}

theorem memcpy_of_le (h : n ≤ source.length) : memcpy n source = some (source.take n) := if_pos h

theorem memcpy_of_length (h : source.length = n) : memcpy n source = some source := by
  rw [memcpy_of_le (Nat.le_of_eq h.symm),List.take_of_length_le (Nat.le_of_eq h)]

end

def Sound (u : QnnQuantParamsWrapper) : Prop :=
  match u.params with
  | .axisScaleOffset _ n scaleOffset => scaleOffset.length = n
  | .bwAxisScaleOffset _ _ n scales offsets => scales.length = n ∧ offsets.length = n
  | .blockwiseExpansion _ numBlocksPerAxis _ scaleOffsets blocksScale8 =>
    scaleOffsets.length = u.perChannelScalesSize ∧
      u.perChannelScalesSize * numBlocksPerAxis ≤ blocksScale8.length
  | .block blockSize scaleOffset =>
    blockSize.length = u.blockEncodingTensorRank ∧ scaleOffset.length = u.numBlocks
  | .bwFloatBlock _ blockSize _ => blockSize.length = u.blockEncodingTensorRank
  | _ => True

def encoding (u : QnnQuantParamsWrapper) : QuantizeParams :=
  match u.params with
  | .blockwiseExpansion axis numBlocksPerAxis bitwidth scaleOffsets blocksScale8 =>
    .blockwiseExpansion axis numBlocksPerAxis bitwidth scaleOffsets
      (blocksScale8.take (u.perChannelScalesSize * numBlocksPerAxis))
  | params => params

structure Same (w v : QnnQuantParamsWrapper) : Prop where
  encoding : encoding v = encoding w
  size : v.getPerChannelScalesSize = w.getPerChannelScalesSize
  scales : v.getScales = w.getScales

def isFloatBlock (u : QnnQuantParamsWrapper) : Bool :=
  u.params.quantizationEncoding == .bwFloatBlock

structure Fresh (u : QnnQuantParamsWrapper) : Prop where
  sound : Sound u
  floatBlocks : ∀ bitwidth blockSize floats, u.params = .bwFloatBlock bitwidth blockSize floats →
    floats.length = u.numBlocks

theorem length_zipScaleOffsets {scales : List FloatBits} {offsets : List Int}
    (h : scales.length = offsets.length) :
    (zipScaleOffsets scales offsets).length = uint32 scales.length := by
  have hle : uint32 scales.length ≤ scales.length := Nat.mod_le _ _
  simp [zipScaleOffsets,← h,hle]

theorem length_take_uint32 {α : Type} (xs : List α) :
    (xs.take (uint32 xs.length)).length = uint32 xs.length := by
  have hle : uint32 xs.length ≤ xs.length := Nat.mod_le _ _
  simp [hle]

theorem Factory.build_fresh {f : Factory} (h : f.build = some w) : Fresh w := by
  cases f with
  | perTensor scale offset | perTensorBw scale offset bitwidth =>
    obtain rfl := Option.some.inj h
    exact ⟨trivial,fun _ _ _ he => nomatch he⟩
  | perChannel scales offsets axis =>
    obtain ⟨hlen,hw⟩ := Option.ite_none_right_eq_some.mp h
    obtain rfl := Option.some.inj hw
    exact ⟨length_zipScaleOffsets hlen,fun _ _ _ he => nomatch he⟩
  | perChannelBw scales offsets axis bitwidth =>
    obtain ⟨hlen,hw⟩ := Option.ite_none_right_eq_some.mp h
    obtain rfl := Option.some.inj hw
    exact ⟨⟨length_take_uint32 scales,hlen ▸ length_take_uint32 offsets⟩,fun _ _ _ he => nomatch he⟩
  | lowPowerBlockwise scales perBlockIntScales offsets axis blockScaleBitwidth =>
    obtain ⟨⟨hlen,_⟩,hw⟩ := Option.ite_none_right_eq_some.mp h
    obtain rfl := Option.some.inj hw
    refine ⟨⟨length_zipScaleOffsets hlen,?_⟩,fun _ _ _ he => nomatch he⟩
    rw [length_take_uint32]
    exact Nat.mul_div_le _ _
  | block scales offsets blockSizes =>
    obtain ⟨⟨_,_,hlen⟩,hw⟩ := Option.ite_none_right_eq_some.mp h
    obtain rfl := Option.some.inj hw
    exact ⟨⟨length_take_uint32 blockSizes,length_zipScaleOffsets hlen⟩,fun _ _ _ he => nomatch he⟩
  | bwFloatBlock scales offsets bitwidth blockSizes =>
    obtain ⟨⟨_,hlen,_⟩,hw⟩ := Option.ite_none_right_eq_some.mp h
    obtain rfl := Option.some.inj hw
    refine ⟨length_take_uint32 blockSizes,?_⟩
    rintro _ _ _ ⟨⟩
    have hle : uint32 scales.length ≤ scales.length := Nat.mod_le _ _
    simp [← hlen,hle]

structure Copied (target u v : QnnQuantParamsWrapper) : Prop where
  sound : Sound v
  encoding : encoding v = encoding u
  scales : v.getScales = u.getScales
  lpbq : v.isLPBQ = u.isLPBQ
  floatBlock : isFloatBlock v = isFloatBlock u
  size : v.perChannelScalesSize =
    if u.isLPBQ then u.perChannelScalesSize else target.perChannelScalesSize

section
variable {u : QnnQuantParamsWrapper} (self : QnnQuantParamsWrapper)

theorem copyFrom_copied (hu : Sound u) (hf : isFloatBlock u = false) :
    ∃ v, self.copyFrom u = some v ∧ Copied self u v := by
  obtain ⟨params,size,rank,blocks⟩ := u
  cases params with
  | undefined | scaleOffset encoding => exact ⟨_,rfl,trivial,rfl,rfl,rfl,rfl,rfl⟩
  | bwScaleOffset bitwidth encoding => exact ⟨_,rfl,trivial,rfl,rfl,rfl,rfl,rfl⟩
  | axisScaleOffset axis n scaleOffset =>
    refine ⟨{ self with params := .axisScaleOffset axis n scaleOffset },?_,hu,rfl,rfl,rfl,rfl,rfl⟩
    simp [copyFrom,isLPBQ,isBlockQuantized,QuantizeParams.quantizationEncoding,init,memcpy_of_length hu]
  | bwAxisScaleOffset axis bitwidth n scales offsets =>
    refine ⟨{ self with params := .bwAxisScaleOffset axis bitwidth n scales offsets },?_,hu,
      rfl,rfl,rfl,rfl,rfl⟩
    simp [copyFrom,isLPBQ,isBlockQuantized,QuantizeParams.quantizationEncoding,init,memcpy_of_length hu.1,memcpy_of_length hu.2]
  | blockwiseExpansion axis numBlocksPerAxis bitwidth scaleOffsets blocksScale8 =>
    refine ⟨⟨.blockwiseExpansion axis numBlocksPerAxis bitwidth scaleOffsets
      (blocksScale8.take (size * numBlocksPerAxis)),size,self.blockEncodingTensorRank,
      self.numBlocks⟩,?_,⟨hu.1,?_⟩,?_,rfl,rfl,rfl,rfl⟩
    · simp [copyFrom,isLPBQ,QuantizeParams.quantizationEncoding,init,memcpy_of_length hu.1,memcpy_of_le hu.2]
    · rw [List.length_take]
      exact Nat.le_min.mpr ⟨Nat.le_refl _,hu.2⟩
    · simp [Quant.encoding,List.take_take]
  | block blockSize scaleOffset =>
    refine ⟨⟨.block blockSize scaleOffset,self.perChannelScalesSize,rank,blocks⟩,?_,hu,
      rfl,rfl,rfl,rfl,rfl⟩
    simp [copyFrom,isLPBQ,isBlockQuantized,QuantizeParams.quantizationEncoding,init,memcpy_of_length hu.1,memcpy_of_length hu.2]
  | bwFloatBlock bitwidth blockSize floatScaleOffset => cases hf

theorem copyFrom_floatBlock {bitwidth : Nat} {blockSize : List Nat} (hu : Sound u)
    (hp : u.params = .bwFloatBlock bitwidth blockSize floats) :
    self.copyFrom u = if u.numBlocks ≤ floats.length then
      some ⟨.bwFloatBlock bitwidth blockSize (floats.take u.numBlocks),self.perChannelScalesSize,
        u.blockEncodingTensorRank,self.numBlocks⟩
    else none := by
  obtain ⟨params,size,rank,blocks⟩ := u
  subst hp
  have hrank : memcpy rank blockSize = some blockSize := memcpy_of_length hu
  by_cases hle : blocks ≤ floats.length
  · simp [copyFrom,isLPBQ,isBlockQuantized,QuantizeParams.quantizationEncoding,init,hrank,
      memcpy_of_le hle,hle]
  · have hread : memcpy blocks floats = none := if_neg hle
    simp [copyFrom,isLPBQ,isBlockQuantized,QuantizeParams.quantizationEncoding,init,hrank,hread,hle]

end

def CopyStep.target (u : QnnQuantParamsWrapper) : CopyStep → QnnQuantParamsWrapper
  | .construct => empty
  | .assign dest => dest
  | .selfAssign => u

def CopyStep.carry (field : QnnQuantParamsWrapper → Nat) (current : Nat) : CopyStep → Nat
  | .construct => field empty
  | .assign dest => field dest
  | .selfAssign => current

theorem CopyStep.carry_target (field : QnnQuantParamsWrapper → Nat) (u : QnnQuantParamsWrapper)
    (step : CopyStep) : step.carry field (field u) = field (step.target u) := by
  cases step <;> rfl

def carriedSize (u : QnnQuantParamsWrapper) (steps : List CopyStep) : Nat :=
  if u.isLPBQ then u.perChannelScalesSize
  else steps.foldl (CopyStep.carry perChannelScalesSize) u.perChannelScalesSize

def FloatBlocksKept (n : Nat) : Nat → List CopyStep → Prop
  | _, [] => True
  | numBlocks, step :: steps => (step = .selfAssign ∨ numBlocks = n) ∧
      FloatBlocksKept n (step.carry QnnQuantParamsWrapper.numBlocks numBlocks) steps

def ChainKeeps (w : QnnQuantParamsWrapper) (steps : List CopyStep) : Prop :=
  carriedSize w steps = w.perChannelScalesSize ∧
    (isFloatBlock w = true → FloatBlocksKept w.numBlocks w.numBlocks steps)

theorem CopyStep.apply_copied (hu : Sound u) (hf : isFloatBlock u = false) (step : CopyStep) :
    ∃ v, step.apply u = some v ∧ Copied (step.target u) u v := by
  cases step with
  | construct => exact copyFrom_copied empty hu hf
  | assign dest => exact copyFrom_copied dest hu hf
  | selfAssign => exact ⟨u,rfl,hu,rfl,rfl,rfl,rfl,(ite_self _).symm⟩

theorem Copied.carriedSize {v : QnnQuantParamsWrapper} {step : CopyStep} (h : Copied (step.target u) u v)
    (steps : List CopyStep) : carriedSize v steps = carriedSize u (step :: steps) := by
  unfold Quant.carriedSize
  rw [h.lpbq,h.size,List.foldl_cons,CopyStep.carry_target]
  cases u.isLPBQ <;> rfl

theorem copyChain_copied (hu : Sound u) (hf : isFloatBlock u = false) (steps : List CopyStep) :
    ∃ v, copyChain steps u = some v ∧ encoding v = encoding u ∧
      v.getScales = u.getScales ∧ v.perChannelScalesSize = carriedSize u steps := by
  induction steps generalizing u with
  | nil => exact ⟨u,rfl,rfl,rfl,by simp [carriedSize]⟩
  | cons step steps ih =>
    obtain ⟨t,ht,hcopied⟩ := step.apply_copied hu hf
    obtain ⟨v,hv,hencoding,hscales,hsize⟩ := ih hcopied.sound (hcopied.floatBlock.trans hf)
    refine ⟨v,?_,hencoding.trans hcopied.encoding,hscales.trans hcopied.scales,
      hsize.trans (hcopied.carriedSize steps)⟩
    rw [copyChain,ht]
    exact hv

def Reports (bitwidth : Nat) (blockSize : List Nat) (floats : List FloatScaleOffset) (size : Nat)
    (v : QnnQuantParamsWrapper) : Prop :=
  v.params = .bwFloatBlock bitwidth blockSize floats ∧ v.perChannelScalesSize = size

theorem take_eq_iff {α : Type} {xs ys : List α} {n : Nat} (hn : n ≤ xs.length)
    (hxs : xs.length ≤ ys.length) : xs.take n = ys ↔ xs = ys ∧ n = ys.length := by
  constructor
  · rintro rfl
    rw [List.length_take,Nat.min_eq_left hn] at hxs ⊢
    exact ⟨(List.take_of_length_le hxs).symm,rfl⟩
  · rintro ⟨rfl,rfl⟩
    exact List.take_length

section
variable {bitwidth : Nat} {blockSize : List Nat} {u v : QnnQuantParamsWrapper}
  {floats : List FloatScaleOffset}

theorem CopyStep.apply_floatBlock (hu : Sound u) (hp : u.params = .bwFloatBlock bitwidth blockSize floats)
    {step : CopyStep} (hstep : step ≠ .selfAssign) :
    step.apply u = if u.numBlocks ≤ floats.length then
      some ⟨.bwFloatBlock bitwidth blockSize (floats.take u.numBlocks),
        (step.target u).perChannelScalesSize,u.blockEncodingTensorRank,(step.target u).numBlocks⟩
    else none := by
  cases step with
  | construct => exact copyFrom_floatBlock empty hu hp
  | assign dest => exact copyFrom_floatBlock dest hu hp
  | selfAssign => exact absurd rfl hstep

theorem copyChain_floatBlocks_iff (hu : Sound u)
    (hp : u.params = .bwFloatBlock bitwidth blockSize floats) {all : List FloatScaleOffset}
    (hall : floats.length ≤ all.length) (size : Nat) (steps : List CopyStep) :
    (∃ v, copyChain steps u = some v ∧ Reports bitwidth blockSize all size v) ↔
      floats = all ∧ FloatBlocksKept all.length u.numBlocks steps ∧
        steps.foldl (CopyStep.carry perChannelScalesSize) u.perChannelScalesSize = size := by
  induction steps generalizing u floats with
  | nil =>
    simp [copyChain,Reports,hp,FloatBlocksKept]
  | cons step steps ih =>
    by_cases hstep : step = .selfAssign
    · subst hstep
      simpa [copyChain,CopyStep.apply,FloatBlocksKept,CopyStep.carry] using ih hu hp hall
    · rw [copyChain,CopyStep.apply_floatBlock hu hp hstep,List.foldl_cons,CopyStep.carry_target,
        FloatBlocksKept,CopyStep.carry_target]
      by_cases hle : u.numBlocks ≤ floats.length
      · have htake : floats.take u.numBlocks = all ↔ floats = all ∧ u.numBlocks = all.length :=
          take_eq_iff hle hall
        have hsound : Sound ⟨.bwFloatBlock bitwidth blockSize (floats.take u.numBlocks),
            (step.target u).perChannelScalesSize,u.blockEncodingTensorRank,
            (step.target u).numBlocks⟩ := by
          simpa [Sound,hp] using hu
        rw [if_pos hle]
        refine (ih hsound rfl ?_).trans ?_
        · exact Nat.le_trans (List.length_take_le' _ _) hall
        · rw [htake]
          simp only [hstep,false_or]
          tauto
      · rw [if_neg hle]
        refine iff_of_false (by rintro ⟨v,hv,_⟩; cases hv) ?_
        rintro ⟨rfl,⟨hself | hblocks,_⟩,_⟩
        · exact hstep hself
        · exact hle (Nat.le_of_eq hblocks)

end

theorem isFloatBlock_iff :
    isFloatBlock w = true ↔
    ∃ bitwidth blockSize floats, w.params = .bwFloatBlock bitwidth blockSize floats := by
  obtain ⟨params,size,rank,blocks⟩ := w
  cases params <;> simp [isFloatBlock,QuantizeParams.quantizationEncoding]

theorem same_floatBlock_iff {v : QnnQuantParamsWrapper} {bitwidth : Nat} {blockSize : List Nat}
    (hw : w.params = .bwFloatBlock bitwidth blockSize floats) :
    Same w v ↔ Reports bitwidth blockSize floats w.perChannelScalesSize v := by
  have hencoding : encoding w = .bwFloatBlock bitwidth blockSize floats := by simp [encoding,hw]
  have hv : encoding v = .bwFloatBlock bitwidth blockSize floats ↔
      v.params = .bwFloatBlock bitwidth blockSize floats := by
    obtain ⟨params,size,rank,blocks⟩ := v
    cases params <;> simp [encoding]
  constructor
  · intro h
    exact ⟨hv.mp (h.encoding.trans hencoding),h.size⟩
  · rintro ⟨hparams,hsize⟩
    refine ⟨(hv.mpr hparams).trans hencoding.symm,hsize,?_⟩
    simp [getScales,hparams,hw,QuantizeParams.quantizationEncoding]

theorem copyChain_same_iff (f : Factory) (w : QnnQuantParamsWrapper) (hf : f.build = some w)
    (steps : List CopyStep) :
    (∃ v, copyChain steps w = some v ∧ Same w v) ↔ ChainKeeps w steps := by
  have hfresh := Factory.build_fresh hf
  cases hfloat : isFloatBlock w with
  | false =>
    obtain ⟨v,hv,hencoding,hscales,hsize⟩ := copyChain_copied hfresh.sound hfloat steps
    constructor
    · rintro ⟨v',hv',hsame⟩
      obtain rfl := Option.some.inj (hv.symm.trans hv')
      exact ⟨hsize.symm.trans hsame.size,by simp [hfloat]⟩
    · intro hkeeps
      exact ⟨v,hv,hencoding,hsize.trans hkeeps.1,hscales⟩
  | true =>
    obtain ⟨bitwidth,blockSize,floats,hw⟩ := isFloatBlock_iff.mp hfloat
    have hblocks : floats.length = w.numBlocks := hfresh.floatBlocks _ _ _ hw
    have hlpbq : w.isLPBQ = false := by
      simp [isLPBQ,hw,QuantizeParams.quantizationEncoding]
    have hiff := copyChain_floatBlocks_iff hfresh.sound hw le_rfl w.perChannelScalesSize steps
    simp only [same_floatBlock_iff hw,hiff,ChainKeeps,carriedSize,hlpbq,hfloat,hblocks]
    simp [and_comm]

def perAxis : Factory := .perChannel [1#32,2#32] [0,0] 0

def perTensor : Factory := .perTensor 1#32 0

def floatBlocks : Factory := .bwFloatBlock [1#32,2#32] [3#32,4#32] 4 [1,32]

def built (f : Factory) : QnnQuantParamsWrapper := f.build.getD empty

theorem copyChain_same_perTensor :
    ∃ v, copyChain [.construct,.assign empty,.construct] (built perTensor) = some v ∧
      Same (built perTensor) v :=
  (copyChain_same_iff perTensor (built perTensor) rfl _).mpr
    ⟨rfl,fun h => nomatch h⟩

theorem copyChain_loses :
    (∃ v, copyChain [.construct] (built perAxis) = some v ∧
      v.getPerChannelScalesSize = 0 ∧ (built perAxis).getPerChannelScalesSize = 2) ∧
    (∃ v, copyChain [.assign (built perAxis)] (built perTensor) = some v ∧
      v.getPerChannelScalesSize = 2 ∧ (built perTensor).getPerChannelScalesSize = 0) ∧
    ∃ v, copyChain [.construct,.construct] (built floatBlocks) = some v ∧
      v.params = .bwFloatBlock 4 [1,32] [] ∧
      (built floatBlocks).params = .bwFloatBlock 4 [1,32] [⟨1#32,3#32⟩,⟨2#32,4#32⟩] :=
  ⟨⟨_,rfl,rfl,rfl⟩,⟨_,rfl,rfl,rfl⟩,⟨_,rfl,rfl,rfl⟩⟩

end QnnEp.Quant
