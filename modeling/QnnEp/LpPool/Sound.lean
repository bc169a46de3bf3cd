import Mathlib.Analysis.SpecialFunctions.Pow.Real
import QnnEp.Conv.Builder
import QnnEp.Foundation.Reduction
import QnnEp.Foundation.Window
import QnnEp.Pool.Builder

namespace QnnEp.LpPool
open List
open Conv (getQnnDataType)
open Pool Status Tensors
open Qdq (OnnxType)
open Slice (QnnBackendType isNpuBackend)

structure LpPoolNode where
  site : PoolSite
  backend : QnnBackendType
  htpBf16Enable : Bool
  inputType : OnnxType
  outputCount : Nat
  p : Option Int
  internalNHWC : Bool
  sameBatch : site.outputShape.head? = site.inputShape.head?
  sameChannel : site.outputShape.getLast? = site.inputShape.getLast?

variable {xs : List ℝ} {extents padAmount : List UInt32} {out idx : List Nat} {t x : Tensor ℝ}
  {node : LpPoolNode}

inductive ScaleValue where
  | plain (count : Int)
  | root (count : Int)
  deriving DecidableEq, Repr

inductive LpOp where
  | reshape (shape : List UInt32)
  | multiplySelf
  | abs
  | poolAvg (op : QnnPoolOp) (filterSize stride padAmount : List UInt32)
      (roundingMode : Option UInt32) (outputShape : List UInt32)
  | squareRoot
  | multiplyStatic (scaleShape : List UInt32) (scale : List ScaleValue) (outputShape : List UInt32)
  deriving DecidableEq, Repr

def LpPoolNode.pValue (node : LpPoolNode) : Int := node.p.getD 2

def isFloatType (type : OnnxType) : Bool := type = .float ∨ type = .float16 ∨ type = .bfloat16

def kernelExceeds (inputShape : List UInt32) (resolved : ResolvedAttributes) : Prop :=
  ∃ axis < inputShape.length - 2,
    inputShape.getD (axis + 1) 0 + (resolved.padAmount.getD axis 0 +
      resolved.padAmount.getD (axis + (inputShape.length - 2)) 0) < resolved.filterSize.getD axis 0

instance (inputShape : List UInt32) (resolved : ResolvedAttributes) :
    Decidable (kernelExceeds inputShape resolved) :=
  inferInstanceAs (Decidable (∃ axis < inputShape.length - 2, _))

def axisCount (inDim k s pb o : Int) : Int :=
  let start := o * s - pb
  let finish := min (start + k) inDim
  let startClamped := max start 0
  max (finish - startClamped) 0

def perAxisCounts (inputShape outputShape filterSize stride padAmount : List UInt32) :
    List (List Int) :=
  (List.range (inputShape.length - 2)).map fun a =>
    (List.range (outputShape.getD (a + 1) 0).toNat).map fun o =>
      axisCount (inputShape.getD (a + 1) 0).toNat (filterSize.getD a 0).toNat
        (stride.getD a 0).toNat (padAmount.getD (2 * a) 0).toNat (o : Nat)

def countReal (counts : List (List Int)) (idx : List Nat) : Int :=
  (List.range counts.length).foldl
    (fun count a => count * (counts.getD a []).getD (idx.getD a 0) 0) 1

def scaleValue (p : Int) (counts : List (List Int)) (idx : List Nat) : ScaleValue :=
  if p = 2 then .root (countReal counts idx) else .plain (countReal counts idx)

def scaleValues (p : Int) (counts : List (List Int)) (extents : List UInt32) : List ScaleValue :=
  (walk (extents.map UInt32.toNat) (scaleValue p counts) (extents.map UInt32.toNat).prod).1

def spatialOf {α : Type} (shape : List α) : List α := (shape.drop 1).take (shape.length - 2)

def castRounding (mode : Int) : Option UInt32 :=
  if mode = 0 then none else some (UInt32.ofNat (mode % 2 ^ 32).toNat)

def pooling (p : Int) (inputShape outputShape : List UInt32) (resolved : ResolvedAttributes) :
    List LpOp :=
  let padAmount := reArrangePads resolved.padAmount
  let counts := perAxisCounts inputShape outputShape resolved.filterSize resolved.stride padAmount
  let extents := spatialOf outputShape
  let poolOp : QnnPoolOp := if inputShape.length - 2 = 3 then .poolAvg3d else .poolAvg2d
  [if p = 2 then .multiplySelf else .abs,
    .poolAvg poolOp resolved.filterSize resolved.stride padAmount
      (castRounding resolved.roundingMode) outputShape] ++
  (if p = 2 then [.squareRoot] else []) ++
  [.multiplyStatic (1 :: extents ++ [1]) (scaleValues p counts extents) outputShape]

def emit (node : LpPoolNode) (resolved : ResolvedAttributes) : List LpOp :=
  let inputShape := qnnShape node.site.inputShape
  let outputShape := qnnShape node.site.outputShape
  let chain := pooling node.pValue inputShape outputShape resolved
  if node.site.inputShape.length = 3 then
    .reshape inputShape :: chain ++ [.reshape node.site.outputShape]
  else chain

def processAttributesAndOutputs (node : LpPoolNode) : Except String (List LpOp) := do
  let dtype ← getQnnDataType false (isGpuBackend node.backend) node.inputType
  let inputShape := qnnShape node.site.inputShape
  let spatialRank := inputShape.length - 2
  let resolved := node.site.resolve 0
  returnIf (resolved.filterSize.length ≠ spatialRank)
    "QNN LpPool: kernel_shape rank mismatch with input spatial rank."
  returnIf (resolved.padAmount.length ≠ spatialRank * 2)
    "QNN LpPool: pads rank mismatch with input spatial rank."
  returnIf (kernelExceeds inputShape resolved)
    "QNN LpPool: kernel exceeds padded input on a spatial axis."
  returnIf (dtype ≠ .float16 ∧ dtype ≠ .bfloat16 ∧ dtype ≠ .float32)
    "QNN LpPool: unsupported input dtype for scale tensor."
  return emit node resolved

def isOpSupported (node : LpPoolNode) : Except String Unit := do
  dataTypeCheckForCpuBackend node.backend node.inputType
  returnIf (¬isFloatType node.inputType)
    "QNN LpPool only supports float32, float16, and bfloat16 inputs (QDQ not implemented)."
  returnIf (node.outputCount ≠ 1) "QNN LpPool only supports 1 output."
  let rank := node.site.inputShape.length
  returnIf (¬(3 ≤ rank ∧ rank ≤ 5)) "QNN LpPool only supports input rank 3, 4, or 5."
  returnIf (rank = 5 ∧ isGpuBackend node.backend)
    "QNN LpPool: rank-5 (3D pooling) is not supported on the QNN GPU backend."
  returnIf (rank = 5 ∧ isNpuBackend node.backend ∧ ¬node.htpBf16Enable)
    ("QNN LpPool: rank-5 (3D pooling) is not supported on HTP for FP32/FP16. " ++
      "Use BF16 (htp_bf16_enable=1) or fall back to the ORT CPU EP.")
  returnIf (node.pValue ≠ 1 ∧ node.pValue ≠ 2) "QNN LpPool only supports p=1 or p=2."
  returnIf (node.site.attributes.ceilMode.getD 0 ≠ 0 ∧
      (isCpuBackend node.backend ∨ isNpuBackend node.backend))
    "QNN LpPool: ceil_mode=1 is only supported on the QNN GPU backend."
  returnIf (¬unitDilations node.site.attributes rank) "QNN LpPool does not support dilations > 1."
  returnIf (¬node.site.attributes.autoPad.isSupported)
    ("QNN LpPool does not support 'auto_pad' value: " ++ node.site.attributes.autoPad.value)
  if node.internalNHWC then Functor.discard (processAttributesAndOutputs node) else return ()

def addToModelBuilder (node : LpPoolNode) : Except String (List LpOp) := do
  isOpSupported node
  processAttributesAndOutputs node

noncomputable section

def ScaleValue.toReal : ScaleValue → ℝ
  | .plain count => count
  | .root count => Real.sqrt count

def withSpatial (idx spatial : List Nat) : List Nat := idx.headD 0 :: spatial ++ [idx.getLastD 0]

def poolWindows (filterSize stride padAmount : List UInt32) (out : List Nat) : List Window :=
  (List.range out.length).map fun a =>
    { start := out.getD a 0 * (stride.getD a 0).toNat - (padAmount.getD (2 * a) 0).toNat
      size := (filterSize.getD a 0).toNat
      step := 1 }

def averagePool (filterSize stride padAmount : List UInt32) (t : Tensor ℝ) (idx : List Nat) : ℝ :=
  let cells := box (spatialOf t.shape) (poolWindows filterSize stride padAmount (spatialOf idx))
  (cells.map fun cell => t.get (withSpatial idx cell)).sum / cells.length

def LpOp.run : LpOp → Tensor ℝ → Tensor ℝ
  | .reshape shape, t => t.reshape (shape.map UInt32.toNat)
  | .multiplySelf, t => ⟨t.shape,fun idx => t.get idx * t.get idx⟩
  | .abs, t => ⟨t.shape,fun idx => |t.get idx|⟩
  | .poolAvg _ filterSize stride padAmount _ outputShape, t =>
    ⟨outputShape.map UInt32.toNat,averagePool filterSize stride padAmount t⟩
  | .squareRoot, t => ⟨t.shape,fun idx => Real.sqrt (t.get idx)⟩
  | .multiplyStatic scaleShape scale outputShape, t =>
    multiply (outputShape.map UInt32.toNat) t
      (Tensor.ofFlat (scaleShape.map UInt32.toNat) fun j => (scale.getD j (.plain 0)).toReal)

def runChain (chain : List LpOp) (t : Tensor ℝ) : Tensor ℝ := chain.foldl (fun t op => op.run t) t

def lpNorm (p : Nat) (xs : List ℝ) : ℝ := (xs.map fun x => |x| ^ p).sum ^ ((1 : ℝ) / p)

theorem sqrt_average_mul (h : xs ≠ []) :
    Real.sqrt ((xs.map fun x => x * x).sum / xs.length) * Real.sqrt xs.length = lpNorm 2 xs := by
  have hpos : (0 : ℝ) < xs.length := Nat.cast_pos.mpr (length_pos_iff.mpr h)
  have hsquare : (xs.map fun x => |x| ^ 2) = xs.map fun x => x * x := by
    simp [sq]
  have hnonneg : 0 ≤ (xs.map fun x => x * x).sum :=
    sum_nonneg (by simpa using fun x _ => mul_self_nonneg x)
  rw [← Real.sqrt_mul (div_nonneg hnonneg hpos.le),div_mul_cancel₀ _ hpos.ne',lpNorm,hsquare,
    Real.sqrt_eq_rpow]
  norm_num

theorem average_abs_mul (h : xs ≠ []) : (xs.map fun x => |x|).sum / xs.length * xs.length = lpNorm 1 xs := by
  have hpos : (0 : ℝ) < xs.length := Nat.cast_pos.mpr (length_pos_iff.mpr h)
  rw [div_mul_cancel₀ _ hpos.ne',lpNorm]
  simp

theorem spatialOf_cons_append (n c : Nat) (spatial : List Nat) :
    spatialOf (n :: spatial ++ [c]) = spatial := by
  simp [spatialOf]

theorem withSpatial_cons_append (n c : Nat) (spatial spatial' : List Nat) :
    withSpatial (n :: spatial ++ [c]) spatial' = n :: spatial' ++ [c] := by
  simp [withSpatial,List.getLast?_cons]

theorem broadcastIndex_scale {n c : Nat} {extents : List Nat} (h : InBounds extents out) :
    broadcastIndex (1 :: extents ++ [1]) (n :: out ++ [c]) = 0 :: out ++ [0] := by
  have hlen := h.length_eq
  have hsame := broadcastIndex_inBounds h
  have hdrop : ∀ (xs ys : List Nat), xs.length = ys.length → xs.drop (xs.length - ys.length) = xs := by
    intro xs ys hxy
    rw [hxy,Nat.sub_self,drop_zero]
  rw [broadcastIndex,hdrop _ _ hlen] at hsame
  rw [broadcastIndex,hdrop _ _ (by simp [hlen]),cons_append,cons_append,zipWith_cons_cons,
    zipWith_append hlen.symm,hsame]
  simp

theorem ravel_scale {extents : List Nat} (h : out.length = extents.length) :
    ravel (1 :: extents ++ [1]) (0 :: out ++ [0]) = ravel extents out := by
  rw [cons_append,cons_append,ravel,ravel_append h]
  simp [ravel]

theorem length_spatialOf {α : Type} (shape : List α) : (spatialOf shape).length = shape.length - 2 := by
  simp only [spatialOf,length_take,length_drop]
  omega

theorem spatialOf_eq_map (shape : List UInt32) :
    (spatialOf shape).map UInt32.toNat =
      (List.range (shape.length - 2)).map fun a => (shape.getD (a + 1) 0).toNat := by
  apply ext_getElem
  · simp [length_spatialOf]
  · intro a h _
    simp only [length_map,length_spatialOf] at h
    have : a + 1 < shape.length := by omega
    simp [spatialOf,this]

theorem countReal_eq_prod (counts : List (List Int)) (out : List Nat) :
    countReal counts out =
      ((List.range counts.length).map fun a => (counts.getD a []).getD (out.getD a 0) 0).prod := by
  rw [prod_eq_foldl,foldl_map]
  rfl

theorem countReal_eq_length {inputShape outputShape filterSize stride : List UInt32}
    (hrank : outputShape.length = inputShape.length)
    (hout : InBounds ((spatialOf outputShape).map UInt32.toNat) out) :
    countReal (perAxisCounts inputShape outputShape filterSize stride padAmount) out =
      ((box ((spatialOf inputShape).map UInt32.toNat)
        (poolWindows filterSize stride padAmount out)).length : Int) := by
  have hlen : out.length = inputShape.length - 2 := by
    rw [hout.length_eq,length_map,length_spatialOf,hrank]
  have hget : ∀ a < inputShape.length - 2, out.getD a 0 < (outputShape.getD (a + 1) 0).toNat := by
    intro a ha
    rw [spatialOf_eq_map,hrank] at hout
    have hlt := getD_lt_of_inBounds hout (by simpa using ha)
    rwa [getD_map_range _ _ ha] at hlt
  rw [length_box (by simp [poolWindows]),countReal_eq_prod,spatialOf_eq_map,poolWindows,hlen,
    zipWith_map,zipWith_self]
  simp only [perAxisCounts,length_map,length_range]
  congr 1
  refine map_congr_left fun a ha => ?_
  rw [getD_map_range _ _ (mem_range.mp ha),getD_map_range _ _ (hget a (mem_range.mp ha))]
  rfl

theorem spatialOf_map {α β : Type} (f : α → β) (shape : List α) :
    spatialOf (shape.map f) = (spatialOf shape).map f := by
  simp [spatialOf]

theorem inBounds_spatialOf {shape : List Nat} (h : InBounds shape idx) :
    InBounds (spatialOf shape) (spatialOf idx) := by
  unfold spatialOf
  rw [h.length_eq]
  exact forall₂_take _ (forall₂_drop _ h)

theorem withSpatial_spatialOf (h : 2 ≤ idx.length) : withSpatial idx (spatialOf idx) = idx := by
  obtain ⟨n,rest,rfl⟩ := exists_cons_of_length_pos (show 0 < idx.length by omega)
  obtain rfl | ⟨out,c,rfl⟩ := rest.eq_nil_or_concat'
  · simp at h
  rw [← cons_append,spatialOf_cons_append,withSpatial_cons_append]

theorem scaleValues_at (p : Int) (counts : List (List Int)) (h : InBounds (extents.map UInt32.toNat) out)
    (default : ScaleValue) :
    (scaleValues p counts extents).getD (ravel (extents.map UInt32.toNat) out) default =
      scaleValue p counts out := by
  rw [scaleValues,walk_values _ _ le_rfl,getD_map_range _ _ (ravel_lt h),unravel_ravel h]

theorem multiplyStatic_get {outputShape : List UInt32} {scale : List ScaleValue}
    (hrank : 2 ≤ outputShape.length) (ht : t.shape = outputShape.map UInt32.toNat)
    (hextents : extents = spatialOf outputShape) (hidx : InBounds (outputShape.map UInt32.toNat) idx) :
    ((LpOp.multiplyStatic (1 :: extents ++ [1]) scale outputShape).run t).get idx =
      t.get idx * (scale.getD (ravel (extents.map UInt32.toNat) (spatialOf idx)) (.plain 0)).toReal := by
  have hout := inBounds_spatialOf hidx
  rw [spatialOf_map,← hextents] at hout
  have hlen : 2 ≤ idx.length := by
    rw [hidx.length_eq,length_map]
    exact hrank
  have hscale : broadcastIndex ((1 :: extents ++ [1]).map UInt32.toNat) idx =
      0 :: spatialOf idx ++ [0] := by
    rw [← withSpatial_spatialOf hlen,withSpatial,spatialOf_cons_append]
    simpa using broadcastIndex_scale hout
  have hravel : ravel ((1 :: extents ++ [1]).map UInt32.toNat) (0 :: spatialOf idx ++ [0]) =
      ravel (extents.map UInt32.toNat) (spatialOf idx) := by
    simpa using ravel_scale hout.length_eq
  simp only [LpOp.run,multiply,Tensor.ofFlat,ht,hscale,hravel,broadcastIndex_inBounds hidx]

theorem pooling_get {p : Int} (hp : p = 1 ∨ p = 2) {inputShape outputShape : List UInt32}
    (resolved : ResolvedAttributes) (hrank : 2 ≤ outputShape.length)
    (hsame : outputShape.length = inputShape.length) (ht : t.shape = inputShape.map UInt32.toNat)
    (hidx : InBounds (outputShape.map UInt32.toNat) idx) {cells : List (List Nat)}
    (hcells : cells = box ((spatialOf inputShape).map UInt32.toNat)
      (poolWindows resolved.filterSize resolved.stride (reArrangePads resolved.padAmount)
        (spatialOf idx))) (hmeets : cells ≠ []) :
    (runChain (pooling p inputShape outputShape resolved) t).get idx =
      lpNorm p.toNat (cells.map fun cell => t.get (withSpatial idx cell)) := by
  have hout := inBounds_spatialOf hidx
  rw [spatialOf_map] at hout
  have hcount : countReal (perAxisCounts inputShape outputShape resolved.filterSize resolved.stride
      (reArrangePads resolved.padAmount)) (spatialOf idx) = (cells.length : Int) := by
    rw [hcells]
    exact countReal_eq_length hsame hout
  have hpool : ∀ g : ℝ → ℝ, averagePool resolved.filterSize resolved.stride
      (reArrangePads resolved.padAmount) ⟨t.shape,fun i => g (t.get i)⟩ idx =
      (cells.map fun cell => g (t.get (withSpatial idx cell))).sum / cells.length := by
    intro g
    rw [averagePool,ht,spatialOf_map,← hcells]
  have hvalues : (cells.map fun cell => t.get (withSpatial idx cell)) ≠ [] := by
    simpa using hmeets
  rcases hp with rfl | rfl
  · change _ = lpNorm 1 _
    rw [← average_abs_mul hvalues]
    simp only [pooling,runChain,show ¬(1 : Int) = 2 by decide,if_false,cons_append,nil_append,
      append_nil,foldl_cons,foldl_nil]
    rw [← cons_append,multiplyStatic_get hrank rfl rfl hidx,scaleValues_at _ _ hout]
    simp only [LpOp.run,hpool,scaleValue,show ¬(1 : Int) = 2 by decide,if_false,ScaleValue.toReal,hcount,
      map_map,length_map,Function.comp_def,Int.cast_natCast]
  · change _ = lpNorm 2 _
    rw [← sqrt_average_mul hvalues]
    simp only [pooling,runChain,if_true,cons_append,nil_append,foldl_cons,foldl_nil]
    rw [← cons_append,multiplyStatic_get hrank rfl rfl hidx,scaleValues_at _ _ hout]
    simp only [LpOp.run,hpool (fun x => x * x),scaleValue,if_true,ScaleValue.toReal,hcount,
      map_map,length_map,Function.comp_def,Int.cast_natCast]

end

noncomputable section

def padBegin (site : PoolSite) (axis : Nat) : UInt32 :=
  (site.resolve 0).padAmount.getD (if site.spatialRank = 1 then axis + 1 else axis) 0

def onnxWindows (site : PoolSite) (out : List Nat) : List Window :=
  (List.range site.spatialRank).map fun axis =>
    { start := out.getD axis 0 * (site.axisValue site.attributes.strides axis).toNat -
        (padBegin site axis).toNat
      size := (site.axisValue site.attributes.kernelShape axis).toNat
      step := (site.axisValue site.attributes.dilations axis).toNat }

def onnxWindow (site : PoolSite) (idx : List Nat) : List (List Nat) :=
  box (spatialOf (site.inputShape.map UInt32.toNat)) (onnxWindows site (spatialOf idx))

def onnxLpPool (p : Nat) (site : PoolSite) (x : Tensor ℝ) (idx : List Nat) : ℝ :=
  lpNorm p ((onnxWindow site idx).map fun cell => x.get (withSpatial idx cell))

structure Accepted (node : LpPoolNode) : Prop where
  norm : node.pValue = 1 ∨ node.pValue = 2
  unit : unitDilations node.site.attributes node.site.inputShape.length
  filters : (node.site.resolve 0).filterSize.length = (qnnShape node.site.inputShape).length - 2
  pads : (node.site.resolve 0).padAmount.length = ((qnnShape node.site.inputShape).length - 2) * 2

theorem addToModelBuilder_ok {chain : List LpOp} (h : addToModelBuilder node = .ok chain) :
    Accepted node ∧ chain = emit node (node.site.resolve 0) := by
  obtain ⟨u,hsupported,hprocess⟩ := Registry.bind_ok h
  obtain ⟨_,-,hsupported⟩ := Registry.bind_ok hsupported
  simp only [returnIf_bind_ok] at hsupported
  obtain ⟨-,-,-,-,-,hp,-,hunit,-⟩ := hsupported
  obtain ⟨dtype,-,hprocess⟩ := Registry.bind_ok hprocess
  simp only [returnIf_bind_ok] at hprocess
  obtain ⟨hfilters,hpads,-,-,hchain⟩ := hprocess
  refine ⟨⟨by omega,by simpa using hunit,by simpa using hfilters,by simpa using hpads⟩,?_⟩
  cases hchain
  rfl

theorem Accepted.dilation (h : Accepted node) {axis : Nat} (haxis : axis < node.site.spatialRank) :
    node.site.axisValue node.site.attributes.dilations axis = 1 := by
  have hunit := h.unit
  simp only [unitDilations,decide_eq_true_eq] at hunit
  rw [PoolSite.axisValue,PoolSite.spatialRank,hunit]
  exact getD_replicate _ haxis

theorem poolWindows_eq_onnx (h : Accepted node) (hwide : node.site.spatialRank ≠ 1)
    (hout : out.length = node.site.spatialRank) :
    poolWindows (node.site.resolve 0).filterSize (node.site.resolve 0).stride
      (reArrangePads (node.site.resolve 0).padAmount) out = onnxWindows node.site out := by
  obtain ⟨-,hshape,-⟩ := node.site.shapes_of_ne_one hwide
  have hpads := h.pads
  rw [hshape] at hpads
  have hfilter : (node.site.resolve 0).filterSize =
      node.site.attributes.kernelShape.getD (List.replicate node.site.spatialRank 1) := by
    simp only [PoolSite.resolve,resolvePoolAttributes,hshape]
    exact perAxis_of_ne_one hwide node.site.kernel_length
  have hstride : (node.site.resolve 0).stride =
      node.site.attributes.strides.getD (List.replicate node.site.spatialRank 1) := by
    simp only [PoolSite.resolve,resolvePoolAttributes,hshape]
    exact perAxis_of_ne_one hwide node.site.strides_length
  unfold poolWindows onnxWindows
  rw [hout]
  refine map_congr_left fun axis haxis => ?_
  have haxis := mem_range.mp haxis
  have hhalf : axis < (node.site.resolve 0).padAmount.length / 2 := by
    rw [hpads,Nat.mul_div_cancel _ Nat.two_pos]
    exact haxis
  rw [h.dilation haxis,reArrangePads_begin _ hhalf,hfilter,hstride,padBegin,if_neg hwide]
  rfl

theorem emit_get_of_wide (h : Accepted node) (hwide : node.site.spatialRank ≠ 1)
    (hx : x.shape = node.site.inputShape.map UInt32.toNat)
    (hidx : InBounds (node.site.outputShape.map UInt32.toNat) idx) (hmeets : onnxWindow node.site idx ≠ []) :
    (runChain (emit node (node.site.resolve 0)) x).get idx =
      onnxLpPool node.pValue.toNat node.site x idx := by
  obtain ⟨hrank,hin,hout⟩ := node.site.shapes_of_ne_one hwide
  have hlen : (spatialOf idx).length = node.site.spatialRank := by
    rw [length_spatialOf,hidx.length_eq,length_map,node.site.sameRank]
    rfl
  have hranked := node.site.ranked
  have hsame := node.site.sameRank
  simp only [emit,hrank,if_false,hin,hout]
  refine pooling_get h.norm _ (by omega) hsame hx hidx ?_ hmeets
  rw [onnxWindow,poolWindows_eq_onnx h hwide hlen,spatialOf_map]

theorem perEdge_unit_begin {given : Option (List UInt32)} (h : ∀ raw ∈ given, raw.length = 2) :
    (perEdge given 2).getD 0 0 = 0 := by
  cases given with
  | none => rfl
  | some raw =>
    obtain ⟨first,last,rfl⟩ := length_eq_two.mp (h raw rfl)
    rfl

theorem resolvePads_unit_begin (autoPad : AutoPad) {total : Nat → UInt32} (htotal : total 0 = 0)
    (hlen : padAmount.length = 4) (hbegin : padAmount.getD 0 0 = 0) :
    (resolvePads autoPad 2 total padAmount).getD 0 0 = 0 := by
  by_cases hsame : autoPad = .sameUpper ∨ autoPad = .sameLower
  · rw [resolvePads_same hsame total hlen]
    simp [range_succ,splitPads,htotal]
  · simp only [resolvePads,hsame,if_false]
    split
    · exact hbegin
    · rw [foldl_const]
      simpa using hbegin

structure FlatResolved (site : PoolSite) : Prop where
  filterSize : (site.resolve 0).filterSize = [1,site.axisValue site.attributes.kernelShape 0]
  stride : (site.resolve 0).stride = [1,site.axisValue site.attributes.strides 0]
  unitBegin : (site.resolve 0).padAmount.getD 0 0 = 0

theorem flatResolved {site : PoolSite} (h : site.spatialRank = 1) : FlatResolved site := by
  have hspatial : site.inputShape.length - 2 = 1 := h
  obtain ⟨⟨n,l,c,hin⟩,n',l',c',hout⟩ := site.shapes_of_one h
  have hstride := perAxis_of_one (hspatial ▸ site.strides_length)
  have hkernel := perAxis_of_one (hspatial ▸ site.kernel_length)
  have hpads : ∀ raw ∈ site.attributes.pads, raw.length = 2 := by
    simpa [hspatial] using site.pads_length
  have hresolve : site.resolve 0 =
      resolvePoolAttributes site.attributes [n,1,l,c] [n',1,l',c'] 0 := by
    rw [PoolSite.resolve,hin,hout]
    rfl
  refine ⟨?_,?_,?_⟩
  · rw [hresolve,PoolSite.axisValue,h]
    exact hkernel
  · rw [hresolve,PoolSite.axisValue,h]
    exact hstride
  · rw [hresolve]
    refine resolvePads_unit_begin _ ?_ (length_perEdge_of_one hpads) (perEdge_unit_begin hpads)
    have hlen : [n,1,l,c].length - 2 = 2 := rfl
    rw [hlen,hkernel,hstride]
    simp [totalPads]

theorem box_flat (extents : List Nat) (ws : List Window) :
    box (1 :: extents) (⟨0,1,1⟩ :: ws) = (box extents ws).map fun cell => 0 :: cell := by
  have hunit : (⟨0,1,1⟩ : Window).positions 1 = [0] := by decide
  simp [box,hunit]

theorem poolWindows_flat (h : Accepted node) (hflat : node.site.spatialRank = 1) (o : Nat) :
    poolWindows (node.site.resolve 0).filterSize (node.site.resolve 0).stride
      (reArrangePads (node.site.resolve 0).padAmount) [0,o] =
      ⟨0,1,1⟩ :: onnxWindows node.site [o] := by
  have hresolved := flatResolved hflat
  obtain ⟨⟨n,l,c,hin⟩,-⟩ := node.site.shapes_of_one hflat
  have hlen : (node.site.resolve 0).padAmount.length = 4 := by
    rw [h.pads,hin]
    rfl
  have hone := h.dilation (show 0 < node.site.spatialRank by omega)
  have hbegin := reArrangePads_begin (node.site.resolve 0).padAmount (show 0 < _ by omega)
  have hnext := reArrangePads_begin (node.site.resolve 0).padAmount (show 1 < _ by omega)
  rw [hresolved.unitBegin,Nat.mul_zero] at hbegin
  rw [onnxWindows,hflat]
  simp only [poolWindows,length_cons,length_nil,range_succ,range_zero,
    nil_append,cons_append,map_cons,map_nil,hresolved.filterSize,hresolved.stride,
    Nat.mul_zero,hbegin,Nat.zero_add,hnext,hone,padBegin,hflat,if_true]
  rfl

theorem runChain_append (chain chain' : List LpOp) (t : Tensor ℝ) :
    runChain (chain ++ chain') t = runChain chain' (runChain chain t) := foldl_append

theorem pooling_shape (p : Int) (inputShape outputShape : List UInt32)
    (resolved : ResolvedAttributes) (t : Tensor ℝ) :
    (runChain (pooling p inputShape outputShape resolved) t).shape = outputShape.map UInt32.toNat := by
  rw [pooling,runChain_append]
  rfl

theorem emit_get_of_flat (h : Accepted node) (hflat : node.site.spatialRank = 1)
    (hx : x.shape = node.site.inputShape.map UInt32.toNat)
    (hidx : InBounds (node.site.outputShape.map UInt32.toNat) idx) (hmeets : onnxWindow node.site idx ≠ []) :
    (runChain (emit node (node.site.resolve 0)) x).get idx =
      onnxLpPool node.pValue.toNat node.site x idx := by
  obtain ⟨⟨n,l,c,hin⟩,n',o,c',hout⟩ := node.site.shapes_of_one hflat
  obtain rfl : n' = n := by simpa [hin,hout] using node.sameBatch
  obtain rfl : c' = c := by simpa [hin,hout] using node.sameChannel
  rw [hout] at hidx
  obtain _ | ⟨hn,_ | ⟨ho,_ | ⟨hc,_ | _⟩⟩⟩ := hidx
  next b i ch =>
  have hqidx : InBounds ([n',1,o,c'].map UInt32.toNat) [b,0,i,ch] :=
    .cons hn (.cons Nat.one_pos (.cons ho (.cons hc .nil)))
  have hchain : (runChain (emit node (node.site.resolve 0)) x).get [b,i,ch] =
      (runChain (pooling node.pValue [n',1,l,c'] [n',1,o,c'] (node.site.resolve 0))
        (x.reshape ([n',1,l,c'].map UInt32.toNat))).get [b,0,i,ch] := by
    simp only [emit,hin,hout,qnnShape,length_cons,length_nil,if_true]
    rw [runChain_append]
    have hshape := pooling_shape node.pValue [n',1,l,c'] [n',1,o,c'] (node.site.resolve 0)
      (x.reshape ([n',1,l,c'].map UInt32.toNat))
    refine Tensor.reshape_get (hshape ▸ hqidx) ((?_ : _ = ravel _ _).trans (congrArg (ravel · _) hshape.symm))
    simp [ravel]
  have hcells : box ((spatialOf [n',1,l,c']).map UInt32.toNat)
      (poolWindows (node.site.resolve 0).filterSize (node.site.resolve 0).stride
        (reArrangePads (node.site.resolve 0).padAmount) (spatialOf [b,0,i,ch])) =
      (onnxWindow node.site [b,i,ch]).map fun cell => 0 :: cell := by
    have hwindows := poolWindows_flat h hflat i
    rw [onnxWindow,hin,← box_flat]
    exact congrArg (box _) hwindows
  refine hchain.trans ((pooling_get h.norm _ ?_ ?_ ?_ hqidx hcells.symm ?_).trans ?_)
  · simp
  · rfl
  · rfl
  · simpa using hmeets
  rw [onnxLpPool,map_map]
  congr 1
  refine map_congr_left fun cell hcell => ?_
  have hsize : (onnxWindows node.site (spatialOf [b,i,ch])).length = 1 := by
    simp [onnxWindows,hflat]
  rw [onnxWindow,hin] at hcell
  obtain _ | ⟨hj,_ | _⟩ := ((mem_box (by rw [hsize]; rfl)).mp hcell).1
  next j =>
  have hsource : InBounds x.shape [b,j,ch] := by
    rw [hx,hin]
    exact .cons hn (.cons hj (.cons hc .nil))
  refine Tensor.reshape_get hsource ?_
  rw [hx,hin]
  simp [ravel,withSpatial]

theorem lpPool_get {node : LpPoolNode} {chain : List LpOp}
    (haccepted : addToModelBuilder node = .ok chain) {x : Tensor ℝ}
    (hx : x.shape = node.site.inputShape.map UInt32.toNat) {idx : List Nat}
    (hidx : InBounds (node.site.outputShape.map UInt32.toNat) idx)
    (hmeets : onnxWindow node.site idx ≠ []) :
    (runChain chain x).get idx = onnxLpPool node.pValue.toNat node.site x idx := by
  obtain ⟨hnode,rfl⟩ := addToModelBuilder_ok haccepted
  by_cases hflat : node.site.spatialRank = 1
  · exact emit_get_of_flat hnode hflat hx hidx hmeets
  · exact emit_get_of_wide hnode hflat hx hidx hmeets

def flatNode : LpPoolNode where
  site :=
    { inputShape := [1,3,1]
      outputShape := [1,2,1]
      attributes :=
        { kernelShape := some [2]
          strides := some [2]
          dilations := none
          pads := some [0,1]
          autoPad := .notset
          ceilMode := none }
      ranked := Nat.le_refl 3
      sameRank := rfl
      kernel_length := by simp
      strides_length := by simp
      dilations_length := by simp
      pads_length := by simp }
  backend := .htp
  htpBf16Enable := false
  inputType := .float
  outputCount := 1
  p := none
  internalNHWC := true
  sameBatch := rfl
  sameChannel := rfl

theorem lpPool_get_flat :
    (runChain (emit flatNode (flatNode.site.resolve 0)) ⟨[1,3,1],fun idx => idx.sum⟩).get [0,1,0] =
      onnxLpPool 2 flatNode.site ⟨[1,3,1],fun idx => idx.sum⟩ [0,1,0] :=
  lpPool_get (show addToModelBuilder flatNode = .ok _ by rfl) rfl
    (.cons Nat.one_pos (.cons Nat.one_lt_two (.cons Nat.one_pos .nil))) (by decide)

end

end QnnEp.LpPool
