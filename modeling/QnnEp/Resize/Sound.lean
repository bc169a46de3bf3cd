import Mathlib.Data.Rat.Floor
import QnnEp.Foundation.Window
import QnnEp.Pool.Builder

namespace QnnEp.Resize
open Registry
open Pool (isCpuBackend)
open Qdq (OnnxType)
open Slice (QnnBackendType isNpuBackend)
open Status
open Tensors (Range)
variable {scale : ℚ} {input : Nat}

inductive InterpMode where
  | nearest
  | linear
  | cubic
  | other (value : String)
  deriving DecidableEq, Repr

inductive TransformationMode where
  | halfPixel
  | pytorchHalfPixel
  | alignCorners
  | asymmetric
  | tfHalfPixelForNN
  | other (value : String)
  deriving DecidableEq, Repr

inductive NearestMode where
  | roundPreferFloor
  | roundPreferCeil
  | floor
  | ceil
  | other (value : String)
  deriving DecidableEq, Repr

def InterpMode.value : InterpMode → String
  | .nearest => "nearest"
  | .linear => "linear"
  | .cubic => "cubic"
  | .other value => value

def TransformationMode.value : TransformationMode → String
  | .halfPixel => "half_pixel"
  | .pytorchHalfPixel => "pytorch_half_pixel"
  | .alignCorners => "align_corners"
  | .asymmetric => "asymmetric"
  | .tfHalfPixelForNN => "tf_half_pixel_for_nn"
  | .other value => value

def NearestMode.value : NearestMode → String
  | .roundPreferFloor => "round_prefer_floor"
  | .roundPreferCeil => "round_prefer_ceil"
  | .floor => "floor"
  | .ceil => "ceil"
  | .other value => value

def InterpMode.isSupported : InterpMode → Bool
  | .other _ => false
  | _ => true

def TransformationMode.isSupported : TransformationMode → Bool
  | .tfHalfPixelForNN => false
  | .other _ => false
  | _ => true

def NearestMode.isSupported : NearestMode → Bool
  | .other _ => false
  | _ => true

inductive AspectPolicy where
  | stretch
  | notLarger
  | notSmaller
  deriving DecidableEq, Repr

inductive Target where
  | scales (values : List ℚ)
  | sizes (values : List Nat) (policy : AspectPolicy)
  deriving DecidableEq, Repr

structure ResizeNode where
  backend : QnnBackendType
  roundPreferCeilApi : Bool
  sinceVersion : Nat
  inputType : OnnxType
  inputShape : List UInt32
  outputShape : List UInt32
  mode : InterpMode
  transformationMode : TransformationMode
  nearestMode : NearestMode
  antialias : Int
  excludeOutside : Int
  cubicScales : Except String Unit
  axes : List Nat
  target : Target

inductive QnnResize where
  | resizeNearestNeighbor (alignCorners halfPixelCenters : Bool)
  | resizeBilinear (alignCorners halfPixelCenters : Bool)
  | resize (transformation : TransformationMode) (excludeOutside : Bool) (interpolation : InterpMode)
      (nearest : Option NearestMode)
  deriving DecidableEq, Repr

inductive ResizeOp where
  | resize (op : QnnResize) (outputShape : List UInt32)
  | stridedSlice (ranges : List (UInt32 × UInt32 × UInt32)) (outputShape : List UInt32)
  deriving DecidableEq, Repr

def npuBF16Message : String := "QNN EP: Resize support BF16 inputs with linear mode only on the NPU."

def checkTfHalfPixel (node : ResizeNode) : Except String Unit := do
  returnIf (node.transformationMode = .tfHalfPixelForNN ∧ node.mode ≠ .nearest)
    ("QNN EP: Resize with tf_half_pixel_for_nn only supports mode 'nearest', got '" ++
      node.mode.value ++ "'. Other modes fall back to CPU.")
  returnIf (node.transformationMode = .tfHalfPixelForNN ∧ node.nearestMode ≠ .floor)
    ("QNN EP: Resize with tf_half_pixel_for_nn does not support nearest_mode '" ++
      node.nearestMode.value ++ "'. Only 'floor' is supported.")

def checkNpuResize (node : ResizeNode) : Except String Unit := do
  let unsupported := "QNN EP: Resize on the NPU does not support nearest_mode " ++ node.nearestMode.value
  returnIf (node.roundPreferCeilApi ∧ node.nearestMode ≠ .roundPreferCeil ∧ node.nearestMode ≠ .floor)
    unsupported
  returnIf (node.roundPreferCeilApi ∧ node.nearestMode = .roundPreferCeil ∧
      node.transformationMode ≠ .alignCorners)
    ("QNN EP: Resize on the NPU only supports 'round_prefer_ceil' if " ++
      "transformation mode is 'align_corners'")
  returnIf (¬node.roundPreferCeilApi ∧ node.nearestMode ≠ .roundPreferFloor ∧ node.nearestMode ≠ .floor)
    unsupported
  returnIf (node.nearestMode = .floor ∧ node.transformationMode = .pytorchHalfPixel)
    ("QNN EP: Resize on the NPU does not support the combination of nearest_mode == 'floor' " ++
      " and transformation_mode == 'pytorch_half_pixel'.")

def checkNpuNearestNeighbor (node : ResizeNode) : Except String Unit :=
  returnIf ((node.nearestMode = .ceil ∨ node.nearestMode = .roundPreferFloor) ∧
      node.transformationMode = .asymmetric)
    ("QNN EP: ResizeNearestNeighbor on the NPU does not support the combination of " ++
      "nearest_mode == 'ceil' or 'round_prefer_floor' and transformation_mode == 'asymmetric'.")

def checkNearest (node : ResizeNode) : Except String Unit := do
  returnIf (¬node.nearestMode.isSupported)
    ("QNN EP: Resize does not support nearest_mode " ++ node.nearestMode.value)
  if isNpuBackend node.backend ∧ node.transformationMode ≠ .tfHalfPixelForNN then
    if node.inputShape.length = 4 then checkNpuNearestNeighbor node else checkNpuResize node
  else return ()

def checkModes (node : ResizeNode) : Except String Unit := do
  returnIf (18 ≤ node.sinceVersion ∧ node.antialias ≠ 0) "QNN EP: Resize doesn't support anti-aliasing."
  returnIf (¬node.mode.isSupported) ("QNN EP: Resize does not support mode " ++ node.mode.value)
  returnIf (node.transformationMode ≠ .tfHalfPixelForNN ∧ ¬node.transformationMode.isSupported)
    ("QNN EP: Resize does not support coordinate_transformation_mode " ++
      node.transformationMode.value)
  if node.mode = .nearest then checkNearest node else return ()

def checkShapes (node : ResizeNode) : Except String Unit := do
  let rank := node.inputShape.length
  returnIf (rank < 3 ∨ isNpuBackend node.backend ∧ 5 < rank)
    "QNN EP: Resize input must have a rank >= 3. The maximum rank is 5 on the NPU."
  returnIf (node.transformationMode = .tfHalfPixelForNN ∧ rank ≠ 4)
    "QNN EP: Resize with tf_half_pixel_for_nn only supports rank-4 input."
  if node.mode = .cubic then node.cubicScales else return ()
  returnIf (¬(node.inputShape.getD 0 0 = node.outputShape.getD 0 0 ∧
      node.inputShape.getD 1 0 = node.outputShape.getD 1 0))
    "QNN EP: Resize may only change the spatial dimensions."

def isOpSupported (node : ResizeNode) : Except String Unit := do
  checkTfHalfPixel node
  checkModes node
  checkShapes node
  returnIf (isCpuBackend node.backend ∧ node.inputType ≠ .float)
    ("QNN EP: Data type " ++ toString node.inputType.code ++
      " is not supported for Resize operator in CPU backend.")
  returnIf (isNpuBackend node.backend ∧ node.mode ≠ .linear ∧ node.inputType = .bfloat16)
    npuBF16Message

def channelLast : List UInt32 → List UInt32
  | batch :: channels :: spatial => batch :: spatial ++ [channels]
  | shape => shape

def isSpatial (rank axis : Nat) : Bool := 1 ≤ axis ∧ axis < rank - 1

def doubleOutputShape (outputShape : List UInt32) : List UInt32 :=
  outputShape.mapIdx fun i d => if isSpatial outputShape.length i then d * 2 else d

def oddRanges (doubled : List UInt32) : List (UInt32 × UInt32 × UInt32) :=
  doubled.mapIdx fun i d => if isSpatial doubled.length i then (1,d,2) else (0,d,1)

def processTfHalfPixelForNN (outputShape : List UInt32) : List ResizeOp :=
  let doubled := doubleOutputShape outputShape
  [.resize (.resize .asymmetric false .nearest (some .floor)) doubled,
    .stridedSlice (oddRanges doubled) outputShape]

def isPyTorchHalfPixelEquivalentToHalfPixel (outputShape : List UInt32) : Bool :=
  1 < outputShape.getD 1 0 ∧ 1 < outputShape.getD 2 0

def fallbackResize (node : ResizeNode) : Except String QnnResize := do
  returnIf (¬node.transformationMode.isSupported)
    ("QNN EP: Resize operator does not support coordinate_transformation_mode " ++
      node.transformationMode.value)
  returnIf (¬node.mode.isSupported) ("QNN EP: Resize operator does not support mode " ++ node.mode.value)
  returnIf (isNpuBackend node.backend ∧ node.mode = .cubic ∧ node.inputType = .bfloat16) npuBF16Message
  returnIf (node.mode = .nearest ∧ ¬node.nearestMode.isSupported)
    ("QNN EP: Resize operator does not support nearest_mode " ++ node.nearestMode.value)
  return .resize node.transformationMode (node.excludeOutside ≠ 0) node.mode
    (if node.mode = .nearest then some node.nearestMode else none)

def selectResize (node : ResizeNode) (outputShape : List UInt32) : Except String QnnResize :=
  let npuRank4 := isNpuBackend node.backend ∧ node.inputShape.length = 4
  if npuRank4 ∧ node.mode = .nearest then
    .ok (.resizeNearestNeighbor (node.transformationMode = .alignCorners)
      (node.transformationMode = .halfPixel))
  else if npuRank4 ∧ node.mode = .linear ∧ (node.transformationMode ≠ .pytorchHalfPixel ∨
      isPyTorchHalfPixelEquivalentToHalfPixel outputShape) then
    .ok (.resizeBilinear (node.transformationMode = .alignCorners)
      (node.transformationMode = .halfPixel ∨ node.transformationMode = .pytorchHalfPixel))
  else fallbackResize node

def processAttributesAndOutputs (node : ResizeNode) : Except String (List ResizeOp) := do
  let outputShape := channelLast node.outputShape
  if node.transformationMode = .tfHalfPixelForNN then return processTfHalfPixelForNN outputShape
  else
    let op ← selectResize node outputShape
    return [.resize op outputShape]

def addToModelBuilder (node : ResizeNode) : Except String (List ResizeOp) := do
  isOpSupported node
  checkTfHalfPixel node
  processAttributesAndOutputs node

def onnxIndex (scale : ℚ) (input : Nat) (j : Nat) : Int :=
  min ⌊((j : ℚ) + 1 / 2) / scale⌋ (input - 1)

def centresBelow (boundary : ℚ) : Int := ⌈boundary - 1 / 2⌉

def BoundariesAgree (scale : ℚ) (input output : Nat) : Prop :=
  ∀ m < input, min (output : Int) (centresBelow (m * scale)) =
    min (output : Int) (centresBelow (m * output / input))

theorem le_onnxIndex_iff (hscale : 0 < scale) {m : Nat} (hm : m < input) (j : Nat) :
    (m : Int) ≤ onnxIndex scale input j ↔ centresBelow (m * scale) ≤ j := by
  rw [onnxIndex,le_min_iff,Int.le_floor,centresBelow,Int.ceil_le,le_div_iff₀ hscale]
  push_cast
  constructor
  · rintro ⟨h,-⟩
    linarith
  · intro h
    exact ⟨by linarith,by omega⟩

theorem le_picked_iff {output m : Nat} (hinput : 0 < input) (houtput : 0 < output) (j : Nat) :
    (m : Int) ≤ (((1 + 2 * j) * input / (2 * output) : Nat) : Int) ↔
      centresBelow (m * output / input) ≤ j := by
  have hin : (0 : ℚ) < input := by exact_mod_cast hinput
  rw [centresBelow,Int.ceil_le,Nat.cast_le,Nat.le_div_iff_mul_le (by omega),sub_le_iff_le_add,
    div_le_iff₀ hin]
  constructor
  · intro h
    have : ((m * (2 * output) : Nat) : ℚ) ≤ ((1 + 2 * j) * input : Nat) := by exact_mod_cast h
    push_cast at this ⊢
    linarith
  · intro h
    have : ((m * (2 * output) : Nat) : ℚ) ≤ ((1 + 2 * j) * input : Nat) := by
      push_cast at h ⊢
      linarith
    exact_mod_cast this

theorem centresBelow_nonneg {boundary : ℚ} (h : 0 ≤ boundary) : 0 ≤ centresBelow boundary := by
  have hlt : (-1 : ℚ) < ⌈boundary - 1 / 2⌉ := lt_of_lt_of_le (by linarith) (Int.le_ceil _)
  have hlt : (-1 : Int) < ⌈boundary - 1 / 2⌉ := by exact_mod_cast hlt
  rw [centresBelow]
  omega

theorem onnxIndex_bounds (hscale : 0 < scale) (hinput : 0 < input) (j : Nat) :
    0 ≤ onnxIndex scale input j ∧ onnxIndex scale input j < input := by
  have hcoordinate : (0 : ℚ) ≤ ((j : ℚ) + 1 / 2) / scale := by positivity
  have hfloor : 0 ≤ ⌊((j : ℚ) + 1 / 2) / scale⌋ := Int.floor_nonneg.mpr hcoordinate
  unfold onnxIndex
  omega

theorem picked_lt {output j : Nat} (hinput : 0 < input) (hj : j < output) :
    (1 + 2 * j) * input / (2 * output) < input := by
  rw [Nat.div_lt_iff_lt_mul (by omega),Nat.mul_comm input]
  exact Nat.mul_lt_mul_of_pos_right (by omega) hinput

theorem picks_iff_boundaries (hscale : 0 < scale) {output : Nat} (hinput : 0 < input) :
    (∀ j < output, (((1 + 2 * j) * input / (2 * output) : Nat) : Int) = onnxIndex scale input j) ↔
      BoundariesAgree scale input output := by
  constructor
  · intro h m hm
    have honnx : 0 ≤ centresBelow (m * scale) := centresBelow_nonneg (by positivity)
    have hqnn : 0 ≤ centresBelow (m * output / input) := centresBelow_nonneg (by positivity)
    have hiff : ∀ j < output, centresBelow (m * scale) ≤ j ↔ centresBelow (m * output / input) ≤ j := by
      intro j hj
      rw [← le_onnxIndex_iff hscale hm,← le_picked_iff hinput (by omega),h j hj]
    have hfirst := hiff (centresBelow (m * scale)).toNat
    have hsecond := hiff (centresBelow (m * output / input)).toNat
    omega
  · intro h j hj
    have hbounds := onnxIndex_bounds hscale hinput j
    have hpicked := picked_lt hinput hj
    apply le_antisymm
    · have hagree := h _ hpicked
      have hcentre := (le_picked_iff hinput (show 0 < output by omega) j).mp (le_refl _)
      rw [le_onnxIndex_iff hscale hpicked]
      omega
    · obtain ⟨m,hm⟩ := Int.eq_ofNat_of_zero_le hbounds.1
      have hlt : m < input := by omega
      have hagree := h m hlt
      have hcentre := (le_onnxIndex_iff hscale hlt j).mp hm.ge
      rw [hm,le_picked_iff hinput (by omega)]
      omega

theorem boundariesAgree_of_ratio (input output : Nat) :
    BoundariesAgree (output / input) input output := by
  intro m _
  rw [mul_div_assoc]

structure AxisMap where
  size : Nat
  source : Nat → Nat

def ResizeOp.onAxis (axis : Nat) (map : AxisMap) : ResizeOp → Option AxisMap
  | .resize (.resize .asymmetric false .nearest (some .floor)) shape =>
    let size := (shape.getD axis 0).toNat
    some ⟨size,fun i => map.source (i * map.size / size)⟩
  | .resize _ _ => none
  | .stridedSlice ranges _ =>
    let range := ranges.getD axis (0,0,0)
    some ⟨Range.size ⟨range.1.toNat,range.2.1.toNat,range.2.2.toNat⟩,
      fun i => map.source (range.1.toNat + i * range.2.2.toNat)⟩

def sourceMap (ops : List ResizeOp) (axis input : Nat) : Option AxisMap :=
  ops.foldlM (fun map op => op.onAxis axis map) ⟨input,id⟩

namespace ResizeNode

def inputSize (node : ResizeNode) (axis : Nat) : Nat := (node.inputShape.getD axis 0).toNat

def outputSize (node : ResizeNode) (axis : Nat) : Nat := (node.outputShape.getD axis 0).toNat

def sizeRatios (node : ResizeNode) (sizes : List Nat) : List ℚ :=
  List.zipWith (fun axis size => (size : ℚ) / node.inputSize axis) node.axes sizes

def onnxScale (node : ResizeNode) (axis : Nat) : ℚ :=
  if axis ∈ node.axes then
    let position := node.axes.idxOf axis
    match node.target with
    | .scales values => values.getD position 1
    | .sizes values .stretch => (node.sizeRatios values).getD position 1
    | .sizes values .notLarger =>
      (node.sizeRatios values).foldl min ((node.sizeRatios values).headD 1)
    | .sizes values .notSmaller =>
      (node.sizeRatios values).foldl max ((node.sizeRatios values).headD 1)
  else 1

end ResizeNode

structure WellFormed (node : ResizeNode) : Prop where
  sameRank : node.outputShape.length = node.inputShape.length
  positive : ∀ axis ∈ [2,3], 0 < node.inputSize axis
  scale : ∀ axis ∈ [2,3], 0 < node.onnxScale axis

def PicksOnnxSources (node : ResizeNode) (ops : List ResizeOp) : Prop :=
  ∀ axis ∈ [2,3], ∃ map, sourceMap ops (axis - 1) (node.inputSize axis) = some map ∧
    map.size = node.outputSize axis ∧
    ∀ j < node.outputSize axis, (map.source j : Int) = onnxIndex (node.onnxScale axis) (node.inputSize axis) j

def BoundariesMatch (node : ResizeNode) : Prop :=
  ∀ axis ∈ [2,3], node.outputSize axis < 2 ^ 31 ∧
    BoundariesAgree (node.onnxScale axis) (node.inputSize axis) (node.outputSize axis)

theorem addToModelBuilder_tfHalfPixel {node : ResizeNode} (hmode : node.transformationMode = .tfHalfPixelForNN)
    {ops : List ResizeOp} (h : addToModelBuilder node = .ok ops) :
    node.inputShape.length = 4 ∧ ops = processTfHalfPixelForNN (channelLast node.outputShape) := by
  obtain ⟨_,hsupported,h⟩ := bind_ok h
  obtain ⟨_,-,h⟩ := bind_ok h
  obtain ⟨_,-,hsupported⟩ := bind_ok hsupported
  obtain ⟨_,-,hsupported⟩ := bind_ok hsupported
  obtain ⟨_,hshapes,-⟩ := bind_ok hsupported
  simp only [checkShapes,Status.returnIf_bind_ok] at hshapes
  refine ⟨by_contra fun hrank => hshapes.2.1 ⟨hmode,hrank⟩,?_⟩
  rw [processAttributesAndOutputs,if_pos hmode] at h
  cases h
  rfl

theorem onAxis_spatial {batch height width channels : UInt32} {axis : Nat} (haxis : axis ∈ [1,2])
    (input : Nat) :
    sourceMap (processTfHalfPixelForNN [batch,height,width,channels]) axis input =
      some ⟨Range.size ⟨1,([batch,height,width,channels].getD axis 0 * 2).toNat,2⟩,fun j =>
        (1 + j * 2) * input / ([batch,height,width,channels].getD axis 0 * 2).toNat⟩ := by
  simp only [List.mem_cons,List.not_mem_nil,or_false] at haxis
  rcases haxis with rfl | rfl <;> rfl

theorem axis_picks_iff (hscale : 0 < scale) (hinput : 0 < input) (output : UInt32) :
    (Range.size ⟨1,(output * 2).toNat,2⟩ = output.toNat ∧ ∀ j < output.toNat,
      (((1 + j * 2) * input / (output * 2).toNat : Nat) : Int) = onnxIndex scale input j) ↔
      output.toNat < 2 ^ 31 ∧ BoundariesAgree scale input output.toNat := by
  have hlt := output.toNat_lt
  have hdouble : (output * 2).toNat = output.toNat * 2 % 2 ^ 32 := UInt32.toNat_mul output 2
  have hsize : Range.size ⟨1,(output * 2).toNat,2⟩ = output.toNat ↔ output.toNat < 2 ^ 31 := by
    simp only [Range.size,hdouble]
    omega
  rw [hsize]
  refine and_congr_right fun hsmall => ?_
  have hexact : (output * 2).toNat = 2 * output.toNat := by omega
  rw [hexact,← picks_iff_boundaries hscale hinput]
  simp only [Nat.mul_comm _ 2]

theorem resize_picks_iff {node : ResizeNode} (hwf : WellFormed node)
    (hmode : node.transformationMode = .tfHalfPixelForNN) {ops : List ResizeOp}
    (h : addToModelBuilder node = .ok ops) : PicksOnnxSources node ops ↔ BoundariesMatch node := by
  obtain ⟨hrank,rfl⟩ := addToModelBuilder_tfHalfPixel hmode h
  obtain ⟨batch,channels,height,width,hout⟩ := List.length_eq_four.mp (hwf.sameRank.trans hrank)
  have hlast : channelLast node.outputShape = [batch,height,width,channels] := by
    rw [hout]
    rfl
  unfold PicksOnnxSources BoundariesMatch
  refine forall₂_congr fun axis haxis => ?_
  have hsize : node.outputSize axis =
      ([batch,height,width,channels].getD (axis - 1) 0).toNat := by
    rw [ResizeNode.outputSize,hout]
    simp only [List.mem_cons,List.not_mem_nil,or_false] at haxis
    rcases haxis with rfl | rfl <;> rfl
  have hspatial : axis - 1 ∈ [1,2] := by
    simp only [List.mem_cons,List.not_mem_nil,or_false] at haxis ⊢
    omega
  rw [hlast,hsize,← axis_picks_iff (hwf.scale axis haxis) (hwf.positive axis haxis)]
  simp only [onAxis_spatial hspatial,Option.some.injEq,exists_eq_left']

def tfNode (input output : UInt32) (target : Target) : ResizeNode where
  backend := .htp
  roundPreferCeilApi := true
  sinceVersion := 13
  inputType := .float
  inputShape := [1,1,input,input]
  outputShape := [1,1,output,output]
  mode := .nearest
  transformationMode := .tfHalfPixelForNN
  nearestMode := .floor
  antialias := 0
  excludeOutside := 0
  cubicScales := .ok ()
  axes := [0,1,2,3]
  target := target

theorem resize_picks_sizes :
    PicksOnnxSources (tfNode 3 2 (.sizes [1,1,2,2] .stretch))
      (processTfHalfPixelForNN [1,2,2,1]) :=
  (resize_picks_iff ⟨rfl,by decide,by decide +kernel⟩ rfl (by rfl)).mpr fun axis haxis => by
    simp only [List.mem_cons,List.not_mem_nil,or_false] at haxis
    rcases haxis with rfl | rfl <;> exact ⟨by decide,boundariesAgree_of_ratio 3 2⟩

theorem scale_differs_from_ratio :
    addToModelBuilder (tfNode 3 2 (.scales [1,1,7 / 8,7 / 8])) =
        .ok (processTfHalfPixelForNN [1,2,2,1]) ∧
      WellFormed (tfNode 3 2 (.scales [1,1,7 / 8,7 / 8])) ∧
      ⌊(3 : ℚ) * (7 / 8)⌋ = 2 ∧
      ((sourceMap (processTfHalfPixelForNN [1,2,2,1]) 1 3).map fun map => map.source 1) = some 2 ∧
      onnxIndex ((tfNode 3 2 (.scales [1,1,7 / 8,7 / 8])).onnxScale 2) 3 1 = 1 := by
  refine ⟨rfl,⟨rfl,by decide,by decide +kernel⟩,by norm_num,rfl,?_⟩
  have hscale : (tfNode 3 2 (.scales [1,1,7 / 8,7 / 8])).onnxScale 2 = 7 / 8 := by decide +kernel
  rw [hscale,onnxIndex]
  norm_num

end QnnEp.Resize
