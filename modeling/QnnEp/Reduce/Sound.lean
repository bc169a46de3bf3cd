import Mathlib.Analysis.SpecialFunctions.Pow.Real
import QnnEp.Conv.Builder
import QnnEp.Foundation.Calls
import QnnEp.Foundation.Reduction
import QnnEp.Pool.Builder

namespace QnnEp.Reduce
open List Registry
open Conv (getQnnDataType)
open Pool (isGpuBackend)
open Qdq (OnnxType)
open Shapes (safeUint32 safeUint32_ok)
open Slice (QnnBackendType isNpuBackend)
open Status Tensors

inductive ReduceOpType where
  | max
  | min
  | mean
  | prod
  | sum
  | l2
  | logSumExp
  deriving DecidableEq, Repr

def opsetWithAxesAsInput : ReduceOpType → Nat
  | .max => 18
  | .min => 18
  | .mean => 18
  | .prod => 18
  | .sum => 13
  | .l2 => 18
  | .logSumExp => 18

structure AxesInput where
  shape : Option (List Nat)
  constant : Option (List Int)
  sized : ∀ values ∈ constant, shape = some [values.length]

structure ReduceNode where
  opType : ReduceOpType
  opset : Nat
  backend : QnnBackendType
  inputShape : List Nat
  outputShape : List Nat
  inputType : OnnxType
  outputType : OnnxType
  inputPerChannel : Option Bool
  outputPerChannel : Option Bool
  axesAttribute : Option (List Int)
  axesInput : Option AxesInput
  keepdims : Option Int
  noopWithEmptyAxes : Option Int

variable {node : ReduceNode} {axesSet : List Int} {t x : Tensor ℝ} {mask : List Bool}

namespace ReduceNode

def keepDims (node : ReduceNode) : Bool := node.keepdims.getD 1 ≠ 0

def noop (node : ReduceNode) : Bool := node.noopWithEmptyAxes.getD 0 ≠ 0

def rank (node : ReduceNode) : Nat := node.inputShape.length

def isQuantizedInput (node : ReduceNode) : Bool := node.inputPerChannel.isSome

end ReduceNode

def axesRangeMessage : String :=
  "QNN EP: \"axes\" input must have shape [M] where 0 < M <= rank(input[0])"

def axesOfInput (node : ReduceNode) (input : AxesInput) : Except String (List Int) :=
  match input.shape with
  | none => .error "Cannot get shape of axes input"
  | some [size] =>
    if size = 0 ∧ node.noop then
      .error "QNN EP: does not support NoOp for reduction operators with empty axes."
    else if size = 0 then .ok []
    else
      match input.constant with
      | none => .error "QNN EP: \"axes\" input for reduce operator must be an initializer"
      | some values =>
        if values.length ≤ node.rank then .ok values
        else .error "Expect QNN Reduce* operator to have at most rank(input[0]) axes elements."
  | some _ => .error axesRangeMessage

def reduceAxes (node : ReduceNode) : Except String (List Int) :=
  if node.opset < opsetWithAxesAsInput node.opType then .ok (node.axesAttribute.getD [])
  else
    match node.axesInput with
    | some input => axesOfInput node input
    | none => .ok []

def positiveAxis (rank : Nat) (axis : Int) : Int := if axis < 0 then axis + rank else axis

def insertSorted (axis : Int) : List Int → List Int
  | [] => [axis]
  | first :: rest =>
    if axis < first then axis :: first :: rest
    else if axis = first then first :: rest
    else first :: insertSorted axis rest

def sortedSet (axes : List Int) : List Int := axes.foldl (fun set axis => insertSorted axis set) []

def axesSetOf (rank : Nat) (axes : List Int) : List Int :=
  if axes.length = 0 then sortedSet ((List.range rank).map fun i => (i : Int))
  else sortedSet (axes.map (positiveAxis rank))

def getAxesSet (node : ReduceNode) : Except String (List Int) := do
  let axes ← reduceAxes node
  let axesSet := axesSetOf node.rank axes
  returnIf (node.rank < axesSet.length) axesRangeMessage
  return axesSet

def axesData (axesSet : List Int) : Except String (List Nat) :=
  axesSet.mapM fun axis => (safeUint32 axis).map UInt32.toNat

inductive QnnReduce where
  | max
  | min
  | mean
  | prod
  | sum
  deriving DecidableEq, Repr

inductive QnnKind where
  | reduce (op : QnnReduce) (axes : List Nat) (keepDims : Bool)
  | multiply (shape : List Nat)
  | squareRoot
  | subtract (shape : List Nat)
  | exp
  | log
  | add (shape : List Nat)
  | reshape (shape : List Nat)
  | dequantize
  | quantize
  deriving DecidableEq, Repr

inductive Wire where
  | input
  | dequantized
  | pow2
  | sum
  | root
  | max
  | normalized
  | exp
  | log
  | kept
  | output
  deriving DecidableEq, Repr

def getQnnOpType : ReduceOpType → QnnReduce
  | .max => .max
  | .min => .min
  | .mean => .mean
  | .prod => .prod
  | _ => .sum

def l2Steps (quantized : Bool) (inputShape axes : List Nat) (keepDims : Bool) :
    List (Step QnnKind Wire) :=
  let source := if quantized then .dequantized else .input
  let target := if quantized then .root else .output
  (if quantized then [⟨.dequantize,[.input],.dequantized⟩] else []) ++
    [⟨.multiply inputShape,[source,source],.pow2⟩,⟨.reduce .sum axes keepDims,[.pow2],.sum⟩,
      ⟨.squareRoot,[.sum],target⟩] ++
    (if quantized then [⟨.quantize,[.root],.output⟩] else [])

def keptDims (inputShape axes : List Nat) : List Nat :=
  axes.foldl (fun shape axis => shape.set axis 1) inputShape

def logSumExpSteps (inputShape axes : List Nat) (keepDims : Bool) (outputShape : List Nat) :
    List (Step QnnKind Wire) :=
  let target := if keepDims then .output else .kept
  [⟨.reduce .max axes true,[.input],.max⟩,⟨.subtract inputShape,[.input,.max],.normalized⟩,
    ⟨.exp,[.normalized],.exp⟩,⟨.reduce .sum axes true,[.exp],.sum⟩,⟨.log,[.sum],.log⟩,
    ⟨.add (keptDims inputShape axes),[.log,.max],target⟩] ++
  (if keepDims then [] else [⟨.reshape outputShape,[.kept],.output⟩])

def processL2 (node : ReduceNode) (axes : List Nat) : Except String (List (Step QnnKind Wire)) := do
  let _ ← getQnnDataType (node.isQuantizedInput && node.outputPerChannel.isSome)
    (node.isQuantizedInput && isGpuBackend node.backend) node.outputType
  return l2Steps node.isQuantizedInput node.inputShape axes node.keepDims

def processLogSumExp (node : ReduceNode) (axesSet : List Int) (axes : List Nat) :
    Except String (List (Step QnnKind Wire)) := do
  let _ ← getQnnDataType false false node.outputType
  returnIf (∃ axis ∈ axesSet, ¬(0 ≤ axis ∧ axis < node.rank))
    "QNN EP: ReduceLogSumExp axis out of range."
  return logSumExpSteps node.inputShape axes node.keepDims node.outputShape

def processAttributesAndOutputs (node : ReduceNode) : Except String (List (Step QnnKind Wire)) := do
  let axesSet ← getAxesSet node
  let axes ← axesData axesSet
  match node.opType with
  | .l2 => processL2 node axes
  | .logSumExp => processLogSumExp node axesSet axes
  | opType => return [⟨.reduce (getQnnOpType opType) axes node.keepDims,[.input],.output⟩]

def isOpSupported (node : ReduceNode) : Except String Unit := do
  returnIf (node.opType = .prod ∧ isNpuBackend node.backend)
    "QNN EP: ReduceProd operator not supported by HTP backend."
  returnIf (node.opType = .logSumExp ∧ node.isQuantizedInput)
    "QNN EP: ReduceLogSumExp operator does not support quantized input."
  returnIf (node.opType = .logSumExp ∧ node.inputType ≠ .float ∧ node.inputType ≠ .float16 ∧
      node.inputType ≠ .bfloat16)
    "QNN EP: ReduceLogSumExp operator only supports float input dtypes."
  returnIf (node.opType = .l2 ∧ (node.inputPerChannel = some true ∨ node.outputPerChannel = some true))
    "QNN EP: ReduceL2 operator does not support per-channel quantized input/output."
  Functor.discard (processAttributesAndOutputs node)

def addToModelBuilder (node : ReduceNode) : Except String (List (Step QnnKind Wire)) := do
  isOpSupported node
  processAttributesAndOutputs node

noncomputable section

def maxOf : List ℝ → ℝ
  | [] => 0
  | x :: xs => xs.foldl max x

def minOf : List ℝ → ℝ
  | [] => 0
  | x :: xs => xs.foldl min x

def QnnReduce.value : QnnReduce → List ℝ → ℝ
  | .max, xs => maxOf xs
  | .min, xs => minOf xs
  | .mean, xs => xs.sum / xs.length
  | .prod, xs => xs.prod
  | .sum, xs => xs.sum

def registered : List Nat → List Nat
  | [] => [1]
  | shape => shape

def maskOf (axes : List Nat) (rank : Nat) : List Bool := (List.range rank).map fun a => decide (a ∈ axes)

def elementwise (f : ℝ → ℝ → ℝ) (shape : List Nat) (a b : Tensor ℝ) : Tensor ℝ where
  shape := shape
  get idx := f (a.get (broadcastIndex a.shape idx)) (b.get (broadcastIndex b.shape idx))

def pointwise (f : ℝ → ℝ) (t : Tensor ℝ) : Tensor ℝ := ⟨t.shape,fun idx => f (t.get idx)⟩

def asRegistered (t : Tensor ℝ) : Tensor ℝ := t.reshape (registered t.shape)

def QnnKind.apply : QnnKind → List (Tensor ℝ) → Tensor ℝ
  | .reduce op axes keepDims, [t] =>
    asRegistered (Tensors.reduce op.value (maskOf axes t.shape.length) t keepDims)
  | .multiply shape, [a,b] => elementwise (· * ·) shape a b
  | .squareRoot, [t] => pointwise Real.sqrt t
  | .subtract shape, [a,b] => elementwise (· - ·) shape a b
  | .exp, [t] => pointwise Real.exp t
  | .log, [t] => pointwise Real.log t
  | .add shape, [a,b] => elementwise (· + ·) shape a b
  | .reshape shape, [t] => t.reshape shape
  | .dequantize, [t] => t
  | .quantize, [t] => t
  | _, _ => ⟨[],fun _ => 0⟩

def emitted (steps : List (Step QnnKind Wire)) (x : Tensor ℝ) : Tensor ℝ :=
  runSteps QnnKind.apply steps (fun _ => x) .output

def onnxValue : ReduceOpType → List ℝ → ℝ
  | .max, xs => maxOf xs
  | .min, xs => minOf xs
  | .mean, xs => xs.sum / xs.length
  | .prod, xs => xs.prod
  | .sum, xs => xs.sum
  | .l2, xs => Real.sqrt (xs.map fun x => x ^ 2).sum
  | .logSumExp, xs => Real.log (xs.map Real.exp).sum

end

def axesInputSince : ReduceOpType → Nat
  | .sum => 13
  | _ => 18

def onnxGivenAxes (node : ReduceNode) : List Int :=
  if axesInputSince node.opType ≤ node.opset then
    (node.axesInput.bind AxesInput.constant).getD []
  else node.axesAttribute.getD []

def onnxAxes (node : ReduceNode) : List Nat :=
  match onnxGivenAxes node with
  | [] => if axesInputSince node.opType ≤ node.opset ∧ node.noop then [] else List.range node.rank
  | axes => axes.map fun axis : Int => (if axis < 0 then axis + node.rank else axis).toNat

def onnxShape (node : ReduceNode) : List Nat :=
  let mask := maskOf (onnxAxes node) node.rank
  if node.keepDims then keptShape mask node.inputShape else droppedShape mask node.inputShape

structure WellFormed (node : ReduceNode) : Prop where
  ranked : node.inputShape ≠ []
  axes_range : ∀ axis ∈ onnxGivenAxes node, -(node.rank : Int) ≤ axis ∧ axis < node.rank
  output : node.outputShape = registered (onnxShape node)

noncomputable def onnxReduce (node : ReduceNode) (x : Tensor ℝ) : Tensor ℝ :=
  reduce (onnxValue node.opType) (maskOf (onnxAxes node) x.shape.length) x node.keepDims

def QnnKind.axes? : QnnKind → Option (List Nat)
  | .reduce _ axes _ => some axes
  | _ => none

def ReducesOver (steps : List (Step QnnKind Wire)) (axes : List Nat) : Prop :=
  ∀ step ∈ steps, ∀ given ∈ step.kind.axes?, ∀ a, a ∈ given ↔ a ∈ axes

structure Computes (node : ReduceNode) (steps : List (Step QnnKind Wire)) : Prop where
  axes : ReducesOver steps (onnxAxes node)
  value : ∀ x : Tensor ℝ, x.shape = node.inputShape →
    (emitted steps x).Same (asRegistered (onnxReduce node x))

def IgnoresNoop (node : ReduceNode) : Prop :=
  axesInputSince node.opType ≤ node.opset ∧ node.axesInput.isNone ∧ node.noop

theorem axesInputSince_eq (op : ReduceOpType) : opsetWithAxesAsInput op = axesInputSince op := by
  cases op <;> rfl

theorem axesOfInput_ok {input : AxesInput} {axes : List Int} (h : axesOfInput node input = .ok axes) :
    axes = input.constant.getD [] ∧ ¬(axes = [] ∧ node.noop) := by
  have hsized := input.sized
  unfold axesOfInput at h
  split at h
  · cases h
  · next size hshape =>
    split at h
    · cases h
    · next hnoop =>
      split at h
      · next hsize =>
        cases h
        refine ⟨?_,fun hempty => hnoop ⟨hsize,hempty.2⟩⟩
        cases hconst : input.constant with
        | none => rfl
        | some values =>
          rw [hshape,hsize] at hsized
          have hlen := hsized values (by rw [hconst]; rfl)
          simp only [Option.some.injEq,List.cons.injEq,and_true] at hlen
          exact (length_eq_zero_iff.mp hlen.symm).symm
      · next hsize =>
        split at h
        · cases h
        · next values hconst =>
          split at h
          · cases h
            refine ⟨by rw [hconst]; rfl,?_⟩
            rintro ⟨rfl,-⟩
            have hlen := hsized [] (by rw [hconst]; rfl)
            rw [hshape] at hlen
            simp only [Option.some.injEq,List.cons.injEq,and_true] at hlen
            exact hsize hlen
          · cases h
  · cases h

theorem reduceAxes_ok {axes : List Int} (h : reduceAxes node = .ok axes) :
    axes = onnxGivenAxes node ∧
      (axes = [] → axesInputSince node.opType ≤ node.opset → node.noop → IgnoresNoop node) := by
  unfold reduceAxes at h
  rw [axesInputSince_eq] at h
  split at h
  · next hold =>
    cases h
    refine ⟨?_,fun _ hnew => absurd hold (Nat.not_lt.mpr hnew)⟩
    rw [onnxGivenAxes,if_neg (Nat.not_le.mpr hold)]
  · next hnew =>
    rw [onnxGivenAxes,if_pos (Nat.not_lt.mp hnew)]
    split at h
    · next input hinput =>
      obtain ⟨haxes,hnoop⟩ := axesOfInput_ok h
      refine ⟨?_,fun hempty _ hnode => absurd ⟨hempty,hnode⟩ hnoop⟩
      rw [haxes,hinput]
      rfl
    · next hinput =>
      cases h
      refine ⟨by rw [hinput]; rfl,fun _ hopset hnode => ⟨hopset,?_,hnode⟩⟩
      rw [hinput]
      rfl

theorem mem_insertSorted {axis a : Int} {set : List Int} :
    a ∈ insertSorted axis set ↔ a = axis ∨ a ∈ set := by
  induction set with
  | nil => simp [insertSorted]
  | cons first rest ih =>
    unfold insertSorted
    split
    · simp
    · split
      · next heq => simp [heq]
      · simp only [mem_cons,ih]
        tauto

theorem mem_sortedSet {a : Int} {axes : List Int} : a ∈ sortedSet axes ↔ a ∈ axes := by
  have key : ∀ set : List Int,
      a ∈ axes.foldl (fun set axis => insertSorted axis set) set ↔ a ∈ axes ∨ a ∈ set := by
    induction axes with
    | nil => simp
    | cons axis axes ih =>
      intro set
      rw [foldl_cons,ih,mem_insertSorted,mem_cons]
      tauto
  rw [sortedSet,key]
  simp

theorem axesData_ok {axes : List Nat} (h : axesData axesSet = .ok axes) (a : Nat) :
    a ∈ axes ↔ (a : Int) ∈ axesSet := by
  induction axesSet generalizing axes with
  | nil =>
    cases h
    simp
  | cons item items ih =>
    rw [axesData,mapM_cons] at h
    obtain ⟨n,hn,h⟩ := bind_ok h
    obtain ⟨rest,hrest,h⟩ := bind_ok h
    cases h
    cases hsafe : safeUint32 item with
    | error e =>
      rw [hsafe] at hn
      cases hn
    | ok u =>
      rw [hsafe] at hn
      obtain rfl : u.toNat = n := Except.ok.inj hn
      simp only [mem_cons,ih hrest,← safeUint32_ok hsafe,Nat.cast_inj]

theorem mem_axesSetOf (hwf : WellFormed node) (a : Nat) :
    (a : Int) ∈ axesSetOf node.rank (onnxGivenAxes node) ↔
      if onnxGivenAxes node = [] then a < node.rank
      else a ∈ (onnxGivenAxes node).map fun axis : Int =>
        (if axis < 0 then axis + node.rank else axis).toNat := by
  simp only [axesSetOf,length_eq_zero_iff]
  split
  · simp [mem_sortedSet]
  · simp only [mem_sortedSet,mem_map,positiveAxis]
    refine exists_congr fun axis => and_congr_right fun hmem => ?_
    have hrange := hwf.axes_range axis hmem
    split <;> omega

theorem getAxesSet_ok {axes : List Nat} (hset : getAxesSet node = .ok axesSet)
    (hdata : axesData axesSet = .ok axes) (hwf : WellFormed node) (a : Nat) :
    a ∈ axes ↔ a ∈ if onnxGivenAxes node = [] then List.range node.rank else onnxAxes node := by
  obtain ⟨given,hgiven,hset⟩ := bind_ok hset
  rw [returnIf_bind_ok] at hset
  obtain ⟨-,hset⟩ := hset
  cases hset
  obtain ⟨rfl,-⟩ := reduceAxes_ok hgiven
  rw [axesData_ok hdata,mem_axesSetOf hwf]
  split
  · rw [mem_range]
  · next hne =>
    unfold onnxAxes
    split
    · next heq => exact absurd heq hne
    · rfl

def stepsFor (node : ReduceNode) (axes : List Nat) : List (Step QnnKind Wire) :=
  match node.opType with
  | .l2 => l2Steps node.isQuantizedInput node.inputShape axes node.keepDims
  | .logSumExp => logSumExpSteps node.inputShape axes node.keepDims node.outputShape
  | opType => [⟨.reduce (getQnnOpType opType) axes node.keepDims,[.input],.output⟩]

theorem addToModelBuilder_ok {steps : List (Step QnnKind Wire)} (h : addToModelBuilder node = .ok steps) :
    ∃ axesSet axes, getAxesSet node = .ok axesSet ∧ axesData axesSet = .ok axes ∧
      steps = stepsFor node axes := by
  obtain ⟨_,-,h⟩ := bind_ok h
  obtain ⟨axesSet,hset,h⟩ := bind_ok h
  obtain ⟨axes,hdata,h⟩ := bind_ok h
  refine ⟨axesSet,axes,hset,hdata,?_⟩
  split at h
  · next hop =>
    obtain ⟨_,-,h⟩ := bind_ok h
    cases h
    rw [stepsFor,hop]
  · next hop =>
    obtain ⟨_,-,h⟩ := bind_ok h
    rw [returnIf_bind_ok] at h
    cases h.2
    rw [stepsFor,hop]
  · next opType hl2 hlse =>
    cases h
    unfold stepsFor
    cases hop : node.opType <;> first | rfl | exact absurd hop hl2 | exact absurd hop hlse

theorem reducesOver_stepsFor {axes target : List Nat} :
    ReducesOver (stepsFor node axes) target ↔ ∀ a, a ∈ axes ↔ a ∈ target := by
  have hstep : (∃ step ∈ stepsFor node axes, step.kind.axes? = some axes) ∧
      ∀ step ∈ stepsFor node axes, ∀ given ∈ step.kind.axes?, given = axes := by
    unfold stepsFor
    cases node.opType with
    | l2 => cases node.isQuantizedInput <;> simp [l2Steps,QnnKind.axes?]
    | logSumExp => cases node.keepDims <;> simp [logSumExpSteps,QnnKind.axes?]
    | _ => simp [QnnKind.axes?]
  obtain ⟨⟨step,hmem,haxes⟩,hall⟩ := hstep
  constructor
  · intro h
    exact h step hmem axes haxes
  · intro h step hmem given hgiven
    rw [hall step hmem given hgiven]
    exact h

theorem maskOf_congr {axes axes' : List Nat} (h : ∀ a, a ∈ axes ↔ a ∈ axes') (rank : Nat) :
    maskOf axes rank = maskOf axes' rank := by
  simp only [maskOf,h]

theorem length_maskOf (axes : List Nat) (rank : Nat) : (maskOf axes rank).length = rank := by
  simp [maskOf]

theorem prod_registered (shape : List Nat) : (registered shape).prod = shape.prod := by
  cases shape <;> rfl

theorem asRegistered_congr {s : Tensor ℝ} (h : s.Same t) : (asRegistered s).Same (asRegistered t) := by
  unfold asRegistered
  rw [h.1]
  exact h.reshape (prod_registered _)

theorem asRegistered_same (h : t.shape ≠ []) : (asRegistered t).Same t := by
  have hshape : registered t.shape = t.shape := by
    cases hs : t.shape with
    | nil => exact absurd hs h
    | cons d ds => rfl
  rw [asRegistered,hshape]
  exact reshape_self t

theorem elementwise_self (f : ℝ → ℝ → ℝ) (x : Tensor ℝ) :
    (elementwise f x.shape x x).Same (pointwise (fun v => f v v) x) := by
  refine ⟨rfl,fun idx hidx => ?_⟩
  have hself : broadcastIndex x.shape idx = idx := broadcastIndex_inBounds hidx
  change f (x.get (broadcastIndex x.shape idx)) (x.get (broadcastIndex x.shape idx)) = _
  rw [hself]
  rfl

theorem pointwise_congr (f : ℝ → ℝ) {s : Tensor ℝ} (h : s.Same t) : (pointwise f s).Same (pointwise f t) :=
  ⟨h.1,fun idx hidx => congrArg f (h.2 idx hidx)⟩

theorem l2_same (hmask : mask.length = x.shape.length) (keepDims : Bool) :
    (pointwise Real.sqrt (asRegistered
      (Tensors.reduce QnnReduce.sum.value mask (elementwise (· * ·) x.shape x x) keepDims))).Same
      (asRegistered (Tensors.reduce (onnxValue .l2) mask x keepDims)) := by
  have hsquare := (elementwise_self (· * ·) x).reduce QnnReduce.sum.value hmask keepDims
  have hroot := asRegistered_congr (pointwise_congr Real.sqrt hsquare)
  have hvalue : pointwise Real.sqrt (Tensors.reduce QnnReduce.sum.value mask
      (pointwise (fun v => v * v) x) keepDims) = Tensors.reduce (onnxValue .l2) mask x keepDims := by
    cases keepDims <;>
      simp [Tensors.reduce,pointwise,reduceKept,reduceDropped,QnnReduce.value,onnxValue,sq,Function.comp_def]
  rw [← hvalue]
  exact hroot

theorem logSumExp_shift (xs : List ℝ) :
    Real.log (xs.map fun x => Real.exp (x - maxOf xs)).sum + maxOf xs =
      Real.log (xs.map Real.exp).sum := by
  cases xs with
  | nil => simp [maxOf]
  | cons x xs =>
    set m := maxOf (x :: xs)
    have hpos : 0 < ((x :: xs).map fun x => Real.exp (x - m)).sum :=
      sum_pos _ (by simp [Real.exp_pos]) (by simp)
    have hscale : ((x :: xs).map Real.exp).sum =
        ((x :: xs).map fun x => Real.exp (x - m)).sum * Real.exp m := by
      rw [← sum_map_mul_right]
      congr 1
      refine map_congr_left fun y _ => ?_
      rw [← Real.exp_add]
      ring_nf
    rw [hscale,Real.log_mul hpos.ne' (Real.exp_pos m).ne',Real.log_exp]

theorem keptDims_eq (inputShape axes : List Nat) :
    keptDims inputShape axes = keptShape (maskOf axes inputShape.length) inputShape := by
  have hget : ∀ (axes shape : List Nat) (i : Nat), (axes.foldl (fun s a => s.set a 1) shape)[i]? =
      if i ∈ axes ∧ i < shape.length then some 1 else shape[i]? := by
    intro axes
    induction axes with
    | nil => simp
    | cons axis axes ih =>
      intro shape i
      rw [foldl_cons,ih]
      grind
  apply ext_getElem?
  intro i
  rw [keptDims,hget,keptShape,List.getElem?_zipWith]
  by_cases hi : i < inputShape.length
  · by_cases hmem : i ∈ axes <;> simp [maskOf,hi,hmem]
  · simp [maskOf,hi]

theorem logSumExp_same {m : Tensor ℝ} (hmask : mask.length = x.shape.length)
    (hm : m.Same (reduceKept maxOf mask x)) {sum : Tensor ℝ}
    (hsum : sum.Same (reduceKept QnnReduce.sum.value mask
      (pointwise Real.exp (elementwise (· - ·) x.shape x m)))) :
    (elementwise (· + ·) (keptShape mask x.shape) (pointwise Real.log sum) m).Same
      (reduceKept (onnxValue .logSumExp) mask x) := by
  refine ⟨rfl,fun idx hidx => ?_⟩
  have hidx : InBounds (keptShape mask x.shape) idx := hidx
  have hmidx : m.get (broadcastIndex m.shape idx) = maxOf ((lane x.shape mask idx).map x.get) := by
    rw [hm.1,show (reduceKept maxOf mask x).shape = keptShape mask x.shape from rfl,
      broadcastIndex_inBounds hidx,hm.2 idx hidx]
    rfl
  have hshift : ∀ i ∈ lane x.shape mask idx,
      x.get (broadcastIndex x.shape i) - m.get (broadcastIndex m.shape i) =
        x.get i - maxOf ((lane x.shape mask idx).map x.get) := by
    intro i hi
    obtain ⟨hin,hback⟩ := mem_lane hmask hidx hi
    rw [broadcastIndex_inBounds hin,hm.1,
      show (reduceKept maxOf mask x).shape = keptShape mask x.shape from rfl,hback,hm.2 idx hidx]
    rfl
  have hsumidx : sum.get (broadcastIndex sum.shape idx) =
      (((lane x.shape mask idx).map x.get).map fun v =>
        Real.exp (v - maxOf ((lane x.shape mask idx).map x.get))).sum := by
    rw [hsum.1]
    change sum.get (broadcastIndex (keptShape mask x.shape) idx) = _
    rw [broadcastIndex_inBounds hidx,hsum.2 idx hidx,map_map]
    change ((lane x.shape mask idx).map fun i => Real.exp (x.get (broadcastIndex x.shape i) -
      m.get (broadcastIndex m.shape i))).sum = _
    congr 1
    refine map_congr_left fun i hi => ?_
    rw [hshift i hi]
    rfl
  change Real.log (sum.get (broadcastIndex sum.shape idx)) + m.get (broadcastIndex m.shape idx) = _
  rw [hsumidx,hmidx,logSumExp_shift]
  rfl

theorem keptShape_ne_nil {shape : List Nat} (hmask : mask.length = shape.length) (h : shape ≠ []) :
    keptShape mask shape ≠ [] := by
  intro hnil
  have hlen := congrArg List.length hnil
  rw [keptShape,length_zipWith,hmask,Nat.min_self] at hlen
  exact h (length_eq_zero_iff.mp hlen)

theorem emitted_logSumExp (hx : x.shape ≠ []) (axes : List Nat) (keepDims : Bool) {outputShape : List Nat}
    (hout : keepDims = false → outputShape = registered (droppedShape (maskOf axes x.shape.length) x.shape)) :
    (emitted (logSumExpSteps x.shape axes keepDims outputShape) x).Same
      (asRegistered (Tensors.reduce (onnxValue .logSumExp) (maskOf axes x.shape.length) x keepDims)) := by
  have hmask := length_maskOf axes x.shape.length
  have hkept := keptShape_ne_nil hmask hx
  have hmax : (asRegistered (reduceKept maxOf (maskOf axes x.shape.length) x)).Same
      (reduceKept maxOf (maskOf axes x.shape.length) x) := asRegistered_same hkept
  generalize hm : asRegistered (reduceKept maxOf (maskOf axes x.shape.length) x) = m at hmax
  have hadd := logSumExp_same hmask hmax (asRegistered_same hkept)
  rw [← keptDims_eq] at hadd
  cases keepDims with
  | true =>
    have hrun : emitted (logSumExpSteps x.shape axes true outputShape) x =
        elementwise (· + ·) (keptDims x.shape axes)
          (pointwise Real.log (asRegistered (reduceKept QnnReduce.sum.value (maskOf axes x.shape.length)
            (pointwise Real.exp (elementwise (· - ·) x.shape x m))))) m := by
      rw [← hm]
      rfl
    rw [hrun]
    exact hadd.trans (asRegistered_same hkept).symm
  | false =>
    have hrun : emitted (logSumExpSteps x.shape axes false outputShape) x =
        (elementwise (· + ·) (keptDims x.shape axes)
          (pointwise Real.log (asRegistered (reduceKept QnnReduce.sum.value (maskOf axes x.shape.length)
            (pointwise Real.exp (elementwise (· - ·) x.shape x m))))) m).reshape outputShape := by
      rw [← hm]
      rfl
    have hdropped := reduceKept_reshape_dropped (onnxValue .logSumExp) (maskOf axes x.shape.length) x hmask
    have hprod := prod_keptShape hmask
    rw [hrun,hout rfl]
    refine (hadd.reshape ((prod_registered _).trans hprod.symm)).trans ?_
    refine (reshape_reshape hprod.symm _ (prod_registered _)).symm.trans ?_
    exact asRegistered_congr hdropped

theorem emitted_same (hwf : WellFormed node) {axes : List Nat} (haxes : ∀ a, a ∈ axes ↔ a ∈ onnxAxes node)
    (hx : x.shape = node.inputShape) :
    (emitted (stepsFor node axes) x).Same (asRegistered (onnxReduce node x)) := by
  have hmask := maskOf_congr haxes x.shape.length
  have hlen := length_maskOf axes x.shape.length
  rw [onnxReduce,← hmask]
  unfold stepsFor
  rw [← hx]
  cases hop : node.opType with
  | l2 =>
    cases node.isQuantizedInput with
    | true | false => exact l2_same hlen node.keepDims
  | logSumExp =>
    refine emitted_logSumExp (hx ▸ hwf.ranked) axes node.keepDims fun hkeep => ?_
    rw [hwf.output,onnxShape,hkeep,ReduceNode.rank,← hx,hmask]
    rfl
  | _ => exact ⟨rfl,fun _ _ => rfl⟩

theorem reduce_computes_iff {node : ReduceNode} (hwf : WellFormed node)
    {steps : List (Step QnnKind Wire)} (h : addToModelBuilder node = .ok steps) :
    Computes node steps ↔ ¬IgnoresNoop node := by
  obtain ⟨axesSet,axes,hset,hdata,rfl⟩ := addToModelBuilder_ok h
  have hmem := getAxesSet_ok hset hdata hwf
  obtain ⟨given,hgiven,-⟩ := bind_ok hset
  obtain ⟨rfl,hnoop⟩ := reduceAxes_ok hgiven
  constructor
  · rintro ⟨haxes,-⟩ ⟨hopset,habsent,hnode⟩
    rw [reducesOver_stepsFor] at haxes
    have hempty : onnxGivenAxes node = [] := by
      rw [onnxGivenAxes,if_pos hopset,Option.isNone_iff_eq_none.mp habsent]
      rfl
    have hzero := (haxes 0).mp ((hmem 0).mpr (by
      rw [if_pos hempty,mem_range]
      exact length_pos_iff.mpr hwf.ranked))
    simp [onnxAxes,hempty,hopset,hnode] at hzero
  · intro hkept
    have haxes : ∀ a, a ∈ axes ↔ a ∈ onnxAxes node := by
      intro a
      rw [hmem a]
      split
      · next hempty =>
        have hreduce : ¬(axesInputSince node.opType ≤ node.opset ∧ node.noop) :=
          fun hboth => hkept (hnoop hempty hboth.1 hboth.2)
        simp only [onnxAxes,hempty,hreduce,if_false]
      · rfl
    exact ⟨reducesOver_stepsFor.mpr haxes,fun x hx => emitted_same hwf haxes hx⟩

def sumNode (axesInput : Option AxesInput) (keepdims noop : Int) (inputShape outputShape : List Nat) :
    ReduceNode where
  opType := .sum
  opset := 13
  backend := .htp
  inputShape := inputShape
  outputShape := outputShape
  inputType := .float
  outputType := .float
  inputPerChannel := none
  outputPerChannel := none
  axesAttribute := none
  axesInput := axesInput
  keepdims := some keepdims
  noopWithEmptyAxes := some noop

def lastAxis : AxesInput where
  shape := some [1]
  constant := some [-1]
  sized := by simp

theorem reduce_computes_lastAxis :
    Computes (sumNode (some lastAxis) 0 1 [2,3] [2])
      [⟨.reduce .sum [1] false,[.input],.output⟩] :=
  (reduce_computes_iff ⟨by decide,by decide,by decide⟩ (by rfl)).mpr (by simp [IgnoresNoop,sumNode])

theorem noop_without_axes_reduces :
    addToModelBuilder (sumNode none 1 1 [2] [2]) = .ok [⟨.reduce .sum [0] true,[.input],.output⟩] ∧
      WellFormed (sumNode none 1 1 [2] [2]) ∧ onnxAxes (sumNode none 1 1 [2] [2]) = [] ∧
      (emitted [⟨.reduce .sum [0] true,[.input],.output⟩] ⟨[2],fun _ => 1⟩).get [0] = 2 ∧
      (onnxReduce (sumNode none 1 1 [2] [2]) ⟨[2],fun _ => 1⟩).get [0] = 1 := by
  refine ⟨rfl,⟨by decide,by decide,by decide⟩,by decide,?_,?_⟩
  · norm_num [emitted,runSteps,Step.exec,QnnKind.apply,asRegistered,Tensors.reduce,reduceKept,Tensor.reshape,
      maskOf,keptShape,lane,QnnReduce.value,registered,ravel,unravel,range_succ]
  · norm_num [onnxReduce,Tensors.reduce,reduceKept,sumNode,ReduceNode.keepDims,onnxAxes,onnxGivenAxes,
      axesInputSince,ReduceNode.noop,maskOf,lane,onnxValue,range_succ]

end QnnEp.Reduce
