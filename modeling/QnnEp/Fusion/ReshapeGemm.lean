import QnnEp.Fusion.DroppedEncodings
import QnnEp.Fusion.ReshapeEinsumReshape

namespace QnnEp.ReshapeGemm
open NodeGroup Ort Reading Shapes Tensors
open ReshapeEinsumReshape (ReshapeHolds)
open TransposeReshapeTranspose (int64)

structure GemmGraph where
  env : FusionEnv
  useNativeMatmul : Bool
  isGpuBackend : Bool
  transA : NodeId → Int
  transB : NodeId → Int
  alpha : NodeId → ℚ
  beta : NodeId → ℚ
  isConstantInput : ValueId → Bool
  isQuantized : ValueId → Bool
  dims : ValueId → Option (List Int)
  validates : List OrtNodeUnit → Bool

structure FusedFC where
  input : ValueId
  weight : ValueId
  bias : Option ValueId
  fcOutputShape : List Nat
  finalOutputShape : Option (List Nat)
  deriving DecidableEq, Repr

namespace GemmGraph
variable (g : GemmGraph)

def getWeightInputChannel (weight : ValueId) : Int :=
  match g.env.shape weight with
  | some [k,_] => k
  | _ => -1

def checkShape (reshape : NodeId) (weightInputChannel : Int) : Bool :=
  match (g.env.graph.inputs reshape).head?.join.bind g.dims,
    (g.env.graph.outputs reshape).head?.join.bind g.dims with
  | some inputDims, some [batch,n] =>
    inputDims.length ≤ 4 && n == weightInputChannel && inputDims.all (fun d => 0 < d) &&
      inputDims.foldl (fun total d => int64 (total * d)) 1 == int64 (batch * n)
  | _, _ => false

def inputReshapeIsShared (inputReshape : OrtNodeUnit) : Bool :=
  match (g.env.graph.outputs inputReshape.targetNode).head?.join with
  | some v => 1 < (g.env.graph.valueConsumers v).length
  | none => false

def getInputReshapeNodeUnit (gemm : OrtNodeUnit) : Option OrtNodeUnit :=
  g.env.getParentOfType gemm ["Reshape","Flatten"]

def isValidGemmForFusion (gemm : OrtNodeUnit) : Bool :=
  !g.isGpuBackend && isStandalone g.env "Gemm" gemm && g.transA gemm.targetNode == 0 &&
    g.transB gemm.targetNode == 0 && g.alpha gemm.targetNode == 1 && g.beta gemm.targetNode == 1 &&
    ((g.env.inputs gemm)[1]?).join.any fun weight => g.isConstantInput weight && !g.isQuantized weight

def getOutputReshapes (gemm : OrtNodeUnit) : Nat → Option (List OrtNodeUnit)
  | 0 => some []
  | 1 => do
    let reshape1 ← g.env.getChildNodeUnitAllowQdq gemm "Reshape"
    return [reshape1]
  | _ => do
    let reshape1 ← g.env.getChildNodeUnitAllowQdq gemm "Reshape"
    require (!(output0 g.env reshape1).any g.env.isGraphOutput)
    let reshape2 ← g.env.getChildNodeUnitAllowQdq reshape1 "Reshape"
    return [reshape1,reshape2]

def createOrValidateFusedFCOnQnn : List OrtNodeUnit → Option FusedFC
  | inputReshape :: gemm :: outputReshapes => do
    let input ← (g.env.inputs inputReshape).head?.join
    let weight ← ((g.env.inputs gemm)[1]?).join
    let fcOutputShape ← (output0 g.env gemm).bind g.env.shape
    let fc : FusedFC := ⟨input,weight,((g.env.inputs gemm)[2]?).join,fcOutputShape,none⟩
    match outputReshapes.getLast? with
    | none => return fc
    | some outputReshape => do
      let finalOutputShape ← (output0 g.env outputReshape).bind g.env.shape
      return { fc with finalOutputShape := some finalOutputShape }
  | _ => none

def tryFusion (outputReshapeCount : Nat) (gemm : OrtNodeUnit) : Option (List OrtNodeUnit × FusedFC) := do
  require (!g.useNativeMatmul)
  require (g.isValidGemmForFusion gemm)
  let inputReshape ← g.getInputReshapeNodeUnit gemm
  require (!g.inputReshapeIsShared inputReshape)
  let outputReshapes ← g.getOutputReshapes gemm outputReshapeCount
  let weight ← ((g.env.inputs gemm)[1]?).join
  require (0 < g.getWeightInputChannel weight)
  require (g.checkShape inputReshape.targetNode (g.getWeightInputChannel weight))
  let units := inputReshape :: gemm :: outputReshapes
  let fc ← g.createOrValidateFusedFCOnQnn units
  require (g.validates units)
  return (units,fc)

def tryFusion2 : OrtNodeUnit → Option (List OrtNodeUnit × FusedFC) := g.tryFusion 0

end GemmGraph

def biasAt (bias : Option (Tensor ℚ)) (idx : List Nat) : ℚ :=
  match bias with
  | some c => c.get (broadcastIndex c.shape idx)
  | none => 0

def gemmValue (a w : Tensor ℚ) (c : Option (Tensor ℚ)) : Tensor ℚ where
  shape := [a.shape.getD 0 0,w.shape.getD 1 0]
  get idx := ∑ k ∈ Finset.range (w.shape.getD 0 0), a.get [idx.getD 0 0,k] * w.get [k,idx.getD 1 0] +
    biasAt c idx

def fullyConnected (x w : Tensor ℚ) (bias : Option (Tensor ℚ)) : Tensor ℚ where
  shape := [x.shape.prod / w.shape.getD 1 0,w.shape.getD 0 0]
  get idx := ∑ k ∈ Finset.range (w.shape.getD 1 0),
    x.get (unravel x.shape (idx.getD 0 0 * w.shape.getD 1 0 + k)) * w.get [idx.getD 1 0,k] + biasAt bias idx

def FusedFC.operands (fc : FusedFC) : List ValueId := fc.input :: fc.weight :: fc.bias.toList

def FusedFC.run (fc : FusedFC) (values : ValueId → Tensor ℚ) (available : ValueId → Bool) :
    Option (Tensor ℚ) := do
  guard (∀ v ∈ fc.operands, available v = true)
  let weight := (values fc.weight).transpose [1,0]
  let t := fullyConnected (values fc.input) weight (fc.bias.map values)
  guard (0 < weight.shape.getD 1 0 ∧ weight.shape.getD 1 0 ∣ (values fc.input).shape.prod ∧
    t.shape = fc.fcOutputShape)
  match fc.finalOutputShape with
  | none => return t
  | some dims => do
    guard (dims.prod = t.shape.prod)
    return t.reshape dims

def availableTo (env : FusionEnv) (units : List OrtNodeUnit) (v : ValueId) : Bool :=
  units.all fun u => !(env.outputs u).contains (some v)

def ReshapesHold (env : FusionEnv) (values : ValueId → Tensor ℚ) : ValueId → List OrtNodeUnit → ValueId → Prop
  | v, [], final => final = v
  | v, reshape :: reshapes, final => ∃ next, output0 env reshape = some next ∧ ReshapeHolds values v next ∧
    ReshapesHold env values next reshapes final

def qnnValue (t : Tensor ℚ) : Tensor ℚ := t.reshape (qnnShape t.shape)

structure GemmHolds (g : GemmGraph) (values : ValueId → Tensor ℚ) (inputReshape gemm : OrtNodeUnit)
    (outputReshapes : List OrtNodeUnit) (a w : ValueId) (c : Option ValueId) (final : ValueId) : Prop where
  shapes : ∀ v dims, g.env.shape v = some dims → dims = qnnShape (values v).shape
  declared : ∀ v dims, g.dims v = some dims → dims = ints (values v).shape
  gemmInputs : g.env.inputs gemm = some a :: some w :: c.toList.map some
  gemmTyped : ∃ m k n, (values a).shape = [m,k] ∧ (values w).shape = [k,n]
  gemmOutput : ∃ out, output0 g.env gemm = some out ∧
    values out = gemmValue (values a) (values w) (c.map values) ∧
    ReshapesHold g.env values out outputReshapes final
  reshape : ∃ x r, (g.env.inputs inputReshape).head?.join = some x ∧
    g.env.outputs inputReshape = [some r] ∧ ReshapeHolds values x r
  forward : ∀ v, some v ∈ g.env.outputs inputReshape → some v ∉ g.env.inputs inputReshape
  noFeedback : ∀ u ∈ gemm :: outputReshapes, ∀ v, some v ∈ g.env.outputs u →
    some v ∉ g.env.inputs inputReshape ∧ some v ∉ g.env.inputs gemm

end QnnEp.ReshapeGemm
