import QnnEp.Fusion.SpaceToDepth
import QnnEp.NodeGroup.Collect
import QnnEp.Qdq.OutputDefs
import QnnEp.Qdq.PassThrough

namespace QnnEp.NodeGroup.FusionEnv
open Ort

variable (env : FusionEnv)

def soleOutput (n : NodeId) : Option ValueId :=
  match env.graph.outputs n with
  | [some v] => some v
  | _ => none

def inQdqGroup (n : NodeId) : Bool := (env.nodeUnitMap n).any fun u => u.unitType == .QDQGroup

def skipQdq : Nat → NodeId → Option NodeId
  | 0, _ => none
  | fuel + 1, child =>
    if !env.isQuantizer child then some child
    else if !env.inQdqGroup child then none
    else ((env.soleOutput child).bind env.onlyConsumer).bind (skipQdq fuel)

def searchNode (u : OrtNodeUnit) : NodeId :=
  match u.unitType with
  | .SingleNode => u.targetNode
  | .QDQGroup => u.qNodes.headD u.targetNode

def getChildNodeUnitAllowQdq (parent : OrtNodeUnit) (childOpType : String) : Option OrtNodeUnit := do
  let v ← env.soleOutput (searchNode parent)
  if env.isGraphOutput v then none
  else
    let potentialChild ← env.onlyConsumer v
    let child ← env.skipQdq (env.graph.nodes.length + 1) potentialChild
    if env.opType child == childOpType then (env.nodeUnitMap child).filter env.unclaimed else none

end QnnEp.NodeGroup.FusionEnv

namespace QnnEp.DroppedEncodings
open NodeGroup Ort Qdq Rounding
open SpaceToDepth (SpaceToDepthChain)
open TransposeReshapeTranspose (TransposeChain)

structure MoveGraph where
  graph : QdqGraph Binary32
  claimed : ClaimMap
  perm : NodeId → Option (List Int)
  isCpuBackend : Bool
  isPostLayoutTransform : Bool
  tensorStatus : List OrtNodeUnit → Except String Unit

namespace MoveGraph
variable (m : MoveGraph)

def env : FusionEnv where
  graph := m.graph.toOrtGraph
  opType := m.graph.operatorType
  isGraphOutput v := (m.graph.value v).isGraphOutput
  shape v := (m.graph.value v).shape.map fun dims => dims.map Int.toNat
  nodeUnitMap := m.graph.getAllOrtNodeUnits.2
  claimed := m.claimed

def inputShape (u : OrtNodeUnit) : Option (List Int) := (m.graph.unitInputs u).head?.bind (·.shape)

def outputShape (u : OrtNodeUnit) : Option (List Int) := (m.graph.unitOutputs u).head?.bind (·.shape)

def transposeChain (transpose1 reshape transpose2 : OrtNodeUnit) : TransposeChain where
  inputShape := m.inputShape transpose1
  intermediateShape := m.outputShape transpose1
  reshapeShape := m.outputShape reshape
  outputShape := m.outputShape transpose2
  perm1 := m.perm transpose1.targetNode
  perm2 := m.perm transpose2.targetNode

def fuseTransposeReshapeTranspose (transpose1 : OrtNodeUnit) : Option (List OrtNodeUnit) := do
  guard (m.env.unitOpType transpose1 = "Transpose")
  let reshape ← m.env.getChildNodeUnitAllowQdq transpose1 "Reshape"
  let transpose2 ← m.env.getChildNodeUnitAllowQdq reshape "Transpose"
  let units := [transpose1,reshape,transpose2]
  let fused ← (TransposeReshapeTranspose.tryFusion
    (m.transposeChain transpose1 reshape transpose2)).toOption
  guard (fused.isSome = true)
  (m.tensorStatus units).toOption
  return units

def headOf (reshape1 : OrtNodeUnit) : Option OrtNodeUnit :=
  ((m.env.inputs reshape1).head?.join.bind (m.env.getParentOfInput reshape1)).filter fun head =>
    m.env.unitOpType head == "Transpose" &&
      m.env.getChildNodeUnitAllowQdq head "Reshape" == some reshape1

def spaceToDepthChain (reshape1 transpose reshape2 : OrtNodeUnit)
    (head tail : Option OrtNodeUnit) : SpaceToDepthChain where
  startIsGraphOutput := (m.graph.outputs reshape1.targetNode).head?.join.any m.env.isGraphOutput
  inputShape := m.inputShape reshape1
  intermediateShape := m.outputShape reshape1
  perm := m.perm transpose.targetNode
  outputShape := m.outputShape reshape2
  transposeHead := head.map fun u => m.perm u.targetNode
  transposeTail := tail.map fun u => m.perm u.targetNode
  isCpuBackend := m.isCpuBackend
  isPostLayoutTransform := m.isPostLayoutTransform
  tensorStatus := m.tensorStatus (head.toList ++ [reshape1,transpose,reshape2] ++ tail.toList)

def fuseSpaceToDepth (reshape1 : OrtNodeUnit) : Option (List OrtNodeUnit) := do
  guard (m.env.unitOpType reshape1 = "Reshape")
  let transpose ← m.env.getChildNodeUnitAllowQdq reshape1 "Transpose"
  let reshape2 ← m.env.getChildNodeUnitAllowQdq transpose "Reshape"
  let head := m.headOf reshape1
  let tail := m.env.getChildNodeUnitAllowQdq reshape2 "Transpose"
  let fused ← SpaceToDepth.tryFusion (m.spaceToDepthChain reshape1 transpose reshape2 head tail)
  return (head.filter fun _ => fused.1.hasHeadTranspose).toList ++ [reshape1,transpose,reshape2] ++
    (tail.filter fun _ => fused.1.hasTailTranspose).toList

inductive Accepts : List OrtNodeUnit → Prop where
  | transposeReshapeTranspose {start : OrtNodeUnit} {units : List OrtNodeUnit}
      (hstart : start ∈ m.graph.getAllOrtNodeUnits.1)
      (h : m.fuseTransposeReshapeTranspose start = some units) : Accepts units
  | spaceToDepth {start : OrtNodeUnit} {units : List OrtNodeUnit}
      (hstart : start ∈ m.graph.getAllOrtNodeUnits.1) (h : m.fuseSpaceToDepth start = some units) :
      Accepts units

end MoveGraph

section
variable (g : QdqGraph Binary32)

def SameLayout (run : g.NamedRuntime) (a b : NodeId) : Prop :=
  g.scaleSize run a ≠ 1 → g.axisOf a = g.axisOf b ∧ g.blockSizeOf a = g.blockSizeOf b

structure SameParams (run : g.NamedRuntime) (a b : NodeId) : Prop where
  sizes : g.scaleSize run b = g.scaleSize run a
  layout : SameLayout g run a b
  scales : ∀ c < g.scaleSize run b, g.scaleAt run b c = g.scaleAt run a c
  zeroPoints : ∀ c < g.scaleSize run b, g.zeroPointAt run b c = g.zeroPointAt run a c

def quantizers (u : OrtNodeUnit) : List NodeId := u.dqNodes ++ u.qNodes.head?.toList

structure ChainTransparent (run : g.NamedRuntime) (units : List OrtNodeUnit) : Prop where
  encodings : ∀ a ∈ units.flatMap quantizers, ∀ b ∈ units.flatMap quantizers, g.SameEncoding run a b
  layouts : ∀ a ∈ units.flatMap quantizers, ∀ b ∈ units.flatMap quantizers, SameLayout g run a b

structure UnitEqual (run : g.NamedRuntime) (u : OrtNodeUnit) : Prop where
  unread : ∀ dq ∈ u.dqNodes, ∀ q ∈ u.qNodes.head?, g.UnreadEqual run u dq q
  layout : ∀ dq ∈ u.dqNodes, ∀ q ∈ u.qNodes.head?, SameLayout g run dq q

def EdgeEqual (run : g.NamedRuntime) (u v : OrtNodeUnit) : Prop :=
  ∀ q ∈ u.qNodes.head?, ∀ dq ∈ v.dqNodes, SameParams g run q dq

def isQdq (u : OrtNodeUnit) : Bool := u.unitType == .QDQGroup

structure ParamsShared (run : g.NamedRuntime) (units : List OrtNodeUnit) : Prop where
  within : ∀ u ∈ units, UnitEqual g run u
  between : (units.filter isQdq).IsChain (EdgeEqual g run)

end

end QnnEp.DroppedEncodings
