import QnnEp.Partition.Groups

namespace QnnEp.NodeGroup
open Ort

structure FusedNodeGroup where
  nodeUnits : List OrtNodeUnit
  targetNodeUnit : OrtNodeUnit
  deriving DecidableEq, Repr

inductive QnnNodeGroup where
  | fused (group : FusedNodeGroup)
  | nodeUnitWrapper (nodeUnit : OrtNodeUnit)
  deriving DecidableEq, Repr

def QnnNodeGroup.getNodeUnits : QnnNodeGroup → List OrtNodeUnit
  | .fused group => group.nodeUnits
  | .nodeUnitWrapper u => [u]

def QnnNodeGroup.getTargetNodeUnit : QnnNodeGroup → OrtNodeUnit
  | .fused group => group.targetNodeUnit
  | .nodeUnitWrapper u => u

abbrev GroupRef := Nat

abbrev ClaimMap := OrtNodeUnit → Option GroupRef

abbrev FusionFunc := ClaimMap → OrtNodeUnit → Option FusedNodeGroup

structure GroupingInput where
  graph : OrtGraph
  opType : NodeId → String
  nodeToNodeUnit : NodeId → Option OrtNodeUnit
  fusions : String → Option (List FusionFunc)
  affinity : String → Bool

structure CollectState where
  qnnNodeGroups : List QnnNodeGroup
  nodeUnitToQnnNodeGroup : ClaimMap
  fusedQnnNodeGroupIndices : GroupRef → Option Nat
  sortedNodeUnits : List OrtNodeUnit

def CollectState.initial : CollectState := ⟨[],fun _ => none,fun _ => none,[]⟩

section
variable (inp : GroupingInput)

def quantizedFusionStarts : List String := ["Gather","MatMul","Gemm","Erf","Tanh","Reshape","Concat"]

def tryQnnFusions (claimed : ClaimMap) (start : OrtNodeUnit) : Option FusedNodeGroup :=
  let op := inp.opType start.targetNode
  if start.unitType != .SingleNode && !quantizedFusionStarts.contains op then none
  else
    match inp.fusions op with
    | none => none
    | some funcs => funcs.findSome? fun func => func claimed start

def tryAffineFusions (claimed : ClaimMap) (start : OrtNodeUnit) : Option FusedNodeGroup :=
  (tryQnnFusions inp claimed start).filter fun group =>
    group.nodeUnits.all fun member => inp.affinity (inp.opType member.targetNode)

def insertClaim (ref : GroupRef) (claimed : ClaimMap) (u : OrtNodeUnit) : ClaimMap :=
  if (claimed u).isSome then claimed else Function.update claimed u (some ref)

def CollectState.addFused (s : CollectState) (group : FusedNodeGroup) : CollectState :=
  let index := s.qnnNodeGroups.length
  { s with
    fusedQnnNodeGroupIndices := Function.update s.fusedQnnNodeGroupIndices index (some index)
    nodeUnitToQnnNodeGroup := group.nodeUnits.foldl (insertClaim index) s.nodeUnitToQnnNodeGroup
    qnnNodeGroups := s.qnnNodeGroups ++ [.fused group] }

def visitNode (s : CollectState) (node : NodeId) : Except String CollectState :=
  match inp.nodeToNodeUnit node with
  | none => .error "Could not find NodeUnit for Node."
  | some u =>
    if node != u.targetNode then .ok s
    else
      let s := { s with sortedNodeUnits := s.sortedNodeUnits ++ [u] }
      if (s.nodeUnitToQnnNodeGroup u).isSome then .ok s
      else
        match tryAffineFusions inp s.nodeUnitToQnnNodeGroup u with
        | some group => .ok (s.addFused group)
        | none => .ok s

def visitUnit (p : CollectState × List Nat) (u : OrtNodeUnit) : CollectState × List Nat :=
  let (s,sorted) := p
  match s.nodeUnitToQnnNodeGroup u with
  | some ref =>
    if (s.qnnNodeGroups[ref]?.map QnnNodeGroup.getTargetNodeUnit) == some u then
      (s,sorted ++ [(s.fusedQnnNodeGroupIndices ref).getD 0])
    else (s,sorted)
  | none =>
    let index := s.qnnNodeGroups.length
    ({ s with
        nodeUnitToQnnNodeGroup := insertClaim index s.nodeUnitToQnnNodeGroup u
        qnnNodeGroups := s.qnnNodeGroups ++ [.nodeUnitWrapper u] },sorted ++ [index])

def getQnnNodeGroupsImpl : Except String (List QnnNodeGroup × List Nat) := do
  let s ← inp.graph.nodes.foldlM (visitNode inp) .initial
  let (s,sorted) := s.sortedNodeUnits.foldl visitUnit (s,[])
  pure (s.qnnNodeGroups,sorted)

def moveGroups : List (Option QnnNodeGroup) → List Nat → List (Option QnnNodeGroup)
  | _, [] => []
  | holder, index :: rest => holder[index]?.join :: moveGroups (holder.set index none) rest

def getQnnNodeGroups : Except String (List (Option QnnNodeGroup)) := do
  let (holder,sorted) ← getQnnNodeGroupsImpl inp
  pure (moveGroups (holder.map some) sorted)

end

structure FusionTableOk (inp : GroupingInput) (units : List OrtNodeUnit) : Prop where
  contains_start : ∀ op funcs, inp.fusions op = some funcs → ∀ func ∈ funcs, ∀ claimed u group,
    func claimed u = some group → u ∈ group.nodeUnits
  target_mem : ∀ op funcs, inp.fusions op = some funcs → ∀ func ∈ funcs, ∀ claimed u group,
    func claimed u = some group → group.targetNodeUnit ∈ group.nodeUnits
  unclaimed : ∀ op funcs, inp.fusions op = some funcs → ∀ func ∈ funcs, ∀ claimed u group,
    func claimed u = some group → ∀ w ∈ group.nodeUnits, w ∈ units ∧ claimed w = none

theorem tryAffineFusions_ok {inp : GroupingInput} {units : List OrtNodeUnit}
    (ht : FusionTableOk inp units) {claimed : ClaimMap} {u : OrtNodeUnit} {group : FusedNodeGroup}
    (h : tryAffineFusions inp claimed u = some group) :
    group.targetNodeUnit ∈ group.nodeUnits ∧
      ∀ w ∈ group.nodeUnits, w ∈ units ∧ claimed w = none := by
  have hq := (Option.filter_eq_some_iff.mp h).1
  unfold tryQnnFusions at hq
  dsimp only at hq
  split at hq
  · cases hq
  split at hq
  case h_1 => cases hq
  case h_2 funcs hf =>
    obtain ⟨func,hfunc,hg⟩ := List.exists_of_findSome?_eq_some hq
    exact ⟨ht.target_mem _ funcs hf func hfunc _ _ _ hg,ht.unclaimed _ funcs hf func hfunc _ _ _ hg⟩

theorem foldl_insertClaim {ref : GroupRef} {us : List OrtNodeUnit} {claimed : ClaimMap}
    (h : ∀ u ∈ us, claimed u = none) (w : OrtNodeUnit) :
    us.foldl (insertClaim ref) claimed w = if w ∈ us then some ref else claimed w := by
  have hgen (vs : List OrtNodeUnit) (m : ClaimMap)
      (hm : ∀ u ∈ vs, m u = none ∨ m u = some ref) :
      vs.foldl (insertClaim ref) m w = if w ∈ vs then some ref else m w := by
    induction vs generalizing m with
    | nil => simp
    | cons x xs ih =>
      rw [List.foldl_cons,ih]
      · unfold insertClaim
        by_cases hwx : w = x
        · subst hwx
          rcases hm w (List.mem_cons_self ..) with hn | hs
          · simp [hn]
          · simp [hs]
        · by_cases hs : (m x).isSome
          · simp [hs,hwx]
          · simp [hs,hwx]
      · intro u hu
        have hmu := hm u (List.mem_cons_of_mem _ hu)
        unfold insertClaim
        split
        · exact hmu
        · rw [Function.update_apply]
          split
          · exact .inr rfl
          · exact hmu
  exact hgen us claimed fun u hu => .inl (h u hu)

structure FusionEnv where
  graph : OrtGraph
  opType : NodeId → String
  isGraphOutput : ValueId → Bool
  shape : ValueId → Option (List Nat)
  nodeUnitMap : NodeId → Option OrtNodeUnit
  claimed : ClaimMap

namespace FusionEnv
variable (env : FusionEnv)

def unitOpType (u : OrtNodeUnit) : String := env.opType u.targetNode

def isQuantizer (n : NodeId) : Bool :=
  env.opType n == "DequantizeLinear" || env.opType n == "QuantizeLinear"

def inputs (u : OrtNodeUnit) : List (Option ValueId) :=
  match u.unitType with
  | .SingleNode =>
    if env.isQuantizer u.targetNode then (env.graph.inputs u.targetNode).take 1
    else env.graph.inputs u.targetNode
  | .QDQGroup => (env.graph.inputs u.targetNode).map fun input =>
    match input.bind env.graph.valueProducer with
    | some d => if d ∈ u.dqNodes then (env.graph.inputs d).head?.join else input
    | none => input

def outputs (u : OrtNodeUnit) : List (Option ValueId) :=
  match u.unitType with
  | .SingleNode =>
    if env.isQuantizer u.targetNode then (env.graph.outputs u.targetNode).take 1
    else env.graph.outputs u.targetNode
  | .QDQGroup => (env.graph.outputs u.outputProducer).map fun output =>
    match output.map env.graph.valueConsumers with
    | some [q] => if q ∈ u.qNodes then (env.graph.outputs q).head?.join else output
    | _ => output

def producesGraphOutput (n : NodeId) : Bool :=
  (env.graph.outputs n).reduceOption.any env.isGraphOutput

def unclaimed (u : OrtNodeUnit) : Bool := (env.claimed u).isNone

def standalone (u : OrtNodeUnit) : Bool := env.unclaimed u && u.unitType == .SingleNode

def onlyConsumer (v : ValueId) : Option NodeId :=
  match env.graph.valueConsumers v with
  | [c] => some c
  | _ => none

def getParentOfTypeAmong (parentOpTypes : List String) : List (Option ValueId) → Option OrtNodeUnit
  | [] => none
  | input :: rest =>
    match input.bind env.graph.valueProducer with
    | none => getParentOfTypeAmong parentOpTypes rest
    | some parent =>
      if env.producesGraphOutput parent then none
      else if !parentOpTypes.contains (env.opType parent) then
        getParentOfTypeAmong parentOpTypes rest
      else (env.nodeUnitMap parent).filter env.standalone

def getParentOfType (child : OrtNodeUnit) (parentOpTypes : List String) : Option OrtNodeUnit :=
  env.getParentOfTypeAmong parentOpTypes (env.graph.inputs child.targetNode)

def scanInputs (input : ValueId) (node : NodeId) (child : Option NodeId) :
    List (Option ValueId) → Option NodeId
  | [] => child
  | i :: rest =>
    if i == some input then some node
    else if child.isSome then child
    else scanInputs input node child rest

def childOfInput (u : OrtNodeUnit) (input : ValueId) : Option NodeId :=
  u.getAllNodesInGroup.foldl
    (fun child node => scanInputs input node child (env.graph.inputs node)) none

def producerUnit (input : ValueId) : Option OrtNodeUnit :=
  (env.graph.valueProducer input).bind fun parent =>
    if env.producesGraphOutput parent then none
    else (env.nodeUnitMap parent).filter env.unclaimed

def getParentOfInput (u : OrtNodeUnit) (input : ValueId) : Option OrtNodeUnit :=
  (env.childOfInput u input).bind fun child =>
    if (env.graph.inputs child).contains (some input) then env.producerUnit input else none

def getParentOfInputByName (u : OrtNodeUnit) (input : ValueId) : Option OrtNodeUnit :=
  if u.getAllNodesInGroup.any fun node => (env.graph.inputs node).contains (some input) then
    (env.producerUnit input).filter fun w => w.unitType == .SingleNode
  else none

def getOnlyChildOfOutput (u : OrtNodeUnit) (output : ValueId) : Option OrtNodeUnit :=
  (u.getAllNodesInGroup.find? fun n => (env.graph.outputs n).contains (some output)).bind
    fun parent =>
      if env.producesGraphOutput parent then none
      else (env.onlyConsumer output).bind fun child => (env.nodeUnitMap child).filter env.unclaimed

variable {env}

theorem getParentOfInput_spec {u w : OrtNodeUnit} {v : ValueId}
    (h : env.getParentOfInput u v = some w) : env.producerUnit v = some w := by
  obtain ⟨c,_,h⟩ := Option.bind_eq_some_iff.mp h
  split at h
  · exact h
  · cases h

end FusionEnv

end QnnEp.NodeGroup
