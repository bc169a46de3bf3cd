import QnnEp.Ort.NodeUnit
import QnnEp.Qdq.Selectors

namespace QnnEp.Qdq
open List Ort Relation
variable {d q n : NodeId}

def anyVersion (ops : List String) : List (String × List Int) := ops.map fun op => (op,[])

def createSelectors : List (List (String × List Int) × Selector) := [
  ([("Expand",[]),("Flatten",[]),("Gather",[]),("GatherElements",[]),("MaxPool",[12]),
    ("Reshape",[]),("Resize",[]),("Squeeze",[]),("Tile",[]),("Transpose",[]),("Unsqueeze",[])],
    .dropQDQ true),
  (anyVersion ["ArgMax","ArgMin","NonZero"],.dropDQ),
  (anyVersion ["Abs","Asin","Atan","AveragePool","Buffer","Ceil","Cos","DepthToSpace","Elu","Erf",
    "Exp","Floor","Gelu","GlobalAveragePool","GlobalMaxPool","HardSigmoid","HardSwish","LRN",
    "LeakyRelu","Log","LogSoftmax","LpNormalization","Neg","ReduceL2","ReduceLogSumExp","ReduceMax",
    "ReduceMean","ReduceMin","ReduceProd","ReduceSum","Relu","Round","Sigmoid","Sign","Sin","Slice",
    "Softmax","Softplus","SpaceToDepth","Sqrt","Swish","Tanh"],.unary),
  (anyVersion ["Clip"],.clip),
  (anyVersion ["Add","Div","GridSample","Mul","Pow","PRelu","Sub"],.binary),
  (anyVersion ["Concat","Max","Min"],.variadic),
  (anyVersion ["Split"],.split false),
  (anyVersion ["Conv"],.conv),
  (anyVersion ["ConvTranspose"],.conv),
  (anyVersion ["Einsum"],.einsum),
  (anyVersion ["Reciprocal"],.reciprocal),
  (anyVersion ["MatMul"],.matMul),
  (anyVersion ["Gemm"],.gemm),
  (anyVersion ["GRU","StatefulGru"],.gru),
  (anyVersion ["InstanceNormalization","LayerNormalization"],.instanceAndLayerNormalization),
  (anyVersion ["BatchNormalization"],.batchNormalization),
  (anyVersion ["Equal","Greater","GreaterOrEqual","Less","LessOrEqual"],.logicalComparison),
  (anyVersion ["Where"],.selectWhere),
  (anyVersion ["Pad"],.pad),
  (anyVersion ["TopK"],.topK),
  (anyVersion ["CumSum"],.cumSum),
  (anyVersion ["ScatterElements"],.scatterElements),
  (anyVersion ["RMSNormalization","SimplifiedLayerNormalization"],.rmsNormalization),
  (anyVersion ["MatMulNBits"],.matMulNBits)]

def opTypeToSelectorsMap : List (String × List Int × Selector) :=
  createSelectors.flatMap fun entry => entry.1.map fun op => (op.1,op.2,entry.2)

def findSelector (opType : String) : Option (List Int × Selector) := opTypeToSelectorsMap.lookup opType

def supportedDomains : List String := ["","com.ms.internal.nhwc","com.microsoft","ai.onnx.ml","qti_aisw"]

theorem findSelector_q : findSelector "QuantizeLinear" = none := by decide

theorem findSelector_dq : findSelector "DequantizeLinear" = none := by decide

namespace QdqGraph
variable {F : Type} [FloatArith F] (g : QdqGraph F)

def dqProducers (node : NodeId) : List NodeId :=
  (g.inputs node).filterMap fun i => (g.getValueProducer i).filter g.isDQ

def outputExtension (node : NodeId) : Option NodeId × Option NodeId :=
  if (g.outputs node).length != 1 then (none,none)
  else
    match g.tryFoldRedundantActivation node with
    | some clip => (none,some clip)
    | none =>
      match g.tryAbsorbTrailingReshape node with
      | some (reshape,activation) => (some reshape,activation)
      | none => (none,none)

def qConsumers (anchor : NodeId) : List NodeId := (g.getConsumers anchor).filter g.isQ

def getOrtQDQSelection (node : NodeId) (selector : Selector) : Option OrtNodeUnit :=
  let dqNodes := g.dqProducers node
  let (outputReshapeNode,clipNode) := g.outputExtension node
  let anchor := clipNode.getD (outputReshapeNode.getD node)
  let qNodes := g.qConsumers anchor
  if !g.check node clipNode dqNodes qNodes selector then none
  else some {
    unitType := .QDQGroup
    targetNode := node
    dqNodes := dqNodes
    qNodes := qNodes
    redundantClipNode := clipNode
    outputReshapeNode := outputReshapeNode }

def selectNode (node : NodeId) : Option OrtNodeUnit :=
  if !supportedDomains.contains (g.node node).domain then none
  else do
    let (versions,selector) ← findSelector (g.operatorType node)
    if !versions.isEmpty && !versions.contains (g.node node).sinceVersion then none
    else g.getOrtQDQSelection node selector

def getOrtQDQSelections : List OrtNodeUnit := g.nodes.filterMap g.selectNode

abbrev NodeUnitMap := NodeId → Option OrtNodeUnit

def addNodeUnitToMap (nodes : List NodeId) (unit : OrtNodeUnit) (m : NodeUnitMap) : NodeUnitMap :=
  nodes.foldl (fun m n => Function.update m n (some unit)) m

def addSelection (m : NodeUnitMap) (s : OrtNodeUnit) : NodeUnitMap :=
  addNodeUnitToMap s.outputReshapeNode.toList s <| addNodeUnitToMap s.redundantClipNode.toList s <|
    addNodeUnitToMap [s.targetNode] s <| addNodeUnitToMap s.qNodes s <| addNodeUnitToMap s.dqNodes s m

def singleNode (n : NodeId) : OrtNodeUnit where
  unitType := .SingleNode
  targetNode := n
  dqNodes := []
  qNodes := []
  redundantClipNode := none
  outputReshapeNode := none

def addSingleNode (s : List OrtNodeUnit × NodeUnitMap) (n : NodeId) : List OrtNodeUnit × NodeUnitMap :=
  if (s.2 n).isSome then s
  else (s.1 ++ [singleNode n],Function.update s.2 n (some (singleNode n)))

def getAllOrtNodeUnits : List OrtNodeUnit × NodeUnitMap :=
  let selections := g.getOrtQDQSelections
  g.nodes.foldl addSingleNode (selections,selections.foldl addSelection fun _ => none)

end QdqGraph

namespace QdqGraph
variable {F : Type} (g : QdqGraph F)

structure QdqInputs : Prop where
  valid : g.Valid
  dq_single : ∀ n ∈ g.nodes, g.isDQ n = true → ∃ c, g.Sole n c
  params_initializer : ∀ n ∈ g.nodes, (g.isDQ n || g.isQ n) = true → ∀ v, some v ∈ (g.inputs n).tail →
    (g.constantInitializer (g.value v).name).isSome

variable {g}

namespace QdqInputs
variable (hg : g.QdqInputs)
include hg

theorem consistent : g.Consistent := hg.valid.consistent

theorem edgeCount_dq {t : NodeId} (hd : d ∈ g.nodes) (hdq : g.isDQ d = true) (ht : t ∈ g.nodes) :
    g.edgeCount d t ≤ 1 := by
  obtain ⟨c,v,hv,hc⟩ := hg.dq_single d hd hdq
  rw [← g.count_getConsumers hg.consistent hd ht]
  refine count_le_length.trans ?_
  simp [OrtGraph.getConsumers,hv,List.reduceOption,hc]

theorem dq_consumer {t t' : NodeId} (hd : d ∈ g.nodes) (hdq : g.isDQ d = true) (ht : t ∈ g.nodes)
    (ht' : t' ∈ g.nodes) (h : g.Edge d t) (h' : g.Edge d t') : t = t' := by
  obtain ⟨c,v,hv,hc⟩ := hg.dq_single d hd hdq
  have hmem {x : NodeId} (hx : x ∈ g.nodes) (he : g.Edge d x) : x = c := by
    have hpos : 0 < (g.getConsumers d).count x := by
      rw [g.count_getConsumers hg.consistent hd hx]
      exact he
    simpa [OrtGraph.getConsumers,hv,List.reduceOption,hc] using count_pos_iff.mp hpos
  rw [hmem ht h,hmem ht' h']

theorem q_fed (hq : q ∈ g.nodes) (hisQ : g.isQ q = true) (p : NodeId → Bool) :
    (g.inputs q).tail.countP (g.fed p) = 0 := by
  rw [countP_eq_zero]
  intro i hi hf
  obtain ⟨n,hn,_⟩ := g.fed_iff.mp hf
  cases i with
  | none => cases hn
  | some v =>
    have hinit := hg.params_initializer q hq (by simp [hisQ]) v hi
    have hnone := hg.valid.initializer_no_producer v hinit
    rw [Option.bind_some,hnone] at hn
    cases hn

theorem edgeCount_q (hq : q ∈ g.nodes) (hisQ : g.isQ q = true) : g.edgeCount n q ≤ 1 := by
  have htail := hg.q_fed hq hisQ (· == n)
  unfold OrtGraph.edgeCount
  cases hi : g.inputs q with
  | nil => simp
  | cons i is =>
    rw [hi,tail_cons] at htail
    rw [countP_cons,htail]
    split <;> omega

theorem q_producer {n m q : NodeId} (hq : q ∈ g.nodes) (hisQ : g.isQ q = true) (hn : g.Edge n q)
    (hm : g.Edge m q) : n = m := by
  have hhead {x : NodeId} (hx : g.Edge x q) : ((g.inputs q).head?.bind g.getValueProducer) = some x := by
    have htail := hg.q_fed hq hisQ (· == x)
    obtain ⟨i,hi,hp⟩ := g.edge_iff.mp hx
    cases his : g.inputs q with
    | nil => simp [his] at hi
    | cons j js =>
      rw [his,tail_cons,countP_eq_zero] at htail
      rw [his] at hi
      rcases mem_cons.mp hi with rfl | hj
      · exact hp
      · exact (htail i hj (g.fed_iff.mpr ⟨x,hp,beq_self_eq_true x⟩)).elim
  exact Option.some.inj ((hhead hn).symm.trans (hhead hm))

end QdqInputs

theorem mem_dqProducers {t : NodeId} : d ∈ g.dqProducers t ↔ g.isDQ d = true ∧ g.Edge d t := by
  simp only [dqProducers,mem_filterMap,Option.filter_eq_some_iff,OrtGraph.edge_iff,
    getValueProducer]
  constructor
  · rintro ⟨i,hi,hp,hd⟩
    exact ⟨hd,i,hi,hp⟩
  · rintro ⟨hd,i,hi,hp⟩
    exact ⟨i,hi,hp,hd⟩

theorem count_dqProducers_le (t d : NodeId) : (g.dqProducers t).count d ≤ g.edgeCount d t := by
  unfold dqProducers OrtGraph.edgeCount
  induction g.inputs t with
  | nil => simp
  | cons i is ih =>
    rw [filterMap_cons,countP_cons]
    cases hp : g.getValueProducer i with
    | none => simpa [hp] using ih.trans (Nat.le_add_right _ _)
    | some p =>
      have hp' : i.bind g.valueProducer = some p := hp
      by_cases hdq : g.isDQ p = true
      · simp only [Option.filter_some,hdq,if_true,count_cons,OrtGraph.fed,hp',Option.map_some,
          Option.getD_some]
        omega
      · simp only [Option.filter_some,hdq,if_false,Bool.false_eq_true]
        omega

theorem mem_qConsumers (hc : g.Consistent) {a : NodeId} (ha : a ∈ g.nodes) :
    q ∈ g.qConsumers a ↔ q ∈ g.nodes ∧ g.isQ q = true ∧ g.Edge a q := by
  unfold qConsumers
  rw [mem_filter]
  constructor
  · rintro ⟨hm,hq⟩
    obtain ⟨v,_,hv⟩ := mem_flatMap.mp hm
    have hqn := hc.consumers_mem v q hv
    refine ⟨hqn,hq,?_⟩
    rw [OrtGraph.Edge,← g.count_getConsumers hc ha hqn]
    exact count_pos_iff.mpr hm
  · rintro ⟨hqn,hq,he⟩
    refine ⟨?_,hq⟩
    rw [← count_pos_iff,g.count_getConsumers hc ha hqn]
    exact he

variable [FloatArith F]

inductive Extension (g : QdqGraph F) (n : NodeId) : Option NodeId → Option NodeId → Prop where
  | plain : Extension g n none none
  | folded (c : NodeId) (hc : g.Sole n c) (hop : g.isReluOrClip c = true) (hq : g.Quantized c) :
      Extension g n none (some c)
  | absorbed (r : NodeId) (hr : g.Sole n r) (hop : g.operatorType r = "Reshape") (hq : g.Quantized r) :
      Extension g n (some r) none
  | sandwich (r c : NodeId) (hr : g.Sole n r) (hop : g.operatorType r = "Reshape") (hc : g.Sole r c)
      (hop' : g.isReluOrClip c = true) (hq : g.Quantized c) : Extension g n (some r) (some c)

theorem outputExtension_cases (g : QdqGraph F) (n : NodeId) :
    Extension g n (g.outputExtension n).1 (g.outputExtension n).2 := by
  unfold outputExtension
  split
  · exact .plain
  split
  case h_1 c hc =>
    obtain ⟨hs,hop,hq⟩ := tryFoldRedundantActivation_some hc
    exact .folded c hs hop hq
  case h_2 =>
    split
    case h_1 r a hr =>
      obtain ⟨hs,hop,⟨rfl,hq⟩ | ⟨c,rfl,hc,hop',hq⟩⟩ := tryAbsorbTrailingReshape_some hr
      · exact .absorbed r hs hop hq
      · exact .sandwich r c hs hop hc hop' hq
    case h_2 => exact .plain

structure Selected (g : QdqGraph F) (s : OrtNodeUnit) : Prop where
  unitType : s.unitType = .QDQGroup
  dqNodes : s.dqNodes = g.dqProducers s.targetNode
  qNodes : s.qNodes = g.qConsumers s.outputProducer
  extension : g.outputExtension s.targetNode = (s.outputReshapeNode,s.redundantClipNode)
  not_q : g.isQ s.targetNode = false
  not_dq : g.isDQ s.targetNode = false

theorem selectNode_selected {s : OrtNodeUnit} (h : g.selectNode n = some s) :
    s.targetNode = n ∧ Selected g s := by
  unfold selectNode at h
  split at h
  · cases h
  obtain ⟨⟨versions,selector⟩,hsel,h⟩ := Option.bind_eq_some_iff.mp h
  have hq : g.isQ n = false := by
    refine beq_eq_false_iff_ne.mpr ?_
    intro he
    rw [he,findSelector_q] at hsel
    cases hsel
  have hdq : g.isDQ n = false := by
    refine beq_eq_false_iff_ne.mpr ?_
    intro he
    rw [he,findSelector_dq] at hsel
    cases hsel
  dsimp only at h
  split at h
  · cases h
  unfold getOrtQDQSelection at h
  dsimp only at h
  split at h
  · cases h
  obtain rfl := Option.some.inj h
  exact ⟨rfl,rfl,rfl,rfl,rfl,hq,hdq⟩

end QdqGraph

namespace QdqGraph
variable {F : Type} {g : QdqGraph F}

theorem Sole.feeds {c : NodeId} (h : g.Sole n c) (hc : g.Consistent) (hn : n ∈ g.nodes) :
    g.Feeds n c := ⟨h.mem hc,h.edge hc hn⟩

theorem not_q_of_isReluOrClip (h : g.isReluOrClip n = true) : g.isQ n = false ∧ g.isDQ n = false := by
  unfold isReluOrClip at h
  unfold isQ isDQ
  rw [Bool.or_eq_true,beq_iff_eq,beq_iff_eq] at h
  rcases h with h | h <;> rw [h] <;> decide

theorem not_q_of_reshape (h : g.operatorType n = "Reshape") : g.isQ n = false ∧ g.isDQ n = false := by
  unfold isQ isDQ
  rw [h]
  decide

namespace Selected
variable [FloatArith F] {s : OrtNodeUnit}

def chain (s : OrtNodeUnit) : List NodeId :=
  s.targetNode :: (s.outputReshapeNode.toList ++ s.redundantClipNode.toList)

theorem all_eq_chain (s : OrtNodeUnit) : s.getAllNodesInGroup = s.dqNodes ++ (chain s ++ s.qNodes) := by
  simp [OrtNodeUnit.getAllNodesInGroup,chain]

theorem mem_chain :
    n ∈ chain s ↔
    n = s.targetNode ∨ s.outputReshapeNode = some n ∨ s.redundantClipNode = some n := by
  simp [chain]

structure ChainOk (g : QdqGraph F) (s : OrtNodeUnit) : Prop where
  path : (chain s).Pairwise (TransGen g.Feeds)
  mem_nodes : ∀ n ∈ chain s, n ∈ g.nodes
  not_q : ∀ n ∈ chain s, g.isQ n = false
  not_dq : ∀ n ∈ chain s, g.isDQ n = false

theorem chainOk (hs : Selected g s) (hc : g.Consistent) (ht : s.targetNode ∈ g.nodes) :
    ChainOk g s := by
  have hcases := outputExtension_cases g s.targetNode
  rw [hs.extension] at hcases
  dsimp only at hcases
  generalize hr : s.outputReshapeNode = reshape at hcases
  generalize hl : s.redundantClipNode = clip at hcases
  have hq := hs.not_q
  have hdq := hs.not_dq
  cases hcases with
  | plain => exact ⟨by simp [chain,hr,hl],by simp [chain,hr,hl,ht],by simp [chain,hr,hl,hq],
      by simp [chain,hr,hl,hdq]⟩
  | folded c hsole hop _ =>
    have hf := hsole.feeds hc ht
    have hnot := not_q_of_isReluOrClip hop
    exact ⟨by simpa [chain,hr,hl] using TransGen.single hf,by simp [chain,hr,hl,ht,hf.1],
      by simp [chain,hr,hl,hq,hnot.1],by simp [chain,hr,hl,hdq,hnot.2]⟩
  | absorbed r hsole hop _ =>
    have hf := hsole.feeds hc ht
    have hnot := not_q_of_reshape hop
    exact ⟨by simpa [chain,hr,hl] using TransGen.single hf,by simp [chain,hr,hl,ht,hf.1],
      by simp [chain,hr,hl,hq,hnot.1],by simp [chain,hr,hl,hdq,hnot.2]⟩
  | sandwich r c hsole hop hsole' hop' _ =>
    have hf := hsole.feeds hc ht
    have hf' := hsole'.feeds hc hf.1
    have hnot := not_q_of_reshape hop
    have hnot' := not_q_of_isReluOrClip hop'
    refine ⟨?_,by simp [chain,hr,hl,ht,hf.1,hf'.1],by simp [chain,hr,hl,hq,hnot.1,hnot'.1],
      by simp [chain,hr,hl,hdq,hnot.2,hnot'.2]⟩
    simp only [chain,hr,hl,Option.toList_some,cons_append,nil_append,pairwise_cons,
      mem_cons,not_mem_nil,or_false]
    refine ⟨?_,?_,by simp⟩
    · rintro x (rfl | rfl)
      · exact .single hf
      · exact .tail (.single hf) hf'
    · rintro x rfl
      exact .single hf'

theorem outputProducer_mem_chain (s : OrtNodeUnit) : s.outputProducer ∈ chain s := by
  rw [mem_chain]
  rcases s.outputProducer_cases with h | ⟨_,h⟩ | ⟨_,_,h⟩
  · exact .inr (.inr h)
  · exact .inr (.inl h)
  · exact .inl h.symm

section
variable (hg : g.QdqInputs) (hs : Selected g s) (ht : s.targetNode ∈ g.nodes)
include hg hs ht

omit ht in
theorem mem_dqNodes {d : NodeId} :
    d ∈ s.dqNodes ↔ d ∈ g.nodes ∧ g.isDQ d = true ∧ g.Edge d s.targetNode := by
  rw [hs.dqNodes,mem_dqProducers]
  exact ⟨fun h => ⟨g.edge_mem hg.consistent h.2,h⟩,fun h => h.2⟩

theorem outputProducer_mem_nodes : s.outputProducer ∈ g.nodes :=
  (hs.chainOk hg.consistent ht).mem_nodes _ (outputProducer_mem_chain s)

theorem mem_qNodes : q ∈ s.qNodes ↔ q ∈ g.nodes ∧ g.isQ q = true ∧ g.Edge s.outputProducer q := by
  rw [hs.qNodes,mem_qConsumers hg.consistent (outputProducer_mem_nodes hg hs ht)]

theorem edgeCount_dqNode (hd : d ∈ s.dqNodes) : g.edgeCount d s.targetNode = 1 := by
  obtain ⟨hn,hdq,he⟩ := (mem_dqNodes hg hs).mp hd
  exact Nat.le_antisymm (hg.edgeCount_dq hn hdq ht) he

theorem edgeCount_qNode (hq : q ∈ s.qNodes) : g.edgeCount s.outputProducer q = 1 := by
  obtain ⟨hn,hisQ,he⟩ := (mem_qNodes hg hs ht).mp hq
  exact Nat.le_antisymm (hg.edgeCount_q hn hisQ) he

theorem dqNodes_nodup : s.dqNodes.Nodup := by
  rw [nodup_iff_count_le_one]
  intro d
  by_cases hd : d ∈ s.dqNodes
  · rw [← edgeCount_dqNode hg hs ht hd,hs.dqNodes]
    exact count_dqProducers_le _ _
  · rw [count_eq_zero_of_not_mem hd]
    omega

theorem selected_qNodes_nodup : s.qNodes.Nodup := by
  have ha := outputProducer_mem_nodes hg hs ht
  rw [nodup_iff_count_le_one]
  intro q
  by_cases hq : q ∈ s.qNodes
  · have hn := ((mem_qNodes hg hs ht).mp hq).1
    rw [← edgeCount_qNode hg hs ht hq,← g.count_getConsumers hg.consistent ha hn,hs.qNodes]
    exact List.Sublist.count_le q filter_sublist
  · rw [count_eq_zero_of_not_mem hq]
    omega

theorem all_nodup : s.getAllNodesInGroup.Nodup := by
  have hchain := hs.chainOk hg.consistent ht
  have hnodup : (chain s).Nodup := by
    refine hchain.path.imp ?_
    rintro x _ hx rfl
    exact hg.valid.acyclic x hx
  rw [all_eq_chain,nodup_append,nodup_append]
  refine ⟨dqNodes_nodup hg hs ht,⟨hnodup,selected_qNodes_nodup hg hs ht,?_⟩,?_⟩
  · rintro x hx _ hq rfl
    have hisQ := ((mem_qNodes hg hs ht).mp hq).2.1
    rw [hchain.not_q x hx] at hisQ
    cases hisQ
  · rintro d hd x hx rfl
    have hdq := ((mem_dqNodes hg hs).mp hd).2.1
    rcases mem_append.mp hx with hx | hx
    · rw [hchain.not_dq d hx] at hdq
      cases hdq
    · have hisQ := ((mem_qNodes hg hs ht).mp hx).2.1
      unfold isQ at hisQ
      unfold isDQ at hdq
      rw [beq_iff_eq] at hisQ hdq
      rw [hisQ] at hdq
      exact absurd hdq (by decide)

theorem all_mem_nodes (hn : n ∈ s.getAllNodesInGroup) : n ∈ g.nodes := by
  rw [all_eq_chain,mem_append,mem_append] at hn
  rcases hn with hn | hn | hn
  · exact ((mem_dqNodes hg hs).mp hn).1
  · exact (hs.chainOk hg.consistent ht).mem_nodes n hn
  · exact ((mem_qNodes hg hs ht).mp hn).1

theorem chain_path {m : NodeId} (hn : n ∈ chain s) (hm : m ∈ chain s) (h : s.role n < s.role m) :
    TransGen g.Feeds n m := by
  have hall := OrtNodeUnit.members_nodup (all_nodup hg hs ht)
  have hpath := (hs.chainOk hg.consistent ht).path
  simp only [chain,pairwise_cons,pairwise_append,mem_append,Option.mem_toList] at hpath
  obtain ⟨hfrom,-,-,hto⟩ := hpath
  rcases mem_chain.mp hm with rfl | hm | hm
  · rw [OrtNodeUnit.role_target hall] at h
    rcases mem_chain.mp hn with rfl | hn | hn
    · rw [OrtNodeUnit.role_target hall] at h; omega
    · rw [OrtNodeUnit.role_reshape hall hn] at h; omega
    · rw [OrtNodeUnit.role_clip hall hn] at h; omega
  · rw [OrtNodeUnit.role_reshape hall hm] at h
    rcases mem_chain.mp hn with rfl | hn | hn
    · exact hfrom m (.inl hm)
    · rw [OrtNodeUnit.role_reshape hall hn] at h; omega
    · rw [OrtNodeUnit.role_clip hall hn] at h; omega
  · rw [OrtNodeUnit.role_clip hall hm] at h
    rcases mem_chain.mp hn with rfl | hn | hn
    · exact hfrom m (.inr hm)
    · exact hto n hn m hm
    · rw [OrtNodeUnit.role_clip hall hn] at h; omega

theorem chain_role_inj {m : NodeId} (hn : n ∈ chain s) (hm : m ∈ chain s) (h : s.role n = s.role m) :
    n = m := by
  have hall := OrtNodeUnit.members_nodup (all_nodup hg hs ht)
  rcases mem_chain.mp hn with rfl | hn | hn <;> rcases mem_chain.mp hm with rfl | hm | hm <;>
    simp_all [OrtNodeUnit.role_target hall,OrtNodeUnit.role_reshape hall,OrtNodeUnit.role_clip hall]

theorem chain_to_outputProducer (hn : n ∈ chain s) : ReflTransGen g.Feeds n s.outputProducer := by
  have hall := OrtNodeUnit.members_nodup (all_nodup hg hs ht)
  have ho := outputProducer_mem_chain s
  rcases Nat.lt_trichotomy (s.role n) (s.role s.outputProducer) with hlt | heq | hgt
  · exact (chain_path hg hs ht hn ho hlt).to_reflTransGen
  · rw [chain_role_inj hg hs ht hn ho heq]
  · have hq : n ∈ s.qNodes := by
      refine OrtNodeUnit.q_of_after_outputProducer hall ?_ hgt
      rw [all_eq_chain]
      exact mem_append_right _ (mem_append_left _ hn)
    have hisQ := ((mem_qNodes hg hs ht).mp hq).2.1
    rw [(hs.chainOk hg.consistent ht).not_q n hn] at hisQ
    cases hisQ

theorem target_to_chain (hn : n ∈ chain s) : ReflTransGen g.Feeds s.targetNode n := by
  have hpath := (pairwise_cons.mp (hs.chainOk hg.consistent ht).path).1
  rcases mem_cons.mp hn with rfl | hn
  · exact .refl
  · exact (hpath n hn).to_reflTransGen

theorem dq_to_target (hd : d ∈ s.dqNodes) : g.Feeds d s.targetNode :=
  ⟨ht,((mem_dqNodes hg hs).mp hd).2.2⟩

theorem chain_forward {m : NodeId} (hn : n ∈ chain s) (hm : m ∈ s.getAllNodesInGroup) (he : g.Edge n m) :
    s.role n < s.role m := by
  have hall := OrtNodeUnit.members_nodup (all_nodup hg hs ht)
  have hfeeds : g.Feeds n m := ⟨all_mem_nodes hg hs ht hm,he⟩
  rw [all_eq_chain,mem_append,mem_append] at hm
  rcases hm with hm | hm | hm
  · have hto := target_to_chain hg hs ht hn
    exact (hg.valid.acyclic n (.head hfeeds (.head' (dq_to_target hg hs ht hm) hto))).elim
  · rcases Nat.lt_trichotomy (s.role n) (s.role m) with hlt | heq | hgt
    · exact hlt
    · obtain rfl := chain_role_inj hg hs ht hn hm heq
      exact (hg.valid.acyclic n (.single hfeeds)).elim
    · exact (hg.valid.acyclic n (.head hfeeds (chain_path hg hs ht hm hn hgt))).elim
  · rw [OrtNodeUnit.role_q hall hm]
    rcases mem_chain.mp hn with rfl | hn | hn
    · rw [OrtNodeUnit.role_target hall]; omega
    · rw [OrtNodeUnit.role_reshape hall hn]; omega
    · rw [OrtNodeUnit.role_clip hall hn]; omega

theorem q_not_back {m : NodeId} (hq : q ∈ s.qNodes) (hm : m ∈ s.getAllNodesInGroup) : ¬g.Edge q m := by
  intro he
  obtain ⟨hqn,hisQ,hqe⟩ := (mem_qNodes hg hs ht).mp hq
  have hfeeds : g.Feeds q m := ⟨all_mem_nodes hg hs ht hm,he⟩
  have hin : g.Feeds s.outputProducer q := ⟨hqn,hqe⟩
  rw [all_eq_chain,mem_append,mem_append] at hm
  rcases hm with hm | hm | hm
  · have hto := chain_to_outputProducer hg hs ht (mem_chain.mpr (.inl rfl))
    exact hg.valid.acyclic q
      (.head hfeeds (.head' (dq_to_target hg hs ht hm) (hto.tail hin)))
  · have hto := chain_to_outputProducer hg hs ht hm
    exact hg.valid.acyclic q (.head' hfeeds (hto.tail hin))
  · obtain ⟨hmn,hmQ,hme⟩ := (mem_qNodes hg hs ht).mp hm
    have ho := (hs.chainOk hg.consistent ht).not_q _ (outputProducer_mem_chain s)
    rw [hg.q_producer hmn hmQ hme he,hisQ] at ho
    cases ho

theorem selected_wellFormed : s.WellFormed g.toOrtGraph := by
  have hall := OrtNodeUnit.members_nodup (all_nodup hg hs ht)
  refine ⟨?_,fun n hn => all_mem_nodes hg hs ht hn,hall,fun d hd => ?_,fun q hq => ?_⟩
  · intro h
    rw [hs.unitType] at h
    cases h
  · rw [edgeCount_dqNode hg hs ht hd,count_eq_one_of_mem (dqNodes_nodup hg hs ht) hd]
  · rw [edgeCount_qNode hg hs ht hq,count_eq_one_of_mem (selected_qNodes_nodup hg hs ht) hq]

theorem selected_layered : s.Layered g.toOrtGraph := by
  have hall := OrtNodeUnit.members_nodup (all_nodup hg hs ht)
  refine ⟨all_nodup hg hs ht,?_⟩
  intro n hn m hm he
  rw [all_eq_chain,mem_append,mem_append] at hn
  rcases hn with hn | hn | hn
  · obtain ⟨hnn,hdq,hne⟩ := (mem_dqNodes hg hs).mp hn
    rw [hg.dq_consumer hnn hdq (all_mem_nodes hg hs ht hm) ht he hne,OrtNodeUnit.role_dq hn,
      OrtNodeUnit.role_target hall]
    omega
  · exact chain_forward hg hs ht hn hm he
  · exact (q_not_back hg hs ht hn hm he).elim

end

end Selected
end QdqGraph

end QnnEp.Qdq
