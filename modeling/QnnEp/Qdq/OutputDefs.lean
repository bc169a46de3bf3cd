import QnnEp.Qdq.NodeUnits

namespace QnnEp.Qdq
open List Ort
variable {n node q : NodeId} {qs : List NodeId} {u : OrtNodeUnit} {v : ValueId} {selector : Selector}

structure QuantParam where
  scale : Option ValueId
  zeroPoint : Option ValueId
  axis : Option Int
  blockSize : Option Int
  deriving DecidableEq, Repr

structure OrtNodeUnitIODef where
  name : String
  elemType : OnnxType
  shape : Option (List Int)
  quantParam : Option QuantParam
  deriving DecidableEq, Repr

def OrtNodeUnitIODef.absent : OrtNodeUnitIODef := ⟨"",.undefined,none,none⟩

def Selector.reliesOnCheckQDQNodes : Selector → Bool
  | .dropDQ | .topK => false
  | _ => true

namespace QdqGraph
variable {F : Type} (g : QdqGraph F)

def parseOrtValueInfo (v : ValueId) (quantParam : Option QuantParam) : Option OrtNodeUnitIODef :=
  (g.value v).elemType.map fun t => ⟨(g.value v).name,t,(g.value v).shape,quantParam⟩

def quantParamOf (n : NodeId) : QuantParam where
  scale := g.getNodeInputValueInfo n 1
  zeroPoint := if (g.inputs n).length = 3 then g.getNodeInputValueInfo n 2 else none
  axis := (g.node n).intAttr "axis"
  blockSize := (g.node n).intAttr "block_size"

def boundaryNode (isInput : Bool) (v : ValueId) : Option NodeId :=
  if isInput then g.valueProducer v
  else
    match g.valueConsumers v with
    | [c] => some c
    | _ => none

def quantizedIODef (boundary : List NodeId) (isInput : Bool) (v : ValueId) :
    Option OrtNodeUnitIODef := do
  let n ← g.boundaryNode isInput v
  if !boundary.contains n then none
  else
    let io ← if isInput then g.getNodeInputValueInfo n 0 else (g.outputs n)[0]?.join
    g.parseOrtValueInfo io (some (g.quantParamOf n))

def ioDef (boundary : List NodeId) (isInput : Bool) : Option ValueId → OrtNodeUnitIODef
  | none => .absent
  | some v =>
    match g.quantizedIODef boundary isInput v with
    | some d => d
    | none => (g.parseOrtValueInfo v none).getD .absent

def getQDQIODefs (target : NodeId) (boundary : List NodeId) (isInput : Bool) :
    List OrtNodeUnitIODef :=
  (if isInput then g.inputs target else g.outputs target).map (g.ioDef boundary isInput)

def unitInputs (u : OrtNodeUnit) : List OrtNodeUnitIODef := g.getQDQIODefs u.targetNode u.dqNodes true

def unitOutputs (u : OrtNodeUnit) : List OrtNodeUnitIODef :=
  g.getQDQIODefs u.outputProducer u.qNodes false

def presentOutputs (n : NodeId) : List ValueId := (g.outputs n).reduceOption

structure QuantizeSchema : Prop where
  output : ∀ q, g.isQ q = true → ∃ v rest, g.outputs q = some v :: rest ∧
    (g.value v).elemType.isSome = true

structure OutputsMatchQs (u : OrtNodeUnit) : Prop where
  consumers : (g.presentOutputs u.outputProducer).map g.valueConsumers = u.qNodes.map fun q => [q]
  distinct : u.qNodes.Nodup
  internal : ∀ v ∈ g.presentOutputs u.outputProducer, (g.value v).isGraphOutput = false
  quantized : ∀ (i : Nat) (v : ValueId), (g.outputs u.outputProducer)[i]? = some (some v) →
    ∃ q ∈ u.qNodes, ∃ d : OrtNodeUnitIODef, (g.unitOutputs u)[i]? = some d ∧
      d.quantParam = some (g.quantParamOf q)

structure EachOutputRead (u : OrtNodeUnit) : Prop where
  read : ∀ v ∈ g.presentOutputs u.outputProducer, g.valueConsumers v ≠ []
  once : (g.getConsumers u.outputProducer).Nodup

variable {g}

theorem soleConsumer_internal {c : NodeId} (h : g.soleConsumer n = some c) :
    ∃ v, g.outputs n = [some v] ∧ g.valueConsumers v = [c] ∧ (g.value v).isGraphOutput = false := by
  obtain ⟨v,hv,hc⟩ := soleConsumer_sole h
  refine ⟨v,hv,hc,?_⟩
  by_contra hout
  simp [soleConsumer,getSingleOutput,getSoleNonOutputConsumer,hv,hout] at h

structure SoleQ (g : QdqGraph F) (n : NodeId) (v : ValueId) (q : NodeId) : Prop where
  outputs : g.outputs n = [some v]
  consumers : g.valueConsumers v = [q]
  internal : (g.value v).isGraphOutput = false
  isQ : g.isQ q = true

theorem checkQDQNodes_counts {dqs : List NodeId} {numDqInputs : Option Nat} {allowed : Bool} (hqs : qs ≠ [])
    (h : g.checkQDQNodes node dqs qs numDqInputs allowed = true) :
    (g.presentOutputs node).length = qs.length ∧ qs.length = (g.getConsumers node).length ∧
      ∀ v ∈ g.presentOutputs node, (g.value v).isGraphOutput = false := by
  unfold checkQDQNodes at h
  split at h
  · cases h
  split at h
  · next hempty => exact absurd (isEmpty_iff.mp hempty) hqs
  · simp only [Bool.and_eq_true,beq_iff_eq,Bool.not_eq_true',any_eq_false,
      Bool.not_eq_true] at h
    obtain ⟨⟨hlen,hsum⟩,hout⟩ := h
    refine ⟨hlen,?_,hout⟩
    rw [hsum,OrtGraph.getConsumers,length_flatMap]

structure CountsMatch (g : QdqGraph F) (u : OrtNodeUnit) : Prop where
  qNodes : u.qNodes = g.getConsumers u.outputProducer
  isQ : ∀ q ∈ u.qNodes, g.isQ q = true
  count : ((g.presentOutputs u.outputProducer).map fun v => (g.valueConsumers v).length).sum =
    (g.presentOutputs u.outputProducer).length
  internal : ∀ v ∈ g.presentOutputs u.outputProducer, (g.value v).isGraphOutput = false

theorem SoleQ.countsMatch {u : OrtNodeUnit} {v : ValueId} {q : NodeId}
    (h : SoleQ g u.outputProducer v q) (hqs : u.qNodes = g.qConsumers u.outputProducer) :
    CountsMatch g u := by
  have hpresent : g.presentOutputs u.outputProducer = [v] := by
    rw [presentOutputs,h.outputs]
    rfl
  have hconsumers : g.getConsumers u.outputProducer = [q] := by
    simp [OrtGraph.getConsumers,h.outputs,List.reduceOption,h.consumers]
  have hq : u.qNodes = [q] := by simp [hqs,qConsumers,hconsumers,h.isQ]
  refine ⟨by rw [hq,hconsumers],?_,?_,?_⟩
  · simpa [hq] using h.isQ
  · simp [hpresent,h.consumers]
  · simpa [hpresent] using h.internal

theorem map_eq_flatMap_singletons {A B : Type} {f : A → List B} {xs : List A}
    (h : ∀ x ∈ xs, (f x).length = 1) : xs.map f = (xs.flatMap f).map fun y => [y] := by
  induction xs with
  | nil => rfl
  | cons x xs ih =>
    obtain ⟨y,hy⟩ := length_eq_one_iff.mp (h x mem_cons_self)
    rw [map_cons,flatMap_cons,map_append,hy,
      ih fun z hz => h z (mem_cons_of_mem _ hz)]
    rfl

theorem quantizedIODef_output (hs : g.QuantizeSchema) (hc : g.valueConsumers v = [q]) (hq : q ∈ qs)
    (hisQ : g.isQ q = true) : (g.ioDef qs false (some v)).quantParam = some (g.quantParamOf q) := by
  obtain ⟨w,rest,hw,ht⟩ := hs.output q hisQ
  obtain ⟨t,ht⟩ := Option.isSome_iff_exists.mp ht
  have hdef : g.quantizedIODef qs false v =
      some ⟨(g.value w).name,t,(g.value w).shape,some (g.quantParamOf q)⟩ := by
    simp [quantizedIODef,boundaryNode,hc,hq,hw,parseOrtValueInfo,ht]
  simp [ioDef,hdef]

theorem CountsMatch.outputs_defined_iff (h : CountsMatch g u) (hs : g.QuantizeSchema) :
    g.OutputsMatchQs u ↔ g.EachOutputRead u := by
  constructor
  · intro hm
    refine ⟨?_,h.qNodes ▸ hm.distinct⟩
    intro v hv hnil
    have hmem : g.valueConsumers v ∈ u.qNodes.map fun q => [q] :=
      hm.consumers ▸ mem_map_of_mem hv
    obtain ⟨q,_,hq⟩ := mem_map.mp hmem
    rw [hnil] at hq
    cases hq
  · rintro ⟨hread,honce⟩
    have hone : ∀ v ∈ g.presentOutputs u.outputProducer, (g.valueConsumers v).length = 1 := by
      have hsum := h.count.trans (length_map fun v => (g.valueConsumers v).length).symm
      intro v hv
      refine (Counting.forall_eq_one_iff_of_sum hsum).mpr ?_ _ (mem_map_of_mem hv)
      intro n hn
      obtain ⟨w,hw,rfl⟩ := mem_map.mp hn
      exact length_pos_iff.mpr (hread w hw)
    refine ⟨?_,h.qNodes ▸ honce,h.internal,?_⟩
    · rw [h.qNodes]
      exact map_eq_flatMap_singletons hone
    · intro i v hi
      have hv : v ∈ g.presentOutputs u.outputProducer :=
        reduceOption_mem_iff.mpr (mem_of_getElem? hi)
      obtain ⟨q,hc⟩ := length_eq_one_iff.mp (hone v hv)
      have hq : q ∈ u.qNodes := by
        rw [h.qNodes]
        exact mem_flatMap.mpr ⟨v,hv,by simp [hc]⟩
      refine ⟨q,hq,g.ioDef u.qNodes false (some v),?_,quantizedIODef_output hs hc hq (h.isQ q hq)⟩
      simp [unitOutputs,getQDQIODefs,hi]

variable [FloatArith F]

theorem foldsIntoQ_soleQ (h : g.foldsIntoQ n = true) : ∃ v q, SoleQ g n v q := by
  unfold foldsIntoQ at h
  cases hq : g.soleConsumer n with
  | none => simp [hq] at h
  | some q =>
    obtain ⟨v,hv,hc,hout⟩ := soleConsumer_internal hq
    simp only [hq,Option.any_some,Bool.and_eq_true] at h
    exact ⟨v,q,hv,hc,hout,h.1⟩

theorem tryAbsorbTrailingReshape_soleQ {r : NodeId} {a : Option NodeId}
    (h : g.tryAbsorbTrailingReshape n = some (r,a)) : ∃ v q, SoleQ g (a.getD r) v q := by
  unfold tryAbsorbTrailingReshape at h
  split at h
  · cases h
  split at h
  · cases h
  obtain ⟨reshape,hr,h⟩ := Option.bind_eq_some_iff.mp h
  split at h
  · cases h
  obtain ⟨next,hn,h⟩ := Option.bind_eq_some_iff.mp h
  split at h
  · next hq =>
    cases h
    obtain ⟨v,hv,hc,hout⟩ := soleConsumer_internal hn
    exact ⟨v,next,hv,hc,hout,hq⟩
  · split at h
    · next hfold =>
      cases h
      rw [Bool.and_eq_true] at hfold
      exact foldsIntoQ_soleQ hfold.2
    · cases h

theorem outputExtension_soleQ (g : QdqGraph F) (n : NodeId) :
    g.outputExtension n = (none,none) ∨
      ∃ v q, SoleQ g ((g.outputExtension n).2.getD ((g.outputExtension n).1.getD n)) v q := by
  unfold outputExtension
  split
  · exact .inl rfl
  split
  case h_1 c hc =>
    obtain ⟨-,hfold⟩ := Option.filter_eq_some_iff.mp hc
    rw [Bool.and_eq_true] at hfold
    exact .inr (foldsIntoQ_soleQ hfold.2)
  case h_2 =>
    split
    case h_1 r a hr => exact .inr (tryAbsorbTrailingReshape_soleQ hr)
    case h_2 => exact .inl rfl

theorem checkQDQNodes_of_check {clip : Option NodeId} {dqs : List NodeId}
    (hrelies : selector.reliesOnCheckQDQNodes = true) (hqs : qs ≠ [])
    (h : g.check node clip dqs qs selector = true) :
    ∃ numDqInputs allowed, g.checkQDQNodes node dqs qs numDqInputs allowed = true := by
  have hweight : g.isPerChannelConstantWeightOnlyGroup node dqs qs = false := by
    unfold isPerChannelConstantWeightOnlyGroup
    split
    · exact absurd rfl hqs
    · rfl
  cases selector with
  | dropDQ | topK => cases hrelies
  | unary | binary | variadic | gru | instanceAndLayerNormalization | logicalComparison | selectWhere
    | cumSum | scatterElements | rmsNormalization | matMulNBits =>
    simp only [check,checkUnary,checkBinary,checkVariadic,checkGRU,checkInstanceAndLayerNormalization,
      checkLogicalComparison,checkWhere,checkCumSum,checkScatterElements,checkRMSNormalization,
      checkMatMulNBits,Bool.and_eq_true] at h
    exact ⟨_,_,h.1⟩
  | split req | batchNormalization | pad =>
    simp only [check,checkSplit,checkBatchNormalization,checkPad,Bool.and_eq_true] at h
    exact ⟨_,_,h.1.2⟩
  | einsum | reciprocal | gemm =>
    simp only [check,checkEinsum,checkReciprocal,checkTyped,checkGemm,Bool.and_eq_true] at h
    exact ⟨_,_,h.1.1⟩
  | dropQDQ allow | clip =>
    simp only [check,checkDropQDQ,checkClip,Bool.and_eq_true] at h
    exact ⟨_,_,h.1.1.2⟩
  | conv =>
    simp only [check,checkConv,hweight,Bool.false_or,Bool.and_eq_true] at h
    exact ⟨_,_,h.1.1.1.2⟩
  | matMul =>
    simp only [check,checkMatMul,hweight,Bool.false_or,Bool.and_eq_true] at h
    obtain ⟨-,h⟩ := h
    split at h
    · simp only [Bool.and_eq_true] at h
      exact ⟨_,_,h.1.2⟩
    · cases h

theorem getOrtQDQSelection_countsMatch (hrelies : selector.reliesOnCheckQDQNodes = true)
    (h : g.getOrtQDQSelection node selector = some u) (hqs : u.qNodes ≠ []) : CountsMatch g u := by
  unfold getOrtQDQSelection at h
  dsimp only at h
  split at h
  · cases h
  next hcheck =>
  have hu := Option.some.inj h
  have hproducer : (g.outputExtension node).2.getD ((g.outputExtension node).1.getD node) =
      u.outputProducer := by
    rw [← hu]
    rfl
  have hq : g.qConsumers u.outputProducer = u.qNodes := by
    rw [← hu]
    rfl
  rw [hproducer,hq,Bool.not_eq_true,Bool.not_eq_false'] at hcheck
  rcases outputExtension_soleQ g node with hplain | ⟨v,q,hsole⟩
  · have hanchor : u.outputProducer = node := by
      rw [← hproducer,hplain]
      rfl
    obtain ⟨_,_,hnodes⟩ := checkQDQNodes_of_check hrelies hqs hcheck
    obtain ⟨hlen,hcount,hout⟩ := checkQDQNodes_counts hqs hnodes
    rw [← hanchor] at hlen hcount hout
    have hall : u.qNodes = g.getConsumers u.outputProducer := by
      rw [← hq] at hcount ⊢
      exact filter_sublist.eq_of_length hcount
    refine ⟨hall,?_,?_,hout⟩
    · intro q hmem
      rw [← hq] at hmem
      exact (mem_filter.mp hmem).2
    · rw [← length_flatMap,hlen]
      exact hcount.symm
  · exact SoleQ.countsMatch (hproducer ▸ hsole) hq.symm

theorem outputsMatchQs_iff (g : QdqGraph F) (hs : g.QuantizeSchema) (node : NodeId)
    (selector : Selector) (u : OrtNodeUnit) (hrelies : selector.reliesOnCheckQDQNodes = true)
    (h : g.getOrtQDQSelection node selector = some u) (hqs : u.qNodes ≠ []) :
    g.OutputsMatchQs u ↔ g.EachOutputRead u :=
  (getOrtQDQSelection_countsMatch hrelies h hqs).outputs_defined_iff hs

end QdqGraph

theorem QdqGraph.ofRows_schema {rows : List QdqRow}
    (h : ∀ n ∈ (QdqGraph.ofRows rows).nodes, (QdqGraph.ofRows rows).isQ n = true →
      (((QdqGraph.ofRows rows).outputs n)[0]?.join).isSome = true) :
    (QdqGraph.ofRows rows).QuantizeSchema := by
  refine ⟨?_⟩
  intro q hq
  have hmem : q ∈ (QdqGraph.ofRows rows).nodes := by
    by_contra hno
    have hnone : (rows.find? fun r => r.node == q) = none := by
      rw [List.find?_eq_none]
      intro r hr he
      refine hno (mem_map.mpr ⟨r.toNodeRow,mem_map_of_mem hr,?_⟩)
      exact beq_iff_eq.mp he
    simp [QdqGraph.isQ,QdqGraph.operatorType,QdqGraph.ofRows,hnone] at hq
  have hout := h q hmem hq
  cases ho : (QdqGraph.ofRows rows).outputs q with
  | nil => simp [ho] at hout
  | cons v rest =>
    cases v with
    | none => simp [ho] at hout
    | some v =>
      refine ⟨v,rest,rfl,?_⟩
      change (exampleValue v).elemType.isSome = true
      unfold exampleValue
      dsimp only
      split <;> rfl

theorem outputsMatchQs_foldedClip :
    foldedClip.OutputsMatchQs ⟨.QDQGroup,1,[0],[3],some 2,none⟩ :=
  (QdqGraph.outputsMatchQs_iff foldedClip (QdqGraph.ofRows_schema (by decide)) 1 .unary
    ⟨.QDQGroup,1,[0],[3],some 2,none⟩ rfl (by decide) (by decide)).mpr ⟨by decide,by decide⟩

def splitTwiceRows : List QdqRow := [
  ⟨⟨0,[some 0,some 1,some 2],[some 3]⟩,"DequantizeLinear"⟩,
  ⟨⟨1,[some 3],[some 4,some 6]⟩,"Split"⟩,
  ⟨⟨2,[some 4,some 1,some 2],[some 5]⟩,"QuantizeLinear"⟩,
  ⟨⟨3,[some 4,some 1,some 2],[some 9]⟩,"QuantizeLinear"⟩]

def splitTwice : QdqGraph Int := .ofRows splitTwiceRows

theorem selectNode_splitTwice :
    splitTwice.QdqInputs ∧ splitTwice.QuantizeSchema ∧
      splitTwice.selectNode 1 = some ⟨.QDQGroup,1,[0],[2,3],none,none⟩ ∧
      splitTwice.valueConsumers 4 = [2,3] ∧ splitTwice.valueConsumers 6 = [] ∧
      ¬splitTwice.OutputsMatchQs ⟨.QDQGroup,1,[0],[2,3],none,none⟩ := by
  refine ⟨QdqGraph.ofRows_inputs (OrtGraph.ofRows_consistent (by decide) (by decide)) (by decide)
    (by decide) (by decide) (by decide),QdqGraph.ofRows_schema (by decide),by decide,by decide,
    by decide,?_⟩
  intro h
  have hconsumers := h.consumers
  revert hconsumers
  decide

end QnnEp.Qdq
