import QnnEp.Fusion.ReshapeGemm

namespace QnnEp.ReshapeGemm
open List NodeGroup Ort Partition Reading Shapes Status Tensors
variable {v reshaped : ValueId} {reshapes : List OrtNodeUnit}

section
variable {g : GemmGraph} {gemm inputReshape : OrtNodeUnit} {units : List OrtNodeUnit}

theorem inputs_single {env : FusionEnv} {u : OrtNodeUnit} {op : String} (hsingle : u.unitType = .SingleNode)
    (hop : env.unitOpType u = op) (hplain : op ≠ "DequantizeLinear" ∧ op ≠ "QuantizeLinear") :
    env.inputs u = env.graph.inputs u.targetNode ∧ env.outputs u = env.graph.outputs u.targetNode := by
  have hquantizer : env.isQuantizer u.targetNode = false := by
    rw [FusionEnv.isQuantizer,show env.opType u.targetNode = op from hop]
    simp [hplain]
  constructor
  · simp [FusionEnv.inputs,hsingle,hquantizer]
  · simp [FusionEnv.outputs,hsingle,hquantizer]

theorem parent_of_type {env : FusionEnv} {ops : List String} {w : OrtNodeUnit} {is : List (Option ValueId)}
    (h : env.getParentOfTypeAmong ops is = some w) :
    ∃ v p, some v ∈ is ∧ env.graph.valueProducer v = some p ∧ env.opType p ∈ ops ∧
      env.nodeUnitMap p = some w ∧ w.unitType = .SingleNode := by
  induction is with
  | nil => cases h
  | cons i rest ih =>
    have hlift : env.getParentOfTypeAmong ops rest = some w →
        ∃ v p, some v ∈ i :: rest ∧ env.graph.valueProducer v = some p ∧ env.opType p ∈ ops ∧
          env.nodeUnitMap p = some w ∧ w.unitType = .SingleNode := by
      intro hrest
      obtain ⟨v,p,hv,hp⟩ := ih hrest
      exact ⟨v,p,mem_cons_of_mem i hv,hp⟩
    unfold FusionEnv.getParentOfTypeAmong at h
    split at h
    · exact hlift h
    · next p hproducer =>
      split at h
      · cases h
      · split at h
        · exact hlift h
        · next hop =>
          obtain ⟨v,rfl,hv⟩ := Option.bind_eq_some_iff.mp hproducer
          obtain ⟨hmap,hstandalone⟩ := Option.filter_eq_some_iff.mp h
          refine ⟨v,p,mem_cons_self,hv,?_,hmap,?_⟩
          · simpa using hop
          · exact beq_iff_eq.mp (Bool.and_eq_true_iff.mp hstandalone).2

structure Head (g : GemmGraph) (gemm inputReshape : OrtNodeUnit) (v : ValueId) : Prop where
  read : some v ∈ g.env.graph.inputs gemm.targetNode
  produced : g.env.graph.valueProducer v = some inputReshape.targetNode
  outputs : g.env.outputs inputReshape = g.env.graph.outputs inputReshape.targetNode

theorem head_of_parent (hv : ValidGrouping g.env.graph units g.env.nodeUnitMap)
    (h : g.getInputReshapeNodeUnit gemm = some inputReshape) : ∃ v, Head g gemm inputReshape v := by
  obtain ⟨v,p,hread,hproduced,hop,hmap,hsingle⟩ := parent_of_type h
  obtain ⟨hmem,hnode⟩ := (hv.map_iff p inputReshape).mp hmap
  rw [(hv.wellFormed inputReshape hmem).single hsingle] at hnode
  obtain rfl := mem_singleton.mp hnode
  have hplain : g.env.unitOpType inputReshape ≠ "DequantizeLinear" ∧
      g.env.unitOpType inputReshape ≠ "QuantizeLinear" := by
    simp only [mem_cons,not_mem_nil,or_false] at hop
    rcases hop with hop | hop
    · rw [FusionEnv.unitOpType,hop]
      decide
    · rw [FusionEnv.unitOpType,hop]
      decide
  exact ⟨v,hread,hproduced,(inputs_single hsingle rfl hplain).2⟩

theorem not_read_twice (hc : g.env.graph.Consistent) (hmem : gemm.targetNode ∈ g.env.graph.nodes)
    (hout : (g.env.graph.outputs inputReshape.targetNode).head?.join = some v)
    (hshared : g.inputReshapeIsShared inputReshape = false) :
    (g.env.graph.inputs gemm.targetNode).count (some v) ≤ 1 := by
  rw [GemmGraph.inputReshapeIsShared,hout] at hshared
  have hlength := of_decide_eq_false hshared
  have hcount := hc.consumers_count v gemm.targetNode hmem
  have hle := count_le_length (a := gemm.targetNode) (l := g.env.graph.valueConsumers v)
  omega

end

section
variable {x w a : Tensor ℚ} {bias : Option (Tensor ℚ)} {m k n : Nat}

theorem fullyConnected_same (hk : 0 < k) (hw : w.shape = [k,n]) (ha : a = x.reshape [m,k])
    (hcount : [m,k].prod = x.shape.prod) :
    (fullyConnected x (w.transpose [1,0]) bias).Same (gemmValue a w bias) := by
  have hswap : [1,0].Perm (List.range 2) := by decide
  have hperm : [1,0].Perm (List.range w.shape.length) := hw.symm ▸ hswap
  have htransposed : (w.transpose [1,0]).shape = [n,k] := by
    change gather [1,0] w.shape = _
    rw [hw]
    rfl
  have hrows : x.shape.prod / k = m := by
    rw [← hcount]
    simp [hk]
  have hshape : (gemmValue a w bias).shape = [m,n] := by
    rw [gemmValue,ha,hw]
    rfl
  refine ⟨?_,fun idx hidx => ?_⟩
  · rw [hshape,fullyConnected,htransposed]
    change [x.shape.prod / k,n] = _
    rw [hrows]
  · rw [hshape] at hidx
    obtain _ | @⟨i,_,_,_,hi,hidx⟩ := hidx
    obtain _ | @⟨j,_,_,_,hj,hidx⟩ := hidx
    obtain _ | _ := hidx
    change ∑ l ∈ Finset.range ((w.transpose [1,0]).shape.getD 1 0),
        x.get (unravel x.shape (i * (w.transpose [1,0]).shape.getD 1 0 + l)) * (w.transpose [1,0]).get [j,l] +
          biasAt bias [i,j] =
      ∑ l ∈ Finset.range (w.shape.getD 0 0), a.get [i,l] * w.get [l,j] + biasAt bias [i,j]
    rw [htransposed,hw,ha]
    congr 1
    refine Finset.sum_congr rfl fun l _ => ?_
    have hlength : [l,j].length = w.shape.length := hw.symm ▸ rfl
    have hentry : (w.transpose [1,0]).get [j,l] = w.get [l,j] := Tensor.transpose_get_gather hperm hlength
    rw [hentry]
    change x.get (unravel x.shape (i * k + l)) * _ = x.get (unravel x.shape (i * (k * 1) + (l * 1 + 0))) * _
    rw [Nat.mul_one,Nat.mul_one,Nat.add_zero]

theorem reshapesHold_same {env : FusionEnv} {values : ValueId → Tensor ℚ} {final : ValueId}
    (h : ReshapesHold env values v reshapes final) :
    (values final).shape.prod = (values v).shape.prod ∧
      (values final).Same ((values v).reshape (values final).shape) := by
  induction reshapes generalizing v with
  | nil =>
    obtain rfl := h
    exact ⟨rfl,(reshape_self _).symm⟩
  | cons reshape reshapes ih =>
    obtain ⟨next,_,hnext,hrest⟩ := h
    obtain ⟨hprod,hsame⟩ := ih hrest
    refine ⟨hprod.trans hnext.count,hsame.trans ?_⟩
    rw [hnext.value]
    exact reshape_reshape hnext.count _ hprod

end

section
variable {g : GemmGraph} {values : ValueId → Tensor ℚ} {gemm inputReshape : OrtNodeUnit}
  {units outputReshapes all : List OrtNodeUnit} {a w final : ValueId} {c : Option ValueId} {count : Nat}
  {fc : FusedFC}

structure Accepted (g : GemmGraph) (inputReshape gemm : OrtNodeUnit) (outputReshapes : List OrtNodeUnit)
    (fc : FusedFC) : Prop where
  standalone : isStandalone g.env "Gemm" gemm = true
  head : g.getInputReshapeNodeUnit gemm = some inputReshape
  unshared : g.inputReshapeIsShared inputReshape = false
  weight : ∃ w, ((g.env.inputs gemm)[1]?).join = some w ∧ 0 < g.getWeightInputChannel w
  created : g.createOrValidateFusedFCOnQnn (inputReshape :: gemm :: outputReshapes) = some fc

theorem accepted_of_tryFusion
    (h : g.tryFusion count gemm = some (inputReshape :: gemm :: outputReshapes,fc)) :
    Accepted g inputReshape gemm outputReshapes fc := by
  simp only [GemmGraph.tryFusion,Option.bind_eq_bind,Option.bind_eq_some_iff,require_eq_some] at h
  obtain ⟨_,_,_,hvalid,head,hhead,_,hshared,reshapes,_,weight,hweight,_,hchannel,_,_,made,hmade,_,_,h⟩ := h
  obtain ⟨hunits,rfl⟩ := Prod.mk.inj (Option.some.inj h)
  obtain ⟨rfl,hrest⟩ := List.cons.inj hunits
  obtain ⟨_,rfl⟩ := List.cons.inj hrest
  simp only [GemmGraph.isValidGemmForFusion,Bool.and_eq_true] at hvalid
  exact ⟨hvalid.1.1.1.1.1.2,hhead,by simpa using hshared,⟨weight,hweight,of_decide_eq_true hchannel⟩,hmade⟩

theorem created_operands (h : g.createOrValidateFusedFCOnQnn (inputReshape :: gemm :: outputReshapes) = some fc)
    (hinputs : g.env.inputs gemm = some a :: some w :: c.toList.map some) :
    (g.env.inputs inputReshape).head?.join = some fc.input ∧ fc.weight = w ∧ fc.bias = c ∧
      (output0 g.env gemm).bind g.env.shape = some fc.fcOutputShape ∧
      ((outputReshapes = [] ∧ fc.finalOutputShape = none) ∨ ∃ last dims, outputReshapes.getLast? = some last ∧
        (output0 g.env last).bind g.env.shape = some dims ∧ fc.finalOutputShape = some dims) := by
  rw [GemmGraph.createOrValidateFusedFCOnQnn,hinputs] at h
  obtain ⟨x,hx,h⟩ := Option.bind_eq_some_iff.mp h
  obtain ⟨weight,hweight,h⟩ := Option.bind_eq_some_iff.mp h
  obtain ⟨dims,hdims,h⟩ := Option.bind_eq_some_iff.mp h
  obtain rfl := Option.some.inj hweight
  have hbias : ((some a :: some w :: c.toList.map some)[2]?).join = c := by cases c <;> rfl
  rw [hbias] at h
  cases hlast : outputReshapes.getLast? with
  | none =>
    rw [hlast] at h
    obtain rfl := Option.some.inj h
    exact ⟨hx,rfl,rfl,hdims,.inl ⟨List.getLast?_eq_none_iff.mp hlast,rfl⟩⟩
  | some last =>
    rw [hlast] at h
    obtain ⟨finalDims,hfinal,h⟩ := Option.bind_eq_some_iff.mp h
    obtain rfl := Option.some.inj h
    exact ⟨hx,rfl,rfl,hdims,.inr ⟨last,finalDims,rfl,hfinal,rfl⟩⟩

theorem available_iff : availableTo g.env all v = true ↔ ∀ u ∈ all, some v ∉ g.env.outputs u := by
  simp [availableTo]

theorem head_feeds_of_run (hacc : Accepted g inputReshape gemm outputReshapes fc)
    (hv : ValidGrouping g.env.graph units g.env.nodeUnitMap) (hc : g.env.graph.Consistent)
    (hholds : GemmHolds g values inputReshape gemm outputReshapes a w c final)
    (hrun : ∀ v ∈ fc.operands, availableTo g.env (inputReshape :: gemm :: outputReshapes) v = true) :
    g.env.graph.valueProducer a = some inputReshape.targetNode := by
  obtain ⟨v,hhead⟩ := head_of_parent hv hacc.head
  have hstandalone := hacc.standalone
  rw [isStandalone,Bool.and_eq_true,beq_iff_eq,beq_iff_eq] at hstandalone
  have hinputs := (inputs_single hstandalone.2 hstandalone.1 (by decide)).1
  obtain ⟨_,hweight,hbias,_⟩ := created_operands hacc.created hholds.gemmInputs
  have hdropped : ∀ u, u ∈ fc.operands → u ≠ v := by
    rintro u hu rfl
    refine available_iff.mp (hrun u hu) inputReshape mem_cons_self ?_
    rw [hhead.outputs]
    exact ((hc.producer_iff u _).mp hhead.produced).2
  have hread := hhead.read
  rw [← hinputs,hholds.gemmInputs] at hread
  simp only [mem_cons,Option.some.injEq,mem_map,Option.mem_toList] at hread
  rcases hread with rfl | rfl | ⟨u,hu,rfl⟩
  · exact hhead.produced
  · exact absurd hweight (hdropped _ (mem_cons_of_mem _ mem_cons_self))
  · refine absurd rfl (hdropped u (mem_cons_of_mem _ (mem_cons_of_mem _ ?_)))
    rw [hbias]
    exact Option.mem_toList.mpr hu

theorem gemm_reads_once (hacc : Accepted g inputReshape gemm outputReshapes fc)
    (hv : ValidGrouping g.env.graph units g.env.nodeUnitMap) (hc : g.env.graph.Consistent) (hgemm : gemm ∈ units)
    (hholds : GemmHolds g values inputReshape gemm outputReshapes a w c final)
    (hfeeds : g.env.graph.valueProducer a = some inputReshape.targetNode) :
    g.env.outputs inputReshape = [some a] ∧ w ≠ a ∧ c ≠ some a := by
  obtain ⟨v,hhead⟩ := head_of_parent hv hacc.head
  obtain ⟨x,r,_,hout,_⟩ := hholds.reshape
  have hmem := ((hc.producer_iff a _).mp hfeeds).2
  rw [← hhead.outputs,hout] at hmem
  obtain rfl := Option.some.inj (mem_singleton.mp hmem)
  have hstandalone := hacc.standalone
  rw [isStandalone,Bool.and_eq_true,beq_iff_eq,beq_iff_eq] at hstandalone
  have hnode : gemm.targetNode ∈ g.env.graph.nodes := by
    have hwell := hv.wellFormed gemm hgemm
    exact hwell.mem_nodes _ (hwell.single hstandalone.2 ▸ mem_singleton_self _)
  have hcount := not_read_twice hc hnode (by rw [← hhead.outputs,hout]; rfl) hacc.unshared
  rw [← (inputs_single hstandalone.2 hstandalone.1 (by decide)).1,hholds.gemmInputs,
    count_cons_self] at hcount
  have hrest : (some w :: c.toList.map some).count (some a) = 0 := by omega
  have hnot := count_eq_zero.mp hrest
  rw [mem_cons,not_or] at hnot
  refine ⟨hout,fun heq => hnot.1 (heq ▸ rfl),fun heq => hnot.2 ?_⟩
  rw [heq]
  exact mem_singleton_self _

theorem operands_available (hacc : Accepted g inputReshape gemm outputReshapes fc)
    (hholds : GemmHolds g values inputReshape gemm outputReshapes a w c final)
    (hhead : g.env.outputs inputReshape = [some a]) (hw : w ≠ a) (hbias : c ≠ some a) :
    ∀ v ∈ fc.operands, availableTo g.env (inputReshape :: gemm :: outputReshapes) v = true := by
  obtain ⟨hinput,hweight,hcreated,_⟩ := created_operands hacc.created hholds.gemmInputs
  have hread : some fc.input ∈ g.env.inputs inputReshape :=
    mem_of_mem_head? (Option.join_eq_some_iff.mp hinput)
  intro v hv
  refine available_iff.mpr fun u hu hout => ?_
  have hgemm : v ≠ fc.input → some v ∈ g.env.inputs gemm ∧ v ≠ a := by
    intro hne
    rw [FusedFC.operands,mem_cons,mem_cons,Option.mem_toList,hweight,hcreated] at hv
    rw [hholds.gemmInputs]
    rcases hv with hv | rfl | hv
    · exact absurd hv hne
    · exact ⟨mem_cons_of_mem _ mem_cons_self,hw⟩
    · refine ⟨mem_cons_of_mem _ (mem_cons_of_mem _ (mem_map_of_mem (Option.mem_toList.mpr hv))),?_⟩
      rintro rfl
      exact hbias hv
  rcases mem_cons.mp hu with rfl | hu
  · by_cases hcase : v = fc.input
    · exact hholds.forward v hout (hcase ▸ hread)
    · rw [hhead] at hout
      exact (hgemm hcase).2 (Option.some.inj (mem_singleton.mp hout))
  · obtain ⟨hnot,hnot'⟩ := hholds.noFeedback u hu v hout
    by_cases hcase : v = fc.input
    · exact hnot (hcase ▸ hread)
    · exact hnot' (hgemm hcase).1

theorem reshapesHold_last {env : FusionEnv} {last : OrtNodeUnit}
    (h : ReshapesHold env values v reshapes final) (hlast : reshapes.getLast? = some last) :
    output0 env last = some final := by
  induction reshapes generalizing v with
  | nil => cases hlast
  | cons reshape reshapes ih =>
    obtain ⟨next,hout,_,hrest⟩ := h
    cases reshapes with
    | nil =>
      obtain rfl := hrest
      obtain rfl := Option.some.inj hlast
      exact hout
    | cons reshape' reshapes => exact ih hrest (by rwa [List.getLast?_cons_cons] at hlast)

theorem weight_channel {k n : Nat} (hshape : ∀ dims, g.env.shape w = some dims → dims = [k,n])
    (hpos : 0 < g.getWeightInputChannel w) : 0 < k := by
  unfold GemmGraph.getWeightInputChannel at hpos
  split at hpos
  · next k' _ hdims =>
    obtain ⟨rfl,_⟩ := List.cons.inj (hshape _ hdims)
    omega
  · cases hpos

theorem run_of_feeds (hacc : Accepted g inputReshape gemm outputReshapes fc)
    (hholds : GemmHolds g values inputReshape gemm outputReshapes a w c final)
    (hhead : g.env.outputs inputReshape = [some a]) (hw : w ≠ a) (hbias : c ≠ some a) :
    ∃ t, fc.run values (availableTo g.env (inputReshape :: gemm :: outputReshapes)) = some t ∧
      t.Same (qnnValue (values final)) := by
  have hoperands := operands_available hacc hholds hhead hw hbias
  obtain ⟨hinput,hweight,hcreated,hfc,hfinal⟩ := created_operands hacc.created hholds.gemmInputs
  obtain ⟨m,k,n,ha,hwshape⟩ := hholds.gemmTyped
  obtain ⟨out,hout,hvalue,hreshapes⟩ := hholds.gemmOutput
  obtain ⟨x,r,hx,hr,hreshape⟩ := hholds.reshape
  obtain rfl := Option.some.inj (hinput.symm.trans hx)
  obtain rfl : r = a := by
    rw [hr] at hhead
    exact Option.some.inj (List.cons.inj hhead).1
  have hk : 0 < k := by
    obtain ⟨w',hw',hpos⟩ := hacc.weight
    rw [hholds.gemmInputs] at hw'
    obtain rfl := Option.some.inj hw'
    refine weight_channel (n := n) (fun dims hdims => ?_) hpos
    rw [hholds.shapes w dims hdims,hwshape]
    rfl
  have hcount : [m,k].prod = (values fc.input).shape.prod := ha ▸ hreshape.count
  have hsame : (fullyConnected (values fc.input) ((values w).transpose [1,0]) (c.map values)).Same
      (gemmValue (values r) (values w) (c.map values)) :=
    fullyConnected_same hk hwshape (ha ▸ hreshape.value) hcount
  rw [← hvalue] at hsame
  have hshape : (values out).shape = [m,n] := by
    rw [hvalue,gemmValue,ha,hwshape]
    rfl
  have hfcShape : fc.fcOutputShape = [m,n] := by
    rw [hout,Option.bind_some] at hfc
    rw [hholds.shapes out _ hfc,hshape]
    rfl
  have htransposed : ((values w).transpose [1,0]).shape.getD 1 0 = k := by
    change (gather [1,0] (values w).shape).getD 1 0 = k
    rw [hwshape]
    rfl
  have hvalid : 0 < ((values w).transpose [1,0]).shape.getD 1 0 ∧
      ((values w).transpose [1,0]).shape.getD 1 0 ∣ (values fc.input).shape.prod ∧
      (fullyConnected (values fc.input) ((values w).transpose [1,0]) (c.map values)).shape =
        fc.fcOutputShape := by
    rw [htransposed,hsame.1,hshape,hfcShape,← hcount]
    exact ⟨hk,⟨m,by simp [Nat.mul_comm]⟩,rfl⟩
  obtain ⟨hprod,hlast⟩ := reshapesHold_same hreshapes
  rw [FusedFC.run,hweight,hcreated]
  rcases hfinal with ⟨rfl,hnone⟩ | ⟨last,dims,hlastUnit,hdims,hsome⟩
  · obtain rfl := hreshapes
    refine ⟨_,guard_bind_some.mpr ⟨hoperands,guard_bind_some.mpr ⟨hvalid,by rw [hnone]; rfl⟩⟩,?_⟩
    have hrank : qnnShape (values final).shape = (values final).shape := by rw [hshape]; rfl
    rw [qnnValue,hrank]
    exact hsame.trans (reshape_self _).symm
  · rw [reshapesHold_last hreshapes hlastUnit,Option.bind_some] at hdims
    obtain rfl := hholds.shapes final dims hdims
    have hqnn : (qnnShape (values final).shape).prod = (values out).shape.prod := by
      rw [prod_qnnShape,hprod]
    refine ⟨(fullyConnected (values fc.input) ((values w).transpose [1,0]) (c.map values)).reshape
      (qnnShape (values final).shape),guard_bind_some.mpr ⟨hoperands,guard_bind_some.mpr ⟨hvalid,?_⟩⟩,?_⟩
    · rw [hsome]
      exact guard_bind_some.mpr ⟨by rw [hsame.1,hqnn],rfl⟩
    · refine (hsame.reshape hqnn).trans ?_
      rw [qnnValue]
      exact ((hlast.reshape (prod_qnnShape _)).trans (reshape_reshape hprod _ (prod_qnnShape _))).symm

theorem fused_fc_computes_iff (hv : ValidGrouping g.env.graph units g.env.nodeUnitMap)
    (hc : g.env.graph.Consistent) (hgemm : gemm ∈ units)
    (h : g.tryFusion count gemm = some (inputReshape :: gemm :: outputReshapes,fc))
    (hholds : GemmHolds g values inputReshape gemm outputReshapes a w c final) :
    (∃ t, fc.run values (availableTo g.env (inputReshape :: gemm :: outputReshapes)) = some t ∧
        t.Same (qnnValue (values final))) ↔
      g.env.graph.valueProducer a = some inputReshape.targetNode := by
  have hacc := accepted_of_tryFusion h
  constructor
  · rintro ⟨t,hrun,_⟩
    exact head_feeds_of_run hacc hv hc hholds (guard_bind_some.mp hrun).1
  · intro hfeeds
    obtain ⟨hhead,hw,hbias⟩ := gemm_reads_once hacc hv hc hgemm hholds hfeeds
    exact run_of_feeds hacc hholds hhead hw hbias

end

def gemmRows (reshaped : ValueId) : List NodeRow :=
  [⟨0,[some 10,some 11],[some reshaped]⟩,⟨1,[some 12,some 13,some 14],[some 15]⟩]

def gemmUnits : List OrtNodeUnit := [singleUnit 0,singleUnit 1]

def sampleShape (v : ValueId) : Option (List Nat) :=
  if v = 10 then some [4] else if v ∈ [12,13,14,15] then some [2,2] else none

def sampleGraph (reshaped : ValueId) : GemmGraph where
  env := {
    graph := .ofRows (gemmRows reshaped)
    opType := fun n => ["Reshape","Gemm"].getD n ""
    isGraphOutput := fun v => v == 15
    shape := sampleShape
    nodeUnitMap := unitMap gemmUnits
    claimed := fun _ => none }
  useNativeMatmul := false
  isGpuBackend := false
  transA _ := 0
  transB _ := 0
  alpha _ := 1
  beta _ := 1
  isConstantInput v := v == 13
  isQuantized _ := false
  dims v := (sampleShape v).map ints
  validates _ := true

def sampleInput (reshaped v : ValueId) : Tensor ℚ :=
  let x : Tensor ℚ := Tensor.ofFlat [4] fun i => i
  if v = 10 then x else if v = reshaped then x.reshape [2,2] else ⟨[2,2],fun _ => 1⟩

def sampleValues (reshaped v : ValueId) : Tensor ℚ :=
  if v = 15 then gemmValue (sampleInput reshaped 12) (sampleInput reshaped 13) (some (sampleInput reshaped 14))
  else sampleInput reshaped v

def sampleFC : FusedFC := ⟨10,13,some 14,[2,2],none⟩

theorem sampleValues_shape {dims : List Nat} (h : sampleShape v = some dims) :
    dims ≠ [] ∧ dims = (sampleValues reshaped v).shape := by
  have hsquare : ∀ v ∈ [12,13,14,15], (sampleValues reshaped v).shape = [2,2] := by
    have hinput : ∀ v, v ≠ 10 → (sampleInput reshaped v).shape = [2,2] := by
      intro v hv
      simp only [sampleInput,if_neg hv]
      split_ifs <;> rfl
    intro v hv
    unfold sampleValues
    split_ifs
    · simp [gemmValue,hinput]
    · exact hinput v (by rintro rfl; revert hv; decide)
  unfold sampleShape at h
  split_ifs at h with hx hv
  · obtain rfl := Option.some.inj h
    exact ⟨by decide,by subst hx; rfl⟩
  · obtain rfl := Option.some.inj h
    exact ⟨by decide,(hsquare v hv).symm⟩

theorem sample_holds (h : reshaped = 12 ∨ reshaped = 14) :
    GemmHolds (sampleGraph reshaped) (sampleValues reshaped) (singleUnit 0) (singleUnit 1) [] 12 13 (some 14)
      15 where
  shapes v dims hdims := by
    obtain ⟨hne,hshape⟩ : dims ≠ [] ∧ dims = (sampleValues reshaped v).shape := sampleValues_shape hdims
    rw [← hshape]
    cases dims with
    | nil => exact absurd rfl hne
    | cons d dims => rfl
  declared v dims hdims := by
    obtain ⟨shape,hshape,rfl⟩ := Option.map_eq_some_iff.mp hdims
    exact congrArg ints (sampleValues_shape hshape).2
  gemmInputs := rfl
  gemmTyped := ⟨2,2,2,(sampleValues_shape (v := 12) rfl).2.symm,(sampleValues_shape (v := 13) rfl).2.symm⟩
  gemmOutput := ⟨15,rfl,rfl,rfl⟩
  reshape := by
    refine ⟨10,reshaped,rfl,rfl,?_,?_⟩
    · rcases h with rfl | rfl <;> rfl
    · rcases h with rfl | rfl <;> rfl
  forward := by
    intro v hv
    obtain rfl : v = reshaped := Option.some.inj (mem_singleton.mp hv)
    rcases h with rfl | rfl <;> decide
  noFeedback := by
    intro u hu v hv
    obtain rfl := mem_singleton.mp hu
    obtain rfl : v = 15 := Option.some.inj (mem_singleton.mp hv)
    exact ⟨(by decide : some 15 ∉ [some 10,some 11]),(by decide : some 15 ∉ [some 12,some 13,some 14])⟩

theorem sample_valid (h : reshaped = 12 ∨ reshaped = 14) :
    (sampleGraph reshaped).env.graph.Consistent ∧
      ValidGrouping (sampleGraph reshaped).env.graph gemmUnits (sampleGraph reshaped).env.nodeUnitMap := by
  rcases h with rfl | rfl
  · exact ⟨OrtGraph.ofRows_consistent (by decide) (by decide),
      validGrouping_unitMap (by decide) (by decide) (by decide)⟩
  · exact ⟨OrtGraph.ofRows_consistent (by decide) (by decide),
      validGrouping_unitMap (by decide) (by decide) (by decide)⟩

theorem fused_fc_computes_gemm :
    (sampleGraph 12).tryFusion2 (singleUnit 1) = some (gemmUnits,sampleFC) ∧
      ∃ t, sampleFC.run (sampleValues 12) (availableTo (sampleGraph 12).env gemmUnits) = some t ∧
        t.Same (qnnValue (sampleValues 12 15)) := by
  have hfused : (sampleGraph 12).tryFusion 0 (singleUnit 1) = some (gemmUnits,sampleFC) := by decide
  obtain ⟨hc,hv⟩ := sample_valid (.inl rfl : (12 : ValueId) = 12 ∨ 12 = 14)
  exact ⟨hfused,(fused_fc_computes_iff hv hc (by decide) hfused (sample_holds (.inl rfl))).mpr rfl⟩

theorem reshaped_bias_misread :
    (sampleGraph 14).tryFusion2 (singleUnit 1) = some (gemmUnits,sampleFC) ∧
      GemmHolds (sampleGraph 14) (sampleValues 14) (singleUnit 0) (singleUnit 1) [] 12 13 (some 14) 15 ∧
      ¬∃ t, sampleFC.run (sampleValues 14) (availableTo (sampleGraph 14).env gemmUnits) = some t ∧
        t.Same (qnnValue (sampleValues 14 15)) := by
  refine ⟨by decide,sample_holds (.inr rfl),?_⟩
  rintro ⟨t,hrun,_⟩
  have hread := (guard_bind_some.mp hrun).1 14 (by decide)
  revert hread
  decide

end QnnEp.ReshapeGemm
