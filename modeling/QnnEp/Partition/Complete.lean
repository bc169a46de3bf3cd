import QnnEp.Partition.Groups

namespace QnnEp.Partition
open List Ort Phased UnitEdges

variable {inp : PartitionInput} {units : List OrtNodeUnit} {s : PartitionState}
  {order : List (OrtNodeUnit × Nat)} {k : Nat}

structure CleanPartition (inp : PartitionInput) (units : List OrtNodeUnit) : Prop where
  returns : ∃ enough, ∀ fuel, enough ≤ fuel →
    ∃ groups, createSupportedPartitionNodeGroups inp fuel = some (.ok groups)
  visits_once : ∃ s t visited, initInDegrees inp inp.graph.nodes .empty = .ok s ∧
    Run inp s visited t ∧ finished t = true ∧ visited.Perm (units.map OrtNodeUnit.targetNode)
  no_underflow : ∀ s t visited, initInDegrees inp inp.graph.nodes .empty = .ok s →
    Run inp s visited t → finished t = false → ∀ u ∈ units, visits inp t = some u.targetNode →
      ∀ x, hitsOf inp.nodeUnitMap (u.getOutputNodes inp.graph) x ≤ t.degree x

def ZeroQueued (units : List OrtNodeUnit) (s : PartitionState) (order : List (OrtNodeUnit × Nat)) :
    Prop :=
  ∀ u ∈ units, s.degree u.targetNode = 0 →
    u.targetNode ∈ order.map (fun p => p.1.targetNode) ++ queued s

def measure (units : List OrtNodeUnit) (s : PartitionState) (order : List (OrtNodeUnit × Nat)) :
    Nat × Nat × Nat :=
  (units.length - order.length,if s.supportedGroupBorder = ∅ then 0 else 1,s.nodesToProcess.length)

theorem order_length_le (hi : Inv inp units s order k) : order.length ≤ units.length := by
  have hsub : order.map Prod.fst ⊆ units := by
    intro u hu
    obtain ⟨p,hp,rfl⟩ := mem_map.mp hu
    exact hi.order_mem p hp
  simpa using (hi.order_nodup.subperm hsub).length_le

theorem step_progress (hi : Inv inp units s order k)
    (hv : ValidGrouping inp.graph units inp.nodeUnitMap) (hs : Sparse inp units)
    (hep : ∀ n ∈ inp.graph.nodes, (inp.nodeEpName n).isSome) (hz : ZeroQueued units s order)
    {t : PartitionState} {visited : Option NodeId} (h : StepCase inp units s order t visited) :
    ∃ order' k', Inv inp units t order' k' ∧ ZeroQueued units t order' ∧
      Prod.Lex (· < ·) (Prod.Lex (· < ·) (· < ·)) (measure units t order') (measure units s order) := by
  cases h with
  | nextGroup hr hn =>
    have hi' := startNextGroup_inv hi hr hn
    obtain ⟨x,hx⟩ := exists_mem_of_ne_nil _ hn
    have hb := hi.later x hx
    have hg := hi.border_group x hb
    have hsame : s.startNextGroup.inDegree = s.inDegree ∧ queued s.startNextGroup = queued s ∧
        s.startNextGroup.supportedGroupBorder = ∅ := by
      unfold PartitionState.startNextGroup PartitionState.closeGroup
      rw [if_neg (by simpa using hg)]
      simp [queued,hr]
    refine ⟨order,k+1,hi',?_,?_⟩
    · intro u hu hd
      rw [hsame.2.1]
      exact hz u hu (by simpa [PartitionState.degree,hsame.1] using hd)
    · refine .right _ (.left _ _ ?_)
      rw [hsame.2.2,if_pos rfl,if_neg (Finset.ne_empty_of_mem hb)]
      exact Nat.one_pos
  | drop hr hnone =>
    obtain ⟨u,hu,rfl,_,_⟩ := hi.head_unit hv hr
    have := hep _ ((hv.wellFormed u hu).mem_nodes _ u.target_mem)
    rw [hnone] at this
    cases this
  | defer hr hb =>
    refine ⟨order,k,deferNode_inv hi hr hb,?_,?_⟩
    · intro u hu hd
      have := hz u hu hd
      simp only [queued,hr,mem_append,mem_cons] at this ⊢
      tauto
    · refine .right _ (.right _ ?_)
      rw [hr]
      exact Nat.lt_succ_self _
  | process hu hr hnot hb hp =>
    have hi' := processed_inv hi hv hs hu hr hnot hb hp
    refine ⟨_,k,hi',?_,?_⟩
    · intro w hw hd
      rcases hp.added_of_zero _ hd with h | h
      · have := hz w hw h
        simp only [queued,hr,hp.queue,hp.nextQueue,map_append,map_cons,map_nil,
          mem_append,mem_cons] at this ⊢
        tauto
      · simp only [queued,hp.queue,mem_append]
        exact .inr (.inl (.inr h))
    · refine .left _ _ ?_
      have hle := order_length_le hi'
      rw [length_append,length_singleton] at hle ⊢
      omega

theorem loop_returns (hc : inp.graph.Consistent)
    (hv : ValidGrouping inp.graph units inp.nodeUnitMap) (hs : Sparse inp units)
    (hep : ∀ n ∈ inp.graph.nodes, (inp.nodeEpName n).isSome) {s₀ : PartitionState}
    {visited : List NodeId} (hi : Inv inp units s order k) (hz : ZeroQueued units s order)
    (hrun : Run inp s₀ visited s) :
    ∃ enough t order' k' visited', (∀ fuel, enough ≤ fuel → loop inp fuel s = some (.ok t)) ∧
      finished t = true ∧ Inv inp units t order' k' ∧ ZeroQueued units t order' ∧
      Run inp s₀ visited' t := by
  have hwf : WellFounded (InvImage (Prod.Lex (· < ·) (Prod.Lex (· < ·) (· < ·)))
      fun p : PartitionState × List (OrtNodeUnit × Nat) => measure units p.1 p.2) :=
    InvImage.wf _ (Prod.lex Nat.lt_wfRel (Prod.lex Nat.lt_wfRel Nat.lt_wfRel)).wf
  generalize hq : (s,order) = q
  induction q using hwf.induction generalizing s order k visited with
  | _ q ih =>
    subst hq
    cases hf : finished s with
    | true =>
      refine ⟨1,s,order,k,visited,?_,hf,hi,hz,hrun⟩
      intro fuel hle
      obtain ⟨fuel,rfl⟩ := Nat.exists_eq_add_of_le hle
      rw [Nat.add_comm,loop,if_pos hf]
    | false =>
      obtain ⟨t,hst,hcase⟩ := step_cases hi hc hv hs hf
      obtain ⟨order',k',hi',hz',hlt⟩ := step_progress hi hv hs hep hz hcase
      obtain ⟨enough,r,o,j,v,hl,hfin⟩ := ih (t,order') hlt hi' hz' (hrun.tail hf hst) rfl
      refine ⟨enough+1,r,o,j,v,?_,hfin⟩
      intro fuel hle
      obtain ⟨fuel,rfl⟩ : ∃ f, fuel = f+1 := ⟨fuel-1,by omega⟩
      rw [loop,if_neg (by simp [hf]),hst]
      exact hl fuel (by omega)

theorem queued_of_finished (hf : finished s = true) : queued s = [] := by
  simp only [finished,Bool.and_eq_true,List.isEmpty_iff] at hf
  simp [queued,hf.1,hf.2]

theorem occurrences_of_preds {g : OrtGraph} {ws : List OrtNodeUnit} (hn : ws.Nodup)
    (hu : units.Nodup) (hsub : ∀ w ∈ ws, w ∈ units) {u : OrtNodeUnit}
    (hp : ∀ w ∈ units, OccEdge g w u → w ∈ ws) : occurrences g units u = occurrences g ws u := by
  have hperm : units.Perm (ws ++ units.filter fun w => decide (w ∉ ws)) := by
    have hfil : (units.filter fun w => decide (w ∈ ws)).Perm ws := by
      rw [perm_ext_iff_of_nodup (hu.filter _) hn]
      intro w
      rw [mem_filter,decide_eq_true_eq]
      exact ⟨fun h => h.2,fun h => ⟨hsub w h,h⟩⟩
    have hsplit := (filter_append_perm (fun w => decide (w ∈ ws)) units).symm
    simp only [← decide_not] at hsplit
    exact hsplit.trans (hfil.append_right _)
  have hzero : occurrences g (units.filter fun w => decide (w ∉ ws)) u = 0 := by
    unfold occurrences
    rw [countP_eq_zero]
    intro n hmem hnu
    obtain ⟨w,hw,hnw⟩ := mem_flatMap.mp hmem
    rw [mem_filter,decide_eq_true_eq] at hw
    exact hw.2 (hp w hw.1 ⟨n,hnw,by simpa using hnu⟩)
  have hsum : occurrences g units u =
      occurrences g ws u + occurrences g (units.filter fun w => decide (w ∉ ws)) u := by
    unfold occurrences
    rw [(hperm.flatMap_right _).countP_eq,flatMap_append,countP_append]
  omega

theorem all_processed (hc : inp.graph.Consistent)
    (hv : ValidGrouping inp.graph units inp.nodeUnitMap)
    (heq : ∀ u ∈ units, u.getInputEdgesCount inp.graph = occurrences inp.graph units u)
    (hac : Acyclic fun w u => w ∈ units ∧ u ∈ units ∧ VisibleEdge inp.graph w u)
    (hi : Inv inp units s order k) (hz : ZeroQueued units s order) (hf : finished s = true) :
    (order.map Prod.fst).Perm units := by
  have hsub : ∀ w ∈ order.map Prod.fst, w ∈ units := by
    intro w hw
    obtain ⟨p,hp,rfl⟩ := mem_map.mp hw
    exact hi.order_mem p hp
  rw [perm_ext_iff_of_nodup hi.order_nodup (hv.nodup)]
  intro u
  refine ⟨hsub u,?_⟩
  by_contra hne
  obtain ⟨hu,hun⟩ := Classical.not_imp.mp hne
  have hrest : units.filter (fun w => decide (w ∉ order.map Prod.fst)) ≠ [] :=
    ne_nil_of_mem (mem_filter.mpr ⟨hu,by simpa using hun⟩)
  obtain ⟨x,hx,hmin⟩ := hac.exists_minimal hrest
  rw [mem_filter,decide_eq_true_eq] at hx
  have hpreds : ∀ w ∈ units, OccEdge inp.graph w x → w ∈ order.map Prod.fst := by
    intro w hw he
    by_contra hwn
    exact hmin w (mem_filter.mpr ⟨hw,by simpa using hwn⟩)
      ⟨hw,hx.1,(occEdge_iff_visible hc (hv.wellFormed w hw) (hv.wellFormed x hx.1)).mp he⟩
  have hocc := occurrences_of_preds hi.order_nodup (hv.nodup) hsub hpreds
  have hdeg := hi.degree x hx.1
  have hin := hz x hx.1 (by rw [heq x hx.1] at hdeg; omega)
  rw [queued_of_finished hf,append_nil,hi.mem_order_target hv hx.1] at hin
  exact hx.2 hin

theorem finish_ok (hi : Inv inp units s order k)
    (hv : ValidGrouping inp.graph units inp.nodeUnitMap)
    (hperm : (order.map Prod.fst).Perm units) :
    finish s = .ok s.closeGroup.supportedGroups := by
  have hnum : s.numNodesProcessed = s.inDegree.entries.length := by
    rw [hi.processed,keys_length hi hv,← hperm.length_eq,length_map]
  have hkeep : s.closeGroup.numNodesProcessed = s.numNodesProcessed ∧
      s.closeGroup.inDegree = s.inDegree := by
    unfold PartitionState.closeGroup
    split <;> exact ⟨rfl,rfl⟩
  unfold finish
  simp only [hkeep.1,hkeep.2]
  rw [if_neg (by simpa using hnum)]

theorem cleanPartition_of_balance (hc : inp.graph.Consistent)
    (hv : ValidGrouping inp.graph units inp.nodeUnitMap)
    (hep : ∀ n ∈ inp.graph.nodes, (inp.nodeEpName n).isSome)
    (heq : ∀ u ∈ units, u.getInputEdgesCount inp.graph = occurrences inp.graph units u)
    (hac : Acyclic fun w u => w ∈ units ∧ u ∈ units ∧ VisibleEdge inp.graph w u) :
    CleanPartition inp units := by
  have hs : Sparse inp units := fun u hu => (heq u hu).ge
  obtain ⟨s,hinit,hi,hroot⟩ := init_inv hc hv
  have hz : ZeroQueued units s [] := by
    intro u hu hd
    exact mem_append_right _ (mem_append_left _ (hroot u hu hd))
  obtain ⟨enough,t,order,k,visited,hloop,hf,hi',hz',hrun⟩ :=
    loop_returns hc hv hs hep hi hz (.refl s)
  have hperm := all_processed hc hv heq hac hi' hz' hf
  refine ⟨⟨enough,?_⟩,⟨s,t,visited,hinit,hrun,hf,?_⟩,?_⟩
  · intro fuel hle
    refine ⟨t.closeGroup.supportedGroups,?_⟩
    simp only [createSupportedPartitionNodeGroups,hinit,hloop fuel hle,Option.map_some,Except.bind,
      finish_ok hi' hv hperm]
  · obtain ⟨order',k',hi'',hvis⟩ := run_inv hc hv hs hi hrun
    have hlen : (order'.map Prod.fst).Perm units := by
      refine order_perm hi'' hv ?_
      rw [hi'.processed,keys_length hi' hv,← hperm.length_eq,length_map]
    have hmap := hlen.map OrtNodeUnit.targetNode
    rw [map_map] at hmap
    rw [← hvis]
    exact hmap
  · intro s' r visited' hinit' hrun' hfr u hu hvis x
    rw [hinit] at hinit'
    cases hinit'
    obtain ⟨order',k',hi'',_⟩ := run_inv hc hv hs hi hrun'
    obtain ⟨t',_,hcase⟩ := step_cases hi'' hc hv hs hfr
    revert hvis
    generalize visits inp r = o at hcase
    intro hvis
    cases hcase with
    | nextGroup | drop | defer => cases hvis
    | process hw _ hnot _ _ =>
      obtain rfl := hv.target_inj hw hu (Option.some.inj hvis)
      exact hi''.hits_le hv hs hw hnot x

theorem returns_groupsOk (hc : inp.graph.Consistent)
    (hv : ValidGrouping inp.graph units inp.nodeUnitMap) (hl : ∀ u ∈ units, u.Layered inp.graph)
    (hep : ∀ n ∈ inp.graph.nodes, (inp.nodeEpName n).isSome)
    (hab : ∀ u ∈ units, absorbedEdges inp.graph u = 0)
    (hvis : ∀ u ∈ units, ∀ e ∈ entering inp.graph u, outside u e.1 = true →
      ∃ w ∈ units, w.visible e.1 = true)
    (hac : Acyclic fun w u => w ∈ units ∧ u ∈ units ∧ VisibleEdge inp.graph w u) :
    ∃ groups enough, GroupsOk inp units groups ∧ ∀ fuel, enough ≤ fuel →
      createSupportedPartitionNodeGroups inp fuel = some (.ok groups) := by
  have hd : ∀ u ∈ units, u.getInputEdgesCount inp.graph = producerEdges inp.graph u := by
    intro u hu
    rw [producerEdges_eq (hl u hu) (hv.wellFormed u hu),hab u hu,Nat.add_zero]
  have heq : ∀ u ∈ units, u.getInputEdgesCount inp.graph = occurrences inp.graph units u := by
    intro u hu
    refine Nat.le_antisymm ?_ (sparse_of_producerEdges hc hv hl hd u hu)
    rw [hd u hu,producerEdges_eq_sum (hl u hu) (hv.wellFormed u hu) hc,
      occurrences_eq hv.wellFormed hu (fun w hw => hv.same_or_disjoint hu hw) hc]
    refine sum_le_sum fun e he => ?_
    split
    · next hout => exact exits_pos.mpr (hvis u hu e he hout)
    · exact Nat.zero_le _
  obtain ⟨s,hinit,hi,hroot⟩ := init_inv hc hv
  have hz : ZeroQueued units s [] :=
    fun u hu hdeg => mem_append_right _ (mem_append_left _ (hroot u hu hdeg))
  obtain ⟨enough,t,order,k,visited,hloop,hf,hi',hz',_⟩ :=
    loop_returns hc hv (fun u hu => (heq u hu).ge) hep hi hz (.refl s)
  have hperm := all_processed hc hv heq hac hi' hz' hf
  refine ⟨_,enough,groupsOk_of_inv hi' hc hv hl hd hperm,fun fuel hle => ?_⟩
  simp only [createSupportedPartitionNodeGroups,hinit,hloop fuel hle,Option.map_some,Except.bind,
    finish_ok hi' hv hperm]

theorem acyclic_of_cleanPartition (hc : inp.graph.Consistent)
    (hv : ValidGrouping inp.graph units inp.nodeUnitMap) (hs : Sparse inp units)
    (hcl : CleanPartition inp units) :
    Acyclic fun w u => w ∈ units ∧ u ∈ units ∧ VisibleEdge inp.graph w u := by
  obtain ⟨s,t,visited,hinit,hrun,_,hperm⟩ := hcl.visits_once
  obtain ⟨s',hinit',hi,_⟩ := init_inv hc hv
  rw [hinit] at hinit'
  cases hinit'
  obtain ⟨order,k,hi',hvis⟩ := run_inv hc hv hs hi hrun
  have hcover : ∀ u ∈ units, u ∈ order.map Prod.fst := by
    intro u hu
    rw [← hi'.mem_order_target hv hu,hvis,hperm.mem_iff]
    exact mem_map.mpr ⟨u,hu,rfl⟩
  have hph : PhasedOrder (fun w u => w ∈ units ∧ u ∈ units ∧ VisibleEdge inp.graph w u)
      (unitSupported inp) order := by
    refine hi'.phased.mono_edge ?_
    intro p _ q _ h
    exact (occEdge_iff_visible hc (hv.wellFormed _ h.1) (hv.wellFormed _ h.2.1)).mpr h.2.2
  exact hph.acyclic_of_cover fun w u h => ⟨hcover w h.1,hcover u h.2.1⟩

theorem getInputEdgesCount_exact_iff (inp : PartitionInput) (units : List OrtNodeUnit)
    (hc : inp.graph.Consistent) (hv : ValidGrouping inp.graph units inp.nodeUnitMap)
    (hep : ∀ n ∈ inp.graph.nodes, (inp.nodeEpName n).isSome) :
    ((∀ u ∈ units, u.getInputEdgesCount inp.graph = occurrences inp.graph units u) ∧
      CleanPartition inp units) ↔
    ((∀ u ∈ units, Balanced inp.graph units u) ∧
      Acyclic fun w u => w ∈ units ∧ u ∈ units ∧ VisibleEdge inp.graph w u) := by
  have hbal : ∀ u ∈ units, u.getInputEdgesCount inp.graph = occurrences inp.graph units u ↔
      Balanced inp.graph units u := fun u hu =>
    getInputEdgesCount_eq_occurrences_iff hv.wellFormed hu (fun w hw => hv.same_or_disjoint hu hw) hc
  constructor
  · rintro ⟨heq,hcl⟩
    exact ⟨fun u hu => (hbal u hu).mp (heq u hu),
      acyclic_of_cleanPartition hc hv (fun u hu => (heq u hu).ge) hcl⟩
  · rintro ⟨hab,hac⟩
    have heq := fun u hu => (hbal u hu).mpr (hab u hu)
    exact ⟨heq,cleanPartition_of_balance hc hv hep heq hac⟩

theorem getInputEdgesCount_branch :
    (∀ u ∈ branchUnits, u.getInputEdgesCount branchInput.graph =
      occurrences branchInput.graph branchUnits u) ∧ CleanPartition branchInput branchUnits := by
  have hrank : ∀ w ∈ branchUnits, ∀ u ∈ branchUnits, VisibleEdge branchInput.graph w u →
      w.targetNode < u.targetNode := by decide
  refine (getInputEdgesCount_exact_iff branchInput branchUnits
    (OrtGraph.ofRows_consistent (by decide) (by decide))
    (validGrouping_unitMap (by decide) (by decide) (by decide)) (by decide)).mpr ⟨by decide,?_⟩
  exact acyclic_of_rank OrtNodeUnit.targetNode fun w u h => hrank w h.1 u h.2.1 h.2.2

def computedClipRows : List NodeRow :=
  [⟨0,[some 10],[some 11]⟩,⟨1,[some 11],[some 12]⟩,⟨2,[some 16],[some 13]⟩,
    ⟨3,[some 12,some 13],[some 14]⟩,⟨4,[some 14],[some 15]⟩]

def computedClipUnits : List OrtNodeUnit :=
  [⟨.QDQGroup,1,[0],[4],some 3,none⟩,⟨.SingleNode,2,[],[],none,none⟩]

def computedClipInput : PartitionInput :=
  ⟨.ofRows computedClipRows,[1,2],"QNNExecutionProvider",unitMap computedClipUnits,fun _ => some ""⟩

theorem getInputEdgesCount_computedClip :
    computedClipInput.graph.Consistent ∧
      ValidGrouping computedClipInput.graph computedClipUnits computedClipInput.nodeUnitMap ∧
      Acyclic computedClipInput.graph.Feeds ∧
      ¬((∀ u ∈ computedClipUnits, u.getInputEdgesCount computedClipInput.graph =
          occurrences computedClipInput.graph computedClipUnits u) ∧
        CleanPartition computedClipInput computedClipUnits) := by
  refine ⟨OrtGraph.ofRows_consistent (by decide) (by decide),
    validGrouping_unitMap (by decide) (by decide) (by decide),feeds_acyclic (by decide),?_⟩
  rintro ⟨heq,_⟩
  exact absurd heq (by decide)

end QnnEp.Partition
