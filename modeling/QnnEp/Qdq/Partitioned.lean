import QnnEp.Partition.Complete
import QnnEp.Qdq.NodeUnits

namespace QnnEp.Qdq
open Ort Partition Phased Relation UnitEdges

namespace QdqGraph
variable {F : Type} {g : QdqGraph F}

theorem Sole.eq_of_edge {n c m : NodeId} (h : g.Sole n c) (hc : g.Consistent) (hn : n ∈ g.nodes)
    (hm : m ∈ g.nodes) (he : g.Edge n m) : m = c := by
  obtain ⟨v,hv,hcons⟩ := h
  have hpos : 0 < (g.getConsumers n).count m := by
    rw [g.count_getConsumers hc hn hm]
    exact he
  simpa [OrtGraph.getConsumers,hv,List.reduceOption,hcons] using List.count_pos_iff.mp hpos

structure ThroughOutput (g : QdqGraph F) (u : OrtNodeUnit) : Prop where
  enters : ∀ x y, x ∉ u.getAllNodesInGroup → y ∈ u.getAllNodesInGroup → g.Edge x y →
    ReflTransGen g.Feeds y u.outputProducer
  reaches : ∀ x, u.visible x = true → ReflTransGen g.Feeds u.outputProducer x
  leaves : ∀ x y, x ∈ u.getAllNodesInGroup → y ∈ g.nodes → y ∉ u.getAllNodesInGroup → g.Edge x y →
    u.visible x = true

theorem singleNode_throughOutput (n : NodeId) : g.ThroughOutput (singleNode n) := by
  constructor <;> simp +contextual [OrtNodeUnit.visible,singleNode,OrtNodeUnit.outputProducer,
    OrtNodeUnit.getAllNodesInGroup,ReflTransGen.refl]

variable [FloatArith F]

namespace Selected
variable {s : OrtNodeUnit}

theorem chain_sole (hs : Selected g s) {n : NodeId} (hn : n ∈ chain s) :
    n = s.outputProducer ∨ ∃ c ∈ chain s, g.Sole n c := by
  have hcases := outputExtension_cases g s.targetNode
  rw [hs.extension] at hcases
  dsimp only at hcases
  generalize hr : s.outputReshapeNode = reshape at hcases
  generalize hl : s.redundantClipNode = clip at hcases
  simp only [mem_chain,OrtNodeUnit.outputProducer,hr,hl] at hn ⊢
  cases hcases <;> grind

theorem throughOutput (hg : g.QdqInputs) (hs : Selected g s) (ht : s.targetNode ∈ g.nodes) :
    g.ThroughOutput s := by
  have htarget : s.targetNode ∈ chain s := mem_chain.mpr (.inl rfl)
  refine ⟨fun x y hx hy he => ?_,fun x hx => ?_,fun x y hx hy hout he => ?_⟩
  · rw [all_eq_chain,List.mem_append,List.mem_append] at hy
    rcases hy with hy | hy | hy
    · exact .head (dq_to_target hg hs ht hy) (chain_to_outputProducer hg hs ht htarget)
    · exact chain_to_outputProducer hg hs ht hy
    · obtain ⟨hyn,hisQ,hye⟩ := (mem_qNodes hg hs ht).mp hy
      exact (hx (hg.q_producer hyn hisQ hye he ▸ s.outputProducer_mem)).elim
  · simp only [OrtNodeUnit.visible,Bool.or_eq_true,beq_iff_eq,decide_eq_true_eq] at hx
    rcases hx with rfl | hx
    · exact .refl
    · obtain ⟨hxn,_,hxe⟩ := (mem_qNodes hg hs ht).mp hx
      exact .single ⟨hxn,hxe⟩
  · simp only [OrtNodeUnit.visible,Bool.or_eq_true,beq_iff_eq,decide_eq_true_eq]
    have hxn := all_mem_nodes hg hs ht hx
    rw [all_eq_chain,List.mem_append,List.mem_append] at hx hout
    rcases hx with hx | hx | hx
    · obtain ⟨_,hdq,hxe⟩ := (mem_dqNodes hg hs).mp hx
      rw [hg.dq_consumer hxn hdq hy ht he hxe] at hout
      exact (hout (.inr (.inl htarget))).elim
    · rcases hs.chain_sole hx with hx | ⟨c,hcs,hsole⟩
      · exact .inl hx
      · rw [hsole.eq_of_edge hg.consistent hxn hy he] at hout
        exact (hout (.inr (.inl hcs))).elim
    · exact .inr hx

end Selected

section
variable (hg : g.QdqInputs) (ho : g.AbsorbedOnce)
include hg

theorem unit_throughOutput {u : OrtNodeUnit} (hu : u ∈ g.getAllOrtNodeUnits.1) :
    g.ThroughOutput u := by
  rcases (mem_getAllOrtNodeUnits hg.consistent).mp hu with hu | ⟨n,_,_,rfl⟩
  · obtain ⟨hs,ht,_⟩ := mem_getOrtQDQSelections hu
    exact hs.throughOutput hg ht
  · exact singleNode_throughOutput n

include ho

theorem entering_visible {u : OrtNodeUnit} (hu : u ∈ g.getAllOrtNodeUnits.1) {e : NodeId × NodeId}
    (he : e ∈ entering g.toOrtGraph u) (hout : outside u e.1 = true) :
    ∃ w ∈ g.getAllOrtNodeUnits.1, w.visible e.1 = true := by
  have hv := getAllOrtNodeUnits_validGrouping hg ho
  obtain ⟨hy,hyu,hedge,_⟩ := mem_entering.mp he
  obtain ⟨w,hw,hxw⟩ := hv.unit_of_node _ (g.edge_mem hg.consistent hedge)
  refine ⟨w,hw,(unit_throughOutput hg hw).leaves _ _ hxw hy ?_ hedge⟩
  intro hyw
  simp only [outside,decide_eq_true_eq] at hout
  exact hout (hv.unit_unique hw hu hyw hyu ▸ hxw)

theorem visibleEdge_acyclic : Acyclic fun w u => w ∈ g.getAllOrtNodeUnits.1 ∧
    u ∈ g.getAllOrtNodeUnits.1 ∧ VisibleEdge g.toOrtGraph w u := by
  have hv := getAllOrtNodeUnits_validGrouping hg ho
  intro v hcycle
  refine hg.valid.acyclic _ (hcycle.lift' OrtNodeUnit.outputProducer ?_)
  rintro w u ⟨hw,hu,x,hx,hvis,y,hy,he,hno⟩
  have hxu : x ∉ u.getAllNodesInGroup := by
    intro hxu
    obtain rfl := hv.unit_unique hw hu hx hxu
    obtain ⟨hwf,hl⟩ := getAllOrtNodeUnits_wellFormed hg hw
    rw [not_visible_inside hl hwf hy he hno] at hvis
    cases hvis
  exact (TransGen.tail' ((unit_throughOutput hg hw).reaches x hvis)
    ⟨unit_mem_nodes hg hu hy,he⟩).trans_left ((unit_throughOutput hg hu).enters x y hxu hy he)

end

theorem getAllOrtNodeUnits_groupsOk (g : QdqGraph F) (supportedNodes : List NodeId) (epType : String)
    (nodeEpName : NodeId → Option String) (hg : g.QdqInputs) (ho : g.AbsorbedOnce)
    (hep : ∀ n ∈ g.nodes, (nodeEpName n).isSome)
    (hab : ∀ u ∈ g.getAllOrtNodeUnits.1, absorbedEdges g.toOrtGraph u = 0) :
    let inp : PartitionInput :=
      ⟨g.toOrtGraph,supportedNodes,epType,g.getAllOrtNodeUnits.2,nodeEpName⟩
    ∃ groups enough, GroupsOk inp g.getAllOrtNodeUnits.1 groups ∧ ∀ fuel, enough ≤ fuel →
      createSupportedPartitionNodeGroups inp fuel = some (.ok groups) :=
  returns_groupsOk hg.consistent (getAllOrtNodeUnits_validGrouping hg ho)
    (fun _ hu => (getAllOrtNodeUnits_wellFormed hg hu).2) hep hab
    (fun _ hu _ he hout => entering_visible hg ho hu he hout) (visibleEdge_acyclic hg ho)

end QdqGraph

theorem foldedClip_absorbedOnce : foldedClip.AbsorbedOnce := by
  constructor
  · intro t ht t' ht' _ _ a ha ha'
    rw [(foldedClip_absorbs ht ha).1,(foldedClip_absorbs ht' ha').1]
  · intro t ht _ a ha
    obtain ⟨_,rfl⟩ := foldedClip_absorbs ht ha
    unfold QdqGraph.accepts
    decide

theorem getAllOrtNodeUnits_groupsOk_foldedClip :
    let inp : PartitionInput := ⟨foldedClip.toOrtGraph,[1],"QNNExecutionProvider",
      foldedClip.getAllOrtNodeUnits.2,fun _ => some ""⟩
    ∃ groups enough, GroupsOk inp foldedClip.getAllOrtNodeUnits.1 groups ∧ ∀ fuel, enough ≤ fuel →
      createSupportedPartitionNodeGroups inp fuel = some (.ok groups) :=
  QdqGraph.getAllOrtNodeUnits_groupsOk foldedClip _ _ _ foldedClip_inputs foldedClip_absorbedOnce
    (by decide) (by decide)

end QnnEp.Qdq
