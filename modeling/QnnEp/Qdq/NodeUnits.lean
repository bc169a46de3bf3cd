import QnnEp.Partition.Relax
import QnnEp.Qdq.Selected

namespace QnnEp.Qdq
open List Ort Partition
variable {ss : List OrtNodeUnit} {n a : NodeId} {s u : OrtNodeUnit}

namespace QdqGraph
variable {F : Type} [FloatArith F]

theorem addNodeUnitToMap_apply (nodes : List NodeId) (u : OrtNodeUnit) (m : NodeUnitMap) (n : NodeId) :
    addNodeUnitToMap nodes u m n = if n ∈ nodes then some u else m n := by
  unfold addNodeUnitToMap
  induction nodes generalizing m with
  | nil => simp
  | cons x xs ih =>
    rw [foldl_cons,ih,Function.update_apply]
    by_cases hx : n = x
    · simp [hx]
    · simp [hx]

theorem addSelection_apply (m : NodeUnitMap) (s : OrtNodeUnit) (n : NodeId) :
    addSelection m s n = if n ∈ s.getAllNodesInGroup then some s else m n := by
  simp only [addSelection,addNodeUnitToMap_apply,OrtNodeUnit.mem_all,Option.mem_toList,mem_singleton]
  by_cases hr : s.outputReshapeNode = some n
  · simp [hr]
  · by_cases hc : s.redundantClipNode = some n
    · simp [hr,hc]
    · by_cases ht : n = s.targetNode
      · simp [ht]
      · by_cases hq : n ∈ s.qNodes
        · simp [hr,hc,ht,hq]
        · simp [hr,hc,ht,hq]

def selectionMap (ss : List OrtNodeUnit) : NodeUnitMap := ss.foldl addSelection fun _ => none

theorem selectionMap_snoc (ss : List OrtNodeUnit) (s : OrtNodeUnit) (n : NodeId) :
    selectionMap (ss ++ [s]) n =
      if n ∈ s.getAllNodesInGroup then some s else selectionMap ss n := by
  simp [selectionMap,addSelection_apply]

theorem selectionMap_none : selectionMap ss n = none ↔ ∀ s ∈ ss, n ∉ s.getAllNodesInGroup := by
  induction ss using List.reverseRecOn with
  | nil => simp [selectionMap]
  | append_singleton ss s ih =>
    rw [selectionMap_snoc]
    by_cases h : n ∈ s.getAllNodesInGroup
    · simp [h]
    · simp only [h,if_false,ih,mem_append,mem_singleton]
      constructor
      · rintro hss x (hx | rfl)
        · exact hss x hx
        · exact h
      · intro hss x hx
        exact hss x (.inl hx)

theorem selectionMap_iff (hd : ss.Pairwise fun s t => s.getAllNodesInGroup.Disjoint t.getAllNodesInGroup)
    (n : NodeId) (u : OrtNodeUnit) : selectionMap ss n = some u ↔ u ∈ ss ∧ n ∈ u.getAllNodesInGroup := by
  induction ss using List.reverseRecOn with
  | nil => simp [selectionMap]
  | append_singleton ss s ih =>
    obtain ⟨hss,-,hs⟩ := pairwise_append.mp hd
    rw [selectionMap_snoc]
    by_cases h : n ∈ s.getAllNodesInGroup
    · simp only [h,if_true,Option.some.injEq,mem_append,mem_singleton]
      constructor
      · rintro rfl
        exact ⟨.inr rfl,h⟩
      · rintro ⟨hu | rfl,hn⟩
        · exact (hs u hu s (mem_singleton_self s) hn h).elim
        · rfl
    · simp only [h,if_false,ih hss,mem_append,mem_singleton]
      constructor
      · rintro ⟨hu,hn⟩
        exact ⟨.inl hu,hn⟩
      · rintro ⟨hu | rfl,hn⟩
        · exact ⟨hu,hn⟩
        · exact (h hn).elim

theorem foldl_addSingleNode (ns : List NodeId) (hn : ns.Nodup) (us : List OrtNodeUnit)
    (m : NodeUnitMap) : ns.foldl addSingleNode (us,m) =
      (us ++ (ns.filter fun n => (m n).isNone).map singleNode,
        fun n => if n ∈ ns then some ((m n).getD (singleNode n)) else m n) := by
  induction ns generalizing us m with
  | nil => simp
  | cons x xs ih =>
    obtain ⟨hx,hxs⟩ := nodup_cons.mp hn
    rw [foldl_cons,addSingleNode]
    rcases Option.eq_none_or_eq_some (m x) with hm | ⟨u,hm⟩
    · rw [if_neg (by simp [hm]),ih hxs]
      refine Prod.ext ?_ ?_
      · have hf : (xs.filter fun n => (Function.update m x (some (singleNode x)) n).isNone) =
            xs.filter fun n => (m n).isNone := by
          refine filter_congr ?_
          intro n hnx
          have hne : n ≠ x := by
            rintro rfl
            exact hx hnx
          rw [Function.update_of_ne hne]
        simp [hm,hf]
      · funext n
        by_cases hnx : n = x
        · subst hnx
          simp [hx,hm]
        · simp [hnx]
    · rw [if_pos (by simp [hm]),ih hxs]
      refine Prod.ext (by simp [hm]) ?_
      funext n
      by_cases hnx : n = x
      · subst hnx
        simp [hx,hm]
      · simp [hnx]

def accepts (g : QdqGraph F) (n : NodeId) : Prop := (g.selectNode n).isSome

def absorbs (g : QdqGraph F) (t a : NodeId) : Prop :=
  (g.outputExtension t).1 = some a ∨ (g.outputExtension t).2 = some a

structure AbsorbedOnce (g : QdqGraph F) : Prop where
  one_target : ∀ t ∈ g.nodes, ∀ t' ∈ g.nodes, g.accepts t → g.accepts t' →
    ∀ a, g.absorbs t a → g.absorbs t' a → t = t'
  not_target : ∀ t ∈ g.nodes, g.accepts t → ∀ a, g.absorbs t a → ¬g.accepts a

structure NodesPartitioned (g : QdqGraph F) (r : List OrtNodeUnit × NodeUnitMap) : Prop where
  partition : (r.1.flatMap fun u => u.getAllNodesInGroup).Perm g.nodes
  map_iff : ∀ n u, r.2 n = some u ↔ u ∈ r.1 ∧ n ∈ u.getAllNodesInGroup

variable {g : QdqGraph F}

theorem mem_getOrtQDQSelections (h : s ∈ g.getOrtQDQSelections) :
    Selected g s ∧ s.targetNode ∈ g.nodes ∧ g.selectNode s.targetNode = some s := by
  obtain ⟨n,hn,hs⟩ := mem_filterMap.mp h
  obtain ⟨rfl,hsel⟩ := selectNode_selected hs
  exact ⟨hsel,hn,hs⟩

theorem Selected.absorbs_iff (hs : Selected g s) :
    g.absorbs s.targetNode a ↔ s.outputReshapeNode = some a ∨ s.redundantClipNode = some a := by
  unfold absorbs
  rw [hs.extension]

theorem Selected.mem_chain_iff (hs : Selected g s) :
    a ∈ Selected.chain s ↔ a = s.targetNode ∨ g.absorbs s.targetNode a := by
  rw [Selected.mem_chain,hs.absorbs_iff]

section
variable (hg : g.QdqInputs) {s t : OrtNodeUnit} (hs : s ∈ g.getOrtQDQSelections)
  (ht : t ∈ g.getOrtQDQSelections)
include hs ht

theorem chain_unique (ho : g.AbsorbedOnce) (has : a ∈ Selected.chain s) (hat : a ∈ Selected.chain t) :
    s.targetNode = t.targetNode := by
  obtain ⟨hss,hsn,hsel⟩ := mem_getOrtQDQSelections hs
  obtain ⟨hts,htn,htel⟩ := mem_getOrtQDQSelections ht
  have hsa : g.accepts s.targetNode := by simp [accepts,hsel]
  have hta : g.accepts t.targetNode := by simp [accepts,htel]
  rcases hss.mem_chain_iff.mp has with rfl | has
  · rcases hts.mem_chain_iff.mp hat with h | hat
    · exact h
    · exact (ho.not_target _ htn hta _ hat hsa).elim
  · rcases hts.mem_chain_iff.mp hat with rfl | hat
    · exact (ho.not_target _ hsn hsa _ has hta).elim
    · exact ho.one_target _ hsn _ htn hsa hta a has hat

include hg

theorem member_unique (ho : g.AbsorbedOnce) {n : NodeId} (hns : n ∈ s.getAllNodesInGroup)
    (hnt : n ∈ t.getAllNodesInGroup) : s.targetNode = t.targetNode := by
  obtain ⟨hss,hsn,_⟩ := mem_getOrtQDQSelections hs
  obtain ⟨hts,htn,_⟩ := mem_getOrtQDQSelections ht
  have hsc := hss.chainOk hg.consistent hsn
  have htc := hts.chainOk hg.consistent htn
  have hqdq : g.isQ n = true → g.isDQ n = true → False := by
    unfold isQ isDQ
    rw [beq_iff_eq,beq_iff_eq]
    intro hq hd
    rw [hq] at hd
    exact absurd hd (by decide)
  rw [Selected.all_eq_chain,mem_append,mem_append,Selected.mem_dqNodes hg hss,
    Selected.mem_qNodes hg hss hsn] at hns
  rw [Selected.all_eq_chain,mem_append,mem_append,Selected.mem_dqNodes hg hts,
    Selected.mem_qNodes hg hts htn] at hnt
  rcases hns with ⟨hn,hd,he⟩ | hns | ⟨hn,hq,he⟩
  · rcases hnt with ⟨_,_,he'⟩ | hnt | ⟨_,hq,_⟩
    · exact hg.dq_consumer hn hd hsn htn he he'
    · rw [htc.not_dq n hnt] at hd
      cases hd
    · exact (hqdq hq hd).elim
  · rcases hnt with ⟨_,hd,_⟩ | hnt | ⟨_,hq,_⟩
    · rw [hsc.not_dq n hns] at hd
      cases hd
    · exact chain_unique hs ht ho hns hnt
    · rw [hsc.not_q n hns] at hq
      cases hq
  · rcases hnt with ⟨_,hd,_⟩ | hnt | ⟨_,_,he'⟩
    · exact (hqdq hq hd).elim
    · rw [htc.not_q n hnt] at hq
      cases hq
    · refine chain_unique hs ht ho (Selected.outputProducer_mem_chain s) ?_
      rw [hg.q_producer hn hq he he']
      exact Selected.outputProducer_mem_chain t

end

theorem selections_disjoint (hg : g.QdqInputs) (ho : g.AbsorbedOnce) :
    g.getOrtQDQSelections.Pairwise fun s t =>
      s.getAllNodesInGroup.Disjoint t.getAllNodesInGroup := by
  unfold getOrtQDQSelections
  rw [pairwise_filterMap]
  refine hg.consistent.nodes_nodup.imp_of_mem ?_
  intro n m hn hm hne s hs t ht x hxs hxt
  have hsm : s ∈ g.getOrtQDQSelections := mem_filterMap.mpr ⟨n,hn,hs⟩
  have htm : t ∈ g.getOrtQDQSelections := mem_filterMap.mpr ⟨m,hm,ht⟩
  have he := member_unique hg hsm htm ho hxs hxt
  rw [(selectNode_selected hs).1,(selectNode_selected ht).1] at he
  exact hne he

@[simp] theorem singleNode_all (n : NodeId) : (singleNode n).getAllNodesInGroup = [n] := rfl

theorem getAllOrtNodeUnits_eq (hc : g.Consistent) :
    g.getAllOrtNodeUnits =
      (g.getOrtQDQSelections ++
        (g.nodes.filter fun n => (selectionMap g.getOrtQDQSelections n).isNone).map singleNode,
        fun n => if n ∈ g.nodes then some ((selectionMap g.getOrtQDQSelections n).getD (singleNode n))
          else selectionMap g.getOrtQDQSelections n) :=
  foldl_addSingleNode _ hc.nodes_nodup _ _

theorem mem_getAllOrtNodeUnits (hc : g.Consistent) :
    u ∈ g.getAllOrtNodeUnits.1 ↔ u ∈ g.getOrtQDQSelections ∨
      ∃ n ∈ g.nodes, (∀ s ∈ g.getOrtQDQSelections, n ∉ s.getAllNodesInGroup) ∧ singleNode n = u := by
  rw [getAllOrtNodeUnits_eq hc,mem_append,mem_map]
  simp only [mem_filter,Option.isNone_iff_eq_none,selectionMap_none,and_assoc]

section
variable (hg : g.QdqInputs)
include hg

theorem unit_mem_nodes (hu : u ∈ g.getAllOrtNodeUnits.1) (hn : n ∈ u.getAllNodesInGroup) : n ∈ g.nodes := by
  rcases (mem_getAllOrtNodeUnits hg.consistent).mp hu with hu | ⟨x,hx,_,rfl⟩
  · obtain ⟨hs,ht,_⟩ := mem_getOrtQDQSelections hu
    exact Selected.all_mem_nodes hg hs ht hn
  · rw [singleNode_all,mem_singleton] at hn
    rw [hn]
    exact hx

theorem units_nodup (ho : g.AbsorbedOnce) :
    (g.getAllOrtNodeUnits.1.flatMap fun u => u.getAllNodesInGroup).Nodup := by
  rw [getAllOrtNodeUnits_eq hg.consistent,nodup_flatMap]
  constructor
  · intro u hu
    rcases mem_append.mp hu with hu | hu
    · obtain ⟨hs,ht,_⟩ := mem_getOrtQDQSelections hu
      exact Selected.all_nodup hg hs ht
    · obtain ⟨n,_,rfl⟩ := mem_map.mp hu
      exact nodup_singleton n
  · refine pairwise_append.mpr ⟨selections_disjoint hg ho,?_,?_⟩
    · rw [pairwise_map]
      refine (hg.consistent.nodes_nodup.filter _).imp ?_
      intro n m hne x hx hy
      exact hne ((mem_singleton.mp hx).symm.trans (mem_singleton.mp hy))
    · intro s hs u hu x hxs hxu
      obtain ⟨n,hn,rfl⟩ := mem_map.mp hu
      obtain rfl := mem_singleton.mp hxu
      have hnone := Option.isNone_iff_eq_none.mp (mem_filter.mp hn).2
      exact selectionMap_none.mp hnone s hs hxs

theorem unit_of_node (hn : n ∈ g.nodes) : ∃ u ∈ g.getAllOrtNodeUnits.1, n ∈ u.getAllNodesInGroup := by
  by_cases h : ∀ s ∈ g.getOrtQDQSelections, n ∉ s.getAllNodesInGroup
  · exact ⟨singleNode n,(mem_getAllOrtNodeUnits hg.consistent).mpr (.inr ⟨n,hn,h,rfl⟩),by simp⟩
  · push Not at h
    obtain ⟨s,hs,hns⟩ := h
    exact ⟨s,(mem_getAllOrtNodeUnits hg.consistent).mpr (.inl hs),hns⟩

theorem map_getAllOrtNodeUnits (ho : g.AbsorbedOnce) (n : NodeId) (u : OrtNodeUnit) :
    g.getAllOrtNodeUnits.2 n = some u ↔ u ∈ g.getAllOrtNodeUnits.1 ∧ n ∈ u.getAllNodesInGroup := by
  have hiff := selectionMap_iff (selections_disjoint hg ho) n
  rw [mem_getAllOrtNodeUnits hg.consistent,getAllOrtNodeUnits_eq hg.consistent]
  dsimp only
  by_cases hmem : ∀ s ∈ g.getOrtQDQSelections, n ∉ s.getAllNodesInGroup
  · rw [selectionMap_none.mpr hmem]
    constructor
    · intro h
      split at h
      case isTrue hn =>
        obtain rfl := Option.some.inj h
        exact ⟨.inr ⟨n,hn,hmem,rfl⟩,by simp⟩
      case isFalse => cases h
    · rintro ⟨hu | ⟨x,hx,_,rfl⟩,hnu⟩
      · exact (hmem u hu hnu).elim
      · rw [singleNode_all,mem_singleton] at hnu
        subst hnu
        simp [hx]
  · push Not at hmem
    obtain ⟨s,hs,hns⟩ := hmem
    have hsome := (hiff s).mpr ⟨hs,hns⟩
    obtain ⟨hsel,ht,_⟩ := mem_getOrtQDQSelections hs
    rw [hsome,if_pos (Selected.all_mem_nodes hg hsel ht hns),Option.getD_some,← hsome,hiff]
    constructor
    · rintro ⟨hu,hnu⟩
      exact ⟨.inl hu,hnu⟩
    · rintro ⟨hu | ⟨x,_,hx,rfl⟩,hnu⟩
      · exact ⟨hu,hnu⟩
      · rw [singleNode_all,mem_singleton] at hnu
        subst hnu
        exact (hx s hs hns).elim

theorem nodesPartitioned_of_absorbedOnce (ho : g.AbsorbedOnce) :
    g.NodesPartitioned g.getAllOrtNodeUnits := by
  refine ⟨?_,map_getAllOrtNodeUnits hg ho⟩
  rw [perm_ext_iff_of_nodup (units_nodup hg ho) hg.consistent.nodes_nodup]
  intro n
  rw [mem_flatMap]
  constructor
  · rintro ⟨u,hu,hn⟩
    exact unit_mem_nodes hg hu hn
  · exact unit_of_node hg

theorem absorbedOnce_of_nodesPartitioned (hp : g.NodesPartitioned g.getAllOrtNodeUnits) :
    g.AbsorbedOnce := by
  have hunit {t : NodeId} (ht : t ∈ g.nodes) (ha : g.accepts t) :
      ∃ s, s ∈ g.getAllOrtNodeUnits.1 ∧ Selected g s ∧ s.targetNode = t ∧
        s.getAllNodesInGroup.Nodup := by
    obtain ⟨s,hs⟩ := Option.isSome_iff_exists.mp ha
    have hmem : s ∈ g.getOrtQDQSelections := mem_filterMap.mpr ⟨t,ht,hs⟩
    obtain ⟨hsel,hn,_⟩ := mem_getOrtQDQSelections hmem
    exact ⟨s,(mem_getAllOrtNodeUnits hg.consistent).mpr (.inl hmem),hsel,
      (selectNode_selected hs).1,Selected.all_nodup hg hsel hn⟩
  have hsame {s u : OrtNodeUnit} {a : NodeId} (hs : s ∈ g.getAllOrtNodeUnits.1)
      (hu : u ∈ g.getAllOrtNodeUnits.1) (has : a ∈ s.getAllNodesInGroup)
      (hau : a ∈ u.getAllNodesInGroup) : s = u :=
    Option.some.inj (((hp.map_iff a s).mpr ⟨hs,has⟩).symm.trans ((hp.map_iff a u).mpr ⟨hu,hau⟩))
  have hmem {s : OrtNodeUnit} {a : NodeId} (hs : Selected g s) (ha : g.absorbs s.targetNode a) :
      a ∈ s.getAllNodesInGroup := by
    rw [hs.absorbs_iff] at ha
    rw [OrtNodeUnit.mem_all]
    rcases ha with ha | ha
    · exact .inr (.inr (.inl ha))
    · exact .inr (.inr (.inr (.inl ha)))
  constructor
  · intro t ht t' ht' ha ha' a hta hta'
    obtain ⟨s,hs,hsel,rfl,_⟩ := hunit ht ha
    obtain ⟨u,hu,huel,rfl,_⟩ := hunit ht' ha'
    rw [hsame hs hu (hmem hsel hta) (hmem huel hta')]
  · intro t ht ha a hta ha'
    obtain ⟨s,hs,hsel,rfl,hnodup⟩ := hunit ht ha
    have han : a ∈ g.nodes := unit_mem_nodes hg hs (hmem hsel hta)
    obtain ⟨u,hu,huel,rfl,_⟩ := hunit han ha'
    obtain rfl := hsame hs hu (hmem hsel hta) u.target_mem
    obtain ⟨_,⟨hr,hc,_⟩,_⟩ := OrtNodeUnit.all_disjoint (OrtNodeUnit.members_nodup hnodup)
    rcases hsel.absorbs_iff.mp hta with h | h
    · exact hr h
    · exact hc h

theorem getAllOrtNodeUnits_partition_iff :
    g.NodesPartitioned g.getAllOrtNodeUnits ↔ g.AbsorbedOnce :=
  ⟨absorbedOnce_of_nodesPartitioned hg,nodesPartitioned_of_absorbedOnce hg⟩

omit [FloatArith F] hg in
theorem singleNode_wellFormed {n : NodeId} (hn : n ∈ g.nodes) :
    (singleNode n).WellFormed g.toOrtGraph :=
  ⟨fun _ => rfl,by simpa using hn,OrtNodeUnit.members_nodup (nodup_singleton n),
    by simp [singleNode],by simp [singleNode]⟩

omit [FloatArith F] in
theorem singleNode_layered {n : NodeId} (hn : n ∈ g.nodes) : (singleNode n).Layered g.toOrtGraph := by
  refine ⟨nodup_singleton n,?_⟩
  intro x hx y hy he
  obtain rfl := mem_singleton.mp hx
  obtain rfl := mem_singleton.mp hy
  exact (hg.valid.acyclic _ (.single ⟨hn,he⟩)).elim

theorem getAllOrtNodeUnits_wellFormed (hu : u ∈ g.getAllOrtNodeUnits.1) :
    u.WellFormed g.toOrtGraph ∧ u.Layered g.toOrtGraph := by
  rcases (mem_getAllOrtNodeUnits hg.consistent).mp hu with hu | ⟨n,hn,_,rfl⟩
  · obtain ⟨hs,ht,_⟩ := mem_getOrtQDQSelections hu
    exact ⟨Selected.selected_wellFormed hg hs ht,Selected.selected_layered hg hs ht⟩
  · exact ⟨singleNode_wellFormed hn,singleNode_layered hg hn⟩

theorem getAllOrtNodeUnits_validGrouping (ho : g.AbsorbedOnce) :
    ValidGrouping g.toOrtGraph g.getAllOrtNodeUnits.1 g.getAllOrtNodeUnits.2 := by
  obtain ⟨hperm,hmap⟩ := nodesPartitioned_of_absorbedOnce hg ho
  exact .of_perm hg.consistent.nodes_nodup (fun u hu => (getAllOrtNodeUnits_wellFormed hg hu).1)
    hperm hmap

end

end QdqGraph

instance : FloatArith Int where
  zero := 0
  one := 1
  lowest := -(2^128 - 2^104)
  max := 2^128 - 2^104
  ofInt n := n
  mul a b := a * b
  le a b := decide (a ≤ b)
  lt a b := decide (a < b)
  eq a b := decide (a = b)

structure QdqRow extends NodeRow where
  opType : String

def uint8Values : List ValueId := [0,2,5,9]

def exampleValue (v : ValueId) : ValueInfo where
  name := if v = 1 then "scale" else if v = 2 then "zero_point" else "t" ++ toString v
  elemType := if v ∈ uint8Values then some .uint8 else some .float
  shape := some []
  isGraphOutput := v == 9
  isConstantInitializer := v == 1 || v == 2

def exampleInitializer (name : String) : Option (Initializer Int) :=
  if name = "scale" then some ⟨.float,0,1,1,1⟩
  else if name = "zero_point" then some ⟨.uint8,0,0,0,0⟩
  else none

def QdqGraph.ofRows (rows : List QdqRow) : QdqGraph Int where
  toOrtGraph := OrtGraph.ofRows (rows.map QdqRow.toNodeRow)
  node n := ⟨((rows.find? fun r => r.node == n).map QdqRow.opType).getD "","",13,fun _ => none,fun _ => none⟩
  value := exampleValue
  constantInitializer := exampleInitializer

theorem exampleInitializer_isSome {v : ValueId}
    (h : (exampleInitializer (exampleValue v).name).isSome) : v = 1 ∨ v = 2 := by
  by_contra hv
  push Not at hv
  have hname : (exampleValue v).name = "t" ++ toString v := by simp [exampleValue,hv.1,hv.2]
  have hscale : "t" ++ toString v ≠ "scale" := by
    intro he
    have hl := congrArg String.toList he
    simp at hl
  have hzero : "t" ++ toString v ≠ "zero_point" := by
    intro he
    have hl := congrArg String.toList he
    simp at hl
  rw [hname,exampleInitializer,if_neg hscale,if_neg hzero] at h
  cases h

theorem feeds_acyclic_of_lt {g : OrtGraph}
    (h : ∀ m ∈ g.nodes, ∀ i ∈ g.inputs m, ∀ n ∈ i.bind g.valueProducer, n < m) :
    Phased.Acyclic g.Feeds := by
  refine Phased.acyclic_of_rank id ?_
  rintro n m ⟨hm,he⟩
  obtain ⟨i,hi,hp⟩ := g.edge_iff.mp he
  exact h m hm i hi n hp

theorem QdqGraph.ofRows_inputs {rows : List QdqRow} (hc : (QdqGraph.ofRows rows).Consistent)
    (hlt : ∀ m ∈ (QdqGraph.ofRows rows).nodes, ∀ i ∈ (QdqGraph.ofRows rows).inputs m,
      ∀ n ∈ i.bind (QdqGraph.ofRows rows).valueProducer, n < m)
    (hinit : ∀ v ∈ [1,2], (QdqGraph.ofRows rows).valueProducer v = none)
    (hdq : ∀ n ∈ (QdqGraph.ofRows rows).nodes, (QdqGraph.ofRows rows).isDQ n = true →
      ((QdqGraph.ofRows rows).soleConsumer n).isSome = true)
    (hparams : ∀ n ∈ (QdqGraph.ofRows rows).nodes,
      ((QdqGraph.ofRows rows).isDQ n || (QdqGraph.ofRows rows).isQ n) = true →
        ∀ i ∈ ((QdqGraph.ofRows rows).inputs n).tail, ∀ v ∈ i,
          (exampleInitializer (exampleValue v).name).isSome = true) :
    (QdqGraph.ofRows rows).QdqInputs := by
  refine ⟨⟨hc,feeds_acyclic_of_lt hlt,?_⟩,?_,?_⟩
  · intro v hv
    exact hinit v (by simpa using exampleInitializer_isSome hv)
  · intro n hn h
    obtain ⟨c,hs⟩ := Option.isSome_iff_exists.mp (hdq n hn h)
    exact ⟨c,QdqGraph.soleConsumer_sole hs⟩
  · intro n hn h v hv
    exact hparams n hn h (some v) hv v rfl

def foldedClipRows : List QdqRow := [
  ⟨⟨0,[some 0,some 1,some 2],[some 3]⟩,"DequantizeLinear"⟩,
  ⟨⟨1,[some 3],[some 4]⟩,"Sigmoid"⟩,
  ⟨⟨2,[some 4],[some 8]⟩,"Clip"⟩,
  ⟨⟨3,[some 8,some 1,some 2],[some 9]⟩,"QuantizeLinear"⟩]

def foldedClip : QdqGraph Int := .ofRows foldedClipRows

theorem foldedClip_inputs : foldedClip.QdqInputs :=
  QdqGraph.ofRows_inputs (OrtGraph.ofRows_consistent (by decide) (by decide)) (by decide) (by decide)
    (by decide) (by decide)

theorem foldedClip_absorbs {t : NodeId} (ht : t ∈ foldedClip.nodes) (h : foldedClip.absorbs t a) :
    t = 1 ∧ a = 2 := by
  have hone : ∀ t ∈ foldedClip.nodes, t ≠ 1 → foldedClip.outputExtension t = (none,none) := by decide
  have hext : foldedClip.outputExtension 1 = (none,some 2) := by decide
  unfold QdqGraph.absorbs at h
  by_cases h1 : t = 1
  · subst h1
    rw [hext] at h
    simpa [eq_comm] using h
  · rw [hone t ht h1] at h
    simp at h

theorem getAllOrtNodeUnits_foldedClip :
    foldedClip.QdqInputs ∧ foldedClip.NodesPartitioned foldedClip.getAllOrtNodeUnits := by
  refine ⟨foldedClip_inputs,(QdqGraph.getAllOrtNodeUnits_partition_iff foldedClip_inputs).mpr ⟨?_,?_⟩⟩
  · intro t ht t' ht' _ _ a ha ha'
    rw [(foldedClip_absorbs ht ha).1,(foldedClip_absorbs ht' ha').1]
  · intro t ht _ a ha
    obtain ⟨_,rfl⟩ := foldedClip_absorbs ht ha
    unfold QdqGraph.accepts
    decide

def sharedClipRows : List QdqRow := [
  ⟨⟨0,[some 0,some 1,some 2],[some 3]⟩,"DequantizeLinear"⟩,
  ⟨⟨1,[some 3],[some 4]⟩,"Sigmoid"⟩,
  ⟨⟨2,[some 5,some 1,some 2],[some 6]⟩,"DequantizeLinear"⟩,
  ⟨⟨3,[some 6],[some 7]⟩,"Sqrt"⟩,
  ⟨⟨4,[some 4,some 7],[some 8]⟩,"Clip"⟩,
  ⟨⟨5,[some 8,some 1,some 2],[some 9]⟩,"QuantizeLinear"⟩]

def sharedClip : QdqGraph Int := .ofRows sharedClipRows

theorem getAllOrtNodeUnits_sharedClip :
    sharedClip.QdqInputs ∧ ¬sharedClip.NodesPartitioned sharedClip.getAllOrtNodeUnits := by
  refine ⟨QdqGraph.ofRows_inputs (OrtGraph.ofRows_consistent (by decide) (by decide)) (by decide)
    (by decide) (by decide) (by decide),?_⟩
  intro h
  have hperm := h.partition
  revert hperm
  decide

end QnnEp.Qdq
