import QnnEp.Ort.NodeUnit

namespace QnnEp.Partition
open Counting List Ort

namespace UnitEdges
variable (g : OrtGraph)

def slots (u : OrtNodeUnit) : List (Option ValueId) := u.getAllNodesInGroup.flatMap g.inputs

def outside (u : OrtNodeUnit) (n : NodeId) : Bool := decide (n ∉ u.getAllNodesInGroup)

def producerEdges (u : OrtNodeUnit) : Nat := (slots g u).countP (g.fed (outside u))

def absorbedEdges (u : OrtNodeUnit) : Nat :=
  (u.absorbedNodes.flatMap g.inputs).countP (g.fed (outside u))

def occurrences (units : List OrtNodeUnit) (u : OrtNodeUnit) : Nat :=
  (units.flatMap fun w => w.getOutputNodes g).countP fun n => decide (n ∈ u.getAllNodesInGroup)

def Disjoint (units : List OrtNodeUnit) : Prop :=
  units.Pairwise fun v w => v.getAllNodesInGroup.Disjoint w.getAllNodesInGroup

def internal (u : OrtNodeUnit) (p m : NodeId) : Bool :=
  decide (p ∈ u.dqNodes) && m == u.targetNode || p == u.outputProducer && decide (m ∈ u.qNodes)

def nodesOf (u : OrtNodeUnit) : List NodeId :=
  g.nodes.filter fun m => decide (m ∈ u.getAllNodesInGroup)

-- The producer edges into the unit's nodes, apart from those from a DQ to the target and from the
-- output producer to a Q.
def entering (u : OrtNodeUnit) : List (NodeId × NodeId) :=
  (nodesOf g u).flatMap fun m =>
    ((g.producers m).filter fun p => !internal u p m).map fun p => (p,m)

def entries (u : OrtNodeUnit) (e : NodeId × NodeId) : Nat := (u.dqNodes ++ [u.targetNode]).count e.2

def exits (units : List OrtNodeUnit) (e : NodeId × NodeId) : Nat :=
  (units.flatMap fun w => w.outputProducer :: w.qNodes).count e.1

def Balanced (units : List OrtNodeUnit) (u : OrtNodeUnit) : Prop :=
  missed (entries u) (entering g u) + repeated (exits units) (entering g u) =
    missed (exits units) (entering g u) + repeated (entries u) (entering g u)

instance (units : List OrtNodeUnit) (u : OrtNodeUnit) : Decidable (Balanced g units u) :=
  inferInstanceAs (Decidable (_ = _))

def leaves (w : OrtNodeUnit) (m p : NodeId) : Nat :=
  w.qNodes.count p + if m ∈ w.qNodes then 0 else if p = w.outputProducer then 1 else 0

variable {g}

section
variable {u : OrtNodeUnit}

theorem mem_nodesOf {m : NodeId} : m ∈ nodesOf g u ↔ m ∈ g.nodes ∧ m ∈ u.getAllNodesInGroup := by
  simp [nodesOf]

theorem mem_entering {p m : NodeId} : (p,m) ∈ entering g u ↔
    m ∈ g.nodes ∧ m ∈ u.getAllNodesInGroup ∧ g.Edge p m ∧ internal u p m = false := by
  simp only [entering,mem_flatMap,mem_nodesOf,mem_map,mem_filter,Prod.mk.injEq,
    g.edge_iff_producers,Bool.not_eq_true']
  constructor
  · rintro ⟨_,⟨hn,hu⟩,_,⟨hp,hi⟩,rfl,rfl⟩
    exact ⟨hn,hu,hp,hi⟩
  · rintro ⟨hn,hu,hp,hi⟩
    exact ⟨m,⟨hn,hu⟩,p,⟨hp,hi⟩,rfl,rfl⟩

theorem sum_entering (f : NodeId × NodeId → Nat) : ((entering g u).map f).sum =
    ((nodesOf g u).map fun m =>
      ((g.producers m).map fun p => if internal u p m then 0 else f (p,m)).sum).sum := by
  rw [entering,map_flatMap,List.flatMap,sum_flatten,map_map]
  refine congrArg List.sum (map_congr_left fun m _ => ?_)
  simp only [Function.comp_apply,map_map,Function.comp_def,sum_filter,Bool.not_eq_true',
    ← Bool.not_eq_true,ite_not]

theorem outputProducer_role (hn : u.members.Nodup) :
    0 < u.role u.outputProducer ∧ u.role u.outputProducer < 4 := by
  rcases u.outputProducer_cases with hp | ⟨_,hp⟩ | ⟨_,_,hp⟩
  · rw [OrtNodeUnit.role_clip hn hp]; omega
  · rw [OrtNodeUnit.role_reshape hn hp]; omega
  · rw [← hp,OrtNodeUnit.role_target hn]; omega

theorem outputProducer_not_q (hn : u.members.Nodup) : u.outputProducer ∉ u.qNodes := by
  intro hq
  have h4 := OrtNodeUnit.role_q hn hq
  have hlt := outputProducer_role hn
  omega

theorem outputProducer_not_dq (hn : u.members.Nodup) : u.outputProducer ∉ u.dqNodes := by
  intro hd
  have h0 := OrtNodeUnit.role_dq hd
  have hlt := outputProducer_role hn
  omega

theorem internal_dq (hn : u.members.Nodup) {d : NodeId} (hd : d ∈ u.dqNodes) (p : NodeId) :
    internal u p d = false := by
  obtain ⟨ht,_,_,hq⟩ := (OrtNodeUnit.all_disjoint hn).1 d hd
  simp [internal,ht,hq]

theorem internal_target (hn : u.members.Nodup) (p : NodeId) :
    internal u p u.targetNode = decide (p ∈ u.dqNodes) := by
  simp [internal,(OrtNodeUnit.all_disjoint hn).2.1.2.2]

theorem internal_mem {p m : NodeId} (h : internal u p m = true) : p ∈ u.getAllNodesInGroup := by
  simp only [internal,Bool.or_eq_true,Bool.and_eq_true,decide_eq_true_eq,beq_iff_eq] at h
  rcases h with ⟨hd,_⟩ | ⟨rfl,_⟩
  · exact OrtNodeUnit.mem_all.mpr (.inl hd)
  · exact u.outputProducer_mem

theorem countEdges_target (hw : u.WellFormed g) : g.countEdges u.targetNode = u.dqNodes.length +
    (g.producers u.targetNode).countP fun p => !internal u p u.targetNode := by
  have hdq : (g.producers u.targetNode).countP (fun p => decide (p ∈ u.dqNodes)) =
      u.dqNodes.length := by
    have hcount : ∀ v ∈ u.dqNodes.dedup, (g.producers u.targetNode).count v = u.dqNodes.count v := by
      intro v hv
      rw [← g.edgeCount_eq]
      exact hw.dq_feeds v (mem_dedup.mp hv)
    have hsum := sum_count u.dqNodes.nodup_dedup (g.producers u.targetNode)
    rw [map_congr_left hcount,sum_map_count_dedup_eq_length] at hsum
    simpa only [mem_dedup] using hsum.symm
  simp only [internal_target hw.apart]
  rw [← hdq,g.countEdges_eq,length_eq_countP_add_countP fun p => decide (p ∈ u.dqNodes)]
  simp

theorem getInputEdgesCount_sum (hw : u.WellFormed g) : u.getInputEdgesCount g =
    ((u.dqNodes ++ [u.targetNode]).map fun m =>
      (g.producers m).countP fun p => !internal u p m).sum := by
  have hdq : (u.dqNodes.map fun m => (g.producers m).countP fun p => !internal u p m) =
      u.dqNodes.map g.countEdges := by
    refine map_congr_left fun d hd => ?_
    simp [internal_dq hw.apart hd,g.countEdges_eq]
  have ht := countEdges_target hw
  rw [map_append,sum_append,hdq,map_singleton,sum_singleton]
  unfold OrtNodeUnit.getInputEdgesCount
  cases hty : u.unitType with
  | SingleNode =>
    have hlen := congrArg List.length (hw.single hty)
    have hnil : u.dqNodes = [] := by
      refine length_eq_zero_iff.mp ?_
      simp only [OrtNodeUnit.getAllNodesInGroup,length_append,length_cons,
        length_nil] at hlen
      omega
    rw [hnil] at ht ⊢
    simpa using ht
  | QDQGroup =>
    simp only [sizeSub]
    rw [if_pos (by omega)]
    omega

theorem getInputEdgesCount_eq (hc : g.Consistent) (hw : u.WellFormed g) :
    u.getInputEdgesCount g = ((entering g u).map (entries u)).sum := by
  have hsub : u.dqNodes ++ [u.targetNode] ⊆ nodesOf g u := by
    intro m hm
    have hall : m ∈ u.getAllNodesInGroup := by
      rw [u.all_eq]
      exact mem_append_left _ hm
    exact mem_nodesOf.mpr ⟨hw.mem_nodes m hall,hall⟩
  rw [getInputEdgesCount_sum hw,← sum_count_mul (hc.nodes_nodup.filter _) hsub,sum_entering]
  refine congrArg List.sum (map_congr_left fun m _ => ?_)
  exact (sum_ite_zero (fun p => internal u p m) _ _).symm

end

section
variable {w : OrtNodeUnit}

theorem q_consumers_perm (hc : g.Consistent) (hw : w.WellFormed g) :
    ((g.getConsumers w.outputProducer).filter fun c => decide (c ∈ w.qNodes)).Perm w.qNodes := by
  rw [perm_iff_count]
  intro q
  by_cases hq : q ∈ w.qNodes
  · rw [count_filter (by simpa using hq),
      g.count_getConsumers hc (hw.mem_nodes _ w.outputProducer_mem)
        (hw.mem_nodes _ (OrtNodeUnit.mem_all_of_q hq))]
    exact hw.q_reads q hq
  · rw [count_eq_zero.mpr hq,count_eq_zero]
    intro hm
    exact hq (by simpa using (mem_filter.mp hm).2)

theorem count_getOutputNodes (hc : g.Consistent) (hw : w.WellFormed g) {m : NodeId}
    (hm : m ∈ g.nodes) :
    (w.getOutputNodes g).count m = ((g.producers m).map (leaves w m)).sum := by
  have hq : (w.qNodes.map fun c => (g.getConsumers c).count m) =
      w.qNodes.map fun q => (g.producers m).count q := by
    refine map_congr_left fun q hq => ?_
    rw [g.count_getConsumers hc (hw.mem_nodes _ (OrtNodeUnit.mem_all_of_q hq)) hm,g.edgeCount_eq]
  unfold OrtNodeUnit.getOutputNodes
  rw [count_flatMap_split,((q_consumers_perm hc hw).map _).sum_eq,hq,
    g.count_getConsumers hc (hw.mem_nodes _ w.outputProducer_mem) hm,g.edgeCount_eq]
  unfold leaves
  rw [sum_map_add,sum_count_comm]
  simp only [decide_eq_true_eq]
  split
  · simp
  · rw [count_eq_sum]

theorem leaves_eq_count {m p : NodeId} (h : ¬(m ∈ w.qNodes ∧ p = w.outputProducer)) :
    leaves w m p = (w.outputProducer :: w.qNodes).count p := by
  unfold leaves
  rw [count_cons]
  congr 1
  by_cases hp : p = w.outputProducer
  · have hm : m ∉ w.qNodes := fun hm => h ⟨hm,hp⟩
    simp [hp,hm]
  · simp [hp,Ne.symm hp]

theorem leaves_pos {m p : NodeId} (hn : w.members.Nodup) : 0 < leaves w m p ↔
    w.visible p = true ∧ ¬(p = w.outputProducer ∧ m ∈ w.qNodes) := by
  have ho := outputProducer_not_q hn
  simp only [leaves,OrtNodeUnit.visible,Bool.or_eq_true,beq_iff_eq,decide_eq_true_eq,Nat.add_pos_iff_pos_or_pos,
    count_pos_iff]
  by_cases hp : p = w.outputProducer
  · subst hp
    by_cases hm : m ∈ w.qNodes <;> simp [hm,ho]
  · by_cases hm : m ∈ w.qNodes <;> simp [hm,hp]

end

section
variable {units : List OrtNodeUnit} {u : OrtNodeUnit} (hws : ∀ w ∈ units, w.WellFormed g)
  (hu : u ∈ units) (hsep : ∀ w ∈ units, w = u ∨ w.getAllNodesInGroup.Disjoint u.getAllNodesInGroup)
include hws hu hsep

theorem sum_leaves {m : NodeId} (hm : m ∈ u.getAllNodesInGroup) (p : NodeId) :
    (units.map fun w => leaves w m p).sum = if internal u p m then 0 else exits units (p,m) := by
  have hq : ∀ w ∈ units, m ∈ w.qNodes → w = u := by
    intro w hw hmq
    exact (hsep w hw).resolve_right fun hd => hd (OrtNodeUnit.mem_all_of_q hmq) hm
  cases hi : internal u p m with
  | true =>
    refine sum_eq_zero ?_
    intro x hx
    obtain ⟨w,hw,rfl⟩ := mem_map.mp hx
    by_contra hne
    obtain ⟨hvis,hno⟩ := (leaves_pos (hws w hw).apart).mp (Nat.pos_of_ne_zero hne)
    have hwu : w = u :=
      (hsep w hw).resolve_right fun hd => hd (OrtNodeUnit.visible_mem hvis) (internal_mem hi)
    subst hwu
    simp only [internal,OrtNodeUnit.visible,Bool.or_eq_true,Bool.and_eq_true,decide_eq_true_eq,
      beq_iff_eq] at hi hvis
    rcases hi with ⟨hd,_⟩ | hpq
    · rcases hvis with rfl | hpq
      · exact outputProducer_not_dq (hws w hw).apart hd
      · exact ((OrtNodeUnit.all_disjoint (hws w hw).apart).1 p hd).2.2.2 hpq
    · exact hno hpq
  | false =>
    rw [exits,count_flatMap]
    refine congrArg List.sum (map_congr_left fun w hw => leaves_eq_count ?_)
    rintro ⟨hmq,rfl⟩
    obtain rfl := hq w hw hmq
    simp [internal,hmq] at hi

theorem occurrences_eq (hc : g.Consistent) :
    occurrences g units u = ((entering g u).map (exits units)).sum := by
  have hmem : ∀ n, n ∈ nodesOf g u ↔ n ∈ u.getAllNodesInGroup := fun n =>
    mem_nodesOf.trans ⟨And.right,fun h => ⟨(hws u hu).mem_nodes n h,h⟩⟩
  have hsum := sum_count (hc.nodes_nodup.filter fun m => decide (m ∈ u.getAllNodesInGroup))
    (units.flatMap fun w => w.getOutputNodes g)
  change _ = List.countP (fun x => decide (x ∈ nodesOf g u)) _ at hsum
  simp only [hmem] at hsum
  rw [occurrences,← hsum,sum_entering]
  refine congrArg List.sum (map_congr_left fun m hm => ?_)
  obtain ⟨hmn,hmu⟩ := mem_nodesOf.mp hm
  have hcount : units.map (List.count m ∘ fun w => w.getOutputNodes g) =
      units.map fun w => ((g.producers m).map (leaves w m)).sum :=
    map_congr_left fun w hw => count_getOutputNodes hc (hws w hw) hmn
  rw [count_flatMap,hcount,sum_map_comm]
  exact congrArg List.sum (map_congr_left fun p _ => sum_leaves hws hu hsep hmu p)

theorem getInputEdgesCount_eq_occurrences_iff (hc : g.Consistent) :
    u.getInputEdgesCount g = occurrences g units u ↔ Balanced g units u := by
  have he := sum_add_missed (entries u) (entering g u)
  have hx := sum_add_missed (exits units) (entering g u)
  rw [getInputEdgesCount_eq hc (hws u hu),occurrences_eq hws hu hsep hc,Balanced]
  omega

end

section
variable {u : OrtNodeUnit} (hl : u.Layered g) (hw : u.WellFormed g)
include hl hw

theorem producerEdges_eq : producerEdges g u = u.getInputEdgesCount g + absorbedEdges g u := by
  rw [producerEdges,slots,absorbedEdges,u.all_eq,flatMap_append,countP_append,
    getInputEdgesCount_sum hw,countP_flatMap]
  congr 2
  refine map_congr_left fun m hm => ?_
  rw [Function.comp_apply,g.countP_fed]
  refine countP_congr fun p hp => ?_
  have hmu : m ∈ u.getAllNodesInGroup := by
    rw [u.all_eq]
    exact mem_append_left _ hm
  have hlow : u.role m ≤ 1 := by
    rcases mem_append.mp hm with hm | hm
    · rw [OrtNodeUnit.role_dq hm]; omega
    · rw [mem_singleton.mp hm,OrtNodeUnit.role_target hw.apart]
  by_cases hin : p ∈ u.getAllNodesInGroup
  · have hlt := hl.forward p hin m hmu (g.edge_iff_producers.mpr hp)
    have hd : p ∈ u.dqNodes := by
      by_contra hd
      have h1 : 1 ≤ u.role p := by
        unfold OrtNodeUnit.role
        rw [if_neg hd]
        split_ifs <;> omega
      omega
    have hmt : m = u.targetNode := by
      rcases mem_append.mp hm with hm | hm
      · rw [OrtNodeUnit.role_dq hm] at hlt
        omega
      · exact mem_singleton.mp hm
    subst hmt
    simp [outside,hin,internal_target hw.apart,hd]
  · have hi : internal u p m = false := Bool.eq_false_iff.mpr fun h => hin (internal_mem h)
    simp [outside,hin,hi]

theorem producerEdges_eq_sum (hc : g.Consistent) :
    producerEdges g u = ((entering g u).map fun e => if outside u e.1 then 1 else 0).sum := by
  have hperm : u.getAllNodesInGroup.Perm (nodesOf g u) := by
    refine (perm_ext_iff_of_nodup hl.nodup (hc.nodes_nodup.filter _)).mpr ?_
    exact fun n => ⟨fun h => mem_nodesOf.mpr ⟨hw.mem_nodes n h,h⟩,fun h => (mem_nodesOf.mp h).2⟩
  rw [sum_entering,producerEdges,slots,countP_flatMap,(hperm.map _).sum_eq]
  refine congrArg List.sum (map_congr_left fun m _ => ?_)
  have hin : ∀ p, (if internal u p m then 0 else if outside u p then 1 else 0) =
      if !outside u p then 0 else 1 := by
    intro p
    cases hi : internal u p m with
    | false => cases outside u p <;> rfl
    | true => simp [outside,internal_mem hi]
  simp only [hin]
  rw [Function.comp_apply,g.countP_fed,sum_ite_zero]
  simp

theorem not_visible_inside {p m : NodeId} (hm : m ∈ u.getAllNodesInGroup) (he : g.Edge p m)
    (hno : ¬(p = u.outputProducer ∧ m ∈ u.qNodes)) : u.visible p = false := by
  refine Bool.eq_false_iff.mpr fun hv => ?_
  have hlt := hl.forward p (OrtNodeUnit.visible_mem hv) m hm he
  simp only [OrtNodeUnit.visible,Bool.or_eq_true,beq_iff_eq,decide_eq_true_eq] at hv
  rcases hv with rfl | hv
  · exact hno ⟨rfl,OrtNodeUnit.q_of_after_outputProducer hw.apart hm hlt⟩
  · rw [OrtNodeUnit.role_q hw.apart hv] at hlt
    have hle : u.role m ≤ 4 := by
      unfold OrtNodeUnit.role
      split_ifs <;> omega
    omega

end

section
variable {units : List OrtNodeUnit} (hl : ∀ w ∈ units, w.Layered g)
  (hws : ∀ w ∈ units, w.WellFormed g) (hd : Disjoint units)

theorem exits_pos {e : NodeId × NodeId} :
    0 < exits units e ↔ ∃ w ∈ units, w.visible e.1 = true := by
  simp [exits,count_pos_iff,OrtNodeUnit.visible]

include hl hws hd

theorem exits_le_one (e : NodeId × NodeId) : exits units e ≤ 1 := by
  refine nodup_iff_count_le_one.mp (nodup_flatMap.mpr ⟨?_,?_⟩) e.1
  · intro w hw
    exact nodup_cons.mpr ⟨outputProducer_not_q (hws w hw).apart,
      OrtNodeUnit.qNodes_nodup (hl w hw).nodup⟩
  · have hmem {w : OrtNodeUnit} {n : NodeId} (h : n ∈ w.outputProducer :: w.qNodes) :
        n ∈ w.getAllNodesInGroup :=
      OrtNodeUnit.visible_mem (by simpa [OrtNodeUnit.visible] using h)
    exact hd.imp fun hvw n hv hw => hvw (hmem hv) (hmem hw)

theorem exits_le_outside {u : OrtNodeUnit} (hu : u ∈ units)
    (hsep : ∀ w ∈ units, w = u ∨ w.getAllNodesInGroup.Disjoint u.getAllNodesInGroup) :
    ∀ e ∈ entering g u, exits units e ≤ if outside u e.1 then 1 else 0 := by
  intro e he
  have hone := exits_le_one hl hws hd e
  split
  · exact hone
  · next hin =>
    by_contra hpos
    obtain ⟨w,hw,hv⟩ := exits_pos.mp (Nat.lt_of_not_le hpos)
    have hwu : w = u := (hsep w hw).resolve_right fun hdis =>
      hdis (OrtNodeUnit.visible_mem hv) (by simpa [outside] using hin)
    subst hwu
    obtain ⟨_,hm,hedge,hi⟩ := mem_entering.mp he
    rw [not_visible_inside (hl w hu) (hws w hu) hm hedge] at hv
    · cases hv
    · rintro ⟨hp,hq⟩
      simp [internal,hp,hq] at hi

end

end UnitEdges
end QnnEp.Partition
