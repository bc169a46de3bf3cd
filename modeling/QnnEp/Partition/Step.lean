import QnnEp.Foundation.PhasedOrder
import QnnEp.Partition.Relax

namespace QnnEp.Partition
open List Ort Phased UnitEdges
variable {u w : OrtNodeUnit} {g : OrtGraph} {node : NodeId} {rest : List NodeId} {t : PartitionState}

variable {inp : PartitionInput} {units : List OrtNodeUnit}

def OccEdge (g : OrtGraph) (w u : OrtNodeUnit) : Prop :=
  ∃ n ∈ w.getOutputNodes g, n ∈ u.getAllNodesInGroup

def unitSupported (inp : PartitionInput) (u : OrtNodeUnit) : Bool :=
  match inp.nodeEpName u.targetNode with
  | none => false
  | some epName => isNodeSupported inp epName u.targetNode

def unitGroup (inp : PartitionInput) (order : List (OrtNodeUnit × Nat)) (j : Nat) : List NodeId :=
  (blockAt (unitSupported inp) order j).flatMap fun u => u.getAllNodesInGroup

def queued (s : PartitionState) : List NodeId :=
  s.nodesToProcess ++ s.nodesToProcessWithNextGroup

structure Inv (inp : PartitionInput) (units : List OrtNodeUnit) (s : PartitionState)
    (order : List (OrtNodeUnit × Nat)) (k : Nat) : Prop where
  order_mem : ∀ p ∈ order, p.1 ∈ units
  queue_mem : ∀ x ∈ queued s, ∃ u ∈ units, u.targetNode = x
  nodup : (order.map (fun p => p.1.targetNode) ++ queued s).Nodup
  keys : ∀ x, x ∈ s.inDegree ↔ ∃ u ∈ units, u.targetNode = x
  degree : ∀ u ∈ units, s.degree u.targetNode + occurrences inp.graph (order.map Prod.fst) u =
    u.getInputEdgesCount inp.graph
  zero : ∀ x ∈ order.map (fun p => p.1.targetNode) ++ queued s, s.degree x = 0
  processed : s.numNodesProcessed = order.length
  phased : PhasedOrder (OccEdge inp.graph) (unitSupported inp) order
  phase_le : ∀ p ∈ order, p.2 ≤ k
  border : ∀ p ∈ order, unitSupported inp p.1 = true → p.2 = k → ∀ u ∈ units,
    OccEdge inp.graph p.1 u → u ∉ order.map Prod.fst → u.targetNode ∈ s.supportedGroupBorder
  border_group : ∀ x ∈ s.supportedGroupBorder, s.supportedGroup ≠ []
  later : ∀ x ∈ s.nodesToProcessWithNextGroup, x ∈ s.supportedGroupBorder
  group : s.supportedGroup = unitGroup inp order k
  groups : s.supportedGroups =
    ((List.range k).map (unitGroup inp order)).filter fun b => !b.isEmpty

theorem unitGroup_snoc (order : List (OrtNodeUnit × Nat)) (u : OrtNodeUnit) (k j : Nat) :
    unitGroup inp (order ++ [(u,k)]) j = unitGroup inp order j ++
      if unitSupported inp u = true ∧ k = j then u.getAllNodesInGroup else [] := by
  unfold unitGroup blockAt
  rw [filter_append,map_append,flatMap_append]
  congr 1
  by_cases h : unitSupported inp u = true ∧ k = j
  · simp [h]
  · rw [if_neg h,filter_cons_of_neg (by simpa using h)]
    rfl

theorem unitGroup_future {order : List (OrtNodeUnit × Nat)} {k j : Nat}
    (hk : ∀ p ∈ order, p.2 ≤ k) (hj : k < j) : unitGroup inp order j = [] := by
  unfold unitGroup
  rw [flatMap_eq_nil_iff]
  intro u hu
  have := hk _ (mem_blockAt.mp hu).1
  simp only at this
  omega

theorem hitsOf_unit (hv : ValidGrouping inp.graph units inp.nodeUnitMap) (hu : u ∈ units) (ns : List NodeId) :
    hitsOf inp.nodeUnitMap ns u.targetNode =
      ns.countP fun n => decide (n ∈ u.getAllNodesInGroup) := by
  refine countP_congr ?_
  intro n _
  rw [beq_iff_eq,Option.map_eq_some_iff,decide_eq_true_eq]
  constructor
  · rintro ⟨w,hw,he⟩
    obtain ⟨hwu,hn⟩ := (hv.map_iff n w).mp hw
    rwa [← hv.target_inj hwu hu he]
  · intro hn
    exact ⟨u,(hv.map_iff n u).mpr ⟨hu,hn⟩,rfl⟩

theorem hitsOf_pos (hv : ValidGrouping inp.graph units inp.nodeUnitMap) {x : NodeId}
    {ns : List NodeId} (h : 0 < hitsOf inp.nodeUnitMap ns x) : ∃ u ∈ units, u.targetNode = x := by
  obtain ⟨n,_,hn⟩ := countP_pos_iff.mp h
  rw [beq_iff_eq,Option.map_eq_some_iff] at hn
  obtain ⟨u,hu,he⟩ := hn
  exact ⟨u,((hv.map_iff n u).mp hu).1,he⟩

theorem occEdge_iff :
    OccEdge g w u ↔
    0 < (w.getOutputNodes g).countP fun n => decide (n ∈ u.getAllNodesInGroup) := by
  rw [countP_pos_iff]
  simp [OccEdge]

theorem getOutputNodes_mem (hc : g.Consistent) {n : NodeId} (h : n ∈ w.getOutputNodes g) : n ∈ g.nodes := by
  have hcons {k : NodeId} (hk : n ∈ g.getConsumers k) : n ∈ g.nodes := by
    obtain ⟨v,_,hv⟩ := mem_flatMap.mp hk
    exact hc.consumers_mem v n hv
  obtain ⟨c,hcm,hn⟩ := mem_flatMap.mp h
  split at hn
  · exact hcons hn
  · obtain rfl := mem_singleton.mp hn
    exact hcons hcm

def VisibleEdge (g : OrtGraph) (w u : OrtNodeUnit) : Prop :=
  ∃ x ∈ w.getAllNodesInGroup, w.visible x = true ∧ ∃ y ∈ u.getAllNodesInGroup,
    g.Edge x y ∧ ¬(x = w.outputProducer ∧ y ∈ w.qNodes)

instance (g : OrtGraph) (w u : OrtNodeUnit) : Decidable (VisibleEdge g w u) :=
  inferInstanceAs (Decidable (∃ x ∈ _, _ ∧ ∃ y ∈ _, _ ∧ _))

theorem occEdge_iff_visible (hc : g.Consistent) (hw : w.WellFormed g) (hu : u.WellFormed g) :
    OccEdge g w u ↔ VisibleEdge g w u := by
  have hmem {n : NodeId} (hn : n ∈ g.nodes) : n ∈ w.getOutputNodes g ↔
      ∃ x ∈ g.producers n, w.visible x = true ∧ ¬(x = w.outputProducer ∧ n ∈ w.qNodes) := by
    rw [← count_pos_iff,count_getOutputNodes hc hw hn]
    simp only [Nat.pos_iff_ne_zero,ne_eq,sum_eq_zero_iff,forall_mem_map,not_forall,
      exists_prop,← leaves_pos hw.apart]
  constructor
  · rintro ⟨n,hn,hnu⟩
    obtain ⟨x,hx,hvis,hno⟩ := (hmem (getOutputNodes_mem hc hn)).mp hn
    exact ⟨x,OrtNodeUnit.visible_mem hvis,hvis,n,hnu,g.edge_iff_producers.mpr hx,hno⟩
  · rintro ⟨x,_,hvis,y,hy,he,hno⟩
    exact ⟨y,(hmem (hu.mem_nodes y hy)).mpr ⟨x,g.edge_iff_producers.mp he,hvis,hno⟩,hy⟩

theorem occurrences_snoc (g : OrtGraph) (ws : List OrtNodeUnit) (w u : OrtNodeUnit) :
    occurrences g (ws ++ [w]) u = occurrences g ws u +
      (w.getOutputNodes g).countP fun n => decide (n ∈ u.getAllNodesInGroup) := by
  simp [occurrences]

theorem occurrences_le {g : OrtGraph} {ws : List OrtNodeUnit} (hsub : ∀ w ∈ ws, w ∈ units)
    (hn : ws.Nodup) (u : OrtNodeUnit) : occurrences g ws u ≤ occurrences g units u := by
  obtain ⟨l,hperm,hl⟩ := hn.subperm hsub
  unfold occurrences
  rw [← (hperm.flatMap_right _).countP_eq]
  exact (hl.flatMap _).countP_le

def Sparse (inp : PartitionInput) (units : List OrtNodeUnit) : Prop :=
  ∀ u ∈ units, occurrences inp.graph units u ≤ u.getInputEdgesCount inp.graph

namespace PartitionState

structure Grown (s t : PartitionState) (u : OrtNodeUnit) (supported : Bool) : Prop where
  inDegree : t.inDegree = s.inDegree
  queue : t.nodesToProcess = s.nodesToProcess
  nextQueue : t.nodesToProcessWithNextGroup = s.nodesToProcessWithNextGroup
  groups : t.supportedGroups = s.supportedGroups
  group : t.supportedGroup = s.supportedGroup ++ if supported then u.getAllNodesInGroup else []
  processed : t.numNodesProcessed = s.numNodesProcessed
  border_mono : ∀ x ∈ t.supportedGroupBorder, x ∈ s.supportedGroupBorder
  border_keep : ∀ x ∈ s.supportedGroupBorder, x ∉ u.getAllNodesInGroup → x ∈ t.supportedGroupBorder

theorem addUnit_grown (s : PartitionState) (hw : u.WellFormed g) (supported : Bool) :
    Grown s (if supported then s.addUnit u u.targetNode else s) u supported := by
  cases supported with
  | false => exact ⟨rfl,rfl,rfl,rfl,by simp,rfl,fun _ h => h,fun _ h _ => h⟩
  | true =>
    simp only [if_true]
    unfold addUnit
    split
    · refine ⟨rfl,rfl,rfl,rfl,rfl,rfl,?_,?_⟩
      · intro x hx
        simp only [Finset.mem_erase,Finset.mem_sdiff] at hx
        exact hx.2.1.1
      · intro x hx hnot
        rw [OrtNodeUnit.mem_all] at hnot
        simp only [not_or] at hnot
        simp only [Finset.mem_erase,Finset.mem_sdiff,Option.mem_toFinset,Option.mem_def]
        exact ⟨hnot.2.1,⟨hx,hnot.2.2.1⟩,hnot.2.2.2.1⟩
    · rename_i hty
      refine ⟨rfl,rfl,rfl,rfl,?_,rfl,?_,?_⟩
      · rw [hw.single hty]
        rfl
      · intro x hx
        exact (Finset.mem_erase.mp hx).2
      · intro x hx hnot
        refine Finset.mem_erase.mpr ⟨?_,hx⟩
        rintro rfl
        exact hnot u.target_mem

end PartitionState

variable {s : PartitionState} {order : List (OrtNodeUnit × Nat)} {k : Nat}

namespace Inv

theorem order_nodup (hi : Inv inp units s order k) : (order.map Prod.fst).Nodup := hi.phased.nodup

theorem mem_order_target (hi : Inv inp units s order k) (hv : ValidGrouping inp.graph units inp.nodeUnitMap)
    (hu : u ∈ units) : u.targetNode ∈ order.map (fun p => p.1.targetNode) ↔ u ∈ order.map Prod.fst := by
  constructor
  · intro h
    obtain ⟨p,hp,he⟩ := mem_map.mp h
    have := hv.target_inj (hi.order_mem p hp) hu he
    exact mem_map.mpr ⟨p,hp,this⟩
  · intro h
    obtain ⟨p,hp,rfl⟩ := mem_map.mp h
    exact mem_map.mpr ⟨p,hp,rfl⟩

theorem head_unit (hi : Inv inp units s order k) (hv : ValidGrouping inp.graph units inp.nodeUnitMap)
    (hr : s.nodesToProcess = node :: rest) :
    ∃ u ∈ units, u.targetNode = node ∧ inp.nodeUnitMap node = some u ∧ u ∉ order.map Prod.fst := by
  have hq : node ∈ queued s := mem_append_left _ (by rw [hr]; exact mem_cons_self)
  obtain ⟨u,hu,rfl⟩ := hi.queue_mem node hq
  refine ⟨u,hu,rfl,hv.map_target hu,?_⟩
  rw [← hi.mem_order_target hv hu]
  intro hm
  exact (nodup_append.mp hi.nodup).2.2 _ hm _ hq rfl

theorem hits_le (hi : Inv inp units s order k) (hv : ValidGrouping inp.graph units inp.nodeUnitMap)
    (hs : Sparse inp units) (hu : u ∈ units) (hnot : u ∉ order.map Prod.fst) (x : NodeId) :
    hitsOf inp.nodeUnitMap (u.getOutputNodes inp.graph) x ≤ s.degree x := by
  by_cases hx : 0 < hitsOf inp.nodeUnitMap (u.getOutputNodes inp.graph) x
  · obtain ⟨w,hw,rfl⟩ := hitsOf_pos hv hx
    rw [hitsOf_unit hv hw]
    have hsub : ∀ v ∈ order.map Prod.fst ++ [u], v ∈ units := by
      intro v hv'
      rcases mem_append.mp hv' with h | h
      · obtain ⟨p,hp,rfl⟩ := mem_map.mp h
        exact hi.order_mem p hp
      · rw [mem_singleton.mp h]
        exact hu
    have hnd : (order.map Prod.fst ++ [u]).Nodup := by
      refine nodup_append.mpr ⟨hi.order_nodup,nodup_singleton _,?_⟩
      rintro a ha b hb rfl
      rw [mem_singleton.mp hb] at ha
      exact hnot ha
    have hle := occurrences_le (g := inp.graph) hsub hnd w
    rw [occurrences_snoc] at hle
    have hd := hi.degree w hw
    have hsw := hs w hw
    omega
  · omega

theorem snoc_phased (hi : Inv inp units s order k) (hv : ValidGrouping inp.graph units inp.nodeUnitMap)
    (hs : Sparse inp units) (hu : u ∈ units) (hnot : u ∉ order.map Prod.fst)
    (hdeg : s.degree u.targetNode = 0)
    (hb : unitSupported inp u = false → u.targetNode ∉ s.supportedGroupBorder) :
    PhasedOrder (OccEdge inp.graph) (unitSupported inp) (order ++ [(u,k)]) := by
  have hzero : ∀ w ∈ units, s.degree w.targetNode = 0 → ¬OccEdge inp.graph u w := by
    intro w hw hz he
    have hle := hi.hits_le hv hs hu hnot w.targetNode
    rw [hitsOf_unit hv hw] at hle
    have hpos := occEdge_iff.mp he
    omega
  refine hi.phased.snoc hnot (hzero u hu hdeg) hi.phase_le ?_ ?_
  · intro p hp
    refine hzero p.1 (hi.order_mem p hp) ?_
    exact hi.zero p.1.targetNode (mem_append_left _ (mem_map.mpr ⟨p,hp,rfl⟩))
  · intro p hp hsp hsu he
    refine Nat.lt_of_le_of_ne (hi.phase_le p hp) ?_
    intro hpk
    exact hb hsu (hi.border p hp hsp hpk u hu he hnot)

end Inv

structure Processed (inp : PartitionInput) (s t : PartitionState) (u : OrtNodeUnit)
    (rest added : List NodeId) : Prop where
  degree : ∀ x, t.degree x + hitsOf inp.nodeUnitMap (u.getOutputNodes inp.graph) x = s.degree x
  inDegree_mem : ∀ x, (0 < hitsOf inp.nodeUnitMap (u.getOutputNodes inp.graph) x →
    x ∈ s.inDegree) → (x ∈ t.inDegree ↔ x ∈ s.inDegree)
  queue : t.nodesToProcess = rest ++ added
  added_nodup : added.Nodup
  mem_added : ∀ x ∈ added, 0 < hitsOf inp.nodeUnitMap (u.getOutputNodes inp.graph) x ∧
    s.degree x = hitsOf inp.nodeUnitMap (u.getOutputNodes inp.graph) x
  added_of_zero : ∀ x, t.degree x = 0 → s.degree x = 0 ∨ x ∈ added
  border_mono : ∀ x ∈ t.supportedGroupBorder,
    x ∈ s.supportedGroupBorder ∨ unitSupported inp u = true
  border_keep : ∀ x ∈ s.supportedGroupBorder, x ∉ u.getAllNodesInGroup → x ∈ t.supportedGroupBorder
  border_new : unitSupported inp u = true → ∀ x,
    0 < hitsOf inp.nodeUnitMap (u.getOutputNodes inp.graph) x → x ∈ t.supportedGroupBorder
  nextQueue : t.nodesToProcessWithNextGroup = s.nodesToProcessWithNextGroup
  groups : t.supportedGroups = s.supportedGroups
  group : t.supportedGroup = s.supportedGroup ++
    if unitSupported inp u then u.getAllNodesInGroup else []
  processed : t.numNodesProcessed = s.numNodesProcessed+1

theorem processNode_spec (hi : Inv inp units s order k) (hc : inp.graph.Consistent)
    (hv : ValidGrouping inp.graph units inp.nodeUnitMap) (hs : Sparse inp units) (rest : List NodeId)
    (hu : u ∈ units) (hnot : u ∉ order.map Prod.fst) :
    ∃ t added, processNode inp u u.targetNode (unitSupported inp u)
      { s with nodesToProcess := rest } = .ok t ∧ Processed inp s t u rest added := by
  have hgr := PartitionState.addUnit_grown { s with nodesToProcess := rest } (hv.wellFormed u hu)
    (unitSupported inp u)
  generalize hs' : (if unitSupported inp u then
    PartitionState.addUnit { s with nodesToProcess := rest } u u.targetNode
    else { s with nodesToProcess := rest }) = s' at hgr
  have hdeg : ∀ x, s'.degree x = s.degree x := by
    intro x
    simp [PartitionState.degree,hgr.inDegree]
  have hmap : ∀ n ∈ u.getOutputNodes inp.graph, ∃ w, inp.nodeUnitMap n = some w := by
    intro n hn
    obtain ⟨w,hw,hnw⟩ := hv.unit_of_node n (getOutputNodes_mem hc hn)
    exact ⟨w,(hv.map_iff n w).mpr ⟨hw,hnw⟩⟩
  obtain ⟨t,added,ht,hrel⟩ := relaxAll_spec (unitSupported inp u) (u.getOutputNodes inp.graph) s'
    hmap fun x => hdeg x ▸ hi.hits_le hv hs hu hnot x
  refine ⟨{ t with numNodesProcessed := t.numNodesProcessed+1 },added,?_,?_⟩
  · simp only [processNode,hs',ht]
  refine ⟨?_,?_,?_,hrel.added_nodup,?_,?_,?_,?_,?_,?_,?_,?_,?_⟩
  · intro x
    exact (hrel.degree x).trans (hdeg x)
  · intro x hx
    rw [← hgr.inDegree] at hx ⊢
    exact hrel.inDegree_mem x hx
  · exact hrel.queue.trans (congrArg (· ++ added) hgr.queue)
  · intro x hx
    rw [← hdeg]
    exact (hrel.mem_added x).mp hx
  · intro x hx
    have hx' : t.degree x = 0 := hx
    have h1 := hrel.degree x
    rw [hrel.mem_added,← hdeg]
    omega
  · intro x hx
    rcases (hrel.border x).mp hx with h | h
    · exact .inl (hgr.border_mono x h)
    · exact .inr h.1
  · intro x hx hout
    exact (hrel.border x).mpr (.inl (hgr.border_keep x hx hout))
  · intro hsup x hx
    exact (hrel.border x).mpr (.inr ⟨hsup,hx⟩)
  · exact hrel.nextQueue.trans hgr.nextQueue
  · exact hrel.groups.trans hgr.groups
  · exact hrel.group.trans hgr.group
  · exact congrArg (· + 1) (hrel.processed.trans hgr.processed)

theorem processed_perm {added : List NodeId} (hr : s.nodesToProcess = u.targetNode :: rest)
    (hp : Processed inp s t u rest added) (order : List (OrtNodeUnit × Nat)) (k : Nat) :
    ((order ++ [(u,k)]).map (fun p => p.1.targetNode) ++ queued t).Perm
      (added ++ (order.map (fun p => p.1.targetNode) ++ queued s)) := by
  rw [perm_iff_count]
  intro a
  simp only [queued,hp.queue,hp.nextQueue,hr,map_append,map_cons,map_nil,
    count_append,count_cons,count_nil]
  omega

theorem processed_inv (hi : Inv inp units s order k) (hv : ValidGrouping inp.graph units inp.nodeUnitMap)
    (hs : Sparse inp units) {added : List NodeId} (hu : u ∈ units)
    (hr : s.nodesToProcess = u.targetNode :: rest) (hnot : u ∉ order.map Prod.fst)
    (hb : unitSupported inp u = false → u.targetNode ∉ s.supportedGroupBorder)
    (hp : Processed inp s t u rest added) : Inv inp units t (order ++ [(u,k)]) k := by
  have hperm := processed_perm hr hp order k
  have hdeg : s.degree u.targetNode = 0 :=
    hi.zero _ (mem_append_right _ (mem_append_left _ (hr ▸ mem_cons_self)))
  refine ⟨?_,?_,?_,?_,?_,?_,?_,hi.snoc_phased hv hs hu hnot hdeg hb,?_,?_,?_,?_,?_,?_⟩
  · intro p hp'
    rcases mem_append.mp hp' with h | h
    · exact hi.order_mem p h
    · rw [mem_singleton.mp h]
      exact hu
  · intro x hx
    simp only [queued,hp.queue,hp.nextQueue,mem_append] at hx
    rcases hx with (h | h) | h
    · exact hi.queue_mem x (by simp [queued,hr,h])
    · exact hitsOf_pos hv (hp.mem_added x h).1
    · exact hi.queue_mem x (by simp [queued,h])
  · refine hperm.nodup_iff.mpr (nodup_append.mpr ⟨hp.added_nodup,hi.nodup,?_⟩)
    rintro x hx _ hy rfl
    have h1 := hp.mem_added x hx
    have h2 := hi.zero x hy
    omega
  · intro x
    rw [hp.inDegree_mem x fun h => (hi.keys x).mpr (hitsOf_pos hv h)]
    exact hi.keys x
  · intro w hw
    have h1 := hp.degree w.targetNode
    have h2 := hi.degree w hw
    rw [hitsOf_unit hv hw] at h1
    rw [map_append,map_singleton,occurrences_snoc]
    dsimp only
    omega
  · intro x hx
    have h1 := hp.degree x
    rcases mem_append.mp (hperm.mem_iff.mp hx) with h | h
    · have h2 := hp.mem_added x h
      omega
    · have h2 := hi.zero x h
      omega
  · rw [hp.processed,hi.processed,length_append,length_singleton]
  · intro p hp'
    rcases mem_append.mp hp' with h | h
    · exact hi.phase_le p h
    · rw [mem_singleton.mp h]
  · intro p hp' hsp hpk w hw he hwn
    rw [map_append,map_singleton,mem_append,not_or,mem_singleton] at hwn
    rcases mem_append.mp hp' with h | h
    · refine hp.border_keep _ (hi.border p h hsp hpk w hw he hwn.1) ?_
      intro hin
      exact hwn.2 (hv.unit_unique hw hu w.target_mem hin)
    · rw [mem_singleton.mp h] at hsp he
      refine hp.border_new hsp _ ?_
      rw [hitsOf_unit hv hw]
      exact occEdge_iff.mp he
  · intro x hx
    rw [hp.group]
    rcases hp.border_mono x hx with h | h
    · simp [hi.border_group x h]
    · rw [if_pos h]
      exact append_ne_nil_of_right_ne_nil _ (ne_nil_of_mem u.target_mem)
  · intro x hx
    rw [hp.nextQueue] at hx
    refine hp.border_keep x (hi.later x hx) ?_
    intro hin
    obtain ⟨w,hw,rfl⟩ := hi.queue_mem x (mem_append_right _ hx)
    have hwu := hv.unit_unique hw hu w.target_mem hin
    subst hwu
    have hnd := (nodup_append.mp hi.nodup).2.1
    rw [queued,hr,cons_append,nodup_cons] at hnd
    exact hnd.1 (mem_append_right _ hx)
  · rw [hp.group,hi.group,unitGroup_snoc]
    simp
  · rw [hp.groups,hi.groups]
    congr 1
    refine map_congr_left ?_
    intro j hj
    rw [unitGroup_snoc,if_neg (by have := mem_range.mp hj; omega),append_nil]

theorem dropNode_inv (hi : Inv inp units s order k) (hr : s.nodesToProcess = node :: rest) :
    Inv inp units { s with nodesToProcess := rest } order k := by
  have hsub : (rest ++ s.nodesToProcessWithNextGroup).Sublist (queued s) := by
    rw [queued,hr]
    exact sublist_cons_self _ _
  have hall := (List.Sublist.refl (order.map fun p => p.1.targetNode)).append hsub
  exact ⟨hi.order_mem,fun x hx => hi.queue_mem x (hsub.subset hx),hi.nodup.sublist hall,hi.keys,
    hi.degree,fun x hx => hi.zero x (hall.subset hx),hi.processed,hi.phased,hi.phase_le,hi.border,
    hi.border_group,hi.later,hi.group,hi.groups⟩

theorem deferNode_inv (hi : Inv inp units s order k) (hr : s.nodesToProcess = node :: rest)
    (hb : node ∈ s.supportedGroupBorder) :
    Inv inp units { s with
      nodesToProcess := rest
      nodesToProcessWithNextGroup := s.nodesToProcessWithNextGroup ++ [node] } order k := by
  have hperm : (rest ++ (s.nodesToProcessWithNextGroup ++ [node])).Perm (queued s) := by
    rw [queued,hr,← append_assoc]
    exact (perm_append_singleton node _)
  have hall := hperm.append_left (order.map fun p => p.1.targetNode)
  refine ⟨hi.order_mem,fun x hx => hi.queue_mem x (hperm.subset hx),hall.nodup_iff.mpr hi.nodup,
    hi.keys,hi.degree,fun x hx => hi.zero x (hall.subset hx),hi.processed,hi.phased,hi.phase_le,
    hi.border,hi.border_group,?_,hi.group,hi.groups⟩
  intro x hx
  rcases mem_append.mp hx with h | h
  · exact hi.later x h
  · rw [mem_singleton.mp h]
    exact hb

theorem startNextGroup_inv (hi : Inv inp units s order k) (hr : s.nodesToProcess = [])
    (hn : s.nodesToProcessWithNextGroup ≠ []) : Inv inp units s.startNextGroup order (k+1) := by
  obtain ⟨x,hx⟩ := exists_mem_of_ne_nil _ hn
  have hg := hi.border_group x (hi.later x hx)
  have hclose : s.closeGroup = { s with
      supportedGroups := s.supportedGroups ++ [s.supportedGroup]
      supportedGroup := []
      supportedGroupBorder := ∅ } := by
    unfold PartitionState.closeGroup
    rw [if_neg (by simpa using hg)]
  have hq : queued s.startNextGroup = queued s := by
    simp [queued,PartitionState.startNextGroup,hr]
  unfold PartitionState.startNextGroup at hq ⊢
  rw [hclose] at hq ⊢
  refine ⟨hi.order_mem,?_,?_,hi.keys,hi.degree,?_,hi.processed,hi.phased,?_,?_,?_,?_,?_,?_⟩
  · rw [hq]
    exact hi.queue_mem
  · rw [hq]
    exact hi.nodup
  · rw [hq]
    exact hi.zero
  · intro p hp
    exact Nat.le_succ_of_le (hi.phase_le p hp)
  · intro p hp _ hpk
    have := hi.phase_le p hp
    omega
  · intro y hy
    exact absurd hy (Finset.notMem_empty y)
  · intro y hy
    exact absurd hy not_mem_nil
  · exact (unitGroup_future hi.phase_le (Nat.lt_succ_self k)).symm
  · rw [hi.groups,range_succ,map_append,filter_append,map_singleton,
      ← hi.group,filter_cons_of_pos (by simpa using hg),filter_nil]

inductive StepCase (inp : PartitionInput) (units : List OrtNodeUnit) (s : PartitionState)
    (order : List (OrtNodeUnit × Nat)) : PartitionState → Option NodeId → Prop
  | nextGroup (hr : s.nodesToProcess = []) (hn : s.nodesToProcessWithNextGroup ≠ []) :
      StepCase inp units s order s.startNextGroup none
  | drop {node : NodeId} {rest : List NodeId} (hr : s.nodesToProcess = node :: rest)
      (hep : inp.nodeEpName node = none) :
      StepCase inp units s order { s with nodesToProcess := rest } none
  | defer {node : NodeId} {rest : List NodeId} (hr : s.nodesToProcess = node :: rest)
      (hb : node ∈ s.supportedGroupBorder) :
      StepCase inp units s order { s with
        nodesToProcess := rest
        nodesToProcessWithNextGroup := s.nodesToProcessWithNextGroup ++ [node] } none
  | process {u : OrtNodeUnit} {rest added : List NodeId} {t : PartitionState} (hu : u ∈ units)
      (hr : s.nodesToProcess = u.targetNode :: rest) (hnot : u ∉ order.map Prod.fst)
      (hb : unitSupported inp u = false → u.targetNode ∉ s.supportedGroupBorder)
      (hp : Processed inp s t u rest added) :
      StepCase inp units s order t (some u.targetNode)

theorem step_cases (hi : Inv inp units s order k) (hc : inp.graph.Consistent)
    (hv : ValidGrouping inp.graph units inp.nodeUnitMap) (hs : Sparse inp units)
    (hf : finished s = false) :
    ∃ t, step inp s = .ok t ∧ StepCase inp units s order t (visits inp s) := by
  unfold step visits
  cases hr : s.nodesToProcess with
  | nil =>
    have hn : s.nodesToProcessWithNextGroup ≠ [] := by
      simpa [finished,hr] using hf
    exact ⟨_,rfl,.nextGroup hr hn⟩
  | cons node rest =>
    obtain ⟨u,hu,rfl,hm,hnot⟩ := hi.head_unit hv hr
    simp only [hm]
    cases hep : inp.nodeEpName u.targetNode with
    | none => exact ⟨_,rfl,.drop hr hep⟩
    | some epName =>
      have hsup : isNodeSupported inp epName u.targetNode = unitSupported inp u := by
        simp [unitSupported,hep]
      simp only [hsup]
      by_cases hd : (!unitSupported inp u && decide (u.targetNode ∈ s.supportedGroupBorder)) = true
      · rw [if_pos hd,if_pos hd]
        simp only [Bool.and_eq_true,decide_eq_true_eq] at hd
        exact ⟨_,rfl,.defer hr hd.2⟩
      · rw [if_neg hd,if_neg hd]
        have hb : unitSupported inp u = false → u.targetNode ∉ s.supportedGroupBorder := by
          intro hus
          simpa [hus] using hd
        obtain ⟨t,added,ht,hp⟩ := processNode_spec hi hc hv hs rest hu hnot
        exact ⟨t,ht,.process hu hr hnot hb hp⟩

theorem step_inv (hi : Inv inp units s order k) (hv : ValidGrouping inp.graph units inp.nodeUnitMap)
    (hs : Sparse inp units) {visited : Option NodeId} (h : StepCase inp units s order t visited) :
    ∃ order' k', Inv inp units t order' k' ∧ order'.map (fun p => p.1.targetNode) =
      order.map (fun p => p.1.targetNode) ++ visited.toList := by
  cases h with
  | nextGroup hr hn => exact ⟨order,k+1,startNextGroup_inv hi hr hn,by simp⟩
  | drop hr _ => exact ⟨order,k,dropNode_inv hi hr,by simp⟩
  | defer hr hb => exact ⟨order,k,deferNode_inv hi hr hb,by simp⟩
  | process hu hr hnot hb hp => exact ⟨_,k,processed_inv hi hv hs hu hr hnot hb hp,by simp⟩

theorem loop_inv (hc : inp.graph.Consistent) (hv : ValidGrouping inp.graph units inp.nodeUnitMap)
    (hs : Sparse inp units) (fuel : Nat) (hi : Inv inp units s order k) (h : loop inp fuel s = some (.ok t)) :
    finished t = true ∧ ∃ order' k', Inv inp units t order' k' := by
  induction fuel generalizing s order k with
  | zero => cases h
  | succ fuel ih =>
    rw [loop] at h
    split at h
    · rename_i hf
      cases h
      exact ⟨hf,order,k,hi⟩
    · rename_i hf
      obtain ⟨s',hst,hcase⟩ := step_cases hi hc hv hs (by simpa using hf)
      obtain ⟨order',k',hi',_⟩ := step_inv hi hv hs hcase
      rw [hst] at h
      exact ih hi' h

theorem run_inv (hc : inp.graph.Consistent) (hv : ValidGrouping inp.graph units inp.nodeUnitMap)
    (hs : Sparse inp units) {visited : List NodeId} (hi : Inv inp units s [] 0) (h : Run inp s visited t) :
    ∃ order k, Inv inp units t order k ∧ order.map (fun p => p.1.targetNode) = visited := by
  induction h with
  | refl => exact ⟨[],0,hi,rfl⟩
  | tail _ hf hst ih =>
    obtain ⟨order,k,hi',hvis⟩ := ih
    obtain ⟨r,hr,hcase⟩ := step_cases hi' hc hv hs hf
    obtain ⟨order',k',hi'',hmap⟩ := step_inv hi' hv hs hcase
    cases hst.symm.trans hr
    exact ⟨order',k',hi'',by rw [hmap,hvis]⟩

end QnnEp.Partition
