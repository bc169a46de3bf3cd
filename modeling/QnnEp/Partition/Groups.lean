import QnnEp.Partition.Step

namespace QnnEp.Partition
open Counting List Ort Phased UnitEdges

variable {inp : PartitionInput} {units : List OrtNodeUnit}

def rootDegree (inp : PartitionInput) (n : NodeId) : Option Nat :=
  match inp.nodeUnitMap n with
  | none => none
  | some u => if u.targetNode = n then some (u.getInputEdgesCount inp.graph) else none

structure Initialized (inp : PartitionInput) (ns : List NodeId) (s t : PartitionState) : Prop where
  queue : t.nodesToProcess = s.nodesToProcess ++ ns.filter fun n => rootDegree inp n == some 0
  keys : ∀ x, x ∈ t.inDegree ↔ x ∈ s.inDegree ∨ x ∈ ns ∧ (rootDegree inp x).isSome
  degree : ∀ x, t.degree x = if x ∈ ns then (rootDegree inp x).getD (s.degree x) else s.degree x
  nextQueue : t.nodesToProcessWithNextGroup = s.nodesToProcessWithNextGroup
  groups : t.supportedGroups = s.supportedGroups
  group : t.supportedGroup = s.supportedGroup
  border : t.supportedGroupBorder = s.supportedGroupBorder
  processed : t.numNodesProcessed = s.numNodesProcessed

section
variable {s t : PartitionState} {n : NodeId} {ns : List NodeId} {d : Nat}

theorem mem_addRoot (hin : n ∉ s.inDegree) {x : NodeId} :
    x ∈ (s.addRoot n d).inDegree ↔ x = n ∨ x ∈ s.inDegree := by
  simp only [PartitionState.addRoot,if_neg hin,AList.mem_insert]

theorem addRoot_degree (hin : n ∉ s.inDegree) (x : NodeId) :
    (s.addRoot n d).degree x = if x = n then d else s.degree x := by
  unfold PartitionState.degree PartitionState.addRoot
  simp only [if_neg hin]
  by_cases hx : x = n
  · subst hx
    simp
  · simp [AList.lookup_insert_ne hx,hx]

theorem Initialized.cons_root (hroot : rootDegree inp n = some d) (hin : n ∉ s.inDegree)
    (hn : n ∉ ns) (h : Initialized inp ns (s.addRoot n d) t) : Initialized inp (n :: ns) s t := by
  refine ⟨?_,?_,?_,h.nextQueue,h.groups,h.group,h.border,h.processed⟩
  · rw [h.queue,filter_cons,hroot]
    by_cases h0 : d = 0 <;> simp [PartitionState.addRoot,h0]
  · intro x
    rw [h.keys,mem_addRoot hin,mem_cons]
    constructor
    · rintro ((rfl | hx) | hx)
      · exact .inr ⟨.inl rfl,by simp [hroot]⟩
      · exact .inl hx
      · exact .inr ⟨.inr hx.1,hx.2⟩
    · rintro (hx | ⟨rfl | hx,hsome⟩)
      · exact .inl (.inr hx)
      · exact .inl (.inl rfl)
      · exact .inr ⟨hx,hsome⟩
  · intro x
    rw [h.degree,addRoot_degree hin]
    by_cases hx : x = n
    · subst hx
      simp [hn,hroot]
    · simp [hx]

theorem Initialized.cons_other (hroot : rootDegree inp n = none) (h : Initialized inp ns s t) :
    Initialized inp (n :: ns) s t := by
  refine ⟨?_,?_,?_,h.nextQueue,h.groups,h.group,h.border,h.processed⟩
  · rw [h.queue,filter_cons,hroot]
    simp
  · intro x
    rw [h.keys]
    by_cases hx : x = n
    · subst hx
      simp [hroot]
    · simp [hx]
  · intro x
    rw [h.degree]
    by_cases hx : x = n
    · subst hx
      simp [hroot]
    · simp [hx]

end

theorem initInDegrees_spec (inp : PartitionInput) (ns : List NodeId) (s : PartitionState) (hn : ns.Nodup)
    (hm : ∀ n ∈ ns, ∃ u, inp.nodeUnitMap n = some u) (hnew : ∀ n ∈ ns, n ∉ s.inDegree) :
    ∃ t, initInDegrees inp ns s = .ok t ∧ Initialized inp ns s t := by
  induction ns generalizing s with
  | nil =>
    refine ⟨s,rfl,⟨?_,?_,?_,rfl,rfl,rfl,rfl,rfl⟩⟩ <;> simp
  | cons n ns ih =>
    obtain ⟨hn1,hn2⟩ := nodup_cons.mp hn
    obtain ⟨u,hu⟩ := hm n mem_cons_self
    have hm' : ∀ m ∈ ns, ∃ u, inp.nodeUnitMap m = some u :=
      fun m hmem => hm m (mem_cons_of_mem _ hmem)
    have hin : n ∉ s.inDegree := hnew n mem_cons_self
    have hnew' : ∀ m ∈ ns, m ∉ s.inDegree := fun m hmem => hnew m (mem_cons_of_mem _ hmem)
    rw [initInDegrees,hu]
    by_cases ht : u.targetNode = n
    · have hadd : ∀ m ∈ ns, m ∉ (s.addRoot n (u.getInputEdgesCount inp.graph)).inDegree := by
        intro m hmem
        rw [mem_addRoot hin,not_or]
        refine ⟨?_,hnew' m hmem⟩
        rintro rfl
        exact hn1 hmem
      obtain ⟨t,hok,hinit⟩ := ih (s.addRoot n (u.getInputEdgesCount inp.graph)) hn2 hm' hadd
      exact ⟨t,by simpa [ht] using hok,hinit.cons_root (by simp [rootDegree,hu,ht]) hin hn1⟩
    · obtain ⟨t,hok,hinit⟩ := ih s hn2 hm' hnew'
      exact ⟨t,by simpa [ht] using hok,hinit.cons_other (by simp [rootDegree,hu,ht])⟩

theorem rootDegree_iff (hv : ValidGrouping inp.graph units inp.nodeUnitMap) {x : NodeId} {d : Nat} :
    rootDegree inp x = some d ↔
      ∃ u ∈ units, u.targetNode = x ∧ u.getInputEdgesCount inp.graph = d := by
  constructor
  · intro h
    unfold rootDegree at h
    split at h
    · cases h
    · rename_i u hu
      split at h
      · rename_i ht
        exact ⟨u,((hv.map_iff x u).mp hu).1,ht,Option.some.inj h⟩
      · cases h
  · rintro ⟨u,hu,rfl,rfl⟩
    simp [rootDegree,hv.map_target hu]

theorem init_inv (hc : inp.graph.Consistent)
    (hv : ValidGrouping inp.graph units inp.nodeUnitMap) :
    ∃ t, initInDegrees inp inp.graph.nodes .empty = .ok t ∧ Inv inp units t [] 0 ∧
      ∀ u ∈ units, t.degree u.targetNode = 0 → u.targetNode ∈ t.nodesToProcess := by
  obtain ⟨t,ht,hinit⟩ := initInDegrees_spec inp inp.graph.nodes .empty hc.nodes_nodup (by
    intro n hn
    obtain ⟨u,hu,hnu⟩ := hv.unit_of_node n hn
    exact ⟨u,(hv.map_iff n u).mpr ⟨hu,hnu⟩⟩) (by
    intro n _
    exact AList.notMem_empty n)
  have htarget : ∀ u ∈ units, u.targetNode ∈ inp.graph.nodes :=
    fun u hu => (hv.wellFormed u hu).mem_nodes _ u.target_mem
  have hq : t.nodesToProcess = inp.graph.nodes.filter fun n => rootDegree inp n == some 0 :=
    hinit.queue
  have hnext : t.nodesToProcessWithNextGroup = [] := hinit.nextQueue
  have hqueued : queued t = inp.graph.nodes.filter fun n => rootDegree inp n == some 0 := by
    rw [queued,hq,hnext,append_nil]
  have hdeg : ∀ u ∈ units, t.degree u.targetNode = u.getInputEdgesCount inp.graph := by
    intro u hu
    rw [hinit.degree,if_pos (htarget u hu),(rootDegree_iff hv).mpr ⟨u,hu,rfl,rfl⟩]
    rfl
  refine ⟨t,ht,⟨?_,?_,?_,?_,?_,?_,hinit.processed,PhasedOrder.nil,?_,?_,?_,?_,?_,?_⟩,?_⟩
  · intro p hp
    exact absurd hp not_mem_nil
  · intro x hx
    rw [hqueued,mem_filter,beq_iff_eq,rootDegree_iff hv] at hx
    obtain ⟨_,u,hu,he,_⟩ := hx
    exact ⟨u,hu,he⟩
  · rw [hqueued]
    exact hc.nodes_nodup.filter _
  · intro x
    rw [hinit.keys,Option.isSome_iff_exists]
    constructor
    · rintro (h | ⟨_,d,hd⟩)
      · exact absurd h (AList.notMem_empty x)
      · obtain ⟨u,hu,he,_⟩ := (rootDegree_iff hv).mp hd
        exact ⟨u,hu,he⟩
    · rintro ⟨u,hu,rfl⟩
      exact .inr ⟨htarget u hu,_,(rootDegree_iff hv).mpr ⟨u,hu,rfl,rfl⟩⟩
  · intro u hu
    rw [hdeg u hu]
    rfl
  · intro x hx
    rw [hqueued,map_nil,nil_append,mem_filter,beq_iff_eq,rootDegree_iff hv] at hx
    obtain ⟨_,u,hu,rfl,hz⟩ := hx
    rw [hdeg u hu,hz]
  · intro p hp
    exact absurd hp not_mem_nil
  · intro p hp
    exact absurd hp not_mem_nil
  · intro x hx
    rw [hinit.border] at hx
    exact absurd hx (Finset.notMem_empty x)
  · intro x hx
    rw [hnext] at hx
    exact absurd hx not_mem_nil
  · exact hinit.group
  · exact hinit.groups
  · intro u hu hz
    rw [hq,mem_filter,beq_iff_eq]
    refine ⟨htarget u hu,(rootDegree_iff hv).mpr ⟨u,hu,rfl,?_⟩⟩
    rw [← hdeg u hu,hz]

variable {s : PartitionState} {order : List (OrtNodeUnit × Nat)} {k : Nat}

def UnitEdge (g : OrtGraph) (w u : OrtNodeUnit) : Prop :=
  w ≠ u ∧ ∃ x ∈ w.getAllNodesInGroup, ∃ y ∈ u.getAllNodesInGroup, g.Edge x y

def nodeSupported (inp : PartitionInput) (n : NodeId) : Bool :=
  ((inp.nodeUnitMap n).map (unitSupported inp)).getD false

structure GroupsOk (inp : PartitionInput) (units : List OrtNodeUnit) (groups : List (List NodeId)) :
    Prop where
  disjoint : groups.Pairwise List.Disjoint
  cover : ∀ n, n ∈ groups.flatten ↔
    ∃ u ∈ units, unitSupported inp u = true ∧ n ∈ u.getAllNodesInGroup
  ordered : ∀ b ∈ groups, TopologicallyOrdered inp.graph.Feeds b
  acyclic : Acyclic (contracted inp.graph.Feeds groups)
  unit_acyclic : ∃ parts : List (List OrtNodeUnit),
    groups = parts.map (fun p => p.flatMap fun u => u.getAllNodesInGroup) ∧
      Acyclic (contracted (fun w u => w ∈ units ∧ u ∈ units ∧ UnitEdge inp.graph w u) parts)

theorem feeds_acyclic {g : OrtGraph} (h : ∀ m ∈ g.nodes, ∀ i ∈ g.inputs m,
    (i.bind g.valueProducer).all (fun n => decide (n < m)) = true) : Acyclic g.Feeds := by
  refine acyclic_of_rank id ?_
  rintro n m ⟨hm,he⟩
  obtain ⟨i,hi,hn⟩ := g.edge_iff.mp he
  have hall := h m hm i hi
  rw [hn] at hall
  simpa using hall

theorem occEdge_of_edge (hc : inp.graph.Consistent)
    (hv : ValidGrouping inp.graph units inp.nodeUnitMap) (hl : ∀ u ∈ units, u.Layered inp.graph)
    {u w : OrtNodeUnit} (hu : u ∈ units) (hw : w ∈ units)
    (hall : producerEdges inp.graph u ≤ occurrences inp.graph units u)
    (he : UnitEdge inp.graph w u) : OccEdge inp.graph w u := by
  obtain ⟨hne,x,hx,y,hy,hxy⟩ := he
  have hsep := fun v hv' => hv.same_or_disjoint (w := v) hu hv'
  have hout : x ∉ u.getAllNodesInGroup := fun h => (hsep w hw).resolve_left hne hx h
  have hin : (x,y) ∈ entering inp.graph u := mem_entering.mpr
    ⟨(hv.wellFormed u hu).mem_nodes y hy,hy,hxy,
      Bool.eq_false_iff.mpr fun h => hout (internal_mem h)⟩
  rw [producerEdges_eq_sum (hl u hu) (hv.wellFormed u hu) hc,
    occurrences_eq hv.wellFormed hu hsep hc] at hall
  have hone := eq_of_sum_eq (exits_le_outside hl hv.wellFormed hv.disjoint hu hsep) hall _ hin
  rw [if_pos (by simpa [outside] using hout)] at hone
  obtain ⟨v,hvu,hvis⟩ := exits_pos.mp (hone ▸ Nat.one_pos)
  obtain rfl := hv.unit_unique hvu hw (OrtNodeUnit.visible_mem hvis) hx
  refine (occEdge_iff_visible hc (hv.wellFormed v hw) (hv.wellFormed u hu)).mpr
    ⟨x,hx,hvis,y,hy,hxy,fun h => ?_⟩
  exact (hsep v hw).resolve_left hne (OrtNodeUnit.mem_all_of_q h.2) hy

theorem keys_length (hi : Inv inp units s order k)
    (hv : ValidGrouping inp.graph units inp.nodeUnitMap) :
    s.inDegree.entries.length = units.length := by
  have hnd : (units.map OrtNodeUnit.targetNode).Nodup := by
    refine List.Nodup.map_on ?_ hv.nodup
    intro u hu w hw he
    exact hv.target_inj hu hw he
  have hperm : s.inDegree.keys.Perm (units.map OrtNodeUnit.targetNode) := by
    rw [perm_ext_iff_of_nodup s.inDegree.keys_nodup hnd]
    intro x
    rw [← AList.mem_keys,hi.keys,mem_map]
  have hlen := hperm.length_eq
  simpa [AList.keys,List.keys] using hlen

theorem order_perm (hi : Inv inp units s order k)
    (hv : ValidGrouping inp.graph units inp.nodeUnitMap)
    (hnum : s.numNodesProcessed = s.inDegree.entries.length) :
    (order.map Prod.fst).Perm units := by
  have hsub : order.map Prod.fst ⊆ units := by
    intro u hu
    obtain ⟨p,hp,rfl⟩ := mem_map.mp hu
    exact hi.order_mem p hp
  have hsp := hi.order_nodup.subperm hsub
  refine hsp.perm_of_length_le ?_
  rw [length_map,← hi.processed,hnum,keys_length hi hv]

theorem closeGroup_groups (hi : Inv inp units s order k) :
    s.closeGroup.supportedGroups =
      ((List.range (k+1)).map (unitGroup inp order)).filter fun b => !b.isEmpty := by
  rw [range_succ,map_append,filter_append,map_singleton,← hi.group,← hi.groups]
  unfold PartitionState.closeGroup
  cases hg : s.supportedGroup with
  | nil | cons x xs => simp

theorem groups_nodeBlocks (hi : Inv inp units s order k)
    (hv : ValidGrouping inp.graph units inp.nodeUnitMap) :
    s.closeGroup.supportedGroups = blocks (nodeSupported inp)
      (PhasedOrder.expand (fun u : OrtNodeUnit => u.getAllNodesInGroup) order) (k+1) := by
  rw [closeGroup_groups hi,blocks]
  congr 1
  refine map_congr_left ?_
  intro j _
  symm
  refine PhasedOrder.blockAt_expand _ order j ?_
  intro p hp x hx
  simp [nodeSupported,(hv.map_iff x p.1).mpr ⟨hi.order_mem p hp,hx⟩]

theorem groups_unitBlocks (hi : Inv inp units s order k) :
    s.closeGroup.supportedGroups = (blocks (unitSupported inp) order (k+1)).map
      fun p => p.flatMap fun u => u.getAllNodesInGroup := by
  have hempty : ∀ us : List OrtNodeUnit,
      (us.flatMap fun u => u.getAllNodesInGroup).isEmpty = us.isEmpty := by
    intro us
    cases us with
    | nil => rfl
    | cons u us =>
      rw [flatMap_cons,isEmpty_cons,isEmpty_eq_false_iff]
      exact append_ne_nil_of_left_ne_nil (ne_nil_of_mem u.target_mem) _
  rw [closeGroup_groups hi,blocks,filter_map,filter_map,map_map]
  have hfun : unitGroup inp order = (fun p => p.flatMap fun u => u.getAllNodesInGroup) ∘
      blockAt (unitSupported inp) order := rfl
  rw [hfun]
  congr 1
  refine filter_congr ?_
  intro j _
  simp only [Function.comp_apply,hempty]

theorem sparse_of_producerEdges (hc : inp.graph.Consistent)
    (hv : ValidGrouping inp.graph units inp.nodeUnitMap) (hl : ∀ u ∈ units, u.Layered inp.graph)
    (hd : ∀ u ∈ units, u.getInputEdgesCount inp.graph = producerEdges inp.graph u) :
    Sparse inp units := by
  intro u hu
  have hsep := fun v hv' => hv.same_or_disjoint (w := v) hu hv'
  rw [hd u hu,producerEdges_eq_sum (hl u hu) (hv.wellFormed u hu) hc,
    occurrences_eq hv.wellFormed hu hsep hc]
  exact sum_le_sum (exits_le_outside hl hv.wellFormed hv.disjoint hu hsep)

theorem unitEdge_phased (hi : Inv inp units s order k) (hc : inp.graph.Consistent)
    (hv : ValidGrouping inp.graph units inp.nodeUnitMap) (hl : ∀ u ∈ units, u.Layered inp.graph)
    (hd : ∀ u ∈ units, u.getInputEdgesCount inp.graph = producerEdges inp.graph u) :
    PhasedOrder (UnitEdge inp.graph) (unitSupported inp) order := by
  refine hi.phased.mono_edge ?_
  intro p hp q hq he
  have hsub : ∀ w ∈ order.map Prod.fst, w ∈ units := by
    intro w hw
    obtain ⟨r,hr,rfl⟩ := mem_map.mp hw
    exact hi.order_mem r hr
  have hqu := hi.order_mem q hq
  refine occEdge_of_edge hc hv hl hqu (hi.order_mem p hp) ?_ he
  have hle := occurrences_le (g := inp.graph) hsub hi.order_nodup q.1
  have hdeg := hi.degree q.1 hqu
  have hz := hi.zero q.1.targetNode (mem_append_left _ (mem_map.mpr ⟨q,hq,rfl⟩))
  have := hd q.1 hqu
  omega

theorem feeds_phased (hi : Inv inp units s order k)
    (hv : ValidGrouping inp.graph units inp.nodeUnitMap) (hl : ∀ u ∈ units, u.Layered inp.graph)
    (hperm : (order.map Prod.fst).Perm units)
    (hph : PhasedOrder (UnitEdge inp.graph) (unitSupported inp) order) :
    PhasedOrder inp.graph.Feeds (nodeSupported inp)
      (PhasedOrder.expand (fun u : OrtNodeUnit => u.getAllNodesInGroup) order) := by
  refine hph.expand_phased _ ?_ ?_ ?_ ?_ ?_
  · exact (hperm.flatMap_right _).nodup_iff.mpr (hv.flatMap_nodup hl)
  · intro p hp x hx
    simp [nodeSupported,(hv.map_iff x p.1).mpr ⟨hi.order_mem p hp,hx⟩]
  · intro p hp x hx hxx
    exact Nat.lt_irrefl _ ((hl p.1 (hi.order_mem p hp)).forward x hx x hx hxx.2)
  · intro p hp
    have hw := hv.wellFormed p.1 (hi.order_mem p hp)
    refine (OrtNodeUnit.all_role_sorted hw.apart).imp_of_mem ?_
    intro x y hx hy hle hyx
    exact Nat.not_lt.mpr hle ((hl p.1 (hi.order_mem p hp)).forward y hy x hx hyx.2)
  · intro p _ q _ hne x hx y hy hxy
    exact ⟨hne,x,hx,y,hy,hxy.2⟩

theorem groupsOk_of_inv (hi : Inv inp units s order k) (hc : inp.graph.Consistent)
    (hv : ValidGrouping inp.graph units inp.nodeUnitMap) (hl : ∀ u ∈ units, u.Layered inp.graph)
    (hd : ∀ u ∈ units, u.getInputEdgesCount inp.graph = producerEdges inp.graph u)
    (hperm : (order.map Prod.fst).Perm units) :
    GroupsOk inp units s.closeGroup.supportedGroups := by
  have hunit := unitEdge_phased hi hc hv hl hd
  have hnode := feeds_phased hi hv hl hperm hunit
  have hlt : ∀ p ∈ order, p.2 < k+1 := fun p hp => Nat.lt_succ_of_le (hi.phase_le p hp)
  have hlt' : ∀ p ∈ PhasedOrder.expand (fun u : OrtNodeUnit => u.getAllNodesInGroup) order,
      p.2 < k+1 := by
    intro p hp
    obtain ⟨q,hq,hpq⟩ := mem_flatMap.mp hp
    obtain ⟨x,_,rfl⟩ := mem_map.mp hpq
    exact hlt q hq
  have hmem : ∀ n, n ∈ (PhasedOrder.expand (fun u : OrtNodeUnit => u.getAllNodesInGroup)
      order).map Prod.fst ↔ n ∈ inp.graph.nodes := by
    intro n
    rw [PhasedOrder.expand_fst,← hv.mem_nodes_iff]
    exact (hperm.flatMap_right _).mem_iff
  refine ⟨?_,?_,?_,?_,_,groups_unitBlocks hi,?_⟩
  · rw [groups_nodeBlocks hi hv]
    exact hnode.blocks_disjoint _
  · intro n
    rw [groups_nodeBlocks hi hv,PhasedOrder.mem_flatten_blocks hlt',hmem]
    constructor
    · rintro ⟨hn,hs⟩
      obtain ⟨u,hu,hnu⟩ := hv.unit_of_node n hn
      refine ⟨u,hu,?_,hnu⟩
      simpa [nodeSupported,(hv.map_iff n u).mpr ⟨hu,hnu⟩] using hs
    · rintro ⟨u,hu,hs,hnu⟩
      refine ⟨(hv.wellFormed u hu).mem_nodes n hnu,?_⟩
      simpa [nodeSupported,(hv.map_iff n u).mpr ⟨hu,hnu⟩] using hs
  · intro b hb
    rw [groups_nodeBlocks hi hv] at hb
    obtain ⟨_,j,_,rfl⟩ := mem_blocks.mp hb
    exact hnode.blockAt_topological j
  · rw [groups_nodeBlocks hi hv]
    refine hnode.contracted_acyclic hlt' ?_
    intro x y hxy
    rw [hmem,hmem]
    exact ⟨inp.graph.edge_mem hc hxy.2,hxy.1⟩
  · refine PhasedOrder.contracted_acyclic ?_ hlt ?_
    · exact hunit.mono_edge fun p _ q _ h => h.2.2
    · intro w u h
      exact ⟨hperm.mem_iff.mpr h.1,hperm.mem_iff.mpr h.2.1⟩

theorem createSupportedPartitionNodeGroups_ok (inp : PartitionInput) (units : List OrtNodeUnit)
    (fuel : Nat) (groups : List (List NodeId)) (hc : inp.graph.Consistent)
    (hv : ValidGrouping inp.graph units inp.nodeUnitMap) (hl : ∀ u ∈ units, u.Layered inp.graph)
    (hd : ∀ u ∈ units, u.getInputEdgesCount inp.graph = producerEdges inp.graph u)
    (hret : createSupportedPartitionNodeGroups inp fuel = some (.ok groups)) :
    GroupsOk inp units groups := by
  obtain ⟨s,hs,hi,_⟩ := init_inv hc hv
  simp only [createSupportedPartitionNodeGroups,hs,Option.map_eq_some_iff] at hret
  obtain ⟨r,hloop,hr⟩ := hret
  cases r with
  | error e => cases hr
  | ok t =>
    obtain ⟨_,order,k,ht⟩ := loop_inv hc hv (sparse_of_producerEdges hc hv hl hd) fuel hi hloop
    simp only [Except.bind,finish] at hr
    split at hr
    · cases hr
    · rename_i hnum
      cases hr
      have hkeep : t.closeGroup.numNodesProcessed = t.numNodesProcessed ∧
          t.closeGroup.inDegree = t.inDegree := by
        unfold PartitionState.closeGroup
        split <;> exact ⟨rfl,rfl⟩
      rw [hkeep.1,hkeep.2,ne_eq,not_not] at hnum
      exact groupsOk_of_inv ht hc hv hl hd (order_perm ht hv hnum)

def branchRows : List NodeRow :=
  [⟨0,[some 10],[some 11]⟩,⟨1,[some 11],[some 12]⟩,⟨2,[some 12],[some 13]⟩,
    ⟨3,[some 13],[some 14]⟩,⟨4,[some 13,some 14],[some 15]⟩]

def branchUnits : List OrtNodeUnit :=
  [⟨.QDQGroup,1,[0],[2],none,none⟩,⟨.SingleNode,3,[],[],none,none⟩,⟨.SingleNode,4,[],[],none,none⟩]

def branchInput : PartitionInput :=
  ⟨.ofRows branchRows,[1,4],"QNNExecutionProvider",unitMap branchUnits,fun _ => some ""⟩

theorem createSupportedPartitionNodeGroups_branch :
    createSupportedPartitionNodeGroups branchInput 9 = some (.ok [[0,1,2],[4]]) ∧
      GroupsOk branchInput branchUnits [[0,1,2],[4]] := by
  have hret : createSupportedPartitionNodeGroups branchInput 9 = some (.ok [[0,1,2],[4]]) := by
    rfl
  refine ⟨hret,?_⟩
  exact createSupportedPartitionNodeGroups_ok branchInput branchUnits 9 _
    (OrtGraph.ofRows_consistent (by decide) (by decide))
    (validGrouping_unitMap (by decide) (by decide) (by decide)) (by decide) (by decide) hret

end QnnEp.Partition
