import QnnEp.NodeGroup.Collect

namespace QnnEp.NodeGroup
open List Ort Partition
variable {groups : List QnnNodeGroup} {group : QnnNodeGroup} {visited : List NodeId} {s : CollectState}
  {us : List OrtNodeUnit} {u : OrtNodeUnit}

variable {inp : GroupingInput} {units : List OrtNodeUnit}

def targetUnit (inp : GroupingInput) (n : NodeId) : Option OrtNodeUnit :=
  (inp.nodeToNodeUnit n).filter fun u => n == u.targetNode

structure Claims (groups : List QnnNodeGroup) (claimed : ClaimMap) : Prop where
  claimed_iff : ∀ u i, claimed u = some i ↔ ∃ group, groups[i]? = some group ∧ u ∈ group.getNodeUnits

structure CollectInv (inp : GroupingInput) (units : List OrtNodeUnit) (visited : List NodeId)
    (s : CollectState) : Prop where
  sorted : s.sortedNodeUnits = visited.filterMap (targetUnit inp)
  claims : Claims s.qnnNodeGroups s.nodeUnitToQnnNodeGroup
  indices : ∀ i < s.qnnNodeGroups.length, s.fusedQnnNodeGroupIndices i = some i
  fused : ∀ group ∈ s.qnnNodeGroups, ∃ f, group = .fused f
  target_mem : ∀ group ∈ s.qnnNodeGroups, group.getTargetNodeUnit ∈ group.getNodeUnits
  mem_units : ∀ group ∈ s.qnnNodeGroups, ∀ u ∈ group.getNodeUnits, u ∈ units

theorem Claims.snoc {claimed claimed' : ClaimMap} (h : Claims groups claimed)
    (hnew : ∀ u ∈ group.getNodeUnits, claimed u = none)
    (hc : ∀ u, claimed' u = if u ∈ group.getNodeUnits then some groups.length else claimed u) :
    Claims (groups ++ [group]) claimed' := by
  constructor
  intro u i
  rw [hc]
  by_cases hu : u ∈ group.getNodeUnits
  · rw [if_pos hu,Option.some.injEq]
    constructor
    · rintro rfl
      exact ⟨group,by simp,hu⟩
    · rintro ⟨other,hget,hou⟩
      rcases Nat.lt_trichotomy i groups.length with hi | hi | hi
      · rw [List.getElem?_append_left hi] at hget
        have hclaim := (h.claimed_iff u i).mpr ⟨other,hget,hou⟩
        rw [hnew u hu] at hclaim
        cases hclaim
      · exact hi.symm
      · rw [List.getElem?_eq_none (by simp; omega)] at hget
        cases hget
  · rw [if_neg hu,h.claimed_iff]
    constructor
    · rintro ⟨other,hget,hou⟩
      have hi := (List.getElem?_eq_some_iff.mp hget).1
      exact ⟨other,by rw [List.getElem?_append_left hi,hget],hou⟩
    · rintro ⟨other,hget,hou⟩
      rcases Nat.lt_trichotomy i groups.length with hi | hi | hi
      · rw [List.getElem?_append_left hi] at hget
        exact ⟨other,hget,hou⟩
      · subst hi
        simp only [List.getElem?_concat_length,Option.some.injEq] at hget
        subst hget
        exact (hu hou).elim
      · rw [List.getElem?_eq_none (by simp; omega)] at hget
        cases hget

theorem addFused_inv (h : CollectInv inp units visited s) {group : FusedNodeGroup}
    (ht : group.targetNodeUnit ∈ group.nodeUnits)
    (hu : ∀ w ∈ group.nodeUnits, w ∈ units ∧ s.nodeUnitToQnnNodeGroup w = none) :
    CollectInv inp units visited (s.addFused group) := by
  have hsnoc {P : QnnNodeGroup → Prop} (hold : ∀ x ∈ s.qnnNodeGroups, P x) (hnew : P (.fused group)) :
      ∀ x ∈ (s.addFused group).qnnNodeGroups, P x := by
    intro x hx
    rcases mem_append.mp hx with hx | hx
    · exact hold x hx
    · rw [mem_singleton.mp hx]
      exact hnew
  refine ⟨h.sorted,?_,?_,hsnoc h.fused ⟨group,rfl⟩,hsnoc h.target_mem ht,
    hsnoc h.mem_units fun w hw => (hu w hw).1⟩
  · refine h.claims.snoc (fun w hw => (hu w hw).2) ?_
    intro w
    exact foldl_insertClaim (fun w hw => (hu w hw).2) w
  · intro i hi
    have hi' : i < s.qnnNodeGroups.length + 1 := by simpa [CollectState.addFused] using hi
    change Function.update s.fusedQnnNodeGroupIndices _ _ i = some i
    rw [Function.update_apply]
    by_cases he : i = s.qnnNodeGroups.length
    · rw [if_pos he,he]
    · rw [if_neg he]
      exact h.indices i (by omega)

theorem visitNode_inv (ht : FusionTableOk inp units) (h : CollectInv inp units visited s) {n : NodeId}
    (hn : (inp.nodeToNodeUnit n).isSome) :
    ∃ s', visitNode inp s n = .ok s' ∧ CollectInv inp units (visited ++ [n]) s' := by
  obtain ⟨u,hu⟩ := Option.isSome_iff_exists.mp hn
  unfold visitNode
  rw [hu]
  dsimp only
  by_cases htarget : n = u.targetNode
  · have hsorted : CollectInv inp units (visited ++ [n])
        { s with sortedNodeUnits := s.sortedNodeUnits ++ [u] } := by
      refine ⟨?_,h.claims,h.indices,h.fused,h.target_mem,h.mem_units⟩
      have hsome : targetUnit inp n = some u := by simp [targetUnit,hu,← htarget]
      simp [h.sorted,hsome]
    rw [if_neg (by simpa using htarget)]
    split
    · exact ⟨_,rfl,hsorted⟩
    · split
      · next group hgroup =>
        obtain ⟨hmem,hunits⟩ := tryAffineFusions_ok ht hgroup
        exact ⟨_,rfl,addFused_inv hsorted hmem hunits⟩
      · exact ⟨_,rfl,hsorted⟩
  · rw [if_pos (by simpa using htarget)]
    refine ⟨s,rfl,?_,h.claims,h.indices,h.fused,h.target_mem,h.mem_units⟩
    have hnone : targetUnit inp n = none := by simp [targetUnit,hu,htarget]
    simp [h.sorted,hnone]

theorem initial_inv : CollectInv inp units [] .initial := by
  refine ⟨rfl,⟨?_⟩,?_,?_,?_,?_⟩ <;> simp [CollectState.initial]

theorem visitNodes_inv (ht : FusionTableOk inp units) {ns : List NodeId} (h : CollectInv inp units visited s)
    (hn : ∀ n ∈ ns, (inp.nodeToNodeUnit n).isSome) :
    ∃ s', ns.foldlM (visitNode inp) s = .ok s' ∧ CollectInv inp units (visited ++ ns) s' := by
  induction ns generalizing visited s with
  | nil => exact ⟨s,rfl,by simpa using h⟩
  | cons n ns ih =>
    obtain ⟨s',hs',hi'⟩ := visitNode_inv ht h (hn n (mem_cons_self ..))
    obtain ⟨s'',hs'',hi''⟩ := ih hi' fun m hm => hn m (mem_cons_of_mem _ hm)
    refine ⟨s'',?_,by simpa using hi''⟩
    rw [foldlM_cons,hs']
    exact hs''

def emitted (s : CollectState) (u : OrtNodeUnit) : Option QnnNodeGroup :=
  match s.nodeUnitToQnnNodeGroup u with
  | some ref => s.qnnNodeGroups[ref]?.filter fun group => group.getTargetNodeUnit == u
  | none => some (.nodeUnitWrapper u)

def allGroups (s : CollectState) (us : List OrtNodeUnit) : List QnnNodeGroup :=
  s.qnnNodeGroups ++
    (us.filter fun u => (s.nodeUnitToQnnNodeGroup u).isNone).map .nodeUnitWrapper

structure EmitInv (s : CollectState) (us : List OrtNodeUnit) (p : CollectState × List Nat) : Prop where
  groups : p.1.qnnNodeGroups = allGroups s us
  claimed : ∀ u ∉ us, p.1.nodeUnitToQnnNodeGroup u = s.nodeUnitToQnnNodeGroup u
  indices : p.1.fusedQnnNodeGroupIndices = s.fusedQnnNodeGroupIndices
  sorted : (p.2.map fun i => p.1.qnnNodeGroups[i]?) = (us.filterMap (emitted s)).map some

theorem map_getElem?_append {xs : List Nat} {more rest : List QnnNodeGroup}
    (h : (xs.map fun i => groups[i]?) = rest.map some) :
    (xs.map fun i => (groups ++ more)[i]?) = rest.map some := by
  rw [← h]
  refine map_congr_left ?_
  intro i hi
  have hmem : groups[i]? ∈ rest.map some := h ▸ mem_map.mpr ⟨i,hi,rfl⟩
  obtain ⟨group,_,hg⟩ := mem_map.mp hmem
  exact List.getElem?_append_left (List.getElem?_eq_some_iff.mp hg.symm).1

theorem visitUnit_inv (hs : CollectInv inp units visited s) {p : CollectState × List Nat} (h : EmitInv s us p)
    (hu : u ∉ us) : EmitInv s (us ++ [u]) (visitUnit p u) := by
  obtain ⟨t,sorted⟩ := p
  have hclaim := h.claimed u hu
  have hgroups := h.groups
  dsimp only at hclaim hgroups
  unfold visitUnit
  dsimp only
  rw [hclaim]
  cases hc : s.nodeUnitToQnnNodeGroup u with
  | none =>
    refine ⟨?_,?_,h.indices,?_⟩
    · simp [hgroups,allGroups,hc]
    · intro w hw
      rw [mem_append,mem_singleton,not_or] at hw
      dsimp only
      rw [insertClaim,hclaim,hc]
      simp only [Option.isSome_none,Bool.false_eq_true,if_false]
      rw [Function.update_of_ne hw.2]
      exact h.claimed w hw.1
    · have hsome : emitted s u = some (.nodeUnitWrapper u) := by simp [emitted,hc]
      simp only [map_append,filterMap_append,filterMap_cons,hsome,filterMap_nil,
        map_cons,map_nil]
      rw [map_getElem?_append h.sorted]
      simp
  | some ref =>
    obtain ⟨group,hget,_⟩ := (hs.claims.claimed_iff u ref).mp hc
    have hlt := (List.getElem?_eq_some_iff.mp hget).1
    have hget' : t.qnnNodeGroups[ref]? = some group := by
      rw [hgroups,allGroups,List.getElem?_append_left hlt,hget]
    have hfilter : allGroups s (us ++ [u]) = allGroups s us := by simp [allGroups,hc]
    have hkeep : ∀ w ∉ us ++ [u], t.nodeUnitToQnnNodeGroup w = s.nodeUnitToQnnNodeGroup w := by
      intro w hw
      exact h.claimed w fun hm => hw (mem_append_left _ hm)
    dsimp only
    rw [hget']
    by_cases htarget : group.getTargetNodeUnit = u
    · have hsome : emitted s u = some group := by simp [emitted,hc,hget,htarget]
      rw [if_pos (by simp [htarget])]
      refine ⟨hgroups.trans hfilter.symm,hkeep,h.indices,?_⟩
      have hindex : (t.fusedQnnNodeGroupIndices ref).getD 0 = ref := by
        rw [show t.fusedQnnNodeGroupIndices = s.fusedQnnNodeGroupIndices from h.indices,
          hs.indices ref hlt,Option.getD_some]
      simp only [map_append,filterMap_append,filterMap_cons,hsome,filterMap_nil,
        map_cons,map_nil,hindex,hget']
      rw [h.sorted]
    · have hnone : emitted s u = none := by simp [emitted,hc,hget,htarget]
      rw [if_neg (by simpa using htarget)]
      refine ⟨hgroups.trans hfilter.symm,hkeep,h.indices,?_⟩
      simp only [filterMap_append,filterMap_cons,hnone,filterMap_nil,append_nil]
      exact h.sorted

theorem visitUnits_inv (hs : CollectInv inp units visited s) (hn : us.Nodup) :
    EmitInv s us (us.foldl visitUnit (s,[])) := by
  induction us using List.reverseRecOn with
  | nil => exact ⟨by simp [allGroups],fun _ _ => rfl,rfl,rfl⟩
  | append_singleton us u ih =>
    obtain ⟨hus,_,hd⟩ := nodup_append.mp hn
    rw [foldl_append]
    refine visitUnit_inv hs (ih hus) ?_
    intro hu
    exact hd u hu u (mem_singleton_self u) rfl

theorem moveGroups_eq {holder : List (Option QnnNodeGroup)} {sorted : List Nat} {r : List QnnNodeGroup}
    (hn : sorted.Nodup) (h : (sorted.map fun i => holder[i]?) = r.map fun group => some (some group)) :
    moveGroups holder sorted = r.map some := by
  induction sorted generalizing holder r with
  | nil =>
    cases r with
    | nil => rfl
    | cons group r => cases h
  | cons i sorted ih =>
    cases r with
    | nil => cases h
    | cons group r =>
      obtain ⟨hi,hsorted⟩ := nodup_cons.mp hn
      rw [map_cons,map_cons,List.cons.injEq] at h
      rw [moveGroups,h.1,map_cons,ih hsorted]
      · rfl
      · rw [← h.2]
        refine map_congr_left ?_
        intro j hj
        have hne : i ≠ j := by
          rintro rfl
          exact hi hj
        rw [List.getElem?_set_ne hne]

def unitPos (inp : GroupingInput) (u : OrtNodeUnit) : Nat := inp.graph.nodes.idxOf u.targetNode

structure UnitGraph (inp : GroupingInput) (units : List OrtNodeUnit) : Prop where
  nodes_nodup : inp.graph.nodes.Nodup
  unit_of_node : ∀ n ∈ inp.graph.nodes, ∃ u ∈ units, inp.nodeToNodeUnit n = some u
  target : ∀ u ∈ units, u.targetNode ∈ inp.graph.nodes ∧ inp.nodeToNodeUnit u.targetNode = some u
  ordered : ∀ u ∈ units, ∀ w ∈ units, UnitEdge inp.graph u w → unitPos inp u < unitPos inp w

structure GroupsEmitted (units : List OrtNodeUnit) (holder r : List QnnNodeGroup) : Prop where
  nodup : r.Nodup
  perm : r.Perm holder
  mem_units : ∀ group ∈ r, ∀ u ∈ group.getNodeUnits, u ∈ units
  unit_once : ∀ u ∈ units, ∃! group, group ∈ r ∧ u ∈ group.getNodeUnits

def GroupEdge (g : OrtGraph) (a b : QnnNodeGroup) : Prop :=
  a ≠ b ∧ ∃ u ∈ a.getNodeUnits, ∃ w ∈ b.getNodeUnits, UnitEdge g u w

structure BoundaryOk (inp : GroupingInput) (units : List OrtNodeUnit) (group : FusedNodeGroup) :
    Prop where
  producers_before : ∀ u ∈ group.nodeUnits, ∀ w ∈ units, w ∉ group.nodeUnits →
    UnitEdge inp.graph w u → ∀ x ∈ group.nodeUnits, unitPos inp w < unitPos inp x
  consumers_last : ∀ u ∈ group.nodeUnits, ∀ w ∈ units, w ∉ group.nodeUnits →
    UnitEdge inp.graph u w → ∀ x ∈ group.nodeUnits, unitPos inp x ≤ unitPos inp u

section
variable (hg : UnitGraph inp units)
include hg

theorem mem_sorted : u ∈ inp.graph.nodes.filterMap (targetUnit inp) ↔ u ∈ units := by
  rw [mem_filterMap]
  constructor
  · rintro ⟨n,hn,hu⟩
    obtain ⟨w,hw,hmap⟩ := hg.unit_of_node n hn
    have hsome := (Option.filter_eq_some_iff.mp hu).1
    rw [hmap] at hsome
    exact Option.some.inj hsome ▸ hw
  · intro hu
    obtain ⟨hn,hmap⟩ := hg.target u hu
    exact ⟨u.targetNode,hn,by simp [targetUnit,hmap]⟩

theorem sorted_pos : (inp.graph.nodes.filterMap (targetUnit inp)).Pairwise fun u w =>
    unitPos inp u < unitPos inp w := by
  have htarget {n : NodeId} {u : OrtNodeUnit} (h : targetUnit inp n = some u) : u.targetNode = n := by
    have hb := (Option.filter_eq_some_iff.mp h).2
    exact (beq_iff_eq.mp hb).symm
  rw [pairwise_filterMap]
  refine pairwise_iff_getElem.mpr ?_
  intro i j hi hj hij u hu w hw
  unfold unitPos
  rw [htarget hu,htarget hw,hg.nodes_nodup.idxOf_getElem,hg.nodes_nodup.idxOf_getElem]
  exact hij

theorem sorted_nodup : (inp.graph.nodes.filterMap (targetUnit inp)).Nodup := by
  refine (sorted_pos hg).imp ?_
  rintro u _ h rfl
  exact Nat.lt_irrefl _ h

end

theorem emitted_target (h : emitted s u = some group) : group.getTargetNodeUnit = u := by
  unfold emitted at h
  split at h
  · exact beq_iff_eq.mp (Option.filter_eq_some_iff.mp h).2
  · rw [← Option.some.inj h]
    rfl

section
variable {s : CollectState} (hs : CollectInv inp units inp.graph.nodes s)
include hs

omit hs in
theorem emitted_cases {u : OrtNodeUnit} {group : QnnNodeGroup} (h : emitted s u = some group) :
    group ∈ s.qnnNodeGroups ∨ s.nodeUnitToQnnNodeGroup u = none ∧ group = .nodeUnitWrapper u := by
  unfold emitted at h
  split at h
  · exact .inl (mem_of_getElem? (Option.filter_eq_some_iff.mp h).1)
  · next hn => exact .inr ⟨hn,(Option.some.inj h).symm⟩

theorem emitted_of_mem (h : group ∈ s.qnnNodeGroups) : emitted s group.getTargetNodeUnit = some group := by
  obtain ⟨i,hget⟩ := mem_iff_getElem?.mp h
  have hclaim := (hs.claims.claimed_iff group.getTargetNodeUnit i).mpr
    ⟨group,hget,hs.target_mem group h⟩
  simp [emitted,hclaim,hget]

theorem group_unique {a b : QnnNodeGroup} (ha : a ∈ s.qnnNodeGroups) (hb : b ∈ s.qnnNodeGroups)
    (hua : u ∈ a.getNodeUnits) (hub : u ∈ b.getNodeUnits) : a = b := by
  obtain ⟨i,hi⟩ := mem_iff_getElem?.mp ha
  obtain ⟨j,hj⟩ := mem_iff_getElem?.mp hb
  have hci := (hs.claims.claimed_iff u i).mpr ⟨a,hi,hua⟩
  have hcj := (hs.claims.claimed_iff u j).mpr ⟨b,hj,hub⟩
  rw [hci,Option.some.injEq] at hcj
  subst hcj
  exact Option.some.inj (hi.symm.trans hj)

theorem claimed_of_mem (h : group ∈ s.qnnNodeGroups) (hu : u ∈ group.getNodeUnits) :
    s.nodeUnitToQnnNodeGroup u ≠ none := by
  obtain ⟨i,hi⟩ := mem_iff_getElem?.mp h
  rw [(hs.claims.claimed_iff u i).mpr ⟨group,hi,hu⟩]
  exact Option.some_ne_none i

theorem qnnNodeGroups_nodup : s.qnnNodeGroups.Nodup := by
  refine nodup_iff_injective_getElem.mpr ?_
  intro i j hij
  dsimp only at hij
  have hmem := hs.target_mem _ (getElem_mem i.2)
  have hi := (hs.claims.claimed_iff _ i.1).mpr ⟨_,List.getElem?_eq_getElem i.2,hmem⟩
  have hj := (hs.claims.claimed_iff s.qnnNodeGroups[i.1].getTargetNodeUnit j.1).mpr
    ⟨_,(List.getElem?_eq_getElem j.2).trans (congrArg some hij.symm),hmem⟩
  exact Fin.ext (Option.some.inj (hi.symm.trans hj))

theorem allGroups_nodup (hn : us.Nodup) : (allGroups s us).Nodup := by
  unfold allGroups
  rw [nodup_append]
  refine ⟨qnnNodeGroups_nodup hs,(hn.filter _).map ?_,?_⟩
  · intro u w h
    exact QnnNodeGroup.nodeUnitWrapper.inj h
  · rintro group hg _ hw rfl
    obtain ⟨f,hf⟩ := hs.fused group hg
    obtain ⟨u,_,hu⟩ := mem_map.mp hw
    rw [hf] at hu
    cases hu

variable (hg : UnitGraph inp units)
include hg

theorem mem_emitted :
    group ∈ s.sortedNodeUnits.filterMap (emitted s) ↔ group ∈ allGroups s s.sortedNodeUnits := by
  rw [mem_filterMap,allGroups,mem_append,mem_map]
  simp only [mem_filter,Option.isNone_iff_eq_none]
  constructor
  · rintro ⟨u,hu,he⟩
    rcases emitted_cases he with h | ⟨hn,rfl⟩
    · exact .inl h
    · exact .inr ⟨u,⟨hu,hn⟩,rfl⟩
  · rintro (h | ⟨u,⟨hu,hn⟩,rfl⟩)
    · refine ⟨group.getTargetNodeUnit,?_,emitted_of_mem hs h⟩
      rw [hs.sorted,mem_sorted hg]
      exact hs.mem_units group h _ (hs.target_mem group h)
    · exact ⟨u,hu,by simp [emitted,hn]⟩

theorem emitted_pos : (s.sortedNodeUnits.filterMap (emitted s)).Pairwise fun a b =>
    unitPos inp a.getTargetNodeUnit < unitPos inp b.getTargetNodeUnit := by
  rw [pairwise_filterMap,hs.sorted]
  refine (sorted_pos hg).imp ?_
  intro u w h a ha b hb
  rw [emitted_target ha,emitted_target hb]
  exact h

theorem groupsEmitted :
    GroupsEmitted units (allGroups s s.sortedNodeUnits) (s.sortedNodeUnits.filterMap (emitted s)) := by
  have hnodup : (s.sortedNodeUnits.filterMap (emitted s)).Nodup := by
    refine (emitted_pos hs hg).imp ?_
    rintro a _ h rfl
    exact Nat.lt_irrefl _ h
  have hsorted : s.sortedNodeUnits.Nodup := by
    rw [hs.sorted]
    exact sorted_nodup hg
  have hmem {u : OrtNodeUnit} : u ∈ s.sortedNodeUnits ↔ u ∈ units := by rw [hs.sorted,mem_sorted hg]
  refine ⟨hnodup,?_,?_,?_⟩
  · rw [perm_ext_iff_of_nodup hnodup (allGroups_nodup hs hsorted)]
    intro group
    exact mem_emitted hs hg
  · intro group hgr u hu
    obtain ⟨w,hw,he⟩ := mem_filterMap.mp hgr
    rcases emitted_cases he with h | ⟨_,rfl⟩
    · exact hs.mem_units group h u hu
    · rw [mem_singleton.mp hu]
      exact hmem.mp hw
  · intro u hu
    rcases Option.eq_none_or_eq_some (s.nodeUnitToQnnNodeGroup u) with hn | ⟨i,hi⟩
    · refine ⟨.nodeUnitWrapper u,⟨?_,mem_singleton_self u⟩,?_⟩
      · exact mem_filterMap.mpr ⟨u,hmem.mpr hu,by simp [emitted,hn]⟩
      · rintro group ⟨hgr,hug⟩
        obtain ⟨w,_,he⟩ := mem_filterMap.mp hgr
        rcases emitted_cases he with h | ⟨_,rfl⟩
        · exact (claimed_of_mem hs h hug hn).elim
        · rw [mem_singleton.mp hug]
    · obtain ⟨group,hget,hug⟩ := (hs.claims.claimed_iff u i).mp hi
      have hgm := mem_of_getElem? hget
      refine ⟨group,⟨(mem_emitted hs hg).mpr (mem_append_left _ hgm),hug⟩,?_⟩
      rintro other ⟨hor,hou⟩
      obtain ⟨w,_,he⟩ := mem_filterMap.mp hor
      rcases emitted_cases he with h | ⟨hn,rfl⟩
      · exact group_unique hs h hgm hou hug
      · obtain rfl := mem_singleton.mp hou
        rw [hn] at hi
        cases hi

theorem emitted_ordered
    (hb : ∀ f, .fused f ∈ s.sortedNodeUnits.filterMap (emitted s) → BoundaryOk inp units f) :
    Phased.TopologicallyOrdered (GroupEdge inp.graph) (s.sortedNodeUnits.filterMap (emitted s)) := by
  have he := groupsEmitted hs hg
  have houtside {a b : QnnNodeGroup} (ha : a ∈ s.sortedNodeUnits.filterMap (emitted s))
      (hb : b ∈ s.sortedNodeUnits.filterMap (emitted s)) (hne : a ≠ b) {u : OrtNodeUnit}
      (hu : u ∈ a.getNodeUnits) : u ∉ b.getNodeUnits := by
    intro hub
    exact hne ((he.unit_once u (he.mem_units a ha u hu)).unique ⟨ha,hu⟩ ⟨hb,hub⟩)
  have hstart {a b : QnnNodeGroup} (ha : a ∈ s.sortedNodeUnits.filterMap (emitted s))
      (hbm : b ∈ s.sortedNodeUnits.filterMap (emitted s)) {u w : OrtNodeUnit}
      (hu : u ∈ a.getNodeUnits) (hw : w ∈ b.getNodeUnits) (hub : u ∉ b.getNodeUnits)
      (hwa : w ∉ a.getNodeUnits) (hedge : UnitEdge inp.graph u w) :
      unitPos inp a.getTargetNodeUnit ≤ unitPos inp u ∧
        unitPos inp u < unitPos inp b.getTargetNodeUnit := by
    have htarget {c : QnnNodeGroup} (hc : c ∈ s.sortedNodeUnits.filterMap (emitted s)) :
        c.getTargetNodeUnit ∈ c.getNodeUnits := by
      obtain ⟨x,_,hx⟩ := mem_filterMap.mp hc
      rcases emitted_cases hx with h | ⟨_,rfl⟩
      · exact hs.target_mem c h
      · exact mem_singleton_self x
    have huu := he.mem_units a ha u hu
    have hwu := he.mem_units b hbm w hw
    constructor
    · cases a with
      | fused f => exact (hb f ha).consumers_last u hu w hwu hwa hedge _ (htarget ha)
      | nodeUnitWrapper x =>
        rw [mem_singleton.mp hu]
        exact Nat.le_refl _
    · cases b with
      | fused f => exact (hb f hbm).producers_before w hw u huu hub hedge _ (htarget hbm)
      | nodeUnitWrapper x =>
        obtain rfl := mem_singleton.mp hw
        exact hg.ordered u huu w hwu hedge
  refine Phased.topologicallyOrdered_of_pairwise he.nodup (fun a _ h => h.1 rfl) ?_
  refine (emitted_pos hs hg).imp_of_mem ?_
  rintro a b ha hbm hlt ⟨hne,u,hu,w,hw,hedge⟩
  have hpos := hstart hbm ha hu hw (houtside hbm ha hne hu) (houtside ha hbm hne.symm hw) hedge
  omega

end

theorem getQnnNodeGroups_ok (inp : GroupingInput) (units : List OrtNodeUnit)
    (hg : UnitGraph inp units) (ht : FusionTableOk inp units) :
    ∃ holder sorted r, getQnnNodeGroupsImpl inp = .ok (holder,sorted) ∧
      getQnnNodeGroups inp = .ok (r.map some) ∧ GroupsEmitted units holder r ∧
      ((∀ f, .fused f ∈ r → BoundaryOk inp units f) →
        Phased.TopologicallyOrdered (GroupEdge inp.graph) r) := by
  have hnodes : ∀ n ∈ inp.graph.nodes, (inp.nodeToNodeUnit n).isSome := by
    intro n hn
    obtain ⟨u,_,hu⟩ := hg.unit_of_node n hn
    simp [hu]
  have hinit : CollectInv inp units [] .initial := initial_inv
  obtain ⟨s,hrun,hs⟩ := visitNodes_inv ht hinit hnodes
  rw [nil_append] at hs
  have hnodup : s.sortedNodeUnits.Nodup := by
    rw [hs.sorted]
    exact sorted_nodup hg
  have he := visitUnits_inv hs hnodup
  have hemitted := groupsEmitted hs hg
  have himpl : getQnnNodeGroupsImpl inp = .ok (allGroups s s.sortedNodeUnits,
      (s.sortedNodeUnits.foldl visitUnit (s,[])).2) := by
    unfold getQnnNodeGroupsImpl
    rw [hrun]
    exact congrArg (fun gs => Except.ok (gs,_)) he.groups
  refine ⟨_,_,_,himpl,?_,hemitted,emitted_ordered hs hg⟩
  have hsorted := he.sorted
  rw [he.groups] at hsorted
  have hinj : (s.sortedNodeUnits.foldl visitUnit (s,[])).2.Nodup := by
    refine List.Nodup.of_map (fun i => (allGroups s s.sortedNodeUnits)[i]?) ?_
    rw [hsorted]
    exact hemitted.nodup.map (Option.some_injective _)
  have hholder : ((s.sortedNodeUnits.foldl visitUnit (s,[])).2.map fun i =>
      ((allGroups s s.sortedNodeUnits).map some)[i]?) =
        (s.sortedNodeUnits.filterMap (emitted s)).map fun group => some (some group) := by
    have hmap := congrArg (List.map (Option.map some)) hsorted
    simpa [map_map,Function.comp_def,List.getElem?_map] using hmap
  unfold getQnnNodeGroups
  rw [himpl]
  exact congrArg Except.ok (moveGroups_eq hinj hholder)

def singleUnit (n : NodeId) : OrtNodeUnit := ⟨.SingleNode,n,[],[],none,none⟩

def scaleSoftmaxGroup : FusedNodeGroup := ⟨[singleUnit 0,singleUnit 1],singleUnit 1⟩

def scaleSoftmaxFusion : FusionFunc := fun claimed u =>
  if u = singleUnit 0 ∧ claimed (singleUnit 0) = none ∧ claimed (singleUnit 1) = none then
    some scaleSoftmaxGroup
  else none

def scaleSoftmaxUnits : List OrtNodeUnit := [singleUnit 0,singleUnit 1,singleUnit 2]

def scaleSoftmaxInput : GroupingInput where
  graph := .ofRows [⟨0,[some 10],[some 11]⟩,⟨1,[some 11],[some 12]⟩,⟨2,[some 12],[some 13]⟩]
  opType n := ["Mul","Softmax","Relu"].getD n ""
  nodeToNodeUnit := unitMap scaleSoftmaxUnits
  fusions op := if op = "Mul" then some [scaleSoftmaxFusion] else none
  affinity _ := true

theorem scaleSoftmax_table : FusionTableOk scaleSoftmaxInput scaleSoftmaxUnits := by
  have hspec {op : String} {funcs : List FusionFunc} (h : scaleSoftmaxInput.fusions op = some funcs)
      {func : FusionFunc} (hf : func ∈ funcs) {claimed : ClaimMap} {u : OrtNodeUnit}
      {group : FusedNodeGroup} (hg : func claimed u = some group) :
      u = singleUnit 0 ∧ group = scaleSoftmaxGroup ∧
        ∀ w ∈ scaleSoftmaxGroup.nodeUnits, claimed w = none := by
    simp only [scaleSoftmaxInput] at h
    split at h
    · obtain rfl := Option.some.inj h
      obtain rfl := mem_singleton.mp hf
      unfold scaleSoftmaxFusion at hg
      split at hg
      · next hc =>
        refine ⟨hc.1,(Option.some.inj hg).symm,?_⟩
        intro w hw
        rcases mem_cons.mp hw with rfl | hw
        · exact hc.2.1
        · rw [mem_singleton.mp hw]
          exact hc.2.2
      · cases hg
    · cases h
  refine ⟨?_,?_,?_⟩
  · intro op funcs h func hf claimed u group hg
    obtain ⟨rfl,rfl,_⟩ := hspec h hf hg
    decide
  · intro op funcs h func hf claimed u group hg
    obtain ⟨_,rfl,_⟩ := hspec h hf hg
    decide
  · intro op funcs h func hf claimed u group hg w hw
    obtain ⟨_,rfl,hnone⟩ := hspec h hf hg
    refine ⟨?_,hnone w hw⟩
    revert w
    decide

instance (g : OrtGraph) (u w : OrtNodeUnit) : Decidable (UnitEdge g u w) :=
  inferInstanceAs (Decidable (_ ∧ _))

theorem getQnnNodeGroups_scaleSoftmax :
    getQnnNodeGroups scaleSoftmaxInput =
        .ok [some (.fused scaleSoftmaxGroup),some (.nodeUnitWrapper (singleUnit 2))] ∧
      Phased.TopologicallyOrdered (GroupEdge scaleSoftmaxInput.graph)
        [.fused scaleSoftmaxGroup,.nodeUnitWrapper (singleUnit 2)] := by
  have hgraph : UnitGraph scaleSoftmaxInput scaleSoftmaxUnits :=
    ⟨by decide,by decide,by decide,by decide⟩
  obtain ⟨_,_,r,_,hr,_,hordered⟩ :=
    getQnnNodeGroups_ok scaleSoftmaxInput scaleSoftmaxUnits hgraph scaleSoftmax_table
  have hrun : getQnnNodeGroups scaleSoftmaxInput =
      .ok [some (.fused scaleSoftmaxGroup),some (.nodeUnitWrapper (singleUnit 2))] := rfl
  have hlist : r = [.fused scaleSoftmaxGroup,.nodeUnitWrapper (singleUnit 2)] := by
    refine map_injective_iff.mpr (Option.some_injective _) ?_
    exact Except.ok.inj (hr.symm.trans hrun)
  subst hlist
  refine ⟨hrun,hordered ?_⟩
  intro f hf
  have hfused : f = scaleSoftmaxGroup := by simpa using hf
  subst hfused
  exact ⟨by decide,by decide⟩

end QnnEp.NodeGroup
