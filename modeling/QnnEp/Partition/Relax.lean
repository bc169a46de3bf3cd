import Mathlib.Data.Finset.Option
import Mathlib.Data.List.AList
import QnnEp.Partition.EdgeAccount

namespace QnnEp.Partition
open List Ort

structure PartitionInput where
  graph : OrtGraph
  supportedNodes : List NodeId
  epType : String
  nodeUnitMap : NodeId → Option OrtNodeUnit
  nodeEpName : NodeId → Option String

inductive PartitionError where
  | outOfRange
  | unprocessed (processed expected : Nat)
  deriving DecidableEq, Repr

structure PartitionState where
  inDegree : AList fun _ : NodeId => Nat
  nodesToProcess : List NodeId
  nodesToProcessWithNextGroup : List NodeId
  supportedGroups : List (List NodeId)
  supportedGroup : List NodeId
  supportedGroupBorder : Finset NodeId
  numNodesProcessed : Nat

variable {u : OrtNodeUnit} {n : NodeId} {supported : Bool} {s : PartitionState}

namespace PartitionState

def empty : PartitionState := ⟨∅,[],[],[],[],∅,0⟩

def degree (s : PartitionState) (index : NodeId) : Nat := (s.inDegree.lookup index).getD 0

def addRoot (s : PartitionState) (node : NodeId) (degree : Nat) : PartitionState :=
  { s with
    inDegree := if node ∈ s.inDegree then s.inDegree else s.inDegree.insert node degree
    nodesToProcess := if degree = 0 then s.nodesToProcess ++ [node] else s.nodesToProcess }

def closeGroup (s : PartitionState) : PartitionState :=
  if s.supportedGroup.isEmpty then s
  else
    { s with
      supportedGroups := s.supportedGroups ++ [s.supportedGroup]
      supportedGroup := []
      supportedGroupBorder := ∅ }

def startNextGroup (s : PartitionState) : PartitionState :=
  { s.closeGroup with
    nodesToProcess := s.nodesToProcessWithNextGroup
    nodesToProcessWithNextGroup := [] }

def addUnit (s : PartitionState) (unit : OrtNodeUnit) (node : NodeId) : PartitionState :=
  match unit.unitType with
  | .QDQGroup =>
    { s with
      supportedGroup := s.supportedGroup ++ (unit.dqNodes ++ node ::
        (unit.outputReshapeNode.toList ++ (unit.redundantClipNode.toList ++ unit.qNodes)))
      supportedGroupBorder := ((s.supportedGroupBorder \ unit.outputReshapeNode.toFinset) \
        unit.redundantClipNode.toFinset).erase node }
  | .SingleNode =>
    { s with
      supportedGroup := s.supportedGroup ++ [node]
      supportedGroupBorder := s.supportedGroupBorder.erase node }

def relax (supported : Bool) (downstream : NodeId) (s : PartitionState) : PartitionState :=
  let degree := sizeSub (s.degree downstream) 1
  { s with
    supportedGroupBorder :=
      if supported then insert downstream s.supportedGroupBorder else s.supportedGroupBorder
    inDegree := s.inDegree.insert downstream degree
    nodesToProcess := if degree = 0 then s.nodesToProcess ++ [downstream] else s.nodesToProcess }

end PartitionState

variable (inp : PartitionInput)

def initInDegrees : List NodeId → PartitionState → Except PartitionError PartitionState
  | [], s => .ok s
  | node :: rest, s =>
    match inp.nodeUnitMap node with
    | none => .error .outOfRange
    | some unit =>
      if unit.targetNode ≠ node then initInDegrees rest s
      else initInDegrees rest (s.addRoot node (unit.getInputEdgesCount inp.graph))

def relaxAll (supported : Bool) : List NodeId → PartitionState → Except PartitionError PartitionState
  | [], s => .ok s
  | outputNode :: rest, s =>
    match inp.nodeUnitMap outputNode with
    | none => .error .outOfRange
    | some unit => relaxAll supported rest (s.relax supported unit.targetNode)

def isNodeSupported (epName : String) (node : NodeId) : Bool :=
  (epName.isEmpty || epName == inp.epType) && decide (node ∈ inp.supportedNodes)

def processNode (unit : OrtNodeUnit) (node : NodeId) (supported : Bool) (s : PartitionState) :
    Except PartitionError PartitionState :=
  let s' := if supported then s.addUnit unit node else s
  match relaxAll inp supported (unit.getOutputNodes inp.graph) s' with
  | .error e => .error e
  | .ok t => .ok { t with numNodesProcessed := t.numNodesProcessed+1 }

def step (s : PartitionState) : Except PartitionError PartitionState :=
  match s.nodesToProcess with
  | [] => .ok s.startNextGroup
  | node :: rest =>
    match inp.nodeUnitMap node with
    | none => .error .outOfRange
    | some unit =>
      match inp.nodeEpName node with
      | none => .ok { s with nodesToProcess := rest }
      | some epName =>
        let supported := isNodeSupported inp epName node
        if !supported && decide (node ∈ s.supportedGroupBorder) then
          .ok { s with
            nodesToProcess := rest
            nodesToProcessWithNextGroup := s.nodesToProcessWithNextGroup ++ [node] }
        else processNode inp unit node supported { s with nodesToProcess := rest }

def visits (s : PartitionState) : Option NodeId :=
  match s.nodesToProcess with
  | [] => none
  | node :: _ =>
    match inp.nodeEpName node with
    | none => none
    | some epName =>
      if !isNodeSupported inp epName node && decide (node ∈ s.supportedGroupBorder) then none
      else some node

def finished (s : PartitionState) : Bool :=
  s.nodesToProcess.isEmpty && s.nodesToProcessWithNextGroup.isEmpty

def loop : Nat → PartitionState → Option (Except PartitionError PartitionState)
  | 0, _ => none
  | fuel+1, s =>
    if finished s then some (.ok s)
    else match step inp s with
      | .error e => some (.error e)
      | .ok t => loop fuel t

inductive Run : PartitionState → List NodeId → PartitionState → Prop
  | refl (s : PartitionState) : Run s [] s
  | tail {s t r : PartitionState} {visited : List NodeId} (h : Run s visited t)
      (hf : finished t = false) (hs : step inp t = .ok r) :
      Run s (visited ++ (visits inp t).toList) r

def finish (s : PartitionState) : Except PartitionError (List (List NodeId)) :=
  let t := s.closeGroup
  if t.numNodesProcessed ≠ t.inDegree.entries.length then
    .error (.unprocessed t.numNodesProcessed t.inDegree.entries.length)
  else .ok t.supportedGroups

def createSupportedPartitionNodeGroups (fuel : Nat) :
    Option (Except PartitionError (List (List NodeId))) :=
  match initInDegrees inp inp.graph.nodes .empty with
  | .error e => some (.error e)
  | .ok s => (loop inp fuel s).map fun r => r.bind finish

structure ValidGrouping (g : OrtGraph) (units : List OrtNodeUnit)
    (nodeUnitMap : NodeId → Option OrtNodeUnit) : Prop where
  wellFormed : ∀ u ∈ units, u.WellFormed g
  nodup : units.Nodup
  unit_of_node : ∀ n ∈ g.nodes, ∃ u ∈ units, n ∈ u.getAllNodesInGroup
  map_iff : ∀ n u, nodeUnitMap n = some u ↔ u ∈ units ∧ n ∈ u.getAllNodesInGroup

namespace ValidGrouping
variable {g : OrtGraph} {units : List OrtNodeUnit} {m : NodeId → Option OrtNodeUnit}

theorem unit_unique (hv : ValidGrouping g units m) {w : OrtNodeUnit} (hu : u ∈ units) (hw : w ∈ units)
    (hnu : n ∈ u.getAllNodesInGroup) (hnw : n ∈ w.getAllNodesInGroup) : u = w :=
  Option.some.inj (((hv.map_iff n u).mpr ⟨hu,hnu⟩).symm.trans ((hv.map_iff n w).mpr ⟨hw,hnw⟩))

theorem same_or_disjoint (hv : ValidGrouping g units m) {w : OrtNodeUnit} (hu : u ∈ units) (hw : w ∈ units) :
    w = u ∨ w.getAllNodesInGroup.Disjoint u.getAllNodesInGroup := by
  by_cases h : w = u
  · exact .inl h
  · refine .inr ?_
    intro n hnw hnu
    exact h (hv.unit_unique hw hu hnw hnu)

theorem disjoint (hv : ValidGrouping g units m) : UnitEdges.Disjoint units := by
  refine hv.nodup.imp_of_mem ?_
  intro u w hu hw hne
  exact (hv.same_or_disjoint hw hu).resolve_left hne

theorem flatMap_nodup (hv : ValidGrouping g units m) (hl : ∀ u ∈ units, u.Layered g) :
    (units.flatMap fun u => u.getAllNodesInGroup).Nodup :=
  nodup_flatMap.mpr ⟨fun u hu => (hl u hu).nodup,hv.disjoint⟩

theorem mem_nodes_iff (hv : ValidGrouping g units m) :
    n ∈ units.flatMap (fun u => u.getAllNodesInGroup) ↔ n ∈ g.nodes := by
  rw [mem_flatMap]
  refine ⟨?_,hv.unit_of_node n⟩
  rintro ⟨u,hu,hn⟩
  exact (hv.wellFormed u hu).mem_nodes n hn

theorem map_target (hv : ValidGrouping g units m) (hu : u ∈ units) :
    m u.targetNode = some u := (hv.map_iff _ _).mpr ⟨hu,u.target_mem⟩

theorem target_inj (hv : ValidGrouping g units m) {w : OrtNodeUnit} (hu : u ∈ units) (hw : w ∈ units)
    (h : u.targetNode = w.targetNode) : u = w := by
  refine hv.unit_unique hu hw u.target_mem ?_
  rw [h]
  exact w.target_mem

theorem of_perm (hn : g.nodes.Nodup) (hw : ∀ u ∈ units, u.WellFormed g)
    (hp : (units.flatMap fun u => u.getAllNodesInGroup).Perm g.nodes)
    (hmap : ∀ n u, m n = some u ↔ u ∈ units ∧ n ∈ u.getAllNodesInGroup) :
    ValidGrouping g units m := by
  refine ⟨hw,?_,fun n hn => mem_flatMap.mp (hp.mem_iff.mpr hn),hmap⟩
  refine (nodup_flatMap.mp (hp.nodup_iff.mpr hn)).2.imp ?_
  rintro u _ hd rfl
  exact hd u.target_mem u.target_mem

end ValidGrouping

def unitMap (units : List OrtNodeUnit) (n : NodeId) : Option OrtNodeUnit :=
  units.find? fun u => decide (n ∈ u.getAllNodesInGroup)

theorem validGrouping_unitMap {g : OrtGraph} {units : List OrtNodeUnit} (hn : g.nodes.Nodup)
    (hw : ∀ u ∈ units, u.WellFormed g)
    (hp : (units.flatMap fun u => u.getAllNodesInGroup).Perm g.nodes) :
    ValidGrouping g units (unitMap units) := by
  refine .of_perm hn hw hp ?_
  intro n u
  have hd := (nodup_flatMap.mp (hp.nodup_iff.mpr hn)).2
  constructor
  · intro h
    exact ⟨mem_of_find?_eq_some h,by simpa using List.find?_some h⟩
  · rintro ⟨hu,hnu⟩
    clear hw hp
    induction units with
    | nil => exact absurd hu not_mem_nil
    | cons w units ih =>
      obtain ⟨hw,hrest⟩ := pairwise_cons.mp hd
      unfold unitMap
      rcases mem_cons.mp hu with rfl | hu
      · simp [hnu]
      · have hnot : n ∉ w.getAllNodesInGroup := fun h => hw u hu h hnu
        rw [List.find?_cons_of_neg (by simpa using hnot)]
        exact ih hrest hu

namespace PartitionState

@[simp] theorem degree_relax (supported : Bool) (t : NodeId) (s : PartitionState) (x : NodeId) :
    (s.relax supported t).degree x = if x = t then sizeSub (s.degree t) 1 else s.degree x := by
  unfold degree relax
  by_cases h : x = t
  · subst h
    simp [degree]
  · simp [AList.lookup_insert_ne h,h]

theorem mem_border_relax {t x : NodeId} :
    x ∈ (s.relax supported t).supportedGroupBorder ↔
      x ∈ s.supportedGroupBorder ∨ supported = true ∧ x = t := by
  cases supported <;> simp [relax,or_comm]

end PartitionState

variable {inp : PartitionInput}

structure Relaxed (s t : PartitionState) (supported : Bool) (hits : NodeId → Nat)
    (added : List NodeId) : Prop where
  degree : ∀ x, t.degree x + hits x = s.degree x
  inDegree_mem : ∀ x, (0 < hits x → x ∈ s.inDegree) → (x ∈ t.inDegree ↔ x ∈ s.inDegree)
  queue : t.nodesToProcess = s.nodesToProcess ++ added
  added_nodup : added.Nodup
  mem_added : ∀ x, x ∈ added ↔ 0 < hits x ∧ s.degree x = hits x
  border : ∀ x, x ∈ t.supportedGroupBorder ↔
    x ∈ s.supportedGroupBorder ∨ supported = true ∧ 0 < hits x
  nextQueue : t.nodesToProcessWithNextGroup = s.nodesToProcessWithNextGroup
  groups : t.supportedGroups = s.supportedGroups
  group : t.supportedGroup = s.supportedGroup
  processed : t.numNodesProcessed = s.numNodesProcessed

theorem Relaxed.refl (s : PartitionState) (supported : Bool) :
    Relaxed s s supported (fun _ => 0) [] := by
  refine ⟨?_,?_,?_,?_,?_,?_,rfl,rfl,rfl,rfl⟩ <;> simp

theorem Relaxed.trans {t r : PartitionState} {h k : NodeId → Nat} {xs ys : List NodeId}
    (hst : Relaxed s t supported h xs) (htr : Relaxed t r supported k ys) :
    Relaxed s r supported (fun x => h x + k x) (xs ++ ys) := by
  refine ⟨?_,?_,?_,?_,?_,?_,?_,?_,?_,?_⟩
  · intro x
    have h1 := hst.degree x
    have h2 := htr.degree x
    omega
  · intro x hx
    have h1 := hst.inDegree_mem x fun h => hx (by omega)
    exact (htr.inDegree_mem x fun h => h1.mpr (hx (by omega))).trans h1
  · rw [htr.queue,hst.queue,append_assoc]
  · refine nodup_append.mpr ⟨hst.added_nodup,htr.added_nodup,?_⟩
    rintro x hx _ hy rfl
    have h1 := hst.degree x
    have h2 := htr.degree x
    have hx' := (hst.mem_added x).mp hx
    have hy' := (htr.mem_added x).mp hy
    omega
  · intro x
    have h1 := hst.degree x
    have h2 := htr.degree x
    rw [mem_append,hst.mem_added,htr.mem_added]
    omega
  · intro x
    rw [htr.border,hst.border]
    cases supported
    · simp
    · simp only [true_and]
      rw [or_assoc]
      exact or_congr_right (by omega)
  · rw [htr.nextQueue,hst.nextQueue]
  · rw [htr.groups,hst.groups]
  · rw [htr.group,hst.group]
  · rw [htr.processed,hst.processed]

theorem relax_relaxed (supported : Bool) (d : NodeId) (s : PartitionState) (hd : 1 ≤ s.degree d) :
    Relaxed s (s.relax supported d) supported (fun x => if x = d then 1 else 0)
      (if s.degree d = 1 then [d] else []) := by
  have hsub : sizeSub (s.degree d) 1 = s.degree d - 1 := if_pos hd
  refine ⟨?_,?_,?_,?_,?_,?_,rfl,rfl,rfl,rfl⟩
  · intro x
    rw [PartitionState.degree_relax,hsub]
    split
    · rename_i hx
      rw [hx]
      omega
    · omega
  · intro x hx
    unfold PartitionState.relax
    rw [AList.mem_insert]
    constructor
    · rintro (rfl | h)
      · exact hx (by simp)
      · exact h
    · exact .inr
  · unfold PartitionState.relax
    simp only [hsub]
    by_cases h1 : s.degree d = 1
    · simp [h1]
    · rw [if_neg h1,if_neg (by omega),append_nil]
  · split <;> simp
  · intro x
    by_cases hx : x = d
    · subst hx
      split <;> simp_all
    · split <;> simp [hx]
  · intro x
    rw [PartitionState.mem_border_relax]
    by_cases hx : x = d <;> simp [hx]

def hitsOf (m : NodeId → Option OrtNodeUnit) (ns : List NodeId) (x : NodeId) : Nat :=
  ns.countP fun n => (m n).map OrtNodeUnit.targetNode == some x

theorem hitsOf_cons {m : NodeId → Option OrtNodeUnit} (hu : m n = some u) (ns : List NodeId) (x : NodeId) :
    hitsOf m (n :: ns) x = (if x = u.targetNode then 1 else 0) + hitsOf m ns x := by
  unfold hitsOf
  rw [countP_cons,hu,Nat.add_comm]
  congr 1
  simp only [Option.map_some,beq_iff_eq,Option.some.injEq]
  by_cases hx : x = u.targetNode
  · simp [hx]
  · simp [hx,Ne.symm hx]

theorem relaxAll_spec (supported : Bool) (ns : List NodeId) (s : PartitionState)
    (hm : ∀ n ∈ ns, ∃ u, inp.nodeUnitMap n = some u)
    (hd : ∀ x, hitsOf inp.nodeUnitMap ns x ≤ s.degree x) :
    ∃ t added, relaxAll inp supported ns s = .ok t ∧
      Relaxed s t supported (hitsOf inp.nodeUnitMap ns) added := by
  induction ns generalizing s with
  | nil => exact ⟨s,[],rfl,Relaxed.refl s supported⟩
  | cons n ns ih =>
    obtain ⟨u,hu⟩ := hm n mem_cons_self
    have hpos : 1 ≤ s.degree u.targetNode := by
      have := hd u.targetNode
      rw [hitsOf_cons hu,if_pos rfl] at this
      omega
    have hone := relax_relaxed supported u.targetNode s hpos
    have hrest : ∀ x, hitsOf inp.nodeUnitMap ns x ≤ (s.relax supported u.targetNode).degree x := by
      intro x
      have h1 := hd x
      have h2 := hone.degree x
      rw [hitsOf_cons hu] at h1
      omega
    obtain ⟨t,added,ht,hr⟩ := ih _ (fun k hk => hm k (mem_cons_of_mem _ hk)) hrest
    have hh : hitsOf inp.nodeUnitMap (n :: ns) = fun x =>
        (if x = u.targetNode then 1 else 0) + hitsOf inp.nodeUnitMap ns x := by
      funext x
      exact hitsOf_cons hu ns x
    have hall := hone.trans hr
    rw [← hh] at hall
    exact ⟨t,_,by simpa [relaxAll,hu] using ht,hall⟩

end QnnEp.Partition
