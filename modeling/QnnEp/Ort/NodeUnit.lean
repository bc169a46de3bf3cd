import Mathlib.Data.List.Dedup
import QnnEp.Ort.Graph

namespace QnnEp.Ort
open List

def sizeSub (a b : Nat) : Nat := if b ≤ a then a - b else 2^64 + a - b

inductive UnitType where
  | SingleNode
  | QDQGroup
  deriving DecidableEq, Repr

structure OrtNodeUnit where
  unitType : UnitType
  targetNode : NodeId
  dqNodes : List NodeId
  qNodes : List NodeId
  redundantClipNode : Option NodeId
  outputReshapeNode : Option NodeId
  deriving DecidableEq, Repr

variable {u : OrtNodeUnit} {n : NodeId}

namespace OrtNodeUnit

def getAllNodesInGroup (u : OrtNodeUnit) : List NodeId :=
  u.dqNodes ++ u.targetNode :: (u.outputReshapeNode.toList ++ (u.redundantClipNode.toList ++ u.qNodes))

def outputProducer (u : OrtNodeUnit) : NodeId :=
  u.redundantClipNode.getD (u.outputReshapeNode.getD u.targetNode)

def getInputEdgesCount (g : OrtGraph) (u : OrtNodeUnit) : Nat :=
  match u.unitType with
  | .SingleNode => g.countEdges u.targetNode
  | .QDQGroup => sizeSub ((u.dqNodes.map g.countEdges).sum + g.countEdges u.targetNode) u.dqNodes.length

def getOutputNodes (g : OrtGraph) (u : OrtNodeUnit) : List NodeId :=
  (g.getConsumers u.outputProducer).flatMap fun c =>
    if decide (c ∈ u.qNodes) then g.getConsumers c else [c]

def absorbedNodes (u : OrtNodeUnit) : List NodeId :=
  u.outputReshapeNode.toList ++ (u.redundantClipNode.toList ++ u.qNodes)

def visible (u : OrtNodeUnit) (n : NodeId) : Bool := n == u.outputProducer || decide (n ∈ u.qNodes)

def role (u : OrtNodeUnit) (n : NodeId) : Nat :=
  if n ∈ u.dqNodes then 0
  else if n = u.targetNode then 1
  else if u.outputReshapeNode = some n then 2
  else if u.redundantClipNode = some n then 3
  else 4

def members (u : OrtNodeUnit) : List NodeId :=
  u.dqNodes.dedup ++ u.targetNode ::
    (u.outputReshapeNode.toList ++ (u.redundantClipNode.toList ++ u.qNodes.dedup))

-- The selector lists a DQ once for each target input it feeds, and a Q once for each input it reads
-- the output producer through, so both lists may repeat a node.
structure WellFormed (g : OrtGraph) (u : OrtNodeUnit) : Prop where
  single : u.unitType = .SingleNode → u.getAllNodesInGroup = [u.targetNode]
  mem_nodes : ∀ n ∈ u.getAllNodesInGroup, n ∈ g.nodes
  apart : u.members.Nodup
  dq_feeds : ∀ d ∈ u.dqNodes, g.edgeCount d u.targetNode = u.dqNodes.count d
  q_reads : ∀ q ∈ u.qNodes, g.edgeCount u.outputProducer q = u.qNodes.count q

instance (g : OrtGraph) (u : OrtNodeUnit) : Decidable (u.WellFormed g) :=
  decidable_of_iff
    ((u.unitType = .SingleNode → u.getAllNodesInGroup = [u.targetNode]) ∧
      (∀ n ∈ u.getAllNodesInGroup, n ∈ g.nodes) ∧ u.members.Nodup ∧
      (∀ d ∈ u.dqNodes, g.edgeCount d u.targetNode = u.dqNodes.count d) ∧
      ∀ q ∈ u.qNodes, g.edgeCount u.outputProducer q = u.qNodes.count q)
    ⟨fun ⟨h1,h2,h3,h4,h5⟩ => ⟨h1,h2,h3,h4,h5⟩,
      fun h => ⟨h.single,h.mem_nodes,h.apart,h.dq_feeds,h.q_reads⟩⟩

structure Layered (g : OrtGraph) (u : OrtNodeUnit) : Prop where
  nodup : u.getAllNodesInGroup.Nodup
  forward : ∀ n ∈ u.getAllNodesInGroup, ∀ m ∈ u.getAllNodesInGroup,
    g.Edge n m → u.role n < u.role m

instance (g : OrtGraph) (u : OrtNodeUnit) : Decidable (u.Layered g) :=
  decidable_of_iff (u.getAllNodesInGroup.Nodup ∧
      ∀ n ∈ u.getAllNodesInGroup, ∀ m ∈ u.getAllNodesInGroup, g.Edge n m → u.role n < u.role m)
    ⟨fun ⟨h1,h2⟩ => ⟨h1,h2⟩,fun h => ⟨h.nodup,h.forward⟩⟩

theorem mem_all :
    n ∈ u.getAllNodesInGroup ↔
    n ∈ u.dqNodes ∨ n = u.targetNode ∨ u.outputReshapeNode = some n ∨
      u.redundantClipNode = some n ∨ n ∈ u.qNodes := by
  simp [getAllNodesInGroup]

theorem all_eq (u : OrtNodeUnit) :
    u.getAllNodesInGroup = (u.dqNodes ++ [u.targetNode]) ++ u.absorbedNodes := by
  simp [getAllNodesInGroup,absorbedNodes]

theorem target_mem (u : OrtNodeUnit) : u.targetNode ∈ u.getAllNodesInGroup :=
  mem_all.mpr (.inr (.inl rfl))

theorem outputProducer_cases (u : OrtNodeUnit) :
    u.redundantClipNode = some u.outputProducer ∨
      u.redundantClipNode = none ∧ u.outputReshapeNode = some u.outputProducer ∨
      u.redundantClipNode = none ∧ u.outputReshapeNode = none ∧ u.targetNode = u.outputProducer := by
  unfold outputProducer
  cases u.redundantClipNode with
  | some c => exact .inl rfl
  | none =>
    cases u.outputReshapeNode with
    | some r => exact .inr (.inl ⟨rfl,rfl⟩)
    | none => exact .inr (.inr ⟨rfl,rfl,rfl⟩)

theorem outputProducer_mem (u : OrtNodeUnit) : u.outputProducer ∈ u.getAllNodesInGroup := by
  rw [mem_all]
  rcases u.outputProducer_cases with h | ⟨_,h⟩ | ⟨_,_,h⟩
  · exact .inr (.inr (.inr (.inl h)))
  · exact .inr (.inr (.inl h))
  · exact .inr (.inl h.symm)

theorem visible_mem (h : u.visible n = true) : n ∈ u.getAllNodesInGroup := by
  simp only [visible,Bool.or_eq_true,beq_iff_eq,decide_eq_true_eq] at h
  rcases h with rfl | h
  · exact u.outputProducer_mem
  · exact mem_all.mpr (.inr (.inr (.inr (.inr h))))

theorem role_dq (h : n ∈ u.dqNodes) : u.role n = 0 := if_pos h

theorem mem_all_of_q {q : NodeId} (h : q ∈ u.qNodes) :
    q ∈ u.getAllNodesInGroup := mem_all.mpr (.inr (.inr (.inr (.inr h))))

theorem qNodes_nodup (hn : u.getAllNodesInGroup.Nodup) : u.qNodes.Nodup := by
  have hsub : u.qNodes.Sublist u.getAllNodesInGroup := by
    refine List.Sublist.trans ?_ (sublist_append_right _ _)
    refine List.Sublist.trans ?_ (sublist_cons_self _ _)
    exact (sublist_append_right _ _).trans (sublist_append_right _ _)
  exact hn.sublist hsub

theorem members_nodup (hn : u.getAllNodesInGroup.Nodup) : u.members.Nodup := by
  have hd : u.dqNodes.Nodup := (nodup_append.mp hn).1
  rwa [members,hd.dedup,(qNodes_nodup hn).dedup]

section
variable {u : OrtNodeUnit} (hn : u.members.Nodup)
include hn

theorem all_disjoint :
    (∀ d ∈ u.dqNodes, d ≠ u.targetNode ∧ u.outputReshapeNode ≠ some d ∧
      u.redundantClipNode ≠ some d ∧ d ∉ u.qNodes) ∧
    (u.outputReshapeNode ≠ some u.targetNode ∧ u.redundantClipNode ≠ some u.targetNode ∧
      u.targetNode ∉ u.qNodes) ∧
    (∀ r, u.outputReshapeNode = some r → u.redundantClipNode ≠ some r ∧ r ∉ u.qNodes) ∧
    ∀ c, u.redundantClipNode = some c → c ∉ u.qNodes := by
  unfold members at hn
  rw [nodup_append,nodup_cons,nodup_append,nodup_append] at hn
  obtain ⟨-,⟨ht,⟨-,⟨-,-,hcq⟩,hr⟩⟩,hd⟩ := hn
  simp only [mem_append,mem_cons,Option.mem_toList,mem_dedup,not_or,ne_eq]
    at ht hcq hr hd
  refine ⟨?_,⟨ht.1,ht.2.1,ht.2.2⟩,?_,?_⟩
  · intro d hm
    refine ⟨hd d hm _ (.inl rfl),?_,?_,?_⟩
    · intro h; exact hd d hm d (.inr (.inl h)) rfl
    · intro h; exact hd d hm d (.inr (.inr (.inl h))) rfl
    · intro h; exact hd d hm d (.inr (.inr (.inr h))) rfl
  · intro r hm
    exact ⟨fun h => hr r hm r (.inl h) rfl,fun h => hr r hm r (.inr h) rfl⟩
  · intro c hm h
    exact hcq c hm c h rfl

theorem role_target : u.role u.targetNode = 1 := by
  obtain ⟨hd,_⟩ := all_disjoint hn
  have hnot : u.targetNode ∉ u.dqNodes := fun h => (hd _ h).1 rfl
  simp [role,hnot]

theorem role_reshape (h : u.outputReshapeNode = some n) : u.role n = 2 := by
  obtain ⟨hd,ht,_⟩ := all_disjoint hn
  have h0 : n ∉ u.dqNodes := fun hm => (hd _ hm).2.1 h
  have h1 : n ≠ u.targetNode := by rintro rfl; exact ht.1 h
  simp [role,h0,h1,h]

theorem role_clip (h : u.redundantClipNode = some n) : u.role n = 3 := by
  obtain ⟨hd,ht,hr,_⟩ := all_disjoint hn
  have h0 : n ∉ u.dqNodes := fun hm => (hd _ hm).2.2.1 h
  have h1 : n ≠ u.targetNode := by rintro rfl; exact ht.2.1 h
  have h2 : u.outputReshapeNode ≠ some n := fun hm => (hr _ hm).1 h
  simp [role,h0,h1,h2,h]

theorem role_q (h : n ∈ u.qNodes) : u.role n = 4 := by
  obtain ⟨hd,ht,hr,hc⟩ := all_disjoint hn
  have h0 : n ∉ u.dqNodes := fun hm => (hd _ hm).2.2.2 h
  have h1 : n ≠ u.targetNode := by rintro rfl; exact ht.2.2 h
  have h2 : u.outputReshapeNode ≠ some n := fun hm => (hr _ hm).2 h
  have h3 : u.redundantClipNode ≠ some n := fun hm => hc _ hm h
  simp [role,h0,h1,h2,h3]

theorem q_of_after_outputProducer (hm : n ∈ u.getAllNodesInGroup) (h : u.role u.outputProducer < u.role n) :
    n ∈ u.qNodes := by
  rcases mem_all.mp hm with hm | rfl | hm | hm | hm
  · rw [role_dq hm] at h
    omega
  · rw [role_target hn] at h
    rcases u.outputProducer_cases with hp | ⟨_,hp⟩ | ⟨_,_,hp⟩
    · rw [role_clip hn hp] at h; omega
    · rw [role_reshape hn hp] at h; omega
    · rw [← hp,role_target hn] at h; omega
  · rw [role_reshape hn hm] at h
    rcases u.outputProducer_cases with hp | ⟨_,hp⟩ | ⟨_,hr,_⟩
    · rw [role_clip hn hp] at h; omega
    · rw [role_reshape hn hp] at h; omega
    · rw [hr] at hm; cases hm
  · rw [role_clip hn hm] at h
    rcases u.outputProducer_cases with hp | ⟨hp,_⟩ | ⟨hp,_,_⟩
    · rw [role_clip hn hp] at h; omega
    · rw [hp] at hm; cases hm
    · rw [hp] at hm; cases hm
  · exact hm

theorem all_role_sorted : u.getAllNodesInGroup.Pairwise fun x y => u.role x ≤ u.role y := by
  have hq : ∀ y ∈ u.qNodes, u.role y = 4 := fun y hy => role_q hn hy
  have hc : ∀ y ∈ u.redundantClipNode.toList, u.role y = 3 := by
    intro y hy
    exact role_clip hn (Option.mem_toList.mp hy)
  have hr : ∀ y ∈ u.outputReshapeNode.toList, u.role y = 2 := by
    intro y hy
    exact role_reshape hn (Option.mem_toList.mp hy)
  have hd : ∀ y ∈ u.dqNodes, u.role y = 0 := fun y hy => role_dq hy
  have hconst {k : Nat} {xs : List NodeId} (h : ∀ y ∈ xs, u.role y = k) :
      xs.Pairwise fun x y => u.role x ≤ u.role y := by
    refine pairwise_iff_getElem.mpr ?_
    intro i j hi hj _
    exact Nat.le_of_eq ((h _ (getElem_mem hi)).trans (h _ (getElem_mem hj)).symm)
  unfold getAllNodesInGroup
  refine pairwise_append.mpr ⟨hconst hd,?_,?_⟩
  · refine pairwise_cons.mpr ⟨?_,?_⟩
    · intro y hy
      rw [role_target hn]
      rcases mem_append.mp hy with hy | hy
      · rw [hr y hy]; omega
      · rcases mem_append.mp hy with hy | hy
        · rw [hc y hy]; omega
        · rw [hq y hy]; omega
    · refine pairwise_append.mpr ⟨hconst hr,?_,?_⟩
      · refine pairwise_append.mpr ⟨hconst hc,hconst hq,?_⟩
        intro x hx y hy
        rw [hc x hx,hq y hy]
        omega
      · intro x hx y hy
        rw [hr x hx]
        rcases mem_append.mp hy with hy | hy
        · rw [hc y hy]; omega
        · rw [hq y hy]; omega
  · intro x hx y _
    rw [hd x hx]
    omega

end
end OrtNodeUnit
end QnnEp.Ort
