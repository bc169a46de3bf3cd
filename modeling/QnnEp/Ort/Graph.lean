import Mathlib.Data.List.ReduceOption
import QnnEp.Foundation.Counting

namespace QnnEp.Ort
open Counting List

abbrev NodeId := Nat
abbrev ValueId := Nat

structure OrtGraph where
  nodes : List NodeId
  inputs : NodeId → List (Option ValueId)
  outputs : NodeId → List (Option ValueId)
  valueProducer : ValueId → Option NodeId
  valueConsumers : ValueId → List NodeId

namespace OrtGraph
variable (g : OrtGraph)

structure Consistent : Prop where
  nodes_nodup : g.nodes.Nodup
  outputs_nodup : ∀ n ∈ g.nodes, (g.outputs n).reduceOption.Nodup
  producer_iff : ∀ v n, g.valueProducer v = some n ↔ n ∈ g.nodes ∧ some v ∈ g.outputs n
  consumers_count : ∀ v, ∀ n ∈ g.nodes, (g.valueConsumers v).count n = (g.inputs n).count (some v)
  consumers_mem : ∀ v, ∀ n ∈ g.valueConsumers v, n ∈ g.nodes

def fed (p : NodeId → Bool) (input : Option ValueId) : Bool :=
  ((input.bind g.valueProducer).map p).getD false

def countEdges (n : NodeId) : Nat := (g.inputs n).countP (g.fed fun _ => true)

def getConsumers (n : NodeId) : List NodeId :=
  (g.outputs n).reduceOption.flatMap g.valueConsumers

def edgeCount (n m : NodeId) : Nat := (g.inputs m).countP (g.fed (· == n))

def Edge (n m : NodeId) : Prop := 0 < g.edgeCount n m

instance (n m : NodeId) : Decidable (g.Edge n m) := inferInstanceAs (Decidable (0 < _))

def Feeds (n m : NodeId) : Prop := m ∈ g.nodes ∧ g.Edge n m

theorem fed_iff {p : NodeId → Bool} {i : Option ValueId} :
    g.fed p i = true ↔ ∃ n, i.bind g.valueProducer = some n ∧ p n = true := by
  unfold fed
  cases h : i.bind g.valueProducer with
  | none | some n => simp

def producers (m : NodeId) : List NodeId := (g.inputs m).filterMap fun i => i.bind g.valueProducer

theorem countP_fed (p : NodeId → Bool) (m : NodeId) :
    (g.inputs m).countP (g.fed p) = (g.producers m).countP p := by
  unfold producers
  induction g.inputs m with
  | nil => rfl
  | cons i is ih =>
    rw [countP_cons,filterMap_cons,ih]
    cases hi : i.bind g.valueProducer with
    | none => simp [fed,hi]
    | some n => simp [fed,hi,countP_cons]

theorem edgeCount_eq (n m : NodeId) : g.edgeCount n m = (g.producers m).count n :=
  g.countP_fed (· == n) m

theorem countEdges_eq (m : NodeId) : g.countEdges m = (g.producers m).length := by
  rw [countEdges,countP_fed,countP_true]

theorem edge_iff_producers {n m : NodeId} : g.Edge n m ↔ n ∈ g.producers m := by
  rw [Edge,edgeCount_eq,count_pos_iff]

theorem edge_iff {n m : NodeId} :
    g.Edge n m ↔ ∃ i ∈ g.inputs m, i.bind g.valueProducer = some n := by
  rw [edge_iff_producers,producers,mem_filterMap]

theorem count_getConsumers (hc : g.Consistent) {n m : NodeId} (hn : n ∈ g.nodes)
    (hm : m ∈ g.nodes) : (g.getConsumers n).count m = g.edgeCount n m := by
  have hs : (((g.outputs n).reduceOption.map some).map fun i => (g.inputs m).count i).sum =
      (g.inputs m).countP fun i => decide (i ∈ (g.outputs n).reduceOption.map some) :=
    sum_count ((hc.outputs_nodup n hn).map (Option.some_injective _)) _
  unfold getConsumers edgeCount
  rw [count_flatMap]
  have hcount : ((g.outputs n).reduceOption.map (List.count m ∘ g.valueConsumers)) =
      ((g.outputs n).reduceOption.map some).map fun i => (g.inputs m).count i := by
    rw [map_map]
    refine map_congr_left ?_
    intro v _
    exact hc.consumers_count v m hm
  rw [hcount,hs]
  refine countP_congr ?_
  intro i _
  rw [g.fed_iff]
  cases i with
  | none => simp
  | some v =>
    simp only [mem_map,reduceOption_mem_iff,Option.some.injEq,exists_eq_right,
      Option.bind_some,decide_eq_true_eq,beq_iff_eq,exists_eq_right]
    rw [hc.producer_iff]
    exact ⟨fun h => ⟨hn,h⟩,fun h => h.2⟩

theorem edge_mem (hc : g.Consistent) {n m : NodeId} (h : g.Edge n m) : n ∈ g.nodes := by
  obtain ⟨i,_,hi⟩ := g.edge_iff.mp h
  cases i with
  | none => cases hi
  | some v => exact ((hc.producer_iff v n).mp hi).1

end OrtGraph

structure NodeRow where
  node : NodeId
  inputs : List (Option ValueId)
  outputs : List (Option ValueId)
  deriving DecidableEq, Repr

variable {rows : List NodeRow} {r : NodeRow}

def rowOf (rows : List NodeRow) (n : NodeId) : Option NodeRow := rows.find? fun r => r.node == n

def OrtGraph.ofRows (rows : List NodeRow) : OrtGraph where
  nodes := rows.map NodeRow.node
  inputs n := ((rowOf rows n).map NodeRow.inputs).getD []
  outputs n := ((rowOf rows n).map NodeRow.outputs).getD []
  valueProducer v := (rows.find? fun r => decide (some v ∈ r.outputs)).map NodeRow.node
  valueConsumers v := rows.flatMap fun r => List.replicate (r.inputs.count (some v)) r.node

theorem rowOf_eq (hn : (rows.map NodeRow.node).Nodup) (hr : r ∈ rows) : rowOf rows r.node = some r := by
  induction rows with
  | nil => exact absurd hr not_mem_nil
  | cons q rows ih =>
    obtain ⟨hq,hrest⟩ := nodup_cons.mp hn
    unfold rowOf
    rcases mem_cons.mp hr with rfl | hr
    · simp
    · have hne : (q.node == r.node) = false := by
        rw [beq_eq_false_iff_ne]
        intro he
        exact hq (mem_map.mpr ⟨r,hr,he.symm⟩)
      rw [List.find?_cons_of_neg (by simp [hne])]
      exact ih hrest hr

theorem find_producer (ho : (rows.flatMap fun r => r.outputs.reduceOption).Nodup) {v : ValueId}
    (hr : r ∈ rows) (hv : some v ∈ r.outputs) :
    rows.find? (fun q => decide (some v ∈ q.outputs)) = some r := by
  induction rows with
  | nil => exact absurd hr not_mem_nil
  | cons q rows ih =>
    rw [flatMap_cons,nodup_append] at ho
    rcases mem_cons.mp hr with rfl | hr
    · simp [hv]
    · have hnot : some v ∉ q.outputs := by
        intro hq
        exact ho.2.2 v (reduceOption_mem_iff.mpr hq) v
          (mem_flatMap.mpr ⟨r,hr,reduceOption_mem_iff.mpr hv⟩) rfl
      rw [List.find?_cons_of_neg (by simpa using hnot)]
      exact ih ho.2.1 hr

theorem count_consumers (hn : (rows.map NodeRow.node).Nodup) (hr : r ∈ rows) (v : ValueId) :
    (rows.flatMap fun q => List.replicate (q.inputs.count (some v)) q.node).count r.node =
      r.inputs.count (some v) := by
  induction rows with
  | nil => exact absurd hr not_mem_nil
  | cons q rows ih =>
    obtain ⟨hq,hrest⟩ := nodup_cons.mp hn
    rw [flatMap_cons,count_append]
    rcases mem_cons.mp hr with rfl | hr
    · have hz : (rows.flatMap fun q => List.replicate (q.inputs.count (some v)) q.node).count
          r.node = 0 := by
        rw [count_eq_zero]
        intro hm
        obtain ⟨p,hp,hmem⟩ := mem_flatMap.mp hm
        exact hq (mem_map.mpr ⟨p,hp,(eq_of_mem_replicate hmem).symm⟩)
      rw [hz,count_replicate_self,Nat.add_zero]
    · have hne : q.node ≠ r.node := fun he => hq (mem_map.mpr ⟨r,hr,he.symm⟩)
      rw [count_replicate,if_neg (by simpa using hne),Nat.zero_add,ih hrest hr]

theorem OrtGraph.ofRows_consistent (hn : (rows.map NodeRow.node).Nodup)
    (ho : (rows.flatMap fun r => r.outputs.reduceOption).Nodup) : (OrtGraph.ofRows rows).Consistent := by
  refine ⟨hn,?_,?_,?_,?_⟩
  · intro n hm
    obtain ⟨r,hr,rfl⟩ := mem_map.mp hm
    simpa [ofRows,rowOf_eq hn hr] using (nodup_flatMap.mp ho).1 r hr
  · intro v n
    simp only [ofRows,Option.map_eq_some_iff]
    constructor
    · rintro ⟨r,hf,rfl⟩
      have hr := mem_of_find?_eq_some hf
      have hv := List.find?_some hf
      refine ⟨mem_map.mpr ⟨r,hr,rfl⟩,?_⟩
      simpa [rowOf_eq hn hr] using hv
    · rintro ⟨hm,hv⟩
      obtain ⟨r,hr,rfl⟩ := mem_map.mp hm
      rw [rowOf_eq hn hr] at hv
      exact ⟨r,find_producer ho hr hv,rfl⟩
  · intro v n hm
    obtain ⟨r,hr,rfl⟩ := mem_map.mp hm
    simpa [ofRows,rowOf_eq hn hr] using count_consumers hn hr v
  · intro v n hm
    obtain ⟨r,hr,hmem⟩ := mem_flatMap.mp hm
    exact mem_map.mpr ⟨r,hr,(eq_of_mem_replicate hmem).symm⟩

end QnnEp.Ort
