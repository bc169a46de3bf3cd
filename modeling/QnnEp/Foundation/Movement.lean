import Mathlib.Algebra.Order.BigOperators.Group.Finset
import Mathlib.Tactic.Linarith
import QnnEp.Foundation.MixedRadix

namespace QnnEp.Tensors
open List

section
variable {L : Type} [DecidableEq L]

def assign (r : List L) (idx : List Nat) (l : L) : Nat := idx.getD (r.idxOf l) 0

def sumLabels (d : L → Nat) : List L → (L → Nat) → ((L → Nat) → ℚ) → ℚ
  | [], σ, f => f σ
  | l :: ls, σ, f => ∑ i ∈ Finset.range (d l), sumLabels d ls (Function.update σ l i) f

def summedLabels (t₁ t₂ r : List L) : List L := (t₁ ++ t₂).dedup.filter fun l => decide (l ∉ r)

def labelSize (term : List L) (shape : List Nat) (l : L) : Nat := shape.getD (term.idxOf l) 0

def einsumTerm (t r : List L) (a : Tensor ℚ) : Tensor ℚ where
  shape := r.map (labelSize t a.shape)
  get idx := sumLabels (labelSize t a.shape) (summedLabels t [] r) (assign r idx) fun σ => a.get (t.map σ)

theorem mem_summedLabels {t₁ t₂ r : List L} {l : L} :
    l ∈ summedLabels t₁ t₂ r ↔ (l ∈ t₁ ∨ l ∈ t₂) ∧ l ∉ r := by
  simp [summedLabels]

end

inductive Move where
  | reshape (shape : List Nat)
  | transpose (perm : List Nat)
  deriving DecidableEq, Repr

section
variable {R : Type} {s t : Tensor R}

def Move.apply : Move → Tensor R → Tensor R
  | .reshape shape, t => t.reshape shape
  | .transpose perm, t => t.transpose perm

def runMoves (moves : List Move) (t : Tensor R) : Tensor R := moves.foldl (fun u move => move.apply u) t

end

section
variable {L : Type} [DecidableEq L] {lhs rhs : List L} {a : Tensor ℚ}

omit [DecidableEq L] in
theorem perm_of_relabelling (hnodup : rhs.Nodup) (hlength : rhs.length = lhs.length)
    (hmem : ∀ l ∈ rhs, l ∈ lhs) : rhs.Perm lhs :=
  (subperm_of_subset hnodup hmem).perm_of_length_le (Nat.le_of_eq hlength.symm)

theorem relabelled_index {idx : List Nat} (hperm : rhs.Perm lhs) (hnodup : rhs.Nodup)
    (hidx : idx.length = lhs.length) :
    lhs.map (assign rhs (gather (rhs.map lhs.idxOf) idx)) = idx := by
  refine ext_getElem (by rw [length_map,hidx]) fun q hq hq' => ?_
  rw [length_map] at hq
  have hmem : lhs[q] ∈ rhs := hperm.mem_iff.mpr (getElem_mem hq)
  have hlt := idxOf_lt_length_of_mem hmem
  have hposition : lhs.idxOf lhs[q] = q := (hperm.nodup_iff.mp hnodup).idxOf_getElem q hq
  rw [getElem_map,assign,getD_eq_getElem _ _ (by simpa [gather] using hlt)]
  simp [gather,hposition,hq']

theorem einsumTerm_same_transpose (hnodup : rhs.Nodup) (hlength : rhs.length = lhs.length)
    (hmem : ∀ l ∈ rhs, l ∈ lhs) (ha : a.shape.length = lhs.length)
    (hperm : (rhs.map lhs.idxOf).Perm (List.range a.shape.length)) :
    (einsumTerm lhs rhs a).Same (a.transpose (rhs.map lhs.idxOf)) := by
  have hlabels := perm_of_relabelling hnodup hlength hmem
  have hsummed : summedLabels lhs [] rhs = [] := by
    refine eq_nil_iff_forall_not_mem.mpr fun l hl => ?_
    obtain ⟨hleft | hright,hnot⟩ := mem_summedLabels.mp hl
    · exact hnot (hlabels.mem_iff.mpr hleft)
    · exact absurd hright not_mem_nil
  refine Tensor.same_transpose hperm ?_ fun idx hidx => ?_
  · rw [einsumTerm,gather,map_map]
    rfl
  · change sumLabels _ (summedLabels lhs [] rhs) _ _ = _
    rw [hsummed]
    change a.get (lhs.map (assign rhs (gather (rhs.map lhs.idxOf) idx))) = _
    rw [relabelled_index hlabels hnodup (hidx.length_eq.trans ha)]

end

section
variable {perm shape : List Nat} {k m : Nat}

theorem ravel_zeros (shape : List Nat) : ravel shape (shape.map fun _ => 0) = 0 := by
  induction shape with
  | nil => rfl
  | cons d ds ih => rw [map_cons,ravel,ih,Nat.zero_mul]

theorem ravel_unit (hk : k < shape.length) :
    ravel shape ((shape.map fun _ => 0).set k 1) = (shape.drop (k + 1)).prod := by
  induction shape generalizing k with
  | nil => cases hk
  | cons d ds ih =>
    cases k with
    | zero => rw [map_cons,set_cons_zero,ravel,ravel_zeros,Nat.one_mul,drop_succ_cons,
        drop_zero,Nat.add_zero]
    | succ k => rw [map_cons,set_cons_succ,ravel,ih (Nat.lt_of_succ_lt_succ hk),Nat.zero_mul,
        Nat.zero_add,drop_succ_cons]

theorem gather_zeros (perm shape : List Nat) :
    gather perm (shape.map fun _ => 0) = (gather perm shape).map fun _ => 0 := by
  rw [gather,gather,map_map]
  refine map_congr_left fun axis _ => ?_
  by_cases haxis : axis < shape.length
  · simp [haxis]
  · simp [Nat.not_lt.mp haxis]

theorem prod_drop_le (hzero : 0 ∉ shape) (hkm : k ≤ m) : (shape.drop m).prod ≤ (shape.drop k).prod := by
  obtain ⟨front,hfront⟩ := drop_suffix_drop_left shape hkm
  have hpos : 0 < front.prod := by
    refine Nat.pos_of_ne_zero (prod_ne_zero fun hmem => hzero ?_)
    exact mem_of_mem_drop (hfront ▸ mem_append_left _ hmem)
  rw [← hfront,prod_append]
  exact Nat.le_mul_of_pos_left _ hpos

theorem prod_drop_lt (hzero : 0 ∉ shape) (hk : k < shape.length) (hunit : shape.getD k 0 ≠ 1) :
    (shape.drop (k + 1)).prod < (shape.drop k).prod := by
  rw [getD_eq_getElem _ _ hk] at hunit
  have hdim : shape[k] ≠ 0 := fun h => hzero (h ▸ getElem_mem hk)
  have hpos : 0 < (shape.drop (k + 1)).prod :=
    Nat.pos_of_ne_zero (prod_ne_zero fun hmem => hzero (mem_of_mem_drop hmem))
  rw [drop_eq_getElem_cons hk,prod_cons]
  exact (Nat.lt_mul_iff_one_lt_left hpos).mpr (by omega)

theorem zero_notMem_gather (hperm : perm.Perm (List.range shape.length)) (hzero : 0 ∉ shape) :
    0 ∉ gather perm shape := by
  intro hmem
  obtain ⟨axis,haxis,hdim⟩ := mem_map.mp hmem
  have hlt := mem_range.mp (hperm.mem_iff.mp haxis)
  rw [getD_eq_getElem _ _ hlt] at hdim
  exact hzero (hdim ▸ getElem_mem hlt)

theorem trailing_prod_eq (hperm : perm.Perm (List.range shape.length)) (hzero : 0 ∉ shape)
    (h : ∀ idx, InBounds shape idx → ravel (gather perm shape) (gather perm idx) = ravel shape idx)
    (hk : k < perm.length) (hunit : shape.getD perm[k] 0 ≠ 1) :
    ((gather perm shape).drop (k + 1)).prod = (shape.drop (perm[k] + 1)).prod := by
  have haxis : perm[k] < shape.length := mem_range.mp (hperm.mem_iff.mp (getElem_mem hk))
  have hdim : shape.getD perm[k] 0 ≠ 0 := by
    rw [getD_eq_getElem _ _ haxis]
    exact fun h => hzero (h ▸ getElem_mem haxis)
  have hunitIndex : InBounds shape ((shape.map fun _ => 0).set perm[k] 1) :=
    inBounds_set (inBounds_zeros hzero) (by omega)
  have hmoved := h _ hunitIndex
  rwa [gather_set (hperm.nodup_iff.mpr nodup_range) (List.getElem?_eq_getElem hk)
      (by rwa [length_map]),gather_zeros,ravel_unit (by rwa [length_gather]),
    ravel_unit haxis] at hmoved

theorem sorted_of_ravel_gather (hperm : perm.Perm (List.range shape.length)) (hzero : 0 ∉ shape)
    (h : ∀ idx, InBounds shape idx → ravel (gather perm shape) (gather perm idx) = ravel shape idx) :
    (perm.filter fun axis => shape.getD axis 0 ≠ 1).Pairwise (· < ·) := by
  rw [pairwise_filter,pairwise_iff_getElem]
  intro i j hi hj hij hunit hunit'
  have hunit := of_decide_eq_true hunit
  have hunit' := of_decide_eq_true hunit'
  by_contra hnot
  have hpermuted : ((gather perm shape).drop (j + 1)).prod < ((gather perm shape).drop (i + 1)).prod := by
    have hzero' := zero_notMem_gather hperm hzero
    refine Nat.lt_of_lt_of_le (prod_drop_lt hzero' (by rwa [length_gather]) ?_) (prod_drop_le hzero' hij)
    rwa [gather_getD shape hj,getD_eq_getElem _ _ hj]
  rw [trailing_prod_eq hperm hzero h hi hunit,trailing_prod_eq hperm hzero h hj hunit'] at hpermuted
  exact absurd hpermuted (Nat.not_lt.mpr (prod_drop_le hzero (by omega)))

theorem ravel_gather_iff_sorted (hperm : perm.Perm (List.range shape.length)) (hzero : 0 ∉ shape) :
    (∀ idx, InBounds shape idx → ravel (gather perm shape) (gather perm idx) = ravel shape idx) ↔
      (perm.filter fun axis => shape.getD axis 0 ≠ 1).Pairwise (· < ·) :=
  ⟨sorted_of_ravel_gather hperm hzero,fun hsorted _ hidx => ravel_gather_of_sorted hperm hsorted hidx⟩

theorem reshape_same_transpose_iff (hperm : perm.Perm (List.range shape.length)) :
    (∀ (R : Type) (t : Tensor R), t.shape = shape →
        (t.reshape (gather perm shape)).Same (t.transpose perm)) ↔
      ∀ idx, InBounds shape idx → ravel (gather perm shape) (gather perm idx) = ravel shape idx := by
  constructor
  · intro h idx hidx
    have hin := inBounds_gather hperm hidx
    have hsame := (h Nat ⟨shape,ravel shape⟩ rfl).2 (gather perm idx) hin
    rw [Tensor.transpose_get_gather hperm hidx.length_eq] at hsame
    have hlt : ravel (gather perm shape) (gather perm idx) < shape.prod :=
      prod_gather hperm ▸ ravel_lt hin
    exact (ravel_unravel hlt).symm.trans hsame
  · rintro h R t rfl
    exact Tensor.same_transpose hperm rfl fun idx hidx => Tensor.reshape_get hidx (h idx hidx)

end

end QnnEp.Tensors
