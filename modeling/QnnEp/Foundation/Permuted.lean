import QnnEp.Foundation.Scatter
import QnnEp.Foundation.Tensor

namespace QnnEp.Tensors
open List

def dot (xs ys : List Nat) : Nat := (List.zipWith (· * ·) xs ys).sum

def strides : List Nat → List Nat
  | [] => []
  | _ :: ds => ds.prod :: strides ds

def gather (perm xs : List Nat) : List Nat := perm.map fun axis => xs.getD axis 0

def invert (perm : List Nat) : List Nat := (List.range perm.length).map fun axis => perm.idxOf axis

def indices : List Nat → List (List Nat)
  | [] => [[]]
  | d :: ds => (List.range d).flatMap fun i => (indices ds).map (i :: ·)

theorem mem_indices {shape idx : List Nat} : idx ∈ indices shape ↔ InBounds shape idx := by
  induction shape generalizing idx with
  | nil => simp [indices]
  | cons d ds ih =>
    simp only [indices,mem_flatMap,mem_range,mem_map,ih]
    constructor
    · rintro ⟨i,hi,is,his,rfl⟩
      exact .cons hi his
    · rintro (_ | ⟨hi,his⟩)
      exact ⟨_,hi,_,his,rfl⟩

theorem forall_inBounds_nil {p : List Nat → Prop} : (∀ idx, InBounds [] idx → p idx) ↔ p [] := by
  simp

theorem forall_inBounds_cons {d : Nat} {ds : List Nat} {p : List Nat → Prop} :
    (∀ idx, InBounds (d :: ds) idx → p idx) ↔ ∀ i < d, ∀ is, InBounds ds is → p (i :: is) := by
  constructor
  · intro h i hi is his
    exact h _ (.cons hi his)
  · rintro h idx (_ | ⟨hi,his⟩)
    exact h _ hi _ his

theorem length_strides (shape : List Nat) : (strides shape).length = shape.length := by
  induction shape with
  | nil => rfl
  | cons d ds ih => simp [strides,ih]

theorem ravel_eq_dot {shape idx : List Nat} (h : idx.length = shape.length) :
    ravel shape idx = dot idx (strides shape) := by
  induction shape generalizing idx with
  | nil =>
    obtain rfl := length_eq_zero_iff.mp h
    rfl
  | cons d ds ih =>
    cases idx with
    | nil => cases h
    | cons i is =>
      rw [ravel,ih (Nat.succ.inj h)]
      rfl

theorem ravel_injOn (shape : List Nat) : Set.InjOn (ravel shape) {idx | InBounds shape idx} := by
  intro idx hidx idx' hidx' h
  rw [← unravel_ravel hidx,h,unravel_ravel hidx']

theorem dot_eq_sum_range {xs ys : List Nat} {n : Nat} (hx : xs.length = n) (hy : ys.length = n) :
    dot xs ys = ((List.range n).map fun i => xs.getD i 0 * ys.getD i 0).sum := by
  rw [dot]
  congr 1
  refine ext_getElem (by simp [hx,hy]) ?_
  intro i hi hi'
  rw [length_zipWith] at hi
  simp [List.getElem?_eq_getElem (show i < xs.length by omega),
    List.getElem?_eq_getElem (show i < ys.length by omega)]

section
variable {perm xs ys : List Nat} {n : Nat}

theorem gather_getD (xs : List Nat) {j : Nat} (hj : j < perm.length) :
    (gather perm xs).getD j 0 = xs.getD (perm.getD j 0) 0 := by
  simp [gather,hj]

theorem invert_getD {axis : Nat} (h : axis < perm.length) :
    (invert perm).getD axis 0 = perm.idxOf axis := by
  simp [invert,h]

theorem length_gather (perm xs : List Nat) : (gather perm xs).length = perm.length := by
  simp [gather]

theorem length_invert (perm : List Nat) : (invert perm).length = perm.length := by
  simp [invert]

theorem dot_gather (hperm : perm.Perm (List.range n)) (hx : xs.length = n) (hy : ys.length = n) :
    dot (gather perm xs) ys = dot xs (gather (invert perm) ys) := by
  have hlen : perm.length = n := by simpa using hperm.length_eq
  have hnodup : perm.Nodup := hperm.nodup_iff.mpr nodup_range
  have hleft : dot (gather perm xs) ys =
      (perm.map fun axis => xs.getD axis 0 * ys.getD (perm.idxOf axis) 0).sum := by
    rw [dot_eq_sum_range ((length_gather perm xs).trans hlen) hy]
    congr 1
    refine ext_getElem (by simp [hlen]) ?_
    intro j hj hj'
    have hj : j < perm.length := by simpa using hj'
    simp [gather,hj,List.Nodup.idxOf_getElem hnodup]
  have hright : dot xs (gather (invert perm) ys) =
      ((List.range n).map fun axis => xs.getD axis 0 * ys.getD (perm.idxOf axis) 0).sum := by
    rw [dot_eq_sum_range hx (by rw [length_gather,length_invert,hlen])]
    congr 1
    refine map_congr_left fun axis haxis => ?_
    have haxis : axis < perm.length := hlen ▸ mem_range.mp haxis
    rw [gather_getD ys (by rwa [length_invert]),invert_getD haxis]
  rw [hleft,hright]
  exact (hperm.map _).sum_eq

theorem gather_invert (hperm : perm.Perm (List.range n)) (hx : xs.length = n) :
    gather (invert perm) (gather perm xs) = xs := by
  have hlen : perm.length = n := by simpa using hperm.length_eq
  refine ext_getElem (by rw [length_gather,length_invert,hlen,hx]) ?_
  intro axis haxis hx'
  have hmem : axis ∈ perm := hperm.mem_iff.mpr (mem_range.mpr (hx ▸ hx'))
  have hidx := idxOf_lt_length_iff.mpr hmem
  simp [gather,invert,hidx,hx']

theorem inBounds_gather {shape idx : List Nat} (hperm : perm.Perm (List.range shape.length))
    (h : InBounds shape idx) : InBounds (gather perm shape) (gather perm idx) := by
  rw [InBounds,gather,gather,forall₂_map_left_iff,forall₂_map_right_iff,forall₂_same]
  intro axis haxis
  have haxis : axis < shape.length := mem_range.mp (hperm.mem_iff.mp haxis)
  have hlen := h.length_eq
  have hget := (forall₂_iff_get.mp h).2 axis (by omega) haxis
  simpa [List.getElem?_eq_getElem haxis,List.getElem?_eq_getElem (show axis < idx.length by omega)]
    using hget

theorem ravel_gather {shape idx : List Nat} (hperm : perm.Perm (List.range shape.length))
    (hlen : idx.length = shape.length) :
    ravel (gather perm shape) (gather perm idx) =
      dot idx (gather (invert perm) (strides (gather perm shape))) := by
  rw [ravel_eq_dot (by rw [length_gather,length_gather])]
  refine dot_gather hperm hlen ?_
  rw [length_strides,length_gather,hperm.length_eq,length_range]

theorem ravel_gather_injOn {shape : List Nat} (hperm : perm.Perm (List.range shape.length)) :
    Set.InjOn (fun idx => ravel (gather perm shape) (gather perm idx)) {idx | InBounds shape idx} := by
  intro idx hidx idx' hidx' h
  have hgathered := ravel_injOn _ (inBounds_gather hperm hidx) (inBounds_gather hperm hidx') h
  rw [← gather_invert hperm hidx.length_eq,hgathered,gather_invert hperm hidx'.length_eq]

theorem gather_range (xs : List Nat) : gather (List.range xs.length) xs = xs := by
  refine ext_getElem (by simp [gather]) fun i hi hi' => ?_
  simp [gather,hi']

theorem prod_gather {shape : List Nat} (hperm : perm.Perm (List.range shape.length)) :
    (gather perm shape).prod = shape.prod := by
  have h := (hperm.map fun axis => shape.getD axis 0).prod_eq
  have hall : ((List.range shape.length).map fun axis => shape.getD axis 0) = shape := gather_range shape
  rw [hall] at h
  exact h

end

end QnnEp.Tensors
