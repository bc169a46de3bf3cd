import Mathlib.Algebra.BigOperators.Group.Finset.Basic
import Mathlib.Algebra.BigOperators.Ring.List
import Mathlib.Algebra.Order.Ring.Int
import Mathlib.Data.List.GetD
import Mathlib.Tactic.Ring

namespace QnnEp.Tensors
open List

structure Tensor (R : Type) where
  shape : List Nat
  get : List Nat → R

abbrev InBounds (shape idx : List Nat) : Prop := List.Forall₂ (fun i d => i < d) idx shape

def ravel : List Nat → List Nat → Nat
  | _ :: ds, i :: is => i * ds.prod + ravel ds is
  | _, _ => 0

def unravel : List Nat → Nat → List Nat
  | [], _ => []
  | _ :: ds, n => n / ds.prod :: unravel ds (n % ds.prod)

theorem row_of_lt {row col n : Nat} (h : col < n) : (row * n + col) / n = row := by
  have hpos : 0 < n := Nat.lt_of_le_of_lt (Nat.zero_le _) h
  rw [Nat.add_comm,Nat.add_mul_div_right _ _ hpos,Nat.div_eq_of_lt h,Nat.zero_add]

theorem ravel_lt {shape idx : List Nat} (h : InBounds shape idx) : ravel shape idx < shape.prod := by
  induction h with
  | nil => simp [ravel]
  | @cons i d is ds hi _ ih =>
    rw [ravel,prod_cons]
    calc i * ds.prod + ravel ds is < i * ds.prod + ds.prod := Nat.add_lt_add_left ih _
      _ = (i + 1) * ds.prod := by rw [Nat.succ_mul]
      _ ≤ d * ds.prod := Nat.mul_le_mul_right _ hi

theorem unravel_ravel {shape idx : List Nat} (h : InBounds shape idx) :
    unravel shape (ravel shape idx) = idx := by
  induction h with
  | nil => rfl
  | @cons i d is ds hi hrest ih =>
    have hlt := ravel_lt hrest
    rw [ravel,unravel,row_of_lt hlt,Nat.mul_add_mod_of_lt hlt,ih]

theorem ravel_append {xs is : List Nat} (h : is.length = xs.length) (ys js : List Nat) :
    ravel (xs ++ ys) (is ++ js) = ravel xs is * ys.prod + ravel ys js := by
  induction xs generalizing is with
  | nil =>
    obtain rfl := length_eq_zero_iff.mp h
    simp [ravel]
  | cons x xs ih =>
    cases is with
    | nil => cases h
    | cons i is =>
      rw [cons_append,cons_append,ravel,ravel,ih (Nat.succ.inj h),prod_append]
      ring

theorem inBounds_append {xs ys is js : List Nat} (h : InBounds xs is) (h' : InBounds ys js) :
    InBounds (xs ++ ys) (is ++ js) := rel_append h h'

theorem exists_of_inBounds_append {xs ys idx : List Nat} (h : InBounds (xs ++ ys) idx) :
    ∃ is js, idx = is ++ js ∧ InBounds xs is ∧ InBounds ys js :=
  ⟨_,_,(take_append_drop xs.length idx).symm,forall₂_take_append _ _ _ h,
    forall₂_drop_append _ _ _ h⟩

theorem getD_lt_of_inBounds {shape idx : List Nat} {axis : Nat} (h : InBounds shape idx)
    (haxis : axis < shape.length) : idx.getD axis 0 < shape.getD axis 0 := by
  induction h generalizing axis with
  | nil => cases haxis
  | cons hi _ ih =>
    cases axis with
    | zero => exact hi
    | succ axis => exact ih (Nat.lt_of_succ_lt_succ haxis)

theorem inBounds_three {p q r : Nat} {idx : List Nat} (h : InBounds [p,q,r] idx) :
    ∃ i j k, idx = [i,j,k] ∧ i < p ∧ j < q ∧ k < r := by
  obtain _ | ⟨hi,_ | ⟨hj,_ | ⟨hk,_ | _⟩⟩⟩ := h
  exact ⟨_,_,_,rfl,hi,hj,hk⟩

theorem inBounds_four {p q r s : Nat} {idx : List Nat} (h : InBounds [p,q,r,s] idx) :
    ∃ i j k l, idx = [i,j,k,l] ∧ i < p ∧ j < q ∧ k < r ∧ l < s := by
  obtain _ | ⟨hi,_ | ⟨hj,_ | ⟨hk,_ | ⟨hl,_ | _⟩⟩⟩⟩ := h
  exact ⟨_,_,_,_,rfl,hi,hj,hk,hl⟩

theorem not_inBounds_of_zero {shape idx : List Nat} (h : 0 ∈ shape) : ¬InBounds shape idx := by
  intro hidx
  induction hidx with
  | nil => cases h
  | @cons i d is ds hi _ ih =>
    rcases mem_cons.mp h with hd | h
    · exact absurd hi (by omega)
    · exact ih h

namespace Tensor
variable {R : Type}

def Same (s t : Tensor R) : Prop := s.shape = t.shape ∧ ∀ idx, InBounds t.shape idx → s.get idx = t.get idx

theorem Same.symm {s t : Tensor R} (h : s.Same t) : t.Same s :=
  ⟨h.1.symm,fun idx hidx => (h.2 idx (h.1 ▸ hidx)).symm⟩

theorem Same.trans {s t u : Tensor R} (h : s.Same t) (h' : t.Same u) : s.Same u :=
  ⟨h.1.trans h'.1,fun idx hidx => (h.2 idx (h'.1 ▸ hidx)).trans (h'.2 idx hidx)⟩

def reshape (shape : List Nat) (t : Tensor R) : Tensor R where
  shape := shape
  get idx := t.get (unravel t.shape (ravel shape idx))

theorem reshape_get {t : Tensor R} {shape idx source : List Nat} (h : InBounds t.shape source)
    (hravel : ravel shape idx = ravel t.shape source) :
    (t.reshape shape).get idx = t.get source := by
  change t.get (unravel t.shape (ravel shape idx)) = _
  rw [hravel,unravel_ravel h]

def transpose (perm : List Nat) (t : Tensor R) : Tensor R where
  shape := perm.map fun axis => t.shape.getD axis 0
  get idx := t.get ((List.range t.shape.length).map fun axis => idx.getD (perm.idxOf axis) 0)

end Tensor

def broadcastIndex (shape idx : List Nat) : List Nat :=
  List.zipWith (fun d i => if d = 1 then 0 else i) shape (idx.drop (idx.length - shape.length))

theorem broadcastIndex_inBounds {shape idx : List Nat} (h : InBounds shape idx) :
    broadcastIndex shape idx = idx := by
  have hlen : idx.length - shape.length = 0 := by
    have := h.length_eq
    omega
  rw [broadcastIndex,hlen,drop_zero]
  clear hlen
  induction h with
  | nil => rfl
  | @cons i d is ds hi _ ih =>
    rw [zipWith_cons_cons,ih]
    congr 1
    split <;> omega

section
variable {R : Type} [CommSemiring R]

def multiply (outShape : List Nat) (a b : Tensor R) : Tensor R where
  shape := outShape
  get idx := a.get (broadcastIndex a.shape idx) * b.get (broadcastIndex b.shape idx)

end

end QnnEp.Tensors
