import Mathlib.Algebra.BigOperators.Group.List.Basic
import QnnEp.Foundation.Reading

namespace QnnEp.Shapes
open Reading

def uint32Max : Nat := 4294967295

def uint32 (v : Int) : Nat := (v % 2 ^ 32).toNat

def getOnnxShape : Option (List Int) → Option (List Nat)
  | none => none
  | some [] => some [1]
  | some shape => if shape.all (fun d => 0 ≤ d && d ≤ uint32Max) then some (shape.map Int.toNat) else none

def qnnShape {α : Type} [OfNat α 1] : List α → List α
  | [] => [1]
  | shape => shape

def toUint32 (n : Int) : UInt32 := UInt32.ofNat (n % 2 ^ 32).toNat

def safeUint32 (n : Int) : Except String UInt32 :=
  if 0 ≤ n ∧ n < 2 ^ 32 then .ok (toUint32 n) else .error "Integer overflow"

theorem toUint32_toNat {n : Int} (h : 0 ≤ n ∧ n < 2 ^ 32) : ((toUint32 n).toNat : Int) = n := by
  rw [toUint32,UInt32.toNat_ofNat']
  omega

theorem safeUint32_ok {n : Int} {u : UInt32} (h : safeUint32 n = .ok u) : (u.toNat : Int) = n := by
  unfold safeUint32 at h
  split at h
  · next hrange =>
    cases h
    exact toUint32_toNat hrange
  · cases h

variable {dims shape : List Nat}

theorem getOnnxShape_ints (h : getOnnxShape (some (ints shape)) = some dims) : dims = qnnShape shape := by
  cases shape with
  | nil => exact (Option.some.inj h).symm
  | cons d ds =>
    change (if (ints (d :: ds)).all (fun d => 0 ≤ d && d ≤ uint32Max) then
      some ((ints (d :: ds)).map Int.toNat) else none) = some dims at h
    split at h
    · have hcancel : (ints (d :: ds)).map Int.toNat = d :: ds := by
        rw [ints,List.map_map]
        exact (List.map_congr_left fun n _ => Int.toNat_natCast n).trans (List.map_id _)
      rw [hcancel] at h
      exact (Option.some.inj h).symm
    · cases h

theorem getOnnxShape_eq {found : Option (List Int)} (hshape : ∀ s, found = some s → s = ints shape)
    (h : getOnnxShape found = some dims) : dims = qnnShape shape := by
  cases hcase : found with
  | none =>
    rw [hcase] at h
    cases h
  | some s =>
    rw [hcase,hshape s hcase] at h
    exact getOnnxShape_ints h

theorem qnnShape_eq (h : 1 < (qnnShape shape).length) : qnnShape shape = shape := by
  cases shape with
  | nil => exact absurd h (by decide)
  | cons d ds => rfl

theorem getOnnxShape_exact {found : Option (List Int)} (hshape : ∀ s, found = some s → s = ints shape)
    (h : getOnnxShape found = some dims) (hrank : 1 < dims.length) : dims = shape := by
  have hdims := getOnnxShape_eq hshape h
  exact hdims.trans (qnnShape_eq (hdims ▸ hrank))

theorem prod_qnnShape (shape : List Nat) : (qnnShape shape).prod = shape.prod := by
  cases shape <;> rfl

def onnxPerm (perm : Option (List Nat)) (rank : Nat) : List Nat := perm.getD (List.range rank).reverse

theorem onnxPerm_perm {perm : Option (List Nat)} {rank : Nat}
    (h : ∀ p, perm = some p → p.Perm (List.range rank)) : (onnxPerm perm rank).Perm (List.range rank) := by
  cases perm with
  | none => exact List.reverse_perm _
  | some p => exact h p rfl

end QnnEp.Shapes
