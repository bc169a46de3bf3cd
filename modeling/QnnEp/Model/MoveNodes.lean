import QnnEp.Foundation.Movement
import QnnEp.Model.Builders

namespace QnnEp.MoveNodes
open Model (needsHtpTransposeReshapeWorkaround)
open Status Tensors

def addReshapeNode (perChannel : Bool) (outputShape : List Nat) : Except String Move := do
  returnIf (perChannel = true) "Do not support inserted Reshape nodes with per-channel quantization"
  return .reshape outputShape

def addTransposeNode (perChannel : Bool) (inputShape perm outputShape : List Nat) :
    Except String Move := do
  returnIf (perChannel = true) "Do not support inserted Transpose nodes with per-channel quantization"
  if needsHtpTransposeReshapeWorkaround inputShape perm outputShape then
    addReshapeNode perChannel outputShape
  else return .transpose perm

section
variable {R : Type} {perChannel : Bool} {inputShape perm outputShape : List Nat} {move : Move}
  {t : Tensor R}

theorem addReshapeNode_ok (h : addReshapeNode perChannel outputShape = .ok move) :
    move = .reshape outputShape :=
  (Except.ok.inj (returnIf_bind_ok.mp h).2).symm

theorem filter_bne_one (axes shape : List Nat) :
    (axes.filter fun axis => shape.getD axis 0 != 1) = axes.filter fun axis => shape.getD axis 0 ≠ 1 := by
  refine List.filter_congr fun axis _ => ?_
  by_cases hunit : shape.getD axis 0 = 1
  · simp only [hunit]
    rfl
  · rw [decide_eq_true hunit]
    exact bne_iff_ne.mpr hunit

theorem workaround_cases (h : needsHtpTransposeReshapeWorkaround inputShape perm outputShape = true) :
    outputShape = gather perm inputShape ∧
      (perm.filter fun axis => inputShape.getD axis 0 ≠ 1).Pairwise (· < ·) := by
  simp only [needsHtpTransposeReshapeWorkaround,Bool.and_eq_true] at h
  refine ⟨?_,?_⟩
  · exact eq_of_beq h.1.1.2
  · have hsorted := of_decide_eq_true h.2
    rwa [filter_bne_one] at hsorted

theorem addTransposeNode_same (h : addTransposeNode perChannel inputShape perm outputShape = .ok move)
    (hshape : t.shape = inputShape) (hperm : perm.Perm (List.range inputShape.length)) :
    (move.apply t).Same (t.transpose perm) := by
  subst hshape
  obtain ⟨_,h⟩ := returnIf_bind_ok.mp h
  split at h
  · next hneeds =>
    obtain ⟨hout,hsorted⟩ := workaround_cases hneeds
    rw [addReshapeNode_ok h,hout]
    exact reshape_same_transpose hperm hsorted
  · cases h
    exact .refl _

end

end QnnEp.MoveNodes
