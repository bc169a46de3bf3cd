import QnnEp.Foundation.Tensor
import QnnEp.Quant.Axis

namespace QnnEp.Quant
open List QuantizeParams
open Model (unsqueezeAxis)
open Tensors (unravel)

inductive Unsqueezed : List Nat → List Nat → Prop
  | nil : Unsqueezed [] []
  | keep (dim : Nat) {orig new : List Nat} : Unsqueezed orig new → Unsqueezed (dim :: orig) (dim :: new)
  | insert {orig new : List Nat} : Unsqueezed orig new → Unsqueezed orig (1 :: new)

def skipInserted (dim : Nat) : List Nat → Option (Nat × List Nat)
  | [] => none
  | d :: rest =>
    if d ≠ dim then (skipInserted dim rest).map fun r => (r.1 + 1,r.2) else some (0,rest)

def movedAxis : List Nat → List Nat → Nat → Option Nat
  | [], _, _ => some 0
  | _ :: _, [], _ => some 0
  | dim :: dims, d :: rest, axis =>
    (skipInserted dim (d :: rest)).bind fun r =>
      if axis = 0 then some r.1 else (movedAxis dims r.2 (axis - 1)).map (r.1 + 1 + ·)

namespace Unsqueezed
variable {orig new : List Nat}

theorem drop_unit (h : Unsqueezed (1 :: orig) new) : Unsqueezed orig new := by
  generalize hunit : 1 :: orig = given at h
  induction h with
  | nil => cases hunit
  | keep dim h ih =>
    cases hunit
    exact .insert h
  | insert h ih => exact .insert (ih hunit)

theorem tail_of_match {dim : Nat} (h : Unsqueezed (dim :: orig) (dim :: new)) : Unsqueezed orig new := by
  cases h with
  | keep _ h => exact h
  | insert h => exact drop_unit h

theorem skip {dim d : Nat} (h : Unsqueezed (dim :: orig) (d :: new)) (hne : d ≠ dim) :
    d = 1 ∧ Unsqueezed (dim :: orig) new := by
  cases h with
  | keep _ h => exact absurd rfl hne
  | insert h => exact ⟨rfl,h⟩

theorem prod_eq (h : Unsqueezed orig new) : new.prod = orig.prod := by
  induction h with
  | nil => rfl
  | keep dim _ ih => rw [prod_cons,prod_cons,ih]
  | insert _ ih => rw [prod_cons,ih,Nat.one_mul]

theorem length_le (h : Unsqueezed orig new) : orig.length ≤ new.length := by
  induction h with
  | nil => rfl
  | keep dim _ ih => exact Nat.succ_le_succ ih
  | insert _ ih => exact Nat.le_succ_of_le ih

theorem eq_of_length (h : Unsqueezed orig new) (hlength : ¬ orig.length < new.length) : new = orig := by
  induction h with
  | nil => rfl
  | keep dim _ ih => rw [ih fun hlt => hlength (Nat.succ_lt_succ hlt)]
  | insert h _ => exact absurd (Nat.lt_succ_of_le h.length_le) hlength

theorem skipInserted_spec {dim : Nat} (h : Unsqueezed (dim :: orig) new) :
    ∃ skipped rest, skipInserted dim new = some (skipped,rest) ∧ Unsqueezed orig rest ∧
      new = List.replicate skipped 1 ++ dim :: rest := by
  induction new with
  | nil => cases h
  | cons d new ih =>
    by_cases hmatch : d = dim
    · subst hmatch
      exact ⟨0,new,by simp [skipInserted],h.tail_of_match,rfl⟩
    · obtain ⟨rfl,hrest⟩ := h.skip hmatch
      obtain ⟨skipped,rest,hskip,hunsqueezed,hnew⟩ := ih hrest
      refine ⟨skipped + 1,rest,?_,hunsqueezed,?_⟩
      · simp [skipInserted,hmatch,hskip]
      · rw [hnew]
        rfl

end Unsqueezed

theorem unravel_replicate_one (n : Nat) {shape : List Nat} {k : Nat} (hk : k < shape.prod) :
    unravel (List.replicate n 1 ++ shape) k = List.replicate n 0 ++ unravel shape k := by
  induction n with
  | zero => rfl
  | succ n ih =>
    have hprod : (List.replicate n 1 ++ shape).prod = shape.prod := by simp
    rw [replicate_succ,cons_append,unravel,hprod,Nat.div_eq_of_lt hk,Nat.mod_eq_of_lt hk,ih]
    rfl

theorem movedAxis_cons {dim skipped : Nat} {new rest : List Nat}
    (h : skipInserted dim new = some (skipped,rest)) (dims : List Nat) (axis : Nat) :
    movedAxis (dim :: dims) new axis =
      if axis = 0 then some skipped else (movedAxis dims rest (axis - 1)).map (skipped + 1 + ·) := by
  cases new with
  | nil => cases h
  | cons d new =>
    rw [movedAxis,h]
    rfl

theorem movedAxis_channel {orig new : List Nat} (h : Unsqueezed orig new) (axis : Nat) :
    ∃ j, movedAxis orig new axis = some j ∧
      (axis < orig.length → ∀ k, k < orig.prod → (unravel new k)[j]? = (unravel orig k)[axis]?) := by
  induction orig generalizing new axis with
  | nil => exact ⟨0,rfl,fun haxis => absurd haxis (Nat.not_lt_zero axis)⟩
  | cons dim dims ih =>
    obtain ⟨skipped,rest,hskip,hrest,rfl⟩ := h.skipInserted_spec
    have hposition : ∀ k, k < (dim :: dims).prod → unravel (List.replicate skipped 1 ++ dim :: rest) k =
        List.replicate skipped 0 ++ k / dims.prod :: unravel rest (k % dims.prod) := by
      intro k hk
      rw [unravel_replicate_one skipped (by rwa [prod_cons,hrest.prod_eq,← prod_cons]),unravel,
        hrest.prod_eq]
    rw [movedAxis_cons hskip]
    cases axis with
    | zero =>
      refine ⟨skipped,rfl,fun _ k hk => ?_⟩
      rw [hposition k hk,unravel,List.getElem?_append_right (by simp)]
      simp
    | succ axis =>
      obtain ⟨j,hj,hchannel⟩ := ih hrest axis
      refine ⟨skipped + 1 + j,by simp [hj],fun haxis k hk => ?_⟩
      have hpos : 0 < dims.prod := Nat.pos_of_ne_zero fun hzero => by simp [hzero] at hk
      rw [hposition k hk,unravel,List.getElem?_append_right (by simp; omega),length_replicate,
        show skipped + 1 + j - skipped = j + 1 by omega,List.getElem?_cons_succ,List.getElem?_cons_succ]
      exact hchannel (Nat.lt_of_succ_lt_succ haxis) _ (Nat.mod_lt k hpos)

theorem skipInserted_eq {dim skipped : Nat} {new rest : List Nat}
    (h : skipInserted dim new = some (skipped,rest)) :
    skipped = (new.takeWhile (· != dim)).length ∧ rest = new.drop (skipped + 1) := by
  induction new generalizing skipped with
  | nil => cases h
  | cons d new ih =>
    by_cases hmatch : d = dim
    · simp only [skipInserted,hmatch,ne_eq,not_true,if_false,Option.some.injEq,Prod.mk.injEq] at h
      obtain ⟨rfl,rfl⟩ := h
      simp [hmatch]
    · rw [skipInserted,if_pos hmatch] at h
      obtain ⟨⟨inner,other⟩,hinner,heq⟩ := Option.map_eq_some_iff.mp h
      cases heq
      obtain ⟨hskipped,hrest⟩ := ih hinner
      simp [hmatch,← hskipped,← hrest]

theorem unsqueezeAxis_eq {orig new : List Nat} {axis start j : Nat}
    (h : movedAxis orig (new.drop start) axis = some j) :
    unsqueezeAxis new orig axis start = start + j := by
  induction orig generalizing axis start j with
  | nil =>
    cases h
    rfl
  | cons dim dims ih =>
    rw [unsqueezeAxis]
    by_cases hstart : start < new.length
    · rw [if_pos hstart]
      cases hskip : skipInserted dim (new.drop start) with
      | none =>
        have hdrop : new.drop start ≠ [] := fun hnil => by
          rw [drop_eq_nil_iff] at hnil
          omega
        obtain ⟨d,rest,hcons⟩ := exists_cons_of_ne_nil hdrop
        rw [hcons] at h hskip
        rw [movedAxis,hskip] at h
        cases h
      | some found =>
        obtain ⟨skipped,rest⟩ := found
        obtain ⟨hskipped,hrest⟩ := skipInserted_eq hskip
        rw [movedAxis_cons hskip] at h
        rw [← hskipped]
        split at h
        next hzero =>
          rw [if_pos hzero,Option.some.inj h]
        next hzero =>
          rw [hrest,drop_drop] at h
          obtain ⟨inner,hinner,rfl⟩ := Option.map_eq_some_iff.mp h
          rw [if_neg hzero,ih (by rwa [Nat.add_assoc])]
          omega
    · rw [drop_eq_nil_iff.mpr (Nat.le_of_not_lt hstart)] at h
      cases h
      rw [if_neg hstart]
      rfl

theorem handleUnsqueeze_keeps_channels {origShape newShape : List Nat}
    (h : Unsqueezed origShape newShape) (params : QuantizeParams) {axis : Int}
    (haxis : params.axis? = some axis) (hnonneg : 0 ≤ axis) (hrank : axis < origShape.length) :
    (∀ i, ∃ j, movedAxis origShape newShape i = some j) ∧
      ((newShape = origShape ∧ params.handleUnsqueeze origShape newShape =
          .error "Expected unsqueezed shape to have a greater rank.") ∨
        ∃ params' j, movedAxis origShape newShape axis.toNat = some j ∧
          params.handleUnsqueeze origShape newShape = .ok params' ∧ params' = params.setAxis j ∧
          ∀ k, k < origShape.prod →
            params'.channel (unravel newShape k) = params.channel (unravel origShape k)) := by
  refine ⟨fun i => (movedAxis_channel h i).imp fun _ hj => hj.1,?_⟩
  unfold handleUnsqueeze
  rw [haxis]
  dsimp only
  by_cases hlength : origShape.length < newShape.length
  · rw [if_pos hlength]
    obtain ⟨j,hj,hchannel⟩ := movedAxis_channel h axis.toNat
    have hmoved : unsqueezeAxis newShape origShape axis.toNat 0 = j := by
      rw [unsqueezeAxis_eq (j := j) (by rwa [drop_zero]),Nat.zero_add]
    refine .inr ⟨params.setAxis j,j,hj,by rw [hmoved],rfl,fun k hk => ?_⟩
    rw [channel_of_axis (axis?_setAxis haxis j),
      channel_of_axis haxis,Int.toNat_natCast]
    exact hchannel (by omega) k hk
  · rw [if_neg hlength]
    exact .inl ⟨h.eq_of_length hlength,rfl⟩

theorem handleUnsqueeze_keeps_leading_channels :
    ∃ params' j, movedAxis [2,3] [1,2,1,3] 1 = some j ∧
      (axisScaleOffset 1 0 []).handleUnsqueeze [2,3] [1,2,1,3] = .ok params' ∧
      params' = (axisScaleOffset 1 0 []).setAxis j ∧
      ∀ k, k < [2,3].prod → params'.channel (unravel [1,2,1,3] k) =
        (axisScaleOffset 1 0 []).channel (unravel [2,3] k) :=
  (handleUnsqueeze_keeps_channels (.insert (.keep 2 (.insert (.keep 3 .nil))))
    (.axisScaleOffset 1 0 []) rfl (by decide) (by decide)).2.resolve_left (by simp)

end QnnEp.Quant
