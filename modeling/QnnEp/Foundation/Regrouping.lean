import Mathlib.Algebra.Order.BigOperators.GroupWithZero.List
import QnnEp.Foundation.MixedRadix

namespace QnnEp.Tensors
open List
variable {xs perm idx : List Nat}

section
variable {R : Type} {s t : Tensor R}

theorem Tensor.same_reshape {shape : List Nat} (hshape : s.shape = shape)
    (hprod : shape.prod = t.shape.prod)
    (h : ∀ idx, InBounds t.shape idx →
      ∃ j, InBounds shape j ∧ ravel shape j = ravel t.shape idx ∧ s.get j = t.get idx) :
    s.Same (t.reshape shape) := by
  refine ⟨hshape,fun j hj => ?_⟩
  have hlt : ravel shape j < t.shape.prod := hprod ▸ ravel_lt hj
  obtain ⟨j',hj',hravel,hget⟩ := h _ (unravel_inBounds hlt)
  rw [ravel_unravel hlt] at hravel
  obtain rfl := ravel_injOn shape hj' hj hravel
  exact hget

end

section

theorem prod_le_prod_of_forall₂ {ys : List Nat} (h : List.Forall₂ (· ≤ ·) xs ys) : xs.prod ≤ ys.prod := by
  induction h with
  | nil => exact Nat.le_refl _
  | cons hxy _ ih =>
    rw [prod_cons,prod_cons]
    exact Nat.mul_le_mul hxy ih

theorem eq_of_le_of_prod_le {ys : List Nat} (h : List.Forall₂ (· ≤ ·) xs ys) (hpos : ∀ x ∈ xs, 0 < x)
    (hprod : ys.prod ≤ xs.prod) : xs = ys := by
  induction h with
  | nil => rfl
  | @cons x y xs ys hxy hrest ih =>
    have hx := hpos x mem_cons_self
    have hpos' : ∀ x' ∈ xs, 0 < x' := fun x' hx' => hpos x' (mem_cons_of_mem x hx')
    have hle := prod_le_prod_of_forall₂ hrest
    have hxs : 0 < xs.prod := prod_pos hpos'
    rw [prod_cons,prod_cons] at hprod
    obtain rfl : x = y := by
      refine Nat.le_antisymm hxy (Nat.le_of_mul_le_mul_right ?_ hxs)
      exact (Nat.mul_le_mul_left y hle).trans hprod
    rw [ih hpos' (Nat.le_of_mul_le_mul_left hprod hx)]

theorem address_lt {digits : List (Nat × Nat)} (h : Bounded digits) :
    address digits < (sizes digits).prod := by
  induction digits with
  | nil => decide
  | cons d ds ih =>
    have hrest := ih fun e he => h e (mem_cons_of_mem d he)
    have hd := h d mem_cons_self
    rw [address,sizes_cons,prod_cons]
    exact Scatter.index_lt hd hrest

def groupSizes (shape : List Nat) (groups : List (List Nat)) : List Nat :=
  groups.map fun axes => (gather axes shape).prod

def groupIndex (shape idx : List Nat) (groups : List (List Nat)) : List Nat :=
  groups.map fun axes => address (axes.map (digitAt shape idx))

variable {shape idx : List Nat} {groups : List (List Nat)}

theorem sizes_digits (shape idx axes : List Nat) : sizes (axes.map (digitAt shape idx)) = gather axes shape := by
  rw [sizes,map_map]
  rfl

theorem bounded_digits {axes : List Nat} (h : InBounds shape idx) (haxes : ∀ axis ∈ axes, axis < shape.length) :
    Bounded (axes.map (digitAt shape idx)) := by
  intro d hd
  obtain ⟨axis,haxis,rfl⟩ := mem_map.mp hd
  exact getD_lt_of_inBounds h (haxes axis haxis)

theorem groupIndex_inBounds (h : InBounds shape idx)
    (haxes : ∀ axes ∈ groups, ∀ axis ∈ axes, axis < shape.length) :
    InBounds (groupSizes shape groups) (groupIndex shape idx groups) := by
  induction groups with
  | nil => exact .nil
  | cons axes groups ih =>
    refine .cons ?_ (ih fun axes' hmem => haxes axes' (mem_cons_of_mem axes hmem))
    have hlt := address_lt (bounded_digits h (haxes axes mem_cons_self))
    rwa [sizes_digits] at hlt

theorem merged_digits (shape idx : List Nat) (groups : List (List Nat)) :
    (groupSizes shape groups).zip (groupIndex shape idx groups) =
      merged (groups.map fun axes => axes.map (digitAt shape idx)) := by
  rw [groupSizes,groupIndex,zip_map',merged,map_map]
  refine map_congr_left fun axes _ => ?_
  rw [Function.comp_apply,sizes_digits]

theorem ravel_groupIndex (shape idx : List Nat) (groups : List (List Nat)) :
    ravel (groupSizes shape groups) (groupIndex shape idx groups) =
      address (groups.flatten.map (digitAt shape idx)) := by
  have hlen : (groupIndex shape idx groups).length = (groupSizes shape groups).length := by
    rw [groupIndex,groupSizes,length_map,length_map]
  rw [ravel_eq_address hlen,merged_digits,address_merged,map_flatten]

theorem gather_range' {start n : Nat} (h : start + n ≤ xs.length) :
    gather (List.range' start n) xs = (xs.drop start).take n := by
  refine ext_getElem (by simp [gather]; omega) fun i hi hi' => ?_
  have hi : start + i < xs.length := by
    have : i < n := by simpa [gather] using hi
    omega
  simp [gather,hi]

theorem prod_groupSizes (shape : List Nat) (groups : List (List Nat)) :
    (groupSizes shape groups).prod = (gather groups.flatten shape).prod := by
  rw [gather,map_flatten,prod_flatten,map_map]
  rfl

theorem gather_groupSizes (h : ∀ k ∈ perm, k < groups.length) :
    gather perm (groupSizes shape groups) = groupSizes shape (perm.map fun k => groups.getD k []) := by
  rw [gather,groupSizes,groupSizes,map_map]
  refine map_congr_left fun k hk => ?_
  rw [Function.comp_apply,getD_eq_getElem _ _ (by simpa using h k hk),getElem_map,
    getD_eq_getElem _ _ (h k hk)]

theorem gather_groupIndex (h : ∀ k ∈ perm, k < groups.length) :
    gather perm (groupIndex shape idx groups) =
      groupIndex shape idx (perm.map fun k => groups.getD k []) := by
  rw [gather,groupIndex,groupIndex,map_map]
  refine map_congr_left fun k hk => ?_
  rw [Function.comp_apply,getD_eq_getElem _ _ (by simpa using h k hk),getElem_map,
    getD_eq_getElem _ _ (h k hk)]

theorem address_range (h : idx.length = shape.length) :
    address ((List.range shape.length).map (digitAt shape idx)) = ravel shape idx := by
  rw [ravel_eq_address h,zip_eq_digits h]

theorem digitAt_gather {axis : Nat} (haxis : axis < perm.length) :
    digitAt (gather perm shape) (gather perm idx) axis = digitAt shape idx (perm.getD axis 0) := by
  rw [digitAt,gather_getD _ haxis,gather_getD _ haxis]
  rfl

end

section
variable {R : Type} {t : Tensor R} {perm₁ perm₂ : List Nat} {groups : List (List Nat)}

theorem regrouped (hperm₁ : perm₁.Perm (List.range t.shape.length))
    (hperm₂ : perm₂.Perm (List.range groups.length))
    (hcover : groups.flatten = List.range t.shape.length)
    (horder : (perm₂.map fun k => groups.getD k []).flatten.map (fun axis => perm₁.getD axis 0) =
      List.range t.shape.length) :
    (((t.transpose perm₁).reshape (groupSizes (gather perm₁ t.shape) groups)).transpose perm₂).Same
      (t.reshape (gather perm₂ (groupSizes (gather perm₁ t.shape) groups))) := by
  have hlen : perm₁.length = t.shape.length := by simpa using hperm₁.length_eq
  have hrank : (gather perm₁ t.shape).length = t.shape.length := (length_gather _ _).trans hlen
  have hin : ∀ k ∈ perm₂, k < groups.length := fun k hk => mem_range.mp (hperm₂.mem_iff.mp hk)
  have hgroups : (groupSizes (gather perm₁ t.shape) groups).length = groups.length := length_map _
  have haxes : ∀ axes ∈ groups, ∀ axis ∈ axes, axis < (gather perm₁ t.shape).length := by
    intro axes haxes axis haxis
    rw [hrank,← mem_range,← hcover]
    exact mem_flatten_of_mem haxes haxis
  have hsize : (groupSizes (gather perm₁ t.shape) groups).prod = t.shape.prod := by
    rw [prod_groupSizes,hcover,← hrank,gather_range,prod_gather hperm₁]
  refine Tensor.same_reshape rfl ((prod_gather (hgroups.symm ▸ hperm₂)).trans hsize) fun idx hidx => ?_
  have hinner := inBounds_gather hperm₁ hidx
  have hbounds := groupIndex_inBounds hinner haxes
  have houter : ravel (groupSizes (gather perm₁ t.shape) groups)
      (groupIndex (gather perm₁ t.shape) (gather perm₁ idx) groups) =
        ravel (gather perm₁ t.shape) (gather perm₁ idx) := by
    rw [ravel_groupIndex,hcover,← hrank,address_range hinner.length_eq]
  refine ⟨gather perm₂ (groupIndex (gather perm₁ t.shape) (gather perm₁ idx) groups),
    inBounds_gather (hgroups.symm ▸ hperm₂) hbounds,?_,?_⟩
  · rw [gather_groupSizes hin,gather_groupIndex hin,ravel_groupIndex,← address_range hidx.length_eq,
      ← horder,map_map]
    refine congrArg address (map_congr_left fun axis haxis => ?_)
    obtain ⟨axes,hmem,haxis⟩ := mem_flatten.mp haxis
    obtain ⟨k,hk,rfl⟩ := mem_map.mp hmem
    have hget : groups.getD k [] ∈ groups := by
      rw [getD_eq_getElem _ _ (hin k hk)]
      exact getElem_mem _
    exact digitAt_gather (hlen.trans hrank.symm ▸ haxes _ hget axis haxis)
  · rw [Tensor.transpose_get_gather (hgroups.symm ▸ hperm₂) hbounds.length_eq,
      Tensor.reshape_get (t := t.transpose perm₁) hinner houter]
    exact Tensor.transpose_get_gather hperm₁ hidx.length_eq

end

section
variable {R : Type} {s t x : Tensor R} {dims perm perm' out : List Nat} {groups : List (List Nat)}

theorem Flattens.reshape_same (h : Flattens t s) (hout : out.prod = t.shape.prod) :
    (s.reshape out).Same (t.reshape out) :=
  ⟨rfl,fun _ hidx => h.flat _ (hout ▸ ravel_lt hidx)⟩

theorem flattens_of_index (hprod : s.shape.prod = t.shape.prod)
    (h : ∀ idx, InBounds t.shape idx →
      ∃ j, InBounds s.shape j ∧ ravel s.shape j = ravel t.shape idx ∧ s.get j = t.get idx) :
    Flattens t s := by
  refine ⟨hprod,fun n hn => ?_⟩
  obtain ⟨j,hj,hravel,hget⟩ := h _ (unravel_inBounds hn)
  rw [ravel_unravel hn] at hravel
  rw [← hravel,← Tensor.get_eq_flat hj,hget,hravel]
  rfl

def nonUnit (dims : List Nat) (axis : Nat) : Bool := dims.getD axis 0 ≠ 1

theorem nonUnit_iff {axis : Nat} : nonUnit dims axis = true ↔ dims.getD axis 0 ≠ 1 := decide_eq_true_iff

theorem nonUnit_of_one {axis : Nat} (h : dims.getD axis 0 = 1) : ¬nonUnit dims axis = true :=
  fun hnon => nonUnit_iff.mp hnon h

theorem address_nonUnit {axes idx : List Nat} (h : InBounds dims idx)
    (haxes : ∀ axis ∈ axes, axis < dims.length) :
    address ((axes.filter (nonUnit dims)).map (digitAt dims idx)) = address (axes.map (digitAt dims idx)) := by
  rw [← address_proper (bounded_digits h haxes),proper_digits]
  rfl

theorem prod_nonUnit (dims axes : List Nat) :
    (gather (axes.filter (nonUnit dims)) dims).prod = (gather axes dims).prod := by
  rw [← sizes_digits dims [] axes,← prod_sizes_proper,proper_digits,sizes_digits]
  rfl

theorem ravel_view (hidx : InBounds dims idx) (hgroups : ∀ axes ∈ groups, ∀ axis ∈ axes, axis < dims.length)
    (hin : groups.flatten.filter (nonUnit dims) = (List.range dims.length).filter (nonUnit dims)) :
    ravel (groupSizes dims groups) (groupIndex dims idx groups) = ravel dims idx := by
  have hflat : ∀ axis ∈ groups.flatten, axis < dims.length := by
    intro axis haxis
    obtain ⟨axes,hmem,haxis⟩ := mem_flatten.mp haxis
    exact hgroups axes hmem axis haxis
  rw [ravel_groupIndex,← address_nonUnit hidx hflat,hin,
    address_nonUnit hidx fun axis haxis => mem_range.mp haxis,address_range hidx.length_eq]

theorem regrouped_chain (hperm : perm.Perm (List.range dims.length))
    (hperm' : perm'.Perm (List.range groups.length))
    (hgroups : ∀ axes ∈ groups, ∀ axis ∈ axes, axis < dims.length)
    (hin : groups.flatten.filter (nonUnit dims) = (List.range dims.length).filter (nonUnit dims))
    (hout : (perm'.map fun k => groups.getD k []).flatten.filter (nonUnit dims) =
      perm.filter (nonUnit dims))
    (hprod : out.prod = dims.prod) :
    (((x.reshape (groupSizes dims groups)).transpose perm').reshape out).Same
      (((x.reshape dims).transpose perm).reshape out) := by
  have hlen : (groupSizes dims groups).length = groups.length := length_map _
  have hin' : ∀ k ∈ perm', k < groups.length := fun k hk => mem_range.mp (hperm'.mem_iff.mp hk)
  have hperm'' : perm'.Perm (List.range (groupSizes dims groups).length) := hlen.symm ▸ hperm'
  have hflat : ∀ axis ∈ (perm'.map fun k => groups.getD k []).flatten, axis < dims.length := by
    intro axis haxis
    obtain ⟨axes,hmem,haxis⟩ := mem_flatten.mp haxis
    obtain ⟨k,hk,rfl⟩ := mem_map.mp hmem
    rw [getD_eq_getElem _ _ (hin' k hk)] at haxis
    exact hgroups _ (getElem_mem _) axis haxis
  have hsize : (groupSizes dims groups).prod = dims.prod := by
    rw [prod_groupSizes,← prod_nonUnit,hin,prod_nonUnit,gather_range]
  have hprods : (gather perm' (groupSizes dims groups)).prod = (gather perm dims).prod := by
    rw [prod_gather hperm'',prod_gather hperm,hsize]
  refine Flattens.reshape_same (flattens_of_index hprods fun j hj => ?_)
    (hprod.trans (prod_gather hperm).symm)
  obtain ⟨idx,hidx,rfl⟩ := exists_gather hperm hj
  have hbounds := groupIndex_inBounds hidx hgroups
  have hview := ravel_view hidx hgroups hin
  refine ⟨gather perm' (groupIndex dims idx groups),inBounds_gather hperm'' hbounds,?_,?_⟩
  · change ravel (gather perm' (groupSizes dims groups)) _ = ravel (gather perm dims) _
    rw [gather_groupSizes hin',gather_groupIndex hin',ravel_groupIndex,← address_nonUnit hidx hflat,
      hout,address_nonUnit hidx fun axis haxis => mem_range.mp (hperm.mem_iff.mp haxis),
      ← zip_gather,ravel_eq_address (by rw [length_gather,length_gather])]
  · rw [Tensor.transpose_get_gather hperm'' hbounds.length_eq]
    refine Eq.trans ?_ (Tensor.transpose_get_gather (t := x.reshape dims) hperm hidx.length_eq).symm
    exact congrArg (fun n => x.get (unravel x.shape n)) hview

end

end QnnEp.Tensors
