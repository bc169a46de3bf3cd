import QnnEp.Foundation.Permuted
import QnnEp.Foundation.Reduction

namespace QnnEp.Tensors
open List
variable {shape idx perm' : List Nat} {n : Nat}

def sizes (digits : List (Nat × Nat)) : List Nat := digits.map Prod.fst

def address : List (Nat × Nat) → Nat
  | [] => 0
  | d :: ds => d.2 * (sizes ds).prod + address ds

@[simp] theorem sizes_cons (d : Nat × Nat) (ds : List (Nat × Nat)) : sizes (d :: ds) = d.1 :: sizes ds := rfl

@[simp] theorem sizes_append (ds es : List (Nat × Nat)) : sizes (ds ++ es) = sizes ds ++ sizes es :=
  map_append

theorem sizes_zip (h : idx.length = shape.length) : sizes (shape.zip idx) = shape :=
  map_fst_zip (Nat.le_of_eq h.symm)

theorem ravel_eq_address (h : idx.length = shape.length) : ravel shape idx = address (shape.zip idx) := by
  induction shape generalizing idx with
  | nil => rfl
  | cons d ds ih =>
    cases idx with
    | nil => cases h
    | cons i is =>
      rw [ravel,zip_cons_cons,address,ih (Nat.succ.inj h),sizes_zip (Nat.succ.inj h)]

theorem address_append (ds es : List (Nat × Nat)) :
    address (ds ++ es) = address ds * (sizes es).prod + address es := by
  induction ds with
  | nil => simp [address]
  | cons d ds ih =>
    rw [cons_append,address,address,ih,sizes_append,prod_append]
    ring

def Bounded (digits : List (Nat × Nat)) : Prop := ∀ d ∈ digits, d.2 < d.1

theorem bounded_zip (h : InBounds shape idx) : Bounded (shape.zip idx) := by
  induction h with
  | nil => exact fun _ hd => absurd hd not_mem_nil
  | cons hi _ ih =>
    intro d hd
    rcases mem_cons.mp hd with rfl | hd
    · exact hi
    · exact ih d hd

def proper (digits : List (Nat × Nat)) : List (Nat × Nat) := digits.filter fun d => d.1 ≠ 1

theorem prod_sizes_proper (digits : List (Nat × Nat)) : (sizes (proper digits)).prod = (sizes digits).prod := by
  induction digits with
  | nil => rfl
  | cons d ds ih =>
    by_cases hd : d.1 = 1
    · have hskip : proper (d :: ds) = proper ds := filter_cons_of_neg (by simpa using hd)
      rw [hskip,ih,sizes_cons,prod_cons,hd,Nat.one_mul]
    · have hkeep : proper (d :: ds) = d :: proper ds := filter_cons_of_pos (by simpa using hd)
      rw [hkeep,sizes_cons,sizes_cons,prod_cons,prod_cons,ih]

theorem address_proper {digits : List (Nat × Nat)} (h : Bounded digits) :
    address (proper digits) = address digits := by
  induction digits with
  | nil => rfl
  | cons d ds ih =>
    have hrest := ih fun e he => h e (mem_cons_of_mem d he)
    by_cases hd : d.1 = 1
    · have hskip : proper (d :: ds) = proper ds := filter_cons_of_neg (by simpa using hd)
      have hzero : d.2 = 0 := by
        have := h d mem_cons_self
        omega
      rw [hskip,hrest,address,hzero,Nat.zero_mul,Nat.zero_add]
    · have hkeep : proper (d :: ds) = d :: proper ds := filter_cons_of_pos (by simpa using hd)
      rw [hkeep,address,address,hrest,prod_sizes_proper]

def merged (groups : List (List (Nat × Nat))) : List (Nat × Nat) :=
  groups.map fun g => ((sizes g).prod,address g)

theorem prod_sizes_merged (groups : List (List (Nat × Nat))) :
    (sizes (merged groups)).prod = (sizes groups.flatten).prod := by
  induction groups with
  | nil => rfl
  | cons g gs ih =>
    have hcons : merged (g :: gs) = ((sizes g).prod,address g) :: merged gs := rfl
    rw [hcons,sizes_cons,prod_cons,ih,flatten_cons,sizes_append,prod_append]

theorem address_merged (groups : List (List (Nat × Nat))) :
    address (merged groups) = address groups.flatten := by
  induction groups with
  | nil => rfl
  | cons g gs ih =>
    have hcons : merged (g :: gs) = ((sizes g).prod,address g) :: merged gs := rfl
    rw [hcons,address,ih,prod_sizes_merged,flatten_cons,address_append]

section
variable {perm shape idx : List Nat}

def digitAt (shape idx : List Nat) (axis : Nat) : Nat × Nat := (shape.getD axis 0,idx.getD axis 0)

theorem zip_gather (perm shape idx : List Nat) :
    (gather perm shape).zip (gather perm idx) = perm.map (digitAt shape idx) := by
  rw [gather,gather,zip_map']
  rfl

theorem zip_eq_digits (h : idx.length = shape.length) :
    shape.zip idx = (List.range shape.length).map (digitAt shape idx) := by
  rw [← zip_gather,gather_range,← h,gather_range]

theorem proper_digits (axes : List Nat) (shape idx : List Nat) :
    proper (axes.map (digitAt shape idx)) =
      (axes.filter fun axis => shape.getD axis 0 ≠ 1).map (digitAt shape idx) := by
  rw [proper,filter_map]
  rfl

theorem filter_range_of_sorted (p : Nat → Bool) (hperm : perm.Perm (List.range n))
    (hsorted : (perm.filter p).Pairwise (· < ·)) : perm.filter p = (List.range n).filter p := by
  refine (hperm.filter p).eq_of_pairwise (fun a b _ _ hab hba => absurd hab (Nat.lt_asymm hba)) hsorted ?_
  exact pairwise_lt_range.filter p

theorem ravel_gather_of_sorted (hperm : perm.Perm (List.range shape.length))
    (hsorted : (perm.filter fun axis => shape.getD axis 0 ≠ 1).Pairwise (· < ·))
    (h : InBounds shape idx) : ravel (gather perm shape) (gather perm idx) = ravel shape idx := by
  have hlen := h.length_eq
  have hbounded := bounded_zip (inBounds_gather hperm h)
  rw [zip_gather] at hbounded
  calc ravel (gather perm shape) (gather perm idx)
      = address (perm.map (digitAt shape idx)) := by
        rw [ravel_eq_address (by rw [length_gather,length_gather]),zip_gather]
    _ = address (proper (perm.map (digitAt shape idx))) := (address_proper hbounded).symm
    _ = address (proper (shape.zip idx)) := by
        rw [proper_digits,filter_range_of_sorted _ hperm hsorted,zip_eq_digits hlen,proper_digits]
    _ = ravel shape idx := by rw [address_proper (bounded_zip h),ravel_eq_address hlen]

theorem gather_gather_invert {xs : List Nat} (hperm : perm.Perm (List.range n)) (hx : xs.length = n) :
    gather perm (gather (invert perm) xs) = xs := by
  have hlen : perm.length = n := by simpa using hperm.length_eq
  have hnodup : perm.Nodup := hperm.nodup_iff.mpr nodup_range
  refine ext_getElem (by rw [length_gather,hlen,hx]) fun j hj hj' => ?_
  have hjp : j < perm.length := by omega
  have haxis : perm[j] < perm.length := by
    rw [hlen]
    exact mem_range.mp (hperm.mem_iff.mp (getElem_mem hjp))
  have hentry : (gather perm (gather (invert perm) xs)).getD j 0 = xs.getD j 0 := by
    rw [gather_getD _ hjp,getD_eq_getElem _ _ hjp,gather_getD _ (by rwa [length_invert]),
      invert_getD haxis,hnodup.idxOf_getElem j hjp]
  rwa [getD_eq_getElem _ _ hj,getD_eq_getElem _ _ hj'] at hentry

theorem gather_invert_eq (perm xs : List Nat) :
    gather (invert perm) xs = (List.range perm.length).map fun axis => xs.getD (perm.idxOf axis) 0 := by
  rw [gather,invert,map_map]
  rfl

theorem invert_perm (hperm : perm.Perm (List.range n)) : (invert perm).Perm (List.range n) := by
  have hlen : perm.length = n := by simpa using hperm.length_eq
  have hmem {axis : Nat} (haxis : axis < perm.length) : axis ∈ perm :=
    hperm.mem_iff.mpr (mem_range.mpr (hlen ▸ haxis))
  refine (perm_ext_iff_of_nodup ?_ nodup_range).mpr fun axis => ?_
  · refine List.Nodup.map_on (fun a ha b hb heq => ?_) nodup_range
    exact idxOf_inj (hmem (mem_range.mp ha)) |>.mp heq
  · rw [mem_range,invert,mem_map]
    constructor
    · rintro ⟨a,ha,rfl⟩
      rw [← hlen]
      exact idxOf_lt_length_of_mem (hmem (mem_range.mp ha))
    · intro haxis
      have haxis' : axis < perm.length := by omega
      refine ⟨perm[axis],?_,(hperm.nodup_iff.mpr nodup_range).idxOf_getElem axis haxis'⟩
      rw [hlen]
      exact hperm.mem_iff.mp (getElem_mem haxis')

theorem exists_gather {j : List Nat} (hperm : perm.Perm (List.range shape.length))
    (h : InBounds (gather perm shape) j) : ∃ idx, InBounds shape idx ∧ gather perm idx = j := by
  have hperm' := invert_perm hperm
  have hlen : (gather perm shape).length = shape.length := by
    rw [length_gather,hperm.length_eq,length_range]
  refine ⟨gather (invert perm) j,?_,gather_gather_invert hperm (h.length_eq.trans hlen)⟩
  have hin := inBounds_gather (hlen ▸ hperm') h
  rwa [gather_invert hperm rfl] at hin

end

section
variable {R : Type} {perm : List Nat} {s t : Tensor R}

theorem Tensor.transpose_get_gather (hperm : perm.Perm (List.range t.shape.length))
    (h : idx.length = t.shape.length) : (t.transpose perm).get (gather perm idx) = t.get idx := by
  have hlen : perm.length = t.shape.length := by simpa using hperm.length_eq
  change t.get ((List.range t.shape.length).map fun axis => (gather perm idx).getD (perm.idxOf axis) 0) = _
  rw [← hlen,← gather_invert_eq,gather_invert hperm h]

theorem Tensor.same_transpose (hperm : perm.Perm (List.range t.shape.length))
    (hshape : s.shape = gather perm t.shape)
    (hget : ∀ idx, InBounds t.shape idx → s.get (gather perm idx) = t.get idx) :
    s.Same (t.transpose perm) := by
  refine ⟨hshape,fun j hj => ?_⟩
  obtain ⟨idx,hidx,rfl⟩ := exists_gather hperm hj
  rw [hget idx hidx,Tensor.transpose_get_gather hperm hidx.length_eq]

theorem Tensor.Same.transpose (h : s.Same t) (hperm : perm.Perm (List.range t.shape.length)) :
    (s.transpose perm).Same (t.transpose perm) := by
  refine Tensor.same_transpose hperm (congrArg (gather perm) h.1) fun idx hidx => ?_
  rw [Tensor.transpose_get_gather (h.1 ▸ hperm) (h.1 ▸ hidx.length_eq)]
  exact h.2 idx hidx

theorem Tensor.Same.refl (t : Tensor R) : t.Same t := ⟨rfl,fun _ _ => rfl⟩

theorem reshape_same_transpose (hperm : perm.Perm (List.range t.shape.length))
    (hsorted : (perm.filter fun axis => t.shape.getD axis 0 ≠ 1).Pairwise (· < ·)) :
    (t.reshape (gather perm t.shape)).Same (t.transpose perm) := by
  refine Tensor.same_transpose hperm rfl fun idx hidx => ?_
  exact Tensor.reshape_get hidx (ravel_gather_of_sorted hperm hsorted hidx)

theorem gather_gather (hperm' : perm'.Perm (List.range n)) (hlen : perm.length = n) (xs : List Nat) :
    gather perm' (gather perm xs) = gather (gather perm' perm) xs := by
  refine ext_getElem (by simp [gather]) fun i hi hi' => ?_
  have hi' : i < perm'.length := by simpa [gather] using hi'
  have haxis : perm'[i] < perm.length := by
    rw [hlen]
    exact mem_range.mp (hperm'.mem_iff.mp (getElem_mem hi'))
  simp [gather,haxis]

theorem gather_perm (hperm : perm.Perm (List.range n)) (hperm' : perm'.Perm (List.range n)) :
    (gather perm' perm).Perm (List.range n) := by
  have hlen : perm.length = n := by simpa using hperm.length_eq
  have h := hperm'.map fun axis => perm.getD axis 0
  have hall : ((List.range n).map fun axis => perm.getD axis 0) = perm := hlen ▸ gather_range perm
  rw [hall] at h
  exact h.trans hperm

theorem transpose_transpose (hperm : perm.Perm (List.range t.shape.length))
    (hperm' : perm'.Perm (List.range t.shape.length)) :
    ((t.transpose perm).transpose perm').Same (t.transpose (gather perm' perm)) := by
  have hlen : perm.length = t.shape.length := by simpa using hperm.length_eq
  have hrank : (t.transpose perm).shape.length = t.shape.length := (length_gather perm t.shape).trans hlen
  refine Tensor.same_transpose (gather_perm hperm hperm') (gather_gather hperm' hlen t.shape) ?_
  intro idx hidx
  rw [← gather_gather hperm' hlen idx,
    Tensor.transpose_get_gather (hrank.symm ▸ hperm') ((length_gather perm idx).trans (hlen.trans hrank.symm)),
    Tensor.transpose_get_gather hperm hidx.length_eq]

end

section
variable {perm idx : List Nat} {axis k v : Nat}

theorem inBounds_zeros (h : 0 ∉ shape) : InBounds shape (shape.map fun _ => 0) := by
  induction shape with
  | nil => exact .nil
  | cons d ds ih =>
    rw [mem_cons,not_or] at h
    exact .cons (Nat.pos_of_ne_zero fun hd => h.1 hd.symm) (ih h.2)

theorem inBounds_set (h : InBounds shape idx) (hv : v < shape.getD axis 0) :
    InBounds shape (idx.set axis v) := by
  induction h generalizing axis with
  | nil => exact .nil
  | @cons i d is ds hi hrest ih =>
    cases axis with
    | zero => exact .cons hv hrest
    | succ axis => exact .cons hi (ih hv)

theorem gather_set (hnodup : perm.Nodup) (hk : perm[k]? = some axis) (haxis : axis < idx.length) :
    gather perm (idx.set axis v) = (gather perm idx).set k v := by
  obtain ⟨hlt,hget⟩ := List.getElem?_eq_some_iff.mp hk
  refine ext_getElem (by simp [gather]) fun j hj hj' => ?_
  have hj : j < perm.length := by simpa [gather] using hj
  by_cases hjk : k = j
  · subst hjk
    simp [gather,hget,haxis]
  · have hne : axis ≠ perm[j] := fun heq => hjk ((hnodup.getElem_inj_iff).mp (hget.trans heq))
    simp [gather,hjk,hne]

theorem gather_getD_of_getElem? (hk : perm[k]? = some axis) (xs : List Nat) :
    (gather perm xs).getD k 0 = xs.getD axis 0 := by
  obtain ⟨hlt,hget⟩ := List.getElem?_eq_some_iff.mp hk
  rw [gather_getD xs hlt,getD_eq_getElem _ _ hlt,hget]

end

section
variable {R : Type} {s t : Tensor R} {perm : List Nat} {axis k : Nat}

def laneMap (f : List R → Nat → R) (axis : Nat) (t : Tensor R) : Tensor R where
  shape := t.shape
  get idx := f ((List.range (t.shape.getD axis 0)).map fun i => t.get (idx.set axis i)) (idx.getD axis 0)

def axisGather (σ : Nat → Nat) (axis : Nat) (t : Tensor R) : Tensor R where
  shape := t.shape
  get idx := t.get (idx.set axis (σ (idx.getD axis 0)))

theorem Tensor.Same.laneMap (h : s.Same t) (f : List R → Nat → R) (axis : Nat) :
    (laneMap f axis s).Same (laneMap f axis t) := by
  refine ⟨h.1,fun idx hidx => ?_⟩
  have hlane : (List.range (s.shape.getD axis 0)).map (fun i => s.get (idx.set axis i)) =
      (List.range (t.shape.getD axis 0)).map fun i => t.get (idx.set axis i) := by
    rw [h.1]
    exact map_congr_left fun i hi => h.2 _ (inBounds_set hidx (mem_range.mp hi))
  exact congrArg (f · (idx.getD axis 0)) hlane

theorem laneMap_transpose (f : List R → Nat → R) (hperm : perm.Perm (List.range t.shape.length))
    (hk : perm[k]? = some axis) :
    (laneMap f k (t.transpose perm)).Same ((laneMap f axis t).transpose perm) := by
  have haxis : axis < t.shape.length := mem_range.mp (hperm.mem_iff.mp (mem_of_getElem? hk))
  refine Tensor.same_transpose hperm rfl fun idx hidx => ?_
  have hlane : (List.range ((t.transpose perm).shape.getD k 0)).map
      (fun i => (t.transpose perm).get ((gather perm idx).set k i)) =
      (List.range (t.shape.getD axis 0)).map fun i => t.get (idx.set axis i) := by
    rw [show (t.transpose perm).shape.getD k 0 = t.shape.getD axis 0 from
      gather_getD_of_getElem? hk t.shape]
    refine map_congr_left fun i _ => ?_
    rw [← gather_set (hperm.nodup_iff.mpr nodup_range) hk (hidx.length_eq ▸ haxis)]
    exact Tensor.transpose_get_gather hperm (length_set.trans hidx.length_eq)
  change f _ ((gather perm idx).getD k 0) = f _ (idx.getD axis 0)
  rw [hlane,gather_getD_of_getElem? hk]

theorem axisGather_transpose (σ : Nat → Nat) (hperm : perm.Perm (List.range t.shape.length))
    (hk : perm[k]? = some axis) :
    (axisGather σ k (t.transpose perm)).Same ((axisGather σ axis t).transpose perm) := by
  have haxis : axis < t.shape.length := mem_range.mp (hperm.mem_iff.mp (mem_of_getElem? hk))
  refine Tensor.same_transpose hperm rfl fun idx hidx => ?_
  change (t.transpose perm).get ((gather perm idx).set k (σ ((gather perm idx).getD k 0))) = _
  rw [gather_getD_of_getElem? hk,
    ← gather_set (hperm.nodup_iff.mpr nodup_range) hk (hidx.length_eq ▸ haxis)]
  exact Tensor.transpose_get_gather hperm (length_set.trans hidx.length_eq)

theorem transpose_range (t : Tensor R) : (t.transpose (List.range t.shape.length)).Same t := by
  refine (Tensor.same_transpose (.refl _) (gather_range t.shape).symm fun idx hidx => ?_).symm
  rw [← hidx.length_eq,gather_range]

theorem transpose_cancel (hperm : perm.Perm (List.range t.shape.length))
    (hperm' : perm'.Perm (List.range t.shape.length))
    (hcancel : gather perm' perm = List.range t.shape.length) : ((t.transpose perm).transpose perm').Same t :=
  (transpose_transpose hperm hperm').trans (hcancel ▸ transpose_range t)

end

end QnnEp.Tensors
