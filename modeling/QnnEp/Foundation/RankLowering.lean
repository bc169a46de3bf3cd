import QnnEp.Foundation.Regrouping

namespace QnnEp.Tensors
open List

theorem perm_range_of_nodup {xs : List Nat} {n : Nat} (hnodup : xs.Nodup) (hlen : xs.length = n)
    (hlt : ∀ x ∈ xs, x < n) : xs.Perm (List.range n) := by
  have hsub : xs.Subperm (List.range n) :=
    subperm_of_subset hnodup fun x hx => mem_range.mpr (hlt x hx)
  exact hsub.perm_of_length_le (by rw [length_range,hlen])

section
variable {R : Type} {x : Tensor R} {dims perm out : List Nat} {unit : Nat}

def lowered (removed v : Nat) : Nat := if removed < v then v - 1 else v

theorem filter_eraseIdx {p : Nat → Bool} {xs : List Nat} {i y : Nat} (hi : xs[i]? = some y)
    (hp : p y = false) : (xs.eraseIdx i).filter p = xs.filter p := by
  induction xs generalizing i with
  | nil => cases hi
  | cons z zs ih =>
    cases i with
    | zero =>
      obtain rfl := Option.some.inj hi
      rw [eraseIdx_cons_zero,filter_cons_of_neg (by rw [hp]; decide)]
    | succ i =>
      rw [eraseIdx_cons_succ,filter_cons,filter_cons,ih hi]

def squeezeGroups (rank unit : Nat) : List (List Nat) := ((List.range rank).eraseIdx unit).map fun axis => [axis]

theorem flatten_singletons (xs : List Nat) : (xs.map fun axis => [axis]).flatten = xs := by
  induction xs with
  | nil => rfl
  | cons x xs ih => rw [map_cons,flatten_cons,ih,singleton_append]

theorem range_eraseIdx_getElem? {rank unit v : Nat} (hv : v < rank) (hne : v ≠ unit) :
    ((List.range rank).eraseIdx unit)[lowered unit v]? = some v := by
  unfold lowered
  rw [List.getElem?_eraseIdx]
  split_ifs with hlt hlow hlow
  · omega
  · rw [List.getElem?_range (by omega)]
    congr 1
    omega
  · exact List.getElem?_range hv
  · omega

theorem length_squeezeGroups {rank : Nat} (h : unit < rank) : (squeezeGroups rank unit).length = rank - 1 := by
  rw [squeezeGroups,length_map,length_eraseIdx_of_lt (by rwa [length_range]),length_range]

theorem squeezeGroups_getD {rank v : Nat} (hv : v < rank) (hne : v ≠ unit) :
    (squeezeGroups rank unit).getD (lowered unit v) [] = [v] := by
  rw [squeezeGroups,getD_eq_getElem?_getD,List.getElem?_map,range_eraseIdx_getElem? hv hne]
  rfl

theorem groupSizes_singletons (dims axes : List Nat) :
    groupSizes dims (axes.map fun axis => [axis]) = gather axes dims := by
  rw [groupSizes,map_map,gather]
  exact map_congr_left fun axis _ => Nat.mul_one _

theorem gather_eraseIdx (axes dims : List Nat) (i : Nat) :
    gather (axes.eraseIdx i) dims = (gather axes dims).eraseIdx i := (eraseIdx_map ..).symm

theorem lowered_injective {removed v w : Nat} (hv : v ≠ removed) (hw : w ≠ removed)
    (h : lowered removed v = lowered removed w) : v = w := by
  unfold lowered at h
  split_ifs at h <;> omega

theorem lowered_lt {removed v n : Nat} (hv : v < n) (hne : v ≠ removed) (hremoved : removed < n) :
    lowered removed v < n - 1 := by
  unfold lowered
  split_ifs <;> omega

theorem mem_eraseIdx_perm {n i removed : Nat} (hperm : perm.Perm (List.range n))
    (hi : perm[i]? = some removed) : ∀ v ∈ perm.eraseIdx i, v < n ∧ v ≠ removed := by
  have hnodup : perm.Nodup := hperm.nodup_iff.mpr nodup_range
  obtain ⟨hlt,hget⟩ := List.getElem?_eq_some_iff.mp hi
  intro v hv
  obtain ⟨j,hj,hne,rfl⟩ := mem_eraseIdx_iff_getElem.mp hv
  refine ⟨mem_range.mp (hperm.mem_iff.mp (getElem_mem hj)),fun heq => hne ?_⟩
  exact (hnodup.getElem_inj_iff).mp (heq.trans hget.symm)

theorem lowered_perm {n i removed : Nat} (hperm : perm.Perm (List.range n))
    (hi : perm[i]? = some removed) :
    ((perm.eraseIdx i).map (lowered removed)).Perm (List.range (n - 1)) := by
  have hlen : perm.length = n := by simpa using hperm.length_eq
  have hnodup : perm.Nodup := hperm.nodup_iff.mpr nodup_range
  have hmem := mem_eraseIdx_perm hperm hi
  have hremoved : removed < n := mem_range.mp (hperm.mem_iff.mp (mem_of_getElem? hi))
  refine perm_range_of_nodup ?_ ?_ ?_
  · refine List.Nodup.map_on (fun v hv w hw heq => ?_) (hnodup.sublist (eraseIdx_sublist _ _))
    exact lowered_injective (hmem v hv).2 (hmem w hw).2 heq
  · rw [length_map,length_eraseIdx_of_lt (List.getElem?_eq_some_iff.mp hi).1,hlen]
  · intro v hv
    obtain ⟨w,hw,rfl⟩ := mem_map.mp hv
    exact lowered_lt (hmem w hw).1 (hmem w hw).2 hremoved

theorem mem_squeezeGroups {rank : Nat} :
    ∀ axes ∈ squeezeGroups rank unit, ∀ axis ∈ axes, axis < rank := by
  intro axes haxes axis haxis
  obtain ⟨v,hv,rfl⟩ := mem_map.mp haxes
  obtain rfl := mem_singleton.mp haxis
  exact mem_range.mp ((eraseIdx_sublist _ _).subset hv)

theorem groupSizes_squeezeGroups (dims : List Nat) (unit : Nat) :
    groupSizes dims (squeezeGroups dims.length unit) = dims.eraseIdx unit := by
  rw [squeezeGroups,groupSizes_singletons,gather_eraseIdx,gather_range]

theorem nonUnit_of_unit (hunit : dims[unit]? = some 1) : nonUnit dims unit = false := by
  rw [nonUnit,getD_eq_getElem?_getD,hunit]
  rfl

theorem filter_squeezeGroups (hunit : dims[unit]? = some 1) :
    (squeezeGroups dims.length unit).flatten.filter (nonUnit dims) =
      (List.range dims.length).filter (nonUnit dims) := by
  have hlt : unit < dims.length := (List.getElem?_eq_some_iff.mp hunit).1
  rw [squeezeGroups,flatten_singletons,
    filter_eraseIdx (List.getElem?_range hlt) (nonUnit_of_unit hunit)]

theorem squeezed_groups {rank : Nat} (hperm : perm.Perm (List.range rank))
    (hfixed : perm[unit]? = some unit) :
    ((perm.eraseIdx unit).map (lowered unit)).map (fun k => (squeezeGroups rank unit).getD k []) =
      (perm.eraseIdx unit).map fun axis => [axis] := by
  have hmem := mem_eraseIdx_perm hperm hfixed
  rw [map_map]
  exact map_congr_left fun v hv => squeezeGroups_getD (hmem v hv).1 (hmem v hv).2

theorem squeezed_perm_lt {rank : Nat} (hperm : perm.Perm (List.range rank))
    (hfixed : perm[unit]? = some unit) :
    ((perm.eraseIdx unit).map (lowered unit)).Perm (List.range (squeezeGroups rank unit).length) := by
  have hlt : unit < rank := mem_range.mp (hperm.mem_iff.mp (mem_of_getElem? hfixed))
  rw [length_squeezeGroups hlt]
  exact lowered_perm hperm hfixed

theorem gather_squeezed (hperm : perm.Perm (List.range dims.length))
    (hfixed : perm[unit]? = some unit) :
    gather ((perm.eraseIdx unit).map (lowered unit)) (dims.eraseIdx unit) =
      (gather perm dims).eraseIdx unit := by
  have hlt : ∀ k ∈ (perm.eraseIdx unit).map (lowered unit),
      k < (squeezeGroups dims.length unit).length :=
    fun k hk => mem_range.mp ((squeezed_perm_lt hperm hfixed).mem_iff.mp hk)
  rw [← groupSizes_squeezeGroups dims,gather_groupSizes hlt,squeezed_groups hperm hfixed,
    groupSizes_singletons,gather_eraseIdx]

theorem squeezed_chain (hperm : perm.Perm (List.range dims.length)) (hunit : dims[unit]? = some 1)
    (hfixed : perm[unit]? = some unit) (hprod : out.prod = dims.prod) :
    (((x.reshape (dims.eraseIdx unit)).transpose ((perm.eraseIdx unit).map (lowered unit))).reshape
      out).Same (((x.reshape dims).transpose perm).reshape out) := by
  rw [← groupSizes_squeezeGroups dims]
  refine regrouped_chain hperm (squeezed_perm_lt hperm hfixed) mem_squeezeGroups
    (filter_squeezeGroups hunit) ?_ hprod
  rw [squeezed_groups hperm hfixed,flatten_singletons,filter_eraseIdx hfixed (nonUnit_of_unit hunit)]

theorem groupIndex_singletons (dims idx axes : List Nat) :
    groupIndex dims idx (axes.map fun axis => [axis]) = gather axes idx := by
  rw [groupIndex,map_map,gather]
  exact map_congr_left fun axis _ => Nat.mul_one _

theorem squeezed_index {idx : List Nat} (hunit : dims[unit]? = some 1) (h : InBounds dims idx) :
    InBounds (dims.eraseIdx unit) (idx.eraseIdx unit) ∧
      ravel (dims.eraseIdx unit) (idx.eraseIdx unit) = ravel dims idx := by
  have hidx : groupIndex dims idx (squeezeGroups dims.length unit) = idx.eraseIdx unit := by
    rw [squeezeGroups,groupIndex_singletons,gather_eraseIdx,← h.length_eq,gather_range]
  rw [← groupSizes_squeezeGroups dims,← hidx]
  exact ⟨groupIndex_inBounds h mem_squeezeGroups,
    ravel_view h mem_squeezeGroups (filter_squeezeGroups hunit)⟩

end

section
variable {R : Type} {x : Tensor R} {dims perm full fullPerm out : List Nat}

inductive Restored (dims perm : List Nat) : List Nat → List Nat → Prop
  | kept : Restored dims perm dims perm
  | batch : Restored dims perm (1 :: dims) (0 :: perm.map fun axis => axis + 1)

theorem Restored.prod (h : Restored dims perm full fullPerm) : full.prod = dims.prod := by
  cases h with
  | kept => rfl
  | batch => rw [prod_cons,Nat.one_mul]

theorem Restored.same (h : Restored dims perm full fullPerm)
    (hperm : fullPerm.Perm (List.range full.length)) (hout : out.prod = dims.prod) :
    (((x.reshape dims).transpose perm).reshape out).Same
      (((x.reshape full).transpose fullPerm).reshape out) := by
  cases h with
  | kept => exact .refl _
  | batch =>
    have hlower : (perm.map fun axis => axis + 1).map (lowered 0) = perm := by
      rw [map_map]
      exact (map_congr_left fun axis _ => rfl).trans (map_id perm)
    have hprod : out.prod = (1 :: dims).prod := by rw [prod_cons,Nat.one_mul,hout]
    have hchain : (((x.reshape dims).transpose
        ((perm.map fun axis => axis + 1).map (lowered 0))).reshape out).Same
          (((x.reshape (1 :: dims)).transpose (0 :: perm.map fun axis => axis + 1)).reshape out) :=
      squeezed_chain hperm rfl rfl hprod
    rw [hlower] at hchain
    exact hchain

theorem restored_ite (wasCollapsed : Bool) (dims perm : List Nat) :
    Restored dims perm (if wasCollapsed then 1 :: dims else dims)
      (if wasCollapsed then 0 :: perm.map (fun axis => axis + 1) else perm) := by
  cases wasCollapsed with
  | false => exact .kept
  | true => exact .batch

end

section
variable {R : Type} {x : Tensor R} {dims perm out : List Nat} {a p : Nat}

def mergeDims (a : Nat) (dims : List Nat) : List Nat :=
  dims.take a ++ dims.getD a 0 * dims.getD (a + 1) 0 :: dims.drop (a + 2)

def mergeGroups (rank a : Nat) : List (List Nat) :=
  (List.range a).map (fun axis => [axis]) ++
    [a,a + 1] :: (List.range' (a + 2) (rank - (a + 2))).map fun axis => [axis]

theorem flatten_mergeGroups {rank : Nat} (h : a + 1 < rank) :
    (mergeGroups rank a).flatten = List.range rank := by
  have hpair : [a,a + 1] = List.range' a 2 := rfl
  have hrest : List.range' a (2 + (rank - (a + 2))) = List.range' (0 + a) (rank - a) := by
    congr 1 <;> omega
  rw [mergeGroups,flatten_append,flatten_cons,flatten_singletons,flatten_singletons,hpair,
    range_eq_range',range_eq_range',range'_append_1,hrest,range'_append_1]
  congr 1
  omega

theorem groupSizes_mergeGroups (h : a + 1 < dims.length) :
    groupSizes dims (mergeGroups dims.length a) = mergeDims a dims := by
  have hfront : groupSizes dims ((List.range a).map fun axis => [axis]) = dims.take a := by
    rw [groupSizes_singletons,range_eq_range',gather_range' (by omega),drop_zero]
  have hback : groupSizes dims ((List.range' (a + 2) (dims.length - (a + 2))).map fun axis => [axis]) =
      dims.drop (a + 2) := by
    rw [groupSizes_singletons,gather_range' (by omega)]
    exact take_of_length_le (by rw [length_drop])
  have hpair : (gather [a,a + 1] dims).prod = dims.getD a 0 * dims.getD (a + 1) 0 := by
    simp [gather]
  rw [mergeDims,← hfront,← hback,← hpair,mergeGroups,groupSizes,map_append]
  rfl

theorem mergeGroups_getD {rank v : Nat} (hv : v < rank) (hne : v ≠ a + 1) (ha : a + 1 < rank) :
    (mergeGroups rank a).getD (lowered (a + 1) v) [] = if v = a then [a,a + 1] else [v] := by
  have hlen : ((List.range a).map fun axis => [axis]).length = a := by
    rw [length_map,length_range]
  unfold mergeGroups lowered
  rcases Nat.lt_trichotomy v a with hlt | rfl | hgt
  · rw [if_neg (by omega),if_neg (by omega),getD_append _ _ _ _ (by rwa [hlen])]
    simp [hlt]
  · rw [if_neg (by omega),if_pos rfl,getD_append_right _ _ _ _ (by rw [hlen]),hlen,Nat.sub_self,
      getD_cons_zero]
  · have hsucc : v - 1 - a = (v - (a + 2)) + 1 := by omega
    have hin : v - (a + 2) < rank - (a + 2) := by omega
    have hback : a + 2 + (v - (a + 2)) = v := by omega
    rw [if_pos (by omega),if_neg (by omega),getD_append_right _ _ _ _ (by rw [hlen]; omega),hlen,
      hsucc,getD_cons_succ]
    simp [hin,hback]

theorem split_adjacent (hp : perm[p]? = some a) (hp' : perm[p + 1]? = some (a + 1)) :
    perm = perm.take p ++ a :: (a + 1) :: perm.drop (p + 2) ∧
      perm.eraseIdx (p + 1) = perm.take p ++ a :: perm.drop (p + 2) := by
  obtain ⟨hlt,hget⟩ := List.getElem?_eq_some_iff.mp hp
  obtain ⟨hlt',hget'⟩ := List.getElem?_eq_some_iff.mp hp'
  refine ⟨?_,?_⟩
  · conv_lhs => rw [← take_append_drop p perm,drop_eq_getElem_cons hlt,
      drop_eq_getElem_cons hlt',hget,hget']
  · rw [eraseIdx_eq_take_drop_succ,take_succ_eq_append_getElem hlt,hget,append_assoc]
    rfl

theorem flatten_pair {pre post : List Nat} (hpre : a ∉ pre) (hpost : a ∉ post) :
    ((pre ++ a :: post).map fun v => if v = a then [a,a + 1] else [v]).flatten =
      pre ++ a :: (a + 1) :: post := by
  have hsingle {vs : List Nat} (h : a ∉ vs) :
      (vs.map fun v => if v = a then [a,a + 1] else [v]).flatten = vs := by
    refine Eq.trans (congrArg _ (map_congr_left fun v hv => ?_)) (flatten_singletons vs)
    have hne : v ≠ a := fun heq => h (heq ▸ hv)
    exact if_neg hne
  rw [map_append,map_cons,flatten_append,flatten_cons,hsingle hpre,hsingle hpost,
    if_pos rfl]
  rfl

theorem length_mergeGroups {rank : Nat} (h : a + 1 < rank) : (mergeGroups rank a).length = rank - 1 := by
  simp [mergeGroups]
  omega

theorem merged_groups {rank : Nat} (hperm : perm.Perm (List.range rank)) (hp' : perm[p + 1]? = some (a + 1)) :
    ((perm.eraseIdx (p + 1)).map (lowered (a + 1))).map (fun k => (mergeGroups rank a).getD k []) =
      (perm.eraseIdx (p + 1)).map fun v => if v = a then [a,a + 1] else [v] := by
  have ha : a + 1 < rank := mem_range.mp (hperm.mem_iff.mp (mem_of_getElem? hp'))
  have hmem := mem_eraseIdx_perm hperm hp'
  rw [map_map]
  exact map_congr_left fun v hv => mergeGroups_getD (hmem v hv).1 (hmem v hv).2 ha

theorem not_mem_around (hnodup : perm.Nodup) (hp : perm[p]? = some a) (hp' : perm[p + 1]? = some (a + 1)) :
    a ∉ perm.take p ∧ a ∉ perm.drop (p + 2) := by
  rw [(split_adjacent hp hp').1] at hnodup
  have hparts := nodup_append.mp hnodup
  refine ⟨fun hin => hparts.2.2 a hin a (by simp) rfl,fun hin => ?_⟩
  exact (nodup_cons.mp hparts.2.1).1 (mem_cons_of_mem _ hin)

theorem merged_chain (hperm : perm.Perm (List.range dims.length)) (hp : perm[p]? = some a)
    (hp' : perm[p + 1]? = some (a + 1)) (hprod : out.prod = dims.prod) :
    (((x.reshape (mergeDims a dims)).transpose ((perm.eraseIdx (p + 1)).map (lowered (a + 1)))).reshape
      out).Same (((x.reshape dims).transpose perm).reshape out) := by
  have hnodup : perm.Nodup := hperm.nodup_iff.mpr nodup_range
  have ha : a + 1 < dims.length := mem_range.mp (hperm.mem_iff.mp (mem_of_getElem? hp'))
  obtain ⟨hsplit,herase⟩ := split_adjacent hp hp'
  obtain ⟨hpre,hpost⟩ := not_mem_around hnodup hp hp'
  rw [← groupSizes_mergeGroups ha]
  refine regrouped_chain hperm ?_ ?_ ?_ ?_ hprod
  · rw [length_mergeGroups ha]
    exact lowered_perm hperm hp'
  · intro axes haxes axis haxis
    have hin := mem_flatten_of_mem haxes haxis
    rw [flatten_mergeGroups ha] at hin
    exact mem_range.mp hin
  · rw [flatten_mergeGroups ha]
  · rw [merged_groups hperm hp',herase,flatten_pair hpre hpost,← hsplit]

theorem gather_merged (hperm : perm.Perm (List.range dims.length)) (hp : perm[p]? = some a)
    (hp' : perm[p + 1]? = some (a + 1)) :
    gather ((perm.eraseIdx (p + 1)).map (lowered (a + 1))) (mergeDims a dims) =
      mergeDims p (gather perm dims) := by
  have hnodup : perm.Nodup := hperm.nodup_iff.mpr nodup_range
  have ha : a + 1 < dims.length := mem_range.mp (hperm.mem_iff.mp (mem_of_getElem? hp'))
  have hlt : ∀ k ∈ (perm.eraseIdx (p + 1)).map (lowered (a + 1)), k < (mergeGroups dims.length a).length := by
    intro k hk
    rw [length_mergeGroups ha]
    exact mem_range.mp ((lowered_perm hperm hp').mem_iff.mp hk)
  obtain ⟨hpre,hpost⟩ := not_mem_around hnodup hp hp'
  have hsingle {vs : List Nat} (h : a ∉ vs) :
      groupSizes dims (vs.map fun v => if v = a then [a,a + 1] else [v]) = gather vs dims := by
    rw [← groupSizes_singletons]
    refine congrArg _ (map_congr_left fun v hv => ?_)
    have hne : v ≠ a := fun heq => h (heq ▸ hv)
    exact if_neg hne
  have hfirst : (gather perm dims).getD p 0 = dims.getD a 0 := gather_getD_of_getElem? hp dims
  have hsecond : (gather perm dims).getD (p + 1) 0 = dims.getD (a + 1) 0 :=
    gather_getD_of_getElem? hp' dims
  have hpair : (gather [a,a + 1] dims).prod = dims.getD a 0 * dims.getD (a + 1) 0 := by
    simp [gather]
  rw [← groupSizes_mergeGroups ha,gather_groupSizes hlt,merged_groups hperm hp',
    (split_adjacent hp hp').2,map_append,map_cons,if_pos rfl,mergeDims,hfirst,hsecond,← hpair]
  have happend (gs : List (List Nat)) (g : List Nat) (hs : List (List Nat)) :
      groupSizes dims (gs ++ g :: hs) = groupSizes dims gs ++ (gather g dims).prod :: groupSizes dims hs :=
    map_append
  have htake : gather (perm.take p) dims = (gather perm dims).take p := map_take ..
  have hdrop : gather (perm.drop (p + 2)) dims = (gather perm dims).drop (p + 2) := map_drop ..
  rw [happend,hsingle hpre,hsingle hpost,htake,hdrop]

theorem merged_leading_index {d₀ d₁ i₀ i₁ : Nat} {ds is : List Nat}
    (h : InBounds (d₀ :: d₁ :: ds) (i₀ :: i₁ :: is)) :
    InBounds (d₀ * d₁ :: ds) ((i₀ * d₁ + i₁) :: is) ∧
      ravel (d₀ * d₁ :: ds) ((i₀ * d₁ + i₁) :: is) = ravel (d₀ :: d₁ :: ds) (i₀ :: i₁ :: is) := by
  obtain _ | ⟨h₀,_ | ⟨h₁,hs⟩⟩ := h
  refine ⟨.cons ?_ hs,?_⟩
  · exact Scatter.index_lt h₀ h₁
  · simp only [ravel,prod_cons]
    ring

end

end QnnEp.Tensors
