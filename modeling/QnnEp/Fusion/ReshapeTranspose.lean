import QnnEp.Foundation.Regrouping
import QnnEp.Model.Shapes

namespace QnnEp.ReshapeTranspose
open List Reading Shapes Tensors
variable {used targets : List Nat} {perm : Option (List Nat)}

def isReshapePermutable (inputShape outputShape : List Int) : Bool :=
  inputShape.length == outputShape.length && !inputShape.any (· < 0) && !outputShape.any (· < 0) &&
    inputShape.filter (· ≠ 1) == outputShape.filter (· ≠ 1)

def fillPerm (inputShape : List Int) : List Int → List Nat → List Int
  | [], _ => []
  | target :: targets, used =>
    match (List.range inputShape.length).find? fun j => j ∉ used ∧ inputShape.getD j 0 = target with
    | some j => (j : Int) :: fillPerm inputShape targets (j :: used)
    | none => -1 :: fillPerm inputShape targets used

def computeReshapePerm (inputShape outputShape : List Int) : List Int := fillPerm inputShape outputShape []

def computeFusedPerm (inputShape outputShape perm : Option (List Int)) : Option (List Int) :=
  match inputShape, outputShape with
  | some inputShape, some outputShape =>
    if isReshapePermutable inputShape outputShape then
      let reshapePerm := computeReshapePerm inputShape outputShape
      let rank := reshapePerm.length
      let given := perm.getD []
      let transposePerm := if given.isEmpty then ints (List.range rank).reverse else given
      if transposePerm.length ≠ rank ∨ ∃ t ∈ transposePerm, t < 0 ∨ rank ≤ t.toNat then none
      else some (transposePerm.map fun t => reshapePerm.getD t.toNat 0)
    else none
  | _, _ => none

section
variable {dims : List Nat}

def slots (dims : List Nat) (used : List Nat) : List Nat := (List.range dims.length).filter (· ∉ used)

theorem slots_nil (dims : List Nat) : slots dims [] = List.range dims.length := by
  simp [slots]

theorem slots_cons (dims : List Nat) (j : Nat) (used : List Nat) :
    slots dims (j :: used) = (slots dims used).filter (· ≠ j) := by
  rw [slots,slots,filter_filter]
  refine filter_congr fun k _ => ?_
  simp [not_or]

theorem nodup_slots (dims used : List Nat) : (slots dims used).Nodup := nodup_range.filter _

theorem find?_slots (dims used : List Nat) (target : Nat) :
    (List.range (ints dims).length).find?
      (fun j => j ∉ used ∧ (ints dims).getD j 0 = (target : Int)) =
        (slots dims used).find? fun j => dims.getD j 0 = target := by
  rw [slots,List.find?_filter,length_ints]
  congr 1
  funext j
  rw [ints_getD]
  simp

theorem remove_found {pre post : List Nat} {j : Nat} (hsplit : slots dims used = pre ++ j :: post) :
    slots dims (j :: used) = pre ++ post := by
  have hnodup := nodup_slots dims used
  rw [hsplit] at hnodup
  obtain ⟨_,hpost,hdisjoint⟩ := nodup_append.mp hnodup
  have hpre : pre.filter (· ≠ j) = pre := by
    refine filter_eq_self.mpr fun k hk => ?_
    simpa using hdisjoint k hk j mem_cons_self
  have hrest : post.filter (· ≠ j) = post := by
    refine filter_eq_self.mpr fun k hk => ?_
    have hne : k ≠ j := by
      rintro rfl
      exact (nodup_cons.mp hpost).1 hk
    simpa using hne
  rw [slots_cons,hsplit,filter_append,filter_cons_of_neg (by simp),hpre,hrest]

structure Pending (dims targets used : List Nat) : Prop where
  length : (slots dims used).length = targets.length
  proper : ((slots dims used).filter (nonUnit dims)).map (fun j => dims.getD j 0) =
    targets.filter (· ≠ 1)

structure Filled (dims targets used perm : List Nat) : Prop where
  takes : perm.Perm (slots dims used)
  values : gather perm dims = targets
  proper : perm.filter (nonUnit dims) = (slots dims used).filter (nonUnit dims)

theorem find_unit (h : Pending dims (1 :: targets) used) :
    ∃ j pre post, slots dims used = pre ++ j :: post ∧ dims.getD j 0 = 1 ∧
      (slots dims used).find? (fun j => dims.getD j 0 = 1) = some j ∧
        Pending dims targets (j :: used) := by
  cases hfind : (slots dims used).find? (fun j => dims.getD j 0 = 1) with
  | none =>
    have hall : (slots dims used).filter (nonUnit dims) = slots dims used := by
      refine filter_eq_self.mpr fun j hj => ?_
      have hne := List.find?_eq_none.mp hfind j hj
      exact nonUnit_iff.mpr fun hone => hne (decide_eq_true hone)
    have hproper := congrArg List.length h.proper
    have hle := length_filter_le (· ≠ 1) targets
    rw [hall,length_map,h.length,filter_cons_of_neg (by simp),length_cons] at hproper
    simp only [ne_eq,decide_not] at hle hproper
    omega
  | some j =>
    obtain ⟨hj,pre,post,hsplit,_⟩ := List.find?_eq_some_iff_append.mp hfind
    have hunit : dims.getD j 0 = 1 := of_decide_eq_true hj
    refine ⟨j,pre,post,hsplit,hunit,rfl,?_,?_⟩
    · have hlen := h.length
      rw [hsplit,length_append,length_cons,length_cons] at hlen
      rw [remove_found hsplit,length_append]
      omega
    · have hproper := h.proper
      rw [hsplit,filter_append,filter_cons_of_neg (nonUnit_of_one hunit),
        ← filter_append,filter_cons_of_neg (by simp)] at hproper
      rw [remove_found hsplit,hproper]

theorem find_proper {target : Nat} (htarget : target ≠ 1) (h : Pending dims (target :: targets) used) :
    ∃ j pre post, slots dims used = pre ++ j :: post ∧ dims.getD j 0 = target ∧
      (slots dims used).find? (fun j => dims.getD j 0 = target) = some j ∧
        pre.filter (nonUnit dims) = [] ∧ Pending dims targets (j :: used) := by
  have hproper := h.proper
  rw [filter_cons_of_pos (by simpa using htarget)] at hproper
  obtain ⟨first,rest,hfilter,hvalue,hrest⟩ := map_eq_cons_iff.mp hproper
  have hmem : first ∈ slots dims used := by
    have : first ∈ (slots dims used).filter (nonUnit dims) := hfilter ▸ mem_cons_self
    exact (mem_filter.mp this).1
  cases hfind : (slots dims used).find? (fun j => dims.getD j 0 = target) with
  | none =>
    have := List.find?_eq_none.mp hfind first hmem
    exact absurd (decide_eq_true hvalue) this
  | some j =>
    obtain ⟨hj,pre,post,hsplit,hbefore⟩ := List.find?_eq_some_iff_append.mp hfind
    have hvalue' : dims.getD j 0 = target := of_decide_eq_true hj
    have hkeep : nonUnit dims j = true := nonUnit_iff.mpr (hvalue'.symm ▸ htarget)
    have hpre : pre.filter (nonUnit dims) = [] := by
      rw [hsplit,filter_append] at hfilter
      cases hcase : pre.filter (nonUnit dims) with
      | nil => rfl
      | cons k ks =>
        rw [hcase] at hfilter
        obtain rfl := (List.cons.inj hfilter).1
        have hk : k ∈ pre := (mem_filter.mp (hcase ▸ mem_cons_self)).1
        have hnot := hbefore k hk
        rw [decide_eq_true hvalue] at hnot
        cases hnot
    refine ⟨j,pre,post,hsplit,hvalue',rfl,hpre,?_,?_⟩
    · have hlen := h.length
      rw [hsplit,length_append,length_cons,length_cons] at hlen
      rw [remove_found hsplit,length_append]
      omega
    · rw [hsplit,filter_append,hpre,nil_append,filter_cons_of_pos hkeep] at hfilter
      rw [remove_found hsplit,filter_append,hpre,nil_append,(List.cons.inj hfilter).2,hrest]

theorem fillPerm_spec (h : Pending dims targets used) :
    ∃ perm, fillPerm (ints dims) (ints targets) used = ints perm ∧ Filled dims targets used perm := by
  induction targets generalizing used with
  | nil =>
    have hnone : slots dims used = [] := length_eq_zero_iff.mp h.length
    refine ⟨[],rfl,?_,rfl,?_⟩
    · rw [hnone]
    · rw [hnone]
  | cons target targets ih =>
    by_cases htarget : target = 1
    · subst htarget
      obtain ⟨j,pre,post,hsplit,hunit,hfind,hnext⟩ := find_unit h
      obtain ⟨perm,hfill,hfilled⟩ := ih hnext
      refine ⟨j :: perm,?_,?_,?_,?_⟩
      · rw [ints_cons,fillPerm,find?_slots,hfind]
        exact congrArg (List.cons (j : Int)) hfill
      · rw [hsplit]
        exact (List.Perm.cons j (remove_found hsplit ▸ hfilled.takes)).trans perm_middle.symm
      · exact congrArg₂ List.cons hunit hfilled.values
      · have hproper := hfilled.proper
        rw [remove_found hsplit] at hproper
        rw [filter_cons_of_neg (nonUnit_of_one hunit),hproper,hsplit,filter_append,
          filter_append,filter_cons_of_neg (nonUnit_of_one hunit)]
    · obtain ⟨j,pre,post,hsplit,hvalue,hfind,hpre,hnext⟩ := find_proper htarget h
      obtain ⟨perm,hfill,hfilled⟩ := ih hnext
      have hkeep : nonUnit dims j = true := nonUnit_iff.mpr (hvalue.symm ▸ htarget)
      refine ⟨j :: perm,?_,?_,?_,?_⟩
      · rw [ints_cons,fillPerm,find?_slots,hfind]
        exact congrArg (List.cons (j : Int)) hfill
      · rw [hsplit]
        exact (List.Perm.cons j (remove_found hsplit ▸ hfilled.takes)).trans perm_middle.symm
      · exact congrArg₂ List.cons hvalue hfilled.values
      · have hproper := hfilled.proper
        rw [remove_found hsplit,filter_append,hpre,nil_append] at hproper
        rw [filter_cons_of_pos hkeep,hproper,hsplit,filter_append,hpre,nil_append,
          filter_cons_of_pos hkeep]

variable {outDims : List Nat}

theorem filter_ints (xs : List Nat) : (ints xs).filter (· ≠ 1) = ints (xs.filter (· ≠ 1)) := by
  rw [ints,filter_map]
  refine congrArg _ (filter_congr fun n _ => ?_)
  simp

theorem pending_of_permutable (h : isReshapePermutable (ints dims) (ints outDims) = true) :
    Pending dims outDims [] := by
  simp only [isReshapePermutable,Bool.and_eq_true] at h
  have hlen := eq_of_beq h.1.1.1
  have hproper := eq_of_beq h.2
  rw [length_ints,length_ints] at hlen
  rw [filter_ints,filter_ints] at hproper
  refine ⟨?_,?_⟩
  · rw [slots_nil,length_range,hlen]
  · have hall : ((List.range dims.length).filter (nonUnit dims)).map (fun j => dims.getD j 0) =
        dims.filter (· ≠ 1) := by
      conv_rhs => rw [← gather_range dims,gather,filter_map]
      rfl
    rw [slots_nil,hall]
    exact ints_injective hproper

theorem computeReshapePerm_spec (h : isReshapePermutable (ints dims) (ints outDims) = true) :
    ∃ perm, computeReshapePerm (ints dims) (ints outDims) = ints perm ∧
      perm.Perm (List.range dims.length) ∧ gather perm dims = outDims ∧
        (perm.filter (nonUnit dims)).Pairwise (· < ·) := by
  obtain ⟨perm,hperm,hfilled⟩ := fillPerm_spec (pending_of_permutable h)
  refine ⟨perm,hperm,slots_nil dims ▸ hfilled.takes,hfilled.values,?_⟩
  rw [hfilled.proper,slots_nil]
  exact pairwise_lt_range.filter _

theorem transposePerm_eq {rank : Nat} (hperm : ∀ p, perm = some p → p.Perm (List.range rank)) :
    (if ((perm.map ints).getD []).isEmpty then ints (List.range rank).reverse
      else (perm.map ints).getD []) = ints (onnxPerm perm rank) := by
  cases perm with
  | none => rfl
  | some p =>
    cases p with
    | nil =>
      have hrank : rank = 0 := by simpa using (hperm [] rfl).length_eq.symm
      rw [hrank]
      rfl
    | cons a p => rfl

theorem map_getD_ints (perm values : List Nat) :
    ((ints perm).map fun t => (ints values).getD t.toNat 0) = ints (gather perm values) := by
  rw [gather]
  unfold ints
  rw [map_map,map_map]
  refine map_congr_left fun t _ => ?_
  change (ints values).getD (t : Int).toNat 0 = _
  rw [Int.toNat_natCast,ints_getD]
  rfl

theorem computeFusedPerm_some {fused : List Int}
    (hperm : ∀ p, perm = some p → p.Perm (List.range outDims.length))
    (h : computeFusedPerm (some (ints dims)) (some (ints outDims)) (perm.map ints) = some fused) :
    ∃ reshapePerm, reshapePerm.Perm (List.range dims.length) ∧ gather reshapePerm dims = outDims ∧
      (reshapePerm.filter (nonUnit dims)).Pairwise (· < ·) ∧
        fused = ints (gather (onnxPerm perm outDims.length) reshapePerm) := by
  unfold computeFusedPerm at h
  dsimp only at h
  split at h
  · next hpermutable =>
    obtain ⟨reshapePerm,hreshape,hslots,hvalues,hsorted⟩ := computeReshapePerm_spec hpermutable
    have hrank : reshapePerm.length = outDims.length := by
      rw [← hvalues,length_gather]
    rw [hreshape,length_ints,hrank,transposePerm_eq hperm] at h
    split at h
    · cases h
    · refine ⟨reshapePerm,hslots,hvalues,hsorted,?_⟩
      rw [← map_getD_ints]
      exact (Option.some.inj h).symm
  · cases h

variable {R : Type} {x : Tensor R}

theorem fused_perm_transposes {perm : Option (List Nat)} {fused : List Int} (hx : x.shape = dims)
    (hperm : ∀ p, perm = some p → p.Perm (List.range outDims.length))
    (h : computeFusedPerm (some (ints dims)) (some (ints outDims)) (perm.map ints) = some fused) :
    ∃ p : List Nat, fused = ints p ∧ p.Perm (List.range dims.length) ∧
      (x.transpose p).Same ((x.reshape outDims).transpose (onnxPerm perm outDims.length)) := by
  obtain ⟨reshapePerm,hslots,hvalues,hsorted,hfused⟩ := computeFusedPerm_some hperm h
  subst hx
  have hrank : outDims.length = x.shape.length := by
    rw [← hvalues,length_gather,hslots.length_eq,length_range]
  have htranspose : (onnxPerm perm outDims.length).Perm (List.range x.shape.length) :=
    hrank ▸ onnxPerm_perm hperm
  refine ⟨_,hfused,gather_perm hslots htranspose,?_⟩
  have hreshape : (x.reshape outDims).Same (x.transpose reshapePerm) :=
    hvalues ▸ reshape_same_transpose hslots hsorted
  have hmoved : ((x.reshape outDims).transpose (onnxPerm perm outDims.length)).Same
      ((x.transpose reshapePerm).transpose (onnxPerm perm outDims.length)) :=
    hreshape.transpose (by rw [← hreshape.1]; exact onnxPerm_perm hperm)
  exact (hmoved.trans (transpose_transpose hslots htranspose)).symm

end

theorem fused_perm_transposes_repeated :
    ∃ p : List Nat, computeFusedPerm (some (ints [2,1,2,3])) (some (ints [1,2,2,3])) none = some (ints p) ∧
      ((Tensor.ofFlat [2,1,2,3] id).transpose p).Same
        (((Tensor.ofFlat [2,1,2,3] id).reshape [1,2,2,3]).transpose [3,2,1,0]) := by
  have hperm : ∀ p, (none : Option (List Nat)) = some p → p.Perm (List.range [1,2,2,3].length) :=
    fun _ h => by cases h
  have hfused : computeFusedPerm (some (ints [2,1,2,3])) (some (ints [1,2,2,3]))
      ((none : Option (List Nat)).map ints) = some (ints [3,2,0,1]) := rfl
  obtain ⟨p,hp,_,hsame⟩ := fused_perm_transposes (x := Tensor.ofFlat [2,1,2,3] id) rfl hperm hfused
  exact ⟨p,hfused.trans (congrArg some hp),hsame⟩

end QnnEp.ReshapeTranspose
