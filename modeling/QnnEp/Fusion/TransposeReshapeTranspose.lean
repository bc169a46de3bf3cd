import QnnEp.Fusion.CanFuseToReshape
import QnnEp.Model.Shapes

namespace QnnEp.TransposeReshapeTranspose
open List Reading Registry Shapes Tensors
variable {i : Nat} {finalMapping groups : List (List Nat)} {intermediateShape reshapeShape : List Int}

section
variable {perm₁ perm₂ : List Nat} {mapping : List (List Nat)}

def finalGroup (perm₁ : List Nat) (mapping : List (List Nat)) (k : Nat) : List Nat :=
  (mapping.getD k []).map fun axis => perm₁.getD axis 0

theorem readFinalGroup_ok {axes : List Nat}
    (h : readFinalGroup (ints perm₁) (ints perm₂) mapping i = .ok axes) :
    axes = finalGroup perm₁ mapping (perm₂.getD i 0) := by
  obtain ⟨src,hsrc,h⟩ := bind_ok h
  obtain ⟨dims,hdims,h⟩ := bind_ok h
  rw [read_ints_ok hsrc,sizeT_cast,read_ok_iff] at hdims
  have hget : mapping.getD (perm₂.getD i 0) [] = dims := by
    rw [getD_eq_getElem?_getD,hdims]
    rfl
  rw [finalGroup,hget]
  refine mapM_ok_eq_map h fun axis _ y hy => ?_
  obtain ⟨orig,horig,hy⟩ := bind_ok hy
  obtain rfl := Except.ok.inj hy
  rw [read_ints_ok horig,sizeT_cast]

theorem readFinalGroup_eq (hi : i < perm₂.length) (hsrc : perm₂.getD i 0 < mapping.length)
    (haxes : ∀ axes ∈ mapping, ∀ axis ∈ axes, axis < perm₁.length) :
    readFinalGroup (ints perm₁) (ints perm₂) mapping i =
      .ok (finalGroup perm₁ mapping (perm₂.getD i 0)) := by
  have hmem : mapping.getD (perm₂.getD i 0) [] ∈ mapping := by
    rw [getD_eq_getElem _ _ hsrc]
    exact getElem_mem _
  rw [readFinalGroup,read_ints hi]
  change (read mapping (sizeT ((perm₂.getD i 0 : Nat) : Int)) >>= _) = _
  rw [sizeT_cast,read_eq_ok hsrc []]
  refine mapM_ok_map fun axis haxis => ?_
  rw [readOrigDim,read_ints (haxes _ hmem axis haxis)]
  change Except.ok (sizeT _) = _
  rw [sizeT_cast]

theorem readFinalMapping_ok {n : Nat} (hn : perm₂.length = n)
    (h : (List.range n).mapM (readFinalGroup (ints perm₁) (ints perm₂) mapping) = .ok finalMapping) :
    finalMapping.flatten =
      (perm₂.map fun k => mapping.getD k []).flatten.map fun axis => perm₁.getD axis 0 := by
  have hmap := mapM_ok_eq_map h fun i _ axes haxes => readFinalGroup_ok haxes
  have hperm : perm₂ = (List.range n).map fun i => perm₂.getD i 0 := by
    rw [← hn]
    exact (gather_range perm₂).symm
  rw [hmap,map_flatten,map_map]
  conv_rhs => rw [hperm,map_map]
  rfl

theorem readDimSize_ok {inputShape axes : List Nat} (h : ∀ axis ∈ axes, axis < inputShape.length) :
    ∃ size, readDimSize (ints inputShape) axes = .ok size := by
  unfold readDimSize
  generalize (1 : Int) = start
  induction axes generalizing start with
  | nil => exact ⟨start,rfl⟩
  | cons axis axes ih =>
    rw [foldlM_cons,read_ints (h axis mem_cons_self)]
    exact ih (fun axis' hmem => h axis' (mem_cons_of_mem axis hmem)) _

end

section
variable {R : Type} {t : Tensor R} {perm₁ perm₂ reshaped : List Nat}

theorem canFuseToReshape_ok {inputShape perm1 perm2 outputShape fused : List Int}
    (h : canFuseToReshape inputShape perm1 intermediateShape reshapeShape perm2 outputShape =
      .ok (some fused)) :
    ∃ mapping finalMapping, reshapeMapping intermediateShape reshapeShape 0 = some mapping ∧
      (List.range outputShape.length).mapM (readFinalGroup perm1 perm2 mapping) = .ok finalMapping ∧
      countInOrder 0 finalMapping.flatten = some inputShape.length ∧ fused = outputShape := by
  unfold canFuseToReshape at h
  split at h
  · cases h
  · next mapping hmapping =>
    obtain ⟨finalMapping,hfinal,h⟩ := bind_ok h
    split at h
    · cases h
    · next hcount =>
      obtain ⟨fusedShape,_,h⟩ := bind_ok h
      replace h := Except.ok.inj h
      split at h
      · next heq =>
        exact ⟨mapping,finalMapping,hmapping,hfinal,not_not.mp hcount,(Option.some.inj h).symm.trans heq⟩
      · cases h

theorem length_flatten_of_perm (hperm : perm₂.Perm (List.range groups.length)) :
    (perm₂.map fun k => groups.getD k []).flatten.length = groups.flatten.length := by
  have hall : (List.range groups.length).map (fun k => groups.getD k []) = groups := by
    refine ext_getElem (by simp) fun k hk hk' => ?_
    rw [getElem_map,getElem_range,getD_eq_getElem _ _ hk']
  have hflat := (hperm.map fun k => groups.getD k []).flatten
  rw [hall] at hflat
  exact hflat.length_eq

theorem fused_chain_is_reshape (hperm₁ : perm₁.Perm (List.range t.shape.length))
    (hperm₂ : perm₂.Perm (List.range reshaped.length)) (hprod : reshaped.prod = t.shape.prod)
    {fused : List Int}
    (h : canFuseToReshape (ints t.shape) (ints perm₁) (ints (gather perm₁ t.shape)) (ints reshaped)
      (ints perm₂) (ints (gather perm₂ reshaped)) = .ok (some fused)) :
    fused = ints (gather perm₂ reshaped) ∧
      (((t.transpose perm₁).reshape reshaped).transpose perm₂).Same
        (t.reshape (gather perm₂ reshaped)) := by
  obtain ⟨mapping,finalMapping,hmapping,hfinal,hcount,hfused⟩ := canFuseToReshape_ok h
  have hlen₂ : perm₂.length = (ints (gather perm₂ reshaped)).length := by
    rw [length_ints,length_gather]
  have hspec := reshapeMapping_spec hmapping (Nat.zero_le _)
  have hexact := hspec.exact (hprod.trans (prod_gather hperm₁).symm)
  have hgroups : mapping.length = reshaped.length := by
    rw [← hspec.fits.length_eq,length_ints]
  obtain ⟨hrange,hrank⟩ := countInOrder_eq hcount
  rw [length_ints,Nat.zero_add] at hrank
  have horder := readFinalMapping_ok hlen₂ hfinal
  rw [hrange,← hrank,← range_eq_range'] at horder
  have hcover : mapping.flatten = List.range t.shape.length := by
    have hsize := congrArg List.length horder
    rw [length_range,length_map,length_flatten_of_perm (hgroups.symm ▸ hperm₂)] at hsize
    rw [hspec.consecutive,← hsize,range_eq_range']
  refine ⟨hfused,?_⟩
  rw [hexact]
  exact regrouped hperm₁ (hgroups.symm ▸ hperm₂) hcover horder.symm

end

theorem fused_chain_is_reshape_sample :
    ∃ fused, canFuseToReshape (ints [2,3,4]) (ints [1,2,0]) (ints [3,4,2]) (ints [12,2]) (ints [1,0])
        (ints [2,12]) = .ok (some fused) ∧ fused = ints [2,12] ∧
      ((((Tensor.ofFlat [2,3,4] id).transpose [1,2,0]).reshape [12,2]).transpose [1,0]).Same
        ((Tensor.ofFlat [2,3,4] id).reshape [2,12]) :=
  ⟨_,rfl,@fused_chain_is_reshape Nat (Tensor.ofFlat [2,3,4] id) [1,2,0] [1,0] [12,2] (by decide)
    (by decide) (by decide) _ rfl⟩

section

def Collapses (d : Nat) (dims : List Nat) : Prop :=
  d = 1 ∧ dims = [1] ∨ 1 < d ∧ dims.prod = d ∧ dims.getLast? ≠ some 1

def IsMerge (sizes targets : List Nat) : Prop :=
  ∃ groups : List (List Nat), groups.flatten <+: sizes ∧ List.Forall₂ Collapses targets groups

variable {sizes targets : List Nat}

theorem isMerge_of_mapped (h : Mapped sizes (ints targets) 0 groups) (hprod : targets.prod = sizes.prod) :
    IsMerge sizes targets := by
  have hexact := h.exact hprod
  refine ⟨groups.map fun axes => gather axes sizes,?_,?_⟩
  · have hflat : (groups.map fun axes => gather axes sizes).flatten = gather groups.flatten sizes := by
      rw [gather,map_flatten]
      rfl
    rw [hflat,h.consecutive,gather_range' h.inside,drop_zero]
    exact take_prefix _ _
  · have hfits := h.fits
    rw [ints,forall₂_map_left_iff] at hfits
    have heq : List.Forall₂ (fun d axes => d = (gather axes sizes).prod) targets groups := by
      rw [hexact,groupSizes,forall₂_map_left_iff]
      exact forall₂_same.mpr fun _ _ => rfl
    rw [forall₂_map_right_iff]
    clear h hexact hprod
    induction hfits with
    | nil => exact .nil
    | cons hgroup _ ih =>
      obtain _ | ⟨hd,hrest⟩ := heq
      refine .cons ?_ (ih hrest)
      rcases hgroup.shape with ⟨hone,hdims⟩ | ⟨hlt,hlast⟩
      · exact .inl ⟨Nat.cast_eq_one.mp hone,hdims⟩
      · exact .inr ⟨Nat.one_lt_cast.mp hlt,hd.symm,hlast⟩

theorem accumulate_stop {targetSize : Int} {acc : Int} (h : ¬acc < targetSize) (dims : List Int)
    (idx : Nat) : accumulate targetSize dims idx acc = ([],acc) := by
  cases dims with
  | nil => rfl
  | cons d ds => rw [accumulate,if_neg h]

theorem two_le_prod {dims : List Nat} (hprod : 0 < dims.prod) (hne : dims ≠ [])
    (hlast : dims.getLast? ≠ some 1) : 2 ≤ dims.prod := by
  have hsplit := dropLast_append_getLast hne
  rw [List.getLast?_eq_getLast_of_ne_nil hne] at hlast
  have hlast : dims.getLast hne ≠ 1 := fun h => hlast (h ▸ rfl)
  rw [← hsplit,prod_append,prod_singleton] at hprod ⊢
  have hinit : 1 ≤ dims.dropLast.prod := Nat.pos_of_mul_pos_right hprod
  have hend : 2 ≤ dims.getLast hne := by
    have := Nat.pos_of_mul_pos_left hprod
    omega
  exact Nat.mul_le_mul hinit hend

theorem accumulate_group {d : Nat} (hd : d < 2 ^ 63) {dims : List Nat} (hne : dims ≠ []) {acc : Nat}
    (hprod : acc * dims.prod = d) (hpos : 0 < d) (hlast : dims.getLast? ≠ some 1) (rest : List Nat)
    (idx : Nat) :
    accumulate d (ints (dims ++ rest)) idx acc = (List.range' idx dims.length,(d : Int)) := by
  induction dims generalizing acc idx with
  | nil => exact absurd rfl hne
  | cons x dims ih =>
    have hprods : 0 < (x :: dims).prod := Nat.pos_of_mul_pos_left (hprod ▸ hpos)
    have htwo := two_le_prod hprods hne hlast
    have hacc : 0 < acc := Nat.pos_of_mul_pos_right (hprod ▸ hpos)
    have hlt : acc < d := by
      calc acc < acc * 2 := by omega
        _ ≤ acc * (x :: dims).prod := Nat.mul_le_mul_left acc htwo
        _ = d := hprod
    rw [prod_cons,← Nat.mul_assoc] at hprod
    have hle : acc * x ≤ d := by
      rw [← hprod]
      exact Nat.le_mul_of_pos_right _ (Nat.pos_of_mul_pos_left (hprod ▸ hpos))
    have hwrap : int64 ((acc : Int) * x) = ((acc * x : Nat) : Int) := by
      rw [← Nat.cast_mul]
      exact int64_of_lt (Int.natCast_nonneg _) (by exact_mod_cast Nat.lt_of_le_of_lt hle hd)
    rw [cons_append,ints_cons,accumulate,if_pos (by exact_mod_cast hlt),hwrap]
    by_cases hdims : dims = []
    · subst hdims
      have hdone : acc * x = d := by simpa using hprod
      rw [hdone,accumulate_stop (Int.lt_irrefl _)]
      rfl
    · rw [List.getLast?_cons_of_ne_nil hdims] at hlast
      rw [ih hdims hprod hlast (idx + 1)]
      rfl

theorem reshapeMapping_of_merge (hfits : ∀ d ∈ targets, d < 2 ^ 63)
    (h : List.Forall₂ Collapses targets groups) {idx : Nat} {rest : List Nat}
    (hrest : sizes.drop idx = groups.flatten ++ rest) :
    ∃ mapping, reshapeMapping (ints sizes) (ints targets) idx = some mapping := by
  induction h generalizing idx with
  | nil => exact ⟨[],rfl⟩
  | @cons d dims targets groups hd _ ih =>
    have ih := @ih fun d' hd' => hfits d' (mem_cons_of_mem d hd')
    rw [flatten_cons,append_assoc] at hrest
    have hnext : sizes.drop (idx + dims.length) = groups.flatten ++ rest := by
      rw [← drop_drop,hrest,drop_left]
    rw [ints_cons,reshapeMapping,ints_drop,hrest]
    rcases hd with ⟨rfl,rfl⟩ | ⟨hlt,hprod,hlast⟩
    · have hunit : (ints sizes)[idx]? = some 1 := by
        have hhead := congrArg (fun xs => xs[0]?) hrest
        rw [List.getElem?_drop] at hhead
        rw [ints_getElem?]
        exact congrArg _ hhead
      obtain ⟨mapping,hmapping⟩ := ih hnext
      rw [length_singleton] at hmapping
      rw [accumulate_stop (by decide)]
      simp only [ne_eq,Nat.cast_one,not_true_eq_false,if_false,if_true,hunit,hmapping]
      exact ⟨_,rfl⟩
    · have hne : dims ≠ [] := by
        rintro rfl
        simp at hprod
        omega
      obtain ⟨mapping,hmapping⟩ := ih hnext
      have hgroup := accumulate_group (hfits d mem_cons_self) hne
        (show 1 * dims.prod = d by omega) (by omega) hlast (groups.flatten ++ rest) idx
      have hrange : List.range' idx dims.length ≠ [] := by
        intro hnil
        have := congrArg List.length hnil
        rw [length_range'] at this
        exact hne (length_eq_zero_iff.mp this)
      rw [Nat.cast_one] at hgroup
      rw [hgroup]
      simp only [ne_eq,not_true_eq_false,if_false,hrange,length_range',hmapping]
      exact ⟨_,rfl⟩

theorem reshapeMapping_some_iff (hprod : targets.prod = sizes.prod) (hfits : ∀ d ∈ targets, d < 2 ^ 63) :
    (∃ mapping, reshapeMapping (ints sizes) (ints targets) 0 = some mapping) ↔
      IsMerge sizes targets := by
  constructor
  · rintro ⟨mapping,hmapping⟩
    exact isMerge_of_mapped (reshapeMapping_spec hmapping (Nat.zero_le _)) hprod
  · rintro ⟨groups,⟨rest,hrest⟩,hgroups⟩
    exact reshapeMapping_of_merge hfits hgroups (drop_zero.trans hrest.symm)

end

section

def consistentChain (input reshaped : List Nat) (perm₁ perm₂ : Option (List Nat)) : TransposeChain where
  inputShape := some (ints input)
  intermediateShape := some (ints (gather (onnxPerm perm₁ input.length) input))
  reshapeShape := some (ints reshaped)
  outputShape := some (ints (gather (onnxPerm perm₂ reshaped.length) reshaped))
  perm1 := perm₁.map ints
  perm2 := perm₂.map ints

variable {input reshaped : List Nat} {perm₁ perm₂ : Option (List Nat)} {mapping : List (List Nat)}

theorem canFuseToReshape_mapped {inputShape perm1 perm2 outputShape : List Int}
    (hmapping : reshapeMapping intermediateShape reshapeShape 0 = some mapping) :
    canFuseToReshape inputShape perm1 intermediateShape reshapeShape perm2 outputShape =
      (List.range outputShape.length).mapM (readFinalGroup perm1 perm2 mapping) >>= fun finalMapping =>
        if countInOrder 0 finalMapping.flatten ≠ some inputShape.length then .ok none
        else finalMapping.mapM (readDimSize inputShape) >>= fun fusedShape =>
          .ok (if fusedShape = outputShape then some fusedShape else none) := by
  rw [canFuseToReshape,hmapping]
  rfl

theorem countInOrder_reads {inputShape : List Nat}
    (h : countInOrder 0 finalMapping.flatten = some inputShape.length) :
    ∃ fusedShape, finalMapping.mapM (readDimSize (ints inputShape)) = .ok fusedShape := by
  obtain ⟨hrange,hlen⟩ := countInOrder_eq h
  rw [Nat.zero_add] at hlen
  have hread : ∀ axes ∈ finalMapping, ∃ size, readDimSize (ints inputShape) axes = .ok size := by
    intro axes haxes
    refine readDimSize_ok fun axis haxis => ?_
    have hmem := mem_flatten_of_mem haxes haxis
    rw [hrange,← range_eq_range',mem_range] at hmem
    omega
  choose size hsize using hread
  classical
  refine ⟨_,mapM_ok_map (g := fun axes => if h : axes ∈ finalMapping then size axes h else 0)
    fun axes haxes => ?_⟩
  rw [dif_pos haxes]
  exact hsize axes haxes

theorem reads_of_groups {inputShape : List Nat} {perm1 perm2 outputShape : List Int}
    (hmapping : reshapeMapping intermediateShape reshapeShape 0 = some mapping)
    (hfinal : (List.range outputShape.length).mapM (readFinalGroup perm1 perm2 mapping) = .ok finalMapping) :
    ∃ result, canFuseToReshape (ints inputShape) perm1 intermediateShape reshapeShape perm2 outputShape =
      .ok result := by
  rw [canFuseToReshape_mapped hmapping,hfinal]
  by_cases hcount : countInOrder 0 finalMapping.flatten = some (ints inputShape).length
  · obtain ⟨fusedShape,hfused⟩ := countInOrder_reads (hcount.trans (by rw [length_ints]))
    refine ⟨if fusedShape = outputShape then some fusedShape else none,?_⟩
    change (if countInOrder 0 finalMapping.flatten ≠ some (ints inputShape).length then _ else _) = _
    rw [if_neg (not_not.mpr hcount),hfused]
    rfl
  · exact ⟨none,if_pos hcount⟩

theorem reads_of_present {p q : List Nat} (hq : q.Perm (List.range reshaped.length))
    (hmapping : reshapeMapping (ints (gather p input)) (ints reshaped) 0 = some mapping) :
    ∃ result, canFuseToReshape (ints input) (ints p) (ints (gather p input)) (ints reshaped) (ints q)
      (ints (gather q reshaped)) = .ok result := by
  have hspec := reshapeMapping_spec hmapping (Nat.zero_le _)
  have hgroups : mapping.length = reshaped.length := by
    rw [← hspec.fits.length_eq,length_ints]
  have hlen : (ints (gather q reshaped)).length = q.length := by rw [length_ints,length_gather]
  have haxes : ∀ axes ∈ mapping, ∀ axis ∈ axes, axis < p.length := by
    intro axes haxes axis haxis
    have hmem := mem_flatten_of_mem haxes haxis
    have hinside := hspec.inside
    rw [hspec.consecutive,← range_eq_range',mem_range] at hmem
    rw [length_gather] at hinside
    omega
  refine reads_of_groups hmapping (mapM_ok_map fun i hi => readFinalGroup_eq ?_ ?_ haxes)
  · exact hlen ▸ mem_range.mp hi
  · have hi : i < q.length := hlen ▸ mem_range.mp hi
    rw [hgroups,getD_eq_getElem _ _ hi]
    exact mem_range.mp (hq.mem_iff.mp (getElem_mem hi))

theorem not_reads_of_omitted (hperm₂ : ∀ q, perm₂ = some q → q.Perm (List.range reshaped.length))
    (hmapping : reshapeMapping (ints (gather (onnxPerm perm₁ input.length) input)) (ints reshaped) 0 =
      some mapping) (hne : reshaped ≠ []) (homitted : ¬(perm₁.isSome ∧ perm₂.isSome)) :
    tryFusion (consistentChain input reshaped perm₁ perm₂) = .error .outOfRange := by
  have hspec := reshapeMapping_spec hmapping (Nat.zero_le _)
  have hlen : (ints (gather (onnxPerm perm₂ reshaped.length) reshaped)).length = reshaped.length := by
    rw [length_ints,length_gather,(onnxPerm_perm hperm₂).length_eq,length_range]
  have hfirst : readFinalGroup (getTransposePerm (perm₁.map ints)) (getTransposePerm (perm₂.map ints))
      mapping 0 = .error .outOfRange := by
    cases perm₂ with
    | none => rfl
    | some q =>
      cases perm₁ with
      | some p => exact absurd ⟨rfl,rfl⟩ homitted
      | none =>
        have hq := hperm₂ q rfl
        have hpos : 0 < q.length := by
          rw [hq.length_eq,length_range]
          exact length_pos_iff.mpr hne
        have hsrc : q.getD 0 0 < mapping.length := by
          rw [← hspec.fits.length_eq,length_ints,getD_eq_getElem _ _ hpos]
          exact mem_range.mp (hq.mem_iff.mp (getElem_mem hpos))
        have haxes : mapping.getD (q.getD 0 0) [] ≠ [] := by
          have hget := hspec.fits.get (by rwa [hspec.fits.length_eq]) hsrc
          rw [getD_eq_getElem _ _ hsrc]
          exact hget.nonempty
        obtain ⟨axis,axes,hcons⟩ := exists_cons_of_ne_nil haxes
        change (read (ints q) 0 >>= _) = _
        rw [read_ints hpos]
        change (read mapping (sizeT ((q.getD 0 0 : Nat) : Int)) >>= _) = _
        rw [sizeT_cast,read_eq_ok hsrc [],hcons]
        change (axis :: axes).mapM (readOrigDim []) = _
        exact mapM_error_head rfl
  obtain ⟨n,hn⟩ := Nat.exists_eq_succ_of_ne_zero (mt length_eq_zero_iff.mp hne)
  change canFuseToReshape (ints input) (getTransposePerm (perm₁.map ints)) _ _
    (getTransposePerm (perm₂.map ints)) _ = _
  rw [canFuseToReshape_mapped hmapping,hlen,hn,range_succ_eq_map,mapM_error_head hfirst]
  rfl

theorem chain_reads_in_range_iff (hperm₁ : ∀ p, perm₁ = some p → p.Perm (List.range input.length))
    (hperm₂ : ∀ q, perm₂ = some q → q.Perm (List.range reshaped.length))
    (hprod : reshaped.prod = input.prod) (hfits : ∀ d ∈ reshaped, d < 2 ^ 63) :
    (∃ result, tryFusion (consistentChain input reshaped perm₁ perm₂) = .ok result) ↔
      reshaped = [] ∨ ¬IsMerge (gather (onnxPerm perm₁ input.length) input) reshaped ∨
        perm₁.isSome ∧ perm₂.isSome := by
  have hmerge := reshapeMapping_some_iff
    (hprod.trans (prod_gather (onnxPerm_perm hperm₁)).symm) hfits
  constructor
  · rintro ⟨result,hresult⟩
    by_contra hcond
    obtain ⟨hne,hcond⟩ := not_or.mp hcond
    obtain ⟨his,homitted⟩ := not_or.mp hcond
    obtain ⟨mapping,hmapping⟩ := hmerge.mpr (not_not.mp his)
    cases hresult.symm.trans (not_reads_of_omitted hperm₂ hmapping hne homitted)
  · intro hcond
    cases hmapping : reshapeMapping (ints (gather (onnxPerm perm₁ input.length) input)) (ints reshaped) 0 with
    | none =>
      refine ⟨none,?_⟩
      change canFuseToReshape _ _ _ _ _ _ = _
      rw [canFuseToReshape,hmapping]
    | some mapping =>
      rcases hcond with rfl | hnot | ⟨h₁,h₂⟩
      · have hlen : (ints (gather (onnxPerm perm₂ ([] : List Nat).length) [])).length = 0 := by
          rw [length_ints,length_gather,(onnxPerm_perm hperm₂).length_eq,length_range]
          rfl
        have hfinal {perm1 perm2 : List Int} : (List.range (ints (gather (onnxPerm perm₂
            ([] : List Nat).length) [])).length).mapM (readFinalGroup perm1 perm2 mapping) = .ok [] := by
          rw [hlen]
          rfl
        exact reads_of_groups hmapping hfinal
      · exact absurd (hmerge.mp ⟨mapping,hmapping⟩) hnot
      · obtain ⟨p,rfl⟩ := Option.isSome_iff_exists.mp h₁
        obtain ⟨q,rfl⟩ := Option.isSome_iff_exists.mp h₂
        exact reads_of_present (hperm₂ q rfl) hmapping

end

theorem chain_reads_in_range_present :
    ∃ result, tryFusion (consistentChain [2,3,4] [12,2] (some [1,2,0]) (some [1,0])) = .ok result :=
  (chain_reads_in_range_iff (by rintro _ ⟨rfl⟩; decide) (by rintro _ ⟨rfl⟩; decide) (by decide)
    (by decide)).mpr (.inr (.inr ⟨rfl,rfl⟩))

theorem omitted_perm_reads_out_of_range :
    [3,2].prod = [2,3].prod ∧
      ¬∃ result, tryFusion (consistentChain [2,3] [3,2] none none) = .ok result := by
  refine ⟨by decide,?_⟩
  rintro ⟨result,h⟩
  cases h

end QnnEp.TransposeReshapeTranspose
