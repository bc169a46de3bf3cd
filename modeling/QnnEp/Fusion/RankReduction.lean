import QnnEp.Foundation.Movement
import QnnEp.Foundation.RankLowering
import QnnEp.Model.Shapes
import QnnEp.Model.Wrapper

namespace QnnEp.RankReduction
open List Reading Registry Shapes Status Tensors
open Model (QuantParams)

structure ChainTensor where
  name : String
  shape : Option (List Int)
  encoding : QuantParams
  isLPBQ : Bool
  isBlockQuantized : Bool
  hasTensorInfo : Bool
  isGraphOutput : Bool

structure ReshapeChain where
  isShape1Constant : Bool
  isShape2Constant : Bool
  t0 : ChainTensor
  t1 : ChainTensor
  t2 : ChainTensor
  t3 : ChainTensor
  perm : Option (List Int)

structure LoweredTensor where
  encoding : QuantParams
  dims : List Nat

structure LoweredChain where
  t1 : LoweredTensor
  t2 : LoweredTensor
  t3 : LoweredTensor
  perm : List Nat

def LoweredChain.moves (low : LoweredChain) : List Move :=
  [.reshape low.t1.dims,.transpose low.perm,.reshape low.t3.dims]

def ChainTensor.onnxShape (t : ChainTensor) : Except String (List Nat) :=
  match getOnnxShape t.shape with
  | some dims => .ok dims
  | none => .error ("Cannot get shape for " ++ t.name)

def ChainTensor.tensorInfo (t : ChainTensor) : Except String LoweredTensor := do
  returnIf (t.hasTensorInfo = false) "Cannot get tensor info"
  let dims ← t.onnxShape
  return ⟨t.encoding,dims⟩

inductive Reduction where
  | squeeze (index : Nat)
  | mergeLeading
  deriving DecidableEq, Repr

namespace Rank6

def validatePatternConditions (chain : ReshapeChain) : Option Reduction :=
  match chain.t0.shape, chain.t1.shape, chain.t2.shape, chain.t3.shape with
  | some _, some t1Dims, some t2Dims, some _ =>
    let perm := chain.perm.getD []
    if chain.isShape1Constant ∧ chain.isShape2Constant ∧ t1Dims.length = 6 ∧ t2Dims.length = 6 ∧
        perm.length = 6 then
      match (List.range 6).find? fun i =>
        t1Dims.getD i 0 = 1 ∧ t2Dims.getD i 0 = 1 ∧ perm.getD i 0 = i with
      | some i => some (.squeeze i)
      | none => if perm.getD 0 0 = 0 ∧ perm.getD 1 0 = 1 then some .mergeLeading else none
    else none
  | _, _, _, _ => none

def loweredDims (reduction : Reduction) (dims : List Nat) : List Nat :=
  match reduction with
  | .mergeLeading => dims.getD 0 0 * dims.getD 1 0 :: dims.drop 2
  | .squeeze index => dims.eraseIdx index

def loweredPerm (reduction : Reduction) (perm : List Int) : List Nat :=
  match reduction with
  | .mergeLeading => 0 :: (perm.drop 2).map fun v => uint32 (v - 1)
  | .squeeze index => (perm.eraseIdx index).map fun v : Int => uint32 (if v > index then v - 1 else v)

def createOrValidateOnQnn (chain : ReshapeChain) (reduction : Reduction) :
    Except String LoweredChain := do
  let t1Dims ← chain.t1.onnxShape
  let t2Dims ← chain.t2.onnxShape
  returnIf (t1Dims.length ≠ 6 ∨ t2Dims.length ≠ 6) "Expected rank-6 intermediate tensors"
  let perm := chain.perm.getD []
  returnIf (perm.length ≠ 6) "Expected rank-6 permutation"
  returnIf (reduction = .mergeLeading ∧ (t1Dims.getD 0 0 * t1Dims.getD 1 0 > uint32Max ∨
    t2Dims.getD 0 0 * t2Dims.getD 1 0 > uint32Max)) "Merged dimension overflows uint32"
  let t1Info ← chain.t1.tensorInfo
  let t2Info ← chain.t2.tensorInfo
  let t3Info ← chain.t3.tensorInfo
  return ⟨⟨t1Info.encoding,loweredDims reduction t1Dims⟩,⟨t2Info.encoding,loweredDims reduction t2Dims⟩,
    t3Info,loweredPerm reduction perm⟩

def tryFusion (chain : ReshapeChain) : Option LoweredChain :=
  match validatePatternConditions chain with
  | some reduction => (createOrValidateOnQnn chain reduction).toOption
  | none => none

end Rank6

namespace Rank5

def findAdjacentMergeIndex (perm : List Int) : Option Nat :=
  (List.range (perm.length - 1)).find? fun p => perm.getD (p + 1) 0 = perm.getD p 0 + 1

def isValidRank5Perm (perm : List Int) : Prop :=
  perm.length = 5 ∧ (∀ v ∈ perm, 0 ≤ v ∧ v < 5) ∧ perm.Nodup

instance (perm : List Int) : Decidable (isValidRank5Perm perm) :=
  inferInstanceAs (Decidable (_ ∧ _ ∧ _))

def isPerTensor (t : ChainTensor) : Prop :=
  t.hasTensorInfo = true ∧ t.encoding.isPerChannel = false ∧ t.isLPBQ = false ∧ t.isBlockQuantized = false

instance (t : ChainTensor) : Decidable (isPerTensor t) := inferInstanceAs (Decidable (_ ∧ _ ∧ _ ∧ _))

def validatePatternConditions (chain : ReshapeChain) : Option Nat :=
  match chain.t0.shape, chain.t1.shape, chain.t2.shape, chain.t3.shape with
  | some _, some t1Dims, some t2Dims, some _ =>
    let perm := chain.perm.getD []
    if chain.isShape1Constant ∧ chain.isShape2Constant ∧ t1Dims.length = 5 ∧ t2Dims.length = 5 ∧
        isValidRank5Perm perm ∧ chain.t1.isGraphOutput = false ∧ chain.t2.isGraphOutput = false ∧
        ∀ t ∈ [chain.t0,chain.t1,chain.t2,chain.t3], isPerTensor t then
      findAdjacentMergeIndex perm
    else none
  | _, _, _, _ => none

def createOrValidateOnQnn (chain : ReshapeChain) (mergePermIndex : Nat) :
    Except String LoweredChain := do
  returnIf (chain.t1.isGraphOutput = true ∨ chain.t2.isGraphOutput = true)
    "Rank5ToRank4 intermediates must not be graph outputs"
  let t1Dims ← chain.t1.onnxShape
  let t2Dims ← chain.t2.onnxShape
  returnIf (t1Dims.length ≠ 5 ∨ t2Dims.length ≠ 5) "Expected rank-5 intermediate shapes"
  let perm := chain.perm.getD []
  returnIf (¬isValidRank5Perm perm ∨ mergePermIndex + 1 ≥ 5) "Invalid rank-5 perm or merge index"
  let a := perm.getD mergePermIndex 0
  let b := perm.getD (mergePermIndex + 1) 0
  returnIf (b ≠ a + 1 ∨ a < 0 ∨ b ≥ 5) "Invalid rank-5 merge indices"
  returnIf (t1Dims.getD a.toNat 0 * t1Dims.getD (a.toNat + 1) 0 > uint32Max)
    "Merged dim overflows uint32_t"
  let t1Rank4Dims := mergeDims a.toNat t1Dims
  let permRank4 := (perm.eraseIdx (mergePermIndex + 1)).map fun v => uint32 (if v > b then v - 1 else v)
  returnIf (t1Rank4Dims.length ≠ 4 ∨ permRank4.length ≠ 4) "Invalid rank-4 fusion shapes"
  returnIf (∃ p ∈ permRank4, p ≥ t1Rank4Dims.length) "Invalid rank-4 perm"
  let t1Info ← chain.t1.tensorInfo
  let t2Info ← chain.t2.tensorInfo
  let t3Info ← chain.t3.tensorInfo
  return ⟨⟨t1Info.encoding,t1Rank4Dims⟩,⟨t2Info.encoding,gather permRank4 t1Rank4Dims⟩,t3Info,permRank4⟩

def tryFusion (chain : ReshapeChain) : Option LoweredChain :=
  match validatePatternConditions chain with
  | some mergePermIndex => (createOrValidateOnQnn chain mergePermIndex).toOption
  | none => none

end Rank5

inductive Rewrite where
  | rank6ToRank5
  | rank5ToRank4
  deriving DecidableEq, Repr

def Rewrite.tryFusion : Rewrite → ReshapeChain → Option LoweredChain
  | .rank6ToRank5 => Rank6.tryFusion
  | .rank5ToRank4 => Rank5.tryFusion

structure Consistent (chain : ReshapeChain) (t1 t3 perm : List Nat) : Prop where
  shape1 : ∀ dims, chain.t1.shape = some dims → dims = ints t1
  shape2 : ∀ dims, chain.t2.shape = some dims → dims = ints (gather perm t1)
  shape3 : ∀ dims, chain.t3.shape = some dims → dims = ints t3
  permAttribute : ∀ p, chain.perm = some p → p = ints perm
  valid : perm.Perm (List.range t1.length)
  elements : t3.prod = t1.prod

section
variable {chain : ReshapeChain} {t : ChainTensor} {dims shape perm : List Nat}

theorem onnxShape_ok (hshape : ∀ s, t.shape = some s → s = ints shape) (h : t.onnxShape = .ok dims) :
    dims = qnnShape shape := by
  unfold ChainTensor.onnxShape at h
  split at h
  · next found hfound =>
    obtain rfl := Except.ok.inj h
    exact getOnnxShape_eq hshape hfound
  · cases h

theorem onnxShape_eq (hshape : ∀ s, t.shape = some s → s = ints shape) (h : t.onnxShape = .ok dims)
    (hrank : 1 < dims.length) : dims = shape := by
  rw [onnxShape_ok hshape h] at hrank ⊢
  exact qnnShape_eq hrank

theorem tensorInfo_ok {info : LoweredTensor} (h : t.tensorInfo = .ok info) :
    t.onnxShape = .ok info.dims ∧ info.encoding = t.encoding := by
  obtain ⟨_,h⟩ := returnIf_bind_ok.mp h
  obtain ⟨found,hfound,h⟩ := bind_ok h
  obtain rfl := Except.ok.inj h
  exact ⟨hfound,rfl⟩

theorem perm_of_length {p : Option (List Int)} {n : Nat} (hperm : ∀ q, p = some q → q = ints perm)
    (h : (p.getD []).length = n) (hn : 0 < n) : p.getD [] = ints perm := by
  cases p with
  | none =>
    rw [← h] at hn
    cases hn
  | some q => exact hperm q rfl

theorem uint32_lowered {v removed : Nat} (h : v < 2 ^ 32) :
    uint32 (if (v : Int) > removed then (v : Int) - 1 else v) = lowered removed v := by
  unfold uint32 lowered
  split_ifs <;> omega

end

section
variable {xs : List Nat} {i n : Nat}

theorem getElem?_of_getD (hi : i < xs.length) (h : xs.getD i 0 = n) : xs[i]? = some n := by
  rw [List.getElem?_eq_getElem hi,← h,getD_eq_getElem _ _ hi]

end

structure FixedUnit (dims perm : List Nat) (i : Nat) : Prop where
  unit : dims[i]? = some 1
  fixed : perm[i]? = some i

namespace Rank6
variable {chain : ReshapeChain} {low : LoweredChain} {t1 t3 perm : List Nat} {reduction : Reduction}

structure Created (chain : ReshapeChain) (reduction : Reduction) (low : LoweredChain) : Prop where
  shape1 : ∃ dims, chain.t1.onnxShape = .ok dims ∧ dims.length = 6 ∧
    low.t1 = ⟨chain.t1.encoding,loweredDims reduction dims⟩
  shape2 : ∃ dims, chain.t2.onnxShape = .ok dims ∧ dims.length = 6 ∧
    low.t2 = ⟨chain.t2.encoding,loweredDims reduction dims⟩
  shape3 : chain.t3.onnxShape = .ok low.t3.dims
  rank : (chain.perm.getD []).length = 6
  perm : low.perm = loweredPerm reduction (chain.perm.getD [])

theorem createOrValidateOnQnn_ok (h : createOrValidateOnQnn chain reduction = .ok low) :
    Created chain reduction low := by
  obtain ⟨dims1,hdims1,h⟩ := bind_ok h
  obtain ⟨dims2,hdims2,h⟩ := bind_ok h
  obtain ⟨hranks,h⟩ := returnIf_bind_ok.mp h
  obtain ⟨hperm,h⟩ := returnIf_bind_ok.mp h
  obtain ⟨_,h⟩ := returnIf_bind_ok.mp h
  obtain ⟨info1,hinfo1,h⟩ := bind_ok h
  obtain ⟨info2,hinfo2,h⟩ := bind_ok h
  obtain ⟨info3,hinfo3,h⟩ := bind_ok h
  obtain rfl := Except.ok.inj h
  obtain ⟨hrank1,hrank2⟩ := not_or.mp hranks
  refine ⟨⟨dims1,hdims1,not_not.mp hrank1,?_⟩,⟨dims2,hdims2,not_not.mp hrank2,?_⟩,(tensorInfo_ok hinfo3).1,
    not_not.mp hperm,rfl⟩
  · rw [(tensorInfo_ok hinfo1).2]
  · rw [(tensorInfo_ok hinfo2).2]

theorem tryFusion_some (h : tryFusion chain = some low) :
    ∃ reduction, validatePatternConditions chain = some reduction ∧ Created chain reduction low := by
  unfold tryFusion at h
  split at h
  · next reduction hreduction =>
    refine ⟨reduction,hreduction,?_⟩
    cases hcreate : createOrValidateOnQnn chain reduction with
    | error e =>
      rw [hcreate] at h
      cases h
    | ok created =>
      rw [hcreate] at h
      obtain rfl := Option.some.inj h
      exact createOrValidateOnQnn_ok hcreate
  · cases h

inductive Reduces (t1 perm : List Nat) : Reduction → Prop
  | squeeze {index : Nat} (hunit : FixedUnit t1 perm index)
    (hfirst : ∀ j < index, ¬FixedUnit t1 perm j) : Reduces t1 perm (.squeeze index)
  | mergeLeading (hnone : ∀ j, ¬FixedUnit t1 perm j) (hfirst : perm[0]? = some 0)
    (hsecond : perm[1]? = some 1) : Reduces t1 perm .mergeLeading

theorem fixedUnit_iff {i : Nat} (hrank : t1.length = 6) (hlen : perm.length = 6) (hi : i < 6) :
    ((ints t1).getD i 0 = 1 ∧ (ints (gather perm t1)).getD i 0 = 1 ∧ (ints perm).getD i 0 = i) ↔
      FixedUnit t1 perm i := by
  rw [ints_getD,ints_getD,ints_getD]
  constructor
  · rintro ⟨hunit,_,hfixed⟩
    refine ⟨getElem?_of_getD (by omega) ?_,getElem?_of_getD (by omega) ?_⟩
    · exact_mod_cast hunit
    · exact_mod_cast hfixed
  · rintro ⟨hunit,hfixed⟩
    have hget : t1.getD i 0 = 1 := by
      rw [getD_eq_getElem?_getD,hunit]
      rfl
    have hperm : perm.getD i 0 = i := by
      rw [getD_eq_getElem?_getD,hfixed]
      rfl
    rw [gather_getD_of_getElem? hfixed,hget,hperm]
    exact ⟨rfl,rfl,rfl⟩

theorem validatePatternConditions_some (hchain : Consistent chain t1 t3 perm)
    (h : validatePatternConditions chain = some reduction) : Reduces t1 perm reduction := by
  unfold validatePatternConditions at h
  split at h
  · next dims1 dims2 _ _ hdims1 hdims2 _ =>
    dsimp only at h
    split at h
    · next hranks =>
      obtain ⟨_,_,hrank1,_,hrank⟩ := hranks
      have hattr := perm_of_length hchain.permAttribute hrank (by decide)
      rw [hattr,length_ints] at hrank
      rw [hchain.shape1 dims1 hdims1,length_ints] at hrank1
      rw [hattr,hchain.shape1 dims1 hdims1,hchain.shape2 dims2 hdims2] at h
      split at h
      · next i hi =>
        obtain rfl := Option.some.inj h
        obtain ⟨hfound,hmem,hbefore⟩ := List.find?_range_eq_some.mp hi
        have hlt : i < 6 := mem_range.mp hmem
        refine .squeeze ((fixedUnit_iff hrank1 hrank hlt).mp (of_decide_eq_true hfound)) ?_
        intro j hj hunit
        have hnot := hbefore j hj
        rw [decide_eq_true ((fixedUnit_iff hrank1 hrank (by omega)).mpr hunit)] at hnot
        cases hnot
      · next hnone =>
        split at h
        · next hleading =>
          obtain rfl := Option.some.inj h
          rw [ints_getD,ints_getD] at hleading
          refine .mergeLeading ?_ (getElem?_of_getD (by omega) ?_) (getElem?_of_getD (by omega) ?_)
          · intro j hunit
            have hlt : j < 6 := hrank1 ▸ (List.getElem?_eq_some_iff.mp hunit.unit).1
            have hnot := List.find?_eq_none.mp hnone j (mem_range.mpr hlt)
            exact hnot (decide_eq_true ((fixedUnit_iff hrank1 hrank hlt).mpr hunit))
          · exact_mod_cast hleading.1
          · exact_mod_cast hleading.2
        · cases h
    · cases h
  · cases h

theorem loweredPerm_squeeze {index : Nat} (hsmall : ∀ v ∈ perm, v < 2 ^ 32) :
    loweredPerm (.squeeze index) (ints perm) = (perm.eraseIdx index).map (lowered index) := by
  rw [loweredPerm,ints,eraseIdx_map,map_map]
  exact map_congr_left fun v hv =>
    uint32_lowered (hsmall v ((eraseIdx_sublist _ _).subset hv))

theorem loweredPerm_mergeLeading (hsmall : ∀ v ∈ perm, v < 2 ^ 32) (hnodup : perm.Nodup)
    (hfirst : perm[0]? = some 0) (hsecond : perm[1]? = some 1) :
    loweredPerm .mergeLeading (ints perm) = (perm.eraseIdx 1).map (lowered 1) := by
  obtain ⟨hsplit,herase⟩ := split_adjacent hfirst hsecond
  rw [take_zero,nil_append,Nat.zero_add,Nat.zero_add] at hsplit
  rw [take_zero,nil_append,Nat.zero_add,Nat.zero_add] at herase
  rw [herase,loweredPerm,ints_drop,ints,map_map,map_cons]
  refine congrArg _ (map_congr_left fun v hv => ?_)
  rw [hsplit] at hnodup
  have hlt := hsmall v ((drop_sublist _ _).subset hv)
  have hzero : v ≠ 0 := by
    rintro rfl
    exact (nodup_cons.mp hnodup).1 (mem_cons_of_mem _ hv)
  have hone : v ≠ 1 := by
    rintro rfl
    exact (nodup_cons.mp (nodup_cons.mp hnodup).2).1 hv
  simp only [Function.comp_apply,uint32,lowered]
  split_ifs <;> omega

theorem Created.dims (hchain : Consistent chain t1 t3 perm) (h : Created chain reduction low) :
    t1.length = 6 ∧ chain.perm.getD [] = ints perm ∧ low.t1.dims = loweredDims reduction t1 ∧
      low.t2.dims = loweredDims reduction (gather perm t1) ∧ low.t3.dims = qnnShape t3 := by
  obtain ⟨dims1,hdims1,hrank1,hlow1⟩ := h.shape1
  obtain ⟨dims2,hdims2,hrank2,hlow2⟩ := h.shape2
  have ht1 : dims1 = t1 :=
    onnxShape_eq hchain.shape1 hdims1 (by omega)
  have ht2 : dims2 = gather perm t1 := onnxShape_eq hchain.shape2 hdims2 (by omega)
  refine ⟨ht1 ▸ hrank1,perm_of_length hchain.permAttribute h.rank (by decide),?_,?_,
    onnxShape_ok hchain.shape3 h.shape3⟩
  · rw [hlow1,ht1]
  · rw [hlow2,ht2]

theorem lowered_chain_same {R : Type} (hchain : Consistent chain t1 t3 perm)
    (h : tryFusion chain = some low) :
    low.t2.dims = gather low.perm low.t1.dims ∧
      ∀ x : Tensor R,
        (runMoves low.moves x).Same (((x.reshape t1).transpose perm).reshape (qnnShape t3)) := by
  obtain ⟨reduction,hreduction,hcreated⟩ := tryFusion_some h
  obtain ⟨hrank,hattr,hlow1,hlow2,hout⟩ := hcreated.dims hchain
  have hprod : (qnnShape t3).prod = t1.prod := (prod_qnnShape t3).trans hchain.elements
  have hnodup : perm.Nodup := hchain.valid.nodup_iff.mpr nodup_range
  have hsmall : ∀ v ∈ perm, v < 2 ^ 32 := by
    intro v hv
    have := mem_range.mp (hchain.valid.mem_iff.mp hv)
    omega
  have hmoves (x : Tensor R) : runMoves low.moves x =
      ((x.reshape low.t1.dims).transpose low.perm).reshape low.t3.dims := rfl
  simp only [hmoves]
  rw [hlow1,hlow2,hcreated.perm,hattr,hout]
  rcases validatePatternConditions_some hchain hreduction with ⟨⟨hunit,hfixed⟩,_⟩ | ⟨_,hfirst,hsecond⟩
  · rw [loweredPerm_squeeze hsmall]
    exact ⟨(gather_squeezed hchain.valid hfixed).symm,
      fun x => squeezed_chain hchain.valid hunit hfixed hprod⟩
  · rw [loweredPerm_mergeLeading hsmall hnodup hfirst hsecond]
    exact ⟨(gather_merged (p := 0) (a := 0) hchain.valid hfirst hsecond).symm,
      fun x => merged_chain (p := 0) (a := 0) hchain.valid hfirst hsecond hprod⟩

end Rank6

namespace Rank5
variable {chain : ReshapeChain} {low : LoweredChain} {t1 t3 perm : List Nat} {p : Nat}

structure Created (chain : ReshapeChain) (p : Nat) (low : LoweredChain) : Prop where
  shape1 : ∃ dims, chain.t1.onnxShape = .ok dims ∧ dims.length = 5 ∧
    low.t1.dims = mergeDims ((chain.perm.getD []).getD p 0).toNat dims
  shape2 : low.t2.dims = gather low.perm low.t1.dims
  shape3 : chain.t3.onnxShape = .ok low.t3.dims
  rank : (chain.perm.getD []).length = 5
  index : p + 1 < 5
  adjacent : (chain.perm.getD []).getD (p + 1) 0 = (chain.perm.getD []).getD p 0 + 1
  perm : low.perm = ((chain.perm.getD []).eraseIdx (p + 1)).map fun v =>
    uint32 (if v > (chain.perm.getD []).getD (p + 1) 0 then v - 1 else v)

theorem createOrValidateOnQnn_ok (h : createOrValidateOnQnn chain p = .ok low) :
    Created chain p low := by
  obtain ⟨_,h⟩ := returnIf_bind_ok.mp h
  obtain ⟨dims1,hdims1,h⟩ := bind_ok h
  obtain ⟨dims2,hdims2,h⟩ := bind_ok h
  obtain ⟨hranks,h⟩ := returnIf_bind_ok.mp h
  obtain ⟨hperm,h⟩ := returnIf_bind_ok.mp h
  obtain ⟨hindices,h⟩ := returnIf_bind_ok.mp h
  obtain ⟨_,h⟩ := returnIf_bind_ok.mp h
  obtain ⟨_,h⟩ := returnIf_bind_ok.mp h
  obtain ⟨_,h⟩ := returnIf_bind_ok.mp h
  obtain ⟨info1,_,h⟩ := bind_ok h
  obtain ⟨info2,_,h⟩ := bind_ok h
  obtain ⟨info3,hinfo3,h⟩ := bind_ok h
  obtain rfl := Except.ok.inj h
  obtain ⟨hvalid,hindex⟩ := not_or.mp hperm
  exact ⟨⟨dims1,hdims1,not_not.mp (not_or.mp hranks).1,rfl⟩,rfl,(tensorInfo_ok hinfo3).1,
    (not_not.mp hvalid).1,not_le.mp hindex,not_not.mp (not_or.mp hindices).1,rfl⟩

theorem tryFusion_some (h : tryFusion chain = some low) : ∃ p, Created chain p low := by
  unfold tryFusion at h
  split at h
  · next p _ =>
    refine ⟨p,?_⟩
    cases hcreate : createOrValidateOnQnn chain p with
    | error e =>
      rw [hcreate] at h
      cases h
    | ok created =>
      rw [hcreate] at h
      obtain rfl := Option.some.inj h
      exact createOrValidateOnQnn_ok hcreate
  · cases h

theorem lowered_chain_same {R : Type} (hchain : Consistent chain t1 t3 perm)
    (h : tryFusion chain = some low) :
    low.t2.dims = gather low.perm low.t1.dims ∧
      ∀ x : Tensor R,
        (runMoves low.moves x).Same (((x.reshape t1).transpose perm).reshape (qnnShape t3)) := by
  obtain ⟨p,hcreated⟩ := tryFusion_some h
  refine ⟨hcreated.shape2,fun x => ?_⟩
  obtain ⟨dims,hdims,hrank,hlow⟩ := hcreated.shape1
  have hattr := perm_of_length hchain.permAttribute hcreated.rank (by decide)
  have ht1 : dims = t1 := onnxShape_eq hchain.shape1 hdims (by omega)
  have hprod : (qnnShape t3).prod = t1.prod := (prod_qnnShape t3).trans hchain.elements
  have hlen : perm.length = 5 := by
    rw [← length_ints,← hattr,hcreated.rank]
  have hindex := hcreated.index
  have hp : perm[p]? = some (perm.getD p 0) := getElem?_of_getD (by omega) rfl
  have hnext : perm.getD (p + 1) 0 = perm.getD p 0 + 1 := by
    have hadjacent := hcreated.adjacent
    rw [hattr,ints_getD,ints_getD] at hadjacent
    exact_mod_cast hadjacent
  have hperm : low.perm = (perm.eraseIdx (p + 1)).map (lowered (perm.getD p 0 + 1)) := by
    rw [hcreated.perm,hattr,ints_getD,hnext,ints,eraseIdx_map,map_map]
    refine map_congr_left fun v hv => uint32_lowered ?_
    have hmem := hchain.valid.mem_iff.mp ((eraseIdx_sublist _ _).subset hv)
    have := mem_range.mp hmem
    rw [← ht1] at this
    omega
  rw [hattr,ints_getD,Int.toNat_natCast,ht1] at hlow
  change (((x.reshape low.t1.dims).transpose low.perm).reshape low.t3.dims).Same _
  rw [hlow,hperm,onnxShape_ok hchain.shape3 hcreated.shape3]
  exact merged_chain hchain.valid hp (getElem?_of_getD (by omega) hnext) hprod

end Rank5

theorem lowered_chain_computes {R : Type} (rewrite : Rewrite) {chain : ReshapeChain}
    {low : LoweredChain} {t1 t3 perm : List Nat} (hchain : Consistent chain t1 t3 perm)
    (h : rewrite.tryFusion chain = some low) :
    low.t2.dims = gather low.perm low.t1.dims ∧
      ∀ x : Tensor R,
        (runMoves low.moves x).Same (((x.reshape t1).transpose perm).reshape (qnnShape t3)) := by
  cases rewrite with
  | rank6ToRank5 => exact Rank6.lowered_chain_same hchain h
  | rank5ToRank4 => exact Rank5.lowered_chain_same hchain h

def plainTensor (name : String) (shape : List Nat) : ChainTensor where
  name := name
  shape := some (ints shape)
  encoding := .undefined
  isLPBQ := false
  isBlockQuantized := false
  hasTensorInfo := true
  isGraphOutput := false

def plainChain (t0 t1 t3 perm : List Nat) : ReshapeChain where
  isShape1Constant := true
  isShape2Constant := true
  t0 := plainTensor "t0" t0
  t1 := plainTensor "t1" t1
  t2 := plainTensor "t2" (gather perm t1)
  t3 := plainTensor "t3" t3
  perm := some (ints perm)

theorem plainChain_consistent (t0 t1 t3 perm : List Nat) (hperm : perm.Perm (List.range t1.length))
    (h : t3.prod = t1.prod) : Consistent (plainChain t0 t1 t3 perm) t1 t3 perm where
  shape1 _ hdims := (Option.some.inj hdims).symm
  shape2 _ hdims := (Option.some.inj hdims).symm
  shape3 _ hdims := (Option.some.inj hdims).symm
  permAttribute _ hp := (Option.some.inj hp).symm
  valid := hperm
  elements := h

theorem lowered_chain_computes_samples :
    (∃ low, Rewrite.rank6ToRank5.tryFusion (plainChain [4,6] [2,1,2,3,1,2] [6,4] [0,3,2,1,4,5]) = some low ∧
      ∀ x : Tensor Nat, (runMoves low.moves x).Same
        (((x.reshape [2,1,2,3,1,2]).transpose [0,3,2,1,4,5]).reshape [6,4])) ∧
    ∃ low, Rewrite.rank5ToRank4.tryFusion (plainChain [4,6] [2,2,3,1,2] [24] [4,1,2,0,3]) = some low ∧
      ∀ x : Tensor Nat, (runMoves low.moves x).Same
        (((x.reshape [2,2,3,1,2]).transpose [4,1,2,0,3]).reshape [24]) :=
  ⟨⟨_,rfl,(lowered_chain_computes .rank6ToRank5 (plainChain_consistent [4,6] [2,1,2,3,1,2] [6,4] [0,3,2,1,4,5]
      (by decide) (by decide)) rfl).2⟩,
    ⟨_,rfl,(lowered_chain_computes .rank5ToRank4 (plainChain_consistent [4,6] [2,2,3,1,2] [24] [4,1,2,0,3]
      (by decide) (by decide)) rfl).2⟩⟩

end QnnEp.RankReduction
