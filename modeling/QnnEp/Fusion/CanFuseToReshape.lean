import QnnEp.Foundation.Reading
import QnnEp.Foundation.Regrouping

namespace QnnEp.TransposeReshapeTranspose
open List Reading Tensors
variable {idx : Nat} {groups : List (List Nat)}

def int64 (x : Int) : Int := x.bmod (2 ^ 64)

def sizeT (x : Int) : Nat := if x < 0 then (x + 2 ^ 64).toNat else x.toNat

theorem sizeT_cast (n : Nat) : sizeT (n : Int) = n := by
  rw [sizeT,if_neg (by omega),Int.toNat_natCast]

def getTransposePerm (perm : Option (List Int)) : List Int := perm.getD []

def accumulate (targetSize : Int) : List Int → Nat → Int → List Nat × Int
  | size :: rest, intermediateIdx, accumulatedSize =>
    if accumulatedSize < targetSize then
      let more := accumulate targetSize rest (intermediateIdx + 1) (int64 (accumulatedSize * size))
      (intermediateIdx :: more.1,more.2)
    else ([],accumulatedSize)
  | [], _, accumulatedSize => ([],accumulatedSize)

def reshapeMapping (intermediateShape : List Int) : List Int → Nat → Option (List (List Nat))
  | [], _ => some []
  | targetSize :: targets, intermediateIdx =>
    let taken := accumulate targetSize (intermediateShape.drop intermediateIdx) intermediateIdx 1
    if taken.2 ≠ targetSize then none
    else if taken.1 = [] then
      if intermediateShape[intermediateIdx]? ≠ some 1 then none
      else (reshapeMapping intermediateShape targets (intermediateIdx + 1)).map ([intermediateIdx] :: ·)
    else (reshapeMapping intermediateShape targets (intermediateIdx + taken.1.length)).map (taken.1 :: ·)

def countInOrder (expectedNextDim : Nat) : List Nat → Option Nat
  | [] => some expectedNextDim
  | origDim :: rest =>
    if origDim ≠ expectedNextDim then none else countInOrder (expectedNextDim + 1) rest

def readOrigDim (perm1 : List Int) (intermediateDim : Nat) : Except ReadError Nat := do
  let origDim ← read perm1 intermediateDim
  return sizeT origDim

def readFinalGroup (perm1 perm2 : List Int) (mapping : List (List Nat)) (i : Nat) :
    Except ReadError (List Nat) := do
  let srcIdx ← read perm2 i
  let axes ← read mapping (sizeT srcIdx)
  axes.mapM (readOrigDim perm1)

def readDimSize (inputShape : List Int) (axes : List Nat) : Except ReadError Int :=
  axes.foldlM (fun dimSize origDim => do
    let size ← read inputShape origDim
    return int64 (dimSize * size)) 1

def canFuseToReshape (inputShape perm1 intermediateShape reshapeShape perm2 outputShape : List Int) :
    Except ReadError (Option (List Int)) :=
  match reshapeMapping intermediateShape reshapeShape 0 with
  | none => .ok none
  | some mapping => do
    let finalMapping ← (List.range outputShape.length).mapM (readFinalGroup perm1 perm2 mapping)
    if countInOrder 0 finalMapping.flatten ≠ some inputShape.length then return none
    let fusedShape ← finalMapping.mapM (readDimSize inputShape)
    return if fusedShape = outputShape then some fusedShape else none

structure TransposeChain where
  inputShape : Option (List Int)
  intermediateShape : Option (List Int)
  reshapeShape : Option (List Int)
  outputShape : Option (List Int)
  perm1 : Option (List Int)
  perm2 : Option (List Int)

def tryFusion (chain : TransposeChain) : Except ReadError (Option (List Int)) :=
  match chain.inputShape, chain.intermediateShape, chain.reshapeShape, chain.outputShape with
  | some inputShape, some intermediateShape, some reshapeShape, some outputShape =>
    canFuseToReshape inputShape (getTransposePerm chain.perm1) intermediateShape reshapeShape
      (getTransposePerm chain.perm2) outputShape
  | _, _, _, _ => .ok none

theorem countInOrder_eq {next n : Nat} {dims : List Nat} (h : countInOrder next dims = some n) :
    dims = List.range' next dims.length ∧ n = next + dims.length := by
  induction dims generalizing next with
  | nil => exact ⟨rfl,(Option.some.inj h).symm⟩
  | cons d ds ih =>
    rw [countInOrder] at h
    split at h
    · cases h
    · next hd =>
      obtain ⟨hds,hn⟩ := ih h
      have hd : d = next := by simpa using hd
      refine ⟨?_,?_⟩
      · rw [length_cons,range'_succ,hd,← hds]
      · rw [hn,length_cons]
        omega

theorem int64_int64 (x : Int) : int64 (int64 x) = int64 x := Int.bmod_bmod

theorem int64_emod (x : Int) : int64 x % 2 ^ 64 = x % 2 ^ 64 := Int.bmod_emod

theorem int64_lt (x : Int) : int64 x < 2 ^ 63 := by
  have := Int.bmod_lt (x := x) (show 0 < 2 ^ 64 by decide)
  unfold int64
  omega

theorem int64_of_lt {x : Int} (h : 0 ≤ x) (h' : x < 2 ^ 63) : int64 x = x :=
  Int.bmod_eq_of_le_mul_two (by omega) (by omega)

structure Accumulated (targetSize : Int) (sizes : List Nat) (idx : Nat) (start : Int)
    (taken : List Nat × Int) : Prop where
  consecutive : taken.1 = List.range' idx taken.1.length
  inside : taken.1.length ≤ sizes.length
  unmoved : taken.1 = [] → taken.2 = start
  product : taken.2 % 2 ^ 64 = start * ((sizes.take taken.1.length).prod : Nat) % 2 ^ 64
  fits : int64 taken.2 = taken.2
  entered : taken.1 ≠ [] → start < targetSize
  last : taken.1 ≠ [] → taken.2 = targetSize → (sizes.take taken.1.length).getLast? ≠ some 1

theorem accumulate_spec (targetSize : Int) (sizes : List Nat) (idx : Nat) {start : Int}
    (hstart : int64 start = start) :
    Accumulated targetSize sizes idx start (accumulate targetSize (ints sizes) idx start) := by
  have hstop : Accumulated targetSize sizes idx start ([],start) :=
    ⟨rfl,Nat.zero_le _,fun _ => rfl,by simp,hstart,fun h => absurd rfl h,fun h => absurd rfl h⟩
  induction sizes generalizing idx start with
  | nil => exact hstop
  | cons size rest ih =>
    rw [ints_cons,accumulate]
    split
    · next hlt =>
      have hnext : int64 (int64 (start * size)) = int64 (start * size) := int64_int64 _
      have hrest := ih (idx + 1) hnext
        ⟨rfl,Nat.zero_le _,fun _ => rfl,by simp,hnext,fun h => absurd rfl h,fun h => absurd rfl h⟩
      let more := accumulate targetSize (ints rest) (idx + 1) (int64 (start * size))
      refine ⟨?_,Nat.succ_le_succ hrest.inside,fun h => (by cases h),?_,hrest.fits,fun _ => hlt,?_⟩
      · change idx :: more.1 = List.range' idx (more.1.length + 1)
        rw [range'_succ,← hrest.consecutive]
      · change more.2 % 2 ^ 64 = start * ((size :: rest.take more.1.length).prod : Nat) % 2 ^ 64
        rw [hrest.product,prod_cons,Nat.cast_mul,← Int.mul_assoc,Int.mul_emod,int64_emod,
          ← Int.mul_emod]
      · intro _ htarget
        change (size :: rest.take more.1.length).getLast? ≠ some 1
        by_cases hmore : more.1 = []
        · rw [hmore]
          intro hone
          have hsize : size = 1 := by simpa using hone
          have hend : more.2 = int64 (start * size) := hrest.unmoved hmore
          rw [hsize,Nat.cast_one,Int.mul_one,hstart] at hend
          have : more.2 = targetSize := htarget
          omega
        · have hne : rest.take more.1.length ≠ [] := by
            intro hnil
            have hlen := congrArg List.length hnil
            have hinside := hrest.inside
            rw [length_take,Nat.min_eq_left hinside] at hlen
            exact hmore (length_eq_zero_iff.mp hlen)
          rw [List.getLast?_cons_of_ne_nil hne]
          exact hrest.last hmore htarget
    · exact ⟨rfl,Nat.zero_le _,fun _ => rfl,by simp,hstart,fun h => absurd rfl h,fun h => absurd rfl h⟩

structure GroupFits (sizes : List Nat) (targetSize : Int) (axes : List Nat) : Prop where
  nonempty : axes ≠ []
  positive : 1 ≤ targetSize
  bounded : targetSize ≤ ((gather axes sizes).prod : Nat)
  shape : targetSize = 1 ∧ gather axes sizes = [1] ∨
    1 < targetSize ∧ (gather axes sizes).getLast? ≠ some 1

structure Mapped (sizes : List Nat) (targets : List Int) (idx : Nat) (groups : List (List Nat)) : Prop where
  consecutive : groups.flatten = List.range' idx groups.flatten.length
  inside : idx + groups.flatten.length ≤ sizes.length
  fits : List.Forall₂ (GroupFits sizes) targets groups

theorem Mapped.cons {sizes : List Nat} {targetSize : Int} {targets : List Int} {idx n : Nat}
    {groups : List (List Nat)} (hfits : GroupFits sizes targetSize (List.range' idx n))
    (h : Mapped sizes targets (idx + n) groups) :
    Mapped sizes (targetSize :: targets) idx (List.range' idx n :: groups) := by
  have hlen : (List.range' idx n :: groups).flatten.length = n + groups.flatten.length := by
    rw [flatten_cons,length_append,length_range']
  refine ⟨?_,?_,.cons hfits h.fits⟩
  · rw [hlen,flatten_cons,h.consecutive,length_range',range'_append_1]
  · rw [hlen,← Nat.add_assoc]
    exact h.inside

theorem groupFits_of_accumulated {sizes : List Nat} {targetSize : Int} {taken : List Nat × Int}
    (h : Accumulated targetSize (sizes.drop idx) idx 1 taken) (hidx : idx ≤ sizes.length)
    (htarget : taken.2 = targetSize) (htaken : taken.1 ≠ []) :
    idx + taken.1.length ≤ sizes.length ∧
      GroupFits sizes targetSize (List.range' idx taken.1.length) := by
  have hinside : idx + taken.1.length ≤ sizes.length := by
    have := h.inside
    rw [length_drop] at this
    omega
  have hentered := h.entered htaken
  have hgather := gather_range' hinside
  have hproduct := h.product
  have hlt : targetSize < 2 ^ 63 := by
    rw [← htarget,← h.fits]
    exact int64_lt _
  refine ⟨hinside,⟨?_,by omega,?_,.inr ⟨hentered,?_⟩⟩⟩
  · rw [← h.consecutive]
    exact htaken
  · rw [hgather]
    rw [htarget,Int.one_mul] at hproduct
    omega
  · rw [hgather]
    exact h.last htaken htarget

theorem reshapeMapping_spec {sizes : List Nat} {targets : List Int}
    (h : reshapeMapping (ints sizes) targets idx = some groups) (hidx : idx ≤ sizes.length) :
    Mapped sizes targets idx groups := by
  induction targets generalizing idx groups with
  | nil =>
    obtain rfl := Option.some.inj h
    exact ⟨rfl,hidx,.nil⟩
  | cons targetSize targets ih =>
    rw [reshapeMapping,ints_drop] at h
    have hspec := accumulate_spec targetSize (sizes.drop idx) idx (show int64 1 = 1 by decide)
    generalize accumulate targetSize (ints (sizes.drop idx)) idx 1 = taken at h hspec
    split at h
    · cases h
    · next htarget =>
      have htarget : taken.2 = targetSize := by simpa using htarget
      split at h
      · next hempty =>
        split at h
        · cases h
        · next hone =>
          obtain ⟨rest,hrest,rfl⟩ := Option.map_eq_some_iff.mp h
          have hunit : sizes[idx]? = some 1 := by
            rw [ne_eq,not_not,ints_getElem?] at hone
            obtain ⟨n,hn,hn1⟩ := Option.map_eq_some_iff.mp hone
            rw [hn,Nat.cast_eq_one.mp hn1]
          have hlt : idx < sizes.length := (List.getElem?_eq_some_iff.mp hunit).1
          have hgather : gather [idx] sizes = [1] := by
            rw [gather,map_singleton,getD_eq_getElem?_getD,hunit]
            rfl
          have hstart := hspec.unmoved hempty
          refine Mapped.cons (n := 1) ⟨by simp,by omega,?_,.inl ⟨by omega,hgather⟩⟩ (ih hrest hlt)
          change targetSize ≤ ((gather [idx] sizes).prod : Nat)
          rw [hgather,← htarget,hstart]
          decide
      · next hnonempty =>
        obtain ⟨rest,hrest,rfl⟩ := Option.map_eq_some_iff.mp h
        obtain ⟨hinside,hfits⟩ := groupFits_of_accumulated hspec hidx htarget hnonempty
        rw [hspec.consecutive]
        rw [hspec.consecutive,length_range'] at hrest
        exact Mapped.cons hfits (ih hrest hinside)

theorem Mapped.targets_le {sizes targets : List Nat} (h : Mapped sizes (ints targets) idx groups) :
    List.Forall₂ (· ≤ ·) targets (groupSizes sizes groups) ∧ ∀ d ∈ targets, 0 < d := by
  have hfits := h.fits
  rw [ints,forall₂_map_left_iff] at hfits
  refine ⟨?_,?_⟩
  · rw [groupSizes,forall₂_map_right_iff]
    exact hfits.imp fun _ _ hgroup => Int.ofNat_le.mp hgroup.bounded
  · intro d hd
    clear h
    induction hfits with
    | nil => cases hd
    | cons hgroup _ ih =>
      rcases mem_cons.mp hd with rfl | hd
      · exact Int.ofNat_le.mp hgroup.positive
      · exact ih hd

theorem Mapped.exact {sizes targets : List Nat} (h : Mapped sizes (ints targets) 0 groups)
    (hprod : targets.prod = sizes.prod) : targets = groupSizes sizes groups := by
  obtain ⟨hle,hpos⟩ := h.targets_le
  refine eq_of_le_of_prod_le hle hpos ?_
  rw [prod_groupSizes,h.consecutive,gather_range' h.inside,drop_zero,hprod]
  refine Nat.le_of_dvd (hprod ▸ prod_pos hpos) ?_
  exact Dvd.intro _ (prod_take_mul_prod_drop ..)

end QnnEp.TransposeReshapeTranspose
