import QnnEp.Foundation.Blocks
import QnnEp.Foundation.RankLowering
import QnnEp.Fusion.CanFuseToReshape
import QnnEp.Model.Shapes

namespace QnnEp.ChannelShuffle
open List Reading Scatter Shapes Status Tensors
open TransposeReshapeTranspose (getTransposePerm sizeT sizeT_cast)

structure ShuffleCore where
  inputShape : Option (List Int)
  intermediateShape : Option (List Int)
  perm : Option (List Int)
  outputShape : Option (List Int)

structure ShuffleChain extends ShuffleCore where
  headPerm : Option (List Int)
  tailPerm : Option (List Int)
  tailShape : Option (List Int)
  boundaryRank : Nat
  isPostLayoutTransform : Bool
  tensorStatus : Except String Unit

structure ChannelShuffleCoreInfo where
  numGroups : Nat
  isNhwcDecomp : Bool
  deriving DecidableEq, Repr

structure ChannelShuffleNode where
  axis : Nat
  numGroups : Nat
  deriving DecidableEq, Repr

def invertPerm (perm : List Int) : Option (List Int) :=
  if ∀ axis ∈ perm, sizeT axis < perm.length then
    some (scatter (fun i => sizeT (perm.getD i 0)) (fun i : Nat => (i : Int)) (List.range perm.length)
      (List.replicate perm.length 0))
  else none

def isCancelingTransposePermPair (perm1 perm2 : List Int) : Bool :=
  perm1.length == perm2.length && invertPerm perm1 == some perm2

def normalizeChannelShuffleIntermediateShape (inputDims reshape1OutputDims : List Nat) :
    Option (List Nat × Bool) :=
  if reshape1OutputDims.length = inputDims.length + 1 then some (reshape1OutputDims,false)
  else if reshape1OutputDims.length = inputDims.length ∧ inputDims.getD 0 0 = 1 then
    some (1 :: reshape1OutputDims,true)
  else none

def liftPerm (wasCollapsed : Bool) (rank : Nat) (perm : List Int) : Option (List Int) :=
  if wasCollapsed then
    if perm.length + 1 ≠ rank then none else some (0 :: perm.map fun axis => axis + 1)
  else some perm

def nchwPerm (rank : Nat) : List Nat := ((List.range rank).set 1 2).set 2 1

def nhwcToNchwPerm (rank : Nat) : List Nat := 0 :: (rank - 1) :: (rank - 2) :: List.range' 1 (rank - 3)

def nchwCoreInfo (inputShape intermediateShape outputShape : List Nat) : Option ChannelShuffleCoreInfo :=
  if outputShape ≠ inputShape ∨
      inputShape.getD 1 0 ≠ intermediateShape.getD 1 0 * intermediateShape.getD 2 0 % 2 ^ 32 ∨
      inputShape.drop 2 ≠ intermediateShape.drop 3 then none
  else some ⟨intermediateShape.getD 1 0,false⟩

def nhwcCoreInfo (inputShape intermediateShape outputShape : List Nat) : Option ChannelShuffleCoreInfo :=
  let splitAxis := intermediateShape.length - 2
  let back := inputShape.getLastD 0
  let spatial := inputShape.dropLast.drop 1
  let expectedNchwOutput := inputShape.getD 0 0 :: back :: spatial
  if back ≠ intermediateShape.getD splitAxis 0 * intermediateShape.getD (splitAxis + 1) 0 % 2 ^ 32 ∨
      spatial ≠ (intermediateShape.drop 1).take spatial.length ∨ outputShape ≠ expectedNchwOutput then none
  else some ⟨intermediateShape.getD splitAxis 0,true⟩

def getChannelShuffleCoreInfo (core : ShuffleCore) : Option ChannelShuffleCoreInfo := do
  let inputShape ← getOnnxShape core.inputShape
  guard (3 ≤ inputShape.length)
  let reshape1Output ← getOnnxShape core.intermediateShape
  let outputShape ← getOnnxShape core.outputShape
  guard (outputShape.length = inputShape.length)
  let normalized ← normalizeChannelShuffleIntermediateShape inputShape reshape1Output
  let intermediateShape := normalized.1
  guard (intermediateShape.length = inputShape.length + 1 ∧
    intermediateShape.getD 0 0 = inputShape.getD 0 0)
  let perm ← liftPerm normalized.2 intermediateShape.length (getTransposePerm core.perm)
  if perm = ints (nchwPerm intermediateShape.length) then
    nchwCoreInfo inputShape intermediateShape outputShape
  else if perm = ints (nhwcToNchwPerm intermediateShape.length) then
    nhwcCoreInfo inputShape intermediateShape outputShape
  else none

def createOrValidateOnQnn (chain : ShuffleChain) : Except String ChannelShuffleNode :=
  match getChannelShuffleCoreInfo chain.toShuffleCore with
  | none => .error "ChannelShuffleFusion: invalid reshape/transpose core signature."
  | some info => do
    chain.tensorStatus
    return ⟨chain.boundaryRank - 1,info.numGroups⟩

def tryFusion (chain : ShuffleChain) : Option ChannelShuffleNode := do
  let coreInfo ← getChannelShuffleCoreInfo chain.toShuffleCore
  guard (coreInfo.isNhwcDecomp = false)
  let permHead := getTransposePerm chain.headPerm
  let permTail := getTransposePerm chain.tailPerm
  guard (isCancelingTransposePermPair permHead permTail = true)
  guard (2 ≤ permHead.length ∧ permHead.getD 1 0 = ((permHead.length - 1 : Nat) : Int))
  (createOrValidateOnQnn chain).toOption

def tryFusionFromReshape (chain : ShuffleChain) : Option ChannelShuffleNode := do
  guard (chain.isPostLayoutTransform = true)
  let coreInfo ← getChannelShuffleCoreInfo chain.toShuffleCore
  guard (coreInfo.isNhwcDecomp = true)
  guard (getTransposePerm chain.tailPerm = [0,2,3,1])
  let inputShape ← getOnnxShape chain.inputShape
  let outputShape ← getOnnxShape chain.tailShape
  guard (2 ≤ inputShape.length ∧ inputShape = outputShape)
  (createOrValidateOnQnn chain).toOption

section
variable {R : Type}

def channelShuffle (axis numGroups : Nat) (t : Tensor R) : Tensor R :=
  axisGather (interleave numGroups (t.shape.getD axis 0)) axis t

def ChannelShuffleNode.run (node : ChannelShuffleNode) (t : Tensor R) : Tensor R :=
  channelShuffle node.axis node.numGroups t

def shuffleCore (dims perm out : List Nat) (t : Tensor R) : Tensor R :=
  ((t.reshape dims).transpose perm).reshape out

end

structure CoreConsistent (core : ShuffleCore) (input dims perm out : List Nat) : Prop where
  inputDims : ∀ s, core.inputShape = some s → s = ints input
  intermediateDims : ∀ s, core.intermediateShape = some s → s = ints dims
  outputDims : ∀ s, core.outputShape = some s → s = ints out
  permAttribute : ∀ p, core.perm = some p → p = ints perm
  splits : dims.prod = input.prod
  merges : out.prod = dims.prod

structure WrappedConsistent (chain : ShuffleChain) (boundary head dims perm out tail : List Nat) : Prop
    extends CoreConsistent chain.toShuffleCore (gather head boundary) dims perm out where
  headAttribute : ∀ p, chain.headPerm = some p → p = ints head
  tailAttribute : ∀ p, chain.tailPerm = some p → p = ints tail
  headPermutes : head.Perm (List.range boundary.length)
  rank : chain.boundaryRank = boundary.length

structure TailedConsistent (chain : ShuffleChain) (boundary dims perm out tail : List Nat) : Prop
    extends CoreConsistent chain.toShuffleCore boundary dims perm out where
  tailAttribute : ∀ p, chain.tailPerm = some p → p = ints tail
  tailPermutes : tail.Perm (List.range out.length)
  rank : chain.boundaryRank = boundary.length

section
variable {perm : List Nat} {n : Nat}

theorem invertPerm_ints (hperm : perm.Perm (List.range n)) :
    invertPerm (ints perm) = some (ints (invert perm)) := by
  have hlen : perm.length = n := by simpa using hperm.length_eq
  have hnodup : perm.Nodup := hperm.nodup_iff.mpr nodup_range
  have hposition (i : Nat) : sizeT ((ints perm).getD i 0) = perm.getD i 0 := by
    rw [ints_getD,sizeT_cast]
  have hinside : ∀ axis ∈ ints perm, sizeT axis < (ints perm).length := by
    intro axis haxis
    obtain ⟨k,hk,rfl⟩ := mem_map.mp haxis
    rw [sizeT_cast,length_ints,hlen]
    exact mem_range.mp (hperm.mem_iff.mp hk)
  rw [invertPerm,if_pos hinside]
  simp only [hposition,length_ints]
  congr 1
  have hinj : Set.InjOn (fun i => perm.getD i 0) {i | i ∈ List.range perm.length} := by
    intro i hi j hj heq
    have hi : i < perm.length := mem_range.mp hi
    have hj : j < perm.length := mem_range.mp hj
    simp only [getD_eq_getElem _ _ hi,getD_eq_getElem _ _ hj] at heq
    exact hnodup.getElem_inj_iff.mp heq
  refine ext_getElem? fun axis => ?_
  by_cases haxis : axis < perm.length
  · have hmem : axis ∈ perm := hperm.mem_iff.mpr (mem_range.mpr (hlen ▸ haxis))
    have hidx : perm.idxOf axis < perm.length := idxOf_lt_length_of_mem hmem
    have hget : perm.getD (perm.idxOf axis) 0 = axis := by
      rw [getD_eq_getElem _ _ hidx,getElem_idxOf hidx]
    have hlt : perm.getD (perm.idxOf axis) 0 < (List.replicate perm.length (0 : Int)).length := by
      rwa [length_replicate,hget]
    have hwritten := scatter_written (fun i => perm.getD i 0) (fun i : Nat => (i : Int)) hinj
      (mem_range.mpr hidx) hlt
    rw [hget] at hwritten
    rw [hwritten,ints_getElem?,List.getElem?_eq_getElem (by rwa [length_invert])]
    have hinv := invert_getD haxis
    rw [getD_eq_getElem _ _ (by rwa [length_invert])] at hinv
    rw [hinv]
    rfl
  · rw [List.getElem?_eq_none (by rw [length_scatter,length_replicate]; omega),
      List.getElem?_eq_none (by rw [length_ints,length_invert]; omega)]

theorem canceling_ints {tail : List Nat} (hperm : perm.Perm (List.range n))
    (h : isCancelingTransposePermPair (ints perm) (ints tail) = true) : tail = invert perm := by
  obtain ⟨_,h⟩ := (Bool.and_eq_true _ _).mp h
  have heq := eq_of_beq h
  rw [invertPerm_ints hperm] at heq
  exact (ints_injective (Option.some.inj heq)).symm

theorem gather_invert_self (hperm : perm.Perm (List.range n)) :
    gather (invert perm) perm = List.range n := by
  have hself : gather perm (List.range n) = perm := by
    refine (map_congr_left fun axis haxis => ?_).trans (map_id perm)
    have hlt : axis < n := mem_range.mp (hperm.mem_iff.mp haxis)
    rw [getD_eq_getElem _ _ (by rwa [length_range]),getElem_range]
    rfl
  have h := gather_invert hperm (length_range (n := n))
  rwa [hself] at h

end

section
variable {core : ShuffleCore} {input dims perm out full fullPerm : List Nat} {info : ChannelShuffleCoreInfo}

theorem lifted_cases {wasCollapsed : Bool} {rank : Nat} {attr : Option (List Int)}
    (hattr : ∀ p, attr = some p → p = ints perm)
    (h : liftPerm wasCollapsed rank (getTransposePerm attr) = some (ints fullPerm))
    (hlen : 2 ≤ fullPerm.length) :
    fullPerm = if wasCollapsed then 0 :: perm.map (fun axis => axis + 1) else perm := by
  have hfound : getTransposePerm attr = ints perm ∨ getTransposePerm attr = [] := by
    cases attr with
    | none => exact .inr rfl
    | some p => exact .inl (hattr p rfl)
  cases wasCollapsed with
  | false =>
    have heq : getTransposePerm attr = ints fullPerm := Option.some.inj h
    rcases hfound with hp | hp
    · exact (ints_injective (hp.symm.trans heq)).symm
    · have := congrArg List.length (hp.symm.trans heq)
      rw [length_ints,length_nil] at this
      omega
  | true =>
    rw [liftPerm,if_pos rfl] at h
    split at h
    · cases h
    · have heq := Option.some.inj h
      rcases hfound with hp | hp
      · rw [hp] at heq
        refine ints_injective (heq.symm.trans ?_)
        simp [ints]
      · rw [hp] at heq
        have := congrArg List.length heq
        rw [length_ints] at this
        simp only [map_nil,length_cons,length_nil] at this
        omega

structure CoreAccepted (input dims perm out full fullPerm : List Nat) (info : ChannelShuffleCoreInfo) :
    Prop where
  rank : 3 ≤ input.length
  fullRank : full.length = input.length + 1
  batch : full.getD 0 0 = input.getD 0 0
  restored : Restored dims perm full fullPerm
  decided : fullPerm = nchwPerm full.length ∧ nchwCoreInfo input full out = some info ∨
    fullPerm = nhwcToNchwPerm full.length ∧ nhwcCoreInfo input full out = some info

theorem length_nchwPerm (rank : Nat) : (nchwPerm rank).length = rank := by simp [nchwPerm]

theorem length_nhwcToNchwPerm {rank : Nat} (h : 3 ≤ rank) : (nhwcToNchwPerm rank).length = rank := by
  simp only [nhwcToNchwPerm,length_cons,length_range']
  omega

theorem normalize_cases {full : List Nat} {wasCollapsed : Bool}
    (h : normalizeChannelShuffleIntermediateShape input dims = some (full,wasCollapsed)) :
    input.length ≤ dims.length ∧ full = if wasCollapsed then 1 :: dims else dims := by
  unfold normalizeChannelShuffleIntermediateShape at h
  split_ifs at h with hnormal hcollapsed
  · cases h
    exact ⟨by omega,rfl⟩
  · cases h
    exact ⟨by omega,rfl⟩

theorem accepted_of_coreInfo (hcore : CoreConsistent core input dims perm out)
    (h : getChannelShuffleCoreInfo core = some info) :
    ∃ full fullPerm, CoreAccepted input dims perm out full fullPerm info := by
  unfold getChannelShuffleCoreInfo at h
  obtain ⟨inputShape,hinput,h⟩ := Option.bind_eq_some_iff.mp h
  obtain ⟨hrank,h⟩ := guard_bind_some.mp h
  obtain ⟨reshaped,hreshaped,h⟩ := Option.bind_eq_some_iff.mp h
  obtain ⟨outputShape,houtput,h⟩ := Option.bind_eq_some_iff.mp h
  obtain ⟨houtRank,h⟩ := guard_bind_some.mp h
  obtain ⟨⟨full,wasCollapsed⟩,hnormal,h⟩ := Option.bind_eq_some_iff.mp h
  obtain ⟨⟨hfull,hbatch⟩,h⟩ := guard_bind_some.mp h
  obtain ⟨lifted,hlift,h⟩ := Option.bind_eq_some_iff.mp h
  obtain ⟨hle,hshape⟩ := normalize_cases hnormal
  obtain rfl := getOnnxShape_exact hcore.inputDims hinput (by omega)
  obtain rfl := getOnnxShape_exact hcore.outputDims houtput (by omega)
  obtain rfl := getOnnxShape_exact hcore.intermediateDims hreshaped (by omega)
  have hsmall : 3 ≤ full.length := by
    change full.length = inputShape.length + 1 at hfull
    omega
  change (if lifted = ints (nchwPerm full.length) then nchwCoreInfo inputShape full outputShape
    else if lifted = ints (nhwcToNchwPerm full.length) then nhwcCoreInfo inputShape full outputShape
    else none) = some info at h
  split_ifs at h with hnchw hnhwc
  · rw [hnchw] at hlift
    have hperm := lifted_cases hcore.permAttribute hlift (by rw [length_nchwPerm]; omega)
    exact ⟨full,nchwPerm full.length,hrank,hfull,hbatch,
      by rw [hperm,hshape]; exact restored_ite wasCollapsed reshaped perm,.inl ⟨rfl,h⟩⟩
  · rw [hnhwc] at hlift
    have hperm := lifted_cases hcore.permAttribute hlift (by rw [length_nhwcToNchwPerm hsmall]; omega)
    exact ⟨full,nhwcToNchwPerm full.length,hrank,hfull,hbatch,
      by rw [hperm,hshape]; exact restored_ite wasCollapsed reshaped perm,.inr ⟨rfl,h⟩⟩

theorem nchwCoreInfo_ok (h : nchwCoreInfo input full out = some info) :
    out = input ∧ input.getD 1 0 = full.getD 1 0 * full.getD 2 0 % 2 ^ 32 ∧
      input.drop 2 = full.drop 3 ∧ info = ⟨full.getD 1 0,false⟩ := by
  unfold nchwCoreInfo at h
  split_ifs at h with hno
  simp only [not_or,not_not] at hno
  exact ⟨hno.1,hno.2.1,hno.2.2,(Option.some.inj h).symm⟩

theorem nhwcCoreInfo_ok (h : nhwcCoreInfo input full out = some info) :
    input.getLastD 0 = full.getD (full.length - 2) 0 * full.getD (full.length - 2 + 1) 0 % 2 ^ 32 ∧
      input.dropLast.drop 1 = (full.drop 1).take (input.dropLast.drop 1).length ∧
      out = input.getD 0 0 :: input.getLastD 0 :: input.dropLast.drop 1 ∧
      info = ⟨full.getD (full.length - 2) 0,true⟩ := by
  unfold nhwcCoreInfo at h
  dsimp only at h
  split_ifs at h with hno
  simp only [not_or,not_not] at hno
  exact ⟨hno.1,hno.2.1,hno.2.2,(Option.some.inj h).symm⟩

end

section
variable {R : Type} {t : Tensor R} {input dims perm out full fullPerm : List Nat}
  {info : ChannelShuffleCoreInfo}

theorem nchwPerm_eq (n : Nat) : nchwPerm (n + 3) = 0 :: 2 :: 1 :: List.range' 3 n := by
  have hrange : List.range (n + 3) = 0 :: 1 :: 2 :: List.range' 3 n := by
    rw [range_eq_range']
    rfl
  rw [nchwPerm,hrange]
  rfl

theorem channels_exact {n p c d : Nat} (h : n * (d * p) = n * (c * p)) (hne : n * (c * p) ≠ 0) : c = d := by
  have hn : 0 < n := Nat.pos_of_ne_zero (left_ne_zero_of_mul hne)
  have hp : 0 < p := Nat.pos_of_ne_zero (right_ne_zero_of_mul (right_ne_zero_of_mul hne))
  exact (Nat.eq_of_mul_eq_mul_right hp (Nat.eq_of_mul_eq_mul_left hn h)).symm

theorem nchw_shuffles (hcore : CoreAccepted input dims perm out full fullPerm info)
    (hdecomp : info.isNhwcDecomp = false) (hsplits : dims.prod = input.prod)
    (ht : t.shape = input) :
    out = input ∧ (shuffleCore dims perm out t).Same (channelShuffle 1 info.numGroups t) := by
  obtain ⟨hperm,hinfo⟩ | ⟨_,hinfo⟩ := hcore.decided
  swap
  · rw [(nhwcCoreInfo_ok hinfo).2.2.2] at hdecomp
    cases hdecomp
  obtain ⟨rfl,_,hrest,rfl⟩ := nchwCoreInfo_ok hinfo
  refine ⟨rfl,?_⟩
  have hprod := hcore.restored.prod.trans hsplits
  by_cases hempty : out.prod = 0
  · exact same_of_empty ht.symm (ht ▸ hempty)
  obtain ⟨n,c,rest,rfl⟩ : ∃ n c rest, out = n :: c :: rest := by
    rcases out with _ | ⟨n,_ | ⟨c,rest⟩⟩
    · exact absurd hcore.rank (by simp)
    · exact absurd hcore.rank (by simp)
    · exact ⟨n,c,rest,rfl⟩
  obtain ⟨b,g,k,tail,rfl⟩ : ∃ b g k tail, full = b :: g :: k :: tail := by
    have hlen := hcore.fullRank
    rcases full with _ | ⟨b,_ | ⟨g,_ | ⟨k,tail⟩⟩⟩
    all_goals simp only [length_cons,length_nil] at hlen
    · omega
    · omega
    · omega
    · exact ⟨b,g,k,tail,rfl⟩
  obtain rfl : b = n := hcore.batch
  obtain rfl : rest = tail := hrest
  obtain rfl : c = g * k := by
    refine channels_exact (n := b) (p := rest.prod) ?_ hempty
    simpa [Nat.mul_assoc] using hprod
  have hpermutes : fullPerm.Perm (List.range (b :: g :: k :: rest).length) := by
    rw [hperm]
    exact nchwPerm_eq rest.length ▸ swap_perm rest.length
  refine (hcore.restored.same hpermutes hsplits.symm).trans ?_
  rw [hperm]
  change (((t.reshape (b :: g :: k :: rest)).transpose (nchwPerm (rest.length + 3))).reshape _).Same
    (axisGather (interleave g (t.shape.getD 1 0)) 1 t)
  rw [nchwPerm_eq,ht]
  exact swapped_groups ht

theorem nhwc_shuffles (hcore : CoreAccepted input dims perm out full fullPerm info)
    (hdecomp : info.isNhwcDecomp = true) (hsplits : dims.prod = input.prod) (hrank : out.length = 4)
    (ht : t.shape = input) :
    ((shuffleCore dims perm out t).transpose [0,2,3,1]).Same (channelShuffle 3 info.numGroups t) ∧
      input.length = 4 := by
  obtain ⟨_,hinfo⟩ | ⟨hperm,hinfo⟩ := hcore.decided
  · rw [(nchwCoreInfo_ok hinfo).2.2.2] at hdecomp
    cases hdecomp
  obtain ⟨_,hspatial,rfl,rfl⟩ := nhwcCoreInfo_ok hinfo
  have hprod := hcore.restored.prod.trans hsplits
  have hlen := hcore.fullRank
  have hfour : input.length = 4 := by
    have := hcore.rank
    simp only [length_cons,length_drop,length_dropLast] at hrank
    omega
  refine ⟨?_,hfour⟩
  obtain ⟨n,h,w,c,rfl⟩ := length_eq_four.mp hfour
  by_cases hempty : [n,h,w,c].prod = 0
  · exact same_of_empty ht.symm (ht ▸ hempty)
  obtain ⟨b,rest,rfl⟩ := exists_cons_of_length_eq_add_one hlen
  obtain ⟨h',w',g,k,rfl⟩ := length_eq_four.mp (Nat.succ.inj hlen)
  obtain rfl : b = n := hcore.batch
  obtain ⟨rfl,rfl⟩ : h = h' ∧ w = w' := by simpa using hspatial
  obtain rfl : c = g * k := by
    refine channels_exact (n := b * h * w) (p := 1) ?_ (by simpa [Nat.mul_assoc] using hempty)
    simpa [Nat.mul_assoc] using hprod
  have hmiddle : [0,4,3,1,2].Perm (List.range 5) := by decide
  have hswap := swapped_last_groups ht
  have hmerges : [b,g * k,h,w].prod = dims.prod := by
    rw [hsplits]
    simp only [prod_cons,prod_nil]
    ring
  have hrestored := hcore.restored.same (x := t) (hperm ▸ hmiddle) hmerges
  rw [hperm] at hrestored
  have htail : [0,2,3,1].Perm (List.range 4) := by decide
  rw [channelShuffle,ht]
  exact (hrestored.transpose htail).trans hswap

end

section
variable {R : Type} {x : Tensor R} {chain : ShuffleChain} {boundary head dims perm out tail : List Nat}
  {node : ChannelShuffleNode}

theorem created_node {info : ChannelShuffleCoreInfo}
    (hinfo : getChannelShuffleCoreInfo chain.toShuffleCore = some info)
    (h : (createOrValidateOnQnn chain).toOption = some node) :
    node = ⟨chain.boundaryRank - 1,info.numGroups⟩ := by
  unfold createOrValidateOnQnn at h
  rw [hinfo] at h
  cases hstatus : chain.tensorStatus with
  | error e =>
    rw [hstatus] at h
    cases h
  | ok _ =>
    rw [hstatus] at h
    exact (Option.some.inj h).symm

theorem wrapped_computes (hchain : WrappedConsistent chain boundary head dims perm out tail)
    (h : tryFusion chain = some node) (hx : x.shape = boundary) :
    (node.run x).Same ((shuffleCore dims perm out (x.transpose head)).transpose tail) := by
  unfold tryFusion at h
  obtain ⟨info,hinfo,h⟩ := Option.bind_eq_some_iff.mp h
  obtain ⟨hdecomp,h⟩ := guard_bind_some.mp h
  obtain ⟨hcancel,h⟩ := guard_bind_some.mp h
  obtain ⟨⟨hsize,hchannel⟩,h⟩ := guard_bind_some.mp h
  subst hx
  have hhead : getTransposePerm chain.headPerm = ints head := by
    cases hattr : chain.headPerm with
    | none =>
      rw [hattr] at hsize
      exact absurd hsize (by decide)
    | some p => exact hchain.headAttribute p hattr
  have hlen : head.length = x.shape.length := by simpa using hchain.headPermutes.length_eq
  have htail : getTransposePerm chain.tailPerm = ints tail := by
    cases hattr : chain.tailPerm with
    | none =>
      rw [hattr] at hcancel
      have hsizes := eq_of_beq ((Bool.and_eq_true _ _).mp hcancel).1
      rw [hsizes] at hsize
      exact absurd hsize (by decide)
    | some p => exact hchain.tailAttribute p hattr
  rw [hhead,htail] at hcancel
  rw [hhead] at hsize hchannel
  rw [ints_getD,length_ints] at hchannel
  rw [length_ints] at hsize
  obtain rfl := canceling_ints hchain.headPermutes hcancel
  have haxis : head[1]? = some (x.shape.length - 1) := by
    have hget := Int.ofNat.inj hchannel
    rw [getD_eq_getElem _ _ (by omega)] at hget
    rw [List.getElem?_eq_getElem (by omega),hget,hlen]
  obtain ⟨full,fullPerm,hcore⟩ := accepted_of_coreInfo hchain.toCoreConsistent hinfo
  obtain ⟨hshape,hsame⟩ := nchw_shuffles (t := x.transpose head) hcore hdecomp hchain.splits rfl
  obtain rfl := created_node hinfo h
  have hinvert := invert_perm hchain.headPermutes
  have hrank : (gather head x.shape).length = x.shape.length := (length_gather _ _).trans hlen
  have hmoved : (channelShuffle 1 info.numGroups (x.transpose head)).Same
      ((channelShuffle (x.shape.length - 1) info.numGroups x).transpose head) := by
    have hsize : (x.transpose head).shape.getD 1 0 = x.shape.getD (x.shape.length - 1) 0 :=
      gather_getD_of_getElem? haxis x.shape
    rw [channelShuffle,hsize]
    exact axisGather_transpose _ hchain.headPermutes haxis
  have hback := transpose_cancel (t := channelShuffle (x.shape.length - 1) info.numGroups x)
    hchain.headPermutes hinvert (gather_invert_self hchain.headPermutes)
  rw [ChannelShuffleNode.run,hchain.rank]
  refine hback.symm.trans (Tensor.Same.symm ?_)
  exact (hsame.trans hmoved).transpose (hrank.symm ▸ hinvert)

theorem tailed_computes (hchain : TailedConsistent chain boundary dims perm out tail)
    (h : tryFusionFromReshape chain = some node) (hx : x.shape = boundary) :
    (node.run x).Same ((shuffleCore dims perm out x).transpose tail) := by
  unfold tryFusionFromReshape at h
  obtain ⟨_,h⟩ := guard_bind_some.mp h
  obtain ⟨info,hinfo,h⟩ := Option.bind_eq_some_iff.mp h
  obtain ⟨hdecomp,h⟩ := guard_bind_some.mp h
  obtain ⟨hperm,h⟩ := guard_bind_some.mp h
  obtain ⟨inputShape,_,h⟩ := Option.bind_eq_some_iff.mp h
  obtain ⟨outputShape,_,h⟩ := Option.bind_eq_some_iff.mp h
  obtain ⟨_,h⟩ := guard_bind_some.mp h
  obtain rfl : tail = [0,2,3,1] := by
    cases hattr : chain.tailPerm with
    | none =>
      rw [hattr] at hperm
      cases hperm
    | some p =>
      rw [hattr] at hperm
      exact ints_injective ((hchain.tailAttribute p hattr).symm.trans hperm)
  have hrank : out.length = 4 := by simpa using hchain.tailPermutes.length_eq.symm
  obtain ⟨full,fullPerm,hcore⟩ := accepted_of_coreInfo hchain.toCoreConsistent hinfo
  obtain ⟨hsame,hfour⟩ := nhwc_shuffles hcore hdecomp hchain.splits hrank hx
  obtain rfl := created_node hinfo h
  rw [ChannelShuffleNode.run,hchain.rank,hfour]
  exact hsame.symm

theorem fused_shuffle_computes (hx : x.shape = boundary) :
    (WrappedConsistent chain boundary head dims perm out tail → tryFusion chain = some node →
      (node.run x).Same ((shuffleCore dims perm out (x.transpose head)).transpose tail)) ∧
    (TailedConsistent chain boundary dims perm out tail → tryFusionFromReshape chain = some node →
      (node.run x).Same ((shuffleCore dims perm out x).transpose tail)) :=
  ⟨fun hchain h => wrapped_computes hchain h hx,fun hchain h => tailed_computes hchain h hx⟩

end

def sampleChain (input dims perm out boundary : List Nat) (head : Option (List Nat)) : ShuffleChain where
  inputShape := some (ints input)
  intermediateShape := some (ints dims)
  perm := some (ints perm)
  outputShape := some (ints out)
  headPerm := head.map ints
  tailPerm := some (ints [0,2,3,1])
  tailShape := some (ints boundary)
  boundaryRank := boundary.length
  isPostLayoutTransform := true
  tensorStatus := .ok ()

theorem sampleChain_consistent (input dims perm out boundary : List Nat) (head : Option (List Nat))
    (hsplits : dims.prod = input.prod) (hmerges : out.prod = dims.prod) :
    CoreConsistent (sampleChain input dims perm out boundary head).toShuffleCore input dims perm out where
  inputDims _ hs := (Option.some.inj hs).symm
  intermediateDims _ hs := (Option.some.inj hs).symm
  outputDims _ hs := (Option.some.inj hs).symm
  permAttribute _ hp := (Option.some.inj hp).symm
  splits := hsplits
  merges := hmerges

def wrappedSample : ShuffleChain :=
  sampleChain [1,4,2,3] [2,2,2,3] [1,0,2,3] [1,4,2,3] [1,2,3,4] (some [0,3,1,2])

theorem wrappedSample_consistent :
    WrappedConsistent wrappedSample [1,2,3,4] [0,3,1,2] [2,2,2,3] [1,0,2,3] [1,4,2,3] [0,2,3,1] where
  toCoreConsistent := sampleChain_consistent _ _ _ _ _ _ (by decide) (by decide)
  headAttribute _ hp := (Option.some.inj hp).symm
  tailAttribute _ hp := (Option.some.inj hp).symm
  headPermutes := by decide
  rank := rfl

def tailedSample : ShuffleChain :=
  sampleChain [2,2,3,6] [2,2,3,3,2] [0,4,3,1,2] [2,6,2,3] [2,2,3,6] none

theorem tailedSample_consistent :
    TailedConsistent tailedSample [2,2,3,6] [2,2,3,3,2] [0,4,3,1,2] [2,6,2,3] [0,2,3,1] where
  toCoreConsistent := sampleChain_consistent _ _ _ _ _ _ (by decide) (by decide)
  tailAttribute _ hp := (Option.some.inj hp).symm
  tailPermutes := by decide
  rank := rfl

theorem fused_shuffle_computes_samples :
    (∃ node, tryFusion wrappedSample = some node ∧
      (node.run (Tensor.ofFlat [1,2,3,4] id)).Same ((shuffleCore [2,2,2,3] [1,0,2,3] [1,4,2,3]
        ((Tensor.ofFlat [1,2,3,4] id).transpose [0,3,1,2])).transpose [0,2,3,1])) ∧
    ∃ node, tryFusionFromReshape tailedSample = some node ∧
      (node.run (Tensor.ofFlat [2,2,3,6] id)).Same ((shuffleCore [2,2,3,3,2] [0,4,3,1,2] [2,6,2,3]
        (Tensor.ofFlat [2,2,3,6] id)).transpose [0,2,3,1]) :=
  ⟨⟨_,rfl,(fused_shuffle_computes rfl).1 wrappedSample_consistent rfl⟩,
    ⟨_,rfl,(@fused_shuffle_computes Nat (Tensor.ofFlat [2,2,3,6] id) _ _ [] _ _ _ _ _ rfl).2
      tailedSample_consistent rfl⟩⟩

end QnnEp.ChannelShuffle
