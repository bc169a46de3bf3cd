import QnnEp.Foundation.Blocks
import QnnEp.Foundation.RankLowering
import QnnEp.Fusion.CanFuseToReshape
import QnnEp.Model.Shapes

namespace QnnEp.DepthNodes
open Tensors

inductive DepthNode where
  | transpose (perm : List Nat)
  | spaceToDepth (mode : DepthMode) (blockHeight blockWidth : Nat)
  | gather (axis : Nat) (indices : List Int)
  deriving DecidableEq, Repr

section
variable {R : Type}

def gatherAxis (axis : Nat) (indices : List Int) (t : Tensor R) : Tensor R where
  shape := t.shape.set axis indices.length
  get idx := t.get (idx.set axis (indices.getD (idx.getD axis 0) 0).toNat)

def DepthNode.run : DepthNode → Tensor R → Option (Tensor R)
  | .transpose perm, t => do
    guard (perm.Perm (List.range t.shape.length))
    return t.transpose perm
  | .spaceToDepth mode blockHeight blockWidth, t => do
    guard (t.shape.length = 4 ∧ 0 < blockHeight ∧ 0 < blockWidth ∧ blockHeight ∣ t.shape.getD 1 0 ∧
      blockWidth ∣ t.shape.getD 2 0)
    return Tensors.spaceToDepth mode blockHeight blockWidth t
  | .gather axis indices, t => do
    guard (∀ v ∈ indices, 0 ≤ v ∧ v < t.shape.getD axis 0)
    return gatherAxis axis indices t

def runNodes (nodes : List DepthNode) (t : Tensor R) : Option (Tensor R) :=
  nodes.foldlM (fun u node => node.run u) t

variable {t : Tensor R} {nodes : List DepthNode}

theorem runNodes_nil (t : Tensor R) : runNodes [] t = some t := rfl

theorem runNodes_transpose {perm : List Nat} (hperm : perm.Perm (List.range t.shape.length)) :
    runNodes (.transpose perm :: nodes) t = runNodes nodes (t.transpose perm) := by
  rw [runNodes,List.foldlM_cons,DepthNode.run,guard,if_pos hperm]
  rfl

theorem runNodes_spaceToDepth {mode : DepthMode} {bh bw n h w c : Nat} (ht : t.shape = [n,h,w,c])
    (hbh : 0 < bh) (hbw : 0 < bw) (hh : bh ∣ h) (hw : bw ∣ w) :
    runNodes (.spaceToDepth mode bh bw :: nodes) t = runNodes nodes (spaceToDepth mode bh bw t) := by
  have hvalid : t.shape.length = 4 ∧ 0 < bh ∧ 0 < bw ∧ bh ∣ t.shape.getD 1 0 ∧ bw ∣ t.shape.getD 2 0 := by
    rw [ht]
    exact ⟨rfl,hbh,hbw,hh,hw⟩
  rw [runNodes,List.foldlM_cons,DepthNode.run,guard,if_pos hvalid]
  rfl

end

end QnnEp.DepthNodes

namespace QnnEp.SpaceToDepth
open DepthNodes List Reading Scatter Shapes Status Tensors
open TransposeReshapeTranspose (getTransposePerm int64)

structure SpaceToDepthChain where
  startIsGraphOutput : Bool
  inputShape : Option (List Int)
  intermediateShape : Option (List Int)
  perm : Option (List Int)
  outputShape : Option (List Int)
  transposeHead : Option (Option (List Int))
  transposeTail : Option (Option (List Int))
  isCpuBackend : Bool
  isPostLayoutTransform : Bool
  tensorStatus : Except String Unit

structure SpaceToDepthCoreInfo where
  blockHeight : Nat
  blockWidth : Nat
  mode : DepthMode
  isNhwcDecomp : Bool
  outputIsNhwc : Bool
  deriving DecidableEq, Repr

structure SpaceToDepthPattern extends SpaceToDepthCoreInfo where
  hasHeadTranspose : Bool
  hasTailTranspose : Bool
  deriving DecidableEq, Repr

def SpaceToDepthPattern.nodeCount (pattern : SpaceToDepthPattern) : Nat :=
  3 + pattern.hasHeadTranspose.toNat + pattern.hasTailTranspose.toNat

def permNchwToNhwc : List Nat := [0,2,3,1]

def permNhwcToNchw : List Nat := [0,3,1,2]

def isNhwcNchwTransposePair (headPerm tailPerm : List Int) : Bool :=
  headPerm.length == tailPerm.length && headPerm.all (fun p => 0 ≤ p && p < headPerm.length) &&
    scatter (fun i => (headPerm.getD i 0).toNat) (fun i : Nat => (i : Int)) (List.range headPerm.length)
      (List.replicate headPerm.length (-1)) == tailPerm

def normalizeIntermediateShapeAndPermToRank6 (rawShape : List Nat) (n : Nat) (rawPerm : List Int) :
    Option (List Nat × List Int) :=
  if rawShape.length = 6 ∧ rawPerm.length = 6 then some (rawShape,rawPerm)
  else if rawShape.length = 5 ∧ rawPerm.length = 5 ∧ n = 1 then
    some (1 :: rawShape,0 :: rawPerm.map fun p => p + 1)
  else none

def decomposition (perm : List Int) : Option (DepthMode × Bool) :=
  if perm = ints (nchwDepthPerm .dcr) then some (.dcr,false)
  else if perm = ints (nchwDepthPerm .crd) then some (.crd,false)
  else if perm = ints (nhwcDepthPerm .dcr) then some (.dcr,true)
  else if perm = ints (nhwcDepthPerm .crd) then some (.crd,true)
  else none

structure Split where
  channels : Nat
  height : Nat
  width : Nat
  heightDiv : Nat
  blockHeight : Nat
  widthDiv : Nat
  blockWidth : Nat
  channelMatches : Bool

def readSplit (isNhwcDecomp : Bool) (inputShape shape6d : List Nat) : Split :=
  if isNhwcDecomp then {
    heightDiv := shape6d.getD 1 0
    blockHeight := shape6d.getD 2 0
    widthDiv := shape6d.getD 3 0
    blockWidth := shape6d.getD 4 0
    channels := shape6d.getD 5 0
    height := inputShape.getD 1 0
    width := inputShape.getD 2 0
    channelMatches := inputShape.getD 3 0 == shape6d.getD 5 0 }
  else {
    channels := shape6d.getD 1 0
    heightDiv := shape6d.getD 2 0
    blockHeight := shape6d.getD 3 0
    widthDiv := shape6d.getD 4 0
    blockWidth := shape6d.getD 5 0
    height := inputShape.getD 2 0
    width := inputShape.getD 3 0
    channelMatches := inputShape.getD 1 0 == shape6d.getD 1 0 }

def getSpaceToDepthCoreInfo (chain : SpaceToDepthChain) : Option SpaceToDepthCoreInfo := do
  let inputShape ← getOnnxShape chain.inputShape
  guard (inputShape.length = 4)
  let outputShape ← getOnnxShape chain.outputShape
  guard (outputShape.length = 4)
  let rawIntermediateShape ← getOnnxShape chain.intermediateShape
  let n := inputShape.getD 0 0
  let normalized ← normalizeIntermediateShapeAndPermToRank6 rawIntermediateShape n
    (getTransposePerm chain.perm)
  let shape6d := normalized.1
  let decomp ← decomposition normalized.2
  guard (0 ∉ inputShape ∧ 0 ∉ outputShape)
  let s := readSplit decomp.2 inputShape shape6d
  guard (shape6d.getD 0 0 = n ∧ s.channelMatches = true ∧ 1 ≤ s.blockHeight ∧ 1 ≤ s.blockWidth)
  guard (s.height % s.blockHeight = 0 ∧ s.width % s.blockWidth = 0)
  guard (s.heightDiv = s.height / s.blockHeight ∧ s.widthDiv = s.width / s.blockWidth)
  let expectedC := int64 (int64 (s.channels * s.blockHeight) * s.blockWidth)
  guard (ints outputShape = [(n : Int),expectedC,((s.height / s.blockHeight : Nat) : Int),
    ((s.width / s.blockWidth : Nat) : Int)])
  return ⟨s.blockHeight,s.blockWidth,decomp.1,decomp.2,false⟩

def matchedHead (chain : SpaceToDepthChain) : Bool :=
  match chain.transposeHead with
  | some perm => getTransposePerm perm == ints permNhwcToNchw
  | none => false

def matchedTail (chain : SpaceToDepthChain) : Bool :=
  match chain.transposeTail with
  | some perm => getTransposePerm perm == ints permNchwToNhwc &&
      (!matchedHead chain || isNhwcNchwTransposePair (ints permNhwcToNchw) (getTransposePerm perm))
  | none => false

def matchPattern (chain : SpaceToDepthChain) : Option SpaceToDepthPattern := do
  let coreInfo ← getSpaceToDepthCoreInfo chain
  guard (¬(chain.isCpuBackend = true ∧ coreInfo.blockHeight ≠ coreInfo.blockWidth))
  guard (¬(matchedHead chain = true ∧ coreInfo.isNhwcDecomp = true))
  let pattern : SpaceToDepthPattern := ⟨coreInfo,matchedHead chain,matchedTail chain⟩
  guard (¬(pattern.nodeCount = 3 ∧ chain.isPostLayoutTransform = false))
  return pattern

def ensureRank4Shape (shape : Option (List Int)) (shapeName : String) : Except String (List Nat) :=
  match getOnnxShape shape with
  | none => .error ("Failed to get " ++ shapeName ++ " shape.")
  | some dims =>
    if dims.length = 4 then .ok dims
    else .error ("Expected rank-4 " ++ shapeName ++ " shape for NHWC SpaceToDepth.")

def layoutTranspose (needed : Bool) (shape : Option (List Int)) (shapeName : String) (perm : List Nat) :
    Except String (List DepthNode) :=
  if needed then do
    let _ ← ensureRank4Shape shape shapeName
    return [.transpose perm]
  else .ok []

def createOrValidateOnQnn (chain : SpaceToDepthChain) (pattern : SpaceToDepthPattern) :
    Except String (List DepthNode) := do
  let inputAlreadyNhwc := !pattern.hasHeadTranspose && pattern.isNhwcDecomp
  let needPreTranspose := !pattern.hasHeadTranspose && !inputAlreadyNhwc
  let needPostTranspose := !pattern.hasTailTranspose && !pattern.outputIsNhwc
  chain.tensorStatus
  let pre ← layoutTranspose needPreTranspose chain.inputShape "input" permNchwToNhwc
  let post ← layoutTranspose needPostTranspose chain.outputShape "output" permNhwcToNchw
  return pre ++ .spaceToDepth pattern.mode pattern.blockHeight pattern.blockWidth :: post

def tryFusion (chain : SpaceToDepthChain) : Option (SpaceToDepthPattern × List DepthNode) := do
  guard (chain.startIsGraphOutput = false)
  let pattern ← matchPattern chain
  let nodes ← (createOrValidateOnQnn chain pattern).toOption
  return (pattern,nodes)

section
variable {R : Type}

def SpaceToDepthPattern.source (pattern : SpaceToDepthPattern) (x : Tensor R) : Tensor R :=
  if pattern.hasHeadTranspose then x.transpose permNhwcToNchw else x

def SpaceToDepthPattern.result (pattern : SpaceToDepthPattern) (z : Tensor R) : Tensor R :=
  if pattern.hasTailTranspose then z.transpose permNchwToNhwc else z

def SpaceToDepthPattern.chain (pattern : SpaceToDepthPattern) (dims perm out : List Nat)
    (x : Tensor R) : Tensor R :=
  pattern.result ((((pattern.source x).reshape dims).transpose perm).reshape out)

end

structure Consistent (chain : SpaceToDepthChain) (input dims perm out : List Nat) : Prop where
  inputDims : ∀ s, chain.inputShape = some s → s = ints input
  intermediateDims : ∀ s, chain.intermediateShape = some s → s = ints dims
  outputDims : ∀ s, chain.outputShape = some s → s = ints out
  permAttribute : ∀ p, chain.perm = some p → p = ints perm
  splits : dims.prod = input.prod
  merges : out.prod = dims.prod

section
variable {chain : SpaceToDepthChain} {input dims perm out full fullPerm : List Nat}
  {info : SpaceToDepthCoreInfo}

def decompPerm (isNhwcDecomp : Bool) (mode : DepthMode) : List Nat :=
  if isNhwcDecomp then nhwcDepthPerm mode else nchwDepthPerm mode

theorem decomposition_ok {perm : List Int} {mode : DepthMode} {isNhwcDecomp : Bool}
    (h : decomposition perm = some (mode,isNhwcDecomp)) : perm = ints (decompPerm isNhwcDecomp mode) := by
  unfold decomposition at h
  split_ifs at h with h1 h2 h3 h4
  all_goals cases h
  · exact h1
  · exact h2
  · exact h3
  · exact h4

theorem normalize_cases {attr : Option (List Int)} {n : Nat} {perm6d : List Int} {mode : DepthMode}
    {isNhwcDecomp : Bool} (hattr : ∀ p, attr = some p → p = ints perm)
    (h : normalizeIntermediateShapeAndPermToRank6 dims n (getTransposePerm attr) = some (full,perm6d))
    (hdecomp : decomposition perm6d = some (mode,isNhwcDecomp)) :
    5 ≤ dims.length ∧ full.length = 6 ∧ Restored dims perm full (decompPerm isNhwcDecomp mode) := by
  have hperm6d := decomposition_ok hdecomp
  have hfound : getTransposePerm attr ≠ [] → getTransposePerm attr = ints perm := by
    intro hne
    cases attr with
    | none => exact absurd rfl hne
    | some p => exact hattr p rfl
  unfold normalizeIntermediateShapeAndPermToRank6 at h
  split_ifs at h with hkept hbatch
  · cases h
    have hattr' := hfound (ne_nil_of_length_pos (by omega))
    rw [hattr'] at hperm6d
    rw [← ints_injective hperm6d]
    exact ⟨by omega,hkept.1,.kept⟩
  · cases h
    have hattr' := hfound (ne_nil_of_length_pos (by omega))
    have hlift : 0 :: (ints perm).map (fun p => p + 1) = ints (0 :: perm.map fun axis => axis + 1) := by
      simp [ints]
    rw [hattr',hlift] at hperm6d
    rw [← ints_injective hperm6d]
    refine ⟨by omega,?_,.batch⟩
    rw [length_cons]
    omega

structure CoreAccepted (input dims perm out full : List Nat) (info : SpaceToDepthCoreInfo) (s : Split) :
    Prop where
  rank : input.length = 4
  outRank : out.length = 4
  fullRank : full.length = 6
  restored : Restored dims perm full (decompPerm info.isNhwcDecomp info.mode)
  nonzero : 0 ∉ input
  split : s = readSplit info.isNhwcDecomp input full
  blockHeight : info.blockHeight = s.blockHeight
  blockWidth : info.blockWidth = s.blockWidth
  batch : full.getD 0 0 = input.getD 0 0
  channels : s.channelMatches = true
  positive : 1 ≤ s.blockHeight ∧ 1 ≤ s.blockWidth
  divides : s.height % s.blockHeight = 0 ∧ s.width % s.blockWidth = 0
  divisions : s.heightDiv = s.height / s.blockHeight ∧ s.widthDiv = s.width / s.blockWidth
  outBatch : out.getD 0 0 = input.getD 0 0
  outSpatial : out.drop 2 = [s.heightDiv,s.widthDiv]
  nchwOutput : info.outputIsNhwc = false

theorem accepted_of_coreInfo (hchain : Consistent chain input dims perm out)
    (h : getSpaceToDepthCoreInfo chain = some info) :
    ∃ full s, CoreAccepted input dims perm out full info s := by
  unfold getSpaceToDepthCoreInfo at h
  obtain ⟨inputShape,hinput,h⟩ := Option.bind_eq_some_iff.mp h
  obtain ⟨hrank,h⟩ := guard_bind_some.mp h
  obtain ⟨outputShape,houtput,h⟩ := Option.bind_eq_some_iff.mp h
  obtain ⟨houtRank,h⟩ := guard_bind_some.mp h
  obtain ⟨raw,hraw,h⟩ := Option.bind_eq_some_iff.mp h
  obtain ⟨⟨full,perm6d⟩,hnormal,h⟩ := Option.bind_eq_some_iff.mp h
  obtain ⟨⟨mode,isNhwcDecomp⟩,hdecomp,h⟩ := Option.bind_eq_some_iff.mp h
  obtain ⟨hnonzero,h⟩ := guard_bind_some.mp h
  obtain ⟨⟨hbatch,hchannels,hpositive⟩,h⟩ := guard_bind_some.mp h
  obtain ⟨hdivides,h⟩ := guard_bind_some.mp h
  obtain ⟨hdivisions,h⟩ := guard_bind_some.mp h
  obtain ⟨hout,h⟩ := guard_bind_some.mp h
  obtain rfl := Option.some.inj h
  obtain ⟨hlong,hfull,hrestored⟩ := normalize_cases hchain.permAttribute hnormal hdecomp
  obtain rfl := getOnnxShape_exact hchain.inputDims hinput (by omega)
  obtain rfl := getOnnxShape_exact hchain.outputDims houtput (by omega)
  obtain rfl := getOnnxShape_exact hchain.intermediateDims hraw (by omega)
  obtain ⟨o,d,a,b,rfl⟩ := length_eq_four.mp houtRank
  simp only [ints_cons,List.cons.injEq] at hout
  obtain ⟨ho,_,ha,hb,_⟩ := hout
  refine ⟨full,readSplit isNhwcDecomp inputShape full,hrank,houtRank,hfull,hrestored,hnonzero.1,rfl,rfl,rfl,
    hbatch,hchannels,hpositive,hdivides,hdivisions,Int.ofNat.inj ho,?_,rfl⟩
  rw [hdivisions.1,hdivisions.2]
  change [a,b] = _
  rw [Int.ofNat.inj ha,Int.ofNat.inj hb]

end

section
variable {R : Type} {t : Tensor R} {input dims perm out full : List Nat} {info : SpaceToDepthCoreInfo}
  {s : Split}

theorem depth_exact {n d a b c bh bw : Nat} (h : n * d * a * b = n * c * a * bh * b * bw) (hn : n ≠ 0)
    (ha : a ≠ 0) (hb : b ≠ 0) : d = c * bh * bw := by
  have hpos : 0 < n * a * b :=
    Nat.pos_of_ne_zero (mul_ne_zero (mul_ne_zero hn ha) hb)
  refine Nat.eq_of_mul_eq_mul_left hpos ?_
  calc n * a * b * d = n * d * a * b := by ring
    _ = n * c * a * bh * b * bw := h
    _ = n * a * b * (c * bh * bw) := by ring

def nhwcView (info : SpaceToDepthCoreInfo) (t : Tensor R) : Tensor R :=
  if info.isNhwcDecomp then t else t.transpose permNchwToNhwc

structure ComputesBlocks (info : SpaceToDepthCoreInfo) (u core : Tensor R) : Prop where
  blockHeight : 0 < info.blockHeight
  blockWidth : 0 < info.blockWidth
  shape : ∃ n h w c, u.shape = [n,h * info.blockHeight,w * info.blockWidth,c]
  same : core.Same
    ((spaceToDepth info.mode info.blockHeight info.blockWidth u).transpose permNhwcToNchw)

theorem core_computes (hcore : CoreAccepted input dims perm out full info s)
    (hsplits : dims.prod = input.prod) (hmerges : out.prod = dims.prod) (ht : t.shape = input) :
    ComputesBlocks info (nhwcView info t) (((t.reshape dims).transpose perm).reshape out) := by
  have hprod : out.prod = full.prod := hmerges.trans hcore.restored.prod.symm
  have hnonzero := hcore.nonzero
  obtain ⟨o,d,a,b,rfl⟩ := length_eq_four.mp hcore.outRank
  obtain ⟨i0,i1,i2,i3,rfl⟩ := length_eq_four.mp hcore.rank
  obtain ⟨f0,full,rfl⟩ := exists_cons_of_length_eq_add_one hcore.fullRank
  obtain ⟨f1,full,rfl⟩ := exists_cons_of_length_eq_add_one (Nat.succ.inj hcore.fullRank)
  obtain ⟨f2,f3,f4,f5,rfl⟩ :=
    length_eq_four.mp (Nat.succ.inj (Nat.succ.inj hcore.fullRank))
  obtain rfl : f0 = i0 := hcore.batch
  obtain rfl : o = f0 := hcore.outBatch
  obtain ⟨bh,bw,mode,isNhwcDecomp,outputIsNhwc⟩ := info
  obtain ⟨ha,hb⟩ : a = s.heightDiv ∧ b = s.widthDiv := by simpa using hcore.outSpatial
  have hheight : s.height = s.heightDiv * s.blockHeight := by
    rw [hcore.divisions.1,Nat.div_mul_cancel (Nat.dvd_of_mod_eq_zero hcore.divides.1)]
  have hwidth : s.width = s.widthDiv * s.blockWidth := by
    rw [hcore.divisions.2,Nat.div_mul_cancel (Nat.dvd_of_mod_eq_zero hcore.divides.2)]
  obtain rfl : bh = s.blockHeight := hcore.blockHeight
  obtain rfl : bw = s.blockWidth := hcore.blockWidth
  have hpositive := hcore.positive
  have hchannels := hcore.channels
  have hrestored := hcore.restored
  simp only [mem_cons,not_mem_nil,not_or,or_false] at hnonzero
  cases isNhwcDecomp with
  | false =>
    obtain rfl : s = readSplit false [o,i1,i2,i3] [o,f1,f2,f3,f4,f5] := hcore.split
    obtain rfl : i1 = f1 := eq_of_beq hchannels
    obtain rfl : i2 = f2 * f3 := hheight
    obtain rfl : i3 = f4 * f5 := hwidth
    obtain rfl : a = f2 := ha
    obtain rfl : b = f4 := hb
    obtain rfl : d = i1 * f3 * f5 := by
      refine depth_exact (n := o) (a := a) (b := b) ?_ (Ne.symm hnonzero.1) ?_ ?_
      · simpa [Nat.mul_assoc] using hprod
      · exact fun hzero => hnonzero.2.2.1 (by rw [hzero,Nat.zero_mul])
      · exact fun hzero => hnonzero.2.2.2 (by rw [hzero,Nat.zero_mul])
    refine ⟨hpositive.1,hpositive.2,⟨o,a,b,i1,?_⟩,?_⟩
    · change gather permNchwToNhwc t.shape = _
      rw [ht]
      rfl
    · have hblocks := nchw_blocks mode ht hpositive.1 hpositive.2
      exact (hrestored.same (nchwDepthPerm_perm mode) hmerges).trans hblocks
  | true =>
    obtain rfl : s = readSplit true [o,i1,i2,i3] [o,f1,f2,f3,f4,f5] := hcore.split
    obtain rfl : i3 = f5 := eq_of_beq hchannels
    obtain rfl : i1 = f1 * f2 := hheight
    obtain rfl : i2 = f3 * f4 := hwidth
    obtain rfl : a = f1 := ha
    obtain rfl : b = f3 := hb
    obtain rfl : d = i3 * f2 * f4 := by
      refine depth_exact (n := o) (a := a) (b := b) ?_ (Ne.symm hnonzero.1) ?_ ?_
      · simp only [prod_cons,prod_nil] at hprod
        calc o * d * a * b = o * (d * (a * (b * 1))) := by ring
          _ = o * (a * (f2 * (b * (f4 * (i3 * 1))))) := hprod
          _ = o * i3 * a * f2 * b * f4 := by ring
      · exact fun hzero => hnonzero.2.1 (by rw [hzero,Nat.zero_mul])
      · exact fun hzero => hnonzero.2.2.1 (by rw [hzero,Nat.zero_mul])
    refine ⟨hpositive.1,hpositive.2,⟨o,a,b,i3,ht⟩,?_⟩
    have hblocks := nhwc_blocks mode ht hpositive.1 hpositive.2
    exact (hrestored.same (nhwcDepthPerm_perm mode) hmerges).trans hblocks

theorem layout_cancel {u : Tensor R} (hu : u.shape.length = 4) :
    ((u.transpose permNhwcToNchw).transpose permNchwToNhwc).Same u :=
  transpose_cancel (hu.symm ▸ layout_perm) (hu.symm ▸ layout_perm') (hu.symm ▸ rfl)

end

section
variable {R : Type} {x : Tensor R} {chain : SpaceToDepthChain} {input dims perm out : List Nat}
  {pattern : SpaceToDepthPattern} {nodes : List DepthNode}

theorem layoutTranspose_ok {needed : Bool} {shape : Option (List Int)} {name : String} {perm : List Nat}
    (h : layoutTranspose needed shape name perm = .ok nodes) :
    nodes = if needed then [.transpose perm] else [] := by
  cases needed with
  | false => exact (Except.ok.inj h).symm
  | true =>
    obtain ⟨_,_,h⟩ := Registry.bind_ok h
    exact (Except.ok.inj h).symm

theorem created_nodes (h : createOrValidateOnQnn chain pattern = .ok nodes)
    (hout : pattern.outputIsNhwc = false) :
    nodes = (if pattern.hasHeadTranspose || pattern.isNhwcDecomp then [] else [.transpose permNchwToNhwc]) ++
      .spaceToDepth pattern.mode pattern.blockHeight pattern.blockWidth ::
        if pattern.hasTailTranspose then [] else [.transpose permNhwcToNchw] := by
  unfold createOrValidateOnQnn at h
  obtain ⟨_,_,h⟩ := Registry.bind_ok h
  obtain ⟨pre,hpre,h⟩ := Registry.bind_ok h
  obtain ⟨post,hpost,h⟩ := Registry.bind_ok h
  rw [← Except.ok.inj h,layoutTranspose_ok hpre,layoutTranspose_ok hpost,hout]
  cases pattern.hasHeadTranspose <;> cases pattern.isNhwcDecomp <;> cases pattern.hasTailTranspose <;> rfl

theorem pattern_cases (h : matchPattern chain = some pattern) :
    getSpaceToDepthCoreInfo chain = some pattern.toSpaceToDepthCoreInfo ∧
      ¬(pattern.hasHeadTranspose = true ∧ pattern.isNhwcDecomp = true) := by
  unfold matchPattern at h
  obtain ⟨info,hinfo,h⟩ := Option.bind_eq_some_iff.mp h
  obtain ⟨_,h⟩ := guard_bind_some.mp h
  obtain ⟨hexclusive,h⟩ := guard_bind_some.mp h
  obtain ⟨_,h⟩ := guard_bind_some.mp h
  obtain rfl := Option.some.inj h
  exact ⟨hinfo,hexclusive⟩

theorem blocks_run {u v core : Tensor R} (hcore : ComputesBlocks pattern.toSpaceToDepthCoreInfo v core)
    (huv : u.Same v) :
    ∃ y, runNodes (.spaceToDepth pattern.mode pattern.blockHeight pattern.blockWidth ::
        if pattern.hasTailTranspose then [] else [.transpose permNhwcToNchw]) u = some y ∧
      y.Same (pattern.result core) := by
  obtain ⟨n,h,w,c,hv⟩ := hcore.shape
  have hu := huv.1.trans hv
  have hblocks := huv.spaceToDepth pattern.mode pattern.blockHeight pattern.blockWidth hv
  have hrank : (spaceToDepth pattern.mode pattern.blockHeight pattern.blockWidth v).shape.length = 4 := by
    rw [spaceToDepth_shape _ _ _ hv]
    rfl
  have hrank' : (spaceToDepth pattern.mode pattern.blockHeight pattern.blockWidth u).shape.length = 4 := by
    rw [hblocks.1,hrank]
  rw [runNodes_spaceToDepth hu hcore.blockHeight hcore.blockWidth (Nat.dvd_mul_left ..)
    (Nat.dvd_mul_left ..),SpaceToDepthPattern.result]
  cases pattern.hasTailTranspose with
  | false =>
    refine ⟨_,runNodes_transpose (hrank'.symm ▸ layout_perm),?_⟩
    exact (hblocks.transpose (hrank.symm ▸ layout_perm)).trans hcore.same.symm
  | true =>
    refine ⟨_,runNodes_nil _,?_⟩
    have hperm : permNchwToNhwc.Perm (List.range (gather permNhwcToNchw
        (spaceToDepth pattern.mode pattern.blockHeight pattern.blockWidth v).shape).length) := by
      rw [length_gather]
      exact layout_perm'
    exact hblocks.trans ((layout_cancel hrank).symm.trans (hcore.same.transpose hperm).symm)

theorem space_to_depth_computes_chain (hchain : Consistent chain input dims perm out)
    (h : tryFusion chain = some (pattern,nodes)) (hsource : (pattern.source x).shape = input)
    (hhead : pattern.hasHeadTranspose = true → x.shape.length = 4) :
    ∃ y, runNodes nodes x = some y ∧ y.Same (pattern.chain dims perm out x) := by
  unfold tryFusion at h
  obtain ⟨_,h⟩ := guard_bind_some.mp h
  obtain ⟨matched,hmatched,h⟩ := Option.bind_eq_some_iff.mp h
  obtain ⟨created,hcreated,h⟩ := Option.bind_eq_some_iff.mp h
  cases h
  obtain ⟨hinfo,hexclusive⟩ := pattern_cases hmatched
  obtain ⟨full,s,hcore⟩ := accepted_of_coreInfo hchain hinfo
  have hcomputes := core_computes hcore hchain.splits hchain.merges hsource
  cases hcreate : createOrValidateOnQnn chain pattern with
  | error e =>
    rw [hcreate] at hcreated
    cases hcreated
  | ok made =>
    rw [hcreate] at hcreated
    obtain rfl := Option.some.inj hcreated
    rw [created_nodes hcreate hcore.nchwOutput]
    unfold SpaceToDepthPattern.chain
    cases hcase : pattern.hasHeadTranspose with
    | true =>
      have hdecomp : pattern.isNhwcDecomp = false :=
        Bool.eq_false_iff.mpr fun hnhwc => hexclusive ⟨hcase,hnhwc⟩
      have hview : nhwcView pattern.toSpaceToDepthCoreInfo (pattern.source x) =
          (x.transpose permNhwcToNchw).transpose permNchwToNhwc := by
        rw [nhwcView,hdecomp,SpaceToDepthPattern.source,hcase]
        rfl
      rw [hview] at hcomputes
      exact blocks_run hcomputes (layout_cancel (hhead hcase)).symm
    | false =>
      have hplain : pattern.source x = x := by
        rw [SpaceToDepthPattern.source,hcase]
        rfl
      rw [hplain] at hcomputes hsource ⊢
      cases hdecomp : pattern.isNhwcDecomp with
      | true =>
        rw [nhwcView,hdecomp,if_pos rfl] at hcomputes
        exact blocks_run hcomputes (.refl x)
      | false =>
        rw [nhwcView,hdecomp] at hcomputes
        have hperm : permNchwToNhwc.Perm (List.range x.shape.length) := by
          rw [hsource,hcore.rank]
          exact layout_perm'
        change ∃ y, runNodes (.transpose permNchwToNhwc :: _) x = some y ∧ _
        rw [runNodes_transpose hperm]
        exact blocks_run hcomputes (.refl _)

end

def sampleChain (input dims perm out : List Nat) (head tail : Option (List Nat)) : SpaceToDepthChain where
  startIsGraphOutput := false
  inputShape := some (ints input)
  intermediateShape := some (ints dims)
  perm := some (ints perm)
  outputShape := some (ints out)
  transposeHead := head.map fun p => some (ints p)
  transposeTail := tail.map fun p => some (ints p)
  isCpuBackend := false
  isPostLayoutTransform := true
  tensorStatus := .ok ()

theorem sampleChain_consistent (input dims perm out : List Nat) (head tail : Option (List Nat))
    (hsplits : dims.prod = input.prod) (hmerges : out.prod = dims.prod) :
    Consistent (sampleChain input dims perm out head tail) input dims perm out where
  inputDims _ hs := (Option.some.inj hs).symm
  intermediateDims _ hs := (Option.some.inj hs).symm
  outputDims _ hs := (Option.some.inj hs).symm
  permAttribute _ hp := (Option.some.inj hp).symm
  splits := hsplits
  merges := hmerges

theorem space_to_depth_computes_chain_samples :
    (∃ pattern nodes y, tryFusion (sampleChain [1,2,6,4] [2,2,3,2,2] [2,4,0,1,3] [1,12,2,2]
        (some [0,3,1,2]) none) = some (pattern,nodes) ∧
      runNodes nodes (Tensor.ofFlat [1,6,4,2] id) = some y ∧
      y.Same (pattern.chain [2,2,3,2,2] [2,4,0,1,3] [1,12,2,2] (Tensor.ofFlat [1,6,4,2] id))) ∧
    ∃ pattern nodes y, tryFusion (sampleChain [2,4,6,3] [2,2,2,2,3,3] [0,5,2,4,1,3] [2,18,2,2]
        none (some [0,2,3,1])) = some (pattern,nodes) ∧
      runNodes nodes (Tensor.ofFlat [2,4,6,3] id) = some y ∧
      y.Same (pattern.chain [2,2,2,2,3,3] [0,5,2,4,1,3] [2,18,2,2] (Tensor.ofFlat [2,4,6,3] id)) := by
  refine ⟨?_,?_⟩
  · obtain ⟨y,hrun,hsame⟩ := space_to_depth_computes_chain (x := Tensor.ofFlat [1,6,4,2] id)
      (sampleChain_consistent [1,2,6,4] [2,2,3,2,2] [2,4,0,1,3] [1,12,2,2] (some [0,3,1,2]) none
        (by decide) (by decide)) rfl rfl fun _ => rfl
    exact ⟨_,_,y,rfl,hrun,hsame⟩
  · obtain ⟨y,hrun,hsame⟩ := space_to_depth_computes_chain (x := Tensor.ofFlat [2,4,6,3] id)
      (sampleChain_consistent [2,4,6,3] [2,2,2,2,3,3] [0,5,2,4,1,3] [2,18,2,2] none (some [0,2,3,1])
        (by decide) (by decide)) rfl rfl fun _ => rfl
    exact ⟨_,_,y,rfl,hrun,hsame⟩

end QnnEp.SpaceToDepth
