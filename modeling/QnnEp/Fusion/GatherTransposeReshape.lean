import QnnEp.Foundation.Regrouping
import QnnEp.Model.MoveNodes
import QnnEp.Model.Shapes

namespace QnnEp.GatherTransposeReshape
open List MoveNodes Reading Registry Shapes Status Tensors

inductive GatherIndicesPattern where
  | rowMajor
  | colMajor
  deriving DecidableEq, Repr

inductive IndexElementType where
  | int64
  | int32
  | other
  deriving DecidableEq, Repr

structure GatherChain where
  xShape : Option (List Int)
  axis : Int
  hasIndices : Bool
  indexShape : Option (List Int)
  isIndexConstant : Bool
  indexData : Option (List Int)
  indexType : IndexElementType
  gatherShape : Option (List Int)
  perm : Option (List Int)
  transposeShape : Option (List Int)
  reshapeShape : Option (List Int)
  hasDataTypes : Bool
  inputPerChannel : Bool
  outputPerChannel : Bool

structure FusionParams where
  pattern : GatherIndicesPattern
  idx0 : Nat
  idx1 : Nat
  perm4d : List Nat

def isRowMajorPattern (data : List Int) (rows cols : Nat) : Bool :=
  (List.range rows).all fun i => (List.range cols).all fun j =>
    data.getD (i * cols + j) 0 == ((i * cols + j : Nat) : Int)

def isColMajorPattern (data : List Int) (rows cols : Nat) : Bool :=
  (List.range rows).all fun i => (List.range cols).all fun j =>
    data.getD (i * cols + j) 0 == ((j * rows + i : Nat) : Int)

def detectIndicesPattern (data : List Int) (elemType : IndexElementType) (rows cols : Nat) :
    Option GatherIndicesPattern :=
  if elemType = .other ∨ data.length ≠ rows * cols then none
  else if isRowMajorPattern data rows cols then some .rowMajor
  else if isColMajorPattern data rows cols then some .colMajor
  else none

def validateAndComputeFusionParams (chain : GatherChain) : Option FusionParams := do
  let xShape ← getOnnxShape chain.xShape
  guard (xShape.length = 5 ∧ 0 ∉ xShape)
  let axis := if chain.axis < 0 then chain.axis + xShape.length else chain.axis
  guard (axis = 4 ∧ chain.hasIndices)
  let idxShape ← getOnnxShape chain.indexShape
  guard (idxShape.length = 2 ∧ 0 ∉ idxShape ∧ chain.isIndexConstant)
  let idx0 := idxShape.getD 0 0
  let idx1 := idxShape.getD 1 0
  guard (xShape.getD 4 0 = idx0 * idx1)
  let gatherOutShape ← getOnnxShape chain.gatherShape
  guard (gatherOutShape.length = 6)
  let data ← chain.indexData
  let pattern ← detectIndicesPattern data chain.indexType idx0 idx1
  let perm := chain.perm.getD []
  guard (perm.length = 6 ∧ perm.take 3 = [0,1,2] ∧ (∀ v ∈ perm.drop 3, v ∈ ints [3,4,5]) ∧
    ∀ v ∈ ints [3,4,5], v ∈ perm.drop 3)
  let transposeOutShape ← getOnnxShape chain.transposeShape
  guard (transposeOutShape.length = 6)
  let reshapeOutShape ← getOnnxShape chain.reshapeShape
  guard (reshapeOutShape.length < 6)
  return ⟨pattern,idx0,idx1,0 :: (perm.drop 3).map fun v => uint32 (v - 2)⟩

def onnxShapeOr (shape : Option (List Int)) (message : String) : Except String (List Nat) :=
  match getOnnxShape shape with
  | some dims => .ok dims
  | none => .error message

def addColTranspose (chain : GatherChain) (pattern : GatherIndicesPattern) (r1Shape normalised : List Nat) :
    Except String (List Move) :=
  match pattern with
  | .rowMajor => .ok []
  | .colMajor => do
    let move ← addTransposeNode chain.inputPerChannel r1Shape [0,1,3,2] normalised
    return [move]

def createOrValidateOnQnn (chain : GatherChain) (params : FusionParams) : Except String (List Move) := do
  returnIf (chain.hasDataTypes = false) "Failed to get the QNN data type"
  let xShape ← onnxShapeOr chain.xShape "Failed to get input shape"
  returnIf (xShape.length ≠ 5) "Expected rank-5 input"
  let d0 := xShape.getD 0 0
  let d1 := xShape.getD 1 0
  let d2 := xShape.getD 2 0
  let d3 := xShape.getD 3 0
  returnIf (¬(d0 ≤ uint32Max / d1 ∧ d0 * d1 % 2 ^ 32 ≤ uint32Max / d2))
    "Merged batch dimension overflows uint32"
  let merged := d0 * d1 * d2 % 2 ^ 32
  let factor0 := if params.pattern = .colMajor then params.idx1 else params.idx0
  let factor1 := if params.pattern = .colMajor then params.idx0 else params.idx1
  let r1Shape := [merged,d3,factor0,factor1]
  let normalised := [merged,d3,params.idx0,params.idx1]
  let r1 ← addReshapeNode chain.inputPerChannel r1Shape
  let colTranspose ← addColTranspose chain params.pattern r1Shape normalised
  let mainShape := gather params.perm4d normalised
  let mainTranspose ← addTransposeNode chain.inputPerChannel normalised params.perm4d mainShape
  let outShape ← onnxShapeOr chain.reshapeShape "Failed to get output shape"
  let last ← addReshapeNode chain.outputPerChannel outShape
  return r1 :: (colTranspose ++ [mainTranspose,last])

def tryFusion (chain : GatherChain) : Option (List Move) :=
  match validateAndComputeFusionParams chain with
  | some params => (createOrValidateOnQnn chain params).toOption
  | none => none

section
variable {R : Type}

def normalizedIndex (size : Nat) (v : Int) : Nat := if v < 0 then (v + size).toNat else v.toNat

def onnxGatherLast (data : List Int) (idxDims : List Nat) (x : Tensor R) : Tensor R where
  shape := x.shape.dropLast ++ idxDims
  get idx :=
    let lead := x.shape.length - 1
    let position := ravel idxDims (idx.drop lead)
    x.get (idx.take lead ++ [normalizedIndex (x.shape.getD lead 0) (data.getD position 0)])

end

structure Consistent (chain : GatherChain) (xDims idxDims out perm : List Nat) (data : List Int) :
    Prop where
  x : ∀ s, chain.xShape = some s → s = ints xDims
  indices : ∀ s, chain.indexShape = some s → s = ints idxDims
  reshaped : ∀ s, chain.reshapeShape = some s → s = ints out
  permAttribute : ∀ p, chain.perm = some p → p = ints perm
  constant : ∀ values, chain.indexData = some values → values = data
  elements : out.prod = (xDims.dropLast ++ idxDims).prod

section
variable {data : List Int} {rows cols : Nat}

theorem entry_of_rowMajor (h : isRowMajorPattern data rows cols = true) {i j : Nat} (hi : i < rows)
    (hj : j < cols) : data.getD (i * cols + j) 0 = ((i * cols + j : Nat) : Int) :=
  eq_of_beq (all_eq_true.mp (all_eq_true.mp h i (mem_range.mpr hi)) j
    (mem_range.mpr hj))

theorem entry_of_colMajor (h : isColMajorPattern data rows cols = true) {i j : Nat} (hi : i < rows)
    (hj : j < cols) : data.getD (i * cols + j) 0 = ((j * rows + i : Nat) : Int) :=
  eq_of_beq (all_eq_true.mp (all_eq_true.mp h i (mem_range.mpr hi)) j
    (mem_range.mpr hj))

variable {R : Type} {x : Tensor R} {d0 d1 d2 d3 : Nat}

theorem normalizedIndex_natCast (size n : Nat) : normalizedIndex size (n : Int) = n := by
  rw [normalizedIndex,if_neg (by omega),Int.toNat_natCast]

theorem onnxGatherLast_get (hx : x.shape = [d0,d1,d2,d3,rows * cols]) (i0 i1 i2 i3 i j : Nat) :
    (onnxGatherLast data [rows,cols] x).get [i0,i1,i2,i3,i,j] =
      x.get [i0,i1,i2,i3,normalizedIndex (rows * cols) (data.getD (i * cols + j) 0)] := by
  simp [onnxGatherLast,hx,ravel]

theorem reshape_split (hx : x.shape = [d0,d1,d2,d3,rows * cols]) {i0 i1 i2 i3 i j : Nat}
    (h : InBounds [d0,d1,d2,d3,rows,cols] [i0,i1,i2,i3,i,j]) :
    (x.reshape [d0,d1,d2,d3,rows,cols]).get [i0,i1,i2,i3,i,j] = x.get [i0,i1,i2,i3,i * cols + j] := by
  obtain _ | ⟨h0,_ | ⟨h1,_ | ⟨h2,_ | ⟨h3,_ | ⟨hi,_ | ⟨hj,_⟩⟩⟩⟩⟩⟩ := h
  refine Tensor.reshape_get ?_ ?_
  · rw [hx]
    exact .cons h0 (.cons h1 (.cons h2 (.cons h3 (.cons (Scatter.index_lt hi hj) .nil))))
  · rw [hx]
    simp only [ravel,prod_cons,prod_nil]
    ring

theorem index_of_rank6 {shape idx : List Nat} (h : InBounds shape idx) (hrank : shape.length = 6) :
    ∃ i0 i1 i2 i3 i j, idx = [i0,i1,i2,i3,i,j] := by
  have hlen := h.length_eq.trans hrank
  rcases idx with _ | ⟨i0,_ | ⟨i1,_ | ⟨i2,_ | ⟨i3,_ | ⟨i,_ | ⟨j,_ | ⟨k,rest⟩⟩⟩⟩⟩⟩⟩
  all_goals first | exact ⟨_,_,_,_,_,_,rfl⟩ | simp at hlen

theorem gather_rowMajor (hx : x.shape = [d0,d1,d2,d3,rows * cols])
    (h : isRowMajorPattern data rows cols = true) :
    (onnxGatherLast data [rows,cols] x).Same (x.reshape [d0,d1,d2,d3,rows,cols]) := by
  refine ⟨by simp [onnxGatherLast,hx,Tensor.reshape],fun idx hidx => ?_⟩
  obtain ⟨i0,i1,i2,i3,i,j,rfl⟩ := index_of_rank6 hidx rfl
  rw [reshape_split hx hidx,onnxGatherLast_get hx]
  obtain _ | ⟨_,_ | ⟨_,_ | ⟨_,_ | ⟨_,_ | ⟨hi,_ | ⟨hj,_⟩⟩⟩⟩⟩⟩ := hidx
  rw [entry_of_rowMajor h hi hj,normalizedIndex_natCast]

theorem gather_colMajor (hx : x.shape = [d0,d1,d2,d3,cols * rows])
    (h : isColMajorPattern data rows cols = true) :
    (onnxGatherLast data [rows,cols] x).Same
      ((x.reshape [d0,d1,d2,d3,cols,rows]).transpose [0,1,2,3,5,4]) := by
  refine Tensor.same_transpose (t := x.reshape [d0,d1,d2,d3,cols,rows])
    (show [0,1,2,3,5,4].Perm (List.range 6) by decide) (by simp [onnxGatherLast,hx,Tensor.reshape,gather]) ?_
  intro idx hidx
  obtain ⟨i0,i1,i2,i3,j,i,rfl⟩ := index_of_rank6 hidx rfl
  rw [reshape_split hx hidx]
  change (onnxGatherLast data [rows,cols] x).get [i0,i1,i2,i3,i,j] = _
  rw [onnxGatherLast_get (hx.trans (by rw [Nat.mul_comm]))]
  obtain _ | ⟨_,_ | ⟨_,_ | ⟨_,_ | ⟨_,_ | ⟨hj,_ | ⟨hi,_⟩⟩⟩⟩⟩⟩ := hidx
  rw [entry_of_colMajor h hi hj,normalizedIndex_natCast]

end

section
variable {R : Type} {x : Tensor R} {d0 d1 d2 d3 f0 f1 : Nat} {perm perm' out : List Nat}

def leadingGroups : List (List Nat) := [[0,1,2],[3],[4],[5]]

theorem merged_leading_chain (hperm : perm.Perm (List.range 6)) (hperm' : perm'.Perm (List.range 4))
    (hgroups : (perm'.map fun k => leadingGroups.getD k []).flatten = perm)
    (hprod : out.prod = [d0,d1,d2,d3,f0,f1].prod) :
    (((x.reshape [d0 * d1 * d2,d3,f0,f1]).transpose perm').reshape out).Same
      (((x.reshape [d0,d1,d2,d3,f0,f1]).transpose perm).reshape out) := by
  have hsizes : groupSizes [d0,d1,d2,d3,f0,f1] leadingGroups = [d0 * d1 * d2,d3,f0,f1] := by
    simp [groupSizes,leadingGroups,gather,Nat.mul_assoc]
  rw [← hsizes]
  refine regrouped_chain hperm hperm' ?_ rfl (congrArg _ hgroups) hprod
  intro axes haxes axis haxis
  have hmem := mem_flatten_of_mem haxes haxis
  have hflat : leadingGroups.flatten = List.range 6 := by decide
  rw [hflat] at hmem
  exact mem_range.mp hmem

theorem merged_leading_same {moved gathered : Tensor R} (hperm : perm.Perm (List.range 6))
    (hperm' : perm'.Perm (List.range 4))
    (hgroups : (perm'.map fun k => leadingGroups.getD k []).flatten = perm)
    (hprod : out.prod = [d0,d1,d2,d3,f0,f1].prod)
    (hmoved : moved.Same ((x.reshape [d0 * d1 * d2,d3,f0,f1]).transpose perm'))
    (hgathered : gathered.Same ((x.reshape [d0,d1,d2,d3,f0,f1]).transpose perm)) :
    (moved.reshape out).Same (gathered.reshape out) := by
  have hmerged : out.prod = (gather perm' [d0 * d1 * d2,d3,f0,f1]).prod := by
    rw [prod_gather (show _ from hperm'),hprod]
    simp [Nat.mul_assoc]
  refine (hmoved.reshape hmerged).trans
    ((merged_leading_chain hperm hperm' hgroups hprod).trans (hgathered.reshape ?_).symm)
  exact hprod.trans (prod_gather (show perm.Perm (List.range [d0,d1,d2,d3,f0,f1].length) from hperm)).symm

def tails : List (List Nat) := [[3,4,5],[3,5,4],[4,3,5],[4,5,3],[5,3,4],[5,4,3]]

structure TailCase (tail : List Nat) : Prop where
  perm : (0 :: 1 :: 2 :: tail).Perm (List.range 6)
  perm4d : (0 :: tail.map fun v => v - 2).Perm (List.range 4)
  groups : ((0 :: tail.map fun v => v - 2).map fun k => leadingGroups.getD k []).flatten =
    0 :: 1 :: 2 :: tail
  swapped : ((gather (0 :: tail.map fun v => v - 2) [0,1,3,2]).map
    fun k => leadingGroups.getD k []).flatten = gather (0 :: 1 :: 2 :: tail) [0,1,2,3,5,4]

theorem tailCase {tail : List Nat} (h : tail ∈ tails) : TailCase tail := by
  simp only [tails,mem_cons,not_mem_nil,or_false] at h
  rcases h with rfl | rfl | rfl | rfl | rfl | rfl <;> exact ⟨by decide,by decide,by decide,by decide⟩

end

section
variable {chain : GatherChain} {params : FusionParams} {xDims idxDims out perm : List Nat} {data : List Int}

structure Accepted (params : FusionParams) (xDims idxDims perm : List Nat) (data : List Int) : Prop where
  indices : idxDims = [params.idx0,params.idx1]
  shape : ∃ d0 d1 d2 d3, xDims = [d0,d1,d2,d3,params.idx0 * params.idx1] ∧ 0 < d1 ∧ 0 < d2
  pattern : params.pattern = .rowMajor ∧ isRowMajorPattern data params.idx0 params.idx1 = true ∨
    params.pattern = .colMajor ∧ isColMajorPattern data params.idx0 params.idx1 = true
  perm : ∃ tail ∈ tails, perm = 0 :: 1 :: 2 :: tail ∧ params.perm4d = 0 :: tail.map fun v => v - 2

theorem detectIndicesPattern_some {elemType : IndexElementType} {rows cols : Nat}
    {pattern : GatherIndicesPattern} (h : detectIndicesPattern data elemType rows cols = some pattern) :
    pattern = .rowMajor ∧ isRowMajorPattern data rows cols = true ∨
      pattern = .colMajor ∧ isColMajorPattern data rows cols = true := by
  unfold detectIndicesPattern at h
  split_ifs at h with _ hrow hcol
  · exact .inl ⟨(Option.some.inj h).symm,hrow⟩
  · exact .inr ⟨(Option.some.inj h).symm,hcol⟩

theorem mem_tails : ∀ a ∈ [3,4,5], ∀ b ∈ [3,4,5], ∀ c ∈ [3,4,5], (∀ v ∈ [3,4,5], v ∈ [a,b,c]) →
    [a,b,c] ∈ tails ∧
      (ints [a,b,c]).map (fun v => uint32 (v - 2)) = [a,b,c].map fun v => v - 2 := by
  decide

theorem mem_ints {v : Nat} {xs : List Nat} : (v : Int) ∈ ints xs ↔ v ∈ xs := by
  rw [ints,mem_map]
  constructor
  · rintro ⟨n,hn,heq⟩
    exact Int.ofNat.inj heq ▸ hn
  · exact fun hv => ⟨v,hv,rfl⟩

theorem tail_of_perm (hlen : perm.length = 6) (hlead : (ints perm).take 3 = [0,1,2])
    (hin : ∀ v ∈ (ints perm).drop 3, v ∈ ints [3,4,5]) (hall : ∀ v ∈ ints [3,4,5], v ∈ (ints perm).drop 3) :
    ∃ tail ∈ tails, perm = 0 :: 1 :: 2 :: tail ∧
      ((ints perm).drop 3).map (fun v => uint32 (v - 2)) = tail.map fun v => v - 2 := by
  rcases perm with _ | ⟨p0,_ | ⟨p1,_ | ⟨p2,_ | ⟨a,_ | ⟨b,_ | ⟨c,_ | ⟨k,rest⟩⟩⟩⟩⟩⟩⟩
  all_goals first | (simp at hlen; done) | skip
  have hvalues : p0 = 0 ∧ p1 = 1 ∧ p2 = 2 := by
    simp [ints] at hlead
    omega
  obtain ⟨rfl,rfl,rfl⟩ := hvalues
  have hcases {v : Nat} (hv : v ∈ [a,b,c]) : v ∈ [3,4,5] := mem_ints.mp (hin v (mem_ints.mpr hv))
  have hcover : ∀ v ∈ [3,4,5], v ∈ [a,b,c] := fun v hv => mem_ints.mp (hall v (mem_ints.mpr hv))
  obtain ⟨htail,hmap⟩ := mem_tails a (hcases (by simp)) b (hcases (by simp)) c (hcases (by simp)) hcover
  exact ⟨[a,b,c],htail,rfl,hmap⟩

theorem accepted_of_validate (hchain : Consistent chain xDims idxDims out perm data)
    (h : validateAndComputeFusionParams chain = some params) :
    Accepted params xDims idxDims perm data := by
  obtain ⟨xShape,hx,h⟩ := Option.bind_eq_some_iff.mp h
  obtain ⟨⟨hrank,hpos⟩,h⟩ := guard_bind_some.mp h
  obtain ⟨_,h⟩ := guard_bind_some.mp h
  obtain ⟨idxShape,hidx,h⟩ := Option.bind_eq_some_iff.mp h
  obtain ⟨⟨hidxRank,_⟩,h⟩ := guard_bind_some.mp h
  obtain ⟨hcover,h⟩ := guard_bind_some.mp h
  obtain ⟨_,_,h⟩ := Option.bind_eq_some_iff.mp h
  obtain ⟨_,h⟩ := guard_bind_some.mp h
  obtain ⟨values,hvalues,h⟩ := Option.bind_eq_some_iff.mp h
  obtain ⟨pattern,hpattern,h⟩ := Option.bind_eq_some_iff.mp h
  obtain ⟨⟨hlen,hlead,hin,hall⟩,h⟩ := guard_bind_some.mp h
  obtain ⟨_,_,h⟩ := Option.bind_eq_some_iff.mp h
  obtain ⟨_,h⟩ := guard_bind_some.mp h
  obtain ⟨_,_,h⟩ := Option.bind_eq_some_iff.mp h
  obtain ⟨_,h⟩ := guard_bind_some.mp h
  obtain rfl := Option.some.inj h
  have hxDims : xShape = xDims := by
    rw [getOnnxShape_eq hchain.x hx] at hrank ⊢
    exact qnnShape_eq (by omega)
  have hidxDims : idxShape = idxDims := by
    rw [getOnnxShape_eq hchain.indices hidx] at hidxRank ⊢
    exact qnnShape_eq (by omega)
  subst hxDims hidxDims
  have hattr : chain.perm.getD [] = ints perm := by
    cases hperm : chain.perm with
    | none =>
      rw [hperm] at hlen
      cases hlen
    | some p => exact hchain.permAttribute p hperm
  rw [hattr] at hlen hlead hin hall
  obtain ⟨tail,htail,hperm,hmap⟩ := tail_of_perm ((length_ints perm).symm.trans hlen) hlead hin hall
  rw [hchain.constant values hvalues] at hpattern
  refine ⟨?_,?_,detectIndicesPattern_some hpattern,tail,htail,hperm,?_⟩
  · rcases idxShape with _ | ⟨r,_ | ⟨c,_ | ⟨k,rest⟩⟩⟩
    all_goals first | rfl | simp at hidxRank
  · rcases xShape with _ | ⟨d0,_ | ⟨d1,_ | ⟨d2,_ | ⟨d3,_ | ⟨d4,_ | ⟨k,rest⟩⟩⟩⟩⟩⟩
    all_goals first | (simp at hrank; done) | skip
    refine ⟨d0,d1,d2,d3,?_,?_,?_⟩
    · exact congrArg (fun d => [d0,d1,d2,d3,d]) hcover
    · exact Nat.pos_of_ne_zero fun heq => hpos (by simp [heq])
    · exact Nat.pos_of_ne_zero fun heq => hpos (by simp [heq])
  · rw [hattr]
    exact congrArg _ hmap

theorem mul_le_of_le_div {a b n : Nat} (hb : 0 < b) (h : a ≤ n / b) : a * b ≤ n :=
  (Nat.le_div_iff_mul_le hb).mp h

theorem merged_exact {d0 d1 d2 : Nat} (h1 : 0 < d1) (h2 : 0 < d2) (hfirst : d0 ≤ uint32Max / d1)
    (hsecond : d0 * d1 % 2 ^ 32 ≤ uint32Max / d2) : d0 * d1 * d2 % 2 ^ 32 = d0 * d1 * d2 := by
  have hlead := mul_le_of_le_div h1 hfirst
  unfold uint32Max at *
  rw [Nat.mod_eq_of_lt (by omega)] at hsecond
  have := mul_le_of_le_div h2 hsecond
  exact Nat.mod_eq_of_lt (by omega)

end

section
variable {R : Type} {x : Tensor R} {d0 d1 d2 d3 rows cols : Nat} {tail out : List Nat} {data : List Int}
  {main swap : Move} {perChannel : Bool}

theorem rowMajor_same (hx : x.shape = [d0,d1,d2,d3,rows * cols]) (htail : TailCase tail)
    (hdata : isRowMajorPattern data rows cols = true)
    (hout : out.prod = [d0,d1,d2,d3,rows,cols].prod)
    (hmain : addTransposeNode perChannel [d0 * d1 * d2,d3,rows,cols] (0 :: tail.map fun v => v - 2)
      (gather (0 :: tail.map fun v => v - 2) [d0 * d1 * d2,d3,rows,cols]) = .ok main) :
    ((main.apply (x.reshape [d0 * d1 * d2,d3,rows,cols])).reshape out).Same
      (((onnxGatherLast data [rows,cols] x).transpose (0 :: 1 :: 2 :: tail)).reshape out) := by
  have hmoved : (main.apply (x.reshape [d0 * d1 * d2,d3,rows,cols])).Same
      ((x.reshape [d0 * d1 * d2,d3,rows,cols]).transpose (0 :: tail.map fun v => v - 2)) :=
    addTransposeNode_same hmain rfl htail.perm4d
  have hgather : ((onnxGatherLast data [rows,cols] x).transpose (0 :: 1 :: 2 :: tail)).Same
      ((x.reshape [d0,d1,d2,d3,rows,cols]).transpose (0 :: 1 :: 2 :: tail)) :=
    (gather_rowMajor hx hdata).transpose htail.perm
  exact merged_leading_same htail.perm htail.perm4d htail.groups hout hmoved hgather

theorem colMajor_same (hx : x.shape = [d0,d1,d2,d3,cols * rows]) (htail : TailCase tail)
    (hdata : isColMajorPattern data rows cols = true)
    (hout : out.prod = [d0,d1,d2,d3,cols,rows].prod)
    (hswap : addTransposeNode perChannel [d0 * d1 * d2,d3,cols,rows] [0,1,3,2]
      [d0 * d1 * d2,d3,rows,cols] = .ok swap)
    (hmain : addTransposeNode perChannel [d0 * d1 * d2,d3,rows,cols] (0 :: tail.map fun v => v - 2)
      (gather (0 :: tail.map fun v => v - 2) [d0 * d1 * d2,d3,rows,cols]) = .ok main) :
    ((main.apply (swap.apply (x.reshape [d0 * d1 * d2,d3,cols,rows]))).reshape out).Same
      (((onnxGatherLast data [rows,cols] x).transpose (0 :: 1 :: 2 :: tail)).reshape out) := by
  let source := x.reshape [d0 * d1 * d2,d3,cols,rows]
  have hperm4 : [0,1,3,2].Perm (List.range 4) := by decide
  have hperm6 : [0,1,2,3,5,4].Perm (List.range 6) := by decide
  have hswapped : (swap.apply source).Same (source.transpose [0,1,3,2]) :=
    addTransposeNode_same hswap rfl hperm4
  have hsource : (main.apply (swap.apply source)).Same
      (source.transpose (gather (0 :: tail.map fun v => v - 2) [0,1,3,2])) := by
    refine (addTransposeNode_same hmain hswapped.1 htail.perm4d).trans ?_
    have hmoved : ((swap.apply source).transpose (0 :: tail.map fun v => v - 2)).Same
        ((source.transpose [0,1,3,2]).transpose (0 :: tail.map fun v => v - 2)) :=
      hswapped.transpose htail.perm4d
    exact hmoved.trans (transpose_transpose (t := source) hperm4 htail.perm4d)
  have hgather : ((onnxGatherLast data [rows,cols] x).transpose (0 :: 1 :: 2 :: tail)).Same
      ((x.reshape [d0,d1,d2,d3,cols,rows]).transpose (gather (0 :: 1 :: 2 :: tail) [0,1,2,3,5,4])) := by
    have hmoved : ((onnxGatherLast data [rows,cols] x).transpose (0 :: 1 :: 2 :: tail)).Same
        (((x.reshape [d0,d1,d2,d3,cols,rows]).transpose [0,1,2,3,5,4]).transpose (0 :: 1 :: 2 :: tail)) :=
      (gather_colMajor hx hdata).transpose htail.perm
    exact hmoved.trans (transpose_transpose (t := x.reshape [d0,d1,d2,d3,cols,rows]) hperm6 htail.perm)
  exact merged_leading_same (gather_perm hperm6 htail.perm) (gather_perm hperm4 htail.perm4d)
    htail.swapped hout hsource hgather

theorem onnxShapeOr_ok {shape : Option (List Int)} {message : String} {dims : List Nat}
    (h : onnxShapeOr shape message = .ok dims) : getOnnxShape shape = some dims := by
  unfold onnxShapeOr at h
  split at h
  · next found hfound =>
    obtain rfl := Except.ok.inj h
    exact hfound
  · cases h

theorem created_same {chain : GatherChain} {params : FusionParams} {xDims idxDims perm : List Nat}
    {moves : List Move} (hchain : Consistent chain xDims idxDims out perm data)
    (haccepted : Accepted params xDims idxDims perm data)
    (h : createOrValidateOnQnn chain params = .ok moves) (hx : x.shape = xDims) :
    (runMoves moves x).Same
      (((onnxGatherLast data idxDims x).transpose perm).reshape (qnnShape out)) := by
  obtain ⟨d0,d1,d2,d3,hdims,h1,h2⟩ := haccepted.shape
  obtain ⟨tail,htail,hperm,hperm4d⟩ := haccepted.perm
  have hidx := haccepted.indices
  have hcase := tailCase htail
  have helements := hchain.elements
  subst hdims hidx hperm
  obtain ⟨_,h⟩ := returnIf_bind_ok.mp h
  obtain ⟨xShape,hshape,h⟩ := bind_ok h
  obtain ⟨hrank,h⟩ := returnIf_bind_ok.mp h
  obtain ⟨hfits,h⟩ := returnIf_bind_ok.mp h
  obtain ⟨r1,hr1,h⟩ := bind_ok h
  obtain ⟨swaps,hswaps,h⟩ := bind_ok h
  obtain ⟨main,hmain,h⟩ := bind_ok h
  obtain ⟨outShape,houtShape,h⟩ := bind_ok h
  obtain ⟨last,hlast,h⟩ := bind_ok h
  obtain rfl := Except.ok.inj h
  obtain rfl : xShape = [d0,d1,d2,d3,params.idx0 * params.idx1] :=
    getOnnxShape_eq hchain.x (onnxShapeOr_ok hshape)
  have hmerged : d0 * d1 * d2 % 2 ^ 32 = d0 * d1 * d2 :=
    merged_exact h1 h2 (not_not.mp hfits).1 (not_not.mp hfits).2
  simp only [getD_cons_zero,getD_cons_succ] at hr1 hswaps hmain
  rw [hmerged] at hr1 hswaps hmain
  rw [hperm4d] at hmain
  obtain rfl := addReshapeNode_ok hr1
  obtain rfl := addReshapeNode_ok hlast
  obtain rfl : outShape = qnnShape out := getOnnxShape_eq hchain.reshaped (onnxShapeOr_ok houtShape)
  have hprod : (qnnShape out).prod = [d0,d1,d2,d3,params.idx0,params.idx1].prod :=
    (prod_qnnShape out).trans helements
  rcases haccepted.pattern with ⟨hpattern,hdata⟩ | ⟨hpattern,hdata⟩
  · rw [hpattern] at hswaps ⊢
    obtain rfl := Except.ok.inj hswaps
    exact rowMajor_same hx hcase hdata hprod hmain
  · rw [hpattern] at hswaps ⊢
    obtain ⟨swap,hswap,hswaps⟩ := bind_ok hswaps
    obtain rfl := Except.ok.inj hswaps
    have hx' : x.shape = [d0,d1,d2,d3,params.idx1 * params.idx0] :=
      hx.trans (congrArg (fun d => [d0,d1,d2,d3,d]) (Nat.mul_comm _ _))
    refine colMajor_same hx' hcase hdata (hprod.trans ?_) hswap hmain
    simp [Nat.mul_comm]

theorem gather_chain_fused {chain : GatherChain} {xDims idxDims perm : List Nat} {moves : List Move}
    (hchain : Consistent chain xDims idxDims out perm data) (h : tryFusion chain = some moves)
    (hx : x.shape = xDims) :
    (runMoves moves x).Same
      (((onnxGatherLast data idxDims x).transpose perm).reshape (qnnShape out)) := by
  unfold tryFusion at h
  split at h
  · next params hparams =>
    cases hcreate : createOrValidateOnQnn chain params with
    | error e =>
      rw [hcreate] at h
      cases h
    | ok created =>
      rw [hcreate] at h
      obtain rfl := Option.some.inj h
      exact created_same hchain (accepted_of_validate hchain hparams) hcreate hx
  · cases h

end

def sampleChain (xDims idxDims out perm : List Nat) (data : List Int) : GatherChain where
  xShape := some (ints xDims)
  axis := -1
  hasIndices := true
  indexShape := some (ints idxDims)
  isIndexConstant := true
  indexData := some data
  indexType := .int64
  gatherShape := some (ints (xDims.dropLast ++ idxDims))
  perm := some (ints perm)
  transposeShape := some (ints (gather perm (xDims.dropLast ++ idxDims)))
  reshapeShape := some (ints out)
  hasDataTypes := true
  inputPerChannel := false
  outputPerChannel := false

theorem sampleChain_consistent (xDims idxDims out perm : List Nat) (data : List Int)
    (h : out.prod = (xDims.dropLast ++ idxDims).prod) :
    Consistent (sampleChain xDims idxDims out perm data) xDims idxDims out perm data where
  x _ hs := (Option.some.inj hs).symm
  indices _ hs := (Option.some.inj hs).symm
  reshaped _ hs := (Option.some.inj hs).symm
  permAttribute _ hp := (Option.some.inj hp).symm
  constant _ hv := (Option.some.inj hv).symm
  elements := h

theorem gather_chain_fused_colMajor :
    ∃ moves, tryFusion (sampleChain [1,2,1,2,6] [2,3] [4,6] [0,1,2,4,5,3] [0,2,4,1,3,5]) = some moves ∧
      (runMoves moves (Tensor.ofFlat [1,2,1,2,6] id)).Same
        (((onnxGatherLast [0,2,4,1,3,5] [2,3] (Tensor.ofFlat [1,2,1,2,6] id)).transpose
          [0,1,2,4,5,3]).reshape [4,6]) :=
  ⟨_,rfl,gather_chain_fused (sampleChain_consistent [1,2,1,2,6] [2,3] [4,6] [0,1,2,4,5,3]
    [0,2,4,1,3,5] (by decide)) rfl rfl⟩

end QnnEp.GatherTransposeReshape
