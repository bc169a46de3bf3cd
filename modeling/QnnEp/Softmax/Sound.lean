import QnnEp.Foundation.Calls
import QnnEp.Model.MoveNodes
import QnnEp.Slice.Builder

namespace QnnEp.Softmax
open List
open Model (QnnDataType QuantParams)
open MoveNodes Registry Status Tensors
open Slice (QnnBackendType isNpuBackend)

inductive OpType where
  | softmax
  | logSoftmax
  deriving DecidableEq, Repr

structure SoftmaxNode where
  opType : OpType
  sinceVersion : Nat
  axisAttr : Option Int
  backend : QnnBackendType
  inputShape : List Nat
  outputShape : List Nat
  isInitializer : Bool
  inputQuant : QuantParams
  outputQuant : QuantParams
  outputDataType : QnnDataType

inductive SoftmaxWire where
  | input
  | moved
  | natural
  | lanes
  | output
  deriving DecidableEq, Repr

inductive SoftmaxKind where
  | layout (move : Move)
  | softmax (opType : OpType) (axis : Nat)
  | convert
  deriving DecidableEq, Repr

abbrev SoftmaxStep := Step SoftmaxKind SoftmaxWire

def getDefaultAxisAttribute (opsetVersion : Nat) : Int := if opsetVersion < 13 then 1 else -1

def isQpuBackend (backend : QnnBackendType) : Bool := isNpuBackend backend || backend = .gpu

def symmetricOffset : QnnDataType → Option Int
  | .ufixedPoint8 => some (-(2 ^ 7))
  | .ufixedPoint16 => some (-(2 ^ 15))
  | _ => none

def flattenShapeFromAxis (inputShape : List Nat) (axis : Nat) : List Nat :=
  inputShape.take axis ++ (if axis = 0 then [1] else []) ++ [(inputShape.drop axis).prod % 2 ^ 32]

def getPermToLastAxis (axis rank : Nat) : Except String (List Nat) := do
  returnIf (¬axis < rank)
    ("Expected axis must be smaller than rank: " ++ toString axis ++ " >= " ++ toString rank)
  return ((List.range rank).set axis (rank - 1)).set (rank - 1) axis

def swapWithLast (shape : List Nat) (axis : Nat) : List Nat :=
  (shape.set (shape.length - 1) (shape.getD axis 0)).set axis (shape.getD (shape.length - 1) 0)

section
variable (node : SoftmaxNode)

def getCanonicalizedAxisAttribute : Except String Nat :=
  let rank : Int := node.inputShape.length
  let axis := node.axisAttr.getD (getDefaultAxisAttribute node.sinceVersion)
  let axis := if axis < 0 then axis + rank else axis
  if 0 ≤ axis ∧ axis < rank then .ok axis.toNat
  else .error "QNN requires axis range [0, rank-1]."

def needsBoundedOutputSplit : Bool :=
  decide (node.opType = .softmax) && isNpuBackend node.backend &&
    match node.outputQuant, symmetricOffset node.outputDataType with
    | .scaleOffset _ offset, some symmetric => decide (offset = symmetric)
    | _, _ => false

def createSoftmaxOutputNodes (axis : Nat) (source target : SoftmaxWire) : List SoftmaxStep :=
  if needsBoundedOutputSplit node then
    [⟨.softmax node.opType axis,[source],.natural⟩,⟨.convert,[.natural],target⟩]
  else [⟨.softmax node.opType axis,[source],target⟩]

def movesAxis (axis rank : Nat) : Bool := isQpuBackend node.backend && decide (axis ≠ rank - 1)

def processInputs : Except String (List SoftmaxStep × SoftmaxWire) := do
  let axis ← getCanonicalizedAxisAttribute node
  returnIf (node.isInitializer = true)
    ("QNN EP does not support (Log)Softmax with an initializer input, " ++
      "which should be optimized away by the ORT optimizer")
  if node.sinceVersion < 13 then
    let move ← addReshapeNode node.inputQuant.isPerChannel (flattenShapeFromAxis node.inputShape axis)
    return ([⟨.layout move,[.input],.moved⟩],.moved)
  else if movesAxis node axis node.inputShape.length then
    let perm ← getPermToLastAxis axis node.inputShape.length
    let move ← addTransposeNode node.inputQuant.isPerChannel node.inputShape perm
      (swapWithLast node.inputShape axis)
    return ([⟨.layout move,[.input],.moved⟩],.moved)
  else return ([],.input)

def processAttributesAndOutputs (source : SoftmaxWire) : Except String (List SoftmaxStep) := do
  let axis ← getCanonicalizedAxisAttribute node
  if node.sinceVersion < 13 then
    let qnnAxis := if axis = 0 then 1 else axis
    let move ← addReshapeNode node.outputQuant.isPerChannel node.outputShape
    return createSoftmaxOutputNodes node qnnAxis source .lanes ++ [⟨.layout move,[.lanes],.output⟩]
  else if movesAxis node axis node.outputShape.length then
    let perm ← getPermToLastAxis axis node.outputShape.length
    let move ← addTransposeNode node.outputQuant.isPerChannel (swapWithLast node.outputShape axis) perm
      node.outputShape
    return createSoftmaxOutputNodes node (node.outputShape.length - 1) source .lanes ++
      [⟨.layout move,[.lanes],.output⟩]
  else return createSoftmaxOutputNodes node axis source .output

def addToModelBuilder : Except String (List SoftmaxStep) := do
  let (inputs,name) ← processInputs node
  let outputs ← processAttributesAndOutputs node name
  return inputs ++ outputs

end

section
variable {R : Type}

def SoftmaxKind.map (f : OpType → List R → Nat → R) : SoftmaxKind → Tensor R → Tensor R
  | .layout move, t => move.apply t
  | .softmax opType axis, t => laneMap (f opType) axis t
  | .convert, t => t

def SoftmaxKind.apply (f : OpType → List R → Nat → R) (kind : SoftmaxKind) : List (Tensor R) → Tensor R
  | t :: _ => kind.map f t
  | [] => ⟨[],fun _ => f .softmax [] 0⟩

def coerced (f : List R → Nat → R) (width : Nat) (t : Tensor R) : Tensor R where
  shape := t.shape
  get idx :=
    let position := ravel t.shape idx
    f ((List.range width).map fun i => t.flat (position / width * width + i)) (position % width)

def onnxSoftmax (node : SoftmaxNode) (axis : Nat) (f : OpType → List R → Nat → R) (x : Tensor R) :
    Tensor R :=
  if node.sinceVersion < 13 then coerced (f node.opType) (x.shape.drop axis).prod x
  else laneMap (f node.opType) axis x

variable {f : List R → Nat → R} {x : Tensor R}

theorem flattened_lanes {leading : List Nat} {width : Nat}
    (hprod : (leading ++ [width]).prod = x.shape.prod) :
    ((laneMap f leading.length (x.reshape (leading ++ [width]))).reshape x.shape).Same
      (coerced f width x) := by
  refine ⟨rfl,fun idx hidx => ?_⟩
  have hlt : ravel x.shape idx < (leading ++ [width]).prod := hprod ▸ ravel_lt hidx
  obtain ⟨is,js,hsplit,his,hjs⟩ := exists_of_inBounds_append (unravel_inBounds hlt)
  obtain _ | ⟨hd,_ | _⟩ := hjs
  rename_i d
  have hlen := his.length_eq
  have hposition : ravel leading is * width + d = ravel x.shape idx := by
    rw [← ravel_unravel hlt,hsplit,ravel_append hlen]
    simp [ravel]
  have hrow : ravel x.shape idx / width = ravel leading is := by rw [← hposition,row_of_lt hd]
  have hcol : ravel x.shape idx % width = d := by rw [← hposition,Nat.mul_add_mod_of_lt hd]
  have hlane : (List.range ((leading ++ [width]).getD leading.length 0)).map
      (fun i => (x.reshape (leading ++ [width])).get ((is ++ [d]).set leading.length i)) =
      (List.range width).map fun i => x.flat (ravel leading is * width + i) := by
    rw [getD_append_right _ _ _ _ le_rfl,Nat.sub_self,getD_cons_zero]
    refine map_congr_left fun i _ => ?_
    have hset : (is ++ [d]).set leading.length i = is ++ [i] := by
      rw [← hlen,set_append_right _ _ le_rfl,Nat.sub_self]
      rfl
    rw [hset]
    change x.flat (ravel (leading ++ [width]) (is ++ [i])) = _
    rw [ravel_append hlen]
    simp [ravel]
  have hentry : (is ++ [d]).getD leading.length 0 = d := by
    rw [← hlen,getD_append_right _ _ _ _ le_rfl,Nat.sub_self,getD_cons_zero]
  change (laneMap f leading.length (x.reshape (leading ++ [width]))).get
    (unravel (leading ++ [width]) (ravel x.shape idx)) = f ((List.range width).map fun i =>
      x.flat (ravel x.shape idx / width * width + i)) (ravel x.shape idx % width)
  rw [hsplit,hrow,hcol]
  exact congrArg₂ f hlane hentry

end

section
variable {axis n : Nat}

def swapPerm (axis n : Nat) : List Nat := ((List.range n).set axis (n - 1)).set (n - 1) axis

theorem swapPerm_eq (haxis : axis < n) : swapPerm axis n = (List.range n).map (Equiv.swap axis (n - 1)) := by
  refine ext_getElem (by simp [swapPerm]) fun k hk hk' => ?_
  have hk : k < n := by simpa using hk'
  simp only [swapPerm,getElem_set,getElem_map,getElem_range,Equiv.swap_apply_def]
  split_ifs <;> omega

theorem swap_lt {k : Nat} (haxis : axis < n) (hk : k < n) : Equiv.swap axis (n - 1) k < n := by
  rw [Equiv.swap_apply_def]
  split_ifs <;> omega

theorem swapPerm_perm (haxis : axis < n) : (swapPerm axis n).Perm (List.range n) := by
  rw [swapPerm_eq haxis]
  refine (perm_ext_iff_of_nodup ?_ nodup_range).mpr fun k => ?_
  · exact nodup_range.map (Equiv.injective _)
  · rw [mem_map,mem_range]
    constructor
    · rintro ⟨j,hj,rfl⟩
      exact swap_lt haxis (mem_range.mp hj)
    · intro hk
      exact ⟨Equiv.swap axis (n - 1) k,mem_range.mpr (swap_lt haxis hk),Equiv.swap_apply_self _ _ _⟩

theorem swapPerm_last (haxis : axis < n) : (swapPerm axis n)[n - 1]? = some axis := by
  have hlast : n - 1 < n := by omega
  rw [swapPerm_eq haxis,List.getElem?_map,List.getElem?_range hlast,Option.map_some,
    Equiv.swap_apply_right]

theorem swapPerm_cancel (haxis : axis < n) : gather (swapPerm axis n) (swapPerm axis n) = List.range n := by
  rw [swapPerm_eq haxis,gather,map_map]
  refine (map_congr_left fun k hk => ?_).trans (map_id _)
  have hlt := swap_lt haxis (mem_range.mp hk)
  simp only [Function.comp_apply]
  rw [getD_eq_getElem _ _ (by simpa using hlt),getElem_map,getElem_range,
    Equiv.swap_apply_self,id]

theorem swapWithLast_eq {shape : List Nat} (haxis : axis < shape.length) :
    swapWithLast shape axis = gather (swapPerm axis shape.length) shape := by
  rw [swapPerm_eq haxis,gather,map_map]
  refine ext_getElem (by simp [swapWithLast]) fun k hk hk' => ?_
  have hk : k < shape.length := by simpa using hk'
  have hlast : shape.length - 1 < shape.length := by omega
  simp only [swapWithLast,getElem_set,getElem_map,getElem_range,Function.comp_apply,
    Equiv.swap_apply_def]
  split_ifs <;> first | rfl | omega | exact (getD_eq_getElem _ _ hk).symm

theorem getPermToLastAxis_ok {perm : List Nat} (h : getPermToLastAxis axis n = .ok perm) :
    perm = swapPerm axis n :=
  (Except.ok.inj (returnIf_bind_ok.mp h).2).symm

variable {R : Type} {x : Tensor R} {m m' : Move}

theorem swapped_lanes (f : List R → Nat → R) (haxis : axis < x.shape.length) {b b' : Bool}
    (hm : addTransposeNode b x.shape (swapPerm axis x.shape.length) (swapWithLast x.shape axis) = .ok m)
    (hm' : addTransposeNode b' (swapWithLast x.shape axis) (swapPerm axis x.shape.length) x.shape =
      .ok m') :
    (m'.apply (laneMap f (x.shape.length - 1) (m.apply x))).Same (laneMap f axis x) := by
  have hperm := swapPerm_perm haxis
  have hfirst : (m.apply x).Same (x.transpose (swapPerm axis x.shape.length)) :=
    addTransposeNode_same hm rfl hperm
  have hlen : (swapWithLast x.shape axis).length = x.shape.length := by
    simp [swapWithLast]
  have hshape : (m.apply x).shape = swapWithLast x.shape axis :=
    hfirst.1.trans (swapWithLast_eq haxis).symm
  have hlanes : (laneMap f (x.shape.length - 1) (m.apply x)).Same
      ((laneMap f axis x).transpose (swapPerm axis x.shape.length)) :=
    (hfirst.laneMap f _).trans (laneMap_transpose f hperm (swapPerm_last haxis))
  have hrank : ((laneMap f axis x).transpose (swapPerm axis x.shape.length)).shape.length =
      x.shape.length := (length_gather _ _).trans (hperm.length_eq.trans length_range)
  let lanes := laneMap f (x.shape.length - 1) (m.apply x)
  have hlast : (m'.apply lanes).Same (lanes.transpose (swapPerm axis x.shape.length)) :=
    addTransposeNode_same hm' hshape (hlen.symm ▸ hperm)
  refine hlast.trans ?_
  refine (hlanes.transpose (hrank.symm ▸ hperm)).trans ?_
  exact transpose_cancel hperm hperm (swapPerm_cancel haxis)

end

section
variable {R : Type} {node : SoftmaxNode} {f : OpType → List R → Nat → R} {env : SoftmaxWire → Tensor R}

theorem createSoftmaxOutputNodes_run (axis : Nat) (source target : SoftmaxWire) :
    runSteps (SoftmaxKind.apply f) (createSoftmaxOutputNodes node axis source target) env target =
      laneMap (f node.opType) axis (env source) := by
  unfold createSoftmaxOutputNodes
  split
  · simp [runSteps,Step.exec,SoftmaxKind.apply,SoftmaxKind.map]
  · simp [runSteps,Step.exec,SoftmaxKind.apply,SoftmaxKind.map]

theorem layout_run (move : Move) (source target : SoftmaxWire) :
    runSteps (SoftmaxKind.apply f) [⟨.layout move,[source],target⟩] env target = move.apply (env source) := by
  simp [runSteps,Step.exec,SoftmaxKind.apply,SoftmaxKind.map]

theorem chain_run (m m' : Move) (axis : Nat) :
    runSteps (SoftmaxKind.apply f) ([⟨.layout m,[.input],.moved⟩] ++
      (createSoftmaxOutputNodes node axis .moved .lanes ++ [⟨.layout m',[.lanes],.output⟩])) env .output =
      m'.apply (laneMap (f node.opType) axis (m.apply (env .input))) := by
  rw [runSteps_append,runSteps_append,layout_run,createSoftmaxOutputNodes_run,layout_run]

theorem getCanonicalizedAxisAttribute_lt {axis : Nat}
    (h : getCanonicalizedAxisAttribute node = .ok axis) : axis < node.inputShape.length := by
  unfold getCanonicalizedAxisAttribute at h
  dsimp only at h
  generalize (if node.axisAttr.getD (getDefaultAxisAttribute node.sinceVersion) < 0 then _ else _ : Int) =
    found at h
  split at h
  · next hrange =>
    have := Except.ok.inj h
    omega
  · cases h

inductive Lowered (node : SoftmaxNode) (axis : Nat) : List SoftmaxStep → Prop
  | flattened (hversion : node.sinceVersion < 13) :
    Lowered node axis ([⟨.layout (.reshape (flattenShapeFromAxis node.inputShape axis)),[.input],.moved⟩] ++
      (createSoftmaxOutputNodes node (if axis = 0 then 1 else axis) .moved .lanes ++
        [⟨.layout (.reshape node.outputShape),[.lanes],.output⟩]))
  | swapped (hversion : ¬node.sinceVersion < 13) (m m' : Move)
    (hm : addTransposeNode node.inputQuant.isPerChannel node.inputShape
      (swapPerm axis node.inputShape.length) (swapWithLast node.inputShape axis) = .ok m)
    (hm' : addTransposeNode node.outputQuant.isPerChannel (swapWithLast node.outputShape axis)
      (swapPerm axis node.outputShape.length) node.outputShape = .ok m') :
    Lowered node axis ([⟨.layout m,[.input],.moved⟩] ++
      (createSoftmaxOutputNodes node (node.outputShape.length - 1) .moved .lanes ++
        [⟨.layout m',[.lanes],.output⟩]))
  | direct (hversion : ¬node.sinceVersion < 13) :
    Lowered node axis ([] ++ createSoftmaxOutputNodes node axis .input .output)

theorem lowered_of_add {steps : List SoftmaxStep} (h : addToModelBuilder node = .ok steps)
    (hshape : node.outputShape = node.inputShape) {axis : Nat}
    (haxis : getCanonicalizedAxisAttribute node = .ok axis) : Lowered node axis steps := by
  obtain ⟨⟨inputs,source⟩,hinputs,h⟩ := bind_ok h
  obtain ⟨outputs,houtputs,h⟩ := bind_ok h
  obtain rfl := Except.ok.inj h
  obtain ⟨found,hfound,hinputs⟩ := bind_ok hinputs
  obtain rfl : axis = found := Except.ok.inj (haxis.symm.trans hfound)
  obtain ⟨_,hinputs⟩ := returnIf_bind_ok.mp hinputs
  obtain ⟨found,hfound,houtputs⟩ := bind_ok houtputs
  obtain rfl : axis = found := Except.ok.inj (haxis.symm.trans hfound)
  split at hinputs
  · next hversion =>
    rw [if_pos hversion] at houtputs
    obtain ⟨move,hmove,hinputs⟩ := bind_ok hinputs
    obtain ⟨move',hmove',houtputs⟩ := bind_ok houtputs
    cases hinputs
    cases houtputs
    rw [addReshapeNode_ok hmove,addReshapeNode_ok hmove']
    exact .flattened hversion
  · next hversion =>
    rw [if_neg hversion,hshape] at houtputs
    split at hinputs
    · next hmoves =>
      rw [if_pos hmoves] at houtputs
      obtain ⟨perm,hperm,hinputs⟩ := bind_ok hinputs
      obtain ⟨move,hmove,hinputs⟩ := bind_ok hinputs
      obtain ⟨perm',hperm',houtputs⟩ := bind_ok houtputs
      obtain ⟨move',hmove',houtputs⟩ := bind_ok houtputs
      cases hinputs
      cases houtputs
      obtain rfl := getPermToLastAxis_ok hperm
      obtain rfl := getPermToLastAxis_ok hperm'
      rw [← hshape] at hmove' ⊢
      exact .swapped hversion move move' hmove hmove'
    · next hmoves =>
      rw [if_neg hmoves] at houtputs
      cases hinputs
      cases houtputs
      exact .direct hversion

end

section
variable (R : Type)

def Computes (node : SoftmaxNode) (axis : Nat) (steps : List SoftmaxStep) : Prop :=
  ∀ (f : OpType → List R → Nat → R) (x : Tensor R) (env : SoftmaxWire → Tensor R),
    x.shape = node.inputShape → env .input = x →
      (runSteps (SoftmaxKind.apply f) steps env .output).Same (onnxSoftmax node axis f x)

variable {R} {node : SoftmaxNode} {axis : Nat}

def leadingDims (shape : List Nat) (axis : Nat) : List Nat :=
  shape.take axis ++ if axis = 0 then [1] else []

theorem length_leadingDims {shape : List Nat} (haxis : axis < shape.length) :
    (leadingDims shape axis).length = if axis = 0 then 1 else axis := by
  unfold leadingDims
  split
  · next hzero => simp [hzero]
  · simp
    omega

theorem prod_leadingDims (shape : List Nat) (axis : Nat) :
    (leadingDims shape axis ++ [(shape.drop axis).prod]).prod = shape.prod := by
  have hsplit : (shape.take axis).prod * (shape.drop axis).prod = shape.prod := by
    rw [← prod_append,take_append_drop]
  rw [prod_append,leadingDims,prod_append]
  split <;> simp

theorem flattenShapeFromAxis_eq {shape : List Nat} (h : (shape.drop axis).prod < 2 ^ 32) :
    flattenShapeFromAxis shape axis = leadingDims shape axis ++ [(shape.drop axis).prod] := by
  rw [flattenShapeFromAxis,Nat.mod_eq_of_lt h,leadingDims]

theorem Same_of_zero {s t : Tensor R} (hshape : s.shape = t.shape) (hzero : 0 ∈ t.shape) : s.Same t :=
  ⟨hshape,fun _ hidx => absurd hidx (not_inBounds_of_zero hzero)⟩

theorem flattened_computes (hversion : node.sinceVersion < 13) (haxis : axis < node.inputShape.length)
    (hshape : node.outputShape = node.inputShape)
    (hfits : 0 ∈ node.inputShape ∨ (node.inputShape.drop axis).prod < 2 ^ 32) :
    Computes R node axis ([⟨.layout (.reshape (flattenShapeFromAxis node.inputShape axis)),[.input],.moved⟩] ++
      (createSoftmaxOutputNodes node (if axis = 0 then 1 else axis) .moved .lanes ++
        [⟨.layout (.reshape node.outputShape),[.lanes],.output⟩])) := by
  intro f x env hx henv
  rw [chain_run,henv,hshape,← hx,onnxSoftmax,if_pos hversion]
  rw [← hx] at hfits haxis
  rcases hfits with hzero | hfits
  · exact Same_of_zero rfl hzero
  · rw [flattenShapeFromAxis_eq hfits,← length_leadingDims haxis]
    exact flattened_lanes (prod_leadingDims x.shape axis)

theorem fits_of_flattened [Nontrivial R] (hversion : node.sinceVersion < 13)
    (haxis : axis < node.inputShape.length) (hshape : node.outputShape = node.inputShape)
    (h : Computes R node axis
      ([⟨.layout (.reshape (flattenShapeFromAxis node.inputShape axis)),[.input],.moved⟩] ++
      (createSoftmaxOutputNodes node (if axis = 0 then 1 else axis) .moved .lanes ++
        [⟨.layout (.reshape node.outputShape),[.lanes],.output⟩])))
    (hzero : 0 ∉ node.inputShape) : (node.inputShape.drop axis).prod < 2 ^ 32 := by
  obtain ⟨a,b,hab⟩ := exists_pair_ne R
  classical
  let width := (node.inputShape.drop axis).prod
  let f : OpType → List R → Nat → R := fun _ lane _ => if lane.length = width then a else b
  let x : Tensor R := ⟨node.inputShape,fun _ => a⟩
  have hsame := h f x (fun _ => x) rfl rfl
  rw [chain_run,onnxSoftmax,if_pos hversion,hshape] at hsame
  have hget := hsame.2 _ (inBounds_zeros hzero)
  by_contra hoverflow
  have hlane : (flattenShapeFromAxis node.inputShape axis).getD (if axis = 0 then 1 else axis) 0 =
      width % 2 ^ 32 := by
    have hlen := length_leadingDims haxis
    rw [← hlen]
    exact (getD_append_right _ _ _ _ le_rfl).trans (by rw [Nat.sub_self]; rfl)
  have hne : width % 2 ^ 32 ≠ width := by
    have := Nat.mod_lt width (show 0 < 2 ^ 32 by decide)
    omega
  have hemitted : ((laneMap (f node.opType) (if axis = 0 then 1 else axis)
      (x.reshape (flattenShapeFromAxis node.inputShape axis))).reshape node.inputShape).get
        (node.inputShape.map fun _ => 0) = b := by
    change (if List.length _ = width then a else b) = b
    rw [length_map,length_range]
    exact if_neg (hlane ▸ hne)
  have honnx : (coerced (f node.opType) (x.shape.drop axis).prod x).get
      (node.inputShape.map fun _ => 0) = a := by
    change (if List.length _ = width then a else b) = a
    rw [length_map,length_range]
    exact if_pos rfl
  exact hab (honnx.symm.trans (hget.symm.trans hemitted))

theorem swapped_computes (hversion : ¬node.sinceVersion < 13) (haxis : axis < node.inputShape.length)
    (hshape : node.outputShape = node.inputShape) {m m' : Move}
    (hm : addTransposeNode node.inputQuant.isPerChannel node.inputShape
      (swapPerm axis node.inputShape.length) (swapWithLast node.inputShape axis) = .ok m)
    (hm' : addTransposeNode node.outputQuant.isPerChannel (swapWithLast node.outputShape axis)
      (swapPerm axis node.outputShape.length) node.outputShape = .ok m') :
    Computes R node axis ([⟨.layout m,[.input],.moved⟩] ++
      (createSoftmaxOutputNodes node (node.outputShape.length - 1) .moved .lanes ++
        [⟨.layout m',[.lanes],.output⟩])) := by
  intro f x env hx henv
  rw [hshape] at hm' ⊢
  rw [chain_run,henv,onnxSoftmax,if_neg hversion]
  rw [← hx] at hm hm' haxis ⊢
  exact swapped_lanes (f node.opType) haxis hm hm'

theorem direct_computes (hversion : ¬node.sinceVersion < 13) :
    Computes R node axis ([] ++ createSoftmaxOutputNodes node axis .input .output) := by
  intro f x env hx henv
  rw [nil_append,createSoftmaxOutputNodes_run,henv,onnxSoftmax,if_neg hversion]
  exact .refl _

theorem softmax_lanes_iff [Nontrivial R] {steps : List SoftmaxStep}
    (hsteps : addToModelBuilder node = .ok steps) (hshape : node.outputShape = node.inputShape)
    (haxis : getCanonicalizedAxisAttribute node = .ok axis) :
    Computes R node axis steps ↔
      13 ≤ node.sinceVersion ∨ 0 ∈ node.inputShape ∨ (node.inputShape.drop axis).prod < 2 ^ 32 := by
  have hlt := getCanonicalizedAxisAttribute_lt haxis
  rcases lowered_of_add hsteps hshape haxis with ⟨hversion⟩ | ⟨hversion,m,m',hm,hm'⟩ | ⟨hversion⟩
  · constructor
    · intro h
      by_cases hzero : 0 ∈ node.inputShape
      · exact .inr (.inl hzero)
      · exact .inr (.inr (fits_of_flattened hversion hlt hshape h hzero))
    · rintro (hnew | hfits)
      · omega
      · exact flattened_computes hversion hlt hshape hfits
  · exact ⟨fun _ => .inl (by omega),fun _ => swapped_computes hversion hlt hshape hm hm'⟩
  · exact ⟨fun _ => .inl (by omega),fun _ => direct_computes hversion⟩

end

def sampleSoftmax (sinceVersion : Nat) (axis : Int) (shape : List Nat) : SoftmaxNode where
  opType := .softmax
  sinceVersion := sinceVersion
  axisAttr := some axis
  backend := .htp
  inputShape := shape
  outputShape := shape
  isInitializer := false
  inputQuant := .undefined
  outputQuant := .undefined
  outputDataType := .float32

theorem softmax_lanes_rank3 :
    (∃ steps, addToModelBuilder (sampleSoftmax 13 0 [2,3,4]) = .ok steps ∧
        Computes Nat (sampleSoftmax 13 0 [2,3,4]) 0 steps) ∧
      ∃ steps, addToModelBuilder (sampleSoftmax 11 1 [2,3,4]) = .ok steps ∧
        Computes Nat (sampleSoftmax 11 1 [2,3,4]) 1 steps :=
  ⟨⟨_,rfl,(softmax_lanes_iff rfl rfl rfl).mpr (.inl (by decide))⟩,
    ⟨_,rfl,(softmax_lanes_iff rfl rfl rfl).mpr (.inr (.inr (by decide)))⟩⟩

theorem flatten_overflow_loses_lanes :
    ∃ steps, addToModelBuilder (sampleSoftmax 11 0 [65536,65536]) = .ok steps ∧
      ¬Computes Nat (sampleSoftmax 11 0 [65536,65536]) 0 steps :=
  ⟨_,rfl,fun h => absurd (fits_of_flattened (by decide) (by decide) rfl h (by decide)) (by decide)⟩

end QnnEp.Softmax
