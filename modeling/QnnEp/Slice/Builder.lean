import Mathlib.Data.List.GetD
import Mathlib.Tactic.Linarith
import QnnEp.Foundation.Registry
import QnnEp.Model.Shapes

namespace QnnEp.Slice
open List Registry
open Shapes (getOnnxShape)

structure Initializer where
  elementType : Nat
  shape : List Int
  elems : List Int
  deriving DecidableEq, Repr

def int32Type : Nat := 6

def int64Type : Nat := 7

def boolType : Nat := 9

structure SliceAttributes where
  starts : Option (List Int)
  ends : Option (List Int)
  axes : Option (List Int)
  deriving DecidableEq, Repr

inductive Operator where
  | slice (sinceVersion : Nat) (stored : SliceAttributes)
  | concat (axis : Option Int)
  | other (opType : String)
  deriving DecidableEq, Repr

structure Node where
  op : Operator
  inputs : List String
  outputs : List String
  deriving DecidableEq, Repr

def Node.isConcat (node : Node) : Bool :=
  match node.op with
  | .concat _ => true
  | _ => false

def Node.output (node : Node) : String := node.outputs.getD 0 ""

structure Graph where
  nodes : List Node
  outputs : List String
  initializers : String → Option Initializer
  elementTypes : String → Nat
  shapes : String → Option (List Int)
  singleProducer : ∀ n ∈ nodes, ∀ m ∈ nodes, ∀ v ∈ n.outputs, v ∈ m.outputs → n = m

structure SliceParams where
  starts : List Int
  ends : List Int
  axes : List Int
  steps : List Int
  inputDimensions : List Int
  deriving DecidableEq, Repr

def getInitializerInputData (g : Graph) (name : String) : Except String (List Int) :=
  match g.initializers name with
  | none => .error ("Expected input " ++ name ++ " to be an initializer.")
  | some stored =>
    if stored.elementType = int64Type ∨ stored.elementType = int32Type then .ok stored.elems
    else .error ("Data type " ++ toString stored.elementType ++
      " is not supported for Slice initializer input " ++ name)

def getOptionalInputData (g : Graph) (inputs : List String) (index : Nat) :
    Except String (List Int) :=
  match inputs[index]? with
  | none => .ok []
  | some name => if name = "" then .ok [] else getInitializerInputData g name

def extractSliceParams (g : Graph) (sinceVersion : Nat) (stored : SliceAttributes)
    (inputs : List String) : Except String SliceParams := do
  let (starts,ends,axes,steps) ←
    if sinceVersion < 10 then
      .ok (stored.starts.getD [0],stored.ends.getD [0],stored.axes.getD [],[])
    else do
      let starts ← getInitializerInputData g (inputs.getD 1 "")
      let ends ← getInitializerInputData g (inputs.getD 2 "")
      let axes ← getOptionalInputData g inputs 3
      let steps ← getOptionalInputData g inputs 4
      .ok (starts,ends,axes,steps)
  match getOnnxShape (g.shapes (inputs.getD 0 "")) with
  | none => .error "Cannot get shape for Slice input 0."
  | some dims => .ok ⟨starts,ends,axes,steps,dims.map Int.ofNat⟩

structure ComputeMetadata where
  starts : List Int
  ends : List Int
  steps : List Int
  outputDims : List Int
  deriving DecidableEq, Repr

def ComputeMetadata.new (inputDimensions : List Int) : ComputeMetadata where
  starts := inputDimensions.map fun _ => 0
  ends := inputDimensions
  steps := inputDimensions.map fun _ => 1
  outputDims := inputDimensions

def clamp (value low high : Int) : Int :=
  if value < low then low else if high < value then high else value

def int32Max : Int := 2147483647

def int64Max : Int := 9223372036854775807

def sliceStart (dim step rawStart : Int) : Int :=
  let start := if rawStart < 0 then rawStart + dim else rawStart
  if step < 0 then clamp start 0 (dim - 1) else clamp start 0 dim

def sliceEnd (dim step rawEnd : Int) : Int :=
  if rawEnd = int32Max ∨ rawEnd = int64Max then
    if step < 0 then -1 else dim
  else
    let stop := if rawEnd < 0 then rawEnd + dim else rawEnd
    if step < 0 then clamp stop (-1) dim else clamp stop 0 dim

def ceilDiv (a b : Int) : Int := -Int.fdiv (-a) b

def ComputeMetadata.setAxis (m : ComputeMetadata) (axis : Nat) (dim rawStart rawEnd rawStep : Int) :
    ComputeMetadata :=
  if dim = 0 then
    { starts := m.starts.set axis 0
      ends := m.ends.set axis 0
      steps := m.steps.set axis rawStep
      outputDims := m.outputDims.set axis 0 }
  else
    let step := clamp rawStep (-dim) dim
    let start := sliceStart dim step rawStart
    let stop := sliceEnd dim step rawEnd
    { starts := m.starts.set axis start
      ends := m.ends.set axis stop
      steps := m.steps.set axis step
      outputDims := m.outputDims.set axis (max 0 (ceilDiv (stop - start) step)) }

def prepareAxis (params : SliceParams) (s : ComputeMetadata × List Int) (entry : Int × Nat) :
    Except String (ComputeMetadata × List Int) :=
  let rank := params.inputDimensions.length
  let axis := if entry.1 < 0 then entry.1 + rank else entry.1
  if rank ≤ axis ∨ axis < 0 then
    .error "'axes' has an axis outside of the tensor dimension count"
  else if axis ∈ s.2 then
    .error "'axes' has duplicates"
  else
    let step := params.steps.getD entry.2 1
    if step = 0 then .error "'step' value cannot be 0"
    else
      .ok (s.1.setAxis axis.toNat (params.inputDimensions.getD axis.toNat 0)
        (params.starts.getD entry.2 0) (params.ends.getD entry.2 0) step,axis :: s.2)

def prepareForComputeHelper (params : SliceParams) : Except String ComputeMetadata :=
  let axes := if params.axes.isEmpty then (List.range params.starts.length).map Int.ofNat
    else params.axes
  if params.starts.length < axes.length ∨ params.ends.length < axes.length then
    .error "'starts' and 'ends' must have at least as many elements as 'axes'"
  else do
    let (metadata,_) ← axes.zipIdx.foldlM (prepareAxis params)
      (ComputeMetadata.new params.inputDimensions,[])
    .ok metadata

inductive QnnBackendType where
  | cpu
  | gpu
  | dsp
  | htp
  | htpFp16
  | serializer
  deriving DecidableEq, Repr

def isNpuBackend (backend : QnnBackendType) : Bool := backend = .htp ∨ backend = .dsp

inductive TensorRef where
  | value (name : String)
  | generated (base suffix : String)
  deriving DecidableEq, Repr

structure QnnOp where
  opType : String
  inputs : List TensorRef
  outputs : List TensorRef
  deriving DecidableEq, Repr

variable {g : Graph} {ops : List QnnOp} {backend : QnnBackendType} {sinceVersion : Nat} {node : Node}
  {doOpValidation : Bool}

def QnnOp.References (op : QnnOp) (name : String) : Prop :=
  TensorRef.value name ∈ op.inputs ∨ TensorRef.value name ∈ op.outputs

def Graph.consumers (g : Graph) (v : String) : List Node :=
  g.nodes.flatMap fun n => (n.inputs.filter (· = v)).map fun _ => n

def canElideZeroDimOutput (g : Graph) (node : Node) : Bool :=
  if g.outputs.contains node.output then false
  else if node.outputs.length ≠ 1 then false
  else
    match g.consumers node.output with
    | [consumer] => consumer.isConcat
    | _ => false

def cannotElideMessage : String :=
  "QNN HTP's StridedSlice rejects a zero-sized output dimension, and this Slice's output " ++
  "cannot be safely elided (its only consumer must be Concat, and it must not be a graph " ++
  "output)."

def computeSliceZeroDimDecision (backend : QnnBackendType) (g : Graph) (node : Node)
    (metadata : ComputeMetadata) : Except String Bool :=
  if backend ≠ .htp then .ok false
  else if !metadata.outputDims.contains 0 then .ok false
  else if !canElideZeroDimOutput g node then
    .error cannotElideMessage
  else .ok true

def sliceMetadata (g : Graph) (sinceVersion : Nat) (stored : SliceAttributes) (node : Node) :
    Except String ComputeMetadata := do
  let params ← extractSliceParams g sinceVersion stored node.inputs
  prepareForComputeHelper params

def shouldElideZeroDimSliceOutput (backend : QnnBackendType) (g : Graph) (sinceVersion : Nat)
    (stored : SliceAttributes) (node : Node) : Except String Bool := do
  let metadata ← sliceMetadata g sinceVersion stored node
  computeSliceZeroDimDecision backend g node metadata

def explicitOpCheck (g : Graph) (node : Node) : Except String Unit :=
  if (node.inputs.drop 1).any fun name => name ≠ "" ∧ (g.initializers name).isNone then
    .error "QNN doesn't support dynamic slice."
  else .ok ()

def whenValidating (doOpValidation : Bool) (check : Except String Unit) : Except String Unit :=
  if doOpValidation then check else .ok ()

def needsBoolCast (backend : QnnBackendType) (g : Graph) (node : Node) : Bool :=
  backend = .htp && g.elementTypes (node.inputs.getD 0 "") == boolType

def castInput (name : String) : QnnOp :=
  ⟨"Cast",[.value name],[.generated name "_bool_to_u8"]⟩

def sliceProcessInputs (backend : QnnBackendType) (g : Graph) (sinceVersion : Nat)
    (stored : SliceAttributes) (node : Node) (doOpValidation : Bool) :
    Except String (List TensorRef × List QnnOp) := do
  let _ ← whenValidating doOpValidation (explicitOpCheck g node)
  let elide ← shouldElideZeroDimSliceOutput backend g sinceVersion stored node
  if elide then .ok ([],[])
  else if needsBoolCast backend g node then
    .ok ((node.inputs.take 1).map fun name => .generated name "_bool_to_u8",
      (node.inputs.take 1).map castInput)
  else .ok ((node.inputs.take 1).map .value,[])

def sliceProcessAttributesAndOutputs (backend : QnnBackendType) (g : Graph) (sinceVersion : Nat)
    (stored : SliceAttributes) (node : Node) (names : List TensorRef) :
    Except String (List QnnOp) := do
  let metadata ← sliceMetadata g sinceVersion stored node
  let elide ← computeSliceZeroDimDecision backend g node metadata
  if elide then .ok []
  else if needsBoolCast backend g node then
    match getOnnxShape (g.shapes node.output) with
    | none => .error "Cannot get shape"
    | some _ =>
      .ok [⟨"StridedSlice",names,[.generated node.output "_u8_to_bool_in"]⟩,
        ⟨"Cast",[.generated node.output "_u8_to_bool_in"],(node.outputs.take 1).map .value⟩]
  else .ok [⟨"StridedSlice",names,node.outputs.map .value⟩]

def hasZeroDim (g : Graph) (name : String) : Except String Bool :=
  match g.initializers name with
  | some stored => .ok (stored.shape.contains 0)
  | none =>
    match getOnnxShape (g.shapes name) with
    | none => .error "Cannot get shape"
    | some shape => .ok (shape.contains 0)

def concatInput (g : Graph) (names : List String) (name : String) : Except String (List String) := do
  let zero ← hasZeroDim g name
  .ok (if zero then names else names ++ [name])

def concatProcessInputs (g : Graph) (node : Node) : Except String (List String) := do
  let names ← node.inputs.foldlM (concatInput g) []
  if names.isEmpty then
    .error "Concat operation requires at least one input without a 0 dimension"
  else .ok names

def getCanonicalizedAxisAttribute (g : Graph) (node : Node) (stored : Option Int) (default : Int) :
    Except String Int :=
  match getOnnxShape (g.shapes (node.inputs.getD 0 "")) with
  | none => .error "Cannot get shape"
  | some shape =>
    let given := stored.getD default
    let axis := if given < 0 then given + shape.length else given
    if 0 ≤ axis ∧ axis < shape.length then .ok axis
    else .error "QNN requires axis range [0, rank-1]."

def concatProcessAttributesAndOutputs (g : Graph) (node : Node) (axis : Option Int)
    (names : List String) : Except String (List QnnOp) :=
  if names.isEmpty then .ok []
  else do
    let _ ← getCanonicalizedAxisAttribute g node axis 0
    .ok [⟨"Concat",names.map .value,node.outputs.map .value⟩]

structure OtherBuilders where
  addToModelBuilder : Bool → Graph → Node → Except String (List QnnOp)
  references_own : ∀ doOpValidation g node ops, addToModelBuilder doOpValidation g node = .ok ops →
    ∀ op ∈ ops, ∀ v, op.References v → v ∈ node.inputs ∨ v ∈ node.outputs

def addToModelBuilder (backend : QnnBackendType) (others : OtherBuilders) (doOpValidation : Bool)
    (g : Graph) (node : Node) : Except String (List QnnOp) :=
  match node.op with
  | .slice sinceVersion stored => do
    let (names,casts) ← sliceProcessInputs backend g sinceVersion stored node doOpValidation
    let ops ← sliceProcessAttributesAndOutputs backend g sinceVersion stored node names
    .ok (casts ++ ops)
  | .concat axis => do
    let names ← concatProcessInputs g node
    concatProcessAttributesAndOutputs g node axis names
  | .other _ => others.addToModelBuilder doOpValidation g node

def keepsInput (g : Graph) (name : String) : Bool :=
  match hasZeroDim g name with
  | .ok zero => !zero
  | .error _ => false

theorem keepsInput_iff {name : String} : keepsInput g name = true ↔ hasZeroDim g name = .ok false := by
  unfold keepsInput
  cases hz : hasZeroDim g name with
  | error e | ok zero => simp

theorem foldlM_concatInput_ok_iff {inputs acc names : List String} :
    inputs.foldlM (concatInput g) acc = .ok names ↔
      (∀ v ∈ inputs, ∃ zero, hasZeroDim g v = .ok zero) ∧
        names = acc ++ inputs.filter (keepsInput g) := by
  induction inputs generalizing acc with
  | nil =>
    simp only [foldlM_nil,not_mem_nil,false_implies,implies_true,filter_nil,
      append_nil,true_and]
    exact ⟨fun h => (Except.ok.inj h).symm,fun h => congrArg Except.ok h.symm⟩
  | cons v vs ih =>
    rw [foldlM_cons,forall_mem_cons]
    cases hz : hasZeroDim g v with
    | error e =>
      have hstep : concatInput g acc v = .error e := by rw [concatInput,hz]; rfl
      rw [hstep]
      refine iff_of_false (by rintro ⟨⟩) ?_
      rintro ⟨⟨⟨_,h⟩,_⟩,_⟩
      cases h
    | ok zero =>
      have hstep : concatInput g acc v = .ok (if zero then acc else acc ++ [v]) := by
        rw [concatInput,hz]; rfl
      have hkeep : keepsInput g v = !zero := by rw [keepsInput,hz]
      rw [hstep]
      change List.foldlM (concatInput g) _ vs = .ok names ↔ _
      rw [ih]
      cases zero <;> simp [hkeep]

structure ConcatBuilds (g : Graph) (axis : Option Int) (concat : Node) : Prop where
  shapes : ∀ v ∈ concat.inputs, ∃ zero, hasZeroDim g v = .ok zero
  axis : ∃ a, getCanonicalizedAxisAttribute g concat axis 0 = .ok a

theorem concat_ok_iff {concat : Node} {axis : Option Int} :
    (do let names ← concatProcessInputs g concat
        concatProcessAttributesAndOutputs g concat axis names) = .ok ops ↔
      ConcatBuilds g axis concat ∧ concat.inputs.filter (keepsInput g) ≠ [] ∧
        ops = [⟨"Concat",(concat.inputs.filter (keepsInput g)).map .value,
          concat.outputs.map .value⟩] := by
  constructor
  · intro h
    obtain ⟨names,hnames,hops⟩ := bind_ok h
    obtain ⟨kept,hfold,hkept⟩ := bind_ok hnames
    obtain ⟨hshapes,rfl⟩ := foldlM_concatInput_ok_iff.mp hfold
    split at hkept
    · cases hkept
    · next hne =>
      cases hkept
      rw [concatProcessAttributesAndOutputs,if_neg hne] at hops
      obtain ⟨a,ha,hops⟩ := bind_ok hops
      cases hops
      exact ⟨⟨hshapes,a,ha⟩,by simpa using hne,rfl⟩
  · rintro ⟨⟨hshapes,a,ha⟩,hne,rfl⟩
    have hfold : concat.inputs.foldlM (concatInput g) [] = .ok (concat.inputs.filter (keepsInput g)) :=
      foldlM_concatInput_ok_iff.mpr ⟨hshapes,rfl⟩
    have hempty : ¬(concat.inputs.filter (keepsInput g)).isEmpty = true := by simpa using hne
    have hnames : concatProcessInputs g concat = .ok (concat.inputs.filter (keepsInput g)) := by
      rw [concatProcessInputs,hfold]
      exact if_neg hempty
    rw [hnames]
    change concatProcessAttributesAndOutputs g concat axis _ = _
    rw [concatProcessAttributesAndOutputs,if_neg hempty,ha]
    rfl

theorem sliceProcessInputs_references {stored : SliceAttributes} {built : List TensorRef × List QnnOp}
    (h : sliceProcessInputs backend g sinceVersion stored node doOpValidation = .ok built) :
    (∀ v, TensorRef.value v ∈ built.1 → v ∈ node.inputs) ∧
      ∀ op ∈ built.2, ∀ v, op.References v → v ∈ node.inputs := by
  unfold sliceProcessInputs at h
  obtain ⟨-,-,h⟩ := bind_ok h
  obtain ⟨elide,-,h⟩ := bind_ok h
  split at h
  · cases h
    simp
  · split at h
    · cases h
      refine ⟨?_,?_⟩
      · intro v hv
        obtain ⟨_,_,he⟩ := mem_map.mp hv
        cases he
      intro op hop v hv
      obtain ⟨name,hname,rfl⟩ := mem_map.mp hop
      have hval : v = name := by simpa [castInput,QnnOp.References] using hv
      exact hval ▸ mem_of_mem_take hname
    · cases h
      refine ⟨?_,by simp⟩
      intro v hv
      obtain ⟨_,hin,he⟩ := mem_map.mp hv
      cases he
      exact mem_of_mem_take hin

theorem sliceProcessAttributesAndOutputs_references {stored : SliceAttributes} {names : List TensorRef}
    (hnames : ∀ v, TensorRef.value v ∈ names → v ∈ node.inputs)
    (h : sliceProcessAttributesAndOutputs backend g sinceVersion stored node names = .ok ops) :
    ∀ op ∈ ops, ∀ v, op.References v → v ∈ node.inputs ∨ v ∈ node.outputs := by
  unfold sliceProcessAttributesAndOutputs at h
  obtain ⟨metadata,-,h⟩ := bind_ok h
  obtain ⟨elide,-,h⟩ := bind_ok h
  split at h
  · cases h
    simp
  · split at h
    · split at h
      · cases h
      · cases h
        simp only [mem_cons,not_mem_nil,or_false,forall_eq_or_imp,forall_eq,QnnOp.References]
        refine ⟨?_,?_⟩
        · rintro v (hv | hv)
          · exact .inl (hnames v hv)
          · cases hv
        · rintro v (hv | hv)
          · cases hv
          · obtain ⟨_,hout,he⟩ := mem_map.mp hv
            cases he
            exact .inr (mem_of_mem_take hout)
    · cases h
      simp only [mem_singleton,forall_eq,QnnOp.References]
      rintro v (hv | hv)
      · exact .inl (hnames v hv)
      · exact .inr (by simpa using hv)

theorem addToModelBuilder_references {others : OtherBuilders}
    (h : addToModelBuilder backend others doOpValidation g node = .ok ops) :
    ∀ op ∈ ops, ∀ v, op.References v → v ∈ node.inputs ∨ v ∈ node.outputs := by
  unfold addToModelBuilder at h
  split at h
  · obtain ⟨⟨names,casts⟩,hin,h⟩ := bind_ok h
    obtain ⟨built,hout,h⟩ := bind_ok h
    cases h
    obtain ⟨hnames,hcasts⟩ := sliceProcessInputs_references hin
    intro op hop v hv
    rcases mem_append.mp hop with hop | hop
    · exact .inl (hcasts op hop v hv)
    · exact sliceProcessAttributesAndOutputs_references hnames hout op hop v hv
  · obtain ⟨-,-,rfl⟩ := concat_ok_iff.mp h
    simp only [mem_singleton,forall_eq,QnnOp.References]
    rintro v (hv | hv)
    · have hkept : v ∈ node.inputs.filter (keepsInput g) := by simpa using hv
      exact .inl (mem_filter.mp hkept).1
    · exact .inr (by simpa using hv)
  · exact others.references_own _ _ _ _ h

end QnnEp.Slice
