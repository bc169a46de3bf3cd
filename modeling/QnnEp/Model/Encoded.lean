import Mathlib.Algebra.Field.Rat
import QnnEp.Model.Builders

namespace QnnEp.Model
open Registry UniqueName

inductive Encoding where
  | undefined
  | scaleOffset (scale : ℚ) (offset : Int)
  | axisScaleOffset (axis : Nat) (scaleOffsets : List (ℚ × Int))
  | blockwiseExpansion
  | block (scales : List ℚ) (offsets : List Int) (blockSizes : List Nat)
  | bwFloatBlock (scales offsets : List ℚ) (bitwidth : Nat) (blockSizes : List Nat)
  deriving DecidableEq, Repr

def Encoding.isBwFloatBlock : Encoding → Bool
  | .bwFloatBlock _ _ _ _ => true
  | _ => false

structure EncodedTensor where
  tensorType : QnnTensorType
  dataType : QnnDataType
  encoding : Encoding
  shape : List Nat
  data : List (BitVec 8)
  deriving DecidableEq, Repr

variable {name message input : String} {tensor : EncodedTensor} {op : QnnOpProperty} {dataType : QnnDataType}
  {shape : List Nat}

structure EncodedDef where
  name : String
  dataType : QnnDataType
  encoding : Encoding
  shape : List Nat
  deriving DecidableEq, Repr

def isQuant16bit (dataType : QnnDataType) : Bool :=
  dataType = .ufixedPoint16 ∨ dataType = .sfixedPoint16

def isQnnFixedPointType : QnnDataType → Bool
  | .sfixedPoint4 | .sfixedPoint8 | .sfixedPoint16 | .sfixedPoint32 => true
  | .ufixedPoint4 | .ufixedPoint8 | .ufixedPoint16 | .ufixedPoint32 => true
  | _ => false

structure EncodedModel where
  tensors : String → Option EncodedTensor
  ops : List QnnOpProperty
  nodeNames : Finset String
  generator : UniqueNameGenerator

namespace EncodedModel

def empty : EncodedModel := ⟨fun _ => none,[],∅,reset⟩

def isQnnTensorWrapperExist (s : EncodedModel) (name : String) : Bool := (s.tensors name).isSome

def newName (s : EncodedModel) (base suffix : String) : String × EncodedModel :=
  let name := new s.generator base suffix
  (name.1,{ s with generator := name.2 })

def newNodeName (s : EncodedModel) (node : NodeHeader) (suffix : String) : String × EncodedModel :=
  let name := newForNodeUnit s.generator node.name node.opType node.index suffix
  (name.1,{ s with generator := name.2 })

def addTensorWrapper (s : EncodedModel) (name : String) (tensor : EncodedTensor) (message : String) :
    Except String EncodedModel :=
  if name.isEmpty then .error message
  else .ok { s with tensors := insertFirst s.tensors name tensor }

def createQnnNode (s : EncodedModel) (op : QnnOpProperty) : Except String EncodedModel := do
  let w ← (ModelWrapper.mk (fun _ => none) s.ops s.nodeNames).createQnnNode op
  pure { s with ops := w.qnnOpPropertyList, nodeNames := w.qnnNodeNames }

def addCastNode (s : EncodedModel) (nodeName input output : String) (tensor : EncodedTensor) :
    Except String EncodedModel :=
  if s.isQnnTensorWrapperExist output then .ok s
  else do
    let s ← s.addTensorWrapper output tensor "Failed to add cast tensor."
    s.createQnnNode ⟨nodeName,"Cast",[input],[output]⟩

def addDequantizeNode (s : EncodedModel) (input output : String) (dataType : QnnDataType)
    (shape : List Nat) : Except String EncodedModel :=
  if dataType ≠ .float16 ∧ dataType ≠ .float32 then
    .error "AddDequantizeNode: output_data_type must be FLOAT_16 or FLOAT_32"
  else do
    let s ← s.addTensorWrapper output ⟨.native,dataType,.undefined,shape,[]⟩
      "Failed to add Dequantize output tensor."
    let (nodeName,s) := s.newName input "_dequantize"
    s.createQnnNode ⟨nodeName,"Dequantize",[input],[output]⟩

def addQuantizeNode (s : EncodedModel) (input output : String) (tensor : EncodedTensor) :
    Except String EncodedModel :=
  if isQnnFixedPointType tensor.dataType then do
    let s ← s.addTensorWrapper output tensor "Failed to add Quantize output tensor."
    let (nodeName,s) := s.newName input "_quantize"
    s.createQnnNode ⟨nodeName,"Quantize",[input],[output]⟩
  else .error "AddQuantizeNode: output_data_type must be a SFIXED_POINT or UFIXED_POINT type"

def addInt16ToFp16DequantForActivation (s : EncodedModel) (actName fp16Name opTag : String) :
    Except String EncodedModel :=
  match s.tensors actName with
  | some act =>
    if isQuant16bit act.dataType then s.addDequantizeNode actName fp16Name .float16 act.shape
    else .error ("QNN EP: BQ " ++ opTag ++
      " activation must be INT16-quantized for the BW_FLOAT_BLOCK kernel")
  | none => .error ("Qnn tensor not exist: " ++ actName)

structure Grows (target : String) (s t : EncodedModel) : Prop where
  tensors : Extends s.tensors t.tensors
  ops : ∃ added, t.ops = s.ops ++ added ∧ ∀ op ∈ added, op.nodeType ≠ target

section
variable {target : String} {s t u : EncodedModel}

theorem Grows.refl (s : EncodedModel) : Grows target s s :=
  ⟨Extends.refl _,[],(List.append_nil _).symm,by simp⟩

theorem Grows.trans (h : Grows target s t) (h' : Grows target t u) : Grows target s u := by
  obtain ⟨hst,added,hops,hadded⟩ := h
  obtain ⟨htu,added',hops',hadded'⟩ := h'
  refine ⟨hst.trans htu,added ++ added',by rw [hops',hops,List.append_assoc],?_⟩
  intro op hop
  rcases List.mem_append.mp hop with hop | hop
  · exact hadded op hop
  · exact hadded' op hop

theorem addTensorWrapper_ok (h : s.addTensorWrapper name tensor message = .ok t) :
    t.tensors = insertFirst s.tensors name tensor ∧ t.ops = s.ops := by
  unfold addTensorWrapper at h
  split at h
  · cases h
  · cases h
    exact ⟨rfl,rfl⟩

theorem addTensorWrapper_generator (h : s.addTensorWrapper name tensor message = .ok t) :
    t.generator = s.generator := by
  unfold addTensorWrapper at h
  split at h
  · cases h
  · cases h
    rfl

theorem addTensorWrapper_grows (h : s.addTensorWrapper name tensor message = .ok t) : Grows target s t := by
  obtain ⟨htensors,hops⟩ := addTensorWrapper_ok h
  exact ⟨htensors ▸ insertFirst_extends _ _ _,[],hops.trans (List.append_nil _).symm,by simp⟩

theorem createQnnNode_ok (h : s.createQnnNode op = .ok t) :
    t.tensors = s.tensors ∧ ∃ name, t.ops = s.ops ++ [{ op with nodeName := name }] := by
  obtain ⟨w,hw,hpure⟩ := bind_ok h
  cases hpure
  exact ⟨rfl,(Model.createQnnNode_ok hw).2⟩

theorem createQnnNode_generator (h : s.createQnnNode op = .ok t) : t.generator = s.generator := by
  obtain ⟨w,_,hpure⟩ := bind_ok h
  cases hpure
  rfl

structure Converts (target : String) (s t : EncodedModel) : Prop extends Grows target s t where
  static : ∀ name tensor, t.tensors name = some tensor → tensor.data ≠ [] → s.tensors name = some tensor

theorem Converts.of_eq (htensors : t.tensors = s.tensors) (hops : t.ops = s.ops) :
    Converts target s t := by
  refine ⟨⟨htensors ▸ Extends.refl _,[],hops.trans (List.append_nil _).symm,by simp⟩,?_⟩
  intro name tensor hheld _
  rw [← htensors]
  exact hheld

theorem Converts.trans (h : Converts target s t) (h' : Converts target t u) : Converts target s u :=
  ⟨h.toGrows.trans h'.toGrows,fun name tensor hheld hdata =>
    h.static name tensor (h'.static name tensor hheld hdata) hdata⟩

theorem newName_converts (s : EncodedModel) (base suffix : String) :
    Converts target s (s.newName base suffix).2 := .of_eq rfl rfl

theorem newNodeName_converts (s : EncodedModel) (node : NodeHeader) (suffix : String) :
    Converts target s (s.newNodeName node suffix).2 := .of_eq rfl rfl

theorem addTensorWrapper_converts (hdata : tensor.data = [])
    (h : s.addTensorWrapper name tensor message = .ok t) : Converts target s t := by
  refine ⟨addTensorWrapper_grows h,fun other held hheld hstatic => ?_⟩
  rw [(addTensorWrapper_ok h).1] at hheld
  rcases insertFirst_cases hheld with hold | ⟨_,_,rfl⟩
  · exact hold
  · exact absurd hdata hstatic

theorem createQnnNode_converts (hop : op.nodeType ≠ target) (h : s.createQnnNode op = .ok t) :
    Converts target s t := by
  obtain ⟨htensors,name,hops⟩ := createQnnNode_ok h
  refine ⟨⟨htensors ▸ Extends.refl _,_,hops,?_⟩,fun _ _ hheld _ => htensors ▸ hheld⟩
  intro op' hop'
  rw [List.mem_singleton.mp hop']
  exact hop

theorem addCastNode_converts {nodeName output : String} (htarget : target ≠ "Cast") (hdata : tensor.data = [])
    (h : s.addCastNode nodeName input output tensor = .ok t) : Converts target s t := by
  unfold addCastNode at h
  split at h
  · cases h
    exact .of_eq rfl rfl
  · obtain ⟨w,hw,h⟩ := bind_ok h
    exact (addTensorWrapper_converts hdata hw).trans (createQnnNode_converts htarget.symm h)

theorem addDequantizeNode_converts {output : String} (htarget : target ≠ "Dequantize")
    (h : s.addDequantizeNode input output dataType shape = .ok t) : Converts target s t := by
  unfold addDequantizeNode at h
  split at h
  · cases h
  · obtain ⟨w,hw,h⟩ := bind_ok h
    exact ((addTensorWrapper_converts rfl hw).trans (newName_converts _ _ _)).trans
      (createQnnNode_converts htarget.symm h)

theorem addQuantizeNode_converts {output : String} (htarget : target ≠ "Quantize") (hdata : tensor.data = [])
    (h : s.addQuantizeNode input output tensor = .ok t) : Converts target s t := by
  unfold addQuantizeNode at h
  split at h
  · obtain ⟨w,hw,h⟩ := bind_ok h
    exact ((addTensorWrapper_converts hdata hw).trans (newName_converts _ _ _)).trans
      (createQnnNode_converts htarget.symm h)
  · cases h

theorem insertFirst_getD (m : String → Option EncodedTensor) (name : String) (tensor : EncodedTensor) :
    insertFirst m name tensor name = some ((m name).getD tensor) := by
  rcases Option.eq_none_or_eq_some (m name) with h | ⟨found,h⟩
  · simp [insertFirst_of_none h,h]
  · simp [insertFirst_of_some h,h]

theorem addTensorWrapper_holds (h : s.addTensorWrapper name tensor message = .ok t) :
    t.tensors name = some ((s.tensors name).getD tensor) := by
  rw [(addTensorWrapper_ok h).1,insertFirst_getD]

theorem addCastNode_tensors {nodeName output : String}
    (h : s.addCastNode nodeName input output tensor = .ok t) :
    t.tensors = insertFirst s.tensors output tensor := by
  unfold addCastNode at h
  split at h
  · next hexists =>
    cases h
    obtain ⟨found,hfound⟩ := Option.isSome_iff_exists.mp hexists
    rw [insertFirst_of_some hfound]
  · obtain ⟨w,hw,h⟩ := bind_ok h
    rw [(createQnnNode_ok h).1,(addTensorWrapper_ok hw).1]

theorem addDequantizeNode_tensors {output : String}
    (h : s.addDequantizeNode input output dataType shape = .ok t) :
    t.tensors = insertFirst s.tensors output ⟨.native,dataType,.undefined,shape,[]⟩ := by
  unfold addDequantizeNode at h
  split at h
  · cases h
  · obtain ⟨w,hw,h⟩ := bind_ok h
    have hadded := (addTensorWrapper_ok hw).1
    rw [(createQnnNode_ok h).1]
    exact hadded

end

end EncodedModel

end QnnEp.Model
