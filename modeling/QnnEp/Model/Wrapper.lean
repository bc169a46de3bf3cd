import Mathlib.Algebra.Order.Ring.Int
import QnnEp.Foundation.Registry
import QnnEp.Foundation.Scatter
import QnnEp.Naming.NodeName
import QnnEp.Naming.UniqueName

namespace QnnEp.Model
open Registry

inductive QnnDataType where
  | int8
  | int16
  | int32
  | int64
  | uint8
  | uint16
  | uint32
  | uint64
  | float16
  | float32
  | float64
  | bfloat16
  | bool8
  | sfixedPoint4
  | sfixedPoint8
  | sfixedPoint16
  | sfixedPoint32
  | ufixedPoint4
  | ufixedPoint8
  | ufixedPoint16
  | ufixedPoint32
  deriving DecidableEq, Repr

inductive QnnTensorType where
  | appWrite
  | appRead
  | native
  | static
  deriving DecidableEq, Repr

inductive QuantParams where
  | undefined
  | scaleOffset (scale : UInt32) (offset : Int)
  | axisScaleOffset (axis : Nat) (scaleOffsets : List (UInt32 × Int))
  deriving DecidableEq, Repr

def QuantParams.isPerChannel : QuantParams → Bool
  | .axisScaleOffset _ _ => true
  | _ => false

abbrev Element := List UInt8

structure QnnTensor where
  tensorType : QnnTensorType
  dataType : QnnDataType
  quantParams : QuantParams
  shape : List Nat
  data : List Element
  deriving DecidableEq, Repr

structure QnnOpProperty where
  nodeName : String
  nodeType : String
  inputNames : List String
  outputNames : List String
  deriving DecidableEq, Repr

structure ModelWrapper where
  modelTensorsMap : String → Option QnnTensor
  qnnOpPropertyList : List QnnOpProperty
  qnnNodeNames : Finset String

namespace ModelWrapper

def empty : ModelWrapper := ⟨fun _ => none,[],∅⟩

def isQnnTensorWrapperExist (w : ModelWrapper) (name : String) : Bool :=
  (w.modelTensorsMap name).isSome

def addTensorWrapper (w : ModelWrapper) (name : String) (tensor : QnnTensor) :
    Except String ModelWrapper :=
  if name.isEmpty then .error "Failed to add tensor."
  else .ok { w with modelTensorsMap := insertFirst w.modelTensorsMap name tensor }

def createQnnNode (w : ModelWrapper) (op : QnnOpProperty) : Except String ModelWrapper := do
  let (uniqueNodeName,qnnNodeNames) ← NodeName.makeUniqueQnnNodeName w.qnnNodeNames op.nodeName
  pure { w with
    qnnOpPropertyList := w.qnnOpPropertyList ++ [{ op with nodeName := uniqueNodeName }]
    qnnNodeNames := qnnNodeNames }

def addCastNode (w : ModelWrapper) (nodeName input output : String) (tensor : QnnTensor) :
    Except String ModelWrapper :=
  if w.isQnnTensorWrapperExist output then .ok w
  else do
    let w ← w.addTensorWrapper output tensor
    w.createQnnNode ⟨nodeName,"Cast",[input],[output]⟩

def addReshapeNode (w : ModelWrapper) (nodeName input output : String)
    (inputTensor outputTensor : QnnTensor) : Except String ModelWrapper := do
  let w ← w.addTensorWrapper input inputTensor
  let w ← w.addTensorWrapper output outputTensor
  w.createQnnNode ⟨nodeName,"Reshape",[input],[output]⟩

end ModelWrapper

inductive Command where
  | addTensorWrapper (name : String) (tensor : QnnTensor)
  | createQnnNode (op : QnnOpProperty) (indices : Option String)
  | addCastNode (nodeName input output : String) (tensor : QnnTensor)
  | addReshapeNode (skipExisting : Bool) (nodeName input output : String)
      (inputTensor outputTensor : QnnTensor)
  | castInt64Indices (nodeName name : String) (shape : List Nat)
  deriving DecidableEq, Repr

def int32Name (name : String) : String := name ++ "_int32"

namespace Command

def isInt64 (w : ModelWrapper) (name : String) : Bool :=
  (w.modelTensorsMap name).any fun t => t.dataType == .int64

def int32Tensor (shape : List Nat) : QnnTensor := ⟨.native,.int32,.undefined,shape,[]⟩

def bindIndices (w : ModelWrapper) (indices : Option String) (op : QnnOpProperty) : QnnOpProperty :=
  { op with inputNames := op.inputNames.map fun name =>
      if indices == some name && isInt64 w name then int32Name name else name }

def exec (w : ModelWrapper) : Command → Except String ModelWrapper
  | .addTensorWrapper name tensor => w.addTensorWrapper name tensor
  | .createQnnNode op indices => w.createQnnNode (bindIndices w indices op)
  | .addCastNode nodeName input output tensor => w.addCastNode nodeName input output tensor
  | .addReshapeNode skipExisting nodeName input output inputTensor outputTensor =>
    if skipExisting && w.isQnnTensorWrapperExist output then .ok w
    else w.addReshapeNode nodeName input output inputTensor outputTensor
  | .castInt64Indices nodeName name shape =>
    if isInt64 w name then w.addCastNode nodeName name (int32Name name) (int32Tensor shape)
    else .ok w

def run (commands : List Command) (w : ModelWrapper) : Except String ModelWrapper :=
  commands.foldlM exec w

end Command

theorem addTensorWrapper_ok {w t : ModelWrapper} {name : String} {tensor : QnnTensor}
    (h : w.addTensorWrapper name tensor = .ok t) :
    t.modelTensorsMap = insertFirst w.modelTensorsMap name tensor ∧
      t.qnnOpPropertyList = w.qnnOpPropertyList := by
  unfold ModelWrapper.addTensorWrapper at h
  split at h
  · cases h
  · obtain rfl := Except.ok.inj h
    exact ⟨rfl,rfl⟩

theorem createQnnNode_ok {w t : ModelWrapper} {op : QnnOpProperty}
    (h : w.createQnnNode op = .ok t) :
    t.modelTensorsMap = w.modelTensorsMap ∧
      ∃ name, t.qnnOpPropertyList = w.qnnOpPropertyList ++ [{ op with nodeName := name }] := by
  obtain ⟨⟨unique,_⟩,_,hpure⟩ := bind_ok h
  obtain rfl := Except.ok.inj hpure
  exact ⟨rfl,unique,rfl⟩

structure TensorInfo where
  name : String
  dataType : QnnDataType
  quantParams : QuantParams
  shape : List Nat
  deriving DecidableEq, Repr

def nchw2hwcnPerm : List Nat := [2,3,1,0]

def nchw2hwcnPerm3d : List Nat := [2,3,4,1,0]

def cnhw2hwcnPerm : List Nat := [2,3,0,1]

def cnhw2hwcnPerm3d : List Nat := [2,3,4,0,1]

inductive OnnxConvType where
  | kConv
  | kConvTranspose
  deriving DecidableEq, Repr

def strides : List Nat → List Nat
  | [] => []
  | _ :: dims => dims.prod :: strides dims

def permuteShape (shape perm : List Nat) : List Nat := perm.map fun p => shape.getD p 0

def sourceIndex (shape perm : List Nat) (i : Nat) : Nat :=
  let outShape := permuteShape shape perm
  ((perm.zip ((strides outShape).zip outShape)).map fun d =>
    i / d.2.1 % d.2.2 * (strides shape).getD d.1 0).sum

def transposeData (shape perm : List Nat) (data : List Element) : List Element :=
  (List.range shape.prod).map fun i => data.getD (sourceIndex shape perm i) []

def twoDimensionTranspose (rows cols : Nat) (data : List Element) : Except String (List Element) :=
  if data.length = rows * cols then
    .ok (Scatter.transpose rows cols [] data)
  else .error "Expected both transpose buffers to hold rows * cols * elem_byte_size bytes"

def invertPerm (perm : List Nat) : List Nat :=
  (List.range perm.length).map fun axis => perm.idxOf axis

def handleTranspose (perm : List Nat) : QuantParams → Except String QuantParams
  | .axisScaleOffset axis scaleOffsets =>
    if axis < perm.length then .ok (.axisScaleOffset (perm.getD axis 0) scaleOffsets)
    else .error "Axis value is out of range of the provided permutation"
  | quantParams => .ok quantParams

def unsqueezeAxis (newShape : List Nat) : List Nat → Nat → Nat → Nat
  | [], _, j => j
  | dim :: dims, axis, j =>
    let found := j + ((newShape.drop j).takeWhile (· != dim)).length
    if j < newShape.length then
      if axis = 0 then found else unsqueezeAxis newShape dims (axis - 1) (found + 1)
    else j

def handleUnsqueeze (origShape newShape : List Nat) : QuantParams → Except String QuantParams
  | .axisScaleOffset axis scaleOffsets =>
    if origShape.length < newShape.length then
      .ok (.axisScaleOffset (unsqueezeAxis newShape origShape axis 0) scaleOffsets)
    else .error "Expected unsqueezed shape to have a greater rank."
  | quantParams => .ok quantParams

def hwcnShape (convType : OnnxConvType) : List Nat → Except String (List Nat)
  | [a,b,h,w] =>
    match convType with
    | .kConv => .ok [h,w,b,a]
    | .kConvTranspose => .ok [h,w,a,b]
  | [a,b,h,w,d] =>
    match convType with
    | .kConv => .ok [h,w,d,b,a]
    | .kConvTranspose => .ok [h,w,d,a,b]
  | _ => .error "Unsupported rank! only support 4 or 5."

def hwcnPerm (convType : OnnxConvType) (is3d : Bool) : List Nat :=
  match convType, is3d with
  | .kConv, false => nchw2hwcnPerm
  | .kConv, true => nchw2hwcnPerm3d
  | .kConvTranspose, false => cnhw2hwcnPerm
  | .kConvTranspose, true => cnhw2hwcnPerm3d

def transposeToHwcn (convType : OnnxConvType) (shape : List Nat) (data : List Element) :
    Except String (List Element) :=
  match shape with
  | [_,_,_,_] => .ok (transposeData (shape ++ [1]) (hwcnPerm convType true) data)
  | [_,_,_,_,_] => .ok (transposeData shape (hwcnPerm convType true) data)
  | _ => .error "Only support input of rank 4 or 5"

def leNat : Element → Nat
  | [] => 0
  | b :: bs => b.toNat + 256 * leNat bs

def int64OfElement (e : Element) : Int :=
  if leNat e < 2 ^ 63 then (leNat e : Int) else (leNat e : Int) - 2 ^ 64

def int32Element (n : Nat) : Element :=
  [UInt8.ofNat (n % 256),UInt8.ofNat (n / 256 % 256),UInt8.ofNat (n / 65536 % 256),
    UInt8.ofNat (n / 16777216 % 256)]

def normalizeIndex (axisDim : Nat) (e : Element) : Option Element :=
  let idx := int64OfElement e
  let idx := if idx < 0 then idx + axisDim else idx
  if idx < 0 || idx ≥ axisDim || idx > 2147483647 then none else some (int32Element idx.toNat)

def normalizeIndices (axisDimForElement : Nat → Nat) (data : List Element) : Option (List Element) :=
  data.zipIdx.mapM fun e => normalizeIndex (axisDimForElement e.2) e.1

end QnnEp.Model
