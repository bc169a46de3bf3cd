import QnnEp.BlockQuant.Weight
import QnnEp.Foundation.Permuted
import QnnEp.Foundation.Tensor
import QnnEp.MatMulNBits.Builder
import QnnEp.Quant.Axis
import QnnEp.Slice.Builder

namespace QnnEp.Conv
open BlockQuant (Byte)
open Model (OnnxConvType QnnDataType isQuant16bit hwcnShape hwcnPerm permuteShape invertPerm
  nchw2hwcnPerm3d cnhw2hwcnPerm3d)
open Qdq (OnnxType)
open Quant
open Slice (QnnBackendType isNpuBackend)
open Tensors (gather indices dot strides)

def getQnnDataType (isQuantized gpu : Bool) : OnnxType → Except String QnnDataType
  | .int4 => if gpu then .ok .sfixedPoint4 else if isQuantized then .ok .sfixedPoint8 else unmapped
  | .uint4 => if gpu then .ok .ufixedPoint4 else if isQuantized then .ok .ufixedPoint8 else unmapped
  | .int2 => if isQuantized then .ok .sfixedPoint8 else unmapped
  | .uint2 => if isQuantized then .ok .ufixedPoint8 else unmapped
  | .int8 => .ok (if isQuantized then .sfixedPoint8 else .int8)
  | .int16 => .ok (if isQuantized then .sfixedPoint16 else .int16)
  | .int32 => .ok (if isQuantized then .sfixedPoint32 else .int32)
  | .uint8 => .ok (if isQuantized then .ufixedPoint8 else .uint8)
  | .uint16 => .ok (if isQuantized then .ufixedPoint16 else .uint16)
  | .uint32 => .ok (if isQuantized then .ufixedPoint32 else .uint32)
  | .int64 => .ok .int64
  | .uint64 => .ok .uint64
  | .float16 => .ok .float16
  | .float => .ok .float32
  | .double => .ok .float64
  | .bool => .ok .bool8
  | _ => unmapped
where
  unmapped := .error "Failed to map Onnx data type to Qnn data type!"

def fixedPointBitWidth : QnnDataType → Nat
  | .ufixedPoint4 | .sfixedPoint4 => 4
  | .ufixedPoint8 | .sfixedPoint8 => 8
  | .ufixedPoint16 | .sfixedPoint16 => 16
  | _ => 0

def needsPrecisionConvert (a b : QnnDataType) : Bool :=
  a ≠ b ∧ fixedPointBitWidth a ≠ 0 ∧ fixedPointBitWidth b ≠ 0

def isNarrowingQuantOutput (activation output : QnnDataType) : Bool :=
  fixedPointBitWidth activation ≠ 0 ∧ fixedPointBitWidth output ≠ 0 ∧
    fixedPointBitWidth output < fixedPointBitWidth activation

def getElementSizeByType : OnnxType → Nat
  | .int2 | .uint2 | .int4 | .uint4 | .int8 | .uint8 | .bool => 1
  | .int16 | .uint16 | .float16 | .bfloat16 => 2
  | .int32 | .uint32 | .float => 4
  | .int64 | .uint64 | .double => 8
  | .undefined | .string | .complex64 | .complex128 => 0

def bqType : OnnxType → Option BlockQuant.BQType
  | .int2 => some .int2
  | .uint2 => some .uint2
  | .int4 => some .int4
  | .uint4 => some .uint4
  | .int8 => some .int8
  | .uint8 => some .uint8
  | _ => none

def getBQBitwidth (type : OnnxType) : Nat := ((bqType type).map BlockQuant.getBQBitwidth).getD 0

def isUnsignedBQType (type : OnnxType) : Bool := (bqType type).any BlockQuant.isUnsignedBQType

structure ConvWeight where
  type : OnnxType
  shape : List Nat
  data : List Byte
  sized : data.length = shape.prod * getElementSizeByType type
  quantParam : Option OrtQuantParam

structure ConvNode where
  convType : OnnxConvType
  backend : QnnBackendType
  htp : MatMulNBits.Backend
  enableBlockQuantWeightOptimization : Bool
  convertBlockQuantScalesToLpbq : LpbqConversion
  inputCount : Nat
  inputShape : List Nat
  inputType : OnnxType
  inputQuantized : Bool
  inputPerTensor : Bool
  outputType : OnnxType
  outputQuantized : Bool
  autoPad : String
  dilations : List Int
  weight : ConvWeight

inductive WeightEncoding where
  | params (quantParams : QuantizeParams)
  | block (scales : List FloatBits) (blockSizes : List Nat)
  | bwFloatBlock (scales : List FloatBits) (offsets : List Int) (bitwidth : Nat) (blockSizes : List Nat)
  deriving DecidableEq, Repr

structure RegisteredWeight where
  shape : List Nat
  dataType : QnnDataType
  encoding : WeightEncoding
  data : List Byte
  deriving DecidableEq, Repr

def positiveTail (shape : List Nat) : Bool := shape.tail.all (0 < ·)

def transposeDataRank5 (shape perm : List Nat) (elemByteSize : Nat) (input : List Byte) :
    Except String (List Byte) :=
  let outShape := permuteShape shape perm
  if shape.length ≠ 5 then .error "Expected input shape to have rank 5"
  else if perm.length ≠ 5 then .error "Expected perm size of 5"
  else if ¬(positiveTail shape ∧ positiveTail outShape) then
    .error "Expected positive shape dims when computing strides."
  else
    .ok (Scatter.scatterElements elemByteSize
      (fun idx => dot idx (gather (invertPerm perm) (strides outShape)))
      (fun idx => dot idx (strides shape)) 0 input (indices shape) (List.replicate input.length 0))

def transposeToHwcn (perm shape : List Nat) (elemByteSize : Nat) (input : List Byte) (is3d : Bool) :
    Except String (List Byte) :=
  if ¬((is3d ∧ shape.length = 5) ∨ (¬is3d ∧ shape.length = 4)) then
    .error ("Only support input of rank 4 or 5 but got rank " ++ toString shape.length)
  else if elemByteSize = 0 then .error "Invalid element byte size due to potentially unsupported type"
  else transposeDataRank5 (if is3d then shape else shape ++ [1]) perm elemByteSize input

def transposeFromNchwToHwcn := transposeToHwcn nchw2hwcnPerm3d

def transposeFromCnhwToHwcn := transposeToHwcn cnhw2hwcnPerm3d

def transposeWeight (convType : OnnxConvType) (shape : List Nat) (weight : ConvWeight) (is3d : Bool) :
    Except String (List Byte) :=
  match convType with
  | .kConv => transposeFromNchwToHwcn shape (getElementSizeByType weight.type) weight.data is3d
  | .kConvTranspose => transposeFromCnhwToHwcn shape (getElementSizeByType weight.type) weight.data is3d

namespace ConvNode
variable (node : ConvNode)

def quantParams : Except String QuantizeParams :=
  initFromIODef node.convertBlockQuantScalesToLpbq node.enableBlockQuantWeightOptimization
    node.weight.type node.weight.shape node.weight.quantParam

def weightDataType : Except String QnnDataType :=
  getQnnDataType node.weight.quantParam.isSome (node.backend = .gpu) node.weight.type

def isBqWeight : Bool :=
  match node.weight.quantParam with
  | none => false
  | some q => isNpuBackend node.backend ∧ node.weight.shape.length = 4 ∧ q.scaleShape.length = 4 ∧
      q.scaleShape.getD 1 0 < node.weight.shape.getD 1 0

def declaredOutputType : Except String QnnDataType :=
  getQnnDataType node.outputQuantized false node.outputType

def activationType : Except String QnnDataType := do
  let activation ← getQnnDataType node.inputQuantized (node.backend = .gpu) node.inputType
  if isNpuBackend node.backend then do
    let declared ← node.declaredOutputType
    if isNarrowingQuantOutput activation declared ∨ ¬needsPrecisionConvert activation declared then
      pure activation
    else if node.inputPerTensor then pure declared
    else .error "QNN EP's activation precision Convert only supports per-tensor quantization"
  else pure activation

end ConvNode

def useLpbqPath (node : ConvNode) (activation : QnnDataType) (params : QuantizeParams) : Bool :=
  isNpuBackend node.backend ∧ isQuant16bit activation ∧ params.isLPBQ

def transposeAxis (moves : Bool) (perm : List Nat) (params : QuantizeParams) :
    Except String QuantizeParams :=
  if moves then params.handleTranspose (invertPerm perm) else .ok params

def unsqueezeAxes (moves : Bool) (origShape newShape : List Nat) (params : QuantizeParams) :
    Except String QuantizeParams :=
  if moves then params.handleUnsqueeze origShape newShape else .ok params

def bqOffsets (q : OrtQuantParam) (type : OnnxType) (count : Nat) : Except String (List Int) :=
  let unsignedBias : Int := if isUnsignedBQType type then 2 ^ (getBQBitwidth type - 1) else 0
  if count = 0 then .error "QNN EP: BQ ComputeBQOffsets: count must be positive"
  else
    match q.zeroPoint with
    | none => .ok (List.replicate count unsignedBias)
    | some (_,zeroPoints) =>
      if zeroPoints.length = count then .ok (zeroPoints.map (unsignedBias - ·))
      else .error "QNN EP: BQ zero_point size mismatch"

def toSignedDomain (type : OnnxType) (data : List Byte) : Except String (List Byte) :=
  if isUnsignedBQType type then
    BlockQuant.transformUnsignedToSignedFixedPoint data (getBQBitwidth type)
  else .ok data

def bqEncoding (node : ConvNode) (activation : QnnDataType) (q : OrtQuantParam) (blockSize oc : Nat)
    (offsets : List Int) : WeightEncoding :=
  let bitwidth := getBQBitwidth node.weight.type
  if node.inputCount < 3 ∧ MatMulNBits.isHTPSupportedNativeBQ node.htp activation bitwidth blockSize oc
      (offsets.map fun offset => (offset : ℚ)) then .block q.scales [1,1,blockSize,1]
  else .bwFloatBlock q.scales offsets bitwidth [1,1,blockSize,1]

def processBQWeight (node : ConvNode) (activation : QnnDataType) (q : OrtQuantParam) :
    Except String RegisteredWeight := do
  let shape := node.weight.shape
  let transposed ← transposeWeight node.convType shape node.weight (shape.length = 5)
  let outShape ← hwcnShape node.convType shape
  let oc := shape.getD 0 0
  let numBlocks := q.scaleShape.getD 1 0
  let blockSize ← BlockQuant.resolveBlockSize q.blockSize (shape.getD 1 0) numBlocks "Conv"
  let data ← toSignedDomain node.weight.type transposed
  if q.scales.length = oc * numBlocks then do
    let offsets ← bqOffsets q node.weight.type (oc * numBlocks)
    pure ⟨outShape,.sfixedPoint8,bqEncoding node activation q blockSize oc offsets,data⟩
  else .error "QNN EP: BQ Conv scale size mismatch"

def checkUint16Weight (dataType : QnnDataType) (params : QuantizeParams) : Except String Unit :=
  if dataType = .ufixedPoint16 ∧ ¬params.isPerTensor then
    .error "Conv's INT16 weight inputs only support INT16 per-tensor quantization"
  else .ok ()

def checkLpbqRank (is3d lpbqPath : Bool) : Except String Unit :=
  if is3d ∧ lpbqPath then .error "LPBQ is only supported for Conv2d (rank-4 weights)" else .ok ()

def processTransposedWeight (node : ConvNode) (params : QuantizeParams) (dataType : QnnDataType)
    (lpbqPath : Bool) : Except String RegisteredWeight := do
  let shape := node.weight.shape
  let is3d := decide (shape.length = 5)
  let outShape ← hwcnShape node.convType shape
  checkLpbqRank is3d lpbqPath
  let data ← transposeWeight node.convType shape node.weight is3d
  let params ← transposeAxis (params.isPerChannel || lpbqPath) (hwcnPerm node.convType is3d) params
  checkUint16Weight dataType params
  pure ⟨outShape,dataType,.params params,data⟩

def processConv2D3DWeight (node : ConvNode) : Except String RegisteredWeight := do
  let activation ← node.activationType
  let params ← node.quantParams
  let dataType ← node.weightDataType
  let lpbqPath := useLpbqPath node activation params
  match node.weight.quantParam with
  | none => processTransposedWeight node params dataType lpbqPath
  | some q =>
    if node.isBqWeight ∧ ¬lpbqPath then processBQWeight node activation q
    else processTransposedWeight node params dataType lpbqPath

def processConv1DWeight (node : ConvNode) : Except String RegisteredWeight := do
  let params ← node.quantParams
  let dataType ← node.weightDataType
  let shape := node.weight.shape
  let shape2d := [shape.getD 0 0,shape.getD 1 0,1,shape.getD 2 0]
  let finalShape ← hwcnShape node.convType shape2d
  let params ← unsqueezeAxes params.isPerChannel shape shape2d params
  let data ← transposeWeight node.convType shape2d node.weight false
  let params ← transposeAxis params.isPerChannel (hwcnPerm node.convType false) params
  pure ⟨finalShape,dataType,.params params,data⟩

def rankMessage : String := "QNN Conv only supports 3D(rank 5), 2D (rank 4) or 1D (rank 3) inputs."

def processWeight (node : ConvNode) : Except String RegisteredWeight :=
  if node.inputShape.length = 3 then processConv1DWeight node
  else if node.inputShape.length = 4 ∨ node.inputShape.length = 5 then processConv2D3DWeight node
  else .error rankMessage

def checkAttributes (node : ConvNode) : Except String Unit :=
  if node.inputCount < 2 then .error "QNN Conv must have at least 2 inputs."
  else if node.inputShape.length ∉ [5,4,3] then .error rankMessage
  else if node.backend = .cpu ∧ node.inputType ≠ .float then
    .error ("QNN EP: Data type " ++ toString node.inputType.code ++
      " is not supported for Conv operator in CPU backend.")
  else if node.autoPad ∉ ["NOTSET","SAME_LOWER","SAME_UPPER","VALID"] then
    .error ("QNN Conv operators do not support 'auto_pad' value: " ++ node.autoPad)
  else if node.convType = .kConvTranspose ∧ node.dilations.any (· ≠ 1) then
    .error "QNN EP: QNN's TransposeConv2d operator only supports default dilation values of 1."
  else .ok ()

def isPerChannelQuantized (node : ConvNode) : Option Int :=
  match node.weight.quantParam with
  | none => none
  | some q =>
    if q.scaleShape = [] ∨ q.scaleShape = [1] then none
    else some (q.normalizedAxis node.weight.shape.length)

def checkBitwidths (node : ConvNode) : Except String Unit := do
  let declared ← node.declaredOutputType
  let activation ← getQnnDataType node.inputQuantized false node.inputType
  let weight ← getQnnDataType node.weight.quantParam.isSome false node.weight.type
  let weightBitwidth := fixedPointBitWidth weight
  let computeBitwidth := max (fixedPointBitWidth activation) (fixedPointBitWidth declared)
  if ¬(computeBitwidth = 0 ∨ weightBitwidth ≤ computeBitwidth) then
    .error ("Conv's weight bitwidth (" ++ toString weightBitwidth ++ ") exceeds its compute bitwidth (" ++
      toString computeBitwidth ++ ")")
  else if node.htp.htpArch = 68 ∧ fixedPointBitWidth activation = 16 ∧ weightBitwidth = 16 then
    .error "QNN EP: Conv a16w16 is not supported on V68 HTP (only a16w8)."
  else .ok ()

def checkQuantAxis (node : ConvNode) : Except String Unit :=
  match node.convType, isPerChannelQuantized node with
  | _, none => .ok ()
  | .kConvTranspose, some axis =>
    if axis = 1 then .ok ()
    else .error "ConvTranspose's input[1] must be use axis == 1 for per-channel quantization"
  | .kConv, some axis =>
    if axis = 0 then .ok ()
    else .error "Conv's input[1] must be use axis == 0 for per-channel quantization"

def checkBlockQuant (node : ConvNode) (q : OrtQuantParam) : Except String Unit := do
  let blockSize ← BlockQuant.resolveBlockSize q.blockSize (node.weight.shape.getD 1 0)
    (q.scaleShape.getD 1 0) "Conv"
  BlockQuant.validateBQBitwidthAndBlockSize (getBQBitwidth node.weight.type) blockSize "Conv"

def checkNpuWeight (node : ConvNode) : Except String Unit :=
  match node.weight.quantParam, node.isBqWeight with
  | some q, true => checkBlockQuant node q
  | _, _ => do
    checkBitwidths node
    checkQuantAxis node

def isOpSupported (node : ConvNode) : Except String Unit := do
  checkAttributes node
  if isNpuBackend node.backend then checkNpuWeight node else .ok ()

end QnnEp.Conv
