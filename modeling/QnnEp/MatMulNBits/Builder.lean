import QnnEp.BlockQuant.SubByte
import QnnEp.Model.Encoded

namespace QnnEp.MatMulNBits
open Model BlockQuant Scatter

structure Backend where
  htpArch : Nat
  nativeBQAvailable : Bool
  getTensorType : String → QnnTensorType
  isGraphOutput : String → Bool

structure Node where
  header : NodeHeader
  k : Nat
  n : Nat
  bits : Nat
  blockSize : Nat
  input : EncodedDef
  weightName : String
  weightData : Option (List Byte)
  scales : Option (List ℚ)
  zeroPoints : Option (Option (List Byte))
  convertsToLpbq : Bool
  output : EncodedDef

namespace Node
variable (node : Node)

def kBlocks : Nat := node.k / node.blockSize

def totalBlocks : Nat := node.n * node.kBlocks

def numElementsPerUint8 : Nat := 8 / node.bits

end Node

def unpackWeightData (packedData : List Byte) (bits numElementsPerUint8 : Nat) : List Byte :=
  packedData.flatMap fun value : Byte =>
    (List.range numElementsPerUint8).map fun idx => (value >>> (bits * idx)) &&& lowMask bits

def unpackZeroPointData (packedData : List Byte) (bits n kBlocks : Nat) : List ℚ :=
  let zpBlobSize := (kBlocks * bits + 8 - 1) / 8
  (List.range n).flatMap fun nIdx => (List.range kBlocks).map fun kBlockIdx =>
    let bitPosition := kBlockIdx * bits
    let packed := packedData.getD (nIdx * zpBlobSize + bitPosition / 8) 0
    (((packed >>> (bitPosition % 8)) &&& lowMask bits).toNat : ℚ)

def areZeroPointsSymmetric (zeroPoints : List ℚ) : Bool := zeroPoints.all (· = 0)

def perBlockOffsets (node : Node) : Except String (List ℚ) :=
  match node.zeroPoints with
  | none => .ok (List.replicate node.totalBlocks 0)
  | some none => .error "MatMulNBits zero_points must be a constant initializer."
  | some (some packed) =>
    .ok ((unpackZeroPointData packed node.bits node.n node.kBlocks).map fun zp =>
      -(zp - 2 ^ (node.bits - 1)))

def kHtpNativeBQMinArch : Nat := 81

def kHtpNativeBQChannelMultiplier : Nat := 32

def isHTPSupportedNativeBQ (backend : Backend) (actDataType : QnnDataType)
    (bitwidth blockSize outputChannel : Nat) (offsets : List ℚ) : Bool :=
  kHtpNativeBQMinArch ≤ backend.htpArch ∧ actDataType = .ufixedPoint16 ∧ bitwidth = 4 ∧
    (∀ offset ∈ offsets, offset = 0) ∧ blockSize ∈ [32,64,128] ∧
    outputChannel % kHtpNativeBQChannelMultiplier = 0 ∧ backend.nativeBQAvailable

structure WeightParams where
  scales : List ℚ
  offsets : List ℚ
  data : List Byte

def unpackWeight (node : Node) : Except String WeightParams :=
  match node.weightData with
  | none => .error "MatMulNBits weight must be a constant initializer."
  | some packed => do
    let quantData ← transformUnsignedToSignedFixedPoint packed node.bits
    match node.scales with
    | none => .error "MatMulNBits scales must be a constant initializer."
    | some scales =>
      if scales.length = node.totalBlocks then do
        let offsets ← perBlockOffsets node
        pure ⟨scales,offsets,transpose node.n node.k 0
          (unpackWeightData quantData node.bits node.numElementsPerUint8)⟩
      else .error "Unexpected scales data size."

def usesLpbq (node : Node) (params : WeightParams) : Bool :=
  node.bits = 4 ∧ isQuant16bit node.input.dataType ∧ areZeroPointsSymmetric params.offsets ∧
    node.convertsToLpbq

def weightEncoding (backend : Backend) (node : Node) (actDataType : QnnDataType)
    (params : WeightParams) : Encoding :=
  let blockSizes := [1,1,node.blockSize,1]
  if usesLpbq node params then .blockwiseExpansion
  else if isHTPSupportedNativeBQ backend actDataType node.bits node.blockSize node.n params.offsets then
    .block params.scales (List.replicate params.offsets.length 0) blockSizes
  else .bwFloatBlock params.scales params.offsets node.bits blockSizes

def shape4d : List Nat → Except String (List Nat)
  | [batch,sequence,width] => .ok [batch,1,sequence,width]
  | _ => .error "Unexpected MatMulNBits input rank"

def processInput (backend : Backend) (input : EncodedDef) (s : EncodedModel) :
    Except String EncodedModel :=
  if s.isQnnTensorWrapperExist input.name then .ok s
  else s.addTensorWrapper input.name
    ⟨backend.getTensorType input.name,input.dataType,input.encoding,input.shape,[]⟩
    "Failed to add tensor."

def castActivation (node : Node) (shape : List Nat) (reshapeOutputName : String) (s : EncodedModel) :
    Except String (String × EncodedModel) :=
  if node.input.dataType = .float32 then do
    let (castOutputName,s) := s.newName reshapeOutputName "_cast_fp16"
    let (nodeName,s) := s.newNodeName node.header "_cast_fp16"
    let s ← s.addCastNode nodeName reshapeOutputName castOutputName
      ⟨.native,.float16,node.input.encoding,shape,[]⟩
    pure (castOutputName,s)
  else .ok (reshapeOutputName,s)

def processActivation (backend : Backend) (node : Node) (s : EncodedModel) :
    Except String (String × EncodedModel) := do
  let s ← processInput backend node.input s
  let shape ← shape4d node.input.shape
  let (reshapeOutputName,s) := s.newName node.input.name "_reshape_4d"
  let s ← s.addTensorWrapper reshapeOutputName
    ⟨.native,node.input.dataType,node.input.encoding,shape,[]⟩
    "Failed to add pre-Reshape output tensor."
  let (nodeName,s) := s.newNodeName node.header "_reshape_4d"
  let s ← s.createQnnNode ⟨nodeName,"Reshape",[node.input.name],[reshapeOutputName]⟩
  castActivation node shape reshapeOutputName s

def convertActivation (node : Node) (encoding : Encoding) (actName : String) (s : EncodedModel) :
    Except String (String × EncodedModel) :=
  if encoding.isBwFloatBlock ∧ isQuant16bit node.input.dataType then do
    let (fp16ActName,s) := s.newName actName "_dq_fp16"
    let s ← s.addInt16ToFp16DequantForActivation actName fp16ActName "MatMulNBits"
    pure (fp16ActName,s)
  else .ok (actName,s)

def processWeight (backend : Backend) (node : Node) (actName : String) (s : EncodedModel) :
    Except String (String × EncodedModel) :=
  if s.isQnnTensorWrapperExist node.weightName then .ok (actName,s)
  else do
    let params ← unpackWeight node
    match s.tensors actName with
    | none => .error "Expecting MatMulNBits input tensor wrapper should already be constructed."
    | some act =>
      let encoding := weightEncoding backend node act.dataType params
      let (actName,s) ← convertActivation node encoding actName s
      let s ← s.addTensorWrapper node.weightName
        ⟨backend.getTensorType node.weightName,.sfixedPoint8,encoding,[1,1,node.k,node.n],params.data⟩
        "Failed to add weight tensor."
      pure (actName,s)

def processInputs (backend : Backend) (node : Node) (s : EncodedModel) :
    Except String (String × EncodedModel) :=
  if 0 < node.k ∧ 0 < node.n ∧ 0 < node.bits ∧ 0 < node.blockSize then do
    let (actName,s) ← processActivation backend node s
    processWeight backend node actName s
  else .error "Unexpected MatMulNbits attribute values."

def isBwFloatBlockWeight (s : EncodedModel) (weightName : String) : Bool :=
  (s.tensors weightName).any fun weight => weight.encoding.isBwFloatBlock

def addConv2DNodeforBQLowering (node : Node) (inputNames : List String) (conv2dOutputName : String)
    (conv2dOutput : EncodedTensor) (s : EncodedModel) : Except String EncodedModel := do
  let s ← s.addTensorWrapper conv2dOutputName conv2dOutput "Failed to add Conv2D output tensor."
  let (nodeName,s) := s.newNodeName node.header ""
  s.createQnnNode ⟨nodeName,"Conv2d",inputNames,[conv2dOutputName]⟩

def convertOutput (node : Node) (isBwFloatBlock : Bool) (shape : List Nat) (conv2dOutputName : String)
    (s : EncodedModel) : Except String (String × EncodedModel) :=
  if node.output.dataType = .float32 then do
    let (castOutputName,s) := s.newName node.output.name "_cast_fp32"
    let (nodeName,s) := s.newNodeName node.header "_cast_fp32"
    let s ← s.addCastNode nodeName conv2dOutputName castOutputName
      ⟨.native,.float32,node.output.encoding,shape,[]⟩
    pure (castOutputName,s)
  else if isQuant16bit node.output.dataType ∧ isBwFloatBlock then do
    let suffix := if node.output.dataType = .sfixedPoint16 then "_q_int16" else "_q_uint16"
    let (qOutputName,s) := s.newName node.output.name suffix
    let s ← s.addQuantizeNode conv2dOutputName qOutputName
      ⟨.native,node.output.dataType,node.output.encoding,shape,[]⟩
    pure (qOutputName,s)
  else .ok (conv2dOutputName,s)

def squeezeOutput (backend : Backend) (node : Node) (reshapeInputName : String) (s : EncodedModel) :
    Except String EncodedModel := do
  let s ← s.addTensorWrapper node.output.name
    ⟨if backend.isGraphOutput node.output.name then .appRead else .native,node.output.dataType,
      node.output.encoding,node.output.shape,[]⟩
    "Failed to add post-Reshape output tensor."
  let (nodeName,s) := s.newNodeName node.header "_reshape_3d"
  s.createQnnNode ⟨nodeName,"Reshape",[reshapeInputName],[node.output.name]⟩

def conv2dOutputTensor (node : Node) (isBwFloatBlock : Bool) (shape : List Nat) : EncodedTensor :=
  if isBwFloatBlock then ⟨.native,.float16,.undefined,shape,[]⟩
  else ⟨.native,node.output.dataType,node.output.encoding,shape,[]⟩

def processAttributesAndOutputs (backend : Backend) (node : Node) (inputNames : List String)
    (s : EncodedModel) : Except String EncodedModel :=
  match node.output.shape with
  | [batch,sequence,width] => do
    let shape := [batch,1,sequence,width]
    let isBwFloatBlock := isBwFloatBlockWeight s node.weightName
    let (conv2dOutputName,s) := s.newName node.output.name "_conv2d"
    let s ← addConv2DNodeforBQLowering node inputNames conv2dOutputName
      (conv2dOutputTensor node isBwFloatBlock shape) s
    let (reshapeInputName,s) ← convertOutput node isBwFloatBlock shape conv2dOutputName s
    squeezeOutput backend node reshapeInputName s
  | _ => .error "Unexpected MatMulNBits output rank."

def addToModelBuilder (backend : Backend) (s : EncodedModel) (node : Node) :
    Except String EncodedModel := do
  let (actName,s) ← processInputs backend node s
  processAttributesAndOutputs backend node [actName,node.weightName] s

def build (backend : Backend) (nodes : List Node) : Except String EncodedModel :=
  nodes.foldlM (addToModelBuilder backend) EncodedModel.empty

end QnnEp.MatMulNBits
