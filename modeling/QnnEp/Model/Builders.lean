import QnnEp.Model.Wrapper

namespace QnnEp.Model
open UniqueName

structure ModelInput where
  constantTensor : String → Option (List Element)
  isGraphInput : String → Bool
  isGraphOutput : String → Bool

namespace ModelInput
variable (g : ModelInput)

def isConstantInput (name : String) : Bool := (g.constantTensor name).isSome

def getTensorType (name : String) : QnnTensorType :=
  if g.isConstantInput name then .static
  else if g.isGraphInput name then .appWrite
  else if g.isGraphOutput name then .appRead
  else .native

def outputTensorType (name : String) : QnnTensorType :=
  if g.isGraphOutput name then .appRead else .native

def makeTensorWrapper (info : TensorInfo) : QnnTensor :=
  ⟨g.getTensorType info.name,info.dataType,info.quantParams,info.shape,
    (g.constantTensor info.name).getD []⟩

end ModelInput

abbrev Build := StateT UniqueNameGenerator (Except String)

def newName (base suffix : String) : Build String := fun gen => .ok (new gen base suffix)

structure NodeHeader where
  name : String
  opType : String
  index : Nat
  deriving DecidableEq, Repr

def newNodeName (node : NodeHeader) (suffix : String) : Build String :=
  fun gen => .ok (newForNodeUnit gen node.name node.opType node.index suffix)

def ensure (condition : Bool) (message : String) : Build Unit :=
  if condition then pure () else throw message

section
variable (g : ModelInput)

def processInput (info : TensorInfo) : List Command :=
  [.addTensorWrapper info.name (g.makeTensorWrapper info)]

def isIdentityPerm (perm : List Nat) : Bool := perm == List.range perm.length

def needsHtpTransposeReshapeWorkaround (inputShape perm outputShape : List Nat) : Bool :=
  perm.length == inputShape.length && outputShape.length == inputShape.length &&
    !isIdentityPerm perm && inputShape != outputShape &&
    perm.all (· < inputShape.length) && decide perm.Nodup &&
    outputShape == permuteShape inputShape perm && !inputShape.contains 0 &&
    decide ((perm.filter fun axis => inputShape.getD axis 0 != 1).Pairwise (· < ·))

def addTransposeNode (input output : String) (inputShape perm outputShape : List Nat)
    (dataType : QnnDataType) (quantParams : QuantParams) (isForInput isForOutput : Bool) :
    Build (List Command) := do
  ensure (!quantParams.isPerChannel)
    "Do not support inserted Transpose nodes with per-channel quantization"
  let nodeType :=
    if needsHtpTransposeReshapeWorkaround inputShape perm outputShape then "Reshape" else "Transpose"
  let nodeName ← newName output nodeType
  pure [.addTensorWrapper input ⟨if isForInput then .appWrite else .native,dataType,quantParams,
      inputShape,[]⟩,
    .addTensorWrapper output ⟨if isForOutput then .appRead else .native,dataType,quantParams,
      outputShape,[]⟩,
    .createQnnNode ⟨nodeName,nodeType,[input],[output]⟩ none]

def addReshapeNode (skipExisting : Bool) (input output : String) (inputShape outputShape : List Nat)
    (dataType : QnnDataType) (quantParams : QuantParams) (isForInput isForOutput : Bool) :
    Build (List Command) := do
  ensure (!quantParams.isPerChannel)
    "Do not support inserted Reshape nodes with per-channel quantization"
  let nodeName ← newName output "Reshape"
  pure [.addReshapeNode skipExisting nodeName input output
    ⟨if isForInput then .appWrite else .native,dataType,quantParams,inputShape,[]⟩
    ⟨if isForOutput then .appRead else .native,dataType,quantParams,outputShape,[]⟩]

def castsInt64 (info : TensorInfo) : Bool :=
  g.isGraphOutput info.name && (info.dataType == .int64 || info.dataType == .uint64)

def narrowInt64 : QnnDataType → QnnDataType
  | .int64 => .int32
  | .uint64 => .uint32
  | dataType => dataType

def declareOutput (dataType : QnnDataType) (info : TensorInfo) : Command :=
  .addTensorWrapper info.name ⟨g.outputTensorType info.name,dataType,info.quantParams,info.shape,[]⟩

def castOutput (node : NodeHeader) (suffix : String) (dataType : QnnDataType) (info : TensorInfo) :
    Build (String × List Command × List Command) := do
  let castNodeName ← newNodeName node suffix
  let castInputName ← newName info.name suffix
  pure (castInputName,
    [.addTensorWrapper castInputName ⟨.native,dataType,info.quantParams,info.shape,[]⟩,
      declareOutput g info.dataType info],
    [.createQnnNode ⟨castNodeName,"Cast",[castInputName],[info.name]⟩ none])

def processOutput (node : NodeHeader) (supported : QnnDataType) (info : TensorInfo) :
    Build (String × List Command × List Command) :=
  if castsInt64 g info && supported == info.dataType then
    castOutput g node "_cast_int64" (narrowInt64 supported) info
  else if supported != info.dataType && g.isGraphOutput info.name then
    castOutput g node "_cast" supported info
  else pure (info.name,[declareOutput g supported info],[])

def processOutputs (node : NodeHeader) (qnnOpType : String) (inputNames : List String)
    (indices : Option String) (supportedOutputDataType : Nat → QnnDataType → QnnDataType) (outputs : List TensorInfo) :
    Build (List Command) := do
  let parts ← outputs.zipIdx.mapM fun o =>
    processOutput g node (supportedOutputDataType o.2 o.1.dataType) o.1
  let nodeName ← newNodeName node ""
  pure (parts.flatMap (·.2.1) ++
    .createQnnNode ⟨nodeName,qnnOpType,inputNames,parts.map (·.1)⟩ indices ::
      parts.flatMap (·.2.2))

inductive Lowering where
  | kSingle
  | kReshaped
  | kDecomposed
  deriving DecidableEq, Repr

structure GemmNode where
  header : NodeHeader
  transA : Bool
  transB : Bool
  betaIsZero : Bool
  useMatmul : Bool
  outputReshaped : Bool
  a : TensorInfo
  b : TensorInfo
  c : Option TensorInfo
  output : TensorInfo
  deriving DecidableEq, Repr

def isCompatibleFcBiasShape (biasShape : List Nat) (outputChannels : Nat) : Bool :=
  match biasShape with
  | [] => outputChannels == 1
  | [n] => n == outputChannels
  | [one,n] => one == 1 && n == outputChannels
  | _ => false

namespace GemmNode
variable (node : GemmNode)

def bias : Option TensorInfo := if node.betaIsZero then none else node.c

def requiresFcAddDecomposition (isNativeBias : Bool) : Bool :=
  match node.bias, node.b.shape with
  | some c, [rows,cols] => isNativeBias ||
      !isCompatibleFcBiasShape c.shape (if node.transB then rows else cols)
  | some _, _ => isNativeBias
  | none, _ => false

def getLoweringPlan : Lowering :=
  let isNativeBias := node.bias.any fun c => g.getTensorType c.name == .native
  if node.outputReshaped then .kReshaped
  else if node.requiresFcAddDecomposition isNativeBias || node.useMatmul && node.bias.isSome then
    .kDecomposed
  else .kSingle

end GemmNode

def collapseBiasShape (inputIndex : Nat) : List Nat → List Nat
  | [one,n] => if inputIndex = 2 ∧ one = 1 then [n] else [one,n]
  | shape => shape

def gemmConstant (info : TensorInfo) (transposed : Bool) (inputIndex : Nat) (data : List Element) :
    Except String QnnTensor :=
  if transposed then
    match info.shape with
    | [rows,cols] => do
      let quantParams ← handleTranspose [1,0] info.quantParams
      let unpackedTensor ← twoDimensionTranspose rows cols data
      pure ⟨.static,info.dataType,quantParams,collapseBiasShape inputIndex [cols,rows],unpackedTensor⟩
    | _ => .error "Expected shape of rank 2"
  else
    .ok ⟨.static,info.dataType,info.quantParams,collapseBiasShape inputIndex info.shape,data⟩

def registerGemmInput (info : TensorInfo) (transposed : Bool) (inputIndex : Nat) :
    Build (String × List Command) := do
  match g.constantTensor info.name with
  | some data =>
    let tensor ← gemmConstant info transposed inputIndex data
    pure (info.name,[.addTensorWrapper info.name tensor])
  | none =>
    if transposed then
      ensure (!info.quantParams.isPerChannel)
        "Non-constant Gemm inputs only support per-tensor quantization"
      match info.shape with
      | [rows,cols] =>
        let name := info.name ++ "_transpose"
        let transpose ← addTransposeNode info.name name [rows,cols] [1,0] [cols,rows] info.dataType
          info.quantParams (g.isGraphInput info.name) false
        pure (name,transpose ++ [.addTensorWrapper name ⟨g.getTensorType name,info.dataType,
          info.quantParams,collapseBiasShape inputIndex [cols,rows],[]⟩])
      | _ => throw "Expected shape of rank 2"
    else
      pure (info.name,[.addTensorWrapper info.name ⟨g.getTensorType info.name,info.dataType,
        info.quantParams,collapseBiasShape inputIndex info.shape,[]⟩])

def buildGemm (node : GemmNode) : Build (List Command) := do
  let (a,commandsA) ← registerGemmInput g node.a (!node.useMatmul && node.transA) 0
  let (b,commandsB) ← registerGemmInput g node.b (!node.useMatmul && !node.transB) 1
  let bias ← node.bias.mapM fun c => registerGemmInput g c false 2
  let inputs := commandsA ++ commandsB ++ (bias.map (·.2)).getD []
  let output := node.output
  let declare := declareOutput g output.dataType output
  let fc := output.name ++ "_fc"
  match node.getLoweringPlan g with
  | .kReshaped =>
    ensure (!node.transB) "QNN EP: absorbed-Reshape Gemm only supports transB=0."
    ensure (!node.transA) "QNN EP: absorbed-Reshape Gemm only supports transA=0."
    let fcName ← newNodeName node.header "FullyConnected"
    let reshapeName ← newNodeName node.header "Reshape"
    pure (inputs ++ [.addTensorWrapper fc ⟨.native,output.dataType,output.quantParams,
        [node.a.shape.getD 0 0,node.b.shape.getD 1 0],[]⟩,
      .createQnnNode ⟨fcName,"FullyConnected",a :: b :: (bias.map (·.1)).toList,[fc]⟩ none,declare,
      .createQnnNode ⟨reshapeName,"Reshape",[fc],[output.name]⟩ none])
  | .kDecomposed =>
    let nodeType := if node.useMatmul then "MatMul" else "FullyConnected"
    let fcName ← newNodeName node.header nodeType
    let addName ← newNodeName node.header "ElementWiseAdd"
    pure (inputs ++ [.addTensorWrapper fc ⟨.native,node.a.dataType,.undefined,output.shape,[]⟩,
      .createQnnNode ⟨fcName,nodeType,[a,b],[fc]⟩ none,declare,
      .createQnnNode ⟨addName,"ElementWiseAdd",fc :: (bias.map (·.1)).toList,[output.name]⟩ none])
  | .kSingle =>
    let outputs ← processOutputs g node.header (if node.useMatmul then "MatMul" else "FullyConnected")
      (a :: b :: (bias.map (·.1)).toList) none (fun _ dataType => dataType) [output]
    pure (inputs ++ outputs)

structure ConvNode where
  header : NodeHeader
  convType : OnnxConvType
  qnnOpType : String
  x : TensorInfo
  w : TensorInfo
  bias : Option TensorInfo
  output : TensorInfo
  deriving DecidableEq, Repr

def convConstant (convType : OnnxConvType) (info : TensorInfo) (data : List Element) :
    Except String QnnTensor := do
  let shape ← hwcnShape convType info.shape
  let unpackedTensor ← transposeToHwcn convType info.shape data
  let perm := hwcnPerm convType (info.shape.length == 5)
  let quantParams ← handleTranspose (invertPerm perm) info.quantParams
  pure ⟨.static,info.dataType,quantParams,shape,unpackedTensor⟩

def processConvWeight (node : ConvNode) : Build (String × List Command) := do
  let info := node.w
  match g.constantTensor info.name with
  | some data =>
    let tensor ← convConstant node.convType info data
    pure (info.name,[.addTensorWrapper info.name tensor])
  | none =>
    let name ← newName info.name "_transpose"
    let shape ← hwcnShape node.convType info.shape
    ensure (!info.quantParams.isPerChannel)
      "Non-constant Conv inputs only support per-tensor quantization"
    let transpose ← addTransposeNode info.name name info.shape
      (hwcnPerm node.convType (info.shape.length == 5)) shape info.dataType info.quantParams
      (g.isGraphInput info.name) false
    pure (name,processInput g info ++ transpose ++
      [.addTensorWrapper name ⟨g.getTensorType name,info.dataType,info.quantParams,shape,[]⟩])

def processConv2D3DInputs (node : ConvNode) : Build (List String × List Command) := do
  let (w,weight) ← processConvWeight g node
  pure (node.x.name :: w :: (node.bias.map TensorInfo.name).toList,
    processInput g node.x ++ weight ++ (node.bias.map (processInput g)).getD [])

def conv1DActivationShape (shape : List Nat) : List Nat :=
  [shape.getD 0 0,1,shape.getD 1 0,shape.getD 2 0]

def conv1DWeightShape (shape : List Nat) : List Nat :=
  [shape.getD 0 0,shape.getD 1 0,1,shape.getD 2 0]

def conv1DConstantActivation (info : TensorInfo) (data : List Element) : Except String QnnTensor := do
  let shape := conv1DActivationShape info.shape
  let quantParams ← handleUnsqueeze info.shape shape info.quantParams
  pure ⟨.static,info.dataType,quantParams,shape,data⟩

def conv1DConstantWeight (convType : OnnxConvType) (info : TensorInfo) (data : List Element) :
    Except String QnnTensor := do
  let shape2d := conv1DWeightShape info.shape
  let quantParams ← handleUnsqueeze info.shape shape2d info.quantParams
  convConstant convType { info with shape := shape2d, quantParams := quantParams } data

def processConv1DActivation (info : TensorInfo) : Build (String × List Command) := do
  let shape := conv1DActivationShape info.shape
  match g.constantTensor info.name with
  | some data =>
    let tensor ← conv1DConstantActivation info data
    pure (info.name,[.addTensorWrapper info.name tensor])
  | none =>
    let name ← newName info.name "_reshape"
    ensure (!info.quantParams.isPerChannel)
      "Non-constant Conv inputs only support per-tensor quantization"
    let reshape ← addReshapeNode true info.name name info.shape shape info.dataType info.quantParams
      (g.isGraphInput info.name) false
    pure (name,reshape)

def processConv1DWeight (convType : OnnxConvType) (info : TensorInfo) :
    Build (String × List Command) := do
  let shape2d := conv1DWeightShape info.shape
  match g.constantTensor info.name with
  | some data =>
    let _ ← newName info.name "_reshape"
    let tensor ← conv1DConstantWeight convType info data
    pure (info.name,[.addTensorWrapper info.name tensor])
  | none =>
    let name ← newName info.name "_transpose"
    let finalShape ← hwcnShape convType shape2d
    let reshapeOutput ← newName info.name "_reshape"
    ensure (!info.quantParams.isPerChannel)
      "Non-constant Conv inputs only support per-tensor quantization"
    let reshape ← addReshapeNode false info.name reshapeOutput info.shape shape2d info.dataType
      info.quantParams (g.isGraphInput info.name) false
    let transpose ← addTransposeNode reshapeOutput name shape2d (hwcnPerm convType false) finalShape
      info.dataType info.quantParams false false
    pure (name,processInput g info ++ reshape ++ transpose ++
      [.addTensorWrapper name ⟨g.getTensorType name,info.dataType,info.quantParams,finalShape,[]⟩])

def processConv1DInputs (node : ConvNode) : Build (List String × List Command) := do
  let (x,activation) ← processConv1DActivation g node.x
  let (w,weight) ← processConv1DWeight g node.convType node.w
  pure (x :: w :: (node.bias.map TensorInfo.name).toList,
    activation ++ weight ++ (node.bias.map (processInput g)).getD [])

def processConvInputs (node : ConvNode) : Build (List String × List Command) :=
  match node.x.shape.length with
  | 3 => processConv1DInputs g node
  | 4 => processConv2D3DInputs g node
  | 5 => processConv2D3DInputs g node
  | _ => throw "QNN Conv only supports 3D(rank 5), 2D (rank 4) or 1D (rank 3) inputs."

def buildConv (node : ConvNode) : Build (List Command) := do
  let (inputNames,inputs) ← processConvInputs g node
  let output := node.output
  let isGraphOutput := g.isGraphOutput output.name
  match output.shape with
  | [n,w,c] =>
    let convOutput ← newName output.name "_conv"
    let nodeName ← newNodeName node.header ""
    let reshape ← addReshapeNode false convOutput output.name [n,1,w,c] output.shape output.dataType
      output.quantParams false isGraphOutput
    pure (inputs ++ [.addTensorWrapper convOutput ⟨.native,output.dataType,output.quantParams,
        [n,1,w,c],[]⟩,
      .createQnnNode ⟨nodeName,node.qnnOpType,inputNames,[convOutput]⟩ none] ++ reshape)
  | _ =>
    let nodeName ← newNodeName node.header ""
    pure (inputs ++ [declareOutput g output.dataType output,
      .createQnnNode ⟨nodeName,node.qnnOpType,inputNames,[output.name]⟩ none])

structure ScatterNDNode where
  header : NodeHeader
  data : TensorInfo
  indices : TensorInfo
  updates : TensorInfo
  output : TensorInfo
  deriving DecidableEq, Repr

def scatterNDConstantIndices (dataShape : List Nat) (info : TensorInfo) (data : List Element) :
    Except String QnnTensor :=
  let indexTupleSize := info.shape.getLastD 0
  match normalizeIndices (fun i => dataShape.getD (i % indexTupleSize) 0) data with
  | some qnnIndices => .ok ⟨.static,.int32,.undefined,info.shape,qnnIndices⟩
  | none => .error "QNN does not support out-of-range index values for ScatterND."

def qnnIndicesName (name : String) : String := name ++ "_qnn_idx"

def processScatterNDIndices (dataShape : List Nat) (info : TensorInfo) :
    Build (String × List Command) := do
  match g.constantTensor info.name with
  | some data =>
    let tensor ← scatterNDConstantIndices dataShape info data
    let name := qnnIndicesName info.name
    pure (name,[.addTensorWrapper name tensor,.castInt64Indices (name ++ "Cast") name info.shape])
  | none =>
    let castName ← if info.dataType = .int64 then newName info.name "Cast" else pure ""
    pure (info.name,[.addTensorWrapper info.name ⟨g.getTensorType info.name,info.dataType,.undefined,
      info.shape,[]⟩,.castInt64Indices castName info.name info.shape])

def buildScatterND (node : ScatterNDNode) : Build (List Command) := do
  let (indices,commands) ← processScatterNDIndices g node.data.shape node.indices
  let outputs ← processOutputs g node.header "ScatterNd" [node.data.name,indices,node.updates.name]
    (some indices) (fun _ dataType => dataType) [node.output]
  pure (processInput g node.data ++ commands ++ processInput g node.updates ++ outputs)

structure TopKNode where
  header : NodeHeader
  axis : Int
  x : TensorInfo
  values : TensorInfo
  indices : TensorInfo
  deriving DecidableEq, Repr

def getNormalizedAxis (axis : Int) (inputRank : Nat) : Except String Nat :=
  let axis := if axis < 0 then axis + inputRank else axis
  if 0 ≤ axis ∧ axis < inputRank then .ok axis.toNat
  else .error "TopK axis must be in range [-input rank, input rank - 1]."

def getPermToLastAxis (axis rank : Nat) : List Nat :=
  ((List.range rank).set axis (rank - 1)).set (rank - 1) axis

def swapWithLast (axis : Nat) (shape : List Nat) : List Nat :=
  (shape.set (shape.length - 1) (shape.getD axis 0)).set axis (shape.getD (shape.length - 1) 0)

def topKOutputDataType (index : Nat) (dataType : QnnDataType) : QnnDataType :=
  if index = 1 then narrowInt64 dataType else dataType

def permuteTopKOutput (node : TopKNode) (axis outputIdx : Nat) (info : TensorInfo) :
    Build (List Command) := do
  let isCastRequired := outputIdx == 1 && info.dataType == .int64 && g.isGraphOutput info.name
  let output := if isCastRequired then info.name ++ "_cast" else info.name
  let transpose ← addTransposeNode (info.name ++ "_transpose") output (swapWithLast axis info.shape)
    (getPermToLastAxis axis info.shape.length) info.shape info.dataType info.quantParams false
    (!isCastRequired && g.isGraphOutput info.name)
  if isCastRequired then
    let castName ← newNodeName node.header "Cast"
    pure (transpose ++ [.addTensorWrapper info.name ⟨.appRead,info.dataType,info.quantParams,
        info.shape,[]⟩,
      .createQnnNode ⟨castName,"Cast",[output],[info.name]⟩ none])
  else pure transpose

def buildTopK (node : TopKNode) : Build (List Command) := do
  let rank := node.x.shape.length
  let axis ← getNormalizedAxis node.axis rank
  if axis = rank - 1 then
    let outputs ← processOutputs g node.header "TopK" [node.x.name] none topKOutputDataType
      [node.values,node.indices]
    pure (processInput g node.x ++ outputs)
  else
    let input := node.x.name ++ "_transpose"
    let transpose ← addTransposeNode node.x.name input node.x.shape (getPermToLastAxis axis rank)
      (swapWithLast axis node.x.shape) node.x.dataType node.x.quantParams false false
    let declare (info : TensorInfo) : Command := .addTensorWrapper (info.name ++ "_transpose")
      ⟨.native,info.dataType,info.quantParams,swapWithLast axis info.shape,[]⟩
    ensure (axis < node.values.shape.length && axis < node.indices.shape.length)
      "TopK axis must be smaller than the output rank."
    let nodeName ← newNodeName node.header ""
    let values ← permuteTopKOutput g node axis 0 node.values
    let indices ← permuteTopKOutput g node axis 1 node.indices
    pure (processInput g node.x ++ transpose ++ [declare node.values,declare node.indices,
      .createQnnNode ⟨nodeName,"TopK",[input],
        [node.values.name ++ "_transpose",node.indices.name ++ "_transpose"]⟩ none] ++
      values ++ indices)

inductive Node where
  | gemm (node : GemmNode)
  | conv (node : ConvNode)
  | scatterND (node : ScatterNDNode)
  | topK (node : TopKNode)
  | other (commands : List Command)
  deriving DecidableEq, Repr

def addToModelBuilder : Node → Build (List Command)
  | .gemm node => buildGemm g node
  | .conv node => buildConv g node
  | .scatterND node => buildScatterND g node
  | .topK node => buildTopK g node
  | .other commands => pure commands

def commandsFrom (gen : UniqueNameGenerator) : List Node → Except String (List Command)
  | [] => .ok []
  | node :: nodes => do
    let (commands,gen) ← addToModelBuilder g node gen
    let rest ← commandsFrom gen nodes
    pure (commands ++ rest)

def commandsOf (nodes : List Node) : Except String (List Command) := commandsFrom g reset nodes

def compose (nodes : List Node) : Except String ModelWrapper := do
  let commands ← commandsOf g nodes
  Command.run commands .empty

end
end QnnEp.Model
