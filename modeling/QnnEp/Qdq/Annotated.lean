import QnnEp.Foundation.PhasedOrder
import QnnEp.Ort.Graph

namespace QnnEp.Qdq
open Ort

inductive OnnxType where
  | undefined
  | float
  | uint8
  | int8
  | uint16
  | int16
  | int32
  | int64
  | string
  | bool
  | float16
  | double
  | uint32
  | uint64
  | complex64
  | complex128
  | bfloat16
  | uint4
  | int4
  | uint2
  | int2
  deriving DecidableEq, Repr

def OnnxType.code : OnnxType → Nat
  | .undefined => 0
  | .float => 1
  | .uint8 => 2
  | .int8 => 3
  | .uint16 => 4
  | .int16 => 5
  | .int32 => 6
  | .int64 => 7
  | .string => 8
  | .bool => 9
  | .float16 => 10
  | .double => 11
  | .uint32 => 12
  | .uint64 => 13
  | .complex64 => 14
  | .complex128 => 15
  | .bfloat16 => 16
  | .uint4 => 21
  | .int4 => 22
  | .uint2 => 24
  | .int2 => 25

inductive QnnDataType where
  | sfixedPoint8
  | ufixedPoint8
  | sfixedPoint16
  | ufixedPoint16
  | sfixedPoint4
  | ufixedPoint4
  | sfixedPoint32
  deriving DecidableEq, Repr

class FloatArith (F : Type) where
  zero : F
  one : F
  lowest : F
  max : F
  ofInt : Int → F
  mul : F → F → F
  le : F → F → Bool
  lt : F → F → Bool
  eq : F → F → Bool

structure Initializer (F : Type) where
  elemType : OnnxType
  rank : Nat
  floatScalar : F
  doubleScalar : F
  intScalar : Int

structure NodeInfo (F : Type) where
  opType : String
  domain : String
  sinceVersion : Int
  intAttr : String → Option Int
  floatAttr : String → Option F

structure ValueInfo where
  name : String
  elemType : Option OnnxType
  shape : Option (List Int)
  isGraphOutput : Bool
  isConstantInitializer : Bool

structure QdqGraph (F : Type) extends OrtGraph where
  node : NodeId → NodeInfo F
  value : ValueId → ValueInfo
  constantInitializer : String → Option (Initializer F)

namespace QdqGraph
variable {F : Type} (g : QdqGraph F)

def operatorType (n : NodeId) : String := (g.node n).opType

def isDQ (n : NodeId) : Bool := g.operatorType n == "DequantizeLinear"

def isQ (n : NodeId) : Bool := g.operatorType n == "QuantizeLinear"

def isReluOrClip (n : NodeId) : Bool := g.operatorType n == "Relu" || g.operatorType n == "Clip"

def getDataTypeFromValueInfo (v : Option ValueId) : Option OnnxType := v.bind fun v => (g.value v).elemType

def getNodeInputDataType (n : NodeId) (index : Nat) : Option OnnxType :=
  (g.inputs n)[index]?.bind g.getDataTypeFromValueInfo

def getNodeOutputDataType (n : NodeId) (index : Nat) : Option OnnxType :=
  (g.outputs n)[index]?.bind g.getDataTypeFromValueInfo

def getValueInfoShape (v : Option ValueId) : Option (List Int) := v.bind fun v => (g.value v).shape

def getNodeInputValueInfo (n : NodeId) (index : Nat) : Option ValueId := (g.inputs n)[index]?.join

def getInitializerFromValueInfo (v : Option ValueId) : Option (Initializer F) :=
  v.bind fun v => g.constantInitializer (g.value v).name

def getValueProducer (v : Option ValueId) : Option NodeId := v.bind g.valueProducer

def isConstantInitializerValueInfo (v : Option ValueId) : Bool :=
  (g.getInitializerFromValueInfo v).isSome && v.any fun v => (g.value v).isConstantInitializer

def isConstantOrInitializerValueInfo (v : Option ValueId) : Bool :=
  g.isConstantInitializerValueInfo v ||
    (g.getValueProducer v).any fun p => g.operatorType p == "Constant"

def isStaticQdqBias (bias : Option ValueId) : Bool :=
  if g.isConstantOrInitializerValueInfo bias then true
  else
    match g.getValueProducer bias with
    | none => false
    | some biasProducer =>
      if !g.isDQ biasProducer then false
      else
        match g.getNodeInputValueInfo biasProducer 0 with
        | none => false
        | some dqData =>
          if g.isConstantOrInitializerValueInfo (some dqData) then true
          else
            match g.getValueProducer (some dqData) with
            | none => false
            | some dqDataProducer =>
              g.isQ dqDataProducer &&
                (g.getNodeInputValueInfo dqDataProducer 0).any fun qData =>
                  g.isConstantOrInitializerValueInfo (some qData)

def getZeroPointValue (zp : Initializer F) : Option (Int × QnnDataType) :=
  match zp.elemType with
  | .uint8 => some (zp.intScalar,.ufixedPoint8)
  | .uint16 => some (zp.intScalar,.ufixedPoint16)
  | .int8 => some (zp.intScalar,.sfixedPoint8)
  | .int16 => some (zp.intScalar,.sfixedPoint16)
  | _ => none

def getQNodeScaleAndZeroPoint (q : NodeId) : Option (F × Int × QnnDataType) :=
  if (g.inputs q).length < 3 then none
  else do
    let scale ← g.getInitializerFromValueInfo (g.getNodeInputValueInfo q 1)
    let zp ← g.getInitializerFromValueInfo (g.getNodeInputValueInfo q 2)
    let (zeroPoint,dataType) ← getZeroPointValue zp
    pure (scale.floatScalar,zeroPoint,dataType)

def getClipMinMax [FloatArith F] (clip : NodeId) : F × F :=
  let minAttr := (g.node clip).floatAttr "min"
  let maxAttr := (g.node clip).floatAttr "max"
  if minAttr.isSome || maxAttr.isSome then
    (minAttr.getD FloatArith.lowest,maxAttr.getD FloatArith.max)
  else
    let scalar (index : Nat) (default : F) : F :=
      ((g.getInitializerFromValueInfo (g.getNodeInputValueInfo clip index)).map
        Initializer.floatScalar).getD default
    (scalar 1 FloatArith.lowest,scalar 2 FloatArith.max)

structure Valid : Prop where
  consistent : g.Consistent
  acyclic : Phased.Acyclic g.Feeds
  initializer_no_producer : ∀ v,
    (g.constantInitializer (g.value v).name).isSome → g.valueProducer v = none

end QdqGraph

def getQminQmax (dataType : QnnDataType) (symmetric : Bool) : Int × Int :=
  match dataType with
  | .sfixedPoint8 => (-128 + symmetric.toInt,127)
  | .ufixedPoint8 => (0,255)
  | .sfixedPoint16 => (-32768 + symmetric.toInt,32767)
  | .ufixedPoint16 => (0,65535)
  | .sfixedPoint4 => (-8 + symmetric.toInt,7)
  | .ufixedPoint4 => (0,15)
  | .sfixedPoint32 => (-2147483648 + symmetric.toInt,2147483647)

end QnnEp.Qdq
