import QnnEp.Quant.PerChannel

namespace QnnEp.Bias
open BlockQuant (Byte)
open Buffers
open PerChannel
open Qdq (QnnDataType)
open Rounding (halfAway)

inductive Encoding where
  | undefined
  | scaleOffset (scale : ℚ) (offset : Int)
  | bwScaleOffset (bitwidth : Nat) (scale : ℚ) (offset : Int)
  | axisScaleOffset (axis : Int) (entries : List (ℚ × Int))
  | bwAxisScaleOffset (axis : Int) (bitwidth : Nat) (entries : List (ℚ × Int))
  | blockwiseExpansion (channelScales : List ℚ)
  | other
  deriving DecidableEq, Repr

namespace Encoding

def isQuantized : Encoding → Bool
  | .undefined => false
  | _ => true

def channel? : Encoding → Nat → Option (ℚ × Int)
  | .scaleOffset scale offset, _ => some (scale,offset)
  | .bwScaleOffset _ scale offset, _ => some (scale,offset)
  | .axisScaleOffset _ entries, c => entries[c]?
  | .bwAxisScaleOffset _ _ entries, c => entries[c]?
  | _, _ => none

end Encoding

inductive BiasContent where
  | float (values : List ℚ)
  | quantized (dataType : QnnDataType) (encoding : Encoding) (bytes : List Byte)

def getBiasQuantScalesAndOffsets : Encoding → Except String (List (ℚ × Int) × Int)
  | .scaleOffset scale offset => .ok ([(scale,offset)],0)
  | .bwScaleOffset _ scale offset => .ok ([(scale,offset)],0)
  | .axisScaleOffset axis entries =>
    if entries = [] then .error "Invalid AXIS_SCALE_OFFSET bias quant params" else .ok (entries,axis)
  | .bwAxisScaleOffset axis _ entries =>
    if entries = [] then .error "Invalid BW_AXIS_SCALE_OFFSET bias quant params" else .ok (entries,axis)
  | _ => .error "Unsupported bias quantization encoding for requantization."

def int32Type : WordType := ⟨4,true,Nat.succ_pos 3⟩

def storageType (dataType : QnnDataType) : WordType :=
  (fixedType dataType).getD ⟨1,dataType == .sfixedPoint4,Nat.one_pos⟩

def slot (count c : Nat) : Nat := if count = 1 then 0 else c

def stored (dataType : QnnDataType) (encoding : Encoding) (bytes : List Byte) (n c : Nat) : Option ℚ := do
  let (scale,offset) ← encoding.channel? c
  let code ← ((storageType dataType).elements n bytes)[slot n c]?
  return dequantize offset scale code

def BiasContent.value (n c : Nat) : BiasContent → Option ℚ
  | .float values => values[slot n c]?
  | .quantized dataType encoding bytes => stored dataType encoding bytes n c

def Encoding.scaleCount : Encoding → Nat
  | .axisScaleOffset _ entries => entries.length
  | .bwAxisScaleOffset _ _ entries => entries.length
  | _ => 1

def BiasContent.scaleCount (n : Nat) : BiasContent → Nat
  | .float _ => n
  | .quantized _ encoding _ => encoding.scaleCount

def Encoding.scaleAt (weight : Encoding) (c : Nat) : ℚ := ((weight.channel? c).map Prod.fst).getD 0

section
variable {t : WordType} {x scale : ℚ}

end

section
variable {encoding : Encoding} {entries : List (ℚ × Int)} {axis : Int} {rank n c : Nat}

structure Encoding.Decodes (encoding : Encoding) (rank : Nat) (entries : List (ℚ × Int)) (axis : Int) : Prop where
  scales : getBiasQuantScalesAndOffsets encoding = .ok (entries,axis)
  count : entries.length = encoding.scaleCount
  nonempty : 0 < entries.length
  axis_eq : if entries.length = 1 then axis = 0 else axis + 1 = rank
  channel : ∀ c, encoding.channel? c = entries[slot entries.length c]?

end

end QnnEp.Bias
