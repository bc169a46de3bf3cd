import QnnEp.Quant.Bias

namespace QnnEp.Bias
open List Registry
open BlockQuant (Byte)
open Buffers
open PerChannel
open Qdq (QnnDataType)
variable {count c : Nat} {name : String} {shape : List Nat} {out : List Byte} {weightsScales : List ℚ}

section
variable {encoding encoding' : Encoding} {entries : List (ℚ × Int)} {weightsScales values : List ℚ}
  {activationScale : ℚ} {dataType : QnnDataType} {bytes : List Byte} {n channels c : Nat} {r : StaticBias}

end

section
variable {bias : BiasInfo} {act weight : Encoding} {activationScale : ℚ} {n channels : Nat} {baseName : String}
  {r : StaticBias}

end

end QnnEp.Bias
