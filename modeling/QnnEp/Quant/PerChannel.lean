import QnnEp.BlockQuant.SubByte
import QnnEp.Foundation.Buffers
import QnnEp.Foundation.Rounding
import QnnEp.Qdq.Annotated

namespace QnnEp.PerChannel
open BlockQuant (Byte)
open Buffers
open Qdq (QnnDataType)
open Rounding (halfEven)
open Tensors (unravel)
variable {e numQuantBytes : Nat} {out : List Byte}

def fixedType : QnnDataType → Option WordType
  | .sfixedPoint8 => some ⟨1,true,by decide⟩
  | .ufixedPoint8 => some ⟨1,false,by decide⟩
  | .sfixedPoint16 => some ⟨2,true,by decide⟩
  | .ufixedPoint16 => some ⟨2,false,by decide⟩
  | .sfixedPoint32 => some ⟨4,true,by decide⟩
  | .sfixedPoint4 | .ufixedPoint4 => none

def getElementSizeByType : QnnDataType → Nat
  | .sfixedPoint4 | .ufixedPoint4 | .sfixedPoint8 | .ufixedPoint8 => 1
  | .sfixedPoint16 | .ufixedPoint16 => 2
  | .sfixedPoint32 => 4

def getQnnTensorDataSizeInBytes (numElements : Nat) (dataType : QnnDataType) : Nat :=
  match dataType with
  | .sfixedPoint4 | .ufixedPoint4 => (numElements + 1) / 2
  | _ => numElements * getElementSizeByType dataType

def shapeSizeCalc (shape : List Nat) (start stop : Nat) : Nat := ((shape.take stop).drop start).prod

def axisNoNeg (axis : Int) (numDims : Nat) : Nat :=
  (if axis < 0 then axis + numDims else axis).toNat

structure AxisBlocks where
  blockCount : Nat
  broadcastDim : Nat
  blockSize : Nat
  deriving DecidableEq, Repr

def axisBlocks (shape : List Nat) : Option Int → AxisBlocks
  | none => ⟨1,1,shapeSizeCalc shape 0 shape.length⟩
  | some axis =>
    let axis := axisNoNeg axis shape.length
    ⟨shapeSizeCalc shape 0 axis,shape.getD axis 0,shapeSizeCalc shape (axis + 1) shape.length⟩

def AxisBlocks.order (blocks : AxisBlocks) : List Nat := channelOrder blocks.blockCount blocks.broadcastDim

def quantizeElement (t : WordType) (scale : ℚ) (offset : Int) (x : ℚ) : Int :=
  min (max (halfEven (x / scale) - offset) t.lowest) t.highest

def dequantize (offset : Int) (scale : ℚ) (quantValue : Int) : ℚ := (quantValue + offset : Int) * scale

def quantizeData (data : List ℚ) (shape : List Nat) (scales : List ℚ) (offsets : List Int)
    (numQuantBytes : Nat) (dataType : QnnDataType) (axis : Option Int) : Except String (List Byte) :=
  let blocks := axisBlocks shape axis
  if shapeSizeCalc shape 0 shape.length ≠ data.length then .error "Shape mismatch with data to quantize"
  else if numQuantBytes ≠ getQnnTensorDataSizeInBytes data.length dataType then
    .error "Cannot quantize data because output buffer is not the correct size"
  else if scales.length ≠ blocks.broadcastDim then .error "Unexpected size of scales output buffer"
  else if offsets.length ≠ blocks.broadcastDim then .error "Unexpected size of offsets output buffer"
  else
    match fixedType dataType with
    | some t =>
      .ok ((channelwise (fun bd => quantizeElement t (scales.getD bd 0) (offsets.getD bd 0)) blocks.blockSize
        blocks.order data).flatMap t.write)
    | none =>
      if blocks.order = [] then .ok [] else .error "Unsupported quantization data type for QuantizeData"

def dequantizePerChannel (quantBytes : List Byte) (shape : List Nat) (scales : List ℚ) (offsets : List Int)
    (numData : Nat) (dataType : QnnDataType) (axis : Option Int) : Except String (List ℚ) :=
  let blocks := axisBlocks shape axis
  if shapeSizeCalc shape 0 shape.length ≠ numData then .error "Shape mismatch with data to dequantize"
  else if quantBytes.length ≠ getElementSizeByType dataType * numData then
    .error "Cannot dequantize data because input buffer is not the correct size"
  else if scales.length ≠ blocks.broadcastDim then .error "Unexpected size of scales input buffer"
  else if offsets.length ≠ blocks.broadcastDim then .error "Unexpected size of offsets input buffer"
  else
    match fixedType dataType with
    | some t =>
      .ok (channelwise (fun bd => dequantize (offsets.getD bd 0) (scales.getD bd 0)) blocks.blockSize
        blocks.order (t.elements numData quantBytes))
    | none =>
      if blocks.order = [] then .ok []
      else .error "Unsupported quantization data type for DequantizeData"

def channelOf (shape : List Nat) (axis : Option Int) (e : Nat) : Nat :=
  match axis with
  | none => 0
  | some axis => (unravel shape e).getD (axisNoNeg axis shape.length) 0

def ValidAxis (shape : List Nat) (axis : Option Int) : Prop :=
  ∀ a ∈ axis, -(shape.length : Int) ≤ a ∧ a < shape.length

def numChannels (shape : List Nat) : Option Int → Nat
  | none => 1
  | some axis => shape.getD (axisNoNeg axis shape.length) 0

section
variable {shape : List Nat} {axis : Option Int}

theorem shapeSizeCalc_all : shapeSizeCalc shape 0 shape.length = shape.prod := by
  simp [shapeSizeCalc]

theorem axisNoNeg_lt {a : Int} (hlow : -(shape.length : Int) ≤ a) (hhigh : a < shape.length) :
    axisNoNeg a shape.length < shape.length := by
  unfold axisNoNeg
  split <;> omega

theorem axisBlocks_count (haxis : ValidAxis shape axis) :
    shape.prod = (axisBlocks shape axis).order.length * (axisBlocks shape axis).blockSize := by
  rw [AxisBlocks.order,length_channelOrder]
  cases axis with
  | none => rw [axisBlocks,shapeSizeCalc_all,Nat.mul_one,Nat.one_mul]
  | some a =>
    obtain ⟨hlow,hhigh⟩ := haxis a rfl
    rw [prod_split (axisNoNeg_lt hlow hhigh)]
    simp [axisBlocks,shapeSizeCalc]

theorem order_getD (haxis : ValidAxis shape axis) (he : e < shape.prod) :
    (axisBlocks shape axis).order.getD (e / (axisBlocks shape axis).blockSize) 0 = channelOf shape axis e := by
  have hcount := axisBlocks_count haxis
  rw [AxisBlocks.order,length_channelOrder] at hcount
  have hblock : e / (axisBlocks shape axis).blockSize <
      (axisBlocks shape axis).blockCount * (axisBlocks shape axis).broadcastDim :=
    Nat.div_lt_of_lt_mul (by rwa [Nat.mul_comm,← hcount])
  rw [AxisBlocks.order,channelOrder_getD hblock]
  cases axis with
  | none => exact Nat.mod_one _
  | some a =>
    obtain ⟨hlow,hhigh⟩ := haxis a rfl
    rw [channelOf,unravel_getD (axisNoNeg_lt hlow hhigh) he]
    simp [axisBlocks,shapeSizeCalc]

theorem broadcastDim_eq : (axisBlocks shape axis).broadcastDim = numChannels shape axis := by
  cases axis <;> rfl

variable {dataType : QnnDataType} {t : WordType} {scales data : List ℚ} {offsets : List Int}
  {bytes : List Byte}

theorem elementSize_of_fixed (h : fixedType dataType = some t) : getElementSizeByType dataType = t.width := by
  cases dataType <;> first | cases h; rfl | cases h

theorem dataSize_of_fixed (h : fixedType dataType = some t) (n : Nat) :
    getQnnTensorDataSizeInBytes n dataType = n * t.width := by
  cases dataType <;> first | cases h; rfl | cases h

theorem quantizeElement_range (scale : ℚ) (offset : Int) (x : ℚ) :
    t.lowest ≤ quantizeElement t scale offset x ∧ quantizeElement t scale offset x ≤ t.highest :=
  ⟨le_min (le_max_right _ _) t.lowest_le_highest,min_le_right _ _⟩

theorem quantizeElement_dequantize {scale : ℚ} (hscale : 0 < scale) {offset n : Int} (hlow : t.lowest ≤ n)
    (hhigh : n ≤ t.highest) : quantizeElement t scale offset (dequantize offset scale n) = n := by
  rw [quantizeElement,dequantize,mul_div_cancel_right₀ _ hscale.ne',Rounding.halfEven_intCast]
  omega

theorem quantizeData_eq (h : fixedType dataType = some t) (hdata : data.length = shape.prod)
    (hscales : scales.length = numChannels shape axis) (hoffsets : offsets.length = numChannels shape axis) :
    quantizeData data shape scales offsets (shape.prod * t.width) dataType axis =
      .ok ((channelwise (fun bd => quantizeElement t (scales.getD bd 0) (offsets.getD bd 0))
        (axisBlocks shape axis).blockSize (axisBlocks shape axis).order data).flatMap t.write) := by
  unfold quantizeData
  rw [shapeSizeCalc_all,if_neg (not_not.mpr hdata.symm),dataSize_of_fixed h,hdata,if_neg (not_not.mpr rfl),
    broadcastDim_eq,if_neg (not_not.mpr hscales),if_neg (not_not.mpr hoffsets),h]

theorem dequantizePerChannel_eq (h : fixedType dataType = some t) (hbytes : bytes.length = shape.prod * t.width)
    (hscales : scales.length = numChannels shape axis) (hoffsets : offsets.length = numChannels shape axis) :
    dequantizePerChannel bytes shape scales offsets shape.prod dataType axis =
      .ok (channelwise (fun bd => dequantize (offsets.getD bd 0) (scales.getD bd 0))
        (axisBlocks shape axis).blockSize (axisBlocks shape axis).order (t.elements shape.prod bytes)) := by
  have hsize : bytes.length = getElementSizeByType dataType * shape.prod := by
    rw [elementSize_of_fixed h,hbytes,Nat.mul_comm]
  unfold dequantizePerChannel
  rw [shapeSizeCalc_all,if_neg (not_not.mpr rfl),if_neg (not_not.mpr hsize),
    broadcastDim_eq,if_neg (not_not.mpr hscales),if_neg (not_not.mpr hoffsets),h]

theorem channelwise_channelOf {α β : Type} {f : Nat → α → β} {xs : List α} (haxis : ValidAxis shape axis)
    (hxs : xs.length = shape.prod) (he : e < shape.prod) :
    (channelwise f (axisBlocks shape axis).blockSize (axisBlocks shape axis).order xs)[e]? =
      xs[e]?.map (f (channelOf shape axis e)) := by
  rw [channelwise_getElem? (hxs.trans (axisBlocks_count haxis)) (hxs ▸ he),order_getD haxis he]

theorem quantizeData_ok (h : fixedType dataType = some t)
    (hout : quantizeData data shape scales offsets numQuantBytes dataType axis = .ok out) :
    data.length = shape.prod ∧
      out = (channelwise (fun bd => quantizeElement t (scales.getD bd 0) (offsets.getD bd 0))
        (axisBlocks shape axis).blockSize (axisBlocks shape axis).order data).flatMap t.write := by
  unfold quantizeData at hout
  rw [h,shapeSizeCalc_all] at hout
  dsimp only at hout
  split_ifs at hout with hdata
  exact ⟨(not_not.mp hdata).symm,(Except.ok.inj hout).symm⟩

theorem quantizeData_elements (h : fixedType dataType = some t) (haxis : ValidAxis shape axis)
    (hout : quantizeData data shape scales offsets numQuantBytes dataType axis = .ok out)
    (he : e < shape.prod) :
    (t.elements shape.prod out)[e]? = data[e]?.map
      (quantizeElement t (scales.getD (channelOf shape axis e) 0) (offsets.getD (channelOf shape axis e) 0)) := by
  obtain ⟨hdata,rfl⟩ := quantizeData_ok h hout
  have hlen : (channelwise (fun bd => quantizeElement t (scales.getD bd 0) (offsets.getD bd 0))
      (axisBlocks shape axis).blockSize (axisBlocks shape axis).order data).length = shape.prod :=
    (length_channelwise (hdata.trans (axisBlocks_count haxis))).trans hdata
  have hrange : ∀ n ∈ channelwise (fun bd => quantizeElement t (scales.getD bd 0) (offsets.getD bd 0))
      (axisBlocks shape axis).blockSize (axisBlocks shape axis).order data, t.lowest ≤ n ∧ n ≤ t.highest :=
    forall_mem_channelwise (fun bd x => quantizeElement_range _ _ x) _ _
  have helements := WordType.elements_flatMap_write hrange
  rw [hlen] at helements
  rw [helements]
  exact channelwise_channelOf haxis hdata he

theorem quantize_dequantize_roundTrip (dataType : QnnDataType) (scales : List ℚ) (offsets : List Int)
    (bytes : List Byte) (h : fixedType dataType = some t) (haxis : ValidAxis shape axis)
    (hscales : scales.length = numChannels shape axis) (hoffsets : offsets.length = numChannels shape axis)
    (hpos : ∀ s ∈ scales, 0 < s) (hbytes : bytes.length = shape.prod * t.width) :
    ∃ data, dequantizePerChannel bytes shape scales offsets shape.prod dataType axis = .ok data ∧
      quantizeData data shape scales offsets (shape.prod * t.width) dataType axis = .ok bytes ∧
      (∀ e < shape.prod, data[e]? = (t.elements shape.prod bytes)[e]?.map
        (dequantize (offsets.getD (channelOf shape axis e) 0) (scales.getD (channelOf shape axis e) 0))) ∧
      ∀ values : List ℚ, values.length = shape.prod →
        ∃ out, quantizeData values shape scales offsets (shape.prod * t.width) dataType axis = .ok out ∧
          ∀ e < shape.prod, (t.elements shape.prod out)[e]? = values[e]?.map
            (quantizeElement t (scales.getD (channelOf shape axis e) 0)
              (offsets.getD (channelOf shape axis e) 0)) := by
  have hlen : (t.elements shape.prod bytes).length = shape.prod := WordType.length_elements _ _
  have hcount := axisBlocks_count haxis
  have hinverse : ∀ bd ∈ (axisBlocks shape axis).order, ∀ n ∈ t.elements shape.prod bytes,
      quantizeElement t (scales.getD bd 0) (offsets.getD bd 0)
        (dequantize (offsets.getD bd 0) (scales.getD bd 0) n) = n := by
    intro bd hbd n hn
    have hlt : bd < scales.length := by
      rw [hscales,← broadcastDim_eq]
      exact mem_channelOrder hbd
    obtain ⟨hlow,hhigh⟩ := WordType.elements_range hbytes n hn
    refine quantizeElement_dequantize (hpos _ ?_) hlow hhigh
    rw [List.getD_eq_getElem _ _ hlt]
    exact List.getElem_mem hlt
  refine ⟨_,dequantizePerChannel_eq h hbytes hscales hoffsets,?_,
    fun e he => channelwise_channelOf haxis hlen he,
    fun values hvalues => ⟨_,quantizeData_eq h hvalues hscales hoffsets,
      fun e he => quantizeData_elements h haxis (quantizeData_eq h hvalues hscales hoffsets) he⟩⟩
  rw [quantizeData_eq h ((length_channelwise (hlen.trans hcount)).trans hlen) hscales hoffsets,
    channelwise_inverse (hlen.trans hcount) hinverse,WordType.flatMap_write_elements hbytes]

theorem roundTrip_negative_axis :
    ∃ data, dequantizePerChannel [1,2,3,254,255,128] [2,3] [1,1 / 2,2] [0,-3,5] 6 .sfixedPoint8 (some (-1)) =
        .ok data ∧
      quantizeData data [2,3] [1,1 / 2,2] [0,-3,5] 6 .sfixedPoint8 (some (-1)) = .ok [1,2,3,254,255,128] := by
  have haxis : ValidAxis [2,3] (some (-1)) := by
    intro a ha
    obtain rfl := Option.some.inj ha
    decide
  obtain ⟨data,hdata,hquantized,-,-⟩ := quantize_dequantize_roundTrip .sfixedPoint8 [1,1 / 2,2] [0,-3,5]
    [1,2,3,254,255,128] rfl haxis rfl rfl (by norm_num) rfl
  exact ⟨data,hdata,hquantized⟩

end

end QnnEp.PerChannel
