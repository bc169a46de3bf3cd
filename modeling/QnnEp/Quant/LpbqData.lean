import QnnEp.Quant.PerChannel

namespace QnnEp.LpbqData
open List
open BlockQuant (Byte)
open PerChannel (shapeSizeCalc)
open Qdq (QnnDataType)

inductive Fault where
  | status (message : String)
  | undefinedBehaviour
  deriving DecidableEq, Repr

structure LpbqArithmetic (F : Type) where
  scaled : F → Byte → F
  quantizeInt8 : F → Int → F → Byte
  quantizeInt4 : F → Int → F → Byte

structure LpbqBuffers (F : Type) where
  data : List F
  dataShape : List Nat
  channelScales : List F
  blockScales : List Byte
  offsets : List Int
  dataBlockSize : Nat
  blockScalesShape : List Nat

structure Progress where
  i : Nat
  quantBytes : List Byte
  written : List Nat

variable {F : Type} (ops : LpbqArithmetic F) (b : LpbqBuffers F)

def LpbqArithmetic.quantizer : QnnDataType → Option (F → Int → F → Byte)
  | .sfixedPoint8 => some ops.quantizeInt8
  | .sfixedPoint4 => some ops.quantizeInt4
  | _ => none

def noNeg (axis : Int) (numDims : Nat) : Nat :=
  (if axis < 0 then (axis + numDims) % 2 ^ 64 else axis).toNat

def blockScalesIndex (isChannelFirst : Bool) (channelCount blockCount cn bn : Nat) : Nat :=
  if isChannelFirst then cn * blockCount + bn else bn * channelCount + cn

def quantizeBlock (dataType : QnnDataType) (index : Nat → Nat → Nat) (s : Progress) (block : Nat × Nat) :
    Except Fault Progress :=
  if s.i + b.dataBlockSize ≤ b.data.length ∧ s.i + b.dataBlockSize ≤ s.quantBytes.length then
    match b.channelScales[block.1]?, b.blockScales[index block.1 block.2]?, b.offsets[block.1]? with
    | some channelScale, some blockScale, some offset =>
      match ops.quantizer dataType with
      | some quantize => .ok
        { i := s.i + b.dataBlockSize
          quantBytes := s.quantBytes.take s.i ++ ((b.data.drop s.i).take b.dataBlockSize).map
            (quantize (ops.scaled channelScale blockScale) offset) ++ s.quantBytes.drop (s.i + b.dataBlockSize)
          written := s.written ++ List.range' s.i b.dataBlockSize }
      | none => .error (.status "Unsupported quantization data type for LowPowerBlockQuantizeData")
    | _, _, _ => .error .undefinedBehaviour
  else .error .undefinedBehaviour

def blocks (channelCount blockCount : Nat) : List (Nat × Nat) :=
  (List.range channelCount).flatMap fun cn => (List.range blockCount).map fun bn => (cn,bn)

def check (condition : Prop) [Decidable condition] (message : String) : Except Fault Unit :=
  if condition then .ok () else .error (.status message)

def readAt (xs : List Nat) (i : Nat) : Except Fault Nat :=
  match xs[i]? with
  | some x => .ok x
  | none => .error .undefinedBehaviour

def divide (m n : Nat) : Except Fault Nat :=
  if n = 0 then .error .undefinedBehaviour else .ok (m / n)

def lowPowerBlockQuantizeData (quantBytes : List Byte) (dataType : QnnDataType)
    (dataAxis blockScalesAxis : Int) : Except Fault Progress := do
  let numDims := b.dataShape.length
  check (shapeSizeCalc b.dataShape 0 numDims = b.data.length) "Shape mismatch with data to quantize"
  check (quantBytes.length = b.data.length)
    "Cannot quantize data because output buffer is not the correct size"
  let dataAxis := noNeg dataAxis numDims
  let blockScalesAxis := noNeg blockScalesAxis numDims
  check (dataAxis = 0) "BlockQuantize works for Output Channel at axis 0"
  let channelCount ← readAt b.dataShape dataAxis
  let scaleChannels ← readAt b.blockScalesShape blockScalesAxis
  check (channelCount = scaleChannels) "Incompatible shape of block_scales w.r.t data"
  let blockCount ← readAt b.blockScalesShape (if blockScalesAxis = 0 then 1 else 0)
  let dataBlockCount ← divide (shapeSizeCalc b.dataShape (dataAxis + 1) numDims) b.dataBlockSize
  check (dataBlockCount = blockCount) "Incompatible LowPowerBlockQuantization encodings."
  check (b.channelScales.length = channelCount) "Unexpected size of per-channel-float-scales output buffer"
  check (b.offsets.length = channelCount) "Unexpected size of offsets output buffer"
  check (b.blockScales.length = channelCount * blockCount)
    "Unexpected size of Per-block-int-scales output buffer"
  let s ← (blocks channelCount blockCount).foldlM
    (quantizeBlock ops b dataType (blockScalesIndex (blockScalesAxis = 0) channelCount blockCount))
    ⟨0,quantBytes,[]⟩
  check (s.i = b.data.length) "Failed to LowPowerBlockQuantize due to mismatch per-channel and per-block scales"
  return s

def Sound {α : Type} (post : α → Prop) : Except Fault α → Prop
  | .ok a => post a
  | .error (.status _) => True
  | .error .undefinedBehaviour => False

section
variable {α β : Type} {P : α → Prop} {Q : β → Prop}

theorem Sound.bind {x : Except Fault α} {f : α → Except Fault β} (hx : Sound P x)
    (hf : ∀ a, P a → Sound Q (f a)) : Sound Q (x >>= f) := by
  cases x with
  | ok a => exact hf a hx
  | error fault =>
    cases fault with
    | status message => trivial
    | undefinedBehaviour => exact hx

theorem check_sound (condition : Prop) [Decidable condition] (message : String) :
    Sound (fun _ => condition) (check condition message) := by
  unfold check
  split
  next h => exact h
  next => trivial

theorem readAt_sound {xs : List Nat} {i : Nat} (h : i < xs.length) :
    Sound (fun x => xs[i]? = some x) (readAt xs i) := by
  rw [readAt,List.getElem?_eq_getElem h]
  rfl

theorem foldlM_sound {step : β → α → Except Fault β} {inv : Nat → β → Prop} {xs : List α}
    (hstep : ∀ k x s, xs[k]? = some x → inv k s → Sound (inv (k + 1)) (step s x)) {s : β}
    (hs : inv 0 s) : Sound (inv xs.length) (xs.foldlM step s) := by
  induction xs using List.reverseRecOn with
  | nil => exact hs
  | append_singleton xs x ih =>
    rw [foldlM_append,length_append]
    refine (ih fun k y s hy => hstep k y s ?_).bind fun t ht => ?_
    · rw [List.getElem?_append_left (List.getElem?_eq_some_iff.mp hy).1,hy]
    · rw [foldlM_cons]
      refine (hstep xs.length x t (by simp) ht).bind fun u hu => ?_
      exact hu

end

theorem blocks_eq (channelCount blockCount : Nat) : blocks channelCount blockCount =
    (List.range (channelCount * blockCount)).map fun k => (k / blockCount,k % blockCount) := by
  induction channelCount with
  | zero => simp [blocks]
  | succ channelCount ih =>
    have hlast : blocks (channelCount + 1) blockCount = blocks channelCount blockCount ++
        (List.range blockCount).map fun bn => (channelCount,bn) := by
      simp [blocks,range_succ]
    rw [hlast,ih,Nat.succ_mul,range_add,map_append,map_map]
    congr 1
    refine map_congr_left fun bn hbn => ?_
    have hlt := mem_range.mp hbn
    rw [Function.comp_apply,Tensors.row_of_lt hlt,Nat.mul_add_mod_of_lt hlt]

section
variable {ops b} {dataType : QnnDataType} {index : Nat → Nat → Nat} {channelCount blockCount : Nat}

structure Entry (ops : LpbqArithmetic F) (b : LpbqBuffers F) (dataType : QnnDataType) (cn scaleIndex : Nat)
    (x : F) (byte : Option Byte) : Prop where
  quantized : ∃ channelScale blockScale offset quantize, b.channelScales[cn]? = some channelScale ∧
    b.blockScales[scaleIndex]? = some blockScale ∧ b.offsets[cn]? = some offset ∧
    ops.quantizer dataType = some quantize ∧
    byte = some (quantize (ops.scaled channelScale blockScale) offset x)

structure Done (ops : LpbqArithmetic F) (b : LpbqBuffers F) (dataType : QnnDataType)
    (index : Nat → Nat → Nat) (blockCount k : Nat) (s : Progress) : Prop where
  i : s.i = k * b.dataBlockSize
  length : s.quantBytes.length = b.data.length
  written : s.written = List.range (k * b.dataBlockSize)
  entry : ∀ e x, e < k * b.dataBlockSize → b.data[e]? = some x →
    Entry ops b dataType (e / b.dataBlockSize / blockCount)
      (index (e / b.dataBlockSize / blockCount) (e / b.dataBlockSize % blockCount)) x s.quantBytes[e]?

theorem quantizeBlock_done {k cn bn : Nat} {s : Progress} (hcn : cn = k / blockCount)
    (hbn : bn = k % blockCount) (hfits : (k + 1) * b.dataBlockSize ≤ b.data.length)
    (hchannel : cn < b.channelScales.length) (hoffset : cn < b.offsets.length)
    (hindex : index cn bn < b.blockScales.length)
    (hs : Done ops b dataType index blockCount k s) :
    Sound (Done ops b dataType index blockCount (k + 1)) (quantizeBlock ops b dataType index s (cn,bn)) := by
  have hi := hs.i
  have hnext : s.i + b.dataBlockSize = (k + 1) * b.dataBlockSize := by rw [hi,Nat.succ_mul]
  unfold quantizeBlock
  rw [if_pos ⟨by omega,by have := hs.length; omega⟩,List.getElem?_eq_getElem hchannel,
    List.getElem?_eq_getElem hindex,List.getElem?_eq_getElem hoffset]
  dsimp only
  cases hquantizer : ops.quantizer dataType with
  | none => trivial
  | some quantize =>
    refine ⟨hnext,?_,?_,?_⟩
    · have hlength := hs.length
      simp
      omega
    · dsimp only
      rw [hs.written,hi,Nat.succ_mul,range_eq_range',range_eq_range',← range'_append_1,
        Nat.zero_add]
    · intro e x he hx
      have htake : (s.quantBytes.take s.i).length = s.i := by
        rw [length_take,hs.length]
        omega
      dsimp only
      by_cases hearlier : e < k * b.dataBlockSize
      · rw [append_assoc,List.getElem?_append_left (by omega),List.getElem?_take_of_lt (by omega)]
        exact hs.entry e x hearlier hx
      · have hblock : e / b.dataBlockSize = k :=
          Nat.div_eq_of_lt_le (Nat.le_of_not_lt hearlier) he
        have hread : ((b.data.drop s.i).take b.dataBlockSize)[e - s.i]? = some x := by
          rw [List.getElem?_take_of_lt (by omega),List.getElem?_drop,show s.i + (e - s.i) = e by omega,hx]
        rw [hblock,← hcn,← hbn]
        refine ⟨_,_,_,quantize,List.getElem?_eq_getElem hchannel,List.getElem?_eq_getElem hindex,
          List.getElem?_eq_getElem hoffset,hquantizer,?_⟩
        rw [append_assoc,List.getElem?_append_right (by omega),htake,
          List.getElem?_append_left (by simp; omega),List.getElem?_map,hread]
        rfl

structure Quantized (ops : LpbqArithmetic F) (b : LpbqBuffers F) (dataType : QnnDataType)
    (blockScalesAxis : Int) (rest : List Nat) (s : Progress) : Prop where
  written : s.written = List.range b.data.length
  length : s.quantBytes.length = b.data.length
  entry : ∀ e x, b.data[e]? = some x → Entry ops b dataType (e / rest.prod)
    (Tensors.ravel b.blockScalesShape (if blockScalesAxis = 0 then
      [e / rest.prod,e % rest.prod / b.dataBlockSize]
      else [e % rest.prod / b.dataBlockSize,e / rest.prod])) x s.quantBytes[e]?

theorem quantized_of_done {channels : Nat} {rest : List Nat} {blockScalesAxis : Int} {s : Progress}
    (hdata : b.data.length = channels * rest.prod)
    (hindex : ∀ cn bn, index cn bn =
      Tensors.ravel b.blockScalesShape (if blockScalesAxis = 0 then [cn,bn] else [bn,cn]))
    (hs : Done ops b dataType index blockCount (channels * blockCount) s) (hend : s.i = b.data.length) :
    Quantized ops b dataType blockScalesAxis rest s := by
  have hsize := hs.i.symm.trans hend
  refine ⟨by rw [hs.written,hsize],hs.length,fun e x hx => ?_⟩
  have he : e < b.data.length := (List.getElem?_eq_some_iff.mp hx).1
  have hpos : 0 < channels := Nat.pos_of_ne_zero fun hzero => by simp [hdata,hzero] at he
  have hblocks : blockCount * b.dataBlockSize = rest.prod :=
    Nat.eq_of_mul_eq_mul_left hpos (by rw [← Nat.mul_assoc,hsize,hdata])
  have hentry := hs.entry e x (by omega) hx
  rw [hindex,Nat.div_div_eq_div_mul,Nat.mul_comm b.dataBlockSize,hblocks,
    ← Nat.mod_mul_right_div_self,Nat.mul_comm b.dataBlockSize,hblocks] at hentry
  exact hentry

theorem blockScalesIndex_lt (isChannelFirst : Bool) {cn bn : Nat} (hcn : cn < channelCount)
    (hbn : bn < blockCount) :
    blockScalesIndex isChannelFirst channelCount blockCount cn bn < channelCount * blockCount := by
  have hfirst := Tensors.ravel_lt (.cons hcn (.cons hbn .nil))
  have hlast := Tensors.ravel_lt (.cons hbn (.cons hcn .nil))
  rw [prod_cons,prod_singleton] at hfirst hlast
  rw [Nat.mul_comm blockCount] at hlast
  cases isChannelFirst with
  | false => simpa [blockScalesIndex,Tensors.ravel] using hlast
  | true => simpa [blockScalesIndex,Tensors.ravel] using hfirst

theorem blocks_done {s : Progress} {isChannelFirst : Bool} {restSize : Nat}
    (hdata : b.data.length = channelCount * restSize) (hcount : restSize / b.dataBlockSize = blockCount)
    (hchannels : b.channelScales.length = channelCount) (hoffsets : b.offsets.length = channelCount)
    (hscales : b.blockScales.length = channelCount * blockCount)
    (hs : Done ops b dataType (blockScalesIndex isChannelFirst channelCount blockCount) blockCount 0 s) :
    Sound (Done ops b dataType (blockScalesIndex isChannelFirst channelCount blockCount) blockCount
      (channelCount * blockCount)) ((blocks channelCount blockCount).foldlM
        (quantizeBlock ops b dataType (blockScalesIndex isChannelFirst channelCount blockCount)) s) := by
  have hlength : (blocks channelCount blockCount).length = channelCount * blockCount := by
    rw [blocks_eq,length_map,length_range]
  rw [← hlength]
  refine foldlM_sound (fun k x t hx ht => ?_) hs
  have hk : k < channelCount * blockCount := hlength ▸ (List.getElem?_eq_some_iff.mp hx).1
  obtain rfl : (k / blockCount,k % blockCount) = x := by
    rw [blocks_eq,List.getElem?_map,List.getElem?_range hk] at hx
    exact Option.some.inj hx
  have hpos : 0 < blockCount := Nat.pos_of_ne_zero fun hzero => by simp [hzero] at hk
  have hcn : k / blockCount < channelCount := Nat.div_lt_of_lt_mul (by rwa [Nat.mul_comm])
  refine quantizeBlock_done rfl rfl ?_ (by rwa [hchannels]) (by rwa [hoffsets]) ?_ ht
  · calc (k + 1) * b.dataBlockSize ≤ channelCount * blockCount * b.dataBlockSize :=
          Nat.mul_le_mul_right _ hk
      _ = channelCount * (restSize / b.dataBlockSize * b.dataBlockSize) := by rw [← hcount,Nat.mul_assoc]
      _ ≤ channelCount * restSize := Nat.mul_le_mul_left _ (Nat.div_mul_le_self _ _)
      _ = b.data.length := hdata.symm
  · rw [hscales]
    exact blockScalesIndex_lt isChannelFirst hcn (Nat.mod_lt k hpos)

theorem divide_sound {m n : Nat} (h : 1 ≤ n) : Sound (fun q => m / n = q) (divide m n) := by
  rw [divide,if_neg (by omega)]
  rfl

theorem lowPowerBlockQuantizeData_sound {channels : Nat} {rest : List Nat}
    (hshape : b.dataShape = channels :: rest) (hblock : 1 ≤ b.dataBlockSize)
    (hrank : b.blockScalesShape.length = 2) (quantBytes : List Byte) (dataType : QnnDataType)
    (dataAxis blockScalesAxis : Int) (haxis : blockScalesAxis = 0 ∨ blockScalesAxis = 1) :
    Sound (Quantized ops b dataType blockScalesAxis rest)
      (lowPowerBlockQuantizeData ops b quantBytes dataType dataAxis blockScalesAxis) := by
  have hnoNeg : noNeg blockScalesAxis b.dataShape.length = blockScalesAxis.toNat := by
    rcases haxis with rfl | rfl <;> rfl
  unfold lowPowerBlockQuantizeData
  refine (check_sound _ _).bind fun _ hnum => (check_sound _ _).bind fun _ hbytes =>
    (check_sound _ _).bind fun _ hdataAxis => ?_
  rw [hdataAxis,hnoNeg]
  refine (readAt_sound (by simp [hshape])).bind fun channelCount hchannelCount =>
    (readAt_sound (by omega)).bind fun scaleChannels hscaleChannels =>
    (check_sound _ _).bind fun _ hsame =>
    (readAt_sound (by split <;> omega)).bind fun blockCount hblockCount =>
    (divide_sound hblock).bind fun dataBlockCount hdivide =>
    (check_sound _ _).bind fun _ hcount => (check_sound _ _).bind fun _ hchannels =>
    (check_sound _ _).bind fun _ hoffsets => (check_sound _ _).bind fun _ hscales => ?_
  obtain rfl : channels = channelCount := by simpa [hshape] using hchannelCount
  have hrest : shapeSizeCalc b.dataShape (0 + 1) b.dataShape.length = rest.prod := by
    simp [shapeSizeCalc,hshape]
  have hdata : b.data.length = channels * rest.prod := by
    rw [← hnum,shapeSizeCalc,hshape]
    simp
  refine (blocks_done hdata ?_ hchannels hoffsets hscales ⟨by simp,hbytes,by simp,by simp⟩).bind
    fun s hs => (check_sound _ _).bind fun _ hend => ?_
  · rw [← hcount,← hdivide,hrest]
  · refine quantized_of_done hdata (fun cn bn => ?_) hs hend
    obtain ⟨rows,columns,hscaleShape⟩ := length_eq_two.mp hrank
    rcases haxis with rfl | rfl <;> simp_all [blockScalesIndex,Tensors.ravel]

end

def integerArithmetic : LpbqArithmetic Int :=
  ⟨fun scale n => scale * n.toNat,fun scale offset x => BitVec.ofInt 8 (x / scale - offset),
    fun scale offset x => BitVec.ofInt 8 (x / scale - offset)⟩

def twoBlocks : LpbqBuffers Int := ⟨[6,12],[1,2],[2],[1,3],[0],1,[1,2]⟩

theorem lowPowerBlockQuantizeData_sound_two_blocks :
    (lowPowerBlockQuantizeData integerArithmetic twoBlocks [0,0] .sfixedPoint8 0 0).toOption.map
        Progress.quantBytes = some [3,2] ∧
      Sound (Quantized integerArithmetic twoBlocks .sfixedPoint8 0 [2])
        (lowPowerBlockQuantizeData integerArithmetic twoBlocks [0,0] .sfixedPoint8 0 0) :=
  ⟨by decide,lowPowerBlockQuantizeData_sound rfl (by decide) rfl [0,0] .sfixedPoint8 0 0 (.inl rfl)⟩

end QnnEp.LpbqData
