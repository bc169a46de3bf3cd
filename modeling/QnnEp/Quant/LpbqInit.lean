import QnnEp.Foundation.Tensor
import QnnEp.Quant.Lpbq

namespace QnnEp.Lpbq
open List Scatter
open Qdq (OnnxType)
open Quant
open Tensors (ravel)
variable {rest : List Nat} {r : BlockScales FloatBits}

section
variable (q : OrtQuantParam) (shape : List Nat)

def blockAxis : Nat := (q.normalizedAxis shape.length).toNat

def numBlocks : Nat := (shape.getD (blockAxis q shape) 0 + (q.blockSize.getD 1 - 1)) / q.blockSize.getD 1

def numChannels : Nat := shape.getD (1 - blockAxis q shape) 0

def scaleDims : List Nat := q.effectiveScaleShape shape (blockAxis q shape)

def inAxisOrder (channel block : Nat) : List Nat :=
  if blockAxis q shape = 0 then [block,channel] else [channel,block]

def scaleIndex (channel block : Nat) : Nat :=
  match q.scaleShape with
  | [_] => ravel (inAxisOrder q shape (numChannels q shape) (numBlocks q shape)) (inAxisOrder q shape channel block)
  | dims => ravel dims (inAxisOrder q shape channel block ++ List.replicate (dims.length - 2) 0)

structure ValidScales : Prop where
  axis : q.normalizedAxis shape.length = 0 ∨ q.normalizedAxis shape.length = 1
  dims : q.scaleShape = shape.set (blockAxis q shape) (numBlocks q shape) ∨
    q.scaleShape = [numChannels q shape * numBlocks q shape]
  count : q.scales.length = q.scaleShape.prod

def onnxScale (ops : ScaleArithmetic FloatBits) (channel block : Nat) : FloatBits :=
  q.scales.getD (scaleIndex q shape channel block) ops.zero

def onnxColumn (ops : ScaleArithmetic FloatBits) (channel : Nat) : List FloatBits :=
  (List.range (numBlocks q shape)).map (onnxScale q shape ops channel)

structure Encodes (ops : ScaleArithmetic FloatBits) (params : QuantizeParams) : Prop where
  stored : ∃ bitwidth scaleOffsets blocksScale8,
    params = .blockwiseExpansion (1 - blockAxis q shape) (numBlocks q shape) bitwidth scaleOffsets blocksScale8 ∧
    scaleOffsets = (List.range (numChannels q shape)).map
      (fun c => ⟨channelScale ops (onnxColumn q shape ops c),0⟩) ∧
    ∀ c < numChannels q shape, ∀ b < numBlocks q shape, blocksScale8[c * numBlocks q shape + b]? =
      some (intScale ops (channelScale ops (onnxColumn q shape ops c)) (onnxScale q shape ops c b))

end

section
variable {ops : ScaleArithmetic FloatBits} {q : OrtQuantParam} {shape : List Nat} {params : QuantizeParams}

theorem uint32_mul_eq {x y : Nat} (hx : 0 < x) (hy : 0 < y) (h : x * y = uint32 x * uint32 y) :
    uint32 x = x ∧ uint32 y = y := by
  have hxle : uint32 x ≤ x := Nat.mod_le _ _
  have hyle : uint32 y ≤ y := Nat.mod_le _ _
  constructor
  · by_contra hne
    have hlt := Nat.mul_lt_mul_of_lt_of_le (Nat.lt_of_le_of_ne hxle hne) hyle hy
    omega
  · by_contra hne
    have hlt := Nat.mul_lt_mul_of_le_of_lt hxle (Nat.lt_of_le_of_ne hyle hne) hx
    omega

theorem ravel_zeros (dims : List Nat) (n : Nat) : ravel dims (List.replicate n 0) = 0 := by
  induction n generalizing dims with
  | zero => cases dims <;> rfl
  | succ n ih =>
    cases dims with
    | nil => rfl
    | cons d dims => simpa [replicate_succ,ravel] using ih dims

structure Initialized (ops : ScaleArithmetic FloatBits) (q : OrtQuantParam) (shape : List Nat)
    (params : QuantizeParams) (blocks channels : Nat) (r : BlockScales FloatBits) : Prop where
  rank : 2 ≤ (scaleDims q shape).length
  blocks_eq : (scaleDims q shape).getD (blockAxis q shape) 0 = blocks
  channels_eq : (scaleDims q shape).getD (1 - blockAxis q shape) 0 = channels
  blocks_pos : 0 < blocks
  channels_pos : 0 < channels
  blocks_lt : blocks < 2 ^ 32
  channels_lt : channels < 2 ^ 32
  count : q.scales.length = blocks * channels
  converted : convertBlockQuantScalesToLpbq ops (q.blockMajor (blockAxis q shape) channels blocks) q.zeroPoints
    blocks channels 4 = .ok r
  params_eq : params = .blockwiseExpansion (1 - blockAxis q shape)
    (uint32 r.perBlockIntScales.length / uint32 r.perChannelScales.length) 4
    (zipScaleOffsets r.perChannelScales r.offsets)
    (r.perBlockIntScales.take (uint32 r.perBlockIntScales.length))

theorem length_blockMajor (axis channels blocks : Nat) :
    (q.blockMajor axis channels blocks).length = q.scales.length := by
  unfold OrtQuantParam.blockMajor
  split
  · rfl
  · exact length_transpose _ _ _ _

theorem conversion_ok {scales : List FloatBits} {offsets : List Int} {blocks channels : Nat} {lpbq : LpbqScales}
    (h : conversion ops scales offsets blocks channels = some lpbq) :
    ∃ r, convertBlockQuantScalesToLpbq ops scales offsets blocks channels 4 = .ok r ∧
      lpbq = ⟨r.perChannelScales,r.perBlockIntScales,r.offsets⟩ := by
  unfold conversion at h
  split at h
  · next r hr => exact ⟨r,hr,(Option.some.inj h).symm⟩
  · cases h

theorem paired_dims {dims : List Nat} {axis n : Nat} (haxis : axis = 0 ∨ axis = 1)
    (hpos : 0 < dims.getD 0 0 ∧ 0 < dims.getD 1 0) (hcount : dims.getD 0 0 * dims.getD 1 0 = n) :
    0 < dims.getD axis 0 ∧ 0 < dims.getD (1 - axis) 0 ∧ dims.getD axis 0 * dims.getD (1 - axis) 0 = n := by
  rcases haxis with rfl | rfl
  · exact ⟨hpos.1,hpos.2,hcount⟩
  · exact ⟨hpos.2,hpos.1,by rw [Nat.mul_comm]; exact hcount⟩

theorem blockAxis_cases (h : q.normalizedAxis shape.length = 0 ∨ q.normalizedAxis shape.length = 1) :
    blockAxis q shape = 0 ∨ blockAxis q shape = 1 := by
  unfold blockAxis
  omega

theorem initLpbq_initialized (h : q.initLpbq (conversion ops) shape = .ok params) (hlpbq : params.isLPBQ) :
    ∃ blocks channels r, Initialized ops q shape params blocks channels r := by
  unfold OrtQuantParam.initLpbq at h
  simp only at h
  split_ifs at h with haxis hrank hpos hcount
  split at h
  · obtain rfl := Except.ok.inj h
    cases hlpbq
  · next lpbq hconvert =>
    obtain rfl := Except.ok.inj h
    obtain ⟨r,hr,rfl⟩ := conversion_ok hconvert
    change convertBlockQuantScalesToLpbq ops
      (q.blockMajor (blockAxis q shape)
        (uint32 ((scaleDims q shape).getD (1 - blockAxis q shape) 0))
        (uint32 ((scaleDims q shape).getD (blockAxis q shape) 0)))
      q.zeroPoints (uint32 ((scaleDims q shape).getD (blockAxis q shape) 0))
      (uint32 ((scaleDims q shape).getD (1 - blockAxis q shape) 0)) 4 = .ok r at hr
    have hcast : (1 : Int) - q.normalizedAxis shape.length = 1 - (blockAxis q shape : Int) := by
      unfold blockAxis
      omega
    have hpos : 0 < (scaleDims q shape).getD 0 0 ∧ 0 < (scaleDims q shape).getD 1 0 := hpos
    obtain ⟨hblocks,hchannels,hprod⟩ := paired_dims (blockAxis_cases haxis) hpos (not_not.mp hcount)
    have hsize := (convert_ok hr).1
    rw [length_blockMajor,← hprod] at hsize
    obtain ⟨hnb,hnc⟩ := uint32_mul_eq hblocks hchannels hsize
    rw [hnb,hnc] at hr
    exact ⟨_,_,r,hrank.1,rfl,rfl,hblocks,hchannels,hnb ▸ Nat.mod_lt _ (by decide),
      hnc ▸ Nat.mod_lt _ (by decide),hprod.symm,hr,by rw [hcast]⟩

theorem axis_of_isLPBQ (h : params.isLPBQ) : ∃ axis, params.axis? = some axis := by
  cases params <;> first | exact ⟨_,rfl⟩ | cases h

theorem initFromIODef_initialized {enable : Bool} {type : OnnxType}
    (h : initFromIODef (conversion ops) enable type shape (some q) = .ok params) (hlpbq : params.isLPBQ) :
    ∃ blocks channels r, Initialized ops q shape params blocks channels r := by
  simp only [initFromIODef] at h
  split at h
  · unfold OrtQuantParam.initBlock at h
    split at h
    · obtain rfl := Except.ok.inj h
      cases hlpbq
    · exact initLpbq_initialized h hlpbq
  · obtain ⟨axis,haxis⟩ := axis_of_isLPBQ hlpbq
    split at h
    · cases h
    · rw [initPerTensor_axis h] at haxis
      cases haxis
    · rw [(initPerChannel_axis h haxis).1] at hlpbq
      cases hlpbq

theorem effective_of_rank {axis : Nat} (h : q.scaleShape.length ≠ 1) :
    q.effectiveScaleShape shape axis = q.scaleShape := by
  unfold OrtQuantParam.effectiveScaleShape
  dsimp only
  split
  · next count hshape => exact absurd (by rw [hshape]; rfl) h
  · rfl

theorem effective_flat {count axis : Nat} (h : q.scaleShape = [count])
    (hrank : 2 ≤ (q.effectiveScaleShape shape axis).length) :
    q.effectiveScaleShape shape axis =
      [shape.getD (1 - axis) 0,count / shape.getD (1 - axis) 0] ∧ 1 < shape.length ∧ 0 < shape.getD (1 - axis) 0 := by
  unfold OrtQuantParam.effectiveScaleShape at hrank ⊢
  simp only [h] at hrank ⊢
  split at hrank
  · next hsplit => exact ⟨if_pos hsplit,hsplit.1,hsplit.2.1⟩
  · simp at hrank

theorem effective_cases (hvalid : ValidScales q shape) (hrank : 2 ≤ (scaleDims q shape).length) :
    ((q.scaleShape.length = 1 → blockAxis q shape = 1) ∧
        (scaleDims q shape).getD (blockAxis q shape) 0 = numBlocks q shape ∧
        (scaleDims q shape).getD (1 - blockAxis q shape) 0 = numChannels q shape) ∨
      q.scaleShape.length = 1 ∧ blockAxis q shape = 0 ∧
        (scaleDims q shape).getD (blockAxis q shape) 0 = numChannels q shape ∧
        (scaleDims q shape).getD (1 - blockAxis q shape) 0 = numBlocks q shape := by
  have haxis := blockAxis_cases hvalid.axis
  by_cases hone : q.scaleShape.length = 1
  · obtain ⟨count,hcount⟩ := length_eq_one_iff.mp hone
    obtain ⟨hdims,hlong,hpos⟩ := effective_flat hcount hrank
    have hflat : q.scaleShape = [numChannels q shape * numBlocks q shape] := by
      refine hvalid.dims.resolve_left fun hset => ?_
      rw [hset,length_set] at hone
      omega
    have hblocks : count / shape.getD (1 - blockAxis q shape) 0 = numBlocks q shape := by
      rw [(List.cons.inj (hcount.symm.trans hflat)).1]
      exact Nat.mul_div_cancel_left _ hpos
    have hscale : scaleDims q shape = [numChannels q shape,numBlocks q shape] := by
      rw [scaleDims,hdims,hblocks]
      rfl
    rw [hscale]
    rcases haxis with h0 | h1
    · exact .inr ⟨hone,h0,by rw [h0]; rfl,by rw [h0]; rfl⟩
    · exact .inl ⟨fun _ => h1,by rw [h1]; rfl,by rw [h1]; rfl⟩
  · have hscale : scaleDims q shape = q.scaleShape := effective_of_rank hone
    have hset : q.scaleShape = shape.set (blockAxis q shape) (numBlocks q shape) :=
      hvalid.dims.resolve_right fun hflat => hone (by rw [hflat]; rfl)
    rw [hscale,hset,length_set] at hrank
    refine .inl ⟨fun h => absurd h hone,?_,?_⟩
    · rw [hscale,hset,getD_eq_getElem?_getD,List.getElem?_set_self (by omega)]
      rfl
    · rw [hscale,hset,getD_eq_getElem?_getD,List.getElem?_set_ne (by omega),← getD_eq_getElem?_getD]
      rfl

theorem leading_dims {dims : List Nat} (h : 2 ≤ dims.length) : ∃ d₀ d₁ rest, dims = d₀ :: d₁ :: rest := by
  rcases dims with _ | ⟨d₀,_ | ⟨d₁,rest⟩⟩
  · cases h
  · exact absurd h (Nat.not_succ_le_self 1)
  · exact ⟨d₀,d₁,rest,rfl⟩

theorem ravel_leading {d₀ d₁ : Nat} (h : rest.prod = 1) (i j n : Nat) :
    ravel (d₀ :: d₁ :: rest) ([i,j] ++ List.replicate n 0) = i * d₁ + j := by
  simp [ravel,h,ravel_zeros]

theorem trailing_ones {d₀ d₁ : Nat} (h : (d₀ :: d₁ :: rest).prod = d₀ * d₁)
    (hpos : 0 < (d₀ :: d₁ :: rest).prod) : rest.prod = 1 := by
  rw [h] at hpos
  rw [prod_cons,prod_cons,← Nat.mul_assoc] at h
  exact Nat.eq_of_mul_eq_mul_left hpos (h.trans (Nat.mul_one _).symm)

theorem scaleIndex_eq (hvalid : ValidScales q shape)
    (hcount : q.scales.length = numBlocks q shape * numChannels q shape) (hpos : 0 < q.scales.length)
    (hrank : 2 ≤ (scaleDims q shape).length) (c b : Nat) :
    scaleIndex q shape c b = if blockAxis q shape = 0 then b * numChannels q shape + c
      else c * numBlocks q shape + b := by
  by_cases hone : q.scaleShape.length = 1
  · obtain ⟨count,hflat⟩ := length_eq_one_iff.mp hone
    simp only [scaleIndex,hflat,inAxisOrder]
    split <;> simp [ravel]
  · have hset : q.scaleShape = shape.set (blockAxis q shape) (numBlocks q shape) :=
      hvalid.dims.resolve_right fun hflat => hone (by rw [hflat]; rfl)
    have hscale : scaleDims q shape = q.scaleShape := effective_of_rank hone
    obtain ⟨d₀,d₁,rest,hdims⟩ := leading_dims (hscale ▸ hrank)
    obtain ⟨-,hblocks,hchannels⟩ := (effective_cases hvalid hrank).resolve_right fun h => hone h.1
    rw [hscale,hdims] at hblocks hchannels
    rw [hvalid.count,hdims] at hcount hpos
    simp only [scaleIndex,inAxisOrder,hdims]
    rcases blockAxis_cases hvalid.axis with h0 | h1
    · rw [h0] at hblocks hchannels
      have hd₀ : d₀ = numBlocks q shape := hblocks
      have hd₁ : d₁ = numChannels q shape := hchannels
      rw [← hd₀,← hd₁] at hcount
      rw [if_pos h0,if_pos h0,ravel_leading (trailing_ones hcount hpos),hd₁]
    · rw [h1] at hblocks hchannels
      have hd₁ : d₁ = numBlocks q shape := hblocks
      have hd₀ : d₀ = numChannels q shape := hchannels
      rw [← hd₀,← hd₁,Nat.mul_comm] at hcount
      have hother : ¬blockAxis q shape = 0 := by omega
      rw [if_neg hother,if_neg hother,ravel_leading (trailing_ones hcount hpos),hd₁]

theorem column_blockMajor (hvalid : ValidScales q shape)
    (hcount : q.scales.length = numBlocks q shape * numChannels q shape) (hpos : 0 < q.scales.length)
    (hrank : 2 ≤ (scaleDims q shape).length) {c b : Nat} (hc : c < numChannels q shape)
    (hb : b < numBlocks q shape) :
    (q.blockMajor (blockAxis q shape) (numChannels q shape) (numBlocks q shape)).getD (b * numChannels q shape + c)
      ops.zero = onnxScale q shape ops c b := by
  rw [onnxScale,scaleIndex_eq hvalid hcount hpos hrank]
  unfold OrtQuantParam.blockMajor
  split
  · rfl
  · have hsize : q.scales.length = numChannels q shape * numBlocks q shape := by rw [hcount,Nat.mul_comm]
    have hread := transpose_getD (numChannels q shape) (numBlocks q shape) 0 q.scales hsize hc hb
    have hlt : c * numBlocks q shape + b < q.scales.length := hsize ▸ index_lt hc hb
    have hlt' : b * numChannels q shape + c <
        (transpose (numChannels q shape) (numBlocks q shape) 0 q.scales).length := by
      rw [length_transpose,hcount]
      exact index_lt hb hc
    rw [getD_eq_getElem _ _ hlt,getD_eq_getElem _ _ hlt'] at hread ⊢
    exact hread

theorem Initialized.lengths {blocks channels : Nat} (h : Initialized ops q shape params blocks channels r) :
    r.perChannelScales.length = channels ∧ r.perBlockIntScales.length = channels * blocks := by
  obtain ⟨_,rfl⟩ := convert_ok h.converted
  have hsize : ∀ c, (intScales ops (column ops (q.blockMajor (blockAxis q shape) channels blocks) blocks
      channels c)).length = blocks := by simp [length_intScales,length_column]
  refine ⟨by simp,?_⟩
  rw [flatMap_map,length_flatMap hsize,length_range]

theorem Initialized.scaleOffsets {blocks channels : Nat}
    (h : Initialized ops q shape params blocks channels r) :
    zipScaleOffsets r.perChannelScales r.offsets = (List.range channels).map fun c =>
      ⟨channelScale ops (column ops (q.blockMajor (blockAxis q shape) channels blocks) blocks channels c),0⟩ := by
  have hlt : uint32 channels = channels := Nat.mod_eq_of_lt h.channels_lt
  obtain ⟨_,rfl⟩ := convert_ok h.converted
  unfold zipScaleOffsets
  apply ext_getElem
  · simp [hlt]
  · intro c hc hc'
    simp

theorem Initialized.column_eq (h : Initialized ops q shape params (numBlocks q shape) (numChannels q shape) r)
    (hvalid : ValidScales q shape) {c : Nat} (hc : c < numChannels q shape) :
    column ops (q.blockMajor (blockAxis q shape) (numChannels q shape) (numBlocks q shape)) (numBlocks q shape)
      (numChannels q shape) c = onnxColumn q shape ops c := by
  refine map_congr_left fun b hb => ?_
  exact column_blockMajor hvalid h.count (h.count ▸ Nat.mul_pos h.blocks_pos h.channels_pos) h.rank hc
    (mem_range.mp hb)

theorem Initialized.encodes_iff
    (h : Initialized ops q shape params (numBlocks q shape) (numChannels q shape) r)
    (hvalid : ValidScales q shape) :
    Encodes q shape ops params ↔ numChannels q shape * numBlocks q shape < 2 ^ 32 := by
  obtain ⟨hchannels,hints⟩ := h.lengths
  have hword : uint32 (numChannels q shape) = numChannels q shape := Nat.mod_eq_of_lt h.channels_lt
  constructor
  · rintro ⟨bitwidth,scaleOffsets,blocksScale8,hparams,-,-⟩
    rw [h.params_eq,hchannels,hints,hword] at hparams
    injection hparams with _ hblocks
    by_contra hwide
    have hlt : uint32 (numChannels q shape * numBlocks q shape) < numChannels q shape * numBlocks q shape :=
      (Nat.mod_lt _ (by decide)).trans_le (not_lt.mp hwide)
    have := Nat.div_lt_of_lt_mul hlt
    omega
  · intro hsmall
    have hall : uint32 (numChannels q shape * numBlocks q shape) = numChannels q shape * numBlocks q shape :=
      Nat.mod_eq_of_lt hsmall
    refine ⟨4,_,r.perBlockIntScales,?_,rfl,?_⟩
    · rw [h.params_eq,h.scaleOffsets,hchannels,hints,hword,hall,Nat.mul_div_cancel_left _ h.channels_pos,
        take_of_length_le hints.le]
      congr 1
      refine map_congr_left fun c hc => ?_
      rw [h.column_eq hvalid (mem_range.mp hc)]
    · intro c hc b hb
      rw [intScale_getElem? h.converted hc hb,h.column_eq hvalid hc,
        column_blockMajor hvalid h.count (h.count ▸ Nat.mul_pos h.blocks_pos h.channels_pos) h.rank hc hb]

theorem Initialized.channels_of_encodes {blocks channels : Nat}
    (h : Initialized ops q shape params blocks channels r) (hencodes : Encodes q shape ops params) :
    channels = numChannels q shape := by
  obtain ⟨bitwidth,scaleOffsets,blocksScale8,hparams,hscales,-⟩ := hencodes
  rw [h.params_eq,h.scaleOffsets] at hparams
  injection hparams with _ _ _ hstored
  simpa using congrArg List.length (hstored.trans hscales)

theorem lpbq_encoding_iff (ops : ScaleArithmetic FloatBits) {enable : Bool} {type : OnnxType}
    (hvalid : ValidScales q shape)
    (h : initFromIODef (conversion ops) enable type shape (some q) = .ok params) (hlpbq : params.isLPBQ) :
    Encodes q shape ops params ↔
      (q.scaleShape.length = 1 → blockAxis q shape = 0 → numBlocks q shape = numChannels q shape) ∧
        numChannels q shape * numBlocks q shape < 2 ^ 32 := by
  obtain ⟨blocks,channels,r,hinit⟩ := initFromIODef_initialized h hlpbq
  rcases effective_cases hvalid hinit.rank with ⟨hflat,hblocks,hchannels⟩ | ⟨hone,hzero,hblocks,hchannels⟩
  · obtain rfl := hinit.blocks_eq.symm.trans hblocks
    obtain rfl := hinit.channels_eq.symm.trans hchannels
    rw [hinit.encodes_iff hvalid,and_iff_right]
    intro hone hzero
    have := hflat hone
    omega
  · obtain rfl := hinit.blocks_eq.symm.trans hblocks
    obtain rfl := hinit.channels_eq.symm.trans hchannels
    by_cases hsquare : numBlocks q shape = numChannels q shape
    · have hinit' : Initialized ops q shape params (numBlocks q shape) (numChannels q shape) r := by
        rw [hsquare] at hinit ⊢
        exact hinit
      rw [hinit'.encodes_iff hvalid,and_iff_right]
      exact fun _ _ => hsquare
    · exact ⟨fun hencodes => absurd (hinit.channels_of_encodes hencodes) hsquare,
        fun hcond => absurd (hcond.1 hone hzero) hsquare⟩

end

def bitArithmetic : ScaleArithmetic FloatBits where
  zero := 0
  ofNat n := BitVec.ofNat 32 n
  isFinite _ := true
  lt a b := a.ult b
  le a b := a.ule b
  div a b := a / b
  round x := x
  toUint32 x := x.toNat

def blockParam (scaleShape : List Nat) (axis : Int) : OrtQuantParam :=
  ⟨scaleShape,[16,32,48],none,some axis,some 2⟩

theorem lpbq_encodes_blocks :
    initFromIODef (conversion bitArithmetic) true .int4 [1,5] (some (blockParam [3] 1)) =
        .ok (.blockwiseExpansion 0 3 4 [⟨3,0⟩] [5,10,16]) ∧
      Encodes (blockParam [3] 1) [1,5] bitArithmetic (.blockwiseExpansion 0 3 4 [⟨3,0⟩] [5,10,16]) := by
  have hinit : initFromIODef (conversion bitArithmetic) true .int4 [1,5] (some (blockParam [3] 1)) =
      .ok (.blockwiseExpansion 0 3 4 [⟨3,0⟩] [5,10,16]) := rfl
  exact ⟨hinit,(lpbq_encoding_iff bitArithmetic ⟨.inr rfl,.inr rfl,rfl⟩ hinit rfl).mpr (by decide)⟩

theorem flat_scales_swap_axes :
    initFromIODef (conversion bitArithmetic) true .int4 [2,3] (some (blockParam [3] 0)) =
        .ok (.blockwiseExpansion 1 3 4 [⟨3,0⟩] [5,10,16]) ∧
      ValidScales (blockParam [3] 0) [2,3] ∧ numChannels (blockParam [3] 0) [2,3] = 3 ∧
      numBlocks (blockParam [3] 0) [2,3] = 1 ∧
      ¬Encodes (blockParam [3] 0) [2,3] bitArithmetic (.blockwiseExpansion 1 3 4 [⟨3,0⟩] [5,10,16]) := by
  refine ⟨rfl,⟨.inl rfl,.inr rfl,rfl⟩,rfl,rfl,?_⟩
  rintro ⟨_,scaleOffsets,_,hparams,-,-⟩
  injection hparams with _ hblocks
  exact absurd hblocks (by decide)

end QnnEp.Lpbq
