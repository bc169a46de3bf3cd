import QnnEp.Conv.Builder

namespace QnnEp.Conv
open List
open BlockQuant (Byte)
open Model (OnnxConvType QnnDataType hwcnShape hwcnPerm permuteShape invertPerm nchw2hwcnPerm nchw2hwcnPerm3d
  cnhw2hwcnPerm cnhw2hwcnPerm3d unsqueezeAxis)
open Quant Registry Tensors
variable {perm : List Nat} {input : List Byte} {a : Nat} {lpbqPath : Bool} {convType : OnnxConvType}

def spatialPosition : List Nat → List Nat
  | [w] => [0,w]
  | spatial => spatial

def hwcnPosition : OnnxConvType → List Nat → List Nat
  | .kConv, n :: c :: spatial => spatialPosition spatial ++ [c,n]
  | .kConvTranspose, c :: n :: spatial => spatialPosition spatial ++ [c,n]
  | _, _ => []

section
variable {shape perm : List Nat} {size : Nat} {input output : List Byte}

structure Transposed (shape perm : List Nat) (size : Nat) (input output : List Byte) : Prop where
  rank : shape.length = 5
  positive : positiveTail shape ∧ positiveTail (gather perm shape)
  placed : ∀ idx, InBounds shape idx → ∀ b < size,
    output[ravel (gather perm shape) (gather perm idx) * size + b]? = input[ravel shape idx * size + b]?

theorem transposeDataRank5_ok (hperm : perm.Perm (List.range 5))
    (hsized : input.length = shape.prod * size)
    (h : transposeDataRank5 shape perm size input = .ok output) :
    Transposed shape perm size input output := by
  unfold transposeDataRank5 at h
  simp only at h
  split at h
  · cases h
  · next hrank =>
    have hrank := not_not.mp hrank
    split at h
    · cases h
    · split at h
      · cases h
      · next hpositive =>
        refine ⟨hrank,not_not.mp hpositive,?_⟩
        intro idx hidx b hb
        have hperm' : perm.Perm (List.range shape.length) := hrank ▸ hperm
        have hposition : ∀ idx, InBounds shape idx →
            dot idx (gather (invertPerm perm) (strides (permuteShape shape perm))) =
              ravel (gather perm shape) (gather perm idx) :=
          fun idx hidx => (ravel_gather hperm' hidx.length_eq).symm
        have hinj : Set.InjOn (fun idx => dot idx (gather (invertPerm perm)
            (strides (permuteShape shape perm)))) {idx | idx ∈ indices shape} := by
          intro idx hidx idx' hidx' he
          have hidx := mem_indices.mp hidx
          have hidx' := mem_indices.mp hidx'
          exact ravel_gather_injOn hperm' hidx hidx'
            ((hposition idx hidx).symm.trans (he.trans (hposition idx' hidx')))
        have hsource := Scatter.index_lt (ravel_lt hidx) hb
        have htarget := Scatter.index_lt (ravel_lt (inBounds_gather hperm' hidx)) hb
        rw [prod_gather hperm',← hposition idx hidx] at htarget
        obtain rfl := Except.ok.inj h
        rw [← hposition idx hidx,Scatter.scatterElements_written _ _ _ _ _ hinj
          (mem_indices.mpr hidx) hb (by simpa [hsized] using htarget)]
        rw [← ravel_eq_dot hidx.length_eq,getD_eq_getElem?_getD,
          List.getElem?_eq_getElem (by rw [hsized]; exact hsource)]
        rfl

end

section
variable {convType : OnnxConvType} {weight : ConvWeight} {shape : List Nat} {is3d : Bool} {data : List Byte}

theorem transposeWeight_eq (convType : OnnxConvType) (shape : List Nat) (weight : ConvWeight)
    (is3d : Bool) : transposeWeight convType shape weight is3d =
      transposeToHwcn (hwcnPerm convType true) shape (getElementSizeByType weight.type) weight.data
        is3d := by
  cases convType <;> rfl

theorem transposeToHwcn_ok {size : Nat} (h : transposeToHwcn perm shape size input is3d = .ok data) :
    shape.length = (if is3d then 5 else 4) ∧
      transposeDataRank5 (if is3d then shape else shape ++ [1]) perm size input = .ok data := by
  unfold transposeToHwcn at h
  split at h
  · cases h
  · next hrank =>
    split at h
    · cases h
    · refine ⟨?_,h⟩
      cases is3d <;> simpa using hrank

theorem hwcnPerm_perm (convType : OnnxConvType) : (hwcnPerm convType true).Perm (List.range 5) := by
  cases convType <;> decide

structure PlacedBy (shape perm : List Nat) (size : Nat) (input output : List Byte) : Prop where
  positive : ∀ d ∈ shape, 0 < d
  placed : ∀ idx, InBounds shape idx → ∀ b < size,
    output[ravel (gather perm shape) (gather perm idx) * size + b]? = input[ravel shape idx * size + b]?

theorem positive_of_transposed {size : Nat} {output : List Byte}
    (h : Transposed shape (hwcnPerm convType true) size input output) : ∀ d ∈ shape, 0 < d := by
  obtain ⟨hshape,hout⟩ := h.positive
  cases shape with
  | nil => cases h.rank
  | cons a rest =>
    obtain ⟨b,x,y,z,rfl⟩ := length_eq_four.mp (Nat.succ.inj h.rank)
    simp only [positiveTail,tail_cons,all_cons,all_nil,Bool.and_true,
      Bool.and_eq_true,decide_eq_true_eq] at hshape
    have ha : 0 < a := by
      cases convType <;>
        simp_all [positiveTail,gather,hwcnPerm,nchw2hwcnPerm3d,cnhw2hwcnPerm3d]
    simpa using ⟨ha,hshape⟩

theorem transposeWeight_placed
    (hsized : weight.data.length = shape.prod * getElementSizeByType weight.type)
    (h : transposeWeight convType shape weight is3d = .ok data) :
    PlacedBy shape (hwcnPerm convType is3d) (getElementSizeByType weight.type) weight.data data := by
  rw [transposeWeight_eq] at h
  obtain ⟨hrank,h⟩ := transposeToHwcn_ok h
  cases is3d with
  | true =>
    have ht := transposeDataRank5_ok (hwcnPerm_perm convType) hsized h
    exact ⟨positive_of_transposed ht,ht.placed⟩
  | false =>
    have ht := transposeDataRank5_ok (hwcnPerm_perm convType) (by simpa using hsized) h
    obtain ⟨a,b,x,y,rfl⟩ := length_eq_four.mp hrank
    refine ⟨fun d hd => positive_of_transposed ht d (mem_append_left _ hd),?_⟩
    intro idx hidx i hi
    have hplaced := ht.placed (idx ++ [0]) (inBounds_append hidx (.cons Nat.one_pos .nil)) i hi
    obtain _ | ⟨_,_ | ⟨_,_ | ⟨_,_ | ⟨_,_ | _⟩⟩⟩⟩ := hidx
    cases convType <;>
      simpa [gather,hwcnPerm,nchw2hwcnPerm3d,cnhw2hwcnPerm3d,Model.nchw2hwcnPerm,Model.cnhw2hwcnPerm,
        ravel] using hplaced

end

structure Faithful (node : ConvNode) (params registered : QuantizeParams) (r : RegisteredWeight) :
    Prop where
  inBounds : ∀ idx, InBounds node.weight.shape idx → InBounds r.shape (hwcnPosition node.convType idx)
  placed : ∀ idx, InBounds node.weight.shape idx → ∀ b < getElementSizeByType node.weight.type,
    r.data[ravel r.shape (hwcnPosition node.convType idx) * getElementSizeByType node.weight.type + b]? =
      node.weight.data[ravel node.weight.shape idx * getElementSizeByType node.weight.type + b]?
  channel : ∀ idx, InBounds node.weight.shape idx →
    registered.channel (hwcnPosition node.convType idx) = params.channel idx

def movesAxis (node : ConvNode) (params : QuantizeParams) : Bool :=
  params.isPerChannel || (node.inputShape.length ≠ 3 &&
    match node.activationType with
    | .ok activation => useLpbqPath node activation params
    | .error _ => false)

def spatialSizes (shape : List Nat) : List Nat :=
  match shape.drop 2 with
  | [w] => [1,w]
  | spatial => spatial

def UnitAxis (node : ConvNode) (axis : Nat) : Prop :=
  node.weight.shape.getD axis 0 = 1 ∧ (spatialSizes node.weight.shape).getD axis 0 = 1

section
variable {perm position : List Nat} {params : QuantizeParams} {axis : Int} {n : Nat}

theorem channel_gather (haxis : params.axis? = some axis) (hperm : perm.Perm (List.range n))
    (hrange : axis.toNat < n) (hlen : position.length = n) :
    (params.setAxis ((invertPerm perm).getD axis.toNat 0)).channel (gather perm position) =
      params.channel position := by
  have hmem : axis.toNat ∈ perm := hperm.mem_iff.mpr (mem_range.mpr hrange)
  have hlt : axis.toNat < perm.length := by rw [hperm.length_eq,length_range]; exact hrange
  have hidx := idxOf_lt_length_iff.mpr hmem
  rw [QuantizeParams.channel_of_axis haxis,
    QuantizeParams.channel_of_axis (QuantizeParams.axis?_setAxis haxis _)]
  have hinv : (invertPerm perm).getD axis.toNat 0 = perm.idxOf axis.toNat := invert_getD hlt
  rw [hinv]
  simp [gather,hidx,hlen ▸ hrange]

end

section
variable {convType : OnnxConvType} {shape out idx : List Nat}

theorem hwcnShape_ok (h : hwcnShape convType shape = .ok out) :
    (shape.length = 4 ∨ shape.length = 5) ∧
      out = gather (hwcnPerm convType (decide (shape.length = 5))) shape := by
  unfold hwcnShape at h
  split at h
  · cases convType <;> obtain rfl := Except.ok.inj h <;> exact ⟨.inl rfl,rfl⟩
  · cases convType <;> obtain rfl := Except.ok.inj h <;> exact ⟨.inr rfl,rfl⟩
  · cases h

theorem gather_hwcnPerm (h : idx.length = 4 ∨ idx.length = 5) :
    gather (hwcnPerm convType (decide (idx.length = 5))) idx = hwcnPosition convType idx := by
  rcases h with h | h
  · obtain ⟨a,b,x,y,rfl⟩ := length_eq_four.mp h
    cases convType <;> rfl
  · cases idx with
    | nil => cases h
    | cons a rest =>
      obtain ⟨b,x,y,z,rfl⟩ := length_eq_four.mp (Nat.succ.inj h)
      cases convType <;> rfl

theorem hwcnPerm_four (convType : OnnxConvType) : (hwcnPerm convType false).Perm (List.range 4) := by
  cases convType <;> decide

theorem hwcnPerm_range (h : shape.length = 4 ∨ shape.length = 5) :
    (hwcnPerm convType (decide (shape.length = 5))).Perm (List.range shape.length) := by
  rcases h with h | h <;> rw [h] <;> cases convType <;> decide

theorem unsqueezed_position {b w i j k axis : Nat} (hk : k < w) (haxis : axis < 3) :
    [i,j,0,k][unsqueezeAxis [a,b,1,w] [a,b,w] axis 0]? = [i,j,k][axis]? := by
  obtain rfl | rfl | rfl : axis = 0 ∨ axis = 1 ∨ axis = 2 := by omega
  · simp [unsqueezeAxis]
  · simp [unsqueezeAxis]
  · by_cases hw : w = 1
    · obtain rfl : k = 0 := by omega
      simp [unsqueezeAxis,hw]
    · simp [unsqueezeAxis,Ne.symm hw]

end

section
variable {node : ConvNode} {params registered : QuantizeParams} {axis : Int} {r : RegisteredWeight}
  {dataType : QnnDataType}

theorem transposeAxis_ok {moves : Bool} (haxis : params.axis? = some axis)
    (h : transposeAxis moves perm params = .ok registered) :
    registered = if moves then params.setAxis ((invertPerm perm).getD axis.toNat 0) else params := by
  unfold transposeAxis at h
  split at h
  · next hmoves =>
    rw [if_pos hmoves]
    exact (QuantizeParams.handleTranspose_ok haxis h).2
  · next hmoves =>
    rw [if_neg hmoves]
    exact (Except.ok.inj h).symm

theorem processTransposedWeight_ok (h : processTransposedWeight node params dataType lpbqPath = .ok r)
    (henc : r.encoding = .params registered) :
    hwcnShape node.convType node.weight.shape = .ok r.shape ∧
      transposeWeight node.convType node.weight.shape node.weight
        (decide (node.weight.shape.length = 5)) = .ok r.data ∧
      transposeAxis (params.isPerChannel || lpbqPath)
        (hwcnPerm node.convType (decide (node.weight.shape.length = 5))) params = .ok registered := by
  obtain ⟨shape,hshape,h⟩ := bind_ok h
  obtain ⟨_,-,h⟩ := bind_ok h
  obtain ⟨data,hdata,h⟩ := bind_ok h
  obtain ⟨moved,hmoved,h⟩ := bind_ok h
  obtain ⟨_,-,h⟩ := bind_ok h
  obtain rfl := Except.ok.inj h
  obtain rfl := WeightEncoding.params.inj henc
  exact ⟨hshape,hdata,hmoved⟩

theorem processConv2D3DWeight_ok (hparams : node.quantParams = .ok params)
    (h : processConv2D3DWeight node = .ok r) (henc : r.encoding = .params registered) :
    ∃ activation dataType, node.activationType = .ok activation ∧
      processTransposedWeight node params dataType (useLpbqPath node activation params) = .ok r := by
  obtain ⟨activation,hactivation,h⟩ := bind_ok h
  obtain ⟨params',hparams',h⟩ := bind_ok h
  obtain rfl := Except.ok.inj (hparams.symm.trans hparams')
  obtain ⟨dataType,-,h⟩ := bind_ok h
  refine ⟨activation,dataType,hactivation,?_⟩
  simp only at h
  split at h
  · exact h
  · split at h
    · exfalso
      unfold processBQWeight at h
      obtain ⟨_,-,h⟩ := bind_ok h
      obtain ⟨_,-,h⟩ := bind_ok h
      obtain ⟨_,-,h⟩ := bind_ok h
      obtain ⟨_,-,h⟩ := bind_ok h
      split at h
      · obtain ⟨_,-,h⟩ := bind_ok h
        obtain rfl := Except.ok.inj h
        simp only [bqEncoding] at henc
        split at henc <;> cases henc
      · cases h
    · exact h

structure Laid (node : ConvNode) (r : RegisteredWeight) : Prop where
  positive : ∀ d ∈ node.weight.shape, 0 < d
  faithful : ∀ params registered : QuantizeParams, (∀ idx, InBounds node.weight.shape idx →
    registered.channel (hwcnPosition node.convType idx) = params.channel idx) →
    Faithful node params registered r

theorem processTransposedWeight_laid (h : processTransposedWeight node params dataType lpbqPath = .ok r)
    (henc : r.encoding = .params registered) : Laid node r := by
  obtain ⟨hshape,hdata,-⟩ := processTransposedWeight_ok h henc
  obtain ⟨hrank,hout⟩ := hwcnShape_ok hshape
  have hplaced := transposeWeight_placed node.weight.sized hdata
  have hposition : ∀ idx, InBounds node.weight.shape idx →
      gather (hwcnPerm node.convType (decide (node.weight.shape.length = 5))) idx =
        hwcnPosition node.convType idx := by
    intro idx hidx
    rw [← hidx.length_eq] at hrank ⊢
    exact gather_hwcnPerm hrank
  refine ⟨hplaced.positive,fun _ _ hchannel => ⟨?_,?_,hchannel⟩⟩
  · intro idx hidx
    rw [← hposition idx hidx,hout]
    exact inBounds_gather (hwcnPerm_range hrank) hidx
  · intro idx hidx
    rw [← hposition idx hidx,hout]
    exact hplaced.placed idx hidx

theorem processTransposedWeight_channel (haxis : params.axis? = some axis)
    (hrange : axis.toNat < node.weight.shape.length)
    (h : processTransposedWeight node params dataType lpbqPath = .ok r)
    (henc : r.encoding = .params registered) (hmoves : (params.isPerChannel || lpbqPath) = true) :
    ∀ idx, InBounds node.weight.shape idx →
      registered.channel (hwcnPosition node.convType idx) = params.channel idx := by
  obtain ⟨hshape,-,hmoved⟩ := processTransposedWeight_ok h henc
  obtain ⟨hrank,-⟩ := hwcnShape_ok hshape
  intro idx hidx
  have hlen := hidx.length_eq
  rw [transposeAxis_ok haxis hmoved,if_pos hmoves,← gather_hwcnPerm (by rwa [hlen]),hlen]
  exact channel_gather haxis (hwcnPerm_range hrank) hrange hlen

structure Unsqueezed (node : ConvNode) (params registered : QuantizeParams) (r : RegisteredWeight)
    (a b w : Nat) (unsqueezed : QuantizeParams) : Prop where
  shape : node.weight.shape = [a,b,w]
  hwcn : hwcnShape node.convType [a,b,1,w] = .ok r.shape
  data : transposeWeight node.convType [a,b,1,w] node.weight false = .ok r.data
  axes : unsqueezeAxes params.isPerChannel [a,b,w] [a,b,1,w] params = .ok unsqueezed
  moved : transposeAxis unsqueezed.isPerChannel (hwcnPerm node.convType false) unsqueezed = .ok registered

variable {b w : Nat} {unsqueezed : QuantizeParams}

theorem processConv1DWeight_ok (hrank : node.weight.shape.length = 3)
    (hparams : node.quantParams = .ok params) (h : processConv1DWeight node = .ok r)
    (henc : r.encoding = .params registered) :
    ∃ a b w unsqueezed, Unsqueezed node params registered r a b w unsqueezed := by
  obtain ⟨a,b,w,hshape⟩ := length_eq_three.mp hrank
  obtain ⟨params',hparams',h⟩ := bind_ok h
  obtain rfl := Except.ok.inj (hparams.symm.trans hparams')
  obtain ⟨dataType,-,h⟩ := bind_ok h
  rw [hshape] at h
  obtain ⟨out,hout,h⟩ := bind_ok h
  obtain ⟨unsqueezed,hunsqueezed,h⟩ := bind_ok h
  obtain ⟨data,hdata,h⟩ := bind_ok h
  obtain ⟨moved,hmoved,h⟩ := bind_ok h
  obtain rfl := Except.ok.inj h
  obtain rfl := WeightEncoding.params.inj henc
  exact ⟨a,b,w,unsqueezed,hshape,hout,hdata,hunsqueezed,hmoved⟩

theorem Unsqueezed.laid (h : Unsqueezed node params registered r a b w unsqueezed) : Laid node r := by
  obtain ⟨hshape,hout,hdata,-,-⟩ := h
  have hsized : node.weight.data.length =
      [a,b,1,w].prod * getElementSizeByType node.weight.type := by
    rw [node.weight.sized,hshape]
    simp
  have hplaced := transposeWeight_placed hsized hdata
  obtain ⟨-,hout⟩ := hwcnShape_ok hout
  have hout : r.shape = gather (hwcnPerm node.convType false) [a,b,1,w] := hout
  have hlift : ∀ idx, InBounds [a,b,w] idx → ∃ idx', InBounds [a,b,1,w] idx' ∧
      gather (hwcnPerm node.convType false) idx' = hwcnPosition node.convType idx ∧
      ravel [a,b,1,w] idx' = ravel [a,b,w] idx := by
    rintro idx (_ | ⟨hi,_ | ⟨hj,_ | ⟨hk,_ | _⟩⟩⟩)
    refine ⟨_,.cons hi (.cons hj (.cons Nat.one_pos (.cons hk .nil))),?_,?_⟩
    · cases node.convType <;> rfl
    · simp [ravel]
  refine ⟨?_,fun _ _ hchannel => ⟨?_,?_,hchannel⟩⟩
  · intro d hd
    rw [hshape] at hd
    refine hplaced.positive d ?_
    simp only [mem_cons,not_mem_nil,or_false] at hd ⊢
    tauto
  · intro idx hidx
    obtain ⟨idx',hidx',hposition,-⟩ := hlift idx (hshape ▸ hidx)
    rw [← hposition,hout]
    exact inBounds_gather (hwcnPerm_four node.convType) hidx'
  · intro idx hidx
    obtain ⟨idx',hidx',hposition,hravel⟩ := hlift idx (hshape ▸ hidx)
    rw [← hposition,hout,hshape,← hravel]
    exact hplaced.placed idx' hidx'

theorem Unsqueezed.kept (h : Unsqueezed node params registered r a b w unsqueezed)
    (hlpbq : params.isPerChannel = false) : registered = params := by
  obtain ⟨-,-,-,hunsqueezed,hmoved⟩ := h
  rw [unsqueezeAxes,if_neg (by rw [hlpbq]; exact Bool.false_ne_true)] at hunsqueezed
  obtain rfl := Except.ok.inj hunsqueezed
  rw [transposeAxis,if_neg (by rw [hlpbq]; exact Bool.false_ne_true)] at hmoved
  exact (Except.ok.inj hmoved).symm

theorem Unsqueezed.channel (h : Unsqueezed node params registered r a b w unsqueezed)
    (haxis : params.axis? = some axis) (hrange : axis.toNat < 3) (hper : params.isPerChannel) :
    ∀ idx, InBounds node.weight.shape idx →
      registered.channel (hwcnPosition node.convType idx) = params.channel idx := by
  obtain ⟨hshape,-,-,hunsqueezed,hmoved⟩ := h
  rw [unsqueezeAxes,if_pos hper] at hunsqueezed
  have hunsqueezed := QuantizeParams.handleUnsqueeze_ok haxis hunsqueezed
  have haxis' : unsqueezed.axis? = some (unsqueezeAxis [a,b,1,w] [a,b,w] axis.toNat 0 : Int) := by
    rw [hunsqueezed]
    exact QuantizeParams.axis?_setAxis haxis _
  have hper' : unsqueezed.isPerChannel := by
    rw [hunsqueezed,QuantizeParams.isPerChannel_setAxis]
    exact hper
  rw [transposeAxis,if_pos hper'] at hmoved
  obtain ⟨hlt,rfl⟩ := QuantizeParams.handleTranspose_ok haxis' hmoved
  rw [hshape]
  rintro idx (_ | ⟨hi,_ | ⟨hj,_ | ⟨hk,_ | _⟩⟩⟩)
  next i j k =>
  have hposition : hwcnPosition node.convType [i,j,k] =
      gather (hwcnPerm node.convType false) [i,j,0,k] := by
    cases node.convType <;> rfl
  have hlt : ((unsqueezeAxis [a,b,1,w] [a,b,w] axis.toNat 0 : Nat) : Int).toNat < [i,j,0,k].length := by
    have hlen : (invertPerm (hwcnPerm node.convType false)).length = 4 := by
      cases node.convType <;> rfl
    rw [hlen] at hlt
    exact hlt
  rw [hposition,channel_gather haxis' (hwcnPerm_four node.convType) hlt rfl,
    QuantizeParams.channel_of_axis haxis',QuantizeParams.channel_of_axis haxis,Int.toNat_natCast]
  exact unsqueezed_position hk hrange

end

section
variable {node : ConvNode} {params registered : QuantizeParams} {axis : Int} {r : RegisteredWeight}

theorem unit_iff {m n : Nat} (hm : 0 < m) (hn : 0 < n) :
    (∀ i < m, ∀ k < n, k = i) ↔ m = 1 ∧ n = 1 := by
  constructor
  · intro h
    constructor
    · by_contra hne
      have := h 1 (by omega) 0 hn
      omega
    · by_contra hne
      have := h 0 hm 1 (by omega)
      omega
  · rintro ⟨rfl,rfl⟩ i hi k hk
    omega

theorem forall_lt_const {n : Nat} {p : Prop} (h : 0 < n) : (∀ i < n, p) ↔ p :=
  ⟨fun hp => hp 0 h,fun hp _ _ => hp⟩

theorem hwcnPosition_spatial {i j : Nat} {spatial : List Nat} (h : a < (spatialPosition spatial).length) :
    (hwcnPosition convType (i :: j :: spatial))[a]? = (spatialPosition spatial)[a]? := by
  cases convType <;> exact List.getElem?_append_left h

theorem unmoved_iff {shape : List Nat} (ha : a = 0 ∨ a = 1)
    (hrank : shape.length = 3 ∨ shape.length = 4 ∨ shape.length = 5) (hpos : ∀ d ∈ shape, 0 < d) :
    (∀ idx, InBounds shape idx → (hwcnPosition convType idx)[a]? = idx[a]?) ↔
      shape.getD a 0 = 1 ∧ (spatialSizes shape).getD a 0 = 1 := by
  rcases hrank with hrank | hrank | hrank
  · obtain ⟨s₀,s₁,s₂,rfl⟩ := length_eq_three.mp hrank
    simp only [mem_cons,not_mem_nil,or_false,forall_eq_or_imp,forall_eq] at hpos
    obtain ⟨h₀,h₁,h₂⟩ := hpos
    simp only [forall_inBounds_cons,forall_inBounds_nil]
    rcases ha with rfl | rfl
    · have hiff := unit_iff h₀ Nat.one_pos
      simpa [hwcnPosition_spatial,spatialPosition,spatialSizes,forall_lt_const,h₁,h₂] using hiff
    · have hiff := unit_iff h₁ h₂
      simpa [hwcnPosition_spatial,spatialPosition,spatialSizes,forall_lt_const,h₀] using hiff
  · obtain ⟨s₀,s₁,s₂,s₃,rfl⟩ := length_eq_four.mp hrank
    simp only [mem_cons,not_mem_nil,or_false,forall_eq_or_imp,forall_eq] at hpos
    obtain ⟨h₀,h₁,h₂,h₃⟩ := hpos
    simp only [forall_inBounds_cons,forall_inBounds_nil]
    rcases ha with rfl | rfl
    · have hiff := unit_iff h₀ h₂
      simpa [hwcnPosition_spatial,spatialPosition,spatialSizes,forall_lt_const,h₁,h₃] using hiff
    · have hiff := unit_iff h₁ h₃
      simpa [hwcnPosition_spatial,spatialPosition,spatialSizes,forall_lt_const,h₀,h₂] using hiff
  · cases shape with
    | nil => cases hrank
    | cons s₀ rest =>
      obtain ⟨s₁,s₂,s₃,s₄,rfl⟩ := length_eq_four.mp (Nat.succ.inj hrank)
      simp only [mem_cons,not_mem_nil,or_false,forall_eq_or_imp,forall_eq] at hpos
      obtain ⟨h₀,h₁,h₂,h₃,h₄⟩ := hpos
      simp only [forall_inBounds_cons,forall_inBounds_nil]
      rcases ha with rfl | rfl
      · have hiff := unit_iff h₀ h₂
        simpa [hwcnPosition_spatial,spatialPosition,spatialSizes,forall_lt_const,h₁,h₃,h₄] using hiff
      · have hiff := unit_iff h₁ h₃
        simpa [hwcnPosition_spatial,spatialPosition,spatialSizes,forall_lt_const,h₀,h₂,h₄] using hiff

theorem faithful_of_moved (hlaid : Laid node r) (hchannel : ∀ idx, InBounds node.weight.shape idx →
      registered.channel (hwcnPosition node.convType idx) = params.channel idx)
    (hmoves : movesAxis node params) :
    Faithful node params registered r ↔ movesAxis node params ∨ UnitAxis node axis.toNat :=
  iff_of_true (hlaid.faithful _ _ hchannel) (.inl hmoves)

theorem faithful_of_unmoved (hlaid : Laid node r) (hregistered : registered = params)
    (hrank : node.weight.shape.length = 3 ∨ node.weight.shape.length = 4 ∨ node.weight.shape.length = 5)
    (hparams : node.quantParams = .ok params) (haxis : params.axis? = some axis)
    (hper : params.isPerChannel = false) (hmoves : movesAxis node params = false) :
    Faithful node params registered r ↔ movesAxis node params ∨ UnitAxis node axis.toNat := by
  obtain ⟨-,hlpbq,-⟩ := initFromIODef_axis hparams haxis
  have ha : axis.toNat = 0 ∨ axis.toNat = 1 := by
    have := hlpbq (QuantizeParams.isLPBQ_of_axis haxis hper)
    omega
  have hiff : (∀ idx, InBounds node.weight.shape idx →
      (hwcnPosition node.convType idx)[axis.toNat]? = idx[axis.toNat]?) ↔ UnitAxis node axis.toNat :=
    unmoved_iff ha hrank hlaid.positive
  subst hregistered
  rw [hmoves,← hiff]
  constructor
  · intro h
    refine .inr fun idx hidx => ?_
    have := h.channel idx hidx
    rwa [QuantizeParams.channel_of_axis haxis,QuantizeParams.channel_of_axis haxis] at this
  · intro h
    refine hlaid.faithful _ _ fun idx hidx => ?_
    rw [QuantizeParams.channel_of_axis haxis,QuantizeParams.channel_of_axis haxis]
    exact h.resolve_left Bool.false_ne_true idx hidx

theorem weight_faithful_iff (node : ConvNode) (params registered : QuantizeParams) (axis : Int)
    (r : RegisteredWeight) (hrank : node.weight.shape.length = node.inputShape.length)
    (hparams : node.quantParams = .ok params) (haxis : params.axis? = some axis)
    (hr : processWeight node = .ok r) (henc : r.encoding = .params registered) :
    Faithful node params registered r ↔ movesAxis node params ∨ UnitAxis node axis.toNat := by
  obtain ⟨hnonneg,hlpbq,hper⟩ := initFromIODef_axis hparams haxis
  have hrange : 2 ≤ node.weight.shape.length → axis.toNat < node.weight.shape.length := by
    intro htwo
    cases hkind : params.isLPBQ with
    | true =>
      have := hlpbq hkind
      omega
    | false =>
      have := hper hkind
      omega
  unfold processWeight at hr
  split at hr
  · next hthree =>
    rw [hthree] at hrank
    obtain ⟨a,b,w,unsqueezed,hsteps⟩ := processConv1DWeight_ok hrank hparams hr henc
    cases hkind : params.isPerChannel with
    | true =>
      refine faithful_of_moved hsteps.laid ?_ (by simp [movesAxis,hkind])
      exact hsteps.channel haxis (by have := hrange (by omega); omega) hkind
    | false =>
      exact faithful_of_unmoved hsteps.laid (hsteps.kept hkind) (.inl hrank) hparams haxis hkind
        (by simp [movesAxis,hkind,hthree])
  · next hthree =>
    split at hr
    · next hdeep =>
      obtain ⟨activation,dataType,hactivation,h⟩ := processConv2D3DWeight_ok hparams hr henc
      have hlaid := processTransposedWeight_laid h henc
      have hmoves : movesAxis node params =
          (params.isPerChannel || useLpbqPath node activation params) := by
        simp [movesAxis,hactivation,hthree]
      cases hpath : params.isPerChannel || useLpbqPath node activation params with
      | true =>
        refine faithful_of_moved hlaid ?_ (hmoves.trans hpath)
        exact processTransposedWeight_channel haxis (hrange (by omega)) h henc hpath
      | false =>
        obtain ⟨-,-,hmoved⟩ := processTransposedWeight_ok h henc
        rw [hpath] at hmoved
        exact faithful_of_unmoved hlaid (transposeAxis_ok haxis hmoved) (by omega) hparams haxis
          (Bool.or_eq_false_iff.mp hpath).1 (hmoves.trans hpath)
    · cases hr

end

def unitScales : LpbqConversion := fun _ _ numBlocks numChannels =>
  some ⟨List.replicate numChannels 0,List.replicate (numChannels * numBlocks) 1,
    List.replicate numChannels 0⟩

def pointwiseNode (inputType : Qdq.OnnxType) (inputShape : List Nat) (weight : ConvWeight) : ConvNode where
  convType := .kConv
  backend := .htp
  htp := ⟨73,false,fun _ => .static,fun _ => false⟩
  enableBlockQuantWeightOptimization := true
  convertBlockQuantScalesToLpbq := unitScales
  inputCount := 2
  inputShape := inputShape
  inputType := inputType
  inputQuantized := true
  inputPerTensor := true
  outputType := inputType
  outputQuantized := true
  autoPad := "NOTSET"
  dilations := [1,1]
  weight := weight

def perChannelWeight : ConvWeight :=
  ⟨.int8,[2,2,1,1],[1,2,3,4],rfl,some ⟨[2],[1,2],none,some 0,none⟩⟩

def perChannelRegistered (axis : Int) : QuantizeParams := .axisScaleOffset axis 2 [⟨1,0⟩,⟨2,0⟩]

theorem weight_faithful_perChannel :
    Faithful (pointwiseNode .uint8 [1,1,1,2] perChannelWeight) (perChannelRegistered 0)
      (perChannelRegistered 3)
      ⟨[1,1,2,2],.sfixedPoint8,.params (perChannelRegistered 3),[1,3,2,4]⟩ :=
  (weight_faithful_iff (pointwiseNode .uint8 [1,1,1,2] perChannelWeight) (perChannelRegistered 0)
    (perChannelRegistered 3) 0 _ rfl (by decide) rfl (by decide) rfl).mpr (.inl (by decide))

def blockWeight2d : ConvWeight :=
  ⟨.int4,[2,2,1,1],[1,2,3,4],rfl,some ⟨[1,2,1,1],[1,2],none,some 0,some 2⟩⟩

def blockWeight1d : ConvWeight :=
  ⟨.int4,[2,2,1],[1,2,3,4],rfl,some ⟨[1,2,1],[1,2],none,some 0,some 2⟩⟩

def blockRegistered : QuantizeParams := .blockwiseExpansion 1 1 4 [⟨0,0⟩,⟨0,0⟩] [1,1]

theorem lpbq_axis_stays :
    (isOpSupported (pointwiseNode .uint8 [1,1,1,2] blockWeight2d) = .ok () ∧
      (pointwiseNode .uint8 [1,1,1,2] blockWeight2d).quantParams = .ok blockRegistered ∧
      processWeight (pointwiseNode .uint8 [1,1,1,2] blockWeight2d) =
        .ok ⟨[1,1,2,2],.sfixedPoint8,.params blockRegistered,[1,3,2,4]⟩ ∧
      blockRegistered.channel [0,1,0,0] = some 1 ∧
      blockRegistered.channel (hwcnPosition .kConv [0,1,0,0]) = some 0) ∧
    (isOpSupported (pointwiseNode .uint16 [1,1,2] blockWeight1d) = .ok () ∧
      (pointwiseNode .uint16 [1,1,2] blockWeight1d).quantParams = .ok blockRegistered ∧
      processWeight (pointwiseNode .uint16 [1,1,2] blockWeight1d) =
        .ok ⟨[1,1,2,2],.sfixedPoint8,.params blockRegistered,[1,3,2,4]⟩ ∧
      blockRegistered.channel [0,1,0] = some 1 ∧
      blockRegistered.channel (hwcnPosition .kConv [0,1,0]) = some 0) := by
  refine ⟨⟨?_,?_,?_,?_,?_⟩,?_,?_,?_,?_,?_⟩ <;> decide +kernel

end QnnEp.Conv
