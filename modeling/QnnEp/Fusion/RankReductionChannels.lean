import QnnEp.Fusion.RankReduction

namespace QnnEp.RankReduction
open Model (QuantParams)
open Tensors

structure KeepsChannels (dims : List Nat) (axis : Nat) (low : List Nat) (axis' : Nat) : Prop where
  size : low[axis']? = dims[axis]?
  index : ∀ idx idx', InBounds dims idx → InBounds low idx' → ravel low idx' = ravel dims idx →
    idx'.getD axis' 0 = idx.getD axis 0

def ChannelsKept (encoding : QuantParams) (dims : List Nat) (low : LoweredTensor) : Prop :=
  ∀ axis scaleOffsets, encoding = .axisScaleOffset axis scaleOffsets →
    ∃ axis', low.encoding = .axisScaleOffset axis' scaleOffsets ∧ KeepsChannels dims axis low.dims axis'

def OnePerChannel (encoding : QuantParams) (dims : List Nat) : Prop :=
  ∀ axis scaleOffsets, encoding = .axisScaleOffset axis scaleOffsets →
    1 < scaleOffsets.length ∧ dims[axis]? = some scaleOffsets.length

def AxisBeforeUnits (encoding : QuantParams) (dims : List Nat) (isUnit : Nat → Prop) : Prop :=
  ∀ axis scaleOffsets, encoding = .axisScaleOffset axis scaleOffsets →
    ((∃ i, isUnit i) ∧ ∀ i, isUnit i → axis < i) ∨
      0 ∈ dims ∧ 1 ≤ axis ∧ dims[axis + 1]? = dims[axis]?

section
variable {dims : List Nat} {unit axis channels : Nat}

theorem getD_eraseIdx (xs : List Nat) (i k : Nat) :
    (xs.eraseIdx i).getD k 0 = if k < i then xs.getD k 0 else xs.getD (k + 1) 0 := by
  rw [List.getD_eq_getElem?_getD,List.getElem?_eraseIdx]
  split
  · rw [List.getD_eq_getElem?_getD]
  · rw [List.getD_eq_getElem?_getD]

theorem exists_distinct_digits (hzero : 0 ∉ dims) (haxis : dims[axis]? = some channels)
    (hchannels : 1 < channels) :
    ∃ idx, InBounds dims idx ∧ idx.getD axis 0 = 1 ∧ idx.getD (axis + 1) 0 = 0 := by
  have hlt : axis < dims.length := (List.getElem?_eq_some_iff.mp haxis).1
  have hget : dims.getD axis 0 = channels := by
    rw [List.getD_eq_getElem?_getD,haxis]
    rfl
  refine ⟨(dims.map fun _ => 0).set axis 1,inBounds_set (inBounds_zeros hzero) (hget ▸ hchannels),?_,?_⟩
  · rw [List.getD_eq_getElem _ _ (by simpa using hlt),List.getElem_set_self]
  · rw [List.getD_eq_getElem?_getD,List.getElem?_set_ne (by omega),List.getElem?_map]
    cases dims[axis + 1]? <;> rfl

theorem squeezed_keeps_iff (hunit : dims[unit]? = some 1) (haxis : dims[axis]? = some channels)
    (hchannels : 1 < channels) :
    KeepsChannels dims axis (dims.eraseIdx unit) axis ↔
      axis < unit ∨ 0 ∈ dims ∧ dims[axis + 1]? = dims[axis]? := by
  have hne : axis ≠ unit := by
    rintro rfl
    have := Option.some.inj (hunit.symm.trans haxis)
    omega
  constructor
  · intro h
    by_cases hlt : axis < unit
    · exact .inl hlt
    · have hsize := h.size
      rw [List.getElem?_eraseIdx,if_neg hlt] at hsize
      refine .inr ⟨?_,hsize⟩
      by_contra hzero
      obtain ⟨idx,hidx,hone,hnext⟩ := exists_distinct_digits hzero haxis hchannels
      obtain ⟨hbounds,hravel⟩ := squeezed_index hunit hidx
      have hindex := h.index idx _ hidx hbounds hravel
      rw [getD_eraseIdx,if_neg hlt,hone,hnext] at hindex
      cases hindex
  · rintro (hlt | ⟨hzero,hsize⟩)
    · refine ⟨by rw [List.getElem?_eraseIdx,if_pos hlt],fun idx idx' hidx hidx' hravel => ?_⟩
      obtain ⟨hbounds,hravel'⟩ := squeezed_index hunit hidx
      rw [ravel_injOn _ hidx' hbounds (hravel.trans hravel'.symm),getD_eraseIdx,if_pos hlt]
    · refine ⟨?_,fun idx _ hidx => absurd hidx (not_inBounds_of_zero hzero)⟩
      rw [List.getElem?_eraseIdx]
      split
      · rfl
      · exact hsize

theorem merged_keeps_iff (hrank : dims.length = 6) (hsecond : dims[1]? ≠ some 1)
    (haxis : dims[axis]? = some channels) (hchannels : 1 < channels) :
    KeepsChannels dims axis (Rank6.loweredDims .mergeLeading dims) axis ↔
      1 ≤ axis ∧ 0 ∈ dims ∧ dims[axis + 1]? = dims[axis]? := by
  obtain ⟨d₀,d₁,ds,rfl⟩ : ∃ d₀ d₁ ds, dims = d₀ :: d₁ :: ds := by
    rcases dims with _ | ⟨d₀,_ | ⟨d₁,ds⟩⟩
    · cases hrank
    · cases hrank
    · exact ⟨d₀,d₁,ds,rfl⟩
  change KeepsChannels _ axis (d₀ * d₁ :: ds) axis ↔ _
  cases axis with
  | zero =>
    refine ⟨fun h => ?_,fun h => absurd h.1 (by decide)⟩
    have hsize : d₀ * d₁ = d₀ := Option.some.inj h.size
    obtain rfl : d₀ = channels := Option.some.inj haxis
    have hone : d₁ = 1 := Nat.eq_of_mul_eq_mul_left (by omega) (hsize.trans (Nat.mul_one _).symm)
    exact absurd (congrArg some hone) hsecond
  | succ axis =>
    constructor
    · intro h
      refine ⟨Nat.succ_pos _,?_,h.size⟩
      by_contra hzero
      obtain ⟨idx,hidx,hone,hnext⟩ := exists_distinct_digits hzero haxis hchannels
      obtain ⟨i₀,i₁,is,rfl⟩ : ∃ i₀ i₁ is, idx = i₀ :: i₁ :: is := by
        obtain _ | ⟨_,_ | _⟩ := hidx
        exact ⟨_,_,_,rfl⟩
      obtain ⟨hbounds,hravel⟩ := merged_leading_index hidx
      have hindex := h.index _ _ hidx hbounds hravel
      rw [hone] at hindex
      have hshift : ((i₀ * d₁ + i₁) :: is).getD (axis + 1) 0 = (i₀ :: i₁ :: is).getD (axis + 1 + 1) 0 := rfl
      rw [hshift,hnext] at hindex
      cases hindex
    · rintro ⟨_,hzero,hsize⟩
      exact ⟨hsize,fun idx _ hidx => absurd hidx (not_inBounds_of_zero hzero)⟩

end

section
variable {chain : ReshapeChain} {low : LoweredChain} {t1 t3 perm dims : List Nat} {reduction : Reduction}
  {encoding : QuantParams}

theorem channelsKept_iff (hreduces : Rank6.Reduces t1 perm reduction) (hrank : dims.length = 6)
    (hunits : ∀ i : Nat, perm[i]? = some i → dims[i]? = t1[i]?) (hwf : OnePerChannel encoding dims) :
    ChannelsKept encoding dims ⟨encoding,Rank6.loweredDims reduction dims⟩ ↔
      AxisBeforeUnits encoding dims (FixedUnit t1 perm) := by
  have hkeeps : ChannelsKept encoding dims ⟨encoding,Rank6.loweredDims reduction dims⟩ ↔
      ∀ axis scaleOffsets, encoding = .axisScaleOffset axis scaleOffsets →
        KeepsChannels dims axis (Rank6.loweredDims reduction dims) axis := by
    refine forall₃_congr fun axis scaleOffsets hencoding => ?_
    constructor
    · rintro ⟨axis',hlow,hkept⟩
      cases hencoding.symm.trans hlow
      exact hkept
    · exact fun hkept => ⟨axis,hencoding,hkept⟩
  rw [hkeeps]
  refine forall₃_congr fun axis scaleOffsets hencoding => ?_
  obtain ⟨hchannels,haxis⟩ := hwf axis scaleOffsets hencoding
  rcases hreduces with ⟨hunit,hfirst⟩ | ⟨hnone,hfirst,hsecond⟩
  · rename_i index
    have hdims : dims[index]? = some 1 := (hunits index hunit.fixed).trans hunit.unit
    have hsmaller (hlt : axis < index) : (∃ i, FixedUnit t1 perm i) ∧ ∀ i, FixedUnit t1 perm i → axis < i := by
      refine ⟨⟨index,hunit⟩,fun i hi => Nat.lt_of_lt_of_le hlt ?_⟩
      exact Nat.le_of_not_lt fun hbefore => hfirst i hbefore hi
    refine (squeezed_keeps_iff hdims haxis hchannels).trans ?_
    constructor
    · rintro (hlt | ⟨hzero,hsize⟩)
      · exact .inl (hsmaller hlt)
      · rcases Nat.eq_zero_or_pos axis with rfl | hpos
        · refine .inl (hsmaller (Nat.pos_of_ne_zero ?_))
          rintro rfl
          have := Option.some.inj (hdims.symm.trans haxis)
          omega
        · exact .inr ⟨hzero,hpos,hsize⟩
    · rintro (⟨_,hbefore⟩ | ⟨hzero,_,hsize⟩)
      · exact .inl (hbefore index hunit)
      · exact .inr ⟨hzero,hsize⟩
  · have hone : dims[1]? ≠ some 1 := fun heq =>
      hnone 1 ⟨(hunits 1 hsecond).symm.trans heq,hsecond⟩
    refine (merged_keeps_iff hrank hone haxis hchannels).trans ?_
    constructor
    · rintro ⟨hpos,hzero,hsize⟩
      exact .inr ⟨hzero,hpos,hsize⟩
    · rintro (⟨⟨i,hi⟩,_⟩ | ⟨hzero,hpos,hsize⟩)
      · exact absurd hi (hnone i)
      · exact ⟨hpos,hzero,hsize⟩

theorem lowered_channels_kept_iff (hchain : Consistent chain t1 t3 perm)
    (h : Rank6.tryFusion chain = some low) (hwf₁ : OnePerChannel chain.t1.encoding t1)
    (hwf₂ : OnePerChannel chain.t2.encoding (gather perm t1)) :
    ChannelsKept chain.t1.encoding t1 low.t1 ∧ ChannelsKept chain.t2.encoding (gather perm t1) low.t2 ↔
      AxisBeforeUnits chain.t1.encoding t1 (FixedUnit t1 perm) ∧
        AxisBeforeUnits chain.t2.encoding (gather perm t1) (FixedUnit t1 perm) := by
  obtain ⟨reduction,hreduction,hcreated⟩ := Rank6.tryFusion_some h
  obtain ⟨hrank,_,hlow1,hlow2,_⟩ := hcreated.dims hchain
  have hreduces := Rank6.validatePatternConditions_some hchain hreduction
  have hencoding1 : low.t1.encoding = chain.t1.encoding := by
    obtain ⟨_,_,_,heq⟩ := hcreated.shape1
    rw [heq]
  have hencoding2 : low.t2.encoding = chain.t2.encoding := by
    obtain ⟨_,_,_,heq⟩ := hcreated.shape2
    rw [heq]
  have hlen : (gather perm t1).length = 6 := by
    rw [length_gather,hchain.valid.length_eq,List.length_range,hrank]
  have hunits : ∀ i : Nat, perm[i]? = some i → (gather perm t1)[i]? = t1[i]? := by
    intro i hi
    have hlt : i < t1.length := List.mem_range.mp (hchain.valid.mem_iff.mp (List.mem_of_getElem? hi))
    rw [gather,List.getElem?_map,hi,Option.map_some,List.getD_eq_getElem _ _ hlt,
      List.getElem?_eq_getElem hlt]
  have h₁ := channelsKept_iff hreduces hrank (fun _ _ => rfl) hwf₁
  have h₂ := channelsKept_iff hreduces hlen hunits hwf₂
  rw [← hlow1,← hencoding1] at h₁
  rw [← hlow2,← hencoding2] at h₂
  rw [← hencoding1,← hencoding2]
  exact and_congr h₁ h₂

end

def channelChain (t1 perm : List Nat) (axis : Nat) (scaleOffsets : List (UInt32 × Int)) : ReshapeChain :=
  let chain := plainChain [t1.prod] t1 [t1.prod] perm
  { chain with t1 := { chain.t1 with encoding := .axisScaleOffset axis scaleOffsets } }

section
variable (t1 perm : List Nat) (axis : Nat) (scaleOffsets : List (UInt32 × Int))

theorem channelChain_consistent (hperm : perm.Perm (List.range t1.length)) :
    Consistent (channelChain t1 perm axis scaleOffsets) t1 [t1.prod] perm where
  shape1 _ hdims := (Option.some.inj hdims).symm
  shape2 _ hdims := (Option.some.inj hdims).symm
  shape3 _ hdims := (Option.some.inj hdims).symm
  permAttribute _ hp := (Option.some.inj hp).symm
  valid := hperm
  elements := Nat.mul_one _

theorem channelChain_onePerChannel (hlen : 1 < scaleOffsets.length)
    (haxis : t1[axis]? = some scaleOffsets.length) :
    OnePerChannel (channelChain t1 perm axis scaleOffsets).t1.encoding t1 ∧
      OnePerChannel (channelChain t1 perm axis scaleOffsets).t2.encoding (gather perm t1) := by
  refine ⟨?_,fun _ _ h => by cases h⟩
  rintro _ _ ⟨rfl,rfl⟩
  exact ⟨hlen,haxis⟩

end

theorem lowered_channels_kept_before_unit :
    ∃ low, Rank6.tryFusion (channelChain [2,2,3,1,2,2] [0,2,1,3,5,4] 0 [(1,0),(2,0)]) = some low ∧
      ChannelsKept (.axisScaleOffset 0 [(1,0),(2,0)]) [2,2,3,1,2,2] low.t1 := by
  refine ⟨_,rfl,?_⟩
  have hwf := channelChain_onePerChannel [2,2,3,1,2,2] [0,2,1,3,5,4] 0 [(1,0),(2,0)] (by decide) rfl
  have hchain := channelChain_consistent [2,2,3,1,2,2] [0,2,1,3,5,4] 0 [(1,0),(2,0)] (by decide)
  refine ((lowered_channels_kept_iff hchain rfl hwf.1 hwf.2).mpr ⟨?_,fun _ _ h => by cases h⟩).1
  rintro _ _ ⟨rfl,rfl⟩
  refine .inl ⟨⟨3,rfl,rfl⟩,fun i hi => Nat.pos_of_ne_zero ?_⟩
  rintro rfl
  cases hi.unit

theorem axis_after_unit_loses_channels :
    ∃ low, Rank6.tryFusion (channelChain [2,1,2,2,2,2] [0,1,3,2,5,4] 2 [(1,0),(2,0)]) = some low ∧
      ¬ChannelsKept (.axisScaleOffset 2 [(1,0),(2,0)]) [2,1,2,2,2,2] low.t1 := by
  refine ⟨_,rfl,fun h => ?_⟩
  obtain ⟨axis,hlow,hkept⟩ := h 2 _ rfl
  cases hlow
  have hindex := hkept.index [0,0,1,0,0,0] [0,1,0,0,0] (by decide) (by decide) (by decide)
  cases hindex

end QnnEp.RankReduction
