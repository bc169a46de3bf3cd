import QnnEp.Foundation.Rounding
import QnnEp.Quant.Axis

namespace QnnEp.Lpbq
open List Quant Scatter
open Rounding (halfAway)

structure ScaleArithmetic (α : Type) where
  zero : α
  ofNat : Nat → α
  isFinite : α → Bool
  lt : α → α → Bool
  le : α → α → Bool
  div : α → α → α
  round : α → α
  toUint32 : α → Nat

structure BlockScales (α : Type) where
  perChannelScales : List α
  perBlockIntScales : List (BitVec 8)
  offsets : List Int

section
variable {α : Type} (ops : ScaleArithmetic α)

def maxIntScale : Nat := 2 ^ 4

def maxScale (column : List α) : α :=
  column.foldl (fun max s => if ops.lt max s then s else max) ops.zero

def channelScale (column : List α) : α := ops.div (maxScale ops column) (ops.ofNat maxIntScale)

def intScale (pcScale rawScale : α) : BitVec 8 :=
  if ops.le pcScale ops.zero then 1
  else BitVec.ofNat 8 (max 1 (min (ops.toUint32 (ops.round (ops.div rawScale pcScale))) maxIntScale))

def column (bqScales : List α) (numBlocks numChannels c : Nat) : List α :=
  (List.range numBlocks).map fun b => bqScales.getD (b * numChannels + c) ops.zero

def intScales (column : List α) : List (BitVec 8) := column.map (intScale ops (channelScale ops column))

def convertBlockQuantScalesToLpbq (bqScales : List α) (bqOffsets : List Int)
    (numBlocks numChannels bitwidth : Nat) : Except String (BlockScales α) :=
  if bqScales.length ≠ numBlocks * numChannels then
    .error "BQ scales size does not match num_blocks_per_channel * num_channels"
  else if ¬(bqOffsets = [] ∨ bqOffsets.length = bqScales.length) then
    .error "BQ offsets size must be empty or equal to bq_scales size"
  else if bitwidth ≠ 4 then .error "BQ to LPBQ conversion is only supported for 4-bit"
  else if bqOffsets.any (· ≠ 0) then
    .error "LPBQ conversion requires symmetric quantization (all block zero-points must be 0)"
  else if ¬bqScales.all (fun s => ops.isFinite s && ops.le ops.zero s) then
    .error "BQ scales must be non-negative and finite"
  else
    let columns := (List.range numChannels).map (column ops bqScales numBlocks numChannels)
    .ok ⟨columns.map (channelScale ops),columns.flatMap (intScales ops),List.replicate numChannels 0⟩

def conversion (ops : ScaleArithmetic FloatBits) : LpbqConversion := fun scales offsets numBlocks numChannels =>
  match convertBlockQuantScalesToLpbq ops scales offsets numBlocks numChannels 4 with
  | .ok r => some ⟨r.perChannelScales,r.perBlockIntScales,r.offsets⟩
  | .error _ => none

end

section
variable {α : Type} {ops : ScaleArithmetic α} {bqScales : List α} {bqOffsets : List Int}
  {numBlocks numChannels bitwidth : Nat} {r : BlockScales α}

theorem convert_ok (h : convertBlockQuantScalesToLpbq ops bqScales bqOffsets numBlocks numChannels bitwidth = .ok r) :
    bqScales.length = numBlocks * numChannels ∧
      r = ⟨((List.range numChannels).map (column ops bqScales numBlocks numChannels)).map (channelScale ops),
        ((List.range numChannels).map (column ops bqScales numBlocks numChannels)).flatMap (intScales ops),
        List.replicate numChannels 0⟩ := by
  unfold convertBlockQuantScalesToLpbq at h
  split_ifs at h with hsize
  exact ⟨not_not.mp hsize,(Except.ok.inj h).symm⟩

theorem length_column (c : Nat) : (column ops bqScales numBlocks numChannels c).length = numBlocks := by
  simp [column]

theorem column_getD {b : Nat} (hb : b < numBlocks) (c : Nat) (d : α) :
    (column ops bqScales numBlocks numChannels c).getD b d = bqScales.getD (b * numChannels + c) ops.zero := by
  have hlen : b < (column ops bqScales numBlocks numChannels c).length := by rwa [length_column]
  rw [getD_eq_getElem _ _ hlen]
  simp [column]

theorem length_intScales (xs : List α) : (intScales ops xs).length = xs.length := length_map _

theorem intScales_getElem? {b : Nat} {xs : List α} {d : α} (hb : b < xs.length) :
    (intScales ops xs)[b]? = some (intScale ops (channelScale ops xs) (xs.getD b d)) := by
  rw [intScales,List.getElem?_map,List.getElem?_eq_getElem hb,getD_eq_getElem _ _ hb]
  rfl

theorem channelScale_getElem? (h : convertBlockQuantScalesToLpbq ops bqScales bqOffsets numBlocks numChannels
      bitwidth = .ok r) {c : Nat} (hc : c < numChannels) :
    r.perChannelScales[c]? = some (channelScale ops (column ops bqScales numBlocks numChannels c)) := by
  obtain ⟨_,rfl⟩ := convert_ok h
  simp [hc]

theorem intScale_getElem? (h : convertBlockQuantScalesToLpbq ops bqScales bqOffsets numBlocks numChannels
      bitwidth = .ok r) {c b : Nat} (hc : c < numChannels) (hb : b < numBlocks) :
    r.perBlockIntScales[c * numBlocks + b]? =
      some (intScale ops (channelScale ops (column ops bqScales numBlocks numChannels c))
        (bqScales.getD (b * numChannels + c) ops.zero)) := by
  obtain ⟨_,rfl⟩ := convert_ok h
  have hsize : ∀ c, (intScales ops (column ops bqScales numBlocks numChannels c)).length = numBlocks := by
    intro c
    rw [length_intScales,length_column]
  have hlt : c * numBlocks + b < ((List.range numChannels).flatMap fun c =>
      intScales ops (column ops bqScales numBlocks numChannels c)).length := by
    rw [length_flatMap hsize,length_range]
    exact index_lt hc hb
  have hget := getD_flatMap hsize (List.range numChannels) 0 0 (by simpa using hc) hb
  rw [getD_eq_getElem _ _ hlt] at hget
  rw [flatMap_map,List.getElem?_eq_getElem hlt,hget]
  have hc' : (List.range numChannels).getD c 0 = c := by simp [hc]
  have hentry : (intScales ops (column ops bqScales numBlocks numChannels c))[b]? = _ :=
    intScales_getElem? (d := ops.zero) (by rwa [length_column])
  rw [column_getD hb] at hentry
  rw [hc',getD_eq_getElem?_getD,hentry]
  rfl

end

section

def exact : ScaleArithmetic ℚ where
  zero := 0
  ofNat n := n
  isFinite _ := true
  lt a b := decide (a < b)
  le a b := decide (a ≤ b)
  div a b := a / b
  round x := halfAway x
  toUint32 x := uint32 ⌊x⌋.toNat

variable {xs scales : List ℚ} {offsets : List Int} {m raw : ℚ} {numBlocks numChannels : Nat}

theorem foldl_le_iff {bound : ℚ} : xs.foldl (fun max s => if exact.lt max s then s else max) m ≤ bound ↔
    m ≤ bound ∧ ∀ s ∈ xs, s ≤ bound := by
  induction xs generalizing m with
  | nil => simp
  | cons s xs ih =>
    rw [foldl_cons,ih,forall_mem_cons,← and_assoc]
    refine and_congr_left fun _ => ?_
    change (if decide (m < s) = true then s else m) ≤ bound ↔ _
    split
    · next hlt =>
      have hlt := of_decide_eq_true hlt
      exact ⟨fun h => ⟨hlt.le.trans h,h⟩,And.right⟩
    · next hlt =>
      have hle := not_lt.mp fun h => hlt (decide_eq_true h)
      exact ⟨fun h => ⟨h,hle.trans h⟩,And.left⟩

theorem maxScale_le_iff {bound : ℚ} : maxScale exact xs ≤ bound ↔ 0 ≤ bound ∧ ∀ s ∈ xs, s ≤ bound :=
  foldl_le_iff

theorem intScale_zero : intScale exact (0 / 16) raw = 1 := by
  rw [zero_div]
  rfl

theorem toUint32_round {x : ℚ} (hx : 0 ≤ x) (hx' : x ≤ 16) :
    exact.toUint32 (exact.round x) = (halfAway x).toNat ∧ 0 ≤ halfAway x ∧ halfAway x ≤ 16 := by
  have hlow : 0 ≤ halfAway x := by
    rw [Rounding.halfAway_of_nonneg hx]
    exact Int.floor_nonneg.mpr (by linarith)
  have hhigh : halfAway x ≤ 16 := by
    rw [Rounding.halfAway_of_nonneg hx]
    exact Int.floor_le_iff.mpr (by norm_num; linarith)
  refine ⟨?_,hlow,hhigh⟩
  change uint32 ⌊((halfAway x : ℤ) : ℚ)⌋.toNat = _
  rw [Int.floor_intCast]
  unfold uint32
  omega

theorem intScale_of_pos (hm : 0 < m) (hraw : 0 ≤ raw) (hle : raw ≤ m) :
    ((intScale exact (m / 16) raw).toNat : ℤ) = max 1 (halfAway (raw / (m / 16))) := by
  have hpc : 0 < m / 16 := by linarith
  have hx : 0 ≤ raw / (m / 16) := div_nonneg hraw hpc.le
  have hx' : raw / (m / 16) ≤ 16 := by
    rw [div_le_iff₀ hpc]
    linarith
  obtain ⟨hword,hlow,hhigh⟩ := toUint32_round hx hx'
  have hbranch : exact.le (m / 16) exact.zero = false := decide_eq_false (not_le.mpr hpc)
  rw [intScale,hbranch,if_neg Bool.false_ne_true]
  change ((BitVec.ofNat 8 (max 1 (min (exact.toUint32 (exact.round (raw / (m / 16)))) 16))).toNat : ℤ) = _
  rw [hword,BitVec.toNat_ofNat]
  omega

theorem half_le_of_one_le_halfAway {x : ℚ} (hx : 0 ≤ x) : 1 ≤ halfAway x ↔ 1 / 2 ≤ x := by
  rw [Rounding.halfAway_of_nonneg hx,Int.le_floor,Int.cast_one]
  constructor <;> intro h <;> linarith

theorem clamped_error_iff {x pc : ℚ} (hx : 0 ≤ x) (hpc : 0 < pc) :
    |((max 1 (halfAway x) : ℤ) : ℚ) * pc - x * pc| ≤ pc / 2 ↔ 1 / 2 ≤ x := by
  have hscaled : ∀ n : ℚ, |n * pc - x * pc| ≤ pc / 2 ↔ |n - x| ≤ 1 / 2 := by
    intro n
    rw [← sub_mul,abs_mul,abs_of_pos hpc,← le_div_iff₀ hpc]
    field_simp
  rw [hscaled,← half_le_of_one_le_halfAway hx]
  by_cases hone : 1 ≤ halfAway x
  · rw [max_eq_right hone]
    exact ⟨fun _ => hone,fun _ => Rounding.halfAway_error x⟩
  · have hsmall : x < 1 / 2 := not_le.mp fun h => hone ((half_le_of_one_le_halfAway hx).mpr h)
    rw [max_eq_left (not_le.mp hone).le,Int.cast_one]
    refine ⟨fun h => ?_,fun h => absurd h hone⟩
    have := (abs_le.mp h).2
    linarith

theorem intScale_error_iff (hraw : 0 ≤ raw) (hle : raw ≤ m) :
    |((intScale exact (m / 16) raw).toNat : ℚ) * (m / 16) - raw| ≤ m / 16 / 2 ↔ m ≤ 32 * raw := by
  rcases (hraw.trans hle).eq_or_lt with rfl | hm
  · obtain rfl := le_antisymm hle hraw
    rw [intScale_zero]
    norm_num
  · have hpc : 0 < m / 16 := by linarith
    have hn : ((intScale exact (m / 16) raw).toNat : ℚ) = ((max 1 (halfAway (raw / (m / 16))) : ℤ) : ℚ) := by
      rw [← intScale_of_pos hm hraw hle,Int.cast_natCast]
    have hquotient : raw / (m / 16) * (m / 16) = raw := div_mul_cancel₀ _ hpc.ne'
    have hiff := clamped_error_iff (div_nonneg hraw hpc.le) hpc
    rw [hquotient] at hiff
    rw [hn,hiff,le_div_iff₀ hpc]
    constructor <;> intro h <;> linarith

theorem intScale_range (hraw : 0 ≤ raw) (hle : raw ≤ m) :
    1 ≤ (intScale exact (m / 16) raw).toNat ∧ (intScale exact (m / 16) raw).toNat ≤ 16 := by
  rcases (hraw.trans hle).eq_or_lt with rfl | hm
  · rw [intScale_zero]
    decide
  · have hpc : 0 < m / 16 := by linarith
    have hn := intScale_of_pos hm hraw hle
    have hx' : raw / (m / 16) ≤ 16 := by
      rw [div_le_iff₀ hpc]
      linarith
    have hword := (toUint32_round (div_nonneg hraw hpc.le) hx').2
    omega

theorem convert_exact (hsize : scales.length = numBlocks * numChannels) (hnonneg : ∀ s ∈ scales, 0 ≤ s)
    (hoffsets : offsets = [] ∨ offsets.length = scales.length) (hzero : ∀ o ∈ offsets, o = 0) :
    ∃ r, convertBlockQuantScalesToLpbq exact scales offsets numBlocks numChannels 4 = .ok r := by
  have hall : scales.all (fun s => exact.isFinite s && exact.le exact.zero s) = true := by
    rw [all_eq_true]
    exact fun s hs => decide_eq_true (hnonneg s hs)
  have hany : ¬offsets.any (· ≠ 0) = true := by
    rw [any_eq_true]
    rintro ⟨o,ho,hne⟩
    exact of_decide_eq_true hne (hzero o ho)
  unfold convertBlockQuantScalesToLpbq
  rw [if_neg (not_not.mpr hsize),if_neg (not_not.mpr hoffsets),if_neg (not_not.mpr rfl),if_neg hany,
    if_neg (not_not.mpr hall)]
  exact ⟨_,rfl⟩

theorem int_scale_error_iff (hsize : scales.length = numBlocks * numChannels)
    (hnonneg : ∀ s ∈ scales, 0 ≤ s) (hoffsets : offsets = [] ∨ offsets.length = scales.length)
    (hzero : ∀ o ∈ offsets, o = 0) :
    (∃ r, convertBlockQuantScalesToLpbq exact scales offsets numBlocks numChannels 4 = .ok r ∧
        ∀ c < numChannels, ∀ b < numBlocks, ∃ intScale channelScale,
          r.perBlockIntScales[c * numBlocks + b]? = some intScale ∧
          r.perChannelScales[c]? = some channelScale ∧ 1 ≤ intScale.toNat ∧ intScale.toNat ≤ 16 ∧
          |intScale.toNat * channelScale - scales.getD (b * numChannels + c) 0| ≤ channelScale / 2) ↔
      ∀ c < numChannels, ∀ b < numBlocks, ∀ b' < numBlocks,
        scales.getD (b' * numChannels + c) 0 ≤ 32 * scales.getD (b * numChannels + c) 0 := by
  obtain ⟨r,hr⟩ := convert_exact hsize hnonneg hoffsets hzero
  have hentry : ∀ c < numChannels, ∀ b < numBlocks,
      0 ≤ scales.getD (b * numChannels + c) 0 ∧
        scales.getD (b * numChannels + c) 0 ≤ maxScale exact (column exact scales numBlocks numChannels c) := by
    intro c hc b hb
    have hlt : b * numChannels + c < scales.length := hsize ▸ index_lt hb hc
    refine ⟨?_,(maxScale_le_iff.mp le_rfl).2 _ (mem_map.mpr ⟨b,mem_range.mpr hb,rfl⟩)⟩
    rw [getD_eq_getElem _ _ hlt]
    exact hnonneg _ (getElem_mem hlt)
  have hmax : ∀ c < numChannels, ∀ b < numBlocks,
      maxScale exact (column exact scales numBlocks numChannels c) ≤ 32 * scales.getD (b * numChannels + c) 0 ↔
        ∀ b' < numBlocks, scales.getD (b' * numChannels + c) 0 ≤ 32 * scales.getD (b * numChannels + c) 0 := by
    intro c hc b hb
    have hnonneg := (hentry c hc b hb).1
    rw [maxScale_le_iff,and_iff_right (by linarith)]
    simp only [column,forall_mem_map,mem_range]
    rfl
  constructor
  · rintro ⟨r',hr',h⟩ c hc b hb
    obtain rfl := Except.ok.inj (hr.symm.trans hr')
    obtain ⟨n,s,hn,hs,-,-,herror⟩ := h c hc b hb
    obtain rfl := Option.some.inj (hn.symm.trans (intScale_getElem? hr hc hb))
    obtain rfl := Option.some.inj (hs.symm.trans (channelScale_getElem? hr hc))
    obtain ⟨hraw,hle⟩ := hentry c hc b hb
    exact (hmax c hc b hb).mp ((intScale_error_iff hraw hle).mp herror)
  · intro h
    refine ⟨r,hr,fun c hc b hb => ?_⟩
    obtain ⟨hraw,hle⟩ := hentry c hc b hb
    obtain ⟨hlow,hhigh⟩ := intScale_range hraw hle
    exact ⟨_,_,intScale_getElem? hr hc hb,channelScale_getElem? hr hc,hlow,hhigh,
      (intScale_error_iff hraw hle).mpr ((hmax c hc b hb).mpr (h c hc b hb))⟩

theorem int_scale_error_close :
    ∃ r, convertBlockQuantScalesToLpbq exact [1,2,2,1] [] 2 2 4 = .ok r ∧
      ∀ c < 2, ∀ b < 2, ∃ intScale channelScale, r.perBlockIntScales[c * 2 + b]? = some intScale ∧
        r.perChannelScales[c]? = some channelScale ∧ 1 ≤ intScale.toNat ∧ intScale.toNat ≤ 16 ∧
        |(intScale.toNat : ℚ) * channelScale - ([1,2,2,1] : List ℚ).getD (b * 2 + c) 0| ≤ channelScale / 2 := by
  refine (int_scale_error_iff rfl (by simp) (.inl rfl) (by simp)).mpr ?_
  decide +kernel

theorem zero_block_scale_error :
    ∃ r, convertBlockQuantScalesToLpbq exact [16,0] [] 2 1 4 = .ok r ∧ r.perChannelScales[0]? = some 1 ∧
      r.perBlockIntScales[1]? = some 1 ∧
      ¬|((1 : BitVec 8).toNat : ℚ) * 1 - ([16,0] : List ℚ).getD 1 0| ≤ 1 / 2 := by
  obtain ⟨r,hr⟩ : ∃ r, convertBlockQuantScalesToLpbq exact [16,0] [] 2 1 4 = .ok r :=
    convert_exact rfl (by simp) (.inl rfl) (by simp)
  have hscale : channelScale exact (column exact [16,0] 2 1 0) = 1 := by
    norm_num [channelScale,maxScale,column,exact,maxIntScale,range_succ]
  have hint : intScale exact 1 0 = 1 := by
    norm_num [intScale,exact,maxIntScale,halfAway,uint32]
    rfl
  refine ⟨r,hr,?_,?_,?_⟩
  · rw [channelScale_getElem? hr (by decide),hscale]
  · rw [show 1 = 0 * 2 + 1 from rfl,intScale_getElem? hr (by decide) (by decide),hscale]
    exact congrArg some hint
  · rw [show (1 : BitVec 8).toNat = 1 from rfl]
    norm_num

end

end QnnEp.Lpbq
