import Mathlib.Data.Rat.Floor

namespace QnnEp.Rounding

section
variable {α β : Type} [LinearOrder α] [LinearOrder β]

structure Saturating (f : α → β) (low high : β) : Prop where
  monotone : Monotone f
  low_le : ∀ x, low ≤ f x
  le_high : ∀ x, f x ≤ high
  reaches_low : ∃ x, f x = low
  reaches_high : ∃ x, f x = high
  separated : low < high

def clampBelow : Option α → α → α
  | none, x => x
  | some b, x => max x b

def clampAbove : Option α → α → α
  | none, x => x
  | some b, x => min x b

def clampBetween (lower upper : Option α) (x : α) : α := clampAbove upper (clampBelow lower x)

namespace Saturating
variable {f : α → β} {low high : β} (h : Saturating f low high)
include h

theorem eq_low_of_le {x y : α} (hxy : x ≤ y) (hy : f y = low) : f x = low :=
  le_antisymm (hy ▸ h.monotone hxy) (h.low_le x)

theorem eq_high_of_le {x y : α} (hxy : x ≤ y) (hx : f x = high) : f y = high :=
  le_antisymm (h.le_high y) (hx ▸ h.monotone hxy)

theorem clampBelow_eq {lower : Option α} (hlower : ∀ b, lower = some b → f b = low) (x : α) :
    f (clampBelow lower x) = f x := by
  cases lower with
  | none => rfl
  | some b =>
    have hb := hlower b rfl
    change f (max x b) = f x
    rcases le_total x b with hx | hx
    · rw [max_eq_right hx,hb,h.eq_low_of_le hx hb]
    · rw [max_eq_left hx]

theorem clampAbove_eq {upper : Option α} (hupper : ∀ b, upper = some b → f b = high) (x : α) :
    f (clampAbove upper x) = f x := by
  cases upper with
  | none => rfl
  | some b =>
    have hb := hupper b rfl
    change f (min x b) = f x
    rcases le_total x b with hx | hx
    · rw [min_eq_left hx]
    · rw [min_eq_right hx,hb,h.eq_high_of_le hx hb]

theorem upper_eq_high {lower upper : Option α} (hall : ∀ x, f (clampBetween lower upper x) = f x)
    (b : α) (hb : upper = some b) : f b = high := by
  subst hb
  obtain ⟨x,hx⟩ := h.reaches_high
  have hreach {y : α} (hxy : x ≤ y) (hby : b ≤ y) (hly : clampBelow lower y = y) : f b = high := by
    have hy := hall y
    rw [clampBetween,hly] at hy
    change f (min y b) = f y at hy
    rwa [min_eq_right hby,h.eq_high_of_le hxy hx] at hy
  cases lower with
  | none => exact hreach (le_max_left x b) (le_max_right x b) rfl
  | some a =>
    exact hreach (le_max_left x (max a b)) ((le_max_right a b).trans (le_max_right x _))
      (max_eq_left ((le_max_left a b).trans (le_max_right x _)))

theorem lower_eq_low {lower upper : Option α} (hall : ∀ x, f (clampBetween lower upper x) = f x)
    (b : α) (hb : lower = some b) : f b = low := by
  have hhigh := h.upper_eq_high hall
  subst hb
  obtain ⟨x,hx⟩ := h.reaches_low
  have hy := hall (min x b)
  rw [clampBetween,h.clampAbove_eq hhigh,h.eq_low_of_le (min_le_left x b) hx] at hy
  change f (max (min x b) b) = low at hy
  rwa [max_eq_right (min_le_right x b)] at hy

theorem clampBetween_invisible_iff (lower upper : Option α) :
    (∀ x, f (clampBetween lower upper x) = f x) ↔
      (∀ b, lower = some b → f b = low) ∧ ∀ b, upper = some b → f b = high := by
  constructor
  · intro hall
    exact ⟨h.lower_eq_low hall,h.upper_eq_high hall⟩
  · rintro ⟨hlower,hupper⟩ x
    rw [clampBetween,h.clampAbove_eq hupper,h.clampBelow_eq hlower]

end Saturating

end

def halfEven (x : ℚ) : ℤ :=
  let k := ⌊x⌋
  if x - k < 1 / 2 then k
  else if 1 / 2 < x - k then k + 1
  else k + k % 2

@[simp] theorem halfEven_intCast (n : ℤ) : halfEven n = n := by
  simp [halfEven]

theorem halfEven_bounds (x : ℚ) : ⌊x⌋ ≤ halfEven x ∧ halfEven x ≤ ⌊x⌋ + 1 := by
  unfold halfEven
  dsimp only
  split
  · omega
  · split <;> omega

theorem halfEven_error (x : ℚ) : |(halfEven x : ℚ) - x| ≤ 1 / 2 := by
  have hlow := Int.floor_le x
  have hhigh := Int.lt_floor_add_one x
  have hmod : ((⌊x⌋ % 2 : ℤ) : ℚ) = 0 ∨ ((⌊x⌋ % 2 : ℤ) : ℚ) = 1 := by
    rcases Int.emod_two_eq_zero_or_one ⌊x⌋ with h | h
    · exact .inl (by rw [h,Int.cast_zero])
    · exact .inr (by rw [h,Int.cast_one])
  rw [abs_le]
  unfold halfEven
  dsimp only
  split
  · constructor <;> linarith
  · split
    · push_cast
      constructor <;> linarith
    · rw [Int.cast_add]
      rcases hmod with h | h <;> constructor <;> linarith

theorem halfEven_mono {x y : ℚ} (hxy : x ≤ y) : halfEven x ≤ halfEven y := by
  have hx := halfEven_bounds x
  have hy := halfEven_bounds y
  rcases (Int.floor_mono hxy).lt_or_eq with hlt | heq
  · omega
  · have hsub : x - ⌊y⌋ ≤ y - ⌊y⌋ := by linarith
    unfold halfEven
    dsimp only
    rw [heq]
    split_ifs <;> first | omega | linarith

theorem le_halfEven_of_lt {n : ℤ} {x : ℚ} (h : (n : ℚ) - 1 / 2 < x) : n ≤ halfEven x := by
  have herror := abs_le.mp (halfEven_error x)
  have hlt : ((n - 1 : ℤ) : ℚ) < halfEven x := by
    push_cast
    linarith [herror.1]
  have := Int.cast_lt.mp hlt
  omega

theorem halfEven_le_of_lt {n : ℤ} {x : ℚ} (h : x < (n : ℚ) + 1 / 2) : halfEven x ≤ n := by
  have herror := abs_le.mp (halfEven_error x)
  have hlt : (halfEven x : ℚ) < ((n + 1 : ℤ) : ℚ) := by
    push_cast
    linarith [herror.2]
  have := Int.cast_lt.mp hlt
  omega

def halfAway (x : ℚ) : ℤ := if 0 ≤ x then ⌊x + 1 / 2⌋ else ⌈x - 1 / 2⌉

theorem halfAway_error (x : ℚ) : |(halfAway x : ℚ) - x| ≤ 1 / 2 := by
  rw [abs_le]
  unfold halfAway
  split
  · have hlow := Int.floor_le (x + 1 / 2)
    have hhigh := Int.lt_floor_add_one (x + 1 / 2)
    constructor <;> linarith
  · have hlow := Int.le_ceil (x - 1 / 2)
    have hhigh := Int.ceil_lt_add_one (x - 1 / 2)
    constructor <;> linarith

theorem halfAway_of_nonneg {x : ℚ} (h : 0 ≤ x) : halfAway x = ⌊x + 1 / 2⌋ := if_pos h

def quantize (scale : ℚ) (zeroPoint : ℤ) (range : ℤ × ℤ) (x : ℚ) : ℤ :=
  max range.1 (min range.2 (halfEven (x / scale) + zeroPoint))

theorem quantize_of_code {scale : ℚ} (hs : scale ≠ 0) {zeroPoint : ℤ} {range : ℤ × ℤ} {n : ℤ}
    (hlow : range.1 ≤ n) (hhigh : n ≤ range.2) :
    quantize scale zeroPoint range (scale * (n - zeroPoint : ℤ)) = n := by
  rw [quantize,mul_div_cancel_left₀ _ hs,halfEven_intCast]
  omega

theorem quantize_saturating {scale : ℚ} (hs : 0 < scale) (zeroPoint : ℤ) {range : ℤ × ℤ}
    (hr : range.1 < range.2) : Saturating (quantize scale zeroPoint range) range.1 range.2 where
  monotone := by
    intro x y hxy
    have hdiv : x / scale ≤ y / scale := div_le_div_of_nonneg_right hxy hs.le
    have hround := halfEven_mono hdiv
    unfold quantize
    omega
  low_le x := le_max_left _ _
  le_high x := max_le hr.le (min_le_left _ _)
  reaches_low := ⟨_,quantize_of_code hs.ne' le_rfl hr.le⟩
  reaches_high := ⟨_,quantize_of_code hs.ne' hr.le le_rfl⟩
  separated := hr

theorem quantize_eq_high {scale : ℚ} {zeroPoint : ℤ} {range : ℤ × ℤ}
    (hr : range.1 ≤ range.2) {x : ℚ} (h : ((range.2 - zeroPoint : ℤ) : ℚ) - 1 / 2 < x / scale) :
    quantize scale zeroPoint range x = range.2 := by
  have hround := le_halfEven_of_lt h
  unfold quantize
  omega

theorem quantize_eq_low {scale : ℚ} {zeroPoint : ℤ} {range : ℤ × ℤ} {x : ℚ}
    (h : x / scale < ((range.1 - zeroPoint : ℤ) : ℚ) + 1 / 2) :
    quantize scale zeroPoint range x = range.1 := by
  have hround := halfEven_le_of_lt h
  unfold quantize
  omega

section
variable {K : Type} [Field K] [LinearOrder K] [IsStrictOrderedRing K]

def Nearest (round : K → ℤ) : Prop := ∀ x, |(round x : K) - x| ≤ 1 / 2

def clampTo (low high n : ℤ) : ℤ := max low (min high n)

theorem Nearest.eq_of_close {round : K → ℤ} (h : Nearest round) {x : K} {n : ℤ} (hx : |x - n| < 1 / 2) :
    round x = n := by
  have hround := abs_le.mp (h x)
  have hclose := abs_lt.mp hx
  have hlow : (n : K) - 1 < round x := by linarith
  have hhigh : (round x : K) < n + 1 := by linarith
  have hlow' : n - 1 < round x := by exact_mod_cast hlow
  have hhigh' : round x < n + 1 := by exact_mod_cast hhigh
  omega

section
variable {fine coarse direct : K → ℤ} {x : K} {m ratio k low high : ℤ}

theorem le_clampTo_fine (hfine : Nearest fine) (hratio : ratio = 2 * m + 1) (hm : 0 ≤ m) (hlow : low ≤ k)
    (hhigh : k ≤ high) (hx : low < k → (k : K) - 1 / 2 < x) :
    ratio * k - m ≤ clampTo (ratio * low) (ratio * high) (fine (ratio * x)) := by
  have hpos : (0 : K) < ratio := by exact_mod_cast (by omega : 0 < ratio)
  rcases hlow.eq_or_lt with rfl | hlt
  · exact (by omega : ratio * low - m ≤ ratio * low).trans (le_max_left _ _)
  · have hround := abs_le.mp (hfine (ratio * x))
    have hscaled := mul_lt_mul_of_pos_left (hx hlt) hpos
    have hcast : (ratio : K) = 2 * m + 1 := by exact_mod_cast hratio
    have hfloor : ((ratio * k - m - 1 : ℤ) : K) < fine (ratio * x) := by
      push_cast
      nlinarith
    have hz : ratio * k - m ≤ fine (ratio * x) := by
      have := Int.cast_lt.mp hfloor
      omega
    have htop : ratio * k ≤ ratio * high := mul_le_mul_of_nonneg_left hhigh (by omega)
    exact (le_min (by omega) hz).trans (le_max_right _ _)

theorem clampTo_fine_le (hfine : Nearest fine) (hratio : ratio = 2 * m + 1) (hm : 0 ≤ m) (hlow : low ≤ k)
    (hhigh : k ≤ high) (hx : k < high → x < (k : K) + 1 / 2) :
    clampTo (ratio * low) (ratio * high) (fine (ratio * x)) ≤ ratio * k + m := by
  have hpos : (0 : K) < ratio := by exact_mod_cast (by omega : 0 < ratio)
  have hbottom : ratio * low ≤ ratio * k := mul_le_mul_of_nonneg_left hlow (by omega)
  rcases hhigh.eq_or_lt with rfl | hlt
  · exact max_le (by omega) ((min_le_left _ _).trans (by omega))
  · have hround := abs_le.mp (hfine (ratio * x))
    have hscaled := mul_lt_mul_of_pos_left (hx hlt) hpos
    have hcast : (ratio : K) = 2 * m + 1 := by exact_mod_cast hratio
    have hceil : (fine (ratio * x) : K) < ((ratio * k + m + 1 : ℤ) : K) := by
      push_cast
      nlinarith
    have hz : fine (ratio * x) ≤ ratio * k + m := by
      have := Int.cast_lt.mp hceil
      omega
    exact max_le (by omega) ((min_le_right _ _).trans hz)

theorem narrow_of_nearest (hfine : Nearest fine) (hcoarse : Nearest coarse) (hdirect : Nearest direct)
    (hratio : ratio = 2 * m + 1) (hm : 0 ≤ m) (horder : low ≤ high)
    (hhalf : ∀ k : ℤ, low ≤ k → k < high → x ≠ k + 1 / 2) :
    clampTo low high (coarse ((clampTo (ratio * low) (ratio * high) (fine (ratio * x)) : ℤ) / (ratio : K))) =
      clampTo low high (direct x) := by
  obtain ⟨k,hk⟩ : ∃ k, clampTo low high (direct x) = k := ⟨_,rfl⟩
  have hround := abs_le.mp (hdirect x)
  have hlow : low ≤ k := hk ▸ le_max_left _ _
  have hhigh : k ≤ high := hk ▸ max_le horder (min_le_left _ _)
  have habove : low < k → (k : K) - 1 / 2 < x := by
    intro hlt
    have hdirect : k ≤ direct x := by
      unfold clampTo at hk
      omega
    have hcast : (k : K) ≤ direct x := by exact_mod_cast hdirect
    refine lt_of_le_of_ne (by linarith) fun heq => hhalf (k - 1) (by omega) (by omega) ?_
    push_cast
    linarith
  have hbelow : k < high → x < (k : K) + 1 / 2 := by
    intro hlt
    have hdirect : direct x ≤ k := by
      unfold clampTo at hk
      omega
    have hcast : (direct x : K) ≤ k := by exact_mod_cast hdirect
    exact lt_of_le_of_ne (by linarith) (hhalf k hlow hlt)
  have hge := le_clampTo_fine hfine hratio hm hlow hhigh habove
  have hle := clampTo_fine_le hfine hratio hm hlow hhigh hbelow
  have hpos : (0 : K) < ratio := by exact_mod_cast (by omega : 0 < ratio)
  have hcast : (ratio : K) = 2 * m + 1 := by exact_mod_cast hratio
  have hclose : |(clampTo (ratio * low) (ratio * high) (fine (ratio * x)) : ℤ) / (ratio : K) - k| < 1 / 2 := by
    generalize clampTo (ratio * low) (ratio * high) (fine (ratio * x)) = z at hge hle
    have hge' : (ratio : K) * k - m ≤ z := by exact_mod_cast hge
    have hle' : (z : K) ≤ ratio * k + m := by exact_mod_cast hle
    have hlower : (k : K) - 1 / 2 < z / ratio := by
      rw [lt_div_iff₀ hpos]
      linarith
    have hupper : (z : K) / ratio < k + 1 / 2 := by
      rw [div_lt_iff₀ hpos]
      linarith
    rw [abs_lt]
    constructor <;> linarith
  rw [hcoarse.eq_of_close hclose,hk]
  unfold clampTo
  omega

end

end

end QnnEp.Rounding
