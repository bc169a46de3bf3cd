import Mathlib.Data.Int.Log
import QnnEp.Foundation.Rounding

namespace QnnEp.Rounding

def Representable (x : ℚ) : Prop :=
  ∃ m e : ℤ, |m| < 2 ^ 24 ∧ -149 ≤ e ∧ x = m * (2 : ℚ) ^ e

theorem representable_zero : Representable 0 := ⟨0,0,by norm_num,by norm_num,by simp⟩

theorem representable_intCast {n : ℤ} (h : |n| < 2 ^ 24) : Representable n :=
  ⟨n,0,h,by norm_num,by simp⟩

def gridExponent (x : ℚ) : ℤ := max (Int.log 2 |x| - 23) (-149)

def onGrid (x : ℚ) : ℚ := halfEven (x / 2 ^ gridExponent x) * 2 ^ gridExponent x

theorem onGrid_zero : onGrid 0 = 0 := by
  have h : halfEven (0 : ℚ) = 0 := halfEven_intCast 0
  simp [onGrid,h]

theorem two_zpow_pos (e : ℤ) : (0 : ℚ) < 2 ^ e := zpow_pos (by norm_num) e

theorem onGrid_error (x : ℚ) : |onGrid x - x| ≤ 2 ^ gridExponent x / 2 := by
  have hpos := two_zpow_pos (gridExponent x)
  have hx : onGrid x - x =
      ((halfEven (x / 2 ^ gridExponent x) : ℚ) - x / 2 ^ gridExponent x) * 2 ^ gridExponent x := by
    rw [onGrid,sub_mul,div_mul_cancel₀ _ hpos.ne']
  rw [hx,abs_mul,abs_of_pos hpos]
  calc |(halfEven (x / 2 ^ gridExponent x) : ℚ) - x / 2 ^ gridExponent x| * 2 ^ gridExponent x
      ≤ 1 / 2 * 2 ^ gridExponent x := mul_le_mul_of_nonneg_right (halfEven_error _) hpos.le
    _ = 2 ^ gridExponent x / 2 := by ring

theorem onGrid_eq_self {x : ℚ} {n : ℤ} (h : x = n * 2 ^ gridExponent x) : onGrid x = x := by
  have hpos := two_zpow_pos (gridExponent x)
  have hdiv : x / 2 ^ gridExponent x = n := by
    rw [div_eq_iff hpos.ne']
    exact h
  rw [onGrid,hdiv,halfEven_intCast]
  exact h.symm

theorem abs_lt_grid {x : ℚ} : |x| < 2 ^ 24 * (2 : ℚ) ^ gridExponent x := by
  have hlt : |x| < (2 : ℚ) ^ (Int.log 2 |x| + 1) := Int.lt_zpow_succ_log_self (by norm_num) |x|
  have hle : Int.log 2 |x| + 1 ≤ 24 + gridExponent x := by
    unfold gridExponent
    omega
  calc |x| < (2 : ℚ) ^ (Int.log 2 |x| + 1) := hlt
    _ ≤ (2 : ℚ) ^ (24 + gridExponent x) := zpow_le_zpow_right₀ (by norm_num) hle
    _ = 2 ^ 24 * (2 : ℚ) ^ gridExponent x := by
      rw [zpow_add₀ (by norm_num)]
      norm_num

theorem representable_onGrid (x : ℚ) : Representable (onGrid x) := by
  have hpos := two_zpow_pos (gridExponent x)
  have hge : -149 ≤ gridExponent x := le_max_right _ _
  set n := halfEven (x / 2 ^ gridExponent x) with hn
  have hdiv : |x / 2 ^ gridExponent x| < 2 ^ 24 := by
    rw [abs_div,abs_of_pos hpos,div_lt_iff₀ hpos]
    exact abs_lt_grid
  have hle : |n| ≤ 2 ^ 24 := by
    rw [abs_lt] at hdiv
    rw [abs_le]
    refine ⟨?_,?_⟩
    · refine le_halfEven_of_lt ?_
      push_cast
      linarith [hdiv.1]
    · refine halfEven_le_of_lt ?_
      push_cast
      linarith [hdiv.2]
  rcases hle.lt_or_eq with hlt | heq
  · exact ⟨n,gridExponent x,hlt,hge,rfl⟩
  · refine ⟨n / 2,gridExponent x + 1,?_,by omega,?_⟩
    · rcases abs_eq (by norm_num : (0 : ℤ) ≤ 2 ^ 24) |>.mp heq with h | h <;> rw [h] <;> norm_num
    · have hhalf : (n : ℚ) = 2 * (n / 2 : ℤ) := by
        rcases abs_eq (by norm_num : (0 : ℤ) ≤ 2 ^ 24) |>.mp heq with h | h <;> rw [h] <;> norm_num
      rw [onGrid,← hn,hhalf,zpow_add_one₀ (by norm_num)]
      ring

theorem onGrid_mul_int_error {s : ℚ} (hs : Representable s) (k : ℤ) :
    |onGrid (s * k) - s * k| ≤ 1 / 2 ^ 24 * |s * k| := by
  by_cases hx : s * k = 0
  · rw [hx,onGrid_zero]
    simp
  · have habs : 0 < |s * (k : ℚ)| := abs_pos.mpr hx
    rcases le_total (Int.log 2 |s * (k : ℚ)| - 23) (-149) with hsmall | hlarge
    · obtain ⟨m,e,-,he,rfl⟩ := hs
      have hgrid : gridExponent (m * 2 ^ e * k) = -149 := max_eq_right hsmall
      have hint : (m : ℚ) * 2 ^ e * k = ((m * k * 2 ^ (e + 149).toNat : ℤ) : ℚ) * 2 ^ (-149 : ℤ) := by
        have hpow : (2 : ℚ) ^ e = 2 ^ (e + 149).toNat * 2 ^ (-149 : ℤ) := by
          rw [← zpow_natCast,Int.toNat_of_nonneg (by omega),← zpow_add₀ (by norm_num)]
          congr 1
          omega
        rw [hpow]
        push_cast
        ring
      rw [onGrid_eq_self (by rw [hgrid]; exact hint)]
      rw [sub_self,abs_zero]
      positivity
    · have hgrid : gridExponent (s * k) = Int.log 2 |s * (k : ℚ)| - 23 := max_eq_left hlarge
      have hlog : (2 : ℚ) ^ Int.log 2 |s * (k : ℚ)| ≤ |s * (k : ℚ)| :=
        Int.zpow_log_le_self (by norm_num) habs
      calc |onGrid (s * k) - s * k| ≤ 2 ^ gridExponent (s * k) / 2 := onGrid_error _
        _ = 1 / 2 ^ 24 * 2 ^ Int.log 2 |s * (k : ℚ)| := by
          rw [hgrid,zpow_sub₀ (by norm_num)]
          norm_num
          ring
        _ ≤ 1 / 2 ^ 24 * |s * (k : ℚ)| := by gcongr

theorem onGrid_of_representable {x : ℚ} (h : Representable x) : onGrid x = x := by
  by_cases hx : x = 0
  · rw [hx,onGrid_zero]
  · obtain ⟨m,e,hm,he,rfl⟩ := h
    have hpow := two_zpow_pos e
    have habs : |(m : ℚ) * 2 ^ e| < (2 : ℚ) ^ (24 + e) := by
      have hm' : |(m : ℚ)| < 2 ^ 24 := by exact_mod_cast hm
      rw [abs_mul,abs_of_pos hpow,zpow_add₀ (by norm_num)]
      exact mul_lt_mul_of_pos_right (by simpa using hm') hpow
    have hlog : Int.log 2 |(m : ℚ) * 2 ^ e| < 24 + e :=
      (Int.lt_zpow_iff_log_lt (by norm_num) (abs_pos.mpr hx)).mp habs
    have hgrid : gridExponent (m * 2 ^ e) ≤ e := by
      unfold gridExponent
      omega
    set g := gridExponent (m * 2 ^ e) with hg
    have hsplit : (2 : ℚ) ^ e = 2 ^ (e - g).toNat * 2 ^ g := by
      rw [← zpow_natCast,Int.toNat_of_nonneg (by omega),← zpow_add₀ (by norm_num),sub_add_cancel]
    refine onGrid_eq_self (n := m * 2 ^ (e - g).toNat) ?_
    rw [← hg]
    push_cast
    rw [mul_assoc,← hsplit]

inductive Binary32 where
  | finite (value : ℚ) (representable : Representable value)
  | infinite (negative : Bool)
  | nan

namespace Binary32

def round (x : ℚ) : Binary32 :=
  if 2 ^ 128 ≤ |onGrid x| then .infinite (decide (x < 0))
  else .finite (onGrid x) (representable_onGrid x)

def ofInt (n : ℤ) : Binary32 := round n

def mul : Binary32 → Binary32 → Binary32
  | .nan, _ => .nan
  | _, .nan => .nan
  | .finite a _, .finite b _ => round (a * b)
  | .finite a _, .infinite negative => if a = 0 then .nan else .infinite (decide (a < 0) != negative)
  | .infinite negative, .finite b _ => if b = 0 then .nan else .infinite (negative != decide (b < 0))
  | .infinite negative, .infinite negative' => .infinite (negative != negative')

def le : Binary32 → Binary32 → Bool
  | .nan, _ => false
  | _, .nan => false
  | .finite a _, .finite b _ => decide (a ≤ b)
  | .finite _ _, .infinite negative => !negative
  | .infinite negative, .finite _ _ => negative
  | .infinite negative, .infinite negative' => negative || !negative'

def eq (a b : Binary32) : Bool := le a b && le b a

def lt (a b : Binary32) : Bool := le a b && !le b a

def zero : Binary32 := .finite 0 representable_zero

def one : Binary32 := ofInt 1

def largest : ℚ := (2 ^ 24 - 1) * 2 ^ 104

theorem representable_largest : Representable largest :=
  ⟨2 ^ 24 - 1,104,by norm_num,by norm_num,by norm_num [largest]⟩

theorem representable_neg_largest : Representable (-largest) :=
  ⟨-(2 ^ 24 - 1),104,by norm_num,by norm_num,by norm_num [largest]⟩

def max : Binary32 := .finite largest representable_largest

def lowest : Binary32 := .finite (-largest) representable_neg_largest

def toRat? : Binary32 → Option ℚ
  | .finite value _ => some value
  | _ => none

theorem round_of_representable {x : ℚ} (h : Representable x) (hx : |x| < 2 ^ 128) :
    round x = .finite x h := by
  have hgrid := onGrid_of_representable h
  unfold round
  rw [if_neg (by rw [hgrid]; exact not_le.mpr hx)]
  congr 1

theorem ofInt_of_lt {n : ℤ} (h : |n| < 2 ^ 24) : ofInt n = .finite n (representable_intCast h) := by
  have hn : |(n : ℚ)| < 2 ^ 24 := by exact_mod_cast h
  exact round_of_representable _ (hn.trans (by norm_num))

theorem mul_one_ofInt {n : ℤ} (h : |n| < 2 ^ 24) : mul (ofInt 1) (ofInt n) = ofInt n := by
  rw [ofInt_of_lt (n := 1) (by norm_num),ofInt_of_lt h]
  change round (((1 : ℤ) : ℚ) * n) = _
  rw [Int.cast_one,one_mul]
  exact ofInt_of_lt h

section
variable {s : ℚ} {hs : Representable s} (hpos : 0 < s) {k : ℤ} (hk : |k| < 2 ^ 24) {b : ℚ}
  {hb : Representable b}
include hpos hk

theorem mul_ofInt_le (hk0 : 0 ≤ k)
    (h : le (mul (.finite s hs) (ofInt k)) (.finite b hb) = true) :
    s * k - 1 / 2 ^ 24 * (s * k) ≤ b := by
  have hnonneg : 0 ≤ s * (k : ℚ) := mul_nonneg hpos.le (Int.cast_nonneg hk0)
  have herror := onGrid_mul_int_error hs k
  rw [abs_of_nonneg hnonneg,abs_le] at herror
  rw [ofInt_of_lt hk] at h
  change le (round (s * k)) _ = true at h
  unfold round at h
  split at h
  · have hneg : ¬s * (k : ℚ) < 0 := not_lt.mpr hnonneg
    simp [le,hneg] at h
  · have hle : onGrid (s * k) ≤ b := by simpa [le] using h
    linarith [herror.1]

theorem le_mul_ofInt (hk0 : k ≤ 0)
    (h : le (.finite b hb) (mul (.finite s hs) (ofInt k)) = true) :
    b ≤ s * k - 1 / 2 ^ 24 * (s * k) := by
  have hnonpos : s * (k : ℚ) ≤ 0 := mul_nonpos_of_nonneg_of_nonpos hpos.le (Int.cast_nonpos.mpr hk0)
  have herror := onGrid_mul_int_error hs k
  rw [abs_of_nonpos hnonpos,abs_le] at herror
  rw [ofInt_of_lt hk] at h
  change le _ (round (s * k)) = true at h
  unfold round at h
  split at h
  · next hbig =>
    have hneg : s * (k : ℚ) < 0 := by
      refine lt_of_le_of_ne hnonpos ?_
      intro hzero
      rw [hzero,onGrid_zero] at hbig
      norm_num at hbig
    simp [le,hneg] at h
  · have hle : b ≤ onGrid (s * k) := by simpa [le] using h
    linarith [herror.2]

end

end Binary32

end QnnEp.Rounding
