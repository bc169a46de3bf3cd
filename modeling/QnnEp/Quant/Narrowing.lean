import Mathlib.Data.Real.Basic
import QnnEp.Quant.Bias

namespace QnnEp.Narrowing
open Bias (Encoding)
open Qdq (QnnDataType getQminQmax)
open Rounding

def bitwidth : QnnDataType → Nat
  | .sfixedPoint4 | .ufixedPoint4 => 4
  | .sfixedPoint8 | .ufixedPoint8 => 8
  | .sfixedPoint16 | .ufixedPoint16 => 16
  | .sfixedPoint32 => 32

def levelRatio (activation output : QnnDataType) : Int :=
  ((getQminQmax activation false).2 - (getQminQmax activation false).1) /
    ((getQminQmax output false).2 - (getQminQmax output false).1)

def intermediateOffset (activation output : QnnDataType) (offset : Int) : Int :=
  ((getQminQmax output false).1 + offset) * levelRatio activation output - (getQminQmax activation false).1

def getNarrowingIntermediateQuantParams (activation output : QnnDataType) :
    Encoding → Except String Encoding
  | .scaleOffset scale offset =>
    let intermediate := intermediateOffset activation output offset
    if -2 ^ 31 ≤ intermediate ∧ intermediate < 2 ^ 31 then
      .ok (.scaleOffset (scale / levelRatio activation output) intermediate)
    else .error "narrowing_error"
  | _ => .error "Narrowing output requires a per-tensor encoding"

noncomputable section

def level (scale : ℚ) (offset q : Int) : ℝ := scale * (q + offset : Int)

def quantizeTo (round : ℝ → ℤ) (dataType : QnnDataType) (scale : ℚ) (offset : Int) (x : ℝ) : Int :=
  clampTo (getQminQmax dataType false).1 (getQminQmax dataType false).2 (round (x / scale) - offset)

def Halfway (dataType : QnnDataType) (scale : ℚ) (offset : Int) (x : ℝ) : Prop :=
  ∃ q, (getQminQmax dataType false).1 ≤ q ∧ q < (getQminQmax dataType false).2 ∧
    x + x = level scale offset q + level scale offset (q + 1)

end

section
variable {activation output : QnnDataType} {scale : ℚ} {offset : Int}

theorem levelRatio_odd (h : bitwidth output < bitwidth activation) :
    levelRatio activation output = 2 * (levelRatio activation output / 2) + 1 ∧
      0 ≤ levelRatio activation output / 2 := by
  revert h
  cases activation <;> cases output <;> decide

theorem levelRatio_mul (h : bitwidth output < bitwidth activation) :
    levelRatio activation output * ((getQminQmax output false).2 - (getQminQmax output false).1) =
      (getQminQmax activation false).2 - (getQminQmax activation false).1 := by
  revert h
  cases activation <;> cases output <;> decide

theorem qmin_le_qmax (dataType : QnnDataType) :
    (getQminQmax dataType false).1 ≤ (getQminQmax dataType false).2 := by
  cases dataType <;> decide

theorem clampTo_shift (low high n k : ℤ) : clampTo low high (n - k) + k = clampTo (low + k) (high + k) n := by
  unfold clampTo
  omega

theorem bounds_shift (h : bitwidth output < bitwidth activation) :
    (getQminQmax activation false).1 + intermediateOffset activation output offset =
        levelRatio activation output * ((getQminQmax output false).1 + offset) ∧
      (getQminQmax activation false).2 + intermediateOffset activation output offset =
        levelRatio activation output * ((getQminQmax output false).2 + offset) := by
  have hmul := levelRatio_mul h
  unfold intermediateOffset
  constructor
  · ring
  · linarith

theorem level_eq (h : bitwidth output < bitwidth activation) (q : Int) :
    level (scale / levelRatio activation output) (intermediateOffset activation output offset)
        ((getQminQmax activation false).1 + levelRatio activation output * (q - (getQminQmax output false).1)) =
      level scale offset q := by
  obtain ⟨hodd,hnonneg⟩ := levelRatio_odd h
  have hne : (levelRatio activation output : ℝ) ≠ 0 := by exact_mod_cast (by omega : levelRatio activation output ≠ 0)
  have hsum : (getQminQmax activation false).1 + levelRatio activation output * (q - (getQminQmax output false).1) +
      intermediateOffset activation output offset = levelRatio activation output * (q + offset) := by
    unfold intermediateOffset
    ring
  rw [level,level,hsum]
  push_cast
  field_simp

theorem not_half {x : ℝ} (hscale : 0 < scale) (hx : ¬Halfway output scale offset x) (k : Int)
    (hlow : (getQminQmax output false).1 + offset ≤ k) (hhigh : k < (getQminQmax output false).2 + offset) :
    x / scale ≠ k + 1 / 2 := by
  intro heq
  have hne : (scale : ℝ) ≠ 0 := by exact_mod_cast hscale.ne'
  refine hx ⟨k - offset,by omega,by omega,?_⟩
  rw [div_eq_iff hne] at heq
  rw [heq,level,level]
  push_cast
  ring

theorem quantizeTo_narrow {ratio m offset' : Int} (hodd : ratio = 2 * m + 1) (hm : 0 ≤ m)
    (hbottom : (getQminQmax activation false).1 + offset' = ratio * ((getQminQmax output false).1 + offset))
    (htop : (getQminQmax activation false).2 + offset' = ratio * ((getQminQmax output false).2 + offset))
    (hscale : 0 < scale) {fine coarse direct : ℝ → ℤ} (hfine : Nearest fine) (hcoarse : Nearest coarse)
    (hdirect : Nearest direct) {x : ℝ} (hx : ¬Halfway output scale offset x) :
    quantizeTo coarse output scale offset
        (level (scale / ratio) offset' (quantizeTo fine activation (scale / ratio) offset' x)) =
      quantizeTo direct output scale offset x := by
  have hne : (scale : ℝ) ≠ 0 := by exact_mod_cast hscale.ne'
  have hratio : (ratio : ℝ) ≠ 0 := by exact_mod_cast (by omega : ratio ≠ 0)
  have hnarrow := narrow_of_nearest hfine hcoarse hdirect hodd hm
    (add_le_add_left (qmin_le_qmax output) offset) (not_half hscale hx)
  have hquotient : x / ((scale / ratio : ℚ) : ℝ) = ratio * (x / scale) := by
    push_cast
    field_simp
  have hcode : quantizeTo fine activation (scale / ratio) offset' x + offset' =
      clampTo (ratio * ((getQminQmax output false).1 + offset)) (ratio * ((getQminQmax output false).2 + offset))
        (fine (ratio * (x / scale))) := by
    rw [quantizeTo,clampTo_shift,hbottom,htop,hquotient]
  have hlevel : level (scale / ratio) offset' (quantizeTo fine activation (scale / ratio) offset' x) / scale =
      (quantizeTo fine activation (scale / ratio) offset' x + offset' : Int) / (ratio : ℝ) := by
    rw [level]
    push_cast
    field_simp
  refine add_right_cancel (b := offset) ?_
  rw [quantizeTo,hlevel,hcode,clampTo_shift,hnarrow,quantizeTo,clampTo_shift]

theorem narrowing_intermediate_exact (activation output : QnnDataType) (encoding intermediate : Encoding)
    (hwider : bitwidth output < bitwidth activation)
    (hscale : ∀ scale offset, encoding = .scaleOffset scale offset → 0 < scale)
    (h : getNarrowingIntermediateQuantParams activation output encoding = .ok intermediate) :
    ∃ scale offset scale' offset', encoding = .scaleOffset scale offset ∧
      intermediate = .scaleOffset scale' offset' ∧
      (∀ q, (getQminQmax output false).1 ≤ q → q ≤ (getQminQmax output false).2 →
        ∃ q', (getQminQmax activation false).1 ≤ q' ∧ q' ≤ (getQminQmax activation false).2 ∧
          level scale' offset' q' = level scale offset q) ∧
      ∀ fine coarse direct : ℝ → ℤ, Nearest fine → Nearest coarse → Nearest direct →
        ∀ x : ℝ, ¬Halfway output scale offset x →
          quantizeTo coarse output scale offset
              (level scale' offset' (quantizeTo fine activation scale' offset' x)) =
            quantizeTo direct output scale offset x := by
  unfold getNarrowingIntermediateQuantParams at h
  split at h
  · next scale offset =>
    dsimp only at h
    split at h
    · obtain rfl := Except.ok.inj h
      obtain ⟨hodd,hnonneg⟩ := levelRatio_odd hwider
      obtain ⟨hbottom,htop⟩ := bounds_shift hwider
      refine ⟨scale,offset,_,_,rfl,rfl,fun q hlow hhigh => ?_,
        fun fine coarse direct hfine hcoarse hdirect x hx => quantizeTo_narrow hodd hnonneg hbottom htop
          (hscale scale offset rfl) hfine hcoarse hdirect hx⟩
      refine ⟨_,?_,?_,level_eq hwider q⟩
      · have := Int.mul_nonneg (by omega : 0 ≤ levelRatio activation output)
          (by omega : 0 ≤ q - (getQminQmax output false).1)
        omega
      · have hmul := levelRatio_mul hwider
        have := Int.mul_le_mul_of_nonneg_left
          (by omega : q - (getQminQmax output false).1 ≤ (getQminQmax output false).2 - (getQminQmax output false).1)
          (by omega : 0 ≤ levelRatio activation output)
        omega
    · cases h
  · cases h

theorem narrowing_16_to_8 :
    getNarrowingIntermediateQuantParams .ufixedPoint16 .ufixedPoint8 (.scaleOffset 1 (-128)) =
        .ok (.scaleOffset (1 / 257) (-32896)) ∧
      ∀ fine coarse direct : ℝ → ℤ, Nearest fine → Nearest coarse → Nearest direct →
        ∀ x : ℝ, ¬Halfway .ufixedPoint8 1 (-128) x →
          quantizeTo coarse .ufixedPoint8 1 (-128)
              (level (1 / 257) (-32896) (quantizeTo fine .ufixedPoint16 (1 / 257) (-32896) x)) =
            quantizeTo direct .ufixedPoint8 1 (-128) x := by
  have hparams : getNarrowingIntermediateQuantParams .ufixedPoint16 .ufixedPoint8 (.scaleOffset 1 (-128)) =
      .ok (.scaleOffset (1 / 257) (-32896)) := by decide +kernel
  have hscale : ∀ scale offset, Encoding.scaleOffset 1 (-128) = .scaleOffset scale offset → 0 < scale := by
    intro scale offset heq
    obtain ⟨rfl,-⟩ := Encoding.scaleOffset.inj heq
    exact one_pos
  obtain ⟨scale,offset,scale',offset',hencoding,hintermediate,-,hnarrow⟩ :=
    narrowing_intermediate_exact _ _ _ _ (by decide) hscale hparams
  obtain ⟨rfl,rfl⟩ := Encoding.scaleOffset.inj hencoding
  obtain ⟨rfl,rfl⟩ := Encoding.scaleOffset.inj hintermediate
  exact ⟨hparams,hnarrow⟩

end

end QnnEp.Narrowing
