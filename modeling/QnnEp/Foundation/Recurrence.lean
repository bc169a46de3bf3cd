import Mathlib.Order.Basic

namespace QnnEp.Recurrence

section
variable {ξ σ : Type}

def states (step : ξ → σ → σ) (xs : Nat → ξ) (start : σ) : Nat → σ
  | 0 => start
  | n + 1 => step (xs n) (states step xs start n)

def timeOf (reversed : Bool) (len n : Nat) : Nat := if reversed then len - 1 - n else n

theorem timeOf_lt {reversed : Bool} {len n : Nat} (h : n < len) : timeOf reversed len n < len := by
  unfold timeOf
  split <;> omega

theorem timeOf_timeOf {reversed : Bool} {len n : Nat} (h : n < len) :
    timeOf reversed len (timeOf reversed len n) = n := by
  unfold timeOf
  split <;> omega

theorem timeOf_injective {reversed : Bool} {len m n : Nat} (hm : m < len) (hn : n < len)
    (h : timeOf reversed len m = timeOf reversed len n) : m = n := by
  rw [← @timeOf_timeOf reversed len m hm,h,timeOf_timeOf hn]

def along (step : ξ → σ → σ) (reversed : Bool) (len : Nat) (xs : Nat → ξ) (start : σ) : Nat → σ :=
  states step (fun n => xs (timeOf reversed len n)) start

theorem along_succ (step : ξ → σ → σ) (reversed : Bool) (len : Nat) (xs : Nat → ξ) (start : σ) (n : Nat) :
    along step reversed len xs start (n + 1) =
      step (xs (timeOf reversed len n)) (along step reversed len xs start n) := rfl

theorem along_values {step : ξ → σ → σ} {value : Nat → σ} (h : ∀ x n, step x (value n) = value (n + 1))
    (reversed : Bool) (len : Nat) (xs : Nat → ξ) (n : Nat) :
    along step reversed len xs (value 0) n = value n := by
  induction n with
  | zero => rfl
  | succ n ih => rw [along_succ,ih,h]

theorem along_one (step : ξ → σ → σ) (reversed : Bool) (xs : Nat → ξ) (start : σ) :
    along step reversed 1 xs start 1 = step (xs 0) start := by
  cases reversed <;> rfl

end

section
variable {ν : Type} (reversed : Bool) (len : Nat) (name : Nat → ν) (unnamed : ν)

def filled (n : Nat) : List ν :=
  (List.range n).foldl (fun names step => names.set (timeOf reversed len step)
    (name (timeOf reversed len step))) (List.replicate len unnamed)

theorem filled_succ (n : Nat) :
    filled reversed len name unnamed (n + 1) = (filled reversed len name unnamed n).set
      (timeOf reversed len n) (name (timeOf reversed len n)) := by
  rw [filled,List.range_succ,List.foldl_append]
  rfl

theorem length_filled (n : Nat) : (filled reversed len name unnamed n).length = len := by
  induction n with
  | zero => exact List.length_replicate
  | succ n ih => rw [filled_succ,List.length_set,ih]

theorem filled_getElem {n : Nat} (hn : n ≤ len) {m : Nat} (hm : m < n) :
    (filled reversed len name unnamed n)[timeOf reversed len m]? =
      some (name (timeOf reversed len m)) := by
  induction n with
  | zero => cases hm
  | succ n ih =>
    rw [filled_succ]
    rcases Nat.lt_succ_iff_lt_or_eq.mp hm with hlt | rfl
    · rw [List.getElem?_set_ne]
      · exact ih (Nat.le_of_succ_le hn) hlt
      · intro htime
        exact absurd (timeOf_injective (by omega) (by omega) htime) (by omega)
    · rw [List.getElem?_set_self]
      rw [length_filled]
      exact timeOf_lt hn

theorem filled_all : filled reversed len name unnamed len = (List.range len).map name := by
  refine List.ext_getElem? fun t => ?_
  by_cases ht : t < len
  · have htime : timeOf reversed len t < len := timeOf_lt ht
    have hname := filled_getElem reversed len name unnamed (Nat.le_refl len) htime
    rw [timeOf_timeOf ht] at hname
    rw [hname]
    simp [ht]
  · rw [List.getElem?_eq_none (by rw [length_filled]; omega),
      List.getElem?_eq_none (by simp; omega)]

end

end QnnEp.Recurrence
