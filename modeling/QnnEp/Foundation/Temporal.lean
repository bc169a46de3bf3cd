import Mathlib.Data.Nat.Basic
import Mathlib.Data.List.GetD
import Mathlib.Tactic.Push

namespace QnnEp.Temporal

section
variable {P Q R enabled taken : Nat → Prop}

def LeadsTo (P Q : Nat → Prop) : Prop := ∀ n, P n → ∃ m, n ≤ m ∧ Q m

def Unless (P Q : Nat → Prop) : Prop := ∀ n, P n → P (n + 1) ∨ Q (n + 1)

def WeaklyFair (enabled taken : Nat → Prop) : Prop :=
  ∀ n, (∀ m, n ≤ m → enabled m) → ∃ m, n ≤ m ∧ taken m

def StronglyFair (enabled taken : Nat → Prop) : Prop :=
  ∀ n, (∀ m, n ≤ m → ∃ k, m ≤ k ∧ enabled k) → ∃ m, n ≤ m ∧ taken m

theorem LeadsTo.trans (h : LeadsTo P Q) (h' : LeadsTo Q R) : LeadsTo P R := by
  intro n hn
  obtain ⟨m,hnm,hm⟩ := h n hn
  obtain ⟨k,hmk,hk⟩ := h' m hm
  exact ⟨k,Nat.le_trans hnm hmk,hk⟩

theorem LeadsTo.of_imp (h : ∀ n, P n → Q n) : LeadsTo P Q := fun n hn => ⟨n,Nat.le_refl n,h n hn⟩

theorem LeadsTo.or_elim (h : LeadsTo P (fun n => Q n ∨ R n)) (h' : LeadsTo R Q) : LeadsTo P Q := by
  refine h.trans ?_
  rintro n (hn | hn)
  · exact ⟨n,Nat.le_refl n,hn⟩
  · exact h' n hn

theorem Unless.until (h : Unless P Q) {n m : Nat} (hn : P n) (hnm : n ≤ m) :
    P m ∨ ∃ k, n ≤ k ∧ k ≤ m ∧ Q k := by
  induction m, hnm using Nat.le_induction with
  | base => exact .inl hn
  | succ m hnm ih =>
    rcases ih with hm | ⟨k,hnk,hkm,hk⟩
    · rcases h m hm with hp | hq
      · exact .inl hp
      · exact .inr ⟨m + 1,Nat.le_succ_of_le hnm,Nat.le_refl _,hq⟩
    · exact .inr ⟨k,hnk,Nat.le_succ_of_le hkm,hk⟩

theorem Unless.always (h : Unless P Q) {n : Nat} (hn : P n) (hnever : ∀ m, n ≤ m → ¬Q m) {m : Nat}
    (hnm : n ≤ m) : P m := by
  rcases h.until hn hnm with hm | ⟨k,hnk,_,hk⟩
  · exact hm
  · exact absurd hk (hnever k hnk)

theorem Unless.often (h : Unless P Q) (hoften : ∀ n, P n → ∃ m, n ≤ m ∧ R m) :
    LeadsTo P (fun n => Q n ∨ (P n ∧ R n)) := by
  intro n hn
  obtain ⟨m,hnm,hr⟩ := hoften n hn
  rcases h.until hn hnm with hm | ⟨k,hnk,_,hk⟩
  · exact ⟨m,hnm,.inr ⟨hm,hr⟩⟩
  · exact ⟨k,hnk,.inl hk⟩

theorem Unless.leadsTo_of_exit (h : Unless P Q) (himp : ∀ n, P n → R n)
    (hexit : LeadsTo R (fun n => ¬R n)) : LeadsTo P Q := by
  intro n hn
  obtain ⟨m,hnm,hm⟩ := hexit n (himp n hn)
  rcases h.until hn hnm with hp | ⟨k,hnk,_,hk⟩
  · exact absurd (himp m hp) hm
  · exact ⟨k,hnk,hk⟩

theorem unless_not (P : Nat → Prop) : Unless P (fun n => ¬P n) := fun n _ => em (P (n + 1))

theorem WeaklyFair.leadsTo (hfair : WeaklyFair enabled taken) (hunless : Unless P Q)
    (henabled : ∀ n, P n → enabled n) (htaken : ∀ n, P n → taken n → Q (n + 1)) : LeadsTo P Q := by
  intro n hn
  by_contra hnever
  push Not at hnever
  have hp : ∀ m, n ≤ m → P m := fun m => hunless.always hn hnever
  obtain ⟨m,hnm,hm⟩ := hfair n fun m hnm => henabled m (hp m hnm)
  exact hnever (m + 1) (Nat.le_succ_of_le hnm) (htaken m (hp m hnm) hm)

theorem StronglyFair.leadsTo (hfair : StronglyFair enabled taken) (hunless : Unless P Q)
    (henabled : LeadsTo P (fun n => Q n ∨ enabled n)) (htaken : ∀ n, P n → taken n → Q (n + 1)) :
    LeadsTo P Q := by
  intro n hn
  by_contra hnever
  push Not at hnever
  have hp : ∀ m, n ≤ m → P m := fun m => hunless.always hn hnever
  have hoften : ∀ m, n ≤ m → ∃ k, m ≤ k ∧ enabled k := by
    intro m hnm
    obtain ⟨k,hmk,hk⟩ := henabled m (hp m hnm)
    exact ⟨k,hmk,hk.resolve_left (hnever k (Nat.le_trans hnm hmk))⟩
  obtain ⟨m,hnm,hm⟩ := hfair n hoften
  exact hnever (m + 1) (Nat.le_succ_of_le hnm) (htaken m (hp m hnm) hm)

theorem stronglyFair_of_disabled (bound : Nat) (h : ∀ m, bound ≤ m → ¬enabled m) :
    StronglyFair enabled taken := by
  intro n hoften
  obtain ⟨k,hk,hen⟩ := hoften (max n bound) (Nat.le_max_left n bound)
  exact absurd hen (h k (Nat.le_trans (Nat.le_max_right n bound) hk))

theorem StronglyFair.weaklyFair (h : StronglyFair enabled taken) : WeaklyFair enabled taken :=
  fun n hen => h n fun m hnm => ⟨m,Nat.le_refl m,hen m hnm⟩

end

section
variable {σ α : Type}

structure Execution (step : σ → α → Option σ) where
  state : Nat → σ
  action : Nat → α
  next : ∀ n, step (state n) (action n) = some (state (n + 1))

namespace Execution
variable {step : σ → α → Option σ}

def Enabled (e : Execution step) (a : α) (n : Nat) : Prop := (step (e.state n) a).isSome

def Taken (e : Execution step) (a : α) (n : Nat) : Prop := e.action n = a

theorem invariant (e : Execution step) {Inv : σ → Prop} (h0 : Inv (e.state 0))
    (hstep : ∀ s a t, Inv s → step s a = some t → Inv t) (n : Nat) : Inv (e.state n) := by
  induction n with
  | zero => exact h0
  | succ n ih => exact hstep _ _ _ ih (e.next n)

end Execution

def stateAt (step : σ → α → Option σ) (s : σ) (action : Nat → α) : Nat → σ
  | 0 => s
  | n + 1 => (step (stateAt step s action n) (action n)).getD (stateAt step s action n)

def Execution.replay (step : σ → α → Option σ) (s : σ) (action : Nat → α)
    (h : ∀ n, (step (stateAt step s action n) (action n)).isSome) : Execution step where
  state := stateAt step s action
  action := action
  next n := by
    obtain ⟨t,ht⟩ := Option.isSome_iff_exists.mp (h n)
    simp [stateAt,ht]

end

end QnnEp.Temporal
