import Mathlib.Data.List.Basic

namespace QnnEp.Machine
variable {σ α : Type} (step : σ → α → σ)
variable {s : σ} {events : List α}

def run (s : σ) (events : List α) : σ := events.foldl step s

def Each (P : σ → α → Prop) : σ → List α → Prop
  | _, [] => True
  | s, e :: events => P s e ∧ Each P (step s e) events

def Always (Q : σ → Prop) : σ → List α → Prop
  | s, [] => Q s
  | s, e :: events => Q s ∧ Always Q (step s e) events

variable {step} (Inv : σ → Prop) {Q : σ → Prop} {P P' : σ → α → Prop}

theorem run_invariant (hstep : ∀ s e, Inv s → Inv (step s e)) (hs : Inv s) (events : List α) :
    Inv (run step s events) := by
  induction events generalizing s with
  | nil => exact hs
  | cons e events ih => exact ih (hstep s e hs)

theorem each_congr_of_kept (hinv : ∀ s e, Inv s → P s e → Inv (step s e))
    (h : ∀ s e, Inv s → (P s e ↔ P' s e)) (hs : Inv s) (events : List α) :
    Each step P s events ↔ Each step P' s events := by
  induction events generalizing s with
  | nil => exact Iff.rfl
  | cons e events ih =>
    constructor
    · rintro ⟨hp,hrest⟩
      exact ⟨(h s e hs).mp hp,(ih (hinv s e hs hp)).mp hrest⟩
    · rintro ⟨hp',hrest⟩
      have hp := (h s e hs).mpr hp'
      exact ⟨hp,(ih (hinv s e hs hp)).mpr hrest⟩

theorem each_congr (hinv : ∀ s e, Inv s → Inv (step s e)) (h : ∀ s e, Inv s → (P s e ↔ P' s e)) (hs : Inv s)
    (events : List α) : Each step P s events ↔ Each step P' s events :=
  each_congr_of_kept Inv (fun s e hs _ => hinv s e hs) h hs events

theorem always_head (h : Always step Q s events) : Q s := by
  cases events with
  | nil => exact h
  | cons _ _ => exact h.1

theorem always_iff_each (hinv : ∀ s e, Inv s → Inv (step s e))
    (hstep : ∀ s e, Inv s → Q s → (Q (step s e) ↔ P s e)) (hs : Inv s) (hq : Q s) (events : List α) :
    Always step Q s events ↔ Each step P s events := by
  induction events generalizing s with
  | nil => exact iff_of_true hq trivial
  | cons e events ih =>
    constructor
    · rintro ⟨_,hrest⟩
      have hnext := always_head hrest
      exact ⟨(hstep s e hs hq).mp hnext,(ih (hinv s e hs) hnext).mp hrest⟩
    · rintro ⟨hp,hrest⟩
      have hnext := (hstep s e hs hq).mpr hp
      exact ⟨hq,(ih (hinv s e hs) hnext).mpr hrest⟩

theorem each_mono (h : ∀ s e, P s e → P' s e) (heach : Each step P s events) : Each step P' s events := by
  induction events generalizing s with
  | nil => trivial
  | cons e events ih => exact ⟨h s e heach.1,ih heach.2⟩

theorem always_next (h : Always step Q s events) : Each step (fun s e => Q (step s e)) s events := by
  induction events generalizing s with
  | nil => trivial
  | cons e events ih => exact ⟨always_head h.2,ih h.2⟩

end QnnEp.Machine
