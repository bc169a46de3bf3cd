import Mathlib.Data.List.Count
import Mathlib.Data.List.Nodup

namespace QnnEp.Numbered

def numbered (key : String) (n : Nat) : String := key ++ "_" ++ toString n

theorem underscore_not_mem_digits (n : Nat) : '_' ∉ (toString n).toList := by
  intro h
  have hd : '_' ∈ Nat.toDigits 10 n := by
    simpa only [Nat.toString_eq_repr,Nat.toList_repr] using h
  have hc := Nat.isDigit_of_mem_toDigits (by decide) (by decide) hd
  exact absurd hc (by decide)

theorem digits_eq_of_append {u v xs ys : List Char} {c : Char}
    (hx : c ∉ xs) (hy : c ∉ ys) (h : u ++ c :: xs = v ++ c :: ys) : u = v ∧ xs = ys := by
  induction u generalizing v with
  | nil =>
    cases v with
    | nil => simpa using h
    | cons d v =>
      simp only [List.nil_append,List.cons_append,List.cons.injEq] at h
      exact absurd (by simp [h.2]) hx
  | cons d u ih =>
    cases v with
    | nil =>
      simp only [List.nil_append,List.cons_append,List.cons.injEq] at h
      exact absurd (by simp [← h.2]) hy
    | cons e v =>
      simp only [List.cons_append,List.cons.injEq] at h
      obtain ⟨rfl,ht⟩ := h
      obtain ⟨huv,hxy⟩ := ih ht
      exact ⟨congrArg (List.cons d) huv,hxy⟩

theorem numbered_inj {k k' : String} {n n' : Nat} :
    numbered k n = numbered k' n' ↔ k = k' ∧ n = n' := by
  constructor
  · intro h
    have hl := congrArg String.toList h
    simp only [numbered,String.toList_append,List.append_assoc] at hl
    obtain ⟨hk,hn⟩ := digits_eq_of_append (underscore_not_mem_digits n)
      (underscore_not_mem_digits n') hl
    refine ⟨String.ext hk,?_⟩
    have hd : Nat.toDigits 10 n = Nat.toDigits 10 n' := by
      simpa only [Nat.toString_eq_repr,Nat.toList_repr] using hn
    have hv := congrArg (fun ds => Nat.ofDigitChars 10 ds 0) hd
    simpa using hv
  · rintro ⟨rfl,rfl⟩
    rfl

end QnnEp.Numbered
