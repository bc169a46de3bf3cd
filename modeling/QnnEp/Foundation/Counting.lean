import Mathlib.Algebra.BigOperators.Group.Finset.Basic
import Mathlib.Algebra.BigOperators.Group.List.Basic
import Mathlib.Algebra.Order.BigOperators.Group.List
import Mathlib.Algebra.Order.Ring.Nat
import Mathlib.Data.List.Count
import Mathlib.Data.List.Nodup
import Mathlib.Algebra.Order.Ring.Int

namespace QnnEp.Counting
open List
variable {A B : Type}

theorem countP_or {p q : A → Bool} {xs : List A} (h : ∀ x ∈ xs, p x = true → q x = false) :
    xs.countP (fun x => p x || q x) = xs.countP p + xs.countP q := by
  induction xs with
  | nil => rfl
  | cons x xs ih =>
    have ht := ih fun y hy => h y (mem_cons_of_mem _ hy)
    have hx := h x mem_cons_self
    simp only [countP_cons,ht]
    cases hp : p x <;> cases hq : q x <;> simp_all <;> omega

theorem sum_countP_disjoint {p : B → A → Bool} {ws : List B} {xs : List A}
    (h : ws.Pairwise fun v w => ∀ x ∈ xs, p v x = true → p w x = false) :
    (ws.map fun w => xs.countP (p w)).sum = xs.countP fun x => ws.any fun w => p w x := by
  induction ws with
  | nil => simp
  | cons w ws ih =>
    obtain ⟨hw,hws⟩ := pairwise_cons.mp h
    have hd : ∀ x ∈ xs, p w x = true → (ws.any fun v => p v x) = false := by
      intro x hx hp
      rw [any_eq_false]
      intro v hv
      simp [hw v hv x hx hp]
    simp only [map_cons,sum_cons,any_cons]
    rw [ih hws,countP_or hd]

theorem sum_count [BEq A] [LawfulBEq A] {vs : List A} (h : vs.Nodup) (xs : List A) :
    (vs.map fun v => xs.count v).sum = xs.countP fun x => decide (x ∈ vs) := by
  have hd : vs.Pairwise fun v w => ∀ x ∈ xs, (x == v) = true → (x == w) = false := by
    refine h.imp ?_
    intro v w hvw x _ hxv
    rw [beq_iff_eq.mp hxv]
    simpa using hvw
  have hs := sum_countP_disjoint hd
  simp only [List.count] at hs ⊢
  rw [hs]
  refine countP_congr ?_
  intro x _
  simp

theorem sum_count_mul [DecidableEq A] {xs ns : List A} (hn : ns.Nodup) (h : xs ⊆ ns) (f : A → Nat) :
    (ns.map fun n => xs.count n * f n).sum = (xs.map f).sum := by
  rw [← sum_toFinset _ hn,Finset.sum_list_map_count xs]
  refine (Finset.sum_subset (fun x hx => mem_toFinset.mpr (h (mem_toFinset.mp hx))) ?_).symm
  intro x _ hx
  rw [count_eq_zero.mpr (fun hm => hx (mem_toFinset.mpr hm)),Nat.zero_mul]

theorem sum_map_comm (xs : List A) (ys : List B) (f : A → B → Nat) :
    (xs.map fun x => (ys.map (f x)).sum).sum = (ys.map fun y => (xs.map (f · y)).sum).sum := by
  induction xs with
  | nil => simp
  | cons x xs ih => simp only [map_cons,sum_cons,ih,sum_map_add]

theorem sum_filter (p : A → Bool) (f : A → Nat) (xs : List A) :
    ((xs.filter p).map f).sum = (xs.map fun x => if p x then f x else 0).sum := by
  induction xs with
  | nil => rfl
  | cons x xs ih => cases hp : p x <;> simp [hp,ih]

theorem sum_ite_zero (p : A → Bool) (k : Nat) (xs : List A) :
    (xs.map fun x => if p x then 0 else k).sum = k * xs.countP fun x => !p x := by
  induction xs with
  | nil => rfl
  | cons x xs ih =>
    cases hp : p x <;> simp [hp,ih,Nat.mul_add]
    omega

theorem count_eq_sum [DecidableEq A] (x : A) (xs : List A) :
    xs.count x = (xs.map fun y => if y = x then 1 else 0).sum := by
  induction xs with
  | nil => rfl
  | cons y xs ih => simp [count_cons,ih,Nat.add_comm]

theorem sum_count_comm [DecidableEq A] (xs ys : List A) :
    (xs.map fun x => ys.count x).sum = (ys.map fun y => xs.count y).sum := by
  simp only [count_eq_sum]
  rw [sum_map_comm]
  simp only [eq_comm]

def missed (weight : A → Nat) (xs : List A) : Nat := xs.countP fun x => weight x == 0

def repeated (weight : A → Nat) (xs : List A) : Nat := (xs.map fun x => weight x - 1).sum

theorem sum_add_missed (weight : A → Nat) (xs : List A) :
    (xs.map weight).sum + missed weight xs = xs.length + repeated weight xs := by
  unfold missed repeated
  induction xs with
  | nil => rfl
  | cons x xs ih =>
    simp only [map_cons,sum_cons,countP_cons,length_cons,beq_iff_eq]
    split <;> omega

theorem eq_of_sum_eq {f g : A → Nat} {xs : List A} (h : ∀ x ∈ xs, f x ≤ g x)
    (he : (xs.map g).sum ≤ (xs.map f).sum) : ∀ x ∈ xs, f x = g x := by
  induction xs with
  | nil => simp
  | cons x xs ih =>
    have hx := h x mem_cons_self
    have hxs : ∀ y ∈ xs, f y ≤ g y := fun y hy => h y (mem_cons_of_mem _ hy)
    have hle := sum_le_sum hxs
    simp only [map_cons,sum_cons] at he
    intro y hy
    rcases mem_cons.mp hy with rfl | hy
    · omega
    · exact ih hxs (by omega) y hy

theorem count_flatMap_split [DecidableEq A] (q : A → Bool) (f : A → List A) (cs : List A) (m : A) :
    (cs.flatMap fun c => if q c then f c else [c]).count m =
      ((cs.filter q).map fun c => (f c).count m).sum + if q m then 0 else cs.count m := by
  induction cs with
  | nil => simp
  | cons c cs ih =>
    rw [flatMap_cons,count_append,ih,filter_cons,count_cons]
    cases hc : q c
    · cases hm : q m
      · by_cases he : c = m
        · subst he
          simp
          omega
        · simp [he]
      · have he : c ≠ m := by
          rintro rfl
          rw [hm] at hc
          cases hc
        simp [he]
    · cases hm : q m
      · have he : c ≠ m := by
          rintro rfl
          rw [hm] at hc
          cases hc
        simp [he]
        omega
      · simp

theorem forall_eq_one_iff_of_sum {ns : List Nat} (h : ns.sum = ns.length) :
    (∀ n ∈ ns, n = 1) ↔ ∀ n ∈ ns, 0 < n := by
  refine ⟨fun hone n hn => hone n hn ▸ Nat.one_pos,?_⟩
  intro hpos n hn
  obtain ⟨before,after,rfl⟩ := append_of_mem hn
  have hb := length_le_sum_of_one_le before fun m hm => hpos m (mem_append_left _ hm)
  have ha := length_le_sum_of_one_le after fun m hm =>
    hpos m (mem_append_right _ (mem_cons_of_mem _ hm))
  have hn' := hpos n hn
  simp only [sum_append,sum_cons,length_append,length_cons] at h
  omega

end QnnEp.Counting
