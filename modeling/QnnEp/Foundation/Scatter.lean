import Mathlib.Data.List.ProdSigma
import Mathlib.Data.Set.Function
import Mathlib.Data.List.GetD

namespace QnnEp.Scatter
open List

section
variable {ι α : Type} (position : ι → Nat) (value : ι → α)

def scatter (is : List ι) (buffer : List α) : List α :=
  is.foldl (fun buffer i => buffer.set (position i) (value i)) buffer

theorem scatter_cons (i : ι) (is : List ι) (buffer : List α) :
    scatter position value (i :: is) buffer =
      scatter position value is (buffer.set (position i) (value i)) := rfl

@[simp] theorem length_scatter (is : List ι) (buffer : List α) :
    (scatter position value is buffer).length = buffer.length := by
  induction is generalizing buffer with
  | nil => rfl
  | cons i is ih => rw [scatter_cons,ih,length_set]

theorem scatter_untouched {is : List ι} {p : Nat} (h : ∀ i ∈ is, position i ≠ p) (buffer : List α) :
    (scatter position value is buffer)[p]? = buffer[p]? := by
  induction is generalizing buffer with
  | nil => rfl
  | cons i is ih =>
    rw [scatter_cons,ih (fun j hj => h j (mem_cons_of_mem _ hj)),
      List.getElem?_set_ne (h i mem_cons_self)]

theorem scatter_written {is : List ι} (hinj : Set.InjOn position {i | i ∈ is}) {i : ι} (hi : i ∈ is)
    {buffer : List α} (hp : position i < buffer.length) :
    (scatter position value is buffer)[position i]? = some (value i) := by
  induction is generalizing buffer with
  | nil => cases hi
  | cons j is ih =>
    rw [scatter_cons]
    by_cases hmem : i ∈ is
    · apply ih (hinj.mono fun k hk => mem_cons_of_mem _ hk) hmem
      rw [length_set]
      exact hp
    · have hij : i = j := (mem_cons.mp hi).resolve_right hmem
      subst hij
      rw [scatter_untouched position value _ _]
      · rw [List.getElem?_set_self hp]
      · intro k hk he
        obtain rfl := hinj (mem_cons_of_mem _ hk) hi he
        exact hmem hk

end

theorem index_lt {r c R C : Nat} (hr : r < R) (hc : c < C) : r * C + c < R * C := by
  have h : (r + 1) * C ≤ R * C := Nat.mul_le_mul_right C hr
  rw [Nat.add_mul,Nat.one_mul] at h
  omega

theorem index_inj {r c r' c' C : Nat} (hc : c < C) (hc' : c' < C) (h : r * C + c = r' * C + c') :
    r = r' ∧ c = c' := by
  have hr : r = r' := by
    have h1 : (r * C + c) / C = r := by
      rw [Nat.mul_comm,Nat.mul_add_div (by omega),Nat.div_eq_of_lt hc,Nat.add_zero]
    have h2 : (r' * C + c') / C = r' := by
      rw [Nat.mul_comm,Nat.mul_add_div (by omega),Nat.div_eq_of_lt hc',Nat.add_zero]
    rw [← h1,← h2,h]
  subst hr
  exact ⟨rfl,by omega⟩

theorem getD_flatMap {α β : Type} {f : α → List β} {size : Nat} (hsize : ∀ a, (f a).length = size)
    (xs : List α) (a : α) (b : β) {j i : Nat} (hj : j < xs.length) (hi : i < size) :
    (xs.flatMap f).getD (j * size + i) b = (f (xs.getD j a)).getD i b := by
  induction xs generalizing j with
  | nil => cases hj
  | cons x xs ih =>
    rw [flatMap_cons]
    cases j with
    | zero =>
      rw [Nat.zero_mul,Nat.zero_add,getD_append _ _ _ _ (by rw [hsize]; exact hi)]
      rfl
    | succ j =>
      have hskip : (j + 1) * size + i - (f x).length = j * size + i := by
        rw [hsize,Nat.add_mul,Nat.one_mul]
        omega
      rw [getD_append_right _ _ _ _ (by rw [hsize,Nat.add_mul]; omega),hskip]
      exact ih (Nat.lt_of_succ_lt_succ hj)

theorem length_flatMap {α β : Type} {f : α → List β} {size : Nat} (hsize : ∀ a, (f a).length = size)
    (xs : List α) : (xs.flatMap f).length = xs.length * size := by
  induction xs with
  | nil => simp
  | cons x xs ih =>
    rw [flatMap_cons,length_append,hsize,ih,length_cons,Nat.add_mul,Nat.one_mul,
      Nat.add_comm]

section
variable {ι α : Type} (size : Nat) (position source : ι → Nat) (zero : α) (input : List α)

def scatterElements (is : List ι) (buffer : List α) : List α :=
  scatter (fun p : ι × Nat => position p.1 * size + p.2)
    (fun p => input.getD (source p.1 * size + p.2) zero) (is ×ˢ List.range size) buffer

@[simp] theorem length_scatterElements (is : List ι) (buffer : List α) :
    (scatterElements size position source zero input is buffer).length = buffer.length :=
  length_scatter _ _ _ _

theorem scatterElements_written {is : List ι} (hinj : Set.InjOn position {i | i ∈ is}) {i : ι}
    (hi : i ∈ is) {b : Nat} (hb : b < size) {buffer : List α}
    (hp : position i * size + b < buffer.length) :
    (scatterElements size position source zero input is buffer)[position i * size + b]? =
      some (input.getD (source i * size + b) zero) := by
  have hinj' : Set.InjOn (fun p : ι × Nat => position p.1 * size + p.2)
      {p | p ∈ is ×ˢ List.range size} := by
    rintro ⟨i₁,b₁⟩ h₁ ⟨i₂,b₂⟩ h₂ he
    obtain ⟨hi₁,hb₁⟩ := mem_product.mp h₁
    obtain ⟨hi₂,hb₂⟩ := mem_product.mp h₂
    obtain ⟨hpos,hbyte⟩ := index_inj (mem_range.mp hb₁) (mem_range.mp hb₂) he
    exact Prod.ext (hinj hi₁ hi₂ hpos) hbyte
  have hmem : (i,b) ∈ is ×ˢ List.range size :=
    mem_product.mpr ⟨hi,mem_range.mpr hb⟩
  exact scatter_written (fun p : ι × Nat => position p.1 * size + p.2) _ hinj' hmem hp

end

section
variable {α : Type} (rows cols : Nat) (zero : α) (data : List α)

def transpose : List α :=
  scatter (fun p : Nat × Nat => p.2 * rows + p.1) (fun p => data.getD (p.1 * cols + p.2) zero)
    (List.range rows ×ˢ List.range cols) (List.replicate data.length zero)

@[simp] theorem length_transpose : (transpose rows cols zero data).length = data.length := by
  simp [transpose]

theorem transpose_getD (hlen : data.length = rows * cols) {r c : Nat} (hr : r < rows) (hc : c < cols) :
    (transpose rows cols zero data).getD (c * rows + r) zero = data.getD (r * cols + c) zero := by
  have hinj : Set.InjOn (fun p : Nat × Nat => p.2 * rows + p.1)
      {p | p ∈ List.range rows ×ˢ List.range cols} := by
    rintro ⟨r₁,c₁⟩ h₁ ⟨r₂,c₂⟩ h₂ he
    have h₁' := mem_range.mp (mem_product.mp h₁).1
    have h₂' := mem_range.mp (mem_product.mp h₂).1
    obtain ⟨hc',hr'⟩ := index_inj h₁' h₂' he
    exact Prod.ext hr' hc'
  have hmem : (r,c) ∈ List.range rows ×ˢ List.range cols := by
    simp [mem_product,hr,hc]
  have hp : c * rows + r < (List.replicate data.length zero).length := by
    rw [length_replicate,hlen,Nat.mul_comm rows]
    exact index_lt hc hr
  have hw := scatter_written (fun p : Nat × Nat => p.2 * rows + p.1)
    (fun p => data.getD (p.1 * cols + p.2) zero) hinj hmem hp
  rw [getD_eq_getElem?_getD,transpose,hw]
  rfl

end

end QnnEp.Scatter
