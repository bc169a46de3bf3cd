import QnnEp.Foundation.Window
import QnnEp.Foundation.Reduction

namespace QnnEp.Tensors
open List

section
variable {R : Type}

def concatShape (axis : Nat) (ts : List (Tensor R)) : List Nat :=
  match ts with
  | [] => []
  | t :: _ => t.shape.set axis (ts.map fun s => s.shape.getD axis 0).sum

theorem concatShape_units {axis d : Nat} {shape : List Nat} {ts : List (Tensor R)} (hne : ts ≠ [])
    (h : ∀ t ∈ ts, t.shape = shape.set axis d) (haxis : axis < shape.length) :
    concatShape axis ts = shape.set axis (ts.length * d) := by
  have hsizes : ts.map (fun s => s.shape.getD axis 0) = List.replicate ts.length d := by
    refine eq_replicate_iff.mpr ⟨length_map _,?_⟩
    intro size hsize
    obtain ⟨s,hs,rfl⟩ := mem_map.mp hsize
    rw [h s hs]
    simp [haxis]
  cases ts with
  | nil => exact absurd rfl hne
  | cons t ts =>
    rw [concatShape,h t mem_cons_self,hsizes,sum_replicate,set_set]
    rfl

variable [Zero R]

def joined (axis : Nat) : List (Tensor R) → List Nat → R
  | [], _ => 0
  | t :: ts, idx =>
    if idx.getD axis 0 < t.shape.getD axis 0 then t.get idx
    else joined axis ts (idx.set axis (idx.getD axis 0 - t.shape.getD axis 0))

def concat (axis : Nat) (ts : List (Tensor R)) : Tensor R := ⟨concatShape axis ts,joined axis ts⟩

def pack (axis : Nat) (ts : List (Tensor R)) : Tensor R where
  shape := ((ts.map Tensor.shape).headD []).insertIdx axis ts.length
  get idx := ((ts.map Tensor.get).getD (idx.getD axis 0) fun _ => 0) (idx.eraseIdx axis)

theorem joined_blocks {axis d : Nat} (hd : 0 < d) {ts : List (Tensor R)}
    (h : ∀ t ∈ ts, t.shape.getD axis 0 = d) {idx : List Nat} (haxis : axis < idx.length) :
    joined axis ts idx =
      ((ts.map Tensor.get).getD (idx.getD axis 0 / d) fun _ => 0) (idx.set axis (idx.getD axis 0 % d)) := by
  induction ts generalizing idx with
  | nil => rfl
  | cons t ts ih =>
    rw [joined,h t mem_cons_self]
    by_cases hi : idx.getD axis 0 < d
    · have hset : idx.set axis (idx.getD axis 0) = idx := by
        rw [getD_eq_getElem idx 0 haxis]
        exact set_getElem_self haxis
      rw [if_pos hi,Nat.div_eq_of_lt hi,Nat.mod_eq_of_lt hi,hset]
      rfl
    · have hnext : (idx.set axis (idx.getD axis 0 - d)).getD axis 0 = idx.getD axis 0 - d := by
        rw [getD_eq_getElem _ 0 (by rwa [length_set]),getElem_set_self]
      have hrest : idx.getD axis 0 = idx.getD axis 0 - d + d := (Nat.sub_add_cancel (Nat.le_of_not_lt hi)).symm
      rw [if_neg hi,ih (fun s hs => h s (mem_cons_of_mem _ hs)) (by rwa [length_set]),hnext,
        set_set,hrest,Nat.add_div_right _ hd,Nat.add_mod_right,Nat.add_sub_cancel]
      rfl

theorem joined_units {axis : Nat} {ts : List (Tensor R)} (h : ∀ t ∈ ts, t.shape.getD axis 0 = 1)
    {idx : List Nat} (haxis : axis < idx.length) :
    joined axis ts idx =
      ((ts.map Tensor.get).getD (idx.getD axis 0) fun _ => 0) (idx.set axis 0) := by
  rw [joined_blocks Nat.one_pos h haxis,Nat.div_one,Nat.mod_one]

end

section
variable {R : Type}

def shrink (mask : List Bool) (t : Tensor R) : Tensor R :=
  ⟨droppedShape mask t.shape,fun idx => t.get (expand mask idx)⟩

def wholeRange (d : Nat) : Range := ⟨0,d,1⟩

def unitRange (i : Nat) : Range := ⟨i,i + 1,1⟩

@[simp] theorem wholeRange_size (d : Nat) : (wholeRange d).size = d := by
  simp [wholeRange,Range.size]

@[simp] theorem unitRange_size (i : Nat) : (unitRange i).size = 1 := by
  simp [unitRange,Range.size]

end

end QnnEp.Tensors
