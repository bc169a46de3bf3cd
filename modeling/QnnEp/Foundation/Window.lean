import QnnEp.Foundation.Tensor

namespace QnnEp.Tensors
open List
variable {extents idx : List Nat} {n : Nat}

def turn (digit : Nat × Nat) (state : Bool × List Nat) : Bool × List Nat :=
  if state.1 then
    if digit.2 + 1 < digit.1 then (false,(digit.2 + 1) :: state.2) else (true,0 :: state.2)
  else (false,digit.2 :: state.2)

def tick (extents idx : List Nat) : Bool × List Nat := (extents.zip idx).foldr turn (true,[])

theorem tick_cons (d i : Nat) (ds is : List Nat) :
    tick (d :: ds) (i :: is) = turn (d,i) (tick ds is) := rfl

theorem tick_inBounds (h : InBounds extents idx) : InBounds extents (tick extents idx).2 := by
  induction h with
  | nil => exact .nil
  | @cons i d is ds hi _ ih =>
    rw [tick_cons,turn]
    split
    · split
      · next hlt => exact .cons hlt ih
      · exact .cons (Nat.zero_lt_of_lt hi) ih
    · exact .cons hi ih

theorem ravel_tick (h : InBounds extents idx) :
    ravel extents (tick extents idx).2 + (if (tick extents idx).1 then extents.prod else 0) =
      ravel extents idx + 1 := by
  induction h with
  | nil => rfl
  | @cons i d is ds hi _ ih =>
    rw [tick_cons,turn]
    cases hcarry : (tick ds is).1 with
    | true =>
      rw [hcarry,if_pos rfl] at ih
      rw [if_pos rfl]
      split
      · simp only [ravel,Bool.false_eq_true,if_false]
        rw [Nat.succ_mul]
        omega
      · next hlast =>
        obtain rfl : d = i + 1 := by omega
        simp only [ravel,if_true,prod_cons]
        rw [Nat.succ_mul]
        omega
    | false =>
      rw [hcarry] at ih
      simp only [ravel,Bool.false_eq_true,if_false] at ih ⊢
      omega

theorem origin_inBounds (h : 0 < extents.prod) :
    InBounds extents (List.replicate extents.length 0) ∧
      ravel extents (List.replicate extents.length 0) = 0 := by
  induction extents with
  | nil => exact ⟨.nil,rfl⟩
  | cons d ds ih =>
    rw [prod_cons] at h
    obtain ⟨hin,hzero⟩ := ih (Nat.pos_of_mul_pos_left h)
    refine ⟨.cons (Nat.pos_of_mul_pos_right h) hin,?_⟩
    rw [length_cons,replicate_succ,ravel,hzero,Nat.zero_mul]

section
variable {α : Type} (extents : List Nat) (value : List Nat → α)

def walkStep (state : List α × List Nat) : List α × List Nat :=
  (state.1 ++ [value state.2],(tick extents state.2).2)

def walk (positions : Nat) : List α × List Nat :=
  (List.range positions).foldl (fun state _ => walkStep extents value state)
    ([],List.replicate extents.length 0)

theorem walk_succ (n : Nat) :
    walk extents value (n + 1) = walkStep extents value (walk extents value n) := by
  simp only [walk,range_succ,foldl_append,foldl_cons,foldl_nil]

theorem walk_at (h : n < extents.prod) :
    InBounds extents (walk extents value n).2 ∧ ravel extents (walk extents value n).2 = n := by
  induction n with
  | zero => exact origin_inBounds h
  | succ n ih =>
    obtain ⟨hin,hravel⟩ := ih (by omega)
    rw [walk_succ]
    refine ⟨tick_inBounds hin,?_⟩
    have hstep := ravel_tick hin
    rw [hravel] at hstep
    change ravel extents (tick extents (walk extents value n).2).2 = n + 1
    split at hstep <;> omega

theorem walk_values (h : n ≤ extents.prod) :
    (walk extents value n).1 = (List.range n).map fun i => value (unravel extents i) := by
  induction n with
  | zero => rfl
  | succ n ih =>
    obtain ⟨hin,hravel⟩ := walk_at extents value (show n < extents.prod from h)
    have hidx := unravel_ravel hin
    rw [hravel] at hidx
    rw [walk_succ,range_succ,map_append,← ih (by omega)]
    simp only [walkStep,map_cons,map_nil]
    rw [← hidx]

end

def padIndex : List Int → List Nat → List Nat → Option (List Nat)
  | before :: befores, d :: shape, i :: idx =>
    if 0 ≤ (i : Int) - before ∧ (i : Int) - before < d then
      (padIndex befores shape idx).map (((i : Int) - before).toNat :: ·)
    else none
  | _, _, _ => some []

def paddedShape (before after : List Int) (shape : List Nat) : List Nat :=
  List.zipWith (fun (d : Nat) (p : Int × Int) => ((d : Int) + p.1 + p.2).toNat) shape (before.zip after)

def padConstant {α : Type} (before after : List Int) (value : α) (t : Tensor α) : Tensor α where
  shape := paddedShape before after t.shape
  get idx := ((padIndex before t.shape idx).map t.get).getD value

structure Range where
  start : Nat
  stop : Nat
  step : Nat

def Range.size (range : Range) : Nat := (range.stop - range.start + range.step - 1) / range.step

def Range.Valid (range : Range) (d : Nat) : Prop :=
  range.start ≤ range.stop ∧ range.stop ≤ d ∧ 0 < range.step

instance (range : Range) (d : Nat) : Decidable (range.Valid d) :=
  inferInstanceAs (Decidable (_ ∧ _))

def stridedSlice {α : Type} (ranges : List Range) (t : Tensor α) : Tensor α where
  shape := ranges.map Range.size
  get idx := t.get (List.zipWith (fun range i => range.start + i * range.step) ranges idx)

section
variable {ι : Type} {axes : List ι} {idx : List Nat}

theorem padIndex_shift {dims : ι → Nat} {before shifted : ι → Int} {starts : ι → Nat}
    (h : ∀ a ∈ axes, (starts a : Int) - shifted a = -before a) :
    padIndex (axes.map shifted) (axes.map dims) (List.zipWith (· + ·) (axes.map starts) idx) =
      padIndex (axes.map before) (axes.map dims) idx := by
  induction axes generalizing idx with
  | nil => rfl
  | cons a axes ih =>
    cases idx with
    | nil => rfl
    | cons i idx =>
      have ha := h a mem_cons_self
      have hshift : ((starts a + i : Nat) : Int) - shifted a = (i : Int) - before a := by
        push_cast
        omega
      simp only [map_cons,zipWith_cons_cons,padIndex,hshift,
        ih fun b hb => h b (mem_cons_of_mem _ hb)]

theorem padIndex_inside {dims outs starts : ι → Nat} {before : ι → Int}
    (hidx : InBounds (axes.map outs) idx) (hstart : ∀ a ∈ axes, (starts a : Int) = -before a)
    (hfits : ∀ a ∈ axes, starts a + outs a ≤ dims a) :
    padIndex (axes.map before) (axes.map dims) idx =
      some (List.zipWith (· + ·) (axes.map starts) idx) := by
  induction axes generalizing idx with
  | nil =>
    cases hidx
    rfl
  | cons a axes ih =>
    obtain _ | ⟨hi,hrest⟩ := hidx
    next i idx =>
    have ha := hstart a mem_cons_self
    have hsize := hfits a mem_cons_self
    have hrest := ih hrest (fun b hb => hstart b (mem_cons_of_mem _ hb))
      (fun b hb => hfits b (mem_cons_of_mem _ hb))
    have hinside : 0 ≤ (i : Int) - before a ∧ (i : Int) - before a < dims a := by omega
    have hindex : ((i : Int) - before a).toNat = starts a + i := by omega
    simp only [map_cons,zipWith_cons_cons,padIndex,hinside,and_self,if_true,hrest,hindex,
      Option.map_some]

theorem paddedShape_map (dims : ι → Nat) (before after : ι → Int) :
    paddedShape (axes.map before) (axes.map after) (axes.map dims) =
      axes.map fun a => ((dims a : Int) + before a + after a).toNat := by
  induction axes with
  | nil => rfl
  | cons a axes ih =>
    simp only [paddedShape,map_cons,zip_cons_cons,zipWith_cons_cons] at ih ⊢
    rw [ih]

end

theorem getD_map_range {α : Type} (f : Nat → α) (default : α) {a : Nat} (h : a < n) :
    ((List.range n).map f).getD a default = f a := by
  simp [h]

structure Window where
  start : Int
  size : Nat
  step : Nat

variable {w : Window} {ws : List Window}

namespace Window

def Covers (w : Window) (i : Nat) : Prop := ∃ j < w.size, (i : Int) = w.start + j * w.step

instance (w : Window) (i : Nat) : Decidable (w.Covers i) :=
  inferInstanceAs (Decidable (∃ j < w.size, (i : Int) = w.start + j * w.step))

def positions (w : Window) (extent : Nat) : List Nat := (List.range extent).filter fun i => w.Covers i

def clampedCount (start size extent : Int) : Int := max (min (start + size) extent - max start 0) 0

theorem covers_iff_of_unit (h : w.step = 1) (i : Nat) :
    w.Covers i ↔ w.start ≤ i ∧ (i : Int) < w.start + w.size := by
  simp only [Covers,h]
  constructor
  · rintro ⟨j,hj,hi⟩
    omega
  · rintro ⟨hstart,hend⟩
    exact ⟨(i - w.start).toNat,by omega,by omega⟩

theorem length_positions (h : w.step = 1) (extent : Nat) :
    ((w.positions extent).length : Int) = clampedCount w.start w.size extent := by
  induction extent with
  | zero => simp [positions,clampedCount]
  | succ n ih =>
    simp only [positions,clampedCount] at ih
    simp only [positions,clampedCount,range_succ,filter_append,length_append,
      Nat.cast_add,ih]
    by_cases hcovers : w.Covers n
    · have hin := (covers_iff_of_unit h n).mp hcovers
      simp only [filter_cons,hcovers,decide_true,if_true,filter_nil,length_singleton]
      omega
    · have hout := mt (covers_iff_of_unit h n).mpr hcovers
      simp only [filter_cons,hcovers,decide_false,Bool.false_eq_true,if_false,filter_nil,
        length_nil]
      omega

end Window

def box : List Nat → List Window → List (List Nat)
  | extent :: extents, w :: ws =>
    (w.positions extent).flatMap fun i => (box extents ws).map (i :: ·)
  | _, _ => [[]]

theorem mem_box (h : ws.length = extents.length) :
    idx ∈ box extents ws ↔ InBounds extents idx ∧ List.Forall₂ Window.Covers ws idx := by
  induction extents generalizing ws idx with
  | nil =>
    obtain rfl := length_eq_zero_iff.mp h
    simp [box]
  | cons extent extents ih =>
    cases ws with
    | nil => cases h
    | cons w ws =>
      simp only [box,mem_flatMap,mem_map,ih (Nat.succ.inj h),Window.positions,
        mem_filter,mem_range,decide_eq_true_eq]
      constructor
      · rintro ⟨i,⟨hi,hcovers⟩,is,⟨hin,hall⟩,rfl⟩
        exact ⟨.cons hi hin,.cons hcovers hall⟩
      · rintro ⟨_ | ⟨hi,hin⟩,hall⟩
        rcases hall with _ | ⟨hcovers,hall⟩
        exact ⟨_,⟨hi,hcovers⟩,_,⟨hin,hall⟩,rfl⟩

theorem length_box (hunit : ∀ w ∈ ws, w.step = 1) :
    ((box extents ws).length : Int) =
      (List.zipWith (fun w extent => Window.clampedCount w.start w.size (extent : Nat)) ws extents).prod := by
  induction extents generalizing ws with
  | nil => cases ws <;> rfl
  | cons extent extents ih =>
    cases ws with
    | nil => rfl
    | cons w ws =>
      rw [zipWith_cons_cons,prod_cons,← ih fun w hw => hunit w (mem_cons_of_mem _ hw),
        ← Window.length_positions (hunit w mem_cons_self)]
      simp [box,length_flatMap]

end QnnEp.Tensors
