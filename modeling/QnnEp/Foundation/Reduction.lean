import QnnEp.Foundation.Tensor

namespace QnnEp.Tensors
open List

theorem unravel_inBounds {shape : List Nat} {n : Nat} (h : n < shape.prod) :
    InBounds shape (unravel shape n) := by
  induction shape generalizing n with
  | nil => exact .nil
  | cons d ds ih =>
    rw [prod_cons] at h
    have hpos : 0 < ds.prod := Nat.pos_of_ne_zero fun hzero => by simp [hzero] at h
    refine .cons ?_ (ih (Nat.mod_lt _ hpos))
    exact Nat.div_lt_of_lt_mul (Nat.mul_comm d ds.prod ▸ h)

theorem ravel_unravel {shape : List Nat} {n : Nat} (h : n < shape.prod) :
    ravel shape (unravel shape n) = n := by
  induction shape generalizing n with
  | nil =>
    have : n = 0 := by simpa using h
    simp [ravel,this]
  | cons d ds ih =>
    rw [prod_cons] at h
    have hpos : 0 < ds.prod := Nat.pos_of_ne_zero fun hzero => by simp [hzero] at h
    rw [unravel,ravel,ih (Nat.mod_lt _ hpos),Nat.div_add_mod']

section
variable {R : Type}

def Tensor.flat (t : Tensor R) (j : Nat) : R := t.get (unravel t.shape j)

theorem Tensor.get_eq_flat {t : Tensor R} {idx : List Nat} (h : InBounds t.shape idx) :
    t.get idx = t.flat (ravel t.shape idx) := by
  rw [Tensor.flat,unravel_ravel h]

def Tensor.ofFlat (shape : List Nat) (f : Nat → R) : Tensor R := ⟨shape,fun idx => f (ravel shape idx)⟩

structure Flattens (t s : Tensor R) : Prop where
  prod : s.shape.prod = t.shape.prod
  flat : ∀ j < t.shape.prod, s.flat j = t.flat j

theorem flattens_reshape {t : Tensor R} {shape : List Nat} (h : shape.prod = t.shape.prod) :
    Flattens t (t.reshape shape) := by
  refine ⟨h,?_⟩
  intro j hj
  change t.get (unravel t.shape (ravel shape (unravel shape j))) = _
  rw [ravel_unravel (h ▸ hj)]
  rfl

theorem reshape_self (t : Tensor R) : (t.reshape t.shape).Same t := by
  refine ⟨rfl,?_⟩
  intro idx hidx
  exact Tensor.reshape_get hidx rfl

theorem reshape_reshape {t : Tensor R} {shape : List Nat} (h : shape.prod = t.shape.prod)
    (target : List Nat) (htarget : target.prod = shape.prod) :
    ((t.reshape shape).reshape target).Same (t.reshape target) := by
  refine ⟨rfl,?_⟩
  intro idx hidx
  have hlt : ravel target idx < shape.prod := htarget ▸ ravel_lt hidx
  exact (flattens_reshape h).flat _ (h ▸ hlt)

end

def keptShape (mask : List Bool) (shape : List Nat) : List Nat :=
  List.zipWith (fun reduced d => if reduced then 1 else d) mask shape

def droppedShape : List Bool → List Nat → List Nat
  | reduced :: mask, d :: shape =>
    if reduced then droppedShape mask shape else d :: droppedShape mask shape
  | _, _ => []

def expand : List Bool → List Nat → List Nat
  | true :: mask, idx => 0 :: expand mask idx
  | false :: mask, i :: idx => i :: expand mask idx
  | _, _ => []

def lane : List Nat → List Bool → List Nat → List (List Nat)
  | d :: shape, reduced :: mask, i :: idx =>
    (if reduced then List.range d else [i]).flatMap fun j => (lane shape mask idx).map (j :: ·)
  | _, _, _ => [[]]

theorem mem_lane {shape : List Nat} {mask : List Bool} {idx source : List Nat}
    (hmask : mask.length = shape.length) (hidx : InBounds (keptShape mask shape) idx)
    (h : source ∈ lane shape mask idx) :
    InBounds shape source ∧ broadcastIndex (keptShape mask shape) source = idx := by
  have key : InBounds shape source ∧
      List.zipWith (fun d i => if d = 1 then 0 else i) (keptShape mask shape) source = idx := by
    induction shape generalizing mask idx source with
    | nil =>
      obtain rfl := length_eq_zero_iff.mp hmask
      cases hidx
      obtain rfl := mem_singleton.mp h
      exact ⟨.nil,rfl⟩
    | cons d shape ih =>
      cases mask with
      | nil => cases hmask
      | cons reduced mask =>
        rw [keptShape,zipWith_cons_cons] at hidx
        obtain _ | ⟨hi,hrest⟩ := hidx
        simp only [lane,mem_flatMap,mem_map] at h
        obtain ⟨j,hj,rest,hmem,rfl⟩ := h
        obtain ⟨hin,hback⟩ := ih (Nat.succ.inj hmask) hrest hmem
        simp only [keptShape,zipWith_cons_cons] at hback ⊢
        rw [hback]
        cases reduced with
        | true =>
          rw [if_pos rfl] at hi hj
          refine ⟨.cons (mem_range.mp hj) hin,?_⟩
          rw [if_pos rfl,if_pos rfl,Nat.lt_one_iff.mp hi]
        | false =>
          rw [if_neg Bool.false_ne_true] at hi hj
          obtain rfl := mem_singleton.mp hj
          refine ⟨.cons hi hin,?_⟩
          rw [if_neg Bool.false_ne_true]
          split <;> simp_all
  refine ⟨key.1,?_⟩
  have hlen : source.length = (keptShape mask shape).length := by
    rw [key.1.length_eq,keptShape,length_zipWith,hmask,Nat.min_self]
  rw [broadcastIndex,hlen,Nat.sub_self,drop_zero]
  exact key.2

theorem prod_keptShape {mask : List Bool} {shape : List Nat} (hmask : mask.length = shape.length) :
    (keptShape mask shape).prod = (droppedShape mask shape).prod := by
  induction shape generalizing mask with
  | nil =>
    obtain rfl := length_eq_zero_iff.mp hmask
    rfl
  | cons d shape ih =>
    cases mask with
    | nil => cases hmask
    | cons reduced mask =>
      have hrest := ih (Nat.succ.inj hmask)
      simp only [keptShape,droppedShape,zipWith_cons_cons,prod_cons] at hrest ⊢
      cases reduced <;> simp [hrest]

theorem expand_inBounds {shape : List Nat} {mask : List Bool} {idx : List Nat}
    (hmask : mask.length = shape.length) (hidx : InBounds (droppedShape mask shape) idx) :
    InBounds (keptShape mask shape) (expand mask idx) ∧
      ravel (keptShape mask shape) (expand mask idx) = ravel (droppedShape mask shape) idx := by
  induction shape generalizing mask idx with
  | nil =>
    obtain rfl := length_eq_zero_iff.mp hmask
    exact ⟨.nil,by cases hidx; rfl⟩
  | cons d shape ih =>
    cases mask with
    | nil => cases hmask
    | cons reduced mask =>
      have hprod := prod_keptShape (Nat.succ.inj hmask)
      cases reduced with
      | true =>
        obtain ⟨hin,hravel⟩ := ih (Nat.succ.inj hmask) hidx
        refine ⟨.cons Nat.one_pos hin,?_⟩
        simp only [keptShape,zipWith_cons_cons] at hravel ⊢
        rw [expand,ravel,hravel,Nat.zero_mul,Nat.zero_add]
        rfl
      | false =>
        rw [droppedShape,if_neg Bool.false_ne_true] at hidx
        obtain _ | ⟨hi,hrest⟩ := hidx
        obtain ⟨hin,hravel⟩ := ih (Nat.succ.inj hmask) hrest
        refine ⟨.cons hi hin,?_⟩
        simp only [keptShape,droppedShape,zipWith_cons_cons,expand,Bool.false_eq_true,if_false,
          ravel] at hravel hprod ⊢
        rw [hravel,hprod]

section
variable {R : Type} (f : List R → R) (mask : List Bool) (t : Tensor R)

def reduceKept : Tensor R where
  shape := keptShape mask t.shape
  get idx := f ((lane t.shape mask idx).map t.get)

def reduceDropped : Tensor R where
  shape := droppedShape mask t.shape
  get idx := f ((lane t.shape mask (expand mask idx)).map t.get)

def reduce (keepDims : Bool) : Tensor R := if keepDims then reduceKept f mask t else reduceDropped f mask t

theorem reduceKept_reshape_dropped (hmask : mask.length = t.shape.length) :
    ((reduceKept f mask t).reshape (droppedShape mask t.shape)).Same (reduceDropped f mask t) := by
  refine ⟨rfl,fun idx hidx => ?_⟩
  obtain ⟨hin,hravel⟩ := expand_inBounds hmask hidx
  exact Tensor.reshape_get hin hravel.symm

variable {mask t} in
theorem Tensor.Same.reduce {s : Tensor R} (h : s.Same t) (hmask : mask.length = t.shape.length)
    (keepDims : Bool) : (Tensors.reduce f mask s keepDims).Same (Tensors.reduce f mask t keepDims) := by
  have hlane : ∀ idx, InBounds (keptShape mask t.shape) idx →
      (lane s.shape mask idx).map s.get = (lane t.shape mask idx).map t.get := by
    intro idx hidx
    rw [h.1]
    exact map_congr_left fun i hi => h.2 i (mem_lane hmask hidx hi).1
  cases keepDims with
  | true => exact ⟨congrArg (keptShape mask) h.1,fun idx hidx => congrArg f (hlane idx hidx)⟩
  | false =>
    exact ⟨congrArg (droppedShape mask) h.1,fun idx hidx =>
      congrArg f (hlane _ (expand_inBounds hmask hidx).1)⟩

end

section
variable {R : Type}

theorem Tensor.Same.reshape {s t : Tensor R} (h : s.Same t) {shape : List Nat}
    (hprod : shape.prod = t.shape.prod) : (s.reshape shape).Same (t.reshape shape) := by
  refine ⟨rfl,fun idx hidx => ?_⟩
  have hlt : ravel shape idx < t.shape.prod := hprod ▸ ravel_lt hidx
  change s.get (unravel s.shape (ravel shape idx)) = t.get (unravel t.shape (ravel shape idx))
  rw [h.1]
  exact h.2 _ (unravel_inBounds hlt)

end

end QnnEp.Tensors
