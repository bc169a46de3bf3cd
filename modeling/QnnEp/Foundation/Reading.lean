import Mathlib.Data.List.GetD
import QnnEp.Foundation.Registry

namespace QnnEp.Reading
open List

inductive ReadError where
  | outOfRange
  deriving DecidableEq, Repr

section
variable {α β ε : Type}

def read (xs : List α) (i : Nat) : Except ReadError α :=
  match xs[i]? with
  | some x => .ok x
  | none => .error .outOfRange

theorem read_ok_iff {xs : List α} {i : Nat} {x : α} : read xs i = .ok x ↔ xs[i]? = some x := by
  unfold read
  cases xs[i]? with
  | none | some y => simp

theorem read_eq_ok {xs : List α} {i : Nat} (h : i < xs.length) (d : α) : read xs i = .ok (xs.getD i d) := by
  rw [read_ok_iff,getD_eq_getElem _ _ h,List.getElem?_eq_getElem h]

theorem mapM_ok_map {f : α → Except ε β} {g : α → β} {xs : List α} (h : ∀ x ∈ xs, f x = .ok (g x)) :
    xs.mapM f = .ok (xs.map g) := by
  induction xs with
  | nil => rfl
  | cons x xs ih =>
    rw [mapM_cons,h x mem_cons_self,ih fun y hy => h y (mem_cons_of_mem x hy)]
    rfl

theorem mapM_ok_iff {f : α → Except ε β} {xs : List α} {ys : List β} :
    xs.mapM f = .ok ys ↔ List.Forall₂ (fun x y => f x = .ok y) xs ys := by
  induction xs generalizing ys with
  | nil =>
    rw [mapM_nil,forall₂_nil_left_iff]
    exact ⟨fun h => (Except.ok.inj h).symm,fun h => h ▸ rfl⟩
  | cons x xs ih =>
    rw [mapM_cons,forall₂_cons_left_iff]
    constructor
    · intro h
      obtain ⟨y,hy,h⟩ := Registry.bind_ok h
      obtain ⟨ys',hys,h⟩ := Registry.bind_ok h
      exact ⟨y,ys',hy,ih.mp hys,(Except.ok.inj h).symm⟩
    · rintro ⟨y,ys',hy,hys,rfl⟩
      rw [hy,ih.mpr hys]
      rfl

theorem mapM_some_forall₂ {f : α → Option β} {xs : List α} {ys : List β} (h : xs.mapM f = some ys) :
    List.Forall₂ (fun x y => f x = some y) xs ys := by
  induction xs generalizing ys with
  | nil =>
    obtain rfl := Option.some.inj h
    exact .nil
  | cons x xs ih =>
    rw [mapM_cons] at h
    obtain ⟨y,hy,h⟩ := Option.bind_eq_some_iff.mp h
    obtain ⟨ys',hys,h⟩ := Option.bind_eq_some_iff.mp h
    obtain rfl := Option.some.inj h
    exact .cons hy (ih hys)

theorem mapM_ok_eq_map {f : α → Except ε β} {g : α → β} {xs : List α} {ys : List β}
    (h : xs.mapM f = .ok ys) (hg : ∀ x ∈ xs, ∀ y, f x = .ok y → y = g x) : ys = xs.map g := by
  have hall := mapM_ok_iff.mp h
  clear h
  induction hall with
  | nil => rfl
  | @cons x y xs ys hy _ ih =>
    rw [map_cons,hg x mem_cons_self y hy,
      ih fun x' hx' => hg x' (mem_cons_of_mem x hx')]

theorem mapM_error_head {f : α → Except ε β} {x : α} {xs : List α} {e : ε} (h : f x = .error e) :
    (x :: xs).mapM f = .error e := by
  rw [mapM_cons,h]
  rfl

end

def ints (xs : List Nat) : List Int := xs.map fun n : Nat => (n : Int)

@[simp] theorem ints_cons (x : Nat) (xs : List Nat) : ints (x :: xs) = (x : Int) :: ints xs := rfl

@[simp] theorem length_ints (xs : List Nat) : (ints xs).length = xs.length := length_map _

theorem ints_drop (xs : List Nat) (n : Nat) : (ints xs).drop n = ints (xs.drop n) := (map_drop ..).symm

theorem ints_getElem? (xs : List Nat) (i : Nat) :
    (ints xs)[i]? = xs[i]?.map fun n : Nat => (n : Int) := List.getElem?_map ..

theorem ints_injective : Function.Injective ints :=
  map_injective_iff.mpr fun _ _ h => Int.ofNat.inj h

theorem read_ints_ok {xs : List Nat} {i : Nat} {x : Int} (h : read (ints xs) i = .ok x) :
    x = (xs.getD i 0 : Nat) := by
  rw [read_ok_iff,ints_getElem?] at h
  obtain ⟨n,hn,rfl⟩ := Option.map_eq_some_iff.mp h
  rw [getD_eq_getElem?_getD,hn]
  rfl

theorem read_ints {xs : List Nat} {i : Nat} (h : i < xs.length) :
    read (ints xs) i = .ok ((xs.getD i 0 : Nat) : Int) := by
  rw [read_ok_iff,ints_getElem?,getD_eq_getElem _ _ h,List.getElem?_eq_getElem h]
  rfl

theorem ints_getD (xs : List Nat) (i : Nat) : (ints xs).getD i 0 = (xs.getD i 0 : Nat) := by
  rw [getD_eq_getElem?_getD,ints_getElem?,getD_eq_getElem?_getD]
  cases xs[i]? with
  | none | some x => rfl

end QnnEp.Reading
