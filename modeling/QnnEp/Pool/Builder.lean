import QnnEp.Pool.SamePads
import QnnEp.Qdq.Annotated
import QnnEp.Slice.Builder

namespace QnnEp.Pool
open List
open Qdq (OnnxType)
open Slice (QnnBackendType isNpuBackend)
open Status

inductive QnnPoolOp where
  | poolMax2d
  | poolAvg2d
  | poolMax3d
  | poolAvg3d
  deriving DecidableEq, Repr

def isCpuBackend (backend : QnnBackendType) : Bool := backend = .cpu

def isGpuBackend (backend : QnnBackendType) : Bool := backend = .gpu

def dataTypeCheckForCpuBackend (backend : QnnBackendType) (type : OnnxType) : Except String Unit :=
  returnIf (isCpuBackend backend ∧ type ≠ .float) "QNN CPU backend only support float data type."

def reArrangeStep (middlePos : Nat) (firstHalf pads : List UInt32) (i : Nat) : List UInt32 :=
  let pads := pads.set (2 * i) (firstHalf.getD i 0)
  pads.set (2 * i + 1) (pads.getD (middlePos + i) 0)

def reArrangePads (pads : List UInt32) : List UInt32 :=
  let middlePos := pads.length / 2
  (List.range middlePos).foldl (reArrangeStep middlePos (pads.take middlePos)) pads

theorem length_reArrange (middlePos : Nat) (firstHalf pads : List UInt32) (is : List Nat) :
    (is.foldl (reArrangeStep middlePos firstHalf) pads).length = pads.length := by
  induction is generalizing pads with
  | nil => rfl
  | cons i is ih =>
    rw [foldl_cons,ih]
    simp [reArrangeStep]

theorem reArrange_loop (pads : List UInt32) {middlePos count : Nat}
    (hmiddle : middlePos * 2 ≤ pads.length) (hcount : count ≤ middlePos) (i : Nat) :
    ((List.range count).foldl (reArrangeStep middlePos (pads.take middlePos)) pads)[i]? =
      if i < 2 * count then
        if i % 2 = 0 then pads[i / 2]? else pads[middlePos + i / 2]?
      else pads[i]? := by
  induction count generalizing i with
  | zero => simp
  | succ count ih =>
    specialize ih (by omega)
    have hlen := length_reArrange middlePos (pads.take middlePos) pads (List.range count)
    rw [range_succ,foldl_append,foldl_cons,foldl_nil]
    generalize (List.range count).foldl (reArrangeStep middlePos (pads.take middlePos)) pads = acc
      at ih hlen
    have hsecond : (acc.set (2 * count) ((pads.take middlePos).getD count 0)).getD (middlePos + count) 0 =
        pads.getD (middlePos + count) 0 := by
      rw [getD_eq_getElem?_getD,List.getElem?_set_ne (by omega),ih,if_neg (by omega),
        ← getD_eq_getElem?_getD]
    simp only [reArrangeStep,hsecond]
    rw [List.getElem?_set,length_set,List.getElem?_set,hlen,ih]
    have hfirst : (pads.take middlePos).getD count 0 = pads.getD count 0 := by
      rw [getD_eq_getElem?_getD,List.getElem?_take_of_lt (by omega),getD_eq_getElem?_getD]
    rw [hfirst]
    rcases Nat.lt_trichotomy i (2 * count) with hlt | rfl | hgt
    · simp [show 2 * count + 1 ≠ i by omega,show 2 * count ≠ i by omega,hlt,
        show i < 2 * (count + 1) by omega]
    · have hcount : count < pads.length := by omega
      simp [show 2 * count < pads.length by omega,hcount]
    · obtain rfl | hne := Decidable.em (i = 2 * count + 1)
      · have hlast : middlePos + count < pads.length := by omega
        have hhalf : (2 * count + 1) / 2 = count := by omega
        simp [show 2 * count + 1 < pads.length by omega,show 2 * count + 1 < 2 * (count + 1) by omega,
          hlast,hhalf]
      · simp [Ne.symm hne,show 2 * count ≠ i by omega,show ¬i < 2 * count by omega,
          show ¬i < 2 * (count + 1) by omega]

theorem reArrangePads_begin (pads : List UInt32) {axis : Nat} (h : axis < pads.length / 2) :
    (reArrangePads pads).getD (2 * axis) 0 = pads.getD axis 0 := by
  rw [reArrangePads,getD_eq_getElem?_getD,reArrange_loop pads (by omega) le_rfl,
    if_pos (by omega),if_pos (by omega),getD_eq_getElem?_getD]
  congr 3
  omega

theorem reArrangePads_end (pads : List UInt32) {axis : Nat} (h : axis < pads.length / 2) :
    (reArrangePads pads).getD (2 * axis + 1) 0 = pads.getD (pads.length / 2 + axis) 0 := by
  rw [reArrangePads,getD_eq_getElem?_getD,reArrange_loop pads (by omega) le_rfl,
    if_pos (by omega),if_neg (by omega),getD_eq_getElem?_getD]
  congr 4
  omega

theorem getElem?_interleaved (axes : List (UInt32 × UInt32)) (i : Nat) :
    (axes.flatMap fun axis => [axis.1,axis.2])[i]? =
      axes[i / 2]?.map fun axis => if i % 2 = 0 then axis.1 else axis.2 := by
  induction axes generalizing i with
  | nil => rfl
  | cons axis axes ih =>
    rcases i with _ | _ | i
    · rfl
    · rfl
    · have hhalf : (i + 2) / 2 = i / 2 + 1 := by omega
      have hparity : (i + 2) % 2 = i % 2 := Nat.add_mod_right i 2
      rw [flatMap_cons,hhalf,hparity,List.getElem?_cons_succ]
      exact ih i

def reArranged (pads : List UInt32) (count : Nat) : List UInt32 :=
  (List.range count).foldl (reArrangeStep (pads.length / 2) (pads.take (pads.length / 2))) pads

def beginWritten (pads : List UInt32) (i : Nat) : List UInt32 :=
  (reArranged pads i).set (2 * i) ((pads.take (pads.length / 2)).getD i 0)

theorem reArranged_succ (pads : List UInt32) (i : Nat) :
    reArranged pads (i + 1) = (beginWritten pads i).set (2 * i + 1)
      ((beginWritten pads i).getD (pads.length / 2 + i) 0) := by
  rw [reArranged,range_succ,foldl_append]
  rfl

structure ReadsEnds (begins ends : List UInt32) (i : Nat) : Prop where
  inBounds : 2 * i + 1 < (begins ++ ends).length
  unread : ∀ j, i ≤ j → j < ends.length →
    (beginWritten (begins ++ ends) i)[begins.length + j]? = ends[j]?
  written : reArranged (begins ++ ends) (i + 1) =
    (beginWritten (begins ++ ends) i).set (2 * i + 1) (ends.getD i 0)

section
variable {begins ends : List UInt32}

theorem half_length (h : begins.length = ends.length) :
    (begins ++ ends).length / 2 = begins.length := by
  rw [length_append]
  omega

theorem beginWritten_unread (h : begins.length = ends.length) {i j : Nat} (hij : i ≤ j)
    (hj : j < ends.length) : (beginWritten (begins ++ ends) i)[begins.length + j]? = ends[j]? := by
  have hmiddle : begins.length * 2 ≤ (begins ++ ends).length := by
    rw [length_append]
    omega
  rw [beginWritten,List.getElem?_set_ne (by omega),reArranged,half_length h,
    reArrange_loop _ hmiddle (by omega),if_neg (by omega),List.getElem?_append_right (by omega),
    Nat.add_sub_cancel_left]

theorem readsEnds (h : begins.length = ends.length) {i : Nat} (hi : i < begins.length) :
    ReadsEnds begins ends i := by
  refine ⟨?_,fun j => beginWritten_unread h,?_⟩
  · rw [length_append]
    omega
  · have hread := beginWritten_unread h (Nat.le_refl i) (h ▸ hi)
    rw [reArranged_succ,half_length h,getD_eq_getElem?_getD,hread,← getD_eq_getElem?_getD]

theorem reArrangePads_flatMap (axes : List (UInt32 × UInt32)) :
    reArrangePads (axes.map Prod.fst ++ axes.map Prod.snd) =
      axes.flatMap fun axis => [axis.1,axis.2] := by
  have hlength : (axes.map Prod.fst ++ axes.map Prod.snd).length = axes.length * 2 := by
    rw [length_append,length_map,length_map]
    omega
  refine ext_getElem? fun i => ?_
  rw [reArrangePads,hlength,Nat.mul_div_cancel _ Nat.two_pos,
    reArrange_loop _ (Nat.le_of_eq hlength.symm) le_rfl,getElem?_interleaved]
  split
  next hi =>
    have hhalf : i / 2 < axes.length := by omega
    split
    next =>
      rw [List.getElem?_append_left (by simpa using hhalf),List.getElem?_map]
    next =>
      rw [List.getElem?_append_right (by simp),length_map,Nat.add_sub_cancel_left,List.getElem?_map]
  next hi =>
    rw [List.getElem?_eq_none (by omega : _ ≤ i),List.getElem?_eq_none (by omega : _ ≤ i / 2)]
    rfl

theorem reArrangePads_interleaves (h : begins.length = ends.length) :
    reArrangePads (begins ++ ends) = (begins.zip ends).flatMap (fun axis => [axis.1,axis.2]) ∧
      reArrangePads (begins ++ ends) = reArranged (begins ++ ends) begins.length ∧
      ∀ i < begins.length, ReadsEnds begins ends i := by
  refine ⟨?_,?_,fun i hi => readsEnds h hi⟩
  · have hpads := reArrangePads_flatMap (begins.zip ends)
    rwa [map_fst_zip (Nat.le_of_eq h),map_snd_zip (Nat.le_of_eq h.symm)] at hpads
  · rw [reArrangePads,reArranged,half_length h]

theorem reArrangePads_interleaves_two_axes :
    reArrangePads [1,2,3,4] = [1,3,2,4] ∧ reArrangePads [1,2,3,4] = reArranged [1,2,3,4] 2 ∧
      ∀ i < 2, ReadsEnds [1,2] [3,4] i := by
  have hlength : ([1,2] : List UInt32).length = ([3,4] : List UInt32).length := rfl
  exact reArrangePads_interleaves hlength

end

def AutoPad.value : AutoPad → String
  | .notset => "NOTSET"
  | .sameUpper => "SAME_UPPER"
  | .sameLower => "SAME_LOWER"
  | .valid => "VALID"
  | .other value => value

def AutoPad.isSupported : AutoPad → Bool
  | .other _ => false
  | _ => true

def unitDilations (attributes : PoolAttributes) (rank : Nat) : Bool :=
  attributes.dilations.getD (List.replicate (rank - 2) 1) = List.replicate (rank - 2) 1

end QnnEp.Pool
