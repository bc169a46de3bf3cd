import Mathlib.Algebra.Order.Ring.Int
import Mathlib.Data.List.Basic
import Mathlib.Tactic.Ring
import QnnEp.Foundation.Scatter

namespace QnnEp.Pool
open List

inductive AutoPad where
  | notset
  | sameUpper
  | sameLower
  | valid
  | other (value : String)
  deriving DecidableEq, Repr

variable {padAmount : List UInt32} {autoPad : AutoPad} {given : Option (List UInt32)} {n : Nat}

structure PoolAttributes where
  kernelShape : Option (List UInt32)
  strides : Option (List UInt32)
  dilations : Option (List UInt32)
  pads : Option (List UInt32)
  autoPad : AutoPad
  ceilMode : Option Int
  deriving DecidableEq, Repr

structure ResolvedAttributes where
  filterSize : List UInt32
  stride : List UInt32
  dilations : List UInt32
  padAmount : List UInt32
  roundingMode : Int
  deriving DecidableEq, Repr

def widen : List UInt32 → List UInt32
  | [raw] => [1,raw]
  | raw => raw

def widenPads : List UInt32 → List UInt32
  | [first,last] => [0,first,0,last]
  | raw => raw

def perAxis (given : Option (List UInt32)) (spatialRank : Nat) : List UInt32 :=
  widen (given.getD (List.replicate spatialRank 1))

def perEdge (given : Option (List UInt32)) (spatialRank : Nat) : List UInt32 :=
  widenPads (given.getD (List.replicate (spatialRank * 2) 0))

def totalPads (out stride filter dilation input : UInt32) : UInt32 :=
  (out - 1) * stride + (filter - 1) * dilation + 1 - input

def splitPads (autoPad : AutoPad) (total : UInt32) : UInt32 × UInt32 :=
  if autoPad = .sameLower then (total - total / 2,total / 2) else (total / 2,total - total / 2)

def writePads (spatialRank : Nat) (padAmount : List UInt32) (axis : Nat) (pads : UInt32 × UInt32) :
    List UInt32 :=
  (padAmount.set axis pads.1).set (axis + spatialRank) pads.2

def resolvePads (autoPad : AutoPad) (spatialRank : Nat) (total : Nat → UInt32)
    (padAmount : List UInt32) : List UInt32 :=
  if autoPad = .notset then padAmount
  else (List.range spatialRank).foldl (fun pads axis =>
    if autoPad = .sameUpper ∨ autoPad = .sameLower then
      writePads spatialRank pads axis (splitPads autoPad (total axis))
    else pads) padAmount

def resolvePoolAttributes (attributes : PoolAttributes) (inputShape outputShape : List UInt32)
    (roundingMode : Int) : ResolvedAttributes :=
  let spatialRank := inputShape.length - 2
  let filterSize := perAxis attributes.kernelShape spatialRank
  let stride := perAxis attributes.strides spatialRank
  let dilations := perAxis attributes.dilations spatialRank
  let total := fun axis => totalPads (outputShape.getD (axis + 1) 0) (stride.getD axis 0)
    (filterSize.getD axis 0) (dilations.getD axis 0) (inputShape.getD (axis + 1) 0)
  { filterSize,stride,dilations
    padAmount := resolvePads attributes.autoPad spatialRank total
      (perEdge attributes.pads spatialRank)
    roundingMode := attributes.ceilMode.getD roundingMode }

def qnnShape : List UInt32 → List UInt32
  | [batch,length,channel] => [batch,1,length,channel]
  | shape => shape

structure PoolSite where
  inputShape : List UInt32
  outputShape : List UInt32
  attributes : PoolAttributes
  ranked : 3 ≤ inputShape.length
  sameRank : outputShape.length = inputShape.length
  kernel_length : ∀ raw ∈ attributes.kernelShape, raw.length = inputShape.length - 2
  strides_length : ∀ raw ∈ attributes.strides, raw.length = inputShape.length - 2
  dilations_length : ∀ raw ∈ attributes.dilations, raw.length = inputShape.length - 2
  pads_length : ∀ raw ∈ attributes.pads, raw.length = (inputShape.length - 2) * 2

def PoolSite.resolve (site : PoolSite) (roundingMode : Int) : ResolvedAttributes :=
  resolvePoolAttributes site.attributes (qnnShape site.inputShape) (qnnShape site.outputShape)
    roundingMode

def neededPads (out stride filter dilation input : UInt32) : Int :=
  ((out.toNat : Int) - 1) * stride.toNat + ((filter.toNat : Int) - 1) * dilation.toNat + 1 -
    input.toNat

def onnxSplit (autoPad : AutoPad) (needed : Int) : Int × Int :=
  if autoPad = .sameLower then (max 0 needed - max 0 needed / 2,max 0 needed / 2)
  else (max 0 needed / 2,max 0 needed - max 0 needed / 2)

namespace PoolSite

def spatialRank (site : PoolSite) : Nat := site.inputShape.length - 2

def axisValue (site : PoolSite) (given : Option (List UInt32)) (axis : Nat) : UInt32 :=
  (given.getD (List.replicate site.spatialRank 1)).getD axis 0

def needed (site : PoolSite) (axis : Nat) : Int :=
  neededPads (site.outputShape.getD (axis + 1) 0) (site.axisValue site.attributes.strides axis)
    (site.axisValue site.attributes.kernelShape axis)
    (site.axisValue site.attributes.dilations axis) (site.inputShape.getD (axis + 1) 0)

def onnxBegins (site : PoolSite) : List Int :=
  (List.range site.spatialRank).map fun axis => (onnxSplit site.attributes.autoPad (site.needed axis)).1

def onnxEnds (site : PoolSite) : List Int :=
  (List.range site.spatialRank).map fun axis => (onnxSplit site.attributes.autoPad (site.needed axis)).2

def onnxPads (site : PoolSite) : List Int :=
  if site.spatialRank = 1 then 0 :: site.onnxBegins ++ 0 :: site.onnxEnds
  else site.onnxBegins ++ site.onnxEnds

end PoolSite

def Unwrapped (needed : Int) : Prop :=
  0 ≤ needed ∧ needed < 2 ^ 32 ∨ needed < 0 ∧ (2 ^ 32 : Int) ∣ needed

instance (needed : Int) : Decidable (Unwrapped needed) :=
  inferInstanceAs (Decidable (_ ∨ _))

theorem totalPads_toNat (out stride filter dilation input : UInt32) :
    ((totalPads out stride filter dilation input).toNat : Int) =
      neededPads out stride filter dilation input % 2 ^ 32 := by
  have hcast : ((4294967296 - input.toNat : Nat) : Int) = 4294967296 - input.toNat := by
    have := input.toNat_lt
    omega
  have hsum : neededPads out stride filter dilation input +
      2 ^ 32 * (1 + stride.toNat + dilation.toNat) =
      2 ^ 32 - input.toNat + ((2 ^ 32 - 1 + out.toNat) * stride.toNat +
        (2 ^ 32 - 1 + filter.toNat) * dilation.toNat + 1) := by
    rw [neededPads]
    ring
  rw [← Int.add_mul_emod_self_left (neededPads out stride filter dilation input),hsum,totalPads]
  simp only [UInt32.toNat_sub,UInt32.toNat_add,UInt32.toNat_mul]
  push_cast
  simp only [Int.add_emod,Int.mul_emod,Int.emod_emod]
  rw [hcast]

theorem splitPads_toNat_iff (autoPad : AutoPad) (total : UInt32) (needed : Int) :
    (((splitPads autoPad total).1.toNat : Int) = (onnxSplit autoPad needed).1 ∧
      ((splitPads autoPad total).2.toNat : Int) = (onnxSplit autoPad needed).2) ↔
      (total.toNat : Int) = max 0 needed := by
  have hhalf : (total / 2).toNat = total.toNat / 2 := by
    rw [UInt32.toNat_div]
    rfl
  have hrest : (total - total / 2).toNat = total.toNat - total.toNat / 2 := by
    rw [UInt32.toNat_sub_of_le _ _ (UInt32.le_iff_toNat_le.mpr (by omega)),hhalf]
  unfold splitPads onnxSplit
  split
  · simp only [hhalf,hrest]
    omega
  · simp only [hhalf,hrest]
    omega

theorem emod_eq_max_iff (needed : Int) : needed % 2 ^ 32 = max 0 needed ↔ Unwrapped needed := by
  unfold Unwrapped
  omega

section
variable (spatialRank : Nat) (pads : Nat → UInt32 × UInt32)

theorem length_writePads_foldl (axes : List Nat) (padAmount : List UInt32) :
    (axes.foldl (fun acc axis => writePads spatialRank acc axis (pads axis)) padAmount).length =
      padAmount.length := by
  induction axes generalizing padAmount with
  | nil => rfl
  | cons axis axes ih =>
    rw [foldl_cons,ih]
    simp [writePads]

theorem writePads_foldl (hlen : padAmount.length = spatialRank * 2) {count : Nat}
    (hcount : count ≤ spatialRank) (i : Nat) :
    ((List.range count).foldl (fun acc axis => writePads spatialRank acc axis (pads axis))
      padAmount)[i]? =
      if i < count then some (pads i).1
      else if spatialRank ≤ i ∧ i < spatialRank + count then some (pads (i - spatialRank)).2
      else padAmount[i]? := by
  induction count with
  | zero => simp [show ¬(spatialRank ≤ i ∧ i < spatialRank) by omega]
  | succ count ih =>
    specialize ih (by omega)
    rw [range_succ,foldl_append,foldl_cons,foldl_nil,writePads,
      List.getElem?_set,length_set,length_writePads_foldl,hlen,List.getElem?_set,
      length_writePads_foldl,hlen,ih]
    grind

theorem writePads_range (hlen : padAmount.length = spatialRank * 2) :
    (List.range spatialRank).foldl (fun acc axis => writePads spatialRank acc axis (pads axis))
      padAmount =
      (List.range spatialRank).map (fun axis => (pads axis).1) ++
        (List.range spatialRank).map fun axis => (pads axis).2 := by
  apply ext_getElem?
  intro i
  rw [writePads_foldl spatialRank pads hlen le_rfl,List.getElem?_append]
  grind

end

theorem resolvePads_same (hsame : autoPad = .sameUpper ∨ autoPad = .sameLower) {spatialRank : Nat}
    (total : Nat → UInt32) (hlen : padAmount.length = spatialRank * 2) :
    resolvePads autoPad spatialRank total padAmount =
      (List.range spatialRank).map (fun axis => (splitPads autoPad (total axis)).1) ++
        (List.range spatialRank).map fun axis => (splitPads autoPad (total axis)).2 := by
  have hset : autoPad ≠ .notset := by
    rintro rfl
    rcases hsame with h | h <;> cases h
  simp only [resolvePads,hset,hsame,if_true,if_false]
  exact writePads_range spatialRank (fun axis => splitPads autoPad (total axis)) hlen

theorem resolvePads_onnx_iff (hsame : autoPad = .sameUpper ∨ autoPad = .sameLower) {spatialRank : Nat}
    (total : Nat → UInt32) (needed : Nat → Int) (hlen : padAmount.length = spatialRank * 2)
    (htotal : ∀ axis < spatialRank, ((total axis).toNat : Int) = needed axis % 2 ^ 32) :
    (resolvePads autoPad spatialRank total padAmount).map (fun pad => (pad.toNat : Int)) =
        (List.range spatialRank).map (fun axis => (onnxSplit autoPad (needed axis)).1) ++
          (List.range spatialRank).map (fun axis => (onnxSplit autoPad (needed axis)).2) ↔
      ∀ axis < spatialRank, Unwrapped (needed axis) := by
  have hsplit : ∀ {as bs cs ds : List Int}, as.length = cs.length →
      (as ++ bs = cs ++ ds ↔ as = cs ∧ bs = ds) := by
    intro as bs cs ds h
    exact ⟨fun heq => append_inj heq h,by rintro ⟨rfl,rfl⟩; rfl⟩
  rw [resolvePads_same hsame total hlen,map_append,map_map,map_map,
    hsplit (by simp),map_inj_left,map_inj_left,← forall₂_and]
  simp only [Function.comp_apply,mem_range]
  refine forall₂_congr fun axis haxis => ?_
  rw [splitPads_toNat_iff,htotal axis haxis,emod_eq_max_iff]

theorem length_getD (h : ∀ raw ∈ given, raw.length = n) (value : UInt32) :
    (given.getD (List.replicate n value)).length = n := by
  cases given with
  | none => exact length_replicate
  | some raw => exact h raw rfl

theorem perAxis_of_ne_one (hn : n ≠ 1) (h : ∀ raw ∈ given, raw.length = n) :
    perAxis given n = given.getD (List.replicate n 1) := by
  have hlen := length_getD h 1
  unfold perAxis widen
  split
  · next heq => rw [heq] at hlen; exact absurd hlen.symm hn
  · rfl

theorem perAxis_of_one (h : ∀ raw ∈ given, raw.length = 1) :
    perAxis given 2 = [1,(given.getD (List.replicate 1 1)).getD 0 0] := by
  cases given with
  | none => rfl
  | some raw =>
    obtain ⟨value,rfl⟩ := length_eq_one_iff.mp (h raw rfl)
    rfl

theorem length_perEdge_of_ne_one (hn : n ≠ 1) (h : ∀ raw ∈ given, raw.length = n * 2) :
    (perEdge given n).length = n * 2 := by
  have hlen := length_getD h 0
  unfold perEdge widenPads
  split
  · next heq => rw [heq] at hlen; exact absurd (Nat.eq_of_mul_eq_mul_right Nat.two_pos hlen.symm) hn
  · exact hlen

theorem length_perEdge_of_one (h : ∀ raw ∈ given, raw.length = 2) : (perEdge given 2).length = 4 := by
  cases given with
  | none => rfl
  | some raw =>
    obtain ⟨first,last,rfl⟩ := length_eq_two.mp (h raw rfl)
    rfl

namespace PoolSite
variable (site : PoolSite)

theorem qnnShape_of_ne_three {shape : List UInt32} (h : shape.length ≠ 3) :
    qnnShape shape = shape := by
  unfold qnnShape
  split
  · exact absurd rfl h
  · rfl

theorem shapes_of_ne_one (h : site.spatialRank ≠ 1) : site.inputShape.length ≠ 3 ∧
    qnnShape site.inputShape = site.inputShape ∧ qnnShape site.outputShape = site.outputShape := by
  have hrank : site.inputShape.length ≠ 3 := by
    unfold spatialRank at h
    omega
  exact ⟨hrank,qnnShape_of_ne_three hrank,qnnShape_of_ne_three (site.sameRank ▸ hrank)⟩

theorem shapes_of_one (h : site.spatialRank = 1) :
    (∃ n l c, site.inputShape = [n,l,c]) ∧ ∃ n l c, site.outputShape = [n,l,c] := by
  have hrank : site.inputShape.length = 3 := by
    unfold spatialRank at h
    have := site.ranked
    omega
  exact ⟨length_eq_three.mp hrank,length_eq_three.mp (site.sameRank.trans hrank)⟩

section
variable (hsame : site.attributes.autoPad = .sameUpper ∨ site.attributes.autoPad = .sameLower)
  (roundingMode : Int)
include hsame

theorem padAmount_iff_of_ranked (h : site.spatialRank ≠ 1) :
    (site.resolve roundingMode).padAmount.map (fun pad => (pad.toNat : Int)) = site.onnxPads ↔
      ∀ axis < site.spatialRank, Unwrapped (site.needed axis) := by
  obtain ⟨-,hin,hout⟩ := site.shapes_of_ne_one h
  rw [onnxPads,if_neg h]
  simp only [resolve,resolvePoolAttributes,hin,hout]
  refine resolvePads_onnx_iff hsame _ site.needed (length_perEdge_of_ne_one h site.pads_length) ?_
  intro axis haxis
  have hstride := perAxis_of_ne_one h site.strides_length
  have hkernel := perAxis_of_ne_one h site.kernel_length
  have hdilation := perAxis_of_ne_one h site.dilations_length
  rw [spatialRank] at hstride hkernel hdilation
  rw [totalPads_toNat,hstride,hkernel,hdilation]
  rfl

theorem padAmount_iff_of_flat (h : site.spatialRank = 1) :
    (site.resolve roundingMode).padAmount.map (fun pad => (pad.toNat : Int)) = site.onnxPads ↔
      ∀ axis < site.spatialRank, Unwrapped (site.needed axis) := by
  have hspatial : site.inputShape.length - 2 = 1 := h
  obtain ⟨⟨n,l,c,hin⟩,n',l',c',hout⟩ := site.shapes_of_one h
  have hstride := perAxis_of_one (hspatial ▸ site.strides_length)
  have hkernel := perAxis_of_one (hspatial ▸ site.kernel_length)
  have hdilation := perAxis_of_one (hspatial ▸ site.dilations_length)
  have hlen := length_perEdge_of_one (by simpa [hspatial] using site.pads_length)
  have hzero : ∀ autoPad, onnxSplit autoPad 0 = (0,0) := by
    intro autoPad
    simp [onnxSplit]
  have hpads : site.onnxPads =
      (List.range 2).map (fun axis => (onnxSplit site.attributes.autoPad
        (if axis = 0 then 0 else site.needed 0)).1) ++
      (List.range 2).map fun axis => (onnxSplit site.attributes.autoPad
        (if axis = 0 then 0 else site.needed 0)).2 := by
    simp [onnxPads,onnxBegins,onnxEnds,h,range_succ,hzero]
  have hunit : (∀ axis < 2, Unwrapped (if axis = 0 then 0 else site.needed 0)) ↔
      ∀ axis < site.spatialRank, Unwrapped (site.needed axis) := by
    rw [h]
    constructor
    · intro hall axis haxis
      obtain rfl : axis = 0 := by omega
      exact hall 1 (by decide)
    · intro hall axis haxis
      obtain rfl | rfl : axis = 0 ∨ axis = 1 := by omega
      · change Unwrapped 0
        decide
      · exact hall 0 (by decide)
  rw [hpads,← hunit]
  simp only [resolve,resolvePoolAttributes,hin,hout,qnnShape]
  refine resolvePads_onnx_iff hsame _ (fun axis => if axis = 0 then 0 else site.needed 0) hlen ?_
  intro axis haxis
  have hlen : [n,1,l,c].length - 2 = 2 := rfl
  rw [totalPads_toNat,hlen,hstride,hkernel,hdilation]
  obtain rfl | rfl : axis = 0 ∨ axis = 1 := by omega
  · simp [neededPads]
  · simp [needed,axisValue,h,hin,hout]

end

theorem padAmount_onnx_iff
    (hsame : site.attributes.autoPad = .sameUpper ∨ site.attributes.autoPad = .sameLower)
    (roundingMode : Int) :
    (site.resolve roundingMode).padAmount.map (fun pad => (pad.toNat : Int)) = site.onnxPads ↔
      ∀ axis < site.spatialRank, Unwrapped (site.needed axis) := by
  by_cases h : site.spatialRank = 1
  · exact padAmount_iff_of_flat site hsame roundingMode h
  · exact padAmount_iff_of_ranked site hsame roundingMode h

def sameSite (autoPad : AutoPad) (input output kernel stride : UInt32) : PoolSite where
  inputShape := [1,input,input,1]
  outputShape := [1,output,output,1]
  attributes :=
    { kernelShape := some [kernel,kernel]
      strides := some [stride,stride]
      dilations := none
      pads := none
      autoPad
      ceilMode := none }
  ranked := Nat.le_succ 3
  sameRank := rfl
  kernel_length := by simp
  strides_length := by simp
  dilations_length := by simp
  pads_length := by simp

theorem padAmount_onnx_overlapping :
    ((sameSite .sameLower 5 3 2 2).resolve 0).padAmount.map (fun pad => (pad.toNat : Int)) =
      [1,1,0,0] :=
  ((sameSite .sameLower 5 3 2 2).padAmount_onnx_iff (.inr rfl) 0).mpr (by decide)

theorem padAmount_wraps :
    ((sameSite .sameUpper 4 2 1 2).resolve 0).padAmount =
        [2147483647,2147483647,2147483648,2147483648] ∧
      (sameSite .sameUpper 4 2 1 2).onnxPads = [0,0,0,0] := by
  decide

end PoolSite

end QnnEp.Pool
