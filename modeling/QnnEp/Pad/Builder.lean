import QnnEp.Foundation.Window
import QnnEp.Pool.Builder

namespace QnnEp.Pad
open Registry
open Pool (reArrangePads reArrangePads_begin reArrangePads_end)
open Shapes Status Tensors

inductive PadMode where
  | constant
  | reflect
  | edge
  | other (mode : String)
  deriving DecidableEq, Repr

inductive ConstantInput (α : Type) where
  | dynamic
  | unsupported (message : String)
  | value (v : α)

structure PadNode (α : Type) where
  microsoftDomain : Bool
  opset : Nat
  inputCount : Nat
  onnxShape : List UInt32
  onnxOutputShape : List Int
  padsAttribute : Option (List Int)
  padsInput : Option (List Int)
  valueAttribute : Option α
  constantInput : Option (ConstantInput α)
  mode : PadMode

section
variable {α : Type}

namespace PadNode

def padsFromAttribute (node : PadNode α) : Bool := node.opset < 11 ∧ ¬node.microsoftDomain

def inputShape (node : PadNode α) : List UInt32 := qnnShape node.onnxShape

end PadNode

def processInputs (node : PadNode α) : Except String Unit := do
  returnIf (node.microsoftDomain ∧ node.inputCount < 2) "QNN Pad requires the pads input."
  returnIf (¬node.microsoftDomain ∧ node.opset < 2) "Pad with opset < 2 is not supported"
  returnIf (¬node.microsoftDomain ∧ node.opset < 11 ∧ 1 < node.inputCount)
    "Pads should be specified in an attribute for opset < 11"
  returnIf (¬node.microsoftDomain ∧ 11 ≤ node.opset ∧ 3 < node.inputCount)
    "QNN Pad doesn't support axes."
  returnIf (¬node.microsoftDomain ∧ 11 ≤ node.opset ∧ node.inputCount < 2)
    "QNN Pad requires the pads input."
  returnIf (5 < node.inputShape.length) "QNN Pad doesn't support more than 5 dimensions"
  returnIf (¬node.padsFromAttribute ∧ node.padsInput.isNone) "Qnn doesn't support dynamic pad input"
  returnIf (¬node.padsFromAttribute ∧ 2 < node.inputCount ∧
      node.constantInput.any fun input => input matches .dynamic)
    "Qnn doesn't support dynamic constant_value input"

inductive PadScheme where
  | constant
  | mirrorReflect
  | edge
  deriving DecidableEq, Repr

inductive PadOp (α : Type) where
  | pad (scheme : PadScheme) (padAmount : List UInt32) (constantValue : Option α)
      (outputShape : List UInt32)
  | stridedSlice (ranges : List (UInt32 × UInt32 × UInt32)) (outputShape : List UInt32)

def processPads (node : PadNode α) : Except String (List Int) :=
  if node.padsFromAttribute then
    match node.padsAttribute with
    | some pads => .ok pads
    | none => .error "Failed to get pads attribute."
  else
    match node.padsInput with
    | some pads => .ok pads
    | none => .error "Qnn doesn't support dynamic pad input"

def constantValue (node : PadNode α) : Except String (Option α) :=
  if node.padsFromAttribute then .ok node.valueAttribute
  else if 2 < node.inputCount then
    match node.constantInput with
    | some (.value v) => .ok (some v)
    | some (.unsupported message) => .error message
    | some .dynamic => .error "Qnn doesn't support dynamic constant_value input"
    | none => .ok none
  else .ok none

def reflectExceeds (inputShape padAmount : List UInt32) : Prop :=
  ∃ i < inputShape.length, inputShape.getD i 0 - 1 < padAmount.getD (i * 2) 0 ∨
    inputShape.getD i 0 - 1 < padAmount.getD (i * 2 + 1) 0

instance (inputShape padAmount : List UInt32) : Decidable (reflectExceeds inputShape padAmount) :=
  inferInstanceAs (Decidable (∃ i < inputShape.length, _))

def schemeOf (mode : PadMode) (inputShape padAmount : List UInt32) : Except String PadScheme :=
  match mode with
  | .constant => .ok .constant
  | .reflect =>
    if reflectExceeds inputShape padAmount then
      .error "Pad amount should not be greater than shape(input[0])[i] - 1"
    else .ok .mirrorReflect
  | .edge => .ok .edge
  | .other _ => .error "Pad mode only support constant."

def padOutputShape (inputShape padAmount : List UInt32) : List UInt32 :=
  (List.range inputShape.length).map fun i =>
    inputShape.getD i 0 + padAmount.getD (2 * i) 0 + padAmount.getD (2 * i + 1) 0

def sliceAmount (item : Int) : Int := if 0 < item then 0 else item

def sliceRanges (inputRank : Nat) (paddedShape : List UInt32) (pads : List Int) :
    List (UInt32 × UInt32 × UInt32) :=
  (List.range inputRank).map fun i =>
    (toUint32 (0 - sliceAmount (pads.getD i 0)),
      toUint32 ((paddedShape.getD i 0).toNat + sliceAmount (pads.getD (i + inputRank) 0)),1)

def emit (inputShape : List UInt32) (pads : List Int) (scheme : PadScheme) (padAmount : List UInt32)
    (value : Option α) (outputShape : List UInt32) : List (PadOp α) :=
  if pads.any (· < 0) then
    let paddedShape := padOutputShape inputShape padAmount
    (if pads.any (0 ≤ ·) then [.pad scheme padAmount value paddedShape] else []) ++
      [.stridedSlice (sliceRanges inputShape.length paddedShape pads) outputShape]
  else [.pad scheme padAmount value outputShape]

def processAttributesAndOutputs (node : PadNode α) : Except String (List (PadOp α)) := do
  let pads ← processPads node
  let amounts ← pads.mapM fun item => if item < 0 then safeUint32 0 else safeUint32 item
  let padAmount := reArrangePads amounts
  returnIf (node.mode = .reflect ∧ pads.any (· < 0))
    "reflect mode doesn't support negative padding value."
  let scheme ← schemeOf node.mode node.inputShape padAmount
  let value ← constantValue node
  let outputShape ← node.onnxOutputShape.mapM safeUint32
  return emit node.inputShape pads scheme padAmount value (qnnShape outputShape)

def addToModelBuilder (node : PadNode α) : Except String (List (PadOp α)) := do
  processInputs node
  processAttributesAndOutputs node

def amountPair (padAmount : List UInt32) (axis : Nat) : Int × Int :=
  ((padAmount.getD (2 * axis) 0).toNat,(padAmount.getD (2 * axis + 1) 0).toNat)

def rangeOf (range : UInt32 × UInt32 × UInt32) : Range :=
  ⟨range.1.toNat,range.2.1.toNat,range.2.2.toNat⟩

def checked (outputShape : List UInt32) (t : Tensor α) : Option (Tensor α) :=
  if t.shape = outputShape.map UInt32.toNat then some t else none

def PadOp.run [Zero α] : PadOp α → Tensor α → Option (Tensor α)
  | .pad .constant padAmount value outputShape, t =>
    let axes := List.range t.shape.length
    checked outputShape (padConstant (axes.map fun a => (amountPair padAmount a).1)
      (axes.map fun a => (amountPair padAmount a).2) (value.getD 0) t)
  | .pad _ _ _ _, _ => none
  | .stridedSlice ranges outputShape, t =>
    if List.Forall₂ (fun range d => (rangeOf range).Valid d) ranges t.shape then
      checked outputShape (Tensors.stridedSlice (ranges.map rangeOf) t)
    else none

def runOps [Zero α] (ops : List (PadOp α)) (t : Tensor α) : Option (Tensor α) :=
  ops.foldlM (fun t op => op.run t) t

namespace PadNode

def rank (node : PadNode α) : Nat := node.inputShape.length

def pads (node : PadNode α) : List Int :=
  (if node.padsFromAttribute then node.padsAttribute else node.padsInput).getD []

def before (node : PadNode α) (axis : Nat) : Int := node.pads.getD axis 0

def after (node : PadNode α) (axis : Nat) : Int := node.pads.getD (axis + node.rank) 0

def dim (node : PadNode α) (axis : Nat) : Nat := (node.inputShape.getD axis 0).toNat

def onnxConstant [Zero α] (node : PadNode α) : α :=
  if node.padsFromAttribute then node.valueAttribute.getD 0
  else
    match node.inputCount, node.constantInput with
    | _ + 3, some (.value v) => v
    | _, _ => 0

def padded (node : PadNode α) (axis : Nat) : Int :=
  node.dim axis + max (node.before axis) 0 + max (node.after axis) 0

end PadNode

def onnxPad [Zero α] (node : PadNode α) (x : Tensor α) : Tensor α :=
  let axes := List.range node.rank
  padConstant (axes.map node.before) (axes.map node.after) node.onnxConstant x

structure WellFormed (node : PadNode α) : Prop where
  pads_length : node.pads.length = 2 * node.onnxShape.length
  output : node.onnxOutputShape = (List.range node.onnxShape.length).map fun axis =>
    (node.dim axis : Int) + node.before axis + node.after axis
  nonneg : ∀ axis < node.rank, 0 ≤ (node.dim axis : Int) + node.before axis + node.after axis

def Computes [Zero α] (node : PadNode α) (ops : List (PadOp α)) : Prop :=
  ∀ x : Tensor α, x.shape = node.inputShape.map UInt32.toNat →
    ∃ y, runOps ops x = some y ∧ y.Same (onnxPad node x)

def Representable (node : PadNode α) : Prop :=
  (∀ pad ∈ node.pads, 0 ≤ pad) ∨ (∀ pad ∈ node.pads, pad < 0) ∨
    ∀ axis < node.rank, node.padded axis < 2 ^ 32

instance (node : PadNode α) : Decidable (Representable node) := inferInstanceAs (Decidable (_ ∨ _))

end

theorem mapM_safe_getD {pads : List Int} {f : Int → Int} {g : Int → Except String UInt32}
    (hg : ∀ {n u}, g n = .ok u → (u.toNat : Int) = f n) (hzero : f 0 = 0) {out : List UInt32}
    (h : pads.mapM g = .ok out) :
    out.length = pads.length ∧ ∀ i, ((out.getD i 0).toNat : Int) = f (pads.getD i 0) := by
  induction pads generalizing out with
  | nil =>
    cases h
    simp [hzero]
  | cons pad pads ih =>
    rw [List.mapM_cons] at h
    obtain ⟨u,hu,h⟩ := bind_ok h
    obtain ⟨rest,hrest,h⟩ := bind_ok h
    cases h
    obtain ⟨hlen,hget⟩ := ih hrest
    refine ⟨by simp [hlen],fun i => ?_⟩
    cases i with
    | zero => exact hg hu
    | succ i => exact hget i

section
variable {α : Type}

structure Amounts (node : PadNode α) (padAmount : List UInt32) : Prop where
  before : ∀ axis < node.rank, (amountPair padAmount axis).1 = max (node.before axis) 0
  after : ∀ axis < node.rank, (amountPair padAmount axis).2 = max (node.after axis) 0

theorem amounts_of_pads {node : PadNode α} (hwf : WellFormed node) {amounts : List UInt32}
    (h : (node.pads.mapM fun item => if item < 0 then safeUint32 0 else safeUint32 item) = .ok amounts) :
    Amounts node (reArrangePads amounts) := by
  obtain ⟨hlen,hget⟩ := mapM_safe_getD (f := fun n => max n 0) (by
    intro n u hn
    split at hn
    · rw [safeUint32_ok hn]; omega
    · rw [safeUint32_ok hn]; omega) rfl h
  have hpads := hwf.pads_length
  have hrank : node.rank = node.inputShape.length := rfl
  cases hshape : node.onnxShape with
  | nil =>
    rw [hshape] at hpads
    obtain hnil : node.pads = [] := List.length_eq_zero_iff.mp hpads
    rw [hnil] at hlen
    obtain rfl := List.length_eq_zero_iff.mp hlen
    refine ⟨fun axis _ => ?_,fun axis _ => ?_⟩
    · simp [amountPair,reArrangePads,PadNode.before,hnil]
    · simp [amountPair,reArrangePads,PadNode.after,hnil]
  | cons d ds =>
    have hhalf : amounts.length / 2 = node.rank := by
      rw [hlen,hpads,hrank,PadNode.inputShape,hshape]
      simp [qnnShape]
    refine ⟨fun axis haxis => ?_,fun axis haxis => ?_⟩
    · rw [amountPair,reArrangePads_begin _ (hhalf ▸ haxis)]
      exact hget axis
    · rw [amountPair,reArrangePads_end _ (hhalf ▸ haxis),hhalf,Nat.add_comm]
      exact hget _

theorem processPads_ok {node : PadNode α} {pads : List Int} (h : processPads node = .ok pads) :
    pads = node.pads := by
  unfold processPads at h
  unfold PadNode.pads
  split at h
  · next hattr =>
    rw [if_pos hattr]
    split at h
    · next heq => cases h; rw [heq]; rfl
    · cases h
  · next hattr =>
    rw [if_neg hattr]
    split at h
    · next heq => cases h; rw [heq]; rfl
    · cases h

theorem constantValue_ok [Zero α] {node : PadNode α} {value : Option α}
    (h : constantValue node = .ok value) : value.getD 0 = node.onnxConstant := by
  unfold constantValue at h
  unfold PadNode.onnxConstant
  split at h
  · next hattr =>
    cases h
    rw [if_pos hattr]
  · next hattr =>
    rw [if_neg hattr]
    split at h
    · next hcount =>
      obtain ⟨n,hn⟩ := Nat.exists_eq_add_of_le hcount
      rw [show node.inputCount = n + 3 by omega]
      split at h
      · next v hv => cases h; rw [hv]; rfl
      · cases h
      · cases h
      · next hv => cases h; rw [hv]; rfl
    · next hcount =>
      cases h
      split
      · omega
      · rfl

theorem outputShape_ok {node : PadNode α} (hwf : WellFormed node) {out : List UInt32}
    (h : node.onnxOutputShape.mapM safeUint32 = .ok out) :
    (qnnShape out).map UInt32.toNat =
      (List.range node.rank).map fun axis =>
        ((node.dim axis : Int) + node.before axis + node.after axis).toNat := by
  obtain ⟨hlen,hget⟩ := mapM_safe_getD (f := id) safeUint32_ok rfl h
  have hout := hwf.output
  have hrank : node.rank = node.inputShape.length := rfl
  cases hshape : node.onnxShape with
  | nil =>
    have hnil : node.pads = [] := List.length_eq_zero_iff.mp (by rw [hwf.pads_length,hshape]; rfl)
    rw [hshape] at hout
    rw [hout] at hlen
    obtain rfl := List.length_eq_zero_iff.mp hlen
    have hin : node.inputShape = [1] := by rw [PadNode.inputShape,hshape]; rfl
    simp [qnnShape,hrank,hin,PadNode.dim,PadNode.before,PadNode.after,hnil]
  | cons d ds =>
    have hlength : node.onnxShape.length = node.rank := by
      rw [hrank,PadNode.inputShape,hshape]
      rfl
    rw [hlength] at hout
    have hne : out ≠ [] := by
      rintro rfl
      rw [hout,← hlength,hshape] at hlen
      simp at hlen
    have hmatch : qnnShape out = out := by
      unfold qnnShape
      split
      · exact absurd rfl hne
      · rfl
    rw [hmatch]
    apply List.ext_getElem
    · rw [List.length_map,hlen,hout]
      simp
    · intro i hi hi'
      have hi : i < out.length := by simpa using hi
      have hrange : i < node.rank := by simpa using hi'
      have hvalue := hget i
      rw [hout,getD_map_range _ _ hrange,List.getD_eq_getElem _ _ hi] at hvalue
      simp only [List.getElem_map,List.getElem_range]
      rw [← id_eq (_ + _),← hvalue]
      rfl

structure Emitted [Zero α] (node : PadNode α) (ops : List (PadOp α)) (padAmount : List UInt32)
    (value : Option α) (outputShape : List UInt32) : Prop where
  amounts : Amounts node padAmount
  constant : value.getD 0 = node.onnxConstant
  output : outputShape.map UInt32.toNat = (List.range node.rank).map fun axis =>
    ((node.dim axis : Int) + node.before axis + node.after axis).toNat
  ops : ops = emit node.inputShape node.pads .constant padAmount value outputShape

theorem addToModelBuilder_ok [Zero α] {node : PadNode α} (hwf : WellFormed node)
    (hmode : node.mode = .constant) {ops : List (PadOp α)} (h : addToModelBuilder node = .ok ops) :
    ∃ padAmount value outputShape, Emitted node ops padAmount value outputShape := by
  obtain ⟨_,-,h⟩ := bind_ok h
  obtain ⟨pads,hpads,h⟩ := bind_ok h
  obtain ⟨amounts,hamounts,h⟩ := bind_ok h
  rw [returnIf_bind_ok] at h
  obtain ⟨scheme,hscheme,h⟩ := bind_ok h.2
  obtain ⟨value,hvalue,h⟩ := bind_ok h
  obtain ⟨outputShape,houtput,h⟩ := bind_ok h
  rw [hmode] at hscheme
  cases hscheme
  cases h
  obtain rfl := processPads_ok hpads
  exact ⟨_,_,_,amounts_of_pads hwf hamounts,constantValue_ok hvalue,outputShape_ok hwf houtput,rfl⟩

end

end QnnEp.Pad
