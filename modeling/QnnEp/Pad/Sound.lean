import QnnEp.Pad.Builder

namespace QnnEp.Pad
open List Shapes Tensors

section
variable {α : Type}

theorem shape_eq_map (node : PadNode α) :
    node.inputShape.map UInt32.toNat = (List.range node.rank).map node.dim := by
  apply ext_getElem
  · simp [PadNode.rank]
  · intro i hi _
    have hi : i < node.inputShape.length := by simpa using hi
    simp [PadNode.dim,hi]

theorem checked_some {t : Tensor α} {outputShape : List UInt32}
    (h : t.shape = outputShape.map UInt32.toNat) : checked outputShape t = some t := if_pos h

theorem checked_none {t : Tensor α} {outputShape : List UInt32}
    (h : t.shape ≠ outputShape.map UInt32.toNat) : checked outputShape t = none := if_neg h

section
variable [Zero α] {node : PadNode α} {ops : List (PadOp α)} {padAmount : List UInt32}
  {value : Option α} {outputShape : List UInt32}

theorem pad_run (hamounts : Amounts node padAmount) (hvalue : value.getD 0 = node.onnxConstant)
    {x : Tensor α} (hx : x.shape = node.inputShape.map UInt32.toNat) (shape : List UInt32) :
    (PadOp.pad .constant padAmount value shape).run x =
      checked shape (padConstant ((List.range node.rank).map fun a => max (node.before a) 0)
        ((List.range node.rank).map fun a => max (node.after a) 0) node.onnxConstant x) := by
  have hlen : x.shape.length = node.rank := by
    rw [hx,length_map]
    rfl
  have hbefore : ((List.range node.rank).map fun a => (amountPair padAmount a).1) =
      (List.range node.rank).map fun a => max (node.before a) 0 :=
    map_congr_left fun a ha => hamounts.before a (mem_range.mp ha)
  have hafter : ((List.range node.rank).map fun a => (amountPair padAmount a).2) =
      (List.range node.rank).map fun a => max (node.after a) 0 :=
    map_congr_left fun a ha => hamounts.after a (mem_range.mp ha)
  simp only [PadOp.run,hlen,hbefore,hafter,hvalue]

theorem runOps_single (op : PadOp α) (t : Tensor α) : runOps [op] t = op.run t := by
  simp [runOps]

theorem runOps_cons (op : PadOp α) (ops : List (PadOp α)) (t : Tensor α) :
    runOps (op :: ops) t = (op.run t).bind (runOps ops) := by
  simp only [runOps,foldlM_cons]
  rfl

theorem runOps_pair {op op' : PadOp α} {t t' t'' : Tensor α} (h : op.run t = some t')
    (h' : op'.run t' = some t'') : runOps [op,op'] t = some t'' := by
  rw [runOps_cons,h,Option.bind_some,runOps_single,h']

theorem onnxPad_get {x : Tensor α} (hx : x.shape = node.inputShape.map UInt32.toNat) (idx : List Nat) :
    (onnxPad node x).get idx = ((padIndex ((List.range node.rank).map node.before)
      ((List.range node.rank).map node.dim) idx).map x.get).getD node.onnxConstant := by
  rw [← shape_eq_map,← hx]
  rfl

theorem onnxPad_shape {x : Tensor α} (hx : x.shape = node.inputShape.map UInt32.toNat) :
    (onnxPad node x).shape = (List.range node.rank).map fun axis =>
      ((node.dim axis : Int) + node.before axis + node.after axis).toNat := by
  rw [onnxPad,padConstant,hx,shape_eq_map]
  exact paddedShape_map _ _ _

omit [Zero α] in
theorem pads_at {axis : Nat} (h : ∀ pad ∈ node.pads, 0 ≤ pad) : 0 ≤ node.pads.getD axis 0 := by
  by_cases haxis : axis < node.pads.length
  · rw [getD_eq_getElem _ _ haxis]
    exact h _ (getElem_mem haxis)
  · rw [getD_eq_default _ _ (Nat.not_lt.mp haxis)]

theorem computes_of_nonneg (hemitted : Emitted node ops padAmount value outputShape)
    (h : ∀ pad ∈ node.pads, 0 ≤ pad) : Computes node ops := by
  intro x hx
  have hany : node.pads.any (· < 0) = false := by simpa using h
  rw [hemitted.ops,emit,hany]
  have hrun := pad_run hemitted.amounts hemitted.constant hx outputShape
  have hbefore : ((List.range node.rank).map fun a => max (node.before a) 0) =
      (List.range node.rank).map node.before :=
    map_congr_left fun a _ => max_eq_left (pads_at h)
  have hafter : ((List.range node.rank).map fun a => max (node.after a) 0) =
      (List.range node.rank).map node.after :=
    map_congr_left fun a _ => max_eq_left (pads_at h)
  rw [hbefore,hafter] at hrun
  have hsome := checked_some ((onnxPad_shape hx).trans hemitted.output.symm)
  exact ⟨onnxPad node x,(runOps_single _ _).trans (hrun.trans hsome),rfl,fun _ _ => rfl⟩

theorem paddedShape_pad {x : Tensor α} (hx : x.shape = node.inputShape.map UInt32.toNat) :
    (padConstant ((List.range node.rank).map fun a => max (node.before a) 0)
      ((List.range node.rank).map fun a => max (node.after a) 0) node.onnxConstant x).shape =
      (List.range node.rank).map fun axis => (node.padded axis).toNat := by
  rw [padConstant,hx,shape_eq_map]
  exact paddedShape_map _ _ _

omit [Zero α] in
theorem padOutputShape_toNat (hamounts : Amounts node padAmount) {axis : Nat} (h : axis < node.rank) :
    (((padOutputShape node.inputShape padAmount).getD axis 0).toNat : Int) =
      node.padded axis % 2 ^ 32 := by
  have hbefore := hamounts.before axis h
  have hafter := hamounts.after axis h
  simp only [amountPair] at hbefore hafter
  rw [padOutputShape,getD_map_range _ _ (show axis < node.inputShape.length from h),PadNode.padded,← hbefore,← hafter,PadNode.dim]
  simp only [UInt32.toNat_add]
  omega

omit [Zero α] in
theorem padOutputShape_map (hamounts : Amounts node padAmount) :
    (padOutputShape node.inputShape padAmount).map UInt32.toNat =
      (List.range node.rank).map fun axis => (node.padded axis % 2 ^ 32).toNat := by
  apply ext_getElem
  · simp [padOutputShape,PadNode.rank]
  · intro axis hlt hlt'
    have haxis : axis < node.rank := by simpa using hlt'
    have hget := padOutputShape_toNat hamounts haxis
    rw [getD_eq_getElem _ _ (by simpa [padOutputShape] using hlt)] at hget
    rw [getElem_map,getElem_map,getElem_range,← hget]
    rfl

def sliceStart (node : PadNode α) (axis : Nat) : Nat := (-(min (node.before axis) 0)).toNat

theorem sliceAmount_eq_min (item : Int) : sliceAmount item = min item 0 := by
  unfold sliceAmount
  split <;> omega

theorem slice_run (hwf : WellFormed node) {shape : List UInt32}
    (hshape : ∀ axis < node.rank, ((shape.getD axis 0).toNat : Int) = node.padded axis)
    (houtput : outputShape.map UInt32.toNat = (List.range node.rank).map fun axis =>
      ((node.dim axis : Int) + node.before axis + node.after axis).toNat)
    {t : Tensor α} (ht : t.shape = (List.range node.rank).map fun axis => (node.padded axis).toNat) :
    (PadOp.stridedSlice (sliceRanges node.rank shape node.pads) outputShape).run t =
      some ⟨outputShape.map UInt32.toNat,fun idx =>
        t.get (List.zipWith (· + ·) ((List.range node.rank).map (sliceStart node)) idx)⟩ := by
  have hrange : ∀ axis < node.rank,
      rangeOf (toUint32 (0 - sliceAmount (node.pads.getD axis 0)),
        toUint32 ((shape.getD axis 0).toNat + sliceAmount (node.pads.getD (axis + node.rank) 0)),1) =
      ⟨sliceStart node axis,(node.padded axis + min (node.after axis) 0).toNat,1⟩ := by
    intro axis haxis
    have hlt := (shape.getD axis 0).toNat_lt
    have hpad := hshape axis haxis
    have hnonneg := hwf.nonneg axis haxis
    have hvalue : node.padded axis = node.dim axis + max (node.before axis) 0 + max (node.after axis) 0 := rfl
    have hstart := @toUint32_toNat (0 - min (node.before axis) 0) (by omega)
    have hstop := @toUint32_toNat (node.padded axis + min (node.after axis) 0) (by omega)
    simp only [rangeOf,sliceAmount_eq_min,hpad,sliceStart,Range.mk.injEq]
    refine ⟨?_,?_,rfl⟩
    · change (toUint32 (0 - min (node.before axis) 0)).toNat = _
      omega
    · change (toUint32 (node.padded axis + min (node.after axis) 0)).toNat = _
      omega
  have hranges : (sliceRanges node.rank shape node.pads).map rangeOf = (List.range node.rank).map
      fun axis => ⟨sliceStart node axis,(node.padded axis + min (node.after axis) 0).toNat,1⟩ := by
    rw [sliceRanges,map_map]
    exact map_congr_left fun axis haxis => hrange axis (mem_range.mp haxis)
  have hbounds : ∀ axis < node.rank, 0 ≤ node.padded axis ∧
      sliceStart node axis ≤ (node.padded axis + min (node.after axis) 0).toNat ∧
      (node.padded axis + min (node.after axis) 0).toNat - sliceStart node axis =
        ((node.dim axis : Int) + node.before axis + node.after axis).toNat := by
    intro axis haxis
    have hnonneg := hwf.nonneg axis haxis
    unfold sliceStart PadNode.padded
    omega
  have hvalid : List.Forall₂ (fun range d => (rangeOf range).Valid d)
      (sliceRanges node.rank shape node.pads) t.shape := by
    rw [ht,sliceRanges,forall₂_map_left_iff,forall₂_map_right_iff,forall₂_same]
    intro axis haxis
    have hbound := hbounds axis (mem_range.mp haxis)
    rw [hrange axis (mem_range.mp haxis)]
    exact ⟨hbound.2.1,Int.toNat_le_toNat (by omega),Nat.one_pos⟩
  have hsize : (stridedSlice ((sliceRanges node.rank shape node.pads).map rangeOf) t).shape =
      outputShape.map UInt32.toNat := by
    rw [houtput,stridedSlice,hranges,map_map]
    refine map_congr_left fun axis haxis => ?_
    have hbound := hbounds axis (mem_range.mp haxis)
    simp only [Function.comp_apply,Range.size,Nat.add_sub_cancel,Nat.div_one]
    exact hbound.2.2
  rw [PadOp.run,if_pos hvalid,checked_some hsize]
  rw [stridedSlice,Option.some.injEq,Tensor.mk.injEq]
  refine ⟨hsize,funext fun idx => ?_⟩
  rw [hranges,zipWith_map_left,zipWith_map_left]
  simp only [Nat.mul_one]

omit [Zero α] in
theorem padded_eq_dim (hwf : WellFormed node) (h : ∀ pad ∈ node.pads, pad < 0) (hne : node.pads ≠ [])
    {axis : Nat} (haxis : axis < node.rank) :
    node.before axis < 0 ∧ node.padded axis = node.dim axis := by
  have hlen : node.pads.length = 2 * node.rank := by
    have hpads := hwf.pads_length
    cases hshape : node.onnxShape with
    | nil =>
      rw [hshape] at hpads
      exact absurd (length_eq_zero_iff.mp hpads) hne
    | cons d ds =>
      rw [hpads,PadNode.rank,PadNode.inputShape,hshape]
      rfl
  have hat : ∀ i < 2 * node.rank, node.pads.getD i 0 < 0 := by
    intro i hi
    rw [← hlen] at hi
    rw [getD_eq_getElem _ _ hi]
    exact h _ (getElem_mem hi)
  have hbefore : node.before axis < 0 := hat axis (by omega)
  have hafter : node.after axis < 0 := hat _ (by omega)
  refine ⟨hbefore,?_⟩
  unfold PadNode.padded
  omega

theorem computes_of_neg (hwf : WellFormed node)
    (hemitted : Emitted node ops padAmount value outputShape) (h : ∀ pad ∈ node.pads, pad < 0)
    (hne : node.pads ≠ []) : Computes node ops := by
  intro x hx
  have hneg : node.pads.any (· < 0) = true := by
    obtain ⟨pad,hmem⟩ := exists_mem_of_ne_nil _ hne
    simpa using ⟨pad,hmem,h pad hmem⟩
  have hpos : node.pads.any (0 ≤ ·) = false := by simpa using h
  have hdim : ∀ axis < node.rank, node.before axis < 0 ∧ node.padded axis = node.dim axis :=
    fun axis haxis => padded_eq_dim hwf h hne haxis
  have hshape : ∀ axis < node.rank,
      (((padOutputShape node.inputShape padAmount).getD axis 0).toNat : Int) = node.padded axis := by
    intro axis haxis
    have hlt := (node.inputShape.getD axis 0).toNat_lt
    have hdims : node.dim axis = (node.inputShape.getD axis 0).toNat := rfl
    have heq := (hdim axis haxis).2
    rw [padOutputShape_toNat hemitted.amounts haxis]
    omega
  have hinput : x.shape = (List.range node.rank).map fun axis => (node.padded axis).toNat := by
    rw [hx,shape_eq_map]
    refine map_congr_left fun axis haxis => ?_
    rw [(hdim axis (mem_range.mp haxis)).2]
    rfl
  have hrun := slice_run hwf hshape hemitted.output hinput
  rw [hemitted.ops,emit,hneg,hpos]
  refine ⟨_,(runOps_single _ _).trans hrun,hemitted.output.trans (onnxPad_shape hx).symm,?_⟩
  intro idx hidx
  rw [onnxPad_shape hx] at hidx
  have hinside : padIndex ((List.range node.rank).map node.before)
      ((List.range node.rank).map node.dim) idx =
      some (List.zipWith (· + ·) ((List.range node.rank).map (sliceStart node)) idx) := by
    refine padIndex_inside hidx ?_ ?_
    · intro axis haxis
      have hbefore := (hdim axis (mem_range.mp haxis)).1
      unfold sliceStart
      omega
    · intro axis haxis
      obtain ⟨hbefore,hpadded⟩ := hdim axis (mem_range.mp haxis)
      have hnonneg := hwf.nonneg axis (mem_range.mp haxis)
      unfold PadNode.padded at hpadded
      unfold sliceStart
      omega
  rw [onnxPad_get hx,hinside]
  rfl

theorem computes_of_mixed (hwf : WellFormed node)
    (hemitted : Emitted node ops padAmount value outputShape)
    (hneg : node.pads.any (· < 0) = true) (hpos : node.pads.any (0 ≤ ·) = true)
    (h : ∀ axis < node.rank, node.padded axis < 2 ^ 32) : Computes node ops := by
  intro x hx
  have hshape : ∀ axis < node.rank,
      (((padOutputShape node.inputShape padAmount).getD axis 0).toNat : Int) = node.padded axis := by
    intro axis haxis
    have hlt := h axis haxis
    have hpadded : node.padded axis =
      node.dim axis + max (node.before axis) 0 + max (node.after axis) 0 := rfl
    rw [padOutputShape_toNat hemitted.amounts haxis]
    omega
  have hpadShape := paddedShape_pad hx
  have hregistered : (padOutputShape node.inputShape padAmount).map UInt32.toNat =
      (List.range node.rank).map fun axis => (node.padded axis).toNat := by
    rw [padOutputShape_map hemitted.amounts]
    refine map_congr_left fun axis haxis => ?_
    rw [← padOutputShape_toNat hemitted.amounts (mem_range.mp haxis),
      hshape axis (mem_range.mp haxis)]
  have hpad := (pad_run hemitted.amounts hemitted.constant hx _).trans
    (checked_some (hpadShape.trans hregistered.symm))
  have hslice := slice_run hwf hshape hemitted.output hpadShape
  rw [hemitted.ops,emit,hneg,hpos]
  refine ⟨_,runOps_pair hpad hslice,hemitted.output.trans (onnxPad_shape hx).symm,?_⟩
  intro idx hidx
  rw [onnxPad_get hx]
  change ((padIndex _ x.shape _).map x.get).getD node.onnxConstant = _
  rw [hx,shape_eq_map]
  congr 2
  refine padIndex_shift fun axis haxis => ?_
  unfold sliceStart
  omega

theorem not_computes_of_wrap (hemitted : Emitted node ops padAmount value outputShape)
    (hneg : node.pads.any (· < 0) = true) (hpos : node.pads.any (0 ≤ ·) = true)
    {axis : Nat} (haxis : axis < node.rank) (h : 2 ^ 32 ≤ node.padded axis) : ¬Computes node ops := by
  intro hcomputes
  obtain ⟨y,hy,-⟩ := hcomputes ⟨node.inputShape.map UInt32.toNat,fun _ => 0⟩ rfl
  have hpad := pad_run hemitted.amounts hemitted.constant
    (x := ⟨node.inputShape.map UInt32.toNat,fun _ => 0⟩) rfl (padOutputShape node.inputShape padAmount)
  have hne : (padConstant ((List.range node.rank).map fun a => max (node.before a) 0)
      ((List.range node.rank).map fun a => max (node.after a) 0) node.onnxConstant
      (⟨node.inputShape.map UInt32.toNat,fun _ => 0⟩ : Tensor α)).shape ≠
      (padOutputShape node.inputShape padAmount).map UInt32.toNat := by
    intro heq
    rw [paddedShape_pad rfl] at heq
    rw [padOutputShape_map hemitted.amounts] at heq
    have hat := map_inj_left.mp heq axis (mem_range.mpr haxis)
    omega
  rw [hemitted.ops,emit,hneg,hpos] at hy
  have hnone := hpad.trans (checked_none hne)
  have hcons := (runOps_cons _ _ _).symm.trans hy
  rw [hnone] at hcons
  cases hcons

theorem pad_computes_iff (hwf : WellFormed node) (hmode : node.mode = .constant)
    (h : addToModelBuilder node = .ok ops) : Computes node ops ↔ Representable node := by
  obtain ⟨padAmount,value,outputShape,hemitted⟩ := addToModelBuilder_ok hwf hmode h
  by_cases hneg : node.pads.any (· < 0) = true
  · have hsome : ¬∀ pad ∈ node.pads, 0 ≤ pad := by simpa using hneg
    by_cases hpos : node.pads.any (0 ≤ ·) = true
    · have hnot : ¬∀ pad ∈ node.pads, pad < 0 := by simpa using hpos
      constructor
      · intro hcomputes
        refine .inr (.inr fun axis haxis => ?_)
        by_contra hwrap
        exact not_computes_of_wrap hemitted hneg hpos haxis (not_lt.mp hwrap) hcomputes
      · rintro (hall | hall | hall)
        · exact absurd hall hsome
        · exact absurd hall hnot
        · exact computes_of_mixed hwf hemitted hneg hpos hall
    · have hall : ∀ pad ∈ node.pads, pad < 0 := by simpa using hpos
      refine iff_of_true (computes_of_neg hwf hemitted hall ?_) (.inr (.inl hall))
      rintro hnil
      simp [hnil] at hneg
  · have hall : ∀ pad ∈ node.pads, 0 ≤ pad := by simpa using hneg
    exact iff_of_true (computes_of_nonneg hemitted hall) (.inl hall)

end

end

def padNode (shape : List UInt32) (output pads : List Int) : PadNode Int where
  microsoftDomain := false
  opset := 13
  inputCount := 2
  onnxShape := shape
  onnxOutputShape := output
  padsAttribute := none
  padsInput := some pads
  valueAttribute := none
  constantInput := none
  mode := .constant

theorem pad_computes_mixed :
    Computes (padNode [2,3] [3,2] [2,-2,-1,1])
      [.pad .constant [2,0,0,1] none [4,4],.stridedSlice [(0,3,1),(2,4,1)] [3,2]] :=
  (pad_computes_iff ⟨rfl,by decide,by decide⟩ rfl (by rfl)).mpr (by decide)

theorem padded_size_wraps :
    addToModelBuilder (padNode [1] [1] [4294967295,-4294967295]) =
        .ok [.pad .constant [4294967295,0] none [0],.stridedSlice [(0,1,1)] [1]] ∧
      WellFormed (padNode [1] [1] [4294967295,-4294967295]) ∧
      ¬∃ y, runOps [.pad .constant [4294967295,0] none [0],.stridedSlice [(0,1,1)] [1]]
        (⟨[1],fun _ => 7⟩ : Tensor Int) = some y := by
  refine ⟨rfl,⟨rfl,by decide,by decide⟩,?_⟩
  rintro ⟨y,hy⟩
  cases hy

end QnnEp.Pad
