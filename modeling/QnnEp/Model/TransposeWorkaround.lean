import QnnEp.Model.MoveNodes

namespace QnnEp.TransposeWorkaround
open List Tensors

section
variable (inputShape perm outputShape : List Nat)

structure AxisScan where
  seenAxis : List Bool
  hasPreviousNonUnitAxis : Bool
  previousNonUnitAxis : Nat
  deriving DecidableEq, Repr

def visitAxis (scan : AxisScan) (i : Nat) : Option AxisScan :=
  let rank := inputShape.length
  let axis := perm.getD i 0
  if axis ≥ rank ∨ scan.seenAxis.getD axis false = true then none
  else
    let seenAxis := scan.seenAxis.set axis true
    let dim := inputShape.getD axis 0
    if dim = 0 ∨ outputShape.getD i 0 ≠ dim then none
    else if dim ≠ 1 then
      if scan.hasPreviousNonUnitAxis = true ∧ axis < scan.previousNonUnitAxis then none
      else some ⟨seenAxis,true,axis⟩
    else some { scan with seenAxis := seenAxis }

def startScan : AxisScan := ⟨List.replicate inputShape.length false,false,0⟩

def scanAxes (count : Nat) : Option AxisScan :=
  (List.range count).foldlM (visitAxis inputShape perm outputShape) (startScan inputShape)

def needsHtpTransposeReshapeWorkaround : Bool :=
  let rank := inputShape.length
  if perm.length ≠ rank ∨ outputShape.length ≠ rank ∨ Model.isIdentityPerm perm = true ∨
      inputShape = outputShape then false
  else (scanAxes inputShape perm outputShape rank).isSome

end

section
variable {inputShape perm outputShape : List Nat} {scan : AxisScan} {k : Nat}

def nonUnit (inputShape axes : List Nat) : List Nat := axes.filter fun axis => inputShape.getD axis 0 ≠ 1

structure Accepts (inputShape perm outputShape : List Nat) (k : Nat) : Prop where
  nodup : (perm.take k).Nodup
  bound : ∀ axis ∈ perm.take k, axis < inputShape.length
  dims : ∀ i < k, inputShape.getD (perm.getD i 0) 0 ≠ 0 ∧
    outputShape.getD i 0 = inputShape.getD (perm.getD i 0) 0
  sorted : (nonUnit inputShape (perm.take k)).Pairwise (· < ·)

structure Scanned (inputShape perm : List Nat) (k : Nat) (scan : AxisScan) : Prop where
  length : scan.seenAxis.length = inputShape.length
  seen : ∀ axis < inputShape.length, scan.seenAxis.getD axis false = true ↔ axis ∈ perm.take k
  last : ∀ axis ∈ nonUnit inputShape (perm.take k),
    scan.hasPreviousNonUnitAxis = true ∧ axis ≤ scan.previousNonUnitAxis
  previous : scan.hasPreviousNonUnitAxis = true →
    scan.previousNonUnitAxis ∈ nonUnit inputShape (perm.take k)

theorem take_succ_getD (hk : k < perm.length) : perm.take (k + 1) = perm.take k ++ [perm.getD k 0] := by
  rw [take_succ_eq_append_getElem hk,getD_eq_getElem _ _ hk]

variable (inputShape) in
theorem nonUnit_take_succ (hk : k < perm.length) :
    nonUnit inputShape (perm.take (k + 1)) = nonUnit inputShape (perm.take k) ++
      if inputShape.getD (perm.getD k 0) 0 ≠ 1 then [perm.getD k 0] else [] := by
  rw [take_succ_getD hk,nonUnit,filter_append,filter_singleton]
  by_cases hunit : inputShape.getD (perm.getD k 0) 0 ≠ 1
  · rw [if_pos hunit,decide_eq_true hunit]
    rfl
  · rw [if_neg hunit,decide_eq_false hunit]
    rfl

theorem accepts_succ_iff (hk : k < perm.length) :
    Accepts inputShape perm outputShape (k + 1) ↔
      Accepts inputShape perm outputShape k ∧ perm.getD k 0 < inputShape.length ∧
        perm.getD k 0 ∉ perm.take k ∧ inputShape.getD (perm.getD k 0) 0 ≠ 0 ∧
        outputShape.getD k 0 = inputShape.getD (perm.getD k 0) 0 ∧
        (inputShape.getD (perm.getD k 0) 0 ≠ 1 →
          ∀ axis ∈ nonUnit inputShape (perm.take k), axis < perm.getD k 0) := by
  have htake := take_succ_getD hk
  have hnonUnit := nonUnit_take_succ inputShape hk
  constructor
  · intro h
    have hnodup := h.nodup
    have hsorted := h.sorted
    rw [htake,nodup_append] at hnodup
    rw [hnonUnit,pairwise_append] at hsorted
    refine ⟨⟨hnodup.1,fun axis haxis => h.bound axis ?_,fun i hi => h.dims i (by omega),hsorted.1⟩,
      h.bound _ ?_,fun hmem => ?_,(h.dims k (by omega)).1,(h.dims k (by omega)).2,?_⟩
    · rw [htake]
      exact mem_append_left _ haxis
    · rw [htake]
      exact mem_append_right _ (mem_singleton_self _)
    · exact hnodup.2.2 _ hmem _ (mem_singleton_self _) rfl
    · intro hdim axis haxis
      exact hsorted.2.2 axis haxis _ (by rw [if_pos hdim]; exact mem_singleton_self _)
  · rintro ⟨h,hbound,hnew,hdim,hout,hlast⟩
    refine ⟨?_,?_,?_,?_⟩
    · rw [htake,nodup_append]
      refine ⟨h.nodup,nodup_singleton _,fun axis haxis axis' haxis' he => hnew ?_⟩
      rwa [← mem_singleton.mp haxis',← he]
    · rw [htake]
      intro axis haxis
      rcases mem_append.mp haxis with haxis | haxis
      · exact h.bound axis haxis
      · rwa [mem_singleton.mp haxis]
    · intro i hi
      rcases Nat.lt_succ_iff_lt_or_eq.mp hi with hi | rfl
      · exact h.dims i hi
      · exact ⟨hdim,hout⟩
    · rw [hnonUnit,pairwise_append]
      split
      · next hunit =>
        refine ⟨h.sorted,pairwise_singleton _ _,fun axis haxis axis' haxis' => ?_⟩
        rw [mem_singleton.mp haxis']
        exact hlast hunit axis haxis
      · exact ⟨h.sorted,.nil,fun _ _ _ hmem => absurd hmem not_mem_nil⟩

theorem seen_succ (hk : k < perm.length) (hs : Scanned inputShape perm k scan) {axis : Nat}
    (haxis : axis < inputShape.length) :
    (scan.seenAxis.set (perm.getD k 0) true).getD axis false = true ↔ axis ∈ perm.take (k + 1) := by
  rw [take_succ_getD hk,mem_append,mem_singleton,← hs.seen axis haxis,
    getD_eq_getElem?_getD,List.getElem?_set]
  generalize perm.getD k 0 = newAxis
  by_cases he : newAxis = axis
  · subst he
    simp [hs.length,haxis]
  · simp [he,Ne.symm he]

theorem scanned_unit (hk : k < perm.length) (hs : Scanned inputShape perm k scan)
    (hunit : inputShape.getD (perm.getD k 0) 0 = 1) :
    Scanned inputShape perm (k + 1)
      { scan with seenAxis := scan.seenAxis.set (perm.getD k 0) true } := by
  have hsame : nonUnit inputShape (perm.take (k + 1)) = nonUnit inputShape (perm.take k) := by
    rw [nonUnit_take_succ inputShape hk,if_neg (not_not.mpr hunit),append_nil]
  refine ⟨by rw [length_set,hs.length],fun axis haxis => seen_succ hk hs haxis,?_,?_⟩
  · rw [hsame]
    exact hs.last
  · rw [hsame]
    exact hs.previous

theorem scanned_nonUnit (hk : k < perm.length) (hs : Scanned inputShape perm k scan)
    (hunit : inputShape.getD (perm.getD k 0) 0 ≠ 1)
    (hlast : ∀ axis ∈ nonUnit inputShape (perm.take k), axis < perm.getD k 0) :
    Scanned inputShape perm (k + 1)
      ⟨scan.seenAxis.set (perm.getD k 0) true,true,perm.getD k 0⟩ := by
  have hmore : nonUnit inputShape (perm.take (k + 1)) =
      nonUnit inputShape (perm.take k) ++ [perm.getD k 0] := by
    rw [nonUnit_take_succ inputShape hk,if_pos hunit]
  refine ⟨by rw [length_set,hs.length],fun axis haxis => seen_succ hk hs haxis,?_,?_⟩
  · rw [hmore]
    intro axis haxis
    rcases mem_append.mp haxis with haxis | haxis
    · exact ⟨rfl,Nat.le_of_lt (hlast axis haxis)⟩
    · exact ⟨rfl,Nat.le_of_eq (mem_singleton.mp haxis)⟩
  · rw [hmore]
    exact fun _ => mem_append_right _ (mem_singleton_self _)

theorem visitAxis_cases (hk : k < perm.length) (ha : Accepts inputShape perm outputShape k)
    (hs : Scanned inputShape perm k scan) :
    (visitAxis inputShape perm outputShape scan k = none ∧
        ¬Accepts inputShape perm outputShape (k + 1)) ∨
      ∃ next, visitAxis inputShape perm outputShape scan k = some next ∧
        Accepts inputShape perm outputShape (k + 1) ∧ Scanned inputShape perm (k + 1) next := by
  rw [accepts_succ_iff hk]
  unfold visitAxis
  simp only
  split
  · next hreject =>
    refine .inl ⟨rfl,fun ⟨_,hbound,hnew,_⟩ => ?_⟩
    rcases hreject with hout | hseen
    · omega
    · exact hnew ((hs.seen _ hbound).mp hseen)
  next hfresh =>
  rw [not_or] at hfresh
  have hbound : perm.getD k 0 < inputShape.length := by omega
  have hnew : perm.getD k 0 ∉ perm.take k := fun hmem => hfresh.2 ((hs.seen _ hbound).mpr hmem)
  split
  · next hreject =>
    refine .inl ⟨rfl,fun ⟨_,_,_,hdim,hout,_⟩ => ?_⟩
    exact hreject.elim hdim fun hne => hne hout
  next hdims =>
  rw [not_or,not_not] at hdims
  split
  · next hunit =>
    split
    · next hless =>
      refine .inl ⟨rfl,fun ⟨_,_,_,_,_,hlast⟩ => ?_⟩
      have := hlast hunit _ (hs.previous hless.1)
      omega
    · next hgreater =>
      have hlast : ∀ axis ∈ nonUnit inputShape (perm.take k), axis < perm.getD k 0 := by
        intro axis haxis
        obtain ⟨hhas,hle⟩ := hs.last axis haxis
        have hne : axis ≠ perm.getD k 0 := fun he => hnew (he ▸ (mem_filter.mp haxis).1)
        have : ¬perm.getD k 0 < scan.previousNonUnitAxis := fun hless => hgreater ⟨hhas,hless⟩
        omega
      exact .inr ⟨_,rfl,⟨ha,hbound,hnew,hdims.1,hdims.2,fun _ => hlast⟩,
        scanned_nonUnit hk hs hunit hlast⟩
  · next hunit =>
    rw [not_not] at hunit
    exact .inr ⟨_,rfl,⟨ha,hbound,hnew,hdims.1,hdims.2,fun h => absurd hunit h⟩,scanned_unit hk hs hunit⟩

theorem scanAxes_succ (k : Nat) :
    scanAxes inputShape perm outputShape (k + 1) =
      (scanAxes inputShape perm outputShape k).bind
        fun scan => visitAxis inputShape perm outputShape scan k := by
  rw [scanAxes,range_succ,foldlM_append]
  simp only [foldlM_cons,foldlM_nil,bind_pure]
  rfl

variable (inputShape outputShape) in
theorem scanAxes_cases (hk : k ≤ perm.length) :
    (scanAxes inputShape perm outputShape k = none ∧ ¬Accepts inputShape perm outputShape k) ∨
      ∃ scan, scanAxes inputShape perm outputShape k = some scan ∧
        Accepts inputShape perm outputShape k ∧ Scanned inputShape perm k scan := by
  induction k with
  | zero =>
    refine .inr ⟨startScan inputShape,rfl,⟨?_,?_,?_,?_⟩,⟨?_,?_,?_,?_⟩⟩
    all_goals simp [nonUnit,startScan]
  | succ k ih =>
    rw [scanAxes_succ]
    rcases ih (by omega) with ⟨hnone,hnot⟩ | ⟨scan,hscan,ha,hs⟩
    · refine .inl ⟨by rw [hnone]; rfl,fun h => hnot ?_⟩
      exact ((accepts_succ_iff hk).mp h).1
    · rw [hscan]
      exact visitAxis_cases hk ha hs

theorem needs_iff :
    needsHtpTransposeReshapeWorkaround inputShape perm outputShape = true ↔
      perm.length = inputShape.length ∧ outputShape.length = inputShape.length ∧
        Model.isIdentityPerm perm = false ∧ inputShape ≠ outputShape ∧
        Accepts inputShape perm outputShape inputShape.length := by
  unfold needsHtpTransposeReshapeWorkaround
  simp only
  split
  · next hreject =>
    refine ⟨fun h => (Bool.false_ne_true h).elim,fun ⟨hlen,hout,hid,hne,_⟩ => ?_⟩
    rcases hreject with h | h | h | h
    · exact absurd hlen h
    · exact absurd hout h
    · rw [hid] at h
      cases h
    · exact absurd h hne
  · next hkeep =>
    simp only [not_or,not_not,Bool.not_eq_true] at hkeep
    obtain ⟨hlen,hout,hid,hne⟩ := hkeep
    rcases scanAxes_cases inputShape outputShape (Nat.le_of_eq hlen.symm) with
      ⟨hnone,hnot⟩ | ⟨scan,hscan,ha,_⟩
    · rw [hnone]
      exact ⟨fun h => (Bool.false_ne_true h).elim,fun h => absurd h.2.2.2.2 hnot⟩
    · rw [hscan]
      exact ⟨fun _ => ⟨hlen,hout,hid,hne,ha⟩,fun _ => rfl⟩

end

section
variable {inputShape perm outputShape : List Nat}

theorem accepts_permuted (hzero : 0 ∉ inputShape) (hperm : perm.Perm (List.range inputShape.length)) :
    Accepts inputShape perm (gather perm inputShape) inputShape.length ↔
      (nonUnit inputShape perm).Pairwise (· < ·) := by
  have hlen : perm.length = inputShape.length := by simpa using hperm.length_eq
  have hall : perm.take inputShape.length = perm := take_of_length_le (Nat.le_of_eq hlen)
  constructor
  · intro h
    have hsorted := h.sorted
    rwa [hall] at hsorted
  · intro hsorted
    refine ⟨?_,?_,fun i hi => ⟨fun hdim => ?_,gather_getD inputShape (by omega)⟩,?_⟩
    · rw [hall]
      exact hperm.nodup_iff.mpr nodup_range
    · rw [hall]
      exact fun axis haxis => mem_range.mp (hperm.mem_iff.mp haxis)
    · rw [← gather_getD inputShape (by omega),
        getD_eq_getElem _ _ (by rw [length_gather]; omega)] at hdim
      exact zero_notMem_gather hperm hzero (hdim ▸ getElem_mem _)
    · rwa [hall]

theorem needs_permuted_iff (hzero : 0 ∉ inputShape) (hperm : perm.Perm (List.range inputShape.length))
    (hchange : gather perm inputShape ≠ inputShape) :
    needsHtpTransposeReshapeWorkaround inputShape perm (gather perm inputShape) = true ↔
      (nonUnit inputShape perm).Pairwise (· < ·) := by
  have hlen : perm.length = inputShape.length := by simpa using hperm.length_eq
  have hid : Model.isIdentityPerm perm = false := by
    refine Bool.eq_false_iff.mpr fun h => hchange ?_
    rw [eq_of_beq h,hlen,gather_range]
  rw [needs_iff,accepts_permuted hzero hperm]
  exact ⟨fun h => h.2.2.2.2,fun h => ⟨hlen,(length_gather perm inputShape).trans hlen,hid,hchange.symm,h⟩⟩

theorem perm_of_accepts (hlen : perm.length = inputShape.length)
    (h : Accepts inputShape perm outputShape inputShape.length) :
    perm.Perm (List.range inputShape.length) := by
  have hall : perm.take inputShape.length = perm := take_of_length_le (Nat.le_of_eq hlen)
  refine perm_of_relabelling (hall ▸ h.nodup) (by rw [hlen,length_range]) fun axis haxis => ?_
  exact mem_range.mpr (h.bound axis (hall.symm ▸ haxis))

theorem output_of_accepts (hlen : perm.length = inputShape.length)
    (hout : outputShape.length = inputShape.length)
    (h : Accepts inputShape perm outputShape inputShape.length) :
    outputShape = gather perm inputShape := by
  refine ext_getElem (by rw [length_gather,hlen,hout]) fun i hi hi' => ?_
  have hentry := (h.dims i (hout ▸ hi)).2
  rwa [← gather_getD inputShape (by omega),getD_eq_getElem _ _ hi,
    getD_eq_getElem _ _ hi'] at hentry

theorem nonzero_of_accepts (hlen : perm.length = inputShape.length)
    (h : Accepts inputShape perm outputShape inputShape.length) : 0 ∉ inputShape := by
  intro hmem
  obtain ⟨axis,haxis,hdim⟩ := getElem_of_mem hmem
  have hperm := perm_of_accepts hlen h
  obtain ⟨i,hi,rfl⟩ := getElem_of_mem (hperm.mem_iff.mpr (mem_range.mpr haxis))
  refine (h.dims i (hlen ▸ hi)).1 ?_
  rw [getD_eq_getElem _ _ hi,getD_eq_getElem _ _ haxis,hdim]

theorem needs_eq_model :
    needsHtpTransposeReshapeWorkaround inputShape perm outputShape =
      Model.needsHtpTransposeReshapeWorkaround inputShape perm outputShape := by
  rw [Bool.eq_iff_iff,needs_iff]
  simp only [Model.needsHtpTransposeReshapeWorkaround,Bool.and_eq_true,beq_iff_eq,Bool.not_eq_true',
    bne_iff_ne,decide_eq_true_eq,all_eq_true,MoveNodes.filter_bne_one]
  constructor
  · rintro ⟨hlen,hout,hid,hne,h⟩
    have hperm := perm_of_accepts hlen h
    have hzero := nonzero_of_accepts hlen h
    have houtput := output_of_accepts hlen hout h
    subst houtput
    refine ⟨⟨⟨⟨⟨⟨⟨⟨hlen,hout⟩,hid⟩,hne⟩,fun axis haxis => ?_⟩,?_⟩,rfl⟩,?_⟩,?_⟩
    · exact mem_range.mp (hperm.mem_iff.mp haxis)
    · exact hperm.nodup_iff.mpr nodup_range
    · simpa using hzero
    · exact (accepts_permuted hzero hperm).mp h
  · rintro ⟨⟨⟨⟨⟨⟨⟨⟨hlen,hout⟩,hid⟩,hne⟩,hbound⟩,hnodup⟩,houtput⟩,hzero⟩,hsorted⟩
    have hperm : perm.Perm (List.range inputShape.length) :=
      perm_of_relabelling hnodup (by rw [hlen,length_range]) fun axis haxis =>
        mem_range.mpr (hbound axis haxis)
    subst houtput
    exact ⟨hlen,hout,hid,hne,(accepts_permuted (by simpa using hzero) hperm).mpr hsorted⟩

theorem addTransposeNode_reshape_iff :
    MoveNodes.addTransposeNode false inputShape perm outputShape = .ok (.reshape outputShape) ↔
      needsHtpTransposeReshapeWorkaround inputShape perm outputShape = true := by
  rw [needs_eq_model]
  by_cases h : Model.needsHtpTransposeReshapeWorkaround inputShape perm outputShape = true
  · exact ⟨fun _ => h,fun _ => by rw [MoveNodes.addTransposeNode,if_pos h]; rfl⟩
  · refine ⟨fun hadd => ?_,fun h' => absurd h' h⟩
    rw [MoveNodes.addTransposeNode,if_neg h] at hadd
    cases hadd

theorem workaround_iff_flat_positions (shape perm : List Nat) (hzero : 0 ∉ shape)
    (hperm : perm.Perm (List.range shape.length)) (hchange : gather perm shape ≠ shape) :
    (needsHtpTransposeReshapeWorkaround shape perm (gather perm shape) = true ↔
        ∀ idx, InBounds shape idx →
          ravel (gather perm shape) (gather perm idx) = ravel shape idx) ∧
      (needsHtpTransposeReshapeWorkaround shape perm (gather perm shape) = true ↔
        ∀ (R : Type) (t : Tensor R), t.shape = shape →
          (t.reshape (gather perm shape)).Same (t.transpose perm)) ∧
      (MoveNodes.addTransposeNode false shape perm (gather perm shape) =
          .ok (.reshape (gather perm shape)) ↔
        needsHtpTransposeReshapeWorkaround shape perm (gather perm shape) = true) := by
  have hpositions := (needs_permuted_iff hzero hperm hchange).trans
    (ravel_gather_iff_sorted hperm hzero).symm
  exact ⟨hpositions,hpositions.trans (reshape_same_transpose_iff hperm).symm,addTransposeNode_reshape_iff⟩

theorem workaround_leading_unit :
    needsHtpTransposeReshapeWorkaround [128,1,128] [1,0,2] [1,128,128] = true ∧
      ∀ idx, InBounds [128,1,128] idx →
        ravel [1,128,128] (gather [1,0,2] idx) = ravel [128,1,128] idx := by
  have hneeds : needsHtpTransposeReshapeWorkaround [128,1,128] [1,0,2] [1,128,128] = true := by decide
  exact ⟨hneeds,(workaround_iff_flat_positions [128,1,128] [1,0,2] (by decide) (by decide)
    (by decide)).1.mp hneeds⟩

end

end QnnEp.TransposeWorkaround
