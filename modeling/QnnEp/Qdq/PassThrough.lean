import QnnEp.Qdq.NodeUnits

namespace QnnEp.Qdq
open Ort Rounding

inductive Selector.DropsPair : Selector → Prop where
  | dropQDQ (allowNonpositiveScale : Bool) : DropsPair (.dropQDQ allowNonpositiveScale)
  | topK : DropsPair .topK

namespace QdqGraph
variable (g : QdqGraph Binary32)

structure NamedRuntime extends QdqGraph.Runtime g where
  named : ∀ v w, (g.value v).name = (g.value w).name → size v = size w ∧ floats v = floats w

def scaleAt (run : g.NamedRuntime) (n : NodeId) (c : Nat) : ℚ := run.floats (g.inputOf n 1) c

def scaleSize (run : g.NamedRuntime) (n : NodeId) : Nat := run.size (g.inputOf n 1)

def zeroPointAt (run : g.NamedRuntime) (n : NodeId) (c : Nat) : Int :=
  match g.getNodeInputValueInfo n 2 with
  | some v => run.ints v c
  | none => 0

structure SameEncoding (run : g.NamedRuntime) (dq q : NodeId) : Prop where
  sizes : g.scaleSize run q = g.scaleSize run dq
  scales : ∀ c < g.scaleSize run q, g.scaleAt run q c = g.scaleAt run dq c
  zeroPoints : ∀ c < g.scaleSize run q, g.zeroPointAt run q c = g.zeroPointAt run dq c
  passes : ∀ c < g.scaleSize run q, g.scaleAt run q c ≠ 0 → ∀ (range : Int × Int) (n : Int),
    range.1 ≤ n → n ≤ range.2 → quantize (g.scaleAt run q c) (g.zeroPointAt run q c) range
      (g.scaleAt run dq c * (n - g.zeroPointAt run dq c : ℤ)) = n

def axisOf (n : NodeId) : Int :=
  let axis := ((g.node n).intAttr "axis").getD 1
  if axis < 0 then axis + (((g.getValueInfoShape (g.getNodeInputValueInfo n 0)).getD []).length : Int) else axis

def blockSizeOf (n : NodeId) : Int := ((g.node n).intAttr "block_size").getD 0

-- The element of the scale tensor that applies at an index of the data: one for a whole tensor, else
-- the coordinate on the quantized axis, or with a block size the block that holds the index.
def scaleIndex (run : g.NamedRuntime) (n : NodeId) (index : List Nat) : Nat :=
  let axis := (g.axisOf n).toNat
  if g.scaleSize run n = 1 then 0
  else if g.blockSizeOf n = 0 then index.getD axis 0
  else
    let shape := (g.getValueInfoShape (g.getNodeInputValueInfo n 1)).getD []
    (shape.zip (index.modify axis (· / (g.blockSizeOf n).toNat))).foldl
      (fun position d => position * d.1.toNat + d.2) 0

def scaleOn (run : g.NamedRuntime) (n : NodeId) (index : List Nat) : ℚ :=
  g.scaleAt run n (g.scaleIndex run n index)

def zeroPointOn (run : g.NamedRuntime) (n : NodeId) (index : List Nat) : Int :=
  g.zeroPointAt run n (g.scaleIndex run n index)

-- Which elements of the DQ's tensor the op copies to which elements of the Q's, by their indices.
abbrev Movement := NodeId → NodeId → List Nat → List Nat → Prop

structure PassesThrough (run : g.NamedRuntime) (moves : Movement) (dq q : NodeId) : Prop extends
    SameEncoding g run dq q where
  elements : ∀ i o, moves dq q i o → g.scaleIndex run q o < g.scaleSize run q →
    g.scaleOn run q o = g.scaleOn run dq i ∧ g.zeroPointOn run q o = g.zeroPointOn run dq i
  codes : ∀ i o, moves dq q i o → g.scaleIndex run q o < g.scaleSize run q → g.scaleOn run q o ≠ 0 →
    ∀ (range : Int × Int) (n : Int), range.1 ≤ n → n ≤ range.2 →
      quantize (g.scaleOn run q o) (g.zeroPointOn run q o) range
        (g.scaleOn run dq i * (n - g.zeroPointOn run dq i : ℤ)) = n

def PairsTransparent (run : g.NamedRuntime) (moves : Movement) (u : OrtNodeUnit) : Prop :=
  ∀ dq ∈ u.dqNodes, ∀ q ∈ u.qNodes, g.PassesThrough run moves dq q

-- Where the Q looks an element up and where the DQ did, the DQ's own parameters agree.
def Aligned (run : g.NamedRuntime) (moves : Movement) (dq q : NodeId) : Prop :=
  ∀ i o, moves dq q i o → g.scaleIndex run q o < g.scaleSize run q →
    g.scaleAt run dq (g.scaleIndex run q o) = g.scaleOn run dq i ∧
      g.zeroPointAt run dq (g.scaleIndex run q o) = g.zeroPointOn run dq i

def sameScaleName (dq q : NodeId) : Bool :=
  (g.value (g.inputOf q 1)).name == (g.value (g.inputOf dq 1)).name

def scalesRead (dq q : NodeId) : Bool :=
  (g.constantFloat (g.inputOf q 1)).isSome && (g.constantFloat (g.inputOf dq 1)).isSome

structure UnreadEqual (run : g.NamedRuntime) (u : OrtNodeUnit) (dq q : NodeId) : Prop where
  sizes : g.sameScaleName dq q = false → g.scaleSize run q = g.scaleSize run dq
  scales : g.sameScaleName dq q = false → ∀ c < g.scaleSize run q,
    ¬(u.qNodes.head? = some q ∧ g.scalesRead dq q = true ∧ c = 0) →
      g.scaleAt run q c = g.scaleAt run dq c
  zeroPoints : ∀ c < g.scaleSize run q, g.zeroPointAt run q c = g.zeroPointAt run dq c

variable {g}

theorem eq_of_finite_eq {x y : ℚ} {hx : Representable x} {hy : Representable y}
    (h : Binary32.eq (.finite x hx) (.finite y hy) = true) : x = y := by
  simp only [Binary32.eq,Binary32.le,Bool.and_eq_true,decide_eq_true_eq] at h
  exact le_antisymm h.1 h.2

theorem isQDQPairSupported_spec {dq q : NodeId} (h : g.isQDQPairSupported q dq = true) :
    g.sameScaleName dq q = true ∨
      ∀ x y, g.constantFloat (g.inputOf q 1) = some x → g.constantFloat (g.inputOf dq 1) = some y →
        x = y := by
  unfold isQDQPairSupported at h
  split at h
  · next qScale dqScale hq hdq =>
    have hq' : g.inputOf q 1 = qScale := by rw [inputOf,hq]; rfl
    have hdq' : g.inputOf dq 1 = dqScale := by rw [inputOf,hdq]; rfl
    split at h
    · next hname =>
      left
      rw [sameScaleName,hq',hdq']
      exact hname
    · right
      intro x y hx hy
      rw [hq'] at hx
      rw [hdq'] at hy
      obtain ⟨qs,hxr,hqs,hqt,hqf⟩ := constantFloat_finite hx
      obtain ⟨ds,hyr,hds,-,hdf⟩ := constantFloat_finite hy
      rw [hqs,hds] at h
      simp only [hqt,Bool.and_eq_true,hqf,hdf] at h
      exact eq_of_finite_eq h.2
  · cases h

theorem SameEncoding.of_equal {run : g.NamedRuntime} {dq q : NodeId}
    (hsizes : g.scaleSize run q = g.scaleSize run dq)
    (hscales : ∀ c < g.scaleSize run q, g.scaleAt run q c = g.scaleAt run dq c)
    (hzero : ∀ c < g.scaleSize run q, g.zeroPointAt run q c = g.zeroPointAt run dq c) :
    g.SameEncoding run dq q := by
  refine ⟨hsizes,hscales,hzero,?_⟩
  intro c hc hne range n hlow hhigh
  rw [← hscales c hc,← hzero c hc]
  exact quantize_of_code hne hlow hhigh

theorem sameEncoding_iff {run : g.NamedRuntime} {u : OrtNodeUnit} {dq q : NodeId}
    (hfirst : u.qNodes.head? = some q → g.isQDQPairSupported q dq = true) :
    g.SameEncoding run dq q ↔ g.UnreadEqual run u dq q := by
  constructor
  · intro h
    exact ⟨fun _ => h.sizes,fun _ c hc _ => h.scales c hc,h.zeroPoints⟩
  · rintro ⟨hsizes,hscales,hzero⟩
    cases hname : g.sameScaleName dq q with
    | true =>
      obtain ⟨hsize,hfloats⟩ := run.named _ _ (beq_iff_eq.mp hname)
      exact .of_equal hsize (fun c _ => congrFun hfloats c) hzero
    | false =>
      refine .of_equal (hsizes hname) ?_ hzero
      intro c hc
      by_cases hread : u.qNodes.head? = some q ∧ g.scalesRead dq q = true ∧ c = 0
      · obtain ⟨hhead,hread,rfl⟩ := hread
        rw [scalesRead,Bool.and_eq_true] at hread
        obtain ⟨x,hx⟩ := Option.isSome_iff_exists.mp hread.1
        obtain ⟨y,hy⟩ := Option.isSome_iff_exists.mp hread.2
        rcases isQDQPairSupported_spec (hfirst hhead) with hsame | heq
        · rw [hname] at hsame
          cases hsame
        · rw [scaleAt,scaleAt,run.floats_constant _ _ hx,run.floats_constant _ _ hy]
          exact heq x y hx hy
      · exact hscales hname c hc hread

theorem passesThrough_iff {run : g.NamedRuntime} {moves : Movement} {dq q : NodeId} :
    g.PassesThrough run moves dq q ↔ g.SameEncoding run dq q ∧ g.Aligned run moves dq q := by
  constructor
  · intro h
    refine ⟨h.toSameEncoding,fun i o hmove hindex => ?_⟩
    obtain ⟨hscale,hzero⟩ := h.elements i o hmove hindex
    exact ⟨(h.scales _ hindex).symm.trans hscale,(h.zeroPoints _ hindex).symm.trans hzero⟩
  · rintro ⟨h,haligned⟩
    have helements : ∀ i o, moves dq q i o → g.scaleIndex run q o < g.scaleSize run q →
        g.scaleOn run q o = g.scaleOn run dq i ∧ g.zeroPointOn run q o = g.zeroPointOn run dq i := by
      intro i o hmove hindex
      obtain ⟨hscale,hzero⟩ := haligned i o hmove hindex
      exact ⟨(h.scales _ hindex).trans hscale,(h.zeroPoints _ hindex).trans hzero⟩
    refine ⟨h,helements,?_⟩
    intro i o hmove hindex hne range n hlow hhigh
    obtain ⟨hscale,hzero⟩ := helements i o hmove hindex
    rw [← hscale,← hzero]
    exact quantize_of_code hne hlow hhigh

theorem checkQDQNodes_dqs {node : NodeId} {dqs qs : List NodeId} {count : Nat} {allowed : Bool}
    (h : g.checkQDQNodes node dqs qs (some count) allowed = true) : dqs.length = count := by
  unfold checkQDQNodes at h
  split at h
  · cases h
  · next hne =>
    rw [Option.getD_some,Bool.not_eq_true,bne_eq_false_iff_eq] at hne
    exact hne.symm

theorem check_dropsPair {node : NodeId} {clip : Option NodeId} {dqs qs : List NodeId}
    {selector : Selector} (hdrops : selector.DropsPair)
    (h : g.check node clip dqs qs selector = true) :
    ∃ dq q, dqs = [dq] ∧ qs.head? = some q ∧ g.isQDQPairSupported q dq = true := by
  cases hdrops with
  | dropQDQ allow =>
    simp only [check,checkDropQDQ,Bool.and_eq_true] at h
    obtain ⟨⟨⟨-,hnodes⟩,-⟩,hmatch⟩ := h
    obtain ⟨dq,rfl⟩ := List.length_eq_one_iff.mp (checkQDQNodes_dqs hnodes)
    cases qs with
    | nil => cases hmatch
    | cons q rest => exact ⟨dq,q,rfl,rfl,(Bool.and_eq_true _ _ ▸ hmatch).2⟩
  | topK =>
    simp only [check,checkTopK,Bool.and_eq_true,beq_iff_eq] at h
    obtain ⟨⟨⟨⟨⟨-,hlen⟩,-⟩,-⟩,-⟩,hmatch⟩ := h
    obtain ⟨dq,rfl⟩ := List.length_eq_one_iff.mp hlen
    cases qs with
    | nil => cases hmatch
    | cons q rest => exact ⟨dq,q,rfl,rfl,hmatch⟩

theorem pairsTransparent_iff (g : QdqGraph Binary32) (run : g.NamedRuntime) (moves : Movement)
    (node : NodeId) (selector : Selector) (u : OrtNodeUnit) (hdrops : selector.DropsPair)
    (h : g.getOrtQDQSelection node selector = some u) :
    g.PairsTransparent run moves u ↔
      ∀ dq ∈ u.dqNodes, ∀ q ∈ u.qNodes, g.UnreadEqual run u dq q ∧ g.Aligned run moves dq q := by
  unfold getOrtQDQSelection at h
  dsimp only at h
  split at h
  · cases h
  next hcheck =>
  rw [Bool.not_eq_true,Bool.not_eq_false'] at hcheck
  obtain ⟨dq,q,hdq,hq,hpair⟩ := check_dropsPair hdrops hcheck
  have hu := Option.some.inj h
  have hfirst : ∀ d ∈ u.dqNodes, ∀ p, u.qNodes.head? = some p → g.isQDQPairSupported p d = true := by
    subst hu
    intro d hd p hp
    rw [hdq,List.mem_singleton] at hd
    rw [hq] at hp
    cases hp
    rw [hd]
    exact hpair
  refine forall₂_congr fun d hd => forall₂_congr fun p _ => ?_
  rw [passesThrough_iff,sameEncoding_iff (hfirst d hd p)]

end QdqGraph

def transposeRows (zeroPoint : ValueId) : List QdqRow := [
  ⟨⟨0,[some 0,some 1,some 2],[some 3]⟩,"DequantizeLinear"⟩,
  ⟨⟨1,[some 3],[some 4]⟩,"Transpose"⟩,
  ⟨⟨2,[some 4,some 1,some zeroPoint],[some 9]⟩,"QuantizeLinear"⟩]

def shiftedZeroPoint (rows : List QdqRow) : QdqGraph Binary32 :=
  { (QdqGraph.ofRows rows).mapFloat Binary32.ofInt with
    node := fun n => { ((QdqGraph.ofRows rows).mapFloat Binary32.ofInt).node n with
      intAttr := fun attr => if n = 0 ∧ attr = "axis" then some 0 else none }
    value := fun v =>
      if v = 6 then ⟨"shifted_zero_point",some .uint8,some [],false,true⟩ else exampleValue v
    constantInitializer := fun name =>
      if name = "shifted_zero_point" then some ⟨.uint8,0,.ofInt 0,.ofInt 0,10⟩
      else ((QdqGraph.ofRows rows).mapFloat Binary32.ofInt).constantInitializer name }

theorem shiftedZeroPoint_constant {rows : List QdqRow} {v : ValueId}
    (h : ((shiftedZeroPoint rows).value v).isConstantInitializer = true) : v = 1 ∨ v = 2 ∨ v = 6 := by
  by_cases h6 : v = 6
  · exact .inr (.inr h6)
  · have hvalue : (shiftedZeroPoint rows).value v = exampleValue v := if_neg h6
    rw [hvalue] at h
    simp only [exampleValue,Bool.or_eq_true,beq_iff_eq] at h
    exact h.imp_right .inl

theorem shiftedZeroPoint_saturation {rows : List QdqRow} {name : String}
    {stored : Initializer Binary32} {r : Int × Int}
    (h : (shiftedZeroPoint rows).constantInitializer name = some stored)
    (hr : saturation stored.elemType = some r) : r = (0,255) := by
  change (if name = "shifted_zero_point" then some _ else Option.map _ (if name = "scale" then _ else
    if name = "zero_point" then _ else none)) = some stored at h
  split at h
  · cases h
    exact (Option.some.inj hr).symm
  · split at h
    · cases h
      cases hr
    · split at h
      · cases h
        exact (Option.some.inj hr).symm
      · cases h

def shiftedRun (rows : List QdqRow) : (shiftedZeroPoint rows).NamedRuntime where
  size _ := 2
  floats _ c := c + 1
  ints v _ := if v = 6 then 10 else if v = 1 then 1 else 0
  floats_constant := by
    intro v x hx
    rcases shiftedZeroPoint_constant (QdqGraph.constantFloat_constant hx) with rfl | rfl | rfl
    · have hone : (Binary32.ofInt 1).toRat? = some x := hx
      rw [Binary32.ofInt_of_lt (by norm_num)] at hone
      simpa [Binary32.toRat?] using hone
    · cases hx
    · cases hx
  ints_constant := by
    intro v x hx
    rcases shiftedZeroPoint_constant (QdqGraph.constantInt_constant hx) with rfl | rfl | rfl
    · exact Option.some.inj hx
    · exact Option.some.inj hx
    · exact Option.some.inj hx
  ints_typed := by
    intro v stored r hstored hr c
    rw [shiftedZeroPoint_saturation hstored hr]
    dsimp only
    split_ifs <;> decide
  named := fun _ _ _ => ⟨rfl,rfl⟩

def rowsToColumns : QdqGraph.Movement := fun _ _ i o => ∃ row column, i = [row,column] ∧ o = [column,row]

-- The DQ quantizes axis 0 and the Q the default axis 1, which is where the Transpose takes axis 0.
theorem pairsTransparent_sameZeroPoint :
    (shiftedZeroPoint (transposeRows 2)).PairsTransparent (shiftedRun (transposeRows 2)) rowsToColumns
      ⟨.QDQGroup,1,[0],[2],none,none⟩ :=
  (QdqGraph.pairsTransparent_iff (shiftedZeroPoint (transposeRows 2)) (shiftedRun (transposeRows 2))
    rowsToColumns 1 (.dropQDQ true) ⟨.QDQGroup,1,[0],[2],none,none⟩ (.dropQDQ true) (by decide)).mpr (by
      intro dq hdq q hq
      obtain rfl := List.mem_singleton.mp hdq
      obtain rfl := List.mem_singleton.mp hq
      refine ⟨⟨fun _ => rfl,fun _ _ _ _ => rfl,fun _ _ => rfl⟩,?_⟩
      rintro i o ⟨row,column,rfl,rfl⟩ _
      exact ⟨rfl,rfl⟩)

theorem selectNode_shiftedZeroPoint :
    (shiftedZeroPoint (transposeRows 6)).selectNode 1 = some ⟨.QDQGroup,1,[0],[2],none,none⟩ ∧
      ¬(shiftedZeroPoint (transposeRows 6)).PairsTransparent (shiftedRun (transposeRows 6)) rowsToColumns
        ⟨.QDQGroup,1,[0],[2],none,none⟩ := by
  refine ⟨by decide,?_⟩
  intro h
  have hzero := (h 0 (by decide) 2 (by decide)).zeroPoints 0 (by decide)
  revert hzero
  decide

end QnnEp.Qdq
