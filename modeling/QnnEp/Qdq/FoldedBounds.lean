import QnnEp.Qdq.NodeUnits

namespace QnnEp.Qdq
open Ort Rounding Binary32
variable {activation q : NodeId} {b : ℚ} {rows : List QdqRow}

namespace QdqGraph
variable (g : QdqGraph Binary32)

def qRange (q : NodeId) : Int × Int :=
  ((g.getInitializerFromValueInfo (g.getNodeInputValueInfo q 2)).bind fun stored =>
    saturation stored.elemType).getD (0,0)

def hasBoundAttrs (activation : NodeId) : Bool :=
  ((g.node activation).floatAttr "min").isSome || ((g.node activation).floatAttr "max").isSome

def appliedBound (run : g.Runtime) (activation : NodeId) (attrName : String) (default : Binary32)
    (index : Nat) : Option ℚ :=
  if g.hasBoundAttrs activation then (((g.node activation).floatAttr attrName).getD default).toRat?
  else (g.getNodeInputValueInfo activation index).map fun v => run.floats v 0

def appliedMin (run : g.Runtime) (activation : NodeId) : Option ℚ :=
  if g.operatorType activation == "Clip" then g.appliedBound run activation "min" .lowest 1 else some 0

def appliedMax (run : g.Runtime) (activation : NodeId) : Option ℚ :=
  if g.operatorType activation == "Clip" then g.appliedBound run activation "max" .max 2 else none

def quantizeAt (run : g.Runtime) (q : NodeId) (c : Nat) (x : ℚ) : Int :=
  quantize (run.floats (g.inputOf q 1) c) (run.ints (g.inputOf q 2) c) (g.qRange q) x

def channels (run : g.Runtime) (q : NodeId) : List Nat := List.range (run.size (g.inputOf q 1))

def FoldInvisible (run : g.Runtime) (activation q : NodeId) : Prop :=
  ∀ c ∈ g.channels run q, ∀ x, g.quantizeAt run q c
    (clampBetween (g.appliedMin run activation) (g.appliedMax run activation) x) =
      g.quantizeAt run q c x

def boundRead (activation : NodeId) (index : Nat) : Bool :=
  g.operatorType activation != "Clip" || g.hasBoundAttrs activation ||
    ((g.getNodeInputValueInfo activation index).map fun v => (g.constantFloat v).isSome).getD true

def paramsRead (q : NodeId) : Bool :=
  (g.constantFloat (g.inputOf q 1)).isSome && (g.constantInt (g.inputOf q 2)).isSome

structure UnreadSaturates (run : g.Runtime) (activation q : NodeId) : Prop where
  lower : ∀ b, g.appliedMin run activation = some b → ∀ c ∈ g.channels run q,
    ¬(g.boundRead activation 1 = true ∧ g.paramsRead q = true ∧ c = 0) →
      g.quantizeAt run q c b = (g.qRange q).1
  upper : ∀ b, g.appliedMax run activation = some b → ∀ c ∈ g.channels run q,
    ¬(g.boundRead activation 2 = true ∧ g.paramsRead q = true ∧ c = 0) →
      g.quantizeAt run q c b = (g.qRange q).2

inductive Folds (node activation : NodeId) : Prop where
  | redundant (h : g.tryFoldRedundantActivation node = some activation)
  | absorbed (reshape : NodeId) (h : g.tryAbsorbTrailingReshape node = some (reshape,some activation))

variable {g}

theorem Folds.safe {node : NodeId} (h : g.Folds node activation) (hq : g.soleConsumer activation = some q) :
    g.isActivationEncodingSafe activation q = true := by
  have hfolds : g.foldsIntoQ activation = true := by
    cases h with
    | redundant h =>
      obtain ⟨-,h⟩ := Option.filter_eq_some_iff.mp h
      exact (Bool.and_eq_true _ _ ▸ h).2
    | absorbed reshape h =>
      unfold tryAbsorbTrailingReshape at h
      split at h
      · cases h
      split at h
      · cases h
      obtain ⟨_,_,h⟩ := Option.bind_eq_some_iff.mp h
      split at h
      · cases h
      obtain ⟨next,_,h⟩ := Option.bind_eq_some_iff.mp h
      split at h
      · cases h
      · split at h
        · next hn =>
          cases h
          exact (Bool.and_eq_true _ _ ▸ hn).2
        · cases h
  unfold foldsIntoQ at hfolds
  rw [hq,Option.any_some,Bool.and_eq_true] at hfolds
  exact hfolds.2

theorem getZeroPointValue_range {stored : Initializer Binary32} {zeroPoint : Int}
    {dataType : QnnDataType} (h : getZeroPointValue stored = some (zeroPoint,dataType)) :
    zeroPoint = stored.intScalar ∧ saturation stored.elemType = some (getQminQmax dataType false) := by
  unfold getZeroPointValue at h
  split at h
  · next ht => cases h; rw [ht]; exact ⟨rfl,rfl⟩
  · next ht => cases h; rw [ht]; exact ⟨rfl,rfl⟩
  · next ht => cases h; rw [ht]; exact ⟨rfl,rfl⟩
  · next ht => cases h; rw [ht]; exact ⟨rfl,rfl⟩
  · cases h

structure Checked (g : QdqGraph Binary32) (activation q : NodeId) (scale zp : Initializer Binary32)
    (activationMin activationMax : Binary32) : Prop where
  scale_eq : g.getInitializerFromValueInfo (g.getNodeInputValueInfo q 1) = some scale
  zp_eq : g.getInitializerFromValueInfo (g.getNodeInputValueInfo q 2) = some zp
  range_eq : saturation zp.elemType = some (g.qRange q)
  bounds_eq : (activationMin,activationMax) =
    if g.operatorType activation == "Clip" then g.getClipMinMax activation
    else (zero,max)
  lower_le : le activationMin
    (mul scale.floatScalar (ofInt ((g.qRange q).1 - zp.intScalar))) = true
  upper_le : le
    (mul scale.floatScalar (ofInt ((g.qRange q).2 - zp.intScalar))) activationMax = true

theorem isActivationEncodingSafe_checked (h : g.isActivationEncodingSafe activation q = true) :
    ∃ scale zp activationMin activationMax,
      Checked g activation q scale zp activationMin activationMax := by
  unfold isActivationEncodingSafe at h
  cases hq : g.getQNodeScaleAndZeroPoint q with
  | none => simp [hq] at h
  | some params =>
    obtain ⟨scaleValue,zeroPoint,dataType⟩ := params
    rw [hq] at h
    dsimp only at h
    unfold getQNodeScaleAndZeroPoint at hq
    split at hq
    · cases hq
    obtain ⟨scale,hscale,hq⟩ := Option.bind_eq_some_iff.mp hq
    obtain ⟨zp,hzp,hq⟩ := Option.bind_eq_some_iff.mp hq
    obtain ⟨⟨value,type⟩,hvalue,hq⟩ := Option.bind_eq_some_iff.mp hq
    cases hq
    obtain ⟨rfl,hsat⟩ := getZeroPointValue_range hvalue
    have hrange : g.qRange q = getQminQmax dataType false := by simp [qRange,hzp,hsat]
    rw [← hrange,Bool.and_eq_true] at h
    exact ⟨scale,zp,_,_,hscale,hzp,hrange ▸ hsat,rfl,h.1,h.2⟩

def clipBound (g : QdqGraph Binary32) (activation : NodeId) (attrName : String) (default : Binary32)
    (index : Nat) : Binary32 :=
  if g.hasBoundAttrs activation then ((g.node activation).floatAttr attrName).getD default
  else ((g.getInitializerFromValueInfo (g.getNodeInputValueInfo activation index)).map
    Initializer.floatScalar).getD default

theorem getClipMinMax_eq (activation : NodeId) : g.getClipMinMax activation =
    (g.clipBound activation "min" .lowest 1,g.clipBound activation "max" .max 2) := by
  unfold getClipMinMax clipBound hasBoundAttrs
  dsimp only
  split <;> rfl

theorem clipBound_of_read {run : g.Runtime} {attrName : String} {default : Binary32} {index : Nat}
    (hclip : g.operatorType activation = "Clip") (hread : g.boundRead activation index = true)
    (h : g.appliedBound run activation attrName default index = some b) :
    ∃ hb, g.clipBound activation attrName default index = .finite b hb := by
  unfold appliedBound at h
  unfold clipBound
  split at h
  · next hattrs =>
    rw [if_pos hattrs]
    exact toRat_eq_some h
  · next hattrs =>
    rw [if_neg hattrs]
    obtain ⟨v,hv,rfl⟩ := Option.map_eq_some_iff.mp h
    have hsome : (g.constantFloat v).isSome = true := by
      simpa [boundRead,hclip,hattrs,hv] using hread
    obtain ⟨x,hx⟩ := Option.isSome_iff_exists.mp hsome
    obtain ⟨stored,hrep,hstored,-,hfinite⟩ := constantFloat_finite hx
    refine ⟨(run.floats_constant v x hx).symm ▸ hrep,?_⟩
    rw [hv,hstored,Option.map_some,Option.getD_some,hfinite]
    congr 1
    exact (run.floats_constant v x hx).symm

section
variable {run : g.Runtime} {activation q : NodeId} {scale zp : Initializer Binary32}
  {activationMin activationMax : Binary32}
  (h : Checked g activation q scale zp activationMin activationMax)
include h

theorem Checked.params (run : g.Runtime) (hread : g.paramsRead q = true) :
    ∃ hs, scale.floatScalar = .finite (run.floats (g.inputOf q 1) 0) hs ∧
      zp.intScalar = run.ints (g.inputOf q 2) 0 := by
  rw [paramsRead,Bool.and_eq_true] at hread
  obtain ⟨s,hs⟩ := Option.isSome_iff_exists.mp hread.1
  obtain ⟨n,hn⟩ := Option.isSome_iff_exists.mp hread.2
  obtain ⟨stored,hrep,hstored,-,hfinite⟩ := constantFloat_finite hs
  obtain ⟨stored',hstored',hint⟩ := constantInt_stored hn
  have hscale := h.scale_eq
  rw [inputOf_of_initializer h.scale_eq,hstored] at hscale
  have hzp := h.zp_eq
  rw [inputOf_of_initializer h.zp_eq,hstored'] at hzp
  cases hscale
  cases hzp
  rw [run.floats_constant _ _ hs,run.ints_constant _ _ hn]
  exact ⟨hrep,hfinite,hint⟩

theorem Checked.activationMin_eq (hread : g.boundRead activation 1 = true)
    (hb : g.appliedMin run activation = some b) : ∃ hb, activationMin = .finite b hb := by
  have hbounds := h.bounds_eq
  unfold appliedMin at hb
  split at hb
  · next hclip =>
    rw [if_pos hclip,getClipMinMax_eq] at hbounds
    cases hbounds
    exact clipBound_of_read (beq_iff_eq.mp hclip) hread hb
  · next hclip =>
    rw [if_neg hclip] at hbounds
    cases hbounds
    cases hb
    exact ⟨representable_zero,rfl⟩

theorem Checked.activationMax_eq (hread : g.boundRead activation 2 = true)
    (hb : g.appliedMax run activation = some b) : ∃ hb, activationMax = .finite b hb := by
  have hbounds := h.bounds_eq
  unfold appliedMax at hb
  split at hb
  · next hclip =>
    rw [if_pos hclip,getClipMinMax_eq] at hbounds
    cases hbounds
    exact clipBound_of_read (beq_iff_eq.mp hclip) hread hb
  · cases hb

theorem Checked.zeroPoint_range (run : g.Runtime) (c : Nat) :
    (g.qRange q).1 ≤ run.ints (g.inputOf q 2) c ∧ run.ints (g.inputOf q 2) c ≤ (g.qRange q).2 := by
  have hzp := h.zp_eq
  rw [inputOf_of_initializer h.zp_eq] at hzp
  exact run.ints_typed _ zp _ hzp h.range_eq c

theorem Checked.lower_saturates (hpos : 0 < run.floats (g.inputOf q 1) 0) (hparams : g.paramsRead q = true)
    (hread : g.boundRead activation 1 = true) (hb : g.appliedMin run activation = some b) :
    g.quantizeAt run q 0 b = (g.qRange q).1 := by
  obtain ⟨hs,hscale,hzp⟩ := h.params run hparams
  obtain ⟨hrep,hmin⟩ := h.activationMin_eq hread hb
  have hrange := h.zeroPoint_range run 0
  have hwidth := (saturation_lt h.range_eq).2
  have hle := h.lower_le
  rw [hmin,hscale,hzp] at hle
  set k := (g.qRange q).1 - run.ints (g.inputOf q 2) 0 with hk
  have hk0 : k ≤ 0 := by omega
  have hsmall : -k < 2 ^ 23 := by omega
  have habs : |k| < 2 ^ 24 := by
    rw [abs_of_nonpos hk0]
    omega
  have hbound := le_mul_ofInt hpos habs hk0 hle
  refine quantize_eq_low ?_
  rw [← hk,div_lt_iff₀ hpos]
  have hk' : (-k : ℚ) < 2 ^ 23 := by exact_mod_cast hsmall
  nlinarith

theorem Checked.upper_saturates (hpos : 0 < run.floats (g.inputOf q 1) 0) (hparams : g.paramsRead q = true)
    (hread : g.boundRead activation 2 = true) (hb : g.appliedMax run activation = some b) :
    g.quantizeAt run q 0 b = (g.qRange q).2 := by
  obtain ⟨hs,hscale,hzp⟩ := h.params run hparams
  obtain ⟨hrep,hmax⟩ := h.activationMax_eq hread hb
  have hrange := h.zeroPoint_range run 0
  obtain ⟨hlt,hwidth⟩ := saturation_lt h.range_eq
  have hle := h.upper_le
  rw [hmax,hscale,hzp] at hle
  set k := (g.qRange q).2 - run.ints (g.inputOf q 2) 0 with hk
  have hk0 : 0 ≤ k := by omega
  have hsmall : k < 2 ^ 23 := by omega
  have habs : |k| < 2 ^ 24 := by
    rw [abs_of_nonneg hk0]
    omega
  have hbound := mul_ofInt_le hpos habs hk0 hle
  refine quantize_eq_high hlt.le ?_
  rw [← hk,lt_div_iff₀ hpos]
  have hk' : (k : ℚ) < 2 ^ 23 := by exact_mod_cast hsmall
  nlinarith

end

theorem foldInvisible_iff (g : QdqGraph Binary32) (run : g.Runtime) (node activation q : NodeId)
    (h : g.Folds node activation) (hq : g.soleConsumer activation = some q)
    (hpos : ∀ c ∈ g.channels run q, 0 < run.floats (g.inputOf q 1) c) :
    g.FoldInvisible run activation q ↔ g.UnreadSaturates run activation q := by
  obtain ⟨scale,zp,activationMin,activationMax,hchecked⟩ :=
    isActivationEncodingSafe_checked (h.safe hq)
  have hlt := (saturation_lt hchecked.range_eq).1
  have hsaturating (c : Nat) (hc : c ∈ g.channels run q) :
      Saturating (g.quantizeAt run q c) (g.qRange q).1 (g.qRange q).2 :=
    quantize_saturating (hpos c hc) _ hlt
  constructor
  · intro hall
    refine ⟨?_,?_⟩
    · intro b hb c hc _
      exact ((hsaturating c hc).clampBetween_invisible_iff _ _).mp (hall c hc) |>.1 b hb
    · intro b hb c hc _
      exact ((hsaturating c hc).clampBetween_invisible_iff _ _).mp (hall c hc) |>.2 b hb
  · rintro ⟨hlower,hupper⟩ c hc
    refine ((hsaturating c hc).clampBetween_invisible_iff _ _).mpr ⟨?_,?_⟩
    · intro b hb
      by_cases hread : g.boundRead activation 1 = true ∧ g.paramsRead q = true ∧ c = 0
      · obtain ⟨hbound,hparams,rfl⟩ := hread
        exact hchecked.lower_saturates (hpos 0 hc) hparams hbound hb
      · exact hlower b hb c hc hread
    · intro b hb
      by_cases hread : g.boundRead activation 2 = true ∧ g.paramsRead q = true ∧ c = 0
      · obtain ⟨hbound,hparams,rfl⟩ := hread
        exact hchecked.upper_saturates (hpos 0 hc) hparams hbound hb
      · exact hupper b hb c hc hread

end QdqGraph

def unitScale (rows : List QdqRow) : QdqGraph Binary32 := (QdqGraph.ofRows rows).mapFloat ofInt

theorem unitScale_initializer {v : ValueId} {stored : Initializer Binary32}
    (h : (unitScale rows).getInitializerFromValueInfo (some v) = some stored) :
    v = 1 ∧ stored = ⟨.float,0,.ofInt 1,.ofInt 1,1⟩ ∨ v = 2 ∧ stored = ⟨.uint8,0,.ofInt 0,.ofInt 0,0⟩ := by
  have hmap : (exampleInitializer (exampleValue v).name).map (fun stored =>
      (⟨stored.elemType,stored.rank,ofInt stored.floatScalar,
        ofInt stored.doubleScalar,stored.intScalar⟩ : Initializer Binary32)) = some stored := h
  obtain ⟨source,hsource,rfl⟩ := Option.map_eq_some_iff.mp hmap
  rcases exampleInitializer_isSome (Option.isSome_of_eq_some hsource) with rfl | rfl
  · cases hsource
    exact .inl ⟨rfl,rfl⟩
  · cases hsource
    exact .inr ⟨rfl,rfl⟩

def unitRun (rows : List QdqRow) (bound : ℚ) : (unitScale rows).Runtime where
  size _ := 1
  floats v _ := if v = 1 then 1 else bound
  ints v _ := if v = 1 then 1 else 0
  floats_constant := by
    intro v x hx
    obtain ⟨stored,hrep,hstored,-,hfinite⟩ := QdqGraph.constantFloat_finite hx
    rcases unitScale_initializer hstored with ⟨rfl,rfl⟩ | ⟨rfl,rfl⟩
    · have hone : ofInt 1 = .finite x hrep := hfinite
      rw [ofInt_of_lt (by norm_num)] at hone
      simpa using finite.inj hone
    · simp [QdqGraph.constantFloat,hstored] at hx
  ints_constant := by
    intro v x hx
    obtain ⟨stored,hstored,hint⟩ := QdqGraph.constantInt_stored hx
    rcases unitScale_initializer hstored with ⟨rfl,rfl⟩ | ⟨rfl,rfl⟩
    · exact hint
    · exact hint
  ints_typed := by
    intro v stored r hstored hr c
    rcases unitScale_initializer hstored with ⟨rfl,rfl⟩ | ⟨rfl,rfl⟩
    · cases hr
    · cases hr
      decide

theorem unitScale_safe {low high : ℚ} {hlow : Representable low} {hhigh : Representable high}
    (hq : (unitScale rows).getQNodeScaleAndZeroPoint q = some (.ofInt 1,0,.ufixedPoint8))
    (hbounds : (if (unitScale rows).operatorType activation == "Clip" then
      (unitScale rows).getClipMinMax activation else (zero,max)) =
        (.finite low hlow,.finite high hhigh)) (h0 : low ≤ 0) (h255 : 255 ≤ high) :
    (unitScale rows).isActivationEncodingSafe activation q = true := by
  unfold QdqGraph.isActivationEncodingSafe
  rw [hq]
  dsimp only
  rw [show (if ((unitScale rows).operatorType activation == "Clip") = true then
    (unitScale rows).getClipMinMax activation else (FloatArith.zero,FloatArith.max)) = _ from hbounds]
  change (le (.finite low hlow) (mul (.ofInt 1) (.ofInt 0)) &&
    le (mul (.ofInt 1) (.ofInt 255)) (.finite high hhigh)) = true
  rw [mul_one_ofInt (by norm_num),mul_one_ofInt (by norm_num),
    ofInt_of_lt (by norm_num),ofInt_of_lt (by norm_num),Bool.and_eq_true]
  exact ⟨by simpa [le] using h0,by simpa [le] using h255⟩

theorem unitScale_folds {node : NodeId} (ha : (unitScale rows).soleConsumer node = some activation)
    (hop : (unitScale rows).isReluOrClip activation = true)
    (hq : (unitScale rows).soleConsumer activation = some q) (hisQ : (unitScale rows).isQ q = true)
    (hsafe : (unitScale rows).isActivationEncodingSafe activation q = true) :
    (unitScale rows).Folds node activation := by
  refine .redundant ?_
  simp [QdqGraph.tryFoldRedundantActivation,QdqGraph.foldsIntoQ,ha,hop,hq,hisQ,hsafe,Option.filter]

theorem unitScale_paramsRead (h1 : (unitScale rows).inputOf q 1 = 1) (h2 : (unitScale rows).inputOf q 2 = 2) :
    (unitScale rows).paramsRead q = true := by
  have hfloat : (unitScale rows).constantFloat 1 = (ofInt 1).toRat? := rfl
  have hint : (unitScale rows).constantInt 2 = some 0 := rfl
  rw [QdqGraph.paramsRead,h1,h2,hfloat,hint,ofInt_of_lt (by norm_num)]
  rfl

def reluRows : List QdqRow := [
  ⟨⟨0,[some 0,some 1,some 2],[some 3]⟩,"DequantizeLinear"⟩,
  ⟨⟨1,[some 3],[some 4]⟩,"Sigmoid"⟩,
  ⟨⟨2,[some 4],[some 8]⟩,"Relu"⟩,
  ⟨⟨3,[some 8,some 1,some 2],[some 9]⟩,"QuantizeLinear"⟩]

theorem foldInvisible_relu :
    (unitScale reluRows).Folds 1 2 ∧
      (unitScale reluRows).FoldInvisible (unitRun reluRows 0) 2 3 := by
  have hfold : (unitScale reluRows).Folds 1 2 :=
    unitScale_folds (q := 3) (by decide) (by decide) (by decide) (by decide)
      (unitScale_safe rfl rfl le_rfl (by norm_num [largest]))
  refine ⟨hfold,(QdqGraph.foldInvisible_iff (unitScale reluRows) (unitRun reluRows 0) 1 2 3 hfold
    (by decide) ?_).mpr ⟨?_,?_⟩⟩
  · intro c _
    exact one_pos
  · intro b _ c hc hunread
    exact absurd ⟨by decide,unitScale_paramsRead rfl rfl,
      by simpa [QdqGraph.channels,unitRun] using hc⟩ hunread
  · intro b hb
    cases hb

theorem foldInvisible_computedMin :
    (unitScale sharedClipRows).Folds 1 4 ∧ (unitScale sharedClipRows).soleConsumer 4 = some 5 ∧
      ¬(unitScale sharedClipRows).FoldInvisible (unitRun sharedClipRows 3) 4 5 := by
  have hfold : (unitScale sharedClipRows).Folds 1 4 :=
    unitScale_folds (q := 5) (by decide) (by decide) (by decide) (by decide)
      (unitScale_safe rfl rfl (by norm_num [largest]) (by norm_num [largest]))
  refine ⟨hfold,by decide,?_⟩
  intro h
  have hzero := h 0 (by decide) 0
  have hclamped : quantize 1 0 (0,255) (1 * ((3 - 0 : ℤ) : ℚ)) = 3 :=
    quantize_of_code one_ne_zero (by norm_num) (by norm_num)
  have hplain : quantize 1 0 (0,255) (1 * ((0 - 0 : ℤ) : ℚ)) = 0 :=
    quantize_of_code one_ne_zero (by norm_num) (by norm_num)
  change quantize 1 0 (0,255) (max 0 3) = quantize 1 0 (0,255) 0 at hzero
  norm_num at hclamped hplain
  rw [max_eq_right (by norm_num),hclamped,hplain] at hzero
  cases hzero

end QnnEp.Qdq
