import QnnEp.Foundation.Binary32
import QnnEp.Qdq.Annotated

namespace QnnEp.Qdq
open Ort Rounding
variable {n : NodeId} {x : ℚ} {v : ValueId}

namespace QdqGraph
variable {F : Type} (g : QdqGraph F)

def getSoleNonOutputConsumer (v : ValueId) : Option NodeId :=
  if (g.value v).isGraphOutput then none
  else
    match g.valueConsumers v with
    | [c] => some c
    | _ => none

def getSingleOutput (n : NodeId) : Option ValueId :=
  match g.outputs n with
  | [v] => v
  | _ => none

def soleConsumer (n : NodeId) : Option NodeId := (g.getSingleOutput n).bind g.getSoleNonOutputConsumer

def isActivationEncodingSafe [FloatArith F] (activation q : NodeId) : Bool :=
  match g.getQNodeScaleAndZeroPoint q with
  | none => false
  | some (scale,zeroPoint,dataType) =>
    let (qmin,qmax) := getQminQmax dataType false
    let encodingMin := FloatArith.mul scale (FloatArith.ofInt (qmin - zeroPoint))
    let encodingMax := FloatArith.mul scale (FloatArith.ofInt (qmax - zeroPoint))
    let (activationMin,activationMax) :=
      if g.operatorType activation == "Clip" then g.getClipMinMax activation
      else (FloatArith.zero,FloatArith.max)
    FloatArith.le activationMin encodingMin && FloatArith.le encodingMax activationMax

def foldsIntoQ [FloatArith F] (activation : NodeId) : Bool :=
  (g.soleConsumer activation).any fun q => g.isQ q && g.isActivationEncodingSafe activation q

def tryFoldRedundantActivation [FloatArith F] (n : NodeId) : Option NodeId :=
  (g.soleConsumer n).filter fun activation => g.isReluOrClip activation && g.foldsIntoQ activation

def isGemmWeightBlockQuantized (weight : ValueId) : Bool :=
  match g.valueProducer weight with
  | none => false
  | some dq =>
    g.isDQ dq && decide (2 ≤ (g.inputs dq).length) &&
      (g.getValueInfoShape (g.getNodeInputValueInfo dq 1)).any fun shape => shape.length == 2

def isCompatibleFcBiasShape (biasShape : List Int) (outputChannels : Int) : Bool :=
  match biasShape with
  | [] => outputChannels == 1
  | [b] => b == outputChannels
  | [a,b] => a == 1 && b == outputChannels
  | _ => false

def isGemmBiasSafe (weight bias : ValueId) : Bool :=
  match g.getValueInfoShape (some weight), g.getValueInfoShape (some bias) with
  | some [rows,outputChannels], some biasShape =>
    decide (0 ≤ rows) && decide (0 ≤ outputChannels) && biasShape.all (fun d => decide (0 ≤ d)) &&
      isCompatibleFcBiasShape biasShape outputChannels && g.isStaticQdqBias (some bias)
  | _, _ => false

def isGemmSafeForAbsorbedReshape [FloatArith F] (gemm : NodeId) : Bool :=
  if ((g.node gemm).intAttr "transA").getD 0 != 0 then false
  else if ((g.node gemm).intAttr "transB").getD 0 != 0 then false
  else
    match g.getNodeInputValueInfo gemm 1 with
    | none => false
    | some weight =>
      if g.isGemmWeightBlockQuantized weight then false
      else
        match g.getNodeInputValueInfo gemm 2 with
        | none => true
        | some bias =>
          if FloatArith.eq (((g.node gemm).floatAttr "beta").getD FloatArith.one) FloatArith.zero
          then true
          else g.isGemmBiasSafe weight bias

def tryAbsorbTrailingReshape [FloatArith F] (gemm : NodeId) : Option (NodeId × Option NodeId) :=
  if g.operatorType gemm != "Gemm" then none
  else if !g.isGemmSafeForAbsorbedReshape gemm then none
  else do
    let reshape ← g.soleConsumer gemm
    if g.operatorType reshape != "Reshape" then none
    else
      let next ← g.soleConsumer reshape
      if g.isQ next then some (reshape,none)
      else if g.isReluOrClip next && g.foldsIntoQ next then some (reshape,some next)
      else none

def Sole (n c : NodeId) : Prop := ∃ v, g.outputs n = [some v] ∧ g.valueConsumers v = [c]

def Quantized (n : NodeId) : Prop := ∃ q, g.Sole n q ∧ g.isQ q = true

variable {g}

theorem soleConsumer_sole {c : NodeId} (h : g.soleConsumer n = some c) : g.Sole n c := by
  unfold soleConsumer getSingleOutput at h
  split at h
  case h_1 v hv =>
    cases v with
    | none => cases h
    | some v =>
      simp only [Option.bind_some,getSoleNonOutputConsumer] at h
      split at h
      · cases h
      · split at h
        case h_1 c' hc' =>
          obtain rfl := Option.some.inj h
          exact ⟨v,hv,hc'⟩
        case h_2 => cases h
  case h_2 => cases h

theorem foldsIntoQ_quantized [FloatArith F] (h : g.foldsIntoQ n = true) : g.Quantized n := by
  unfold foldsIntoQ at h
  cases hq : g.soleConsumer n with
  | none => simp [hq] at h
  | some q =>
    simp only [hq,Option.any_some,Bool.and_eq_true] at h
    exact ⟨q,soleConsumer_sole hq,h.1⟩

theorem tryFoldRedundantActivation_some [FloatArith F] {a : NodeId}
    (h : g.tryFoldRedundantActivation n = some a) : g.Sole n a ∧ g.isReluOrClip a = true ∧ g.Quantized a := by
  unfold tryFoldRedundantActivation at h
  obtain ⟨hs,ha⟩ := Option.filter_eq_some_iff.mp h
  rw [Bool.and_eq_true] at ha
  exact ⟨soleConsumer_sole hs,ha.1,foldsIntoQ_quantized ha.2⟩

theorem tryAbsorbTrailingReshape_some [FloatArith F] {r : NodeId} {a : Option NodeId}
    (h : g.tryAbsorbTrailingReshape n = some (r,a)) :
    g.Sole n r ∧ g.operatorType r = "Reshape" ∧ (a = none ∧ g.Quantized r ∨
      ∃ c, a = some c ∧ g.Sole r c ∧ g.isReluOrClip c = true ∧ g.Quantized c) := by
  unfold tryAbsorbTrailingReshape at h
  split at h
  · cases h
  split at h
  · cases h
  obtain ⟨reshape,hr,h⟩ := Option.bind_eq_some_iff.mp h
  split at h
  · cases h
  rename_i hop
  obtain ⟨next,hn,h⟩ := Option.bind_eq_some_iff.mp h
  split at h
  · rename_i hq
    obtain ⟨rfl,rfl⟩ := Prod.mk.inj (Option.some.inj h)
    exact ⟨soleConsumer_sole hr,by simpa using hop,.inl ⟨rfl,next,soleConsumer_sole hn,hq⟩⟩
  · split at h
    · rename_i hc
      rw [Bool.and_eq_true] at hc
      obtain ⟨rfl,rfl⟩ := Prod.mk.inj (Option.some.inj h)
      exact ⟨soleConsumer_sole hr,by simpa using hop,
        .inr ⟨next,rfl,soleConsumer_sole hn,hc.1,foldsIntoQ_quantized hc.2⟩⟩
    · cases h

theorem Sole.edge {c : NodeId} (h : g.Sole n c) (hc : g.Consistent) (hn : n ∈ g.nodes) : g.Edge n c := by
  obtain ⟨v,hv,hcv⟩ := h
  have hmem : c ∈ g.valueConsumers v := by simp [hcv]
  have hcount := hc.consumers_count v c (hc.consumers_mem v c hmem)
  have hpos : 0 < (g.inputs c).count (some v) := by
    rw [← hcount]
    exact List.count_pos_iff.mpr hmem
  refine g.edge_iff.mpr ⟨some v,List.count_pos_iff.mp hpos,?_⟩
  exact (hc.producer_iff v n).mpr ⟨hn,by simp [hv]⟩

theorem Sole.mem {c : NodeId} (h : g.Sole n c) (hc : g.Consistent) : c ∈ g.nodes := by
  obtain ⟨v,_,hcv⟩ := h
  exact hc.consumers_mem v c (by simp [hcv])

end QdqGraph

instance : FloatArith Binary32 where
  zero := Binary32.zero
  one := Binary32.one
  lowest := Binary32.lowest
  max := Binary32.max
  ofInt := Binary32.ofInt
  mul := Binary32.mul
  le := Binary32.le
  lt := Binary32.lt
  eq := Binary32.eq

def saturation : OnnxType → Option (Int × Int)
  | .uint8 => some (0,255)
  | .int8 => some (-128,127)
  | .uint16 => some (0,65535)
  | .int16 => some (-32768,32767)
  | _ => none

theorem saturation_lt {t : OnnxType} {r : Int × Int} (h : saturation t = some r) :
    r.1 < r.2 ∧ r.2 - r.1 < 2 ^ 23 := by
  unfold saturation at h
  split at h <;> cases h <;> decide

namespace QdqGraph

def mapFloat {F G : Type} (f : F → G) (g : QdqGraph F) : QdqGraph G where
  toOrtGraph := g.toOrtGraph
  node n := ⟨(g.node n).opType,(g.node n).domain,(g.node n).sinceVersion,(g.node n).intAttr,
    fun name => ((g.node n).floatAttr name).map f⟩
  value := g.value
  constantInitializer name := (g.constantInitializer name).map fun stored =>
    ⟨stored.elemType,stored.rank,f stored.floatScalar,f stored.doubleScalar,stored.intScalar⟩

variable (g : QdqGraph Binary32)

def constantFloat (v : ValueId) : Option ℚ :=
  if (g.value v).isConstantInitializer then
    match g.getInitializerFromValueInfo (some v) with
    | some stored => if stored.elemType = .float then stored.floatScalar.toRat? else none
    | none => none
  else none

def constantInt (v : ValueId) : Option Int :=
  if (g.value v).isConstantInitializer then
    (g.getInitializerFromValueInfo (some v)).map Initializer.intScalar
  else none

structure Runtime where
  size : ValueId → Nat
  floats : ValueId → Nat → ℚ
  ints : ValueId → Nat → Int
  floats_constant : ∀ v x, g.constantFloat v = some x → floats v 0 = x
  ints_constant : ∀ v x, g.constantInt v = some x → ints v 0 = x
  ints_typed : ∀ v stored r, g.getInitializerFromValueInfo (some v) = some stored →
    saturation stored.elemType = some r → ∀ c, r.1 ≤ ints v c ∧ ints v c ≤ r.2

def inputOf (n : NodeId) (index : Nat) : ValueId := (g.getNodeInputValueInfo n index).getD 0

variable {g}

theorem toRat_eq_some {a : Binary32} (h : a.toRat? = some x) : ∃ hx, a = .finite x hx := by
  cases a with
  | finite value hvalue =>
    cases h
    exact ⟨hvalue,rfl⟩
  | infinite negative | nan => cases h

theorem constantFloat_constant (h : g.constantFloat v = some x) :
    (g.value v).isConstantInitializer = true := by
  unfold constantFloat at h
  split at h
  · assumption
  · cases h

theorem constantInt_constant {x : Int} (h : g.constantInt v = some x) :
    (g.value v).isConstantInitializer = true := by
  unfold constantInt at h
  split at h
  · assumption
  · cases h

theorem constantFloat_finite (h : g.constantFloat v = some x) :
    ∃ stored hx, g.getInitializerFromValueInfo (some v) = some stored ∧
      stored.elemType = .float ∧ stored.floatScalar = .finite x hx := by
  unfold constantFloat at h
  split at h
  · split at h
    · next stored hstored =>
      split at h
      · next htype =>
        obtain ⟨hx,hfinite⟩ := toRat_eq_some h
        exact ⟨stored,hx,hstored,htype,hfinite⟩
      · cases h
    · cases h
  · cases h

theorem constantInt_stored {x : Int} (h : g.constantInt v = some x) :
    ∃ stored, g.getInitializerFromValueInfo (some v) = some stored ∧ stored.intScalar = x := by
  unfold constantInt at h
  split at h
  · exact Option.map_eq_some_iff.mp h
  · cases h

theorem inputOf_of_initializer {index : Nat} {stored : Initializer Binary32}
    (h : g.getInitializerFromValueInfo (g.getNodeInputValueInfo n index) = some stored) :
    g.getNodeInputValueInfo n index = some (g.inputOf n index) := by
  obtain ⟨v,hv,-⟩ := Option.bind_eq_some_iff.mp h
  rw [inputOf,hv]
  rfl

end QdqGraph

def fixedPointBitWidth : OnnxType → Nat
  | .uint4 | .int4 => 4
  | .uint8 | .int8 => 8
  | .uint16 | .int16 => 16
  | _ => 0

def isConvertibleFixedPointType (t : OnnxType) : Bool := fixedPointBitWidth t != 0

def needsPrecisionConvert (a b : OnnxType) : Bool :=
  a != b && isConvertibleFixedPointType a && isConvertibleFixedPointType b

def isConvertCompatibleUnaryOp (op : String) : Bool :=
  ["Abs","Asin","Atan","Ceil","Cos","Elu","Exp","Floor","Gelu","HardSigmoid","HardSwish",
    "LeakyRelu","Log","Neg","Relu","Round","Sigmoid","Sign","Sin","Softplus","Sqrt","Tanh"].contains op

def isConvertCompatibleBinaryOp (op : String) : Bool := ["Add","Div","Mul","Pow","Sub"].contains op

def isConvertBeforeOpGroup (input weight output : OnnxType) : Bool :=
  let isHtpWidth (t : OnnxType) : Bool := fixedPointBitWidth t == 8 || fixedPointBitWidth t == 16
  needsPrecisionConvert input output && isHtpWidth input && isHtpWidth weight && isHtpWidth output &&
    decide (fixedPointBitWidth input ≤ fixedPointBitWidth output) &&
    decide (fixedPointBitWidth weight ≤ fixedPointBitWidth output) &&
    (output != .int16 || weight == .int8)

namespace QdqGraph
variable {F : Type} [FloatArith F] (g : QdqGraph F)

def isQOrDQScalePositiveConstantScalar (n : NodeId) : Bool :=
  match g.getInitializerFromValueInfo (g.getNodeInputValueInfo n 1) with
  | none => false
  | some scale =>
    scale.rank == 0 &&
      match scale.elemType with
      | .float => FloatArith.lt FloatArith.zero scale.floatScalar
      | .double => FloatArith.lt FloatArith.zero scale.doubleScalar
      | _ => false

def isQDQPairSupported (q dq : NodeId) : Bool :=
  match g.getNodeInputValueInfo q 1, g.getNodeInputValueInfo dq 1 with
  | some qScale, some dqScale =>
    if (g.value qScale).name == (g.value dqScale).name then true
    else
      match g.getInitializerFromValueInfo (some qScale), g.getInitializerFromValueInfo (some dqScale) with
      | some qs, some ds =>
        qs.elemType == ds.elemType &&
          match qs.elemType with
          | .float => FloatArith.eq qs.floatScalar ds.floatScalar
          | .double => FloatArith.eq qs.doubleScalar ds.doubleScalar
          | _ => false
      | _, _ => false
  | _, _ => false

def canCreateNodeGroup (node : NodeId) (dqs qs : List NodeId) : Bool :=
  if dqs.isEmpty || decide ((g.inputs node).length < dqs.length) || qs.isEmpty then false
  else
    let absorbed := (g.outputs node).reduceOption.filter fun v =>
      match g.valueConsumers v with
      | [c] => qs.contains c
      | _ => false
    absorbed.all (fun v => !(g.value v).isGraphOutput) && absorbed.length == qs.length

def checkQDQNodes (node : NodeId) (dqs qs : List NodeId) (numDqInputs : Option Nat)
    (isEmptyQNodesAllowed : Bool) : Bool :=
  if numDqInputs.getD (g.inputs node).length != dqs.length then false
  else if qs.isEmpty then isEmptyQNodesAllowed
  else
    let present := (g.outputs node).reduceOption
    present.length == qs.length &&
      qs.length == (present.map fun v => (g.valueConsumers v).length).sum &&
      !present.any fun v => (g.value v).isGraphOutput

def dqType (dqs : List NodeId) (index : Nat) : Option OnnxType :=
  dqs[index]?.bind fun n => g.getNodeInputDataType n 0

def qType (qs : List NodeId) (index : Nat) : Option OnnxType :=
  qs[index]?.bind fun n => g.getNodeOutputDataType n 0

def isSupportedActivationOutputTypePair (input output : OnnxType) (q : NodeId) : Bool :=
  input == output ||
    (input == .uint16 || input == .int16) && (output == .uint8 || output == .int8) &&
      g.isQOrDQScalePositiveConstantScalar q

def isConvertActivationToOutputGroup (input output : OnnxType) (dq : NodeId) : Bool :=
  needsPrecisionConvert input output &&
    decide (fixedPointBitWidth input ≤ fixedPointBitWidth output) && output != .int16 &&
    g.isQOrDQScalePositiveConstantScalar dq

def isPerChannelConstantWeightOnlyGroup (node : NodeId) (dqs qs : List NodeId) : Bool :=
  match dqs, qs with
  | [dq], [] =>
    match g.getNodeInputValueInfo node 1 with
    | none => false
    | some weight =>
      g.valueProducer weight == some dq && g.getSoleNonOutputConsumer weight == some node &&
        decide (2 ≤ (g.inputs dq).length) &&
        (g.getInitializerFromValueInfo (g.getNodeInputValueInfo dq 0)).isSome &&
        match g.getValueInfoShape (g.getNodeInputValueInfo dq 1) with
        | some [channels] => decide (1 < channels)
        | _ => false
  | _, _ => false

def isOutputDataTypeMatchingFirstInput (node : NodeId) (qs : List NodeId) : Bool :=
  match g.getValueProducer (g.getNodeInputValueInfo node 0) with
  | none => false
  | some x =>
    g.isDQ x &&
      match g.getNodeInputDataType x 0 with
      | none => false
      | some t => qs.all fun q => g.getNodeOutputDataType q 0 == some t

end QdqGraph

inductive Selector where
  | dropQDQ (allowNonpositiveScale : Bool)
  | dropDQ
  | unary
  | clip
  | binary
  | variadic
  | split (reqEqualQuantParams : Bool)
  | conv
  | einsum
  | reciprocal
  | matMul
  | gemm
  | gru
  | instanceAndLayerNormalization
  | batchNormalization
  | logicalComparison
  | selectWhere
  | pad
  | topK
  | cumSum
  | scatterElements
  | rmsNormalization
  | matMulNBits
  deriving DecidableEq, Repr

namespace QdqGraph
variable {F : Type} [FloatArith F] (g : QdqGraph F)

def hasSameType (dqs qs : List NodeId) : Bool :=
  match g.dqType dqs 0, g.qType qs 0 with
  | some input, some output => input == output
  | _, _ => false

def hasSameTypes (dqs qs : List NodeId) : Bool :=
  match g.dqType dqs 0, g.dqType dqs 1, g.qType qs 0 with
  | some input1, some input2, some output => input1 == input2 && input1 == output
  | _, _, _ => false

def checkDropQDQ (allowNonpositiveScale : Bool) (node : NodeId) (clip : Option NodeId)
    (dqs qs : List NodeId) : Bool :=
  clip.isNone && g.checkQDQNodes node dqs qs (some 1) false && g.hasSameType dqs qs &&
    match dqs, qs with
    | dq :: _, q :: _ =>
      (allowNonpositiveScale || g.isQOrDQScalePositiveConstantScalar q) && g.isQDQPairSupported q dq
    | _, _ => false

def checkDropDQ (clip : Option NodeId) (dqs : List NodeId) : Bool :=
  clip.isNone && dqs.length == 1 && (g.dqType dqs 0).isSome

def checkUnary (node : NodeId) (dqs qs : List NodeId) : Bool :=
  g.checkQDQNodes node dqs qs (some 1) false &&
    match g.dqType dqs 0, g.qType qs 0 with
    | some input, some output => input == output ||
        isConvertCompatibleUnaryOp (g.operatorType node) && needsPrecisionConvert input output
    | _, _ => false

def checkClip (node : NodeId) (dqs qs : List NodeId) : Bool :=
  decide (1 ≤ dqs.length) && decide (dqs.length ≤ 3) &&
    g.checkQDQNodes node dqs qs (some dqs.length) false &&
    (qs.isEmpty || (g.getValueProducer (g.getNodeInputValueInfo node 0)).any fun data =>
      g.isDQ data && dqs.contains data) &&
    g.hasSameType dqs qs

def checkBinary (node : NodeId) (dqs qs : List NodeId) : Bool :=
  g.checkQDQNodes node dqs qs (some 2) false &&
    match g.dqType dqs 0, g.dqType dqs 1, g.qType qs 0 with
    | some input1, some input2, some output => input1 == input2 && input1 == output ||
        isConvertCompatibleBinaryOp (g.operatorType node) && isConvertibleFixedPointType input1 &&
          isConvertibleFixedPointType input2 && isConvertibleFixedPointType output
    | _, _, _ => false

def checkVariadic (node : NodeId) (dqs qs : List NodeId) : Bool :=
  g.checkQDQNodes node dqs qs none false &&
    match g.dqType dqs 0, g.qType qs 0 with
    | some input, some output =>
      dqs.all (fun dq => g.getNodeInputDataType dq 0 == some input) &&
        qs.all (fun q => g.getNodeOutputDataType q 0 == some output) && input == output
    | _, _ => false

def checkSplit (reqEqualQuantParams : Bool) (node : NodeId) (clip : Option NodeId)
    (dqs qs : List NodeId) : Bool :=
  clip.isNone && g.checkQDQNodes node dqs qs (some 1) false &&
    match dqs with
    | [] => false
    | dq :: _ =>
      match g.getNodeInputDataType dq 0 with
      | none => false
      | some input => qs.all fun q => g.getNodeOutputDataType q 0 == some input &&
          (!reqEqualQuantParams || g.isQDQPairSupported q dq)

def isDQProduced (node : NodeId) (slot : Nat) : Bool :=
  (g.getValueProducer (g.getNodeInputValueInfo node slot)).any g.isDQ

def checkConv (node : NodeId) (dqs qs : List NodeId) : Bool :=
  g.isPerChannelConstantWeightOnlyGroup node dqs qs ||
    decide (2 ≤ dqs.length) && decide (dqs.length ≤ 3) &&
      g.checkQDQNodes node dqs qs (some dqs.length) false &&
      g.isDQProduced node 0 && g.isDQProduced node 1 &&
      match g.dqType dqs 0, g.dqType dqs 1, g.qType qs 0, qs with
      | some input, some weight, some output, q :: _ =>
        (g.isSupportedActivationOutputTypePair input output q ||
          needsPrecisionConvert input output &&
            (g.getValueInfoShape (g.getNodeInputValueInfo node 0)).any fun shape => shape.length != 3) &&
        (input != .int8 || weight == input) &&
        (dqs.length != 3 || g.dqType dqs 2 == some .int32)
      | _, _, _, _ => false

def checkTyped (node : NodeId) (dqs qs : List NodeId) : Bool :=
  g.checkQDQNodes node dqs qs none true &&
    dqs.all (fun dq => (g.getNodeInputDataType dq 0).isSome) && (qs.isEmpty || g.hasSameType dqs qs)

def checkEinsum (node : NodeId) (dqs qs : List NodeId) : Bool := g.checkTyped node dqs qs

def checkReciprocal (node : NodeId) (dqs qs : List NodeId) : Bool := g.checkTyped node dqs qs

def checkMatMul (node : NodeId) (dqs qs : List NodeId) : Bool :=
  g.isPerChannelConstantWeightOnlyGroup node dqs qs ||
    dqs.length == 2 &&
      match g.dqType dqs 0, g.dqType dqs 1 with
      | some input, some weight =>
        (input != .int8 || weight == input) && g.checkQDQNodes node dqs qs none false &&
          match g.qType qs 0, qs with
          | some output, q :: _ =>
            g.isSupportedActivationOutputTypePair input output q ||
              isConvertBeforeOpGroup input weight output
          | _, _ => false
      | _, _ => false

def checkGemm (node : NodeId) (dqs qs : List NodeId) : Bool :=
  g.checkQDQNodes node dqs qs none true && decide (2 ≤ dqs.length) &&
    match g.dqType dqs 0, g.dqType dqs 1 with
    | some a, some b =>
      (a != .int8 || a == b) &&
        (match qs with
          | [] => true
          | q :: _ =>
            match g.qType qs 0 with
            | none => false
            | some y => g.isSupportedActivationOutputTypePair a y q || isConvertBeforeOpGroup a b y) &&
        (decide (dqs.length < 3) ||
          FloatArith.eq (((g.node node).floatAttr "beta").getD FloatArith.zero) FloatArith.one &&
            g.dqType dqs 2 == some .int32)
    | _, _ => false

def checkWhere (node : NodeId) (dqs qs : List NodeId) : Bool :=
  g.checkQDQNodes node dqs qs (some 2) false && g.hasSameTypes dqs qs

def checkPad (node : NodeId) (dqs qs : List NodeId) : Bool :=
  decide (1 ≤ dqs.length) && decide (dqs.length ≤ 2) &&
    g.checkQDQNodes node dqs qs (some dqs.length) false &&
    if dqs.length > 1 then g.hasSameTypes dqs qs else g.hasSameType dqs qs

def checkInstanceAndLayerNormalization (node : NodeId) (dqs qs : List NodeId) : Bool :=
  g.checkQDQNodes node dqs qs none false &&
    match g.dqType dqs 0, g.qType qs 0, dqs, qs with
    | some input, some output, dq :: _, q :: _ =>
      (input == output || g.operatorType node == "LayerNormalization" &&
        (g.isSupportedActivationOutputTypePair input output q ||
          decide (1 < dqs.length) && g.isConvertActivationToOutputGroup input output dq)) &&
      (decide (dqs.length ≤ 2) || g.dqType dqs 2 == some .int32)
    | _, _, _, _ => false

def checkBatchNormalization (node : NodeId) (dqs qs : List NodeId) : Bool :=
  decide (2 ≤ dqs.length) && decide (dqs.length ≤ 5) &&
    g.checkQDQNodes node dqs qs (some dqs.length) true &&
    match g.dqType dqs 0, g.dqType dqs 1 with
    | some input, some scale =>
      (qs.isEmpty || g.qType qs 0 == some input) && (input != .int8 || scale == input)
    | _, _ => false

def checkLogicalComparison (node : NodeId) (dqs qs : List NodeId) : Bool :=
  g.checkQDQNodes node dqs qs none true &&
    match g.dqType dqs 0, g.dqType dqs 1 with
    | some input1, some input2 => input1 == input2
    | _, _ => false

def checkTopK (node : NodeId) (clip : Option NodeId) (dqs qs : List NodeId) : Bool :=
  clip.isNone && dqs.length == 1 && g.canCreateNodeGroup node dqs qs && qs.length == 1 &&
    g.hasSameType dqs qs &&
    match dqs, qs with
    | dq :: _, q :: _ => g.isQDQPairSupported q dq
    | _, _ => false

def checkCumSum (node : NodeId) (dqs qs : List NodeId) : Bool :=
  g.checkQDQNodes node dqs qs (some 1) false && g.hasSameType dqs qs

def checkScatterElements (node : NodeId) (dqs qs : List NodeId) : Bool :=
  g.checkQDQNodes node dqs qs (some 2) false && g.hasSameTypes dqs qs

def checkRMSNormalization (node : NodeId) (dqs qs : List NodeId) : Bool :=
  g.checkQDQNodes node dqs qs none false && g.hasSameType dqs qs

def checkMatMulNBits (node : NodeId) (dqs qs : List NodeId) : Bool :=
  g.checkQDQNodes node dqs qs (some 1) false && g.hasSameType dqs qs

def checkGRU (node : NodeId) (dqs qs : List NodeId) : Bool :=
  g.checkQDQNodes node dqs qs (some dqs.length) false && g.isOutputDataTypeMatchingFirstInput node qs

def check (node : NodeId) (clip : Option NodeId) (dqs qs : List NodeId) : Selector → Bool
  | .dropQDQ allow => g.checkDropQDQ allow node clip dqs qs
  | .dropDQ => g.checkDropDQ clip dqs
  | .unary => g.checkUnary node dqs qs
  | .clip => g.checkClip node dqs qs
  | .binary => g.checkBinary node dqs qs
  | .variadic => g.checkVariadic node dqs qs
  | .split req => g.checkSplit req node clip dqs qs
  | .conv => g.checkConv node dqs qs
  | .einsum => g.checkEinsum node dqs qs
  | .reciprocal => g.checkReciprocal node dqs qs
  | .matMul => g.checkMatMul node dqs qs
  | .gemm => g.checkGemm node dqs qs
  | .gru => g.checkGRU node dqs qs
  | .instanceAndLayerNormalization => g.checkInstanceAndLayerNormalization node dqs qs
  | .batchNormalization => g.checkBatchNormalization node dqs qs
  | .logicalComparison => g.checkLogicalComparison node dqs qs
  | .selectWhere => g.checkWhere node dqs qs
  | .pad => g.checkPad node dqs qs
  | .topK => g.checkTopK node clip dqs qs
  | .cumSum => g.checkCumSum node dqs qs
  | .scatterElements => g.checkScatterElements node dqs qs
  | .rmsNormalization => g.checkRMSNormalization node dqs qs
  | .matMulNBits => g.checkMatMulNBits node dqs qs

end QdqGraph

end QnnEp.Qdq
