import QnnEp.MatMulNBits.Builder

namespace QnnEp.MatMulNBits
open Model Registry EncodedModel UniqueName List

def conv2d : String := "Conv2d"

def ReadsFp16 (s : EncodedModel) (op : QnnOpProperty) : Prop :=
  ∀ actName weightName, op.inputNames = [actName,weightName] →
    isBwFloatBlockWeight s weightName = true → ∃ act, s.tensors actName = some act ∧ act.dataType = .float16

def ActivationsFp16 (s : EncodedModel) : Prop :=
  ∀ op ∈ s.ops, op.nodeType = conv2d → ReadsFp16 s op

def Holds (s : EncodedModel) (name : String) (dataType : QnnDataType) : Prop :=
  ∃ tensor, s.tensors name = some tensor ∧ tensor.dataType = dataType

def Node.isFloat (node : Node) : Bool := node.input.dataType = .float32 ∨ node.input.dataType = .float16

-- The type the activation has once a float32 input was cast.
def Node.activationType (node : Node) : QnnDataType :=
  if node.input.dataType = .float32 then .float16 else node.input.dataType

def becomesBwFloatBlock (backend : Backend) (node : Node) : Prop :=
  ∃ params, unpackWeight node = .ok params ∧
    (weightEncoding backend node node.activationType params).isBwFloatBlock = true

-- What a node needs of its own input type and of the weight an earlier node may have registered: a
-- shared BW_FLOAT_BLOCK weight skips the Dequantize, so only a float activation is FP16 by then.
structure ActivationFits (backend : Backend) (s : EncodedModel) (node : Node) : Prop where
  shared : isBwFloatBlockWeight s node.weightName = true → node.isFloat = true
  own : s.isQnnTensorWrapperExist node.weightName = false → becomesBwFloatBlock backend node →
    node.isFloat = true ∨ isQuant16bit node.input.dataType = true

def activationNames (generator : UniqueNameGenerator) (node : Node) : List String :=
  let reshape := new generator node.input.name "_reshape_4d"
  let header := node.header
  let generator := (newForNodeUnit reshape.2 header.name header.opType header.index "_reshape_4d").2
  reshape.1 ::
    if node.input.dataType = .float32 then [(new generator reshape.1 "_cast_fp16").1]
    else if isQuant16bit node.input.dataType then [(new generator reshape.1 "_dq_fp16").1]
    else []

structure NamesFree (s : EncodedModel) (node : Node) : Prop where
  distinct : (node.weightName :: node.input.name :: activationNames s.generator node).Nodup
  free : ∀ name ∈ activationNames s.generator node, s.tensors name = none

instance (s : EncodedModel) (node : Node) : Decidable (NamesFree s node) :=
  decidable_of_iff (_ ∧ _) ⟨fun h => ⟨h.1,h.2⟩,fun h => ⟨h.distinct,h.free⟩⟩

section
variable {backend : Backend} {node : Node} {s t : EncodedModel} {name name' : String}

theorem reshape_ne_conv2d : "Reshape" ≠ conv2d := by decide

theorem processInput_converts {input : EncodedDef} (h : processInput backend input s = .ok t) :
    Converts conv2d s t := by
  unfold processInput at h
  split at h
  · cases h
    exact .of_eq rfl rfl
  · exact addTensorWrapper_converts rfl h

theorem castActivation_converts {shape : List Nat}
    (h : castActivation node shape name s = .ok (name',t)) : Converts conv2d s t := by
  unfold castActivation at h
  split at h
  · obtain ⟨u,hcast,h⟩ := bind_ok h
    cases h
    exact ((newName_converts _ _ _).trans (newNodeName_converts _ _ _)).trans
      (addCastNode_converts (by decide) rfl hcast)
  · cases h
    exact .of_eq rfl rfl

theorem processActivation_converts (h : processActivation backend node s = .ok (name,t)) :
    Converts conv2d s t := by
  obtain ⟨s₁,hinput,h⟩ := bind_ok h
  obtain ⟨shape,_,h⟩ := bind_ok h
  obtain ⟨s₂,hadd,h⟩ := bind_ok h
  obtain ⟨s₃,hnode,h⟩ := bind_ok h
  have hreshape : Converts conv2d s₂ s₃ :=
    (newNodeName_converts _ _ _).trans (createQnnNode_converts reshape_ne_conv2d hnode)
  exact (processInput_converts hinput).trans
    (((newName_converts _ _ _).trans (addTensorWrapper_converts rfl hadd)).trans
      (hreshape.trans (castActivation_converts h)))

theorem addInt16ToFp16DequantForActivation_ok {actName fp16Name opTag : String}
    (h : s.addInt16ToFp16DequantForActivation actName fp16Name opTag = .ok t) :
    Converts conv2d s t ∧ ∃ shape, t.tensors =
      insertFirst s.tensors fp16Name ⟨.native,.float16,.undefined,shape,[]⟩ := by
  unfold addInt16ToFp16DequantForActivation at h
  split at h
  · next act _ =>
    split at h
    · exact ⟨addDequantizeNode_converts (by decide) h,act.shape,addDequantizeNode_tensors h⟩
    · cases h
  · cases h

theorem convertActivation_converts {encoding : Encoding}
    (h : convertActivation node encoding name s = .ok (name',t)) : Converts conv2d s t := by
  unfold convertActivation at h
  split at h
  · obtain ⟨u,hdq,h⟩ := bind_ok h
    cases h
    exact (newName_converts _ _ _).trans (addInt16ToFp16DequantForActivation_ok hdq).1
  · cases h
    exact .of_eq rfl rfl

theorem processWeight_grows (h : processWeight backend node name s = .ok (name',t)) :
    Grows conv2d s t := by
  unfold processWeight at h
  split at h
  · cases h
    exact Grows.refl _
  · obtain ⟨params,_,h⟩ := bind_ok h
    split at h
    · cases h
    · obtain ⟨⟨actName,u⟩,hconvert,h⟩ := bind_ok h
      obtain ⟨v,hadd,h⟩ := bind_ok h
      cases h
      exact (convertActivation_converts hconvert).toGrows.trans (addTensorWrapper_grows hadd)

theorem convertOutput_converts {isBwFloatBlock : Bool} {shape : List Nat}
    (h : convertOutput node isBwFloatBlock shape name s = .ok (name',t)) : Converts conv2d s t := by
  unfold convertOutput at h
  split at h
  · obtain ⟨u,hcast,h⟩ := bind_ok h
    cases h
    exact ((newName_converts _ _ _).trans (newNodeName_converts _ _ _)).trans
      (addCastNode_converts (by decide) rfl hcast)
  · split at h
    · obtain ⟨u,hquantize,h⟩ := bind_ok h
      cases h
      exact (newName_converts _ _ _).trans (addQuantizeNode_converts (by decide) rfl hquantize)
    · cases h
      exact .of_eq rfl rfl

theorem squeezeOutput_converts (h : squeezeOutput backend node name s = .ok t) : Converts conv2d s t := by
  obtain ⟨u,hadd,h⟩ := bind_ok h
  exact ((addTensorWrapper_converts rfl hadd).trans (newNodeName_converts _ _ _)).trans
    (createQnnNode_converts reshape_ne_conv2d h)

theorem conv2dOutputTensor_data (isBwFloatBlock : Bool) (shape : List Nat) :
    (conv2dOutputTensor node isBwFloatBlock shape).data = [] := by
  unfold conv2dOutputTensor
  split <;> rfl

theorem processAttributesAndOutputs_ok {inputNames : List String}
    (h : processAttributesAndOutputs backend node inputNames s = .ok t) :
    ∃ u op, op.nodeType = conv2d ∧ op.inputNames = inputNames ∧ Extends s.tensors u.tensors ∧
      u.ops = s.ops ++ [op] ∧ Converts conv2d u t ∧
        ∀ name tensor, u.tensors name = some tensor → tensor.data ≠ [] → s.tensors name = some tensor := by
  unfold processAttributesAndOutputs at h
  split at h
  · obtain ⟨u,hconv,h⟩ := bind_ok h
    obtain ⟨⟨reshapeInputName,v⟩,hconvert,h⟩ := bind_ok h
    obtain ⟨w,hadd,hnode⟩ := bind_ok hconv
    obtain ⟨htensors,nodeName,hops⟩ := createQnnNode_ok hnode
    obtain ⟨hwtensors,hwops⟩ := addTensorWrapper_ok hadd
    refine ⟨u,_,rfl,rfl,?_,hops.trans (congrArg (· ++ _) hwops),?_,?_⟩
    · rw [htensors]
      exact hwtensors ▸ insertFirst_extends _ _ _
    · exact (convertOutput_converts hconvert).trans (squeezeOutput_converts h)
    · have hadded : Converts conv2d _ w := addTensorWrapper_converts (conv2dOutputTensor_data _ _) hadd
      exact fun name tensor hheld => hadded.static name tensor (htensors ▸ hheld)
  · cases h

end

structure Registered (s : EncodedModel) (op : QnnOpProperty) (actName weightName : String) : Prop where
  inputNames : op.inputNames = [actName,weightName]
  act : (s.tensors actName).isSome
  weight : (s.tensors weightName).isSome

def Conv2dRegistered (s : EncodedModel) : Prop :=
  ∀ op ∈ s.ops, op.nodeType = conv2d → ∃ actName weightName, Registered s op actName weightName

section
variable {s t : EncodedModel} {op : QnnOpProperty} {actName weightName : String}

theorem isSome_extends {name : String} (hextends : Extends s.tensors t.tensors)
    (h : (s.tensors name).isSome) : (t.tensors name).isSome := by
  obtain ⟨tensor,htensor⟩ := Option.isSome_iff_exists.mp h
  exact Option.isSome_iff_exists.mpr ⟨tensor,hextends _ _ htensor⟩

theorem Registered.extends (h : Registered s op actName weightName)
    (hextends : Extends s.tensors t.tensors) : Registered t op actName weightName := by
  exact ⟨h.inputNames,isSome_extends hextends h.act,isSome_extends hextends h.weight⟩

theorem isBwFloatBlockWeight_extends (hextends : Extends s.tensors t.tensors)
    (h : (s.tensors weightName).isSome) :
    isBwFloatBlockWeight t weightName = isBwFloatBlockWeight s weightName := by
  obtain ⟨weight,hweight⟩ := Option.isSome_iff_exists.mp h
  rw [isBwFloatBlockWeight,isBwFloatBlockWeight,hextends _ _ hweight,hweight]

theorem holds_extends {dataType : QnnDataType} (hextends : Extends s.tensors t.tensors)
    (h : (s.tensors actName).isSome) : Holds t actName dataType ↔ Holds s actName dataType := by
  obtain ⟨act,hact⟩ := Option.isSome_iff_exists.mp h
  rw [Holds,Holds,hextends _ _ hact,hact]

theorem readsFp16_iff (h : Registered s op actName weightName) :
    ReadsFp16 s op ↔ (isBwFloatBlockWeight s weightName = true → Holds s actName .float16) := by
  constructor
  · intro hreads
    exact hreads actName weightName h.inputNames
  · intro hreads actName' weightName' hnames
    obtain ⟨rfl,rfl⟩ : actName = actName' ∧ weightName = weightName' := by
      simpa using h.inputNames.symm.trans hnames
    exact hreads

theorem readsFp16_extends (hextends : Extends s.tensors t.tensors)
    (h : Registered s op actName weightName) : ReadsFp16 t op ↔ ReadsFp16 s op := by
  rw [readsFp16_iff h,readsFp16_iff (h.extends hextends),isBwFloatBlockWeight_extends hextends h.weight,
    holds_extends hextends h.act]

theorem conv2dRegistered_grows (h : Conv2dRegistered s) (hgrows : Grows conv2d s t) :
    Conv2dRegistered t := by
  obtain ⟨hextends,added,hops,hadded⟩ := hgrows
  intro op hop htype
  rw [hops] at hop
  rcases mem_append.mp hop with hop | hop
  · obtain ⟨actName,weightName,hregistered⟩ := h op hop htype
    exact ⟨actName,weightName,hregistered.extends hextends⟩
  · exact absurd htype (hadded op hop)

theorem activationsFp16_grows (h : Conv2dRegistered s) (hgrows : Grows conv2d s t) :
    ActivationsFp16 t ↔ ActivationsFp16 s := by
  obtain ⟨hextends,added,hops,hadded⟩ := hgrows
  constructor
  · intro hreads op hop htype
    obtain ⟨actName,weightName,hregistered⟩ := h op hop htype
    exact (readsFp16_extends hextends hregistered).mp
      (hreads op (hops ▸ mem_append_left _ hop) htype)
  · intro hreads op hop htype
    rw [hops] at hop
    rcases mem_append.mp hop with hop | hop
    · obtain ⟨actName,weightName,hregistered⟩ := h op hop htype
      exact (readsFp16_extends hextends hregistered).mpr (hreads op hop htype)
    · exact absurd htype (hadded op hop)

theorem conv2dRegistered_snoc (h : Conv2dRegistered s) (hextends : Extends s.tensors t.tensors)
    (hops : t.ops = s.ops ++ [op]) (hop : Registered s op actName weightName) : Conv2dRegistered t := by
  intro other hother htype
  rw [hops] at hother
  rcases mem_append.mp hother with hother | hother
  · obtain ⟨actName',weightName',hregistered⟩ := h other hother htype
    exact ⟨actName',weightName',hregistered.extends hextends⟩
  · obtain rfl := mem_singleton.mp hother
    exact ⟨actName,weightName,hop.extends hextends⟩

theorem activationsFp16_snoc (h : Conv2dRegistered s) (hextends : Extends s.tensors t.tensors)
    (hops : t.ops = s.ops ++ [op]) (htype : op.nodeType = conv2d)
    (hop : Registered s op actName weightName) :
    ActivationsFp16 t ↔ ActivationsFp16 s ∧
      (isBwFloatBlockWeight s weightName = true → Holds s actName .float16) := by
  rw [← readsFp16_iff hop,← readsFp16_extends hextends hop]
  constructor
  · intro hreads
    refine ⟨fun other hother htype' => ?_,hreads op (by simp [hops]) htype⟩
    obtain ⟨actName',weightName',hregistered⟩ := h other hother htype'
    exact (readsFp16_extends hextends hregistered).mp
      (hreads other (hops ▸ mem_append_left _ hother) htype')
  · rintro ⟨hreads,hlast⟩ other hother htype'
    rw [hops] at hother
    rcases mem_append.mp hother with hother | hother
    · obtain ⟨actName',weightName',hregistered⟩ := h other hother htype'
      exact (readsFp16_extends hextends hregistered).mpr (hreads other hother htype')
    · exact mem_singleton.mp hother ▸ hlast

end

section
variable {backend : Backend} {node : Node} {s t : EncodedModel} {actName actName' : String}

theorem processInput_frame {input : EncodedDef} (h : processInput backend input s = .ok t) :
    t.generator = s.generator ∧ ∀ name ≠ input.name, t.tensors name = s.tensors name := by
  unfold processInput at h
  split at h
  · cases h
    exact ⟨rfl,fun _ _ => rfl⟩
  · refine ⟨addTensorWrapper_generator h,fun name hname => ?_⟩
    rw [(addTensorWrapper_ok h).1,insertFirst_of_ne hname]

theorem processActivation_spec (hnames : NamesFree s node)
    (h : processActivation backend node s = .ok (actName,t)) :
    Holds t actName node.activationType ∧ t.tensors node.weightName = s.tensors node.weightName ∧
      (isQuant16bit node.input.dataType = true → t.tensors (t.newName actName "_dq_fp16").1 = none) := by
  obtain ⟨s₁,hinput,h⟩ := bind_ok h
  obtain ⟨shape,_,h⟩ := bind_ok h
  obtain ⟨s₂,hadd,h⟩ := bind_ok h
  obtain ⟨s₃,hnode,h⟩ := bind_ok h
  obtain ⟨hgenerator,hframe⟩ := processInput_frame hinput
  obtain ⟨hdistinct,hfree⟩ := hnames
  have htensors : s₃.tensors = insertFirst s₁.tensors (s₁.newName node.input.name "_reshape_4d").1
      ⟨.native,node.input.dataType,node.input.encoding,shape,[]⟩ :=
    (createQnnNode_ok hnode).1.trans (addTensorWrapper_ok hadd).1
  have hgenerator₃ : s₃.generator = (newForNodeUnit (new s₁.generator node.input.name "_reshape_4d").2
      node.header.name node.header.opType node.header.index "_reshape_4d").2 := by
    rw [createQnnNode_generator hnode]
    change (newForNodeUnit s₂.generator _ _ _ _).2 = _
    rw [addTensorWrapper_generator hadd]
  change castActivation node shape (new s₁.generator node.input.name "_reshape_4d").1 s₃ = _ at h
  change s₃.tensors = insertFirst s₁.tensors (new s₁.generator node.input.name "_reshape_4d").1 _ at htensors
  simp only [activationNames,← hgenerator,← hgenerator₃] at hdistinct hfree
  generalize (new s₁.generator node.input.name "_reshape_4d").1 = reshapeName at *
  have hkept (name : String) (hname : name ≠ node.input.name) (hreshape : name ≠ reshapeName) :
      s₃.tensors name = s.tensors name := by
    rw [htensors,insertFirst_of_ne hreshape,hframe name hname]
  unfold castActivation at h
  by_cases hfloat : node.input.dataType = .float32
  · rw [if_pos hfloat] at h hdistinct hfree
    obtain ⟨u,hcast,h⟩ := bind_ok h
    cases h
    have hadded := addCastNode_tensors hcast
    simp only [nodup_cons,mem_cons,not_mem_nil,or_false,not_or] at hdistinct
    obtain ⟨⟨hweightInput,hweightReshape,hweightCast⟩,⟨_,hinputCast⟩,hreshapeCast,_⟩ := hdistinct
    have hnone := (hkept _ (Ne.symm hinputCast) (Ne.symm hreshapeCast)).trans (hfree _ (by simp))
    refine ⟨⟨_,(congrFun hadded _).trans (insertFirst_getD _ _ _),?_⟩,?_,fun hquant => ?_⟩
    · rw [Node.activationType,if_pos hfloat]
      exact congrArg (fun found => EncodedTensor.dataType (Option.getD found _)) hnone
    · rw [hadded,insertFirst_of_ne hweightCast,← hkept _ hweightInput hweightReshape]
    · rw [hfloat] at hquant
      cases hquant
  · rw [if_neg hfloat] at h hdistinct hfree
    cases h
    simp only [nodup_cons,mem_cons,not_or] at hdistinct
    obtain ⟨⟨hweightInput,hweightReshape,_⟩,⟨hinputReshape,hinputRest⟩,hreshapeRest,_⟩ := hdistinct
    have hnone := (hframe _ (Ne.symm hinputReshape)).trans (hfree _ mem_cons_self)
    refine ⟨⟨_,(congrFun htensors _).trans (insertFirst_getD _ _ _),?_⟩,
      hkept _ hweightInput hweightReshape,fun hquant => ?_⟩
    · rw [hnone,Node.activationType,if_neg hfloat]
      rfl
    · rw [if_pos hquant,mem_singleton] at hinputRest hreshapeRest
      rw [if_pos hquant] at hfree
      exact (hkept _ (Ne.symm hinputRest) (Ne.symm hreshapeRest)).trans (hfree _ (by simp))

theorem isBwFloatBlockWeight_of_not_exist (h : s.isQnnTensorWrapperExist node.weightName = false) :
    isBwFloatBlockWeight s node.weightName = false := by
  have hnone : s.tensors node.weightName = none := by simpa [isQnnTensorWrapperExist] using h
  simp [isBwFloatBlockWeight,hnone]

theorem isBwFloatBlockWeight_added {tensor : EncodedTensor} {message : String}
    (hnone : s.tensors node.weightName = none)
    (h : s.addTensorWrapper node.weightName tensor message = .ok t) :
    isBwFloatBlockWeight t node.weightName = tensor.encoding.isBwFloatBlock := by
  simp [isBwFloatBlockWeight,addTensorWrapper_holds h,hnone]

theorem convertActivation_dequantized {encoding : Encoding}
    (hencoding : encoding.isBwFloatBlock = true) (hquant : isQuant16bit node.input.dataType = true)
    (h : convertActivation node encoding actName s = .ok (actName',t)) :
    actName' = (s.newName actName "_dq_fp16").1 ∧ ∃ shape, t.tensors =
      insertFirst s.tensors (s.newName actName "_dq_fp16").1 ⟨.native,.float16,.undefined,shape,[]⟩ := by
  rw [convertActivation,if_pos ⟨hencoding,hquant⟩] at h
  obtain ⟨u,hdq,h⟩ := bind_ok h
  cases h
  exact ⟨rfl,(addInt16ToFp16DequantForActivation_ok hdq).2⟩

theorem processWeight_registered (h : processWeight backend node actName s = .ok (actName',t)) :
    (t.tensors node.weightName).isSome := by
  unfold processWeight at h
  split at h
  · next hexists =>
    cases h
    exact hexists
  · obtain ⟨params,_,h⟩ := bind_ok h
    split at h
    · cases h
    · obtain ⟨⟨_,u⟩,_,h⟩ := bind_ok h
      obtain ⟨v,hadd,h⟩ := bind_ok h
      cases h
      rw [addTensorWrapper_holds hadd]
      rfl

theorem Node.activationType_float (node : Node) : node.activationType = .float16 ↔ node.isFloat = true := by
  unfold activationType isFloat
  split
  · next hfloat => simp [hfloat]
  · next hfloat => simp [hfloat]

theorem holds_iff {act : EncodedTensor} {dataType : QnnDataType} (hact : s.tensors actName = some act) :
    Holds s actName dataType ↔ act.dataType = dataType := by
  simp [Holds,hact]

theorem processWeight_ok (hact : Holds s actName node.activationType)
    (hfree : isQuant16bit node.input.dataType = true → s.tensors (s.newName actName "_dq_fp16").1 = none)
    (h : processWeight backend node actName s = .ok (actName',t)) :
    (t.tensors actName').isSome ∧
      ((isBwFloatBlockWeight t node.weightName = true → Holds t actName' .float16) ↔
        ActivationFits backend s node) := by
  obtain ⟨act,hfound,htype⟩ := hact
  have hsome := Option.isSome_iff_exists.mpr ⟨_,hfound⟩
  unfold processWeight at h
  split at h
  · next hexists =>
    cases h
    rw [holds_iff hfound,htype,node.activationType_float]
    refine ⟨hsome,fun hshared => ⟨hshared,fun hnone => ?_⟩,ActivationFits.shared⟩
    rw [hexists] at hnone
    cases hnone
  · next hexists =>
    obtain ⟨params,hparams,h⟩ := bind_ok h
    rw [hfound] at h
    obtain ⟨⟨actName'',u⟩,hconvert,h⟩ := bind_ok h
    obtain ⟨v,hadd,h⟩ := bind_ok h
    cases h
    rw [htype] at hconvert hadd
    have hfresh : s.isQnnTensorWrapperExist node.weightName = false := by simpa using hexists
    have hnone : s.tensors node.weightName = none := by simpa [isQnnTensorWrapperExist] using hfresh
    have hgrows : Grows conv2d u t := addTensorWrapper_grows hadd
    have hfits : ActivationFits backend s node ↔
        ((weightEncoding backend node node.activationType params).isBwFloatBlock = true →
          node.isFloat = true ∨ isQuant16bit node.input.dataType = true) := by
      refine ⟨fun hfits hencoding => hfits.own hfresh ⟨params,hparams,hencoding⟩,fun hown => ⟨?_,?_⟩⟩
      · intro hshared
        cases (isBwFloatBlockWeight_of_not_exist hfresh).symm.trans hshared
      · rintro _ ⟨params',hparams',hencoding⟩
        cases hparams.symm.trans hparams'
        exact hown hencoding
    rw [hfits]
    by_cases hconverted : (weightEncoding backend node node.activationType params).isBwFloatBlock = true ∧
        isQuant16bit node.input.dataType = true
    · obtain ⟨rfl,shape,htensors⟩ := convertActivation_dequantized hconverted.1 hconverted.2 hconvert
      have hheld : u.tensors (s.newName actName "_dq_fp16").1 = _ :=
        (congrFun htensors _).trans (insertFirst_getD _ _ _)
      rw [hfree hconverted.2] at hheld
      have hkept := hgrows.tensors _ _ hheld
      exact ⟨Option.isSome_iff_exists.mpr ⟨_,hkept⟩,
        iff_of_true (fun _ => ⟨_,hkept,rfl⟩) fun _ => .inr hconverted.2⟩
    · rw [convertActivation,if_neg hconverted] at hconvert
      cases hconvert
      have hkept := hgrows.tensors _ _ hfound
      rw [isBwFloatBlockWeight_added hnone hadd,holds_iff hkept,htype,node.activationType_float]
      refine ⟨Option.isSome_iff_exists.mpr ⟨_,hkept⟩,imp_congr_right fun hencoding => ?_⟩
      exact ⟨.inl,fun h => h.resolve_right fun hquant => hconverted ⟨hencoding,hquant⟩⟩

theorem addToModelBuilder_ok (hs : Conv2dRegistered s) (hnames : NamesFree s node)
    (h : addToModelBuilder backend s node = .ok t) :
    Conv2dRegistered t ∧ (ActivationsFp16 t ↔ ActivationsFp16 s ∧ ActivationFits backend s node) := by
  obtain ⟨⟨actName,s₂⟩,hinputs,h⟩ := bind_ok h
  unfold processInputs at hinputs
  split at hinputs
  · obtain ⟨⟨actName₁,s₁⟩,hactivation,hprocess⟩ := bind_ok hinputs
    have hgrows := (processActivation_converts hactivation).toGrows.trans (processWeight_grows hprocess)
    have hs₂ := conv2dRegistered_grows hs hgrows
    obtain ⟨hholds,hkept,hfree⟩ := processActivation_spec hnames hactivation
    obtain ⟨hact,hfits⟩ := processWeight_ok hholds hfree hprocess
    have hsame : ActivationFits backend s₁ node ↔ ActivationFits backend s node := by
      have hexist : s₁.isQnnTensorWrapperExist node.weightName = s.isQnnTensorWrapperExist node.weightName :=
        congrArg Option.isSome hkept
      have hbw : isBwFloatBlockWeight s₁ node.weightName = isBwFloatBlockWeight s node.weightName := by
        rw [isBwFloatBlockWeight,isBwFloatBlockWeight,hkept]
      exact ⟨fun h => ⟨hbw ▸ h.shared,hexist ▸ h.own⟩,fun h => ⟨hbw.symm ▸ h.shared,hexist.symm ▸ h.own⟩⟩
    obtain ⟨u,op,htype,hnames,hextends,hops,hrest,_⟩ := processAttributesAndOutputs_ok h
    have hop : Registered s₂ op actName node.weightName :=
      ⟨hnames,hact,processWeight_registered hprocess⟩
    have hu := conv2dRegistered_snoc hs₂ hextends hops hop
    refine ⟨conv2dRegistered_grows hu hrest.toGrows,?_⟩
    rw [activationsFp16_grows hu hrest.toGrows,activationsFp16_snoc hs₂ hextends hops htype hop,
      activationsFp16_grows hs hgrows,hfits,hsame]
  · cases hinputs

end

theorem build_activationsFp16_iff (backend : Backend) (nodes : List Node) {t : EncodedModel}
    (hnames : Along (addToModelBuilder backend) NamesFree EncodedModel.empty nodes)
    (h : build backend nodes = .ok t) :
    ActivationsFp16 t ↔
      Along (addToModelBuilder backend) (ActivationFits backend) EncodedModel.empty nodes := by
  have hempty : Conv2dRegistered EncodedModel.empty := fun _ hop => by cases hop
  have hfp16 : ActivationsFp16 EncodedModel.empty := fun _ hop => by cases hop
  have hrun := run_iff_of_invariant (addToModelBuilder backend) Conv2dRegistered
    (fun _ _ _ hs hn hstep => (addToModelBuilder_ok hs hn hstep).1)
    (fun _ _ _ hs hn hstep => (addToModelBuilder_ok hs hn hstep).2) hempty hnames h
  exact hrun.trans (and_iff_right hfp16)

def htpBackend : Backend := ⟨75,false,fun _ => .native,fun _ => false⟩

def sharedWeightNode (index : Nat) (input output : String) : Node where
  header := ⟨output,"MatMulNBits",index⟩
  k := 8
  n := 1
  bits := 4
  blockSize := 8
  input := ⟨input,.ufixedPoint16,.scaleOffset 1 0,[1,1,8]⟩
  weightName := "B"
  weightData := some [0,0,0,0]
  scales := some [1]
  zeroPoints := some (some [0])
  convertsToLpbq := false
  output := ⟨output,.ufixedPoint16,.scaleOffset 1 0,[1,1,1]⟩

def sharedWeightNodes : List Node := [sharedWeightNode 0 "x" "y",sharedWeightNode 1 "u" "v"]

def readsQuantized (s : EncodedModel) (op : QnnOpProperty) : Bool :=
  match op.inputNames with
  | [actName,weightName] =>
    op.nodeType == conv2d && isBwFloatBlockWeight s weightName &&
      (s.tensors actName).all fun act => act.dataType != .float16
  | _ => false

theorem not_activationsFp16_of_readsQuantized {s : EncodedModel} (h : s.ops.any (readsQuantized s) = true) :
    ¬ActivationsFp16 s := by
  obtain ⟨op,hop,hreads⟩ := any_eq_true.mp h
  intro hall
  unfold readsQuantized at hreads
  split at hreads
  · next actName weightName heq =>
    simp only [Bool.and_eq_true,beq_iff_eq] at hreads
    obtain ⟨⟨htype,hweight⟩,hact⟩ := hreads
    obtain ⟨act,hfound,hfp16⟩ := hall op hop htype actName weightName heq hweight
    simp [hfound,hfp16] at hact
  · cases hreads

def floatReader : Node :=
  { sharedWeightNode 1 "u" "v" with input := ⟨"u",.float32,.undefined,[1,1,8]⟩ }

theorem build_sharedWeight_readsFp16 :
    ∃ t, build htpBackend [sharedWeightNode 0 "x" "y",floatReader] = .ok t ∧ ActivationsFp16 t := by
  have hok : (build htpBackend [sharedWeightNode 0 "x" "y",floatReader]).isOk = true := by decide +kernel
  have hnames : Along (addToModelBuilder htpBackend) NamesFree EncodedModel.empty
      [sharedWeightNode 0 "x" "y",floatReader] := by decide +kernel
  cases hbuild : build htpBackend [sharedWeightNode 0 "x" "y",floatReader] with
  | error message =>
    rw [hbuild] at hok
    cases hok
  | ok t =>
    refine ⟨t,rfl,(build_activationsFp16_iff htpBackend _ hnames hbuild).mpr ?_⟩
    exact ⟨⟨fun hshared => absurd hshared (by decide),fun _ _ => .inr rfl⟩,
      fun _ _ => ⟨⟨fun _ => rfl,fun _ _ => .inl rfl⟩,fun _ _ => trivial⟩⟩

theorem build_sharedWeight_readsQuantized :
    ∃ t, build htpBackend sharedWeightNodes = .ok t ∧ ¬ActivationsFp16 t := by
  have hreads : (build htpBackend sharedWeightNodes).toOption.any
      (fun t => t.ops.any (readsQuantized t)) = true := by decide +kernel
  cases hbuild : build htpBackend sharedWeightNodes with
  | error message =>
    rw [hbuild] at hreads
    cases hreads
  | ok t =>
    rw [hbuild] at hreads
    exact ⟨t,rfl,not_activationsFp16_of_readsQuantized hreads⟩

end QnnEp.MatMulNBits
