import QnnEp.MatMulNBits.Activation
import QnnEp.MatMulNBits.Decoded

namespace QnnEp.MatMulNBits
open Model Registry EncodedModel

structure RegisteredFrom (backend : Backend) (node : Node) (tensor : EncodedTensor) : Prop where
  built : ∃ params actDataType, unpackWeight node = .ok params ∧
    tensor = ⟨backend.getTensorType node.weightName,.sfixedPoint8,
      weightEncoding backend node actDataType params,[1,1,node.k,node.n],params.data⟩

structure RegisteredWeight (s : EncodedModel) (name : String) (weight : EncodedTensor) : Prop where
  held : s.tensors name = some weight
  static : weight.data ≠ []
  withoutLpbq : weight.encoding ≠ .blockwiseExpansion

structure SameMatrix (a b : Node) : Prop where
  rows : a.k = b.k
  cols : a.n = b.n
  value : ∀ k < a.k, ∀ n < a.n, a.dequantized n k = b.dequantized n k

section
variable {backend : Backend} {node : Node} {nodes done : List Node} {s t : EncodedModel}

def Registers (backend : Backend) (node : Node) (s t : EncodedModel) : Prop :=
  ∀ name tensor, t.tensors name = some tensor → tensor.data ≠ [] → s.tensors name = some tensor ∨
    (name = node.weightName ∧ s.tensors name = none ∧ RegisteredFrom backend node tensor)

theorem processWeight_registers {actName actName' : String}
    (h : processWeight backend node actName s = .ok (actName',t)) : Registers backend node s t := by
  unfold processWeight at h
  split at h
  · cases h
    exact fun name tensor hheld _ => .inl hheld
  · next hexists =>
    obtain ⟨params,hparams,h⟩ := bind_ok h
    split at h
    · cases h
    · next act _ =>
      obtain ⟨⟨actName'',u⟩,hconvert,h⟩ := bind_ok h
      obtain ⟨v,hadd,h⟩ := bind_ok h
      cases h
      intro name tensor hheld hdata
      rw [(addTensorWrapper_ok hadd).1] at hheld
      rcases insertFirst_cases hheld with hold | ⟨rfl,_,rfl⟩
      · exact .inl ((convertActivation_converts hconvert).static name tensor hold hdata)
      · refine .inr ⟨rfl,?_,⟨params,act.dataType,hparams,rfl⟩⟩
        simpa [isQnnTensorWrapperExist] using hexists

theorem addToModelBuilder_registers (h : addToModelBuilder backend s node = .ok t) :
    Registers backend node s t ∧ Extends s.tensors t.tensors ∧ (t.tensors node.weightName).isSome := by
  obtain ⟨⟨actName,s₂⟩,hinputs,h⟩ := bind_ok h
  unfold processInputs at hinputs
  split at hinputs
  · obtain ⟨⟨actName₁,s₁⟩,hactivation,hprocess⟩ := bind_ok hinputs
    have hactivated : Extends s.tensors s₁.tensors := (processActivation_converts hactivation).tensors
    have hweighted : Extends s₁.tensors s₂.tensors := (processWeight_grows hprocess).tensors
    obtain ⟨u,_,_,_,hextends,_,hrest,hstatic⟩ := processAttributesAndOutputs_ok h
    have hfinished : Extends s₂.tensors t.tensors := hextends.trans hrest.tensors
    have hweight := processWeight_registered hprocess
    refine ⟨?_,(hactivated.trans hweighted).trans hfinished,isSome_extends hfinished hweight⟩
    intro name tensor hheld hdata
    have hheld₂ := hstatic name tensor (hrest.static name tensor hheld hdata) hdata
    rcases processWeight_registers hprocess name tensor hheld₂ hdata with hold | ⟨rfl,hnone,hfrom⟩
    · exact .inl ((processActivation_converts hactivation).static name tensor hold hdata)
    · refine .inr ⟨rfl,?_,hfrom⟩
      refine Option.eq_none_iff_forall_ne_some.mpr fun held hheld' => ?_
      cases hnone.symm.trans (hactivated _ _ hheld')
  · cases hinputs

structure Owned (backend : Backend) (done : List Node) (s : EncodedModel) : Prop where
  named : ∀ node ∈ done, (s.tensors node.weightName).isSome
  owner : ∀ name tensor, s.tensors name = some tensor → tensor.data ≠ [] →
    ∃ owner, done.find? (fun node => node.weightName = name) = some owner ∧
      RegisteredFrom backend owner tensor

theorem owned_empty : Owned backend [] EncodedModel.empty := by
  refine ⟨?_,?_⟩
  · intro node hnode
    cases hnode
  · intro name tensor hheld
    cases hheld

theorem Owned.step (hs : Owned backend done s) (h : addToModelBuilder backend s node = .ok t) :
    Owned backend (done ++ [node]) t := by
  obtain ⟨hregisters,hextends,hweight⟩ := addToModelBuilder_registers h
  refine ⟨?_,?_⟩
  · intro other hother
    rcases List.mem_append.mp hother with hother | hother
    · exact isSome_extends hextends (hs.named other hother)
    · rw [List.mem_singleton.mp hother]
      exact hweight
  · intro name tensor hheld hdata
    rw [List.find?_append]
    rcases hregisters name tensor hheld hdata with hold | ⟨rfl,hnone,hfrom⟩
    · obtain ⟨owner,hfind,hfrom⟩ := hs.owner name tensor hold hdata
      exact ⟨owner,by rw [hfind]; rfl,hfrom⟩
    · refine ⟨node,?_,hfrom⟩
      have hfirst : done.find? (fun other => other.weightName = node.weightName) = none := by
        refine List.find?_eq_none.mpr fun other hother hsame => ?_
        have hheld := hs.named other hother
        rw [of_decide_eq_true hsame,hnone] at hheld
        cases hheld
      rw [hfirst]
      simp

theorem Owned.run (hs : Owned backend done s)
    (h : nodes.foldlM (addToModelBuilder backend) s = .ok t) : Owned backend (done ++ nodes) t := by
  induction nodes generalizing done s with
  | nil =>
    cases h
    rwa [List.append_nil]
  | cons node nodes ih =>
    obtain ⟨s',hstep,hrest⟩ := foldlM_cons_ok _ h
    rw [List.append_cons]
    exact ih (hs.step hstep) hrest

end

theorem Decodes.iff_sameMatrix {weight : EncodedTensor} {owner node : Node}
    (h : Decodes weight owner) : Decodes weight node ↔ SameMatrix owner node := by
  constructor
  · intro hnode
    obtain ⟨hk,hn⟩ : owner.k = node.k ∧ owner.n = node.n := by
      simpa using h.shape.symm.trans hnode.shape
    refine ⟨hk,hn,fun k hk' n hn' => ?_⟩
    exact Option.some.inj ((h.value k hk' n hn').symm.trans
      (hnode.value k (hk ▸ hk') n (hn ▸ hn')))
  · rintro ⟨hk,hn,hvalue⟩
    refine ⟨by rw [h.shape,hk,hn],fun k hk' n hn' => ?_⟩
    rw [h.value k (hk ▸ hk') n (hn ▸ hn'),hvalue k (hk ▸ hk') n (hn ▸ hn')]

def firstNaming (units : List NodeUnit) (weightName : String) : Option NodeUnit :=
  units.find? fun unit => unit.weightName = weightName

theorem registered_decodes_iff (backend : Backend) (units : List NodeUnit)
    (haccepted : ∀ unit ∈ units, ∃ s, isOpSupported backend s unit = .ok ()) {t : EncodedModel}
    (hbuild : build backend (units.map NodeUnit.toNode) = .ok t) (unit : NodeUnit)
    {weight : EncodedTensor} (hweight : RegisteredWeight t unit.weightName weight) :
    Decodes weight unit.toNode ↔ ∀ owner, firstNaming units unit.weightName = some owner →
      SameMatrix owner.toNode unit.toNode := by
  obtain ⟨held,hstatic,hencoding⟩ := hweight
  obtain ⟨owner,hfind,⟨params,actDataType,hparams,rfl⟩⟩ :=
    (owned_empty.run hbuild).owner unit.weightName weight held hstatic
  rw [List.nil_append,List.find?_map] at hfind
  obtain ⟨first,hfirst,rfl⟩ := Option.map_eq_some_iff.mp hfind
  obtain ⟨s,hsupported⟩ := haccepted first (List.mem_of_find?_eq_some hfirst)
  have hdecodes := decodes_weightEncoding (packed_of_isOpSupported hsupported) hparams
    (backend.getTensorType first.weightName) hencoding
  rw [hdecodes.iff_sameMatrix]
  constructor
  · intro hsame owner howner
    cases hfirst.symm.trans howner
    exact hsame
  · intro hsame
    exact hsame first hfirst

def scaledUnit (index : Nat) (input output : String) (scale : ℚ) : NodeUnit where
  header := ⟨output,"MatMulNBits",index⟩
  k := 8
  n := 1
  bits := 4
  blockSize := 8
  input := ⟨input,.float16,.undefined,[1,1,8]⟩
  weightName := "B"
  weightData := some [0x10#8,0x32#8,0x54#8,0x76#8]
  scales := some [scale]
  zeroPoints := some (some [3#8])
  convertsToLpbq := false
  output := ⟨output,.float16,.undefined,[1,1,1]⟩
  weightShape := [1,1,4]
  scalesDataType := .float32
  scalesShape := [1,1]
  zeroPointsDataType := .uint8
  zeroPointsShape := [1,1]
  hasGIdx := false
  hasBias := false
  weightSized := by
    intro data hdata
    cases hdata
    rfl

theorem ok_of_isOk {status : Except String Unit} (h : status.isOk = true) : status = .ok () := by
  cases status with
  | error message => cases h
  | ok u => rfl

def holdsWeight (p : EncodedTensor → Bool) (s : EncodedModel) : Bool :=
  (s.tensors "B").any fun weight =>
    weight.data ≠ [] ∧ weight.encoding ≠ .blockwiseExpansion ∧ p weight = true

theorem registeredWeight_of_build {units : List NodeUnit} {p : EncodedTensor → Bool}
    (h : (build htpBackend (units.map NodeUnit.toNode)).toOption.any (holdsWeight p) = true) :
    ∃ t weight, build htpBackend (units.map NodeUnit.toNode) = .ok t ∧
      RegisteredWeight t "B" weight ∧ p weight = true := by
  cases hbuild : build htpBackend (units.map NodeUnit.toNode) with
  | error message =>
    rw [hbuild] at h
    cases h
  | ok t =>
    rw [hbuild] at h
    obtain ⟨weight,hheld,hweight⟩ := (Option.any_eq_true _ _).mp (show holdsWeight p t = true from h)
    obtain ⟨hdata,hencoding,hp⟩ := of_decide_eq_true hweight
    exact ⟨t,weight,rfl,⟨hheld,hdata,hencoding⟩,hp⟩

theorem registered_decodes_oneNode : ∃ t weight,
    build htpBackend [(scaledUnit 0 "x" "y" 2).toNode] = .ok t ∧ RegisteredWeight t "B" weight ∧
      (Decodes weight (scaledUnit 0 "x" "y" 2).toNode ↔
        ∀ owner, firstNaming [scaledUnit 0 "x" "y" 2] "B" = some owner →
          SameMatrix owner.toNode (scaledUnit 0 "x" "y" 2).toNode) := by
  obtain ⟨t,weight,hbuild,hweight,_⟩ := registeredWeight_of_build (p := fun _ => true)
    (show (build htpBackend ([scaledUnit 0 "x" "y" 2].map NodeUnit.toNode)).toOption.any _ = true
      by decide +kernel)
  refine ⟨t,weight,hbuild,hweight,?_⟩
  refine registered_decodes_iff htpBackend [scaledUnit 0 "x" "y" 2] ?_ hbuild
    (scaledUnit 0 "x" "y" 2) hweight
  intro unit hunit
  rw [List.mem_singleton.mp hunit]
  exact ⟨.empty,ok_of_isOk (by decide +kernel)⟩

theorem shared_scales_decode_wrong : ∃ t weight,
    isOpSupported htpBackend .empty (scaledUnit 0 "x" "y" 2) = .ok () ∧
      isOpSupported htpBackend .empty (scaledUnit 1 "u" "v" 4) = .ok () ∧
      build htpBackend [(scaledUnit 0 "x" "y" 2).toNode,(scaledUnit 1 "u" "v" 4).toNode] = .ok t ∧
      RegisteredWeight t "B" weight ∧ ¬Decodes weight (scaledUnit 1 "u" "v" 4).toNode := by
  obtain ⟨t,weight,hbuild,hweight,hvalue⟩ := registeredWeight_of_build
    (p := fun weight => decodeWeight weight 0 0 ≠ some ((scaledUnit 1 "u" "v" 4).dequantized 0 0))
    (show (build htpBackend
      ([scaledUnit 0 "x" "y" 2,scaledUnit 1 "u" "v" 4].map NodeUnit.toNode)).toOption.any _ = true
      by decide +kernel)
  refine ⟨t,weight,ok_of_isOk (by decide +kernel),ok_of_isOk (by decide +kernel),hbuild,hweight,?_⟩
  intro hdecodes
  exact of_decide_eq_true hvalue (hdecodes.value 0 (by decide) 0 (by decide))

end QnnEp.MatMulNBits
