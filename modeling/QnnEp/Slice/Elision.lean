import QnnEp.Slice.Builder

namespace QnnEp.Slice
open List Registry
variable {g : Graph} {v : String} {partition : Node → Bool} {node : Node} {backend : QnnBackendType}
  {metadata : ComputeMetadata}

def Graph.subgraph (g : Graph) (partition : Node → Bool) : Graph where
  nodes := g.nodes.filter partition
  outputs := ((g.nodes.filter partition).flatMap Node.outputs).filter fun v =>
    g.outputs.contains v || (g.consumers v).any fun c => !partition c
  initializers := g.initializers
  elementTypes := g.elementTypes
  shapes := g.shapes
  singleProducer := by
    intro n hn m hm
    exact g.singleProducer n (mem_filter.mp hn).1 m (mem_filter.mp hm).1

theorem mem_consumers {n : Node} : n ∈ g.consumers v ↔ n ∈ g.nodes ∧ v ∈ n.inputs := by
  simp only [Graph.consumers,mem_flatMap,mem_map,mem_filter,decide_eq_true_eq]
  constructor
  · rintro ⟨m,hm,u,⟨hu,rfl⟩,rfl⟩
    exact ⟨hm,hu⟩
  · rintro ⟨hn,hv⟩
    exact ⟨n,hn,v,⟨hv,rfl⟩,rfl⟩

theorem consumers_subgraph (g : Graph) (partition : Node → Bool) (v : String) :
    (g.subgraph partition).consumers v = (g.consumers v).filter partition := by
  simp only [Graph.consumers,Graph.subgraph]
  induction g.nodes with
  | nil => rfl
  | cons n ns ih =>
    have hall : ∀ m ∈ (n.inputs.filter (· = v)).map (fun _ => n), m = n := by
      intro m hm
      obtain ⟨_,_,rfl⟩ := mem_map.mp hm
      rfl
    rw [flatMap_cons,filter_append]
    by_cases hn : partition n = true
    · have hkeep := filter_eq_self.mpr fun m hm => (hall m hm).symm ▸ hn
      rw [filter_cons_of_pos hn,flatMap_cons,ih,hkeep]
    · have hdrop := filter_eq_nil_iff.mpr fun m hm => (hall m hm).symm ▸ hn
      rw [filter_cons_of_neg hn,ih,hdrop,nil_append]

theorem mem_outputs_subgraph :
    v ∈ (g.subgraph partition).outputs ↔ (∃ n ∈ g.nodes, partition n = true ∧ v ∈ n.outputs) ∧
      (v ∈ g.outputs ∨ ∃ c ∈ g.consumers v, partition c = false) := by
  simp [Graph.subgraph,mem_filter,mem_flatMap,and_assoc]

theorem canElideZeroDimOutput_iff :
    canElideZeroDimOutput g node = true ↔ node.output ∉ g.outputs ∧ node.outputs.length = 1 ∧
      ∃ consumer, g.consumers node.output = [consumer] ∧ consumer.isConcat = true := by
  unfold canElideZeroDimOutput
  split
  · next h =>
    have hmem : node.output ∈ g.outputs := contains_iff_mem.mp h
    simp [hmem]
  · next h =>
    have hmem : node.output ∉ g.outputs := fun hm => h (contains_iff_mem.mpr hm)
    split
    · next hlen => simp [hlen]
    · next hlen =>
      have hlen' : node.outputs.length = 1 := not_ne_iff.mp hlen
      split
      · next consumer hc => simp [hmem,hlen',hc]
      · next hc =>
        refine iff_of_false (by simp) ?_
        rintro ⟨_,_,consumer,hcons,_⟩
        exact hc consumer hcons

theorem output_mem_outputs (h : node.outputs.length = 1) : node.output ∈ node.outputs := by
  obtain ⟨v,hv⟩ := length_eq_one_iff.mp h
  simp [Node.output,hv]

theorem canElideZeroDimOutput_subgraph {slice : Node} (hmem : slice ∈ g.nodes) (hin : partition slice = true)
    (h : canElideZeroDimOutput g slice = true) :
    canElideZeroDimOutput (g.subgraph partition) slice = true ↔
      ∀ c ∈ g.consumers slice.output, partition c = true := by
  obtain ⟨hout,hlen,consumer,hcons,hconcat⟩ := canElideZeroDimOutput_iff.mp h
  have hown := output_mem_outputs hlen
  rw [canElideZeroDimOutput_iff,consumers_subgraph,mem_outputs_subgraph,hcons]
  by_cases hc : partition consumer = true
  · simp [hc,hout,hlen,hconcat]
  · refine iff_of_false ?_ fun hall => hc (hall consumer (mem_singleton_self _))
    rintro ⟨hno,-⟩
    exact hno ⟨⟨slice,hmem,hin,hown⟩,.inr ⟨consumer,mem_singleton_self _,by simpa using hc⟩⟩

theorem computeSliceZeroDimDecision_elides_iff :
    computeSliceZeroDimDecision backend g node metadata = .ok true ↔
      backend = .htp ∧ metadata.outputDims.contains 0 = true ∧ canElideZeroDimOutput g node = true := by
  unfold computeSliceZeroDimDecision
  split
  · next h => simp [h]
  · next h =>
    have hb : backend = .htp := not_ne_iff.mp h
    split
    · next h0 => simp_all
    · next h0 =>
      split
      · next he => simp_all
      · next he => simp_all

theorem computeSliceZeroDimDecision_of_ok {elide : Bool} (hb : backend = .htp)
    (hzero : metadata.outputDims.contains 0 = true)
    (h : computeSliceZeroDimDecision backend g node metadata = .ok elide) :
    canElideZeroDimOutput g node = true := by
  by_contra hno
  unfold computeSliceZeroDimDecision at h
  rw [if_neg (not_ne_iff.mpr hb),if_neg (by rw [hzero]; decide),
    if_pos (by rw [Bool.eq_false_of_not_eq_true hno]; rfl)] at h
  cases h

theorem addToModelBuilder_of_elides {others : OtherBuilders} {sinceVersion : Nat} {stored : SliceAttributes}
    (hop : node.op = .slice sinceVersion stored)
    (hm : sliceMetadata g sinceVersion stored node = .ok metadata)
    (hd : computeSliceZeroDimDecision backend g node metadata = .ok true) :
    addToModelBuilder backend others false g node = .ok [] := by
  have hshould : shouldElideZeroDimSliceOutput backend g sinceVersion stored node = .ok true := by
    rw [shouldElideZeroDimSliceOutput,hm]
    exact hd
  have hin : sliceProcessInputs backend g sinceVersion stored node false = .ok ([],[]) := by
    rw [sliceProcessInputs,hshould]
    rfl
  have hout : sliceProcessAttributesAndOutputs backend g sinceVersion stored node [] = .ok [] := by
    rw [sliceProcessAttributesAndOutputs,hm]
    change (do let elide ← computeSliceZeroDimDecision backend g node metadata; _) = _
    rw [hd]
    rfl
  unfold addToModelBuilder
  rw [hop]
  dsimp only
  rw [hin]
  change (do let ops ← sliceProcessAttributesAndOutputs backend g sinceVersion stored node []; _) = _
  rw [hout]
  rfl

section
variable (backend : QnnBackendType) (others : OtherBuilders) (g : Graph) (slice : Node)

structure AcceptedByElision : Prop where
  member : slice ∈ g.nodes
  elides : ∃ sinceVersion stored, slice.op = .slice sinceVersion stored ∧
    shouldElideZeroDimSliceOutput backend g sinceVersion stored slice = .ok true
  accepted : ∃ ops, addToModelBuilder backend others true g slice = .ok ops

structure CompilesElided (partition : Node → Bool) : Prop where
  compiles : ∃ ops, addToModelBuilder backend others false (g.subgraph partition) slice = .ok ops
  unreferenced : ∀ node ∈ (g.subgraph partition).nodes, ∀ ops,
    addToModelBuilder backend others false (g.subgraph partition) node = .ok ops →
      ∀ op ∈ ops, ¬op.References slice.output

structure ConsumerExcludes (partition : Node → Bool) : Prop where
  together : ∀ c ∈ g.consumers slice.output, partition c = true
  excluded : ∀ c ∈ g.consumers slice.output, ∀ axis, c.op = .concat axis → ConcatBuilds g axis c →
    hasZeroDim g slice.output = .ok true

end

section
variable {backend : QnnBackendType} {others : OtherBuilders} {g : Graph} {slice : Node}

theorem AcceptedByElision.decision (h : AcceptedByElision backend others g slice) :
    ∃ sinceVersion stored metadata, slice.op = .slice sinceVersion stored ∧
      sliceMetadata g sinceVersion stored slice = .ok metadata ∧
        computeSliceZeroDimDecision backend g slice metadata = .ok true := by
  obtain ⟨sinceVersion,stored,hop,helide⟩ := h.elides
  obtain ⟨metadata,hm,hd⟩ := bind_ok helide
  exact ⟨sinceVersion,stored,metadata,hop,hm,hd⟩

theorem AcceptedByElision.consumer (h : AcceptedByElision backend others g slice) :
    slice.output ∈ slice.outputs ∧
      ∃ concat axis, g.consumers slice.output = [concat] ∧ concat.op = .concat axis := by
  obtain ⟨_,_,metadata,_,_,hd⟩ := h.decision
  obtain ⟨-,-,helide⟩ := computeSliceZeroDimDecision_elides_iff.mp hd
  obtain ⟨-,hlen,concat,hcons,hconcat⟩ := canElideZeroDimOutput_iff.mp helide
  refine ⟨output_mem_outputs hlen,concat,?_⟩
  unfold Node.isConcat at hconcat
  split at hconcat
  · next axis hop => exact ⟨axis,hcons,hop⟩
  · cases hconcat

theorem compile_eq_nil (h : AcceptedByElision backend others g slice) (hin : partition slice = true)
    (htogether : ∀ c ∈ g.consumers slice.output, partition c = true) :
    addToModelBuilder backend others false (g.subgraph partition) slice = .ok [] := by
  obtain ⟨sinceVersion,stored,metadata,hop,hm,hd⟩ := h.decision
  obtain ⟨hb,hzero,helide⟩ := computeSliceZeroDimDecision_elides_iff.mp hd
  have hsub := (canElideZeroDimOutput_subgraph h.member hin helide).mpr htogether
  have hm' : sliceMetadata (g.subgraph partition) sinceVersion stored slice = .ok metadata := hm
  exact addToModelBuilder_of_elides hop hm'
    (computeSliceZeroDimDecision_elides_iff.mpr ⟨hb,hzero,hsub⟩)

theorem together_of_compiles (h : AcceptedByElision backend others g slice)
    {partition : Node → Bool} (hin : partition slice = true) {ops : List QnnOp}
    (hops : addToModelBuilder backend others false (g.subgraph partition) slice = .ok ops) :
    ∀ c ∈ g.consumers slice.output, partition c = true := by
  obtain ⟨sinceVersion,stored,metadata,hop,hm,hd⟩ := h.decision
  obtain ⟨hb,hzero,helide⟩ := computeSliceZeroDimDecision_elides_iff.mp hd
  have hm' : sliceMetadata (g.subgraph partition) sinceVersion stored slice = .ok metadata := hm
  unfold addToModelBuilder at hops
  rw [hop] at hops
  obtain ⟨built,hbuilt,-⟩ := bind_ok hops
  obtain ⟨-,-,hbuilt⟩ := bind_ok hbuilt
  obtain ⟨elide,hshould,-⟩ := bind_ok hbuilt
  rw [shouldElideZeroDimSliceOutput,hm'] at hshould
  exact (canElideZeroDimOutput_subgraph h.member hin helide).mp
    (computeSliceZeroDimDecision_of_ok hb hzero hshould)

theorem concat_references_iff {concat : Node} {axis : Option Int} (hop : concat.op = .concat axis)
    (hv : v ∈ concat.inputs) (hout : v ∉ concat.outputs) :
    (∀ ops, addToModelBuilder backend others false g concat = .ok ops →
        ∀ op ∈ ops, ¬op.References v) ↔
      (ConcatBuilds g axis concat → hasZeroDim g v = .ok true) := by
  unfold addToModelBuilder
  rw [hop]
  dsimp only
  constructor
  · intro h hbuilds
    obtain ⟨zero,hz⟩ := hbuilds.shapes v hv
    cases zero with
    | true => exact hz
    | false =>
      have hkept : v ∈ concat.inputs.filter (keepsInput g) :=
        mem_filter.mpr ⟨hv,keepsInput_iff.mpr hz⟩
      have hops := concat_ok_iff.mpr ⟨hbuilds,ne_nil_of_mem hkept,rfl⟩
      exact absurd (.inl (mem_map_of_mem hkept)) (h _ hops _ (mem_singleton_self _))
  · intro h ops hops op hop hrefs
    obtain ⟨hbuilds,-,rfl⟩ := concat_ok_iff.mp hops
    obtain rfl := mem_singleton.mp hop
    rcases hrefs with hin | hin
    · obtain ⟨_,hkept,he⟩ := mem_map.mp hin
      cases he
      have hfalse := keepsInput_iff.mp (mem_filter.mp hkept).2
      rw [h hbuilds] at hfalse
      cases hfalse
    · obtain ⟨_,hmem,he⟩ := mem_map.mp hin
      cases he
      exact hout hmem

theorem concatBuilds_subgraph {concat : Node} {axis : Option Int} :
    ConcatBuilds (g.subgraph partition) axis concat ↔ ConcatBuilds g axis concat :=
  ⟨fun h => ⟨h.shapes,h.axis⟩,fun h => ⟨h.shapes,h.axis⟩⟩

theorem hasZeroDim_subgraph (partition : Node → Bool) (v : String) :
    hasZeroDim (g.subgraph partition) v = hasZeroDim g v := rfl

theorem compilesElided_iff (backend : QnnBackendType) (others : OtherBuilders) (g : Graph)
    (slice : Node) (partition : Node → Bool) (h : AcceptedByElision backend others g slice)
    (hin : partition slice = true) :
    CompilesElided backend others g slice partition ↔ ConsumerExcludes g slice partition := by
  obtain ⟨hown,concat,axis,hcons,hop⟩ := h.consumer
  have hconcat : concat ∈ g.nodes ∧ slice.output ∈ concat.inputs :=
    mem_consumers.mp (hcons ▸ mem_singleton_self concat)
  have hproduces : ∀ node ∈ g.nodes, slice.output ∈ node.outputs → node = slice :=
    fun node hnode hout => g.singleProducer node hnode slice h.member _ hout hown
  have hfresh : slice.output ∉ concat.outputs := by
    intro hout
    obtain ⟨_,_,_,hslice,_⟩ := h.decision
    rw [hproduces concat hconcat.1 hout,hslice] at hop
    cases hop
  have hreads : (∀ ops, addToModelBuilder backend others false (g.subgraph partition) concat = .ok ops →
      ∀ op ∈ ops, ¬op.References slice.output) ↔
        (ConcatBuilds g axis concat → hasZeroDim g slice.output = .ok true) := by
    rw [concat_references_iff hop hconcat.2 hfresh,concatBuilds_subgraph,hasZeroDim_subgraph]
  constructor
  · rintro ⟨⟨ops,hops⟩,hunref⟩
    have htogether := together_of_compiles h hin hops
    refine ⟨htogether,?_⟩
    intro c hc axis' hop'
    obtain rfl : c = concat := mem_singleton.mp (hcons ▸ hc)
    obtain rfl : axis' = axis := by
      rw [hop] at hop'
      cases hop'
      rfl
    have hmem : c ∈ (g.subgraph partition).nodes :=
      mem_filter.mpr ⟨hconcat.1,htogether c hc⟩
    exact hreads.mp (hunref c hmem)
  · rintro ⟨htogether,hexcluded⟩
    refine ⟨⟨[],compile_eq_nil h hin htogether⟩,?_⟩
    intro node hnode ops hops op hmem hrefs
    have hnode' : node ∈ g.nodes := (mem_filter.mp hnode).1
    rcases addToModelBuilder_references hops op hmem _ hrefs with hread | hwritten
    · have hc : node ∈ g.consumers slice.output := mem_consumers.mpr ⟨hnode',hread⟩
      obtain rfl : node = concat := mem_singleton.mp (hcons ▸ hc)
      exact hreads.mpr (hexcluded node hc axis hop) ops hops op hmem hrefs
    · obtain rfl := hproduces node hnode' hwritten
      rw [compile_eq_nil h hin htogether] at hops
      cases hops
      cases hmem

end

def plainBuilders : OtherBuilders where
  addToModelBuilder _ _ node := .ok [⟨"ElementWiseNeuron",node.inputs.map .value,
    node.outputs.map .value⟩]
  references_own := by
    intro _ _ node ops h op hop v hv
    cases h
    obtain rfl := mem_singleton.mp hop
    simpa [QnnOp.References] using hv

def passSlice : Node := ⟨.slice 1 ⟨some [4],some [4],some [1]⟩,["x"],["pass"]⟩

def rotaryConcat : Node := ⟨.concat (some (-1)),["rotated","pass"],["y"]⟩

def rotaryGraph : Graph where
  nodes := [passSlice,⟨.other "Relu",["x"],["rotated"]⟩,rotaryConcat]
  outputs := ["y"]
  initializers _ := none
  elementTypes _ := 1
  shapes name := if name = "pass" then some [1,0] else some [1,4]
  singleProducer := by decide

theorem passSlice_accepted : AcceptedByElision .htp plainBuilders rotaryGraph passSlice :=
  ⟨by decide,⟨1,⟨some [4],some [4],some [1]⟩,rfl,rfl⟩,⟨[],rfl⟩⟩

theorem compilesElided_wholeGraph :
    AcceptedByElision .htp plainBuilders rotaryGraph passSlice ∧
      CompilesElided .htp plainBuilders rotaryGraph passSlice fun _ => true :=
  ⟨passSlice_accepted,(compilesElided_iff .htp plainBuilders rotaryGraph passSlice (fun _ => true)
    passSlice_accepted rfl).mpr ⟨fun _ _ => rfl,fun _ _ _ _ _ => rfl⟩⟩

theorem concatElsewhere_fails :
    AcceptedByElision .htp plainBuilders rotaryGraph passSlice ∧
      addToModelBuilder .htp plainBuilders false (rotaryGraph.subgraph (!·.isConcat)) passSlice =
        .error cannotElideMessage ∧
      ¬CompilesElided .htp plainBuilders rotaryGraph passSlice (!·.isConcat) := by
  have hfails : addToModelBuilder .htp plainBuilders false (rotaryGraph.subgraph (!·.isConcat))
      passSlice = .error cannotElideMessage := rfl
  refine ⟨passSlice_accepted,hfails,?_⟩
  rintro ⟨⟨ops,hops⟩,-⟩
  rw [hfails] at hops
  cases hops

end QnnEp.Slice
