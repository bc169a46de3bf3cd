import QnnEp.Rnn.GruSound

namespace QnnEp.Rnn
open List Recurrence Registry Tensors
variable {call : GruCall} {w forward reverse : GruWire} {direction : UniDirection}

def GruWire.tag : GruWire → Option UniDirection
  | .zeroH direction => some direction
  | .slicedH direction => some direction
  | .transposedX direction => some direction
  | .xStep direction _ => some direction
  | .y direction _ => some direction
  | .yh direction _ => some direction
  | .yAsH direction _ => some direction
  | .yConcat direction => some direction
  | .yAll direction => some direction
  | .yUnsqueeze direction => some direction
  | _ => none

section
variable {node : RnnNode} {numDirections : Nat} {direction : UniDirection}

theorem stepYhName_tag (step : Nat) : (stepYhName node direction true step).tag = some direction := by
  simp [stepYhName,writesOutput,needsYhOutput,GruWire.tag]

theorem stepYAsH_tag (step : Nat) : (stepYAsH node direction true step).tag = some direction := by
  simp [stepYAsH,writesOutput,needsYhOutput,GruWire.tag]

theorem gruStepCalls_tag {directionIdx step : Nat} {source prevH : GruWire}
    (hcall : call ∈ gruStepCalls node direction directionIdx true source prevH step) (hw : w ∈ call.outputs) :
    w.tag = some direction := by
  rcases gruStepCalls_outputs hcall hw with rfl | rfl | rfl | rfl
  · rfl
  · rfl
  · exact stepYhName_tag step
  · exact stepYAsH_tag step

theorem gruUnroll_tag {directionIdx n : Nat} {source first : GruWire} {call : GruCall}
    (hcall : call ∈ (gruUnroll node direction directionIdx true source first n).calls) {w : GruWire}
    (hw : w ∈ call.outputs) : w.tag = some direction := by
  induction n with
  | zero => cases hcall
  | succ n ih =>
    rw [gruUnroll_succ] at hcall
    rcases mem_append.mp hcall with hcall | hcall
    · exact ih hcall
    · exact gruStepCalls_tag hcall hw

theorem uniGru_tag (hcall : call ∈ (uniGru node numDirections direction true).calls) (hw : w ∈ call.outputs) :
    w.tag = some direction := by
  simp only [uniGru,mem_append] at hcall
  rcases hcall with hcall | hcall | hcall | hcall | hcall
  · rcases gruInitialH_calls hcall with h | h
    · rw [h,mem_singleton] at hw
      exact hw ▸ rfl
    · rw [h,mem_singleton] at hw
      exact hw ▸ rfl
  · rw [gruSource_calls hcall,mem_singleton] at hw
    exact hw ▸ rfl
  · exact gruUnroll_tag hcall hw
  · rcases gruConcat_calls hcall with h | h
    · rw [h,mem_singleton] at hw
      exact hw ▸ rfl
    · rw [h,mem_singleton] at hw
      exact hw ▸ rfl
  · rw [gruReshapeY_calls hcall,mem_singleton] at hw
    exact hw ▸ rfl

theorem uniGru_yhName_tag (hpos : 0 < node.seqLength) :
    (uniGru node numDirections direction true).yhName.tag = some direction := by
  obtain ⟨n,hn⟩ := Nat.exists_eq_succ_of_ne_zero (Nat.pos_iff_ne_zero.mp hpos)
  simp only [uniGru,gruYhName,if_true,hn,gruUnroll_succ,addGruStep]
  split
  · exact stepYAsH_tag n
  · exact stepYhName_tag n

end

section
variable {R : Type} [Zero R] {node : RnnNode} {cell : GruCell R node.inputSize node.hiddenSize}
  {x h : Tensor R} {env : GruWire → Tensor R}

theorem runUni_kept {numDirections : Nat} (hw : w.tag ≠ some direction) :
    runCalls (gruApply cell) (uniGru node numDirections direction true).calls env w = env w :=
  runCalls_of_notMem _ (fun _ hcall hmem => hw (uniGru_tag hcall hmem)) env

structure GruTensors (node : RnnNode) (numDirections : Nat) (x h : Tensor R)
    (env : GruWire → Tensor R) : Prop where
  heldX : env .x = x
  xShape : x.shape = [node.seqLength,node.batchSize,node.inputSize]
  heldH : env .initialH = h
  hShape : node.hasInitialH = true → h.shape = [numDirections,node.batchSize,node.hiddenSize]

theorem gruDequantize_run (cell : GruCell R node.inputSize node.hiddenSize) {numDirections : Nat}
    (hin : GruTensors node numDirections x h env) :
    GruInputs node numDirections x h (runCalls (gruApply cell) (gruDequantize node) env) := by
  refine ⟨?_,hin.xShape,?_,hin.hShape⟩
  · rw [← hin.heldX]
    unfold gruX gruDequantize
    cases node.useFpFallback with
    | false => rfl
    | true =>
      cases node.quantizedX <;> cases node.hasInitialH <;> cases node.quantizedH <;>
        simp [runCalls,Call.exec,bindOutputs,QnnKind.apply]
  · intro hpresent
    rw [← hin.heldH]
    unfold gruH gruDequantize
    rw [hpresent]
    cases node.useFpFallback with
    | false => rfl
    | true =>
      cases node.quantizedX <;> cases node.quantizedH <;>
        simp [runCalls,Call.exec,bindOutputs,QnnKind.apply]

theorem gruQuantize_run {output : Nat} (ho : output = 0 ∨ output = 1)
    (hpresent : hasOutput node output = true) :
    runCalls (gruApply cell) (gruQuantize node 0 ++ gruQuantize node 1) env (.output output) =
      env (outName node output) := by
  unfold gruQuantize outName
  cases node.useFpFallback with
  | false => simp
  | true =>
    rcases ho with rfl | rfl
    · rw [hpresent]
      cases hasOutput node 1 <;> simp [runCalls,Call.exec,bindOutputs,QnnKind.apply]
    · rw [hpresent]
      cases hasOutput node 0 <;> simp [runCalls,Call.exec,bindOutputs,QnnKind.apply]

theorem gruConcatDirections_outputs {output axis : Nat}
    (hcall : call ∈ gruConcatDirections node output axis forward reverse) (hw : w ∈ call.outputs) :
    w = .concatF32 output ∨ w = .output output := by
  unfold gruConcatDirections at hcall
  split at hcall
  · split at hcall
    · simp only [mem_cons,not_mem_nil,or_false] at hcall
      rcases hcall with rfl | rfl
      · exact .inl (mem_singleton.mp hw)
      · exact .inr (mem_singleton.mp hw)
    · obtain rfl := mem_singleton.mp hcall
      exact .inr (mem_singleton.mp hw)
  · cases hcall

theorem gruConcatDirections_kept {output axis : Nat} (hw : w.tag = some direction) :
    runCalls (gruApply cell) (gruConcatDirections node output axis forward reverse) env w = env w := by
  refine runCalls_of_notMem _ (fun call hcall hmem => ?_) env
  rcases gruConcatDirections_outputs hcall hmem with rfl | rfl
  · cases hw
  · cases hw

theorem gruConcatDirections_run {output axis : Nat} (hpresent : hasOutput node output = true) :
    runCalls (gruApply cell) (gruConcatDirections node output axis forward reverse) env
      (.output output) = Tensors.concat axis [env forward,env reverse] := by
  unfold gruConcatDirections
  rw [if_pos hpresent]
  cases node.useFpFallback with
  | false => exact bindOutputs_one env _ _
  | true =>
    rw [if_pos rfl]
    simp [runCalls,Call.exec,bindOutputs,QnnKind.apply]

theorem gruConcatDirections_other {output other axis : Nat} (hne : other ≠ output) :
    runCalls (gruApply cell) (gruConcatDirections node output axis forward reverse) env
      (.output other) = env (.output other) := by
  refine runCalls_of_notMem _ (fun call hcall hmem => ?_) env
  rcases gruConcatDirections_outputs hcall hmem with h | h
  · cases h
  · cases h
    exact hne rfl

section
variable {numDirections k : Nat} {direction : UniDirection} {whole : Direction}

theorem uniState_yAt (hk : directionIdx numDirections direction = k)
    (hreversed : whole.reversedAt k = direction.reversed) :
    (fun t => stateOf (uniState cell x h numDirections direction
      (timeOf direction.reversed node.seqLength t + 1))) =
    YAt whole id (onnxState cell whole x (initialRow node.hiddenSize node.hasInitialH h)
      node.seqLength) k := by
  subst hk
  unfold YAt onnxState
  rw [hreversed]
  rfl

theorem uniState_lastAt (hk : directionIdx numDirections direction = k)
    (hreversed : whole.reversedAt k = direction.reversed) :
    stateOf (uniState cell x h numDirections direction node.seqLength) =
    lastAt id (onnxState cell whole x (initialRow node.hiddenSize node.hasInitialH h)
      node.seqLength) k := by
  subst hk
  unfold lastAt onnxState
  rw [hreversed]
  rfl

end

structure GruFull (cell : GruCell R node.inputSize node.hiddenSize) (direction : Direction)
    (x h : Tensor R) (env : GruWire → Tensor R) : Prop where
  y : node.hasY = true → IsFullY node direction id
    (onnxState cell direction x (initialRow node.hiddenSize node.hasInitialH h) node.seqLength)
    (env (.output 0))
  yh : node.hasYh = true → IsFullLast node direction id
    (onnxState cell direction x (initialRow node.hiddenSize node.hasInitialH h) node.seqLength)
    (env (.output 1))

theorem gru_unidirectional (hpos : 0 < node.seqLength) (hlayout : node.layout.getD 0 = 0)
    {direction : Direction} (hnumber : direction.numDirections = 1)
    (hreversed : ∀ k, direction.reversedAt k = (uniDirection direction).reversed)
    (hin : GruTensors node 1 x h env) :
    GruFull cell direction x h (runCalls (gruApply cell) (gruDequantize node ++
      ((uniGru node 1 (uniDirection direction) false).calls ++
        (gruQuantize node 0 ++ gruQuantize node 1))) env) := by
  have hinputs := gruDequantize_run cell hin
  obtain ⟨hy,hyh⟩ := uniGru_run cell (uniDirection direction) hinputs hpos hlayout false
  have hidx : directionIdx 1 (uniDirection direction) = 0 := by simp [directionIdx]
  rw [uniState_yAt hidx (hreversed 0)] at hy
  rw [uniState_lastAt hidx (hreversed 0)] at hyh
  rw [runCalls_append,runCalls_append]
  refine ⟨fun hpresent => ?_,fun hpresent => ?_⟩
  · rw [gruQuantize_run (.inl rfl) hpresent]
    exact isFullY_single hnumber (hy hpresent)
  · rw [gruQuantize_run (.inr rfl) hpresent]
    exact isFullLast_single hnumber (hyh (.inr hpresent))

theorem gru_bidirectional (hpos : 0 < node.seqLength) (hlayout : node.layout.getD 0 = 0)
    (hin : GruTensors node 2 x h env) :
    let forward := uniGru node 2 .forward true
    let reverse := uniGru node 2 .reverse true
    GruFull cell .bidirectional x h (runCalls (gruApply cell) (gruDequantize node ++
      (forward.calls ++ (reverse.calls ++ (gruConcatDirections node 0 1 forward.yName reverse.yName ++
        gruConcatDirections node 1 0 forward.yhName reverse.yhName)))) env) := by
  intro forward reverse
  have hinputs := gruDequantize_run cell hin
  let env₁ := runCalls (gruApply cell) (gruDequantize node) env
  let env₂ := runCalls (gruApply cell) forward.calls env₁
  let env₃ := runCalls (gruApply cell) reverse.calls env₂
  have htagX : (gruX node).tag ≠ some .forward := by
    unfold gruX
    split <;> simp [GruWire.tag]
  have htagH : (gruH node).tag ≠ some .forward := by
    unfold gruH
    split <;> simp [GruWire.tag]
  have hinputs₂ : GruInputs node 2 x h env₂ :=
    ⟨(runUni_kept htagX).trans hinputs.heldX,hinputs.xShape,
      fun hpresent => (runUni_kept htagH).trans (hinputs.heldH hpresent),hinputs.hShape⟩
  obtain ⟨hy,hyh⟩ := uniGru_run cell .forward hinputs hpos hlayout true
  obtain ⟨hy',hyh'⟩ := uniGru_run cell .reverse hinputs₂ hpos hlayout true
  have hkeptY : env₃ forward.yName = env₂ forward.yName :=
    runUni_kept (show GruWire.tag (.yUnsqueeze .forward) ≠ some .reverse by simp [GruWire.tag])
  have hkeptYh : env₃ forward.yhName = env₂ forward.yhName := by
    refine runUni_kept ?_
    rw [uniGru_yhName_tag hpos]
    simp
  have hreversed : Direction.reversedAt .bidirectional 0 = UniDirection.reversed .forward := rfl
  have hreversed' : Direction.reversedAt .bidirectional 1 = UniDirection.reversed .reverse := rfl
  rw [uniState_yAt rfl hreversed] at hy
  rw [uniState_lastAt rfl hreversed] at hyh
  rw [uniState_yAt rfl hreversed'] at hy'
  rw [uniState_lastAt rfl hreversed'] at hyh'
  rw [runCalls_append,runCalls_append,runCalls_append,runCalls_append]
  refine ⟨fun hpresent => ?_,fun hpresent => ?_⟩
  · have hjoin : runCalls (gruApply cell) (gruConcatDirections node 0 1 forward.yName reverse.yName)
        env₃ (.output 0) = Tensors.concat 1 [env₂ forward.yName,env₃ reverse.yName] :=
      (gruConcatDirections_run (show hasOutput node 0 = true from hpresent)).trans (by rw [hkeptY])
    rw [gruConcatDirections_other (by decide)]
    exact hjoin ▸ isFullY_concat (hy hpresent) (hy' hpresent)
  · have hjoin : runCalls (gruApply cell) (gruConcatDirections node 1 0 forward.yhName reverse.yhName)
        (runCalls (gruApply cell) (gruConcatDirections node 0 1 forward.yName reverse.yName) env₃)
        (.output 1) = Tensors.concat 0 [env₂ forward.yhName,env₃ reverse.yhName] := by
      rw [gruConcatDirections_run (show hasOutput node 1 = true from hpresent),
        gruConcatDirections_kept (uniGru_yhName_tag hpos),
        gruConcatDirections_kept (uniGru_yhName_tag hpos),hkeptYh]
    exact hjoin ▸ isFullLast_concat (hyh (.inl rfl)) (hyh' (.inl rfl))

theorem addUnidirectionGRU_ok {numDirections : Nat} {isBidirection : Bool} {uni : UniGru}
    (h : addUnidirectionGRU node numDirections direction isBidirection = .ok uni) :
    uni = uniGru node numDirections direction isBidirection := by
  obtain ⟨_,_,h⟩ := bind_ok h
  cases h
  rfl

theorem gru_full (hpos : 0 < node.seqLength) {calls : List GruCall}
    (hcalls : addGruToModelBuilder node = .ok calls) {direction : Direction}
    (hdirection : validateDirection node = .ok direction)
    (hin : GruTensors node direction.numDirections x h env) :
    GruFull cell direction x h (runCalls (gruApply cell) calls env) := by
  obtain ⟨supported,hsupported,hcalls⟩ := bind_ok hcalls
  have hlayout := layout_of_isOpSupported hsupported
  obtain rfl : direction = supported := direction_of_isOpSupported hsupported hdirection
  cases direction with
  | forward | reverse =>
    obtain ⟨uni,huni,hcalls⟩ := bind_ok hcalls
    obtain rfl := addUnidirectionGRU_ok huni
    cases hcalls
    exact gru_unidirectional hpos hlayout rfl (fun _ => rfl) hin
  | bidirectional =>
    obtain ⟨forward,hforward,hcalls⟩ := bind_ok hcalls
    obtain ⟨reverse,hreverse,hcalls⟩ := bind_ok hcalls
    obtain rfl := addUnidirectionGRU_ok hforward
    obtain rfl := addUnidirectionGRU_ok hreverse
    cases hcalls
    exact gru_bidirectional hpos hlayout hin

end

end QnnEp.Rnn
