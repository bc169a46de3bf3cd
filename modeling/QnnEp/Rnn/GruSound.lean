import QnnEp.Rnn.Gru

namespace QnnEp.Rnn
open List Recurrence Tensors
variable {w yAll : GruWire} {call : GruCall} {t : Nat}

def GruWire.isInput : GruWire → Bool
  | .x => true
  | .initialH => true
  | .dequantizedX => true
  | .dequantizedH => true
  | .zeroH _ => true
  | .slicedH _ => true
  | .transposedX _ => true
  | _ => false

def GruWire.isStepValue : GruWire → Bool
  | .xStep _ _ => true
  | .y _ _ => true
  | _ => false

def GruWire.isState : GruWire → Bool
  | .yh _ _ => true
  | .yAsH _ _ => true
  | .fp32 1 => true
  | .output 1 => true
  | _ => false

section
variable {node : RnnNode} {direction : UniDirection} {directionIdx : Nat} {isBidirection : Bool}
  {source prevH : GruWire} {step : Nat}

theorem outName_isState : (outName node 1).isState = true := by
  unfold outName
  split <;> rfl

theorem stepYhName_isState : (stepYhName node direction isBidirection step).isState = true := by
  unfold stepYhName
  split
  · exact outName_isState
  · rfl

theorem stepYAsH_isState : (stepYAsH node direction isBidirection step).isState = true := by
  unfold stepYAsH
  split
  · exact outName_isState
  · rfl

theorem isStepValue_of_isState (h : w.isState = true) : w.isStepValue = false := by
  cases w <;> first | rfl | cases h

theorem isInput_of_isState (h : w.isState = true) : w.isInput = false := by
  cases w <;> first | rfl | cases h

theorem ne_of_isStepValue {w' : GruWire} (h : w.isStepValue = true) (h' : w'.isStepValue = false) :
    w ≠ w' := by
  rintro rfl
  exact absurd (h.symm.trans h') (by decide)

theorem gruStepCalls_outputs
    (h : call ∈ gruStepCalls node direction directionIdx isBidirection source prevH step)
    (hw : w ∈ call.outputs) :
    w = .xStep direction (timeOf direction.reversed node.seqLength step) ∨
      w = .y direction (timeOf direction.reversed node.seqLength step) ∨
      w = stepYhName node direction isBidirection step ∨
      w = stepYAsH node direction isBidirection step := by
  unfold gruStepCalls at h
  rcases mem_append.mp h with h | h
  · simp only [mem_cons,not_mem_nil,or_false] at h
    rcases h with rfl | rfl
    · exact .inl (mem_singleton.mp hw)
    · simp only [mem_cons,not_mem_nil,or_false] at hw
      rcases hw with rfl | rfl
      · exact .inr (.inl rfl)
      · exact .inr (.inr (.inl rfl))
  · split at h
    · obtain rfl := mem_singleton.mp h
      exact .inr (.inr (.inr (mem_singleton.mp hw)))
    · cases h

theorem gruStepCalls_input
    (h : call ∈ gruStepCalls node direction directionIdx isBidirection source prevH step)
    (hw : w.isInput = true) : w ∉ call.outputs := by
  intro hmem
  rcases gruStepCalls_outputs h hmem with rfl | rfl | rfl | rfl
  · cases hw
  · cases hw
  · rw [isInput_of_isState stepYhName_isState] at hw
    cases hw
  · rw [isInput_of_isState stepYAsH_isState] at hw
    cases hw

theorem gruStepCalls_y (h : call ∈ gruStepCalls node direction directionIdx isBidirection source prevH step)
    (ht : t ≠ timeOf direction.reversed node.seqLength step) : .y direction t ∉ call.outputs := by
  intro hmem
  rcases gruStepCalls_outputs h hmem with hw | hw | hw | hw
  · cases hw
  · cases hw
    exact ht rfl
  · exact ne_of_isStepValue rfl (isStepValue_of_isState stepYhName_isState) hw
  · exact ne_of_isStepValue rfl (isStepValue_of_isState stepYAsH_isState) hw

end

section
variable {R : Type} [Zero R] {node : RnnNode} (cell : GruCell R node.inputSize node.hiddenSize)
  (x : Tensor R) (start : Nat → Row R node.hiddenSize) (direction : UniDirection) (directionIdx : Nat)
  (isBidirection : Bool)

abbrev gruApply : QnnKind → List (Tensor R) → List (Tensor R) := QnnKind.apply (qnnGru cell)

def gruState (n b : Nat) : Row R node.hiddenSize :=
  along (cell directionIdx) direction.reversed node.seqLength
    (fun t => rowOf x (fun i => [t,b,i]) node.inputSize) (start b) n

variable {cell x start direction directionIdx isBidirection}

theorem gruCell_run {env : GruWire → Tensor R} {source prevH yhName : GruWire}
    (hprev : prevH.isStepValue = false) (hyh : yhName.isStepValue = false) {y yh : Tensor R}
    (happly : qnnGru cell (timeMajor node) direction directionIdx
      [shrink [false,false,false] (stridedSlice (xRanges node t) (env source)),env prevH] = [y,yh]) :
    ∃ env', runCalls (gruApply cell)
      [⟨.stridedSlice (xRanges node t) [false,false,false],[source],[.xStep direction t]⟩,
        ⟨.recurrent (timeMajor node) direction directionIdx,[.xStep direction t,prevH],
          [.y direction t,yhName]⟩] env = env' ∧ env' (.y direction t) = y ∧ env' yhName = yh := by
  let xt := shrink [false,false,false] (stridedSlice (xRanges node t) (env source))
  let sliced := bindOutputs env [.xStep direction t] [xt]
  have hkept : sliced prevH = env prevH := by
    refine bindOutputs_of_notMem ?_ env [xt]
    rw [mem_singleton]
    exact (ne_of_isStepValue rfl hprev).symm
  have hinputs : [GruWire.xStep direction t,prevH].map sliced = [xt,env prevH] := by
    rw [map_cons,map_cons,map_nil,hkept]
    exact congrArg (· :: [env prevH]) (bindOutputs_one env _ xt)
  have hrun : runCalls (gruApply cell)
      [⟨.stridedSlice (xRanges node t) [false,false,false],[source],[.xStep direction t]⟩,
        ⟨.recurrent (timeMajor node) direction directionIdx,[.xStep direction t,prevH],
          [.y direction t,yhName]⟩] env = bindOutputs sliced [.y direction t,yhName] [y,yh] := by
    rw [← happly,← hinputs]
    rfl
  exact ⟨_,hrun,bindOutputs_first (ne_of_isStepValue rfl hyh) _ _ _,bindOutputs_second _ _ _ _ _⟩

theorem gruStep_run (isBidirection : Bool) {env : GruWire → Tensor R} {source prevH : GruWire} {step : Nat}
    (hstep : step < node.seqLength) (hprev : prevH.isStepValue = false)
    (hsource : IsSequence node (timeMajor node) node.inputSize (fun s b i => x.get [s,b,i]) (env source))
    (hstate : IsStep node true node.hiddenSize
      (stateOf (gruState cell x start direction directionIdx step)) (env prevH)) :
    let env' := runCalls (gruApply cell)
      (gruStepCalls node direction directionIdx isBidirection source prevH step) env
    IsStep node (timeMajor node) node.hiddenSize
        (stateOf (gruState cell x start direction directionIdx (step + 1)))
        (env' (.y direction (timeOf direction.reversed node.seqLength step))) ∧
      IsStep node true node.hiddenSize
        (stateOf (gruState cell x start direction directionIdx (step + 1)))
        (env' (if isCpuBackend node then stepYAsH node direction isBidirection step
          else stepYhName node direction isBidirection step)) := by
  intro env'
  have htime : timeOf direction.reversed node.seqLength step < node.seqLength := timeOf_lt hstep
  obtain ⟨y,yh,happly,hy,hyh⟩ :=
    qnnGru_step cell direction directionIdx (isStep_slice hsource htime) hstate
  have hname : (stepYhName node direction isBidirection step).isStepValue = false :=
    isStepValue_of_isState stepYhName_isState
  obtain ⟨env₁,hrun,hy₁,hyh₁⟩ := gruCell_run hprev hname happly
  have henv : env' = runCalls (gruApply cell) _ env₁ :=
    (runCalls_append _ _ _ _).trans (congrArg _ hrun)
  rw [henv]
  cases hcpu : isCpuBackend node with
  | false =>
    simp only [Bool.false_eq_true,if_false,runCalls_nil]
    rw [hy₁,hyh₁]
    exact ⟨hy,hyh⟩
  | true =>
    have hmajor : timeMajor node = false := by simp [timeMajor,hcpu]
    have hkept : GruWire.y direction (timeOf direction.reversed node.seqLength step) ∉
        [stepYAsH node direction isBidirection step] := by
      rw [mem_singleton]
      exact ne_of_isStepValue rfl (isStepValue_of_isState stepYAsH_isState)
    simp only [if_true]
    rw [hmajor] at hy ⊢
    rw [runCalls_one,runCalls_of_notMem _ (by simpa using hkept),hy₁]
    exact ⟨hy,(hy₁ ▸ hy).transpose⟩

structure GruUnrolled (cell : GruCell R node.inputSize node.hiddenSize) (x : Tensor R)
    (start : Nat → Row R node.hiddenSize) (direction : UniDirection) (directionIdx : Nat)
    (env : GruWire → Tensor R) (acc : GruUnroll) (n : Nat) : Prop where
  prevH : acc.prevH.isStepValue = false
  state : IsStep node true node.hiddenSize
    (stateOf (gruState cell x start direction directionIdx n)) (env acc.prevH)
  steps : ∀ m < n, IsStep node (timeMajor node) node.hiddenSize
    (stateOf (gruState cell x start direction directionIdx (m + 1)))
    (env (.y direction (timeOf direction.reversed node.seqLength m)))

theorem gruUnroll_succ (source first : GruWire) (n : Nat) :
    gruUnroll node direction directionIdx isBidirection source first (n + 1) =
      addGruStep node direction directionIdx isBidirection source
        (gruUnroll node direction directionIdx isBidirection source first n) n := by
  rw [gruUnroll,gruUnroll,range_succ,foldl_append]
  rfl

theorem gruUnroll_input {source first : GruWire} (hw : w.isInput = true) (n : Nat) :
    ∀ call ∈ (gruUnroll node direction directionIdx isBidirection source first n).calls,
      w ∉ call.outputs := by
  induction n with
  | zero =>
    intro call hcall
    cases hcall
  | succ n ih =>
    intro call hcall
    rw [gruUnroll_succ] at hcall
    rcases mem_append.mp hcall with hcall | hcall
    · exact ih call hcall
    · exact gruStepCalls_input hcall hw

theorem gruUnroll_run {env : GruWire → Tensor R} {source first : GruWire}
    (hsourceInput : source.isInput = true) (hinitial : first.isStepValue = false)
    (hsource : IsSequence node (timeMajor node) node.inputSize (fun s b i => x.get [s,b,i]) (env source))
    (hstate : IsStep node true node.hiddenSize (stateOf start) (env first)) {n : Nat}
    (hn : n ≤ node.seqLength) :
    GruUnrolled cell x start direction directionIdx
      (runCalls (gruApply cell)
        (gruUnroll node direction directionIdx isBidirection source first n).calls env)
      (gruUnroll node direction directionIdx isBidirection source first n) n := by
  induction n with
  | zero => exact ⟨hinitial,hstate,fun m hm => absurd hm (Nat.not_lt_zero m)⟩
  | succ n ih =>
    obtain ⟨hprev,hcurrent,hsteps⟩ := ih (Nat.le_of_succ_le hn)
    have hkept : runCalls (gruApply cell)
        (gruUnroll node direction directionIdx isBidirection source first n).calls env source =
          env source := runCalls_of_notMem _ (gruUnroll_input hsourceInput n) env
    rw [← hkept] at hsource
    obtain ⟨hy,hnext⟩ := gruStep_run isBidirection hn hprev hsource hcurrent
    rw [gruUnroll_succ]
    refine ⟨?_,?_,?_⟩
    · unfold addGruStep
      dsimp only
      split
      · exact isStepValue_of_isState stepYAsH_isState
      · exact isStepValue_of_isState stepYhName_isState
    · simp only [addGruStep,runCalls_append]
      exact hnext
    · intro m hm
      simp only [addGruStep,runCalls_append]
      rcases Nat.lt_succ_iff_lt_or_eq.mp hm with hm | rfl
      · rw [runCalls_of_notMem]
        · exact hsteps m hm
        · intro call hcall
          refine gruStepCalls_y hcall fun htime => ?_
          exact absurd (timeOf_injective (by omega) (by omega) htime) (by omega)
      · exact hy

theorem gruUnroll_filled (source first : GruWire) (n : Nat) :
    (gruUnroll node direction directionIdx isBidirection source first n).stepHiddenNames =
      filled direction.reversed node.seqLength (GruWire.y direction) .unnamed n := by
  induction n with
  | zero => rfl
  | succ n ih => rw [gruUnroll_succ,filled_succ,addGruStep,ih]

theorem gruUnroll_stepHiddenNames (source first : GruWire) :
    (gruUnroll node direction directionIdx isBidirection source first
      node.seqLength).stepHiddenNames = (List.range node.seqLength).map (GruWire.y direction) :=
  (gruUnroll_filled _ _ _).trans (filled_all _ _ _ _)

end

section
variable {R : Type} [Zero R] {node : RnnNode} {cell : GruCell R node.inputSize node.hiddenSize}
  {x h : Tensor R} {numDirections : Nat} {direction : UniDirection} {isBidirection : Bool}
  {env : GruWire → Tensor R}

theorem gruX_isInput : (gruX node).isInput = true := by
  unfold gruX
  split <;> rfl

theorem gruH_isInput : (gruH node).isInput = true := by
  unfold gruH
  split <;> rfl

theorem isStepValue_of_isInput (h : w.isInput = true) : w.isStepValue = false := by
  cases w <;> first | rfl | cases h

structure GruInputs (node : RnnNode) (numDirections : Nat) (x h : Tensor R) (env : GruWire → Tensor R) :
    Prop where
  heldX : env (gruX node) = x
  xShape : x.shape = [node.seqLength,node.batchSize,node.inputSize]
  heldH : node.hasInitialH = true → env (gruH node) = h
  hShape : node.hasInitialH = true → h.shape = [numDirections,node.batchSize,node.hiddenSize]

theorem gruInitialH_wire : (gruInitialH node numDirections direction).2.isInput = true := by
  unfold gruInitialH
  dsimp only
  split
  · split
    · exact gruH_isInput
    · rfl
  · rfl

theorem gruInitialH_ne_transposedX :
    (gruInitialH node numDirections direction).2 ≠ .transposedX direction := by
  unfold gruInitialH gruH
  dsimp only
  split
  · split
    · split <;> simp
    · simp
  · simp

theorem gruInitialH_calls (hcall : call ∈ (gruInitialH node numDirections direction).1) :
    call.outputs = [.slicedH direction] ∨ call.outputs = [.zeroH direction] := by
  unfold gruInitialH at hcall
  dsimp only at hcall
  split at hcall
  · split at hcall
    · cases hcall
    · exact .inl (mem_singleton.mp hcall ▸ rfl)
  · exact .inr (mem_singleton.mp hcall ▸ rfl)

theorem gruX_kept_initialH (hcall : call ∈ (gruInitialH node numDirections direction).1) :
    gruX node ∉ call.outputs := by
  rcases gruInitialH_calls hcall with h | h
  · rw [h,gruX]
    split <;> simp
  · rw [h,gruX]
    split <;> simp

theorem gruInitialH_run (hin : GruInputs node numDirections x h env) :
    IsStep node true node.hiddenSize
      (stateOf (initialRow node.hiddenSize node.hasInitialH h (directionIdx numDirections direction)))
      (runCalls (gruApply cell) (gruInitialH node numDirections direction).1 env
        (gruInitialH node numDirections direction).2) := by
  unfold gruInitialH
  dsimp only
  cases hpresent : node.hasInitialH with
  | false =>
    rw [if_neg (by decide)]
    rw [runCalls_one]
    refine ⟨rfl,fun b hb i hi => ?_⟩
    rw [stateOf,entry_of_lt hi]
    rfl
  | true =>
    rw [if_pos rfl]
    split
    · next hshape =>
      obtain rfl : numDirections = 1 := (List.cons.inj hshape).1
      rw [runCalls_nil,hin.heldH hpresent]
      refine ⟨hin.hShape hpresent,fun b hb i hi => ?_⟩
      rw [stateOf,entry_of_lt hi]
      rfl
    · rw [runCalls_one,map_singleton,hin.heldH hpresent]
      refine ⟨by simp [QnnKind.apply,shrink,stridedSlice,droppedShape,timeStep],fun b hb i hi => ?_⟩
      rw [stateOf,entry_of_lt hi]
      simp [QnnKind.apply,shrink,stridedSlice,expand,timeStep,unitRange,wholeRange,initialRow,rowOf]

theorem gruSource_run (hlayout : node.layout.getD 0 = 0)
    (hx : IsSequence node true node.inputSize (fun s b i => x.get [s,b,i]) (env (gruX node))) :
    IsSequence node (timeMajor node) node.inputSize (fun s b i => x.get [s,b,i])
      (runCalls (gruApply cell) (gruSource node direction).1 env (gruSource node direction).2) := by
  unfold gruSource timeMajor
  cases hcpu : isCpuBackend node with
  | false => simpa [hlayout] using hx
  | true =>
    rw [if_pos rfl,if_pos rfl]
    rw [runCalls_one]
    exact hx.transpose

theorem gruSource_wire : (gruSource node direction).2.isInput = true := by
  unfold gruSource
  split
  · rfl
  · exact gruX_isInput

theorem gruSource_calls (hcall : call ∈ (gruSource node direction).1) :
    call.outputs = [.transposedX direction] := by
  unfold gruSource at hcall
  split at hcall
  · exact mem_singleton.mp hcall ▸ rfl
  · cases hcall

theorem gruConcat_run (hpos : 0 < node.seqLength) (hlayout : node.layout.getD 0 = 0)
    {value : Nat → Nat → Nat → R}
    (hsteps : ∀ t < node.seqLength, IsStep node (timeMajor node) node.hiddenSize (value t)
      (env (.y direction t))) :
    let join := gruConcat node direction ((List.range node.seqLength).map (GruWire.y direction))
    IsSequence node true node.hiddenSize value (runCalls (gruApply cell) join.1 env join.2) := by
  have hjoined := isSequence_concat hpos hsteps
  unfold gruConcat
  dsimp only
  have hrun : runCalls (gruApply cell) [⟨.concat (if timeMajor node then 0 else 1),
      (List.range node.seqLength).map (GruWire.y direction),[.yConcat direction]⟩] env (.yConcat direction) =
      Tensors.concat (if timeMajor node then 0 else 1)
        ((List.range node.seqLength).map fun t => env (.y direction t)) := by
    rw [runCalls_one,map_map]
    rfl
  rw [← hrun] at hjoined
  cases hcpu : isCpuBackend node with
  | false =>
    have hmajor : timeMajor node = true := by simp [timeMajor,hcpu,hlayout]
    rw [hmajor] at hjoined ⊢
    exact hjoined
  | true =>
    have hmajor : timeMajor node = false := by simp [timeMajor,hcpu]
    rw [hmajor] at hjoined
    rw [if_pos rfl]
    dsimp only
    rw [runCalls_cons,hmajor,runCalls_one]
    exact hjoined.transpose

theorem gruConcat_calls {names : List GruWire} (hcall : call ∈ (gruConcat node direction names).1) :
    call.outputs = [.yConcat direction] ∨ call.outputs = [.yAll direction] := by
  unfold gruConcat at hcall
  dsimp only at hcall
  split at hcall
  · simp only [mem_cons,not_mem_nil,or_false] at hcall
    rcases hcall with rfl | rfl
    · exact .inl rfl
    · exact .inr rfl
  · exact .inl (mem_singleton.mp hcall ▸ rfl)

theorem gruReshapeY_run {value : Nat → Nat → Nat → R} (hy : node.hasY = true)
    (h : IsSequence node true node.hiddenSize value (env yAll)) :
    IsY node value (runCalls (gruApply cell) (gruReshapeY node direction isBidirection yAll) env
      (gruYName node direction isBidirection)) := by
  unfold gruReshapeY
  rw [if_pos hy]
  rw [runCalls_one]
  exact h.unsqueeze

theorem gruReshapeY_calls (hcall : call ∈ gruReshapeY node direction isBidirection yAll) :
    call.outputs = [gruYName node direction isBidirection] := by
  unfold gruReshapeY at hcall
  split at hcall
  · exact mem_singleton.mp hcall ▸ rfl
  · cases hcall

theorem gruYName_isState : (gruYName node direction isBidirection).isState = false := by
  unfold gruYName outName
  split
  · rfl
  · split <;> rfl

theorem addGruStep_prevH (directionIdx : Nat) (source : GruWire) (acc : GruUnroll) (step : Nat) :
    (addGruStep node direction directionIdx isBidirection source acc step).prevH.isState = true := by
  unfold addGruStep
  dsimp only
  split
  · exact stepYAsH_isState
  · exact stepYhName_isState

theorem isState_kept {acc : GruUnroll} (hstate : acc.prevH.isState = true) {names : List GruWire}
    (hcall : call ∈ (gruConcat node direction names).1 ++ gruReshapeY node direction isBidirection yAll) :
    acc.prevH ∉ call.outputs := by
  intro hmem
  rcases mem_append.mp hcall with hcall | hcall
  · rcases gruConcat_calls hcall with houtputs | houtputs
    · rw [houtputs,mem_singleton] at hmem
      rw [hmem] at hstate
      cases hstate
    · rw [houtputs,mem_singleton] at hmem
      rw [hmem] at hstate
      cases hstate
  · rw [gruReshapeY_calls hcall,mem_singleton] at hmem
    rw [hmem,gruYName_isState] at hstate
    cases hstate

theorem gruUnroll_prevH (hpos : 0 < node.seqLength) (hlayout : node.layout.getD 0 = 0)
    (hyh : node.hasYh = true) (directionIdx : Nat) (source first : GruWire) :
    (gruUnroll node direction directionIdx false source first node.seqLength).prevH =
      outName node 1 := by
  obtain ⟨n,hn⟩ := Nat.exists_eq_succ_of_ne_zero (Nat.pos_iff_ne_zero.mp hpos)
  have hlast : writesOutput node false n = true := by simp [writesOutput,needsYhOutput,hyh,hn]
  rw [hn,gruUnroll_succ]
  simp only [addGruStep,stepYAsH,stepYhName,hlast,timeMajor,hlayout]
  cases isCpuBackend node <;> simp

def uniState (cell : GruCell R node.inputSize node.hiddenSize) (x h : Tensor R) (numDirections : Nat)
    (direction : UniDirection) (n b : Nat) : Row R node.hiddenSize :=
  gruState cell x (initialRow node.hiddenSize node.hasInitialH h (directionIdx numDirections direction))
    direction (directionIdx numDirections direction) n b

theorem uniGru_run (cell : GruCell R node.inputSize node.hiddenSize) (direction : UniDirection)
    (hin : GruInputs node numDirections x h env) (hpos : 0 < node.seqLength)
    (hlayout : node.layout.getD 0 = 0) (isBidirection : Bool) :
    let uni := uniGru node numDirections direction isBidirection
    let env' := runCalls (gruApply cell) uni.calls env
    (node.hasY = true → IsY node
        (fun t => stateOf (uniState cell x h numDirections direction
          (timeOf direction.reversed node.seqLength t + 1))) (env' uni.yName)) ∧
      (isBidirection = true ∨ node.hasYh = true → IsStep node true node.hiddenSize
        (stateOf (uniState cell x h numDirections direction node.seqLength)) (env' uni.yhName)) := by
  intro uni env'
  let env₁ := runCalls (gruApply cell) (gruInitialH node numDirections direction).1 env
  let env₂ := runCalls (gruApply cell) (gruSource node direction).1 env₁
  let acc := gruUnroll node direction (directionIdx numDirections direction) isBidirection
    (gruSource node direction).2 (gruInitialH node numDirections direction).2 node.seqLength
  let env₃ := runCalls (gruApply cell) acc.calls env₂
  let join := gruConcat node direction acc.stepHiddenNames
  let env₄ := runCalls (gruApply cell) join.1 env₃
  have hsplit : env' = runCalls (gruApply cell) (gruReshapeY node direction isBidirection join.2) env₄ := by
    simp only [env',uni,uniGru,runCalls_append]
    rfl
  have hx₁ : env₁ (gruX node) = x :=
    (runCalls_of_notMem _ (fun _ => gruX_kept_initialH) env).trans hin.heldX
  have hinitial₂ : env₂ (gruInitialH node numDirections direction).2 =
      env₁ (gruInitialH node numDirections direction).2 := by
    refine runCalls_of_notMem _ (fun call hcall => ?_) env₁
    rw [gruSource_calls hcall,mem_singleton]
    exact gruInitialH_ne_transposedX
  have hsequence : IsSequence node true node.inputSize (fun s b i => x.get [s,b,i]) (env₁ (gruX node)) := by
    rw [hx₁]
    exact ⟨hin.xShape,fun s hs b hb i hi => rfl⟩
  have hstart : IsStep node true node.hiddenSize
      (stateOf (initialRow node.hiddenSize node.hasInitialH h (directionIdx numDirections direction)))
      (env₂ (gruInitialH node numDirections direction).2) := hinitial₂ ▸ gruInitialH_run hin
  have hunrolled : GruUnrolled cell x
      (initialRow node.hiddenSize node.hasInitialH h (directionIdx numDirections direction)) direction
      (directionIdx numDirections direction) env₃ acc node.seqLength :=
    gruUnroll_run gruSource_wire (isStepValue_of_isInput gruInitialH_wire)
      (gruSource_run hlayout hsequence) hstart le_rfl
  have hnames : acc.stepHiddenNames = (List.range node.seqLength).map (GruWire.y direction) :=
    gruUnroll_stepHiddenNames _ _
  refine ⟨fun hy => ?_,fun hneeded => ?_⟩
  · rw [hsplit]
    refine gruReshapeY_run hy ?_
    simp only [env₄,join,hnames]
    refine gruConcat_run hpos hlayout fun t ht => ?_
    have hstep := hunrolled.steps (timeOf direction.reversed node.seqLength t) (timeOf_lt ht)
    rw [timeOf_timeOf ht] at hstep
    exact hstep
  · have hprev : acc.prevH.isState = true := by
      obtain ⟨n,hn⟩ := Nat.exists_eq_succ_of_ne_zero (Nat.pos_iff_ne_zero.mp hpos)
      simp only [acc,hn,gruUnroll_succ]
      exact addGruStep_prevH _ _ _ _
    have hname : uni.yhName = acc.prevH := by
      cases isBidirection with
      | true => rfl
      | false => exact (gruUnroll_prevH hpos hlayout (hneeded.resolve_left (by decide)) _ _ _).symm
    have hkept : env' acc.prevH = env₃ acc.prevH := by
      rw [hsplit]
      refine (congrFun (runCalls_append _ join.1 _ env₃).symm _).trans ?_
      exact runCalls_of_notMem _ (fun _ => isState_kept hprev) env₃
    rw [hname,hkept]
    exact hunrolled.state

end

end QnnEp.Rnn
