import QnnEp.Foundation.Calls
import QnnEp.Rnn.Builder

namespace QnnEp.Rnn
open Recurrence Tensors

inductive GruWire where
  | x
  | initialH
  | dequantizedX
  | dequantizedH
  | zeroH (direction : UniDirection)
  | slicedH (direction : UniDirection)
  | transposedX (direction : UniDirection)
  | unnamed
  | xStep (direction : UniDirection) (t : Nat)
  | y (direction : UniDirection) (t : Nat)
  | yh (direction : UniDirection) (t : Nat)
  | yAsH (direction : UniDirection) (t : Nat)
  | yConcat (direction : UniDirection)
  | yAll (direction : UniDirection)
  | yUnsqueeze (direction : UniDirection)
  | fp32 (output : Nat)
  | concatF32 (output : Nat)
  | output (output : Nat)
  deriving DecidableEq, Repr

abbrev GruCall := Call QnnKind GruWire

section
variable (node : RnnNode)

def timeMajor : Bool := if isCpuBackend node then false else node.layout.getD 0 = 0

def gruX : GruWire := if node.useFpFallback ∧ node.quantizedX then .dequantizedX else .x

def gruH : GruWire := if node.useFpFallback ∧ node.quantizedH then .dequantizedH else .initialH

def gruDequantize : List GruCall :=
  if node.useFpFallback then
    (if node.quantizedX then [⟨.dequantize,[.x],[.dequantizedX]⟩] else []) ++
      (if node.hasInitialH ∧ node.quantizedH then [⟨.dequantize,[.initialH],[.dequantizedH]⟩] else [])
  else []

def gruInitialH (numDirections : Nat) (direction : UniDirection) : List GruCall × GruWire :=
  let hShape := [1,node.batchSize,node.hiddenSize]
  if node.hasInitialH then
    if [numDirections,node.batchSize,node.hiddenSize] = hShape then ([],gruH node)
    else
      ([⟨.stridedSlice [unitRange (directionIdx numDirections direction),wholeRange node.batchSize,
          wholeRange node.hiddenSize] [false,false,false],[gruH node],[.slicedH direction]⟩],
        .slicedH direction)
  else ([⟨.zeros hShape,[],[.zeroH direction]⟩],.zeroH direction)

def gruSource (direction : UniDirection) : List GruCall × GruWire :=
  if isCpuBackend node then
    ([⟨.transpose [1,0,2],[gruX node],[.transposedX direction]⟩],.transposedX direction)
  else ([],gruX node)

def needsYhOutput (isBidirection : Bool) : Bool := !isBidirection && node.hasYh

def outName (output : Nat) : GruWire := if node.useFpFallback then .fp32 output else .output output

structure GruUnroll where
  calls : List GruCall
  prevH : GruWire
  stepHiddenNames : List GruWire

def xRanges (t : Nat) : List Range :=
  if timeMajor node then [unitRange t,wholeRange node.batchSize,wholeRange node.inputSize]
  else [wholeRange node.batchSize,unitRange t,wholeRange node.inputSize]

section
variable (direction : UniDirection) (directionIdx : Nat) (isBidirection : Bool)

def writesOutput (step : Nat) : Bool :=
  decide (step = node.seqLength - 1) && needsYhOutput node isBidirection

def stepYhName (step : Nat) : GruWire :=
  if writesOutput node isBidirection step ∧ timeMajor node then outName node 1
  else .yh direction (timeOf direction.reversed node.seqLength step)

def stepYAsH (step : Nat) : GruWire :=
  if writesOutput node isBidirection step then outName node 1
  else .yAsH direction (timeOf direction.reversed node.seqLength step)

def gruStepCalls (source prevH : GruWire) (step : Nat) : List GruCall :=
  let t := timeOf direction.reversed node.seqLength step
  [⟨.stridedSlice (xRanges node t) [false,false,false],[source],[.xStep direction t]⟩,
    ⟨.recurrent (timeMajor node) direction directionIdx,[.xStep direction t,prevH],
      [.y direction t,stepYhName node direction isBidirection step]⟩] ++
  if isCpuBackend node then
    [⟨.transpose [1,0,2],[.y direction t],[stepYAsH node direction isBidirection step]⟩]
  else []

def addGruStep (source : GruWire) (acc : GruUnroll) (step : Nat) : GruUnroll where
  calls := acc.calls ++ gruStepCalls node direction directionIdx isBidirection source acc.prevH step
  prevH :=
    if isCpuBackend node then stepYAsH node direction isBidirection step
    else stepYhName node direction isBidirection step
  stepHiddenNames :=
    let t := timeOf direction.reversed node.seqLength step
    acc.stepHiddenNames.set t (.y direction t)

end

def gruUnroll (direction : UniDirection) (directionIdx : Nat) (isBidirection : Bool)
    (source initialH : GruWire) (steps : Nat) : GruUnroll :=
  (List.range steps).foldl (addGruStep node direction directionIdx isBidirection source)
    ⟨[],initialH,List.replicate node.seqLength .unnamed⟩

def gruConcat (direction : UniDirection) (names : List GruWire) : List GruCall × GruWire :=
  let concatCall : GruCall := ⟨.concat (if timeMajor node then 0 else 1),names,[.yConcat direction]⟩
  if isCpuBackend node then
    ([concatCall,⟨.transpose [1,0,2],[.yConcat direction],[.yAll direction]⟩],.yAll direction)
  else ([concatCall],.yConcat direction)

def gruYName (direction : UniDirection) (isBidirection : Bool) : GruWire :=
  if isBidirection then .yUnsqueeze direction else outName node 0

def gruReshapeY (direction : UniDirection) (isBidirection : Bool) (yAll : GruWire) : List GruCall :=
  if node.hasY then
    [⟨.reshape [node.seqLength,1,node.batchSize,node.hiddenSize],[yAll],
      [gruYName node direction isBidirection]⟩]
  else []

def gruYhName (isBidirection : Bool) (prevH : GruWire) : GruWire :=
  if isBidirection then prevH else outName node 1

structure UniGru where
  calls : List GruCall
  yName : GruWire
  yhName : GruWire

def uniGru (numDirections : Nat) (direction : UniDirection) (isBidirection : Bool) : UniGru :=
  let initial := gruInitialH node numDirections direction
  let source := gruSource node direction
  let unrolled := gruUnroll node direction (directionIdx numDirections direction) isBidirection
    source.2 initial.2 node.seqLength
  let concat := gruConcat node direction unrolled.stepHiddenNames
  ⟨initial.1 ++ (source.1 ++ (unrolled.calls ++
      (concat.1 ++ gruReshapeY node direction isBidirection concat.2))),
    gruYName node direction isBidirection,gruYhName node isBidirection unrolled.prevH⟩

def addUnidirectionGRU (numDirections : Nat) (direction : UniDirection) (isBidirection : Bool) :
    Except String UniGru := do
  checkSizes node "hidden_size is not set for GRU"
  return uniGru node numDirections direction isBidirection

def gruConcatDirections (output axis : Nat) (forward reverse : GruWire) : List GruCall :=
  if hasOutput node output then
    if node.useFpFallback then
      [⟨.concat axis,[forward,reverse],[.concatF32 output]⟩,
        ⟨.quantize,[.concatF32 output],[.output output]⟩]
    else [⟨.concat axis,[forward,reverse],[.output output]⟩]
  else []

def gruQuantize (output : Nat) : List GruCall :=
  if node.useFpFallback ∧ hasOutput node output then
    [⟨.quantize,[.fp32 output],[.output output]⟩]
  else []

def processGruOutputs (direction : Direction) : Except String (List GruCall) :=
  match direction with
  | .bidirectional => do
    let forward ← addUnidirectionGRU node 2 .forward true
    let reverse ← addUnidirectionGRU node 2 .reverse true
    let yAxis ← deriveNumDirectionsConcatAxis (outputShape node 2 0)
    let yhAxis ← deriveNumDirectionsConcatAxis (outputShape node 2 1)
    return gruDequantize node ++ (forward.calls ++ (reverse.calls ++
      (gruConcatDirections node 0 yAxis forward.yName reverse.yName ++
        gruConcatDirections node 1 yhAxis forward.yhName reverse.yhName)))
  | direction => do
    let uni ← addUnidirectionGRU node 1 (uniDirection direction) false
    return gruDequantize node ++ (uni.calls ++ (gruQuantize node 0 ++ gruQuantize node 1))

def addGruToModelBuilder : Except String (List GruCall) := do
  let direction ← isOpSupported node
  processGruOutputs node direction

end

section
variable {R : Type} {node : RnnNode}

structure IsSequence (node : RnnNode) (major : Bool) (width : Nat) (value : Nat → Nat → Nat → R)
    (t : Tensor R) : Prop where
  shape : t.shape = timeStep major node.seqLength node.batchSize width
  get : ∀ s < node.seqLength, ∀ b < node.batchSize, ∀ i < width,
    t.get (timeStep major s b i) = value s b i

structure IsStep (node : RnnNode) (major : Bool) (width : Nat) (value : Nat → Nat → R)
    (t : Tensor R) : Prop where
  shape : t.shape = timeStep major 1 node.batchSize width
  get : ∀ b < node.batchSize, ∀ i < width, t.get (timeStep major 0 b i) = value b i

theorem transpose_swap_get {t : Tensor R} {p q r : Nat} (h : t.shape = [p,q,r]) (i j k : Nat) :
    (t.transpose [1,0,2]).get [i,j,k] = t.get [j,i,k] := by
  simp [Tensor.transpose,h,List.range_succ]

theorem transpose_swap_shape {t : Tensor R} {p q r : Nat} (h : t.shape = [p,q,r]) :
    (t.transpose [1,0,2]).shape = [q,p,r] := by
  simp [Tensor.transpose,h]

theorem IsStep.transpose {width : Nat} {value : Nat → Nat → R} {t : Tensor R}
    (h : IsStep node false width value t) : IsStep node true width value (t.transpose [1,0,2]) := by
  refine ⟨transpose_swap_shape h.shape,fun b hb i hi => ?_⟩
  exact (transpose_swap_get h.shape 0 b i).trans (h.get b hb i hi)

theorem IsSequence.transpose {major : Bool} {width : Nat} {value : Nat → Nat → Nat → R} {t : Tensor R}
    (h : IsSequence node major width value t) :
    IsSequence node (!major) width value (t.transpose [1,0,2]) := by
  cases major with
  | false =>
    refine ⟨transpose_swap_shape h.shape,fun s hs b hb i hi => ?_⟩
    exact (transpose_swap_get h.shape s b i).trans (h.get s hs b hb i hi)
  | true =>
    refine ⟨transpose_swap_shape h.shape,fun s hs b hb i hi => ?_⟩
    exact (transpose_swap_get h.shape b s i).trans (h.get s hs b hb i hi)

theorem rowOf_step {major : Bool} {width b : Nat} {row : Row R width} {value : Nat → Nat → R}
    {t : Tensor R} (h : IsStep node major width value t) (hb : b < node.batchSize)
    (hrow : ∀ i (hi : i < width), value b i = row ⟨i,hi⟩) :
    rowOf t (timeStep major 0 b) width = row := by
  funext i
  exact (h.get b hb i i.isLt).trans (hrow i i.isLt)

theorem isStep_slice {value : Nat → Nat → Nat → R} {t : Tensor R}
    (h : IsSequence node (timeMajor node) node.inputSize value t) {s : Nat} (hs : s < node.seqLength) :
    IsStep node (timeMajor node) node.inputSize (value s)
      (shrink [false,false,false] (stridedSlice (xRanges node s) t)) := by
  unfold xRanges
  cases hmajor : timeMajor node with
  | true | false =>
    rw [hmajor] at h
    refine ⟨by simp [shrink,stridedSlice,droppedShape,timeStep],fun b hb i hi => ?_⟩
    rw [← h.get s hs b hb i hi]
    simp [shrink,stridedSlice,expand,timeStep,unitRange,wholeRange]

structure IsY (node : RnnNode) (value : Nat → Nat → Nat → R) (t : Tensor R) : Prop where
  shape : t.shape = [node.seqLength,1,node.batchSize,node.hiddenSize]
  get : ∀ s < node.seqLength, ∀ b < node.batchSize, ∀ i < node.hiddenSize,
    t.get [s,0,b,i] = value s b i

theorem IsSequence.unsqueeze {value : Nat → Nat → Nat → R} {t : Tensor R}
    (h : IsSequence node true node.hiddenSize value t) :
    IsY node value (t.reshape [node.seqLength,1,node.batchSize,node.hiddenSize]) := by
  refine ⟨rfl,fun s hs b hb i hi => ?_⟩
  rw [← h.get s hs b hb i hi]
  refine Tensor.reshape_get ?_ ?_
  · rw [h.shape]
    exact .cons hs (.cons hb (.cons hi .nil))
  · rw [h.shape]
    simp [ravel,timeStep]

variable [Zero R]

theorem isSequence_concat (hpos : 0 < node.seqLength) {major : Bool} {width : Nat}
    {value : Nat → Nat → Nat → R} {steps : Nat → Tensor R}
    (h : ∀ s < node.seqLength, IsStep node major width (value s) (steps s)) :
    IsSequence node major width value
      (concat (if major then 0 else 1) ((List.range node.seqLength).map steps)) := by
  have hne : (List.range node.seqLength).map steps ≠ [] := by simp; omega
  have hshape : ∀ t ∈ (List.range node.seqLength).map steps,
      t.shape = timeStep major 1 node.batchSize width := by
    intro t ht
    obtain ⟨s,hs,rfl⟩ := List.mem_map.mp ht
    exact (h s (List.mem_range.mp hs)).shape
  have hget {s : Nat} (hs : s < node.seqLength) :
      (((List.range node.seqLength).map steps).map Tensor.get).getD s (fun _ => 0) =
        (steps s).get := by
    simp [hs]
  cases major with
  | true =>
    refine ⟨?_,fun s hs b hb i hi => ?_⟩
    · have hjoin : concatShape 0 ((List.range node.seqLength).map steps) =
          [1,node.batchSize,width].set 0 (((List.range node.seqLength).map steps).length * 1) :=
        concatShape_units hne hshape (by simp)
      simpa [concat,timeStep] using hjoin
    · have hunits : ∀ t ∈ (List.range node.seqLength).map steps, t.shape.getD 0 0 = 1 := by
        intro t ht
        rw [hshape t ht]
        rfl
      have hjoin : joined 0 ((List.range node.seqLength).map steps) [s,b,i] = _ :=
        joined_units hunits (by simp)
      exact (hjoin.trans (congrFun (hget hs) _)).trans ((h s hs).get b hb i hi)
  | false =>
    refine ⟨?_,fun s hs b hb i hi => ?_⟩
    · have hjoin : concatShape 1 ((List.range node.seqLength).map steps) =
          [node.batchSize,1,width].set 1 (((List.range node.seqLength).map steps).length * 1) :=
        concatShape_units hne hshape (by simp)
      simpa [concat,timeStep] using hjoin
    · have hunits : ∀ t ∈ (List.range node.seqLength).map steps, t.shape.getD 1 0 = 1 := by
        intro t ht
        rw [hshape t ht]
        rfl
      have hjoin : joined 1 ((List.range node.seqLength).map steps) [b,s,i] = _ :=
        joined_units hunits (by simp)
      exact (hjoin.trans (congrFun (hget hs) _)).trans ((h s hs).get b hb i hi)

end

section
variable {R : Type} [Zero R] {node : RnnNode}

def stateOf {width : Nat} (f : Nat → Row R width) (b i : Nat) : R := entry (f b) i

theorem timeOf_one (reversed : Bool) : timeOf reversed 1 0 = 0 := by
  cases reversed <;> rfl

theorem qnnGru_step (cell : GruCell R node.inputSize node.hiddenSize) {major : Bool} {x xt h : Tensor R}
    {s : Nat} {state : Nat → Row R node.hiddenSize} (direction : UniDirection) (directionIdx : Nat)
    (hx : IsStep node major node.inputSize (fun b i => x.get [s,b,i]) xt)
    (hh : IsStep node true node.hiddenSize (stateOf state) h) :
    ∃ y yh, qnnGru cell major direction directionIdx [xt,h] = [y,yh] ∧
      IsStep node major node.hiddenSize
        (stateOf fun b => cell directionIdx (rowOf x (fun i => [s,b,i]) node.inputSize) (state b)) y ∧
      IsStep node true node.hiddenSize
        (stateOf fun b => cell directionIdx (rowOf x (fun i => [s,b,i]) node.inputSize) (state b)) yh := by
  have hsteps : xt.shape.getD (if major then 0 else 1) 0 = 1 := by
    rw [hx.shape]
    cases major <;> rfl
  have hbatch : xt.shape.getD (if major then 1 else 0) 0 = node.batchSize := by
    rw [hx.shape]
    cases major <;> rfl
  have hnext {b : Nat} (hb : b < node.batchSize) :
      along (cell directionIdx) direction.reversed 1
        (fun t => rowOf xt (timeStep major t b) node.inputSize)
        (rowOf h (fun i => [0,b,i]) node.hiddenSize) 1 =
      cell directionIdx (rowOf x (fun i => [s,b,i]) node.inputSize) (state b) := by
    have hrow : rowOf h (fun i => [0,b,i]) node.hiddenSize = state b :=
      rowOf_step hh hb fun i hi => entry_of_lt hi
    have hinput : rowOf xt (timeStep major 0 b) node.inputSize =
        rowOf x (fun i => [s,b,i]) node.inputSize := rowOf_step hx hb fun i hi => rfl
    rw [along_one,hinput,hrow]
  refine ⟨_,_,rfl,?_,?_⟩
  · rw [hsteps,hbatch]
    refine ⟨rfl,fun b hb i hi => ?_⟩
    cases major with
    | true | false => exact congrArg (entry · i) ((congrArg _ (congrArg (· + 1) (timeOf_one _))).trans (hnext hb))
  · rw [hsteps,hbatch]
    exact ⟨rfl,fun b hb i hi => congrArg (entry · i) (hnext hb)⟩

variable {σ : Type} {hidden : σ → Row R node.hiddenSize} {state : Nat → Nat → Nat → σ} {s t : Tensor R}

def YAt (direction : Direction) (hidden : σ → Row R node.hiddenSize) (state : Nat → Nat → Nat → σ)
    (k m : Nat) : Nat → Nat → R :=
  stateOf fun b => hidden (state k b (timeOf (direction.reversedAt k) node.seqLength m + 1))

def lastAt (hidden : σ → Row R node.hiddenSize) (state : Nat → Nat → Nat → σ) (k : Nat) :
    Nat → Nat → R :=
  stateOf fun b => hidden (state k b node.seqLength)

theorem isFullY_single {direction : Direction} (hnumber : direction.numDirections = 1)
    (h : IsY node (YAt direction hidden state 0) t) : IsFullY node direction hidden state t := by
  refine ⟨?_,fun m hm k hk b hb i hi => ?_⟩
  · rw [hnumber]
    exact h.shape
  · obtain rfl : k = 0 := by omega
    exact h.get m hm b hb i hi

theorem isFullLast_single {direction : Direction} (hnumber : direction.numDirections = 1)
    (h : IsStep node true node.hiddenSize (lastAt hidden state 0) t) :
    IsFullLast node direction hidden state t := by
  refine ⟨?_,fun k hk b hb i hi => ?_⟩
  · rw [hnumber]
    exact h.shape
  · obtain rfl : k = 0 := by omega
    exact h.get b hb i hi

theorem isFullY_concat (hs : IsY node (YAt .bidirectional hidden state 0) s)
    (ht : IsY node (YAt .bidirectional hidden state 1) t) :
    IsFullY node .bidirectional hidden state (concat 1 [s,t]) := by
  have hunits : ∀ u ∈ [s,t], u.shape.getD 1 0 = 1 := by simp [hs.shape,ht.shape]
  refine ⟨?_,fun m hm k hk b hb i hi => ?_⟩
  · simp [concat,concatShape,hs.shape,ht.shape,outputShape,Direction.numDirections]
  · have hcases : k = 0 ∨ k = 1 := by
      simp only [Direction.numDirections] at hk
      omega
    rcases hcases with rfl | rfl
    · exact (joined_units hunits (by simp)).trans (hs.get m hm b hb i hi)
    · exact (joined_units hunits (by simp)).trans (ht.get m hm b hb i hi)

theorem isFullLast_concat (hs : IsStep node true node.hiddenSize (lastAt hidden state 0) s)
    (ht : IsStep node true node.hiddenSize (lastAt hidden state 1) t) :
    IsFullLast node .bidirectional hidden state (concat 0 [s,t]) := by
  have hunits : ∀ u ∈ [s,t], u.shape.getD 0 0 = 1 := by simp [hs.shape,ht.shape,timeStep]
  refine ⟨?_,fun k hk b hb i hi => ?_⟩
  · simp [concat,concatShape,hs.shape,ht.shape,timeStep,outputShape,Direction.numDirections]
  · have hcases : k = 0 ∨ k = 1 := by
      simp only [Direction.numDirections] at hk
      omega
    rcases hcases with rfl | rfl
    · exact (joined_units hunits (by simp)).trans (hs.get b hb i hi)
    · exact (joined_units hunits (by simp)).trans (ht.get b hb i hi)

end

end QnnEp.Rnn
