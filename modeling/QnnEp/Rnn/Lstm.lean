import QnnEp.Rnn.Gru

namespace QnnEp.Rnn
open Recurrence Tensors

inductive LstmState where
  | h
  | c
  deriving DecidableEq, Repr

inductive LstmWire where
  | x
  | initial (state : LstmState)
  | zeros (direction : UniDirection) (state : LstmState)
  | sliced (direction : UniDirection) (state : LstmState)
  | unnamed
  | cellInput (direction : UniDirection) (t : Nat)
  | allHidden (direction : UniDirection) (t : Nat)
  | cellState (direction : UniDirection) (t : Nat)
  | hiddenState (direction : UniDirection) (t : Nat)
  | packed (direction : UniDirection)
  | multiStep (direction : UniDirection) (position : Nat)
  | unsqueezed (direction : UniDirection) (output : Nat)
  | output (output : Nat)
  deriving DecidableEq, Repr

abbrev LstmCall := Call QnnKind LstmWire

section
variable (node : RnnNode)

def hasInitial : LstmState → Bool
  | .h => node.hasInitialH
  | .c => node.hasInitialC

def multiTimeStepsLstm : Bool := (Slice.isNpuBackend node.backend || isIrBackend node) && node.enableHtpMonolithicLstm

def stridedSliceOrReshape (inputShape outputShape : List Nat) (ranges : List Range)
    (shrinkAxes : List Bool) : QnnKind :=
  let minSize := min inputShape.length outputShape.length
  if inputShape.getD 0 0 = 1 ∧
      outputShape.reverse.take minSize = inputShape.reverse.take minSize then .reshape outputShape
  else .stridedSlice ranges shrinkAxes

def lstmInitial (numDirections : Nat) (direction : UniDirection) (state : LstmState) :
    List LstmCall × LstmWire :=
  let outputShape := [node.batchSize,node.hiddenSize]
  if hasInitial node state then
    ([⟨stridedSliceOrReshape [numDirections,node.batchSize,node.hiddenSize] outputShape
        [unitRange (directionIdx numDirections direction),wholeRange node.batchSize,
          wholeRange node.hiddenSize] [true,false,false],[.initial state],[.sliced direction state]⟩],
      .sliced direction state)
  else ([⟨.zeros outputShape,[],[.zeros direction state]⟩],.zeros direction state)

structure LstmUnroll where
  calls : List LstmCall
  h : LstmWire
  c : LstmWire
  allHiddenStateNames : List LstmWire

section
variable (direction : UniDirection) (directionIdx : Nat)

def lstmStepCalls (h c : LstmWire) (step : Nat) : List LstmCall :=
  let t := timeOf direction.reversed node.seqLength step
  [⟨stridedSliceOrReshape [node.seqLength,node.batchSize,node.inputSize]
      [node.batchSize,node.inputSize]
      [unitRange t,wholeRange node.batchSize,wholeRange node.inputSize] [true,false,false],[.x],
      [.cellInput direction t]⟩,
    ⟨.recurrent false direction directionIdx,[.cellInput direction t,h,c],
      [.allHidden direction t,.cellState direction t,.hiddenState direction t]⟩]

def addLstmStep (acc : LstmUnroll) (step : Nat) : LstmUnroll :=
  let t := timeOf direction.reversed node.seqLength step
  ⟨acc.calls ++ lstmStepCalls node direction directionIdx acc.h acc.c step,.hiddenState direction t,
    .cellState direction t,acc.allHiddenStateNames.set t (.hiddenState direction t)⟩

def lstmUnroll (h c : LstmWire) (steps : Nat) : LstmUnroll :=
  (List.range steps).foldl (addLstmStep node direction directionIdx)
    ⟨[],h,c,List.replicate node.seqLength .unnamed⟩

def lstmCells (h c : LstmWire) : List LstmCall × List LstmWire :=
  if multiTimeStepsLstm node then
    ([⟨.recurrent true direction directionIdx,[.x,h,c],
        [.multiStep direction 0,.multiStep direction 1,.multiStep direction 2]⟩],
      [.multiStep direction 0,.multiStep direction 2,.multiStep direction 1])
  else
    let unrolled := lstmUnroll node direction directionIdx h c node.seqLength
    (unrolled.calls ++ [⟨.pack 0,unrolled.allHiddenStateNames,[.packed direction]⟩],
      [.packed direction,unrolled.h,unrolled.c])

end

def lstmOutName (direction : UniDirection) (isBidirection : Bool) (output : Nat) : LstmWire :=
  if isBidirection then .unsqueezed direction output else .output output

def lstmReshape (direction : UniDirection) (isBidirection : Bool) (names : List LstmWire)
    (output : Nat) : List LstmCall :=
  if hasOutput node output then
    [⟨.reshape (outputShape node 1 output),[names.getD output .unnamed],
      [lstmOutName direction isBidirection output]⟩]
  else []

def uniLstm (numDirections : Nat) (direction : UniDirection) (isBidirection : Bool) : List LstmCall :=
  let h := lstmInitial node numDirections direction .h
  let c := lstmInitial node numDirections direction .c
  let cells := lstmCells node direction (directionIdx numDirections direction) h.2 c.2
  h.1 ++ (c.1 ++ (cells.1 ++ (lstmReshape node direction isBidirection cells.2 0 ++
    (lstmReshape node direction isBidirection cells.2 1 ++
      lstmReshape node direction isBidirection cells.2 2))))

def addUnidirectionLSTM (numDirections : Nat) (direction : UniDirection) (isBidirection : Bool) :
    Except String (List LstmCall) := do
  checkSizes node "hidden size is not set for LSTM"
  return uniLstm node numDirections direction isBidirection

def lstmConcatDirections (output axis : Nat) : List LstmCall :=
  if hasOutput node output then
    [⟨.concat axis,[.unsqueezed .forward output,.unsqueezed .reverse output],[.output output]⟩]
  else []

def processLstmOutputs (direction : Direction) : Except String (List LstmCall) :=
  match direction with
  | .bidirectional => do
    let forward ← addUnidirectionLSTM node 2 .forward true
    let reverse ← addUnidirectionLSTM node 2 .reverse true
    let yAxis ← deriveNumDirectionsConcatAxis (outputShape node 2 0)
    let yhAxis ← deriveNumDirectionsConcatAxis (outputShape node 2 1)
    let ycAxis ← deriveNumDirectionsConcatAxis (outputShape node 2 2)
    return forward ++ (reverse ++ (lstmConcatDirections node 0 yAxis ++
      (lstmConcatDirections node 1 yhAxis ++ lstmConcatDirections node 2 ycAxis)))
  | direction => addUnidirectionLSTM node 1 (uniDirection direction) false

def addLstmToModelBuilder : Except String (List LstmCall) := do
  let direction ← isOpSupported node
  processLstmOutputs node direction

end

section
variable {R : Type} {node : RnnNode}

structure IsRows (node : RnnNode) (width : Nat) (value : Nat → Nat → R) (t : Tensor R) : Prop where
  shape : t.shape = [node.batchSize,width]
  get : ∀ b < node.batchSize, ∀ i < width, t.get [b,i] = value b i

theorem rowOf_rows {width b : Nat} {row : Row R width} {value : Nat → Nat → R} {t : Tensor R}
    (h : IsRows node width value t) (hb : b < node.batchSize)
    (hrow : ∀ i (hi : i < width), value b i = row ⟨i,hi⟩) :
    rowOf t (fun i => [b,i]) width = row := by
  funext i
  exact (h.get b hb i i.isLt).trans (hrow i i.isLt)

theorem IsRows.unsqueeze {value : Nat → Nat → R} {t : Tensor R}
    (h : IsRows node node.hiddenSize value t) :
    IsStep node true node.hiddenSize value (t.reshape [1,node.batchSize,node.hiddenSize]) := by
  refine ⟨rfl,fun b hb i hi => ?_⟩
  rw [← h.get b hb i hi]
  refine Tensor.reshape_get ?_ ?_
  · rw [h.shape]
    exact .cons hb (.cons hi .nil)
  · rw [h.shape]
    simp [ravel,timeStep]

variable [Zero R]

theorem isRows_slice (recur : Bool → UniDirection → Nat → List (Tensor R) → List (Tensor R))
    {t : Tensor R} {leading width k : Nat} (hshape : t.shape = [leading,node.batchSize,width])
    (hk : k < leading) :
    ∃ u, QnnKind.apply recur (stridedSliceOrReshape [leading,node.batchSize,width]
        [node.batchSize,width] [unitRange k,wholeRange node.batchSize,wholeRange width]
        [true,false,false]) [t] = [u] ∧ IsRows node width (fun b i => t.get [k,b,i]) u := by
  unfold stridedSliceOrReshape
  dsimp only
  split
  · next hone =>
    obtain rfl : leading = 1 := hone.1
    obtain rfl : k = 0 := by omega
    refine ⟨_,rfl,rfl,fun b hb i hi => ?_⟩
    refine Tensor.reshape_get ?_ ?_
    · rw [hshape]
      exact .cons Nat.one_pos (.cons hb (.cons hi .nil))
    · rw [hshape]
      simp [ravel]
  · refine ⟨_,rfl,by simp [shrink,stridedSlice,droppedShape],fun b hb i hi => ?_⟩
    simp [shrink,stridedSlice,expand,unitRange,wholeRange]

theorem qnnLstm_step (cell : LstmCell R node.inputSize node.hiddenSize) {x xt h c : Tensor R} {s : Nat}
    {state : Nat → Row R node.hiddenSize × Row R node.hiddenSize} (timeMajor : Bool)
    (direction : UniDirection) (directionIdx : Nat)
    (hx : IsRows node node.inputSize (fun b i => x.get [s,b,i]) xt)
    (hh : IsRows node node.hiddenSize (stateOf fun b => (state b).1) h)
    (hc : IsRows node node.hiddenSize (stateOf fun b => (state b).2) c) :
    ∃ y c' h', qnnLstm cell timeMajor direction directionIdx [xt,h,c] = [y,c',h'] ∧
      IsRows node node.hiddenSize (stateOf fun b =>
        (cell directionIdx (rowOf x (fun i => [s,b,i]) node.inputSize) (state b)).2) c' ∧
      IsRows node node.hiddenSize (stateOf fun b =>
        (cell directionIdx (rowOf x (fun i => [s,b,i]) node.inputSize) (state b)).1) h' := by
  have hnext {b : Nat} (hb : b < node.batchSize) :
      cell directionIdx (rowOf xt (fun i => [b,i]) node.inputSize)
        (rowOf h (fun i => [b,i]) node.hiddenSize,rowOf c (fun i => [b,i]) node.hiddenSize) =
      cell directionIdx (rowOf x (fun i => [s,b,i]) node.inputSize) (state b) := by
    have hinput : rowOf xt (fun i => [b,i]) node.inputSize =
        rowOf x (fun i => [s,b,i]) node.inputSize := rowOf_rows hx hb fun i hi => rfl
    have hrow : rowOf h (fun i => [b,i]) node.hiddenSize = (state b).1 :=
      rowOf_rows hh hb fun i hi => entry_of_lt hi
    have hrow' : rowOf c (fun i => [b,i]) node.hiddenSize = (state b).2 :=
      rowOf_rows hc hb fun i hi => entry_of_lt hi
    rw [hinput,hrow,hrow']
  have hcell : qnnLstm cell timeMajor direction directionIdx [xt,h,c] =
      qnnLstmCell cell directionIdx node.batchSize xt h c := by
    rw [qnnLstm,hx.shape]
  refine ⟨_,_,_,hcell,⟨rfl,fun b hb i hi => ?_⟩,⟨rfl,fun b hb i hi => ?_⟩⟩
  · exact congrArg (fun state : _ × _ => entry state.2 i) (hnext hb)
  · exact congrArg (fun state : _ × _ => entry state.1 i) (hnext hb)

theorem isSequence_pack (hpos : 0 < node.seqLength) {value : Nat → Nat → Nat → R}
    {steps : Nat → Tensor R} (h : ∀ s < node.seqLength, IsRows node node.hiddenSize (value s) (steps s)) :
    IsSequence node true node.hiddenSize value (pack 0 ((List.range node.seqLength).map steps)) := by
  obtain ⟨n,hn⟩ := Nat.exists_eq_succ_of_ne_zero (Nat.pos_iff_ne_zero.mp hpos)
  have hfirst : ((List.range node.seqLength).map steps).map Tensor.shape =
      (List.range node.seqLength).map fun _ => [node.batchSize,node.hiddenSize] := by
    rw [List.map_map]
    exact List.map_congr_left fun s hs => (h s (List.mem_range.mp hs)).shape
  refine ⟨?_,fun s hs b hb i hi => ?_⟩
  · simp only [pack,hfirst]
    simp [hn,List.range_succ_eq_map,timeStep]
  · refine Eq.trans ?_ ((h s hs).get b hb i hi)
    simp [pack,timeStep,hs]

end

section
variable {R : Type} [Zero R] {node : RnnNode} (cell : LstmCell R node.inputSize node.hiddenSize)
  (x : Tensor R) (start : Nat → Row R node.hiddenSize × Row R node.hiddenSize)
  (direction : UniDirection) (directionIdx : Nat)

abbrev lstmApply : QnnKind → List (Tensor R) → List (Tensor R) := QnnKind.apply (qnnLstm cell)

def lstmState (n b : Nat) : Row R node.hiddenSize × Row R node.hiddenSize :=
  along (cell directionIdx) direction.reversed node.seqLength
    (fun t => rowOf x (fun i => [t,b,i]) node.inputSize) (start b) n

def LstmWire.isCellInput : LstmWire → Bool
  | .cellInput _ _ => true
  | _ => false

theorem ne_cellInput {w : LstmWire} (h : w.isCellInput = false) (t : Nat) : w ≠ .cellInput direction t := by
  rintro rfl
  cases h

structure LstmHolds (env : LstmWire → Tensor R) (h c : LstmWire) (n : Nat) : Prop where
  h : IsRows node node.hiddenSize
    (stateOf fun b => (lstmState cell x start direction directionIdx n b).1) (env h)
  c : IsRows node node.hiddenSize
    (stateOf fun b => (lstmState cell x start direction directionIdx n b).2) (env c)

variable {cell x start direction directionIdx}

theorem lstmStep_run {env : LstmWire → Tensor R} {h c : LstmWire} {step : Nat}
    (hstep : step < node.seqLength) (hh : h.isCellInput = false) (hc : c.isCellInput = false)
    (hx : env .x = x) (hshape : x.shape = [node.seqLength,node.batchSize,node.inputSize])
    (hstate : LstmHolds cell x start direction directionIdx env h c step) :
    let t := timeOf direction.reversed node.seqLength step
    LstmHolds cell x start direction directionIdx
      (runCalls (lstmApply cell) (lstmStepCalls node direction directionIdx h c step) env)
      (.hiddenState direction t) (.cellState direction t) (step + 1) := by
  intro t
  have htime : t < node.seqLength := timeOf_lt hstep
  obtain ⟨xt,hslice,hrows⟩ := isRows_slice (qnnLstm cell) hshape htime
  obtain ⟨y,c',h',hcell,hc',hh'⟩ :=
    qnnLstm_step cell false direction directionIdx hrows hstate.h hstate.c
  let sliced := bindOutputs env [.cellInput direction t] [xt]
  have hkept {w : LstmWire} (hw : w.isCellInput = false) : sliced w = env w := by
    refine bindOutputs_of_notMem ?_ env [xt]
    rw [List.mem_singleton]
    exact ne_cellInput direction hw t
  have hinputs : [LstmWire.cellInput direction t,h,c].map sliced = [xt,env h,env c] := by
    rw [List.map_cons,List.map_cons,List.map_cons,List.map_nil,hkept hh,hkept hc]
    exact congrArg (· :: [env h,env c]) (bindOutputs_one env _ xt)
  have hrun : runCalls (lstmApply cell) (lstmStepCalls node direction directionIdx h c step) env =
      bindOutputs sliced [.allHidden direction t,.cellState direction t,.hiddenState direction t]
        [y,c',h'] := by
    rw [← hcell,← hinputs]
    refine runCalls_step _ ?_ _ _
    rw [List.map_singleton,hx]
    exact hslice
  have hnodup : [LstmWire.allHidden direction t,.cellState direction t,.hiddenState direction t].Nodup := by
    simp
  rw [hrun]
  refine ⟨?_,?_⟩
  · have hlast : (LstmWire.hiddenState direction t,h') ∈
        [LstmWire.allHidden direction t,.cellState direction t,.hiddenState direction t].zip
          [y,c',h'] := by simp
    rw [bindOutputs_of_mem hnodup hlast]
    exact hh'
  · have hsecond : (LstmWire.cellState direction t,c') ∈
        [LstmWire.allHidden direction t,.cellState direction t,.hiddenState direction t].zip
          [y,c',h'] := by simp
    rw [bindOutputs_of_mem hnodup hsecond]
    exact hc'

end

end QnnEp.Rnn
