import QnnEp.Rnn.Lstm

namespace QnnEp.Rnn
open List Recurrence Registry Tensors
variable {call : LstmCall} {w : LstmWire} {n : Nat} {state : LstmState} {direction : UniDirection}
  {calls : List LstmCall}

section
variable {R : Type} [Zero R] {node : RnnNode} {cell : LstmCell R node.inputSize node.hiddenSize}
  {x : Tensor R} {start : Nat → Row R node.hiddenSize × Row R node.hiddenSize}
  {direction : UniDirection} {directionIdx : Nat} {h c : LstmWire} {env : LstmWire → Tensor R}

theorem lstmUnroll_succ (n : Nat) :
    lstmUnroll node direction directionIdx h c (n + 1) =
      addLstmStep node direction directionIdx (lstmUnroll node direction directionIdx h c n) n := by
  rw [lstmUnroll,lstmUnroll,range_succ,foldl_append]
  rfl

theorem lstmStepCalls_outputs {step : Nat} (hcall : call ∈ lstmStepCalls node direction directionIdx h c step)
    (hw : w ∈ call.outputs) : let t := timeOf direction.reversed node.seqLength step
    w = .cellInput direction t ∨ w = .allHidden direction t ∨ w = .cellState direction t ∨
      w = .hiddenState direction t := by
  simp only [lstmStepCalls,mem_cons,not_mem_nil,or_false] at hcall
  rcases hcall with rfl | rfl
  · exact .inl (mem_singleton.mp hw)
  · simp only [mem_cons,not_mem_nil,or_false] at hw
    exact .inr hw

def LstmWire.tag : LstmWire → Option UniDirection
  | .zeros direction _ => some direction
  | .sliced direction _ => some direction
  | .cellInput direction _ => some direction
  | .allHidden direction _ => some direction
  | .cellState direction _ => some direction
  | .hiddenState direction _ => some direction
  | .packed direction => some direction
  | .multiStep direction _ => some direction
  | .unsqueezed direction _ => some direction
  | _ => none

theorem lstmUnroll_tag (hcall : call ∈ (lstmUnroll node direction directionIdx h c n).calls)
    (hw : w ∈ call.outputs) : w.tag = some direction := by
  induction n with
  | zero => cases hcall
  | succ n ih =>
    rw [lstmUnroll_succ] at hcall
    rcases mem_append.mp hcall with hcall | hcall
    · exact ih hcall
    · rcases lstmStepCalls_outputs hcall hw with rfl | rfl | rfl | rfl
      all_goals rfl

structure LstmUnrolled (cell : LstmCell R node.inputSize node.hiddenSize) (x : Tensor R)
    (start : Nat → Row R node.hiddenSize × Row R node.hiddenSize) (direction : UniDirection)
    (directionIdx : Nat) (env : LstmWire → Tensor R) (acc : LstmUnroll) (n : Nat) : Prop where
  h : acc.h.isCellInput = false
  c : acc.c.isCellInput = false
  state : LstmHolds cell x start direction directionIdx env acc.h acc.c n
  steps : ∀ m < n, IsRows node node.hiddenSize
    (stateOf fun b => (lstmState cell x start direction directionIdx (m + 1) b).1)
    (env (.hiddenState direction (timeOf direction.reversed node.seqLength m)))

theorem lstmUnroll_run (hh : h.isCellInput = false) (hc : c.isCellInput = false) (hx : env .x = x)
    (hshape : x.shape = [node.seqLength,node.batchSize,node.inputSize])
    (hstate : LstmHolds cell x start direction directionIdx env h c 0) (hn : n ≤ node.seqLength) :
    LstmUnrolled cell x start direction directionIdx
      (runCalls (lstmApply cell) (lstmUnroll node direction directionIdx h c n).calls env)
      (lstmUnroll node direction directionIdx h c n) n := by
  induction n with
  | zero => exact ⟨hh,hc,hstate,fun m hm => absurd hm (Nat.not_lt_zero m)⟩
  | succ n ih =>
    obtain ⟨hh',hc',hcurrent,hsteps⟩ := ih (Nat.le_of_succ_le hn)
    have hkept : runCalls (lstmApply cell) (lstmUnroll node direction directionIdx h c n).calls env .x =
        x := by
      refine (runCalls_of_notMem _ (fun call hcall hmem => ?_) env).trans hx
      cases lstmUnroll_tag hcall hmem
    have hnext := lstmStep_run hn hh' hc' hkept hshape hcurrent
    rw [lstmUnroll_succ]
    refine ⟨rfl,rfl,?_,fun m hm => ?_⟩
    · simp only [addLstmStep,runCalls_append]
      exact hnext
    · simp only [addLstmStep,runCalls_append]
      rcases Nat.lt_succ_iff_lt_or_eq.mp hm with hm | rfl
      · rw [runCalls_of_notMem]
        · exact hsteps m hm
        · intro call hcall hmem
          rcases lstmStepCalls_outputs hcall hmem with hw | hw | hw | hw
          · cases hw
          · cases hw
          · cases hw
          · have htime := LstmWire.hiddenState.inj hw
            exact absurd (timeOf_injective (by omega) (by omega) htime.2) (by omega)
      · exact hnext.h

theorem lstmUnroll_filled (n : Nat) :
    (lstmUnroll node direction directionIdx h c n).allHiddenStateNames =
      filled direction.reversed node.seqLength (LstmWire.hiddenState direction) .unnamed n := by
  induction n with
  | zero => rfl
  | succ n ih => rw [lstmUnroll_succ,filled_succ,addLstmStep,ih]

theorem lstmUnroll_names :
    (lstmUnroll node direction directionIdx h c node.seqLength).allHiddenStateNames =
      (List.range node.seqLength).map (LstmWire.hiddenState direction) :=
  (lstmUnroll_filled _).trans (filled_all _ _ _ _)

structure LstmCellsHold (cell : LstmCell R node.inputSize node.hiddenSize) (x : Tensor R)
    (start : Nat → Row R node.hiddenSize × Row R node.hiddenSize) (direction : UniDirection)
    (directionIdx : Nat) (env : LstmWire → Tensor R) (names : List LstmWire) : Prop where
  y : IsSequence node true node.hiddenSize (fun t => stateOf fun b =>
    (lstmState cell x start direction directionIdx
      (timeOf direction.reversed node.seqLength t + 1) b).1) (env (names.getD 0 .unnamed))
  h : IsRows node node.hiddenSize (stateOf fun b =>
    (lstmState cell x start direction directionIdx node.seqLength b).1) (env (names.getD 1 .unnamed))
  c : IsRows node node.hiddenSize (stateOf fun b =>
    (lstmState cell x start direction directionIdx node.seqLength b).2) (env (names.getD 2 .unnamed))

theorem lstmUnrolled_cells (hpos : 0 < node.seqLength) (hh : h.isCellInput = false) (hc : c.isCellInput = false)
    (hx : env .x = x) (hshape : x.shape = [node.seqLength,node.batchSize,node.inputSize])
    (hstate : LstmHolds cell x start direction directionIdx env h c 0) :
    let acc := lstmUnroll node direction directionIdx h c node.seqLength
    LstmCellsHold cell x start direction directionIdx
      (runCalls (lstmApply cell)
        (acc.calls ++ [⟨.pack 0,acc.allHiddenStateNames,[.packed direction]⟩]) env)
      [.packed direction,acc.h,acc.c] := by
  intro acc
  obtain ⟨_,_,hlast,hsteps⟩ := lstmUnroll_run hh hc hx hshape hstate (Nat.le_refl node.seqLength)
  obtain ⟨n,hn⟩ := Nat.exists_eq_succ_of_ne_zero (Nat.pos_iff_ne_zero.mp hpos)
  let env₁ := runCalls (lstmApply cell) acc.calls env
  have hkept {w : LstmWire} (hw : w ≠ .packed direction) :
      runCalls (lstmApply cell) [⟨.pack 0,acc.allHiddenStateNames,[.packed direction]⟩] env₁ w =
        env₁ w := bindOutputs_of_notMem (by rwa [mem_singleton]) _ _
  have hlasts : acc.h ≠ .packed direction ∧ acc.c ≠ .packed direction := by
    simp only [acc,hn,lstmUnroll_succ,addLstmStep]
    simp
  rw [runCalls_append]
  refine ⟨?_,?_,?_⟩
  · rw [getD_cons_zero,runCalls_one,lstmUnroll_names,map_map]
    refine isSequence_pack hpos fun t ht => ?_
    have hstep := hsteps (timeOf direction.reversed node.seqLength t) (timeOf_lt ht)
    rw [timeOf_timeOf ht] at hstep
    exact hstep
  · exact hkept hlasts.1 ▸ hlast.h
  · exact hkept hlasts.2 ▸ hlast.c

theorem lstmMulti_cells (hx : env .x = x)
    (hshape : x.shape = [node.seqLength,node.batchSize,node.inputSize])
    (hstate : LstmHolds cell x start direction directionIdx env h c 0) :
    LstmCellsHold cell x start direction directionIdx
      (runCalls (lstmApply cell) [⟨.recurrent true direction directionIdx,[.x,h,c],
        [.multiStep direction 0,.multiStep direction 1,.multiStep direction 2]⟩] env)
      [.multiStep direction 0,.multiStep direction 2,.multiStep direction 1] := by
  have hstart {b : Nat} (hb : b < node.batchSize) :
      (rowOf (env h) (fun i => [b,i]) node.hiddenSize,rowOf (env c) (fun i => [b,i]) node.hiddenSize) =
        start b := by
    have hrow : rowOf (env h) (fun i => [b,i]) node.hiddenSize = (start b).1 :=
      rowOf_rows hstate.h hb fun i hi => entry_of_lt hi
    have hrow' : rowOf (env c) (fun i => [b,i]) node.hiddenSize = (start b).2 :=
      rowOf_rows hstate.c hb fun i hi => entry_of_lt hi
    rw [hrow,hrow']
  have happly : lstmApply cell (.recurrent true direction directionIdx) ([.x,h,c].map env) =
      qnnLstmSequence cell true direction directionIdx node.seqLength node.batchSize x (env h) (env c) := by
    rw [map_cons,map_cons,map_singleton,hx]
    exact (show qnnLstm cell true direction directionIdx [x,env h,env c] = _ by rw [qnnLstm,hshape]; rfl)
  have hnodup : [LstmWire.multiStep direction 0,.multiStep direction 1,.multiStep direction 2].Nodup := by
    simp
  have hstate' {b : Nat} (hb : b < node.batchSize) (n : Nat) :
      along (cell directionIdx) direction.reversed node.seqLength
        (fun t => rowOf x (timeStep true t b) node.inputSize)
        (rowOf (env h) (fun i => [b,i]) node.hiddenSize,
          rowOf (env c) (fun i => [b,i]) node.hiddenSize) n =
      lstmState cell x start direction directionIdx n b := by
    rw [hstart hb]
    rfl
  rw [runCalls_step (lstmApply cell) happly,runCalls_nil]
  refine ⟨?_,?_,?_⟩
  · rw [getD_cons_zero,bindOutputs_of_mem hnodup (mem_of_getElem? (i := 0) rfl)]
    exact ⟨rfl,fun t ht b hb i hi => congrArg (fun state : _ × _ => entry state.1 i) (hstate' hb _)⟩
  · rw [getD_cons_succ,getD_cons_zero,
      bindOutputs_of_mem hnodup (mem_of_getElem? (i := 2) rfl)]
    exact ⟨rfl,fun b hb i hi => congrArg (fun state : _ × _ => entry state.1 i) (hstate' hb _)⟩
  · rw [getD_cons_succ,getD_cons_succ,getD_cons_zero,
      bindOutputs_of_mem hnodup (mem_of_getElem? (i := 1) rfl)]
    exact ⟨rfl,fun b hb i hi => congrArg (fun state : _ × _ => entry state.2 i) (hstate' hb _)⟩

theorem lstmCells_run (hpos : 0 < node.seqLength) (hh : h.isCellInput = false) (hc : c.isCellInput = false)
    (hx : env .x = x) (hshape : x.shape = [node.seqLength,node.batchSize,node.inputSize])
    (hstate : LstmHolds cell x start direction directionIdx env h c 0) :
    LstmCellsHold cell x start direction directionIdx
      (runCalls (lstmApply cell) (lstmCells node direction directionIdx h c).1 env)
      (lstmCells node direction directionIdx h c).2 := by
  unfold lstmCells
  split
  · exact lstmMulti_cells hx hshape hstate
  · exact lstmUnrolled_cells hpos hh hc hx hshape hstate

end

section
variable {R : Type} [Zero R] {node : RnnNode} {cell : LstmCell R node.inputSize node.hiddenSize}
  {x : Tensor R} {initial : LstmState → Tensor R} {numDirections : Nat} {direction : UniDirection}
  {isBidirection : Bool} {env : LstmWire → Tensor R}

structure LstmTensors (node : RnnNode) (numDirections : Nat) (x : Tensor R)
    (initial : LstmState → Tensor R) (env : LstmWire → Tensor R) : Prop where
  heldX : env .x = x
  xShape : x.shape = [node.seqLength,node.batchSize,node.inputSize]
  held : ∀ state, env (.initial state) = initial state
  shape : ∀ state, hasInitial node state = true →
    (initial state).shape = [numDirections,node.batchSize,node.hiddenSize]

def lstmStart (node : RnnNode) (initial : LstmState → Tensor R) (k b : Nat) :
    Row R node.hiddenSize × Row R node.hiddenSize :=
  (initialRow node.hiddenSize node.hasInitialH (initial .h) k b,
    initialRow node.hiddenSize node.hasInitialC (initial .c) k b)

theorem lstmInitial_outputs (hcall : call ∈ (lstmInitial node numDirections direction state).1) :
    call.outputs = [(lstmInitial node numDirections direction state).2] := by
  unfold lstmInitial at hcall ⊢
  dsimp only at hcall ⊢
  split at hcall
  · next hpresent =>
    rw [if_pos hpresent,mem_singleton.mp hcall]
  · next hpresent =>
    rw [if_neg hpresent,mem_singleton.mp hcall]

theorem lstmInitial_wire (node : RnnNode) (numDirections : Nat) (direction : UniDirection)
    (state : LstmState) :
    (lstmInitial node numDirections direction state).2 = .sliced direction state ∨
      (lstmInitial node numDirections direction state).2 = .zeros direction state := by
  unfold lstmInitial
  dsimp only
  split
  · exact .inl rfl
  · exact .inr rfl

theorem lstmInitial_isCellInput (state : LstmState) :
    (lstmInitial node numDirections direction state).2.isCellInput = false := by
  rcases lstmInitial_wire node numDirections direction state with h | h
  · rw [h]
    rfl
  · rw [h]
    rfl

theorem lstmInitial_kept (hw : w ≠ .sliced direction state ∧ w ≠ .zeros direction state) :
    runCalls (lstmApply cell) (lstmInitial node numDirections direction state).1 env w = env w := by
  refine runCalls_of_notMem _ (fun call hcall hmem => ?_) env
  rw [lstmInitial_outputs hcall,mem_singleton] at hmem
  rcases lstmInitial_wire node numDirections direction state with h | h
  · exact hw.1 (hmem.trans h)
  · exact hw.2 (hmem.trans h)

theorem lstmInitial_run {t : Tensor R} (ht : env (.initial state) = t)
    (hshape : hasInitial node state = true → t.shape = [numDirections,node.batchSize,node.hiddenSize])
    (hidx : directionIdx numDirections direction < numDirections) :
    IsRows node node.hiddenSize
      (stateOf (initialRow node.hiddenSize (hasInitial node state) t
        (directionIdx numDirections direction)))
      (runCalls (lstmApply cell) (lstmInitial node numDirections direction state).1 env
        (lstmInitial node numDirections direction state).2) := by
  unfold lstmInitial
  dsimp only
  cases hpresent : hasInitial node state with
  | false =>
    rw [if_neg (by decide)]
    rw [runCalls_one]
    refine ⟨rfl,fun b hb i hi => ?_⟩
    rw [stateOf,entry_of_lt hi]
    rfl
  | true =>
    rw [if_pos rfl]
    obtain ⟨u,happly,hrows⟩ := isRows_slice (qnnLstm cell) (hshape hpresent) hidx
    rw [runCalls_step (lstmApply cell) (show _ = [u] by rw [map_singleton,ht]; exact happly),
      runCalls_nil,bindOutputs_one]
    refine ⟨hrows.shape,fun b hb i hi => ?_⟩
    rw [hrows.get b hb i hi,stateOf,entry_of_lt hi]
    rfl

def lstmOutputsKept (names : List LstmWire) : Prop :=
  ∀ w ∈ names, (∀ output, w ≠ .output output) ∧ ∀ other output, w ≠ .unsqueezed other output

theorem lstmCells_kept (hpos : 0 < node.seqLength) (direction : UniDirection) (directionIdx : Nat)
    (h c : LstmWire) :
    ∃ y last lastC, (lstmCells node direction directionIdx h c).2 = [y,last,lastC] ∧
      lstmOutputsKept [y,last,lastC] := by
  unfold lstmCells
  split
  · exact ⟨_,_,_,rfl,by simp [lstmOutputsKept]⟩
  · obtain ⟨n,hn⟩ := Nat.exists_eq_succ_of_ne_zero (Nat.pos_iff_ne_zero.mp hpos)
    refine ⟨_,_,_,rfl,?_⟩
    simp [lstmOutputsKept,hn,lstmUnroll_succ,addLstmStep]

theorem lstmReshape_outputs {names : List LstmWire} {output : Nat}
    (hcall : call ∈ lstmReshape node direction isBidirection names output) :
    call.outputs = [lstmOutName direction isBidirection output] := by
  unfold lstmReshape at hcall
  split at hcall
  · rw [mem_singleton.mp hcall]
  · cases hcall

theorem lstmReshape_run {names : List LstmWire} {output : Nat} (hpresent : hasOutput node output = true) :
    runCalls (lstmApply cell) (lstmReshape node direction isBidirection names output) env
      (lstmOutName direction isBidirection output) =
      (env (names.getD output .unnamed)).reshape (outputShape node 1 output) := by
  unfold lstmReshape
  rw [if_pos hpresent]
  exact bindOutputs_one env _ _

theorem lstmReshape_kept {names : List LstmWire} {output : Nat}
    (hw : w ≠ lstmOutName direction isBidirection output) :
    runCalls (lstmApply cell) (lstmReshape node direction isBidirection names output) env w = env w := by
  refine runCalls_of_notMem _ (fun call hcall hmem => ?_) env
  rw [lstmReshape_outputs hcall,mem_singleton] at hmem
  exact hw hmem

theorem lstmInitial_holds (hin : LstmTensors node numDirections x initial env)
    (hidx : directionIdx numDirections direction < numDirections) :
    let h := lstmInitial node numDirections direction .h
    let c := lstmInitial node numDirections direction .c
    LstmHolds cell x (lstmStart node initial (directionIdx numDirections direction)) direction
      (directionIdx numDirections direction)
      (runCalls (lstmApply cell) c.1 (runCalls (lstmApply cell) h.1 env)) h.2 c.2 0 := by
  intro h c
  have hwire : h.2 ≠ .sliced direction .c ∧ h.2 ≠ .zeros direction .c := by
    rcases lstmInitial_wire node numDirections direction .h with hw | hw
    · simp [h,hw]
    · simp [h,hw]
  have hheldC : runCalls (lstmApply cell) h.1 env (.initial .c) = initial .c :=
    (lstmInitial_kept (by simp)).trans (hin.held .c)
  refine ⟨?_,?_⟩
  · rw [lstmInitial_kept hwire]
    exact lstmInitial_run (hin.held .h) (hin.shape .h) hidx
  · exact lstmInitial_run hheldC (hin.shape .c) hidx

structure UniLstmHolds (cell : LstmCell R node.inputSize node.hiddenSize) (x : Tensor R)
    (initial : LstmState → Tensor R) (numDirections : Nat) (direction : UniDirection)
    (isBidirection : Bool) (env : LstmWire → Tensor R) : Prop where
  y : node.hasY = true → IsY node (fun t => stateOf fun b =>
    (lstmState cell x (lstmStart node initial (directionIdx numDirections direction)) direction
      (directionIdx numDirections direction)
      (timeOf direction.reversed node.seqLength t + 1) b).1) (env (lstmOutName direction isBidirection 0))
  yh : node.hasYh = true → IsStep node true node.hiddenSize (stateOf fun b =>
    (lstmState cell x (lstmStart node initial (directionIdx numDirections direction)) direction
      (directionIdx numDirections direction) node.seqLength b).1)
    (env (lstmOutName direction isBidirection 1))
  yc : node.hasYc = true → IsStep node true node.hiddenSize (stateOf fun b =>
    (lstmState cell x (lstmStart node initial (directionIdx numDirections direction)) direction
      (directionIdx numDirections direction) node.seqLength b).2)
    (env (lstmOutName direction isBidirection 2))

theorem lstmOutName_injective {output other : Nat} (hne : output ≠ other) :
    lstmOutName direction isBidirection output ≠ lstmOutName direction isBidirection other := by
  unfold lstmOutName
  cases isBidirection <;> simpa using hne

theorem uniLstm_run (hpos : 0 < node.seqLength) (hin : LstmTensors node numDirections x initial env)
    (hidx : directionIdx numDirections direction < numDirections) :
    UniLstmHolds cell x initial numDirections direction isBidirection
      (runCalls (lstmApply cell) (uniLstm node numDirections direction isBidirection) env) := by
  let h := lstmInitial node numDirections direction .h
  let c := lstmInitial node numDirections direction .c
  let env₁ := runCalls (lstmApply cell) c.1 (runCalls (lstmApply cell) h.1 env)
  have hx : env₁ .x = x :=
    (lstmInitial_kept (by simp)).trans ((lstmInitial_kept (by simp)).trans hin.heldX)
  have hstate : LstmHolds cell x (lstmStart node initial (directionIdx numDirections direction))
      direction (directionIdx numDirections direction) env₁ h.2 c.2 0 := lstmInitial_holds hin hidx
  have hcells := lstmCells_run hpos (lstmInitial_isCellInput .h) (lstmInitial_isCellInput .c) hx
    hin.xShape hstate
  obtain ⟨y,last,lastC,hnames,hkept⟩ := lstmCells_kept hpos direction
    (directionIdx numDirections direction) h.2 c.2
  have hout {w : LstmWire} (hw : w ∈ [y,last,lastC]) (output : Nat) :
      w ≠ lstmOutName direction isBidirection output := by
    unfold lstmOutName
    split
    · exact (hkept w hw).2 direction output
    · exact (hkept w hw).1 output
  rw [hnames] at hcells
  unfold uniLstm
  dsimp only
  rw [runCalls_append,runCalls_append,runCalls_append,runCalls_append,runCalls_append,hnames]
  refine ⟨fun hpresent => ?_,fun hpresent => ?_,fun hpresent => ?_⟩
  · rw [lstmReshape_kept (lstmOutName_injective (by decide)),
      lstmReshape_kept (lstmOutName_injective (by decide)),
      lstmReshape_run (show hasOutput node 0 = true from hpresent)]
    exact hcells.y.unsqueeze
  · rw [lstmReshape_kept (lstmOutName_injective (by decide)),
      lstmReshape_run (show hasOutput node 1 = true from hpresent),
      lstmReshape_kept (hout (by simp) 0)]
    exact hcells.h.unsqueeze
  · rw [lstmReshape_run (show hasOutput node 2 = true from hpresent),lstmReshape_kept (hout (by simp) 1),
      lstmReshape_kept (hout (by simp) 0)]
    exact hcells.c.unsqueeze

end

section
variable {node : RnnNode} {numDirections : Nat} {direction : UniDirection}

theorem lstmCells_tag {directionIdx : Nat} {h c : LstmWire}
    (hcall : call ∈ (lstmCells node direction directionIdx h c).1) (hw : w ∈ call.outputs) :
    w.tag = some direction := by
  unfold lstmCells at hcall
  split at hcall
  · obtain rfl := mem_singleton.mp hcall
    simp only [mem_cons,not_mem_nil,or_false] at hw
    rcases hw with rfl | rfl | rfl
    all_goals rfl
  · rcases mem_append.mp hcall with hcall | hcall
    · exact lstmUnroll_tag hcall hw
    · obtain rfl := mem_singleton.mp hcall
      exact mem_singleton.mp hw ▸ rfl

theorem lstmInitial_tag (hcall : call ∈ (lstmInitial node numDirections direction state).1)
    (hw : w ∈ call.outputs) : w.tag = some direction := by
  rw [lstmInitial_outputs hcall,mem_singleton] at hw
  rcases lstmInitial_wire node numDirections direction state with h | h
  · rw [hw,h]
    rfl
  · rw [hw,h]
    rfl

theorem lstmReshape_tag {names : List LstmWire} {output : Nat}
    (hcall : call ∈ lstmReshape node direction true names output) (hw : w ∈ call.outputs) :
    w.tag = some direction := by
  rw [lstmReshape_outputs hcall,mem_singleton] at hw
  exact hw ▸ rfl

theorem uniLstm_tag (hcall : call ∈ uniLstm node numDirections direction true) (hw : w ∈ call.outputs) :
    w.tag = some direction := by
  simp only [uniLstm,mem_append] at hcall
  rcases hcall with hcall | hcall | hcall | hcall | hcall | hcall
  · exact lstmInitial_tag hcall hw
  · exact lstmInitial_tag hcall hw
  · exact lstmCells_tag hcall hw
  · exact lstmReshape_tag hcall hw
  · exact lstmReshape_tag hcall hw
  · exact lstmReshape_tag hcall hw

end

section
variable {R : Type} [Zero R] {node : RnnNode} {cell : LstmCell R node.inputSize node.hiddenSize}
  {x : Tensor R} {initial : LstmState → Tensor R} {env : LstmWire → Tensor R}

theorem uniLstm_kept {numDirections : Nat} (hw : w.tag ≠ some direction) :
    runCalls (lstmApply cell) (uniLstm node numDirections direction true) env w = env w :=
  runCalls_of_notMem _ (fun _ hcall hmem => hw (uniLstm_tag hcall hmem)) env

theorem LstmTensors.after {numDirections : Nat} (direction : UniDirection)
    (hin : LstmTensors node numDirections x initial env) :
    LstmTensors node numDirections x initial
      (runCalls (lstmApply cell) (uniLstm node numDirections direction true) env) :=
  ⟨(uniLstm_kept (by simp [LstmWire.tag])).trans hin.heldX,hin.xShape,
    fun state => (uniLstm_kept (by simp [LstmWire.tag])).trans (hin.held state),hin.shape⟩

structure LstmFull (cell : LstmCell R node.inputSize node.hiddenSize) (direction : Direction)
    (x : Tensor R) (initial : LstmState → Tensor R) (env : LstmWire → Tensor R) : Prop where
  y : node.hasY = true → IsFullY node direction Prod.fst
    (onnxState cell direction x (lstmStart node initial) node.seqLength) (env (.output 0))
  yh : node.hasYh = true → IsFullLast node direction Prod.fst
    (onnxState cell direction x (lstmStart node initial) node.seqLength) (env (.output 1))
  yc : node.hasYc = true → IsFullLast node direction Prod.snd
    (onnxState cell direction x (lstmStart node initial) node.seqLength) (env (.output 2))

theorem lstm_unidirectional (hpos : 0 < node.seqLength) {direction : Direction}
    (hnumber : direction.numDirections = 1)
    (hreversed : ∀ k, direction.reversedAt k = (uniDirection direction).reversed)
    (hin : LstmTensors node 1 x initial env) :
    LstmFull cell direction x initial (runCalls (lstmApply cell)
      (uniLstm node 1 (uniDirection direction) false) env) := by
  have hidx : directionIdx 1 (uniDirection direction) = 0 := by simp [directionIdx]
  have hstate (n b : Nat) : lstmState cell x
      (lstmStart node initial (directionIdx 1 (uniDirection direction))) (uniDirection direction)
      (directionIdx 1 (uniDirection direction)) n b =
      onnxState cell direction x (lstmStart node initial) node.seqLength 0 b n := by
    rw [hidx,onnxState,hreversed]
    rfl
  have huni : UniLstmHolds cell x initial 1 (uniDirection direction) false
      (runCalls (lstmApply cell) (uniLstm node 1 (uniDirection direction) false) env) :=
    uniLstm_run hpos hin (by rw [hidx]; decide)
  refine ⟨fun hpresent => ?_,fun hpresent => ?_,fun hpresent => ?_⟩
  · have hy := huni.y hpresent
    simp only [hstate,← hreversed 0] at hy
    exact isFullY_single hnumber hy
  · have hyh := huni.yh hpresent
    simp only [hstate] at hyh
    exact isFullLast_single hnumber hyh
  · have hyc := huni.yc hpresent
    simp only [hstate] at hyc
    exact isFullLast_single hnumber hyc

theorem lstmConcatDirections_outputs {output axis : Nat}
    (hcall : call ∈ lstmConcatDirections node output axis) : call.outputs = [.output output] := by
  unfold lstmConcatDirections at hcall
  split at hcall
  · rw [mem_singleton.mp hcall]
  · cases hcall

theorem lstmConcatDirections_kept {output axis : Nat} (hw : w ≠ .output output) :
    runCalls (lstmApply cell) (lstmConcatDirections node output axis) env w = env w := by
  refine runCalls_of_notMem _ (fun call hcall hmem => ?_) env
  rw [lstmConcatDirections_outputs hcall,mem_singleton] at hmem
  exact hw hmem

theorem lstmConcatDirections_run {output axis : Nat} (hpresent : hasOutput node output = true) :
    runCalls (lstmApply cell) (lstmConcatDirections node output axis) env (.output output) =
      concat axis [env (.unsqueezed .forward output),env (.unsqueezed .reverse output)] := by
  unfold lstmConcatDirections
  rw [if_pos hpresent]
  exact bindOutputs_one env _ _

theorem lstm_bidirectional (hpos : 0 < node.seqLength) (hin : LstmTensors node 2 x initial env) :
    LstmFull cell .bidirectional x initial (runCalls (lstmApply cell)
      (uniLstm node 2 .forward true ++ (uniLstm node 2 .reverse true ++
        (lstmConcatDirections node 0 1 ++ (lstmConcatDirections node 1 0 ++
          lstmConcatDirections node 2 0)))) env) := by
  let env₁ := runCalls (lstmApply cell) (uniLstm node 2 .forward true) env
  let env₂ := runCalls (lstmApply cell) (uniLstm node 2 .reverse true) env₁
  have hforward : UniLstmHolds cell x initial 2 .forward true env₁ :=
    uniLstm_run hpos hin (by decide)
  have hreverse : UniLstmHolds cell x initial 2 .reverse true env₂ :=
    uniLstm_run hpos (hin.after .forward) (by decide)
  have hkept (output : Nat) : env₂ (.unsqueezed .forward output) = env₁ (.unsqueezed .forward output) :=
    uniLstm_kept (by simp [LstmWire.tag])
  have hjoin (output : Nat) {axis : Nat} (hpresent : hasOutput node output = true) {env₃ : LstmWire → Tensor R}
      (hsame : ∀ direction, env₃ (.unsqueezed direction output) = env₂ (.unsqueezed direction output)) :
      runCalls (lstmApply cell) (lstmConcatDirections node output axis) env₃ (.output output) =
        concat axis [env₁ (.unsqueezed .forward output),env₂ (.unsqueezed .reverse output)] := by
    rw [lstmConcatDirections_run hpresent,hsame,hsame,hkept]
  rw [runCalls_append,runCalls_append,runCalls_append,runCalls_append]
  refine ⟨fun hpresent => ?_,fun hpresent => ?_,fun hpresent => ?_⟩
  · rw [lstmConcatDirections_kept (by simp),lstmConcatDirections_kept (by simp),
      hjoin 0 hpresent fun _ => rfl]
    exact isFullY_concat (hforward.y hpresent) (hreverse.y hpresent)
  · rw [lstmConcatDirections_kept (by simp),
      hjoin 1 hpresent fun _ => lstmConcatDirections_kept (by simp)]
    exact isFullLast_concat (hforward.yh hpresent) (hreverse.yh hpresent)
  · rw [hjoin 2 hpresent fun _ =>
      (lstmConcatDirections_kept (by simp)).trans (lstmConcatDirections_kept (by simp))]
    exact isFullLast_concat (hforward.yc hpresent) (hreverse.yc hpresent)

theorem addUnidirectionLSTM_ok {numDirections : Nat} {isBidirection : Bool}
    (h : addUnidirectionLSTM node numDirections direction isBidirection = .ok calls) :
    calls = uniLstm node numDirections direction isBidirection := by
  obtain ⟨_,_,h⟩ := bind_ok h
  cases h
  rfl

theorem lstm_full (hpos : 0 < node.seqLength) (hcalls : addLstmToModelBuilder node = .ok calls)
    {direction : Direction} (hdirection : validateDirection node = .ok direction)
    (hin : LstmTensors node direction.numDirections x initial env) :
    LstmFull cell direction x initial (runCalls (lstmApply cell) calls env) := by
  obtain ⟨supported,hsupported,hcalls⟩ := bind_ok hcalls
  obtain rfl : direction = supported := direction_of_isOpSupported hsupported hdirection
  cases direction with
  | forward | reverse =>
    obtain rfl := addUnidirectionLSTM_ok hcalls
    exact lstm_unidirectional hpos rfl (fun _ => rfl) hin
  | bidirectional =>
    obtain ⟨forward,hforward,hcalls⟩ := bind_ok hcalls
    obtain ⟨reverse,hreverse,hcalls⟩ := bind_ok hcalls
    obtain rfl := addUnidirectionLSTM_ok hforward
    obtain rfl := addUnidirectionLSTM_ok hreverse
    cases hcalls
    exact lstm_bidirectional hpos hin

end

end QnnEp.Rnn
