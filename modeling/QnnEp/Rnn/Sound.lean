import QnnEp.Rnn.GruOutputs
import QnnEp.Rnn.LstmSound

namespace QnnEp.Rnn
open Recurrence Registry Status Tensors

section
variable {R : Type} [Zero R] {node : RnnNode}

structure GruMatches (cell : GruCell R node.inputSize node.hiddenSize) (direction : Direction)
    (x h : Tensor R) (env : GruWire → Tensor R) : Prop where
  y : node.hasY = true → (env (.output 0)).Same (onnxY node direction node.hiddenSize id
    (onnxState cell direction x (initialRow node.hiddenSize node.hasInitialH h)))
  yh : node.hasYh = true → (env (.output 1)).Same (onnxLast node direction node.hiddenSize id
    (onnxState cell direction x (initialRow node.hiddenSize node.hasInitialH h)))

structure LstmMatches (cell : LstmCell R node.inputSize node.hiddenSize) (direction : Direction)
    (x : Tensor R) (initial : LstmState → Tensor R) (env : LstmWire → Tensor R) : Prop where
  y : node.hasY = true → (env (.output 0)).Same (onnxY node direction node.hiddenSize Prod.fst
    (onnxState cell direction x (lstmStart node initial)))
  yh : node.hasYh = true → (env (.output 1)).Same (onnxLast node direction node.hiddenSize Prod.fst
    (onnxState cell direction x (lstmStart node initial)))
  yc : node.hasYc = true → (env (.output 2)).Same (onnxLast node direction node.hiddenSize Prod.snd
    (onnxState cell direction x (lstmStart node initial)))

variable (R node)

def GruComputes (direction : Direction) (calls : List GruCall) : Prop :=
  ∀ (cell : GruCell R node.inputSize node.hiddenSize) (x h : Tensor R) (env : GruWire → Tensor R),
    GruTensors node direction.numDirections x h env →
      GruMatches cell direction x h (runCalls (gruApply cell) calls env)

def LstmComputes (direction : Direction) (calls : List LstmCall) : Prop :=
  ∀ (cell : LstmCell R node.inputSize node.hiddenSize) (x : Tensor R)
    (initial : LstmState → Tensor R) (env : LstmWire → Tensor R),
    LstmTensors node direction.numDirections x initial env →
      LstmMatches cell direction x initial (runCalls (lstmApply cell) calls env)

end

section
variable {R : Type} [Zero R] {node : RnnNode} {σ : Type} {direction : Direction}
  {hidden : σ → Row R node.hiddenSize} {state : Nat → Nat → Nat → Nat → σ} {t : Tensor R}

def FullLengths (node : RnnNode) : Prop := ∀ b < node.batchSize, onnxLength node b = node.seqLength

theorem IsFullY.same (h : IsFullY node direction hidden (state node.seqLength) t)
    (hlengths : FullLengths node) : t.Same (onnxY node direction node.hiddenSize hidden state) := by
  refine ⟨h.shape,fun idx hidx => ?_⟩
  obtain ⟨s,k,b,i,rfl,hs,hk,hb,hi⟩ := inBounds_four hidx
  have hget : (onnxY node direction node.hiddenSize hidden state).get [s,k,b,i] =
      if s < onnxLength node b then entry (hidden (state (onnxLength node b) k b
        (timeOf (direction.reversedAt k) (onnxLength node b) s + 1))) i else 0 := rfl
  rw [hget,hlengths b hb,if_pos hs]
  exact h.get s hs k hk b hb i hi

theorem IsFullLast.same (h : IsFullLast node direction hidden (state node.seqLength) t)
    (hlengths : FullLengths node) :
    t.Same (onnxLast node direction node.hiddenSize hidden state) := by
  refine ⟨h.shape,fun idx hidx => ?_⟩
  obtain ⟨k,b,i,rfl,hk,hb,hi⟩ := inBounds_three hidx
  have hget : (onnxLast node direction node.hiddenSize hidden state).get [k,b,i] =
      entry (hidden (state (onnxLength node b) k b (onnxLength node b))) i := rfl
  rw [hget,hlengths b hb]
  exact h.get k hk b hb i hi

theorem GruFull.computes {cell : GruCell R node.inputSize node.hiddenSize} {x h : Tensor R}
    {env : GruWire → Tensor R} (hfull : GruFull cell direction x h env)
    (hlengths : FullLengths node) : GruMatches cell direction x h env :=
  ⟨fun hpresent => (hfull.y hpresent).same hlengths,fun hpresent => (hfull.yh hpresent).same hlengths⟩

theorem LstmFull.computes {cell : LstmCell R node.inputSize node.hiddenSize} {x : Tensor R}
    {initial : LstmState → Tensor R} {env : LstmWire → Tensor R}
    (hfull : LstmFull cell direction x initial env) (hlengths : FullLengths node) :
    LstmMatches cell direction x initial env :=
  ⟨fun hpresent => (hfull.y hpresent).same hlengths,fun hpresent => (hfull.yh hpresent).same hlengths,
    fun hpresent => (hfull.yc hpresent).same hlengths⟩

theorem unrolled_computes_recurrence (hpos : 0 < node.seqLength) (hlens : node.sequenceLens = none)
    (hdirection : validateDirection node = .ok direction) :
    (∀ calls, addGruToModelBuilder node = .ok calls → GruComputes R node direction calls) ∧
      ∀ calls, addLstmToModelBuilder node = .ok calls → LstmComputes R node direction calls := by
  have hlengths : FullLengths node := fun b _ => by rw [onnxLength,hlens]
  refine ⟨fun calls hcalls cell x h env hin => ?_,fun calls hcalls cell x initial env hin => ?_⟩
  · exact (gru_full hpos hcalls hdirection hin).computes hlengths
  · exact (lstm_full hpos hcalls hdirection hin).computes hlengths

end

def sampleRnn (op : RnnOp) (lens : Option SequenceLens) : RnnNode where
  op := op
  name := "rnn"
  backend := .htp
  inputCount := if lens.isSome then 5 else 3
  outputCount := 2
  seqLength := 2
  batchSize := 1
  inputSize := 1
  hiddenSize := 1
  directionAttr := some "bidirectional"
  clip := none
  layout := none
  activations := []
  sequenceLens := lens
  hasInitialH := false
  hasInitialC := false
  hasY := true
  hasYh := true
  hasYc := false
  useFpFallback := false
  quantizedX := false
  quantizedH := false
  enableHtpMonolithicLstm := false

theorem unrolled_computes_recurrence_sample :
    (∃ calls, addGruToModelBuilder (sampleRnn .gru none) = .ok calls ∧
        GruComputes Int (sampleRnn .gru none) .bidirectional calls) ∧
      ∃ calls, addLstmToModelBuilder (sampleRnn .lstm none) = .ok calls ∧
        LstmComputes Int (sampleRnn .lstm none) .bidirectional calls :=
  ⟨⟨_,rfl,(unrolled_computes_recurrence (by decide) rfl rfl).1 _ rfl⟩,
    ⟨_,rfl,(unrolled_computes_recurrence (by decide) rfl rfl).2 _ rfl⟩⟩

section
variable {R : Type} [AddMonoidWithOne R] {node : RnnNode} {direction : Direction}

def countRow (width n : Nat) : Row R width := fun _ => n

theorem countRow_succ (width n : Nat) : (fun i => countRow width n i + 1) = countRow (R := R) width (n + 1) := by
  funext i
  exact (Nat.cast_succ n).symm

theorem entry_countRow {width n i : Nat} (hi : i < width) : entry (countRow (R := R) width n) i = n :=
  entry_of_lt hi

def countGru (node : RnnNode) : GruCell R node.inputSize node.hiddenSize := fun _ _ row i => row i + 1

def countLstm (node : RnnNode) : LstmCell R node.inputSize node.hiddenSize :=
  fun _ _ state => (fun i => state.1 i + 1,fun i => state.2 i + 1)

theorem initialRow_zeros (width : Nat) (present : Bool) (shape : List Nat) (k b : Nat) :
    initialRow width present ⟨shape,fun _ => (0 : R)⟩ k b = countRow width 0 := by
  have hzero : countRow width 0 = fun _ => (0 : R) := funext fun _ => Nat.cast_zero
  rw [hzero]
  unfold initialRow
  split <;> rfl

theorem onnxState_countGru (x : Tensor R) (shape : List Nat) (len k b n : Nat) :
    onnxState (countGru node) direction x
      (initialRow node.hiddenSize node.hasInitialH ⟨shape,fun _ => 0⟩) len k b n =
      countRow node.hiddenSize n := by
  rw [onnxState,initialRow_zeros]
  exact along_values (fun _ n => countRow_succ _ n) _ _ _ n

theorem onnxState_countLstm (x : Tensor R) (shape : List Nat) (len k b n : Nat) :
    onnxState (countLstm node) direction x (lstmStart node fun _ => ⟨shape,fun _ => 0⟩) len k b n =
      (countRow node.hiddenSize n,countRow node.hiddenSize n) := by
  rw [onnxState,lstmStart,initialRow_zeros,initialRow_zeros]
  have hstep (row : Row R node.inputSize) (n : Nat) :
      countLstm node k row (countRow node.hiddenSize n,countRow node.hiddenSize n) =
        (countRow node.hiddenSize (n + 1),countRow node.hiddenSize (n + 1)) :=
    Prod.ext (countRow_succ _ n) (countRow_succ _ n)
  exact along_values hstep _ _ _ n

variable [CharZero R] {σ : Type} {hidden : σ → Row R node.hiddenSize}
  {state : Nat → Nat → Nat → Nat → σ} {t : Tensor R}

theorem numDirections_pos (direction : Direction) : 0 < direction.numDirections := by
  cases direction <;> decide

theorem IsFullY.fullLengths (h : IsFullY node direction hidden (state node.seqLength) t)
    (hcount : ∀ len k b n, hidden (state len k b n) = countRow node.hiddenSize n)
    (hpos : 0 < node.seqLength) (hwidth : 0 < node.hiddenSize)
    (hle : ∀ b < node.batchSize, onnxLength node b ≤ node.seqLength)
    (hsame : t.Same (onnxY node direction node.hiddenSize hidden state)) : FullLengths node := by
  intro b hb
  refine Nat.le_antisymm (hle b hb) (Nat.le_of_not_lt fun hlt => ?_)
  have hidx : InBounds (onnxY node direction node.hiddenSize hidden state).shape
      [node.seqLength - 1,0,b,0] :=
    .cons (Nat.sub_lt hpos Nat.one_pos)
      (.cons (numDirections_pos direction) (.cons hb (.cons hwidth .nil)))
  have hemitted := h.get (node.seqLength - 1) (Nat.sub_lt hpos Nat.one_pos) 0
    (numDirections_pos direction) b hb 0 hwidth
  have honnx : (onnxY node direction node.hiddenSize hidden state).get [node.seqLength - 1,0,b,0] = 0 :=
    if_neg (show ¬node.seqLength - 1 < onnxLength node b by omega)
  rw [hcount,entry_countRow hwidth,hsame.2 _ hidx,honnx] at hemitted
  exact absurd (Nat.cast_eq_zero.mp hemitted.symm) (Nat.succ_ne_zero _)

theorem IsFullLast.fullLengths (h : IsFullLast node direction hidden (state node.seqLength) t)
    (hcount : ∀ len k b n, hidden (state len k b n) = countRow node.hiddenSize n)
    (hwidth : 0 < node.hiddenSize)
    (hsame : t.Same (onnxLast node direction node.hiddenSize hidden state)) : FullLengths node := by
  intro b hb
  have hidx : InBounds (onnxLast node direction node.hiddenSize hidden state).shape [0,b,0] :=
    .cons (numDirections_pos direction) (.cons hb (.cons hwidth .nil))
  have hemitted := h.get 0 (numDirections_pos direction) b hb 0 hwidth
  have honnx : (onnxLast node direction node.hiddenSize hidden state).get [0,b,0] =
      entry (hidden (state (onnxLength node b) 0 b (onnxLength node b))) 0 := rfl
  rw [hcount,entry_countRow hwidth,hsame.2 _ hidx,honnx,hcount,entry_countRow hwidth] at hemitted
  exact Nat.cast_injective hemitted

end

section
variable {R : Type} [AddMonoidWithOne R] [CharZero R] {node : RnnNode} {direction : Direction}

structure ValidLens (node : RnnNode) (lens : List Int) : Prop where
  constant : node.sequenceLens = some (.constant lens)
  perEntry : lens.length = node.batchSize
  range : ∀ len ∈ lens, 0 ≤ len ∧ len ≤ node.seqLength

theorem ValidLens.onnxLength_eq {lens : List Int} (h : ValidLens node lens) {b : Nat}
    (hb : b < node.batchSize) : ∃ len ∈ lens, lens[b]? = some len ∧ onnxLength node b = len.toNat := by
  have hlt : b < lens.length := h.perEntry ▸ hb
  refine ⟨lens[b],List.getElem_mem hlt,List.getElem?_eq_getElem hlt,?_⟩
  rw [onnxLength,h.constant]
  simp [hlt]

theorem ValidLens.onnxLength_le {lens : List Int} (h : ValidLens node lens) {b : Nat}
    (hb : b < node.batchSize) : onnxLength node b ≤ node.seqLength := by
  obtain ⟨len,hlen,_,heq⟩ := h.onnxLength_eq hb
  have := h.range len hlen
  omega

theorem ValidLens.fullLengths_iff {lens : List Int} (h : ValidLens node lens) :
    FullLengths node ↔ ∀ len ∈ lens, len = node.seqLength := by
  refine ⟨fun hfull len hlen => ?_,fun hall b hb => ?_⟩
  · obtain ⟨b,hb,rfl⟩ := List.mem_iff_getElem.mp hlen
    obtain ⟨other,_,hget,heq⟩ := h.onnxLength_eq (h.perEntry ▸ hb)
    have hother : lens[b] = other := Option.some.inj ((List.getElem?_eq_getElem hb).symm.trans hget)
    have hrange := h.range _ hlen
    have hlength := hfull b (h.perEntry ▸ hb)
    rw [← hother] at heq
    omega
  · obtain ⟨len,hlen,_,heq⟩ := h.onnxLength_eq hb
    have := hall len hlen
    omega

theorem checkSizes_ok {message : String} {u : Unit} (h : checkSizes node message = .ok u) :
    0 < node.hiddenSize :=
  Nat.pos_of_ne_zero (returnIf_bind_ok.mp h).1

theorem gru_hiddenSize {calls : List GruCall} (h : addGruToModelBuilder node = .ok calls) :
    0 < node.hiddenSize := by
  obtain ⟨supported,_,h⟩ := bind_ok h
  have huni {numDirections : Nat} {direction : UniDirection} {isBidirection : Bool} {uni : UniGru}
      (h : addUnidirectionGRU node numDirections direction isBidirection = .ok uni) :
      0 < node.hiddenSize := by
    obtain ⟨_,hsizes,_⟩ := bind_ok h
    exact checkSizes_ok hsizes
  cases supported with
  | forward | reverse | bidirectional =>
    obtain ⟨_,h,_⟩ := bind_ok h
    exact huni h

theorem lstm_hiddenSize {calls : List LstmCall} (h : addLstmToModelBuilder node = .ok calls) :
    0 < node.hiddenSize := by
  obtain ⟨supported,_,h⟩ := bind_ok h
  cases supported with
  | forward | reverse =>
    obtain ⟨_,hsizes,_⟩ := bind_ok h
    exact checkSizes_ok hsizes
  | bidirectional =>
    obtain ⟨_,h,_⟩ := bind_ok h
    obtain ⟨_,hsizes,_⟩ := bind_ok h
    exact checkSizes_ok hsizes

theorem gru_fullLengths (hpos : 0 < node.seqLength)
    (hle : ∀ b < node.batchSize, onnxLength node b ≤ node.seqLength) {calls : List GruCall}
    (hcalls : addGruToModelBuilder node = .ok calls)
    (hdirection : validateDirection node = .ok direction) (h : GruComputes R node direction calls)
    (houtput : node.hasY = true ∨ node.hasYh = true) : FullLengths node := by
  let x : Tensor R := ⟨[node.seqLength,node.batchSize,node.inputSize],fun _ => 0⟩
  let first : Tensor R := ⟨[direction.numDirections,node.batchSize,node.hiddenSize],fun _ => 0⟩
  let env : GruWire → Tensor R := fun w => if w = .x then x else first
  have hin : GruTensors node direction.numDirections x first env :=
    ⟨if_pos rfl,rfl,if_neg (by simp),fun _ => rfl⟩
  have hfull : GruFull (countGru node) direction x first _ := gru_full hpos hcalls hdirection hin
  have hmatches := h (countGru node) x first env hin
  have hwidth := gru_hiddenSize hcalls
  rcases houtput with hpresent | hpresent
  · exact (hfull.y hpresent).fullLengths (fun len k b n => onnxState_countGru x _ len k b n) hpos hwidth
      hle (hmatches.y hpresent)
  · exact (hfull.yh hpresent).fullLengths (fun len k b n => onnxState_countGru x _ len k b n) hwidth
      (hmatches.yh hpresent)

theorem lstm_fullLengths (hpos : 0 < node.seqLength)
    (hle : ∀ b < node.batchSize, onnxLength node b ≤ node.seqLength) {calls : List LstmCall}
    (hcalls : addLstmToModelBuilder node = .ok calls)
    (hdirection : validateDirection node = .ok direction) (h : LstmComputes R node direction calls)
    (houtput : node.hasY = true ∨ node.hasYh = true ∨ node.hasYc = true) : FullLengths node := by
  let x : Tensor R := ⟨[node.seqLength,node.batchSize,node.inputSize],fun _ => 0⟩
  let first : Tensor R := ⟨[direction.numDirections,node.batchSize,node.hiddenSize],fun _ => 0⟩
  let env : LstmWire → Tensor R := fun w => if w = .x then x else first
  have hin : LstmTensors node direction.numDirections x (fun _ => first) env :=
    ⟨if_pos rfl,rfl,fun _ => if_neg (by simp),fun _ _ => rfl⟩
  have hfull : LstmFull (countLstm node) direction x (fun _ => first) _ :=
    lstm_full hpos hcalls hdirection hin
  have hmatches := h (countLstm node) x (fun _ => first) env hin
  have hwidth := lstm_hiddenSize hcalls
  have hfst (len k b n : Nat) : (onnxState (countLstm node) direction x
      (lstmStart node fun _ => first) len k b n).1 = countRow node.hiddenSize n := by
    rw [onnxState_countLstm]
  have hsnd (len k b n : Nat) : (onnxState (countLstm node) direction x
      (lstmStart node fun _ => first) len k b n).2 = countRow node.hiddenSize n := by
    rw [onnxState_countLstm]
  rcases houtput with hpresent | hpresent | hpresent
  · exact (hfull.y hpresent).fullLengths hfst hpos hwidth hle (hmatches.y hpresent)
  · exact (hfull.yh hpresent).fullLengths hfst hwidth (hmatches.yh hpresent)
  · exact (hfull.yc hpresent).fullLengths hsnd hwidth (hmatches.yc hpresent)

theorem sequence_lens_computes_iff (hpos : 0 < node.seqLength) {lens : List Int}
    (hlens : ValidLens node lens) (hdirection : validateDirection node = .ok direction) :
    (∀ calls, addGruToModelBuilder node = .ok calls →
        (GruComputes R node direction calls ↔
          (node.hasY = true ∨ node.hasYh = true → ∀ len ∈ lens, len = node.seqLength))) ∧
      ∀ calls, addLstmToModelBuilder node = .ok calls →
        (LstmComputes R node direction calls ↔
          (node.hasY = true ∨ node.hasYh = true ∨ node.hasYc = true →
            ∀ len ∈ lens, len = node.seqLength)) := by
  refine ⟨fun calls hcalls => ⟨fun h houtput => ?_,fun h cell x first env hin => ?_⟩,
    fun calls hcalls => ⟨fun h houtput => ?_,fun h cell x initial env hin => ?_⟩⟩
  · exact hlens.fullLengths_iff.mp
      (gru_fullLengths hpos (fun _ => hlens.onnxLength_le) hcalls hdirection h houtput)
  · have hfull : GruFull cell direction x first _ := gru_full hpos hcalls hdirection hin
    exact ⟨fun hpresent => (hfull.y hpresent).same (hlens.fullLengths_iff.mpr (h (.inl hpresent))),
      fun hpresent => (hfull.yh hpresent).same (hlens.fullLengths_iff.mpr (h (.inr hpresent)))⟩
  · exact hlens.fullLengths_iff.mp
      (lstm_fullLengths hpos (fun _ => hlens.onnxLength_le) hcalls hdirection h houtput)
  · have hfull : LstmFull cell direction x initial _ := lstm_full hpos hcalls hdirection hin
    exact ⟨fun hpresent => (hfull.y hpresent).same (hlens.fullLengths_iff.mpr (h (.inl hpresent))),
      fun hpresent => (hfull.yh hpresent).same (hlens.fullLengths_iff.mpr (h (.inr (.inl hpresent)))),
      fun hpresent => (hfull.yc hpresent).same (hlens.fullLengths_iff.mpr (h (.inr (.inr hpresent))))⟩

end

def sampleLens (lens : List Int) : Option SequenceLens := some (.constant lens)

theorem sequence_lens_computes_full :
    (∃ calls, addGruToModelBuilder (sampleRnn .gru (sampleLens [2])) = .ok calls ∧
        GruComputes Int (sampleRnn .gru (sampleLens [2])) .bidirectional calls) ∧
      ∃ calls, addLstmToModelBuilder (sampleRnn .lstm (sampleLens [2])) = .ok calls ∧
        LstmComputes Int (sampleRnn .lstm (sampleLens [2])) .bidirectional calls :=
  ⟨⟨_,rfl,((sequence_lens_computes_iff (by decide) ⟨rfl,rfl,by decide⟩ rfl).1 _ rfl).mpr
      fun _ => by decide⟩,
    ⟨_,rfl,((sequence_lens_computes_iff (by decide) ⟨rfl,rfl,by decide⟩ rfl).2 _ rfl).mpr
      fun _ => by decide⟩⟩

theorem short_sequence_not_masked :
    (∃ calls, addGruToModelBuilder (sampleRnn .gru (sampleLens [1])) = .ok calls ∧
        ¬GruComputes Int (sampleRnn .gru (sampleLens [1])) .bidirectional calls) ∧
      ∃ calls, addLstmToModelBuilder (sampleRnn .lstm (sampleLens [1])) = .ok calls ∧
        ¬LstmComputes Int (sampleRnn .lstm (sampleLens [1])) .bidirectional calls := by
  have hshort (op : RnnOp) : ¬FullLengths (sampleRnn op (sampleLens [1])) := by
    intro h
    exact absurd (h 0 Nat.one_pos) (by cases op <;> decide)
  have hle (op : RnnOp) : ∀ b < 1, onnxLength (sampleRnn op (sampleLens [1])) b ≤ 2 := by
    cases op <;> decide
  refine ⟨⟨_,rfl,fun h => hshort .gru ?_⟩,⟨_,rfl,fun h => hshort .lstm ?_⟩⟩
  · exact gru_fullLengths (by decide) (hle .gru) rfl rfl h (.inl rfl)
  · exact lstm_fullLengths (by decide) (hle .lstm) rfl rfl h (.inl rfl)

end QnnEp.Rnn
