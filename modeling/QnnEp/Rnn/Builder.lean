import QnnEp.Foundation.Joining
import QnnEp.Foundation.Recurrence
import QnnEp.Slice.Builder

namespace QnnEp.Rnn
open Recurrence Status Tensors Registry
open Slice (QnnBackendType)

inductive RnnOp where
  | gru
  | lstm
  deriving DecidableEq, Repr

inductive Direction where
  | forward
  | reverse
  | bidirectional
  deriving DecidableEq, Repr

inductive UniDirection where
  | forward
  | reverse
  deriving DecidableEq, Repr

def UniDirection.reversed : UniDirection → Bool
  | .forward => false
  | .reverse => true

inductive SequenceLens where
  | dynamic
  | constant (lens : List Int)
  deriving DecidableEq, Repr

structure RnnNode where
  op : RnnOp
  name : String
  backend : QnnBackendType
  inputCount : Nat
  outputCount : Nat
  seqLength : Nat
  batchSize : Nat
  inputSize : Nat
  hiddenSize : Nat
  directionAttr : Option String
  clip : Option ℚ
  layout : Option Int
  activations : List String
  sequenceLens : Option SequenceLens
  hasInitialH : Bool
  hasInitialC : Bool
  hasY : Bool
  hasYh : Bool
  hasYc : Bool
  useFpFallback : Bool
  quantizedX : Bool
  quantizedH : Bool
  enableHtpMonolithicLstm : Bool

def RnnOp.opDisplayName : RnnOp → String
  | .gru => "GRU"
  | .lstm => "LSTM"

def RnnOp.maxOnnxInputCount : RnnOp → Nat
  | .gru => 6
  | .lstm => 8

def RnnOp.maxOutputCount : RnnOp → Nat
  | .gru => 2
  | .lstm => 3

def RnnOp.allowsExplicitZeroClip : RnnOp → Bool
  | .gru => false
  | .lstm => true

def RnnOp.unsupportedClip : RnnOp → String
  | .gru => "QNN GRU parameter and cannot be expressed in the QNN graph."
  | .lstm => "QNN LSTM parameter — QNN LSTM exposes cell_clip_threshold/output_clip_threshold which " ++
      "clip different quantities and cannot represent ONNX gate-input clamping."

def RnnOp.defaultActivations : RnnOp → List String
  | .gru => ["sigmoid","tanh"]
  | .lstm => ["sigmoid","tanh","tanh"]

def validateRnnArity (node : RnnNode) : Except String Unit := do
  returnIf (¬(3 ≤ node.inputCount ∧ node.inputCount ≤ node.op.maxOnnxInputCount))
    (node.op.opDisplayName ++ " should receive inputs ranging from 3 to " ++
      toString node.op.maxOnnxInputCount ++ "!")
  returnIf (node.op.maxOutputCount < node.outputCount)
    (node.op.opDisplayName ++ " should produce at most " ++ toString node.op.maxOutputCount ++ " outputs!")

def validateDirection (node : RnnNode) : Except String Direction :=
  match node.directionAttr.getD "forward" with
  | "forward" => .ok .forward
  | "reverse" => .ok .reverse
  | "bidirectional" => .ok .bidirectional
  | _ => .error ("QNN EP: " ++ node.op.opDisplayName ++
      " direction must be one of forward, reverse, or bidirectional.")

def validateSequenceLens (node : RnnNode) : Except String Unit :=
  match node.sequenceLens with
  | none => .ok ()
  | some .dynamic => .error "QNN EP: dynamic sequence_length is not supported."
  | some (.constant lens) =>
    returnIf (∃ len ∈ lens, len ≠ lens.headD 0)
      ("QNN EP: Only support " ++ node.op.opDisplayName ++ " with same sequence length.")

def validateUnsupportedClip (node : RnnNode) : Except String Unit :=
  returnIf (node.clip.getD 0 ≠ 0 ∨ (node.op.allowsExplicitZeroClip = false ∧ node.clip.isSome))
    ("QNN EP: " ++ node.op.opDisplayName ++ " 'clip' (gate-input activation clamp) has no equivalent " ++
      node.op.unsupportedClip)

def validateActivations (node : RnnNode) : Except String Unit :=
  let defaults := node.op.defaultActivations
  returnIf ((defaults.length ≤ node.activations.length ∧
        node.activations.take defaults.length ≠ defaults) ∨
      (node.activations.length = 2 * defaults.length ∧
        node.activations.drop defaults.length ≠ defaults))
    ("QNN EP doesn't support non-default activations for " ++ node.op.opDisplayName ++ ".")

def validateAdditionalSupport (node : RnnNode) : Except String Unit :=
  match node.op with
  | .gru => do
    returnIf (node.layout.getD 0 ≠ 0)
      ("QNN EP doesn't support layout=1 for GRU (ORT CPU EP cannot provide a reference for " ++
        "accuracy validation).")
    validateActivations node
  | .lstm => do
    validateActivations node
    returnIf (node.layout.getD 0 ≠ 0)
      ("QNN EP: Unsupported layout mode" ++ toString (node.layout.getD 0) ++ " for " ++ node.name)

def isOpSupported (node : RnnNode) : Except String Direction := do
  validateRnnArity node
  let direction ← validateDirection node
  validateSequenceLens node
  validateUnsupportedClip node
  validateAdditionalSupport node
  return direction

def isCpuBackend (node : RnnNode) : Bool := node.backend = .cpu

def isIrBackend (node : RnnNode) : Bool := node.backend = .serializer

inductive QnnKind where
  | transpose (perm : List Nat)
  | stridedSlice (ranges : List Range) (shrinkAxes : List Bool)
  | reshape (shape : List Nat)
  | concat (axis : Nat)
  | pack (axis : Nat)
  | zeros (shape : List Nat)
  | dequantize
  | quantize
  | recurrent (timeMajor : Bool) (direction : UniDirection) (directionIdx : Nat)

def Direction.numDirections : Direction → Nat
  | .forward => 1
  | .reverse => 1
  | .bidirectional => 2

def directionIdx (numDirections : Nat) (direction : UniDirection) : Nat :=
  if numDirections < 2 ∨ direction = .forward then 0 else 1

def checkSizes (node : RnnNode) (message : String) : Except String Unit := do
  returnIf (node.hiddenSize = 0) message
  returnIf (¬(node.seqLength < 2 ^ 31 ∧ node.batchSize < 2 ^ 31 ∧ node.inputSize < 2 ^ 31 ∧
    node.hiddenSize < 2 ^ 31)) "Integer overflow"

def deriveNumDirectionsConcatAxis (shape : List Nat) : Except String Nat :=
  if 3 ≤ shape.length then .ok (shape.length - 3)
  else .error ("QNN EP: bidirectional RNN Concat output must have rank >= 3 " ++
    "(Y is [seq, num_dir, batch, hidden]; Y_h/Y_c are [num_dir, batch, hidden]).")

def outputShape (node : RnnNode) (numDirections output : Nat) : List Nat :=
  if output = 0 then [node.seqLength,numDirections,node.batchSize,node.hiddenSize]
  else [numDirections,node.batchSize,node.hiddenSize]

def uniDirection : Direction → UniDirection
  | .reverse => .reverse
  | _ => .forward

def hasOutput (node : RnnNode) : Nat → Bool
  | 0 => node.hasY
  | 1 => node.hasYh
  | 2 => node.hasYc
  | _ => false

theorem layout_of_isOpSupported {node : RnnNode} {direction : Direction}
    (h : isOpSupported node = .ok direction) : node.layout.getD 0 = 0 := by
  obtain ⟨_,_,h⟩ := bind_ok h
  obtain ⟨_,_,h⟩ := bind_ok h
  obtain ⟨_,_,h⟩ := bind_ok h
  obtain ⟨_,_,h⟩ := bind_ok h
  obtain ⟨_,hsupport,_⟩ := bind_ok h
  unfold validateAdditionalSupport at hsupport
  split at hsupport
  · rw [returnIf_bind_ok] at hsupport
    exact not_not.mp hsupport.1
  · obtain ⟨_,_,hlayout⟩ := bind_ok hsupport
    exact not_not.mp (returnIf_ok_iff.mp hlayout)

theorem direction_of_isOpSupported {node : RnnNode} {direction supported : Direction}
    (h : isOpSupported node = .ok supported) (hdirection : validateDirection node = .ok direction) :
    direction = supported := by
  obtain ⟨_,_,h⟩ := bind_ok h
  obtain ⟨found,hfound,h⟩ := bind_ok h
  obtain ⟨_,_,h⟩ := bind_ok h
  obtain ⟨_,_,h⟩ := bind_ok h
  obtain ⟨_,_,h⟩ := bind_ok h
  cases h
  exact Except.ok.inj (hdirection.symm.trans hfound)

section
variable {R : Type} [Zero R] {inputs width : Nat}

abbrev Row (R : Type) (n : Nat) := Fin n → R

def rowOf (t : Tensor R) (index : Nat → List Nat) (n : Nat) : Row R n := fun i => t.get (index i)

def entry (row : Row R width) (i : Nat) : R := if h : i < width then row ⟨i,h⟩ else 0

theorem entry_of_lt {row : Row R width} {i : Nat} (h : i < width) : entry row i = row ⟨i,h⟩ := dif_pos h

def timeStep (timeMajor : Bool) (t b i : Nat) : List Nat := if timeMajor then [t,b,i] else [b,t,i]

def QnnKind.apply (recur : Bool → UniDirection → Nat → List (Tensor R) → List (Tensor R)) :
    QnnKind → List (Tensor R) → List (Tensor R)
  | .transpose perm, [t] => [t.transpose perm]
  | .stridedSlice ranges shrinkAxes, [t] => [shrink shrinkAxes (Tensors.stridedSlice ranges t)]
  | .reshape shape, [t] => [t.reshape shape]
  | .concat axis, ts => [Tensors.concat axis ts]
  | .pack axis, ts => [Tensors.pack axis ts]
  | .zeros shape, [] => [⟨shape,fun _ => 0⟩]
  | .dequantize, [t] => [t]
  | .quantize, [t] => [t]
  | .recurrent timeMajor direction directionIdx, ts => recur timeMajor direction directionIdx ts
  | _, _ => []

abbrev GruCell (R : Type) (inputs width : Nat) := Nat → Row R inputs → Row R width → Row R width

abbrev LstmCell (R : Type) (inputs width : Nat) :=
  Nat → Row R inputs → Row R width × Row R width → Row R width × Row R width

def qnnGru (cell : GruCell R inputs width) (timeMajor : Bool) (direction : UniDirection)
    (directionIdx : Nat) : List (Tensor R) → List (Tensor R)
  | [x,h] =>
    let steps := x.shape.getD (if timeMajor then 0 else 1) 0
    let batch := x.shape.getD (if timeMajor then 1 else 0) 0
    let state (b : Nat) := along (cell directionIdx) direction.reversed steps
      (fun t => rowOf x (timeStep timeMajor t b) inputs) (rowOf h (fun i => [0,b,i]) width)
    [⟨timeStep timeMajor steps batch width,fun idx =>
        let t := idx.getD (if timeMajor then 0 else 1) 0
        entry (state (idx.getD (if timeMajor then 1 else 0) 0)
          (timeOf direction.reversed steps t + 1)) (idx.getD 2 0)⟩,
      ⟨[1,batch,width],fun idx => entry (state (idx.getD 1 0) steps) (idx.getD 2 0)⟩]
  | _ => []

def qnnLstmCell (cell : LstmCell R inputs width) (directionIdx : Nat) (batch : Nat)
    (x h c : Tensor R) : List (Tensor R) :=
  let state (b : Nat) := cell directionIdx (rowOf x (fun i => [b,i]) inputs)
    (rowOf h (fun i => [b,i]) width,rowOf c (fun i => [b,i]) width)
  let hidden : Tensor R := ⟨[batch,width],fun idx => entry (state (idx.getD 0 0)).1 (idx.getD 1 0)⟩
  [hidden,⟨[batch,width],fun idx => entry (state (idx.getD 0 0)).2 (idx.getD 1 0)⟩,hidden]

def qnnLstmSequence (cell : LstmCell R inputs width) (timeMajor : Bool) (direction : UniDirection)
    (directionIdx steps batch : Nat) (x h c : Tensor R) : List (Tensor R) :=
  let state (b : Nat) := along (cell directionIdx) direction.reversed steps
    (fun t => rowOf x (timeStep timeMajor t b) inputs)
    (rowOf h (fun i => [b,i]) width,rowOf c (fun i => [b,i]) width)
  [⟨timeStep timeMajor steps batch width,fun idx =>
      let t := idx.getD (if timeMajor then 0 else 1) 0
      entry (state (idx.getD (if timeMajor then 1 else 0) 0)
        (timeOf direction.reversed steps t + 1)).1 (idx.getD 2 0)⟩,
    ⟨[batch,width],fun idx => entry (state (idx.getD 0 0) steps).2 (idx.getD 1 0)⟩,
    ⟨[batch,width],fun idx => entry (state (idx.getD 0 0) steps).1 (idx.getD 1 0)⟩]

def qnnLstm (cell : LstmCell R inputs width) (timeMajor : Bool) (direction : UniDirection)
    (directionIdx : Nat) : List (Tensor R) → List (Tensor R)
  | [x,h,c] =>
    match x.shape with
    | [batch,_] => qnnLstmCell cell directionIdx batch x h c
    | [first,second,_] =>
      qnnLstmSequence cell timeMajor direction directionIdx (if timeMajor then first else second)
        (if timeMajor then second else first) x h c
    | _ => []
  | _ => []

variable {σ : Type}

def Direction.reversedAt : Direction → Nat → Bool
  | .forward, _ => false
  | .reverse, _ => true
  | .bidirectional, k => decide (k = 1)

def onnxLength (node : RnnNode) (b : Nat) : Nat :=
  match node.sequenceLens with
  | some (.constant lens) => (lens.getD b 0).toNat
  | _ => node.seqLength

def initialRow (width : Nat) (present : Bool) (t : Tensor R) (k b : Nat) : Row R width :=
  if present then rowOf t (fun i => [k,b,i]) width else fun _ => 0

def onnxState (cell : Nat → Row R inputs → σ → σ) (direction : Direction) (x : Tensor R)
    (start : Nat → Nat → σ) (len k b : Nat) : Nat → σ :=
  along (cell k) (direction.reversedAt k) len (fun t => rowOf x (fun i => [t,b,i]) inputs) (start k b)

def onnxY (node : RnnNode) (direction : Direction) (width : Nat) (hidden : σ → Row R width)
    (state : Nat → Nat → Nat → Nat → σ) : Tensor R where
  shape := outputShape node direction.numDirections 0
  get idx :=
    let t := idx.getD 0 0
    let k := idx.getD 1 0
    let b := idx.getD 2 0
    let len := onnxLength node b
    if t < len then
      entry (hidden (state len k b (timeOf (direction.reversedAt k) len t + 1))) (idx.getD 3 0)
    else 0

def onnxLast (node : RnnNode) (direction : Direction) (width : Nat) (part : σ → Row R width)
    (state : Nat → Nat → Nat → Nat → σ) : Tensor R where
  shape := outputShape node direction.numDirections 1
  get idx :=
    let k := idx.getD 0 0
    let b := idx.getD 1 0
    let len := onnxLength node b
    entry (part (state len k b len)) (idx.getD 2 0)

structure IsFullY (node : RnnNode) (direction : Direction) {width : Nat} (hidden : σ → Row R width)
    (state : Nat → Nat → Nat → σ) (t : Tensor R) : Prop where
  shape : t.shape = outputShape node direction.numDirections 0
  get : ∀ s < node.seqLength, ∀ k < direction.numDirections, ∀ b < node.batchSize, ∀ i < node.hiddenSize,
    t.get [s,k,b,i] =
      entry (hidden (state k b (timeOf (direction.reversedAt k) node.seqLength s + 1))) i

structure IsFullLast (node : RnnNode) (direction : Direction) {width : Nat} (part : σ → Row R width)
    (state : Nat → Nat → Nat → σ) (t : Tensor R) : Prop where
  shape : t.shape = outputShape node direction.numDirections 1
  get : ∀ k < direction.numDirections, ∀ b < node.batchSize, ∀ i < node.hiddenSize,
    t.get [k,b,i] = entry (part (state k b node.seqLength)) i

end

end QnnEp.Rnn
