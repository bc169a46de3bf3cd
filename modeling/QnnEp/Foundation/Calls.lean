import QnnEp.Foundation.Tensor

namespace QnnEp.Tensors
open List

structure Call (κ ν : Type) where
  kind : κ
  inputs : List ν
  outputs : List ν
  deriving DecidableEq, Repr

section
variable {κ ν R : Type} [DecidableEq ν]

def bindOutputs (env : ν → Tensor R) (names : List ν) (values : List (Tensor R)) : ν → Tensor R :=
  (names.zip values).foldl (fun env p => Function.update env p.1 p.2) env

theorem bindOutputs_of_notMem {names : List ν} {name : ν} (h : name ∉ names) (env : ν → Tensor R)
    (values : List (Tensor R)) : bindOutputs env names values name = env name := by
  induction names generalizing env values with
  | nil => rfl
  | cons first names ih =>
    rw [mem_cons,not_or] at h
    obtain ⟨hfirst,hrest⟩ := h
    cases values with
    | nil => rfl
    | cons value values =>
      rw [bindOutputs,zip_cons_cons,foldl_cons]
      exact (ih hrest _ values).trans (Function.update_of_ne hfirst _ _)

theorem bindOutputs_of_mem {names : List ν} (hnodup : names.Nodup) {values : List (Tensor R)} {name : ν}
    {value : Tensor R} (h : (name,value) ∈ names.zip values) (env : ν → Tensor R) :
    bindOutputs env names values name = value := by
  induction names generalizing env values with
  | nil => cases h
  | cons first names ih =>
    obtain ⟨hfirst,hrest⟩ := nodup_cons.mp hnodup
    cases values with
    | nil => cases h
    | cons v values =>
      rw [bindOutputs,zip_cons_cons,foldl_cons]
      rw [zip_cons_cons] at h
      rcases mem_cons.mp h with heq | h
      · cases heq
        exact (bindOutputs_of_notMem hfirst _ values).trans (Function.update_self _ _ _)
      · exact ih hrest h _

theorem bindOutputs_one (env : ν → Tensor R) (name : ν) (value : Tensor R) :
    bindOutputs env [name] [value] name = value := by
  simp [bindOutputs]

theorem bindOutputs_first {first second : ν} (h : first ≠ second) (env : ν → Tensor R)
    (value value' : Tensor R) : bindOutputs env [first,second] [value,value'] first = value := by
  simp [bindOutputs,Function.update_of_ne h]

theorem bindOutputs_second (env : ν → Tensor R) (first second : ν) (value value' : Tensor R) :
    bindOutputs env [first,second] [value,value'] second = value' := by
  simp [bindOutputs]

variable (apply : κ → List (Tensor R) → List (Tensor R))

def Call.exec (env : ν → Tensor R) (call : Call κ ν) : ν → Tensor R :=
  bindOutputs env call.outputs (apply call.kind (call.inputs.map env))

def runCalls (calls : List (Call κ ν)) (env : ν → Tensor R) : ν → Tensor R :=
  calls.foldl (Call.exec apply) env

@[simp] theorem runCalls_nil (env : ν → Tensor R) : runCalls apply ([] : List (Call κ ν)) env = env := rfl

theorem runCalls_cons (call : Call κ ν) (calls : List (Call κ ν)) (env : ν → Tensor R) :
    runCalls apply (call :: calls) env = runCalls apply calls (call.exec apply env) := rfl

theorem runCalls_step {kind : κ} {inputs : List ν} {env : ν → Tensor R} {values : List (Tensor R)}
    (h : apply kind (inputs.map env) = values) (outputs : List ν) (calls : List (Call κ ν)) :
    runCalls apply (⟨kind,inputs,outputs⟩ :: calls) env =
      runCalls apply calls (bindOutputs env outputs values) := by
  rw [runCalls_cons,Call.exec,h]

theorem runCalls_one (kind : κ) (inputs : List ν) (name : ν) (env : ν → Tensor R) :
    runCalls apply [⟨kind,inputs,[name]⟩] env name = (apply kind (inputs.map env)).headD (env name) := by
  rw [runCalls_cons,runCalls_nil,Call.exec]
  cases apply kind (inputs.map env) with
  | nil => rfl
  | cons value values => simp [bindOutputs]

theorem runCalls_append (calls calls' : List (Call κ ν)) (env : ν → Tensor R) :
    runCalls apply (calls ++ calls') env = runCalls apply calls' (runCalls apply calls env) :=
  foldl_append

theorem runCalls_of_notMem {calls : List (Call κ ν)} {name : ν}
    (h : ∀ call ∈ calls, name ∉ call.outputs) (env : ν → Tensor R) :
    runCalls apply calls env name = env name := by
  induction calls generalizing env with
  | nil => rfl
  | cons call calls ih =>
    rw [runCalls_cons,ih fun other hother => h other (mem_cons_of_mem _ hother)]
    exact bindOutputs_of_notMem (h call mem_cons_self) env _

end

structure Step (κ ν : Type) where
  kind : κ
  inputs : List ν
  output : ν
  deriving DecidableEq, Repr

section
variable {κ ν R : Type} [DecidableEq ν] (apply : κ → List (Tensor R) → Tensor R)

def Step.exec (env : ν → Tensor R) (step : Step κ ν) : ν → Tensor R :=
  Function.update env step.output (apply step.kind (step.inputs.map env))

def runSteps (steps : List (Step κ ν)) (env : ν → Tensor R) : ν → Tensor R :=
  steps.foldl (Step.exec apply) env

theorem runSteps_append (steps steps' : List (Step κ ν)) (env : ν → Tensor R) :
    runSteps apply (steps ++ steps') env = runSteps apply steps' (runSteps apply steps env) :=
  foldl_append

end

end QnnEp.Tensors
