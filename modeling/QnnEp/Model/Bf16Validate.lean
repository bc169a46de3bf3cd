import Mathlib.Data.List.Pairwise
import Mathlib.Data.List.Perm.Basic
import Mathlib.Data.List.TakeWhile
import QnnEp.Model.Builders

namespace QnnEp.Model

def ModelWrapper.setQnnTensorDataType (w : ModelWrapper) (name : String) (tensor : QnnTensor)
    (dataType : QnnDataType) : ModelWrapper :=
  { w with modelTensorsMap :=
      Function.update w.modelTensorsMap name (some { tensor with dataType := dataType }) }

namespace ModelWrapper
variable (w : ModelWrapper)

def dataTypeOf (name : String) : Option QnnDataType := (w.modelTensorsMap name).map (·.dataType)

def retype (old new : QnnDataType) (name : String) : ModelWrapper :=
  match w.modelTensorsMap name with
  | none => w
  | some tensor =>
    if tensor.dataType == old then w.setQnnTensorDataType name tensor new else w

def retypeAll (old new : QnnDataType) (names : List String) : ModelWrapper :=
  names.foldl (fun w name => w.retype old new name) w

def convertValidationInputs : List String → ModelWrapper → Option (List String) × ModelWrapper
  | [], w => (some [],w)
  | inputName :: inputNames, w =>
    match w.modelTensorsMap inputName with
    | none => (none,w)
    | some _ =>
      let (validationInputNames,w) :=
        convertValidationInputs inputNames (w.retype .float32 .bfloat16 inputName)
      (validationInputNames.map (inputName :: ·),w)

def applyBF16ConversionForValidation (inputNames outputNames : List String) :
    Option (List String × List String) × ModelWrapper :=
  match convertValidationInputs inputNames w with
  | (none,w) => (none,w)
  | (some validationInputNames,w) =>
    (some (validationInputNames,outputNames),w.retypeAll .float32 .bfloat16 outputNames)

def restoreFP32AfterValidation (inputNames outputNames : List String) : ModelWrapper :=
  (w.retypeAll .bfloat16 .float32 inputNames).retypeAll .bfloat16 .float32 outputNames

def createQnnInputOutputTensors (names : List String) : Option (List QnnTensor) :=
  names.mapM w.modelTensorsMap

end ModelWrapper

structure NodeRequest where
  qnnNodeName : String
  packageName : String
  qnnNodeType : String
  inputNames : List String
  outputNames : List String
  paramTensorNames : List String
  deriving DecidableEq, Repr

structure Validator (π : Type) where
  modelParamsMap : String → Option π
  isBF16ConversionEnabled : Bool
  validateQnnNode : NodeRequest → List QnnTensor → List QnnTensor → List π → Bool

section
variable {π : Type} (v : Validator π) (request : NodeRequest) (w : ModelWrapper)

def Validator.validates (inputNames outputNames : List String) : Bool :=
  match w.createQnnInputOutputTensors inputNames,w.createQnnInputOutputTensors outputNames,
    request.paramTensorNames.mapM v.modelParamsMap with
  | some inputs,some outputs,some params => v.validateQnnNode request inputs outputs params
  | _,_,_ => false

def Validator.createQnnNode : Bool × ModelWrapper :=
  if v.isBF16ConversionEnabled then
    match w.applyBF16ConversionForValidation request.inputNames request.outputNames with
    | (none,w) => (false,w)
    | (some (validationInputNames,validationOutputNames),w) =>
      (v.validates request w validationInputNames validationOutputNames,
        w.restoreFP32AfterValidation request.inputNames request.outputNames)
  else (v.validates request w request.inputNames request.outputNames,w)

end

section
variable {w : ModelWrapper} {old new : QnnDataType}

theorem retype_dataTypeOf (name m : String) : (w.retype old new name).dataTypeOf m =
    if m = name ∧ w.dataTypeOf m = some old then some new else w.dataTypeOf m := by
  unfold ModelWrapper.retype
  cases hm : w.modelTensorsMap name with
  | none =>
    have hnot : ¬ (m = name ∧ w.dataTypeOf m = some old) := by
      rintro ⟨rfl,h⟩
      simp [ModelWrapper.dataTypeOf,hm] at h
    rw [if_neg hnot]
  | some tensor =>
    have hself : w.dataTypeOf name = some tensor.dataType := by
      simp [ModelWrapper.dataTypeOf,hm]
    dsimp only
    by_cases hname : m = name
    · subst hname
      by_cases htype : tensor.dataType = old
      · rw [if_pos (beq_iff_eq.mpr htype),if_pos ⟨rfl,htype ▸ hself⟩]
        simp [ModelWrapper.dataTypeOf,ModelWrapper.setQnnTensorDataType]
      · simp [htype,hself]
    · by_cases htype : tensor.dataType = old
      · simp [htype,hname,ModelWrapper.dataTypeOf,ModelWrapper.setQnnTensorDataType]
      · simp [htype,hname]

theorem retypeAll_dataTypeOf (hne : old ≠ new) (names : List String) (m : String) :
    (w.retypeAll old new names).dataTypeOf m =
      if m ∈ names ∧ w.dataTypeOf m = some old then some new else w.dataTypeOf m := by
  induction names generalizing w with
  | nil => simp [ModelWrapper.retypeAll]
  | cons name names ih =>
    have hfold : w.retypeAll old new (name :: names) =
        (w.retype old new name).retypeAll old new names := rfl
    rw [hfold,ih,retype_dataTypeOf]
    by_cases hm : m = name
    · by_cases ht : w.dataTypeOf m = some old
      · simp [hm,hm ▸ ht,Ne.symm hne]
      · simp [hm,hm ▸ ht]
    · simp [hm]

theorem exist_eq_dataTypeOf (name : String) :
    w.isQnnTensorWrapperExist name = (w.dataTypeOf name).isSome := by
  simp [ModelWrapper.isQnnTensorWrapperExist,ModelWrapper.dataTypeOf]

theorem retype_exist (name m : String) :
    (w.retype old new name).isQnnTensorWrapperExist m = w.isQnnTensorWrapperExist m := by
  rw [exist_eq_dataTypeOf,exist_eq_dataTypeOf,retype_dataTypeOf]
  split
  · rename_i h
    simp [h.2]
  · rfl

theorem convertValidationInputs_eq (inputNames : List String) :
    ModelWrapper.convertValidationInputs inputNames w =
      (if inputNames.all w.isQnnTensorWrapperExist then some inputNames else none,
        w.retypeAll .float32 .bfloat16 (inputNames.takeWhile w.isQnnTensorWrapperExist)) := by
  induction inputNames generalizing w with
  | nil => rfl
  | cons name names ih =>
    unfold ModelWrapper.convertValidationInputs
    cases hm : w.modelTensorsMap name with
    | none =>
      have hname : w.isQnnTensorWrapperExist name = false := by
        simp [ModelWrapper.isQnnTensorWrapperExist,hm]
      simp [hname,ModelWrapper.retypeAll]
    | some tensor =>
      have hname : w.isQnnTensorWrapperExist name = true := by
        simp [ModelWrapper.isQnnTensorWrapperExist,hm]
      have hexist : (w.retype .float32 .bfloat16 name).isQnnTensorWrapperExist =
          w.isQnnTensorWrapperExist := funext fun m => retype_exist name m
      simp only [ih,hexist,List.all_cons,hname,Bool.true_and,List.takeWhile_cons,if_true]
      refine Prod.ext ?_ rfl
      dsimp only
      split <;> rfl

end

section
variable {π : Type} (v : Validator π) (request : NodeRequest) (w : ModelWrapper)

def ValidationTypesSafe : Prop :=
  if request.inputNames.all w.isQnnTensorWrapperExist then
    ∀ name ∈ request.inputNames ++ request.outputNames, w.dataTypeOf name ≠ some .bfloat16
  else
    ∀ name ∈ request.inputNames.takeWhile w.isQnnTensorWrapperExist,
      w.dataTypeOf name ≠ some .float32

instance : Decidable (ValidationTypesSafe request w) :=
  inferInstanceAs (Decidable (if request.inputNames.all w.isQnnTensorWrapperExist then
    ∀ name ∈ request.inputNames ++ request.outputNames, w.dataTypeOf name ≠ some .bfloat16
  else
    ∀ name ∈ request.inputNames.takeWhile w.isQnnTensorWrapperExist,
      w.dataTypeOf name ≠ some .float32))

theorem applied_restored_dataTypeOf (names₁ names₂ : List String) (m : String) :
    (((w.retypeAll .float32 .bfloat16 names₁).retypeAll .float32 .bfloat16
      names₂).restoreFP32AfterValidation names₁ names₂).dataTypeOf m =
      if m ∈ names₁ ++ names₂ ∧ w.dataTypeOf m = some .bfloat16 then some .float32
      else w.dataTypeOf m := by
  have hne : QnnDataType.float32 ≠ QnnDataType.bfloat16 := by decide
  simp only [ModelWrapper.restoreFP32AfterValidation,retypeAll_dataTypeOf hne,
    retypeAll_dataTypeOf hne.symm,List.mem_append]
  by_cases h₁ : m ∈ names₁ <;> by_cases h₂ : m ∈ names₂ <;>
    by_cases hf : w.dataTypeOf m = some .float32 <;> by_cases hb : w.dataTypeOf m = some .bfloat16 <;>
    simp_all

theorem createQnnNode_registered (hbf16 : v.isBF16ConversionEnabled = true)
    (hall : request.inputNames.all w.isQnnTensorWrapperExist = true) :
    (v.createQnnNode request w).2 =
      ((w.retypeAll .float32 .bfloat16 request.inputNames).retypeAll .float32 .bfloat16
        request.outputNames).restoreFP32AfterValidation request.inputNames request.outputNames := by
  have htake : request.inputNames.takeWhile w.isQnnTensorWrapperExist = request.inputNames :=
    List.takeWhile_eq_self_iff.mpr (List.all_eq_true.mp hall)
  unfold Validator.createQnnNode ModelWrapper.applyBF16ConversionForValidation
  rw [if_pos hbf16,convertValidationInputs_eq,if_pos hall,htake]

theorem createQnnNode_missing (hbf16 : v.isBF16ConversionEnabled = true)
    (hall : ¬ request.inputNames.all w.isQnnTensorWrapperExist = true) :
    (v.createQnnNode request w).2 = w.retypeAll .float32 .bfloat16
      (request.inputNames.takeWhile w.isQnnTensorWrapperExist) := by
  unfold Validator.createQnnNode ModelWrapper.applyBF16ConversionForValidation
  rw [if_pos hbf16,convertValidationInputs_eq,if_neg hall]

theorem ite_unchanged_iff {m : String → Option QnnDataType} {P : String → Prop} [DecidablePred P]
    {old new : QnnDataType} (hne : old ≠ new) :
    (∀ name, (if P name ∧ m name = some old then some new else m name) = m name) ↔
      ∀ name, P name → m name ≠ some old := by
  constructor
  · intro h name hname hold
    have hn := h name
    rw [if_pos ⟨hname,hold⟩,hold] at hn
    exact hne (Option.some.inj hn).symm
  · intro h name
    exact if_neg fun hn => h name hn.1 hn.2

theorem createQnnNode_dataTypes_iff (hbf16 : v.isBF16ConversionEnabled = true) :
    (∀ name, (v.createQnnNode request w).2.dataTypeOf name = w.dataTypeOf name) ↔
      ValidationTypesSafe request w := by
  have hne : QnnDataType.float32 ≠ QnnDataType.bfloat16 := by decide
  unfold ValidationTypesSafe
  by_cases hall : request.inputNames.all w.isQnnTensorWrapperExist = true
  · simp only [createQnnNode_registered v request w hbf16 hall,applied_restored_dataTypeOf]
    rw [if_pos hall]
    exact ite_unchanged_iff hne.symm
  · simp only [createQnnNode_missing v request w hbf16 hall,retypeAll_dataTypeOf hne]
    rw [if_neg hall]
    exact ite_unchanged_iff hne

end

def acceptAll : Validator Unit := ⟨fun _ => some (),true,fun _ _ _ _ => true⟩

def addRequest (inputNames : List String) : NodeRequest :=
  ⟨"add","qti.aisw","ElementWiseAdd",inputNames,["Y"],[]⟩

def addOperands : ModelWrapper where
  modelTensorsMap name :=
    if name = "A" then some ⟨.appWrite,.float32,.undefined,[1],[]⟩
    else if name = "B" then some ⟨.native,.bfloat16,.undefined,[1],[]⟩
    else if name = "Y" then some ⟨.native,.float32,.undefined,[1],[]⟩
    else none
  qnnOpPropertyList := []
  qnnNodeNames := ∅

theorem createQnnNode_dataTypes_float32 :
    (acceptAll.createQnnNode (addRequest ["A","A"]) addOperands).2.dataTypeOf "A" =
      addOperands.dataTypeOf "A" :=
  (createQnnNode_dataTypes_iff acceptAll (addRequest ["A","A"]) addOperands rfl).mpr
    (by decide) "A"

theorem createQnnNode_dataTypes_lost :
    ((acceptAll.createQnnNode (addRequest ["A","B"]) addOperands).1 = true ∧
      addOperands.dataTypeOf "B" = some .bfloat16 ∧
      (acceptAll.createQnnNode (addRequest ["A","B"]) addOperands).2.dataTypeOf "B" =
        some .float32) ∧
    (acceptAll.createQnnNode (addRequest ["A","M"]) addOperands).1 = false ∧
      addOperands.dataTypeOf "A" = some .float32 ∧
      (acceptAll.createQnnNode (addRequest ["A","M"]) addOperands).2.dataTypeOf "A" =
        some .bfloat16 := by
  decide

end QnnEp.Model
