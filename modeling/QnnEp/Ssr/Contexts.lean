import QnnEp.Foundation.Machine

namespace QnnEp.Ssr

abbrev Handle := Nat

abbrev Binary := String

structure BackendManager where
  contexts : List Handle
  contextMap : Handle → Option Binary

namespace BackendManager

def hasContextHandle (m : BackendManager) (context : Handle) : Bool := (m.contextMap context).isSome

def releaseSpecificContextHandle (m : BackendManager) (oldContext : Handle) : BackendManager where
  contexts := m.contexts.filter (· ≠ oldContext)
  contextMap := Function.update m.contextMap oldContext none

def addQnnContextHandle (m : BackendManager) (context : Handle) (binary : Binary) :
    Except String BackendManager :=
  if m.hasContextHandle context then .error "QNN context was already added."
  else .ok ⟨m.contexts ++ [context],Function.update m.contextMap context (some binary)⟩

def reloadContextForSSR (m : BackendManager) (contextBinFilepath : Binary) (created : Option Handle) :
    Except String (Handle × BackendManager) :=
  match created with
  | none => .error "contextCreateFromBinary failed."
  | some newContext => do
    let m ← m.addQnnContextHandle newContext contextBinFilepath
    pure (newContext,m)

def getQnnContext (m : BackendManager) (index : Nat) : Except String Handle :=
  match m.contexts[index]? with
  | none => .error "No valid QNN context!"
  | some context => .ok context

end BackendManager

structure QnnModel where
  contextBinFilepath : Binary
  graphName : String
  graphContext : Handle
  deriving DecidableEq, Repr

structure System where
  manager : BackendManager
  models : Nat → QnnModel

structure Recovery where
  model : Nat
  created : Option Handle
  setupQnnInputOutput : Except String Unit
  applyRuntimeGraphConfigs : Except String Unit

section
variable (graphs : Binary → String → Bool)

def renewContext (m : BackendManager) (model : QnnModel) (created : Option Handle) :
    Except String Handle × BackendManager :=
  if m.hasContextHandle model.graphContext then
    let m := m.releaseSpecificContextHandle model.graphContext
    match m.reloadContextForSSR model.contextBinFilepath created with
    | .error e => (.error e,m)
    | .ok (newContext,m) => (.ok newContext,m)
  else (m.getQnnContext 0,m)

def retrieveGraph (m : BackendManager) (model : QnnModel) (context : Handle) : Except String QnnModel :=
  if (m.contextMap context).any fun binary => graphs binary model.graphName then
    .ok { model with graphContext := context }
  else .error "graphRetrieve failed."

def System.recoverFromSSR (s : System) (r : Recovery) : Except String Unit × System :=
  match renewContext s.manager (s.models r.model) r.created with
  | (.error e,m) => (.error e,{ s with manager := m })
  | (.ok newContext,m) =>
    match retrieveGraph graphs m (s.models r.model) newContext with
    | .error e => (.error e,{ s with manager := m })
    | .ok model =>
      (r.setupQnnInputOutput >>= fun _ => r.applyRuntimeGraphConfigs,
        ⟨m,Function.update s.models r.model model⟩)

def recoverStep (s : System) (r : Recovery) : System := (s.recoverFromSSR graphs r).2

end

def OwnBinary (s : System) (i : Nat) : Prop :=
  ∀ binary, s.manager.contextMap (s.models i).graphContext = some binary →
    binary = (s.models i).contextBinFilepath

def RecoversOwn (graphs : Binary → String → Bool) (s : System) (r : Recovery) : Prop :=
  s.manager.hasContextHandle (s.models r.model).graphContext = true ∨
    ∀ context binary, s.manager.contexts.head? = some context →
      s.manager.contextMap context = some binary →
      graphs binary (s.models r.model).graphName = true →
        binary = (s.models r.model).contextBinFilepath

section
variable {graphs : Binary → String → Bool} {s : System} {r : Recovery}

def rebound (graphs : Binary → String → Bool) (m : BackendManager) (model : QnnModel) :
    Except String Handle → QnnModel
  | .error _ => model
  | .ok context =>
    if (m.contextMap context).any fun binary => graphs binary model.graphName then
      { model with graphContext := context }
    else model

theorem recoverStep_eq (graphs : Binary → String → Bool) (s : System) (r : Recovery) :
    recoverStep graphs s r =
      ⟨(renewContext s.manager (s.models r.model) r.created).2,
        Function.update s.models r.model (rebound graphs
          (renewContext s.manager (s.models r.model) r.created).2 (s.models r.model)
          (renewContext s.manager (s.models r.model) r.created).1)⟩ := by
  unfold recoverStep System.recoverFromSSR
  rcases renewContext s.manager (s.models r.model) r.created with ⟨_ | context,m⟩
  · simp [rebound]
  · by_cases hg : (m.contextMap context).any fun binary => graphs binary (s.models r.model).graphName
    · simp [rebound,retrieveGraph,hg]
    · simp [rebound,retrieveGraph,hg]

theorem rebound_path (m : BackendManager) (model : QnnModel) (context : Except String Handle) :
    (rebound graphs m model context).contextBinFilepath = model.contextBinFilepath := by
  cases context with
  | error e => rfl
  | ok c =>
    simp only [rebound]
    split <;> rfl

theorem ownBinary_recoverStep : OwnBinary (recoverStep graphs s r) r.model ↔
    ∀ binary, (renewContext s.manager (s.models r.model) r.created).2.contextMap
        (rebound graphs (renewContext s.manager (s.models r.model) r.created).2 (s.models r.model)
          (renewContext s.manager (s.models r.model) r.created).1).graphContext = some binary →
      binary = (s.models r.model).contextBinFilepath := by
  rw [recoverStep_eq]
  simp [OwnBinary,rebound_path]

theorem reload_ok {m m' : BackendManager} {binary : Binary} {created : Option Handle}
    {newContext : Handle} (h : m.reloadContextForSSR binary created = .ok (newContext,m')) :
    m'.contextMap = Function.update m.contextMap newContext (some binary) := by
  cases created with
  | none => cases h
  | some context =>
    simp only [BackendManager.reloadContextForSSR,BackendManager.addQnnContextHandle] at h
    split at h
    · cases h
    · cases h
      rfl

theorem recoverStep_renewed
    (hold : s.manager.hasContextHandle (s.models r.model).graphContext = true) :
    OwnBinary (recoverStep graphs s r) r.model := by
  rw [ownBinary_recoverStep]
  intro binary
  simp only [renewContext,hold,if_true]
  have hreleased : (s.manager.releaseSpecificContextHandle
      (s.models r.model).graphContext).contextMap (s.models r.model).graphContext = none :=
    Function.update_self ..
  cases hreload : (s.manager.releaseSpecificContextHandle
      (s.models r.model).graphContext).reloadContextForSSR (s.models r.model).contextBinFilepath
      r.created with
  | error e => simp [rebound,hreleased]
  | ok renewed =>
    obtain ⟨newContext,m⟩ := renewed
    simp only [rebound,reload_ok hreload]
    split
    · simp [eq_comm]
    · by_cases hsame : (s.models r.model).graphContext = newContext
      · simp [hsame,eq_comm]
      · simp [Function.update_of_ne hsame,hreleased]

theorem recoverStep_reused
    (hold : s.manager.hasContextHandle (s.models r.model).graphContext = false) :
    OwnBinary (recoverStep graphs s r) r.model ↔
      ∀ context binary, s.manager.contexts.head? = some context →
        s.manager.contextMap context = some binary →
        graphs binary (s.models r.model).graphName = true →
          binary = (s.models r.model).contextBinFilepath := by
  have hstale : s.manager.contextMap (s.models r.model).graphContext = none := by
    simpa [BackendManager.hasContextHandle] using hold
  rw [ownBinary_recoverStep]
  simp only [renewContext,hold,Bool.false_eq_true,if_false,BackendManager.getQnnContext]
  rw [← List.head?_eq_getElem?]
  cases hhead : s.manager.contexts.head? with
  | none => simp [rebound,hstale]
  | some context =>
    have hfirst : ∀ {P : Handle → Binary → Prop},
        (∀ c binary, some context = some c → P c binary) ↔ ∀ binary, P context binary := by
      intro P
      constructor
      · exact fun h binary => h context binary rfl
      · rintro h c binary ⟨⟩
        exact h binary
    rw [hfirst]
    cases hmap : s.manager.contextMap context with
    | none => simp [rebound,hmap,hstale]
    | some b =>
      cases hg : graphs b (s.models r.model).graphName with
      | false => simp [rebound,hmap,hg,hstale]
      | true => simp [rebound,hmap,hg]

theorem recoverStep_ownBinary_iff :
    OwnBinary (recoverStep graphs s r) r.model ↔ RecoversOwn graphs s r := by
  unfold RecoversOwn
  cases hold : s.manager.hasContextHandle (s.models r.model).graphContext with
  | true => exact iff_of_true (recoverStep_renewed hold) (.inl rfl)
  | false => simpa using recoverStep_reused hold

theorem recoveries_ownBinary_iff (graphs : Binary → String → Bool) (s : System)
    (recoveries : List Recovery) :
    Machine.Each (recoverStep graphs) (fun t r => OwnBinary (recoverStep graphs t r) r.model) s
        recoveries ↔
      Machine.Each (recoverStep graphs) (RecoversOwn graphs) s recoveries :=
  Machine.each_congr (fun _ => True) (fun _ _ _ => trivial)
    (fun _ _ _ => recoverStep_ownBinary_iff) trivial recoveries

end

def twoBinaries : System where
  manager := ⟨[1,2],fun context => if context = 1 then some "a.bin"
    else if context = 2 then some "b.bin" else none⟩
  models i := if i = 2 then ⟨"b.bin","main",2⟩ else ⟨"a.bin","main",1⟩

theorem recoverStep_takesOther :
    (∀ i < 3, twoBinaries.manager.contextMap (twoBinaries.models i).graphContext =
      some (twoBinaries.models i).contextBinFilepath) ∧
    ∃ s, Machine.run (recoverStep fun _ _ => true) twoBinaries
        [⟨0,some 3,.ok (),.ok ()⟩,⟨1,some 4,.ok (),.ok ()⟩] = s ∧
      (s.models 1).contextBinFilepath = "a.bin" ∧
      s.manager.contextMap (s.models 1).graphContext = some "b.bin" :=
  ⟨by decide,_,rfl,by decide,by decide⟩

inductive ExecuteStatus where
  | graphNoError
  | systemCommunication
  | other (code : Nat)
  deriving DecidableEq, Repr

inductive ExecuteError where
  | failed (message : String)
  | ssrUnrecoverable (message : String)
  deriving DecidableEq, Repr

structure TensorBinding where
  tensorByteSize : Nat
  ortTensorSize : Except String Nat
  tensorMemory : Except String Unit
  bindMemory : Except String Unit

def TensorBinding.bind (sizeMismatch : String) (b : TensorBinding) : Except String Unit := do
  let ortTensorSize ← b.ortTensorSize
  if b.tensorByteSize = ortTensorSize then pure () else throw sizeMismatch
  b.tensorMemory
  b.bindMemory

structure Attempt where
  inputs : List TensorBinding
  outputs : List TensorBinding
  createGraphProfilingScope : Except String Unit
  preRun : Except String Unit
  execute : ExecuteStatus
  queuedForOrt : Bool
  profilingActive : Bool
  extractBackendProfilingInfo : Except String Unit

variable {a : Attempt} {executions : List ExecuteStatus}

namespace Attempt

def prepare (a : Attempt) : Except String Unit := do
  a.inputs.forM (TensorBinding.bind "ORT Tensor data size does not match QNN tensor data size.")
  a.outputs.forM (TensorBinding.bind "ORT Tensor data size does not match QNN tensor data size")
  a.createGraphProfilingScope
  a.preRun

def finish (a : Attempt) : Except String Unit :=
  if !a.queuedForOrt && a.profilingActive then a.extractBackendProfilingInfo else .ok ()

def bindAndExecuteGraph (a : Attempt) (executeStatus : ExecuteStatus) :
    Except String Unit × ExecuteStatus × List ExecuteStatus :=
  match a.prepare with
  | .error e => (.error e,executeStatus,[])
  | .ok _ => (a.finish,a.execute,[a.execute])

end Attempt

structure Call where
  model : Nat
  numInputs : Except String Nat
  numOutputs : Except String Nat
  proactive : Recovery
  first : Attempt
  recovery : Recovery
  retry : Attempt

structure Outcome where
  status : Except ExecuteError Unit
  executions : List ExecuteStatus
  system : System

section
variable (graphs : Binary → String → Bool) (formatQnnError errorCode : ExecuteStatus → String)

def Call.checkCounts (call : Call) : Except String Unit := do
  let numInputs ← call.numInputs
  let numOutputs ← call.numOutputs
  if call.first.inputs.length ≤ numInputs then pure () else throw "Inconsistent input sizes"
  if call.first.outputs.length = numOutputs then pure () else throw "Inconsistent output sizes"

def System.isStale (s : System) (i : Nat) : Bool :=
  !(s.models i).contextBinFilepath.isEmpty && !s.manager.hasContextHandle (s.models i).graphContext

def System.recoverProactively (s : System) (call : Call) : Except String Unit × System :=
  if s.isStale call.model then s.recoverFromSSR graphs { call.proactive with model := call.model }
  else (.ok (),s)

def System.retryGraph (s : System) (call : Call) : Outcome :=
  match s.recoverFromSSR graphs { call.recovery with model := call.model } with
  | (.error e,s) => ⟨.error (.failed e),[],s⟩
  | (.ok _,s) =>
    match call.retry.bindAndExecuteGraph .systemCommunication with
    | (.error e,_,executions) => ⟨.error (.failed e),executions,s⟩
    | (.ok _,executeStatus,executions) =>
      if executeStatus = .systemCommunication then
        ⟨.error (.ssrUnrecoverable "NPU crashed again after SSR recovery."),executions,s⟩
      else ⟨.ok (),executions,s⟩

def System.attemptGraph (s : System) (call : Call) : Outcome :=
  match call.first.bindAndExecuteGraph .graphNoError with
  | (.error e,_,executions) => ⟨.error (.failed e),executions,s⟩
  | (.ok _,executeStatus,executions) =>
    if executeStatus = .systemCommunication then
      if !(s.models call.model).contextBinFilepath.isEmpty then
        let retried := s.retryGraph graphs call
        { retried with executions := executions ++ retried.executions }
      else
        ⟨.error (.ssrUnrecoverable ("NPU crashed. SSR detected. Recovery not supported" ++
          " (no context binary on disk — JIT or embed_mode=1). Error code: " ++
          errorCode executeStatus)),executions,s⟩
    else if executeStatus ≠ .graphNoError then
      ⟨.error (.failed ("QNN graph execute error. " ++ formatQnnError executeStatus)),executions,s⟩
    else ⟨.ok (),executions,s⟩

def System.executeGraph (s : System) (call : Call) : Outcome :=
  match call.checkCounts with
  | .error e => ⟨.error (.failed e),[],s⟩
  | .ok _ =>
    match s.recoverProactively graphs call with
    | (.error e,s) => ⟨.error (.failed e),[],s⟩
    | (.ok _,s) => s.attemptGraph graphs formatQnnError errorCode call

end

def Attempt.Succeeds (a : Attempt) : Prop := a.prepare = .ok () ∧ a.finish = .ok ()

section
variable {graphs : Binary → String → Bool} {formatQnnError errorCode : ExecuteStatus → String}
  {s : System} {call : Call}

structure ReachesRetry (graphs : Binary → String → Bool) (s : System) (call : Call) : Prop where
  counts : call.checkCounts = .ok ()
  proactive : (s.recoverProactively graphs call).1 = .ok ()
  onDisk : (((s.recoverProactively graphs call).2.models call.model).contextBinFilepath.isEmpty) = false
  first : call.first.Succeeds
  crashed : call.first.execute = .systemCommunication
  recovered : ((s.recoverProactively graphs call).2.recoverFromSSR graphs
    { call.recovery with model := call.model }).1 = .ok ()
  retried : call.retry.Succeeds

def LastSucceeded (o : Outcome) : Prop :=
  o.status = .ok () → o.executions.getLast? = some .graphNoError

theorem bindAndExecuteGraph_ok {before after : ExecuteStatus}
    (h : a.bindAndExecuteGraph before = (.ok (),after,executions)) :
    a.Succeeds ∧ after = a.execute ∧ executions = [a.execute] := by
  unfold Attempt.bindAndExecuteGraph at h
  cases hp : a.prepare with
  | error e => simp [hp] at h
  | ok u =>
    simp only [hp,Prod.mk.injEq] at h
    exact ⟨⟨hp,h.1⟩,h.2.1.symm,h.2.2.symm⟩

theorem bindAndExecuteGraph_of_succeeds (h : a.Succeeds) (before : ExecuteStatus) :
    a.bindAndExecuteGraph before = (.ok (),a.execute,[a.execute]) := by
  simp [Attempt.bindAndExecuteGraph,h.1,h.2]

theorem bindAndExecuteGraph_error {before after : ExecuteStatus} {e : String}
    (h : a.bindAndExecuteGraph before = (.error e,after,executions)) : ¬ a.Succeeds := by
  intro hs
  rw [bindAndExecuteGraph_of_succeeds hs] at h
  cases h

theorem retryGraph_lastSucceeded_iff (graphs : Binary → String → Bool) (s : System) (call : Call)
    (executed : List ExecuteStatus) :
    LastSucceeded { s.retryGraph graphs call with
        executions := executed ++ (s.retryGraph graphs call).executions } ↔
      ((s.recoverFromSSR graphs { call.recovery with model := call.model }).1 = .ok () →
        call.retry.Succeeds → ∀ code, call.retry.execute ≠ .other code) := by
  unfold System.retryGraph
  rcases s.recoverFromSSR graphs { call.recovery with model := call.model } with ⟨_ | u,s'⟩
  · simp [LastSucceeded]
  · rcases hb : call.retry.bindAndExecuteGraph .systemCommunication with ⟨_ | u,after,executions⟩
    · simp [LastSucceeded,bindAndExecuteGraph_error hb]
    · obtain ⟨hs,rfl,rfl⟩ := bindAndExecuteGraph_ok hb
      cases call.retry.execute <;> simp [LastSucceeded,hs]

theorem attemptGraph_lastSucceeded_iff :
    LastSucceeded (s.attemptGraph graphs formatQnnError errorCode call) ↔
      ((s.models call.model).contextBinFilepath.isEmpty = false → call.first.Succeeds →
        call.first.execute = .systemCommunication →
        (s.recoverFromSSR graphs { call.recovery with model := call.model }).1 = .ok () →
        call.retry.Succeeds → ∀ code, call.retry.execute ≠ .other code) := by
  unfold System.attemptGraph
  rcases hb : call.first.bindAndExecuteGraph .graphNoError with ⟨_ | u,after,executions⟩
  · simp [LastSucceeded,bindAndExecuteGraph_error hb]
  · obtain ⟨hs,rfl,rfl⟩ := bindAndExecuteGraph_ok hb
    cases he : call.first.execute with
    | graphNoError | other code => simp [LastSucceeded]
    | systemCommunication =>
      cases hempty : (s.models call.model).contextBinFilepath.isEmpty with
      | true => simp [LastSucceeded]
      | false =>
        have hretry := retryGraph_lastSucceeded_iff graphs s call [.systemCommunication]
        simpa [hs] using hretry

theorem executeGraph_lastSucceeded_iff (graphs : Binary → String → Bool)
    (formatQnnError errorCode : ExecuteStatus → String) (s : System) (call : Call) :
    LastSucceeded (s.executeGraph graphs formatQnnError errorCode call) ↔
      (ReachesRetry graphs s call → ∀ code, call.retry.execute ≠ .other code) := by
  unfold System.executeGraph
  cases hcounts : call.checkCounts with
  | error e =>
    refine iff_of_true (fun h => nomatch h) ?_
    intro h
    cases hcounts.symm.trans h.counts
  | ok u =>
    rcases hpro : s.recoverProactively graphs call with ⟨_ | u,s'⟩
    · refine iff_of_true (fun h => nomatch h) ?_
      intro h
      have := h.proactive
      simp [hpro] at this
    · refine attemptGraph_lastSucceeded_iff.trans ?_
      constructor
      · intro h hr
        have hdisk := hr.onDisk
        have hrecovered := hr.recovered
        simp only [hpro] at hdisk hrecovered
        exact h hdisk hr.first hr.crashed hrecovered hr.retried
      · intro h hdisk hfirst hcrashed hrecovered hretried
        exact h ⟨hcounts,by simp [hpro],by simpa [hpro] using hdisk,hfirst,hcrashed,
          by simpa [hpro] using hrecovered,hretried⟩

end

def attempt (execute : ExecuteStatus) : Attempt := ⟨[],[],.ok (),.ok (),execute,false,false,.ok ()⟩

def retryCall (retryStatus : ExecuteStatus) : Call :=
  ⟨0,.ok 0,.ok 0,⟨0,none,.ok (),.ok ()⟩,attempt .systemCommunication,⟨0,some 3,.ok (),.ok ()⟩,
    attempt retryStatus⟩

theorem executeGraph_retryFails :
    (twoBinaries.executeGraph (fun _ _ => true) (fun _ => "") (fun _ => "")
        (retryCall (.other 6031))).status = .ok () ∧
      (twoBinaries.executeGraph (fun _ _ => true) (fun _ => "") (fun _ => "")
        (retryCall (.other 6031))).executions = [.systemCommunication,.other 6031] :=
  ⟨rfl,rfl⟩

end QnnEp.Ssr
