import QnnEp.Foundation.Machine
import QnnEp.Power.Lifecycle

namespace QnnEp.Power

structure PerThreadHtpPowerConfigs where
  preRunPerfMode : Option HtpPerformanceMode
  postRunPerfMode : Option HtpPerformanceMode
  defaultPerfMode : Option HtpPerformanceMode
  rpcControlLatency : Nat
  rpcPollingTime : Nat
  powerConfigId : Nat
  deriving DecidableEq, Repr

def PerThreadHtpPowerConfigs.perfConfig (configs : PerThreadHtpPowerConfigs) (preRun : Bool) :
    Option HtpPerfConfig :=
  let mode := if preRun then configs.preRunPerfMode.or configs.defaultPerfMode
    else configs.postRunPerfMode.or configs.defaultPerfMode
  mode.map fun mode => ⟨configs.powerConfigId,mode,configs.rpcPollingTime,configs.rpcControlLatency⟩

namespace HtpPowerConfigManager

def request (m : HtpPowerConfigManager) (state : GraphState) (config : Option HtpPerfConfig)
    (environment : Environment) : Except Failure Unit × HtpPowerConfigManager :=
  match config with
  | some config => m.setState state config environment
  | none => (.ok (),m)

def setPerThreadHtpPowerConfigs (m : HtpPowerConfigManager)
    (mapping : Option PerThreadHtpPowerConfigs) (preRun : Bool) (environment : Environment) :
    Except Failure Unit × HtpPowerConfigManager :=
  m.request (if preRun then .runStart else .runDone) (mapping.bind (·.perfConfig preRun)) environment

end HtpPowerConfigManager

structure HtpPowerStateGuard where
  validPowerConfigId : Bool
  config : HtpPerfConfig
  preRunCalled : Bool
  finalized : Bool
  deriving DecidableEq, Repr

namespace HtpPowerStateGuard

def new (validPowerConfigId : Bool) (config : HtpPerfConfig) : HtpPowerStateGuard :=
  ⟨validPowerConfigId,config,false,false⟩

def perfConfig (g : HtpPowerStateGuard) : Option HtpPerfConfig :=
  if g.validPowerConfigId then some g.config else none

def exitConfig (g : HtpPowerStateGuard) : Option HtpPerfConfig :=
  if g.preRunCalled ∧ g.finalized = false then g.perfConfig else none

def setPreRunHtpPerfStatus (g : HtpPowerStateGuard) (m : HtpPowerConfigManager)
    (environment : Environment) : Except Failure Unit × HtpPowerStateGuard × HtpPowerConfigManager :=
  let result := m.request .initStart g.perfConfig environment
  (result.1,{ g with preRunCalled := true },result.2)

def setPostRunHtpPerf (g : HtpPowerStateGuard) (m : HtpPowerConfigManager)
    (environment : Environment) : Except Failure Unit × HtpPowerStateGuard × HtpPowerConfigManager :=
  let result := m.request .initDone g.perfConfig environment
  (result.1,{ g with finalized := result.1.isOk },result.2)

def destroy (g : HtpPowerStateGuard) (m : HtpPowerConfigManager) (environment : Environment) :
    HtpPowerConfigManager :=
  (m.request .initDone g.exitConfig environment).2

end HtpPowerStateGuard

inductive Task where
  | run (mapping : Option PerThreadHtpPowerConfigs)
  | initialisation (guard : HtpPowerStateGuard)
  deriving DecidableEq, Repr

inductive Phase where
  | working
  | leaving
  | gone
  deriving DecidableEq, Repr

structure Job where
  task : Task
  phase : Phase
  started : Bool
  finished : Bool
  deriving DecidableEq, Repr

def Job.inFlight (job : Job) : Bool := job.started && !job.finished

def phaseAfter : Except Failure Unit → Phase
  | .ok _ => .working
  | .error _ => .leaving

structure SharedManager where
  manager : HtpPowerConfigManager
  jobs : List Job

namespace SharedManager
open HtpPowerConfigManager (Service)

def new (qnnInterface : Bool) : SharedManager := ⟨HtpPowerConfigManager.new qnnInterface,[]⟩

def inFlight (s : SharedManager) : Nat := s.jobs.countP Job.inFlight

def openRun (s : SharedManager) (index : Nat) : Option (Job × Option PerThreadHtpPowerConfigs) :=
  s.jobs[index]?.bind fun job =>
    match job.task,job.phase with
    | .run mapping,.working | .run mapping,.leaving => some (job,mapping)
    | _,_ => none

def openInit (s : SharedManager) (index : Nat) : Option (Job × HtpPowerStateGuard) :=
  s.jobs[index]?.bind fun job =>
    match job.task,job.phase with
    | .initialisation guard,.working | .initialisation guard,.leaving => some (job,guard)
    | _,_ => none

def workingInit (s : SharedManager) (index : Nat) : Option (Job × HtpPowerStateGuard) :=
  (s.openInit index).filter fun entry => entry.1.phase = .working

inductive Event where
  | startRun (mapping : Option PerThreadHtpPowerConfigs) (environment : Environment)
  | finishRun (index : Nat) (environment : Environment)
  | startInit (validPowerConfigId : Bool) (config : HtpPerfConfig) (environment : Environment)
  | postRunInit (index : Nat) (environment : Environment)
  | leaveInit (index : Nat) (environment : Environment)
  | service (service : Service)

-- A start with no performance mode goes on to execute although SetState is never called, and one that
-- SetState rejects returns before it executes; so a job has started unless its start was rejected.
def starts (s : SharedManager) (config : Option HtpPerfConfig) : Bool := config.all s.manager.admits

def step (s : SharedManager) : Event → SharedManager
  | .startRun mapping environment =>
    let result := s.manager.setPerThreadHtpPowerConfigs mapping true environment
    let started := s.starts (mapping.bind (·.perfConfig true))
    ⟨result.2,s.jobs ++ [⟨.run mapping,phaseAfter result.1,started,false⟩]⟩
  | .finishRun index environment =>
    match s.openRun index with
    | some (job,mapping) =>
      ⟨(s.manager.setPerThreadHtpPowerConfigs mapping false environment).2,
        s.jobs.set index { job with phase := .gone, finished := true }⟩
    | none => s
  | .startInit validPowerConfigId config environment =>
    let guard := HtpPowerStateGuard.new validPowerConfigId config
    let result := guard.setPreRunHtpPerfStatus s.manager environment
    let started := s.starts guard.perfConfig
    ⟨result.2.2,s.jobs ++ [⟨.initialisation result.2.1,phaseAfter result.1,started,false⟩]⟩
  | .postRunInit index environment =>
    match s.workingInit index with
    | some (job,guard) =>
      let result := guard.setPostRunHtpPerf s.manager environment
      ⟨result.2.2,s.jobs.set index { job with
        task := .initialisation result.2.1, phase := .leaving, finished := true }⟩
    | none => s
  | .leaveInit index environment =>
    match s.openInit index with
    | some (job,guard) =>
      ⟨guard.destroy s.manager environment,
        s.jobs.set index { job with phase := .gone, finished := true }⟩
    | none => s
  | .service service => { s with manager := s.manager.serve service }

end SharedManager

namespace HtpPowerConfigManager
variable {m : HtpPowerConfigManager} {state : GraphState} {environment : Environment}

theorem trackRun_relaxations (m : HtpPowerConfigManager) (state : GraphState) :
    (m.trackRun state).relaxations = m.relaxations := by
  rw [trackRun_eq]

theorem setState_keepsCount (m : HtpPowerConfigManager) (state : GraphState)
    (config : HtpPerfConfig) (environment : Environment) :
    (if m.admits config then m.trackRun state else m).KeepsCount
      (m.setState state config environment).2 := by
  cases hboosts : config.perfMode.boosts with
  | true =>
    simp only [setState,hboosts,if_true,setBoostedState]
    split
    · exact setSustainedPerformance_keepsCount (m.trackRun state) state config environment
    · exact KeepsCount.refl m
  | false =>
    obtain ⟨configs,heq⟩ := setState_dropped m hboosts state environment
    rw [heq,admits_of_not_boosts hboosts,if_pos rfl]
    have hdropped := abortActive_keepsCount (m.trackRun state) config.htpPowerConfigClientId environment
    exact ⟨hdropped.inflightRunCount,hdropped.relaxations⟩

theorem request_keepsCount (m : HtpPowerConfigManager) (state : GraphState)
    (config : Option HtpPerfConfig) (environment : Environment) :
    (if config.any m.admits then m.trackRun state else m).KeepsCount
      (m.request state config environment).2 := by
  cases config with
  | none => exact KeepsCount.refl m
  | some config => exact setState_keepsCount m state config environment

theorem request_inflightRunCount (m : HtpPowerConfigManager) (state : GraphState)
    (config : Option HtpPerfConfig) (environment : Environment) :
    (m.request state config environment).2.inflightRunCount =
      if config.any m.admits then (m.trackRun state).inflightRunCount else m.inflightRunCount := by
  rw [(request_keepsCount m state config environment).inflightRunCount]
  split <;> rfl

theorem serve_keepsCount (m : HtpPowerConfigManager) {service : Service}
    (h : service ≠ .releaseTimerThread) : m.KeepsCount (m.serve service) := by
  cases service with
  | createTimerThread clientId threadStarts =>
    simp only [serve,createTimerThread]
    split <;> exact ⟨rfl,.inl rfl⟩
  | releaseTimerThread => exact absurd rfl h
  | dropBoostedPowerConfigId clientId | loop | wake | elapse duration => exact ⟨rfl,.inl rfl⟩
  | callback environment =>
    simp only [serve,callback]
    split
    · have hcalled := timerCallback_keepsCount m environment
      exact ⟨hcalled.inflightRunCount,hcalled.relaxations⟩
    · exact KeepsCount.refl m
  | callbackReturn =>
    simp only [serve,callbackReturn]
    split <;> exact ⟨rfl,.inl rfl⟩

def RelaxesAtZero (m m' : HtpPowerConfigManager) : Prop :=
  m'.relaxations = m.relaxations ∨ m'.inflightRunCount = 0

theorem KeepsCount.relaxesAtZero {m' : HtpPowerConfigManager} (h : m.KeepsCount m') :
    RelaxesAtZero m m' :=
  h.relaxations.imp_right h.inflightRunCount.trans

theorem request_relaxesAtZero (m : HtpPowerConfigManager) (state : GraphState)
    (config : Option HtpPerfConfig) (environment : Environment) :
    RelaxesAtZero m (m.request state config environment).2 := by
  refine (request_keepsCount m state config environment).relaxesAtZero.imp_left ?_
  intro hkept
  rw [hkept]
  split
  · exact trackRun_relaxations m state
  · rfl

theorem serve_relaxesAtZero (m : HtpPowerConfigManager) (service : Service) :
    RelaxesAtZero m (m.serve service) := by
  by_cases hrelease : service = .releaseTimerThread
  · subst hrelease
    exact .inl rfl
  · exact (serve_keepsCount m hrelease).relaxesAtZero

end HtpPowerConfigManager

namespace SharedManager
open HtpPowerConfigManager (RelaxesAtZero)

def Counted (s : SharedManager) : Prop := s.manager.inflightRunCount = s.inFlight

def RelaxesIdle (s : SharedManager) (event : Event) : Prop :=
  (s.step event).manager.relaxations ≠ s.manager.relaxations → (s.step event).inFlight = 0

def concluding (s : SharedManager) : Event → Option (Job × Option HtpPerfConfig)
  | .finishRun index _ => (s.openRun index).map fun entry =>
    (entry.1,entry.2.bind (·.perfConfig false))
  | .postRunInit index _ => (s.workingInit index).map fun entry => (entry.1,entry.2.perfConfig)
  | .leaveInit index _ => (s.openInit index).map fun entry => (entry.1,entry.2.exitConfig)
  | .startRun _ _ | .startInit _ _ _ | .service _ => none

def Balanced (s : SharedManager) (job : Job) (config : Option HtpPerfConfig) : Prop :=
  if job.inFlight then config.any s.manager.admits = true
  else config.any s.manager.admits = true → s.manager.inflightRunCount = 0

def Paired (s : SharedManager) (event : Event) : Prop :=
  match event,s.concluding event with
  | .startRun mapping _,_ => (mapping.bind (·.perfConfig true)).isSome
  | .startInit validPowerConfigId _ _,_ => validPowerConfigId = true
  | .service .releaseTimerThread,_ => ∀ job ∈ s.jobs, job.inFlight = false
  | _,some (job,config) => s.Balanced job config
  | _,none => True

section
variable {s : SharedManager} {state : GraphState} {config : Option HtpPerfConfig}
  {environment : Environment} {job job' : Job} {index : Nat}

theorem start_counted (hcounted : s.Counted)
    (hstate : ∀ m : HtpPowerConfigManager, (m.trackRun state).inflightRunCount = m.inflightRunCount + 1)
    (hjob : job.inFlight = s.starts config) :
    Counted ⟨(s.manager.request state config environment).2,s.jobs ++ [job]⟩ ↔ config.isSome := by
  unfold Counted inFlight at hcounted ⊢
  simp only [HtpPowerConfigManager.request_inflightRunCount,hstate,hcounted,List.countP_append,
    List.countP_singleton,hjob,starts]
  cases config with
  | none => simp
  | some config => cases h : s.manager.admits config <;> simp [h]

theorem conclude_counted (hcounted : s.Counted) (hget : s.jobs[index]? = some job)
    (hjob' : job'.inFlight = false)
    (hstate : ∀ m : HtpPowerConfigManager, (m.trackRun state).inflightRunCount = m.inflightRunCount - 1) :
    Counted ⟨(s.manager.request state config environment).2,s.jobs.set index job'⟩ ↔
      s.Balanced job config := by
  obtain ⟨hindex,hjob⟩ := List.getElem?_eq_some_iff.mp hget
  unfold Counted at hcounted
  unfold Counted inFlight Balanced
  simp only [HtpPowerConfigManager.request_inflightRunCount,hstate,List.countP_set hindex,hjob,hjob',
    Bool.false_eq_true,if_false,Nat.add_zero]
  change _ = s.inFlight - _ ↔ _
  cases hflight : job.inFlight with
  | true =>
    have hpos : 0 < s.inFlight := List.countP_pos_iff.mpr ⟨job,List.mem_of_getElem? hget,hflight⟩
    cases config.any s.manager.admits <;> simp <;> omega
  | false => cases config.any s.manager.admits <;> simp <;> omega

theorem openRun_some {mapping : Option PerThreadHtpPowerConfigs}
    (h : s.openRun index = some (job,mapping)) : s.jobs[index]? = some job := by
  obtain ⟨job₀,hget,hmatch⟩ := Option.bind_eq_some_iff.mp h
  split at hmatch <;> cases hmatch <;> exact hget

theorem openInit_some {guard : HtpPowerStateGuard} (h : s.openInit index = some (job,guard)) :
    s.jobs[index]? = some job := by
  obtain ⟨job₀,hget,hmatch⟩ := Option.bind_eq_some_iff.mp h
  split at hmatch <;> cases hmatch <;> exact hget

theorem workingInit_some {guard : HtpPowerStateGuard} (h : s.workingInit index = some (job,guard)) :
    s.jobs[index]? = some job :=
  openInit_some (Option.filter_eq_some_iff.mp h).1

theorem trackRun_done (m : HtpPowerConfigManager) :
    (m.trackRun .runDone).inflightRunCount = m.inflightRunCount - 1 ∧
      (m.trackRun .initDone).inflightRunCount = m.inflightRunCount - 1 := by
  simp only [HtpPowerConfigManager.trackRun]
  split
  · exact ⟨rfl,rfl⟩
  · omega

theorem serve_counted (hcounted : s.Counted) (service : HtpPowerConfigManager.Service) :
    (s.step (.service service)).Counted ↔ s.Paired (.service service) := by
  cases service with
  | releaseTimerThread =>
    refine eq_comm.trans ?_
    simp [Paired,step,inFlight,HtpPowerConfigManager.serve,HtpPowerConfigManager.releaseTimerThread,
      List.countP_eq_zero]
  | createTimerThread | dropBoostedPowerConfigId | loop | wake | callback | callbackReturn | elapse =>
    refine iff_of_true ?_ trivial
    exact (s.manager.serve_keepsCount (by simp)).inflightRunCount.trans hcounted

theorem step_counted (hcounted : s.Counted) (event : Event) :
    (s.step event).Counted ↔ s.Paired event := by
  cases event with
  | startRun mapping environment => exact start_counted hcounted (fun _ => rfl) (Bool.and_true _)
  | startInit validPowerConfigId config environment =>
    have hiff : (s.step (.startInit validPowerConfigId config environment)).Counted ↔
        (HtpPowerStateGuard.new validPowerConfigId config).perfConfig.isSome :=
      start_counted hcounted (fun _ => rfl) (Bool.and_true _)
    rw [hiff]
    cases validPowerConfigId <;> simp [Paired,HtpPowerStateGuard.perfConfig,HtpPowerStateGuard.new]
  | finishRun index environment =>
    cases hopen : s.openRun index with
    | none =>
      simp only [step,Paired,concluding,hopen,Option.map_none]
      exact iff_of_true hcounted trivial
    | some entry =>
      simp only [step,Paired,concluding,hopen,Option.map_some]
      exact conclude_counted hcounted (openRun_some hopen) (Bool.and_false _)
        fun m => (trackRun_done m).1
  | postRunInit index environment =>
    cases hopen : s.workingInit index with
    | none =>
      simp only [step,Paired,concluding,hopen,Option.map_none]
      exact iff_of_true hcounted trivial
    | some entry =>
      simp only [step,Paired,concluding,hopen,Option.map_some]
      exact conclude_counted hcounted (workingInit_some hopen) (Bool.and_false _)
        fun m => (trackRun_done m).2
  | leaveInit index environment =>
    cases hopen : s.openInit index with
    | none =>
      simp only [step,Paired,concluding,hopen,Option.map_none]
      exact iff_of_true hcounted trivial
    | some entry =>
      simp only [step,Paired,concluding,hopen,Option.map_some]
      exact conclude_counted hcounted (openInit_some hopen) (Bool.and_false _)
        fun m => (trackRun_done m).2
  | service service => exact serve_counted hcounted service

theorem step_relaxesAtZero (s : SharedManager) (event : Event) :
    RelaxesAtZero s.manager (s.step event).manager := by
  cases event with
  | startRun mapping environment => exact s.manager.request_relaxesAtZero _ _ environment
  | startInit validPowerConfigId config environment =>
    exact s.manager.request_relaxesAtZero _ _ environment
  | finishRun index environment | postRunInit index environment | leaveInit index environment =>
    simp only [step]
    split
    · exact s.manager.request_relaxesAtZero _ _ environment
    · exact .inl rfl
  | service service => exact s.manager.serve_relaxesAtZero service

end

theorem inflightRunCount_eq_iff (qnnInterface : Bool) (events : List Event) :
    (Machine.Always step Counted (new qnnInterface) events ∧
      Machine.Each step RelaxesIdle (new qnnInterface) events) ↔
      Machine.Each step Paired (new qnnInterface) events := by
  have hcounted : Machine.Always step Counted (new qnnInterface) events ↔
      Machine.Each step Paired (new qnnInterface) events := by
    refine Machine.always_iff_each (fun _ => True) (fun _ _ _ => trivial) ?_ trivial ?_ events
    · exact fun _ event _ h => step_counted h event
    · rfl
  refine ⟨fun h => hcounted.mp h.1,?_⟩
  intro hpaired
  have halways := hcounted.mpr hpaired
  refine ⟨halways,Machine.each_mono ?_ (Machine.always_next halways)⟩
  intro s event hnext hrelaxes
  exact hnext.symm.trans ((step_relaxesAtZero s event).resolve_left hrelaxes)

def burstRun : Option PerThreadHtpPowerConfigs := some ⟨some .htpBurst,some .htpBurst,none,0,0,1⟩

def postRunOnly : Option PerThreadHtpPowerConfigs := some ⟨none,some .htpBalanced,none,0,0,1⟩

def unpairedDone : List Event :=
  [.service (.createTimerThread 1 true),
    .startRun burstRun .quiet,
    .startRun postRunOnly .quiet,.finishRun 1 .quiet,
    .startRun burstRun .quiet,.finishRun 2 .quiet,
    .service .loop,.service (.elapse kDefaultTimerTimeoutUs),.service .wake,
    .service (.callback .quiet)]

theorem inflightRunCount_unpairedDone :
    (Machine.run step (new true) unpairedDone).manager.inflightRunCount = 0 ∧
      (Machine.run step (new true) unpairedDone).inFlight = 1 ∧
      (Machine.run step (new true) unpairedDone).manager.relaxations = 1 := by
  decide

end SharedManager

end QnnEp.Power
