import QnnEp.Power.Configs
import QnnEp.Timing.Caller

namespace QnnEp.Power
open Timing (Timer)

inductive GraphState where
  | initStart
  | initDone
  | runStart
  | runDone
  | timeout
  | none
  deriving DecidableEq, Repr

structure Environment where
  infrastructure : Nat → Infrastructure
  contended : Bool

def Environment.quiet : Environment := ⟨fun _ => .perf true,false⟩

def kDefaultTimerTimeoutUs : Nat := 300000

def HtpPerformanceMode.boosts (mode : HtpPerformanceMode) : Bool :=
  mode = .htpSustainedHighPerformance ∨ mode = .htpBurst

structure HtpPowerConfigManager where
  configs : PowerConfigs
  timer : Option Timer
  timerCallbackArg : Option Nat
  timerActive : Bool
  callbackRan : Bool
  inflightRunCount : Nat
  boostedConfigIds : List Nat
  relaxations : Nat

namespace HtpPowerConfigManager

def new (qnnInterface : Bool) : HtpPowerConfigManager :=
  ⟨PowerConfigs.new qnnInterface,none,none,false,false,0,[],0⟩

def stage (m : HtpPowerConfigManager) (request : Staging Unit) :
    Except Failure Unit × HtpPowerConfigManager :=
  ((request.run.run m.configs).1,{ m with configs := (request.run.run m.configs).2 })

def mapTimer (m : HtpPowerConfigManager) (f : Timer → Timer) : HtpPowerConfigManager :=
  { m with timer := m.timer.map f }

def timerInUse (m : HtpPowerConfigManager) : Bool := m.timer.any Timer.timerInUse

def isTimerThreadRunning (m : HtpPowerConfigManager) : Bool :=
  match m.timer with
  | none => false
  | some t =>
    match t.timerInUse,t.remainingDuration with
    | true,some remain => 0 < remain % 2 ^ 64 ∧ remain % 2 ^ 64 < kDefaultTimerTimeoutUs
    | _,_ => false

def abortTimer (m : HtpPowerConfigManager) : HtpPowerConfigManager :=
  { m.mapTimer Timer.abortAndWait with callbackRan := false }

def launchTimer (m : HtpPowerConfigManager) : HtpPowerConfigManager :=
  m.mapTimer fun t => (t.launch kDefaultTimerTimeoutUs).2

def registerBoostedId (m : HtpPowerConfigManager) (clientId : Nat) : HtpPowerConfigManager :=
  if clientId ∈ m.boostedConfigIds then m
  else { m with boostedConfigIds := m.boostedConfigIds ++ [clientId] }

def removeBoostedId (m : HtpPowerConfigManager) (clientId : Nat) : HtpPowerConfigManager :=
  { m with boostedConfigIds := m.boostedConfigIds.filter (· ≠ clientId) }

def dropBoostedPowerConfigId (m : HtpPowerConfigManager) (clientId : Nat) : HtpPowerConfigManager :=
  m.removeBoostedId clientId

def relax (config : HtpPerfConfig) (environment : Environment) (configs : PowerConfigs)
    (clientId : Nat) : PowerConfigs :=
  ((PowerConfigs.setHtpPowerCustomConfigs clientId (relaxedPerfPowerConfig clientId)
    config.rpcPollingTime config.rpcControlLatency (environment.infrastructure clientId)).run.run
      configs).2

def relaxBoosted (m : HtpPowerConfigManager) (config : HtpPerfConfig) (environment : Environment) :
    HtpPowerConfigManager :=
  { m with
    configs := m.boostedConfigIds.foldl (relax config environment) m.configs
    boostedConfigIds := []
    relaxations := m.relaxations + 1 }

def setSustainedPerformance (m : HtpPowerConfigManager) (state : GraphState) (config : HtpPerfConfig)
    (environment : Environment) : Except Failure Unit × HtpPowerConfigManager :=
  let clientId := config.htpPowerConfigClientId
  let infrastructure := environment.infrastructure clientId
  match state with
  | .runDone =>
    let m := m.registerBoostedId clientId
    let m := if m.isTimerThreadRunning then m.abortTimer else m
    (.ok (),m.launchTimer)
  | .runStart =>
    let m := m.registerBoostedId clientId
    if m.isTimerThreadRunning then (.ok (),m.abortTimer)
    else m.stage (PowerConfigs.setHtpPowerConfigs config infrastructure)
  | .initDone =>
    m.stage (PowerConfigs.setHtpPowerCustomConfigs clientId (relaxedPerfPowerConfig clientId)
      config.rpcPollingTime config.rpcControlLatency infrastructure)
  | .initStart =>
    if m.isTimerThreadRunning then (.ok (),m.abortTimer)
    else m.stage (PowerConfigs.setHtpPowerConfigs config infrastructure)
  | .timeout =>
    if environment.contended then (.ok (),m)
    else if m.inflightRunCount = 0 then (.ok (),m.relaxBoosted config environment)
    else (.ok (),m)
  | .none => (.ok (),m)

def donePowerConfig (clientId : Nat) : HtpPerformanceMode → Option PowerConfig
  | .htpLowBalanced | .htpBalanced | .htpHighPerformance => some (relaxedPerfPowerConfig clientId)
  | .htpExtremePowerSaver => some (extremeLowPerfPowerConfig clientId)
  | .htpLowPowerSaver | .htpHighPowerSaver | .htpPowerSaver => some (releasedPerfPowerConfig clientId)
  | .htpDefault | .htpSustainedHighPerformance | .htpBurst => none

def setPerformance (m : HtpPowerConfigManager) (state : GraphState) (config : HtpPerfConfig)
    (environment : Environment) : Except Failure Unit × HtpPowerConfigManager :=
  let clientId := config.htpPowerConfigClientId
  let infrastructure := environment.infrastructure clientId
  match state with
  | .runDone | .initDone =>
    match donePowerConfig clientId config.perfMode with
    | some powerConfig =>
      m.stage (PowerConfigs.setHtpPowerCustomConfigs clientId powerConfig config.rpcPollingTime
        config.rpcControlLatency infrastructure)
    | none => (.ok (),m)
  | .runStart | .initStart => m.stage (PowerConfigs.setHtpPowerConfigs config infrastructure)
  | .timeout | .none => (.ok (),m)

def admits (m : HtpPowerConfigManager) (config : HtpPerfConfig) : Bool :=
  ¬(config.perfMode.boosts ∧ m.timerActive = false)

def trackRun (m : HtpPowerConfigManager) : GraphState → HtpPowerConfigManager
  | .runStart | .initStart => { m with inflightRunCount := m.inflightRunCount + 1 }
  | .runDone | .initDone =>
    if 0 < m.inflightRunCount then { m with inflightRunCount := m.inflightRunCount - 1 } else m
  | .timeout | .none => m

def setBoostedState (m : HtpPowerConfigManager) (state : GraphState) (config : HtpPerfConfig)
    (environment : Environment) : Except Failure Unit × HtpPowerConfigManager :=
  if m.admits config then (m.trackRun state).setSustainedPerformance state config environment
  else (.error (.status "Timer is not active. Cannot apply sustained/burst performance config."),m)

def timerCallback (m : HtpPowerConfigManager) (environment : Environment) : HtpPowerConfigManager :=
  match m.timerActive,m.timerCallbackArg with
  | true,some powerConfigId =>
    (m.setBoostedState .timeout ⟨powerConfigId,.htpSustainedHighPerformance,0,0⟩ environment).2
  | _,_ => m

def callbackPending (m : HtpPowerConfigManager) : Bool :=
  m.timer.any (·.position = .inCallback) ∧ m.callbackRan = false

def finishCallback (m : HtpPowerConfigManager) (environment : Environment) : HtpPowerConfigManager :=
  if m.callbackPending then m.timerCallback environment else m

def abortActiveTimerAndDropBoostedId (m : HtpPowerConfigManager) (clientId : Nat)
    (environment : Environment) : HtpPowerConfigManager :=
  let m := m.removeBoostedId clientId
  if m.timerInUse then (m.finishCallback environment).abortTimer else m

def setState (m : HtpPowerConfigManager) (state : GraphState) (config : HtpPerfConfig)
    (environment : Environment) : Except Failure Unit × HtpPowerConfigManager :=
  if config.perfMode.boosts then m.setBoostedState state config environment
  else
    let m := (m.trackRun state).abortActiveTimerAndDropBoostedId config.htpPowerConfigClientId
      environment
    if config.perfMode = .htpDefault then (.ok (),m)
    else m.setPerformance state config environment

def createTimerThread (m : HtpPowerConfigManager) (clientId : Nat) (threadStarts : Bool) :
    HtpPowerConfigManager :=
  match m.timer,Timer.create threadStarts with
  | none,some t => { m with timer := some t, timerCallbackArg := some clientId, timerActive := true }
  | _,_ => m

def releaseTimerThread (m : HtpPowerConfigManager) : HtpPowerConfigManager :=
  { m with
    timerActive := false
    inflightRunCount := 0
    timer := none
    timerCallbackArg := none
    callbackRan := false
    boostedConfigIds := [] }

def callback (m : HtpPowerConfigManager) (environment : Environment) : HtpPowerConfigManager :=
  if m.callbackPending then { m.timerCallback environment with callbackRan := true } else m

def callbackReturn (m : HtpPowerConfigManager) : HtpPowerConfigManager :=
  if m.callbackRan then
    { m.mapTimer (fun t => t.callbackReturn.getD t) with callbackRan := false }
  else m

inductive Service where
  | createTimerThread (clientId : Nat) (threadStarts : Bool)
  | releaseTimerThread
  | dropBoostedPowerConfigId (clientId : Nat)
  | loop
  | wake
  | callback (environment : Environment)
  | callbackReturn
  | elapse (duration : Nat)

def serve (m : HtpPowerConfigManager) : Service → HtpPowerConfigManager
  | .createTimerThread clientId threadStarts => m.createTimerThread clientId threadStarts
  | .releaseTimerThread => m.releaseTimerThread
  | .dropBoostedPowerConfigId clientId => m.dropBoostedPowerConfigId clientId
  | .loop => m.mapTimer fun t => t.loop.getD t
  | .wake => m.mapTimer fun t => t.wake.getD t
  | .callback environment => m.callback environment
  | .callbackReturn => m.callbackReturn
  | .elapse duration => m.mapTimer fun t => t.elapse duration

inductive Event where
  | setState (state : GraphState) (config : HtpPerfConfig) (environment : Environment)
  | service (service : Service)

def step (m : HtpPowerConfigManager) : Event → HtpPowerConfigManager
  | .setState state config environment => (m.setState state config environment).2
  | .service service => m.serve service

end HtpPowerConfigManager

end QnnEp.Power
