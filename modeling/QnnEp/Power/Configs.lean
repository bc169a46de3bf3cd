import Mathlib.Data.List.Basic
import Mathlib.Algebra.Order.Ring.Int

namespace QnnEp.Power

inductive HtpPerformanceMode where
  | htpDefault
  | htpSustainedHighPerformance
  | htpBurst
  | htpHighPerformance
  | htpPowerSaver
  | htpLowPowerSaver
  | htpHighPowerSaver
  | htpLowBalanced
  | htpBalanced
  | htpExtremePowerSaver
  deriving DecidableEq, Repr

inductive PowerMode where
  | performanceMode
  | powerSaverMode
  deriving DecidableEq, Repr

inductive VoltageCorner where
  | disable
  | minVoltageCorner
  | svs2
  | svs
  | svsPlus
  | nom
  | nomPlus
  | turbo
  | maxVoltageCorner
  deriving DecidableEq, Repr

structure DcvsV3 where
  contextId : Nat
  powerMode : PowerMode
  dcvsEnable : Nat
  sleepLatency : Nat
  busVoltageCornerMin : VoltageCorner
  busVoltageCornerTarget : VoltageCorner
  busVoltageCornerMax : VoltageCorner
  coreVoltageCornerMin : VoltageCorner
  coreVoltageCornerTarget : VoltageCorner
  coreVoltageCornerMax : VoltageCorner
  setDcvsEnable : Nat := 1
  setSleepLatency : Nat := 1
  sleepDisable : Nat := 0
  setSleepDisable : Nat := 0
  setBusParams : Nat := 1
  setCoreParams : Nat := 1
  deriving DecidableEq, Repr

inductive PowerConfig where
  | rpcPollingTime (value : Nat)
  | rpcControlLatency (value : Nat)
  | dcvsV3 (config : DcvsV3)
  deriving DecidableEq, Repr

inductive Failure where
  | status (message : String)
  | thrown (message : String)
  deriving DecidableEq, Repr

inductive Infrastructure where
  | unavailable
  | otherType (infraType : Nat)
  | perf (accepted : Bool)
  deriving DecidableEq, Repr

variable {infrastructure : Infrastructure}

structure HtpPerfConfig where
  htpPowerConfigClientId : Nat
  perfMode : HtpPerformanceMode
  rpcPollingTime : Nat
  rpcControlLatency : Nat
  deriving DecidableEq, Repr

structure BackendCall where
  powerConfigId : Nat
  powerConfigs : List PowerConfig
  accepted : Bool
  deriving DecidableEq, Repr

def kSleepMinLatency : Nat := 40
def kSleepLowLatency : Nat := 100
def kSleepMediumLatency : Nat := 1000
def kSleepHighLatency : Nat := 2000
def kSleepHigherLatency : Nat := 65535
def kDcvsDisable : Nat := 0
def kDcvsEnable : Nat := 1
def kDisableRpcPolling : Nat := 0
def kDisableRpcControlLatency : Nat := 0
def kMaxRpcPolling : Nat := 9999

def votes (clientId : Nat) (powerMode : PowerMode) (sleepLatency dcvsEnable : Nat)
    (low target high : VoltageCorner) : PowerConfig :=
  .dcvsV3 ⟨clientId,powerMode,dcvsEnable,sleepLatency,low,target,high,low,target,high,1,1,0,0,1,1⟩

def setHtpPerformancePowerConfig (clientId : Nat) : HtpPerformanceMode → Except Failure PowerConfig
  | .htpBurst | .htpSustainedHighPerformance =>
    .ok (votes clientId .performanceMode kSleepMinLatency kDcvsDisable
      .maxVoltageCorner .maxVoltageCorner .maxVoltageCorner)
  | .htpHighPerformance =>
    .ok (votes clientId .performanceMode kSleepLowLatency kDcvsDisable .turbo .turbo .turbo)
  | .htpBalanced =>
    .ok (votes clientId .performanceMode kSleepMediumLatency kDcvsEnable .nomPlus .nomPlus .nomPlus)
  | .htpLowBalanced =>
    .ok (votes clientId .performanceMode kSleepMediumLatency kDcvsEnable .nom .nom .nom)
  | .htpHighPowerSaver =>
    .ok (votes clientId .performanceMode kSleepMediumLatency kDcvsEnable .svsPlus .svsPlus .svsPlus)
  | .htpPowerSaver =>
    .ok (votes clientId .performanceMode kSleepMediumLatency kDcvsEnable .svs .svs .svs)
  | .htpLowPowerSaver =>
    .ok (votes clientId .performanceMode kSleepMediumLatency kDcvsEnable .svs2 .svs2 .svs2)
  | .htpExtremePowerSaver =>
    .ok (votes clientId .powerSaverMode kSleepMediumLatency kDcvsEnable .disable .disable .disable)
  | .htpDefault => .error (.thrown "Invalid performance profile 0")

def relaxedPerfPowerConfig (clientId : Nat) : PowerConfig :=
  votes clientId .powerSaverMode kSleepHighLatency kDcvsEnable .svs2 .svs .svs

def extremeLowPerfPowerConfig (clientId : Nat) : PowerConfig :=
  votes clientId .powerSaverMode kSleepHigherLatency kDcvsEnable .disable .disable .disable

def releasedPerfPowerConfig (clientId : Nat) : PowerConfig :=
  votes clientId .powerSaverMode kSleepHigherLatency kDcvsEnable
    .minVoltageCorner .minVoltageCorner .minVoltageCorner

structure PowerConfigs where
  qnnInterface : Bool
  lastSetRpcPollingTime : Nat
  lastSetRpcControlLatency : Nat
  rpcPollingTimeSet : Bool
  rpcControlLatencySet : Bool
  htpPerformanceModeSet : Bool
  powerConfigs : List PowerConfig
  calls : List BackendCall
  deriving DecidableEq, Repr

abbrev Staging := ExceptT Failure (StateM PowerConfigs)

namespace PowerConfigs

def new (qnnInterface : Bool) : PowerConfigs :=
  ⟨qnnInterface,kDisableRpcPolling,kDisableRpcControlLatency,false,false,false,[],[]⟩

def addRpcPollingTime (rpcPollingTime : Nat) : Staging Unit := do
  let s ← get
  if kMaxRpcPolling < rpcPollingTime then
    throw (.status ("Cannot set RPC polling time to " ++ toString rpcPollingTime ++
      ". Max allowable RPC polling time is: " ++ toString kMaxRpcPolling))
  else if s.rpcPollingTimeSet then
    throw (.status "There is already a pending RPC polling time config")
  else if rpcPollingTime = s.lastSetRpcPollingTime then
    pure ()
  else
    set { s with
      powerConfigs := s.powerConfigs ++ [PowerConfig.rpcPollingTime rpcPollingTime]
      lastSetRpcPollingTime := rpcPollingTime
      rpcPollingTimeSet := true }

def addRpcControlLatency (rpcControlLatency : Nat) : Staging Unit := do
  let s ← get
  if s.rpcControlLatencySet then
    throw (.status "There is already a pending RPC control latency config")
  else if rpcControlLatency = s.lastSetRpcControlLatency then
    pure ()
  else
    set { s with
      powerConfigs := s.powerConfigs ++ [PowerConfig.rpcControlLatency rpcControlLatency]
      lastSetRpcControlLatency := rpcControlLatency
      rpcControlLatencySet := true }

def addHtpPerformanceConfig (config : PowerConfig) : Staging Unit :=
  modify fun s => { s with
    powerConfigs := s.powerConfigs ++ [config], htpPerformanceModeSet := true }

def addHtpPerformanceMode (mode : HtpPerformanceMode) (clientId : Nat) : Staging Unit := do
  let s ← get
  if s.htpPerformanceModeSet then
    throw (.status "There is already a pending HTP performance mode config")
  else
    let config ← liftExcept (setHtpPerformancePowerConfig clientId mode)
    addHtpPerformanceConfig config

def setPowerConfig (clientId : Nat) (infrastructure : Infrastructure) : Staging Unit := do
  let s ← get
  if s.powerConfigs = [] then
    pure ()
  else
    match infrastructure with
    | .unavailable => throw (.status "backendGetPerfInfrastructure failed.")
    | .otherType infraType =>
      throw (.status ("HTP infra type = " ++ toString infraType ++ ", which is not perf infra type."))
    | .perf accepted =>
      set { s with
        rpcPollingTimeSet := false
        rpcControlLatencySet := false
        htpPerformanceModeSet := false
        powerConfigs := []
        calls := s.calls ++ [BackendCall.mk clientId s.powerConfigs accepted] }

def requireInterface : Staging Unit := do
  let s ← get
  if s.qnnInterface then pure ()
  else throw (.status "QNN interface is not initialized. Call Init() first.")

def setHtpPowerConfigs (config : HtpPerfConfig) (infrastructure : Infrastructure) : Staging Unit := do
  requireInterface
  addRpcPollingTime config.rpcPollingTime
  addRpcControlLatency config.rpcControlLatency
  addHtpPerformanceMode config.perfMode config.htpPowerConfigClientId
  setPowerConfig config.htpPowerConfigClientId infrastructure

def setHtpPowerCustomConfigs (clientId : Nat) (powerConfig : PowerConfig)
    (rpcPollingTime rpcControlLatency : Nat) (infrastructure : Infrastructure) : Staging Unit := do
  requireInterface
  addRpcPollingTime rpcPollingTime
  addRpcControlLatency rpcControlLatency
  addHtpPerformanceConfig powerConfig
  setPowerConfig clientId infrastructure

structure Clear (s : PowerConfigs) : Prop where
  powerConfigs : s.powerConfigs = []
  rpcPollingTimeSet : s.rpcPollingTimeSet = false
  rpcControlLatencySet : s.rpcControlLatencySet = false
  htpPerformanceModeSet : s.htpPerformanceModeSet = false

section
variable {s s' : PowerConfigs}

theorem run_bind_ok {α β : Type} {x : Staging α} {f : α → Staging β} {b : β}
    (h : (x >>= f).run.run s = (.ok b,s')) :
    ∃ a s₁, x.run.run s = (.ok a,s₁) ∧ (f a).run.run s₁ = (.ok b,s') := by
  obtain ⟨status,s₁,hx⟩ : ∃ status s₁, x.run.run s = (status,s₁) := ⟨_,_,rfl⟩
  rw [ExceptT.run_bind,StateT.run_bind,hx] at h
  cases status with
  | error failure => cases h
  | ok a => exact ⟨a,s₁,hx,h⟩

theorem addHtpPerformanceConfig_staged {config : PowerConfig}
    (h : (addHtpPerformanceConfig config).run.run s = (.ok (),s')) : s'.powerConfigs ≠ [] := by
  cases h
  simp

theorem addHtpPerformanceMode_staged {mode : HtpPerformanceMode} {clientId : Nat}
    (h : (addHtpPerformanceMode mode clientId).run.run s = (.ok (),s')) : s'.powerConfigs ≠ [] := by
  obtain ⟨s₁,s₂,hget,h⟩ := run_bind_ok h
  split at h
  · cases h
  · obtain ⟨config,s₃,_,h⟩ := run_bind_ok h
    exact addHtpPerformanceConfig_staged h

theorem setPowerConfig_clear {clientId : Nat} (hstaged : s.powerConfigs ≠ [])
    (h : (setPowerConfig clientId infrastructure).run.run s = (.ok (),s')) : s'.Clear := by
  obtain ⟨s₁,s₂,hget,h⟩ := run_bind_ok h
  cases hget
  rw [if_neg hstaged] at h
  cases infrastructure with
  | unavailable | otherType infraType => cases h
  | perf accepted =>
    cases h
    exact ⟨rfl,rfl,rfl,rfl⟩

theorem setHtpPowerConfigs_clear {config : HtpPerfConfig}
    (h : (setHtpPowerConfigs config infrastructure).run.run s = (.ok (),s')) : s'.Clear := by
  obtain ⟨_,_,_,h⟩ := run_bind_ok h
  obtain ⟨_,_,_,h⟩ := run_bind_ok h
  obtain ⟨_,_,_,h⟩ := run_bind_ok h
  obtain ⟨_,_,hmode,h⟩ := run_bind_ok h
  exact setPowerConfig_clear (addHtpPerformanceMode_staged hmode) h

theorem setHtpPowerCustomConfigs_clear {clientId : Nat} {powerConfig : PowerConfig}
    {rpcPollingTime rpcControlLatency : Nat}
    (h : (setHtpPowerCustomConfigs clientId powerConfig rpcPollingTime rpcControlLatency
      infrastructure).run.run s = (.ok (),s')) : s'.Clear := by
  obtain ⟨_,_,_,h⟩ := run_bind_ok h
  obtain ⟨_,_,_,h⟩ := run_bind_ok h
  obtain ⟨_,_,_,h⟩ := run_bind_ok h
  obtain ⟨_,_,hconfig,h⟩ := run_bind_ok h
  exact setPowerConfig_clear (addHtpPerformanceConfig_staged hconfig) h

end

end PowerConfigs

end QnnEp.Power
