import QnnEp.Power.Configs

namespace QnnEp.Power.PowerConfigs

def stagePollingTime (s : PowerConfigs) (rpcPollingTime : Nat) : PowerConfigs :=
  if rpcPollingTime = s.lastSetRpcPollingTime then s
  else { s with
    powerConfigs := s.powerConfigs ++ [PowerConfig.rpcPollingTime rpcPollingTime]
    lastSetRpcPollingTime := rpcPollingTime
    rpcPollingTimeSet := true }

def stageControlLatency (s : PowerConfigs) (rpcControlLatency : Nat) : PowerConfigs :=
  if rpcControlLatency = s.lastSetRpcControlLatency then s
  else { s with
    powerConfigs := s.powerConfigs ++ [PowerConfig.rpcControlLatency rpcControlLatency]
    lastSetRpcControlLatency := rpcControlLatency
    rpcControlLatencySet := true }

def stageConfig (s : PowerConfigs) (config : PowerConfig) : PowerConfigs :=
  { s with powerConfigs := s.powerConfigs ++ [config], htpPerformanceModeSet := true }

def dispatch (s : PowerConfigs) (clientId : Nat) (accepted : Bool) : PowerConfigs :=
  { s with
    rpcPollingTimeSet := false
    rpcControlLatencySet := false
    htpPerformanceModeSet := false
    powerConfigs := []
    calls := s.calls ++ [BackendCall.mk clientId s.powerConfigs accepted] }

@[simp] theorem stagePollingTime_rpcControlLatencySet (s : PowerConfigs) (v : Nat) :
    (s.stagePollingTime v).rpcControlLatencySet = s.rpcControlLatencySet := by
  unfold stagePollingTime
  split <;> rfl

@[simp] theorem stagePollingTime_lastSetRpcControlLatency (s : PowerConfigs) (v : Nat) :
    (s.stagePollingTime v).lastSetRpcControlLatency = s.lastSetRpcControlLatency := by
  unfold stagePollingTime
  split <;> rfl

@[simp] theorem stagePollingTime_htpPerformanceModeSet (s : PowerConfigs) (v : Nat) :
    (s.stagePollingTime v).htpPerformanceModeSet = s.htpPerformanceModeSet := by
  unfold stagePollingTime
  split <;> rfl

@[simp] theorem stageControlLatency_htpPerformanceModeSet (s : PowerConfigs) (v : Nat) :
    (s.stageControlLatency v).htpPerformanceModeSet = s.htpPerformanceModeSet := by
  unfold stageControlLatency
  split <;> rfl

section
variable {s s' : PowerConfigs}

theorem run_bind_ok_iff {α β : Type} {x : Staging α} {f : α → Staging β} {b : β} :
    (x >>= f).run.run s = (.ok b,s') ↔
      ∃ a s₁, x.run.run s = (.ok a,s₁) ∧ (f a).run.run s₁ = (.ok b,s') := by
  constructor
  · exact run_bind_ok
  · rintro ⟨a,s₁,hx,hf⟩
    rw [ExceptT.run_bind,StateT.run_bind,hx]
    exact hf

theorem run_seq_ok_iff {β : Type} {x : Staging Unit} {f : Unit → Staging β} {b : β} :
    (x >>= f).run.run s = (.ok b,s') ↔
      ∃ s₁, x.run.run s = (.ok (),s₁) ∧ (f ()).run.run s₁ = (.ok b,s') := by
  rw [run_bind_ok_iff]
  exact ⟨fun ⟨_,h⟩ => h,fun h => ⟨(),h⟩⟩

theorem requireInterface_ok_iff :
    requireInterface.run.run s = (.ok (),s') ↔ s.qnnInterface = true ∧ s' = s := by
  rw [requireInterface,run_bind_ok_iff]
  constructor
  · rintro ⟨_,_,hget,h⟩
    cases hget
    split at h
    next hq => exact ⟨hq,by cases h; rfl⟩
    next => cases h
  · rintro ⟨hq,rfl⟩
    exact ⟨s',s',rfl,by rw [if_pos hq]; rfl⟩

theorem addRpcPollingTime_ok_iff {rpcPollingTime : Nat} :
    (addRpcPollingTime rpcPollingTime).run.run s = (.ok (),s') ↔
      rpcPollingTime ≤ kMaxRpcPolling ∧ s.rpcPollingTimeSet = false ∧
        s' = s.stagePollingTime rpcPollingTime := by
  rw [addRpcPollingTime,run_bind_ok_iff]
  constructor
  · rintro ⟨_,_,hget,h⟩
    cases hget
    split at h
    next => cases h
    next hmax =>
      split at h
      next => cases h
      next hset =>
        refine ⟨Nat.le_of_not_lt hmax,by simpa using hset,?_⟩
        unfold stagePollingTime
        split at h <;> rename_i hlast
        · rw [if_pos hlast]
          cases h
          rfl
        · rw [if_neg hlast]
          cases h
          rfl
  · rintro ⟨hmax,hset,rfl⟩
    refine ⟨s,s,rfl,?_⟩
    rw [if_neg (Nat.not_lt.mpr hmax),if_neg (by simp [hset]),stagePollingTime]
    split <;> rfl

theorem addRpcControlLatency_ok_iff {rpcControlLatency : Nat} :
    (addRpcControlLatency rpcControlLatency).run.run s = (.ok (),s') ↔
      s.rpcControlLatencySet = false ∧ s' = s.stageControlLatency rpcControlLatency := by
  rw [addRpcControlLatency,run_bind_ok_iff]
  constructor
  · rintro ⟨_,_,hget,h⟩
    cases hget
    split at h
    next => cases h
    next hset =>
      refine ⟨by simpa using hset,?_⟩
      unfold stageControlLatency
      split at h <;> rename_i hlast
      · rw [if_pos hlast]
        cases h
        rfl
      · rw [if_neg hlast]
        cases h
        rfl
  · rintro ⟨hset,rfl⟩
    refine ⟨s,s,rfl,?_⟩
    rw [if_neg (by simp [hset]),stageControlLatency]
    split <;> rfl

theorem addHtpPerformanceConfig_ok_iff {config : PowerConfig} :
    (addHtpPerformanceConfig config).run.run s = (.ok (),s') ↔ s' = s.stageConfig config := by
  constructor
  · rintro ⟨⟩
    rfl
  · rintro rfl
    rfl

theorem addHtpPerformanceMode_ok_iff {mode : HtpPerformanceMode} {clientId : Nat} :
    (addHtpPerformanceMode mode clientId).run.run s = (.ok (),s') ↔
      s.htpPerformanceModeSet = false ∧
        ∃ config, setHtpPerformancePowerConfig clientId mode = .ok config ∧ s' = s.stageConfig config := by
  rw [addHtpPerformanceMode,run_bind_ok_iff]
  constructor
  · rintro ⟨_,_,hget,h⟩
    cases hget
    split at h
    next => cases h
    next hset =>
      obtain ⟨config,s₁,hconfig,h⟩ := run_bind_ok h
      cases hmode : setHtpPerformancePowerConfig clientId mode with
      | error failure => rw [hmode] at hconfig; cases hconfig
      | ok found =>
        rw [hmode] at hconfig
        cases hconfig
        exact ⟨by simpa using hset,config,rfl,addHtpPerformanceConfig_ok_iff.mp h⟩
  · rintro ⟨hset,config,hconfig,rfl⟩
    refine ⟨s,s,rfl,?_⟩
    rw [if_neg (by simp [hset]),hconfig]
    rfl

theorem setPowerConfig_ok_iff {clientId : Nat} {infrastructure : Infrastructure}
    (hstaged : s.powerConfigs ≠ []) :
    (setPowerConfig clientId infrastructure).run.run s = (.ok (),s') ↔
      ∃ accepted, infrastructure = .perf accepted ∧ s' = s.dispatch clientId accepted := by
  rw [setPowerConfig,run_bind_ok_iff]
  constructor
  · rintro ⟨_,_,hget,h⟩
    cases hget
    rw [if_neg hstaged] at h
    cases infrastructure with
    | unavailable | otherType infraType => cases h
    | perf accepted => exact ⟨accepted,rfl,by cases h; rfl⟩
  · rintro ⟨accepted,rfl,rfl⟩
    exact ⟨s,s,rfl,by rw [if_neg hstaged]; rfl⟩

end

theorem setHtpPerformancePowerConfig_ok_iff {clientId : Nat} {mode : HtpPerformanceMode} :
    (∃ config, setHtpPerformancePowerConfig clientId mode = .ok config) ↔ mode ≠ .htpDefault := by
  cases mode <;> simp [setHtpPerformancePowerConfig]

theorem setHtpPerformancePowerConfig_dcvsV3 {clientId : Nat} {mode : HtpPerformanceMode}
    {config : PowerConfig} (h : setHtpPerformancePowerConfig clientId mode = .ok config) :
    ∃ dcvs, config = .dcvsV3 dcvs := by
  cases mode <;> cases h <;> exact ⟨_,rfl⟩

end QnnEp.Power.PowerConfigs
