import QnnEp.Power.Manager

namespace QnnEp.Power.HtpPowerConfigManager
open Timing (Timer)

structure WellFormed (m : HtpPowerConfigManager) : Prop where
  alive : ∀ t, m.timer = some t → t.Alive
  timerActive : m.timerActive = m.timer.isSome
  timerCallbackArg : m.timerCallbackArg.isSome = m.timer.isSome
  boostedConfigIds : m.timer = none → m.boostedConfigIds = []
  callbackRan : m.callbackRan = true → ∃ t, m.timer = some t ∧ t.position = .inCallback

structure KeepsCount (m m' : HtpPowerConfigManager) : Prop where
  inflightRunCount : m'.inflightRunCount = m.inflightRunCount
  relaxations : m'.relaxations = m.relaxations ∨ m.inflightRunCount = 0

section
variable {m : HtpPowerConfigManager} {state : GraphState} {config : HtpPerfConfig}
  {environment : Environment} {clientId : Nat}

theorem trackRun_eq (m : HtpPowerConfigManager) (state : GraphState) :
    m.trackRun state = { m with inflightRunCount := (m.trackRun state).inflightRunCount } := by
  cases state with
  | runDone | initDone =>
    simp only [trackRun]
    split <;> rfl
  | runStart | initStart | timeout | none => rfl

theorem setPerformance_eq (m : HtpPowerConfigManager) (state : GraphState) (config : HtpPerfConfig)
    (environment : Environment) :
    ∃ configs, (m.setPerformance state config environment).2 = { m with configs := configs } := by
  cases state with
  | runDone | initDone =>
    simp only [setPerformance]
    split
    · exact ⟨_,rfl⟩
    · exact ⟨m.configs,rfl⟩
  | runStart | initStart => exact ⟨_,rfl⟩
  | timeout | none => exact ⟨m.configs,rfl⟩

theorem admits_of_not_boosts (h : config.perfMode.boosts = false) : m.admits config = true := by
  simp [admits,h]

theorem admits_of_boosts (h : config.perfMode.boosts = true) : m.admits config = m.timerActive := by
  cases hactive : m.timerActive <;> simp [admits,h,hactive]

theorem registerBoostedId_eq (m : HtpPowerConfigManager) (clientId : Nat) :
    ∃ ids, m.registerBoostedId clientId = { m with boostedConfigIds := ids } := by
  unfold registerBoostedId
  split
  · exact ⟨m.boostedConfigIds,rfl⟩
  · exact ⟨_,rfl⟩

theorem timeout_cases (m : HtpPowerConfigManager) (config : HtpPerfConfig) (environment : Environment) :
    (m.setSustainedPerformance .timeout config environment).2 = m ∨
      (environment.contended = false ∧ m.inflightRunCount = 0 ∧
        ∃ configs, (m.setSustainedPerformance .timeout config environment).2 = { m with
          configs := configs, boostedConfigIds := [], relaxations := m.relaxations + 1 }) := by
  cases hcontended : environment.contended with
  | true =>
    left
    simp [setSustainedPerformance,hcontended]
  | false =>
    by_cases hcount : m.inflightRunCount = 0
    · refine .inr ⟨rfl,hcount,(m.relaxBoosted config environment).configs,?_⟩
      simp only [setSustainedPerformance,hcontended,Bool.false_eq_true,if_false,if_pos hcount]
      rfl
    · left
      simp [setSustainedPerformance,hcontended,hcount]

theorem timerCallback_cases (m : HtpPowerConfigManager) (environment : Environment) :
    m.timerCallback environment = m ∨
      (environment.contended = false ∧ m.inflightRunCount = 0 ∧
        ∃ configs, m.timerCallback environment = { m with
          configs := configs, boostedConfigIds := [], relaxations := m.relaxations + 1 }) := by
  unfold timerCallback
  split
  · next hactive _ =>
    rw [setBoostedState,if_pos (by simp [admits,hactive])]
    exact timeout_cases m _ environment
  · exact .inl rfl

theorem timerCallback_boostedConfigIds (hactive : m.timerActive = true)
    (harg : m.timerCallbackArg.isSome = true) (hcontended : environment.contended = false)
    (hcount : m.inflightRunCount = 0) : (m.timerCallback environment).boostedConfigIds = [] := by
  obtain ⟨powerConfigId,harg⟩ := Option.isSome_iff_exists.mp harg
  simp [timerCallback,hactive,harg,setBoostedState,admits,trackRun,setSustainedPerformance,
    hcontended,hcount,relaxBoosted]

theorem callbackPending_iff : m.callbackPending = true ↔
    (∃ t, m.timer = some t ∧ t.position = .inCallback) ∧ m.callbackRan = false := by
  cases htimer : m.timer <;> simp [callbackPending,htimer]

theorem finishCallback_cases (m : HtpPowerConfigManager) (environment : Environment) :
    m.finishCallback environment = m ∨
      (m.callbackPending = true ∧ environment.contended = false ∧ m.inflightRunCount = 0 ∧
        ∃ configs, m.finishCallback environment = { m with
          configs := configs, boostedConfigIds := [], relaxations := m.relaxations + 1 }) := by
  unfold finishCallback
  split
  · next hpending => exact (timerCallback_cases m environment).imp_right (And.intro hpending)
  · exact .inl rfl

theorem KeepsCount.refl (m : HtpPowerConfigManager) : m.KeepsCount m := ⟨rfl,Or.inl rfl⟩

theorem timerCallback_keepsCount (m : HtpPowerConfigManager) (environment : Environment) :
    m.KeepsCount (m.timerCallback environment) := by
  rcases timerCallback_cases m environment with heq | ⟨_,hcount,configs,heq⟩ <;> rw [heq]
  · exact KeepsCount.refl m
  · exact ⟨rfl,.inr hcount⟩

theorem abortActive_keepsCount (m : HtpPowerConfigManager) (clientId : Nat) (environment : Environment) :
    m.KeepsCount (m.abortActiveTimerAndDropBoostedId clientId environment) := by
  unfold abortActiveTimerAndDropBoostedId
  dsimp only
  split
  · rcases finishCallback_cases (m.removeBoostedId clientId) environment with
      heq | ⟨_,_,hcount,configs,heq⟩ <;> rw [heq]
    · exact ⟨rfl,.inl rfl⟩
    · exact ⟨rfl,.inr hcount⟩
  · exact ⟨rfl,.inl rfl⟩

theorem setSustainedPerformance_keepsCount (m : HtpPowerConfigManager) (state : GraphState)
    (config : HtpPerfConfig) (environment : Environment) :
    m.KeepsCount (m.setSustainedPerformance state config environment).2 := by
  obtain ⟨ids,hregister⟩ := registerBoostedId_eq m config.htpPowerConfigClientId
  cases state with
  | runDone | runStart =>
    simp only [setSustainedPerformance,hregister]
    split <;> exact ⟨rfl,.inl rfl⟩
  | initDone | none => exact ⟨rfl,.inl rfl⟩
  | initStart =>
    simp only [setSustainedPerformance]
    split <;> exact ⟨rfl,.inl rfl⟩
  | timeout =>
    rcases timeout_cases m config environment with heq | ⟨_,hcount,configs,heq⟩ <;> rw [heq]
    · exact KeepsCount.refl m
    · exact ⟨rfl,.inr hcount⟩

theorem setState_dropped (m : HtpPowerConfigManager) (hboosts : config.perfMode.boosts = false)
    (state : GraphState) (environment : Environment) :
    ∃ configs, (m.setState state config environment).2 =
      { (m.trackRun state).abortActiveTimerAndDropBoostedId config.htpPowerConfigClientId environment with
        configs := configs } := by
  simp only [setState,hboosts,Bool.false_eq_true,if_false]
  split
  · exact ⟨_,rfl⟩
  · exact setPerformance_eq _ state config environment

end

namespace WellFormed
variable {m : HtpPowerConfigManager} {state : GraphState} {config : HtpPerfConfig}
  {environment : Environment} {clientId : Nat}

theorem trackRun (h : m.WellFormed) (state : GraphState) : (m.trackRun state).WellFormed := by
  rw [trackRun_eq]
  exact ⟨h.alive,h.timerActive,h.timerCallbackArg,h.boostedConfigIds,h.callbackRan⟩

theorem mapTimer (h : m.WellFormed) {f : Timer → Timer} (halive : ∀ t, t.Alive → (f t).Alive)
    (hcallback : m.callbackRan = true → ∀ t, t.position = .inCallback → (f t).position = .inCallback) :
    (m.mapTimer f).WellFormed where
  alive t ht := by
    obtain ⟨t₀,ht₀,rfl⟩ := Option.map_eq_some_iff.mp ht
    exact halive t₀ (h.alive t₀ ht₀)
  timerActive := h.timerActive.trans (Option.isSome_map ..).symm
  timerCallbackArg := h.timerCallbackArg.trans (Option.isSome_map ..).symm
  boostedConfigIds hnone := h.boostedConfigIds (Option.map_eq_none_iff.mp hnone)
  callbackRan hran := by
    obtain ⟨t,ht,hpos⟩ := h.callbackRan hran
    exact ⟨f t,congrArg (Option.map f) ht,hcallback hran t hpos⟩

theorem clearCallback (h : m.WellFormed) : ({ m with callbackRan := false }).WellFormed :=
  ⟨h.alive,h.timerActive,h.timerCallbackArg,h.boostedConfigIds,nofun⟩

theorem abortTimer (h : m.WellFormed) : m.abortTimer.WellFormed :=
  h.clearCallback.mapTimer (fun _ => Timer.Alive.abortAndWait) nofun

theorem launchTimer (h : m.WellFormed) : m.launchTimer.WellFormed := by
  refine h.mapTimer (fun _ ht => ht.launch _) ?_
  intro _ t hpos
  rcases Timer.launch_snd t kDefaultTimerTimeoutUs with ⟨_,heq⟩ | ⟨_,heq⟩ <;> rw [heq] <;> exact hpos

theorem registerBoostedId (h : m.WellFormed) (hactive : m.timerActive = true) (clientId : Nat) :
    (m.registerBoostedId clientId).WellFormed := by
  obtain ⟨ids,heq⟩ := registerBoostedId_eq m clientId
  rw [heq]
  refine ⟨h.alive,h.timerActive,h.timerCallbackArg,?_,h.callbackRan⟩
  intro hnone
  have hsome := h.timerActive.symm.trans hactive
  rw [show m.timer = none from hnone] at hsome
  cases hsome

theorem removeBoostedId (h : m.WellFormed) (clientId : Nat) : (m.removeBoostedId clientId).WellFormed := by
  refine ⟨h.alive,h.timerActive,h.timerCallbackArg,?_,h.callbackRan⟩
  intro hnone
  simp only [HtpPowerConfigManager.removeBoostedId,h.boostedConfigIds hnone,List.filter_nil]

theorem relaxed (h : m.WellFormed) (configs : PowerConfigs) :
    ({ m with configs := configs, boostedConfigIds := [], relaxations := m.relaxations + 1 }).WellFormed :=
  ⟨h.alive,h.timerActive,h.timerCallbackArg,fun _ => rfl,h.callbackRan⟩

theorem timerCallback (h : m.WellFormed) (environment : Environment) :
    (m.timerCallback environment).WellFormed := by
  rcases timerCallback_cases m environment with heq | ⟨_,_,configs,heq⟩
  · rwa [heq]
  · rw [heq]
    exact h.relaxed configs

theorem stage (h : m.WellFormed) (request : Staging Unit) : (m.stage request).2.WellFormed :=
  ⟨h.alive,h.timerActive,h.timerCallbackArg,h.boostedConfigIds,h.callbackRan⟩

theorem finishCallback (h : m.WellFormed) (environment : Environment) :
    (m.finishCallback environment).WellFormed := by
  rcases finishCallback_cases m environment with heq | ⟨_,_,_,configs,heq⟩
  · rwa [heq]
  · rw [heq]
    exact h.relaxed configs

theorem setSustainedPerformance (h : m.WellFormed) (hactive : m.timerActive = true)
    (state : GraphState) (config : HtpPerfConfig) (environment : Environment) :
    (m.setSustainedPerformance state config environment).2.WellFormed := by
  have hregistered := h.registerBoostedId hactive config.htpPowerConfigClientId
  cases state with
  | runDone =>
    simp only [HtpPowerConfigManager.setSustainedPerformance]
    split
    · exact hregistered.abortTimer.launchTimer
    · exact hregistered.launchTimer
  | runStart =>
    simp only [HtpPowerConfigManager.setSustainedPerformance]
    split
    · exact hregistered.abortTimer
    · exact hregistered.stage _
  | initDone => exact h.stage _
  | initStart =>
    simp only [HtpPowerConfigManager.setSustainedPerformance]
    split
    · exact h.abortTimer
    · exact h.stage _
  | timeout =>
    rcases timeout_cases m config environment with heq | ⟨_,_,configs,heq⟩
    · rwa [heq]
    · rw [heq]
      exact h.relaxed configs
  | none => exact h

theorem abortActiveTimerAndDropBoostedId (h : m.WellFormed) (clientId : Nat)
    (environment : Environment) :
    (m.abortActiveTimerAndDropBoostedId clientId environment).WellFormed := by
  unfold HtpPowerConfigManager.abortActiveTimerAndDropBoostedId
  have hremoved := h.removeBoostedId clientId
  dsimp only
  split
  · exact (hremoved.finishCallback environment).abortTimer
  · exact hremoved

theorem setState (h : m.WellFormed) (state : GraphState) (config : HtpPerfConfig)
    (environment : Environment) : (m.setState state config environment).2.WellFormed := by
  have htracked := h.trackRun state
  unfold HtpPowerConfigManager.setState
  split
  · next hboosts =>
    unfold setBoostedState
    split
    · next hadmits =>
      rw [admits_of_boosts hboosts] at hadmits
      refine htracked.setSustainedPerformance ?_ state config environment
      rw [trackRun_eq]
      exact hadmits
    · exact h
  · have hdropped := htracked.abortActiveTimerAndDropBoostedId config.htpPowerConfigClientId environment
    dsimp only
    split
    · exact hdropped
    · obtain ⟨configs,heq⟩ := setPerformance_eq
        ((m.trackRun state).abortActiveTimerAndDropBoostedId config.htpPowerConfigClientId environment)
        state config environment
      rw [heq]
      exact ⟨hdropped.alive,hdropped.timerActive,hdropped.timerCallbackArg,hdropped.boostedConfigIds,
        hdropped.callbackRan⟩

theorem createTimerThread (h : m.WellFormed) (clientId : Nat) (threadStarts : Bool) :
    (m.createTimerThread clientId threadStarts).WellFormed := by
  unfold HtpPowerConfigManager.createTimerThread
  split
  · next t hnone hcreate =>
    refine ⟨?_,rfl,rfl,nofun,?_⟩
    · intro t' ht'
      cases ht'
      exact (Timer.create_alive hcreate).1
    · intro hran
      obtain ⟨t₀,ht₀,_⟩ := h.callbackRan hran
      rw [hnone] at ht₀
      cases ht₀
  · exact h

theorem releaseTimerThread (m : HtpPowerConfigManager) : m.releaseTimerThread.WellFormed :=
  ⟨nofun,rfl,rfl,fun _ => rfl,nofun⟩

theorem callback (h : m.WellFormed) (environment : Environment) :
    (m.callback environment).WellFormed := by
  unfold HtpPowerConfigManager.callback
  split
  · next hpending =>
    have hcalled := h.timerCallback environment
    refine ⟨hcalled.alive,hcalled.timerActive,hcalled.timerCallbackArg,hcalled.boostedConfigIds,?_⟩
    intro _
    have htimer : (m.timerCallback environment).timer = m.timer := by
      rcases timerCallback_cases m environment with heq | ⟨_,_,configs,heq⟩ <;> rw [heq]
    obtain ⟨⟨t,ht,hpos⟩,_⟩ := callbackPending_iff.mp hpending
    exact ⟨t,htimer.trans ht,hpos⟩
  · exact h

theorem callbackReturn (h : m.WellFormed) : m.callbackReturn.WellFormed := by
  unfold HtpPowerConfigManager.callbackReturn
  split
  · exact h.clearCallback.mapTimer
      (fun _ ht => Timer.alive_getD ht fun _ => ht.callbackReturn) nofun
  · exact h

theorem serve (h : m.WellFormed) (service : Service) : (m.serve service).WellFormed := by
  cases service with
  | createTimerThread clientId threadStarts => exact h.createTimerThread clientId threadStarts
  | releaseTimerThread => exact releaseTimerThread m
  | dropBoostedPowerConfigId clientId => exact h.removeBoostedId clientId
  | loop =>
    refine h.mapTimer (fun _ ht => Timer.alive_getD ht fun _ => ht.loop) ?_
    intro _ t hpos
    simp [Timer.loop,hpos]
  | wake =>
    refine h.mapTimer (fun _ ht => Timer.alive_getD ht fun _ => ht.wake) ?_
    intro _ t hpos
    simp [Timer.wake,hpos]
  | callback environment => exact h.callback environment
  | callbackReturn => exact h.callbackReturn
  | elapse duration => exact h.mapTimer (fun _ ht => ht.elapse duration) (fun _ _ => id)

theorem step (h : m.WellFormed) (event : Event) : (m.step event).WellFormed := by
  cases event with
  | setState state config environment => exact h.setState state config environment
  | service service => exact h.serve service

end WellFormed

theorem new_wellFormed (qnnInterface : Bool) : (new qnnInterface).WellFormed :=
  ⟨nofun,rfl,rfl,fun _ => rfl,nofun⟩

end QnnEp.Power.HtpPowerConfigManager
