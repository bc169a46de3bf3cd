import QnnEp.Power.Lifecycle
import QnnEp.Foundation.Machine

namespace QnnEp.Power.HtpPowerConfigManager
open Timing (Timer)

def NotStranded (m : HtpPowerConfigManager) : Prop :=
  m.inflightRunCount = 0 → m.timerInUse = false → m.boostedConfigIds = []

def LastInFlight (m : HtpPowerConfigManager) : GraphState → Prop
  | .runStart | .initStart => False
  | .runDone | .initDone => m.inflightRunCount ≤ 1
  | .timeout | .none => m.inflightRunCount = 0

def stopPending (m : HtpPowerConfigManager) : Bool :=
  m.timer.any fun t => t.position = .loopHead ∧ t.threadStatus = .launch ∧ t.isTimerStopped

def BoostSettled (m : HtpPowerConfigManager) (state : GraphState) : Prop :=
  state = .initDone → m.inflightRunCount ≤ 1 → m.timerInUse = true ∨ m.boostedConfigIds = []

def DropSettled (m : HtpPowerConfigManager) (state : GraphState) (clientId : Nat)
    (environment : Environment) : Prop :=
  m.LastInFlight state → (∀ id ∈ m.boostedConfigIds, id = clientId) ∨
    (m.callbackPending = true ∧ environment.contended = false)

def ServiceSettled (m : HtpPowerConfigManager) : Service → Prop
  | .loop => m.stopPending = true → 0 < m.inflightRunCount ∨ m.boostedConfigIds = []
  | .callbackReturn => m.callbackRan = true → 0 < m.inflightRunCount ∨ m.boostedConfigIds = []
  | .createTimerThread _ _ | .releaseTimerThread | .dropBoostedPowerConfigId _ | .wake | .callback _
  | .elapse _ => True

def Settled (m : HtpPowerConfigManager) : Event → Prop
  | .setState state config environment =>
    if config.perfMode.boosts then m.BoostSettled state
    else m.DropSettled state config.htpPowerConfigClientId environment
  | .service service => m.ServiceSettled service

section
variable {m : HtpPowerConfigManager} {state : GraphState} {config : HtpPerfConfig}
  {environment : Environment} {clientId : Nat}

theorem trackRun_eq_zero : (m.trackRun state).inflightRunCount = 0 ↔ m.LastInFlight state := by
  cases state with
  | runStart | initStart => simp [trackRun,LastInFlight]
  | runDone | initDone =>
    simp only [trackRun,LastInFlight]
    split
    · next hpos => simp only [Nat.sub_eq_zero_iff_le]
    · next hzero => omega
  | timeout | none => rfl

theorem timerInUse_eq {t : Timer} (h : m.timer = some t) : m.timerInUse = t.timerInUse := by
  rw [timerInUse,h,Option.any_some]

theorem WellFormed.exists_timer (h : m.WellFormed) (hactive : m.timerActive = true) :
    ∃ t, m.timer = some t ∧ t.Alive := by
  obtain ⟨t,ht⟩ := Option.isSome_iff_exists.mp (h.timerActive.symm.trans hactive)
  exact ⟨t,ht,h.alive t ht⟩

theorem launchTimer_inUse (h : m.WellFormed) (hactive : m.timerActive = true) :
    m.launchTimer.timerInUse = true := by
  obtain ⟨t,ht,halive⟩ := h.exists_timer hactive
  rw [timerInUse_eq (congrArg (Option.map _) ht)]
  exact Timer.launch_inUse halive _

theorem abortTimer_inUse (h : m.WellFormed) : m.abortTimer.timerInUse = false := by
  cases ht : m.timer with
  | none => simp [abortTimer,mapTimer,timerInUse,ht]
  | some t =>
    rw [timerInUse_eq (congrArg (Option.map _) ht)]
    exact Timer.timerInUse_of_idle (Timer.abortAndWait_idle (h.alive t ht))

theorem callbackPending_inUse (h : m.WellFormed) (hpending : m.callbackPending = true) :
    m.timerInUse = true ∧ m.timerActive = true ∧ m.timerCallbackArg.isSome = true := by
  obtain ⟨⟨t,ht,hpos⟩,_⟩ := callbackPending_iff.mp hpending
  have hcoherent := (h.alive t ht).coherent
  rw [Timer.Coherent,hpos] at hcoherent
  refine ⟨?_,h.timerActive.trans (by rw [ht]; rfl),h.timerCallbackArg.trans (by rw [ht]; rfl)⟩
  rw [timerInUse_eq ht]
  simp [Timer.timerInUse,hcoherent]

theorem finishCallback_boostedConfigIds (h : m.WellFormed) (hcount : m.inflightRunCount = 0) :
    (m.finishCallback environment).boostedConfigIds = [] ↔
      m.boostedConfigIds = [] ∨ (m.callbackPending = true ∧ environment.contended = false) := by
  rcases finishCallback_cases m environment with heq | ⟨hpending,hcontended,_,configs,heq⟩
  · rw [heq]
    refine ⟨.inl,?_⟩
    rintro (hnone | ⟨hpending,hcontended⟩)
    · exact hnone
    · obtain ⟨_,hactive,harg⟩ := callbackPending_inUse h hpending
      rw [← heq,finishCallback,if_pos hpending]
      exact timerCallback_boostedConfigIds hactive harg hcontended hcount
  · exact iff_of_true (by rw [heq]) (.inr ⟨hpending,hcontended⟩)

theorem removeBoostedId_eq_nil : (m.removeBoostedId clientId).boostedConfigIds = [] ↔
    ∀ id ∈ m.boostedConfigIds, id = clientId := by
  simp [removeBoostedId,List.filter_eq_nil_iff]

theorem abortActive_inUse (h : m.WellFormed) :
    (m.abortActiveTimerAndDropBoostedId clientId environment).timerInUse = false := by
  unfold abortActiveTimerAndDropBoostedId
  dsimp only
  split
  · exact abortTimer_inUse ((h.removeBoostedId clientId).finishCallback environment)
  · next hidle => exact Bool.of_not_eq_true hidle

theorem abortActive_boostedConfigIds (h : m.WellFormed) (hcount : m.inflightRunCount = 0) :
    (m.abortActiveTimerAndDropBoostedId clientId environment).boostedConfigIds = [] ↔
      (∀ id ∈ m.boostedConfigIds, id = clientId) ∨
        (m.callbackPending = true ∧ environment.contended = false) := by
  have hremoved := h.removeBoostedId clientId
  rw [← removeBoostedId_eq_nil]
  unfold abortActiveTimerAndDropBoostedId
  dsimp only
  split
  · exact finishCallback_boostedConfigIds hremoved hcount
  · next hidle =>
    refine ⟨.inl,?_⟩
    rintro (hnone | ⟨hpending,_⟩)
    · exact hnone
    · exact absurd (callbackPending_inUse hremoved hpending).1 hidle

theorem notStranded_of_inUse (h : m.timerInUse = true) : m.NotStranded := by
  intro _ hidle
  rw [h] at hidle
  cases hidle

theorem notStranded_of_running (h : 0 < m.inflightRunCount) : m.NotStranded :=
  fun hcount => absurd hcount (Nat.ne_of_gt h)

theorem boostSettled_of_ne (h : state ≠ .initDone) : m.BoostSettled state :=
  fun hstate => absurd hstate h

theorem setSustainedPerformance_notStranded (h : m.WellFormed) (hactive : m.timerActive = true)
    (hq : m.NotStranded) :
    ((m.trackRun state).setSustainedPerformance state config environment).2.NotStranded ↔
      m.BoostSettled state := by
  have hcount := (setSustainedPerformance_keepsCount (m.trackRun state) state config
    environment).inflightRunCount
  cases state with
  | runStart | initStart =>
    refine iff_of_true (notStranded_of_running ?_) (boostSettled_of_ne (by decide))
    rw [hcount]
    exact Nat.succ_pos _
  | runDone =>
    refine iff_of_true (notStranded_of_inUse ?_) (boostSettled_of_ne (by decide))
    have htracked := h.trackRun .runDone
    have htrackedActive : (m.trackRun .runDone).timerActive = true := by rwa [trackRun_eq]
    have hregistered := htracked.registerBoostedId htrackedActive config.htpPowerConfigClientId
    obtain ⟨ids,hids⟩ := registerBoostedId_eq (m.trackRun .runDone) config.htpPowerConfigClientId
    have hregisteredActive :
        ((m.trackRun .runDone).registerBoostedId config.htpPowerConfigClientId).timerActive = true := by
      rwa [hids]
    simp only [setSustainedPerformance]
    split
    · exact launchTimer_inUse hregistered.abortTimer hregisteredActive
    · exact launchTimer_inUse hregistered hregisteredActive
  | initDone =>
    have hlast := @trackRun_eq_zero m .initDone
    rw [trackRun_eq]
    constructor
    · intro hnext _ hle
      cases hinUse : m.timerInUse with
      | true => exact .inl rfl
      | false => exact .inr (hnext (hlast.mpr hle) hinUse)
    · intro hsettled hzero hidle
      refine (hsettled rfl (hlast.mp hzero)).resolve_left ?_
      intro hinUse
      exact Bool.false_ne_true (hidle.symm.trans hinUse)
  | timeout =>
    refine iff_of_true ?_ (boostSettled_of_ne (by decide))
    rcases timeout_cases m config environment with heq | ⟨_,_,configs,heq⟩
    · rw [trackRun,heq]
      exact hq
    · exact fun _ _ => congrArg boostedConfigIds heq
  | none => exact iff_of_true hq (boostSettled_of_ne (by decide))

theorem abortActive_notStranded (h : m.WellFormed) (clientId : Nat) (environment : Environment) :
    (m.abortActiveTimerAndDropBoostedId clientId environment).NotStranded ↔
      (m.inflightRunCount = 0 → (∀ id ∈ m.boostedConfigIds, id = clientId) ∨
        (m.callbackPending = true ∧ environment.contended = false)) := by
  unfold NotStranded
  rw [(abortActive_keepsCount m clientId environment).inflightRunCount]
  refine forall_congr' ?_
  intro hcount
  rw [← abortActive_boostedConfigIds h hcount]
  exact ⟨fun hnone => hnone (abortActive_inUse h),fun hnone _ => hnone⟩

theorem setState_notStranded (h : m.WellFormed) (hq : m.NotStranded) :
    (m.setState state config environment).2.NotStranded ↔
      m.Settled (.setState state config environment) := by
  cases hboosts : config.perfMode.boosts with
  | true =>
    simp only [setState,Settled,hboosts,if_true,setBoostedState,admits_of_boosts]
    cases hactive : m.timerActive with
    | true => exact setSustainedPerformance_notStranded h hactive hq
    | false =>
      have hnone : m.timer = none := by
        rw [h.timerActive,Option.isSome_eq_false_iff,Option.isNone_iff_eq_none] at hactive
        exact hactive
      exact iff_of_true hq fun _ _ => .inr (h.boostedConfigIds hnone)
  | false =>
    simp only [Settled,hboosts,Bool.false_eq_true,if_false]
    obtain ⟨configs,heq⟩ := setState_dropped m hboosts state environment
    have hdropped := abortActive_notStranded (h.trackRun state) config.htpPowerConfigClientId environment
    rw [heq]
    rw [trackRun_eq_zero] at hdropped
    rw [trackRun_eq] at hdropped ⊢
    exact hdropped

end

section
variable {m : HtpPowerConfigManager}

theorem mapTimer_inUse {f : Timer → Timer}
    (hf : ∀ t, m.timer = some t → (f t).timerInUse = t.timerInUse) :
    (m.mapTimer f).timerInUse = m.timerInUse := by
  cases ht : m.timer with
  | none => simp [mapTimer,timerInUse,ht]
  | some t =>
    rw [timerInUse_eq (congrArg (Option.map f) ht),timerInUse_eq ht]
    exact hf t ht

theorem mapTimer_notStranded {f : Timer → Timer}
    (hf : ∀ t, m.timer = some t → (f t).timerInUse = t.timerInUse) (hq : m.NotStranded) :
    (m.mapTimer f).NotStranded := by
  intro hcount hidle
  exact hq hcount ((mapTimer_inUse hf).symm.trans hidle)

theorem notStranded_of_idle (hidle : m.timerInUse = false) :
    m.NotStranded ↔ 0 < m.inflightRunCount ∨ m.boostedConfigIds = [] := by
  rw [Nat.pos_iff_ne_zero,← imp_iff_not_or]
  exact ⟨fun hq hcount => hq hcount hidle,fun hq hcount _ => hq hcount⟩

theorem stopPending_iff : m.stopPending = true ↔ ∃ t, m.timer = some t ∧
    t.position = .loopHead ∧ t.threadStatus = .launch ∧ t.isTimerStopped = true := by
  cases ht : m.timer <;> simp [stopPending,ht]

theorem loop_notStranded (h : m.WellFormed) (hq : m.NotStranded) :
    (m.serve .loop).NotStranded ↔ m.ServiceSettled .loop := by
  cases hstop : m.stopPending with
  | true =>
    obtain ⟨t,ht,hpos,hlaunch,hstopped⟩ := stopPending_iff.mp hstop
    have hloop : t.loop = some { t with threadStatus := .idle, isTimerStopped := false } := by
      simp [Timer.loop,hpos,hlaunch,hstopped,(h.alive t ht).isTimerDeinit]
    have hidle : (m.serve .loop).timerInUse = false := by
      rw [timerInUse_eq (congrArg (Option.map _) ht)]
      simp [hloop,Timer.timerInUse]
    simp only [ServiceSettled,hstop,true_imp_iff]
    exact notStranded_of_idle hidle
  | false =>
    refine iff_of_true (mapTimer_notStranded ?_ hq) (by simp [ServiceSettled,hstop])
    intro t ht
    have hcleared : ¬(t.position = .loopHead ∧ t.threadStatus = .launch ∧ t.isTimerStopped = true) := by
      intro hpending
      exact Bool.false_ne_true (hstop.symm.trans (stopPending_iff.mpr ⟨t,ht,hpending⟩))
    cases hloop : t.loop with
    | none => rfl
    | some t' =>
      obtain ⟨hpos,⟨hdeinit,_⟩ | ⟨_,hstopped,rfl⟩ | ⟨_,_,_,rfl⟩ | ⟨_,_,_,rfl⟩⟩ := Timer.loop_some hloop
      · rw [(h.alive t ht).isTimerDeinit] at hdeinit
        cases hdeinit
      · have hcoherent := (h.alive t ht).coherent
        rw [Timer.Coherent,hpos] at hcoherent
        have hidle := hcoherent.resolve_right fun hlaunch => hcleared ⟨hpos,hlaunch,hstopped⟩
        exact (Timer.timerInUse_of_idle rfl).trans (Timer.timerInUse_of_idle hidle).symm
      · rfl
      · rfl

theorem wake_notStranded (h : m.WellFormed) (hq : m.NotStranded) : (m.serve .wake).NotStranded := by
  refine mapTimer_notStranded ?_ hq
  intro t ht
  cases hwake : t.wake with
  | none => rfl
  | some t' =>
    obtain ⟨hpos,⟨_,rfl⟩ | ⟨_,_,_,rfl⟩⟩ := Timer.wake_some hwake
    · rfl
    · have hcoherent := (h.alive t ht).coherent
      rw [Timer.Coherent,hpos] at hcoherent
      simp [Timer.timerInUse,hcoherent]

theorem callback_notStranded (h : m.WellFormed) (hq : m.NotStranded) (environment : Environment) :
    (m.serve (.callback environment)).NotStranded := by
  simp only [serve,callback]
  split
  · next hpending =>
    refine notStranded_of_inUse ?_
    have hinUse := (callbackPending_inUse h hpending).1
    rcases timerCallback_cases m environment with heq | ⟨_,_,configs,heq⟩ <;> rw [heq] <;> exact hinUse
  · exact hq

theorem callbackReturn_notStranded (h : m.WellFormed) (hq : m.NotStranded) :
    (m.serve .callbackReturn).NotStranded ↔ m.ServiceSettled .callbackReturn := by
  cases hran : m.callbackRan with
  | true =>
    obtain ⟨t,ht,hpos⟩ := h.callbackRan hran
    have hidle : m.callbackReturn.timerInUse = false := by
      simp [callbackReturn,hran,timerInUse,mapTimer,ht,Timer.callbackReturn,hpos,Timer.timerInUse]
    simp only [ServiceSettled,hran,true_imp_iff]
    refine (notStranded_of_idle hidle).trans ?_
    simp [callbackReturn,hran,mapTimer]
  | false =>
    refine iff_of_true ?_ (by simp [ServiceSettled,hran])
    simpa [serve,callbackReturn,hran] using hq

theorem createTimerThread_notStranded (h : m.WellFormed) (hq : m.NotStranded) (clientId : Nat)
    (threadStarts : Bool) : (m.createTimerThread clientId threadStarts).NotStranded := by
  unfold createTimerThread
  split
  · next hnone _ => exact fun _ _ => h.boostedConfigIds hnone
  · exact hq

theorem removeBoostedId_notStranded (hq : m.NotStranded) (clientId : Nat) :
    (m.removeBoostedId clientId).NotStranded := by
  intro hcount hidle
  refine removeBoostedId_eq_nil.mpr ?_
  rw [hq hcount hidle]
  nofun

theorem serve_notStranded (h : m.WellFormed) (hq : m.NotStranded) (service : Service) :
    (m.serve service).NotStranded ↔ m.ServiceSettled service := by
  cases service with
  | createTimerThread clientId threadStarts =>
    exact iff_of_true (createTimerThread_notStranded h hq clientId threadStarts) trivial
  | releaseTimerThread => exact iff_of_true (fun _ _ => rfl) trivial
  | dropBoostedPowerConfigId clientId => exact iff_of_true (removeBoostedId_notStranded hq clientId) trivial
  | loop => exact loop_notStranded h hq
  | wake => exact iff_of_true (wake_notStranded h hq) trivial
  | callback environment => exact iff_of_true (callback_notStranded h hq environment) trivial
  | callbackReturn => exact callbackReturn_notStranded h hq
  | elapse duration => exact iff_of_true (mapTimer_notStranded (fun _ _ => rfl) hq) trivial

theorem step_notStranded (h : m.WellFormed) (hq : m.NotStranded) (event : Event) :
    (m.step event).NotStranded ↔ m.Settled event := by
  cases event with
  | setState state config environment => exact setState_notStranded h hq
  | service service => exact serve_notStranded h hq service

end

theorem boostedConfigIds_released_iff (qnnInterface : Bool) (events : List Event) :
    Machine.Always step NotStranded (new qnnInterface) events ↔
      Machine.Each step Settled (new qnnInterface) events :=
  Machine.always_iff_each WellFormed (fun _ event h => h.step event)
    (fun _ event h hq => step_notStranded h hq event) (new_wellFormed qnnInterface) (fun _ _ => rfl)
    events

def strandingEvents : List Event :=
  [.service (.createTimerThread 1 true),
    .setState .runStart ⟨1,.htpBurst,0,0⟩ .quiet,.setState .runDone ⟨1,.htpBurst,0,0⟩ .quiet,
    .setState .runStart ⟨2,.htpBalanced,0,0⟩ .quiet,.setState .runDone ⟨2,.htpBalanced,0,0⟩ .quiet]

theorem boostedConfigIds_strandedByOtherClient :
    (Machine.run step (new true) strandingEvents).inflightRunCount = 0 ∧
      (Machine.run step (new true) strandingEvents).timerInUse = false ∧
      (Machine.run step (new true) strandingEvents).boostedConfigIds = [1] := by
  decide

end QnnEp.Power.HtpPowerConfigManager
