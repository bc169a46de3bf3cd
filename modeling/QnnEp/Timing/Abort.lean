import QnnEp.Timing.Progress

namespace QnnEp.Timing
open Temporal Timer

def Waits (e : Execution step) (caller n : Nat) : Prop := (e.state n).waiting caller = true

def AbortsReturn (e : Execution step) : Prop :=
  ∀ caller n, Waits e caller n → ∃ m, n ≤ m ∧ ¬Waits e caller m

def ExitsUnawaited (e : Execution step) : Prop :=
  ∀ n, e.action n = .loop → (e.state n).isTimerDeinit = true → ∀ caller, ¬Waits e caller n

section
variable {e : Execution step}

theorem exited_stays (hstart : e.state 0 = new) {n : Nat}
    (hexited : (e.state n).position = .exited) {m : Nat} (hnm : n ≤ m) :
    (e.state m).position = .exited ∧ (e.state m).waiting = (e.state n).waiting := by
  induction m, hnm using Nat.le_induction with
  | base => exact ⟨hexited,rfl⟩
  | succ m _ ih =>
    obtain ⟨hpos,hwaiting⟩ := step_exited (coherent_of_new hstart m) ih.1 (e.next m)
    exact ⟨hpos,hwaiting.trans ih.2⟩

theorem exited_unawaited (hstart : e.state 0 = new) (hsafe : ExitsUnawaited e) (n : Nat)
    (hexited : (e.state n).position = .exited) (caller : Nat) : ¬Waits e caller n := by
  induction n with
  | zero =>
    rw [hstart] at hexited
    cases hexited
  | succ n ih =>
    by_cases hn : (e.state n).position = .exited
    · rw [Waits,(step_exited (coherent_of_new hstart n) hn (e.next n)).2]
      exact ih hn
    · obtain ⟨haction,hdeinit,hwaiting⟩ := step_exits hn hexited (e.next n)
      rw [Waits,hwaiting]
      exact hsafe n haction hdeinit caller

theorem waits_started (hstart : e.state 0 = new) {caller n : Nat} (h : Waits e caller n) :
    (e.state n).position ≠ .notStarted ∧ (e.state n).position ≠ .starting := by
  have hcoherent := coherent_of_new hstart n
  constructor
  · intro hpos
    rw [Coherent,hpos] at hcoherent
    simp [Waits,hcoherent.2 caller] at h
  · intro hpos
    rw [Coherent,hpos] at hcoherent
    simp [Waits,hcoherent.2 caller] at h

section
variable {caller : Nat}

def Released (e : Execution step) (caller n : Nat) : Prop :=
  ¬Waits e caller n ∨ (e.state n).threadStatus = .idle

theorem inCallback_released (hstart : e.state 0 = new) (hfair : Fair e) :
    LeadsTo (fun n => Waits e caller n ∧ InCallback e n) (Released e caller) := by
  refine Unless.leadsTo_of_exit ?_ (fun _ h => h.2) (inCallback_ends hfair)
  rintro n ⟨hwaits,hpos⟩
  have hcalling : (e.state n).threadStatus = .calling := by
    have h := coherent_of_new hstart n
    rwa [Coherent,show (e.state n).position = _ from hpos] at h
  rcases step_busy (waits_started hstart hwaits) (by simp [hcalling]) (e.next n)
    with hframe | ⟨_,hloop⟩ | hwake | hreturn
  · exact .inl ⟨hframe.waiting caller hwaits,hframe.position.trans hpos⟩
  · exact absurd ((loop_some hloop).1.symm.trans hpos) (by decide)
  · exact absurd ((wake_some hwake).1.symm.trans hpos) (by decide)
  · rw [Released,(callbackReturn_some hreturn).2]
    exact .inr (.inr rfl)

theorem atLaunch_released_or (hsafe : ExitsUnawaited e) {n : Nat} (hwaits : Waits e caller n)
    (hlaunch : AtLaunch e n) :
    Frame (e.state n) (e.state (n + 1)) ∨ Released e caller (n + 1) ∨
      (RequestsClear e n ∧ Waits e caller (n + 1) ∧ Counting e (n + 1)) := by
  rcases atLaunch_cases hlaunch with hframe | ⟨haction,hdeinit,_⟩ | ⟨_,hidle⟩ |
    ⟨hclear,hcounting,_,hwaiting⟩
  · exact .inl hframe
  · exact absurd hwaits (hsafe n haction hdeinit caller)
  · exact .inr (.inl (.inr hidle))
  · exact .inr (.inr ⟨hclear,(congrFun hwaiting caller).trans hwaits,hcounting⟩)

theorem requested_released (hfair : Fair e) (hsafe : ExitsUnawaited e) :
    LeadsTo (fun n => Waits e caller n ∧ AtLaunch e n ∧ ¬RequestsClear e n) (Released e caller) := by
  refine Unless.leadsTo_of_exit ?_ (fun _ h => h.2.1) (atLaunch_ends hfair)
  rintro n ⟨hwaits,hlaunch,hrequested⟩
  rcases atLaunch_released_or hsafe hwaits hlaunch with hframe | hreleased | ⟨hclear,_⟩
  · exact .inl ⟨hframe.waiting caller hwaits,hlaunch.frame hframe,
      not_requestsClear_frame hrequested hframe⟩
  · exact .inr hreleased
  · exact absurd hclear hrequested

theorem counting_released (hstart : e.state 0 = new) (hfair : Fair e) (hsafe : ExitsUnawaited e) :
    LeadsTo (fun n => Waits e caller n ∧ Counting e n) (Released e caller) := by
  have hends : LeadsTo (fun n => Waits e caller n ∧ Counting e n) (fun n =>
      (Waits e caller n ∧ AtLaunch e n ∧ ¬RequestsClear e n) ∨ (Waits e caller n ∧ InCallback e n)) := by
    refine Unless.leadsTo_of_exit ?_ (fun _ h => h.2) (counting_ends hstart hfair)
    rintro n ⟨hwaits,hcounting⟩
    rcases counting_cases hstart hcounting with hframe | ⟨_,hrequested,hlaunch,hwaiting⟩ |
      ⟨hcallback,_,hwaiting⟩
    · exact .inl ⟨hframe.waiting caller hwaits,hframe.position.trans hcounting⟩
    · exact .inr (.inl ⟨(congrFun hwaiting caller).trans hwaits,hlaunch,hrequested⟩)
    · exact .inr (.inr ⟨(congrFun hwaiting caller).trans hwaits,hcallback⟩)
  refine hends.trans ?_
  rintro n (h | h)
  · exact requested_released hfair hsafe n h
  · exact inCallback_released hstart hfair n h

theorem atLaunch_released (hstart : e.state 0 = new) (hfair : Fair e) (hsafe : ExitsUnawaited e) :
    LeadsTo (fun n => Waits e caller n ∧ AtLaunch e n) (Released e caller) := by
  refine LeadsTo.or_elim (R := fun n => Waits e caller n ∧ Counting e n) ?_
    (counting_released hstart hfair hsafe)
  refine Unless.leadsTo_of_exit ?_ (fun _ h => h.2) (atLaunch_ends hfair)
  rintro n ⟨hwaits,hlaunch⟩
  rcases atLaunch_released_or hsafe hwaits hlaunch with hframe | hreleased | ⟨_,hnext⟩
  · exact .inl ⟨hframe.waiting caller hwaits,hlaunch.frame hframe⟩
  · exact .inr (.inl hreleased)
  · exact .inr (.inr hnext)

theorem waits_released (hstart : e.state 0 = new) (hfair : Fair e) (hsafe : ExitsUnawaited e) :
    LeadsTo (Waits e caller) (Released e caller) := by
  intro n hwaits
  obtain ⟨hnotStarted,hstarting⟩ := waits_started hstart hwaits
  have hcoherent := coherent_of_new hstart n
  cases hpos : (e.state n).position with
  | notStarted => exact absurd hpos hnotStarted
  | starting => exact absurd hpos hstarting
  | loopHead =>
    rw [Coherent,hpos] at hcoherent
    rcases hcoherent with hidle | hlaunch
    · exact ⟨n,Nat.le_refl n,.inr hidle⟩
    · exact atLaunch_released hstart hfair hsafe n ⟨hwaits,hpos,hlaunch⟩
  | counting => exact counting_released hstart hfair hsafe n ⟨hwaits,hpos⟩
  | inCallback => exact inCallback_released hstart hfair n ⟨hwaits,hpos⟩
  | exited => exact absurd hwaits (exited_unawaited hstart hsafe n hpos caller)

end

theorem abortsReturn_of_exitsUnawaited (hstart : e.state 0 = new) (hfair : Fair e)
    (hsafe : ExitsUnawaited e) : AbortsReturn e := by
  intro caller
  refine (hfair.abortReturn caller).leadsTo (unless_not _) ?_ ?_
  · refine LeadsTo.trans (waits_released hstart hfair hsafe) (LeadsTo.of_imp ?_)
    intro n hreleased
    by_cases hwaits : Waits e caller n
    · have hidle := hreleased.resolve_left (not_not.mpr hwaits)
      refine .inr ?_
      simp [Execution.Enabled,step,abortReturn,hidle,show (e.state n).waiting caller = _ from hwaits]
    · exact .inl hwaits
  · intro n _ htaken
    have hstep := e.next n
    rw [htaken] at hstep
    obtain ⟨_,heq⟩ := Option.ite_none_right_eq_some.mp hstep
    rw [Waits,← Option.some.inj heq]
    simp

theorem abortTimer_returns_iff (e : Execution step) (hstart : e.state 0 = new)
    (hfair : Fair e) : AbortsReturn e ↔ ExitsUnawaited e := by
  refine ⟨?_,abortsReturn_of_exitsUnawaited hstart hfair⟩
  intro hreturns n haction hdeinit caller hwaits
  have hstep := e.next n
  rw [haction] at hstep
  obtain ⟨_,⟨_,heq⟩ | ⟨hnot,_⟩ | ⟨hnot,_⟩ | ⟨hnot,_⟩⟩ := loop_some hstep
  · have hexited : (e.state (n + 1)).position = .exited := by rw [heq]
    have hwaits' : Waits e caller (n + 1) := by
      rw [Waits,heq]
      exact hwaits
    obtain ⟨m,hnm,hm⟩ := hreturns caller (n + 1) hwaits'
    rw [Waits,(exited_stays hstart hexited hnm).2] at hm
    exact hm hwaits'
  all_goals
    rw [hdeinit] at hnot
    cases hnot

theorem exitsUnawaited_of_serialized (hstart : e.state 0 = new)
    (h : ∀ n, e.action n = .deInitialize → ∀ caller, ¬Waits e caller n) : ExitsUnawaited e := by
  suffices hall : ∀ n, (e.state n).isTimerDeinit = true → ∀ caller, ¬Waits e caller n from
    fun n _ => hall n
  intro n
  induction n with
  | zero =>
    rw [hstart]
    intro hdeinit
    cases hdeinit
  | succ n ih =>
    intro hdeinit caller hwaits
    by_cases haction : e.action n = .deInitialize
    · have hstep := e.next n
      rw [haction] at hstep
      rw [Waits,← Option.some.inj hstep] at hwaits
      exact h n haction caller hwaits
    · have hcaused := step_caused (e.next n)
      have hdeinit' := (hcaused.isTimerDeinit hdeinit).resolve_right haction
      rcases hcaused.waiting caller hwaits with hwaits' | hclear
      · exact ih hdeinit' caller hwaits'
      · rw [hdeinit] at hclear
        cases hclear

theorem serialized_aborts_return (hstart : e.state 0 = new) (hfair : Fair e)
    (hserial : ∀ n, e.action n = .deInitialize → ∀ caller, ¬Waits e caller n) : AbortsReturn e :=
  abortsReturn_of_exitsUnawaited hstart hfair (exitsUnawaited_of_serialized hstart hserial)

end

def abortAnswered : List Action :=
  [.initializeThread true,.start,.launch 5,.loop,.abortTimer 0,.wake,.loop,.abortReturn 0]

theorem abortAnswered_runs : Runs abortAnswered := by decide

theorem abortAnswered_fair : Fair (tickingRun abortAnswered_runs) := by
  refine tickingRun_fair abortAnswered_runs ⟨.inr ⟨rfl,rfl,rfl,rfl,rfl⟩,?_⟩
  intro _ caller
  have hwaiting : ((tickingRun abortAnswered_runs).state abortAnswered.length).waiting =
      Function.update (Function.update (fun _ => false) 0 true) 0 false := rfl
  rw [hwaiting]
  by_cases hcaller : caller = 0 <;> simp [hcaller]

theorem serialized_aborts_return_answered : AbortsReturn (tickingRun abortAnswered_runs) := by
  refine serialized_aborts_return rfl abortAnswered_fair fun n haction => ?_
  have hnone : ∀ n < 8, ticking abortAnswered n ≠ .deInitialize := by decide
  by_cases hn : n < 8
  · exact absurd haction (hnone n hn)
  · cases (ticking_of_le (Nat.le_of_not_lt hn)).symm.trans haction

theorem abortTimer_returns_answered : ∃ e : Execution step, e.state 0 = new ∧ Fair e ∧
    Waits e 0 5 ∧ (AbortsReturn e ↔ ExitsUnawaited e) :=
  ⟨tickingRun abortAnswered_runs,rfl,abortAnswered_fair,rfl,
    abortTimer_returns_iff _ rfl abortAnswered_fair⟩

def deinitDuringAbort : List Action :=
  [.initializeThread true,.start,.launch 5,.loop,.abortTimer 0,.deInitialize,.wake,.loop]

theorem deinitDuringAbort_runs : Runs deinitDuringAbort := by decide

theorem abortTimer_deinitDuringAbort : ∃ e : Execution step, e.state 0 = new ∧ Fair e ∧
    e.action 4 = .abortTimer 0 ∧ ∀ n, 5 ≤ n → Waits e 0 n := by
  refine ⟨tickingRun deinitDuringAbort_runs,rfl,
    tickingRun_fair deinitDuringAbort_runs ⟨.inl rfl,?_⟩,rfl,?_⟩
  · intro hidle
    cases (hidle : ThreadState.deinit = .idle)
  intro n hn
  by_cases hlate : 8 ≤ n
  · rw [Waits,(exited_stays rfl (n := 8) rfl hlate).2]
    rfl
  · have hcases : n = 5 ∨ n = 6 ∨ n = 7 := by omega
    rcases hcases with rfl | rfl | rfl <;> rfl

def LaunchedAt (e : Execution step) (n : Nat) : Prop :=
  ∃ timeoutVal, e.action n = .launch timeoutVal ∧ ((e.state n).launch timeoutVal).1 = true

def Pending (e : Execution step) (n m : Nat) : Prop :=
  n < m ∧ ∀ k, n < k → k ≤ m → (e.state k).threadStatus = .launch

def Fires (e : Execution step) (n : Nat) : Prop :=
  ∃ m, Pending e n m ∧ (e.state (m + 1)).threadStatus = .calling

def Undisturbed (e : Execution step) (n : Nat) : Prop :=
  ∀ m, Pending e n m → e.action m ≠ .deInitialize ∧ ∀ caller, e.action m ≠ .abortTimer caller

section
variable {e : Execution step} {n m : Nat}

theorem Pending.status (h : Pending e n m) : (e.state m).threadStatus = .launch :=
  h.2 m h.1 (Nat.le_refl m)

theorem Pending.succ (h : Pending e n m) (hm : (e.state (m + 1)).threadStatus = .launch) :
    Pending e n (m + 1) := by
  refine ⟨Nat.lt_succ_of_lt h.1,?_⟩
  intro k hnk hkm
  rcases Nat.lt_or_ge m k with hlt | hle
  · obtain rfl : k = m + 1 := by omega
    exact hm
  · exact h.2 k hnk hle

theorem Pending.lt (h : Pending e n m) {k : Nat} (hnk : n < k)
    (hk : (e.state k).threadStatus ≠ .launch) : m < k := by
  by_contra hle
  exact hk (h.2 k hnk (Nat.le_of_not_lt hle))

theorem launchedAt_next (hstart : e.state 0 = new) (h : LaunchedAt e n) :
    Pending e n (n + 1) ∧ AtLaunch e (n + 1) ∧
      (e.state (n + 1)).isTimerStopped = (e.state n).isTimerStopped ∧
      (e.state (n + 1)).isTimerDeinit = (e.state n).isTimerDeinit := by
  obtain ⟨timeoutVal,haction,hlaunched⟩ := h
  have hstep := e.next n
  rw [haction] at hstep
  have heq := (Option.some.inj hstep).symm
  rcases launch_snd (e.state n) timeoutVal with ⟨hbusy,_⟩ | ⟨hidle,hnext⟩
  · simp [launch,hbusy] at hlaunched
  · rw [hnext] at heq
    have hstatus : (e.state (n + 1)).threadStatus = .launch := by rw [heq]
    refine ⟨⟨Nat.lt_succ_self n,?_⟩,⟨?_,hstatus⟩,by rw [heq],by rw [heq]⟩
    · intro k hnk hkn
      obtain rfl : k = n + 1 := by omega
      exact hstatus
    · rw [heq]
      exact (coherent_of_new hstart n).loopHead_of_idle hidle

theorem Undisturbed.clear (h : Undisturbed e n) (hpending : Pending e n m)
    (hclear : RequestsClear e m) : RequestsClear e (m + 1) := by
  obtain ⟨hdeinit,habort⟩ := h m hpending
  have hcaused := step_caused (e.next m)
  constructor
  · refine Bool.eq_false_iff.mpr ?_
    intro hstopped
    rcases hcaused.isTimerStopped hstopped with hold | ⟨caller,haction⟩
    · rw [hclear.1] at hold
      cases hold
    · exact habort caller haction
  · refine Bool.eq_false_iff.mpr ?_
    intro hset
    rcases hcaused.isTimerDeinit hset with hold | haction
    · rw [hclear.2] at hold
      cases hold
    · exact hdeinit haction

theorem atLaunch_counts (hfair : Fair e) (hquiet : Undisturbed e n) :
    LeadsTo (fun m => Pending e n m ∧ AtLaunch e m ∧ RequestsClear e m)
      (fun m => Pending e n m ∧ Counting e m ∧ RequestsClear e m) := by
  refine Unless.leadsTo_of_exit ?_ (fun _ h => h.2.1) (atLaunch_ends hfair)
  rintro m ⟨hpending,hlaunch,hclear⟩
  have hclear' := hquiet.clear hpending hclear
  rcases atLaunch_cases hlaunch with hframe | ⟨_,hdeinit,_⟩ | ⟨hstopped,_⟩ | ⟨_,hcounting,hstatus,_⟩
  · have hlaunch' := hlaunch.frame hframe
    exact .inl ⟨hpending.succ hlaunch'.2,hlaunch',hclear'⟩
  · rw [hclear.2] at hdeinit
    cases hdeinit
  · rw [hclear.1] at hstopped
    cases hstopped
  · exact .inr ⟨hpending.succ hstatus,hcounting,hclear'⟩

theorem counting_fires (hstart : e.state 0 = new) (hfair : Fair e) (hquiet : Undisturbed e n) :
    LeadsTo (fun m => Pending e n m ∧ Counting e m ∧ RequestsClear e m) (fun _ => Fires e n) := by
  refine Unless.leadsTo_of_exit ?_ (fun _ h => h.2.1) (counting_ends hstart hfair)
  rintro m ⟨hpending,hcounting,hclear⟩
  rcases counting_cases hstart hcounting with hframe | ⟨hrequested,_⟩ | ⟨_,hcalling,_⟩
  · exact .inl ⟨hpending.succ (hframe.threadStatus.trans hpending.status),
      hframe.position.trans hcounting,hquiet.clear hpending hclear⟩
  · exact absurd hclear hrequested
  · exact .inr ⟨m,hpending,hcalling⟩

theorem requested_pending (hstart : e.state 0 = new) (hlaunched : LaunchedAt e n)
    (hrequested : ¬RequestsClear e n) (hpending : Pending e n m) :
    AtLaunch e m ∧ ¬RequestsClear e m := by
  have hle : n + 1 ≤ m := hpending.1
  induction m, hle using Nat.le_induction with
  | base =>
    obtain ⟨_,hlaunch,hstopped,hdeinit⟩ := launchedAt_next hstart hlaunched
    refine ⟨hlaunch,?_⟩
    rwa [RequestsClear,hstopped,hdeinit]
  | succ m hle ih =>
    have hbefore : Pending e n m := ⟨hle,fun k hnk hkm => hpending.2 k hnk (Nat.le_succ_of_le hkm)⟩
    obtain ⟨hlaunch,hset⟩ := ih hbefore
    rcases atLaunch_cases hlaunch with hframe | ⟨_,_,hdeinit⟩ | ⟨_,hidle⟩ | ⟨hclear,_⟩
    · exact ⟨hlaunch.frame hframe,not_requestsClear_frame hset hframe⟩
    · exact absurd (hdeinit.symm.trans hpending.status) (by decide)
    · exact absurd (hidle.symm.trans hpending.status) (by decide)
    · exact absurd hclear hset

theorem launch_fires_iff (e : Execution step) (hstart : e.state 0 = new) (hfair : Fair e)
    (n : Nat) (hlaunched : LaunchedAt e n) (hquiet : Undisturbed e n) :
    Fires e n ↔ RequestsClear e n := by
  obtain ⟨hpending,hlaunch,hstopped,hdeinit⟩ := launchedAt_next hstart hlaunched
  constructor
  · rintro ⟨m,hm,hcalling⟩
    by_contra hrequested
    obtain ⟨hlaunch,hset⟩ := requested_pending hstart hlaunched hrequested hm
    rcases atLaunch_cases hlaunch with hframe | ⟨_,_,hdeinit⟩ | ⟨_,hidle⟩ | ⟨hclear,_⟩
    · exact absurd ((hframe.threadStatus.trans hlaunch.2).symm.trans hcalling) (by decide)
    · exact absurd (hdeinit.symm.trans hcalling) (by decide)
    · exact absurd (hidle.symm.trans hcalling) (by decide)
    · exact hset hclear
  · intro hclear
    have hclear' : RequestsClear e (n + 1) := by
      rwa [RequestsClear,hstopped,hdeinit]
    obtain ⟨_,_,hfires⟩ := ((atLaunch_counts hfair hquiet).trans
      (counting_fires hstart hfair hquiet)) (n + 1) ⟨hpending,hlaunch,hclear'⟩
    exact hfires

end

def firesOnTime : List Action :=
  [.initializeThread true,.start,.launch 0,.loop,.wake,.callbackReturn]

theorem firesOnTime_runs : Runs firesOnTime := by decide

theorem firesOnTime_fair : Fair (tickingRun firesOnTime_runs) :=
  tickingRun_fair firesOnTime_runs ⟨.inr ⟨rfl,rfl,rfl,rfl,rfl⟩,fun _ _ => rfl⟩

theorem firesOnTime_undisturbed : Undisturbed (tickingRun firesOnTime_runs) 2 := by
  intro m hpending
  have hlt := hpending.lt (k := 5) (by decide) (by decide)
  have hgt := hpending.1
  obtain rfl | rfl : m = 3 ∨ m = 4 := by omega
  · exact ⟨by decide,fun _ => by simp [tickingRun,Execution.replay,ticking,firesOnTime]⟩
  · exact ⟨by decide,fun _ => by simp [tickingRun,Execution.replay,ticking,firesOnTime]⟩

theorem launch_fires_onTime : ∃ e : Execution step, e.state 0 = new ∧ Fair e ∧
    LaunchedAt e 2 ∧ Undisturbed e 2 ∧ (Fires e 2 ↔ RequestsClear e 2) :=
  ⟨tickingRun firesOnTime_runs,rfl,firesOnTime_fair,⟨0,rfl,rfl⟩,firesOnTime_undisturbed,
    launch_fires_iff _ rfl firesOnTime_fair 2 ⟨0,rfl,rfl⟩ firesOnTime_undisturbed⟩

def staleStop : List Action :=
  [.initializeThread true,.start,.launch 0,.loop,.wake,.abortTimer 0,.callbackReturn,.abortReturn 0,
    .launch 5,.loop,.launch 0,.loop,.wake,.callbackReturn]

theorem staleStop_runs : Runs staleStop := by decide

theorem staleStop_fair : Fair (tickingRun staleStop_runs) := by
  refine tickingRun_fair staleStop_runs ⟨.inr ⟨rfl,rfl,rfl,rfl,rfl⟩,?_⟩
  intro _ caller
  have hwaiting : ((tickingRun staleStop_runs).state staleStop.length).waiting =
      Function.update (Function.update (fun _ => false) 0 true) 0 false := rfl
  rw [hwaiting]
  by_cases hcaller : caller = 0 <;> simp [hcaller]

theorem launch_staleStop : ∃ e : Execution step, e.state 0 = new ∧ Fair e ∧
    e.action 5 = .abortTimer 0 ∧ e.action 7 = .abortReturn 0 ∧ LaunchedAt e 8 ∧ Undisturbed e 8 ∧
    ¬Fires e 8 := by
  have hpending : ∀ m, Pending (tickingRun staleStop_runs) 8 m → m = 9 := by
    intro m hpending
    have hlt := hpending.lt (k := 10) (by decide) (by decide)
    have hgt := hpending.1
    omega
  refine ⟨tickingRun staleStop_runs,rfl,staleStop_fair,rfl,rfl,⟨5,rfl,rfl⟩,?_,?_⟩
  · intro m hm
    obtain rfl := hpending m hm
    exact ⟨by decide,fun _ => by simp [tickingRun,Execution.replay,ticking,staleStop]⟩
  · rintro ⟨m,hm,hcalling⟩
    obtain rfl := hpending m hm
    cases (hcalling : ThreadState.idle = .calling)

end QnnEp.Timing
