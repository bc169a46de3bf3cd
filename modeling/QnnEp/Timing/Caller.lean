import QnnEp.Timing.Thread

namespace QnnEp.Timing.Timer

def create (threadStarts : Bool) : Option Timer := (new.initializeThread threadStarts).bind start

def timerInUse (t : Timer) : Bool := t.threadStatus = .launch ∨ t.threadStatus = .calling

def remainingDuration (t : Timer) : Option Int :=
  match t.threadStatus with
  | .launch => some (t.endTime - t.now)
  | .calling | .idle => some 0
  | .deinit | .failed => none

def elapse (t : Timer) (duration : Nat) : Timer := { t with now := t.now + duration }

def abortAndWait (t : Timer) : Timer :=
  if t.abortIgnored then t
  else
    let t := { t with isTimerStopped := true }
    match t.position with
    | .loopHead => if t.threadStatus = .idle then t else t.loop.getD t
    | .counting => (t.wake.bind loop).getD t
    | .inCallback => t.callbackReturn.getD t
    | .notStarted | .starting | .exited => t

structure Alive (t : Timer) : Prop where
  coherent : t.Coherent
  isTimerDeinit : t.isTimerDeinit = false
  position : t.position = .loopHead ∨ t.position = .counting ∨ t.position = .inCallback

section
variable {t t' : Timer}

theorem Alive.threadStatus (h : t.Alive) :
    t.threadStatus = .idle ∨ t.threadStatus = .launch ∨ t.threadStatus = .calling := by
  have hcoherent := h.coherent
  rcases h.position with hpos | hpos | hpos <;> rw [Coherent,hpos] at hcoherent
  · exact hcoherent.imp_right .inl
  · exact .inr (.inl hcoherent)
  · exact .inr (.inr hcoherent)

theorem Alive.abortIgnored (h : t.Alive) : t.abortIgnored = false := by
  rcases h.threadStatus with hstatus | hstatus | hstatus <;>
    simp [Timer.abortIgnored,h.isTimerDeinit,hstatus]

theorem Alive.idle_of_not_inUse (h : t.Alive) (hinUse : t.timerInUse = false) :
    t.threadStatus = .idle := by
  rcases h.threadStatus with hstatus | hstatus | hstatus
  · exact hstatus
  · simp [timerInUse,hstatus] at hinUse
  · simp [timerInUse,hstatus] at hinUse

theorem timerInUse_of_idle (h : t.threadStatus = .idle) : t.timerInUse = false := by
  simp [timerInUse,h]

theorem Alive.loop (h : t.Alive) (hloop : t.loop = some t') : t'.Alive := by
  obtain ⟨hpos,⟨hdeinit,_⟩ | ⟨_,_,rfl⟩ | ⟨_,_,hlaunch,rfl⟩ | ⟨_,_,_,rfl⟩⟩ := loop_some hloop
  · rw [h.isTimerDeinit] at hdeinit
    cases hdeinit
  · exact ⟨h.coherent.step (a := .loop) hloop,h.isTimerDeinit,h.position⟩
  · exact ⟨hlaunch,h.isTimerDeinit,.inr (.inl rfl)⟩
  · exact h

theorem Alive.wake (h : t.Alive) (hwake : t.wake = some t') : t'.Alive := by
  have hcoherent := h.coherent.step (a := .wake) hwake
  obtain ⟨_,⟨_,rfl⟩ | ⟨_,_,_,rfl⟩⟩ := wake_some hwake
  · exact ⟨hcoherent,h.isTimerDeinit,.inl rfl⟩
  · exact ⟨hcoherent,h.isTimerDeinit,.inr (.inr rfl)⟩

theorem Alive.callbackReturn (h : t.Alive) (hreturn : t.callbackReturn = some t') : t'.Alive := by
  have hcoherent := h.coherent.step (a := .callbackReturn) hreturn
  obtain ⟨_,rfl⟩ := callbackReturn_some hreturn
  exact ⟨hcoherent,h.isTimerDeinit,.inl rfl⟩

theorem Alive.launch (h : t.Alive) (timeoutVal : Nat) : (t.launch timeoutVal).2.Alive := by
  have hcoherent := h.coherent.step (a := .launch timeoutVal) rfl
  rcases launch_snd t timeoutVal with ⟨_,heq⟩ | ⟨_,heq⟩
  · rwa [heq]
  · rw [heq] at hcoherent ⊢
    exact ⟨hcoherent,h.isTimerDeinit,h.position⟩

theorem launch_inUse (h : t.Alive) (timeoutVal : Nat) : (t.launch timeoutVal).2.timerInUse = true := by
  rcases launch_snd t timeoutVal with ⟨hbusy,heq⟩ | ⟨_,heq⟩
  · rw [heq]
    exact Bool.of_not_eq_false fun hinUse => hbusy (h.idle_of_not_inUse hinUse)
  · rw [heq]
    simp [timerInUse]

theorem Alive.elapse (h : t.Alive) (duration : Nat) : (t.elapse duration).Alive :=
  ⟨h.coherent,h.isTimerDeinit,h.position⟩

theorem Alive.stop (h : t.Alive) : ({ t with isTimerStopped := true } : Timer).Alive :=
  ⟨h.coherent,h.isTimerDeinit,h.position⟩

theorem create_alive {threadStarts : Bool} (h : create threadStarts = some t) :
    t.Alive ∧ t.threadStatus = .idle := by
  cases threadStarts with
  | false => cases h
  | true =>
    cases h
    exact ⟨⟨.inl rfl,rfl,.inl rfl⟩,rfl⟩

theorem alive_getD {next : Option Timer} (h : t.Alive) (hnext : ∀ t', next = some t' → t'.Alive) :
    (next.getD t).Alive := by
  cases next with
  | none => exact h
  | some t' => exact hnext t' rfl

theorem Alive.abortAndWait (h : t.Alive) : t.abortAndWait.Alive := by
  unfold Timer.abortAndWait
  split
  · exact h
  · dsimp only
    split
    · split
      · exact h.stop
      · exact alive_getD h.stop fun _ => h.stop.loop
    · refine alive_getD h.stop ?_
      intro t' hnext
      obtain ⟨t₁,hwake,hloop⟩ := Option.bind_eq_some_iff.mp hnext
      exact (h.stop.wake hwake).loop hloop
    · exact alive_getD h.stop fun _ => h.stop.callbackReturn
    · exact h.stop
    · exact h.stop
    · exact h.stop

def follow (t : Timer) (actions : List Action) : Option Timer := actions.foldlM step t

theorem Alive.abortAndWait_cases (h : t.Alive) :
    (t.position = .loopHead ∧ t.threadStatus = .idle ∧
        t.abortAndWait = { t with isTimerStopped := true }) ∨
      (t.position = .loopHead ∧ t.threadStatus = .launch ∧
        t.abortAndWait = { t with threadStatus := .idle, isTimerStopped := false }) ∨
      (t.position = .counting ∧ t.threadStatus = .launch ∧ t.abortAndWait = { t with
        threadStatus := .idle, isTimerStopped := false, isTimerLaunched := false
        position := .loopHead }) ∨
      (t.position = .inCallback ∧ t.threadStatus = .calling ∧ t.abortAndWait = { t with
        threadStatus := .idle, isTimerStopped := true, isTimerLaunched := false
        position := .loopHead }) := by
  have hcoherent := h.coherent
  have hdeinit := h.isTimerDeinit
  rcases h.position with hpos | hpos | hpos <;> rw [Coherent,hpos] at hcoherent
  · rcases hcoherent with hstatus | hstatus <;>
      simp [Timer.abortAndWait,Timer.loop,h.abortIgnored,hpos,hstatus,hdeinit]
  · simp [Timer.abortAndWait,Timer.wake,Timer.loop,h.abortIgnored,hpos,hcoherent,hdeinit]
  · simp [Timer.abortAndWait,Timer.callbackReturn,h.abortIgnored,hpos,hcoherent]

theorem abortAndWait_idle (h : t.Alive) : t.abortAndWait.threadStatus = .idle := by
  rcases h.abortAndWait_cases with ⟨_,hstatus,heq⟩ | ⟨_,_,heq⟩ | ⟨_,_,heq⟩ | ⟨_,_,heq⟩ <;> rw [heq]
  exact hstatus

theorem abortAndWait_reachable (h : t.Alive) {caller : Nat} (hwaiting : t.waiting caller = false) :
    ∃ actions, actions ⊆ [.loop,.wake,.callbackReturn,.abortReturn caller] ∧
      t.follow (.abortTimer caller :: actions) = some t.abortAndWait := by
  have hcoherent := h.coherent
  have hdeinit := h.isTimerDeinit
  have hignored := h.abortIgnored
  have hreset : Function.update (Function.update t.waiting caller true) caller false = t.waiting := by
    rw [Function.update_idem,← hwaiting,Function.update_eq_self]
  rcases h.position with hpos | hpos | hpos <;> rw [Coherent,hpos] at hcoherent
  · rcases hcoherent with hidle | hlaunch
    · refine ⟨[],by simp,?_⟩
      simp [follow,Timer.step,abortTimer,Timer.abortAndWait,hwaiting,hignored,hpos,hidle]
    · refine ⟨[.loop,.abortReturn caller],by simp,?_⟩
      simp [follow,Timer.step,abortTimer,abortReturn,Timer.abortAndWait,Timer.loop,hwaiting,hignored,
        hpos,hlaunch,hdeinit,hreset]
  · refine ⟨[.wake,.loop,.abortReturn caller],by simp,?_⟩
    simp [follow,Timer.step,abortTimer,abortReturn,Timer.abortAndWait,Timer.wake,Timer.loop,hwaiting,
      hignored,hpos,hcoherent,hdeinit,hreset]
  · refine ⟨[.callbackReturn,.abortReturn caller],by simp,?_⟩
    simp [follow,Timer.step,abortTimer,abortReturn,Timer.abortAndWait,Timer.callbackReturn,hwaiting,
      hignored,hpos,hcoherent,hreset]

structure Settled (t b : Timer) : Prop where
  reached : b = t.abortAndWait ∨ t.abortAndWait.loop = some b
  threadStatus : b.threadStatus = .idle
  position : b.position = .loopHead
  waiting : b.waiting = t.waiting

theorem Alive.settled (h : t.Alive) : Settled t t.abortAndWait := by
  rcases h.abortAndWait_cases with ⟨hpos,_,heq⟩ | ⟨hpos,_,heq⟩ | ⟨_,_,heq⟩ | ⟨_,_,heq⟩ <;>
    refine ⟨.inl rfl,abortAndWait_idle h,?_,by rw [heq]⟩ <;> rw [heq]
  · exact hpos
  · exact hpos

theorem loop_of_idle (hdeinit : t.isTimerDeinit = false) (hidle : t.threadStatus = .idle)
    (hloop : t.loop = some t') : t' = { t with isTimerStopped := false } := by
  obtain ⟨_,⟨hd,_⟩ | ⟨_,_,rfl⟩ | ⟨_,_,hlaunch,_⟩ | ⟨_,hstopped,_,rfl⟩⟩ := loop_some hloop
  · rw [hdeinit] at hd
    cases hd
  · rw [hidle]
  · rw [hidle] at hlaunch
    cases hlaunch
  · rw [← hstopped]

theorem Settled.loop (h : t.Alive) {b b' : Timer} (hb : Settled t b) (hloop : b.loop = some b') :
    Settled t b' := by
  have hdeinit := h.abortAndWait.isTimerDeinit
  have hidle := abortAndWait_idle h
  have hb' : t.abortAndWait.loop = some b' := by
    rcases hb.reached with rfl | hfirst
    · exact hloop
    · -- A second pass finds the request gone and changes nothing.
      have heq := loop_of_idle hdeinit hidle hfirst
      have hkeep : b.isTimerDeinit = false ∧ b.isTimerStopped = false := by
        rw [heq]
        exact ⟨hdeinit,rfl⟩
      rw [hfirst,loop_of_idle hkeep.1 hb.threadStatus hloop,← hkeep.2]
  obtain rfl := loop_of_idle hdeinit hidle hb'
  exact ⟨.inr hb',hidle,h.settled.position,h.settled.waiting⟩

-- The states the timer passes through between the caller's AbortTimer and its return: the thread has
-- not seen the request, it has left its wait, or it is idle with the caller not yet or already back.
inductive Aborting (t : Timer) (caller : Nat) : Timer → Prop
  | requested (hbusy : t.threadStatus ≠ .idle) : Aborting t caller
      { t with isTimerStopped := true, waiting := Function.update t.waiting caller true }
  | woken (hpos : t.position = .counting) : Aborting t caller
      { t with
        isTimerStopped := true, isTimerLaunched := false, position := .loopHead
        waiting := Function.update t.waiting caller true }
  | waits {b : Timer} (hb : Settled t b) : Aborting t caller
      { b with waiting := Function.update t.waiting caller true }
  | returned {b : Timer} (hb : Settled t b) : Aborting t caller b

theorem loop_waiting (waiting : Nat → Bool) : ({ t with waiting := waiting } : Timer).loop =
    t.loop.map fun b => { b with waiting := waiting } := by
  unfold Timer.loop
  dsimp only
  split_ifs <;> rfl

theorem Aborting.loop (h : t.Alive) {caller : Nat} {s s' : Timer} (hs : Aborting t caller s)
    (hloop : s.loop = some s') : Aborting t caller s' := by
  have hdeinit := h.isTimerDeinit
  cases hs with
  | requested hbusy =>
    obtain ⟨hpos,⟨hd,_⟩ | ⟨_,_,rfl⟩ | ⟨_,hstopped,_⟩ | ⟨_,hstopped,_⟩⟩ := loop_some hloop
    · exact absurd (hdeinit.symm.trans hd) (by decide)
    · rcases h.abortAndWait_cases with ⟨_,hidle,_⟩ | ⟨_,_,heq⟩ | ⟨hc,_⟩ | ⟨hc,_⟩
      · exact absurd hidle hbusy
      · have hwaits : Aborting t caller _ := .waits h.settled
        rwa [heq] at hwaits
      · exact absurd (hpos.symm.trans hc) (by decide)
      · exact absurd (hpos.symm.trans hc) (by decide)
    · cases hstopped
    · cases hstopped
  | woken hpos =>
    obtain ⟨_,⟨hd,_⟩ | ⟨_,_,rfl⟩ | ⟨_,hstopped,_⟩ | ⟨_,hstopped,_⟩⟩ := loop_some hloop
    · exact absurd (hdeinit.symm.trans hd) (by decide)
    · rcases h.abortAndWait_cases with ⟨hc,_⟩ | ⟨hc,_⟩ | ⟨_,_,heq⟩ | ⟨hc,_⟩
      · exact absurd (hpos.symm.trans hc) (by decide)
      · exact absurd (hpos.symm.trans hc) (by decide)
      · have hwaits : Aborting t caller _ := .waits h.settled
        rwa [heq] at hwaits
      · exact absurd (hpos.symm.trans hc) (by decide)
    · cases hstopped
    · cases hstopped
  | waits hb =>
    rw [loop_waiting] at hloop
    obtain ⟨b',hb',rfl⟩ := Option.map_eq_some_iff.mp hloop
    exact .waits (hb.loop h hb')
  | returned hb => exact .returned (hb.loop h hloop)

theorem Aborting.step (h : t.Alive) {caller : Nat} (hwaiting : t.waiting caller = false)
    {s s' : Timer} (hs : Aborting t caller s) {a : Action}
    (ha : a ∈ [Action.loop,.wake,.callbackReturn,.abortReturn caller]) (hstep : s.step a = some s') :
    Aborting t caller s' := by
  simp only [List.mem_cons,List.not_mem_nil,or_false] at ha
  rcases ha with rfl | rfl | rfl | rfl
  · exact hs.loop h hstep
  · obtain ⟨hpos,hwake⟩ := wake_some hstep
    cases hs with
    | requested hbusy =>
      rcases hwake with ⟨_,rfl⟩ | ⟨hstopped,_⟩
      · exact .woken hpos
      · cases hstopped
    | woken _ => cases hpos
    | waits hb | returned hb => exact absurd (hb.position.symm.trans hpos) (by decide)
  · obtain ⟨hpos,rfl⟩ := callbackReturn_some hstep
    cases hs with
    | requested hbusy =>
      rcases h.abortAndWait_cases with ⟨hc,_⟩ | ⟨hc,_⟩ | ⟨hc,_⟩ | ⟨_,_,heq⟩
      · exact absurd (hpos.symm.trans hc) (by decide)
      · exact absurd (hpos.symm.trans hc) (by decide)
      · exact absurd (hpos.symm.trans hc) (by decide)
      · have hwaits : Aborting t caller _ := .waits h.settled
        rwa [heq] at hwaits
    | woken _ => cases hpos
    | waits hb | returned hb => exact absurd (hb.position.symm.trans hpos) (by decide)
  · obtain ⟨⟨hwaits,hidle⟩,heq⟩ := Option.ite_none_right_eq_some.mp hstep
    obtain rfl := Option.some.inj heq
    cases hs with
    | requested hbusy => exact absurd hidle hbusy
    | woken hpos =>
      have hcoherent := h.coherent
      rw [Coherent,hpos] at hcoherent
      exact absurd (hidle.symm.trans hcoherent) (by decide)
    | @waits b hb =>
      have hreset : Function.update (Function.update t.waiting caller true) caller false = b.waiting := by
        rw [Function.update_idem,← hwaiting,Function.update_eq_self,hb.waiting]
      simp only [hreset]
      exact .returned hb
    | returned hb =>
      rw [hb.waiting,hwaiting] at hwaits
      cases hwaits

theorem abortAndWait_completes (h : t.Alive) {caller : Nat} (hwaiting : t.waiting caller = false) :
    (∃ actions, actions ⊆ [.loop,.wake,.callbackReturn,.abortReturn caller] ∧
      t.follow (.abortTimer caller :: actions) = some t.abortAndWait) ∧
    ∀ actions t', actions ⊆ [.loop,.wake,.callbackReturn,.abortReturn caller] →
      t.follow (.abortTimer caller :: actions) = some t' → t'.waiting caller = false →
      t' = t.abortAndWait ∨ t.abortAndWait.loop = some t' := by
  refine ⟨abortAndWait_reachable h hwaiting,fun actions t' hsub hfollow hback => ?_⟩
  have hrun : ∀ (actions : List Action) (s : Timer), Aborting t caller s →
      actions ⊆ [.loop,.wake,.callbackReturn,.abortReturn caller] → s.follow actions = some t' →
      Aborting t caller t' := by
    intro actions
    induction actions with
    | nil =>
      intro s hs _ hfollow
      rwa [← Option.some.inj hfollow]
    | cons a actions ih =>
      intro s hs hsub hfollow
      obtain ⟨s',hstep,hrest⟩ := Option.bind_eq_some_iff.mp hfollow
      obtain ⟨ha,hsub⟩ := List.cons_subset.mp hsub
      exact ih s' (hs.step h hwaiting ha hstep) hsub hrest
  obtain ⟨s,hstep,hrest⟩ := Option.bind_eq_some_iff.mp hfollow
  have hs : Aborting t caller s := by
    rcases abortTimer_some hstep with ⟨hignored,_⟩ | ⟨_,hidle,rfl⟩ | ⟨_,hbusy,rfl⟩
    · rw [h.abortIgnored] at hignored
      cases hignored
    · rcases h.abortAndWait_cases with ⟨_,_,heq⟩ | ⟨_,hc,_⟩ | ⟨_,hc,_⟩ | ⟨_,hc,_⟩
      · exact .returned (heq ▸ h.settled)
      · exact absurd (hidle.symm.trans hc) (by decide)
      · exact absurd (hidle.symm.trans hc) (by decide)
      · exact absurd (hidle.symm.trans hc) (by decide)
    · exact .requested hbusy
  cases hrun actions s hs hsub hrest with
  | requested _ | woken _ | waits _ => simp at hback
  | returned hb => exact hb.reached

theorem abortAndWait_completes_launched : ∃ t, create true = some t ∧
    ∀ actions t', actions ⊆ [Action.loop,.wake,.callbackReturn,.abortReturn 0] →
      (t.launch 5).2.follow (.abortTimer 0 :: actions) = some t' → t'.waiting 0 = false →
      t' = (t.launch 5).2.abortAndWait ∨ (t.launch 5).2.abortAndWait.loop = some t' :=
  ⟨_,rfl,(abortAndWait_completes
    ((create_alive (show create true = some _ from rfl)).1.launch 5) rfl).2⟩

end

end QnnEp.Timing.Timer
