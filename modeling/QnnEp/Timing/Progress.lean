import QnnEp.Timing.Thread

namespace QnnEp.Timing
open Temporal Timer

structure Fair (e : Execution step) : Prop where
  loop : WeaklyFair (e.Enabled .loop) (e.Taken .loop)
  wake : WeaklyFair (e.Enabled .wake) (e.Taken .wake)
  callbackReturn : WeaklyFair (e.Enabled .callbackReturn) (e.Taken .callbackReturn)
  abortReturn : ∀ caller, StronglyFair (e.Enabled (.abortReturn caller)) (e.Taken (.abortReturn caller))
  time : ∀ t n, ∃ m, n ≤ m ∧ t ≤ (e.state m).now

section
variable {e : Execution step}

theorem coherent_of_new (hstart : e.state 0 = new) (n : Nat) : (e.state n).Coherent :=
  e.invariant (by rw [hstart]; exact new_coherent) (fun _ _ _ h => h.step) n

def AtLaunch (e : Execution step) (n : Nat) : Prop :=
  (e.state n).position = .loopHead ∧ (e.state n).threadStatus = .launch

def Counting (e : Execution step) (n : Nat) : Prop := (e.state n).position = .counting

def RequestsClear (e : Execution step) (n : Nat) : Prop :=
  (e.state n).isTimerStopped = false ∧ (e.state n).isTimerDeinit = false

def InCallback (e : Execution step) (n : Nat) : Prop := (e.state n).position = .inCallback

theorem atLaunch_ends (hfair : Fair e) : LeadsTo (AtLaunch e) (fun n => ¬AtLaunch e n) := by
  refine hfair.loop.leadsTo (unless_not _) ?_ ?_
  · rintro n ⟨hpos,hlaunch⟩
    exact loop_isSome hpos (by simp [hlaunch])
  · rintro n ⟨_,hlaunch⟩ htaken ⟨hpos,hlaunch'⟩
    have hstep := e.next n
    rw [htaken] at hstep
    obtain ⟨_,⟨_,heq⟩ | ⟨_,_,heq⟩ | ⟨_,_,_,heq⟩ | ⟨_,_,hne,_⟩⟩ := loop_some hstep
    · rw [heq] at hpos
      cases hpos
    · rw [heq] at hlaunch'
      cases hlaunch'
    · rw [heq] at hpos
      cases hpos
    · exact hne hlaunch

theorem inCallback_ends (hfair : Fair e) : LeadsTo (InCallback e) (fun n => ¬InCallback e n) := by
  refine hfair.callbackReturn.leadsTo (unless_not _) ?_ ?_
  · intro n hpos
    simp [Execution.Enabled,step,callbackReturn,show (e.state n).position = _ from hpos]
  · intro n _ htaken hpos
    have hstep := e.next n
    rw [htaken] at hstep
    have heq := (callbackReturn_some hstep).2
    rw [InCallback,heq] at hpos
    cases hpos

theorem atLaunch_cases {n : Nat} (h : AtLaunch e n) : Frame (e.state n) (e.state (n + 1)) ∨
    (e.action n = .loop ∧ (e.state n).isTimerDeinit = true ∧
      (e.state (n + 1)).threadStatus = .deinit) ∨
    ((e.state n).isTimerStopped = true ∧ (e.state (n + 1)).threadStatus = .idle) ∨
    (RequestsClear e n ∧ Counting e (n + 1) ∧ (e.state (n + 1)).threadStatus = .launch ∧
      (e.state (n + 1)).waiting = (e.state n).waiting) := by
  rcases step_busy (by simp [h.1]) (by simp [h.2]) (e.next n)
    with hframe | ⟨haction,hloop⟩ | hwake | hreturn
  · exact .inl hframe
  · obtain ⟨_,⟨hdeinit,heq⟩ | ⟨_,hstopped,heq⟩ | ⟨hdeinit,hstopped,hlaunch,heq⟩ | ⟨_,_,hne,_⟩⟩ :=
      loop_some hloop
    · exact .inr (.inl ⟨haction,hdeinit,by rw [heq]⟩)
    · exact .inr (.inr (.inl ⟨hstopped,by rw [heq]⟩))
    · rw [Counting,heq]
      exact .inr (.inr (.inr ⟨⟨hstopped,hdeinit⟩,rfl,hlaunch,rfl⟩))
    · exact absurd h.2 hne
  · exact absurd ((wake_some hwake).1.symm.trans h.1) (by decide)
  · exact absurd ((callbackReturn_some hreturn).1.symm.trans h.1) (by decide)

theorem counting_cases (hstart : e.state 0 = new) {n : Nat} (h : Counting e n) :
    Frame (e.state n) (e.state (n + 1)) ∨
    (¬RequestsClear e n ∧ ¬RequestsClear e (n + 1) ∧ AtLaunch e (n + 1) ∧
      (e.state (n + 1)).waiting = (e.state n).waiting) ∨
    (InCallback e (n + 1) ∧ (e.state (n + 1)).threadStatus = .calling ∧
      (e.state (n + 1)).waiting = (e.state n).waiting) := by
  have hlaunch : (e.state n).threadStatus = .launch := by
    have hcoherent := coherent_of_new hstart n
    rwa [Coherent,show (e.state n).position = _ from h] at hcoherent
  rcases step_busy (by simp [show (e.state n).position = _ from h]) (by simp [hlaunch]) (e.next n)
    with hframe | ⟨_,hloop⟩ | hwake | hreturn
  · exact .inl hframe
  · exact absurd ((loop_some hloop).1.symm.trans h) (by decide)
  · obtain ⟨_,⟨hflag,heq⟩ | ⟨_,_,_,heq⟩⟩ := wake_some hwake
    · have hrequested : ¬RequestsClear e n := by
        rintro ⟨hstopped,hdeinit⟩
        simp [hstopped,hdeinit] at hflag
      refine .inr (.inl ⟨hrequested,?_⟩)
      rw [RequestsClear,AtLaunch,heq]
      exact ⟨hrequested,⟨rfl,hlaunch⟩,rfl⟩
    · rw [InCallback,heq]
      exact .inr (.inr ⟨rfl,rfl,rfl⟩)
  · exact absurd ((callbackReturn_some hreturn).1.symm.trans h) (by decide)

theorem counting_frame (hstart : e.state 0 = new) {n : Nat} (hn : Counting e n)
    (hn' : Counting e (n + 1)) : Frame (e.state n) (e.state (n + 1)) := by
  rcases counting_cases hstart hn with hframe | ⟨_,_,hlaunch,_⟩ | ⟨hcallback,_⟩
  · exact hframe
  · exact absurd (hlaunch.1.symm.trans hn') (by decide)
  · exact absurd (hcallback.symm.trans hn') (by decide)

theorem AtLaunch.frame {n : Nat} (h : AtLaunch e n)
    (hframe : Frame (e.state n) (e.state (n + 1))) : AtLaunch e (n + 1) :=
  ⟨hframe.position.trans h.1,hframe.threadStatus.trans h.2⟩

theorem not_requestsClear_frame {n : Nat} (h : ¬RequestsClear e n)
    (hframe : Frame (e.state n) (e.state (n + 1))) : ¬RequestsClear e (n + 1) := by
  rintro ⟨hstopped,hdeinit⟩
  refine h ⟨Bool.eq_false_iff.mpr ?_,Bool.eq_false_iff.mpr ?_⟩
  · intro hset
    rw [hframe.isTimerStopped hset] at hstopped
    cases hstopped
  · intro hset
    rw [hframe.isTimerDeinit hset] at hdeinit
    cases hdeinit

theorem counting_ends (hstart : e.state 0 = new) (hfair : Fair e) :
    LeadsTo (Counting e) (fun n => ¬Counting e n) := by
  intro n hn
  let Until (t m : Nat) : Prop := Counting e m ∧ (e.state m).endTime = t
  have hunless : ∀ t, Unless (Until t) (fun m => ¬Counting e m) := by
    rintro t m ⟨hm,ht⟩
    by_cases hm' : Counting e (m + 1)
    · exact .inl ⟨hm',(counting_frame hstart hm hm').endTime.trans ht⟩
    · exact .inr hm'
  have hlate := (hunless (e.state n).endTime).often
    (R := fun m => (e.state n).endTime ≤ (e.state m).now) fun m _ => hfair.time _ m
  refine (hlate.or_elim (hfair.wake.leadsTo ?_ ?_ ?_)) n ⟨hn,rfl⟩
  · rintro m ⟨⟨hm,ht⟩,hnow⟩
    rcases hunless _ m ⟨hm,ht⟩ with hm' | hm'
    · exact .inl ⟨hm',Nat.le_trans hnow (counting_frame hstart hm hm'.1).now⟩
    · exact .inr hm'
  · rintro m ⟨⟨hm,ht⟩,hnow⟩
    rw [← ht] at hnow
    exact wake_isSome hm hnow
  · rintro m ⟨⟨hm,_⟩,_⟩ htaken hm'
    have hstep := e.next m
    rw [htaken] at hstep
    obtain ⟨_,⟨_,heq⟩ | ⟨_,_,_,heq⟩⟩ := wake_some hstep
    · rw [Counting,heq] at hm'
      cases hm'
    · rw [Counting,heq] at hm'
      cases hm'

end

section
variable (actions : List Action)

def ticking (n : Nat) : Action := actions.getD n .tick

def Runs : Prop := ∀ n, n < actions.length →
  (step (stateAt step new (ticking actions) n) (ticking actions n)).isSome = true

instance : Decidable (Runs actions) := inferInstanceAs (Decidable (∀ n, n < actions.length →
  (step (stateAt step new (ticking actions) n) (ticking actions n)).isSome = true))

variable {actions}

theorem ticking_of_le {n : Nat} (h : actions.length ≤ n) : ticking actions n = .tick :=
  List.getD_eq_default _ _ h

def tickingRun (h : Runs actions) : Execution step :=
  Execution.replay step new (ticking actions) fun n => by
    by_cases hn : n < actions.length
    · exact h n hn
    · rw [ticking_of_le (Nat.le_of_not_lt hn)]
      rfl

theorem tickingRun_tail (h : Runs actions) (k : Nat) :
    (tickingRun h).state (actions.length + k) = { (tickingRun h).state actions.length with
      now := ((tickingRun h).state actions.length).now + k } := by
  induction k with
  | zero => rfl
  | succ k ih =>
    have hnext := (tickingRun h).next (actions.length + k)
    rw [show (tickingRun h).action (actions.length + k) = .tick from
      ticking_of_le (Nat.le_add_right _ _),ih] at hnext
    exact (Option.some.inj hnext).symm

structure Quiet (t : Timer) : Prop where
  position : t.position = .exited ∨ t.position = .loopHead ∧ t.threadStatus = .idle ∧
    t.isTimerLaunched = false ∧ t.isTimerStopped = false ∧ t.isTimerDeinit = false
  waiting : t.threadStatus = .idle → ∀ caller, t.waiting caller = false

theorem tickingRun_fair (h : Runs actions) (hquiet : Quiet ((tickingRun h).state actions.length)) :
    Fair (tickingRun h) := by
  have htail : ∀ m, actions.length ≤ m → ∃ now, (tickingRun h).state m =
      { (tickingRun h).state actions.length with now := now } := by
    intro m hm
    obtain ⟨k,rfl⟩ := Nat.exists_eq_add_of_le hm
    exact ⟨_,tickingRun_tail h k⟩
  have hdisabled : ∀ a : Action,
      (∀ now, step { (tickingRun h).state actions.length with now := now } a = none) →
        StronglyFair ((tickingRun h).Enabled a) ((tickingRun h).Taken a) := by
    intro a ha
    refine stronglyFair_of_disabled actions.length ?_
    intro m hm henabled
    obtain ⟨now,hnow⟩ := htail m hm
    rw [Execution.Enabled,hnow,ha] at henabled
    cases henabled
  refine ⟨(hdisabled _ ?_).weaklyFair,(hdisabled _ ?_).weaklyFair,(hdisabled _ ?_).weaklyFair,
    fun caller => hdisabled _ ?_,?_⟩
  · intro now
    rcases hquiet.position with hpos | ⟨hpos,hidle,hlaunched,hstopped,hdeinit⟩
    · simp [step,loop,hpos]
    · simp [step,loop,hpos,hidle,hlaunched,hstopped,hdeinit]
  · intro now
    rcases hquiet.position with hpos | ⟨hpos,_⟩ <;> simp [step,wake,hpos]
  · intro now
    rcases hquiet.position with hpos | ⟨hpos,_⟩ <;> simp [step,callbackReturn,hpos]
  · intro now
    simp only [step,abortReturn]
    refine if_neg ?_
    rintro ⟨hwaiting,hidle⟩
    rw [hquiet.waiting hidle caller] at hwaiting
    cases hwaiting
  · intro t n
    refine ⟨actions.length + (n + t),by omega,?_⟩
    rw [tickingRun_tail h]
    simp only
    omega

end

end QnnEp.Timing
