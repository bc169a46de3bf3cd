import Mathlib.Logic.Function.Basic
import QnnEp.Foundation.Temporal

namespace QnnEp.Timing

inductive ThreadState where
  | idle
  | launch
  | calling
  | deinit
  | failed
  deriving DecidableEq, Repr

inductive Position where
  | notStarted
  | starting
  | loopHead
  | counting
  | inCallback
  | exited
  deriving DecidableEq, Repr

structure Timer where
  threadStatus : ThreadState
  isTimerStopped : Bool
  isTimerDeinit : Bool
  isTimerLaunched : Bool
  endTime : Nat
  now : Nat
  position : Position
  waiting : Nat → Bool

namespace Timer

def new : Timer := ⟨.deinit,false,false,false,0,0,.notStarted,fun _ => false⟩

def initializeThread (t : Timer) (threadStarts : Bool) : Option Timer :=
  if t.position ≠ .notStarted ∨ t.threadStatus ≠ .deinit then none
  else if threadStarts then some { t with position := .starting }
  else some { t with threadStatus := .failed }

def start (t : Timer) : Option Timer :=
  if t.position = .starting then some { t with threadStatus := .idle, position := .loopHead }
  else none

def loop (t : Timer) : Option Timer :=
  if t.position ≠ .loopHead then none
  else if t.threadStatus = .idle ∧ ¬(t.isTimerLaunched ∨ t.isTimerStopped ∨ t.isTimerDeinit) then none
  else if t.isTimerDeinit then
    some { t with threadStatus := .deinit, isTimerDeinit := false, position := .exited }
  else
    let t := if t.isTimerStopped then { t with threadStatus := .idle, isTimerStopped := false } else t
    if t.threadStatus = .launch then some { t with position := .counting } else some t

def wake (t : Timer) : Option Timer :=
  if t.position ≠ .counting then none
  else if t.isTimerStopped ∨ t.isTimerDeinit then
    some { t with isTimerLaunched := false, position := .loopHead }
  else if t.endTime ≤ t.now then some { t with threadStatus := .calling, position := .inCallback }
  else none

def callbackReturn (t : Timer) : Option Timer :=
  if t.position = .inCallback then
    some { t with threadStatus := .idle, isTimerLaunched := false, position := .loopHead }
  else none

def launch (t : Timer) (timeoutVal : Nat) : Bool × Timer :=
  if t.threadStatus ≠ .idle then (false,t)
  else (true,{ t with
    endTime := t.now + timeoutVal, threadStatus := .launch, isTimerLaunched := true })

def abortIgnored (t : Timer) : Bool :=
  t.isTimerDeinit ∨ t.threadStatus = .deinit ∨ t.threadStatus = .failed

def abortTimer (t : Timer) (caller : Nat) : Option Timer :=
  if t.waiting caller then none
  else if t.abortIgnored then some t
  else
    let t := { t with isTimerStopped := true }
    if t.threadStatus = .idle then some t
    else some { t with waiting := Function.update t.waiting caller true }

def abortReturn (t : Timer) (caller : Nat) : Option Timer :=
  if t.waiting caller ∧ t.threadStatus = .idle then
    some { t with waiting := Function.update t.waiting caller false }
  else none

def deInitialize (t : Timer) : Timer := { t with isTimerDeinit := true }

def tick (t : Timer) : Timer := { t with now := t.now + 1 }

inductive Action where
  | initializeThread (threadStarts : Bool)
  | start
  | loop
  | wake
  | callbackReturn
  | launch (timeoutVal : Nat)
  | abortTimer (caller : Nat)
  | abortReturn (caller : Nat)
  | deInitialize
  | tick
  deriving DecidableEq, Repr

def step (t : Timer) : Action → Option Timer
  | .initializeThread threadStarts => t.initializeThread threadStarts
  | .start => t.start
  | .loop => t.loop
  | .wake => t.wake
  | .callbackReturn => t.callbackReturn
  | .launch timeoutVal => some (t.launch timeoutVal).2
  | .abortTimer caller => t.abortTimer caller
  | .abortReturn caller => t.abortReturn caller
  | .deInitialize => some t.deInitialize
  | .tick => some t.tick

def Coherent (t : Timer) : Prop :=
  match t.position with
  | .notStarted => (t.threadStatus = .deinit ∨ t.threadStatus = .failed) ∧ ∀ i, t.waiting i = false
  | .starting => t.threadStatus = .deinit ∧ ∀ i, t.waiting i = false
  | .loopHead => t.threadStatus = .idle ∨ t.threadStatus = .launch
  | .counting => t.threadStatus = .launch
  | .inCallback => t.threadStatus = .calling
  | .exited => t.threadStatus = .deinit

structure Frame (t t' : Timer) : Prop where
  threadStatus : t'.threadStatus = t.threadStatus
  position : t'.position = t.position
  endTime : t'.endTime = t.endTime
  now : t.now ≤ t'.now
  isTimerStopped : t.isTimerStopped = true → t'.isTimerStopped = true
  isTimerDeinit : t.isTimerDeinit = true → t'.isTimerDeinit = true
  waiting : ∀ i, t.waiting i = true → t'.waiting i = true

section
variable {t t' : Timer} {a : Action}

theorem new_coherent : new.Coherent := ⟨Or.inl rfl,fun _ => rfl⟩

theorem Frame.refl (t : Timer) : Frame t t := ⟨rfl,rfl,rfl,Nat.le_refl _,id,id,fun _ => id⟩

theorem initializeThread_some {threadStarts : Bool} (h : t.initializeThread threadStarts = some t') :
    t.position = .notStarted ∧ t.threadStatus = .deinit ∧
      (t' = { t with position := .starting } ∨ t' = { t with threadStatus := .failed }) := by
  unfold initializeThread at h
  split at h
  · cases h
  · next hnew =>
    simp only [not_or,not_not] at hnew
    refine ⟨hnew.1,hnew.2,?_⟩
    split at h
    · exact .inl (Option.some.inj h).symm
    · exact .inr (Option.some.inj h).symm

theorem abortTimer_some {caller : Nat} (h : t.abortTimer caller = some t') :
    (t.abortIgnored = true ∧ t' = t) ∨ (t.abortIgnored = false ∧ t.threadStatus = .idle ∧
      t' = { t with isTimerStopped := true }) ∨ (t.abortIgnored = false ∧ t.threadStatus ≠ .idle ∧
      t' = { t with isTimerStopped := true, waiting := Function.update t.waiting caller true }) := by
  unfold abortTimer at h
  split at h
  · cases h
  · cases hignored : t.abortIgnored with
    | true =>
      simp only [hignored,if_true] at h
      exact .inl ⟨rfl,(Option.some.inj h).symm⟩
    | false =>
      simp only [hignored,Bool.false_eq_true,if_false] at h
      split at h
      · next hidle => exact .inr (.inl ⟨rfl,hidle,(Option.some.inj h).symm⟩)
      · next hidle => exact .inr (.inr ⟨rfl,hidle,(Option.some.inj h).symm⟩)

theorem loop_some (h : t.loop = some t') : t.position = .loopHead ∧
    ((t.isTimerDeinit = true ∧
        t' = { t with threadStatus := .deinit, isTimerDeinit := false, position := .exited }) ∨
      (t.isTimerDeinit = false ∧ t.isTimerStopped = true ∧
        t' = { t with threadStatus := .idle, isTimerStopped := false }) ∨
      (t.isTimerDeinit = false ∧ t.isTimerStopped = false ∧ t.threadStatus = .launch ∧
        t' = { t with position := .counting }) ∨
      (t.isTimerDeinit = false ∧ t.isTimerStopped = false ∧ t.threadStatus ≠ .launch ∧ t' = t)) := by
  unfold loop at h
  split at h
  · cases h
  · next hpos =>
    refine ⟨not_not.mp hpos,?_⟩
    split at h
    · cases h
    · cases hdeinit : t.isTimerDeinit with
      | true => simp_all
      | false =>
        cases hstopped : t.isTimerStopped with
        | true => simp_all
        | false =>
          by_cases hlaunch : t.threadStatus = .launch <;> simp_all

theorem loop_isSome (hpos : t.position = .loopHead) (hbusy : t.threadStatus ≠ .idle) :
    t.loop.isSome := by
  simp only [loop,hpos,hbusy,ne_eq,not_true_eq_false,false_and,if_false]
  split
  · rfl
  split
  · rfl
  · split <;> rfl

theorem wake_isSome (hpos : t.position = .counting) (hend : t.endTime ≤ t.now) : t.wake.isSome := by
  simp only [wake,hpos,hend,ne_eq,not_true_eq_false,if_false,if_true]
  split <;> rfl

theorem wake_some (h : t.wake = some t') : t.position = .counting ∧
    (((t.isTimerStopped = true ∨ t.isTimerDeinit = true) ∧
        t' = { t with isTimerLaunched := false, position := .loopHead }) ∨
      (t.isTimerStopped = false ∧ t.isTimerDeinit = false ∧ t.endTime ≤ t.now ∧
        t' = { t with threadStatus := .calling, position := .inCallback })) := by
  unfold wake at h
  split at h
  · cases h
  · next hpos =>
    refine ⟨not_not.mp hpos,?_⟩
    split at h
    · next hflag => exact .inl ⟨hflag,(Option.some.inj h).symm⟩
    · next hflag =>
      obtain ⟨hend,heq⟩ := Option.ite_none_right_eq_some.mp h
      rw [not_or,Bool.not_eq_true,Bool.not_eq_true] at hflag
      exact .inr ⟨hflag.1,hflag.2,hend,(Option.some.inj heq).symm⟩

theorem callbackReturn_some (h : t.callbackReturn = some t') : t.position = .inCallback ∧
    t' = { t with threadStatus := .idle, isTimerLaunched := false, position := .loopHead } := by
  obtain ⟨hpos,heq⟩ := Option.ite_none_right_eq_some.mp h
  exact ⟨hpos,(Option.some.inj heq).symm⟩

theorem launch_snd (t : Timer) (timeoutVal : Nat) : (t.threadStatus ≠ .idle ∧ (t.launch timeoutVal).2 = t) ∨
    (t.threadStatus = .idle ∧ (t.launch timeoutVal).2 = { t with
      endTime := t.now + timeoutVal, threadStatus := .launch, isTimerLaunched := true }) := by
  by_cases h : t.threadStatus = .idle
  · exact .inr ⟨h,by simp [launch,h]⟩
  · exact .inl ⟨h,by simp [launch,h]⟩

theorem Coherent.loopHead_of_idle (h : t.Coherent) (hidle : t.threadStatus = .idle) :
    t.position = .loopHead := by
  unfold Coherent at h
  split at h <;> simp_all

theorem Coherent.step (h : t.Coherent) (hstep : t.step a = some t') : t'.Coherent := by
  cases a with
  | initializeThread threadStarts =>
    obtain ⟨hpos,hdeinit,heq⟩ := initializeThread_some hstep
    have hwaiting : ∀ i, t.waiting i = false := by
      simp only [Coherent,hpos] at h
      exact h.2
    rcases heq with rfl | rfl
    · exact ⟨hdeinit,hwaiting⟩
    · simp [Coherent,hpos,hwaiting]
  | start =>
    obtain ⟨_,heq⟩ := Option.ite_none_right_eq_some.mp hstep
    cases heq
    exact .inl rfl
  | loop =>
    obtain ⟨hpos,⟨_,rfl⟩ | ⟨_,_,rfl⟩ | ⟨_,_,hlaunch,rfl⟩ | ⟨_,_,_,rfl⟩⟩ := loop_some hstep
    · rfl
    · simp [Coherent,hpos]
    · exact hlaunch
    · exact h
  | wake =>
    obtain ⟨hpos,⟨_,rfl⟩ | ⟨_,_,_,rfl⟩⟩ := wake_some hstep
    · simp only [Coherent,hpos] at h
      exact .inr h
    · rfl
  | callbackReturn =>
    obtain ⟨_,rfl⟩ := callbackReturn_some hstep
    exact .inl rfl
  | launch timeoutVal =>
    cases hstep
    rcases launch_snd t timeoutVal with ⟨_,heq⟩ | ⟨hidle,heq⟩
    · rwa [heq]
    · rw [heq]
      simp [Coherent,h.loopHead_of_idle hidle]
  | abortTimer caller =>
    rcases abortTimer_some hstep with ⟨_,rfl⟩ | ⟨_,_,rfl⟩ | ⟨hlive,_,rfl⟩
    · exact h
    · exact h
    · simp only [abortIgnored,decide_eq_false_iff_not,not_or] at hlive
      unfold Coherent at h ⊢
      cases hpos : t.position <;> simp_all
  | abortReturn caller =>
    obtain ⟨_,heq⟩ := Option.ite_none_right_eq_some.mp hstep
    cases heq
    unfold Coherent at h ⊢
    cases hpos : t.position with
    | notStarted | starting =>
      simp only [hpos] at h
      refine ⟨h.1,?_⟩
      intro i
      by_cases hi : i = caller
      · subst hi
        exact Function.update_self ..
      · exact (Function.update_of_ne hi ..).trans (h.2 i)
    | loopHead | counting | inCallback | exited => simpa only [hpos] using h
  | deInitialize | tick =>
    cases hstep
    exact h

theorem step_busy (hstarted : t.position ≠ .notStarted ∧ t.position ≠ .starting)
    (hbusy : t.threadStatus ≠ .idle) (hstep : t.step a = some t') :
    Frame t t' ∨ (a = .loop ∧ t.loop = some t') ∨ t.wake = some t' ∨ t.callbackReturn = some t' := by
  cases a with
  | initializeThread threadStarts =>
    exact absurd (initializeThread_some hstep).1 hstarted.1
  | start =>
    simp only [Timer.step,start,hstarted.2,if_false] at hstep
    cases hstep
  | loop => exact .inr (.inl ⟨rfl,hstep⟩)
  | wake => exact .inr (.inr (.inl hstep))
  | callbackReturn => exact .inr (.inr (.inr hstep))
  | launch timeoutVal =>
    cases hstep
    rcases launch_snd t timeoutVal with ⟨_,heq⟩ | ⟨hidle,_⟩
    · rw [heq]
      exact .inl (Frame.refl t)
    · exact absurd hidle hbusy
  | abortTimer caller =>
    rcases abortTimer_some hstep with ⟨_,rfl⟩ | ⟨_,hidle,_⟩ | ⟨_,_,rfl⟩
    · exact .inl (Frame.refl t')
    · exact absurd hidle hbusy
    · refine .inl ⟨rfl,rfl,rfl,Nat.le_refl _,fun _ => rfl,id,?_⟩
      intro i hi
      by_cases hic : i = caller
      · subst hic
        exact Function.update_self ..
      · exact (Function.update_of_ne hic ..).trans hi
  | abortReturn caller =>
    obtain ⟨⟨_,hidle⟩,_⟩ := Option.ite_none_right_eq_some.mp hstep
    exact absurd hidle hbusy
  | deInitialize =>
    cases hstep
    exact .inl ⟨rfl,rfl,rfl,Nat.le_refl _,id,fun _ => rfl,fun _ => id⟩
  | tick =>
    cases hstep
    exact .inl ⟨rfl,rfl,rfl,Nat.le_succ _,id,id,fun _ => id⟩

theorem step_exited (h : t.Coherent) (hexited : t.position = .exited) (hstep : t.step a = some t') :
    t'.position = .exited ∧ t'.waiting = t.waiting := by
  have hdeinit : t.threadStatus = .deinit := by
    rwa [Coherent,hexited] at h
  cases a with
  | initializeThread threadStarts => simp [Timer.step,initializeThread,hexited] at hstep
  | start => simp [Timer.step,start,hexited] at hstep
  | loop => simp [Timer.step,loop,hexited] at hstep
  | wake => simp [Timer.step,wake,hexited] at hstep
  | callbackReturn => simp [Timer.step,callbackReturn,hexited] at hstep
  | launch timeoutVal =>
    simp only [Timer.step,launch,hdeinit,Option.some.injEq] at hstep
    rw [← hstep]
    exact ⟨hexited,rfl⟩
  | abortTimer caller =>
    rcases abortTimer_some hstep with ⟨_,rfl⟩ | ⟨hlive,_⟩ | ⟨hlive,_⟩
    · exact ⟨hexited,rfl⟩
    · simp [abortIgnored,hdeinit] at hlive
    · simp [abortIgnored,hdeinit] at hlive
  | abortReturn caller => simp [Timer.step,abortReturn,hdeinit] at hstep
  | deInitialize | tick =>
    cases hstep
    exact ⟨hexited,rfl⟩

theorem step_exits (halive : t.position ≠ .exited) (hexited : t'.position = .exited)
    (hstep : t.step a = some t') :
    a = .loop ∧ t.isTimerDeinit = true ∧ t'.waiting = t.waiting := by
  cases a with
  | initializeThread threadStarts =>
    obtain ⟨_,_,rfl | rfl⟩ := initializeThread_some hstep
    · cases hexited
    · exact absurd hexited halive
  | start =>
    obtain ⟨_,heq⟩ := Option.ite_none_right_eq_some.mp hstep
    cases heq
    cases hexited
  | loop =>
    obtain ⟨_,⟨hdeinit,rfl⟩ | ⟨_,_,rfl⟩ | ⟨_,_,_,rfl⟩ | ⟨_,_,_,rfl⟩⟩ := loop_some hstep
    · exact ⟨rfl,hdeinit,rfl⟩
    · exact absurd hexited halive
    · cases hexited
    · exact absurd hexited halive
  | wake => obtain ⟨_,⟨_,rfl⟩ | ⟨_,_,_,rfl⟩⟩ := wake_some hstep <;> cases hexited
  | callbackReturn =>
    obtain ⟨_,rfl⟩ := callbackReturn_some hstep
    cases hexited
  | launch timeoutVal =>
    cases hstep
    rcases launch_snd t timeoutVal with ⟨_,heq⟩ | ⟨_,heq⟩ <;> rw [heq] at hexited <;>
      exact absurd hexited halive
  | abortTimer caller =>
    rcases abortTimer_some hstep with ⟨_,rfl⟩ | ⟨_,_,rfl⟩ | ⟨_,_,rfl⟩ <;> exact absurd hexited halive
  | abortReturn caller =>
    obtain ⟨_,heq⟩ := Option.ite_none_right_eq_some.mp hstep
    cases heq
    exact absurd hexited halive
  | deInitialize | tick =>
    cases hstep
    exact absurd hexited halive

structure Caused (t t' : Timer) (a : Action) : Prop where
  isTimerStopped : t'.isTimerStopped = true → t.isTimerStopped = true ∨ ∃ i, a = .abortTimer i
  isTimerDeinit : t'.isTimerDeinit = true → t.isTimerDeinit = true ∨ a = .deInitialize
  waiting : ∀ i, t'.waiting i = true → t.waiting i = true ∨ t'.isTimerDeinit = false

theorem step_caused (hstep : t.step a = some t') : Caused t t' a := by
  cases a with
  | initializeThread threadStarts =>
    obtain ⟨_,_,rfl | rfl⟩ := initializeThread_some hstep <;> exact ⟨.inl,.inl,fun _ => .inl⟩
  | start =>
    obtain ⟨_,heq⟩ := Option.ite_none_right_eq_some.mp hstep
    cases heq
    exact ⟨.inl,.inl,fun _ => .inl⟩
  | loop =>
    obtain ⟨_,⟨_,rfl⟩ | ⟨_,_,rfl⟩ | ⟨_,_,_,rfl⟩ | ⟨_,_,_,rfl⟩⟩ := loop_some hstep
    · exact ⟨.inl,by simp,fun _ => .inl⟩
    · exact ⟨by simp,.inl,fun _ => .inl⟩
    · exact ⟨.inl,.inl,fun _ => .inl⟩
    · exact ⟨.inl,.inl,fun _ => .inl⟩
  | wake =>
    obtain ⟨_,⟨_,rfl⟩ | ⟨_,_,_,rfl⟩⟩ := wake_some hstep <;> exact ⟨.inl,.inl,fun _ => .inl⟩
  | callbackReturn =>
    obtain ⟨_,rfl⟩ := callbackReturn_some hstep
    exact ⟨.inl,.inl,fun _ => .inl⟩
  | launch timeoutVal =>
    cases hstep
    rcases launch_snd t timeoutVal with ⟨_,heq⟩ | ⟨_,heq⟩ <;> rw [heq] <;>
      exact ⟨.inl,.inl,fun _ => .inl⟩
  | abortTimer caller =>
    rcases abortTimer_some hstep with ⟨_,rfl⟩ | ⟨_,_,rfl⟩ | ⟨hlive,_,rfl⟩
    · exact ⟨.inl,.inl,fun _ => .inl⟩
    · exact ⟨fun _ => .inr ⟨caller,rfl⟩,.inl,fun _ => .inl⟩
    · simp only [abortIgnored,decide_eq_false_iff_not,not_or,Bool.not_eq_true] at hlive
      exact ⟨fun _ => .inr ⟨caller,rfl⟩,.inl,fun _ _ => .inr hlive.1⟩
  | abortReturn caller =>
    obtain ⟨_,heq⟩ := Option.ite_none_right_eq_some.mp hstep
    cases heq
    refine ⟨.inl,.inl,?_⟩
    intro i hi
    by_cases hic : i = caller
    · subst hic
      simp at hi
    · exact .inl ((Function.update_of_ne hic ..).symm.trans hi)
  | deInitialize =>
    cases hstep
    exact ⟨.inl,fun _ => .inr rfl,fun _ => .inl⟩
  | tick =>
    cases hstep
    exact ⟨.inl,.inl,fun _ => .inl⟩

end

end Timer

end QnnEp.Timing
