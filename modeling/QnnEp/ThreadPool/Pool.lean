import Mathlib.Data.List.ReduceOption
import Mathlib.Data.List.Perm.Subperm

namespace QnnEp.ThreadPool
open List
variable {J : Type}

inductive Phase (J : Type) where
  | absent
  | checking
  | running (job : J)
  | notifying
  | waiting
  deriving DecidableEq, Repr

structure QnnJobThread (J : Type) where
  threadStopped : Bool
  phase : Phase J
  deriving DecidableEq, Repr

inductive WaitPhase where
  | entered
  | blocked
  | notified
  | returned
  deriving DecidableEq, Repr

structure Waiter (J : Type) where
  phase : WaitPhase
  before : List J
  deriving DecidableEq, Repr

structure QnnJobThreadPool (J : Type) where
  running : Bool
  jobQueue : List (Option J)
  inFlightJobs : Nat
  threadPool : List (QnnJobThread J)
  waiters : List (Waiter J)
  submitted : List J
  finished : List J
  deriving DecidableEq, Repr

inductive Event (J : Type) where
  | submit (job : Option J)
  | thread (threadNum : Nat)
  | wait
  | recheck (waiter : Nat)
  | stop
  | stopThread (threadNum : Nat)
  deriving DecidableEq, Repr

namespace QnnJobThread

def new : QnnJobThread J := ⟨true,.absent⟩

def start (t : QnnJobThread J) : QnnJobThread J :=
  match t.phase with
  | .absent => if t.threadStopped then ⟨false,.checking⟩ else t
  | _ => t

def again (t : QnnJobThread J) : QnnJobThread J :=
  { t with phase := if t.threadStopped then .absent else .checking }

def job? (t : QnnJobThread J) : Option J :=
  match t.phase with
  | .running job => some job
  | _ => none

def busy (t : QnnJobThread J) : Bool :=
  match t.phase with
  | .running _ | .notifying => true
  | _ => false

end QnnJobThread

def Waiter.notify (w : Waiter J) : Waiter J :=
  match w.phase with
  | .blocked => { w with phase := .notified }
  | _ => w

namespace QnnJobThreadPool

def new (maxNumThreads : Nat) : QnnJobThreadPool J :=
  ⟨false,[],0,List.replicate maxNumThreads .new,[],[],[]⟩

def submitJob (s : QnnJobThreadPool J) (job : Option J) : QnnJobThreadPool J :=
  { s with jobQueue := s.jobQueue ++ [job], submitted := s.submitted ++ job.toList }

def start (s : QnnJobThreadPool J) : QnnJobThreadPool J :=
  if s.running then s
  else { s with running := true, threadPool := s.threadPool.map QnnJobThread.start }

def idle (s : QnnJobThreadPool J) : Bool := s.jobQueue.isEmpty && s.inFlightJobs == 0

def setThread (s : QnnJobThreadPool J) (threadNum : Nat) (t : QnnJobThread J) : QnnJobThreadPool J :=
  { s with threadPool := s.threadPool.set threadNum t }

def getJobFromQueueIfExists (s : QnnJobThreadPool J) : Option J × QnnJobThreadPool J :=
  match s.jobQueue with
  | [] => (none,s)
  | job :: rest => (job,{ s with jobQueue := rest, inFlightJobs := s.inFlightJobs + 1 })

def notifyJobFinished (s : QnnJobThreadPool J) : QnnJobThreadPool J :=
  { s with inFlightJobs := s.inFlightJobs - 1, waiters := s.waiters.map Waiter.notify }

def threadStep (s : QnnJobThreadPool J) (threadNum : Nat) (t : QnnJobThread J) : QnnJobThreadPool J :=
  match t.phase with
  | .absent => s
  | .checking =>
    match s.getJobFromQueueIfExists with
    | (some job,s') => s'.setThread threadNum { t with phase := .running job }
    | (none,s') => s'.setThread threadNum { t with phase := .waiting }
  | .running job =>
    { s with finished := s.finished ++ [job] }.setThread threadNum { t with phase := .notifying }
  | .notifying => s.notifyJobFinished.setThread threadNum t.again
  | .waiting => s.setThread threadNum t.again

def waitForQueuedJobsToFinish (s : QnnJobThreadPool J) : QnnJobThreadPool J :=
  { s with waiters := s.waiters ++
      [Waiter.mk (if s.running then WaitPhase.entered else WaitPhase.returned) s.submitted] }

def recheck (s : QnnJobThreadPool J) (w : Waiter J) : Waiter J :=
  match w.phase with
  | .returned => w
  | _ => { w with phase := if s.idle then .returned else .blocked }

def step (s : QnnJobThreadPool J) : Event J → QnnJobThreadPool J
  | .submit job => s.submitJob job
  | .thread threadNum =>
    match s.threadPool[threadNum]? with
    | some t => s.threadStep threadNum t
    | none => s
  | .wait => s.waitForQueuedJobsToFinish
  | .recheck waiter => { s with waiters := s.waiters.modify waiter s.recheck }
  | .stop => { s with running := false }
  | .stopThread threadNum =>
    { s with threadPool := s.threadPool.modify threadNum fun t => { t with threadStopped := true } }

def inProgress (s : QnnJobThreadPool J) : List J := s.threadPool.filterMap QnnJobThread.job?

structure Consistent (s : QnnJobThreadPool J) : Prop where
  running : s.running = true
  started : ∀ t ∈ s.threadPool, t.threadStopped = false ∧ t.phase ≠ .absent
  callable : none ∉ s.jobQueue
  inFlightJobs : s.inFlightJobs = s.threadPool.countP QnnJobThread.busy
  once : (s.jobQueue.reduceOption ++ s.inProgress ++ s.finished).Perm s.submitted
  blocked : ∀ w ∈ s.waiters, w.phase = .blocked → s.idle = false
  before : ∀ w ∈ s.waiters, w.before.Subperm s.submitted
  returned : ∀ w ∈ s.waiters, w.phase = .returned → w.before.Subperm s.finished

theorem exists_split {α : Type} {xs : List α} {n : Nat} {x : α} (h : xs[n]? = some x) :
    ∃ l r, xs = l ++ x :: r ∧ ∀ y, xs.set n y = l ++ y :: r := by
  obtain ⟨hn,rfl⟩ := List.getElem?_eq_some_iff.mp h
  refine ⟨xs.take n,xs.drop (n + 1),?_,fun y => set_eq_take_append_cons_drop.trans (if_pos hn)⟩
  rw [getElem_cons_drop,take_append_drop]

section
variable {s : QnnJobThreadPool J} {t : QnnJobThread J} {l r : List (QnnJobThread J)}

theorem inProgress_eq (h : s.threadPool = l ++ t :: r) :
    s.inProgress = l.filterMap QnnJobThread.job? ++ (t.job?.toList ++ r.filterMap QnnJobThread.job?) := by
  rw [inProgress,h,filterMap_append,filterMap_cons]
  cases t.job? <;> rfl

structure Moves (s s' : QnnJobThreadPool J) (t t' : QnnJobThread J) : Prop where
  running : s'.running = s.running
  started : t'.threadStopped = false ∧ t'.phase ≠ .absent
  queue : ∀ job ∈ s'.jobQueue, job ∈ s.jobQueue
  inFlightJobs : s'.inFlightJobs + t.busy.toNat = s.inFlightJobs + t'.busy.toNat
  once : (s'.jobQueue.reduceOption ++ t'.job?.toList ++ s'.finished).Perm
    (s.jobQueue.reduceOption ++ t.job?.toList ++ s.finished)
  submitted : s'.submitted = s.submitted
  finished : s.finished.Sublist s'.finished
  blocked : ∀ w ∈ s'.waiters, w.phase = .blocked → s'.idle = false
  waiters : ∀ w' ∈ s'.waiters, ∃ w ∈ s.waiters, w'.before = w.before ∧
    (w'.phase = .returned → w.phase = .returned)

end

end QnnJobThreadPool

namespace QnnJobThreadPool

def started (maxNumThreads : Nat) (queued : List J) : QnnJobThreadPool J :=
  ((queued.map some).foldl submitJob (new maxNumThreads)).start

theorem foldl_submitJob (s : QnnJobThreadPool J) (queued : List J) :
    (queued.map some).foldl submitJob s =
      { s with jobQueue := s.jobQueue ++ queued.map some, submitted := s.submitted ++ queued } := by
  induction queued generalizing s with
  | nil => simp
  | cons job queued ih =>
    rw [map_cons,foldl_cons,ih]
    simp [submitJob]

theorem started_eq (maxNumThreads : Nat) (queued : List J) :
    started maxNumThreads queued =
      ⟨true,queued.map some,0,List.replicate maxNumThreads ⟨false,.checking⟩,[],queued,[]⟩ := by
  rw [started,foldl_submitJob]
  simp [start,new,QnnJobThread.start,QnnJobThread.new]

theorem started_consistent (maxNumThreads : Nat) (queued : List J) :
    (started maxNumThreads queued).Consistent := by
  rw [started_eq]
  refine ⟨rfl,?_,by simp,?_,?_,by simp,by simp,by simp⟩
  · intro t ht
    rw [eq_of_mem_replicate ht]
    exact ⟨rfl,by simp⟩
  · simp [QnnJobThread.busy,countP_replicate]
  · simp [inProgress,filterMap_replicate,QnnJobThread.job?,List.reduceOption]

def JobsOnce (s : QnnJobThreadPool J) : Prop :=
  (s.jobQueue.reduceOption ++ s.inProgress ++ s.finished).Perm s.submitted

section
variable {s s' : QnnJobThreadPool J} {t t' : QnnJobThread J} {l r : List (QnnJobThread J)}

theorem JobsOnce.move (h : s.JobsOnce) (hpool : s.threadPool = l ++ t :: r)
    (hpool' : s'.threadPool = l ++ t' :: r)
    (hmove : (s'.jobQueue.reduceOption ++ t'.job?.toList ++ s'.finished ++ s.submitted).Perm
      (s.jobQueue.reduceOption ++ t.job?.toList ++ s.finished ++ s'.submitted)) : s'.JobsOnce := by
  classical
  refine perm_iff_count.mpr fun job => ?_
  have hjob := perm_iff_count.mp h job
  have hmoved := perm_iff_count.mp hmove job
  rw [inProgress_eq hpool] at hjob
  rw [inProgress_eq hpool']
  simp only [count_append] at hjob hmoved ⊢
  omega

theorem JobsOnce.thread (h : s.JobsOnce) (hpool : s.threadPool = l ++ t :: r) {threadNum : Nat}
    (hset : ∀ t', s.threadPool.set threadNum t' = l ++ t' :: r) : (s.threadStep threadNum t).JobsOnce := by
  have hagain : t.again.job? = none := by
    cases hstopped : t.threadStopped <;> simp [QnnJobThread.again,QnnJobThread.job?,hstopped]
  unfold threadStep
  cases hphase : t.phase with
  | absent => exact h
  | checking =>
    rcases hqueue : s.jobQueue with _ | ⟨_ | job,rest⟩ <;>
      simp only [getJobFromQueueIfExists,hqueue] <;> refine h.move hpool (hset _) ?_ <;>
      simp [setThread,QnnJobThread.job?,hphase,hqueue,List.reduceOption]
  | running job =>
    refine h.move hpool (hset _) ?_
    simp only [setThread,QnnJobThread.job?,hphase,Option.toList_some,Option.toList_none,append_nil,
      append_assoc]
    exact perm_middle.append_left _
  | notifying =>
    refine h.move hpool (hset _) ?_
    simp [setThread,notifyJobFinished,hagain,show t.job? = none by simp [QnnJobThread.job?,hphase]]
  | waiting =>
    refine h.move hpool (hset _) ?_
    simp [setThread,hagain,show t.job? = none by simp [QnnJobThread.job?,hphase]]

theorem JobsOnce.step (h : s.JobsOnce) (e : Event J) : (s.step e).JobsOnce := by
  cases e with
  | submit job =>
    cases job with
    | none => simpa [JobsOnce,QnnJobThreadPool.step,submitJob,inProgress,List.reduceOption] using h
    | some job =>
      have hlast := (h.cons job).trans (perm_append_singleton job s.submitted).symm
      rw [append_assoc] at hlast
      simpa [JobsOnce,QnnJobThreadPool.step,submitJob,inProgress,List.reduceOption] using
        perm_middle.trans hlast
  | thread threadNum =>
    rw [QnnJobThreadPool.step]
    split
    · next t hthread =>
      obtain ⟨l,r,hpool,hset⟩ := exists_split hthread
      exact h.thread hpool hset
    · exact h
  | wait | recheck waiter | stop => exact h
  | stopThread threadNum =>
    rw [QnnJobThreadPool.step,modify_eq_set_getElem?]
    cases hthread : s.threadPool[threadNum]? with
    | none => exact h
    | some t =>
      obtain ⟨l,r,hpool,hset⟩ := exists_split hthread
      exact h.move hpool (hset { t with threadStopped := true }) (List.Perm.refl _)

end

theorem jobs_queued_running_or_finished (maxNumThreads : Nat) (queued : List J)
    (events : List (Event J)) : (events.foldl step (started maxNumThreads queued)).JobsOnce :=
  List.foldlRecOn events step (started_consistent maxNumThreads queued).once fun _ h e _ => h.step e

end QnnJobThreadPool

end QnnEp.ThreadPool
