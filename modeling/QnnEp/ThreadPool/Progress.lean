import Mathlib.Algebra.Order.Ring.Int
import Mathlib.Data.Nat.Pairing
import QnnEp.Foundation.Temporal
import QnnEp.ThreadPool.Pool

namespace QnnEp.ThreadPool
open List Temporal
variable {J : Type}
variable {waiter : Nat} {w : Waiter J}

def QnnJobThread.work (t : QnnJobThread J) : Nat :=
  match t.phase with
  | .running _ => 2
  | .notifying => 1
  | _ => 0

namespace QnnJobThreadPool

def work (s : QnnJobThreadPool J) : Nat :=
  3 * s.jobQueue.length + (s.threadPool.map QnnJobThread.work).sum

def Ready (s : QnnJobThreadPool J) (t : QnnJobThread J) : Prop :=
  0 < t.work ∨ t.phase = .checking ∧ s.jobQueue ≠ []

section
variable {s : QnnJobThreadPool J} {t : QnnJobThread J} {l r : List (QnnJobThread J)} {threadNum : Nat}
  {e : Event J}

end

def Awake (s : QnnJobThreadPool J) (waiter : Nat) : Prop :=
  ∃ w, s.waiters[waiter]? = some w ∧ (w.phase = .entered ∨ w.phase = .notified)

abbrev Run (J : Type) := Execution fun (s : QnnJobThreadPool J) e => some (s.step e)

structure Fair (run : Run J) : Prop where
  thread : ∀ threadNum, WeaklyFair (fun k => threadNum < (run.state k).threadPool.length)
    (run.Taken (.thread threadNum))
  waiter : ∀ waiter, WeaklyFair (fun k => (run.state k).Awake waiter) (run.Taken (.recheck waiter))

namespace Settling
variable {run : Run J} {bound : Nat}

end Settling

end QnnJobThreadPool

end QnnEp.ThreadPool
