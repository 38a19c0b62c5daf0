/-
# The shutdown of the worker threads

`LogicSystem::close` of ChatServer and of GateServer sets the atomic `_isStop` without the mutex
that the workers hold while they test it.  In ChatServer each worker has its own queue, mutex and
condition variable, which `close` notifies in their order; in GateServer there is one of each.
-/
import WeChat.Lib.Monitor
import WeChat.Chat.System
import WeChat.Gate.Gateway

namespace WeChat

open Transition Monitor

/-- The workers of ChatServer, with `_queues`, `_queueMutexes` and `_queueCvs`. -/
def LogicSystem.workerThreads (workerCount : ℕ) : Layout where
  workers := workerCount
  queues := workerCount
  queueOf i := i
  queueOf_lt _ h := h
  bound := queueMaxSize

/-- `LogicSystem::postMsgToQueue`, `workerThread` and `close` of ChatServer. -/
def LogicSystem.threadStep (workerCount : ℕ) :
    Monitor.State LogicNode → Monitor.Event LogicNode → Option (Monitor.State LogicNode) :=
  Monitor.step (LogicSystem.workerThreads workerCount)

namespace GateServer

/-- The workers of GateServer, with `_queue`, `_mutex` and `_cv`. -/
def workerThreads (workerCount queueMaxSize : ℕ) : Layout where
  workers := workerCount
  queues := 1
  queueOf _ := 0
  queueOf_lt _ _ := Nat.one_pos
  bound := queueMaxSize

/-- `LogicSystem::pushTask`, `workerThread` and `close` of GateServer. -/
def threadStep (workerCount queueMaxSize : ℕ) :
    Monitor.State Task → Monitor.Event Task → Option (Monitor.State Task) :=
  Monitor.step (workerThreads workerCount queueMaxSize)

end GateServer

/-- **`close()` wakes every worker, and all of them can return, exactly when no worker is between
a failed test and its sleep at the last notification**, and none went to sleep on an earlier
condition variable after that one was notified. -/
theorem close_wakes_iff (workerCount bound : ℕ) :
    (∀ es s, run (LogicSystem.threadStep workerCount) .init es = some s →
      (AllStates (LogicSystem.threadStep workerCount)
          (Woken (LogicSystem.workerThreads workerCount)) .init es ↔
        AllSteps (LogicSystem.threadStep workerCount)
          (InTime (LogicSystem.workerThreads workerCount)) .init es)) ∧
    ∀ es s, run (GateServer.threadStep workerCount bound) .init es = some s →
      (AllStates (GateServer.threadStep workerCount bound)
          (Woken (GateServer.workerThreads workerCount bound)) .init es ↔
        AllSteps (GateServer.threadStep workerCount bound)
          (InTime (GateServer.workerThreads workerCount bound)) .init es) :=
  ⟨fun _ _ hrun => allStates_woken_iff hrun, fun _ _ hrun => allStates_woken_iff hrun⟩

/-- The only worker tests its predicate, the flag is set and the worker notified, and then the
worker sleeps. -/
def sleepsTooLate {Task : Type*} : List (Monitor.Event Task) :=
  [.loop 0, .lock 0, .test 0, .close, .notifyAll, .sleep 0]

/-- A worker of either server may sleep for ever. -/
theorem not_close_wakes :
    (¬ ∀ workerCount es s, run (LogicSystem.threadStep workerCount) .init es = some s →
      AllStates (LogicSystem.threadStep workerCount)
        (Woken (LogicSystem.workerThreads workerCount)) .init es) ∧
    ¬ ∀ workerCount bound es s, run (GateServer.threadStep workerCount bound) .init es = some s →
      AllStates (GateServer.threadStep workerCount bound)
        (Woken (GateServer.workerThreads workerCount bound)) .init es := by
  constructor
  · intro h
    exact ((h 1 sleepsTooLate _ rfl).last rfl rfl).1 0 Nat.one_pos rfl rfl
  · intro h
    exact ((h 1 0 sleepsTooLate _ rfl).last rfl rfl).1 0 Nat.one_pos rfl rfl

end WeChat
