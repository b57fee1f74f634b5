import Mathlib.Logic.Function.Basic
import MRF.Library.Pool
import MRF.Library.Run
import MRF.Pool.Worker

/-!
# Pool — State

`SimpleThreadPool`: its lists of workers, its two flags, and the threads that call it, from one wait
of `nextRunnableLock` to the next.  Every wait of a caller has a time-out, so a caller may wake at
any time and tests again; `notifyAll` adds nothing to that.  A caller keeps the lock from one step
to the next where it needs something of a worker: the worker's `lock` in `runInThread`, its `run`
flag and its end in `shutdown`.

The callers are other threads than the workers; nothing else bounds their number or the order of
their calls.  A runnable is anything: what it does is not looked at.

`Stepped` is the inversion of `step`: the outcomes of an action, each with what made it so.
-/

namespace MRF.Pool
open MRF.Library

variable {ρ : Type*}

/-! ### Callers -/

/-- How the last call of a caller ended. -/
inductive Result where
  | none
  /-- `runInThread` has returned. -/
  | runInThread (accepted : Bool)
  | blockForAvailableThreads (availThreadCount : Nat)
  | shutdown
  | illegalStateException
  deriving DecidableEq, Repr

/-- Where a caller is. -/
inductive Caller (ρ : Type*) where
  | out (result : Result)
  /-- In the wait of `runInThread`. -/
  | awaitWorker (runnable : ρ)
  /-- In `wt.run(runnable)`. -/
  | handOver (wt : Nat) (runnable : ρ)
  /-- In the wait of `blockForAvailableThreads`. -/
  | awaitAvailable
  /-- In the first loop of `shutdown`, with the workers it has not been to. -/
  | signal (workerThreads : List Nat) (waitForJobsToComplete : Bool)
  /-- In the wait on `handoffPending`. -/
  | awaitHandoff
  /-- In the wait on `busyWorkers`. -/
  | awaitBusy
  /-- In the last loop of `shutdown`. -/
  | join (workerThreads : List Nat)

/-- Whether a caller keeps `nextRunnableLock`. -/
def Caller.holds : Caller ρ → Bool
  | .handOver _ _ => true
  | .signal _ _ => true
  | .join _ => true
  | _ => false

/-- The caller has a runnable to hand over. -/
def Caller.pends : Caller ρ → Bool
  | .awaitWorker _ => true
  | .handOver _ _ => true
  | _ => false

/-! ### The pool -/

/-- `threads` has all threads that were ever created, and `created` is how many. -/
structure SimpleThreadPool (ρ : Type*) where
  threads : Nat → WorkerThread ρ
  created : Nat
  workers : List Nat
  availWorkers : List Nat
  busyWorkers : List Nat
  isShutdown : Bool
  handoffPending : Bool
  /-- The caller that has `nextRunnableLock`. -/
  nextRunnableLock : Option Nat
  callers : Nat → Caller ρ

/-- The configuration of a pool; the name is for its threads. -/
structure PoolConfig where
  threadPoolName : Option String
  count : Int
  prio : Int

namespace SimpleThreadPool

/-- `initialize` of a pool that has no workers; the error is the text of the `ConfigException`. -/
def initialized (cfg : PoolConfig) : Except String (SimpleThreadPool ρ) :=
  if cfg.threadPoolName.getD "" = "" then .error "Thread pool's name must be specified"
  else if cfg.count ≤ 0 then .error "Thread pool's thread count must be > 0"
  else if cfg.prio ≤ 0 ∨ cfg.prio > 9 then
    .error "Thread pool's thread priority must be > 0 and <= 9"
  else .ok
    { threads := fun _ => .initial none
      created := cfg.count.toNat
      workers := List.range cfg.count.toNat
      availWorkers := List.range cfg.count.toNat
      busyWorkers := []
      isShutdown := false
      handoffPending := false
      nextRunnableLock := none
      callers := fun _ => .out .none }

/-- The caller comes to a place, and has the lock there or not. -/
def goTo (s : SimpleThreadPool ρ) (c : Nat) (place : Caller ρ) : SimpleThreadPool ρ :=
  { s with
    callers := Function.update s.callers c place
    nextRunnableLock := if place.holds then some c else none }

/-- The caller moves without the lock. -/
def setCaller (s : SimpleThreadPool ρ) (c : Nat) (place : Caller ρ) : SimpleThreadPool ρ :=
  { s with callers := Function.update s.callers c place }

/-- A step of a worker for itself. -/
def setThread (s : SimpleThreadPool ρ) (wt : Nat) (th : WorkerThread ρ) : SimpleThreadPool ρ :=
  { s with threads := Function.update s.threads wt th }

section Frames

variable {s : SimpleThreadPool ρ} {c d wt v : Nat} {p : Caller ρ} {th : WorkerThread ρ}

@[simp] theorem goTo_callers_self : (s.goTo c p).callers c = p := Function.update_self _ _ _

theorem goTo_callers_ne (h : d ≠ c) : (s.goTo c p).callers d = s.callers d :=
  Function.update_of_ne h _ _

@[simp] theorem goTo_threads : (s.goTo c p).threads = s.threads := rfl

@[simp] theorem goTo_created : (s.goTo c p).created = s.created := rfl

@[simp] theorem goTo_workers : (s.goTo c p).workers = s.workers := rfl

@[simp] theorem goTo_availWorkers : (s.goTo c p).availWorkers = s.availWorkers := rfl

@[simp] theorem goTo_busyWorkers : (s.goTo c p).busyWorkers = s.busyWorkers := rfl

@[simp] theorem goTo_isShutdown : (s.goTo c p).isShutdown = s.isShutdown := rfl

@[simp] theorem setCaller_callers_self : (s.setCaller c p).callers c = p :=
  Function.update_self _ _ _

theorem setCaller_callers_ne (h : d ≠ c) : (s.setCaller c p).callers d = s.callers d :=
  Function.update_of_ne h _ _

@[simp] theorem setThread_threads_self : (s.setThread wt th).threads wt = th :=
  Function.update_self _ _ _

theorem setThread_threads_ne (h : v ≠ wt) : (s.setThread wt th).threads v = s.threads v :=
  Function.update_of_ne h _ _

end Frames

/-! ### `runInThread` -/

/-- The `WorkerThread-LastJob`. -/
def lastJob (s : SimpleThreadPool ρ) (c : Nat) (runnable : ρ) : SimpleThreadPool ρ :=
  { s with
    threads := Function.update s.threads s.created (.initial (some runnable))
    created := s.created + 1
    busyWorkers := s.busyWorkers ++ [s.created]
    workers := s.workers ++ [s.created]
    handoffPending := false }.goTo c (.out (.runInThread true))

/-- The caller has the lock and tests `(availWorkers.size() < 1) && !isShutdown`. -/
def findWorker (s : SimpleThreadPool ρ) (c : Nat) (runnable : ρ) : SimpleThreadPool ρ :=
  if s.isShutdown then s.lastJob c runnable
  else
    match s.availWorkers with
    | [] => s.goTo c (.awaitWorker runnable)
    | wt :: availWorkers =>
        { s with availWorkers, busyWorkers := s.busyWorkers ++ [wt] }.goTo c (.handOver wt runnable)

/-- `runInThread`, once it has the lock. -/
def runInThread (s : SimpleThreadPool ρ) (c : Nat) (runnable : ρ) : SimpleThreadPool ρ :=
  { s with handoffPending := true }.findWorker c runnable

/-- The caller has the lock of the worker as well. -/
def handOver (s : SimpleThreadPool ρ) (c wt : Nat) (runnable : ρ) : SimpleThreadPool ρ :=
  match (s.threads wt).runWith runnable with
  | none => s.goTo c (.out .illegalStateException)
  | some th =>
      { s with
        threads := Function.update s.threads wt th
        handoffPending := false }.goTo c (.out (.runInThread true))

/-! ### `blockForAvailableThreads` -/

/-- `blockForAvailableThreads`, once it has the lock. -/
def blockForAvailableThreads (s : SimpleThreadPool ρ) (c : Nat) : SimpleThreadPool ρ :=
  if (s.availWorkers.isEmpty || s.handoffPending) && !s.isShutdown then s.goTo c .awaitAvailable
  else s.goTo c (.out (.blockForAvailableThreads s.availWorkers.length))

/-! ### `shutdown` -/

/-- `shutdown`, once it has the lock. -/
def shutdown (s : SimpleThreadPool ρ) (c : Nat) (waitForJobsToComplete : Bool) :
    SimpleThreadPool ρ :=
  { s with isShutdown := true }.goTo c (.signal s.workers waitForJobsToComplete)

/-- The test of the wait on `busyWorkers`. -/
def testBusy (s : SimpleThreadPool ρ) (c : Nat) : SimpleThreadPool ρ :=
  if s.busyWorkers.isEmpty then s.goTo c (.join s.workers) else s.goTo c .awaitBusy

/-- The test of the wait on `handoffPending`. -/
def testHandoff (s : SimpleThreadPool ρ) (c : Nat) : SimpleThreadPool ρ :=
  if s.handoffPending then s.goTo c .awaitHandoff else s.testBusy c

/-- Where the tests bring the caller. -/
theorem testHandoff_goTo (s : SimpleThreadPool ρ) (c : Nat) : ∃ p, s.testHandoff c = s.goTo c p ∧
    (p = .awaitHandoff ∨ p = .awaitBusy ∨ p = .join s.workers) := by
  unfold testHandoff testBusy
  split
  · exact ⟨_, rfl, .inl rfl⟩
  · split
    · exact ⟨_, rfl, .inr (.inr rfl)⟩
    · exact ⟨_, rfl, .inr (.inl rfl)⟩

/-- The tests of `shutdown` bring a caller to a wait or to the last loop. -/
theorem testBusy_goTo (s : SimpleThreadPool ρ) (c : Nat) : ∃ p, s.testBusy c = s.goTo c p ∧
    (p = .awaitHandoff ∨ p = .awaitBusy ∨ p = .join s.workers) := by
  unfold testBusy
  split
  · exact ⟨_, rfl, .inr (.inr rfl)⟩
  · exact ⟨_, rfl, .inr (.inl rfl)⟩

/-- A turn of the first loop, and what comes after it. -/
def signal (s : SimpleThreadPool ρ) (c : Nat) : List Nat → Bool → SimpleThreadPool ρ
  | wt :: workerThreads, waitForJobsToComplete =>
      { s with
        threads := Function.update s.threads wt (s.threads wt).shutdown
        availWorkers := s.availWorkers.erase wt }.goTo c
        (.signal workerThreads waitForJobsToComplete)
  | [], false => s.goTo c (.out .shutdown)
  | [], true => s.testHandoff c

/-- A turn of the last loop, in which the `join` returns or is interrupted. -/
def join (s : SimpleThreadPool ρ) (c : Nat) (interrupted : Bool) :
    List Nat → Option (SimpleThreadPool ρ)
  | [] => some (s.goTo c (.out .shutdown))
  | wt :: workerThreads =>
      if interrupted then some (s.goTo c (.join workerThreads))
      else if (s.threads wt).place = .ended then
        some ({ s with workers := s.workers.erase wt }.goTo c (.join workerThreads))
      else none

/-! ### Steps -/

/-- What the callers of a pool and its workers can do. -/
inductive Action (ρ : Type*) where
  | runInThread (c : Nat) (runnable : Option ρ)
  | blockForAvailableThreads (c : Nat)
  | shutdown (c : Nat) (waitForJobsToComplete : Bool)
  /-- A wait of the caller ends, and it tests again. -/
  | wake (c : Nat)
  /-- The caller has the lock and goes on. -/
  | goOn (c : Nat) (interrupted : Bool)
  /-- A step of the thread of a worker. -/
  | worker (wt : Nat)
  | interrupt (wt : Nat)

/-- The action goes on with a call, or is no caller's. -/
def Action.within : Action ρ → Bool
  | .wake _ | .goOn _ _ | .worker _ | .interrupt _ => true
  | .runInThread _ _ | .blockForAvailableThreads _ | .shutdown _ _ => false

/-- A call of `runInThread` with null, by a caller that is not in another call; it needs no lock. -/
def refuse (s : SimpleThreadPool ρ) (c : Nat) : Option (SimpleThreadPool ρ) :=
  match s.callers c with
  | .out _ => some (s.setCaller c (.out (.runInThread false)))
  | _ => none

/-- The start of any other call. -/
def call (s : SimpleThreadPool ρ) (c : Nat) (s' : SimpleThreadPool ρ) :
    Option (SimpleThreadPool ρ) :=
  match s.callers c, s.nextRunnableLock with
  | .out _, none => some s'
  | _, _ => none

/-- A caller that waits has the lock again, and tests anew. -/
def wake (s : SimpleThreadPool ρ) (c : Nat) : Option (SimpleThreadPool ρ) :=
  match s.nextRunnableLock, s.callers c with
  | none, .awaitWorker runnable => some (s.findWorker c runnable)
  | none, .awaitAvailable => some (s.blockForAvailableThreads c)
  | none, .awaitHandoff => some (s.testHandoff c)
  | none, .awaitBusy => some (s.testBusy c)
  | _, _ => none

/-- A caller goes on with its call. -/
def goOn (s : SimpleThreadPool ρ) (c : Nat) (interrupted : Bool) : Option (SimpleThreadPool ρ) :=
  match s.callers c with
  | .handOver wt runnable =>
      if (s.threads wt).hasLock then none else some (s.handOver c wt runnable)
  | .signal workerThreads waitForJobsToComplete =>
      some (s.signal c workerThreads waitForJobsToComplete)
  | .join workerThreads => s.join c interrupted workerThreads
  | _ => none

/-- `makeAvailable`, or `clearFromBusyWorkersList` where the worker is not used again. -/
def release (s : SimpleThreadPool ρ) (wt : Nat) : SimpleThreadPool ρ :=
  { s with
    threads := Function.update s.threads wt (s.threads wt).released
    availWorkers :=
      if (s.threads wt).runOnce || s.isShutdown then s.availWorkers else s.availWorkers ++ [wt]
    busyWorkers := s.busyWorkers.erase wt }

/-- A step of a worker.  It needs `nextRunnableLock` at the end of a turn in which it ran. -/
def worker (s : SimpleThreadPool ρ) (wt : Nat) : Option (SimpleThreadPool ρ) :=
  if wt < s.created then
    if (s.threads wt).place = .release ∧ ((s.threads wt).runOnce || (s.threads wt).ran) then
      if s.nextRunnableLock = none then some (s.release wt) else none
    else (s.threads wt).advance.map fun th => s.setThread wt th
  else none

/-- One step of the pool; `none` where the action is not enabled. -/
def step (s : SimpleThreadPool ρ) : Action ρ → Option (SimpleThreadPool ρ)
  | .runInThread c none => s.refuse c
  | .runInThread c (some runnable) => s.call c (s.runInThread c runnable)
  | .blockForAvailableThreads c => s.call c (s.blockForAvailableThreads c)
  | .shutdown c waitForJobsToComplete => s.call c (s.shutdown c waitForJobsToComplete)
  | .wake c => s.wake c
  | .goOn c interrupted => s.goOn c interrupted
  | .worker wt => s.worker wt
  | .interrupt wt =>
      if wt < s.created then (s.threads wt).interrupted.map fun th => s.setThread wt th else none

variable {s s' : SimpleThreadPool ρ} {a : Action ρ}

/-- The enabled actions of a state, each with what it needs and the state it leads to. -/
inductive Stepped (s : SimpleThreadPool ρ) : Action ρ → SimpleThreadPool ρ → Prop where
  | refuse {c : Nat} {v : Result} (hc : s.callers c = .out v) :
      Stepped s (.runInThread c none) (s.setCaller c (.out (.runInThread false)))
  | runInThread {c : Nat} {v : Result} {r : ρ} (hl : s.nextRunnableLock = none)
      (hc : s.callers c = .out v) : Stepped s (.runInThread c (some r)) (s.runInThread c r)
  | blockForAvailableThreads {c : Nat} {v : Result} (hl : s.nextRunnableLock = none)
      (hc : s.callers c = .out v) :
      Stepped s (.blockForAvailableThreads c) (s.blockForAvailableThreads c)
  | shutdown {c : Nat} {v : Result} (wait : Bool) (hl : s.nextRunnableLock = none)
      (hc : s.callers c = .out v) : Stepped s (.shutdown c wait) (s.shutdown c wait)
  | wakeWorker {c : Nat} {r : ρ} (hl : s.nextRunnableLock = none)
      (hc : s.callers c = .awaitWorker r) : Stepped s (.wake c) (s.findWorker c r)
  | wakeAvailable {c : Nat} (hl : s.nextRunnableLock = none) (hc : s.callers c = .awaitAvailable) :
      Stepped s (.wake c) (s.blockForAvailableThreads c)
  | wakeHandoff {c : Nat} (hl : s.nextRunnableLock = none) (hc : s.callers c = .awaitHandoff) :
      Stepped s (.wake c) (s.testHandoff c)
  | wakeBusy {c : Nat} (hl : s.nextRunnableLock = none) (hc : s.callers c = .awaitBusy) :
      Stepped s (.wake c) (s.testBusy c)
  | handOver {c wt : Nat} {r : ρ} (i : Bool) (hc : s.callers c = .handOver wt r)
      (hw : (s.threads wt).hasLock = false) : Stepped s (.goOn c i) (s.handOver c wt r)
  | signal {c : Nat} {wts : List Nat} {wait : Bool} (i : Bool)
      (hc : s.callers c = .signal wts wait) : Stepped s (.goOn c i) (s.signal c wts wait)
  | joinedAll {c : Nat} (i : Bool) (hc : s.callers c = .join []) :
      Stepped s (.goOn c i) (s.goTo c (.out .shutdown))
  | joinInterrupted {c wt : Nat} {wts : List Nat} (hc : s.callers c = .join (wt :: wts)) :
      Stepped s (.goOn c true) (s.goTo c (.join wts))
  | joined {c wt : Nat} {wts : List Nat} (hc : s.callers c = .join (wt :: wts))
      (he : (s.threads wt).place = .ended) :
      Stepped s (.goOn c false) ({ s with workers := s.workers.erase wt }.goTo c (.join wts))
  | release {wt : Nat} (hn : wt < s.created) (hp : (s.threads wt).place = .release)
      (hr : ((s.threads wt).runOnce || (s.threads wt).ran) = true)
      (hl : s.nextRunnableLock = none) : Stepped s (.worker wt) (s.release wt)
  | advance {wt : Nat} {th : WorkerThread ρ} (hn : wt < s.created)
      (h : (s.threads wt).advance = some th) : Stepped s (.worker wt) (s.setThread wt th)
  | interrupt {wt : Nat} {th : WorkerThread ρ} (hn : wt < s.created)
      (h : (s.threads wt).interrupted = some th) : Stepped s (.interrupt wt) (s.setThread wt th)

/-- A call starts with the lock free, by a caller that is in no other. -/
theorem call_inv {c : Nat} {t : SimpleThreadPool ρ} (h : s.call c t = some s') :
    s.nextRunnableLock = none ∧ (∃ v, s.callers c = .out v) ∧ t = s' := by
  unfold call at h
  split at h
  · next v hc hl => exact ⟨hl, ⟨v, hc⟩, Option.some.inj h⟩
  · cases h

theorem wake_stepped {c : Nat} (h : s.wake c = some s') : Stepped s (.wake c) s' := by
  unfold wake at h
  split at h
  · next hl hc => cases h; exact .wakeWorker hl hc
  · next hl hc => cases h; exact .wakeAvailable hl hc
  · next hl hc => cases h; exact .wakeHandoff hl hc
  · next hl hc => cases h; exact .wakeBusy hl hc
  · cases h

theorem goOn_stepped {c : Nat} {i : Bool} (h : s.goOn c i = some s') :
    Stepped s (.goOn c i) s' := by
  unfold goOn at h
  split at h
  · next hc =>
      split at h
      · cases h
      · next hw => cases h; exact .handOver i hc ((Bool.not_eq_true _).mp hw)
  · next hc => cases h; exact .signal i hc
  · next wts hc =>
      cases wts with
      | nil => cases h; exact .joinedAll i hc
      | cons wt wts =>
          simp only [join] at h
          split at h
          · next hi => cases h; cases hi; exact .joinInterrupted hc
          · next hi =>
              split at h
              · next he =>
                  cases h
                  cases (Bool.not_eq_true _).mp hi
                  exact .joined hc he
              · cases h
  · cases h

theorem worker_stepped {wt : Nat} (h : s.worker wt = some s') : Stepped s (.worker wt) s' := by
  unfold worker at h
  split at h
  · next hn =>
      split at h
      · next hr =>
          split at h
          · next hl => cases h; exact .release hn hr.1 hr.2 hl
          · cases h
      · obtain ⟨th, hth, rfl⟩ := Option.map_eq_some_iff.mp h
        exact .advance hn hth
  · cases h

/-- Every step is one of these. -/
theorem step_stepped (h : s.step a = some s') : Stepped s a s' := by
  cases a with
  | runInThread c runnable =>
      cases runnable with
      | none =>
          simp only [step, refuse] at h
          split at h
          · next hc => cases h; exact .refuse hc
          · cases h
      | some r =>
          obtain ⟨hl, ⟨v, hc⟩, rfl⟩ := call_inv h
          exact .runInThread hl hc
  | blockForAvailableThreads c =>
      obtain ⟨hl, ⟨v, hc⟩, rfl⟩ := call_inv h
      exact .blockForAvailableThreads hl hc
  | shutdown c wait =>
      obtain ⟨hl, ⟨v, hc⟩, rfl⟩ := call_inv h
      exact .shutdown wait hl hc
  | wake c => exact wake_stepped h
  | goOn c i => exact goOn_stepped h
  | worker wt => exact worker_stepped h
  | interrupt wt =>
      simp only [step] at h
      split at h
      · next hn =>
          obtain ⟨th, hth, rfl⟩ := Option.map_eq_some_iff.mp h
          exact .interrupt hn hth
      · cases h

end SimpleThreadPool

end MRF.Pool
