import MRF.Center.Halting
import MRF.Pool.Calls

/-!
# Center — ShutDown

The threads of `PollTaskScheduler`, their pools and whoever calls `shutDown`, in one process.
`MRF.Center.Halting` has the threads without what they do in a pool, and one call of `shutDown`;
here a thread calls its pool, `SimpleThreadPool`, and waits there, and `shutDown` is called by any
number of threads.

* `refines_threads`: what the threads do is a run of `MRF.Center.Halting`.
* `refines_pool`: what becomes of a pool is a run of `SimpleThreadPool`, in which the scheduler
  thread is the only one that hands anything over.
-/

namespace MRF.Center
open MRF.Library MRF.Pool

variable {ρ : Type*}

/-! ### The process -/

/-- How far a thread is with the call of its pool, at the places where it makes one. -/
inductive PoolCall (ρ : Type*) where
  | none
  /-- In `blockForAvailableThreads`. -/
  | block
  /-- `availThreadCount > 0`. -/
  | available
  /-- `goAhead`, with what is to run. -/
  | goAhead (pollTaskRunner : ρ)
  /-- In `runInThread`. -/
  | run
  /-- Past `runInThread`, or not going ahead. -/
  | done

/-- Where a call of `shutDown` is. -/
inductive ShutDownCall where
  | notCalled
  /-- Past the test of the flags. -/
  | passed (waitForJobsToComplete : Bool)
  | halt (name : SchedulerName) (waitForJobsToComplete : Bool)
  | join (name : SchedulerName)
  /-- About to shut the pool of a thread down. -/
  | pool (name : SchedulerName) (waitForJobsToComplete : Bool)
  | inPool (name : SchedulerName) (waitForJobsToComplete : Bool)
  /-- About to set `isShutDown`. -/
  | finish (waitForJobsToComplete : Bool)
  | returned (waitForJobsToComplete : Bool)
  /-- It has found a flag set. -/
  | refused
  deriving DecidableEq

/-- In its pool, the thread of a name is caller 0, and call `c` of `shutDown` is caller `c + 1`. -/
structure SchedulerProcess (ρ : Type*) where
  threads : SchedulerName → PollTaskSchedulerThread
  calls : SchedulerName → PoolCall ρ
  pools : SchedulerName → SimpleThreadPool ρ
  isShutDown : Bool
  isShuttingDown : Bool
  shutDowns : Nat → ShutDownCall

/-- What is done to the process of the scheduler, and what its threads do. -/
inductive ProcessAction (ρ : Type*) where
  | togglePause (name : SchedulerName) (pause : Bool)
  /-- A thread moves, outside its pool. -/
  | move (name : SchedulerName) (m : Move)
  /-- `goAhead = !halted.get()`, with what is to run if so. -/
  | test (name : SchedulerName) (pollTaskRunner : ρ)
  | call (name : SchedulerName)
  /-- The call has returned. -/
  | back (name : SchedulerName)
  /-- A step within a pool. -/
  | pool (name : SchedulerName) (a : SimpleThreadPool.Action ρ)
  | shutDown (c : Nat) (waitForJobsToComplete : Bool)
  /-- `shutDown` goes on. -/
  | shutDownNext (c : Nat)

/-- Whether a thread may move on from a place where it calls its pool. -/
def PoolCall.lets : PoolCall ρ → RunPlace → Move → Bool
  | .available, .construct, _ => true
  | _, .construct, _ => false
  | .done, .goAhead, .next => true
  -- What finds out whether it is time, or `constructPollTaskRunner`, throws.
  | .none, .goAhead, .throws _ => true
  | .goAhead _, .goAhead, .throws _ => true
  | _, .goAhead, _ => false
  | _, _, _ => true

namespace SchedulerProcess

/-- After `initialize`, with the pools that have been initialized before. -/
def initial (pools : SchedulerName → SimpleThreadPool ρ) : SchedulerProcess ρ where
  threads _ := .initial
  calls _ := .none
  pools
  isShutDown := false
  isShuttingDown := false
  shutDowns _ := .notCalled

/-- The threads for themselves. -/
def scheduler (s : SchedulerProcess ρ) : PollTaskScheduler := ⟨s.threads, .notCalled⟩

def setCall (s : SchedulerProcess ρ) (name : SchedulerName) (call : PoolCall ρ) :
    SchedulerProcess ρ :=
  { s with calls := Function.update s.calls name call }

def setPool (s : SchedulerProcess ρ) (name : SchedulerName) (pool : SimpleThreadPool ρ) :
    SchedulerProcess ρ :=
  { s with pools := Function.update s.pools name pool }

def setShutDown (s : SchedulerProcess ρ) (c : Nat) (place : ShutDownCall) : SchedulerProcess ρ :=
  { s with shutDowns := Function.update s.shutDowns c place }

/-- A step of the threads; the thread of the name is in no call then. -/
def moveThread (s : SchedulerProcess ρ) (name : SchedulerName) (b : ThreadAction) :
    Option (SchedulerProcess ρ) :=
  (s.scheduler.step b).map fun t => { s with threads := t.threads }.setCall name .none

/-- The thread moves, when it is in no call of its pool. -/
def move (s : SchedulerProcess ρ) (name : SchedulerName) (m : Move) :
    Option (SchedulerProcess ρ) :=
  if (s.calls name).lets (s.threads name).place m then s.moveThread name (.move name m) else none

/-- The thread tests `halted`, before it hands its task over. -/
def test (s : SchedulerProcess ρ) (name : SchedulerName) (pollTaskRunner : ρ) :
    Option (SchedulerProcess ρ) :=
  match (s.threads name).place, s.calls name with
  | .goAhead, .none =>
      some (s.setCall name (if (s.threads name).halted then .done else .goAhead pollTaskRunner))
  | _, _ => none

/-- The thread calls its pool. -/
def call (s : SchedulerProcess ρ) (name : SchedulerName) : Option (SchedulerProcess ρ) :=
  match (s.threads name).place, s.calls name with
  | .construct, .none =>
      ((s.pools name).step (.blockForAvailableThreads 0)).map fun pool =>
        (s.setPool name pool).setCall name .block
  | .goAhead, .goAhead pollTaskRunner =>
      ((s.pools name).step (.runInThread 0 (some pollTaskRunner))).map fun pool =>
        (s.setPool name pool).setCall name .run
  | _, _ => none

/-- The call of the pool returns. -/
def back (s : SchedulerProcess ρ) (name : SchedulerName) : Option (SchedulerProcess ρ) :=
  match s.calls name, (s.pools name).callers 0 with
  | .block, .out (.blockForAvailableThreads availThreadCount) =>
      if 0 < availThreadCount then some (s.setCall name .available)
      else s.moveThread name (.move name (.throws false))
  | .run, .out .illegalStateException => s.moveThread name (.move name (.throws false))
  | .run, .out _ => some (s.setCall name .done)
  | _, _ => none

/-- The place after that of a thread, in the part of `shutDown` that halts the threads. -/
def afterThread (name : SchedulerName) (waitForJobsToComplete : Bool) : ShutDownCall :=
  match name.next with
  | some name' => .halt name' waitForJobsToComplete
  | none => .pool .pollEQ waitForJobsToComplete

/-- The place after that of a pool. -/
def afterPool (name : SchedulerName) (waitForJobsToComplete : Bool) : ShutDownCall :=
  match name.next with
  | some name' => .pool name' waitForJobsToComplete
  | none => .finish waitForJobsToComplete

/-- `shutDown` is called. -/
def shutDown (s : SchedulerProcess ρ) (c : Nat) (waitForJobsToComplete : Bool) :
    Option (SchedulerProcess ρ) :=
  match s.shutDowns c with
  | .notCalled =>
      some (s.setShutDown c (if s.isShutDown || s.isShuttingDown then .refused
        else .passed waitForJobsToComplete))
  | _ => none

/-- A call of `shutDown` goes on. -/
def shutDownNext (s : SchedulerProcess ρ) (c : Nat) : Option (SchedulerProcess ρ) :=
  match s.shutDowns c with
  | .passed wait => some ({ s with isShuttingDown := true }.setShutDown c (.halt .pollEQ wait))
  | .halt name wait =>
      (s.scheduler.step (.halt name)).map fun t => { s with threads := t.threads }.setShutDown c
        (if wait then .join name else afterThread name false)
  | .join name =>
      if (s.threads name).place = .ended then some (s.setShutDown c (afterThread name true))
      else none
  | .pool name wait =>
      ((s.pools name).step (.shutdown (c + 1) wait)).map fun pool =>
        (s.setPool name pool).setShutDown c (.inPool name wait)
  | .inPool name wait =>
      match (s.pools name).callers (c + 1) with
      | .out _ => some (s.setShutDown c (afterPool name wait))
      | _ => none
  | .finish wait => some ({ s with isShutDown := true }.setShutDown c (.returned wait))
  | _ => none

/-- One step of the scheduler with its pools. -/
def step (s : SchedulerProcess ρ) : ProcessAction ρ → Option (SchedulerProcess ρ)
  | .togglePause name pause =>
      (s.scheduler.step (.togglePause name pause)).map fun t => { s with threads := t.threads }
  | .move name m => s.move name m
  | .test name pollTaskRunner => s.test name pollTaskRunner
  | .call name => s.call name
  | .back name => s.back name
  | .pool name a => if a.within then ((s.pools name).step a).map (s.setPool name) else none
  | .shutDown c waitForJobsToComplete => s.shutDown c waitForJobsToComplete
  | .shutDownNext c => s.shutDownNext c

variable {s s' : SchedulerProcess ρ} {a : ProcessAction ρ} {name : SchedulerName} {c : Nat}

/-! ### What a step can do -/

/-- The call of the pool ends the turn of the thread: no worker was found, or it threw. -/
def EndsTurn (s : SchedulerProcess ρ) (name : SchedulerName) : Prop :=
  s.calls name = .block ∧ (s.pools name).callers 0 = .out (.blockForAvailableThreads 0) ∨
    s.calls name = .run ∧ (s.pools name).callers 0 = .out .illegalStateException

/-- The enabled actions of a state, each with what it needs and the state it leads to. -/
inductive Stepped (s : SchedulerProcess ρ) : ProcessAction ρ → SchedulerProcess ρ → Prop where
  | togglePause {name : SchedulerName} {pause : Bool} {t : PollTaskScheduler}
      (h : s.scheduler.step (.togglePause name pause) = some t) :
      Stepped s (.togglePause name pause) { s with threads := t.threads }
  | move {name : SchedulerName} {m : Move} {t : PollTaskScheduler}
      (hl : (s.calls name).lets (s.threads name).place m = true)
      (h : s.scheduler.step (.move name m) = some t) :
      Stepped s (.move name m) ({ s with threads := t.threads }.setCall name .none)
  | test {name : SchedulerName} (r : ρ) (hp : (s.threads name).place = .goAhead)
      (hc : s.calls name = .none) : Stepped s (.test name r)
        (s.setCall name (if (s.threads name).halted then .done else .goAhead r))
  | block {name : SchedulerName} {pool : SimpleThreadPool ρ}
      (hp : (s.threads name).place = .construct) (hc : s.calls name = .none)
      (h : (s.pools name).step (.blockForAvailableThreads 0) = some pool) :
      Stepped s (.call name) ((s.setPool name pool).setCall name .block)
  | run {name : SchedulerName} {r : ρ} {pool : SimpleThreadPool ρ}
      (hp : (s.threads name).place = .goAhead) (hc : s.calls name = .goAhead r)
      (h : (s.pools name).step (.runInThread 0 (some r)) = some pool) :
      Stepped s (.call name) ((s.setPool name pool).setCall name .run)
  | available {name : SchedulerName} {n : Nat} (hc : s.calls name = .block)
      (hr : (s.pools name).callers 0 = .out (.blockForAvailableThreads n)) (hn : 0 < n) :
      Stepped s (.back name) (s.setCall name .available)
  | endsTurn {name : SchedulerName} {t : PollTaskScheduler} (hc : s.EndsTurn name)
      (h : s.scheduler.step (.move name (.throws false)) = some t) :
      Stepped s (.back name) ({ s with threads := t.threads }.setCall name .none)
  | ran {name : SchedulerName} {v : Result} (hc : s.calls name = .run)
      (hr : (s.pools name).callers 0 = .out v) (hv : v ≠ .illegalStateException) :
      Stepped s (.back name) (s.setCall name .done)
  | pool {name : SchedulerName} {a : SimpleThreadPool.Action ρ} {pool : SimpleThreadPool ρ}
      (ha : a.within = true) (h : (s.pools name).step a = some pool) :
      Stepped s (.pool name a) (s.setPool name pool)
  | called {c : Nat} (wait : Bool) (hc : s.shutDowns c = .notCalled) :
      Stepped s (.shutDown c wait) (s.setShutDown c
        (if s.isShutDown || s.isShuttingDown then .refused else .passed wait))
  | passed {c : Nat} {wait : Bool} (hc : s.shutDowns c = .passed wait) :
      Stepped s (.shutDownNext c)
        ({ s with isShuttingDown := true }.setShutDown c (.halt .pollEQ wait))
  | halt {c : Nat} {name : SchedulerName} {wait : Bool} {t : PollTaskScheduler}
      (hc : s.shutDowns c = .halt name wait) (h : s.scheduler.step (.halt name) = some t) :
      Stepped s (.shutDownNext c) ({ s with threads := t.threads }.setShutDown c
        (if wait then .join name else afterThread name false))
  | joined {c : Nat} {name : SchedulerName} (hc : s.shutDowns c = .join name)
      (he : (s.threads name).place = .ended) :
      Stepped s (.shutDownNext c) (s.setShutDown c (afterThread name true))
  | shutPool {c : Nat} {name : SchedulerName} {wait : Bool} {pool : SimpleThreadPool ρ}
      (hc : s.shutDowns c = .pool name wait)
      (h : (s.pools name).step (.shutdown (c + 1) wait) = some pool) :
      Stepped s (.shutDownNext c) ((s.setPool name pool).setShutDown c (.inPool name wait))
  | outOfPool {c : Nat} {name : SchedulerName} {wait : Bool} {v : Result}
      (hc : s.shutDowns c = .inPool name wait) (hr : (s.pools name).callers (c + 1) = .out v) :
      Stepped s (.shutDownNext c) (s.setShutDown c (afterPool name wait))
  | finish {c : Nat} {wait : Bool} (hc : s.shutDowns c = .finish wait) :
      Stepped s (.shutDownNext c) ({ s with isShutDown := true }.setShutDown c (.returned wait))

theorem call_stepped (h : s.call name = some s') : Stepped s (.call name) s' := by
  unfold call at h
  split at h
  · next hp hc =>
      obtain ⟨pool, hpool, rfl⟩ := Option.map_eq_some_iff.mp h
      exact .block hp hc hpool
  · next hp hc =>
      obtain ⟨pool, hpool, rfl⟩ := Option.map_eq_some_iff.mp h
      exact .run hp hc hpool
  · cases h

theorem back_stepped (h : s.back name = some s') : Stepped s (.back name) s' := by
  have hends (hc : s.EndsTurn name)
      (h : s.moveThread name (.move name (.throws false)) = some s') :
      Stepped s (.back name) s' := by
    obtain ⟨t, ht, rfl⟩ := Option.map_eq_some_iff.mp h
    exact .endsTurn hc ht
  unfold back at h
  split at h
  · next n hc hr =>
      split at h
      · next hn => cases h; exact .available hc hr hn
      · next hn =>
          obtain rfl := Nat.eq_zero_of_not_pos hn
          exact hends (.inl ⟨hc, hr⟩) h
  · next hc hr => exact hends (.inr ⟨hc, hr⟩) h
  · next hv hc hr => cases h; exact .ran hc hr hv
  · cases h

theorem shutDownNext_stepped (h : s.shutDownNext c = some s') :
    Stepped s (.shutDownNext c) s' := by
  unfold shutDownNext at h
  split at h
  · next hc => cases h; exact .passed hc
  · next hc =>
      obtain ⟨t, ht, rfl⟩ := Option.map_eq_some_iff.mp h
      exact .halt hc ht
  · next hc =>
      split at h
      · next he => cases h; exact .joined hc he
      · cases h
  · next hc =>
      obtain ⟨pool, hpool, rfl⟩ := Option.map_eq_some_iff.mp h
      exact .shutPool hc hpool
  · next hc =>
      split at h
      · next hr => cases h; exact .outOfPool hc hr
      · cases h
  · next hc => cases h; exact .finish hc
  · cases h

theorem step_stepped (h : s.step a = some s') : Stepped s a s' := by
  cases a with
  | togglePause name pause =>
      simp only [step] at h
      obtain ⟨t, ht, rfl⟩ := Option.map_eq_some_iff.mp h
      exact .togglePause ht
  | move name m =>
      simp only [step, move] at h
      split at h
      · next hl =>
          obtain ⟨t, ht, rfl⟩ := Option.map_eq_some_iff.mp h
          exact .move hl ht
      · cases h
  | test name r =>
      simp only [step, test] at h
      split at h
      · next hp hc => cases h; exact .test r hp hc
      · cases h
  | call name => exact call_stepped h
  | back name => exact back_stepped h
  | pool name a =>
      simp only [step] at h
      split at h
      · next ha =>
          obtain ⟨pool, hpool, rfl⟩ := Option.map_eq_some_iff.mp h
          exact .pool ha hpool
      · cases h
  | shutDown c wait =>
      simp only [step, shutDown] at h
      split at h
      · next hc => cases h; exact .called wait hc
      · cases h
  | shutDownNext c => exact shutDownNext_stepped h

/-! ### The threads -/

/-- What the threads do in an action. -/
def threadAction (s : SchedulerProcess ρ) : ProcessAction ρ → Option ThreadAction
  | .togglePause name pause => some (.togglePause name pause)
  | .move name m => some (.move name m)
  | .back name =>
      match s.calls name, (s.pools name).callers 0 with
      | .block, .out (.blockForAvailableThreads 0) => some (.move name (.throws false))
      | .run, .out .illegalStateException => some (.move name (.throws false))
      | _, _ => none
  | .shutDownNext c =>
      match s.shutDowns c with
      | .halt name _ => some (.halt name)
      | _ => none
  | _ => none

/-- An action that is no part of the one call of `shutDown` in `PollTaskScheduler`. -/
theorem shutDown_notCalled {t : PollTaskScheduler} {b : ThreadAction}
    (h : s.scheduler.step b = some t) (hshut : ∀ wait, b ≠ .shutDown wait)
    (hnext : b ≠ .shutDownNext) : t = ⟨t.threads, .notCalled⟩ := by
  cases b with
  | togglePause name pause | halt name =>
      cases h
      rfl
  | shutDown wait => exact absurd rfl (hshut wait)
  | shutDownNext => exact absurd rfl hnext
  | move name m =>
      simp only [PollTaskScheduler.step] at h
      split at h
      · cases h
      · obtain ⟨th, -, rfl⟩ := Option.map_eq_some_iff.mp h
        rfl

/-- What the threads do is a run of the threads for themselves, in which anyone may halt them. -/
theorem refines_threads : Refines (stepOf step) (stepOf PollTaskScheduler.step)
    (scheduler : SchedulerProcess ρ → _) threadAction fun _ => True := by
  intro s a s' h _
  have hspec {t : PollTaskScheduler} {b : ThreadAction} (hstep : s.scheduler.step b = some t)
      (hshut : ∀ wait, b ≠ .shutDown wait) (hnext : b ≠ .shutDownNext) :
      stepOf PollTaskScheduler.step s.scheduler b ⟨t.threads, .notCalled⟩ := by
    rw [← shutDown_notCalled hstep hshut hnext]
    exact hstep
  cases step_stepped h with
  | togglePause hstep | move hl hstep => exact .inr ⟨_, rfl, hspec hstep (by simp) (by simp)⟩
  | endsTurn hc hstep =>
      refine .inr ⟨_, ?_, hspec hstep (by simp) (by simp)⟩
      rcases hc with ⟨hc, hr⟩ | ⟨hc, hr⟩ <;> simp [threadAction, hc, hr]
  | halt hc hstep =>
      exact .inr ⟨_, by simp [threadAction, hc], hspec hstep (by simp) (by simp)⟩
  | test | block | run | pool | called => exact .inl ⟨rfl, rfl⟩
  | @available name n hc hr hn =>
      refine .inl ⟨?_, rfl⟩
      cases n with
      | zero => cases hn
      | succ n => simp [threadAction, hc, hr]
  | @ran name v hc hr hv =>
      cases v with
      | illegalStateException => exact absurd rfl hv
      | _ => exact .inl ⟨by simp [threadAction, hc, hr], rfl⟩
  | passed hc | joined hc | shutPool hc | outOfPool hc | finish hc =>
      exact .inl ⟨by simp [threadAction, hc], rfl⟩

/-! ### The pools -/

/-- What is done to the pool of a thread in an action. -/
def poolAction (name : SchedulerName) (s : SchedulerProcess ρ) :
    ProcessAction ρ → Option (SimpleThreadPool.Action ρ)
  | .call n =>
      if n = name then
        match (s.threads n).place, s.calls n with
        | .construct, .none => some (.blockForAvailableThreads 0)
        | .goAhead, .goAhead r => some (.runInThread 0 (some r))
        | _, _ => none
      else none
  | .pool n a => if n = name then some a else none
  | .shutDownNext c =>
      match s.shutDowns c with
      | .pool n wait => if n = name then some (.shutdown (c + 1) wait) else none
      | _ => none
  | _ => none

/-- An action on one of the pools. -/
theorem setPool_cases (n name : SchedulerName) (pool : SimpleThreadPool ρ) :
    n = name ∧ (s.setPool n pool).pools name = pool ∨
      n ≠ name ∧ (s.setPool n pool).pools name = s.pools name := by
  by_cases hn : n = name
  · subst hn
    exact .inl ⟨rfl, Function.update_self ..⟩
  · exact .inr ⟨hn, Function.update_of_ne (Ne.symm hn) ..⟩

theorem onlyUser_within {pool : SimpleThreadPool ρ} {b : SimpleThreadPool.Action ρ}
    (hb : b.within = true) : pool.OnlyUser 0 b := by
  rintro d r rfl
  cases hb

/-- What becomes of a pool is a run of the pool, in which only its thread hands anything over. -/
theorem refines_pool (name : SchedulerName) : Refines (stepOf step)
    (Guarded (stepOf SimpleThreadPool.step) (SimpleThreadPool.OnlyUser 0))
    (fun s : SchedulerProcess ρ => s.pools name) (poolAction name) fun _ => True := by
  intro s a s' h _
  cases step_stepped h with
  | @block n pool hp hc hstep =>
      rcases s.setPool_cases n name pool with ⟨rfl, hpool⟩ | ⟨hn, hpool⟩
      · refine .inr ⟨.blockForAvailableThreads 0, by simp [poolAction, hp, hc], ?_,
          fun d r hd => by cases hd⟩
        exact hstep.trans (congrArg some hpool.symm)
      · exact .inl ⟨if_neg hn, hpool⟩
  | @run n r pool hp hc hstep =>
      rcases s.setPool_cases n name pool with ⟨rfl, hpool⟩ | ⟨hn, hpool⟩
      · refine .inr ⟨.runInThread 0 (some r), by simp [poolAction, hp, hc], ?_, fun d r hd => ?_⟩
        · exact hstep.trans (congrArg some hpool.symm)
        · cases hd
          rfl
      · exact .inl ⟨if_neg hn, hpool⟩
  | @pool n b pool hb hstep =>
      rcases s.setPool_cases n name pool with ⟨rfl, hpool⟩ | ⟨hn, hpool⟩
      · exact .inr ⟨b, if_pos rfl, hstep.trans (congrArg some hpool.symm), onlyUser_within hb⟩
      · exact .inl ⟨if_neg hn, hpool⟩
  | @shutPool c n wait pool hc hstep =>
      rcases s.setPool_cases n name pool with ⟨rfl, hpool⟩ | ⟨hn, hpool⟩
      · refine .inr ⟨.shutdown (c + 1) wait, by simp [poolAction, hc], ?_,
          fun d r hd => by cases hd⟩
        exact hstep.trans (congrArg some hpool.symm)
      · exact .inl ⟨by simp [poolAction, hc, hn], hpool⟩
  | togglePause | move | test | available | endsTurn | ran | called => exact .inl ⟨rfl, rfl⟩
  | passed hc | halt hc | joined hc | outOfPool hc | finish hc =>
      exact .inl ⟨by simp [poolAction, hc], rfl⟩

/-- One pool goes on with what has begun. -/
theorem pool_runs {pool pool' : SimpleThreadPool ρ}
    {tr : List (SimpleThreadPool ρ × SimpleThreadPool.Action ρ)}
    (h : Run (Guarded (stepOf SimpleThreadPool.step) fun _ b => b.within = true) pool tr pool')
    (hs : s.pools name = pool) : Reaches (stepOf step) s fun t => t = s.setPool name pool' := by
  induction h generalizing s with
  | nil pool =>
      refine .here ?_
      rw [← hs]
      simp [setPool]
  | @cons pool pool₁ pool' b tr hstep _ ih =>
      have hpool : stepOf step s (.pool name b) (s.setPool name pool₁) := by
        change (if b.within then ((s.pools name).step b).map (s.setPool name) else none) = _
        rw [if_pos hstep.2, hs, show pool.step b = some pool₁ from hstep.1]
        rfl
      refine .step hpool ((ih (Function.update_self ..)).mono ?_)
      rintro t rfl
      simp [setPool]

end SchedulerProcess

end MRF.Center
