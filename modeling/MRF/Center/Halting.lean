import Mathlib.Logic.Function.Basic
import MRF.Library.Run

/-!
# Center — Halting

How the threads of `PollTaskScheduler` come to notice that they are halted.  `MRF.Center.Scheduler`
takes a wait loop as one step; here a thread goes through each of the four loops, test by test and
wait by wait, and `shutDown` is a thread among them that halts and joins the others in their order.
What lies between taking `sigLock` and giving it back is one step.

`halting_run`: no halted thread begins a wait, exactly in the runs in which a halted thread that
looks for its dependent thread finds that it has executed once; and no loop blocks a `join` of
`shutDown`, unless its thread waits for one that has ended without executing once.
-/

namespace MRF.Center
open MRF.Library

/-! ### A thread -/

/-- The threads of `PollTaskScheduler`. -/
inductive SchedulerName where
  | pollEQ
  | houseKeep
  | pollIntervalRetry
  deriving DecidableEq, Repr

namespace SchedulerName

/-- `setDependentSchedulerThread`, in `initialize`. -/
def dependent : SchedulerName → Option SchedulerName
  | .houseKeep => some .pollEQ
  | _ => none

/-- The order of `shutDown`. -/
def next : SchedulerName → Option SchedulerName
  | .pollEQ => some .houseKeep
  | .houseKeep => some .pollIntervalRetry
  | .pollIntervalRetry => none

end SchedulerName

/-- Where a thread is in `run`. -/
inductive RunPlace where
  /-- `while(!halted.get())`. -/
  | loop
  /-- `while(!dependentSchedulerThread.hasExecutedOnce())`. -/
  | testDependent
  | waitDependent
  /-- `while (paused && !halted.get())`. -/
  | testPause
  | waitPause
  /-- In `blockForAvailableThreads` and `constructPollTask`. -/
  | construct
  /-- `while(timeUntilTrigger > 2)` of `waitUntilAppropriateToExecute`. -/
  | testDue
  | waitDue
  /-- `goAhead`, and `runInThread`. -/
  | goAhead
  /-- `signalHasExecutedOnce`; whether the thread then waits idly. -/
  | signal (idle : Bool)
  /-- `if(!halted.get())`, of the idle wait. -/
  | testIdle
  | waitIdle
  | ended
  deriving DecidableEq, Repr

/-- In `sigLock.wait`. -/
def RunPlace.isWait : RunPlace → Bool
  | .waitDependent | .waitPause | .waitDue | .waitIdle => true
  | _ => false

/-- In the loop that waits for the dependent thread. -/
def RunPlace.isDependent : RunPlace → Bool
  | .testDependent | .waitDependent => true
  | _ => false

/-- How many moves a halted thread makes at most. -/
def RunPlace.toEnd : RunPlace → Nat
  | .ended => 0
  | .loop | .testPause => 1
  | .testDependent | .waitPause | .testIdle | .waitIdle | .signal false => 2
  | .waitDependent | .goAhead | .signal true => 3
  | .testDue => 4
  | .construct | .waitDue => 5

/-- The fields of a scheduler thread, and where it is in `run`. -/
structure PollTaskSchedulerThread where
  place : RunPlace
  paused : Bool
  halted : Bool
  hasExecutedOnce : Bool
  deriving DecidableEq, Repr

/-- What a thread does next, with what its surroundings add to it. -/
inductive Move where
  /-- The next statement. -/
  | next
  /-- A wait ends: it timed out, or the thread was notified or interrupted. -/
  | wake
  /-- `constructPollTask` answers a task without records. -/
  | nothingToDo
  /-- `constructPollTask` answers a task; whether it is time to execute it. -/
  | task (hasReachTaskExecuteTime : Bool)
  /-- Whether a due time is still away. -/
  | due (timeUntilTrigger : Bool)
  /-- A `RuntimeException` is caught in the loop; an `Error` ends the thread.  A thread that finds
  no worker goes on as after an exception. -/
  | throws (error : Bool)
  deriving DecidableEq, Repr

namespace PollTaskSchedulerThread

/-- A thread that has been started. -/
def initial : PollTaskSchedulerThread := ⟨.loop, true, false, false⟩

def goTo (th : PollTaskSchedulerThread) (place : RunPlace) : PollTaskSchedulerThread :=
  { th with place }

/-- `run`, with what `hasExecutedOnce` of the dependent thread answers, if there is one. -/
def run (dependent : Option Bool) (th : PollTaskSchedulerThread) :
    Move → Option PollTaskSchedulerThread
  | .next =>
      match th.place with
      | .loop =>
          some (th.goTo (if th.halted then .ended
            else if dependent.isSome then .testDependent else .testPause))
      | .testDependent =>
          some (th.goTo (if dependent = some false then .waitDependent else .testPause))
      | .testPause =>
          some (th.goTo (if th.paused && !th.halted then .waitPause
            else if th.halted then .ended else .construct))
      | .goAhead => some (th.goTo (.signal false))
      | .signal idle =>
          some { th with hasExecutedOnce := true, place := if idle then .testIdle else .loop }
      | .testIdle => some (th.goTo (if th.halted then .loop else .waitIdle))
      | _ => none
  | .wake =>
      match th.place with
      | .waitDependent => some (th.goTo .testDependent)
      | .waitPause => some (th.goTo .testPause)
      | .waitDue => some (th.goTo .testDue)
      | .waitIdle => some (th.goTo .loop)
      | _ => none
  | .nothingToDo =>
      match th.place with
      | .construct => some (th.goTo (.signal true))
      | _ => none
  | .task reached =>
      match th.place with
      | .construct => some (th.goTo (if reached then .goAhead else .testDue))
      | _ => none
  | .due waits =>
      match th.place with
      | .testDue => some (th.goTo (if waits && !th.halted then .waitDue else .goAhead))
      | _ => none
  | .throws error =>
      match th.place with
      | .construct | .goAhead => some (th.goTo (if error then .ended else .loop))
      | _ => none

variable {dependent : Option Bool} {th th' : PollTaskSchedulerThread} {m : Move}

/-- What a move leaves as it is. -/
theorem run_keeps (h : th.run dependent m = some th') :
    th'.halted = th.halted ∧ (th.hasExecutedOnce = true → th'.hasExecutedOnce = true) := by
  unfold run at h
  repeat' split at h
  all_goals cases h
  all_goals first | exact ⟨rfl, id⟩ | exact ⟨rfl, fun _ => rfl⟩

/-- A halted thread begins to wait in the loop that does not ask, and else comes nearer to its end
without waiting. -/
theorem run_halted (h : th.run dependent m = some th') (hh : th.halted = true) :
    (m = .next ∧ th.place = .testDependent ∧ dependent = some false ∧
      th'.place = .waitDependent) ∨
    ((th.place = .testDependent → dependent ≠ some false) ∧ th'.place.isWait = false ∧
      th'.place.toEnd < th.place.toEnd ∧
      (th'.place.isDependent = true → th.place = .waitDependent)) := by
  obtain ⟨place, paused, halted, executed⟩ := th
  cases hh
  cases m with
  | next =>
      cases place with
      | testDependent =>
          cases h
          -- the one test that sends a halted thread back to a wait
          by_cases hd : dependent = some false
          · exact .inl ⟨rfl, rfl, hd, if_pos hd⟩
          · simp [goTo, hd, RunPlace.isWait, RunPlace.toEnd, RunPlace.isDependent]
      | signal idle =>
          cases h
          cases idle <;> simp [RunPlace.isWait, RunPlace.toEnd, RunPlace.isDependent]
      | loop | testPause | goAhead | testIdle =>
          cases h
          simp [goTo, RunPlace.isWait, RunPlace.toEnd, RunPlace.isDependent]
      | _ => cases h
  | wake =>
      cases place <;> cases h <;>
        simp [goTo, RunPlace.isWait, RunPlace.toEnd, RunPlace.isDependent]
  | nothingToDo =>
      cases place <;> cases h
      simp [goTo, RunPlace.isWait, RunPlace.toEnd, RunPlace.isDependent]
  | task reached =>
      cases place <;> cases h
      cases reached <;> simp [goTo, RunPlace.isWait, RunPlace.toEnd, RunPlace.isDependent]
  | due waits =>
      cases place <;> cases h
      simp [goTo, RunPlace.isWait, RunPlace.toEnd, RunPlace.isDependent]
  | throws error =>
      cases place <;> cases h <;> cases error <;>
        simp [goTo, RunPlace.isWait, RunPlace.toEnd, RunPlace.isDependent]

/-- **Where a halted thread begins to wait**: in the loop that does not ask. -/
theorem begins_wait_iff (h : th.run dependent m = some th') (hhalted : th.halted = true) :
    (th.place.isWait = false ∧ th'.place.isWait = true) ↔
      m = .next ∧ th.place = .testDependent ∧ dependent = some false := by
  rcases run_halted h hhalted with ⟨hm, hplace, hd, hplace'⟩ | ⟨hgo, hno, -⟩
  · rw [hplace, hplace']
    exact ⟨fun _ => ⟨hm, rfl, hd⟩, fun _ => ⟨rfl, rfl⟩⟩
  · rw [hno]
    refine ⟨fun hwait => ?_, fun hdep => absurd hdep.2.2 (hgo hdep.2.1)⟩
    cases hwait.2

/-- A halted thread comes nearer to its end with every move, if its dependent loop lets it. -/
theorem run_toEnd (h : th.run dependent m = some th') (hhalted : th.halted = true)
    (hd : th.place.isDependent = true → dependent ≠ some false) :
    th'.place.toEnd < th.place.toEnd ∧
      (th'.place.isDependent = true → th.place.isDependent = true) := by
  rcases run_halted h hhalted with ⟨-, hplace, hfalse, -⟩ | ⟨-, -, hlt, hdep⟩
  · rw [hplace] at hd
    exact absurd hfalse (hd rfl)
  · refine ⟨hlt, fun hplace' => ?_⟩
    rw [hdep hplace']
    rfl

/-- In the dependent loop, a thread stays there until the dependent thread has executed once. -/
theorem run_dependent (h : th.run (some false) m = some th') (hp : th.place.isDependent = true) :
    th'.place.isDependent = true := by
  cases hplace : th.place with
  | testDependent =>
      cases m <;> simp only [run, hplace] at h <;> cases h
      rfl
  | waitDependent =>
      cases m <;> simp only [run, hplace] at h <;> cases h
      rfl
  | _ =>
      rw [hplace] at hp
      cases hp

theorem run_ended (hp : th.place = .ended) : th.run dependent m = none := by
  unfold run
  rw [hp]
  cases m <;> rfl

/-- A thread that has not ended can move on. -/
theorem can_run (dependent : Option Bool) (hne : th.place ≠ .ended) :
    ∃ m th', th.run dependent m = some th' ∧ m ≠ .task false := by
  obtain ⟨place, paused, halted, executed⟩ := th
  cases place with
  | loop | testDependent | testPause | goAhead | signal | testIdle =>
      exact ⟨.next, _, rfl, by simp⟩
  | waitDependent | waitPause | waitDue | waitIdle => exact ⟨.wake, _, rfl, by simp⟩
  | construct => exact ⟨.nothingToDo, _, rfl, by simp⟩
  | testDue => exact ⟨.due false, _, rfl, by simp⟩
  | ended => exact absurd rfl hne

end PollTaskSchedulerThread

/-! ### The scheduler -/

/-- Where `shutDown` is. -/
inductive ShutDownPlace where
  | notCalled
  /-- About to halt the thread; whether to join it then. -/
  | halt (name : SchedulerName) (waitForJobsToComplete : Bool)
  | join (name : SchedulerName)
  | returned
  deriving DecidableEq, Repr

/-- The three threads, and where `shutDown` is. -/
structure PollTaskScheduler where
  threads : SchedulerName → PollTaskSchedulerThread
  shutDown : ShutDownPlace

/-- What is done to the threads, and what they do. -/
inductive ThreadAction where
  | togglePause (name : SchedulerName) (pause : Bool)
  /-- `halt(false)`, called by anyone. -/
  | halt (name : SchedulerName)
  | shutDown (waitForJobsToComplete : Bool)
  /-- `shutDown` goes on. -/
  | shutDownNext
  | move (name : SchedulerName) (m : Move)
  deriving DecidableEq, Repr

namespace PollTaskScheduler

/-- After `initialize`. -/
def initial : PollTaskScheduler := ⟨fun _ => .initial, .notCalled⟩

def set (s : PollTaskScheduler) (name : SchedulerName) (th : PollTaskSchedulerThread) :
    PollTaskScheduler :=
  { s with threads := Function.update s.threads name th }

def haltThread (s : PollTaskScheduler) (name : SchedulerName) : PollTaskScheduler :=
  s.set name { s.threads name with halted := true }

/-- The thread after `name` in `shutDown`, or its end. -/
def afterThread (name : SchedulerName) (waitForJobsToComplete : Bool) : ShutDownPlace :=
  match name.next with
  | some name' => .halt name' waitForJobsToComplete
  | none => .returned

/-- What the dependent loop of a thread reads. -/
def dependentHasExecutedOnce (s : PollTaskScheduler) (name : SchedulerName) : Option Bool :=
  name.dependent.map fun d => (s.threads d).hasExecutedOnce

/-- One step of the threads, or of `shutDown`. -/
def step (s : PollTaskScheduler) : ThreadAction → Option PollTaskScheduler
  | .togglePause name pause => some (s.set name { s.threads name with paused := pause })
  | .halt name => some (s.haltThread name)
  | .shutDown wait =>
      if s.shutDown = .notCalled then some { s with shutDown := .halt .pollEQ wait } else none
  | .shutDownNext =>
      match s.shutDown with
      | .halt name true => some { s.haltThread name with shutDown := .join name }
      | .halt name false => some { s.haltThread name with shutDown := afterThread name false }
      | .join name =>
          if (s.threads name).place = .ended then
            some { s with shutDown := afterThread name true }
          else none
      | _ => none
  | .move name m =>
      -- only the interval-retry thread builds a task before it is due
      if m = .task false ∧ name ≠ .pollIntervalRetry then none
      else ((s.threads name).run (s.dependentHasExecutedOnce name) m).map (s.set name)

/-- The thread begins a wait though it is halted. -/
def WaitsHalted (s : PollTaskScheduler) (a : ThreadAction) : Prop :=
  ∃ name m s', a = .move name m ∧ s.step a = some s' ∧ (s.threads name).halted = true ∧
    (s.threads name).place.isWait = false ∧ (s'.threads name).place.isWait = true

/-- A halted thread that looks for its dependent thread finds that it has executed once. -/
def FindsExecuted (s : PollTaskScheduler) (a : ThreadAction) : Prop :=
  ∀ name, a = .move name .next → (s.threads name).halted = true →
    (s.threads name).place = .testDependent → s.dependentHasExecutedOnce name ≠ some false

/-- Whether the action is a move of the thread. -/
def moves (name : SchedulerName) : ThreadAction → Nat
  | .move n _ => if n = name then 1 else 0
  | _ => 0

/-- Whatever happens from here, the thread has ended once it has made some number of moves, and it
can make them: a `join` is not blocked by its loops. -/
def Ends (s : PollTaskScheduler) (name : SchedulerName) : Prop :=
  ∃ n, ∀ tr s', Run (stepOf step) s tr s' → total (fun _ => moves name) tr ≤ n ∧
    ((s'.threads name).place ≠ .ended → ∃ m s₁, s'.step (.move name m) = some s₁)

/-- The thread waits for a thread that has ended, and has not executed once. -/
def Stuck (s : PollTaskScheduler) (name : SchedulerName) : Prop :=
  (s.threads name).place.isDependent = true ∧
    ∃ d, name.dependent = some d ∧ (s.threads d).place = .ended ∧
      (s.threads d).hasExecutedOnce = false

variable {s s' : PollTaskScheduler} {a : ThreadAction} {name d : SchedulerName}

/-! ### What a step can do -/

/-- The thread is where it was, and has executed once if it had; once halted it is halted. -/
structure Stays (name : SchedulerName) (s s' : PollTaskScheduler) : Prop where
  place : (s'.threads name).place = (s.threads name).place
  hasExecutedOnce : (s'.threads name).hasExecutedOnce = (s.threads name).hasExecutedOnce
  halted : (s.threads name).halted = true → (s'.threads name).halted = true

/-- What pauses or halts a thread does not move one. -/
theorem stays_set {n : SchedulerName} {th : PollTaskSchedulerThread}
    (hplace : th.place = (s.threads n).place)
    (hexecuted : th.hasExecutedOnce = (s.threads n).hasExecutedOnce)
    (hhalted : (s.threads n).halted = true → th.halted = true) : Stays name s (s.set n th) := by
  by_cases he : name = n
  · subst he
    have hth : (s.set name th).threads name = th := Function.update_self ..
    constructor
    · rw [hth, hplace]
    · rw [hth, hexecuted]
    · rwa [hth]
  · have hth : (s.set n th).threads name = s.threads name := Function.update_of_ne he ..
    constructor
    · rw [hth]
    · rw [hth]
    · rw [hth]
      exact id

/-- A thread makes a move, or stays. -/
theorem threads_inv (h : s.step a = some s') (name : SchedulerName) :
    (∃ m, a = .move name m ∧
        (s.threads name).run (s.dependentHasExecutedOnce name) m = some (s'.threads name)) ∨
      (∀ m, a ≠ .move name m) ∧ Stays name s s' := by
  cases a with
  | togglePause n pause =>
      cases h
      exact .inr ⟨by simp, stays_set rfl rfl id⟩
  | halt n =>
      cases h
      exact .inr ⟨by simp, stays_set rfl rfl fun _ => rfl⟩
  | shutDown wait =>
      simp only [step] at h
      split at h
      · cases h
        exact .inr ⟨by simp, rfl, rfl, id⟩
      · cases h
  | shutDownNext =>
      refine .inr ⟨by simp, ?_⟩
      have hhalt : ∀ n, Stays name s (s.haltThread n) := fun n => stays_set rfl rfl fun _ => rfl
      simp only [step] at h
      split at h
      · cases h
        exact ⟨(hhalt _).place, (hhalt _).hasExecutedOnce, (hhalt _).halted⟩
      · cases h
        exact ⟨(hhalt _).place, (hhalt _).hasExecutedOnce, (hhalt _).halted⟩
      · split at h
        · cases h
          exact ⟨rfl, rfl, id⟩
        · cases h
      · cases h
  | move n m =>
      simp only [step] at h
      split at h
      · cases h
      · obtain ⟨th, hrun, rfl⟩ := Option.map_eq_some_iff.mp h
        by_cases he : name = n
        · subst he
          rw [show (s.set name th).threads name = th from Function.update_self ..]
          exact .inl ⟨m, rfl, hrun⟩
        · have hth : (s.set n th).threads name = s.threads name := Function.update_of_ne he ..
          refine .inr ⟨fun m' hm => he ?_, hth ▸ rfl, hth ▸ rfl, hth ▸ id⟩
          cases hm
          rfl

/-- A step that is a move of the thread runs it. -/
theorem move_run {m : Move} (h : s.step (.move name m) = some s') :
    (s.threads name).run (s.dependentHasExecutedOnce name) m = some (s'.threads name) := by
  rcases threads_inv h name with ⟨m', hm, hrun⟩ | ⟨hno, -⟩
  · cases hm
    exact hrun
  · exact absurd rfl (hno m)

/-- A thread that was halted stays so. -/
theorem halted_step (h : s.step a = some s') (hh : (s.threads name).halted = true) :
    (s'.threads name).halted = true := by
  rcases threads_inv h name with ⟨m, -, hrun⟩ | ⟨-, hstays⟩
  · rw [(PollTaskSchedulerThread.run_keeps hrun).1, hh]
  · exact hstays.halted hh

/-- A thread that has ended stays as it is. -/
theorem ended_step (h : s.step a = some s') (he : (s.threads name).place = .ended) :
    (s'.threads name).place = .ended ∧
      (s'.threads name).hasExecutedOnce = (s.threads name).hasExecutedOnce := by
  rcases threads_inv h name with ⟨m, -, hrun⟩ | ⟨-, hstays⟩
  · rw [PollTaskSchedulerThread.run_ended he] at hrun
    cases hrun
  · exact ⟨hstays.place.trans he, hstays.hasExecutedOnce⟩

theorem hasExecutedOnce_step (h : s.step a = some s')
    (he : (s.threads name).hasExecutedOnce = true) :
    (s'.threads name).hasExecutedOnce = true := by
  rcases threads_inv h name with ⟨m, -, hrun⟩ | ⟨-, hstays⟩
  · exact (PollTaskSchedulerThread.run_keeps hrun).2 he
  · rw [hstays.hasExecutedOnce, he]

/-- A thread that has not ended can move. -/
theorem can_move (hne : (s.threads name).place ≠ .ended) :
    ∃ m s₁, s.step (.move name m) = some s₁ := by
  obtain ⟨m, th', hrun, hm⟩ :=
    PollTaskSchedulerThread.can_run (s.dependentHasExecutedOnce name) hne
  have hif : ¬ (m = .task false ∧ name ≠ .pollIntervalRetry) := fun hn => hm hn.1
  exact ⟨m, s.set name th', by simp only [step, if_neg hif, hrun, Option.map_some]⟩

/-! ### The order of shutDown -/

/-- While `shutDown(true)` is at a thread, the thread it depends on has ended, and a thread that is
joined is halted. -/
structure Ordered (s : PollTaskScheduler) : Prop where
  halting : ∀ name d, s.shutDown = .halt name true → name.dependent = some d →
    (s.threads d).place = .ended
  joining : ∀ name, s.shutDown = .join name → (s.threads name).halted = true ∧
    ∀ d, name.dependent = some d → (s.threads d).place = .ended

/-- How `shutDown` goes on. -/
theorem shutDown_inv (h : s.step a = some s') : s'.shutDown = s.shutDown ∨
    (∃ wait, s'.shutDown = .halt .pollEQ wait) ∨
    (∃ n, s.shutDown = .halt n true ∧ s'.shutDown = .join n ∧ (s'.threads n).halted = true) ∨
    (∃ n, s'.shutDown = afterThread n false) ∨
    ∃ n, s.shutDown = .join n ∧ (s.threads n).place = .ended ∧
      s'.shutDown = afterThread n true := by
  cases a with
  | togglePause n pause =>
      cases h
      exact .inl rfl
  | halt n =>
      cases h
      exact .inl rfl
  | shutDown wait =>
      simp only [step] at h
      split at h
      · cases h
        exact .inr (.inl ⟨wait, rfl⟩)
      · cases h
  | shutDownNext =>
      simp only [step] at h
      split at h
      · next n hn =>
          cases h
          refine .inr (.inr (.inl ⟨n, hn, rfl, ?_⟩))
          simp only [haltThread, set, Function.update_self]
      · next n hn =>
          cases h
          exact .inr (.inr (.inr (.inl ⟨n, rfl⟩)))
      · next n hn =>
          split at h
          · next he =>
              cases h
              exact .inr (.inr (.inr (.inr ⟨n, hn, he, rfl⟩)))
          · cases h
      · cases h
  | move n m =>
      simp only [step] at h
      split at h
      · cases h
      · obtain ⟨th, -, rfl⟩ := Option.map_eq_some_iff.mp h
        exact .inl rfl

/-- A step keeps `shutDown` in the order of the threads. -/
theorem Ordered.step (h : s.step a = some s') (ho : s.Ordered) : s'.Ordered := by
  rcases shutDown_inv h with he | ⟨wait, he⟩ | ⟨n, hn, he, hhalted⟩ | ⟨n, he⟩ | ⟨n, hn, hended, he⟩
  · refine ⟨fun name d hs hd => ?_, fun name hs => ?_⟩
    · exact (ended_step h (ho.halting name d (he ▸ hs) hd)).1
    · obtain ⟨hhalted, hdep⟩ := ho.joining name (he ▸ hs)
      exact ⟨halted_step h hhalted, fun d hd => (ended_step h (hdep d hd)).1⟩
  · refine ⟨fun name d hs hd => ?_, fun name hs => ?_⟩
    · rw [he] at hs
      cases hs
      cases hd
    · rw [he] at hs
      cases hs
  · refine ⟨fun name d hs hd => ?_, fun name hs => ?_⟩
    · rw [he] at hs
      cases hs
    · rw [he] at hs
      cases hs
      exact ⟨hhalted, fun d hd => (ended_step h (ho.halting n d hn hd)).1⟩
  · refine ⟨fun name d hs hd => ?_, fun name hs => ?_⟩
    · rw [he] at hs
      cases n <;> cases hs
    · rw [he] at hs
      cases n <;> cases hs
  · refine ⟨fun name d hs hd => ?_, fun name hs => ?_⟩
    · -- the next thread depends on none but the one that was joined
      rw [he] at hs
      cases n <;> cases hs <;> cases hd
      exact (ended_step h hended).1
    · rw [he] at hs
      cases n <;> cases hs

theorem ordered_initial : initial.Ordered := by
  refine ⟨fun name d hs => ?_, fun name hs => ?_⟩
  · cases hs
  · cases hs

/-! ### Joins -/

namespace Stuck

/-- A thread that is stuck stays so. -/
theorem step (h : s.step a = some s') (hs : s.Stuck name) : s'.Stuck name := by
  obtain ⟨hplace, d, hd, hended, hexecuted⟩ := hs
  obtain ⟨hended', hexecuted'⟩ := ended_step h hended
  refine ⟨?_, d, hd, hended', hexecuted'.trans hexecuted⟩
  rcases threads_inv h name with ⟨m, -, hrun⟩ | ⟨-, hstays⟩
  · -- the dependent thread has ended, so its loop goes round again
    have hdep : s.dependentHasExecutedOnce name = some false := by
      simp only [dependentHasExecutedOnce, hd, Option.map_some, hexecuted]
    rw [hdep] at hrun
    exact PollTaskSchedulerThread.run_dependent hrun hplace
  · rw [hstays.place]
    exact hplace

/-- It goes round in its loop. -/
theorem unbounded (hs : s.Stuck name) (n : Nat) :
    ∃ tr s', Run (stepOf PollTaskScheduler.step) s tr s' ∧
      total (fun _ => moves name) tr = n := by
  induction n generalizing s with
  | zero => exact ⟨[], s, .nil s, rfl⟩
  | succ n ih =>
      have hne : (s.threads name).place ≠ .ended := by
        intro hp
        have hdep := hs.1
        rw [hp] at hdep
        cases hdep
      obtain ⟨m, s₁, hstep⟩ := can_move hne
      obtain ⟨tr, s', hrun, htotal⟩ := ih (step hstep hs)
      refine ⟨_, s', .cons hstep hrun, ?_⟩
      rw [total_cons, htotal, moves, if_pos rfl, Nat.add_comm]

/-- A thread that is stuck never ends. -/
theorem not_ends (hs : s.Stuck name) : ¬ s.Ends name := by
  rintro ⟨n, hends⟩
  obtain ⟨tr, s', hrun, htotal⟩ := hs.unbounded (n + 1)
  have hle : total (fun _ => moves name) tr ≤ n := (hends tr s' hrun).1
  omega

end Stuck

/-- A halted thread whose dependent thread has executed once, if it waits for one. -/
structure Noticing (name : SchedulerName) (s : PollTaskScheduler) : Prop where
  halted : (s.threads name).halted = true
  executed : (s.threads name).place.isDependent = true →
    s.dependentHasExecutedOnce name ≠ some false

namespace Noticing

/-- A thread that was halted, and waits for nothing that will not come, notices it. -/
theorem of_not_stuck (hh : (s.threads name).halted = true)
    (hd : ∀ d, name.dependent = some d → (s.threads d).place = .ended) (hs : ¬ s.Stuck name) :
    Noticing name s := by
  refine ⟨hh, fun hplace hfalse => hs ⟨hplace, ?_⟩⟩
  obtain ⟨d, hdep, hexecuted⟩ := Option.map_eq_some_iff.mp hfalse
  exact ⟨d, hdep, hd d hdep, hexecuted⟩

/-- A thread that notices keeps to its way to the end. -/
theorem step (h : s.step a = some s') (hn : Noticing name s) : Noticing name s' := by
  refine ⟨halted_step h hn.halted, fun hplace hfalse => ?_⟩
  have hplace' : (s.threads name).place.isDependent = true := by
    rcases threads_inv h name with ⟨m, -, hrun⟩ | ⟨-, hstays⟩
    · exact (PollTaskSchedulerThread.run_toEnd hrun hn.halted hn.executed).2 hplace
    · rwa [← hstays.place]
  obtain ⟨d, hdep, hexecuted⟩ := Option.map_eq_some_iff.mp hfalse
  refine hn.executed hplace' (Option.map_eq_some_iff.mpr ⟨d, hdep, ?_⟩)
  cases he : (s.threads d).hasExecutedOnce with
  | false => rfl
  | true =>
      rw [hasExecutedOnce_step h he] at hexecuted
      cases hexecuted

/-- Each move of the thread brings it nearer to its end. -/
theorem toEnd_step (h : s.step a = some s') (hn : Noticing name s) :
    (s'.threads name).place.toEnd + moves name a ≤ (s.threads name).place.toEnd := by
  rcases threads_inv h name with ⟨m, rfl, hrun⟩ | ⟨hno, hstays⟩
  · rw [moves, if_pos rfl]
    exact (PollTaskSchedulerThread.run_toEnd hrun hn.halted hn.executed).1
  · have hmoves : moves name a = 0 := by
      cases a with
      | move n m =>
          refine if_neg fun he => hno m ?_
          rw [he]
      | _ => rfl
    rw [hstays.place, hmoves]
    exact Nat.le_refl _

/-- A thread that notices the halt ends. -/
theorem ends (hn : Noticing name s) : s.Ends name := by
  refine ⟨(s.threads name).place.toEnd, fun tr s' hrun => ⟨?_, can_move⟩⟩
  have hbound := hrun.bounded (V := fun s => (s.threads name).place.toEnd)
    (fun _ _ _ hs hn => step hs hn) (fun _ _ _ hs hn => toEnd_step hs hn) hn
  omega

end Noticing

/-- The thread that is joined ends exactly if it is not stuck. -/
theorem ends_iff (ho : s.Ordered) (hjoin : s.shutDown = .join name) :
    s.Ends name ↔ ¬ s.Stuck name := by
  obtain ⟨hhalted, hdep⟩ := ho.joining name hjoin
  constructor
  · exact fun hends hstuck => hstuck.not_ends hends
  · exact fun hstuck => (Noticing.of_not_stuck hhalted hdep hstuck).ends

/-! ### Halting is noticed -/

/-- What a halted thread must not find. -/
theorem not_waitsHalted_iff (h : s.step a = some s') : ¬ s.WaitsHalted a ↔ s.FindsExecuted a := by
  constructor
  · rintro hwaits name rfl hhalted hplace hfalse
    obtain ⟨hnot, hwait⟩ := (PollTaskSchedulerThread.begins_wait_iff (move_run h) hhalted).mpr
      ⟨rfl, hplace, hfalse⟩
    exact hwaits ⟨name, .next, s', rfl, h, hhalted, hnot, hwait⟩
  · rintro hfinds ⟨name, m, s₁, rfl, hstep, hhalted, hbegins⟩
    obtain ⟨rfl, hplace, hfalse⟩ :=
      (PollTaskSchedulerThread.begins_wait_iff (move_run hstep) hhalted).mp hbegins
    exact hfinds name rfl hhalted hplace hfalse

/-- **Halting**: no halted thread begins a wait, in the runs in which no halted thread looks for a
dependent thread that has not executed once; and no loop blocks a join, unless its thread waits for
one that has ended without executing once. -/
theorem halting_run {tr : List (PollTaskScheduler × ThreadAction)}
    (h : Run (stepOf PollTaskScheduler.step) initial tr s) :
    ((∀ p ∈ tr, ¬ p.1.WaitsHalted p.2) ↔ ∀ p ∈ tr, p.1.FindsExecuted p.2) ∧
      ∀ name, s.shutDown = .join name → (s.Ends name ↔ ¬ s.Stuck name) := by
  have hstep : ∀ s a s', stepOf PollTaskScheduler.step s a s' → Ordered s → Ordered s' :=
    fun _ _ _ hs ho => Ordered.step hs ho
  refine ⟨forall₂_congr fun p hp => ?_, fun name hjoin => ?_⟩
  · obtain ⟨-, s₁, hs⟩ := h.forall_mem hstep ordered_initial p hp
    exact not_waitsHalted_iff hs
  · exact ends_iff (h.invariant hstep ordered_initial) hjoin

/-- The exception-queue thread finds nothing to do; then `shutDown(true)` comes to the house keeper,
which is paused. -/
def shutDownPaused : List ThreadAction :=
  [.togglePause .pollEQ false, .move .pollEQ .next, .move .pollEQ .next, .move .pollEQ .nothingToDo,
    .move .pollEQ .next, .move .pollEQ .next, .move .houseKeep .next, .move .houseKeep .next,
    .move .houseKeep .next, .shutDown true, .shutDownNext, .move .pollEQ .wake, .move .pollEQ .next,
    .shutDownNext, .shutDownNext]

/-- The house keeper is halted while it is paused, and ends. -/
theorem halting_run_sample : ∃ s, exec PollTaskScheduler.step initial shutDownPaused = some s ∧
    s.shutDown = .join .houseKeep ∧ (s.threads .houseKeep).place = .waitPause ∧
    s.Ends .houseKeep := by
  obtain ⟨s, hs⟩ : ∃ s, exec PollTaskScheduler.step initial shutDownPaused = some s := ⟨_, rfl⟩
  have hjoin : s.shutDown = .join .houseKeep := by
    cases hs
    rfl
  have hplace : (s.threads .houseKeep).place = .waitPause := by
    cases hs
    rfl
  refine ⟨s, hs, hjoin, hplace, ((halting_run (Run.of_exec hs)).2 .houseKeep hjoin).mpr ?_⟩
  rintro ⟨hdep, -⟩
  rw [hplace] at hdep
  cases hdep

/-- `shutDown(true)`, of a scheduler that has not been started. -/
def shutDownUnstarted : List ThreadAction :=
  [.move .houseKeep .next, .move .houseKeep .next, .shutDown true, .shutDownNext,
    .move .pollEQ .next, .shutDownNext, .shutDownNext, .move .houseKeep .wake]

/-- The exception-queue thread ends without executing once.  The house keeper looks for it, halted,
and waits; `shutDown` never comes back. -/
theorem never_joined : ∃ tr s, Run (stepOf PollTaskScheduler.step) initial tr s ∧
    (∃ p ∈ tr, p.1.WaitsHalted p.2) ∧ s.shutDown = .join .houseKeep ∧ ¬ s.Ends .houseKeep := by
  obtain ⟨s, hs⟩ : ∃ s, exec PollTaskScheduler.step initial shutDownUnstarted = some s := ⟨_, rfl⟩
  obtain ⟨s', hs'⟩ : ∃ s', s.step (.move .houseKeep .next) = some s' := by
    cases hs
    exact ⟨_, rfl⟩
  have hwaits : s.WaitsHalted (.move .houseKeep .next) := by
    cases hs
    cases hs'
    exact ⟨.houseKeep, .next, _, rfl, rfl, rfl, rfl, rfl⟩
  have hstuck : s'.Stuck .houseKeep := by
    cases hs
    cases hs'
    exact ⟨rfl, .pollEQ, rfl, rfl, rfl⟩
  refine ⟨_, s', (Run.of_exec hs).trans (Run.one hs'),
    ⟨(s, .move .houseKeep .next), ?_, hwaits⟩, ?_, hstuck.not_ends⟩
  · exact List.mem_append_right _ (List.mem_singleton_self _)
  · cases hs
    cases hs'
    rfl

end PollTaskScheduler

end MRF.Center
