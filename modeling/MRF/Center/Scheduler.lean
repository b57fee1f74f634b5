import Mathlib.Logic.Function.Basic
import Mathlib.Order.Basic
import MRF.Center.State

/-!
# Center — Scheduler

The threads of `PollTaskScheduler`, statement by statement: the exception-queue thread and the
house keeper in `PollTaskSchedulerThread.run`, their `constructPollTask` methods, and the workers
of their pools.  `MRF.Center.State` has the same threads as parts of the center, without the run
loop: here a thread can be paused and halted, a receive or a read can fail, and a house keeper
waits for the permit.

Whoever else uses the tables may change them at any time (`write`).  `SimpleThreadPool` is not
shut down here: `halt` is about a thread.
-/

namespace MRF.Center
open MRF.Library

variable {B : Type} [BusinessMsg B]

/-! ### The run loop -/

/-- Where a thread is in `run`.  `σ` says where it is in its `constructPollTask`; a poll task is
the list of its records or messages, empty also when there is none. -/
inductive Position (σ τ : Type) where
  /-- `while(!halted.get())`. -/
  | loop
  /-- Waits for the dependent thread to have executed once. -/
  | waitForDependent
  /-- Waits until it is not paused. -/
  | pause
  /-- In `blockForAvailableThreads`. -/
  | block
  | construct (c : σ)
  | constructed (task : List τ)
  /-- `goAhead = !halted.get()`. -/
  | goAhead (task : List τ)
  /-- In `runInThread`. -/
  | handOver (task : List τ)
  /-- In `signalHasExecutedOnce`; whether the thread then waits idly. -/
  | signal (idle : Bool)
  | idle
  | ended

/-- The task that a thread has built and not handed over. -/
@[simp] def Position.task {σ τ : Type} : Position σ τ → List τ
  | .constructed task => task
  | .goAhead task => task
  | .handOver task => task
  | _ => []

/-- A `PollTaskSchedulerThread`.  For the two kinds of thread here `hasReachTaskExecuteTime` is
`true`. -/
structure SchedulerThread (σ τ : Type) where
  position : Position σ τ
  paused : Bool
  halted : Bool
  hasExecutedOnce : Bool

namespace SchedulerThread

variable {σ τ : Type}

/-- A thread that has been started. -/
def initial : SchedulerThread σ τ := ⟨.loop, true, false, false⟩

def goTo (th : SchedulerThread σ τ) (p : Position σ τ) : SchedulerThread σ τ :=
  { th with position := p }

@[simp] theorem goTo_position (th : SchedulerThread σ τ) (p : Position σ τ) :
    (th.goTo p).position = p := rfl

/-- The steps of `run` that need nothing but the fields of the thread. -/
def advance (dependentHasExecutedOnce : Bool) (th : SchedulerThread σ τ) :
    Option (SchedulerThread σ τ) :=
  match th.position with
  | .loop => some (th.goTo (if th.halted then .ended else .waitForDependent))
  | .waitForDependent => if dependentHasExecutedOnce then some (th.goTo .pause) else none
  | .pause =>
      if th.halted then some (th.goTo .ended)
      else if th.paused then none
      else some (th.goTo .block)
  | .constructed task => some (th.goTo (if task.isEmpty then .signal true else .goAhead task))
  | .goAhead task => some (th.goTo (if th.halted then .signal false else .handOver task))
  | .signal idle =>
      some { th with hasExecutedOnce := true, position := if idle then .idle else .loop }
  | .idle => some (th.goTo .loop)
  | _ => none

variable {dep : Bool} {th th' : SchedulerThread σ τ}

/-- What `advance` does, by the place of the thread. -/
inductive Advanced (dep : Bool) (th : SchedulerThread σ τ) : SchedulerThread σ τ → Prop where
  | loop (hp : th.position = .loop) :
      Advanced dep th (th.goTo (if th.halted then .ended else .waitForDependent))
  | waitForDependent (hp : th.position = .waitForDependent) (hd : dep = true) :
      Advanced dep th (th.goTo .pause)
  | halted (hp : th.position = .pause) (hh : th.halted = true) : Advanced dep th (th.goTo .ended)
  | unpaused (hp : th.position = .pause) (hh : th.halted = false) (hn : th.paused = false) :
      Advanced dep th (th.goTo .block)
  | noTask (hp : th.position = .constructed []) : Advanced dep th (th.goTo (.signal true))
  | task {task : List τ} (hp : th.position = .constructed task) (ht : task ≠ []) :
      Advanced dep th (th.goTo (.goAhead task))
  | dropped {task : List τ} (hp : th.position = .goAhead task) (hh : th.halted = true) :
      Advanced dep th (th.goTo (.signal false))
  | goAhead {task : List τ} (hp : th.position = .goAhead task) (hh : th.halted = false) :
      Advanced dep th (th.goTo (.handOver task))
  | signal {idle : Bool} (hp : th.position = .signal idle) :
      Advanced dep th { th with
        hasExecutedOnce := true, position := if idle then .idle else .loop }
  | idle (hp : th.position = .idle) : Advanced dep th (th.goTo .loop)

theorem advance_advanced (h : th.advance dep = some th') : Advanced dep th th' := by
  unfold advance at h
  split at h
  · next hp => cases h; exact .loop hp
  · next hp =>
      split at h
      · next hd => cases h; exact .waitForDependent hp hd
      · cases h
  · next hp =>
      split at h
      · next hh => cases h; exact .halted hp hh
      · next hh =>
          split at h
          · cases h
          · next hn =>
              cases h
              exact .unpaused hp (Bool.eq_false_of_not_eq_true hh)
                (Bool.eq_false_of_not_eq_true hn)
  · next task hp =>
      cases h
      cases task with
      | nil => exact .noTask hp
      | cons r rows => exact .task hp (List.cons_ne_nil r rows)
  · next task hp =>
      cases h
      cases hh : th.halted with
      | true => exact .dropped hp hh
      | false => exact .goAhead hp hh
  · next idle hp => cases h; exact .signal hp
  · next hp => cases h; exact .idle hp
  · cases h

/-- A thread that is not halted keeps its task until it hands it over. -/
theorem Advanced.task_eq (h : Advanced dep th th') (hn : th.halted = false) :
    th'.position.task = th.position.task := by
  cases h with
  | loop hp => rw [hp, hn]; rfl
  | dropped hp hh => rw [hn] at hh; cases hh
  | @signal idle hp => rw [hp]; cases idle <;> rfl
  | waitForDependent hp | unpaused hp | noTask hp | task hp | goAhead hp | idle hp => rw [hp]; rfl
  | halted hp => rw [hp]; rfl

theorem Advanced.not_construct (h : Advanced dep th th') (c : σ) : th'.position ≠ .construct c := by
  cases h with
  | @loop hp => cases hh : th.halted <;> simp [goTo]
  | @signal idle hp => cases idle <;> simp
  | _ => simp [goTo]

theorem Advanced.halted_eq (h : Advanced dep th th') : th'.halted = th.halted := by
  cases h <;> rfl

end SchedulerThread

/-! ### The state -/

/-- Where a house keeper is in `constructPollTask`. -/
inductive HouseKeepConstruct (B : Type) where
  | read
  /-- Waits for the permit of `coordinateSignal`. -/
  | acquire (rows : List (IntervalRetry B))

/-- How the read of a house keeper ends. -/
inductive ReadOutcome where
  | returns
  | daoException
  | runtimeException
  deriving DecidableEq, Repr

/-- The configuration of the center, with the sizes of its pools. -/
structure SchedulerConfig extends MRFServerConfig where
  eqPollThreadCount : Nat
  houseKeepThreadCount : Nat

/-- The three threads of the scheduler, with their pools and what they share. -/
structure Scheduler (B : Type) where
  pollEQ : SchedulerThread (List (RetryMessage B)) (RetryMessage B)
  houseKeep : SchedulerThread (HouseKeepConstruct B) (IntervalRetry B)
  exceptionQueue : List (RetryMessage B)
  /-- What the workers of the exception-queue pool have left; nothing when they are available. -/
  eqWorkers : Nat → List (RetryMessage B)
  /-- The batches of the workers of the house keeper's pool. -/
  houseKeepWorkers : Nat → List (IntervalRetry B)
  /-- The permits of `coordinateSignal`. -/
  coordinateSignal : Nat
  tables : Tables B

/-- What is done to the scheduler, and what its threads do. -/
inductive SchedulerAction (B : Type) where
  /-- A client sends a message to the exception queue. -/
  | send (m : RetryMessage B)
  | write (t : Tables B)
  | togglePauseEQ (pause : Bool)
  | togglePauseHouseKeep (pause : Bool)
  | haltEQ
  | haltHouseKeep
  | advanceEQ
  | advanceHouseKeep
  /-- `blockForAvailableThreads` finds the worker `w` available. -/
  | startEQ (w : Nat)
  | startHouseKeep (w : Nat)
  /-- `receiveAndConvert`; an empty queue ends the drain. -/
  | receive
  | receiveFails
  | readHouseKeep (now : Datetime) (outcome : ReadOutcome)
  | acquire (interrupted : Bool)
  | handOverEQ (w : Nat)
  | handOverHouseKeep (w : Nat)
  /-- A worker handles its next message.  `proxyThrows`: a `RuntimeException` comes out of the
  transactional proxy that is not a `DAOException`. -/
  | executeEQ (w : Nat) (e : Env) (proxyThrows : Bool)
  /-- A worker moves its batch. -/
  | moveHouseKeep (w : Nat) (now : Datetime) (faults : List Bool) (proxyThrows : Bool)

namespace Scheduler

omit [BusinessMsg B] in
/-- After `initialize`. -/
def initial (exceptionQueue : List (RetryMessage B)) (tables : Tables B) : Scheduler B :=
  { pollEQ := .initial, houseKeep := .initial, exceptionQueue, eqWorkers := fun _ => [],
    houseKeepWorkers := fun _ => [], coordinateSignal := 1, tables }

/-! ### Steps -/

omit [BusinessMsg B] in
/-- A worker is available, and the exception-queue thread constructs a task. -/
def startEQ (cfg : SchedulerConfig) (s : Scheduler B) (w : Nat) : Option (Scheduler B) :=
  match s.pollEQ.position with
  | .block =>
      if w < cfg.eqPollThreadCount ∧ s.eqWorkers w = [] then
        some { s with pollEQ := s.pollEQ.goTo (.construct []) }
      else none
  | _ => none

/-- A worker is available, and the house keeper constructs a task. -/
def startHouseKeep (cfg : SchedulerConfig) (s : Scheduler B) (w : Nat) : Option (Scheduler B) :=
  match s.houseKeep.position with
  | .block =>
      if w < cfg.houseKeepThreadCount ∧ s.houseKeepWorkers w = [] then
        some { s with houseKeep := s.houseKeep.goTo (.construct .read) }
      else none
  | _ => none

/-- A turn of the `while` loop of `PollEQTaskSchedulerThread.constructPollTask`. -/
def receive (s : Scheduler B) : Option (Scheduler B) :=
  match s.pollEQ.position, s.exceptionQueue with
  | .construct retryMessages, [] =>
      some { s with pollEQ := s.pollEQ.goTo (.constructed retryMessages) }
  | .construct retryMessages, m :: queue =>
      some { s with
        pollEQ := s.pollEQ.goTo (.construct (retryMessages ++ [m]))
        exceptionQueue := queue }
  | _, _ => none

/-- The exception is logged, and the task has what was received before it. -/
def receiveFails (s : Scheduler B) : Option (Scheduler B) :=
  match s.pollEQ.position with
  | .construct retryMessages =>
      some { s with pollEQ := s.pollEQ.goTo (.constructed retryMessages) }
  | _ => none

/-- Where a house keeper goes from its read.  The null that the DAO answers on a threshold that is
not positive raises at `isEmpty()`. -/
def afterRead (cfg : SchedulerConfig) (s : Scheduler B) (now : Datetime) (outcome : ReadOutcome) :
    Position (HouseKeepConstruct B) (IntervalRetry B) :=
  match outcome with
  | .returns =>
      match IntervalRetryDAO.getIntervalRetriesOutOfThreshold cfg.clock now
        cfg.houseKeepCheckoutTimeThreshold s.tables with
      | none => .loop
      | some [] => .constructed []
      | some (r :: rows) => .construct (.acquire (r :: rows))
  | .daoException => .constructed []
  | .runtimeException => .loop

/-- The house keeper reads the expired rows. -/
def readHouseKeep (cfg : SchedulerConfig) (s : Scheduler B) (now : Datetime)
    (outcome : ReadOutcome) : Option (Scheduler B) :=
  match s.houseKeep.position with
  | .construct .read =>
      some { s with houseKeep := s.houseKeep.goTo (s.afterRead cfg now outcome) }
  | _ => none

/-- An interrupt is swallowed, and the thread goes on without the permit. -/
def acquire (s : Scheduler B) (interrupted : Bool) : Option (Scheduler B) :=
  match s.houseKeep.position with
  | .construct (.acquire rows) =>
      if interrupted then some { s with houseKeep := s.houseKeep.goTo (.constructed rows) }
      else
        match s.coordinateSignal with
        | 0 => none
        | permits + 1 =>
            some { s with
              houseKeep := s.houseKeep.goTo (.constructed rows)
              coordinateSignal := permits }
  | _ => none

/-- The exception-queue thread hands its batch to a worker. -/
def handOverEQ (cfg : SchedulerConfig) (s : Scheduler B) (w : Nat) : Option (Scheduler B) :=
  match s.pollEQ.position with
  | .handOver task =>
      if w < cfg.eqPollThreadCount ∧ s.eqWorkers w = [] then
        some { s with
          pollEQ := s.pollEQ.goTo (.signal false)
          eqWorkers := Function.update s.eqWorkers w task }
      else none
  | _ => none

/-- The house keeper hands its batch to a worker. -/
def handOverHouseKeep (cfg : SchedulerConfig) (s : Scheduler B) (w : Nat) : Option (Scheduler B) :=
  match s.houseKeep.position with
  | .handOver task =>
      if w < cfg.houseKeepThreadCount ∧ s.houseKeepWorkers w = [] then
        some { s with
          houseKeep := s.houseKeep.goTo (.signal false)
          houseKeepWorkers := Function.update s.houseKeepWorkers w task }
      else none
  | _ => none

/-- Whether the service returns on a message of the exception queue. -/
def handlerReturns (e : Env) (proxyThrows : Bool) (m : RetryMessage B) (t : Tables B) : Bool :=
  !proxyThrows &&
    (Dao.transactional (PollEQTaskSchedulerThread.handle e m) e.faults t).1.isOk

/-- What the service throws is logged, and the worker goes on with its next message. -/
def executeEQ (s : Scheduler B) (w : Nat) (e : Env) (proxyThrows : Bool) :
    Option (Scheduler B) :=
  match s.eqWorkers w with
  | [] => none
  | m :: ms =>
      some { s with
        tables :=
          if proxyThrows then s.tables else PollEQTaskSchedulerThread.handled e m s.tables
        eqWorkers := Function.update s.eqWorkers w ms }

/-- `doHouseKeep` for a batch, in its transaction. -/
def houseKept (now : Datetime) (faults : List Bool) (rows : List (IntervalRetry B))
    (t : Tables B) : Tables B :=
  (Dao.transactional (JoinDAO.doHouseKeep now (rows.map State.constructRecover)
    (rows.map fun cur => cur.msgID)) faults t).2

/-- A `DAOException` is caught, and the permit is released after it as after a normal return. -/
def moveHouseKeep (s : Scheduler B) (w : Nat) (now : Datetime) (faults : List Bool)
    (proxyThrows : Bool) : Option (Scheduler B) :=
  match s.houseKeepWorkers w with
  | [] => none
  | r :: rows =>
      if proxyThrows then
        some { s with houseKeepWorkers := Function.update s.houseKeepWorkers w [] }
      else
        some { s with
          tables := houseKept now faults (r :: rows) s.tables
          houseKeepWorkers := Function.update s.houseKeepWorkers w []
          coordinateSignal := s.coordinateSignal + 1 }

/-- One step of the scheduler. -/
def step (cfg : SchedulerConfig) (s : Scheduler B) : SchedulerAction B → Option (Scheduler B)
  | .send m => some { s with exceptionQueue := s.exceptionQueue ++ [m] }
  | .write t => some { s with tables := t }
  | .togglePauseEQ pause => some { s with pollEQ := { s.pollEQ with paused := pause } }
  | .togglePauseHouseKeep pause => some { s with houseKeep := { s.houseKeep with paused := pause } }
  | .haltEQ => some { s with pollEQ := { s.pollEQ with halted := true } }
  | .haltHouseKeep => some { s with houseKeep := { s.houseKeep with halted := true } }
  | .advanceEQ => (s.pollEQ.advance true).map fun th => { s with pollEQ := th }
  | .advanceHouseKeep =>
      (s.houseKeep.advance s.pollEQ.hasExecutedOnce).map fun th => { s with houseKeep := th }
  | .startEQ w => s.startEQ cfg w
  | .startHouseKeep w => s.startHouseKeep cfg w
  | .receive => s.receive
  | .receiveFails => s.receiveFails
  | .readHouseKeep now outcome => s.readHouseKeep cfg now outcome
  | .acquire interrupted => s.acquire interrupted
  | .handOverEQ w => s.handOverEQ cfg w
  | .handOverHouseKeep w => s.handOverHouseKeep cfg w
  | .executeEQ w e proxyThrows => s.executeEQ w e proxyThrows
  | .moveHouseKeep w now faults proxyThrows => s.moveHouseKeep w now faults proxyThrows

variable {cfg : SchedulerConfig} {s s' : Scheduler B} {a : SchedulerAction B}

/-- The enabled actions of a state, each with the state it leads to. -/
inductive Stepped (cfg : SchedulerConfig) (s : Scheduler B) :
    SchedulerAction B → Scheduler B → Prop where
  | send (m : RetryMessage B) :
      Stepped cfg s (.send m) { s with exceptionQueue := s.exceptionQueue ++ [m] }
  | write (t : Tables B) : Stepped cfg s (.write t) { s with tables := t }
  | togglePauseEQ (pause : Bool) :
      Stepped cfg s (.togglePauseEQ pause) { s with pollEQ := { s.pollEQ with paused := pause } }
  | togglePauseHouseKeep (pause : Bool) :
      Stepped cfg s (.togglePauseHouseKeep pause) { s with
        houseKeep := { s.houseKeep with paused := pause } }
  | haltEQ : Stepped cfg s .haltEQ { s with pollEQ := { s.pollEQ with halted := true } }
  | haltHouseKeep :
      Stepped cfg s .haltHouseKeep { s with houseKeep := { s.houseKeep with halted := true } }
  | advanceEQ {th : SchedulerThread (List (RetryMessage B)) (RetryMessage B)}
      (h : s.pollEQ.Advanced true th) : Stepped cfg s .advanceEQ { s with pollEQ := th }
  | advanceHouseKeep {th : SchedulerThread (HouseKeepConstruct B) (IntervalRetry B)}
      (h : s.houseKeep.Advanced s.pollEQ.hasExecutedOnce th) :
      Stepped cfg s .advanceHouseKeep { s with houseKeep := th }
  | startEQ {w : Nat} (hp : s.pollEQ.position = .block) (hn : w < cfg.eqPollThreadCount)
      (hw : s.eqWorkers w = []) :
      Stepped cfg s (.startEQ w) { s with pollEQ := s.pollEQ.goTo (.construct []) }
  | startHouseKeep {w : Nat} (hp : s.houseKeep.position = .block)
      (hn : w < cfg.houseKeepThreadCount) (hw : s.houseKeepWorkers w = []) :
      Stepped cfg s (.startHouseKeep w) { s with
        houseKeep := s.houseKeep.goTo (.construct .read) }
  | drained {retryMessages : List (RetryMessage B)}
      (hp : s.pollEQ.position = .construct retryMessages) (hq : s.exceptionQueue = []) :
      Stepped cfg s .receive { s with pollEQ := s.pollEQ.goTo (.constructed retryMessages) }
  | received {retryMessages queue : List (RetryMessage B)} {m : RetryMessage B}
      (hp : s.pollEQ.position = .construct retryMessages) (hq : s.exceptionQueue = m :: queue) :
      Stepped cfg s .receive { s with
        pollEQ := s.pollEQ.goTo (.construct (retryMessages ++ [m]))
        exceptionQueue := queue }
  | receiveFails {retryMessages : List (RetryMessage B)}
      (hp : s.pollEQ.position = .construct retryMessages) :
      Stepped cfg s .receiveFails { s with
        pollEQ := s.pollEQ.goTo (.constructed retryMessages) }
  | readHouseKeep {now : Datetime} {outcome : ReadOutcome}
      (hp : s.houseKeep.position = .construct .read) :
      Stepped cfg s (.readHouseKeep now outcome) { s with
        houseKeep := s.houseKeep.goTo (s.afterRead cfg now outcome) }
  | interrupted {rows : List (IntervalRetry B)}
      (hp : s.houseKeep.position = .construct (.acquire rows)) :
      Stepped cfg s (.acquire true) { s with houseKeep := s.houseKeep.goTo (.constructed rows) }
  | acquired {rows : List (IntervalRetry B)} {permits : Nat}
      (hp : s.houseKeep.position = .construct (.acquire rows))
      (hc : s.coordinateSignal = permits + 1) :
      Stepped cfg s (.acquire false) { s with
        houseKeep := s.houseKeep.goTo (.constructed rows)
        coordinateSignal := permits }
  | handOverEQ {w : Nat} {task : List (RetryMessage B)}
      (hp : s.pollEQ.position = .handOver task) (hn : w < cfg.eqPollThreadCount)
      (hw : s.eqWorkers w = []) :
      Stepped cfg s (.handOverEQ w) { s with
        pollEQ := s.pollEQ.goTo (.signal false)
        eqWorkers := Function.update s.eqWorkers w task }
  | handOverHouseKeep {w : Nat} {task : List (IntervalRetry B)}
      (hp : s.houseKeep.position = .handOver task) (hn : w < cfg.houseKeepThreadCount)
      (hw : s.houseKeepWorkers w = []) :
      Stepped cfg s (.handOverHouseKeep w) { s with
        houseKeep := s.houseKeep.goTo (.signal false)
        houseKeepWorkers := Function.update s.houseKeepWorkers w task }
  | executeEQ {w : Nat} {e : Env} {proxyThrows : Bool} {m : RetryMessage B}
      {ms : List (RetryMessage B)} (hw : s.eqWorkers w = m :: ms) :
      Stepped cfg s (.executeEQ w e proxyThrows) { s with
        tables :=
          if proxyThrows then s.tables else PollEQTaskSchedulerThread.handled e m s.tables
        eqWorkers := Function.update s.eqWorkers w ms }
  | proxyThrows {w : Nat} {now : Datetime} {faults : List Bool} {r : IntervalRetry B}
      {rows : List (IntervalRetry B)} (hw : s.houseKeepWorkers w = r :: rows) :
      Stepped cfg s (.moveHouseKeep w now faults true) { s with
        houseKeepWorkers := Function.update s.houseKeepWorkers w [] }
  | moveHouseKeep {w : Nat} {now : Datetime} {faults : List Bool} {r : IntervalRetry B}
      {rows : List (IntervalRetry B)} (hw : s.houseKeepWorkers w = r :: rows) :
      Stepped cfg s (.moveHouseKeep w now faults false) { s with
        tables := houseKept now faults (r :: rows) s.tables
        houseKeepWorkers := Function.update s.houseKeepWorkers w []
        coordinateSignal := s.coordinateSignal + 1 }

theorem step_stepped (h : s.step cfg a = some s') : Stepped cfg s a s' := by
  cases a with
  | send m => cases h; exact .send m
  | write t => cases h; exact .write t
  | togglePauseEQ pause => cases h; exact .togglePauseEQ pause
  | togglePauseHouseKeep pause => cases h; exact .togglePauseHouseKeep pause
  | haltEQ => cases h; exact .haltEQ
  | haltHouseKeep => cases h; exact .haltHouseKeep
  | advanceEQ =>
      obtain ⟨th, hth, rfl⟩ := Option.map_eq_some_iff.mp h
      exact .advanceEQ (SchedulerThread.advance_advanced hth)
  | advanceHouseKeep =>
      obtain ⟨th, hth, rfl⟩ := Option.map_eq_some_iff.mp h
      exact .advanceHouseKeep (SchedulerThread.advance_advanced hth)
  | startEQ w =>
      simp only [step, startEQ] at h
      split at h
      · next hp =>
          split at h
          · next hw => cases h; exact .startEQ hp hw.1 hw.2
          · cases h
      · cases h
  | startHouseKeep w =>
      simp only [step, startHouseKeep] at h
      split at h
      · next hp =>
          split at h
          · next hw => cases h; exact .startHouseKeep hp hw.1 hw.2
          · cases h
      · cases h
  | receive =>
      simp only [step, receive] at h
      split at h
      · next hp hq => cases h; exact .drained hp hq
      · next hp hq => cases h; exact .received hp hq
      · cases h
  | receiveFails =>
      simp only [step, receiveFails] at h
      split at h
      · next hp => cases h; exact .receiveFails hp
      · cases h
  | readHouseKeep now outcome =>
      simp only [step, readHouseKeep] at h
      split at h
      · next hp => cases h; exact .readHouseKeep hp
      · cases h
  | acquire interrupted =>
      simp only [step, acquire] at h
      split at h
      · next hp =>
          cases interrupted with
          | true => cases h; exact .interrupted hp
          | false =>
              simp only [Bool.false_eq_true, if_false] at h
              split at h
              · cases h
              · next hc => cases h; exact .acquired hp hc
      · cases h
  | handOverEQ w =>
      simp only [step, handOverEQ] at h
      split at h
      · next hp =>
          split at h
          · next hw => cases h; exact .handOverEQ hp hw.1 hw.2
          · cases h
      · cases h
  | handOverHouseKeep w =>
      simp only [step, handOverHouseKeep] at h
      split at h
      · next hp =>
          split at h
          · next hw => cases h; exact .handOverHouseKeep hp hw.1 hw.2
          · cases h
      · cases h
  | executeEQ w e proxyThrows =>
      simp only [step, executeEQ] at h
      split at h
      · cases h
      · next hw => cases h; exact .executeEQ hw
  | moveHouseKeep w now faults proxyThrows =>
      simp only [step, moveHouseKeep] at h
      split at h
      · cases h
      · next hw =>
          cases proxyThrows with
          | true => cases h; exact .proxyThrows hw
          | false => cases h; exact .moveHouseKeep hw

omit [BusinessMsg B] in
theorem afterRead_cases (cfg : SchedulerConfig) (s : Scheduler B) (now : Datetime)
    (outcome : ReadOutcome) :
    s.afterRead cfg now outcome = .loop ∨ s.afterRead cfg now outcome = .constructed [] ∨
      ∃ r rows, s.afterRead cfg now outcome = .construct (.acquire (r :: rows)) := by
  unfold afterRead
  cases outcome with
  | returns =>
      dsimp only
      split
      · exact .inl rfl
      · exact .inr (.inl rfl)
      · next r rows _ => exact .inr (.inr ⟨r, rows, rfl⟩)
  | daoException => exact .inr (.inl rfl)
  | runtimeException => exact .inl rfl

omit [BusinessMsg B] in
theorem afterRead_task (cfg : SchedulerConfig) (s : Scheduler B) (now : Datetime)
    (outcome : ReadOutcome) : (s.afterRead cfg now outcome).task = [] := by
  rcases afterRead_cases cfg s now outcome with h | h | ⟨r, rows, h⟩ <;> rw [h] <;> rfl

end Scheduler

/-! ### A sample -/

def SchedulerConfig.sample : SchedulerConfig := ⟨.sample, 1, 1⟩

/-- The center after the row 1 was checked out at the time 0. -/
def checkedOutTables : Tables String :=
  sampleState.tables.setIntervalRetry (sampleState.tables.intervalRetry.update 1
    (IntervalRetryDAO.checkedOut 0) (IntervalRetryDAO.checkedOut_msgID _))

/-- A round of the exception-queue thread from its start, on an empty queue. -/
def emptyRound : List (SchedulerAction String) :=
  [.togglePauseEQ false, .advanceEQ, .advanceEQ, .advanceEQ, .startEQ 0, .receive, .advanceEQ,
    .advanceEQ]

/-- The house keeper comes to the read of its first round. -/
def comesToRead : List (SchedulerAction String) :=
  [.togglePauseHouseKeep false, .advanceHouseKeep, .advanceHouseKeep, .advanceHouseKeep,
    .startHouseKeep 0]

end MRF.Center
