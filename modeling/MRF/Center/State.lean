import Mathlib.Logic.Function.Basic
import Mathlib.Order.Basic
import MRF.Center.ExceptionQueue
import MRF.Center.RecoverService
import MRF.Library.Run

/-!
# Center — State

The center as one machine: the tables, the exception queue and the retry queues, the threads of
`PollTaskScheduler` with their workers, and the requests of the admin page.  Any number of center
instances may share the database, so every kind of thread comes in a family of slots.

A step is one transaction, one queue operation or one hand-over between threads; between two
steps of a thread any other thread may take any number of them.  `State.step` is a function, and
everything the outside decides (clock readings, generated ids, raising statements, which of
several equally urgent rows is read) is in the action.
-/

namespace MRF.Center
open MRF.Library

variable {B : Type} [BusinessMsg B]

/-! ### Configuration -/

/-- How MySQL reads a `DATETIME` as a number, in `CURRENT_TIMESTAMP > (checkout_at + value)`. -/
structure MySqlClock where
  number : Datetime → Int
  mono : ∀ ⦃d d' : Datetime⦄, d ≤ d' → number d ≤ number d'

/-- The settings of `MRFServerConfig` that the model reads. -/
structure MRFServerConfig where
  clock : MySqlClock
  houseKeepCheckoutTimeThreshold : Int64

namespace IntervalRetryDAO

omit [BusinessMsg B] in
/-- The `WHERE` clause of `getIntervalRetriesOutOfThreshold`; `value` is in seconds. -/
def isOutOfThreshold (clock : MySqlClock) (now : Datetime) (value : Int64) (r : IntervalRetry B) :
    Bool :=
  r.retryState = .inRetry &&
    r.checkoutAt.any fun checkoutAt => clock.number checkoutAt + value.toInt < clock.number now

/-- `none` is the null that the DAO answers on a threshold that is not positive. -/
def getIntervalRetriesOutOfThreshold (clock : MySqlClock) (now : Datetime) (timeThreshold : Int64)
    (t : Tables B) : Option (List (IntervalRetry B)) :=
  if timeThreshold ≤ 0 then none
  else some (t.intervalRetry.select (isOutOfThreshold clock now (timeThreshold / 1000)))

/-- `getMostUrgentIntervalRetry(1)` may answer `r`: a first row of the order by `next_exec_at`. -/
def isMostUrgent (t : Tables B) (r : IntervalRetry B) : Bool :=
  r.retryState = .toRetry &&
    (t.intervalRetry.select fun r' => r'.retryState = .toRetry).all fun r' =>
      r.nextExecAt ≤ r'.nextExecAt

end IntervalRetryDAO

/-! ### The state -/

/-- A `PollIntervalRetryTaskSchedulerThread`. -/
inductive Poller (B : Type) where
  | idle
  /-- In `constructPollTask`, with the row it selected. -/
  | selected (r : IntervalRetry B)
  /-- With a poll task, until it is time to hand the task to a worker. -/
  | task (r : IntervalRetry B)

/-- A `HouseKeepSchedulerThread` and its worker.  The worker has the one permit of
`coordinateSignal` as long as it has a batch. -/
structure HouseKeeper (B : Type) where
  /-- The batch that was read, while the thread waits for the permit. -/
  waiting : Option (List (IntervalRetry B))
  running : Option (List (IntervalRetry B))

/-- A request of the admin page on its way. -/
abbrev Request (B : Type) :=
  Activation (RecoverOp B) RecoverOp.Res String (RequestState B)
    (ProcessResult ⊕ BatchProcessResult)

/-- The state of the center. -/
structure State (B : Type) where
  tables : Tables B
  /-- The clock of the database. -/
  currentTimestamp : Datetime
  /-- The ids that `GlobalMessageIdGenerator` has answered. -/
  issued : List Int
  exceptionQueue : List (RetryMessage B)
  /-- The messages that a `PollEQTaskSchedulerThread` has received for its next task. -/
  eqTasks : Nat → List (RetryMessage B)
  /-- What is left of the task of an exception-queue worker. -/
  eqWorkers : Nat → List (RetryMessage B)
  pollers : Nat → Poller B
  /-- The tasks of the interval-retry workers. -/
  workers : Nat → Option (IntervalRetry B)
  houseKeepers : Nat → HouseKeeper B
  requests : Nat → Option (Request B)
  /-- The messages of all retry queues; a message is in the queue it names. -/
  retryQueues : List (RetryMessage B)

/-- What a call reads from outside the center, but for the clock of the database. -/
structure Call where
  currentTimeMillis : Int64
  newId : Int
  faults : List Bool
  deriving DecidableEq, Repr

/-- What the clients, the broker and the threads of the center do. -/
inductive Action (B : Type) where
  /-- The clock of the database goes on. -/
  | tick (seconds : Nat)
  /-- `MRFServiceImpl.process`, called by a client. -/
  | process (c : Call) (m : RetryMessage B)
  /-- A client sends a message to the exception queue. -/
  | failOver (m : RetryMessage B)
  /-- A client sends a message to a retry queue. -/
  | publish (m : RetryMessage B)
  /-- The `n`-th message of the retry queues goes to a client. -/
  | deliver (n : Nat)
  /-- An exception-queue thread receives a message. -/
  | receive (i : Nat)
  /-- An exception-queue thread hands its task to a worker. -/
  | dispatchEQ (i w : Nat)
  /-- An exception-queue worker handles its next message. -/
  | executeEQ (w : Nat) (c : Call)
  /-- `getMostUrgentIntervalRetry` answers the row of `msgID`. -/
  | select (i : Nat) (msgID : Int)
  /-- `checkOutIntervalRetry`. -/
  | checkOut (i : Nat) (raises : Bool)
  /-- A poll thread hands its task to a worker. -/
  | dispatch (i w : Nat)
  /-- A worker sends its task to the retry queue, if it finds a template. -/
  | sendRetry (w : Nat) (found raises : Bool)
  /-- A house keeper reads the rows that are out of the threshold. -/
  | readHouseKeep (h : Nat)
  /-- A house keeper gets the permit, and its worker the batch. -/
  | acquire (h : Nat)
  /-- `doHouseKeep`, and the permit is released. -/
  | moveHouseKeep (h : Nat) (faults : List Bool)
  /-- The three steps of a house keeper, with nothing in between. -/
  | houseKeepRound (faults : List Bool)
  /-- The admin page sends a request. -/
  | request (i : Nat) (request : AdminRequest)
  /-- A request makes its next call. -/
  | requestStep (i : Nat) (raises found : Bool)
  /-- A request answers the page. -/
  | requestEnd (i : Nat)

namespace State

omit [BusinessMsg B] in
/-- A center that has not done anything. -/
def empty : State B :=
  { tables := .empty, currentTimestamp := 0, issued := [], exceptionQueue := [],
    eqTasks := fun _ => [], eqWorkers := fun _ => [], pollers := fun _ => .idle,
    workers := fun _ => none, houseKeepers := fun _ => ⟨none, none⟩, requests := fun _ => none,
    retryQueues := [] }

/-- What a call sees of the world. -/
def env (s : State B) (c : Call) : Env :=
  ⟨c.currentTimeMillis, s.currentTimestamp, c.newId, c.faults⟩

/-- The service asks `GlobalMessageIdGenerator` for an id. -/
def asksForId (m : RetryMessage B) : Bool :=
  match m.messageFlag with
  | .intervalMsgDoRetry => m.msgID ≤ 0
  | .immediateMsgDoRecover => true
  | .msgDirectToRecover => m.msgID ≤ 0
  | _ => false

/-! ### Clients -/

/-- The call of a client. -/
def process (s : State B) (c : Call) (m : RetryMessage B) : State B :=
  { s with
    tables := processed (s.env c) m s.tables
    issued := if asksForId m then c.newId :: s.issued else s.issued }

/-! ### The exception queue -/

/-- The thread takes a message from the exception queue. -/
def receive (s : State B) (i : Nat) : Option (State B) :=
  match s.exceptionQueue with
  | [] => none
  | m :: queue =>
      some { s with
        exceptionQueue := queue
        eqTasks := Function.update s.eqTasks i (s.eqTasks i ++ [m]) }

/-- The batch of a thread becomes the task of a free worker. -/
def dispatchEQ (s : State B) (i w : Nat) : Option (State B) :=
  if s.eqWorkers w = [] then
    some { s with
      eqTasks := Function.update s.eqTasks i []
      eqWorkers := Function.update s.eqWorkers w (s.eqTasks i) }
  else none

/-- The worker handles the next message of its task. -/
def executeEQ (s : State B) (w : Nat) (c : Call) : Option (State B) :=
  match s.eqWorkers w with
  | [] => none
  | m :: ms =>
      some { s with
        tables := PollEQTaskSchedulerThread.handled (s.env c) m s.tables
        issued := if m.messageFlag ≠ .msgDirectToRecover && asksForId m then c.newId :: s.issued
          else s.issued
        eqWorkers := Function.update s.eqWorkers w ms }

/-! ### Interval retry -/

/-- The thread selects the most urgent row. -/
def select (s : State B) (i : Nat) (msgID : Int) : Option (State B) :=
  match s.pollers i, s.tables.intervalRetry.get msgID with
  | .idle, some r =>
      if IntervalRetryDAO.isMostUrgent s.tables r then
        some { s with pollers := Function.update s.pollers i (.selected r) }
      else none
  | _, _ => none

/-- `result` and the tables after the check-out of a row.  `result` is `true` from the start, and
stays so when `checkOutIntervalRetry` throws. -/
def checkOutResult (s : State B) (r : IntervalRetry B) (raises : Bool) : Bool × Tables B :=
  match Dao.transactional
    (IntervalRetryDAO.checkOutIntervalRetry s.currentTimestamp r.msgID) [raises] s.tables with
  | (.ok result, tables) => (result, tables)
  | (.error _, tables) => (true, tables)

/-- The row is checked out, and becomes the task of the thread. -/
def checkOut (s : State B) (i : Nat) (raises : Bool) : Option (State B) :=
  match s.pollers i with
  | .selected r =>
      some { s with
        tables := (s.checkOutResult r raises).2
        pollers := Function.update s.pollers i
          (if (s.checkOutResult r raises).1 then .task r else .idle) }
  | _ => none

/-- The task of a thread becomes that of a free worker. -/
def dispatch (s : State B) (i w : Nat) : Option (State B) :=
  match s.pollers i, s.workers w with
  | .task r, none =>
      some { s with
        pollers := Function.update s.pollers i .idle
        workers := Function.update s.workers w (some r) }
  | _, _ => none

/-- `PollIntervalRetryTaskSchedulerThread.constructRetryMessage`. -/
def constructRetryMessage (r : IntervalRetry B) : RetryMessage B :=
  { msgID := r.msgID, retryQueueName := r.retryQueueName, businessMsg := r.businessMsg,
    retryInterval := r.retryInterval, retriedTimes := r.retriedTimes,
    maxRetryTimes := r.maxRetryTimes, messageFlag := .defaultMsgFlag, isFromRecover := false }

/-- What `convertAndSend` puts on the retry queue of a row: the routing key, and the message. -/
def sentRetry (r : IntervalRetry B) (found raises : Bool) : Option (String × RetryMessage B) :=
  if found && r.retryQueueName ≠ "" && !raises then
    some (r.retryQueueName, constructRetryMessage r)
  else none

omit [BusinessMsg B] in
theorem sentRetry_eq_some {r : IntervalRetry B} {found raises : Bool} {k : String}
    {m : RetryMessage B} (h : sentRetry r found raises = some (k, m)) :
    k = r.retryQueueName ∧ m = constructRetryMessage r := by
  unfold sentRetry at h
  split at h
  · cases h
    exact ⟨rfl, rfl⟩
  · cases h

omit [BusinessMsg B] in
theorem append_sentRetry (queues : List (RetryMessage B)) (r : IntervalRetry B)
    (found raises : Bool) :
    queues ++ ((sentRetry r found raises).map fun p => p.2).toList =
      if found && r.retryQueueName ≠ "" && !raises then queues ++ [constructRetryMessage r]
      else queues := by
  unfold sentRetry
  split
  · rfl
  · exact List.append_nil _

/-- The worker sends its row to the retry queue. -/
def sendRetry (s : State B) (w : Nat) (found raises : Bool) : Option (State B) :=
  match s.workers w with
  | none => none
  | some r =>
      some { s with
        workers := Function.update s.workers w none
        retryQueues := s.retryQueues ++ ((sentRetry r found raises).map fun p => p.2).toList }

/-! ### House keeping -/

/-- The rows a house keeper reads; an empty answer ends its round. -/
def outOfThreshold (cfg : MRFServerConfig) (s : State B) : Option (List (IntervalRetry B)) :=
  (IntervalRetryDAO.getIntervalRetriesOutOfThreshold cfg.clock s.currentTimestamp
    cfg.houseKeepCheckoutTimeThreshold s.tables).filter fun rows => !rows.isEmpty

/-- The house keeper reads the expired rows. -/
def readHouseKeep (cfg : MRFServerConfig) (s : State B) (h : Nat) : Option (State B) :=
  match (s.houseKeepers h).waiting, s.outOfThreshold cfg with
  | none, some rows =>
      some { s with
        houseKeepers :=
          Function.update s.houseKeepers h { s.houseKeepers h with waiting := some rows } }
  | _, _ => none

/-- The house keeper gets the permit. -/
def acquire (s : State B) (h : Nat) : Option (State B) :=
  match s.houseKeepers h with
  | ⟨some rows, none⟩ =>
      some { s with houseKeepers := Function.update s.houseKeepers h ⟨none, some rows⟩ }
  | _ => none

/-- `new Recover(cur.getMsgID(), TO_RECOVER, …)` in the loop of `HouseKeepSchedulerThread`. -/
def constructRecover (cur : IntervalRetry B) : Recover B :=
  JoinDAO.newRecover cur.msgID cur.retryQueueName cur.businessMsg cur.retryInterval
    cur.retriedTimes cur.maxRetryTimes

/-- The tables after `doHouseKeep`, on a batch. -/
def houseKept (s : State B) (faults : List Bool) (rows : List (IntervalRetry B)) : Tables B :=
  (Dao.transactional (JoinDAO.doHouseKeep s.currentTimestamp (rows.map constructRecover)
    (rows.map fun cur => cur.msgID)) faults s.tables).2

/-- The rows that were read are moved, in a transaction. -/
def moveHouseKeep (s : State B) (h : Nat) (faults : List Bool) : Option (State B) :=
  match (s.houseKeepers h).running with
  | some rows =>
      some { s with
        tables := s.houseKept faults rows
        houseKeepers :=
          Function.update s.houseKeepers h { s.houseKeepers h with running := none } }
  | none => none

/-- The rows are read and moved in one step. -/
def houseKeepRound (cfg : MRFServerConfig) (s : State B) (faults : List Bool) :
    Option (State B) :=
  (s.outOfThreshold cfg).map fun rows => { s with tables := s.houseKept faults rows }

/-! ### The admin page -/

/-- A DAO method called by a request. -/
def callDao {α : Type} (s : State B) (d : Dao (Tables B) α) (raises : Bool) :
    Except String α × State B :=
  match Dao.transactional d [raises] s.tables with
  | (.ok a, t) => (.ok a, { s with tables := t })
  | (.error e, t) => (.error e.statementName, { s with tables := t })

/-- What the center answers to a call of a request. -/
def serve (s : State B) (raises found : Bool) : (op : RecoverOp B) →
    Except String op.Res × State B
  | .getRecover msgID => s.callDao (RecoverDAO.getRecover msgID) raises
  | .checkOutRecover msgID =>
      s.callDao (RecoverDAO.checkOutRecover s.currentTimestamp msgID) raises
  | .deleteRecover msgID => s.callDao (RecoverDAO.deleteRecover msgID) raises
  | .getRetryRabbitTemplate retryQueueName => (.ok (found && retryQueueName ≠ ""), s)
  | .convertAndSend _ m =>
      if raises then (.error "convertAndSend", s)
      else (.ok (), { s with retryQueues := s.retryQueues ++ [m] })

/-- A request of the admin page comes in. -/
def request (s : State B) (i : Nat) (request : AdminRequest) : Option (State B) :=
  match s.requests i with
  | none => some { s with
      requests := Function.update s.requests i (some ⟨.idle, request.run⟩) }
  | some _ => none

/-- The request makes its next call. -/
def requestStep (s : State B) (i : Nat) (raises found : Bool) : Option (State B) :=
  match s.requests i with
  | some a =>
      match a.rest with
      | .call op k =>
          some { (s.serve raises found op).2 with
            requests := Function.update s.requests i
              (some (a.answer requestProtocol op k (s.serve raises found op).1)) }
      | _ => none
  | none => none

/-- The request has its result. -/
def requestEnd (s : State B) (i : Nat) : Option (State B) :=
  match s.requests i with
  | some ⟨_, .call _ _⟩ => none
  | some _ => some { s with requests := Function.update s.requests i none }
  | none => none

/-! ### Steps -/

/-- One step of the center; `none` where the action is not enabled. -/
def step (cfg : MRFServerConfig) (s : State B) : Action B → Option (State B)
  | .tick seconds => some { s with currentTimestamp := s.currentTimestamp + seconds }
  | .process c m => some (s.process c m)
  | .failOver m => some { s with exceptionQueue := s.exceptionQueue ++ [m] }
  | .publish m => some { s with retryQueues := s.retryQueues ++ [m] }
  | .deliver n =>
      if n < s.retryQueues.length then
        some { s with retryQueues := s.retryQueues.eraseIdx n }
      else none
  | .receive i => s.receive i
  | .dispatchEQ i w => s.dispatchEQ i w
  | .executeEQ w c => s.executeEQ w c
  | .select i msgID => s.select i msgID
  | .checkOut i raises => s.checkOut i raises
  | .dispatch i w => s.dispatch i w
  | .sendRetry w found raises => s.sendRetry w found raises
  | .readHouseKeep h => s.readHouseKeep cfg h
  | .acquire h => s.acquire h
  | .moveHouseKeep h faults => s.moveHouseKeep h faults
  | .houseKeepRound faults => s.houseKeepRound cfg faults
  | .request i request => s.request i request
  | .requestStep i raises found => s.requestStep i raises found
  | .requestEnd i => s.requestEnd i

variable {cfg : MRFServerConfig} {s s' : State B} {a : Action B}

/-- The enabled actions of a state, each with the state it leads to. -/
inductive Stepped (cfg : MRFServerConfig) (s : State B) : Action B → State B → Prop where
  | tick (seconds : Nat) :
      Stepped cfg s (.tick seconds) { s with currentTimestamp := s.currentTimestamp + seconds }
  | process (c : Call) (m : RetryMessage B) : Stepped cfg s (.process c m) (s.process c m)
  | failOver (m : RetryMessage B) :
      Stepped cfg s (.failOver m) { s with exceptionQueue := s.exceptionQueue ++ [m] }
  | publish (m : RetryMessage B) :
      Stepped cfg s (.publish m) { s with retryQueues := s.retryQueues ++ [m] }
  | deliver {n : Nat} (hn : n < s.retryQueues.length) :
      Stepped cfg s (.deliver n) { s with retryQueues := s.retryQueues.eraseIdx n }
  | receive {i : Nat} {m : RetryMessage B} {queue : List (RetryMessage B)}
      (hq : s.exceptionQueue = m :: queue) :
      Stepped cfg s (.receive i) { s with
        exceptionQueue := queue
        eqTasks := Function.update s.eqTasks i (s.eqTasks i ++ [m]) }
  | dispatchEQ {i w : Nat} (hw : s.eqWorkers w = []) :
      Stepped cfg s (.dispatchEQ i w) { s with
        eqTasks := Function.update s.eqTasks i []
        eqWorkers := Function.update s.eqWorkers w (s.eqTasks i) }
  | executeEQ {w : Nat} {c : Call} {m : RetryMessage B} {ms : List (RetryMessage B)}
      (hw : s.eqWorkers w = m :: ms) :
      Stepped cfg s (.executeEQ w c) { s with
        tables := PollEQTaskSchedulerThread.handled (s.env c) m s.tables
        issued := if m.messageFlag ≠ .msgDirectToRecover && asksForId m then c.newId :: s.issued
          else s.issued
        eqWorkers := Function.update s.eqWorkers w ms }
  | select {i : Nat} {msgID : Int} {r : IntervalRetry B} (hi : s.pollers i = .idle)
      (hr : s.tables.intervalRetry.get msgID = some r)
      (hu : IntervalRetryDAO.isMostUrgent s.tables r = true) :
      Stepped cfg s (.select i msgID)
        { s with pollers := Function.update s.pollers i (.selected r) }
  | checkOut {i : Nat} {raises : Bool} {r : IntervalRetry B} (hi : s.pollers i = .selected r) :
      Stepped cfg s (.checkOut i raises) { s with
        tables := (s.checkOutResult r raises).2
        pollers := Function.update s.pollers i
          (if (s.checkOutResult r raises).1 then .task r else .idle) }
  | dispatch {i w : Nat} {r : IntervalRetry B} (hi : s.pollers i = .task r)
      (hw : s.workers w = none) :
      Stepped cfg s (.dispatch i w) { s with
        pollers := Function.update s.pollers i .idle
        workers := Function.update s.workers w (some r) }
  | sendRetry {w : Nat} {found raises : Bool} {r : IntervalRetry B} (hw : s.workers w = some r) :
      Stepped cfg s (.sendRetry w found raises) { s with
        workers := Function.update s.workers w none
        retryQueues :=
          if found && r.retryQueueName ≠ "" && !raises then
            s.retryQueues ++ [constructRetryMessage r]
          else s.retryQueues }
  | readHouseKeep {k : Nat} {rows : List (IntervalRetry B)}
      (hk : (s.houseKeepers k).waiting = none) (hrows : s.outOfThreshold cfg = some rows) :
      Stepped cfg s (.readHouseKeep k) { s with
        houseKeepers :=
          Function.update s.houseKeepers k { s.houseKeepers k with waiting := some rows } }
  | acquire {k : Nat} {rows : List (IntervalRetry B)} (hk : s.houseKeepers k = ⟨some rows, none⟩) :
      Stepped cfg s (.acquire k)
        { s with houseKeepers := Function.update s.houseKeepers k ⟨none, some rows⟩ }
  | moveHouseKeep {k : Nat} {faults : List Bool} {rows : List (IntervalRetry B)}
      (hk : (s.houseKeepers k).running = some rows) :
      Stepped cfg s (.moveHouseKeep k faults) { s with
        tables := s.houseKept faults rows
        houseKeepers :=
          Function.update s.houseKeepers k { s.houseKeepers k with running := none } }
  | houseKeepRound {faults : List Bool} {rows : List (IntervalRetry B)}
      (hrows : s.outOfThreshold cfg = some rows) :
      Stepped cfg s (.houseKeepRound faults) { s with tables := s.houseKept faults rows }
  | request {i : Nat} (req : AdminRequest) (hi : s.requests i = none) :
      Stepped cfg s (.request i req)
        { s with requests := Function.update s.requests i (some ⟨.idle, req.run⟩) }
  | requestStep {i : Nat} {raises found : Bool} {act : Request B} {op : RecoverOp B}
      {k : Except String op.Res → RecoverProg B (ProcessResult ⊕ BatchProcessResult)}
      (hi : s.requests i = some act) (hk : act.rest = .call op k) :
      Stepped cfg s (.requestStep i raises found) { (s.serve raises found op).2 with
        requests := Function.update s.requests i
          (some (act.answer requestProtocol op k (s.serve raises found op).1)) }
  | requestEnd {i : Nat} {act : Request B} (hi : s.requests i = some act)
      (hr : ∀ op k, act.rest ≠ .call op k) :
      Stepped cfg s (.requestEnd i) { s with requests := Function.update s.requests i none }

omit [BusinessMsg B] in
theorem callDao_snd {α : Type} (d : Dao (Tables B) α) (raises : Bool) :
    (s.callDao d raises).2 = { s with tables := (s.callDao d raises).2.tables } := by
  unfold callDao
  split <;> rfl

omit [BusinessMsg B] in
/-- A call of a request changes nothing but the tables and the retry queues. -/
theorem serve_snd (raises found : Bool) (op : RecoverOp B) :
    ∃ t q, (s.serve raises found op).2 = { s with tables := t, retryQueues := q } := by
  cases op with
  | getRecover x => exact ⟨_, _, callDao_snd (RecoverDAO.getRecover x) raises⟩
  | checkOutRecover x =>
      exact ⟨_, _, callDao_snd (RecoverDAO.checkOutRecover s.currentTimestamp x) raises⟩
  | deleteRecover x => exact ⟨_, _, callDao_snd (RecoverDAO.deleteRecover x) raises⟩
  | getRetryRabbitTemplate q => exact ⟨_, _, rfl⟩
  | convertAndSend m =>
      cases raises with
      | true => exact ⟨_, _, rfl⟩
      | false => exact ⟨_, _, rfl⟩

/-- **The steps of the center.** -/
theorem step_stepped (h : s.step cfg a = some s') : Stepped cfg s a s' := by
  cases a with
  | tick seconds => cases h; exact .tick seconds
  | process c m => cases h; exact .process c m
  | failOver m => cases h; exact .failOver m
  | publish m => cases h; exact .publish m
  | deliver n =>
      simp only [step] at h
      split at h
      · next hn => cases h; exact .deliver hn
      · cases h
  | receive i =>
      simp only [step, receive] at h
      split at h
      · cases h
      · next hq => cases h; exact .receive hq
  | dispatchEQ i w =>
      simp only [step, dispatchEQ] at h
      split at h
      · next hw => cases h; exact .dispatchEQ hw
      · cases h
  | executeEQ w c =>
      simp only [step, executeEQ] at h
      split at h
      · cases h
      · next hw => cases h; exact .executeEQ hw
  | select i x =>
      simp only [step, select] at h
      split at h
      · next hi hr =>
          split at h
          · next hu => cases h; exact .select hi hr hu
          · cases h
      · cases h
  | checkOut i raises =>
      simp only [step, checkOut] at h
      split at h
      · next hi => cases h; exact .checkOut hi
      · cases h
  | dispatch i w =>
      simp only [step, dispatch] at h
      split at h
      · next hi hw => cases h; exact .dispatch hi hw
      · cases h
  | sendRetry w found raises =>
      simp only [step, sendRetry] at h
      split at h
      · cases h
      · next hw =>
          cases h
          rw [append_sentRetry]
          exact .sendRetry hw
  | readHouseKeep k =>
      simp only [step, readHouseKeep] at h
      split at h
      · next hk hrows => cases h; exact .readHouseKeep hk hrows
      · cases h
  | acquire k =>
      simp only [step, acquire] at h
      split at h
      · next hk => cases h; exact .acquire hk
      · cases h
  | moveHouseKeep k faults =>
      simp only [step, moveHouseKeep] at h
      split at h
      · next hk => cases h; exact .moveHouseKeep hk
      · cases h
  | houseKeepRound faults =>
      obtain ⟨rows, hrows, rfl⟩ := Option.map_eq_some_iff.mp h
      exact .houseKeepRound hrows
  | request i req =>
      simp only [step, request] at h
      split at h
      · next hi => cases h; exact .request req hi
      · cases h
  | requestStep i raises found =>
      simp only [step, requestStep] at h
      split at h
      · next act hi =>
          split at h
          · next op k hk => cases h; exact .requestStep hi hk
          · cases h
      · cases h
  | requestEnd i =>
      simp only [step, requestEnd] at h
      split at h
      · cases h
      · next act hnc hi =>
          cases h
          refine .requestEnd hi fun op k hk => ?_
          obtain ⟨st, rest⟩ := act
          cases hk
          exact hnc st op k rfl
      · cases h

/-- Each of these actions is enabled. -/
theorem Stepped.step_eq (h : Stepped cfg s a s') : s.step cfg a = some s' := by
  cases h with
  | deliver hn => exact if_pos hn
  | receive hq => simp only [step, State.receive, hq]
  | dispatchEQ hw => exact if_pos hw
  | executeEQ hw => simp only [step, State.executeEQ, hw]
  | select hi hr hu => simp only [step, State.select, hi, hr, hu, if_true]
  | checkOut hi => simp only [step, State.checkOut, hi]
  | dispatch hi hw => simp only [step, State.dispatch, hi, hw]
  | sendRetry hw => simp only [step, State.sendRetry, hw, append_sentRetry]
  | readHouseKeep hk hrows => simp only [step, State.readHouseKeep, hk, hrows]
  | acquire hk => simp only [step, State.acquire, hk]
  | moveHouseKeep hk => simp only [step, State.moveHouseKeep, hk]
  | houseKeepRound hrows => simp only [step, State.houseKeepRound, hrows, Option.map_some]
  | request req hi => simp only [step, State.request, hi]
  | requestStep hi hk => simp only [step, State.requestStep, hi, hk]
  | @requestEnd i act hi hr =>
      obtain ⟨st, rest⟩ := act
      cases rest with
      | call op k => exact absurd rfl (hr op k)
      | _ => simp only [step, State.requestEnd, hi]
  | _ => rfl

/-! ### What a step writes to the tables -/

/-- The message that an action applies to the tables, from an RPC or from the exception queue. -/
def message (s : State B) : Action B → Option (Call × RetryMessage B)
  | .process c m => some (c, m)
  | .executeEQ w c =>
      match s.eqWorkers w with
      | [] => none
      | m :: _ => if m.messageFlag = .msgDirectToRecover then none else some (c, m)
  | _ => none

/-- The batch that an action moves to `recover`. -/
def batch (cfg : MRFServerConfig) (s : State B) : Action B → Option (List (IntervalRetry B))
  | .moveHouseKeep h _ => (s.houseKeepers h).running
  | .houseKeepRound _ => s.outOfThreshold cfg
  | _ => none

/-- The call that an action makes for a request. -/
def call (s : State B) : Action B → Option (RecoverOp B)
  | .requestStep i _ _ =>
      match s.requests i with
      | some ⟨_, .call op _⟩ => some op
      | _ => none
  | _ => none

/-- What the tables can be after the action `a` in the state `s`. -/
inductive Wrote (cfg : MRFServerConfig) (s : State B) (a : Action B) : Tables B → Prop where
  | nothing : Wrote cfg s a s.tables
  | applied {c : Call} {m : RetryMessage B} {t : Tables B} (hm : s.message a = some (c, m))
      (h : Applied (s.env c) m s.tables t) : Wrote cfg s a t
  | checkOut {i : Nat} {raises : Bool} {r : IntervalRetry B} (ha : a = .checkOut i raises)
      (hr : s.pollers i = .selected r) :
      Wrote cfg s a (s.tables.setIntervalRetry (s.tables.intervalRetry.update r.msgID
        (IntervalRetryDAO.checkedOut s.currentTimestamp) (IntervalRetryDAO.checkedOut_msgID _)))
  | houseKept {rows : List (IntervalRetry B)} (hb : s.batch cfg a = some rows)
      {u : Table (Recover B)}
      (hu : s.tables.recover.insertAll (rows.map fun cur =>
        RecoverDAO.insertedRow s.currentTimestamp (constructRecover cur)) = some u) :
      Wrote cfg s a ((s.tables.setRecover u).setIntervalRetry
        (s.tables.intervalRetry.deleteAll (rows.map fun cur => cur.msgID)))
  | checkOutRecover {x : Int} (hc : s.call a = some (.checkOutRecover x)) :
      Wrote cfg s a (s.tables.setRecover (s.tables.recover.update x
        (RecoverDAO.checkedOut s.currentTimestamp) (RecoverDAO.checkedOut_msgID _)))
  | deleteRecover {x : Int} (hc : s.call a = some (.deleteRecover x)) :
      Wrote cfg s a (s.tables.setRecover (s.tables.recover.delete x))

omit [BusinessMsg B] in
/-- `doHouseKeep` either moves the whole batch or leaves the tables as they were. -/
theorem houseKept_cases (faults : List Bool) (rows : List (IntervalRetry B)) :
    s.houseKept faults rows = s.tables ∨ ∃ u,
      s.tables.recover.insertAll (rows.map fun cur =>
        RecoverDAO.insertedRow s.currentTimestamp (constructRecover cur)) = some u ∧
      s.houseKept faults rows = (s.tables.setRecover u).setIntervalRetry
        (s.tables.intervalRetry.deleteAll (rows.map fun cur => cur.msgID)) := by
  unfold houseKept
  rcases Dao.transactional_cases (JoinDAO.doHouseKeep s.currentTimestamp
    (rows.map constructRecover) (rows.map fun cur => cur.msgID)) faults s.tables with
    ⟨_, s₂, h, ht⟩ | ⟨e, ht⟩
  · rw [ht]
    cases rows with
    | nil => cases h; exact .inl rfl
    | cons cur rows =>
        simp only [JoinDAO.doHouseKeep, List.map_cons, List.isEmpty_cons, List.length_cons,
          List.length_map, bne_self_eq_false, Bool.or_self, Bool.false_eq_true, if_false] at h
        obtain ⟨_, s₁, h₁, h₂⟩ := Dao.bind_ok h
        simp only [RecoverDAO.batchAddRecovers, IntervalRetryDAO.batchDeleteIntervalRetries,
          List.isEmpty_cons, Bool.false_eq_true, if_false] at h₁ h₂
        have hadd := Dao.execute_ok h₁
        have hdel := Dao.execute_ok h₂
        obtain ⟨u, hu, he⟩ := Option.map_eq_some_iff.mp hadd
        refine .inr ⟨u, by simpa [Function.comp_def] using hu, ?_⟩
        rw [← (Prod.mk.inj (Option.some.inj hdel)).2, ← (Prod.mk.inj he).2]
        rfl
  · rw [ht]
    exact .inl rfl

omit [BusinessMsg B] in
/-- A DAO call of a request answers and commits, or leaves everything as it was. -/
theorem callDao_cases {α : Type} (d : Dao (Tables B) α) (raises : Bool) :
    (∃ a s₁, d ⟨s.tables, [raises]⟩ = .ok (a, s₁) ∧
        s.callDao d raises = (.ok a, { s with tables := s₁.tables })) ∨
      ∃ e, s.callDao d raises = (.error e, s) := by
  unfold callDao
  rcases Dao.transactional_cases d [raises] s.tables with
    ⟨a, s₁, h, ht⟩ | ⟨e, ht⟩
  · rw [ht]
    exact .inl ⟨a, s₁, h, rfl⟩
  · rw [ht]
    exact .inr ⟨_, rfl⟩

/-- What the calls of a request write. -/
theorem serve_wrote {i : Nat} {raises found : Bool} {op : RecoverOp B}
    (hc : s.call (.requestStep i raises found) = some op) :
    Wrote cfg s (.requestStep i raises found) (s.serve raises found op).2.tables := by
  cases op with
  | getRecover x =>
      change Wrote cfg s _ (s.callDao (RecoverDAO.getRecover x) raises).2.tables
      rcases callDao_cases (s := s) (RecoverDAO.getRecover x) raises with ⟨r, s₁, h, he⟩ | ⟨e, he⟩
      · rw [he]
        have hs : s₁.tables = s.tables := by
          unfold RecoverDAO.getRecover at h
          split at h
          · cases h; rfl
          · exact (Prod.mk.inj (Option.some.inj (Dao.execute_ok h))).2.symm
        rw [hs]
        exact .nothing
      · rw [he]; exact .nothing
  | checkOutRecover x =>
      change Wrote cfg s _
        (s.callDao (RecoverDAO.checkOutRecover s.currentTimestamp x) raises).2.tables
      rcases callDao_cases (s := s) (RecoverDAO.checkOutRecover s.currentTimestamp x) raises with
        ⟨b, s₁, h, he⟩ | ⟨e, he⟩
      · rw [he]
        unfold RecoverDAO.checkOutRecover at h
        split at h
        · cases h; exact .nothing
        · rw [← (Prod.mk.inj (Option.some.inj (Dao.execute_ok h))).2]
          exact .checkOutRecover hc
      · rw [he]; exact .nothing
  | deleteRecover x =>
      change Wrote cfg s _ (s.callDao (RecoverDAO.deleteRecover x) raises).2.tables
      rcases callDao_cases (s := s) (RecoverDAO.deleteRecover x) raises with
        ⟨b, s₁, h, he⟩ | ⟨e, he⟩
      · rw [he]
        unfold RecoverDAO.deleteRecover at h
        split at h
        · cases h; exact .nothing
        · rw [← (Prod.mk.inj (Option.some.inj (Dao.execute_ok h))).2]
          exact .deleteRecover hc
      · rw [he]; exact .nothing
  | getRetryRabbitTemplate q => exact .nothing
  | convertAndSend k m =>
      cases raises with
      | true => exact .nothing
      | false => exact .nothing

omit [BusinessMsg B] in
/-- A check-out that returns writes the row, if it is still to be retried. -/
theorem checkOutResult_cases (r : IntervalRetry B) (raises : Bool) :
    (s.checkOutResult r raises).2 = s.tables ∨
      (s.checkOutResult r raises).2 = s.tables.setIntervalRetry (s.tables.intervalRetry.update
        r.msgID (IntervalRetryDAO.checkedOut s.currentTimestamp)
        (IntervalRetryDAO.checkedOut_msgID _)) := by
  unfold checkOutResult
  rcases Dao.transactional_cases
    (IntervalRetryDAO.checkOutIntervalRetry s.currentTimestamp r.msgID) [raises] s.tables with
    ⟨b, s₁, hrun, ht⟩ | ⟨e, ht⟩
  · rw [ht]
    unfold IntervalRetryDAO.checkOutIntervalRetry at hrun
    split at hrun
    · cases hrun; exact .inl rfl
    · exact .inr (Prod.mk.inj (Option.some.inj (Dao.execute_ok hrun))).2.symm
  · rw [ht]
    exact .inl rfl

/-- **What a step writes.** -/
theorem Stepped.wrote (h : Stepped cfg s a s') : Wrote cfg s a s'.tables := by
  cases h with
  | process c m => exact .applied rfl (processed_applied _ _ _)
  | @executeEQ w c m ms hw =>
      change Wrote cfg s _ (PollEQTaskSchedulerThread.handled (s.env c) m s.tables)
      by_cases hf : m.messageFlag = .msgDirectToRecover
      · rw [handled_of_eq _ hf]
        exact .nothing
      · rw [handled_of_ne _ hf]
        exact .applied (by simp only [message, hw, hf, if_false]) (processed_applied _ _ _)
  | @checkOut i raises r hi =>
      change Wrote cfg s _ (s.checkOutResult r raises).2
      rcases checkOutResult_cases r raises with ht | ht
      · rw [ht]; exact .nothing
      · rw [ht]; exact .checkOut rfl hi
  | @moveHouseKeep k faults rows hk =>
      change Wrote cfg s _ (s.houseKept faults rows)
      rcases houseKept_cases faults rows with ht | ⟨u, hu, ht⟩
      · rw [ht]; exact .nothing
      · rw [ht]; exact .houseKept (a := .moveHouseKeep k faults) hk hu
  | @houseKeepRound faults rows hrows =>
      change Wrote cfg s _ (s.houseKept faults rows)
      rcases houseKept_cases faults rows with ht | ⟨u, hu, ht⟩
      · rw [ht]; exact .nothing
      · rw [ht]; exact .houseKept (a := .houseKeepRound faults) hrows hu
  | @requestStep i raises found act op k hi hk =>
      refine serve_wrote ?_
      obtain ⟨st, rest⟩ := act
      cases hk
      simp only [call, hi]
  | _ => exact .nothing

theorem step_wrote (h : s.step cfg a = some s') : Wrote cfg s a s'.tables :=
  (step_stepped h).wrote

/-- The message of a step is applied as `process` applies it. -/
theorem Stepped.tables_eq (h : Stepped cfg s a s') {c : Call} {m : RetryMessage B}
    (hm : s.message a = some (c, m)) : s'.tables = processed (s.env c) m s.tables := by
  cases h with
  | process c m => cases hm; rfl
  | @executeEQ w c m ms hw =>
      simp only [message, hw] at hm
      split at hm
      · cases hm
      · next hf => cases hm; exact handled_of_ne _ hf
  | _ => cases hm

/-! ### What a step leaves -/

/-- Ids are issued to the messages that ask for one. -/
theorem Stepped.issued_eq (h : Stepped cfg s a s') :
    s'.issued = match s.message a with
      | some (c, m) => if asksForId m then c.newId :: s.issued else s.issued
      | none => s.issued := by
  cases h with
  | @executeEQ w c m ms hw =>
      by_cases hf : m.messageFlag = .msgDirectToRecover
      · simp [message, hw, hf]
      · simp [message, hw, hf]
  | @requestStep i raises found act op k hi hk =>
      obtain ⟨t, q, hs⟩ := serve_snd (s := s) raises found op
      simp only [hs, message]
  | _ => rfl

theorem Stepped.issued_subset (h : Stepped cfg s a s') : s.issued ⊆ s'.issued := by
  rw [h.issued_eq]
  split
  · split
    · exact List.subset_cons_self _ _
    · exact List.Subset.refl _
  · exact List.Subset.refl _

/-- A house keeper has the batch, read or running. -/
def Held (s : State B) (k : Nat) (rows : List (IntervalRetry B)) : Prop :=
  (s.houseKeepers k).waiting = some rows ∨ (s.houseKeepers k).running = some rows

/-- A batch comes from a read, and is not running any more after its move. -/
theorem Stepped.held (h : Stepped cfg s a s') {k : Nat} {rows : List (IntervalRetry B)}
    (hk : s'.Held k rows) :
    (s.houseKeepers k).waiting = some rows ∨
      ((s.houseKeepers k).running = some rows ∧ ∀ faults, a ≠ .moveHouseKeep k faults) ∨
      a = .readHouseKeep k ∧ s.outOfThreshold cfg = some rows := by
  cases h with
  | @readHouseKeep j rows' hj hrows =>
      by_cases he : k = j
      · subst he
        simp only [Held, Function.update_self, Option.some.injEq] at hk
        rcases hk with rfl | hk
        · exact .inr (.inr ⟨rfl, hrows⟩)
        · exact .inr (.inl ⟨hk, nofun⟩)
      · simp only [Held, Function.update_of_ne he] at hk
        exact hk.imp_right fun hk => .inl ⟨hk, nofun⟩
  | @acquire j rows' hj =>
      by_cases he : k = j
      · subst he
        simp only [Held, Function.update_self, Option.some.injEq, reduceCtorEq, false_or] at hk
        exact .inl (by rw [hj, hk])
      · simp only [Held, Function.update_of_ne he] at hk
        exact hk.imp_right fun hk => .inl ⟨hk, nofun⟩
  | @moveHouseKeep j faults rows' hj =>
      by_cases he : k = j
      · subst he
        simp only [Held, Function.update_self, reduceCtorEq, or_false] at hk
        exact .inl hk
      · simp only [Held, Function.update_of_ne he] at hk
        refine hk.imp_right fun hk => .inl ⟨hk, fun faults' ha => ?_⟩
        cases ha
        exact he rfl
  | @requestStep i raises found act op f hi hf =>
      obtain ⟨t, q, hs⟩ := serve_snd (s := s) raises found op
      simp only [Held, hs] at hk
      exact hk.imp_right fun hk => .inl ⟨hk, nofun⟩
  | _ => exact hk.imp_right fun hk => .inl ⟨hk, nofun⟩

/-! ### Requests, poll threads and workers across a step -/

omit [BusinessMsg B] in
/-- The call of a request is the one it waits for. -/
theorem call_requestStep {i : Nat} {raises found : Bool} {act : Request B}
    {op : RecoverOp B}
    {k : Except String op.Res → RecoverProg B (ProcessResult ⊕ BatchProcessResult)}
    (hi : s.requests i = some act) (hk : act.rest = .call op k) :
    s.call (.requestStep i raises found) = some op := by
  obtain ⟨st, rest⟩ := act
  cases hk
  simp only [call, hi]

/-- A request is as it was, has just come in, or has just been answered. -/
theorem Stepped.requests_inv (h : Stepped cfg s a s') {i : Nat} {act : Request B}
    (hi : s'.requests i = some act) :
    (s.requests i = some act ∧ ∀ raises found, a ≠ .requestStep i raises found) ∨
      (∃ req : AdminRequest, act = ⟨.idle, req.run⟩) ∨
      ∃ raises found act₀ op k, a = .requestStep i raises found ∧ s.requests i = some act₀ ∧
        act₀.rest = .call op k ∧
        act = act₀.answer requestProtocol op k (s.serve raises found op).1 := by
  cases h with
  | @request j req hj =>
      by_cases he : i = j
      · subst he
        simp only [Function.update_self, Option.some.injEq] at hi
        exact .inr (.inl ⟨req, hi.symm⟩)
      · refine .inl ⟨by simpa only [Function.update_of_ne he] using hi, ?_⟩
        intro _ _ ha
        cases ha
  | @requestStep j raises found act₀ op k hj hk =>
      by_cases he : i = j
      · subst he
        simp only [Function.update_self, Option.some.injEq] at hi
        exact .inr (.inr ⟨raises, found, act₀, op, k, rfl, hj, hk, hi.symm⟩)
      · obtain ⟨t, q, hs⟩ := serve_snd (s := s) raises found op
        refine .inl ⟨by simpa only [hs, Function.update_of_ne he] using hi, ?_⟩
        intro _ _ ha
        cases ha
        exact he rfl
  | @requestEnd j act₀ hj hr =>
      by_cases he : i = j
      · subst he
        simp only [Function.update_self, reduceCtorEq] at hi
      · refine .inl ⟨by simpa only [Function.update_of_ne he] using hi, ?_⟩
        intro _ _ ha
        cases ha
  | _ =>
      refine .inl ⟨hi, ?_⟩
      intro _ _ ha
      cases ha

/-- A poll thread is as it was, or has just selected a row, checked it out or handed it over. -/
theorem Stepped.pollers_inv (h : Stepped cfg s a s') (i : Nat) :
    (s'.pollers i = s.pollers i ∧ ∀ x, a ≠ .select i x) ∨
      (∃ x r, a = .select i x ∧ s.tables.intervalRetry.get x = some r ∧
        s'.pollers i = .selected r) ∨
      (∃ raises r, a = .checkOut i raises ∧ s.pollers i = .selected r ∧
        s'.pollers i = if (s.checkOutResult r raises).1 then .task r else .idle) ∨
      ∃ w, a = .dispatch i w ∧ s'.pollers i = .idle := by
  cases h with
  | @select j x r hj hr hu =>
      by_cases he : i = j
      · subst he
        exact .inr (.inl ⟨x, r, rfl, hr, Function.update_self ..⟩)
      · refine .inl ⟨Function.update_of_ne he .., ?_⟩
        intro _ ha
        cases ha
        exact he rfl
  | @checkOut j raises r hj =>
      by_cases he : i = j
      · subst he
        exact .inr (.inr (.inl ⟨raises, r, rfl, hj, Function.update_self ..⟩))
      · refine .inl ⟨Function.update_of_ne he .., ?_⟩
        intro _ ha
        cases ha
  | @dispatch j w r hj hw =>
      by_cases he : i = j
      · subst he
        exact .inr (.inr (.inr ⟨w, rfl, Function.update_self ..⟩))
      · refine .inl ⟨Function.update_of_ne he .., ?_⟩
        intro _ ha
        cases ha
  | @requestStep j raises found act op k hj hk =>
      obtain ⟨t, q, hs⟩ := serve_snd (s := s) raises found op
      refine .inl ⟨by simp only [hs], ?_⟩
      intro _ ha
      cases ha
  | _ =>
      refine .inl ⟨rfl, ?_⟩
      intro _ ha
      cases ha

/-- The task of a worker was there, or a poll thread has just handed it over. -/
theorem Stepped.workers_inv (h : Stepped cfg s a s') {w : Nat} {r : IntervalRetry B}
    (hw : s'.workers w = some r) : (s.workers w = some r ∧ ∀ i, a ≠ .dispatch i w) ∨
      ∃ i, a = .dispatch i w ∧ s.pollers i = .task r := by
  cases h with
  | @dispatch i v r' hi hv =>
      by_cases he : w = v
      · subst he
        simp only [Function.update_self, Option.some.injEq] at hw
        exact .inr ⟨i, rfl, hw ▸ hi⟩
      · refine .inl ⟨by simpa only [Function.update_of_ne he] using hw, ?_⟩
        intro _ ha
        cases ha
        exact he rfl
  | @sendRetry v found raises r' hv =>
      by_cases he : w = v
      · subst he
        simp only [Function.update_self, reduceCtorEq] at hw
      · refine .inl ⟨by simpa only [Function.update_of_ne he] using hw, ?_⟩
        intro _ ha
        cases ha
  | @requestStep j raises found act op k hj hk =>
      obtain ⟨t, q, hs⟩ := serve_snd (s := s) raises found op
      simp only [hs] at hw
      refine .inl ⟨hw, ?_⟩
      intro _ ha
      cases ha
  | _ =>
      refine .inl ⟨hw, ?_⟩
      intro _ ha
      cases ha

theorem Stepped.clock_le (h : Stepped cfg s a s') : s.currentTimestamp ≤ s'.currentTimestamp := by
  cases h with
  | tick seconds => exact Int.le_add_of_nonneg_right (Int.natCast_nonneg seconds)
  | @requestStep i raises found act op k hi hk =>
      obtain ⟨t, q, hs⟩ := serve_snd (s := s) raises found op
      simp only [hs]
      exact Int.le_refl _
  | _ => exact Int.le_refl _

end State

/-! ### Samples -/

/-- A center whose check-outs expire after ten seconds, on a clock within one minute. -/
def MRFServerConfig.sample : MRFServerConfig := ⟨⟨id, monotone_id⟩, 10000⟩

def Call.sample (newId : Int) : Call := ⟨0, newId, []⟩

/-- A message of the queue `feed`. -/
def sampleMessage (messageFlag : MessageFlag) (msgID : Int) (businessMsg : String) :
    RetryMessage String :=
  { msgID, retryQueueName := "feed_retry", businessMsg, retryInterval := 5000, retriedTimes := 1,
    maxRetryTimes := 3, messageFlag, isFromRecover := false }

/-- The center after a first failure was stored, under the id 1. -/
def sampleState : State String :=
  State.empty.process (.sample 1) (sampleMessage .intervalMsgDoRetry 0 "post 1")

end MRF.Center
