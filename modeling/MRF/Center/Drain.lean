import MRF.Center.ExceptionQueue
import MRF.Center.Scheduler
import MRF.Library.Pool

/-!
# Center — Drain

The messages that the exception-queue thread takes out of the queue.  From the receive to the end
of a worker's loop they are in memory only, and there are two ways out of it besides the service:
a worker logs what the service throws and goes on with its next message, and a thread that is
halted between its drain and its hand-over leaves the batch behind.  Every other exit keeps every
message (`available_step`), so these two are exactly what loses one (`kept_iff`).
-/

namespace MRF.Center
open MRF.Library

variable {B : Type}

/-- The flags whose case in the `switch` calls the service. -/
def PollEQTaskSchedulerThread.isHandled (m : RetryMessage B) : Bool :=
  match m.messageFlag with
  | .cleanRecover | .cleanIntervalRetry | .resendForRecover | .intervalMsgDoRetry
  | .intervalMsgDoRecover | .immediateMsgDoRecover => true
  | .immediateMsgDoRetry | .msgDirectToRecover | .other _ => false

/-- The messages of a batch that the execute action handles. -/
def handledIn (l : Multiset (RetryMessage B)) : Multiset (RetryMessage B) :=
  l.filter fun m => PollEQTaskSchedulerThread.isHandled m = true

@[simp] theorem handledIn_zero : handledIn (0 : Multiset (RetryMessage B)) = 0 := rfl

theorem handledIn_add (l l' : Multiset (RetryMessage B)) :
    handledIn (l + l') = handledIn l + handledIn l' :=
  Multiset.filter_add _ _ _

theorem handledIn_eq_zero {l : Multiset (RetryMessage B)} :
    handledIn l = 0 ↔ ∀ m ∈ l, ¬ PollEQTaskSchedulerThread.isHandled m = true :=
  Multiset.filter_eq_nil

/-- What a drain has received and the thread has not handed over. -/
@[simp] def Position.received {τ : Type} : Position (List τ) τ → List τ
  | .construct retryMessages => retryMessages
  | p => p.task

theorem Position.received_eq_task {τ : Type} {p : Position (List τ) τ}
    (h : ∀ c, p ≠ .construct c) : p.received = p.task := by
  cases p with
  | construct c => exact absurd rfl (h c)
  | _ => rfl

variable [BusinessMsg B] {cfg : SchedulerConfig} {s s' : Scheduler B} {a : SchedulerAction B}

namespace Scheduler

/-- The messages in the queue and in the batches that are yet to be executed. -/
def available (cfg : SchedulerConfig) (s : Scheduler B) : Multiset (RetryMessage B) :=
  s.exceptionQueue + s.pollEQ.position.received + held cfg.eqPollThreadCount s.eqWorkers

/-- What a client puts into the queue. -/
def sent : SchedulerAction B → Multiset (RetryMessage B)
  | .send m => {m}
  | _ => 0

/-- The messages that a step takes out of memory: the one a worker executes, and the batch of a
thread that finds itself halted. -/
def finished (s : Scheduler B) : SchedulerAction B → Multiset (RetryMessage B)
  | .executeEQ w _ _ => (s.eqWorkers w).take 1
  | .advanceEQ =>
      match s.pollEQ.position with
      | .goAhead task => if s.pollEQ.halted then task else 0
      | _ => 0
  | _ => 0

/-- Whether the service returns on the message that the step executes. -/
def returns (s : Scheduler B) : SchedulerAction B → Bool
  | .executeEQ w e proxyThrows =>
      match s.eqWorkers w with
      | [] => false
      | m :: _ => handlerReturns e proxyThrows m s.tables
  | _ => false

/-- The handled messages that a step applies to the tables. -/
def applied (s : Scheduler B) (a : SchedulerAction B) : Multiset (RetryMessage B) :=
  if s.returns a then handledIn (s.finished a) else 0

/-- The handled messages that a step takes out of memory and does not apply. -/
def lost (s : Scheduler B) (a : SchedulerAction B) : Multiset (RetryMessage B) :=
  if s.returns a then 0 else handledIn (s.finished a)

/-- The steps on which a message comes to nothing. -/
inductive Loses (s : Scheduler B) : SchedulerAction B → Prop where
  | raises {w : Nat} {e : Env} {proxyThrows : Bool} {m : RetryMessage B}
      {ms : List (RetryMessage B)} (hw : s.eqWorkers w = m :: ms)
      (hm : PollEQTaskSchedulerThread.isHandled m = true)
      (hr : handlerReturns e proxyThrows m s.tables = false) : Loses s (.executeEQ w e proxyThrows)
  | halted {task : List (RetryMessage B)} {m : RetryMessage B}
      (hp : s.pollEQ.position = .goAhead task) (hh : s.pollEQ.halted = true) (ht : m ∈ task)
      (hm : PollEQTaskSchedulerThread.isHandled m = true) : Loses s .advanceEQ

/-- Every handled message that was in the queue at the start or was sent to it is applied or
available.  One that is still in the queue was not taken out. -/
def Kept (cfg : SchedulerConfig) (q : List (RetryMessage B))
    (tr : List (Scheduler B × SchedulerAction B)) (s : Scheduler B) : Prop :=
  handledIn q + total (fun _ a => handledIn (sent a)) tr ≤
    total applied tr + handledIn (s.available cfg)

/-! ### Steps -/

theorem applied_add_lost (s : Scheduler B) (a : SchedulerAction B) :
    s.applied a + s.lost a = handledIn (s.finished a) := by
  unfold applied lost
  cases s.returns a with
  | true => simp
  | false => simp

theorem lost_eq_zero_iff : s.lost a = 0 ↔ ¬ Loses s a := by
  constructor
  · rintro h (⟨hw, hm, hr⟩ | ⟨hp, hh, ht, hm⟩)
    · simp only [lost, returns, hw, hr, finished, Bool.false_eq_true, if_false] at h
      exact handledIn_eq_zero.mp h _ (by simp) hm
    · simp only [lost, returns, finished, hp, hh, if_true, Bool.false_eq_true, if_false] at h
      exact handledIn_eq_zero.mp h _ (Multiset.mem_coe.mpr ht) hm
  · intro h
    unfold lost
    split
    · rfl
    · next hr =>
        refine handledIn_eq_zero.mpr fun m hmem hm => h ?_
        cases a with
        | executeEQ w e proxyThrows =>
            cases hw : s.eqWorkers w with
            | nil => simp [finished, hw] at hmem
            | cons m' ms =>
                obtain rfl : m = m' := by simpa [finished, hw] using hmem
                exact .raises hw hm (by simpa [returns, hw] using hr)
        | advanceEQ =>
            simp only [finished] at hmem
            split at hmem
            · next task hp =>
                split at hmem
                · next hh => exact .halted hp hh (Multiset.mem_coe.mp hmem) hm
                · exact absurd hmem (Multiset.notMem_zero m)
            · exact absurd hmem (Multiset.notMem_zero m)
        | _ => exact absurd hmem (Multiset.notMem_zero m)

omit [BusinessMsg B] in
/-- A thread that goes on loses its batch only where it is halted. -/
theorem received_advanced {th : SchedulerThread (List (RetryMessage B)) (RetryMessage B)}
    (h : s.pollEQ.Advanced true th) :
    (th.position.received : Multiset (RetryMessage B)) + s.finished .advanceEQ =
      s.pollEQ.position.received := by
  rw [Position.received_eq_task h.not_construct]
  cases h with
  | loop hp | waitForDependent hp | halted hp | unpaused hp | noTask hp | task hp | idle hp =>
      cases hh : s.pollEQ.halted <;> simp [hp, finished]
  | dropped hp hh => simp [hp, hh, finished]
  | goAhead hp hh => simp [hp, hh, finished]
  | @signal idle hp => cases idle <;> simp [hp, finished]

/-- **The messages across a step.** -/
theorem available_step (h : Stepped cfg s a s') (hw : Within cfg.eqPollThreadCount s.eqWorkers) :
    s'.available cfg + s.finished a = s.available cfg + sent a := by
  cases h with
  | send m =>
      simp only [available, finished, sent, ← Multiset.coe_add, Multiset.coe_singleton]
      ac_rfl
  | advanceEQ h =>
      have := received_advanced h
      simp only [available, sent, ← this]
      ac_rfl
  | startEQ hp hn hw' => simp [available, finished, sent, hp]
  | drained hp hq | receiveFails hp => simp [available, finished, sent, hp]
  | @received retryMessages queue m hp hq =>
      simp only [available, finished, sent, hp, hq, SchedulerThread.goTo_position,
        Position.received, ← Multiset.coe_add, ← Multiset.cons_coe, ← Multiset.singleton_add]
      ac_rfl
  | handOverEQ hp hn hw' =>
      simp only [available, finished, sent, hp, SchedulerThread.goTo_position, Position.received,
        Position.task, held_start hn hw', Multiset.coe_nil, add_zero]
      ac_rfl
  | @executeEQ w e proxyThrows m ms hw' =>
      have hlt := hw.lt (hw' ▸ List.cons_ne_nil m ms)
      have hnext := held_next hlt hw'
      simp only [available, finished, sent, hw', ← hnext, List.take_succ_cons, List.take_zero,
        Multiset.coe_singleton, ← Multiset.singleton_add]
      ac_rfl
  | _ => simp [available, finished, sent]

theorem within_step (h : Stepped cfg s a s') (hw : Within cfg.eqPollThreadCount s.eqWorkers) :
    Within cfg.eqPollThreadCount s'.eqWorkers := by
  cases h with
  | handOverEQ hp hn => exact hw.update hn _
  | executeEQ hw' => exact hw.update (hw.lt (hw' ▸ List.cons_ne_nil _ _)) _
  | _ => exact hw

/-! ### Runs -/

variable {tr : List (Scheduler B × SchedulerAction B)} {q : List (RetryMessage B)} {t : Tables B}

/-- Every handled message of a run is available, applied or lost. -/
theorem available_run (h : Run (stepOf (step cfg)) (initial q t) tr s) :
    handledIn (s.available cfg) + (total applied tr + total lost tr) =
      handledIn q + total (fun _ a => handledIn (sent a)) tr := by
  have hstep : ∀ (s : Scheduler B) a s', stepOf (step cfg) s a s' →
      Within cfg.eqPollThreadCount s.eqWorkers →
      handledIn (s'.available cfg) + (s.applied a + s.lost a) =
        handledIn (s.available cfg) + handledIn (sent a) := by
    intro s a s' hs hw
    rw [applied_add_lost, ← handledIn_add, ← handledIn_add, available_step (step_stepped hs) hw]
  have h := h.balance (fun _ _ _ hs hw => within_step (step_stepped hs) hw) hstep (within_nil _)
  rw [total_add] at h
  rw [h]
  simp [available, initial, SchedulerThread.initial]

/-- **Draining loses nothing** exactly in the runs in which the service returns on every handled
message that a worker executes, and the thread is not halted where it asks whether to go ahead
with a batch that has one. -/
theorem kept_iff (h : Run (stepOf (step cfg)) (initial q t) tr s) :
    Kept cfg q tr s ↔ ∀ p ∈ tr, ¬ Loses p.1 p.2 := by
  have hlost : total lost tr = 0 ↔ ∀ p ∈ tr, ¬ Loses p.1 p.2 := by
    simp only [total, List.sum_eq_zero_iff, List.forall_mem_map, lost_eq_zero_iff]
  rw [Kept, ← available_run h, ← hlost, add_left_comm, ← add_assoc,
    add_le_iff_nonpos_right, nonpos_iff_eq_zero]

/-! ### A sample -/

/-- A clean that its client put into the queue. -/
def queuedClean : RetryMessage String := sampleMessage .cleanIntervalRetry 1 "post 1"

/-- The thread drains the queue of the clean alone. -/
def drain : List (SchedulerAction String) :=
  [.togglePauseEQ false, .advanceEQ, .advanceEQ, .advanceEQ, .startEQ 0, .receive, .receive,
    .advanceEQ]

theorem kept_sample : ∃ s, exec (step .sample) (initial [queuedClean] sampleState.tables)
      (drain ++ [.advanceEQ, .handOverEQ 0, .executeEQ 0 .working false]) = some s ∧
    Kept .sample [queuedClean] (trace (step .sample) (initial [queuedClean] sampleState.tables)
      (drain ++ [.advanceEQ, .handOverEQ 0, .executeEQ 0 .working false])) s := by
  refine ⟨_, rfl, (kept_iff (Run.of_exec rfl)).mpr fun p hp => lost_eq_zero_iff.mp ?_⟩
  have hall : ∀ p ∈ trace (step .sample) (initial [queuedClean] sampleState.tables)
      (drain ++ [.advanceEQ, .handOverEQ 0, .executeEQ 0 .working false]),
      p.1.returns p.2 = true ∨ (p.1.finished p.2).card = 0 := by decide
  rcases hall p hp with hr | hf
  · simp only [lost, hr, if_true]
  · simp only [lost, Multiset.card_eq_zero.mp hf, handledIn_zero, ite_self]

/-- The clean comes to nothing when its transaction raises in the worker, and when the thread is
halted after its drain. -/
theorem clean_lost :
    (∃ s, exec (step .sample) (initial [queuedClean] sampleState.tables)
        (drain ++ [.advanceEQ, .handOverEQ 0, .executeEQ 0 .failing false]) = some s ∧
      ¬ Kept .sample [queuedClean] (trace (step .sample)
        (initial [queuedClean] sampleState.tables)
        (drain ++ [.advanceEQ, .handOverEQ 0, .executeEQ 0 .failing false])) s) ∧
    ∃ s, exec (step .sample) (initial [queuedClean] sampleState.tables)
        (drain ++ [.haltEQ, .advanceEQ]) = some s ∧
      ¬ Kept .sample [queuedClean] (trace (step .sample)
        (initial [queuedClean] sampleState.tables) (drain ++ [.haltEQ, .advanceEQ])) s := by
  refine ⟨⟨_, rfl, fun h => ?_⟩, _, rfl, fun h => ?_⟩
  · exact absurd (Multiset.card_le_card h) (by decide)
  · exact absurd (Multiset.card_le_card h) (by decide)

end Scheduler

end MRF.Center
