import MRF.Center.Process

/-!
# Center — ExceptionQueue

The execute action of `PollEQTaskSchedulerThread`: a second `switch` over the message flags, for
the messages that clients sent to the exception queue when an RPC failed.

The two switches differ in one flag.  `MSG_DIRECT_TO_RECOVER` has no case here, so the poll drops
such a message, while `MRFServiceImpl.process` stores it.
-/

namespace MRF.Center
open MRF.Library MRFMessageProcessService

variable {B : Type} [BusinessMsg B]

namespace PollEQTaskSchedulerThread

/-- The `switch` of `constructPollTaskRunner`. -/
def handle (e : Env) (m : RetryMessage B) : Dao (Tables B) Unit :=
  match m.messageFlag with
  | .cleanRecover => cleanRecover m.msgID
  | .cleanIntervalRetry => cleanIntervalRetry m.msgID
  | .resendForRecover => resendForRecover e m.msgID
  | .intervalMsgDoRetry => doIntervalMessageRetry e m
  | .immediateMsgDoRetry => pure ()
  | .intervalMsgDoRecover => doIntervalMessageRecover e m
  | .immediateMsgDoRecover => doImmediateMessageRecover e m
  | _ => pure ()

/-- One round of the loop.  What the service throws is logged, and the loop goes on. -/
def handled (e : Env) (m : RetryMessage B) (t : Tables B) : Tables B :=
  (Dao.transactional (handle e m) e.faults t).2

/-- `execute`, on a drained batch. -/
def execute (t : Tables B) : List (Env × RetryMessage B) → Tables B
  | [] => t
  | (e, m) :: l => execute (handled e m t) l

end PollEQTaskSchedulerThread

open PollEQTaskSchedulerThread

/-- `MRFServiceImpl.process` on each message of a list, a call that throws being skipped. -/
def processAll (t : Tables B) : List (Env × RetryMessage B) → Tables B
  | [] => t
  | (e, m) :: l => processAll (processed e m t) l

theorem handled_of_ne {e : Env} {m : RetryMessage B} (t : Tables B)
    (h : m.messageFlag ≠ .msgDirectToRecover) : handled e m t = processed e m t := by
  rw [processed_eq]
  unfold handled PollEQTaskSchedulerThread.handle MRFServiceImpl.handle
  cases hf : m.messageFlag with
  | msgDirectToRecover => exact absurd hf h
  | _ => rfl

theorem handled_of_eq {e : Env} {m : RetryMessage B} (t : Tables B)
    (h : m.messageFlag = .msgDirectToRecover) : handled e m t = t := by
  simp only [handled, PollEQTaskSchedulerThread.handle, h]
  rfl

/-- The exception queue applies a message as `process` does, or drops it. -/
theorem handled_eq (e : Env) (m : RetryMessage B) (t : Tables B) :
    handled e m t = if m.messageFlag = .msgDirectToRecover then t else processed e m t := by
  split
  · next h => exact handled_of_eq t h
  · next h => exact handled_of_ne t h

/-- A message that `doMessageDirectToRecover` would store. -/
def StoredDirectly (m : RetryMessage B) : Prop :=
  m.messageFlag = .msgDirectToRecover ∧ hasContent m.retryQueueName m.businessMsg = true

/-- On a message without content the two switches agree also for the flag that one of them
misses: `addRecover` refuses it. -/
theorem processed_of_not_storedDirectly {e : Env} {m : RetryMessage B} (t : Tables B)
    (h : ¬ StoredDirectly m) : processed e m t = handled e m t := by
  by_cases hf : m.messageFlag = .msgDirectToRecover
  · rw [handled_of_eq t hf]
    generalize hu : processed e m t = u
    have ha := hu ▸ processed_applied e m t
    -- of the cases of `Applied` only the last one has this flag
    cases ha with
    | unchanged => rfl
    | directToRecover hf' _ hc _ => exact absurd ⟨hf', hc⟩ h
    | _ => simp_all
  · exact (handled_of_ne t hf).symm

theorem execute_eq_processAll (l : List (Env × RetryMessage B))
    (h : ∀ p ∈ l, ¬ StoredDirectly p.2) (t : Tables B) : execute t l = processAll t l := by
  induction l generalizing t with
  | nil => rfl
  | cons p l ih =>
      have hp := processed_of_not_storedDirectly (e := p.1) t (h p List.mem_cons_self)
      unfold execute processAll
      rw [hp]
      exact ih (fun q hq => h q (List.mem_cons_of_mem _ hq)) _

/-! ### Where the two paths agree -/

/-- An environment in which every statement raises. -/
def Env.failing : Env := ⟨0, 0, 1, [true]⟩

/-- An environment in which no statement raises. -/
def Env.working : Env := ⟨0, 0, 1, []⟩

/-- A program that answers, when its first statement is to raise, has run no statement. -/
def Silent {α : Type} (d : Dao (Tables B) α) : Prop :=
  ∀ t faults a s, d ⟨t, true :: faults⟩ = .ok (a, s) → s = ⟨t, true :: faults⟩

omit [BusinessMsg B] in
theorem silent_pure {α : Type} (a : α) : Silent (pure a : Dao (Tables B) α) := by
  intro t faults a' s h
  cases h
  rfl

omit [BusinessMsg B] in
theorem silent_bind {α β : Type} {d : Dao (Tables B) α} {f : α → Dao (Tables B) β} (hd : Silent d)
    (hf : ∀ a, Silent (f a)) : Silent (d >>= f) := by
  intro t faults b s h
  obtain ⟨a, s₁, h₁, h₂⟩ := Dao.bind_ok h
  obtain rfl := hd _ _ _ _ h₁
  exact hf a _ _ _ _ h₂

omit [BusinessMsg B] in
/-- The shape of every DAO method: an early return, or one statement. -/
theorem silent_statement {α : Type} {c : Prop} [Decidable c] (a : α) (name : String)
    (stmt : Tables B → Option (α × Tables B)) :
    Silent (if c then pure a else Dao.execute name stmt) := by
  split
  · exact silent_pure a
  · intro t faults a' s h
    cases h

theorem silent_handle (e : Env) (m : RetryMessage B) : Silent (MRFServiceImpl.handle e m) := by
  unfold MRFServiceImpl.handle
  cases m.messageFlag with
  | cleanRecover => exact silent_bind (silent_statement _ _ _) fun _ => silent_pure ()
  | cleanIntervalRetry => exact silent_bind (silent_statement _ _ _) fun _ => silent_pure ()
  | resendForRecover => exact silent_bind (silent_statement _ _ _) fun _ => silent_pure ()
  | intervalMsgDoRetry =>
      refine iteInduction (motive := Silent) (fun _ => ?_) fun _ => ?_
      · exact silent_bind (silent_statement _ _ _) fun _ => silent_pure ()
      · exact silent_bind (silent_statement _ _ _) fun _ => silent_pure ()
  | intervalMsgDoRecover =>
      refine silent_bind (silent_bind (silent_statement _ _ _) fun deleted => ?_) fun _ =>
        silent_pure ()
      split
      · exact silent_bind (silent_statement _ _ _) fun _ => silent_pure _
      · exact silent_pure _
  | immediateMsgDoRecover => exact silent_bind (silent_statement _ _ _) fun _ => silent_pure ()
  | msgDirectToRecover => exact silent_bind (silent_statement _ _ _) fun _ => silent_pure ()
  | immediateMsgDoRetry => exact silent_pure ()
  | other _ => exact silent_pure ()

theorem processed_failing (m : RetryMessage B) (t : Tables B) : processed .failing m t = t := by
  rw [processed_eq]
  rcases Dao.transactional_cases (MRFServiceImpl.handle .failing m) Env.failing.faults t with
    ⟨_, s, h, ht⟩ | ⟨_, ht⟩
  · rw [ht, silent_handle _ _ _ _ _ _ h]
  · rw [ht]

/-- A list whose calls all raise changes nothing, on either path. -/
theorem processAll_failing (ms : List (RetryMessage B)) (t : Tables B) :
    processAll t (ms.map fun m => (.failing, m)) = t := by
  induction ms with
  | nil => rfl
  | cons m ms ih =>
      unfold List.map processAll
      rw [processed_failing]
      exact ih

theorem execute_failing (ms : List (RetryMessage B)) (t : Tables B) :
    execute t (ms.map fun m => (.failing, m)) = t := by
  induction ms with
  | nil => rfl
  | cons m ms ih =>
      unfold List.map execute
      rw [handled_eq, processed_failing, ite_self]
      exact ih

theorem execute_append (t : Tables B) (l l' : List (Env × RetryMessage B)) :
    execute t (l ++ l') = execute (execute t l) l' := by
  induction l generalizing t with
  | nil => rfl
  | cons p l ih => exact ih _

theorem processAll_append (t : Tables B) (l l' : List (Env × RetryMessage B)) :
    processAll t (l ++ l') = processAll (processAll t l) l' := by
  induction l generalizing t with
  | nil => rfl
  | cons p l ih => exact ih _

/-- With a working database, `process` stores the message that the exception queue drops. -/
theorem processed_storedDirectly {m : RetryMessage B} (h : StoredDirectly m) :
    (processed .working m Tables.empty).recover.get (directId .working m) ≠ none := by
  have hid : 0 < directId .working m := by
    unfold directId
    split
    · assumption
    · exact Int.one_pos
  obtain ⟨u, hu⟩ := Table.insert_isSome (t := (Tables.empty : Tables B).recover)
    (r := RecoverDAO.insertedRow Env.working.currentTimestamp
      (newDirectRecover (directId .working m) m)) rfl
  rw [processed, process_directToRecover rfl h.2 h.1 hid hu, Tables.setRecover_recover,
    Table.get_insert hu]
  simp [RecoverDAO.insertedRow, newDirectRecover, JoinDAO.newRecover]

/-- **The exception-queue path agrees with the RPC path on exactly the batches without a
`MSG_DIRECT_TO_RECOVER` message that has content.** -/
theorem execute_eq_processAll_iff (ms : List (RetryMessage B)) :
    (∀ (t : Tables B) (l : List (Env × RetryMessage B)), l.map Prod.snd = ms →
        execute t l = processAll t l) ↔
      ∀ m ∈ ms, m.messageFlag = .msgDirectToRecover →
        hasContent m.retryQueueName m.businessMsg = false := by
  constructor
  · intro h m hm hf
    by_contra hc
    have hs : StoredDirectly m := ⟨hf, by simpa using hc⟩
    obtain ⟨pre, post, rfl⟩ := List.append_of_mem hm
    -- the database works for this one message alone
    have heq := h Tables.empty
      (pre.map (fun m => (.failing, m)) ++ (.working, m) :: post.map fun m => (.failing, m))
      (by simp [Function.comp_def])
    rw [execute_append, processAll_append, execute_failing, processAll_failing] at heq
    unfold execute processAll at heq
    rw [execute_failing, processAll_failing, handled_of_eq _ hf] at heq
    exact processed_storedDirectly hs (heq ▸ rfl)
  · intro h t l hl
    refine execute_eq_processAll l (fun p hp hs => ?_) t
    have hc := h p.2 (hl ▸ List.mem_map_of_mem hp) hs.1
    rw [hs.2] at hc
    cases hc

/-- The failover of a first failure in a queue that is configured direct-to-recover. -/
def directMessage : RetryMessage String :=
  { msgID := 0, retryQueueName := "feed_retry", businessMsg := "post 1", retryInterval := -1,
    retriedTimes := 0, maxRetryTimes := -1, messageFlag := .msgDirectToRecover,
    isFromRecover := false }

theorem execute_drops_directMessage :
    execute Tables.empty [(.working, directMessage)] ≠
      processAll Tables.empty [(.working, directMessage)] := by
  intro h
  have hrow := congrArg (fun t : Tables String => (t.recover.get 1).isSome) h
  exact absurd hrow (by decide)

end MRF.Center
