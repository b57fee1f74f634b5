import MRF.Center.Dao

/-!
# Center — Process

`MRFMessageProcessService`, and `MRFServiceImpl.process`, the `switch` over the message flags
through which a client's RPC reaches the tables.

Every branch calls one DAO method, so the transaction of that method is the whole of the call: a
call that throws leaves the tables as they were.  `Applied` lists what a call can do to the
tables, each case with what has to hold for it, and `processed_applied` is the inversion that
the invariants of the center are proved from.
-/

namespace MRF.Center
open MRF.Library Dao

variable {B : Type} [BusinessMsg B]

/-- What a call reads from outside the tables: the clock of the center, the database's
`CURRENT_TIMESTAMP`, the id `GlobalMessageIdGenerator` answers if it is asked, and whether the
database raises at each statement. -/
structure Env where
  currentTimeMillis : Int64
  currentTimestamp : Datetime
  newId : Int
  faults : List Bool
  deriving DecidableEq, Repr

namespace MRFMessageProcessService

/-- `new IntervalRetry(msgID, TO_RETRY, …, nextExecAt)`. -/
def newIntervalRetry (msgID : Int) (m : RetryMessage B) (nextExecAt : Datetime) :
    IntervalRetry B :=
  { msgID, retryQueueName := m.retryQueueName, businessMsg := m.businessMsg,
    retryInterval := m.retryInterval, retriedTimes := m.retriedTimes,
    maxRetryTimes := m.maxRetryTimes, checkoutAt := none, updatedAt := none, createdAt := none,
    retryState := .toRetry, nextExecAt }

/-- `new Recover(msgID, TO_RECOVER, …)` with the counts of the message. -/
def newRecover (msgID : Int) (m : RetryMessage B) : Recover B :=
  JoinDAO.newRecover msgID m.retryQueueName m.businessMsg m.retryInterval m.retriedTimes
    m.maxRetryTimes

/-- `new Recover(msgID, TO_RECOVER, …, -1, -1, -1)`. -/
def newDirectRecover (msgID : Int) (m : RetryMessage B) : Recover B :=
  JoinDAO.newRecover msgID m.retryQueueName m.businessMsg (-1) (-1) (-1)

omit [BusinessMsg B] in
@[simp] theorem newRecover_msgID (msgID : Int) (m : RetryMessage B) :
    (newRecover msgID m).msgID = msgID := rfl

/-- `nextExecAt` of `doIntervalMessageRetry`; the addition of two `long`s wraps. -/
def nextExecAt (e : Env) (m : RetryMessage B) : Datetime :=
  toDatetime (e.currentTimeMillis + m.retryInterval)

/-- The id `doMessageDirectToRecover` stores under. -/
def directId (e : Env) (m : RetryMessage B) : Int := if 0 < m.msgID then m.msgID else e.newId

/-- The record has been executed. -/
def cleanRecover (msgID : Int) : Dao (Tables B) Unit := do
  let _ ← RecoverDAO.deleteRecover msgID

/-- The message has been executed. -/
def cleanIntervalRetry (msgID : Int) : Dao (Tables B) Unit := do
  let _ ← IntervalRetryDAO.deleteIntervalRetry msgID

/-- The record is checked in, to be sent again. -/
def resendForRecover (e : Env) (msgID : Int) : Dao (Tables B) Unit := do
  let _ ← RecoverDAO.checkInRecover e.currentTimestamp msgID

/-- A message with an id is checked in, and another is stored. -/
def doIntervalMessageRetry (e : Env) (m : RetryMessage B) : Dao (Tables B) Unit := do
  if 0 < m.msgID then
    let _ ← IntervalRetryDAO.checkinIntervalRetry e.currentTimestamp
      (newIntervalRetry m.msgID m (nextExecAt e m))
  else
    let _ ← IntervalRetryDAO.addIntervalRetry e.currentTimestamp
      (newIntervalRetry e.newId m (nextExecAt e m))

/-- The row is moved to `recover`. -/
def doIntervalMessageRecover (e : Env) (m : RetryMessage B) : Dao (Tables B) Unit := do
  let _ ← JoinDAO.doIntervalMessageRecover e.currentTimestamp m

/-- An immediate retry has no row so far. -/
def doImmediateMessageRecover (e : Env) (m : RetryMessage B) : Dao (Tables B) Unit := do
  let _ ← RecoverDAO.addRecover e.currentTimestamp (newRecover e.newId m)

/-- Under the message's id, if it has one. -/
def doMessageDirectToRecover (e : Env) (m : RetryMessage B) : Dao (Tables B) Unit := do
  let _ ← RecoverDAO.addRecover e.currentTimestamp (newDirectRecover (directId e m) m)

end MRFMessageProcessService

open MRFMessageProcessService

/-- `RetryMessageProcessException`, around what the service threw. -/
structure RetryMessageProcessException where
  cause : DAOException
  deriving DecidableEq, Repr

namespace MRFServiceImpl

/-- The `switch` of `MRFServiceImpl.process`. -/
def handle (e : Env) (m : RetryMessage B) : Dao (Tables B) Unit :=
  match m.messageFlag with
  | .cleanRecover => cleanRecover m.msgID
  | .cleanIntervalRetry => cleanIntervalRetry m.msgID
  | .resendForRecover => resendForRecover e m.msgID
  | .intervalMsgDoRetry => doIntervalMessageRetry e m
  | .immediateMsgDoRetry => pure ()
  | .intervalMsgDoRecover => doIntervalMessageRecover e m
  | .immediateMsgDoRecover => doImmediateMessageRecover e m
  | .msgDirectToRecover => doMessageDirectToRecover e m
  | .other _ => pure ()

/-- `process`: the answer to the client and the tables afterwards. -/
def process (e : Env) (m : RetryMessage B) (t : Tables B) :
    Except RetryMessageProcessException Unit × Tables B :=
  match transactional (handle e m) e.faults t with
  | (.ok (), t') => (.ok (), t')
  | (.error cause, t') => (.error ⟨cause⟩, t')

end MRFServiceImpl

/-- The tables after a call of `process`, whether it returned or threw. -/
def processed (e : Env) (m : RetryMessage B) (t : Tables B) : Tables B :=
  (MRFServiceImpl.process e m t).2

/-- The tables after a call are those its transactions leave. -/
theorem processed_eq (e : Env) (m : RetryMessage B) (t : Tables B) :
    processed e m t = (transactional (MRFServiceImpl.handle e m) e.faults t).2 := by
  unfold processed MRFServiceImpl.process
  rcases transactional (MRFServiceImpl.handle e m) e.faults t with ⟨_ | _, _⟩ <;> rfl

/-! ### What a call does to the tables -/

/-- What `process` can turn the tables `t` into, on the message `m` in the environment `e`. -/
inductive Applied (e : Env) (m : RetryMessage B) (t : Tables B) : Tables B → Prop where
  /-- Nothing to do, a failed check, or a transaction that was rolled back. -/
  | unchanged : Applied e m t t
  | cleanRecover (hf : m.messageFlag = .cleanRecover) :
      Applied e m t (t.setRecover (t.recover.delete m.msgID))
  | cleanIntervalRetry (hf : m.messageFlag = .cleanIntervalRetry) :
      Applied e m t (t.setIntervalRetry (t.intervalRetry.delete m.msgID))
  | resendForRecover (hf : m.messageFlag = .resendForRecover) :
      Applied e m t (t.setRecover
        (t.recover.update m.msgID (RecoverDAO.checkedIn e.currentTimestamp)
          (RecoverDAO.checkedIn_msgID _)))
  | checkin (hf : m.messageFlag = .intervalMsgDoRetry) (hid : 0 < m.msgID)
      (hc : hasContent m.retryQueueName m.businessMsg = true) :
      Applied e m t (t.setIntervalRetry
        (t.intervalRetry.update m.msgID (IntervalRetryDAO.checkedIn e.currentTimestamp
          (newIntervalRetry m.msgID m (nextExecAt e m))) (IntervalRetryDAO.checkedIn_msgID _ _)))
  | addIntervalRetry (hf : m.messageFlag = .intervalMsgDoRetry) (hid : m.msgID ≤ 0)
      (hnew : 0 < e.newId) (hc : hasContent m.retryQueueName m.businessMsg = true)
      {u : Table (IntervalRetry B)}
      (hu : t.intervalRetry.insert (IntervalRetryDAO.insertedRow e.currentTimestamp
        (newIntervalRetry e.newId m (nextExecAt e m))) = some u) :
      Applied e m t (t.setIntervalRetry u)
  | moveToRecover (hf : m.messageFlag = .intervalMsgDoRecover) (hid : 0 < m.msgID)
      (hr : t.intervalRetry.get m.msgID ≠ none)
      (hc : hasContent m.retryQueueName m.businessMsg = true) {u : Table (Recover B)}
      (hu : t.recover.insert (RecoverDAO.insertedRow e.currentTimestamp
        (newRecover m.msgID m)) = some u) :
      Applied e m t ((t.setIntervalRetry (t.intervalRetry.delete m.msgID)).setRecover u)
  /-- The row is deleted, and `addRecover` answers `false` on an empty queue name or message. -/
  | moveToNowhere (hf : m.messageFlag = .intervalMsgDoRecover) (hid : 0 < m.msgID)
      (hr : t.intervalRetry.get m.msgID ≠ none)
      (hc : hasContent m.retryQueueName m.businessMsg = false)
      (hd : e.faults.head? ≠ some true) :
      Applied e m t (t.setIntervalRetry (t.intervalRetry.delete m.msgID))
  | immediateToRecover (hf : m.messageFlag = .immediateMsgDoRecover) (hnew : 0 < e.newId)
      (hc : hasContent m.retryQueueName m.businessMsg = true) {u : Table (Recover B)}
      (hu : t.recover.insert (RecoverDAO.insertedRow e.currentTimestamp
        (newRecover e.newId m)) = some u) :
      Applied e m t (t.setRecover u)
  | directToRecover (hf : m.messageFlag = .msgDirectToRecover) (hid : 0 < directId e m)
      (hc : hasContent m.retryQueueName m.businessMsg = true) {u : Table (Recover B)}
      (hu : t.recover.insert (RecoverDAO.insertedRow e.currentTimestamp
        (newDirectRecover (directId e m) m)) = some u) :
      Applied e m t (t.setRecover u)

/-- What `addRecover` does when it does not raise. -/
theorem addRecover_ok {now : Datetime} {r : Recover B} {s s' : Session (Tables B)} {b : Bool}
    (h : RecoverDAO.addRecover now r s = .ok (b, s')) :
    (RecoverDAO.isRecoverValid r = false ∧ s' = s) ∨
      RecoverDAO.isRecoverValid r = true ∧ ∃ u,
        s.tables.recover.insert (RecoverDAO.insertedRow now r) = some u ∧
          s'.tables = s.tables.setRecover u := by
  unfold RecoverDAO.addRecover at h
  cases hv : RecoverDAO.isRecoverValid r with
  | false =>
      simp only [hv, Bool.not_false, if_true] at h
      cases h
      exact .inl ⟨rfl, rfl⟩
  | true =>
      simp only [hv, Bool.not_true, Bool.false_eq_true, if_false] at h
      have hstmt := execute_ok h
      obtain ⟨u, hu, he⟩ := Option.map_eq_some_iff.mp hstmt
      exact .inr ⟨rfl, u, hu, (Prod.mk.inj he).2.symm⟩

omit [BusinessMsg B] in
/-- What `deleteIntervalRetry` does when it does not raise. -/
theorem deleteIntervalRetry_ok {msgID : Int} {s s' : Session (Tables B)} {b : Bool}
    (h : IntervalRetryDAO.deleteIntervalRetry msgID s = .ok (b, s')) :
    (msgID ≤ 0 ∧ b = false ∧ s' = s) ∨
      0 < msgID ∧ s.faults.head? ≠ some true ∧ b = (s.tables.intervalRetry.get msgID).isSome ∧
        s'.tables = s.tables.setIntervalRetry (s.tables.intervalRetry.delete msgID) := by
  unfold IntervalRetryDAO.deleteIntervalRetry at h
  split at h
  · next hid => cases h; exact .inl ⟨hid, rfl, rfl⟩
  · next hid =>
      obtain ⟨hb, ht⟩ := Prod.mk.inj (Option.some.inj (execute_ok h))
      exact .inr ⟨by omega, execute_ok_faults h, hb.symm, ht.symm⟩

/-- The transaction of `doIntervalMessageRecover`, on a message it completes for. -/
theorem doIntervalMessageRecover_applied {e : Env} {m : RetryMessage B} {t : Tables B}
    {s : Session (Tables B)} {b : Bool} (hf : m.messageFlag = .intervalMsgDoRecover)
    (h : JoinDAO.doIntervalMessageRecover e.currentTimestamp m ⟨t, e.faults⟩ = .ok (b, s)) :
    Applied e m t s.tables := by
  obtain ⟨deleted, s₁, h₁, h⟩ := bind_ok h
  rcases deleteIntervalRetry_ok h₁ with ⟨-, rfl, rfl⟩ | ⟨hid, hd, rfl, ht₁⟩
  · cases h; exact .unchanged
  · cases hg : t.intervalRetry.get m.msgID with
    | none =>
        simp only [hg] at h
        cases h
        rw [ht₁, Table.delete_of_get_eq_none hg]
        exact .unchanged
    | some r =>
        simp only [hg, Option.isSome_some, if_true] at h
        obtain ⟨b', s₂, h₂, h⟩ := bind_ok h
        cases h
        have hr : t.intervalRetry.get m.msgID ≠ none := by simp [hg]
        rcases addRecover_ok h₂ with ⟨hv, rfl⟩ | ⟨hv, u, hu, ht₂⟩
        · rw [ht₁]
          exact .moveToNowhere hf hid hr
            (by simpa [RecoverDAO.isRecoverValid, JoinDAO.newRecover, hid] using hv) hd
        · rw [ht₂, ht₁]
          rw [ht₁] at hu
          refine .moveToRecover hf hid hr ?_ hu
          simpa [RecoverDAO.isRecoverValid, JoinDAO.newRecover, hid] using hv

/-- A call of a service method whose transaction commits, for the flags that write one row. -/
theorem addRecover_applied {now : Datetime} {r : Recover B} {faults : List Bool} {t : Tables B}
    {s : Session (Tables B)} {b : Bool} (h : RecoverDAO.addRecover now r ⟨t, faults⟩ = .ok (b, s)) :
    s.tables = t ∨ (0 < r.msgID ∧ hasContent r.retryQueueName r.businessMsg = true ∧ ∃ u,
      t.recover.insert (RecoverDAO.insertedRow now r) = some u ∧ s.tables = t.setRecover u) := by
  rcases addRecover_ok h with ⟨-, rfl⟩ | ⟨hv, u, hu, ht⟩
  · exact .inl rfl
  · simp only [RecoverDAO.isRecoverValid, Bool.and_eq_true, decide_eq_true_eq] at hv
    exact .inr ⟨hv.1, hv.2, u, hu, ht⟩

/-- The handler of `INTERVAL_MSG_DO__RETRY`. -/
theorem doIntervalMessageRetry_applied {e : Env} {m : RetryMessage B} {t : Tables B}
    {s : Session (Tables B)} (hf : m.messageFlag = .intervalMsgDoRetry)
    (h : doIntervalMessageRetry e m ⟨t, e.faults⟩ = .ok ((), s)) : Applied e m t s.tables := by
  unfold doIntervalMessageRetry at h
  split at h
  · next hid =>
      obtain ⟨b, s₁, h, h'⟩ := bind_ok h
      cases h'
      unfold IntervalRetryDAO.checkinIntervalRetry at h
      split at h
      · cases h; exact .unchanged
      · next hv =>
          obtain ⟨-, ht⟩ := Prod.mk.inj (Option.some.inj (execute_ok h))
          rw [← ht]
          refine .checkin hf hid ?_
          simpa [IntervalRetryDAO.isIntervalRetryValid, newIntervalRetry, hid] using hv
  · next hid =>
      obtain ⟨b, s₁, h, h'⟩ := bind_ok h
      cases h'
      unfold IntervalRetryDAO.addIntervalRetry at h
      split at h
      · cases h; exact .unchanged
      · next hv =>
          have hstmt := execute_ok h
          obtain ⟨u, hu, he⟩ := Option.map_eq_some_iff.mp hstmt
          rw [← (Prod.mk.inj he).2]
          simp only [IntervalRetryDAO.isIntervalRetryValid, newIntervalRetry, Bool.not_eq_true,
            Bool.not_eq_false', Bool.and_eq_true] at hv
          exact .addIntervalRetry hf (by omega) (of_decide_eq_true hv.1) hv.2 hu

/-- **What `process` does.**  The tables after a call are related to the tables before by
`Applied`. -/
theorem processed_applied (e : Env) (m : RetryMessage B) (t : Tables B) :
    Applied e m t (processed e m t) := by
  rw [processed_eq]
  rcases transactional_cases (MRFServiceImpl.handle e m) e.faults t with
    ⟨⟨⟩, s, h, ht⟩ | ⟨_, ht⟩
  · rw [ht]
    unfold MRFServiceImpl.handle at h
    cases hf : m.messageFlag with
    | cleanRecover =>
        simp only [hf] at h
        obtain ⟨b, s₁, h, h'⟩ := bind_ok h
        cases h'
        unfold RecoverDAO.deleteRecover at h
        split at h
        · cases h; exact .unchanged
        · rw [← (Prod.mk.inj (Option.some.inj (execute_ok h))).2]; exact .cleanRecover hf
    | cleanIntervalRetry =>
        simp only [hf] at h
        obtain ⟨b, s₁, h, h'⟩ := bind_ok h
        cases h'
        rcases deleteIntervalRetry_ok h with ⟨-, -, rfl⟩ | ⟨-, -, -, ht⟩
        · exact .unchanged
        · rw [ht]; exact .cleanIntervalRetry hf
    | resendForRecover =>
        simp only [hf] at h
        obtain ⟨b, s₁, h, h'⟩ := bind_ok h
        cases h'
        unfold RecoverDAO.checkInRecover at h
        split at h
        · cases h; exact .unchanged
        · rw [← (Prod.mk.inj (Option.some.inj (execute_ok h))).2]; exact .resendForRecover hf
    | intervalMsgDoRetry =>
        simp only [hf] at h
        exact doIntervalMessageRetry_applied hf h
    | intervalMsgDoRecover =>
        simp only [hf] at h
        obtain ⟨b, s₁, h, h'⟩ := bind_ok h
        cases h'
        exact doIntervalMessageRecover_applied hf h
    | immediateMsgDoRecover =>
        simp only [hf] at h
        obtain ⟨b, s₁, h, h'⟩ := bind_ok h
        cases h'
        rcases addRecover_applied h with ht | ⟨hid, hc, u, hu, ht⟩
        · rw [ht]; exact .unchanged
        · rw [ht]; exact .immediateToRecover hf hid hc hu
    | msgDirectToRecover =>
        simp only [hf] at h
        obtain ⟨b, s₁, h, h'⟩ := bind_ok h
        cases h'
        rcases addRecover_applied h with ht | ⟨hid, hc, u, hu, ht⟩
        · rw [ht]; exact .unchanged
        · rw [ht]; exact .directToRecover hf hid hc hu
    | immediateMsgDoRetry | other _ =>
        -- the branch of the `switch` is empty
        simp only [hf] at h
        cases h
        exact .unchanged
  · rw [ht]; exact .unchanged

/-! ### Calls that do not raise -/

omit [BusinessMsg B] in
theorem transactional_nil {α : Type} {d : Dao (Tables B) α} {t t' : Tables B} {a : α}
    (h : d ⟨t, []⟩ = .ok (a, ⟨t', []⟩)) : transactional d [] t = (.ok a, t') := by
  unfold transactional
  rw [h]

/-- A call whose program completes. -/
theorem process_of_handle {e : Env} {m : RetryMessage B} {t t' : Tables B} (he : e.faults = [])
    (hd : MRFServiceImpl.handle e m ⟨t, []⟩ = .ok ((), ⟨t', []⟩)) :
    MRFServiceImpl.process e m t = (.ok (), t') := by
  unfold MRFServiceImpl.process
  rw [he, transactional_nil hd]

/-- A service method that calls one DAO method, and does not look at its answer. -/
theorem process_of_statement {e : Env} {m : RetryMessage B} {t t' : Tables B}
    {d : Dao (Tables B) Bool} {b : Bool} (he : e.faults = [])
    (hm : MRFServiceImpl.handle e m = d >>= fun _ => pure ())
    (hd : d ⟨t, []⟩ = .ok (b, ⟨t', []⟩)) : MRFServiceImpl.process e m t = (.ok (), t') := by
  refine process_of_handle he ?_
  rw [hm, bind_apply, hd]
  rfl

theorem processed_of_statement {e : Env} {m : RetryMessage B} {t t' : Tables B}
    {d : Dao (Tables B) Bool} {b : Bool} (he : e.faults = [])
    (hm : MRFServiceImpl.handle e m = d >>= fun _ => pure ())
    (hd : d ⟨t, []⟩ = .ok (b, ⟨t', []⟩)) : processed e m t = t' :=
  congrArg Prod.snd (process_of_statement he hm hd)

/-- A clean-up deletes the row of its id. -/
theorem process_cleanIntervalRetry {e : Env} {m : RetryMessage B} {t : Tables B}
    (he : e.faults = []) (hf : m.messageFlag = .cleanIntervalRetry) (hid : 0 < m.msgID) :
    MRFServiceImpl.process e m t =
      (.ok (), t.setIntervalRetry (t.intervalRetry.delete m.msgID)) := by
  refine process_of_statement (d := IntervalRetryDAO.deleteIntervalRetry m.msgID)
    (b := (t.intervalRetry.get m.msgID).isSome) he ?_ ?_
  · simp only [MRFServiceImpl.handle, hf, MRFMessageProcessService.cleanIntervalRetry]
  · simp only [IntervalRetryDAO.deleteIntervalRetry, if_neg (Int.not_le.mpr hid), execute_nil]

theorem processed_cleanIntervalRetry {e : Env} {m : RetryMessage B} {t : Tables B}
    (he : e.faults = []) (hf : m.messageFlag = .cleanIntervalRetry) (hid : 0 < m.msgID) :
    processed e m t = t.setIntervalRetry (t.intervalRetry.delete m.msgID) :=
  congrArg Prod.snd (process_cleanIntervalRetry he hf hid)

theorem processed_cleanRecover {e : Env} {m : RetryMessage B} {t : Tables B}
    (he : e.faults = []) (hf : m.messageFlag = .cleanRecover) (hid : 0 < m.msgID) :
    processed e m t = t.setRecover (t.recover.delete m.msgID) := by
  refine processed_of_statement (d := RecoverDAO.deleteRecover m.msgID)
    (b := (t.recover.get m.msgID).isSome) he ?_ ?_
  · simp only [MRFServiceImpl.handle, hf, MRFMessageProcessService.cleanRecover]
  · simp only [RecoverDAO.deleteRecover, if_neg (Int.not_le.mpr hid), execute_nil]

theorem processed_resendForRecover {e : Env} {m : RetryMessage B} {t : Tables B}
    (he : e.faults = []) (hf : m.messageFlag = .resendForRecover) (hid : 0 < m.msgID) :
    processed e m t = t.setRecover (t.recover.update m.msgID
      (RecoverDAO.checkedIn e.currentTimestamp) (RecoverDAO.checkedIn_msgID _)) := by
  refine processed_of_statement (d := RecoverDAO.checkInRecover e.currentTimestamp m.msgID)
    (b := (t.recover.get m.msgID).isSome) he ?_ ?_
  · simp only [MRFServiceImpl.handle, hf, MRFMessageProcessService.resendForRecover]
  · simp only [RecoverDAO.checkInRecover, if_neg (Int.not_le.mpr hid), execute_nil]

section
variable {e : Env} {m : RetryMessage B} {t : Tables B} (he : e.faults = [])
  (hc : hasContent m.retryQueueName m.businessMsg = true)
include he hc

/-- The first failure is stored under a new id. -/
theorem process_addIntervalRetry (hf : m.messageFlag = .intervalMsgDoRetry) (hid : m.msgID ≤ 0)
    (hnew : 0 < e.newId) {u : Table (IntervalRetry B)}
    (hu : t.intervalRetry.insert (IntervalRetryDAO.insertedRow e.currentTimestamp
      (newIntervalRetry e.newId m (nextExecAt e m))) = some u) :
    MRFServiceImpl.process e m t = (.ok (), t.setIntervalRetry u) := by
  have hv : IntervalRetryDAO.isIntervalRetryValid
      (newIntervalRetry e.newId m (nextExecAt e m)) = true := by
    simp only [IntervalRetryDAO.isIntervalRetryValid, newIntervalRetry, hc, hnew, decide_true,
      Bool.and_true]
  refine process_of_statement he ?_ (IntervalRetryDAO.addIntervalRetry_nil hv hu)
  simp only [MRFServiceImpl.handle, hf, doIntervalMessageRetry, if_neg (Int.not_lt.mpr hid)]

/-- A later failure checks its row in. -/
theorem process_checkin (hf : m.messageFlag = .intervalMsgDoRetry) (hid : 0 < m.msgID) :
    MRFServiceImpl.process e m t = (.ok (), t.setIntervalRetry
      (t.intervalRetry.update m.msgID (IntervalRetryDAO.checkedIn e.currentTimestamp
        (newIntervalRetry m.msgID m (nextExecAt e m)))
        (IntervalRetryDAO.checkedIn_msgID _ _))) := by
  refine process_of_statement he
    (d := IntervalRetryDAO.checkinIntervalRetry e.currentTimestamp
      (newIntervalRetry m.msgID m (nextExecAt e m)))
    (b := (t.intervalRetry.get m.msgID).isSome) ?_ ?_
  · simp only [MRFServiceImpl.handle, hf, doIntervalMessageRetry, if_pos hid]
  · simp [IntervalRetryDAO.checkinIntervalRetry, IntervalRetryDAO.isIntervalRetryValid,
      newIntervalRetry, hc, hid, execute_nil]

/-- The last failure moves the row to `recover`. -/
theorem process_moveToRecover (hf : m.messageFlag = .intervalMsgDoRecover) (hid : 0 < m.msgID)
    (hr : t.intervalRetry.get m.msgID ≠ none) {u : Table (Recover B)}
    (hu : t.recover.insert (RecoverDAO.insertedRow e.currentTimestamp
      (newRecover m.msgID m)) = some u) :
    MRFServiceImpl.process e m t =
      (.ok (), (t.setIntervalRetry (t.intervalRetry.delete m.msgID)).setRecover u) := by
  have hv : RecoverDAO.isRecoverValid (newRecover m.msgID m) = true := by
    simp only [RecoverDAO.isRecoverValid, newRecover, JoinDAO.newRecover, hc, hid, decide_true,
      Bool.and_true]
  have hadd := RecoverDAO.addRecover_nil
    (t := t.setIntervalRetry (t.intervalRetry.delete m.msgID)) hv hu
  refine process_of_statement he
    (d := JoinDAO.doIntervalMessageRecover e.currentTimestamp m) (b := true) ?_ ?_
  · simp only [MRFServiceImpl.handle, hf, doIntervalMessageRecover]
  · simp only [JoinDAO.doIntervalMessageRecover, IntervalRetryDAO.deleteIntervalRetry,
      if_neg (Int.not_le.mpr hid), bind_apply, execute_nil,
      Option.isSome_iff_ne_none.mpr hr, if_true]
    simp only [newRecover] at hadd
    rw [hadd]
    rfl

/-- The last failure of an immediate retry is stored under a new id. -/
theorem process_immediateToRecover (hf : m.messageFlag = .immediateMsgDoRecover)
    (hnew : 0 < e.newId) {u : Table (Recover B)}
    (hu : t.recover.insert (RecoverDAO.insertedRow e.currentTimestamp
      (newRecover e.newId m)) = some u) :
    MRFServiceImpl.process e m t = (.ok (), t.setRecover u) := by
  have hv : RecoverDAO.isRecoverValid (newRecover e.newId m) = true := by
    simp only [RecoverDAO.isRecoverValid, newRecover, JoinDAO.newRecover, hc, hnew, decide_true,
      Bool.and_true]
  refine process_of_statement he ?_ (RecoverDAO.addRecover_nil hv hu)
  simp only [MRFServiceImpl.handle, hf, doImmediateMessageRecover]

/-- A message that is not retried is stored in `recover` at once. -/
theorem process_directToRecover (hf : m.messageFlag = .msgDirectToRecover)
    (hid : 0 < directId e m) {u : Table (Recover B)}
    (hu : t.recover.insert (RecoverDAO.insertedRow e.currentTimestamp
      (newDirectRecover (directId e m) m)) = some u) :
    MRFServiceImpl.process e m t = (.ok (), t.setRecover u) := by
  have hv : RecoverDAO.isRecoverValid (newDirectRecover (directId e m) m) = true := by
    simp only [RecoverDAO.isRecoverValid, newDirectRecover, JoinDAO.newRecover, hc, hid,
      decide_true, Bool.and_true]
  refine process_of_statement he ?_ (RecoverDAO.addRecover_nil hv hu)
  simp only [MRFServiceImpl.handle, hf, doMessageDirectToRecover]

end

end MRF.Center
