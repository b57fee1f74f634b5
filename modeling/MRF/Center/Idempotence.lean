import MRF.Center.State

/-!
# Center — Idempotence

`MRFServiceImpl.process` applied twice to the same message, as happens when an RPC is executed by
the center and still raises at the client, which then sends the message through the exception queue.

The tables are compared up to the columns that the clock writes.  `process_idempotent_iff`: the
second call changes nothing, unless the message is stored under an id that the call generates.
-/

namespace MRF.Center
open MRF.Library Dao State MRFMessageProcessService

variable {B : Type} [BusinessMsg B] {e e' : Env} {m : RetryMessage B} {t t' : Tables B} {x : Int}

/-! ### Up to timestamps -/

/-- The row without its three timestamps. -/
def MessageRecord.untimed (r : MessageRecord B) : MessageRecord B :=
  { r with checkoutAt := none, updatedAt := none, createdAt := none }

/-- The row without its timestamps, the next execution included. -/
def IntervalRetry.untimed (r : IntervalRetry B) : IntervalRetry B :=
  { r with toMessageRecord := r.toMessageRecord.untimed, nextExecAt := 0 }

/-- The row without its timestamps. -/
def Recover.untimed (r : Recover B) : Recover B :=
  { r with toMessageRecord := r.toMessageRecord.untimed }

/-- The tables have the same rows, up to timestamps. -/
structure SameButTimes (t t' : Tables B) : Prop where
  intervalRetry : Table.SameUpTo IntervalRetry.untimed t.intervalRetry t'.intervalRetry
  recover : Table.SameUpTo Recover.untimed t.recover t'.recover

omit [BusinessMsg B] in
theorem SameButTimes.refl (t : Tables B) : SameButTimes t t := ⟨.refl _ _, .refl _ _⟩

/-! ### Calls without faults -/

/-- The tables after a DAO method in a transaction of its own. -/
def after {α : Type} (d : Dao (Tables B) α) (t : Tables B) : Tables B := (transactional d [] t).2

omit [BusinessMsg B] in
/-- A statement that fails leaves the tables. -/
theorem after_execute {α : Type} (name : String) (stmt : Tables B → Option (α × Tables B))
    (t : Tables B) : after (execute name stmt) t = ((stmt t).map Prod.snd).getD t := by
  unfold after transactional
  rw [execute_nil]
  cases stmt t <;> rfl

/-- A service method that calls one DAO method. -/
theorem processed_eq_after {α : Type} {d : Dao (Tables B) α} (he : e.faults = [])
    (hm : MRFServiceImpl.handle e m = d >>= fun _ => pure ()) : processed e m t = after d t := by
  rw [processed_eq, he, hm]
  unfold after transactional
  rw [bind_apply]
  cases d ⟨t, []⟩ <;> rfl

/-! ### DAO methods applied twice -/

section
variable {now now' : Datetime}

omit [BusinessMsg B] in
/-- The second delete finds no row. -/
theorem deleteRecover_twice : SameButTimes
    (after (RecoverDAO.deleteRecover x) (after (RecoverDAO.deleteRecover x) t))
    (after (RecoverDAO.deleteRecover x) t) := by
  unfold RecoverDAO.deleteRecover
  split
  · exact .refl _
  · simp only [after_execute, Option.map_some, Option.getD_some]
    exact ⟨.refl _ _, fun _ => by rw [Tables.setRecover_recover, Tables.setRecover_recover,
      Table.delete_delete]⟩

omit [BusinessMsg B] in
theorem deleteIntervalRetry_twice : SameButTimes
    (after (IntervalRetryDAO.deleteIntervalRetry x)
      (after (IntervalRetryDAO.deleteIntervalRetry x) t))
    (after (IntervalRetryDAO.deleteIntervalRetry x) t) := by
  unfold IntervalRetryDAO.deleteIntervalRetry
  split
  · exact .refl _
  · simp only [after_execute, Option.map_some, Option.getD_some]
    exact ⟨fun _ => by rw [Tables.setIntervalRetry_intervalRetry,
      Tables.setIntervalRetry_intervalRetry, Table.delete_delete], .refl _ _⟩

omit [BusinessMsg B] in
/-- The second check-in writes the same state. -/
theorem checkInRecover_twice (now now' : Datetime) : SameButTimes
    (after (RecoverDAO.checkInRecover now' x) (after (RecoverDAO.checkInRecover now x) t))
    (after (RecoverDAO.checkInRecover now x) t) := by
  unfold RecoverDAO.checkInRecover
  split
  · exact .refl _
  · simp only [after_execute, Option.map_some, Option.getD_some]
    refine ⟨.refl _ _, Table.sameUpTo_update_update ?_ ?_ fun _ => rfl⟩
    · exact RecoverDAO.checkedIn_msgID now
    · exact RecoverDAO.checkedIn_msgID now'

/-- The second check-in writes the same row, but for its times. -/
theorem checkinIntervalRetry_twice (now now' next next' : Datetime) : SameButTimes
    (after (IntervalRetryDAO.checkinIntervalRetry now' (newIntervalRetry x m next'))
      (after (IntervalRetryDAO.checkinIntervalRetry now (newIntervalRetry x m next)) t))
    (after (IntervalRetryDAO.checkinIntervalRetry now (newIntervalRetry x m next)) t) := by
  have hv : IntervalRetryDAO.isIntervalRetryValid (newIntervalRetry x m next') =
      IntervalRetryDAO.isIntervalRetryValid (newIntervalRetry x m next) := rfl
  unfold IntervalRetryDAO.checkinIntervalRetry
  rw [hv]
  split
  · exact .refl _
  · simp only [after_execute, Option.map_some, Option.getD_some]
    refine ⟨Table.sameUpTo_update_update ?_ ?_ fun _ => rfl, .refl _ _⟩
    · exact IntervalRetryDAO.checkedIn_msgID now _
    · exact IntervalRetryDAO.checkedIn_msgID now' _

/-- Under one id a second insert meets the key of the first, or the one that the first met. -/
theorem addRecover_twice {r : Recover B} : SameButTimes
    (after (RecoverDAO.addRecover now' r) (after (RecoverDAO.addRecover now r) t))
    (after (RecoverDAO.addRecover now r) t) := by
  unfold RecoverDAO.addRecover
  split
  · exact .refl _
  · simp only [after_execute]
    have hdup : ∀ t' : Tables B, t'.recover.get r.msgID ≠ none →
        t'.recover.insert (RecoverDAO.insertedRow now' r) = none := fun t' ht' =>
      Table.insert_eq_none_iff.mpr ht'
    cases hu : t.recover.insert (RecoverDAO.insertedRow now r) with
    | none =>
        have hget := Table.insert_eq_none_iff.mp hu
        simp only [Option.map_none, Option.getD_none, hdup t hget]
        exact .refl _
    | some u =>
        have hget : (t.setRecover u).recover.get r.msgID ≠ none := by
          rw [Tables.setRecover_recover, Table.get_insert hu]
          simp
        simp only [Option.map_some, Option.getD_some, hdup _ hget, Option.map_none,
          Option.getD_none]
        exact .refl _

/-- Whether an insert meets its key does not depend on the clock. -/
theorem addRecover_error {r : Recover B} {exc : DAOException}
    (h : RecoverDAO.addRecover now r ⟨t, []⟩ = .error exc) :
    RecoverDAO.addRecover now' r ⟨t, []⟩ = .error exc := by
  unfold RecoverDAO.addRecover at h ⊢
  split
  · next hv =>
      rw [if_pos hv] at h
      cases h
  · next hv =>
      rw [if_neg hv, execute_nil] at h
      rw [execute_nil]
      cases hu : t.recover.insert (RecoverDAO.insertedRow now r) with
      | some u =>
          rw [hu] at h
          cases h
      | none =>
          have hget := Table.insert_eq_none_iff.mp hu
          have hu' : t.recover.insert (RecoverDAO.insertedRow now' r) = none :=
            Table.insert_eq_none_iff.mpr hget
          rw [hu] at h
          rw [hu']
          exact h

/-- Without a row in `interval_retry` nothing moves. -/
theorem after_doIntervalMessageRecover_none
    (h : m.msgID ≤ 0 ∨ t.intervalRetry.get m.msgID = none) :
    after (JoinDAO.doIntervalMessageRecover now m) t = t := by
  have hrun : ∃ s, JoinDAO.doIntervalMessageRecover now m ⟨t, []⟩ = .ok (true, s) ∧
      s.tables = t := by
    unfold JoinDAO.doIntervalMessageRecover IntervalRetryDAO.deleteIntervalRetry
    by_cases hid : m.msgID ≤ 0
    · simp only [if_pos hid]
      exact ⟨_, rfl, rfl⟩
    · have hnone := h.resolve_left hid
      simp only [if_neg hid, bind_apply, execute_nil, hnone, Option.isSome_none]
      refine ⟨_, rfl, ?_⟩
      rw [Table.delete_of_get_eq_none hnone]
      rfl
  obtain ⟨s, hs, ht⟩ := hrun
  unfold after transactional
  rw [hs, ← ht]

/-- With a row, it is deleted and a row for `recover` is added, or nothing is done. -/
theorem after_doIntervalMessageRecover_some (hid : 0 < m.msgID)
    (h : t.intervalRetry.get m.msgID ≠ none) :
    after (JoinDAO.doIntervalMessageRecover now m) t =
      match RecoverDAO.addRecover now (newRecover m.msgID m)
        ⟨t.setIntervalRetry (t.intervalRetry.delete m.msgID), []⟩ with
      | .ok (_, s) => s.tables
      | .error _ => t := by
  have hrun : JoinDAO.doIntervalMessageRecover now m ⟨t, []⟩ =
      match RecoverDAO.addRecover now (newRecover m.msgID m)
        ⟨t.setIntervalRetry (t.intervalRetry.delete m.msgID), []⟩ with
      | .ok (_, s) => .ok (true, s)
      | .error exc => .error exc := by
    simp only [JoinDAO.doIntervalMessageRecover, IntervalRetryDAO.deleteIntervalRetry,
      if_neg (Int.not_le.mpr hid), bind_apply, execute_nil, Option.isSome_iff_ne_none.mpr h,
      if_true, newRecover]
    generalize RecoverDAO.addRecover now (JoinDAO.newRecover m.msgID m.retryQueueName m.businessMsg
      m.retryInterval m.retriedTimes m.maxRetryTimes)
      ⟨t.setIntervalRetry (t.intervalRetry.delete m.msgID), []⟩ = r
    rcases r with _ | ⟨_, _⟩ <;> rfl
  unfold after transactional
  rw [hrun]
  split
  · next he =>
      split at he <;> cases he
      rfl
  · next he =>
      split at he <;> cases he
      rfl

/-- The second move finds no row to move, unless the first one was rolled back. -/
theorem doIntervalMessageRecover_twice (now now' : Datetime) : SameButTimes
    (after (JoinDAO.doIntervalMessageRecover now' m)
      (after (JoinDAO.doIntervalMessageRecover now m) t))
    (after (JoinDAO.doIntervalMessageRecover now m) t) := by
  by_cases hnone : m.msgID ≤ 0 ∨ t.intervalRetry.get m.msgID = none
  · rw [after_doIntervalMessageRecover_none hnone, after_doIntervalMessageRecover_none hnone]
    exact .refl t
  · obtain ⟨hid, hrow⟩ := not_or.mp hnone
    rw [after_doIntervalMessageRecover_some (Int.not_le.mp hid) hrow]
    split
    · next b s hadd =>
        -- the row has left `interval_retry`
        have hgone : s.tables.intervalRetry.get m.msgID = none := by
          rcases addRecover_ok hadd with ⟨-, rfl⟩ | ⟨-, u, -, hs⟩
          · exact Table.get_delete_eq_none.mpr (.inl rfl)
          · rw [hs]
            exact Table.get_delete_eq_none.mpr (.inl rfl)
        rw [after_doIntervalMessageRecover_none (.inr hgone)]
        exact .refl _
    · next exc hadd =>
        rw [after_doIntervalMessageRecover_some (Int.not_le.mp hid) hrow, addRecover_error hadd]
        exact .refl t

end

/-- A row that is not valid is not inserted. -/
theorem after_addRecover_of_invalid {now : Datetime} {r : Recover B}
    (h : RecoverDAO.isRecoverValid r = false) : after (RecoverDAO.addRecover now r) t = t := by
  unfold RecoverDAO.addRecover
  rw [h]
  rfl

theorem after_addIntervalRetry_of_invalid {now : Datetime} {r : IntervalRetry B}
    (h : IntervalRetryDAO.isIntervalRetryValid r = false) :
    after (IntervalRetryDAO.addIntervalRetry now r) t = t := by
  unfold IntervalRetryDAO.addIntervalRetry
  rw [h]
  rfl

/-! ### Messages processed twice -/

/-- The message is stored under an id that the call generates. -/
def StoresUnderNewId (m : RetryMessage B) : Prop :=
  asksForId m = true ∧ hasContent m.retryQueueName m.businessMsg = true

/-- The generator answers the two calls with positive ids that it has not answered before. -/
structure NewIds (t : Tables B) (x x' : Int) : Prop where
  pos : 0 < x
  pos' : 0 < x'
  ne : x' ≠ x
  fresh : ¬ t.Stored x
  fresh' : ¬ t.Stored x'

section
variable (he : e.faults = []) (he' : e'.faults = [])
include he he'

/-- A flag whose service method calls one DAO method, the second time under another clock. -/
theorem process_twice_of_statement {α : Type} (d : Env → Dao (Tables B) α)
    (hm : ∀ e, MRFServiceImpl.handle e m = d e >>= fun _ => pure ())
    (h : SameButTimes (after (d e') (after (d e) t)) (after (d e) t)) :
    SameButTimes (processed e' m (processed e m t)) (processed e m t) := by
  rw [processed_eq_after he (hm e), processed_eq_after he' (hm e')]
  exact h

theorem process_twice_of_nothing (hm : ∀ e, MRFServiceImpl.handle e m = pure ()) :
    SameButTimes (processed e' m (processed e m t)) (processed e m t) :=
  process_twice_of_statement he he' (fun _ => pure ()) hm (.refl t)

/-- A message that stores nothing under a new id has the same effect twice. -/
theorem process_twice (hn : ¬ StoresUnderNewId m) :
    SameButTimes (processed e' m (processed e m t)) (processed e m t) := by
  have hempty : asksForId m = true → hasContent m.retryQueueName m.businessMsg = false := fun ha =>
    Bool.eq_false_iff.mpr fun hc => hn ⟨ha, hc⟩
  cases hf : m.messageFlag with
  | cleanRecover =>
      refine process_twice_of_statement he he' (fun _ => RecoverDAO.deleteRecover m.msgID)
        (fun e => ?_) deleteRecover_twice
      simp only [MRFServiceImpl.handle, hf, MRFMessageProcessService.cleanRecover]
  | cleanIntervalRetry =>
      refine process_twice_of_statement he he'
        (fun _ => IntervalRetryDAO.deleteIntervalRetry m.msgID) (fun e => ?_)
        deleteIntervalRetry_twice
      simp only [MRFServiceImpl.handle, hf, MRFMessageProcessService.cleanIntervalRetry]
  | resendForRecover =>
      refine process_twice_of_statement he he'
        (fun e => RecoverDAO.checkInRecover e.currentTimestamp m.msgID) (fun e => ?_)
        (checkInRecover_twice e.currentTimestamp e'.currentTimestamp)
      simp only [MRFServiceImpl.handle, hf, MRFMessageProcessService.resendForRecover]
  | intervalMsgDoRetry =>
      by_cases hid : 0 < m.msgID
      · refine process_twice_of_statement he he'
          (fun e => IntervalRetryDAO.checkinIntervalRetry e.currentTimestamp
            (newIntervalRetry m.msgID m (nextExecAt e m))) (fun e => ?_)
          (checkinIntervalRetry_twice e.currentTimestamp e'.currentTimestamp (nextExecAt e m)
            (nextExecAt e' m))
        simp only [MRFServiceImpl.handle, hf, doIntervalMessageRetry, if_pos hid]
      -- a message that asks for an id has no content here, and no row is valid
      · have hc := hempty (by simpa [asksForId, hf] using hid)
        have hv : ∀ y next, IntervalRetryDAO.isIntervalRetryValid (newIntervalRetry y m next) =
            false := fun y next => by
          simp only [IntervalRetryDAO.isIntervalRetryValid, newIntervalRetry, hc, Bool.and_false]
        refine process_twice_of_statement he he'
          (fun e => IntervalRetryDAO.addIntervalRetry e.currentTimestamp
            (newIntervalRetry e.newId m (nextExecAt e m))) (fun e => ?_) ?_
        · simp only [MRFServiceImpl.handle, hf, doIntervalMessageRetry, if_neg hid]
        · rw [after_addIntervalRetry_of_invalid (hv _ _)]
          exact .refl _
  | immediateMsgDoRetry =>
      refine process_twice_of_nothing he he' fun e => ?_
      simp only [MRFServiceImpl.handle, hf]
  | intervalMsgDoRecover =>
      refine process_twice_of_statement he he'
        (fun e => JoinDAO.doIntervalMessageRecover e.currentTimestamp m) (fun e => ?_)
        (doIntervalMessageRecover_twice e.currentTimestamp e'.currentTimestamp)
      simp only [MRFServiceImpl.handle, hf, doIntervalMessageRecover]
  | immediateMsgDoRecover =>
      have hc := hempty (by simp only [asksForId, hf])
      have hv : ∀ y, RecoverDAO.isRecoverValid (newRecover y m) = false := fun y => by
        simp only [RecoverDAO.isRecoverValid, newRecover, JoinDAO.newRecover, hc, Bool.and_false]
      refine process_twice_of_statement he he'
        (fun e => RecoverDAO.addRecover e.currentTimestamp (newRecover e.newId m)) (fun e => ?_) ?_
      · simp only [MRFServiceImpl.handle, hf, doImmediateMessageRecover]
      · rw [after_addRecover_of_invalid (hv _)]
        exact .refl _
  | msgDirectToRecover =>
      refine process_twice_of_statement he he'
        (fun e => RecoverDAO.addRecover e.currentTimestamp (newDirectRecover (directId e m) m))
        (fun e => ?_) ?_
      · simp only [MRFServiceImpl.handle, hf, doMessageDirectToRecover]
      · by_cases hid : 0 < m.msgID
        · have hd : ∀ e : Env, directId e m = m.msgID := fun e => if_pos hid
          rw [hd, hd]
          exact addRecover_twice
        · have hc := hempty (by simpa [asksForId, hf] using hid)
          have hv : ∀ y, RecoverDAO.isRecoverValid (newDirectRecover y m) = false := fun y => by
            simp only [RecoverDAO.isRecoverValid, newDirectRecover, JoinDAO.newRecover, hc,
              Bool.and_false]
          rw [after_addRecover_of_invalid (hv _)]
          exact .refl _
  | other code =>
      refine process_twice_of_nothing he he' fun e => ?_
      simp only [MRFServiceImpl.handle, hf]

end

omit [BusinessMsg B] in
theorem SameButTimes.stored_iff (h : SameButTimes t t') : t.Stored x ↔ t'.Stored x :=
  or_congr (not_congr (h.intervalRetry.get_eq_none x)) (not_congr (h.recover.get_eq_none x))

omit [BusinessMsg B] in
/-- An insert stores its id. -/
theorem stored_insert_intervalRetry {r : IntervalRetry B} {u : Table (IntervalRetry B)}
    (hu : t.intervalRetry.insert r = some u) :
    (t.setIntervalRetry u).Stored x ↔ x = r.msgID ∨ t.Stored x := by
  simp only [Tables.Stored, Tables.setIntervalRetry_intervalRetry, Tables.setIntervalRetry_recover,
    ne_eq, Table.get_insert_eq_none hu, not_and_or, not_not, or_assoc]
  rfl

omit [BusinessMsg B] in
theorem stored_insert_recover {r : Recover B} {u : Table (Recover B)}
    (hu : t.recover.insert r = some u) :
    (t.setRecover u).Stored x ↔ x = r.msgID ∨ t.Stored x := by
  simp only [Tables.Stored, Tables.setRecover_intervalRetry, Tables.setRecover_recover, ne_eq,
    Table.get_insert_eq_none hu, not_and_or, not_not]
  exact or_left_comm

/-- The row under the new id is the only one that appears. -/
theorem stored_processed_iff (he : e.faults = []) (hs : StoresUnderNewId m) (hpos : 0 < e.newId)
    (hfresh : ¬ t.Stored e.newId) :
    (processed e m t).Stored x ↔ x = e.newId ∨ t.Stored x := by
  obtain ⟨hi, hr⟩ := not_or.mp hfresh
  cases hf : m.messageFlag with
  | intervalMsgDoRetry =>
      have hid : m.msgID ≤ 0 := by simpa [asksForId, hf] using hs.1
      obtain ⟨u, hu⟩ := Table.insert_isSome (r := IntervalRetryDAO.insertedRow e.currentTimestamp
        (newIntervalRetry e.newId m (nextExecAt e m))) (not_not.mp hi)
      have hp := congrArg Prod.snd (process_addIntervalRetry he hs.2 hf hid hpos hu)
      exact (Iff.of_eq (congrArg (Tables.Stored · x) hp)).trans (stored_insert_intervalRetry hu)
  | immediateMsgDoRecover =>
      obtain ⟨u, hu⟩ := Table.insert_isSome (r := RecoverDAO.insertedRow e.currentTimestamp
        (newRecover e.newId m)) (not_not.mp hr)
      have hp := congrArg Prod.snd (process_immediateToRecover he hs.2 hf hpos hu)
      exact (Iff.of_eq (congrArg (Tables.Stored · x) hp)).trans (stored_insert_recover hu)
  | msgDirectToRecover =>
      have hid : m.msgID ≤ 0 := by simpa [asksForId, hf] using hs.1
      have hd : directId e m = e.newId := if_neg (Int.not_lt.mpr hid)
      obtain ⟨u, hu⟩ := Table.insert_isSome (r := RecoverDAO.insertedRow e.currentTimestamp
        (newDirectRecover (directId e m) m)) (hd ▸ not_not.mp hr)
      have hp := congrArg Prod.snd (process_directToRecover he hs.2 hf (hd ▸ hpos) hu)
      rw [← hd]
      exact (Iff.of_eq (congrArg (Tables.Stored · x) hp)).trans (stored_insert_recover hu)
  | _ => exact absurd hs.1 (by simp [asksForId, hf])

theorem process_idempotent_iff (he : e.faults = []) (he' : e'.faults = [])
    (hnew : NewIds t e.newId e'.newId) :
    SameButTimes (processed e' m (processed e m t)) (processed e m t) ↔ ¬ StoresUnderNewId m := by
  refine ⟨fun h hs => ?_, process_twice he he'⟩
  -- the second call adds a row under its own id
  have hfresh : ¬ (processed e m t).Stored e'.newId := fun hx =>
    ((stored_processed_iff he hs hnew.pos hnew.fresh).mp hx).elim hnew.ne hnew.fresh'
  exact hfresh (h.stored_iff.mp ((stored_processed_iff he' hs hnew.pos' hfresh).mpr (.inl rfl)))

/-- The second clean-up finds nothing to delete. -/
theorem process_idempotent_sample : SameButTimes
    (processed ⟨1, 20, 3, []⟩ (sampleMessage .cleanIntervalRetry 1 "post 1")
      (processed ⟨0, 10, 2, []⟩ (sampleMessage .cleanIntervalRetry 1 "post 1") sampleState.tables))
    (processed ⟨0, 10, 2, []⟩ (sampleMessage .cleanIntervalRetry 1 "post 1") sampleState.tables) :=
  (process_idempotent_iff rfl rfl
    ⟨by decide, by decide, by decide, by decide, by decide⟩).mpr (by simp [StoresUnderNewId,
      asksForId, sampleMessage])

/-- One first failure, sent twice, has two rows. -/
theorem two_rows :
    ¬ SameButTimes
        (processed ⟨1, 20, 2, []⟩ (sampleMessage .intervalMsgDoRetry 0 "post 1")
          (processed ⟨0, 10, 1, []⟩ (sampleMessage .intervalMsgDoRetry 0 "post 1") .empty))
        (processed ⟨0, 10, 1, []⟩ (sampleMessage .intervalMsgDoRetry 0 "post 1") .empty) ∧
      ((processed ⟨1, 20, 2, []⟩ (sampleMessage .intervalMsgDoRetry 0 "post 1")
          (processed ⟨0, 10, 1, []⟩ (sampleMessage .intervalMsgDoRetry 0 "post 1")
            .empty)).intervalRetry.rows.map (·.businessMsg)) =
        ["post 1", "post 1"] := by
  refine ⟨fun h => absurd (h.intervalRetry.get_eq_none 2) ?_, rfl⟩
  decide

end MRF.Center
