import MRF.Center.RetriedTimes

/-!
# Center — CreatedAt

The creation time of a row.  `addIntervalRetry` fills in the time of the insertion for a null.
`checkinIntervalRetry` writes `created_at=#createdAt#`, and its row comes from the constructor
without timestamps, so the first check-in clears the column.

`createdAt_kept_iff`: a row keeps its creation time as long as it is there if and only if it is
never checked in.  A check-out leaves every column but its three.
-/

namespace MRF.Center
open MRF.Library State MRFMessageProcessService

variable {B : Type} [BusinessMsg B] {x : Int} {d : Datetime} {e : Env} {m : RetryMessage B}
  {t t' : Tables B} {cfg : MRFServerConfig} {s s₁ s₂ s' : State B} {a : Action B}
  {tr : List (State B × Action B)} {r r' : IntervalRetry B}

/-- The row of `x`, if there is one, was created at `d`. -/
def CreatedAt (x : Int) (d : Datetime) (s : State B) : Prop :=
  ∀ r, s.tables.intervalRetry.get x = some r → r.createdAt = some d

/-- A check-in of `x` that passes `isIntervalRetryValid`, and whose statement does not raise. -/
structure WritesCheckin (x : Int) (faults : List Bool) (m : RetryMessage B) : Prop where
  messageFlag : m.messageFlag = .intervalMsgDoRetry
  msgID : m.msgID = x
  pos : 0 < x
  content : hasContent m.retryQueueName m.businessMsg = true
  returns : faults.head? ≠ some true

/-- The action applies such a check-in. -/
def CheckedIn (x : Int) (s : State B) (a : Action B) : Prop :=
  ∃ c m, s.message a = some (c, m) ∧ WritesCheckin x c.faults m

/-- The row of `x` is inserted by the step `a` out of `s`, and is there all along `tr`; the last
step of `tr` may delete it. -/
structure RowLife (cfg : MRFServerConfig) (x : Int) (s : State B) (a : Action B) (s₁ : State B)
    (tr : List (State B × Action B)) (s₂ : State B) : Prop where
  absent : s.tables.intervalRetry.get x = none
  inserts : s.step cfg a = some s₁
  inserted : s₁.tables.intervalRetry.get x ≠ none
  run : Run (stepOf (State.step cfg)) s₁ tr s₂
  stays : ∀ p ∈ tr, p.1.tables.intervalRetry.get x ≠ none

/-- The row but for the columns that `checkOutIntervalRetry` sets. -/
def beyondCheckOut (r : IntervalRetry B) : IntervalRetry B :=
  { r with retryState := .toRetry, checkoutAt := none, updatedAt := none }

/-! ### Check-ins -/

theorem processed_checkin (h : WritesCheckin m.msgID e.faults m) :
    processed e m t = t.setIntervalRetry (t.intervalRetry.update m.msgID
      (IntervalRetryDAO.checkedIn e.currentTimestamp (newIntervalRetry m.msgID m (nextExecAt e m)))
      (IntervalRetryDAO.checkedIn_msgID _ _)) := by
  refine processed_checkin_of_ok ?_ h.messageFlag h.pos h.content
  have hv : IntervalRetryDAO.isIntervalRetryValid
      (newIntervalRetry m.msgID m (nextExecAt e m)) = true := by
    simp only [IntervalRetryDAO.isIntervalRetryValid, newIntervalRetry, h.pos, h.content,
      decide_true, Bool.and_self]
  unfold MRFServiceImpl.process Dao.transactional
  simp only [MRFServiceImpl.handle, h.messageFlag, doIntervalMessageRetry, if_pos h.pos,
    IntervalRetryDAO.checkinIntervalRetry, hv, Bool.not_true, Bool.false_eq_true, if_false]
  cases hfaults : e.faults with
  | nil => rfl
  | cons raises faults =>
      cases raises with
      | true => exact absurd (by rw [hfaults]; rfl) h.returns
      | false => rfl

/-- A check-in that raises or fails the check writes nothing. -/
theorem processed_of_not_writesCheckin (hf : m.messageFlag = .intervalMsgDoRetry)
    (hpos : 0 < m.msgID) (h : ¬ WritesCheckin m.msgID e.faults m) : processed e m t = t := by
  rw [processed_eq]
  unfold Dao.transactional
  simp only [MRFServiceImpl.handle, hf, doIntervalMessageRetry, if_pos hpos,
    IntervalRetryDAO.checkinIntervalRetry, IntervalRetryDAO.isIntervalRetryValid, newIntervalRetry,
    hpos, decide_true, Bool.true_and]
  cases hc : hasContent m.retryQueueName m.businessMsg with
  | false => rfl
  | true =>
      have hraises : e.faults.head? = some true := by
        by_contra hn
        exact h ⟨hf, rfl, hpos, hc, hn⟩
      cases hfaults : e.faults with
      | nil =>
          rw [hfaults] at hraises
          cases hraises
      | cons raises faults =>
          rw [hfaults] at hraises
          cases hraises
          rfl

/-! ### What a step does to the column -/

/-- A message that does not check the row in leaves the column, or brings the row in. -/
theorem createdAt_processed (h : ¬ WritesCheckin x e.faults m)
    (hr : t.intervalRetry.get x = some r)
    (hr' : (processed e m t).intervalRetry.get x = some r') : r'.createdAt = r.createdAt := by
  have same : t.intervalRetry.get x = some r' → r'.createdAt = r.createdAt := by
    intro hsame
    rw [hr] at hsame
    cases hsame
    rfl
  by_cases hin : m.messageFlag = .intervalMsgDoRetry ∧ 0 < m.msgID
  · obtain ⟨hf, hpos⟩ := hin
    by_cases hw : WritesCheckin m.msgID e.faults m
    · have hne : x ≠ m.msgID := by
        rintro rfl
        exact h hw
      rw [processed_checkin hw, Tables.setIntervalRetry_intervalRetry, Table.get_update,
        if_neg hne] at hr'
      exact same hr'
    · rw [processed_of_not_writesCheckin hf hpos hw] at hr'
      exact same hr'
  · have happ := processed_applied e m t
    generalize processed e m t = t' at hr' happ
    cases happ with
    | cleanIntervalRetry hf => exact same (Table.get_delete_inv hr').2
    | checkin hf hid hcon => exact absurd ⟨hf, hid⟩ hin
    | addIntervalRetry hf hid hnew hcon hu =>
        rcases Table.get_insert_inv hu hr' with hr' | ⟨he, -⟩
        · exact same hr'
        · have hnone := Table.get_eq_none_of_insert hu
          subst he
          rw [hr] at hnone
          cases hnone
    | moveToRecover hf hid hrow hcon hu => exact same (Table.get_delete_inv hr').2
    | moveToNowhere hf hid hrow hcon => exact same (Table.get_delete_inv hr').2
    | _ => exact same hr'

omit [BusinessMsg B] in
theorem beyondCheckOut_checkedOut (now : Datetime) (r : IntervalRetry B) :
    beyondCheckOut (IntervalRetryDAO.checkedOut now r) = beyondCheckOut r := by
  unfold IntervalRetryDAO.checkedOut
  split <;> rfl

omit [BusinessMsg B] in
theorem createdAt_of_beyondCheckOut (h : beyondCheckOut r' = beyondCheckOut r) :
    r'.createdAt = r.createdAt := by
  have hrecord := congrArg (fun r => r.createdAt) h
  exact hrecord

/-- A step without a message leaves the columns that a check-out leaves. -/
theorem State.Stepped.beyondCheckOut_eq (h : Stepped cfg s a s') (hm : s.message a = none)
    (hr : s.tables.intervalRetry.get x = some r)
    (hr' : s'.tables.intervalRetry.get x = some r') : beyondCheckOut r' = beyondCheckOut r := by
  have same : s.tables.intervalRetry.get x = some r' → beyondCheckOut r' = beyondCheckOut r := by
    intro hsame
    rw [hr] at hsame
    cases hsame
    rfl
  have hw := h.wrote
  generalize s'.tables = t' at hr' hw
  cases hw with
  | applied hm' => rw [hm] at hm'; cases hm'
  | checkOut ha hp =>
      rw [Tables.setIntervalRetry_intervalRetry, Table.get_update] at hr'
      rcases Table.update_inv hr' with hr' | ⟨-, r₀, hr₀, rfl⟩
      · exact same hr'
      · rw [hr] at hr₀
        cases hr₀
        exact beyondCheckOut_checkedOut _ _
  | houseKept hb hu => exact same (Table.get_deleteAll_inv hr').2
  | _ => exact same hr'

/-- A step keeps the creation time of a row exactly when it does not check the row in. -/
theorem State.Stepped.createdAt_iff (h : Stepped cfg s a s')
    (hrow : s.tables.intervalRetry.get x ≠ none) (hd : CreatedAt x d s) :
    CreatedAt x d s' ↔ ¬ CheckedIn x s a := by
  obtain ⟨r, hr⟩ := Option.ne_none_iff_exists'.mp hrow
  constructor
  · rintro hd' ⟨c, m, hm, hw⟩
    obtain rfl := hw.msgID
    have hcleared : s'.tables.intervalRetry.get m.msgID =
        some (IntervalRetryDAO.checkedIn s.currentTimestamp
          (newIntervalRetry m.msgID m (nextExecAt (s.env c) m)) r) := by
      rw [h.tables_eq hm, processed_checkin (e := s.env c) hw,
        Tables.setIntervalRetry_intervalRetry, Table.get_update, if_pos rfl, hr]
      rfl
    cases hd' _ hcleared
  · intro hn r' hr'
    rw [← hd r hr]
    cases hm : s.message a with
    | none => exact createdAt_of_beyondCheckOut (h.beyondCheckOut_eq hm hr hr')
    | some p =>
        obtain ⟨c, m⟩ := p
        rw [h.tables_eq hm] at hr'
        exact createdAt_processed (fun hw => hn ⟨c, m, hm, hw⟩) hr hr'

/-- A check-out leaves `recover`, and changes three columns. -/
theorem State.Stepped.sameUpTo_checkOut {i : Nat} {raises : Bool}
    (h : Stepped cfg s (.checkOut i raises) s') : s'.tables.recover = s.tables.recover ∧
      Table.SameUpTo beyondCheckOut s'.tables.intervalRetry s.tables.intervalRetry := by
  have hw := h.wrote
  generalize s'.tables = t' at hw
  cases hw with
  | nothing => exact ⟨rfl, Table.SameUpTo.refl _ _⟩
  | applied hm => cases hm
  | @checkOut j raises' r₀ ha hp =>
      refine ⟨rfl, fun y => ?_⟩
      rw [Tables.setIntervalRetry_intervalRetry, Table.get_update]
      split
      · next he =>
          subst he
          rw [Option.map_map]
          exact congrArg (fun f => (s.tables.intervalRetry.get r₀.msgID).map f)
            (funext fun r => beyondCheckOut_checkedOut _ r)
      · rfl
  | houseKept hb => cases hb
  | checkOutRecover hc => cases hc
  | deleteRecover hc => cases hc

/-- An inserted row was created at the time of the statement. -/
theorem State.Stepped.createdAt_inserted (h : Stepped cfg s a s')
    (hn : s.tables.intervalRetry.get x = none) : CreatedAt x s.currentTimestamp s' := by
  intro r hr
  obtain ⟨c, m, hm, hask, rfl⟩ := h.wrote.intervalRetry_inv hn (by rw [hr]; exact nofun)
  rw [h.tables_eq hm] at hr
  rw [((processed_applied (s.env c) m s.tables).intervalRetry_added hn hr).2]
  rfl

/-! ### Runs -/

/-- **A row keeps its creation time** from its insertion on, as long as it is there, if and only if
no step checks it in.  And a check-out changes only its three columns. -/
theorem createdAt_kept_iff (h : RowLife cfg x s a s₁ tr s₂) :
    (((∀ p ∈ tr, CreatedAt x s.currentTimestamp p.1) ∧ CreatedAt x s.currentTimestamp s₂) ↔
        ∀ p ∈ tr, ¬ CheckedIn x p.1 p.2) ∧
      ∀ p ∈ tr, ∀ i raises s', p.2 = .checkOut i raises → p.1.step cfg p.2 = some s' →
        s'.tables.recover = p.1.tables.recover ∧
          Table.SameUpTo beyondCheckOut s'.tables.intervalRetry p.1.tables.intervalRetry := by
  refine ⟨?_, fun p hp i raises s' ha hstep => ?_⟩
  · -- the steps of the run, each out of a state with the row
    have hrun := h.run.to_guarded (G := fun s _ => s.tables.intervalRetry.get x ≠ none) h.stays
    exact hrun.always_iff (I := fun _ => True) (P := CreatedAt x s.currentTimestamp)
      (fun _ _ _ _ _ => trivial)
      (fun s a s' hg _ hd => (step_stepped hg.1).createdAt_iff hg.2 hd) trivial
      ((step_stepped h.inserts).createdAt_inserted h.absent)
  · rw [ha] at hstep
    exact (step_stepped hstep).sameUpTo_checkOut

theorem createdAt_kept_sample :
    ∃ s, exec (State.step .sample) sampleState sendRound = some s ∧ CreatedAt 1 0 s := by
  obtain ⟨s, hs⟩ : ∃ s, exec (State.step .sample) sampleState sendRound = some s := ⟨_, rfl⟩
  have hlife : RowLife .sample 1 State.empty
      (.process (.sample 1) (sampleMessage .intervalMsgDoRetry 0 "post 1")) sampleState
      (trace (State.step .sample) sampleState sendRound) s :=
    ⟨rfl, rfl, by decide, Run.of_exec hs, by decide⟩
  refine ⟨s, hs, ((createdAt_kept_iff hlife).1.mpr ?_).2⟩
  have hquiet : ∀ p ∈ trace (State.step .sample) sampleState sendRound,
      p.1.message p.2 = none := by decide
  rintro p hp ⟨c, m, hm, -⟩
  rw [hquiet p hp] at hm
  cases hm

/-- The message 1 is stored at 0 and retried once, and its check-in clears the creation time. -/
theorem createdAt_cleared :
    (State.empty : State String).step .sample
        (.process (.sample 1) (sampleMessage .intervalMsgDoRetry 0 "post 1")) = some sampleState ∧
      ∃ s, exec (State.step .sample) sampleState
          (sendRound ++ [.process (.sample 2) (checkin 2)]) = some s ∧
        (sampleState.tables.intervalRetry.get 1).map (fun r => r.createdAt) = some (some 0) ∧
        (s.tables.intervalRetry.get 1).map (fun r => r.createdAt) = some none :=
  ⟨rfl, _, rfl, by decide, by decide⟩

end MRF.Center
