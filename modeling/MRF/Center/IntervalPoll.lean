import MRF.Center.HouseKeep
import MRF.Library.Lease

/-!
# Center — IntervalPoll

Any number of poll threads take rows of `interval_retry`: a thread selects a row, checks it out,
and hands a task for it to a worker.  The check-out is a compare-and-set on `retry_state`, but its
outcome is `true` before the statement runs, and stays so when the statement throws.

`dispatch_run`: as long as no check-out throws, a task is handed over by the thread that moved its
row to `IN_RETRY`, and the row is checked in between any two hand-overs.
-/

namespace MRF.Center
open MRF.Library State MRFMessageProcessService

variable {B : Type} [BusinessMsg B] {x : Int} {e : Env} {m : RetryMessage B} {t t' : Tables B}
  {cfg : MRFServerConfig} {s s' : State B} {a : Action B} {tr : List (State B × Action B)}

/-- The row of `x` has the state. -/
def Tables.RetryStateIs (t : Tables B) (x : Int) (state : RetryState) : Prop :=
  ∃ r, t.intervalRetry.get x = some r ∧ r.retryState = state

omit [BusinessMsg B] in
theorem Tables.RetryStateIs.unique {state state' : RetryState} (h : t.RetryStateIs x state)
    (h' : t.RetryStateIs x state') : state = state' := by
  obtain ⟨r, hr, rfl⟩ := h
  obtain ⟨r', hr', rfl⟩ := h'
  rw [hr] at hr'
  cases hr'
  rfl

/-- A poll thread has a task for `x`. -/
def HasTask (x : Int) (s : State B) (i : Nat) : Prop := ∃ r, s.pollers i = .task r ∧ r.msgID = x

/-- A poll thread hands a task for `x` to a worker. -/
def Dispatches (x : Int) (s : State B) (a : Action B) : Prop :=
  ∃ i w, a = .dispatch i w ∧ HasTask x s i

/-- A check-in of `x` is applied, and `x` is to be retried after it. -/
def ChecksIn (x : Int) (s : State B) (a : Action B) : Prop :=
  ∃ c m, s.message a = some (c, m) ∧ m.messageFlag = .intervalMsgDoRetry ∧ m.msgID = x ∧
    (processed (s.env c) m s.tables).RetryStateIs x .toRetry

/-- `checkOutIntervalRetry` does not throw. -/
def CheckOutReturns (_ : State B) (a : Action B) : Prop := ∀ i, a ≠ .checkOut i true

/-- The ids that the center generates are new. -/
def FreshIds (s : State B) (a : Action B) : Prop :=
  ∀ c m, s.message a = some (c, m) → asksForId m = true → c.newId ∉ s.issued

/-- No check-in of `x` is applied while a poll thread has a task for it. -/
def NoCheckInWhileTask (x : Int) (s : State B) (a : Action B) : Prop :=
  ChecksIn x s a → ∀ i, ¬ HasTask x s i

/-! ### Poll threads -/

omit [BusinessMsg B] in
theorem State.checkOutResult_eq {r : IntervalRetry B} (hid : 0 < r.msgID) :
    s.checkOutResult r false =
      ((s.tables.intervalRetry.get r.msgID).any fun row => row.retryState = .toRetry,
        s.tables.setIntervalRetry (s.tables.intervalRetry.update r.msgID
          (IntervalRetryDAO.checkedOut s.currentTimestamp)
          (IntervalRetryDAO.checkedOut_msgID _))) := by
  simp only [checkOutResult, IntervalRetryDAO.checkOutIntervalRetry, if_neg (Int.not_le.mpr hid)]
  rfl

omit [BusinessMsg B] in
/-- A check-out that returns `true` finds the row to be retried. -/
theorem State.checkOutResult_true {r : IntervalRetry B}
    (h : (s.checkOutResult r false).1 = true) :
    s.tables.RetryStateIs r.msgID .toRetry ∧
      (s.checkOutResult r false).2.RetryStateIs r.msgID .inRetry := by
  by_cases hid : r.msgID ≤ 0
  · have hres : s.checkOutResult r false = (false, s.tables) := by
      simp only [checkOutResult, IntervalRetryDAO.checkOutIntervalRetry, if_pos hid]
      rfl
    rw [hres] at h
    cases h
  · rw [checkOutResult_eq (Int.not_le.mp hid)] at h ⊢
    obtain ⟨row, hrow, hstate⟩ := (Option.any_eq_true _ _).mp h
    have hto : row.retryState = .toRetry := of_decide_eq_true hstate
    refine ⟨⟨row, hrow, hto⟩, IntervalRetryDAO.checkedOut s.currentTimestamp row, ?_, ?_⟩
    · rw [Tables.setIntervalRetry_intervalRetry, Table.get_update, if_pos rfl, hrow]
      rfl
    · simp only [IntervalRetryDAO.checkedOut, if_pos hto]

/-- Where the task of a poll thread comes from. -/
theorem State.Stepped.task_inv (h : Stepped cfg s a s') {i : Nat} {r : IntervalRetry B}
    (hi : s'.pollers i = .task r) : s.pollers i = .task r ∨
      ∃ raises, a = .checkOut i raises ∧ s.pollers i = .selected r ∧
        (s.checkOutResult r raises).1 = true := by
  rcases h.pollers_inv i with
    ⟨hsame, -⟩ | ⟨y, r', -, -, hsel⟩ | ⟨raises, r', rfl, hsel, hres⟩ | ⟨w, -, hidle⟩
  · exact .inl (hsame ▸ hi)
  · rw [hsel] at hi
    cases hi
  · rw [hres] at hi
    split at hi
    · next hok =>
        cases hi
        exact .inr ⟨raises, rfl, hsel, hok⟩
    · cases hi
  · rw [hidle] at hi
    cases hi

/-- The row that a poll thread selected is in the table, or was selected before. -/
theorem State.Stepped.selected_inv (h : Stepped cfg s a s') {i : Nat} {r : IntervalRetry B}
    (hi : s'.pollers i = .selected r) : s.pollers i = .selected r ∨
      s.tables.intervalRetry.get r.msgID = some r := by
  rcases h.pollers_inv i with
    ⟨hsame, -⟩ | ⟨y, r', -, hr, hsel⟩ | ⟨raises, r', -, -, hres⟩ | ⟨w, -, hidle⟩
  · exact .inl (hsame ▸ hi)
  · rw [hsel] at hi
    cases hi
    have hy : r.msgID = y := Table.key_of_get hr
    exact .inr (hy ▸ hr)
  · rw [hres] at hi
    split at hi <;> cases hi
  · rw [hidle] at hi
    cases hi

/-! ### Rows to be retried -/

/-- A new row for `x` comes in. -/
def Generates (x : Int) (s : State B) (a : Action B) : Prop :=
  ∃ c m, s.message a = some (c, m) ∧ asksForId m = true ∧ x = c.newId

theorem Applied.toRetry_inv (h : Applied e m t t') (hx : t'.RetryStateIs x .toRetry) :
    t.RetryStateIs x .toRetry ∨ (m.messageFlag = .intervalMsgDoRetry ∧ m.msgID = x) ∨
      (asksForId m = true ∧ x = e.newId) := by
  obtain ⟨r, hr, hstate⟩ := hx
  cases h with
  | cleanIntervalRetry hf =>
      rw [Tables.setIntervalRetry_intervalRetry, Table.get_delete] at hr
      split at hr
      · cases hr
      · exact .inl ⟨r, hr, hstate⟩
  | checkin hf hid hcon =>
      rw [Tables.setIntervalRetry_intervalRetry, Table.get_update] at hr
      split at hr
      · next he => exact .inr (.inl ⟨hf, he.symm⟩)
      · exact .inl ⟨r, hr, hstate⟩
  | addIntervalRetry hf hid hnew hcon hu =>
      by_cases he : x = e.newId
      · exact .inr (.inr ⟨by simpa [asksForId, hf] using hid, he⟩)
      · have hget := (Table.get_insert hu x).trans (if_neg he)
        exact .inl ⟨r, hget.symm.trans hr, hstate⟩
  | moveToRecover hf hid hrow hcon hu =>
      rw [Tables.setRecover_intervalRetry, Tables.setIntervalRetry_intervalRetry,
        Table.get_delete] at hr
      split at hr
      · cases hr
      · exact .inl ⟨r, hr, hstate⟩
  | moveToNowhere hf hid hrow hcon =>
      rw [Tables.setIntervalRetry_intervalRetry, Table.get_delete] at hr
      split at hr
      · cases hr
      · exact .inl ⟨r, hr, hstate⟩
  | _ => exact .inl ⟨r, hr, hstate⟩

/-- A row is to be retried since it was checked in, or since it came in. -/
theorem State.Stepped.toRetry_inv (h : Stepped cfg s a s')
    (hx : s'.tables.RetryStateIs x .toRetry) :
    s.tables.RetryStateIs x .toRetry ∨ ChecksIn x s a ∨ Generates x s a := by
  cases hm : s.message a with
  | some p =>
      obtain ⟨c, m⟩ := p
      have ht := h.tables_eq hm
      rcases (processed_applied (s.env c) m s.tables).toRetry_inv (ht ▸ hx) with
        hx₀ | ⟨hf, hid⟩ | ⟨hask, hid⟩
      · exact .inl hx₀
      · exact .inr (.inl ⟨c, m, hm, hf, hid, ht ▸ hx⟩)
      · exact .inr (.inr ⟨c, m, hm, hask, hid⟩)
  | none =>
      left
      obtain ⟨r, hr, hstate⟩ := hx
      generalize ht : s'.tables = t' at hr
      have hw := ht ▸ h.wrote
      cases hw with
      | applied hm' => rw [hm] at hm'; cases hm'
      | @checkOut i raises row ha hp =>
          rw [Tables.setIntervalRetry_intervalRetry, Table.get_update] at hr
          split at hr
          · next he =>
              obtain ⟨old, hold, rfl⟩ := Option.map_eq_some_iff.mp hr
              unfold IntervalRetryDAO.checkedOut at hstate
              split at hstate
              · cases hstate
              · exact ⟨old, he ▸ hold, hstate⟩
          · exact ⟨r, hr, hstate⟩
      | houseKept hb hu =>
          rw [Tables.setIntervalRetry_intervalRetry, Table.get_deleteAll] at hr
          split at hr
          · cases hr
          · exact ⟨r, hr, hstate⟩
      | _ => exact ⟨r, hr, hstate⟩

/-! ### Issued ids -/

/-- The rows of `interval_retry`, and those the poll threads have, are under issued ids. -/
structure Polled (s : State B) : Prop where
  rows : ∀ x, s.tables.intervalRetry.get x ≠ none → x ∈ s.issued
  selected : ∀ i r, s.pollers i = .selected r → r.msgID ∈ s.issued
  tasks : ∀ i r, s.pollers i = .task r → r.msgID ∈ s.issued

omit [BusinessMsg B] in
theorem polled_empty : Polled (State.empty : State B) where
  rows _ h := absurd rfl h
  selected _ _ h := nomatch h
  tasks _ _ h := nomatch h

theorem Polled.step (h : Stepped cfg s a s') (hs : Polled s) : Polled s' where
  rows x hx := by
    by_cases hn : s.tables.intervalRetry.get x = none
    · obtain ⟨c, m, hm, hask, rfl⟩ := h.wrote.intervalRetry_inv hn hx
      rw [h.issued_eq, hm]
      simp [hask]
    · exact h.issued_subset (hs.rows x hn)
  selected i r hi := by
    rcases h.selected_inv hi with hi₀ | hr
    · exact h.issued_subset (hs.selected i r hi₀)
    · exact h.issued_subset (hs.rows _ (by simp [hr]))
  tasks i r hi := by
    rcases h.task_inv hi with hi₀ | ⟨raises, rfl, hsel, -⟩
    · exact h.issued_subset (hs.tasks i r hi₀)
    · exact h.issued_subset (hs.selected i r hsel)

/-! ### The lease -/

/-- What a step has to meet for its row to be leased: no check-out throws, and no row for `x`
comes in or is checked in while a poll thread has a task for `x`. -/
structure Leased (x : Int) (s : State B) (a : Action B) : Prop where
  checkOut : CheckOutReturns s a
  checkIn : NoCheckInWhileTask x s a
  generates : Generates x s a → ∀ i, ¬ HasTask x s i

/-- The check-out is a lease of the row. -/
theorem isLease_checkOut (cfg : MRFServerConfig) (x : Int) :
    IsLease (Guarded (stepOf (State.step (B := B) cfg)) (Leased x))
      (fun s => s.tables.RetryStateIs x .toRetry) (HasTask x) (Dispatches x)
      (fun s a => ChecksIn x s a ∨ Generates x s a) where
  taken := by
    rintro s a s' i ⟨hstep, hg⟩ ⟨r, hi, rfl⟩ hi₀
    have hst := step_stepped hstep
    rcases hst.task_inv hi with hi' | ⟨raises, rfl, hsel, hres⟩
    · exact absurd ⟨r, hi', rfl⟩ hi₀
    · cases raises with
      | true => exact absurd rfl (hg.checkOut i)
      | false =>
          obtain ⟨hto, hin⟩ := checkOutResult_true hres
          refine ⟨hto, fun hto' => ?_, fun j hj => ?_⟩
          · cases hst with
            | checkOut hsel' =>
                rw [hsel] at hsel'
                cases hsel'
                exact absurd (hin.unique hto') nofun
          · obtain ⟨r', hj, hr'⟩ := hj
            rcases hst.task_inv hj with hj' | ⟨raises, ha, -, -⟩
            · exact .inl ⟨r', hj', hr'⟩
            · cases ha
              exact .inr rfl
  freed := by
    rintro s a s' ⟨hstep, -⟩ hx
    exact (step_stepped hstep).toRetry_inv hx
  returned := by
    rintro s a s' ⟨-, hg⟩ (hc | hn)
    · exact hg.checkIn hc
    · exact hg.generates hn
  used := by
    rintro s a s' ⟨hstep, -⟩ ⟨i, w, rfl, htask⟩
    refine ⟨?_, i, htask, ?_⟩
    · rintro (⟨c, m, hm, -⟩ | ⟨c, m, hm, -⟩) <;> cases hm
    · cases step_stepped hstep with
      | dispatch hi hw =>
          rintro ⟨r, hr, -⟩
          simp only [Function.update_self, reduceCtorEq] at hr

/-! ### Runs -/

/-- In the run `tr` the poll thread moved the row from `TO_RETRY` to `IN_RETRY`, and has had the
task for it since. -/
def MovedBy (i : Nat) (r : IntervalRetry B) (tr : List (State B × Action B)) : Prop :=
  ∃ tr₁ s₁ tr₂, tr = tr₁ ++ (s₁, .checkOut i false) :: tr₂ ∧ s₁.pollers i = .selected r ∧
    s₁.tables.RetryStateIs r.msgID .toRetry ∧
    (s₁.checkOutResult r false).2.RetryStateIs r.msgID .inRetry ∧
    ∀ p ∈ tr₂, p.1.pollers i = .task r

theorem movedBy_run (h : Run (Guarded (stepOf (State.step cfg)) CheckOutReturns) s tr s')
    {i : Nat} {r : IntervalRetry B} (hi : s.pollers i ≠ .task r) (hi' : s'.pollers i = .task r) :
    MovedBy i r tr := by
  rcases h.last_entry (P := fun s => s.pollers i = .task r) hi' with ⟨hs, -⟩ |
    ⟨tr₁, s₁, a, s₂, tr₂, rfl, ⟨hstep, hg⟩, hn, hs₂, hall⟩
  · exact absurd hs hi
  · rcases (step_stepped hstep).task_inv hs₂ with hs₁ | ⟨raises, rfl, hsel, hres⟩
    · exact absurd hs₁ hn
    · cases raises with
      | true => exact absurd rfl (hg i)
      | false =>
          obtain ⟨hto, hin⟩ := checkOutResult_true hres
          exact ⟨tr₁, s₁, tr₂, rfl, hsel, hto, hin, hall⟩

/-- **A check-out is exclusive**, in every run in which no check-out throws: a task is handed to a
worker by the poll thread that moved its row from `TO_RETRY` to `IN_RETRY`.  And with new ids, and
no check-in while a poll thread has a task for the row, the row is checked in between any two
hand-overs. -/
theorem dispatch_run
    (h : Run (Guarded (stepOf (State.step cfg)) CheckOutReturns) (State.empty : State B) tr s) :
    (∀ tr₁ s₁ i w r tr₂, tr = tr₁ ++ (s₁, .dispatch i w) :: tr₂ → s₁.pollers i = .task r →
        MovedBy i r tr₁) ∧
      ∀ x, (∀ p ∈ tr, FreshIds p.1 p.2 ∧ NoCheckInWhileTask x p.1 p.2) →
        ∀ tr₁ p tr₂ q tr₃, tr = tr₁ ++ p :: tr₂ ++ q :: tr₃ → Dispatches x p.1 p.2 →
          Dispatches x q.1 q.2 → ∃ r ∈ tr₂, ChecksIn x r.1 r.2 := by
  constructor
  · rintro tr₁ s₁ i w r tr₂ rfl hi
    obtain ⟨s₂, h₁, h₂⟩ := h.append_inv
    obtain ⟨rfl, -⟩ := h₂.cons_inv
    exact movedBy_run h₁ nofun hi
  · rintro x hx tr₁ p tr₂ q tr₃ rfl hp hq
    have hpolled := h.forall_mem (I := Polled)
      (fun s a s' hg hs => hs.step (step_stepped hg.1)) polled_empty
    have hleased : ∀ r ∈ tr₁ ++ p :: tr₂ ++ q :: tr₃, Leased x r.1 r.2 := by
      intro r hr
      refine ⟨h.guard r hr, (hx r hr).2, ?_⟩
      rintro ⟨c, m, hm, hask, rfl⟩ i ⟨row, hi, hrow⟩
      exact (hx r hr).1 c m hm hask (hrow ▸ (hpolled r hr).1.tasks i row hi)
    have hrun := h.of_guarded.to_guarded hleased
    have hexc : IsLease.Exclusive (fun s : State B => s.tables.RetryStateIs x .toRetry) (HasTask x)
        State.empty :=
      ⟨fun _ _ hi => (by obtain ⟨_, hi, _⟩ := hi; cases hi),
        fun _ hi => (by obtain ⟨_, hi, _⟩ := hi; cases hi)⟩
    obtain ⟨r, hr, hc | ⟨c, m, hm, hask, rfl⟩⟩ :=
      (isLease_checkOut cfg x).between_uses hrun hexc hp hq
    · exact ⟨r, hr, hc⟩
    · -- the id was issued before the first hand-over, so it is not generated after it
      obtain ⟨s₁, h₁, h₂⟩ := hrun.append_inv
      obtain ⟨s₀, -, h₁⟩ := h₁.append_inv
      obtain ⟨hs₀, s₁', hstep, h₁⟩ := h₁.cons_inv
      have hpos : c.newId ∈ p.1.issued := by
        obtain ⟨i, w, -, row, hi, hrow⟩ := hp
        exact hrow ▸ (hpolled p (by simp)).1.tasks i row hi
      have hissued := (h₁.forall_mem (I := fun s => c.newId ∈ s.issued)
        (fun s a s' hg hs => (step_stepped hg.1).issued_subset hs)
        ((step_stepped hstep.1).issued_subset (hs₀ ▸ hpos)) r hr).1
      exact absurd hissued ((hx r (by simp [hr])).1 c m hm hask)

theorem noCheckIn_of_quiet (hm : s.message a = none) : FreshIds s a ∧ NoCheckInWhileTask x s a := by
  refine ⟨fun c m h => ?_, ?_⟩
  · rw [hm] at h
    cases h
  · rintro ⟨c, m, h, -⟩
    rw [hm] at h
    cases h

/-- A poll thread takes the row 1. -/
def pollRound : List (Action String) := [.select 0 1, .checkOut 0 false]

theorem quiet_pollRound {s : State String} :
    ∀ p ∈ trace (State.step .sample) s pollRound,
      CheckOutReturns p.1 p.2 ∧ p.1.message p.2 = none := by
  intro p hp
  have ha := mem_trace hp
  simp only [pollRound, List.mem_cons, List.not_mem_nil, or_false] at ha
  rcases ha with ha | ha <;> rw [ha] <;> exact ⟨nofun, rfl⟩

theorem dispatch_run_sample : ∃ s₁ s₂, exec (State.step .sample) sampleState pollRound = some s₁ ∧
    s₁.step .sample (.dispatch 0 0) = some s₂ ∧
    ∃ p ∈ (s₂, .process (.sample 2) (sampleMessage .intervalMsgDoRetry 1 "post 1")) ::
      trace (State.step .sample) (s₂.process (.sample 2)
        (sampleMessage .intervalMsgDoRetry 1 "post 1")) pollRound, ChecksIn 1 p.1 p.2 := by
  obtain ⟨s₁, h₁⟩ : ∃ s, exec (State.step .sample) sampleState pollRound = some s := ⟨_, rfl⟩
  obtain ⟨s₂, h₂⟩ : ∃ s, s₁.step .sample (.dispatch 0 0) = some s := by
    cases h₁
    exact ⟨_, rfl⟩
  obtain ⟨s₃, h₃⟩ : ∃ s, exec (State.step .sample) (s₂.process (.sample 2)
      (sampleMessage .intervalMsgDoRetry 1 "post 1")) pollRound = some s := by
    cases h₁
    cases h₂
    exact ⟨_, rfl⟩
  obtain ⟨s₄, h₄⟩ : ∃ s, s₃.step .sample (.dispatch 0 1) = some s := by
    cases h₁
    cases h₂
    cases h₃
    exact ⟨_, rfl⟩
  have hnone : ∀ i, ¬ HasTask 1 s₂ i := by
    cases h₁
    cases h₂
    rintro i ⟨r, hi, -⟩
    by_cases he : i = 0
    · subst he
      cases hi
    · simp [Function.update_of_ne he, sampleState, State.process, State.empty] at hi
  have hstart : stepOf (State.step .sample) (State.empty : State String)
      (.process (.sample 1) (sampleMessage .intervalMsgDoRetry 0 "post 1")) sampleState := rfl
  have hin : stepOf (State.step .sample) s₂
      (.process (.sample 2) (sampleMessage .intervalMsgDoRetry 1 "post 1")) _ := rfl
  have hrun := (((Run.one hstart).trans (Run.of_exec h₁)).trans
    (.cons h₂ (.cons hin (Run.of_exec h₃)))).trans (Run.one h₄)
  refine ⟨s₁, s₂, h₁, h₂, (dispatch_run (hrun.to_guarded (G := CheckOutReturns) ?_)).2 1 ?_ _
    (s₁, .dispatch 0 0) _ (s₃, .dispatch 0 1) [] rfl ?_ ?_⟩
  · intro p hp
    simp only [List.mem_append, List.mem_cons, List.not_mem_nil, or_false] at hp
    rcases hp with ((rfl | hp) | rfl | rfl | hp) | rfl
    · intro i ha
      cases ha
    · exact (quiet_pollRound p hp).1
    · intro i ha
      cases ha
    · intro i ha
      cases ha
    · exact (quiet_pollRound p hp).1
    · intro i ha
      cases ha
  · intro p hp
    simp only [List.mem_append, List.mem_cons, List.not_mem_nil, or_false] at hp
    rcases hp with ((rfl | hp) | rfl | rfl | hp) | rfl
    · refine ⟨?_, fun _ i hi => ?_⟩
      · rintro c m ⟨⟩ -
        exact List.not_mem_nil
      · obtain ⟨r, hr, -⟩ := hi
        cases hr
    · exact noCheckIn_of_quiet (quiet_pollRound p hp).2
    · exact noCheckIn_of_quiet rfl
    · refine ⟨?_, fun _ => hnone⟩
      rintro c m ⟨⟩ hask
      cases hask
    · exact noCheckIn_of_quiet (quiet_pollRound p hp).2
    · exact noCheckIn_of_quiet rfl
  · cases h₁
    exact ⟨0, 0, rfl, _, rfl, rfl⟩
  · cases h₁
    cases h₂
    cases h₃
    exact ⟨0, 1, rfl, _, rfl, rfl⟩

/-- The statement of the check-out raises. -/
def raisingRound : List (Action String) := [.select 0 1, .checkOut 0 true]

/-- A task is handed to two workers, with no check-in, and its row was never checked out. -/
theorem dispatched_twice :
    ∃ s₁ s₂, exec (State.step .sample) sampleState raisingRound = some s₁ ∧
      Dispatches 1 s₁ (.dispatch 0 0) ∧ s₁.tables.RetryStateIs 1 .toRetry ∧
      exec (State.step .sample) s₁ (.dispatch 0 0 :: raisingRound) = some s₂ ∧
      Dispatches 1 s₂ (.dispatch 0 1) ∧ (s₂.step .sample (.dispatch 0 1)).isSome ∧
      ∀ p ∈ trace (State.step .sample) s₁ (.dispatch 0 0 :: raisingRound),
        ¬ ChecksIn 1 p.1 p.2 := by
  refine ⟨_, _, rfl, ⟨0, 0, rfl, _, rfl, rfl⟩, ⟨_, rfl, rfl⟩, rfl, ⟨0, 1, rfl, _, rfl, rfl⟩, rfl,
    fun p hp => ?_⟩
  have ha := mem_trace hp
  simp only [raisingRound, List.mem_cons, List.not_mem_nil, or_false] at ha
  rintro ⟨c, m, hm, -⟩
  rcases ha with ha | ha | ha <;> rw [ha] at hm <;> cases hm

end MRF.Center
