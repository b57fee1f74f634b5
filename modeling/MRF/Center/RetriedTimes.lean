import MRF.Center.Payload

/-!
# Center — RetriedTimes

The retry count of a row.  A check-in writes the count of its message, whatever the row has, so a
copy of an old check-in sets the count back.  `retriedTimes_grow_iff`: the counts of a run never
decrease if and only if no check-in of the run is stale.
-/

namespace MRF.Center
open MRF.Library State

variable {B : Type} [BusinessMsg B] {x : Int} {cfg : MRFServerConfig} {s s' : State B}
  {a : Action B} {tr : List (State B × Action B)}

/-- The action applies the check-in `m`: the call returns normally. -/
structure AppliesCheckin (s : State B) (a : Action B) (m : RetryMessage B) : Prop where
  messageFlag : m.messageFlag = .intervalMsgDoRetry
  msgID : 0 < m.msgID
  content : hasContent m.retryQueueName m.businessMsg = true
  applies : ∃ c, s.message a = some (c, m) ∧
    (MRFServiceImpl.process (s.env c) m s.tables).1.isOk = true

/-- The action applies a check-in, and the row of its id has counted more retries already. -/
def AppliesStale (s : State B) (a : Action B) : Prop :=
  ∃ m r, AppliesCheckin s a m ∧ s.tables.intervalRetry.get m.msgID = some r ∧
    m.retriedTimes < r.retriedTimes

/-- The count of `x` does not decrease on the way from `s` to `s'` as long as its row exists. -/
def RetriedTimesGrow (cfg : MRFServerConfig) (x : Int) (s : State B)
    (tr : List (State B × Action B)) (s' : State B) : Prop :=
  ∀ tr₁ s₁ tr₂ s₂ tr₃ r₁ r₂, tr = tr₁ ++ (tr₂ ++ tr₃) →
    Run (stepOf (State.step cfg)) s tr₁ s₁ → Run (stepOf (State.step cfg)) s₁ tr₂ s₂ →
    Run (stepOf (State.step cfg)) s₂ tr₃ s' →
    (∀ p ∈ tr₂, p.1.tables.intervalRetry.get x ≠ none) →
    s₁.tables.intervalRetry.get x = some r₁ → s₂.tables.intervalRetry.get x = some r₂ →
    r₁.retriedTimes ≤ r₂.retriedTimes

/-- A step leaves the count of a row, or writes that of a check-in for it. -/
theorem State.Stepped.retriedTimes_cases (h : Stepped cfg s a s') {r r' : IntervalRetry B}
    (hr : s.tables.intervalRetry.get x = some r) (hr' : s'.tables.intervalRetry.get x = some r') :
    r'.retriedTimes = r.retriedTimes ∨
      ∃ m, AppliesCheckin s a m ∧ m.msgID = x ∧ r'.retriedTimes = m.retriedTimes := by
  cases hm : s.message a with
  | none =>
      obtain ⟨r₀, hr₀, hsame⟩ := h.wrote.intervalRetry_same hm hr'
      rw [hr] at hr₀
      cases hr₀
      exact .inl hsame.retriedTimes
  | some p =>
      obtain ⟨c, m⟩ := p
      rw [h.tables_eq hm] at hr'
      have hcopy := copies_of_processed hr'
      split at hcopy
      · next hw =>
          rcases hw with ⟨hnone, -⟩ | ⟨hok, hf, hpos, rfl, hc⟩
          · rw [hr] at hnone
            cases hnone
          · have hcounts := hcopy.counts
            rw [if_neg (by rw [hf]; decide)] at hcounts
            exact .inr ⟨m, ⟨hf, hpos, hc, c, hm, hok⟩, rfl,
              (Prod.mk.inj (Prod.mk.inj hcounts).2).1⟩
      · rw [hr] at hcopy
        cases hcopy
        exact .inl rfl

/-- A check-in writes its count. -/
theorem State.Stepped.retriedTimes_checkin (h : Stepped cfg s a s') {m : RetryMessage B}
    (ha : AppliesCheckin s a m) {r : IntervalRetry B}
    (hr : s.tables.intervalRetry.get m.msgID = some r) :
    ∃ r', s'.tables.intervalRetry.get m.msgID = some r' ∧ r'.retriedTimes = m.retriedTimes := by
  obtain ⟨c, hm, hok⟩ := ha.applies
  have ht := (h.tables_eq hm).trans
    (processed_checkin_of_ok hok ha.messageFlag ha.msgID ha.content)
  rw [ht, Tables.setIntervalRetry_intervalRetry, Table.get_update, if_pos rfl, hr]
  exact ⟨_, rfl, rfl⟩

/-- A step that is not stale does not set the count back. -/
theorem State.Stepped.retriedTimes_le (h : Stepped cfg s a s') (hns : ¬ AppliesStale s a)
    {r r' : IntervalRetry B} (hr : s.tables.intervalRetry.get x = some r)
    (hr' : s'.tables.intervalRetry.get x = some r') : r.retriedTimes ≤ r'.retriedTimes := by
  rcases h.retriedTimes_cases hr hr' with he | ⟨m, ha, rfl, he⟩
  · rw [he]
    exact Int32.le_refl _
  · rw [he]
    exact Int32.not_lt.mp fun hlt => hns ⟨m, r, ha, hr, hlt⟩

/-- What every step keeps between the counts of a row, a run keeps while the row exists. -/
theorem retriedTimes_run {R : Int32 → Int32 → Prop} (hrefl : ∀ n, R n n)
    (htrans : ∀ {k n l}, R k n → R n l → R k l) (h : Run (stepOf (State.step cfg)) s tr s')
    (hR : ∀ p ∈ tr, ∀ s₁, Stepped cfg p.1 p.2 s₁ → ∀ r r', p.1.tables.intervalRetry.get x = some r →
      s₁.tables.intervalRetry.get x = some r' → R r.retriedTimes r'.retriedTimes)
    (hex : ∀ p ∈ tr, p.1.tables.intervalRetry.get x ≠ none) {r r' : IntervalRetry B}
    (hr : s.tables.intervalRetry.get x = some r) (hr' : s'.tables.intervalRetry.get x = some r') :
    R r.retriedTimes r'.retriedTimes := by
  induction h generalizing r with
  | nil =>
      rw [hr] at hr'
      cases hr'
      exact hrefl _
  | @cons s s₁ s' a tr hstep hrest ih =>
      have hrow : s₁.tables.intervalRetry.get x ≠ none := by
        cases hrest with
        | nil => rw [hr']; exact Option.some_ne_none r'
        | cons _ _ => exact hex _ (List.mem_cons_of_mem _ List.mem_cons_self)
      obtain ⟨r₁, hr₁⟩ := Option.ne_none_iff_exists'.mp hrow
      have hfirst := hR _ List.mem_cons_self s₁ (step_stepped hstep) r r₁ hr hr₁
      refine htrans hfirst (ih (fun p hp => ?_) (fun p hp => ?_) hr₁ hr')
      · exact hR p (List.mem_cons_of_mem _ hp)
      · exact hex p (List.mem_cons_of_mem _ hp)

/-- **The retry counts of a run never decrease if and only if no step of it applies a stale
check-in.** -/
theorem retriedTimes_grow_iff (h : Run (stepOf (State.step cfg)) s tr s') :
    (∀ x, RetriedTimesGrow cfg x s tr s') ↔ ∀ p ∈ tr, ¬ AppliesStale p.1 p.2 := by
  constructor
  · rintro hgrow p hp ⟨m, r, ha, hr, hlt⟩
    obtain ⟨tr₁, tr₂, rfl⟩ := List.append_of_mem hp
    obtain ⟨s₁, h₁, h₂⟩ := h.append_inv
    obtain ⟨rfl, s₂, hstep, h₃⟩ := h₂.cons_inv
    obtain ⟨r', hr', he⟩ := (step_stepped hstep).retriedTimes_checkin ha hr
    have hle := hgrow m.msgID tr₁ p.1 [p] s₂ tr₂ r r' rfl h₁ (Run.one hstep) h₃ ?_ hr hr'
    · exact Int32.not_le.mpr hlt (he ▸ hle)
    · intro p' hp'
      rw [List.mem_singleton.mp hp', hr]
      exact Option.some_ne_none r
  · rintro hns x tr₁ s₁ tr₂ s₂ tr₃ r₁ r₂ rfl - h₂ - hex hr₁ hr₂
    refine retriedTimes_run Int32.le_refl Int32.le_trans h₂ (fun p hp s₁ hst r r' hr hr' => ?_)
      hex hr₁ hr₂
    exact hst.retriedTimes_le
      (hns p (List.mem_append_right _ (List.mem_append_left _ hp))) hr hr'

/-- **A copy is stale only when it is late**: until another check-in for its id is applied, the row
has the count of the copy. -/
theorem retriedTimes_of_first {s₁ s₂ : State B} {m : RetryMessage B} {r : IntervalRetry B}
    (h : Stepped cfg s a s₁) (ha : AppliesCheckin s a m)
    (hr : s.tables.intervalRetry.get m.msgID ≠ none)
    (hrun : Run (stepOf (State.step cfg)) s₁ tr s₂)
    (hfirst : ∀ p ∈ tr, ∀ m', AppliesCheckin p.1 p.2 m' → m'.msgID ≠ m.msgID)
    (hex : ∀ p ∈ tr, p.1.tables.intervalRetry.get m.msgID ≠ none)
    (hr₂ : s₂.tables.intervalRetry.get m.msgID = some r) : r.retriedTimes = m.retriedTimes := by
  obtain ⟨r₀, hr₀⟩ := Option.ne_none_iff_exists'.mp hr
  obtain ⟨r₁, hr₁, he⟩ := h.retriedTimes_checkin ha hr₀
  refine Eq.trans ?_ he
  refine (retriedTimes_run (R := Eq) (fun _ => rfl) Eq.trans hrun ?_ hex hr₁ hr₂).symm
  intro p hp u hst r r' hr hr'
  rcases hst.retriedTimes_cases hr hr' with he | ⟨m', ha', hid, -⟩
  · exact he.symm
  · exact absurd hid (hfirst p hp m' ha')

/-- A poll thread takes the row 1, and its worker sends it to a client. -/
def sendRound : List (Action String) :=
  [.select 0 1, .checkOut 0 false, .dispatch 0 0, .sendRetry 0 true false, .deliver 0]

/-- The check-in of a client that has counted `retriedTimes` retries of the message 1. -/
def checkin (retriedTimes : Int32) : RetryMessage String :=
  { sampleMessage .intervalMsgDoRetry 1 "post 1" with retriedTimes }

theorem not_appliesStale_of_all
    (h : (s.message a).all (fun p => (s.tables.intervalRetry.get p.2.msgID).all
      fun r => r.retriedTimes ≤ p.2.retriedTimes) = true) : ¬ AppliesStale s a := by
  rintro ⟨m, r, ha, hr, hlt⟩
  obtain ⟨c, hm, -⟩ := ha.applies
  rw [hm, Option.all_some, hr, Option.all_some] at h
  exact Int32.not_le.mpr hlt (of_decide_eq_true h)

/-- The check-in of the second retry is applied, and the call raises at the client. -/
def copied : List (Action String) :=
  [.process (.sample 2) (checkin 2), .failOver (checkin 2), .receive 0, .dispatchEQ 0 0]

/-- The copy is applied before the next retry, and does not change the count. -/
theorem retriedTimes_grow_sample :
    ∃ s₁ s₂, exec (State.step .sample) sampleState copied = some s₁ ∧
      s₁.step .sample (.executeEQ 0 (.sample 3)) = some s₂ ∧
      AppliesCheckin s₁ (.executeEQ 0 (.sample 3)) (checkin 2) ∧
      (s₁.tables.intervalRetry.get 1).map (fun r => r.retriedTimes) = some 2 ∧
      (s₂.tables.intervalRetry.get 1).map (fun r => r.retriedTimes) = some 2 ∧
      RetriedTimesGrow .sample 1 sampleState (trace (State.step .sample) sampleState
        (copied ++ [.executeEQ 0 (.sample 3)])) s₂ := by
  refine ⟨_, _, rfl, rfl, ⟨rfl, by decide, by decide, _, rfl, rfl⟩, by decide, by decide, ?_⟩
  refine (retriedTimes_grow_iff (Run.of_exec rfl)).mpr (fun p hp => ?_) 1
  have hall : (trace (State.step .sample) sampleState
      (copied ++ [.executeEQ 0 (.sample 3)])).all (fun p => (p.1.message p.2).all fun q =>
        (p.1.tables.intervalRetry.get q.2.msgID).all
          fun r => r.retriedTimes ≤ q.2.retriedTimes) = true := by decide
  exact not_appliesStale_of_all (List.all_eq_true.mp hall p hp)

/-- The second retry fails, its check-in is applied, and the call raises at the client.  The copy
waits while the third retry fails, and then sets the count back to two. -/
theorem retriedTimes_set_back :
    ∃ s s', exec (State.step .sample) sampleState
        (sendRound ++ [.process (.sample 2) (checkin 2), .failOver (checkin 2)] ++
          sendRound ++ [.process (.sample 3) (checkin 3), .receive 0, .dispatchEQ 0 0]) = some s ∧
      s.step .sample (.executeEQ 0 (.sample 4)) = some s' ∧
      (s.tables.intervalRetry.get 1).map (fun r => r.retriedTimes) = some 3 ∧
      (s'.tables.intervalRetry.get 1).map (fun r => r.retriedTimes) = some 2 :=
  ⟨_, _, rfl, rfl, by decide, by decide⟩

end MRF.Center
