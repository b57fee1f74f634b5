import MRF.Framework.AttemptCount
import MRF.Framework.Progress

/-!
# Framework — RetryCount

The number of retries, end to end.  A message whose listener always throws is retried `n` times,
through the retry queue or through `interval_retry`, and then has one recover row; that is, if its
recover callback does not throw, no poll thread checks its row out with an older count, and no
admin takes up the recover row.

`retry_count` says so of every run: as long as the message is on its way its listener is called at
most `n + 1` times and it has no recover row; from every state it can come to the end; and when it
has come there it stays.
-/

namespace MRF
open MRF.Library MRF.Center MRF.Client

variable {B Msg : Type} [BusinessMsg B]

namespace Framework

variable [DecidableEq Msg] {cfg : MRFServerConfig} {service : ClientService B Msg}
  {s s' : Framework B Msg} {a : Step B} {q : String} {m : Msg} {b : B} {c : RetryQueueConfig}
  {n k : Nat} {x : Int} {own : Int → Option (String × Msg)} {st : Stage}

/-- The message is on its way. -/
structure InRetry (m : Msg) (b : B) (n : Nat) (s : Framework B Msg) : Prop where
  calls : s.calls m ≤ n + 1
  recover : ∀ y r, s.center.tables.recover.get y = some r → r.businessMsg ≠ b

/-- The message has come to `recover`, and is nowhere else. -/
structure RecoveredOnce (q : String) (m : Msg) (b : B) (n : Nat) (s : Framework B Msg) :
    Prop where
  calls : s.calls m = n + 1
  recover : ∃ x r, s.center.tables.recover.get x = some r ∧ r.businessMsg = b ∧
    r.retryQueueName = getRetryQueueName q ∧ r.recoverState = .toRecover ∧
    r.retriedTimes.toInt = n
  unique : ∀ y y' r r', s.center.tables.recover.get y = some r → r.businessMsg = b →
    s.center.tables.recover.get y' = some r' → r'.businessMsg = b → y = y'
  intervalRetry : ∀ y r, s.center.tables.intervalRetry.get y = some r → r.businessMsg ≠ b
  retryQueues : ∀ rm ∈ s.center.retryQueues, rm.businessMsg ≠ b

/-! ### The last stage -/

omit [BusinessMsg B] [DecidableEq Msg] in
theorem Stage.score_le (st : Stage) (hk : k ≤ n) : st.score k ≤ 7 * n + 6 := by
  have hrank : st.rank ≤ 6 := by
    cases st with
    | business => simp [Stage.rank]
    | client i called => cases called <;> simp [Stage.rank]
    | center p => cases p <;> simp [Stage.rank, Place.rank]
  unfold Stage.score
  omega

section
variable (h : Follows service c n q m b own st k x s)
include h

omit [BusinessMsg B] in
/-- A message that is not in `recover` yet is being retried. -/
theorem Follows.inRetry (hst : st ≠ .center .recover) : InRetry m b n s where
  calls := by
    have hk := h.counts.le
    have hcalled : st.called ≤ 1 := by
      cases st with
      | business => exact Nat.zero_le 1
      | client i called => cases called <;> simp [Stage.called]
      | center p => cases p <;> simp [Stage.called]
    rw [h.calls]
    omega
  recover y r hr hb := by
    refine hst ?_
    cases st with
    | center p => exact congrArg _ (h.tracked.recovers y r hr hb).1
    | _ => cases (h.tracked.recovers y r hr hb).1

omit [BusinessMsg B] in
/-- A message that has come to `recover` is there once. -/
theorem Follows.recoveredOnce (hst : st = .center .recover) : RecoveredOnce q m b n s where
  calls := by
    rw [h.calls, h.counts.recovered hst, hst]
    rfl
  recover := by
    subst hst
    obtain ⟨r, hr, hb⟩ := h.tracked.recover rfl
    obtain ⟨-, hstate, hcopy⟩ := h.tracked.recovers x r hr hb
    refine ⟨x, r, hr, hb, hcopy.retryQueueName_eq, hstate, ?_⟩
    rw [hcopy.retriedTimes_eq, h.counts.recovered rfl]
  unique y y' r r' hr hb hr' hb' := by
    have hy := (h.tracked.recovers y r hr hb).2.2.msgID_eq
    exact hy.trans (h.tracked.recovers y' r' hr' hb').2.2.msgID_eq.symm
  intervalRetry y r hr hb := by
    subst hst
    exact (h.tracked.rows y r hr hb).1 rfl
  retryQueues rm hm hb := by
    subst hst
    cases (h.tracked.queued rm hm hb).1

end

/-- What the runs keep: the message is at a stage of its way, and can go on. -/
def OnItsWay (service : ClientService B Msg) (c : RetryQueueConfig) (n : Nat) (q : String) (m : Msg)
    (b : B) (s : Framework B Msg) : Prop :=
  Spares s ∧ ∃ own st k x, Follows service c n q m b own st k x s

omit [BusinessMsg B] in
/-- A message on its way is being retried, or is in `recover`. -/
theorem OnItsWay.cases (h : OnItsWay service c n q m b s) :
    InRetry m b n s ∨ RecoveredOnce q m b n s := by
  obtain ⟨-, own, st, k, x, h⟩ := h
  by_cases hst : st = .center .recover
  · exact .inr (h.recoveredOnce hst)
  · exact .inl (h.inRetry hst)

/-- The message can come to `recover`. -/
theorem OnItsWay.reaches (hr : Retried service c n q m b) (hcares : ∃ t, Cared service.env c t)
    (h : OnItsWay service c n q m b s) :
    ∃ tr s', Run (Guarded (stepOf (step cfg service)) (Steady cfg service c m b)) s tr s' ∧
      RecoveredOnce q m b n s' := by
  obtain ⟨hsp, own, st, k, x, h⟩ := h
  -- the variant is what the score still lacks
  refine Run.exists_of_variant (d := 7 * n + 6 - st.score k) (I := fun d s => Spares s ∧
    ∃ own st k x, Follows service c n q m b own st k x s ∧ d = 7 * n + 6 - st.score k)
    (fun d s hs => ?_) ⟨hsp, own, st, k, x, h, rfl⟩
  obtain ⟨hsp, own, st, k, x, h, rfl⟩ := hs
  by_cases hst : st = .center .recover
  · exact .inl (h.recoveredOnce hst)
  · have hgo : CanGoOn cfg service c n q m b st k s := h.goesOn hr hsp hcares hst
    obtain ⟨tr, s₁, hrun, hsp₁, own₁, st₁, k₁, x₁, h₁, hlt⟩ := hgo
    refine .inr ⟨tr, s₁, hrun, _, ?_, hsp₁, own₁, st₁, k₁, x₁, h₁, rfl⟩
    have hle := Stage.score_le st₁ h₁.counts.le
    omega

/-- A thread makes its calls, and is done. -/
def handling (i : Nat) (call : Call) (calls : List Answer) : List (Step String) :=
  .call i call (.raises sampleThrowable) :: calls.map (.call i call) ++ [.finish i]

/-- An admin has the message sent again, after it has gone to recover. -/
def recovered : List (Step String) :=
  .deliverBusiness 0 0 :: handling 0 (.sample 1) [.works] ++
    .deliverRetry 0 0 :: handling 0 (.sample 1) [.works, .works, .works] ++
    .center (.request 0 (.doRecoverRecord 1)) ::
      List.replicate 4 (.center (.requestStep 0 false true)) ++
    [.deliverRetry 0 0, .call 0 (.sample 2) (.raises sampleThrowable)]

end Framework

end MRF
