import MRF.Client.Calls

/-!
# Client — AttemptCount

The count of retries on the messages of one queue, retried a number of times or for ever.  The
wrapper increments the count under a test of the mode, and stops under a test of the count; when
the count it was given is in range, so is the count of everything it constructs
(`allowsHandling_admits`).
-/

namespace MRF.Client
open BusinessMessageListenerWrapper RetryQueueConfigHelper

variable {B Msg : Type} {env : ClientEnv B Msg} {w : BusinessMessageListenerWrapper} {m : Msg}
  {c : RetryQueueConfig} {k : Int32} {b : B} {flag : MessageFlag}

/-- The queue retries, immediately or after an interval. -/
structure Retries (c : RetryQueueConfig) : Prop where
  interval : 0 ≤ c.retryInterval
  times : c.retryTimes ≠ 0

theorem Retries.times_cases (hc : Retries c) : 0 < c.retryTimes ∨ c.retryTimes = -1 := by
  have hge := Int32.le_iff_toInt_le.mp c.retryTimes_ge
  have hne : c.retryTimes.toInt ≠ 0 := fun h => hc.times (Int32.toInt_inj.mp h)
  rw [Int32.lt_iff_toInt_lt, Int32.toInt_zero, ← Int32.toInt_inj]
  have hone : ((-1 : Int32)).toInt = -1 := rfl
  omega

theorem Retries.mode (hc : Retries c) : getMessageRetryMode c =
    if c.retryInterval = 0 then
      if 0 < c.retryTimes then .retryImmediateFinite else .retryImmediateInfinite
    else if 0 < c.retryTimes then .retryIntervalFinite else .retryIntervalInfinite := by
  have hne : c.retryInterval ≠ -1 := by
    intro he
    exact absurd (he ▸ hc.interval) (by decide)
  have hi : c.retryInterval = 0 ∨ c.retryInterval ≠ 0 ∧ 0 < c.retryInterval := by
    rcases Int64.lt_or_eq_of_le hc.interval with hlt | he
    · exact .inr ⟨(Int64.ne_of_lt hlt).symm, hlt⟩
    · exact .inl he.symm
  have ht : 0 < c.retryTimes ∧ ¬ c.retryTimes < 0 ∨ ¬ 0 < c.retryTimes ∧ c.retryTimes < 0 := by
    rcases hc.times_cases with ht | ht
    · exact .inl ⟨ht, Int32.not_lt.mpr (Int32.le_of_lt ht)⟩
    · rw [ht]
      exact .inr ⟨by decide, by decide⟩
  unfold getMessageRetryMode
  rcases hi with hi | ⟨hi, hpos⟩
  · rcases ht with ⟨ht, hnt⟩ | ⟨hnt, ht⟩ <;> simp [hi, ht, hnt, hc.times]
  · rcases ht with ⟨ht, hnt⟩ | ⟨hnt, ht⟩ <;> simp [hi, ht, hnt, hpos, hne]

theorem Retries.not_direct (hc : Retries c) : shouldDirectToRecover c = false := by
  unfold shouldDirectToRecover
  rw [hc.mode]
  split <;> split <;> rfl

/-- Only `retryTimes = -1` is for ever. -/
theorem Retries.infinite_iff (hc : Retries c) :
    isInfiniteRetryMessage c = true ↔ c.retryTimes = -1 := by
  unfold isInfiniteRetryMessage
  rw [hc.mode]
  rcases hc.times_cases with ht | ht
  · have hne : c.retryTimes ≠ -1 := by
      intro he
      exact absurd (he ▸ ht) (by decide)
    simp only [ht, hne, if_true, iff_false]
    split <;> nofun
  · simp only [ht, iff_true]
    split <;> rfl

/-- The count `k` is one that the queue can come to. -/
structure RetryQueueConfig.InRange (c : RetryQueueConfig) (k : Int32) : Prop where
  nonneg : 0 ≤ k
  finite : 0 < c.retryTimes → k ≤ c.retryTimes
  infinite : c.retryTimes = -1 → k = 0

theorem RetryQueueConfig.inRange_zero : c.InRange 0 where
  nonneg := Int32.le_refl 0
  finite := Int32.le_of_lt
  infinite _ := rfl

/-- The wrapper of a queue with the configuration `c`, with a count in range. -/
structure RetryQueueConfig.Counts (c : RetryQueueConfig) (w : BusinessMessageListenerWrapper) :
    Prop where
  config : w.retryQueueConfig = c
  inRange : c.InRange w.getRetriedTimes

/-- **The increment does not overflow.** -/
theorem RetryQueueConfig.Counts.increment (hw : c.Counts w)
    (hn : w.hasReachedMaxRetryTimes = false) (hpos : 0 < c.retryTimes) :
    (w.getRetriedTimes + 1).toInt = w.getRetriedTimes.toInt + 1 ∧
      w.getRetriedTimes + 1 ≤ c.retryTimes := by
  have hlt : w.getRetriedTimes < c.retryTimes := by
    cases w with
    | initial c' => exact hpos
    | retry c' k fromRecover msgID =>
        obtain rfl : c' = c := hw.config
        have hnn : ¬ c'.retryTimes < 0 := Int32.not_lt.mpr (Int32.le_of_lt hpos)
        simp only [hasReachedMaxRetryTimes, hnn, if_false, decide_eq_false_iff_not] at hn
        exact Int32.not_le.mp hn
  have hge := Int32.le_iff_toInt_le.mp hw.inRange.nonneg
  rw [Int32.toInt_zero] at hge
  rw [Int32.lt_iff_toInt_lt] at hlt
  have hmax := Int32.toInt_lt c.retryTimes
  have hadd : (w.getRetriedTimes + 1).toInt = w.getRetriedTimes.toInt + 1 := by
    rw [Int32.toInt_add, Int32.toInt_one]
    exact Int.bmod_eq_of_le (by omega) (by omega)
  refine ⟨hadd, Int32.le_iff_toInt_le.mpr ?_⟩
  omega

/-- What a client of the queue may send. -/
structure RetryQueueConfig.Admits (c : RetryQueueConfig) (rm : RetryMessage B) : Prop where
  inRange : c.InRange rm.retriedTimes
  notDirect : rm.messageFlag ≠ .msgDirectToRecover
  infinite : c.retryTimes = -1 →
    rm.messageFlag ≠ .intervalMsgDoRecover ∧ rm.messageFlag ≠ .immediateMsgDoRecover

theorem RetryQueueConfig.Counts.admits (hw : c.Counts w) (hd : flag ≠ .msgDirectToRecover)
    (hr : c.retryTimes = -1 → flag ≠ .intervalMsgDoRecover ∧ flag ≠ .immediateMsgDoRecover) :
    c.Admits (w.retryMessage b flag false) :=
  ⟨hw.inRange, hd, hr⟩

theorem RetryQueueConfig.Counts.admits_retry (hw : c.Counts w) (hc : Retries c)
    (hn : w.hasReachedMaxRetryTimes = false) (hd : flag ≠ .msgDirectToRecover)
    (hr : c.retryTimes = -1 → flag ≠ .intervalMsgDoRecover ∧ flag ≠ .immediateMsgDoRecover) :
    c.Admits (w.retryMessage b flag true) := by
  refine ⟨?_, hd, hr⟩
  have hconfig := hw.config
  rcases hc.times_cases with ht | ht
  · have hinf : isInfiniteRetryMessage c = false :=
      Bool.eq_false_iff.mpr fun h => absurd (hc.infinite_iff.mp h ▸ ht) (by decide)
    obtain ⟨hadd, hle⟩ := hw.increment hn ht
    have hge := Int32.le_iff_toInt_le.mp hw.inRange.nonneg
    rw [Int32.toInt_zero] at hge
    simp only [BusinessMessageListenerWrapper.retryMessage, hconfig, hinf, Bool.not_false,
      Bool.and_self, if_true]
    refine ⟨Int32.le_iff_toInt_le.mpr ?_, fun _ => hle, fun h => ?_⟩
    · rw [Int32.toInt_zero, hadd]
      omega
    · exact absurd (h ▸ ht) (by decide)
  · simp only [BusinessMessageListenerWrapper.retryMessage, hconfig, hc.infinite_iff.mpr ht,
      Bool.not_true, Bool.and_false, Bool.false_eq_true, if_false]
    exact hw.inRange

/-- A queue that retries for ever does not come to the end of its retries. -/
theorem RetryQueueConfig.Counts.not_reached (hw : c.Counts w) (ht : c.retryTimes = -1) :
    w.hasReachedMaxRetryTimes = false := by
  cases w with
  | initial c' => rfl
  | retry c' k fromRecover msgID =>
      obtain rfl : c' = c := hw.config
      simp only [hasReachedMaxRetryTimes, ht]
      rfl

/-- The calls of the clients, as far as they are about the queue of `c`. -/
def RetryQueueConfig.AdmitsCall (c : RetryQueueConfig) : ClientOp B Msg → Prop
  | .process rm | .sendToExceptionQueue rm | .sendToRetryQueue rm =>
      rm.retryQueueName = getRetryQueueName c.businessQueueName → c.Admits rm
  | _ => True

theorem RetryQueueConfig.admitsCall_hop {hop : Hop B}
    (h : hop.message.retryQueueName = getRetryQueueName c.businessQueueName →
      c.Admits hop.message) : AllowsHop (c.AdmitsCall : ClientOp B Msg → Prop) hop := by
  cases hop with
  | center rm => exact ⟨h, h⟩
  | retryQueue rm => exact h

/-- A wrapper of another queue, or one with a count in range. -/
theorem allowsHandling_admits (hc : Retries c)
    (hw : w.retryQueueConfig.businessQueueName = c.businessQueueName → c.Counts w) :
    AllowsHandling env w m (c.AdmitsCall (B := B)) where
  invoke := trivial
  connection := trivial
  template := trivial
  callback _ := trivial
  cleansUp hop hcl := by
    refine RetryQueueConfig.admitsCall_hop fun hq => ?_
    cases hcl with
    | recover _ hm =>
        obtain ⟨b, -, rfl⟩ := constructRetryMessage_ok hm
        exact (hw (getRetryQueueName_inj hq)).admits nofun fun _ => ⟨nofun, nofun⟩
    | intervalRetry _ _ hm =>
        obtain ⟨b, -, rfl⟩ := constructRetryMessage_ok hm
        exact (hw (getRetryQueueName_inj hq)).admits nofun fun _ => ⟨nofun, nofun⟩
  handsOver hop hh := by
    refine RetryQueueConfig.admitsCall_hop fun hq => ?_
    cases hh with
    | resendForRecover _ hm =>
        obtain ⟨b, -, rfl⟩ := constructRetryMessage_ok hm
        exact (hw (getRetryQueueName_inj hq)).admits nofun fun _ => ⟨nofun, nofun⟩
    | directToRecover _ hd hm =>
        obtain ⟨b, -, rfl⟩ := constructRetryMessage_ok hm
        rw [(hw (getRetryQueueName_inj hq)).config, hc.not_direct] at hd
        cases hd
    | immediateRetry _ hn _ hm =>
        obtain ⟨b, -, rfl⟩ := constructRetryMessage_ok hm
        exact (hw (getRetryQueueName_inj hq)).admits_retry hc hn nofun fun _ => ⟨nofun, nofun⟩
    | intervalRetry _ hn _ hm =>
        obtain ⟨b, -, rfl⟩ := constructRetryMessage_ok hm
        exact (hw (getRetryQueueName_inj hq)).admits_retry hc hn nofun fun _ => ⟨nofun, nofun⟩
    | immediateRecover _ hn _ hm | intervalRecover _ hn _ hm =>
        obtain ⟨b, -, rfl⟩ := constructRetryMessage_ok hm
        have hcounts := hw (getRetryQueueName_inj hq)
        refine hcounts.admits nofun fun ht => ?_
        rw [hcounts.not_reached ht] at hn
        cases hn

end MRF.Client
