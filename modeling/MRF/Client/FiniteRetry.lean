import MRF.Client.Handling

/-!
# Client — FiniteRetry

The wrappers of a queue that retries a fixed number of times, immediately or after an interval.
A failed message is handed over with its count incremented, until the count has reached
`retryTimes`; then it is handed over for recovery, with the count as it is.
-/

namespace MRF.Client
open BusinessMessageListenerWrapper RetryQueueConfigHelper

variable {B Msg : Type} {env : ClientEnv B Msg} {w : BusinessMessageListenerWrapper} {m : Msg}
  {c : RetryQueueConfig} {n k : Nat}

/-- The queue retries `n` times, `n` being positive. -/
structure RetriesFinitely (c : RetryQueueConfig) (n : Nat) : Prop where
  interval : 0 ≤ c.retryInterval
  times : c.retryTimes.toInt = n
  pos : 1 ≤ n

theorem RetriesFinitely.retryTimes_pos (hc : RetriesFinitely c n) : 0 < c.retryTimes := by
  have ht := hc.times
  have hp := hc.pos
  rw [Int32.lt_iff_toInt_lt, Int32.toInt_zero]
  omega

theorem RetriesFinitely.mode (hc : RetriesFinitely c n) : getMessageRetryMode c =
    if c.retryInterval = 0 then .retryImmediateFinite else .retryIntervalFinite := by
  have hpos := hc.retryTimes_pos
  have hne : c.retryInterval ≠ -1 := by
    intro he
    exact absurd (he ▸ hc.interval) (by decide)
  have hnz : c.retryTimes ≠ 0 := (Int32.ne_of_lt hpos).symm
  have hnn : ¬ c.retryTimes < 0 := Int32.not_lt.mpr (Int32.le_of_lt hpos)
  unfold getMessageRetryMode
  simp only [hne, hnz, hnn, hpos, false_and, and_false, and_true, if_false]
  split
  · rfl
  · next hi =>
      have hlt : 0 < c.retryInterval := by
        rcases Int64.lt_or_eq_of_le hc.interval with hlt | he
        · exact hlt
        · exact absurd he.symm hi
      rw [if_pos hlt]

theorem RetriesFinitely.not_infinite (hc : RetriesFinitely c n) :
    isInfiniteRetryMessage c = false := by
  unfold isInfiniteRetryMessage
  rw [hc.mode]
  split <;> rfl

theorem RetriesFinitely.not_direct (hc : RetriesFinitely c n) :
    shouldDirectToRecover c = false := by
  unfold shouldDirectToRecover
  rw [hc.mode]
  split <;> rfl

/-- The wrapper of a message that was retried `k` times. -/
structure HasRetried (c : RetryQueueConfig) (w : BusinessMessageListenerWrapper) (k : Nat)
    (x : Int) : Prop where
  config : w.retryQueueConfig = c
  notFromRecover : w.isMessageFromRecover = false
  retriedTimes : w.getRetriedTimes.toInt = k
  msgID : w.getRetryMessageID = x

theorem HasRetried.reached {x : Int} (hw : HasRetried c w k x) (hc : RetriesFinitely c n) :
    w.hasReachedMaxRetryTimes = decide (n ≤ k) := by
  have ht := hc.times
  have hp := hc.pos
  have hk := hw.retriedTimes
  cases w with
  | initial c' =>
      obtain rfl : k = 0 := by
        have h0 : ((0 : Int32).toInt) = k := hk
        rw [Int32.toInt_zero] at h0
        omega
      exact (decide_eq_false (by omega)).symm
  | retry c' retriedTimes fromRecover msgID =>
      obtain rfl : c' = c := hw.config
      have hnn : ¬ c'.retryTimes < 0 := Int32.not_lt.mpr (Int32.le_of_lt hc.retryTimes_pos)
      change retriedTimes.toInt = k at hk
      simp only [hasReachedMaxRetryTimes, hnn, if_false, decide_eq_decide, Int32.le_iff_toInt_le]
      omega

theorem HasRetried.retriedTimes_retry {x : Int} (hw : HasRetried c w k x)
    (hc : RetriesFinitely c n) (hk : k < n) {b : B} {flag : MessageFlag} :
    (w.retryMessage b flag true).retriedTimes.toInt = (k + 1 : Nat) := by
  have ht := hc.times
  have hr := hw.retriedTimes
  have hlt := Int32.toInt_lt c.retryTimes
  simp only [retryMessage, hw.config, hc.not_infinite, Bool.not_false, Bool.and_self, if_true]
  rw [Int32.toInt_add, Int32.toInt_one, hr]
  rw [Int.bmod_eq_of_le (by omega) (by omega)]
  rfl

/-- What a failed message is handed over as. -/
inductive HandsOn (c : RetryQueueConfig) (w : BusinessMessageListenerWrapper) (n k : Nat) (b : B) :
    Hop B → Prop where
  | immediateRetry (hi : c.retryInterval = 0) (hk : k < n) :
      HandsOn c w n k b (.retryQueue (w.retryMessage b .immediateMsgDoRetry true))
  | intervalRetry (hi : c.retryInterval ≠ 0) (hk : k < n) :
      HandsOn c w n k b (.center (w.retryMessage b .intervalMsgDoRetry true))
  | immediateRecover (hi : c.retryInterval = 0) (hk : n ≤ k) :
      HandsOn c w n k b (.center (w.retryMessage b .immediateMsgDoRecover false))
  | intervalRecover (hi : c.retryInterval ≠ 0) (hk : n ≤ k) :
      HandsOn c w n k b (.center (w.retryMessage b .intervalMsgDoRecover false))

theorem HasRetried.handsOn {x : Int} (hw : HasRetried c w k x) (hc : RetriesFinitely c n) {b : B}
    (hb : env.serializer.serialize m = .ok b) {hop : Hop B} (h : HandsOver env w m hop) :
    HandsOn c w n k b hop := by
  have hmsg : ∀ {flag isMessageForRetry rm},
      w.constructRetryMessage env m flag isMessageForRetry = .ok rm →
      rm = w.retryMessage b flag isMessageForRetry := by
    intro flag isMessageForRetry rm hrm
    obtain ⟨b', hb', rfl⟩ := constructRetryMessage_ok hrm
    rw [hb] at hb'
    cases hb'
    rfl
  have hreached := hw.reached hc
  have himm : ∀ {v}, isImmediateRetryMessage w.retryQueueConfig = v →
      decide (c.retryInterval = 0) = v := by
    intro v hv
    rw [← hv, hw.config]
    rfl
  cases h with
  | resendForRecover hr hm => exact absurd (hr.symm.trans hw.notFromRecover) nofun
  | directToRecover hr hd hm =>
      rw [hw.config, hc.not_direct] at hd
      cases hd
  | immediateRetry hr hn hi hm =>
      rw [hn] at hreached
      exact hmsg hm ▸ .immediateRetry (of_decide_eq_true (himm hi))
        (Nat.not_le.mp (of_decide_eq_false hreached.symm))
  | intervalRetry hr hn hi hm =>
      rw [hn] at hreached
      exact hmsg hm ▸ .intervalRetry (of_decide_eq_false (himm hi))
        (Nat.not_le.mp (of_decide_eq_false hreached.symm))
  | immediateRecover hr hn hi hm =>
      rw [hn] at hreached
      exact hmsg hm ▸ .immediateRecover (of_decide_eq_true (himm hi))
        (of_decide_eq_true hreached.symm)
  | intervalRecover hr hn hi hm =>
      rw [hn] at hreached
      exact hmsg hm ▸ .intervalRecover (of_decide_eq_false (himm hi))
        (of_decide_eq_true hreached.symm)

end MRF.Client
