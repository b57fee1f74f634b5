import Mathlib.Tactic.ByContra
import MRF.Client.Configure
import MRF.Client.Outcomes

/-!
# Client — SendsAgain

When a wrapper sends a message that is executed again.

* `not_executed_again_iff`: after a listener that returned, exactly when the clean-up fails with a
  throwable that the configuration cares for.  Listener and clean-up share one `try`, so the failure
  of the clean-up is handled as one of the listener.
* `no_retry_iff`: with a configuration that is documented not to retry, exactly when the interval is
  not `0` and the filter does not stop the throwable.  The mode of such a configuration is
  `UNSUPPORTED_RETRY_MODE`, which `shouldRetryByConfig` takes for a mode that retries.
-/

namespace MRF.Client
open MRF.Library BusinessMessageListenerWrapper RetryQueueConfigHelper MRFServiceThriftClient

variable {B Msg : Type} {env : ClientEnv B Msg} {w : BusinessMessageListenerWrapper} {m : Msg}
  {rm : RetryMessage B} {t : Throwable} {b : B} {tr : ClientAnswers B Msg}
  {v : Except Throwable Unit}

/-! ### The clean-up -/

/-- The flag of the clean-up, if there is one. -/
def cleanupFlag : BusinessMessageListenerWrapper → Option MessageFlag
  | .initial _ => none
  | .retry c _ fromRecover _ =>
      if !fromRecover && isImmediateRetryMessage c then none
      else if fromRecover then some .cleanRecover
      else some .cleanIntervalRetry

theorem executesAgain_cleanupFlag {flag : MessageFlag} (h : cleanupFlag w = some flag) :
    executesAgain flag = false := by
  cases w with
  | initial c => cases h
  | retry c k fromRecover msgID =>
      unfold cleanupFlag at h
      cases fromRecover with
      | true =>
          cases h
          rfl
      | false =>
          cases hi : isImmediateRetryMessage c with
          | true => simp [hi] at h
          | false =>
              simp only [hi, Bool.not_false, Bool.and_false, Bool.false_eq_true, if_false] at h
              cases h
              rfl

theorem doCleanup_eq : w.doCleanup env m w.isMessageFromRecover =
    match cleanupFlag w with
    | none => pure ()
    | some flag => w.sendForProcess env m flag false := by
  cases w with
  | initial c => rfl
  | retry c k fromRecover msgID =>
      unfold doCleanup cleanupFlag
      cases fromRecover with
      | true => rfl
      | false => cases hi : isImmediateRetryMessage c <;> simp [isMessageFromRecover, hi]

/-- The clean-up raises `t`, on these answers: the message serializes, and its sending fails. -/
def CleanupFails (env : ClientEnv B Msg) (w : BusinessMessageListenerWrapper) (m : Msg)
    (tr : ClientAnswers B Msg) (t : Throwable) : Prop :=
  ∃ flag rm, cleanupFlag w = some flag ∧ w.constructRetryMessage env m flag false = .ok rm ∧
    SendFails env rm tr t

theorem ends_doCleanup_error
    (h : (w.doCleanup env m w.isMessageFromRecover).Ends tr (.error t)) :
    CleanupFails env w m tr t ∨ ∃ e, env.serializer.serialize m = .error e := by
  rw [doCleanup_eq] at h
  split at h
  · obtain ⟨-, he⟩ := Prog.ends_pure.mp h
    cases he
  · next flag hflag =>
      cases hs : env.serializer.serialize m with
      | error e => exact .inr ⟨e, rfl⟩
      | ok b =>
          have hm := constructRetryMessage_of_ok (w := w) hs flag false
          rw [sendForProcess_of_ok hm] at h
          exact .inl ⟨flag, _, hflag, hm, ends_sendRetryMessageForProcess_error.mp h⟩

theorem CleanupFails.ends (h : CleanupFails env w m tr t) :
    (w.doCleanup env m w.isMessageFromRecover).Ends tr (.error t) ∧
      ∃ b, env.serializer.serialize m = .ok b := by
  obtain ⟨flag, rm, hflag, hm, hfails⟩ := h
  obtain ⟨b, hb, -⟩ := constructRetryMessage_ok hm
  refine ⟨?_, b, hb⟩
  rw [doCleanup_eq, hflag]
  dsimp only
  rw [sendForProcess_of_ok hm]
  exact ends_sendRetryMessageForProcess_error.mpr hfails

/-- A clean-up sends clean-ups. -/
theorem not_sendsAgain_doCleanup (h : (w.doCleanup env m w.isMessageFromRecover).Ends tr v) :
    ¬ SendsAgain tr := by
  have hA : (w.doCleanup env m w.isMessageFromRecover).Always fun op =>
      ∀ rm, sent op = some rm → executesAgain rm.messageFlag = false := by
    rw [doCleanup_eq]
    split
    · trivial
    · next flag hflag =>
        cases hm : w.constructRetryMessage env m flag false with
        | error e =>
            rw [sendForProcess_of_error hm]
            trivial
        | ok rm =>
            rw [sendForProcess_of_ok hm]
            obtain ⟨b, -, rfl⟩ := constructRetryMessage_ok hm
            refine always_sendRetryMessageForProcess ?_ ?_ ⟨?_, ?_⟩ <;>
              intro rm' hrm' <;> cases hrm'
            · exact executesAgain_cleanupFlag hflag
            · exact executesAgain_cleanupFlag hflag
  rintro ⟨a, ha, rm, hrm, hagain⟩
  rw [h.always hA a ha rm hrm] at hagain
  cases hagain

/-! ### After the listener has returned -/

theorem failed_throws (h : ¬ Cared env w.retryQueueConfig t) :
    ∃ e, failed env w m t = .throw e := by
  cases hby : shouldRetryByConfig w.retryQueueConfig with
  | false => exact ⟨_, failed_of_not_cared (.inl hby)⟩
  | true =>
      cases hcares : shouldCareThrowable env.classPath t w.retryQueueConfig with
      | error e => exact ⟨e, failed_of_filter_throws hby hcares⟩
      | ok cares =>
          cases cares with
          | true => exact absurd ⟨hby, hcares⟩ h
          | false => exact ⟨_, failed_of_not_cared (.inr hcares)⟩

/-- **A message whose listener returned is executed again** exactly when its clean-up fails with a
throwable that the configuration cares for. -/
theorem not_executed_again_iff {tr₁ : ClientAnswers B Msg}
    (h : (w.doCleanup env m w.isMessageFromRecover).Ends tr₁ v) :
    (∀ tr₂ v, (w.onMessage env m).Ends (⟨.invokeBusinessMessage m, .ok ()⟩ :: (tr₁ ++ tr₂)) v →
        ¬ SendsAgain (tr₁ ++ tr₂)) ↔
      ∀ t, CleanupFails env w m tr₁ t → ¬ Cared env w.retryQueueConfig t := by
  constructor
  · intro hnot t hfails hcared
    obtain ⟨hends, b, hb⟩ := hfails.ends
    obtain ⟨tr₂, v₂, hover, hagain⟩ := handsOverBy_handOver.sendsAgain hb
    refine hnot tr₂ v₂ (ends_onMessage_cons.mpr ?_) (sendsAgain_append.mpr (.inr hagain))
    rw [← failed_of_cared hcared] at hover
    exact Prog.ends_tryCatch.mpr (.inr ⟨tr₁, tr₂, t, rfl, hends, hover⟩)
  · intro hnot tr₂ v₂ hends
    rcases Prog.ends_tryCatch.mp (ends_onMessage_cons.mp hends) with
      ⟨_, hclean, -⟩ | ⟨tr₃, tr₄, t, he, hclean, hfailed⟩
    · exact not_sendsAgain_doCleanup hclean
    · obtain ⟨rfl, rfl, rfl⟩ := hclean.unique h he.symm
      have hthrow : ∃ e, failed env w m t = .throw e := by
        by_cases hcared : Cared env w.retryQueueConfig t
        · rcases ends_doCleanup_error hclean with hfails | ⟨e, hs⟩
          · exact absurd hcared (hnot t hfails)
          · rw [failed_of_cared hcared]
            exact ⟨_, handsOverBy_handOver.of_not_serialized hs⟩
        · exact failed_throws hcared
      obtain ⟨e, hthrow⟩ := hthrow
      rw [hthrow] at hfailed
      obtain ⟨rfl, -⟩ := Prog.ends_throw.mp hfailed
      rw [sendsAgain_append]
      exact fun hagain => hagain.elim (not_sendsAgain_doCleanup hclean) sendsAgain_nil

/-- A client whose messages serialize. -/
def sampleEnv : ClientEnv String String :=
  ⟨RetryQueueConfig.sampleClassPath, ⟨.ok, .ok⟩⟩

/-- The wrapper of a message that was retried once, under the id 7. -/
def sampleWrapper (retryInterval : Int64) (retryTimes : Int32) : BusinessMessageListenerWrapper :=
  .retry (.feedQ retryInterval retryTimes) 1 false 7

def sampleIOException : Throwable := ⟨"java.io.IOException"⟩

/-- Its clean-up. -/
def sampleClean : RetryMessage String :=
  (sampleWrapper 5000 3).retryMessage "post 1" .cleanIntervalRetry false

/-- Its retry. -/
def sampleRetry : RetryMessage String :=
  (sampleWrapper 5000 3).retryMessage "post 1" .intervalMsgDoRetry true

/-- The wrapper of the same message, under a configuration that retries one exception only. -/
def filteredWrapper : BusinessMessageListenerWrapper :=
  .retry { RetryQueueConfig.feedQ 5000 3 with
    retryExceptions := ["java.lang.IllegalStateException"] } 1 false 7

/-- Its clean-up. -/
def filteredClean : RetryMessage String :=
  filteredWrapper.retryMessage "post 1" .cleanIntervalRetry false

/-- The clean-up fails at the center and at the exception queue, with a throwable that the filter
stops: the failure is thrown up. -/
theorem not_executed_again_sample :
    let tr : ClientAnswers String String :=
      [⟨.getThriftConnection, .ok true⟩, ⟨.process filteredClean, .error sampleIOException⟩,
        ⟨.getExceptionRabbitTemplate, .ok true⟩,
        ⟨.sendToExceptionQueue filteredClean, .error sampleIOException⟩]
    CleanupFails sampleEnv filteredWrapper "post 1" tr mrfRuntimeException ∧
      (filteredWrapper.onMessage sampleEnv "post 1").Ends
        (⟨.invokeBusinessMessage "post 1", .ok ()⟩ :: tr)
        (.error businessMessageListenerExecuteFailedException) ∧ ¬ SendsAgain tr := by
  intro tr
  have hfails : CleanupFails sampleEnv filteredWrapper "post 1" tr mrfRuntimeException :=
    ⟨.cleanIntervalRetry, filteredClean, rfl, rfl, .processFailOver rfl (.send _)⟩
  have hends : (filteredWrapper.onMessage sampleEnv "post 1").Ends
      (⟨.invokeBusinessMessage "post 1", .ok ()⟩ :: (tr ++ []))
      (.error businessMessageListenerExecuteFailedException) :=
    .call (.call (.call (.call (.call (.throw _)))))
  refine ⟨hfails, hends, (not_executed_again_iff hfails.ends.1).mpr ?_ [] _ hends⟩
  rintro t hfails' ⟨-, hcares⟩
  obtain ⟨-, ht, -⟩ := hfails'.ends.1.unique hfails.ends.1 (rfl : tr ++ [] = tr ++ [])
  cases ht
  have hstops : shouldCareThrowable sampleEnv.classPath mrfRuntimeException
      filteredWrapper.retryQueueConfig = .ok false := rfl
  rw [hstops] at hcares
  cases hcares

/-- The clean-up fails at the center and at the exception queue, and the message is retried. -/
theorem executed_again : ∃ tr, ((sampleWrapper 5000 3).onMessage sampleEnv "post 1").Ends
    (⟨.invokeBusinessMessage "post 1", .ok ()⟩ :: tr) (.ok ()) ∧ SendsAgain tr := by
  refine ⟨[⟨.getThriftConnection, .ok true⟩, ⟨.process sampleClean, .error sampleIOException⟩,
    ⟨.getExceptionRabbitTemplate, .ok true⟩,
    ⟨.sendToExceptionQueue sampleClean, .error sampleIOException⟩,
    ⟨.getThriftConnection, .ok true⟩, ⟨.process sampleRetry, .ok ()⟩], ?_, ?_⟩
  · exact .call (.call (.call (.call (.call (.call (.call (.ret ())))))))
  · exact ⟨⟨.process sampleRetry, .ok ()⟩, by simp, sampleRetry, rfl, rfl⟩

/-! ### Configurations that do not retry -/

/-- No retry, as `MessageConstants` documents it; `(-1, -1)` is for direct to recover. -/
def RetryQueueConfig.IsNoRetry (c : RetryQueueConfig) : Prop :=
  c.retryTimes = 0 ∨ c.retryInterval < 0 ∧ 0 ≤ c.retryTimes

theorem RetryQueueConfig.IsNoRetry.mode {c : RetryQueueConfig} (h : c.IsNoRetry) :
    getMessageRetryMode c = if c.retryInterval = 0 then .noRetry else .unsupportedRetryMode := by
  have hnonneg : 0 ≤ c.retryTimes := by
    rcases h with h | h
    · rw [h]
      exact Int32.le_refl 0
    · exact h.2
  have hne : c.retryTimes ≠ -1 := by
    intro he
    exact absurd (he ▸ hnonneg) (by decide)
  have hnn : ¬ c.retryTimes < 0 := Int32.not_lt.mpr hnonneg
  unfold getMessageRetryMode
  simp only [hne, hnn, and_false, if_false]
  by_cases hi : c.retryInterval = 0
  · have ht : c.retryTimes = 0 := by
      rcases h with h | ⟨h, -⟩
      · exact h
      · exact absurd (hi ▸ h) (by decide)
    simp [hi, ht]
  · have hpos : ¬ (0 < c.retryInterval ∧ 0 < c.retryTimes) := by
      rintro ⟨hp, ht⟩
      rcases h with h | ⟨h, -⟩
      · exact absurd (h ▸ ht) (by decide)
      · exact absurd (Int64.lt_trans hp h) (by decide)
    simp [hi, hpos]

/-- The failed message is not sent on, and the failure is thrown up. -/
def RethrownOnly (tr : ClientAnswers B Msg) (v : Except Throwable Unit) : Prop :=
  ¬ SendsAgain tr ∧ v = .error businessMessageListenerExecuteFailedException

/-- **A configuration that is documented not to retry** keeps to it exactly when its interval is `0`
or its filter stops the throwable. -/
theorem no_retry_iff (hc : w.retryQueueConfig.IsNoRetry)
    (hex : env.classPath.isInstance exceptionClass businessMessageListenerExecuteFailedException =
      true) :
    (∀ tr v, (w.onMessage env m).Ends (⟨.invokeBusinessMessage m, .error t⟩ :: tr) v →
        RethrownOnly tr v) ↔
      w.retryQueueConfig.retryInterval = 0 ∨
        shouldCareThrowable env.classPath t w.retryQueueConfig = .ok false := by
  have hby : shouldRetryByConfig w.retryQueueConfig =
      decide (w.retryQueueConfig.retryInterval ≠ 0) := by
    unfold shouldRetryByConfig
    rw [hc.mode]
    by_cases hi : w.retryQueueConfig.retryInterval = 0 <;> simp [hi]
  constructor
  · intro hrun
    have h : ∀ tr v, (failed env w m t).Ends tr v → RethrownOnly tr v := fun tr v hends =>
      hrun tr v (ends_onMessage_cons.mpr hends)
    by_contra hn
    obtain ⟨hi, hcares⟩ := not_or.mp hn
    rw [decide_eq_true hi] at hby
    cases hf : shouldCareThrowable env.classPath t w.retryQueueConfig with
    | error e =>
        -- what the filter throws replaces the failure
        rw [failed_of_filter_throws hby hf] at h
        have he := Except.error.inj (h [] _ (.throw e)).2
        rw [RetryQueueConfig.shouldCareThrowable_error hf] at he
        exact absurd he (by decide)
    | ok cares =>
        cases cares with
        | false => exact hcares hf
        | true =>
            rw [failed_of_cared ⟨hby, hf⟩] at h
            cases hs : env.serializer.serialize m with
            | error e =>
                -- so does what the construction of the message throws
                rw [handsOverBy_handOver.of_not_serialized hs] at h
                have he := Except.error.inj (h [] _ (.throw _)).2
                split at he
                · exact absurd he (by decide)
                · next hn =>
                    subst he
                    exact hn hex
            | ok b =>
                obtain ⟨tr, v, hends, hagain⟩ := handsOverBy_handOver.sendsAgain hs
                exact (h tr v hends).1 hagain
  · intro h tr v hrun
    have hends : (failed env w m t).Ends tr v := ends_onMessage_cons.mp hrun
    have hthrow : failed env w m t = .throw businessMessageListenerExecuteFailedException := by
      refine failed_of_not_cared (h.imp_left fun hi => ?_)
      rw [hby, hi]
      rfl
    rw [hthrow] at hends
    obtain ⟨rfl, rfl⟩ := Prog.ends_throw.mp hends
    exact ⟨sendsAgain_nil, rfl⟩

/-- A failure of the first delivery is thrown up. -/
theorem no_retry_sample : RethrownOnly ([] : ClientAnswers String String)
    (.error businessMessageListenerExecuteFailedException) := by
  have hends : ((BusinessMessageListenerWrapper.initial (.feedQ 0 0)).onMessage sampleEnv
      "post 1").Ends [⟨.invokeBusinessMessage "post 1", .error sampleIOException⟩]
        (.error businessMessageListenerExecuteFailedException) := .call (.throw _)
  exact (no_retry_iff (.inl rfl) rfl).mpr (.inl rfl) _ _ hends

/-- Five seconds and no retry: the message is sent to the center to be retried. -/
theorem retried_without_retry : (RetryQueueConfig.feedQ 5000 0).IsNoRetry ∧
    ∃ tr, ((BusinessMessageListenerWrapper.initial (.feedQ 5000 0)).onMessage sampleEnv
        "post 1").Ends
          (⟨.invokeBusinessMessage "post 1", .error sampleIOException⟩ :: tr) (.ok ()) ∧
      SendsAgain tr := by
  refine ⟨.inl rfl, [⟨.getThriftConnection, .ok true⟩, ⟨.process
    ((BusinessMessageListenerWrapper.initial (.feedQ 5000 0)).retryMessage "post 1"
      .intervalMsgDoRetry true), .ok ()⟩], .call (.call (.call (.ret ()))), ?_⟩
  exact ⟨_, List.mem_cons_of_mem _ List.mem_cons_self, _, rfl, rfl⟩

end MRF.Client
