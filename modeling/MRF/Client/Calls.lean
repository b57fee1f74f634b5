import MRF.Client.Handling

/-!
# Client — Calls

The calls that `onMessage` can come to, whatever its calls answer.  `Handling` follows one handling
and assumes that the factory of connections does not answer null; here nothing is assumed of the
answers, and only the calls are looked at: they meet `A` when `A` allows the clean-up and everything
that the wrapper may hand over (`AllowsHandling.onMessage`).
-/

namespace MRF.Client
open MRF.Library BusinessMessageListenerWrapper RetryQueueConfigHelper MRFServiceThriftClient

variable {B Msg : Type} {env : ClientEnv B Msg} {w : BusinessMessageListenerWrapper} {m : Msg}
  {rm : RetryMessage B} {flag : MessageFlag} {isMessageForRetry : Bool}
  {A : ClientOp B Msg → Prop}

/-- `A` allows the calls that take the hop. -/
def AllowsHop (A : ClientOp B Msg → Prop) : Hop B → Prop
  | .center rm => A (.process rm) ∧ A (.sendToExceptionQueue rm)
  | .retryQueue rm => A (.sendToRetryQueue rm)

/-- `A` allows the calls that the wrapper can come to on the message. -/
structure AllowsHandling (env : ClientEnv B Msg) (w : BusinessMessageListenerWrapper) (m : Msg)
    (A : ClientOp B Msg → Prop) : Prop where
  invoke : A (.invokeBusinessMessage m)
  connection : A .getThriftConnection
  template : A .getExceptionRabbitTemplate
  callback : w.isMessageFromRecover = false → A (.doRecoverCallback m)
  cleansUp : ∀ hop, CleansUp env w m hop → AllowsHop A hop
  handsOver : ∀ hop, HandsOver env w m hop → AllowsHop A hop

theorem always_doFailOver (ht : A .getExceptionRabbitTemplate) (hm : AllowsHop A (.center rm)) :
    (doFailOver env rm).Always A := by
  refine Prog.always_bind (Prog.always_perform ht) fun found => ?_
  cases found with
  | true => exact Prog.always_tryCatch (Prog.always_perform hm.2) fun _ => trivial
  | false => trivial

theorem always_sendRetryMessageForProcess (hc : A .getThriftConnection)
    (ht : A .getExceptionRabbitTemplate) (hm : AllowsHop A (.center rm)) :
    (sendRetryMessageForProcess env rm).Always A := by
  refine Prog.always_bind (Prog.always_tryCatch
    (Prog.always_bind (Prog.always_perform hc) fun _ => trivial) fun e => ?_)
    fun found => ?_
  · split <;> trivial
  · match found with
    | none => exact always_doFailOver ht hm
    | some false => trivial
    | some true =>
        refine Prog.always_tryCatch (Prog.always_perform hm.1) fun e => ?_
        split
        · exact always_doFailOver ht hm
        · trivial

namespace AllowsHandling

theorem sendForProcess (h : AllowsHandling env w m A)
    (hm : ∀ rm, w.constructRetryMessage env m flag isMessageForRetry = .ok rm →
      AllowsHop A (.center rm)) : (w.sendForProcess env m flag isMessageForRetry).Always A := by
  unfold BusinessMessageListenerWrapper.sendForProcess
  cases hrm : w.constructRetryMessage env m flag isMessageForRetry with
  | ok rm => exact always_sendRetryMessageForProcess h.connection h.template (hm rm hrm)
  | error e => trivial

/-- The filter on throwables makes no call. -/
theorem andCares_bind {t : Throwable} {byConfig : Bool} {f : Bool → ClientProg B Msg Unit}
    (htrue : byConfig = true → (f true).Always A) (hfalse : (f false).Always A) :
    (w.andCares env t byConfig >>= f).Always A := by
  unfold BusinessMessageListenerWrapper.andCares
  cases byConfig with
  | false => exact hfalse
  | true =>
      cases shouldCareThrowable env.classPath t w.retryQueueConfig with
      | error e => trivial
      | ok cares =>
          cases cares with
          | true => exact htrue rfl
          | false => exact hfalse

theorem doCleanup (h : AllowsHandling env w m A) :
    (w.doCleanup env m w.isMessageFromRecover).Always A := by
  cases w with
  | initial c => trivial
  | retry c k fromRecover msgID =>
      cases fromRecover with
      | true => exact h.sendForProcess fun rm hrm => h.cleansUp _ (.recover rfl hrm)
      | false =>
          cases hi : isImmediateRetryMessage c with
          | true =>
              simp only [BusinessMessageListenerWrapper.doCleanup, isMessageFromRecover, hi]
              trivial
          | false =>
              simp only [BusinessMessageListenerWrapper.doCleanup, isMessageFromRecover, hi]
              exact h.sendForProcess fun rm hrm => h.cleansUp _ (.intervalRetry rfl hi hrm)

theorem recoverFailed (h : AllowsHandling env w m A) (hr : w.isMessageFromRecover = true)
    (t : Throwable) : (w.recoverFailed env m t).Always A := by
  refine andCares_bind (fun _ => ?_) trivial
  cases w with
  | initial c => trivial
  | retry c k fromRecover msgID =>
      exact h.sendForProcess fun rm hrm => h.handsOver _ (.resendForRecover hr hrm)

theorem doRetry (h : AllowsHandling env w m A) (hr : w.isMessageFromRecover = false)
    (hn : w.hasReachedMaxRetryTimes = false) : (w.doRetry env m).Always A := by
  unfold BusinessMessageListenerWrapper.doRetry
  cases hi : isImmediateRetryMessage w.retryQueueConfig with
  | false => exact h.sendForProcess fun rm hrm => h.handsOver _ (.intervalRetry hr hn hi hrm)
  | true =>
      cases hrm : w.constructRetryMessage env m .immediateMsgDoRetry true with
      | error e => trivial
      | ok rm => exact Prog.always_perform (h.handsOver _ (.immediateRetry hr hn hi hrm))

/-- What is sent for recovery, and the callback after it. -/
theorem recovered (h : AllowsHandling env w m A) (hr : w.isMessageFromRecover = false)
    (hm : ∀ rm, w.constructRetryMessage env m flag false = .ok rm →
      HandsOver env w m (.center rm)) :
    (do w.sendForProcess env m flag false; w.doRecoverCallback m).Always A := by
  refine Prog.always_bind (h.sendForProcess fun rm hrm => h.handsOver _ (hm rm hrm)) fun _ => ?_
  unfold doRecoverCallback
  cases w.retryQueueConfig.hasRecoverCallback with
  | true => exact Prog.always_perform (h.callback hr)
  | false => trivial

theorem retryFailed (h : AllowsHandling env w m A) (hr : w.isMessageFromRecover = false)
    (t : Throwable) : (w.retryFailed env m t).Always A := by
  refine andCares_bind (fun hd => ?_) (andCares_bind (fun _ => ?_) trivial)
  · cases w with
    | initial c => exact h.recovered hr fun rm hrm => .directToRecover hr hd hrm
    | retry c k fromRecover msgID => exact h.recovered hr fun rm hrm => .directToRecover hr hd hrm
  · cases hn : w.hasReachedMaxRetryTimes with
    | false => exact h.doRetry hr hn
    | true =>
        cases w with
        | initial c => cases hn
        | retry c k fromRecover msgID =>
            change (do
              (BusinessMessageListenerWrapper.retry c k fromRecover msgID).doRecover env m false
              (BusinessMessageListenerWrapper.retry c k fromRecover msgID).doRecoverCallback
                m).Always A
            cases hi : isImmediateRetryMessage c with
            | true =>
                simp only [doRecover, hi, Bool.false_eq_true, if_false, if_true]
                exact h.recovered hr fun rm hrm => .immediateRecover hr hn hi hrm
            | false =>
                simp only [doRecover, hi, Bool.false_eq_true, if_false]
                exact h.recovered hr fun rm hrm => .intervalRecover hr hn hi hrm

/-- **The calls of `onMessage`.** -/
theorem onMessage (h : AllowsHandling env w m A) : (w.onMessage env m).Always A := by
  unfold BusinessMessageListenerWrapper.onMessage
  cases hr : w.isMessageFromRecover with
  | true =>
      exact Prog.always_tryCatch
        (Prog.always_bind (Prog.always_perform h.invoke) fun _ => hr ▸ h.doCleanup)
        (h.recoverFailed hr)
  | false =>
      exact Prog.always_tryCatch
        (Prog.always_bind (Prog.always_perform h.invoke) fun _ => hr ▸ h.doCleanup)
        (h.retryFailed hr)

/-- `RetryMessageListener.onMessage` as well: on a message that does not unpack it makes no call. -/
theorem onRetryMessage {c : RetryQueueConfig}
    (h : ∀ m, env.serializer.deserialize rm.businessMsg = .ok m →
      AllowsHandling env (.retry c rm.retriedTimes rm.isFromRecover rm.msgID) m A) :
    (RetryMessageListener.onMessage env c (some rm)).Always A := by
  unfold RetryMessageListener.onMessage
  dsimp only
  split
  · split <;> trivial
  · next m hm => exact Prog.always_tryCatch (h m hm).onMessage fun _ => trivial

end AllowsHandling

end MRF.Client
