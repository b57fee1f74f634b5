import MRF.Client.Calls
import MRF.Library.Outcome

/-!
# Client — Outcomes

What `onMessage` comes to, answer by answer: how a sending to the center fails (`SendFails`), what
is left of `onMessage` once the listener has answered, and what the `catch` block does, which is
one of three things: it throws up the failure, it throws what the filter threw, or it hands the
message over (`handOver`).
-/

namespace MRF.Client
open MRF.Library BusinessMessageListenerWrapper RetryQueueConfigHelper MRFServiceThriftClient

variable {B Msg : Type} {env : ClientEnv B Msg} {w : BusinessMessageListenerWrapper} {m : Msg}
  {rm : RetryMessage B} {t : Throwable} {b : B}

/-- The calls of a wrapper, with their answers. -/
abbrev ClientAnswers (B Msg : Type) := Answers (ClientOp B Msg) ClientOp.Res Throwable

variable {tr : ClientAnswers B Msg} {v : Except Throwable Unit}

/-! ### Sending -/

/-- `doFailOver` raises `t`, on these answers. -/
inductive FailOverFails (env : ClientEnv B Msg) (rm : RetryMessage B) :
    ClientAnswers B Msg → Throwable → Prop where
  | unknown : FailOverFails env rm [⟨.getExceptionRabbitTemplate, .ok false⟩] mrfRuntimeException
  | template (e : Throwable) : FailOverFails env rm [⟨.getExceptionRabbitTemplate, .error e⟩] e
  | send (e : Throwable) :
      FailOverFails env rm
        [⟨.getExceptionRabbitTemplate, .ok true⟩, ⟨.sendToExceptionQueue rm, .error e⟩]
        (if env.classPath.isInstance exceptionClass e then mrfRuntimeException else e)

/-- `sendRetryMessageForProcess` raises `t`, on these answers: the center and the exception queue
both fail, or the center fails with what no `catch` is for. -/
inductive SendFails (env : ClientEnv B Msg) (rm : RetryMessage B) :
    ClientAnswers B Msg → Throwable → Prop where
  | connection {e : Throwable} (he : env.classPath.isInstance thriftConnectionException e = false) :
      SendFails env rm [⟨.getThriftConnection, .error e⟩] e
  | connectionFailOver {e t : Throwable} {tr : ClientAnswers B Msg}
      (he : env.classPath.isInstance thriftConnectionException e = true)
      (h : FailOverFails env rm tr t) : SendFails env rm (⟨.getThriftConnection, .error e⟩ :: tr) t
  | process {e : Throwable} (he : env.classPath.isInstance exceptionClass e = false) :
      SendFails env rm [⟨.getThriftConnection, .ok true⟩, ⟨.process rm, .error e⟩] e
  | processFailOver {e t : Throwable} {tr : ClientAnswers B Msg}
      (he : env.classPath.isInstance exceptionClass e = true) (h : FailOverFails env rm tr t) :
      SendFails env rm (⟨.getThriftConnection, .ok true⟩ :: ⟨.process rm, .error e⟩ :: tr) t

/-- How the failover raises. -/
theorem ends_doFailOver_error :
    (doFailOver env rm).Ends tr (.error t) ↔ FailOverFails env rm tr t := by
  unfold doFailOver
  constructor
  · intro h
    rcases Prog.ends_bind.mp h with ⟨tr₁, tr₂, found, rfl, h₁, h₂⟩ | ⟨e, h₁, he⟩
    · rw [Prog.ends_perform.mp h₁]
      cases found with
      | true =>
          rcases Prog.ends_tryCatch.mp h₂ with ⟨a, -, he⟩ | ⟨tr₃, tr₄, e, rfl, h₃, h₄⟩
          · cases he
          · rw [Prog.ends_perform.mp h₃]
            obtain ⟨rfl, he⟩ := Prog.ends_throw.mp h₄
            cases he
            exact .send e
      | false =>
          obtain ⟨rfl, he⟩ := Prog.ends_throw.mp h₂
          cases he
          exact .unknown
    · rw [Prog.ends_perform.mp h₁]
      cases he
      exact .template t
  · rintro (_ | e | e)
    · exact .call (.throw _)
    · exact .call (.throw _)
    · exact .call (.call (.throw _))

/-- What `sendRetryMessageForProcess` does once the factory has answered. -/
def afterConnection (env : ClientEnv B Msg) (rm : RetryMessage B) :
    Except Throwable Bool → ClientProg B Msg Unit
  | .ok true =>
      tryCatch (MRF.Client.process rm) fun e =>
        if env.classPath.isInstance exceptionClass e then doFailOver env rm else throw e
  | .ok false => pure ()
  | .error e =>
      if env.classPath.isInstance thriftConnectionException e then doFailOver env rm else throw e

/-- The connection is asked for first. -/
theorem sendRetryMessageForProcess_eq :
    sendRetryMessageForProcess env rm = .call .getThriftConnection (afterConnection env rm) := by
  unfold sendRetryMessageForProcess
  refine congrArg (Prog.call ClientOp.getThriftConnection) (funext fun r => ?_)
  rcases r with e | _ | _
  · change (if env.classPath.isInstance thriftConnectionException e then pure none
      else throw e : ClientProg B Msg (Option Bool)).bind _ =
        if env.classPath.isInstance thriftConnectionException e then doFailOver env rm else throw e
    split <;> rfl
  · rfl
  · rfl

/-- How the hop to the center raises. -/
theorem ends_sendRetryMessageForProcess_error :
    (sendRetryMessageForProcess env rm).Ends tr (.error t) ↔ SendFails env rm tr t := by
  rw [sendRetryMessageForProcess_eq]
  constructor
  · rintro (_ | _ | @⟨_, _, r, tr, _, h⟩)
    rcases r with e | _ | _
    · change (if env.classPath.isInstance thriftConnectionException e then doFailOver env rm
        else throw e).Ends tr (.error t) at h
      split at h
      · next he => exact .connectionFailOver he (ends_doFailOver_error.mp h)
      · next he =>
          obtain ⟨rfl, he'⟩ := Prog.ends_throw.mp h
          cases he'
          exact .connection (Bool.eq_false_iff.mpr he)
    · obtain ⟨-, he⟩ := Prog.ends_pure.mp h
      cases he
    · rcases Prog.ends_tryCatch.mp h with ⟨a, -, he⟩ | ⟨tr₁, tr₂, e, rfl, h₁, h₂⟩
      · cases he
      · rw [Prog.ends_perform.mp h₁]
        split at h₂
        · next he => exact .processFailOver he (ends_doFailOver_error.mp h₂)
        · next he =>
            obtain ⟨rfl, he'⟩ := Prog.ends_throw.mp h₂
            cases he'
            exact .process (Bool.eq_false_iff.mpr he)
  · intro h
    cases h with
    | connection he =>
        refine .call ?_
        simp only [afterConnection, he, Bool.false_eq_true, if_false]
        exact .throw t
    | connectionFailOver he h =>
        refine .call ?_
        simp only [afterConnection, he, if_true]
        exact ends_doFailOver_error.mpr h
    | process he =>
        refine .call (Prog.ends_tryCatch.mpr (.inr ⟨_, [], t, rfl, Prog.ends_perform.mpr rfl, ?_⟩))
        simp only [he, Bool.false_eq_true, if_false]
        exact .throw t
    | @processFailOver e t tr he h =>
        refine .call (Prog.ends_tryCatch.mpr
          (.inr ⟨[_], tr, e, rfl, Prog.ends_perform.mpr rfl, ?_⟩))
        simp only [he, if_true]
        exact ends_doFailOver_error.mpr h

/-- The center accepts the message. -/
theorem ends_accepted : (sendRetryMessageForProcess env rm).Ends
    [⟨.getThriftConnection, .ok true⟩, ⟨.process rm, .ok ()⟩] (.ok ()) := by
  rw [sendRetryMessageForProcess_eq]
  exact .call (.call (.ret ()))

/-- A message that serializes is sent. -/
theorem sendForProcess_of_ok {flag : MessageFlag} {isMessageForRetry : Bool}
    (h : w.constructRetryMessage env m flag isMessageForRetry = .ok rm) :
    w.sendForProcess env m flag isMessageForRetry = sendRetryMessageForProcess env rm := by
  unfold sendForProcess
  rw [h]
  rfl

theorem sendForProcess_of_error {flag : MessageFlag} {isMessageForRetry : Bool}
    (h : w.constructRetryMessage env m flag isMessageForRetry = .error t) :
    w.sendForProcess env m flag isMessageForRetry = .throw t := by
  unfold sendForProcess
  rw [h]
  rfl

/-- A message that serializes gets the fields of the wrapper. -/
theorem constructRetryMessage_of_ok (hb : env.serializer.serialize m = .ok b) (flag : MessageFlag)
    (isMessageForRetry : Bool) : w.constructRetryMessage env m flag isMessageForRetry =
      .ok (w.retryMessage b flag isMessageForRetry) := by
  unfold constructRetryMessage
  rw [hb]

/-! ### The `catch` block -/

/-- The `catch` block of `onMessage`. -/
def failed (env : ClientEnv B Msg) (w : BusinessMessageListenerWrapper) (m : Msg) (t : Throwable) :
    ClientProg B Msg Unit :=
  if w.isMessageFromRecover then w.recoverFailed env m t else w.retryFailed env m t

/-- What the `catch` block does for a throwable that it cares for. -/
def handOver (env : ClientEnv B Msg) (w : BusinessMessageListenerWrapper) (m : Msg) :
    ClientProg B Msg Unit :=
  if w.isMessageFromRecover then w.resendForRecover env m
  else if shouldDirectToRecover w.retryQueueConfig then do
    w.doRecover env m true
    w.doRecoverCallback m
  else if !w.hasReachedMaxRetryTimes then w.doRetry env m
  else do
    w.doRecover env m false
    w.doRecoverCallback m

/-- What `onMessage` does once the listener has answered. -/
def afterListener (env : ClientEnv B Msg) (w : BusinessMessageListenerWrapper) (m : Msg) :
    Except Throwable Unit → ClientProg B Msg Unit
  | .ok () => tryCatch (w.doCleanup env m w.isMessageFromRecover) (failed env w m)
  | .error t => failed env w m t

/-- The listener is called first. -/
theorem onMessage_eq :
    w.onMessage env m = .call (.invokeBusinessMessage m) (afterListener env w m) := by
  unfold onMessage afterListener
  have hfailed : failed env w m = fun t =>
      if w.isMessageFromRecover then w.recoverFailed env m t else w.retryFailed env m t := rfl
  rw [hfailed]
  cases w.isMessageFromRecover with
  | true =>
      refine congrArg (Prog.call (ClientOp.invokeBusinessMessage m)) (funext fun r => ?_)
      rcases r with t | _ <;> rfl
  | false =>
      refine congrArg (Prog.call (ClientOp.invokeBusinessMessage m)) (funext fun r => ?_)
      rcases r with t | _ <;> rfl

/-- The rest of `onMessage` goes by what the listener has answered. -/
theorem ends_onMessage_cons {r : Except Throwable Unit} :
    (w.onMessage env m).Ends (⟨.invokeBusinessMessage m, r⟩ :: tr) v ↔
      (afterListener env w m r).Ends tr v := by
  rw [onMessage_eq]
  refine ⟨fun h => ?_, fun h => ?_⟩
  · obtain _ | _ | h := h
    exact h
  · exact Prog.Ends.call h

/-- A configuration that does not retry, or a throwable that its filter stops: the failure is
thrown up. -/
theorem failed_of_not_cared (h : shouldRetryByConfig w.retryQueueConfig = false ∨
    shouldCareThrowable env.classPath t w.retryQueueConfig = .ok false) :
    failed env w m t = .throw businessMessageListenerExecuteFailedException := by
  have hand : ∀ byConfig, (byConfig = true → shouldRetryByConfig w.retryQueueConfig = true) →
      w.andCares env t byConfig = .ret false := by
    intro byConfig hby
    unfold andCares
    cases byConfig with
    | false => rfl
    | true =>
        rcases h with h | h
        · rw [hby rfl] at h
          cases h
        · rw [h]
          rfl
  unfold failed recoverFailed retryFailed
  rw [hand _ shouldRetryByConfig_of_direct, hand _ id, hand _ ?_]
  · cases w.isMessageFromRecover <;> rfl
  · intro hby
    rcases Bool.or_eq_true_iff.mp hby with hby | hby
    · exact hby
    · exact shouldRetryByConfig_of_direct hby

/-- The filter itself throws. -/
theorem failed_of_filter_throws {e : Throwable}
    (hby : shouldRetryByConfig w.retryQueueConfig = true)
    (h : shouldCareThrowable env.classPath t w.retryQueueConfig = .error e) :
    failed env w m t = .throw e := by
  unfold failed recoverFailed retryFailed
  simp only [andCares, hby, Bool.true_or, if_true, h]
  cases w.isMessageFromRecover with
  | true => rfl
  | false => cases shouldDirectToRecover w.retryQueueConfig <;> rfl

/-- A failure that is cared for is handed over. -/
theorem failed_of_cared (h : Cared env w.retryQueueConfig t) :
    failed env w m t = handOver env w m := by
  obtain ⟨hby, hcares⟩ := h
  unfold failed recoverFailed retryFailed handOver
  simp only [andCares, hby, Bool.true_or, if_true, hcares]
  cases w.isMessageFromRecover with
  | true => rfl
  | false =>
      cases shouldDirectToRecover w.retryQueueConfig with
      | true => rfl
      | false => rfl

/-! ### Messages that are executed again -/

/-- The message that a call sends. -/
def sent : ClientOp B Msg → Option (RetryMessage B)
  | .process rm => some rm
  | .sendToExceptionQueue rm => some rm
  | .sendToRetryQueue rm => some rm
  | _ => none

/-- The flags of the retry messages, of the recover messages, and `RESEND_FOR_RECOVER`. -/
def executesAgain : MessageFlag → Bool
  | .resendForRecover => true
  | .intervalMsgDoRetry => true
  | .immediateMsgDoRetry => true
  | .intervalMsgDoRecover => true
  | .immediateMsgDoRecover => true
  | .msgDirectToRecover => true
  | _ => false

/-- Along the trace, a message is sent that is executed again. -/
def SendsAgain (tr : ClientAnswers B Msg) : Prop :=
  ∃ a ∈ tr, ∃ rm, sent a.1 = some rm ∧ executesAgain rm.messageFlag = true

theorem sendsAgain_nil : ¬ SendsAgain ([] : ClientAnswers B Msg) := by
  rintro ⟨a, ha, -⟩
  cases ha

theorem sendsAgain_append {tr₁ tr₂ : ClientAnswers B Msg} :
    SendsAgain (tr₁ ++ tr₂) ↔ SendsAgain tr₁ ∨ SendsAgain tr₂ := by
  simp only [SendsAgain, List.mem_append, or_and_right, exists_or]

/-- The ways to hand a message over. -/
inductive HandsOverBy (env : ClientEnv B Msg) (w : BusinessMessageListenerWrapper) (m : Msg) :
    ClientProg B Msg Unit → Prop where
  | center {flag : MessageFlag} {isMessageForRetry : Bool} (hf : executesAgain flag = true) :
      HandsOverBy env w m (w.sendForProcess env m flag isMessageForRetry)
  /-- A recover message, and the callback after it. -/
  | recovered {flag : MessageFlag} (hf : executesAgain flag = true) :
      HandsOverBy env w m (do
        w.sendForProcess env m flag false
        w.doRecoverCallback m)
  | retryQueue :
      HandsOverBy env w m (do
        let retryMessage ← Prog.ofExcept (w.constructRetryMessage env m .immediateMsgDoRetry true)
        sendToRetryQueue retryMessage)

/-- A retry hands the message over. -/
theorem handsOverBy_doRetry : HandsOverBy env w m (w.doRetry env m) := by
  unfold doRetry
  cases isImmediateRetryMessage w.retryQueueConfig with
  | true => exact .retryQueue
  | false => exact .center rfl

theorem handsOverBy_handOver : HandsOverBy env w m (handOver env w m) := by
  unfold handOver
  cases w with
  | initial c =>
      simp only [isMessageFromRecover, hasReachedMaxRetryTimes, Bool.false_eq_true, if_false,
        Bool.not_false, if_true]
      split
      · exact .recovered rfl
      · exact handsOverBy_doRetry
  | retry c k fromRecover msgID =>
      split
      · exact .center rfl
      · split
        · exact .recovered rfl
        · split
          · exact handsOverBy_doRetry
          · simp only [doRecover, Bool.false_eq_true, if_false]
            cases isImmediateRetryMessage c with
            | true => exact .recovered rfl
            | false => exact .recovered rfl

/-- A message that does not serialize is not handed over. -/
theorem HandsOverBy.of_not_serialized {p : ClientProg B Msg Unit} (h : HandsOverBy env w m p)
    {e : Throwable} (he : env.serializer.serialize m = .error e) :
    p = .throw (if env.classPath.isInstance exceptionClass e then mrfRuntimeException else e) := by
  have hm : ∀ flag isMessageForRetry, w.constructRetryMessage env m flag isMessageForRetry =
      .error (if env.classPath.isInstance exceptionClass e then mrfRuntimeException else e) := by
    intro flag isMessageForRetry
    unfold constructRetryMessage
    rw [he]
  cases h with
  | center hf => exact sendForProcess_of_error (hm _ _)
  | recovered hf =>
      rw [sendForProcess_of_error (hm _ _)]
      rfl
  | retryQueue =>
      rw [hm]
      rfl

/-- A message that serializes is handed over, if its calls are answered. -/
theorem HandsOverBy.sendsAgain {p : ClientProg B Msg Unit} (h : HandsOverBy env w m p)
    (hb : env.serializer.serialize m = .ok b) : ∃ tr v, p.Ends tr v ∧ SendsAgain tr := by
  cases h with
  | center hf =>
      rw [sendForProcess_of_ok (constructRetryMessage_of_ok hb _ _)]
      exact ⟨_, _, ends_accepted, _, List.mem_cons_of_mem _ List.mem_cons_self, _, rfl, hf⟩
  | recovered hf =>
      rw [sendForProcess_of_ok (constructRetryMessage_of_ok hb _ _)]
      have hcallback : ∃ tr, (w.doRecoverCallback m : ClientProg B Msg Unit).Ends tr (.ok ()) := by
        unfold doRecoverCallback
        cases w.retryQueueConfig.hasRecoverCallback with
        | true => exact ⟨[⟨.doRecoverCallback m, .ok ()⟩], .call (.ret ())⟩
        | false => exact ⟨[], .ret ()⟩
      obtain ⟨tr, htr⟩ := hcallback
      exact ⟨_, _, Prog.ends_bind.mpr (.inl ⟨_, tr, (), rfl, ends_accepted, htr⟩), _,
        List.mem_cons_of_mem _ List.mem_cons_self, _, rfl, hf⟩
  | retryQueue =>
      rw [constructRetryMessage_of_ok hb]
      exact ⟨[⟨.sendToRetryQueue _, .ok ()⟩], .ok (), .call (.ret ()), _, List.mem_cons_self,
        _, rfl, rfl⟩

end MRF.Client
