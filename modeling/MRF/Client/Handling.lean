import MRF.Client.Wrapper

/-!
# Client — Handling

What a wrapper does with one message, on every path through it.  `Handling` follows the calls of
`onMessage`: what the listener did, and what was handed over since.

* `handling` is the protocol of `onMessage`: a clean-up goes out only after the listener has
  returned, at most one message is handed over, and which one is fixed by the wrapper.
* `wp_onMessage`: `onMessage` keeps to it.  When it returns, the listener has returned, or the
  failed message was handed over.
-/

namespace MRF.Client
open MRF.Library

variable {B Msg : Type} {env : ClientEnv B Msg} {w : BusinessMessageListenerWrapper} {m : Msg}

/-- A message handed over: to the center, by RPC or through the exception queue, or to the retry
queue. -/
inductive Hop (B : Type) where
  | center (m : RetryMessage B)
  | retryQueue (m : RetryMessage B)
  deriving DecidableEq, Repr

/-- How far the handling of a message is. -/
structure Handling (B : Type) where
  /-- What the business listener did, once it was invoked. -/
  called : Option (Except Throwable Unit)
  handed : List (Hop B)

namespace Handling

/-- Before the listener is called. -/
def start : Handling B := ⟨none, []⟩

/-- The message is handed over. -/
def hand (s : Handling B) (hop : Hop B) : Handling B := { s with handed := s.handed ++ [hop] }

@[simp] theorem hand_handed (s : Handling B) (hop : Hop B) :
    (s.hand hop).handed = s.handed ++ [hop] := rfl

/-- What an answer says of the handling. -/
def next (s : Handling B) : (op : ClientOp B Msg) → Except Throwable op.Res → Handling B
  | .invokeBusinessMessage _, r => { s with called := some r }
  | .process m, .ok _ => s.hand (.center m)
  | .sendToExceptionQueue m, .ok _ => s.hand (.center m)
  | .sendToRetryQueue m, .ok _ => s.hand (.retryQueue m)
  | _, _ => s

end Handling

open BusinessMessageListenerWrapper RetryQueueConfigHelper MRFServiceThriftClient

/-- The clean-up after a listener that returned. -/
inductive CleansUp (env : ClientEnv B Msg) (w : BusinessMessageListenerWrapper) (m : Msg) :
    Hop B → Prop where
  | recover {rm : RetryMessage B} (hr : w.isMessageFromRecover = true)
      (hm : w.constructRetryMessage env m .cleanRecover false = .ok rm) :
      CleansUp env w m (.center rm)
  | intervalRetry {rm : RetryMessage B} (hr : w.isMessageFromRecover = false)
      (hi : isImmediateRetryMessage w.retryQueueConfig = false)
      (hm : w.constructRetryMessage env m .cleanIntervalRetry false = .ok rm) :
      CleansUp env w m (.center rm)

/-- What a failed message is handed over as. -/
inductive HandsOver (env : ClientEnv B Msg) (w : BusinessMessageListenerWrapper) (m : Msg) :
    Hop B → Prop where
  | resendForRecover {rm : RetryMessage B} (hr : w.isMessageFromRecover = true)
      (hm : w.constructRetryMessage env m .resendForRecover false = .ok rm) :
      HandsOver env w m (.center rm)
  | directToRecover {rm : RetryMessage B} (hr : w.isMessageFromRecover = false)
      (hd : shouldDirectToRecover w.retryQueueConfig = true)
      (hm : w.constructRetryMessage env m .msgDirectToRecover false = .ok rm) :
      HandsOver env w m (.center rm)
  | immediateRetry {rm : RetryMessage B} (hr : w.isMessageFromRecover = false)
      (hn : w.hasReachedMaxRetryTimes = false)
      (hi : isImmediateRetryMessage w.retryQueueConfig = true)
      (hm : w.constructRetryMessage env m .immediateMsgDoRetry true = .ok rm) :
      HandsOver env w m (.retryQueue rm)
  | intervalRetry {rm : RetryMessage B} (hr : w.isMessageFromRecover = false)
      (hn : w.hasReachedMaxRetryTimes = false)
      (hi : isImmediateRetryMessage w.retryQueueConfig = false)
      (hm : w.constructRetryMessage env m .intervalMsgDoRetry true = .ok rm) :
      HandsOver env w m (.center rm)
  | immediateRecover {rm : RetryMessage B} (hr : w.isMessageFromRecover = false)
      (hn : w.hasReachedMaxRetryTimes = true)
      (hi : isImmediateRetryMessage w.retryQueueConfig = true)
      (hm : w.constructRetryMessage env m .immediateMsgDoRecover false = .ok rm) :
      HandsOver env w m (.center rm)
  | intervalRecover {rm : RetryMessage B} (hr : w.isMessageFromRecover = false)
      (hn : w.hasReachedMaxRetryTimes = true)
      (hi : isImmediateRetryMessage w.retryQueueConfig = false)
      (hm : w.constructRetryMessage env m .intervalMsgDoRecover false = .ok rm) :
      HandsOver env w m (.center rm)

/-- The configuration retries, and its filter lets the throwable through. -/
def Cared (env : ClientEnv B Msg) (c : RetryQueueConfig) (t : Throwable) : Prop :=
  shouldRetryByConfig c = true ∧ shouldCareThrowable env.classPath t c = .ok true

theorem shouldRetryByConfig_of_direct {c : RetryQueueConfig}
    (h : shouldDirectToRecover c = true) : shouldRetryByConfig c = true := by
  have hmode : getMessageRetryMode c = .directToRecover := of_decide_eq_true h
  simp [shouldRetryByConfig, hmode]

/-! ### The protocol -/

namespace Handling

/-- The hop may be taken: a clean-up if the listener returned, and else what the wrapper hands
over; and nothing was handed over so far. -/
def MayHand (env : ClientEnv B Msg) (w : BusinessMessageListenerWrapper) (m : Msg) (s : Handling B)
    (hop : Hop B) : Prop :=
  s.handed = [] ∧ (s.called = some (.ok ()) ∧ CleansUp env w m hop ∨
    s.called ≠ none ∧ HandsOver env w m hop)

/-- The message is dealt with. -/
def Done (env : ClientEnv B Msg) (w : BusinessMessageListenerWrapper) (m : Msg) (s : Handling B) :
    Prop :=
  s.called = some (.ok ()) ∧ (w.isMessageFromRecover = true → s.handed ≠ []) ∨
    ∃ t hop, s.called = some (.error t) ∧ HandsOver env w m hop ∧ s.handed = [hop]

/-- In a reliable world the wrapper throws only what it does not care for. -/
def Thrown (env : ClientEnv B Msg) (w : BusinessMessageListenerWrapper) (reliable : Prop)
    (s : Handling B) : Prop :=
  reliable → ∃ t, s.called = some (.error t) ∧ ¬ Cared env w.retryQueueConfig t

end Handling

/-- What may be assumed of an answer.  The factory does not answer null; in a reliable world no call
but the listener's raises, and the exception queue is known. -/
def Assumed (reliable : Prop) : (op : ClientOp B Msg) → Except Throwable op.Res → Prop
  | .invokeBusinessMessage _, _ => True
  | .getThriftConnection, .ok found => found = true
  | .getExceptionRabbitTemplate, .ok found => reliable → found = true
  | _, .error _ => ¬ reliable
  | _, .ok _ => True

/-- The protocol of `onMessage`. -/
def handling (env : ClientEnv B Msg) (w : BusinessMessageListenerWrapper) (m : Msg)
    (reliable : Prop) : Protocol (ClientOp B Msg) ClientOp.Res Throwable (Handling B) where
  allows s
    | .invokeBusinessMessage m' => m' = m ∧ s = .start
    | .process rm => s.MayHand env w m (.center rm)
    | .sendToExceptionQueue rm => ¬ reliable ∧ s.MayHand env w m (.center rm)
    | .sendToRetryQueue rm => s.MayHand env w m (.retryQueue rm)
    | .doRecoverCallback m' => m' = m ∧ s.handed ≠ []
    | _ => True
  answers _ := Assumed reliable
  next := Handling.next

/-- A retry message has the serialized message, and the fields of the wrapper. -/
theorem constructRetryMessage_ok {flag : MessageFlag} {isMessageForRetry : Bool}
    {rm : RetryMessage B} (h : w.constructRetryMessage env m flag isMessageForRetry = .ok rm) :
    ∃ b, env.serializer.serialize m = .ok b ∧ rm = w.retryMessage b flag isMessageForRetry := by
  unfold constructRetryMessage at h
  split at h
  · next b hb => exact ⟨b, hb, (Except.ok.inj h).symm⟩
  · cases h

/-- The message of a hop. -/
def Hop.message : Hop B → RetryMessage B
  | .center rm => rm
  | .retryQueue rm => rm

/-- Whatever is handed on is made of the message at hand, by its wrapper. -/
theorem Handling.MayHand.message {s : Handling B} {hop : Hop B} (h : s.MayHand env w m hop) :
    ∃ b flag isMessageForRetry, env.serializer.serialize m = .ok b ∧
      hop.message = w.retryMessage b flag isMessageForRetry := by
  rcases h.2 with ⟨-, h⟩ | ⟨-, h⟩ <;> cases h <;>
    · obtain ⟨b, hb, hrm⟩ := constructRetryMessage_ok (by assumption)
      exact ⟨b, _, _, hb, hrm⟩

/-- Only the business listener decides what was called. -/
theorem Handling.next_called {s : Handling B} {op : ClientOp B Msg} {r : Except Throwable op.Res}
    (h : ∀ m, op ≠ .invokeBusinessMessage m) : (s.next op r).called = s.called := by
  cases op with
  | invokeBusinessMessage m => exact absurd rfl (h m)
  | _ => cases r <;> rfl

/-- A clean-up is sent only after the listener has returned. -/
theorem Handling.MayHand.returned {s : Handling B} {hop : Hop B} (h : s.MayHand env w m hop)
    (hf : hop.message.messageFlag = .cleanRecover ∨
      hop.message.messageFlag = .cleanIntervalRetry) : s.called = some (.ok ()) := by
  rcases h.2 with ⟨hc, -⟩ | ⟨-, h⟩
  · exact hc
  · cases h <;>
      · obtain ⟨b, -, rfl⟩ := constructRetryMessage_ok (by assumption)
        exact hf.elim nofun nofun

/-- A message from recover is cleaned or sent back, and nothing else. -/
theorem Handling.MayHand.fromRecover {s : Handling B} {hop : Hop B} (h : s.MayHand env w m hop)
    (hr : w.isMessageFromRecover = true) : ∃ rm, hop = .center rm ∧
      (rm.messageFlag = .cleanRecover ∨ rm.messageFlag = .resendForRecover) ∧
      rm.msgID = w.getRetryMessageID := by
  rcases h.2 with ⟨-, h⟩ | ⟨-, h⟩
  · cases h with
    | recover hr' hm =>
        obtain ⟨b, -, rfl⟩ := constructRetryMessage_ok hm
        exact ⟨_, rfl, .inl rfl, rfl⟩
    | intervalRetry hr' hi hm => exact absurd (hr.symm.trans hr') nofun
  · cases h with
    | resendForRecover hr' hm =>
        obtain ⟨b, -, rfl⟩ := constructRetryMessage_ok hm
        exact ⟨_, rfl, .inr rfl, rfl⟩
    | directToRecover hr' hd hm => exact absurd (hr.symm.trans hr') nofun
    | immediateRetry hr' hn hi hm => exact absurd (hr.symm.trans hr') nofun
    | intervalRetry hr' hn hi hm => exact absurd (hr.symm.trans hr') nofun
    | immediateRecover hr' hn hi hm => exact absurd (hr.symm.trans hr') nofun
    | intervalRecover hr' hn hi hm => exact absurd (hr.symm.trans hr') nofun

section
variable {reliable : Prop} {s : Handling B} {Q : Handling B → Unit → Prop}
  {E : Handling B → Throwable → Prop} {rm : RetryMessage B}

/-- A failover hands the message over, or fails. -/
theorem wp_doFailOver (hrel : ¬ reliable) (hm : s.MayHand env w m (.center rm))
    (hQ : Q (s.hand (.center rm)) ()) (hE : ∀ e, E s e) :
    wp (handling env w m reliable) Q E s (doFailOver env rm) := by
  refine (wp_bind ..).mpr ((wp_perform ..).mpr ⟨trivial, fun found _ => ?_, fun e _ => hE e⟩)
  cases found with
  | true =>
      refine (wp_tryCatch ..).mpr ((wp_perform ..).mpr ⟨⟨hrel, hm⟩, fun _ _ => hQ, fun e _ => ?_⟩)
      exact hE _
  | false => exact hE _

/-- The message goes to the center or to the exception queue, or the hop fails. -/
theorem wp_sendRetryMessageForProcess (hm : s.MayHand env w m (.center rm))
    (hQ : Q (s.hand (.center rm)) ()) (hE : ¬ reliable → ∀ e, E s e) :
    wp (handling env w m reliable) Q E s (sendRetryMessageForProcess env rm) := by
  refine (wp_bind ..).mpr ((wp_tryCatch ..).mpr ((wp_bind ..).mpr ((wp_perform ..).mpr
    ⟨trivial, fun found hfound => ?_, fun e he => ?_⟩)))
  · obtain rfl : found = true := hfound
    refine (wp_tryCatch ..).mpr ((wp_perform ..).mpr ⟨hm, fun _ _ => hQ, fun e he => ?_⟩)
    split
    · exact wp_doFailOver he hm hQ (hE he)
    · exact hE he e
  · split
    · exact wp_doFailOver he hm hQ (hE he)
    · exact hE he e

/-- The message serializes, and goes over; or the hop fails. -/
theorem wp_sendForProcess {flag : MessageFlag} {isMessageForRetry : Bool}
    (hser : reliable → ∃ b, env.serializer.serialize m = .ok b)
    (hm : ∀ rm, w.constructRetryMessage env m flag isMessageForRetry = .ok rm →
      s.MayHand env w m (.center rm))
    (hQ : ∀ rm, w.constructRetryMessage env m flag isMessageForRetry = .ok rm →
      Q (s.hand (.center rm)) ())
    (hE : ¬ reliable → ∀ e, E s e) :
    wp (handling env w m reliable) Q E s (w.sendForProcess env m flag isMessageForRetry) := by
  refine (wp_bind ..).mpr ((wp_ofExcept _).mpr ⟨fun rm hrm => ?_, fun e he => ?_⟩)
  · exact wp_sendRetryMessageForProcess (hm rm hrm) (hQ rm hrm) hE
  · refine hE (fun hrel => ?_) e
    obtain ⟨b, hb⟩ := hser hrel
    simp only [constructRetryMessage, hb, reduceCtorEq] at he

/-- The filter on throwables, up to what the wrapper throws when it raises. -/
theorem wp_andCares {t : Throwable} {byConfig : Bool} {Q : Handling B → Bool → Prop}
    (hc : byConfig = true → shouldRetryByConfig w.retryQueueConfig = true)
    (htrue : byConfig = true → Cared env w.retryQueueConfig t → Q s true)
    (hfalse : ¬ (byConfig = true ∧ Cared env w.retryQueueConfig t) → Q s false)
    (hE : ¬ Cared env w.retryQueueConfig t → ∀ e, E s e) :
    wp (handling env w m reliable) Q E s (w.andCares env t byConfig) := by
  unfold andCares
  cases byConfig with
  | false => exact hfalse fun h => absurd h.1 nofun
  | true =>
      refine (wp_ofExcept _).mpr ⟨fun cares hcares => ?_, fun e he => hE (fun h => ?_) e⟩
      · cases cares with
        | true => exact htrue rfl ⟨hc rfl, hcares⟩
        | false =>
            refine hfalse fun h => ?_
            rw [h.2.2] at hcares
            cases hcares
      · rw [h.2] at he
        cases he

/-- The throwable of a `catch` block: what the listener threw, or what the clean-up did, which
only happens in a world that is not reliable. -/
structure Caught (reliable : Prop) (s : Handling B) (t : Throwable) : Prop where
  handed : s.handed = []
  called : s.called = some (.error t) ∨ ¬ reliable ∧ s.called = some (.ok ())

/-- A throwable that is not cared for may be thrown up. -/
theorem Caught.thrown {t : Throwable} (h : Caught reliable s t)
    (ht : ¬ Cared env w.retryQueueConfig t) : s.Thrown env w reliable := by
  intro hrel
  rcases h.called with hc | ⟨hn, -⟩
  · exact ⟨t, hc, ht⟩
  · exact absurd hrel hn

theorem Caught.mayHand {t : Throwable} (h : Caught reliable s t) {hop : Hop B}
    (hh : HandsOver env w m hop) : s.MayHand env w m hop := by
  refine ⟨h.handed, .inr ⟨?_, hh⟩⟩
  rcases h.called with hc | ⟨-, hc⟩ <;> rw [hc] <;> exact Option.some_ne_none _

theorem Caught.done {t : Throwable} (h : Caught reliable s t) {hop : Hop B}
    (hh : HandsOver env w m hop) : (s.hand hop).Done env w m := by
  rcases h.called with hc | ⟨-, hc⟩
  · exact .inr ⟨t, hop, hc, hh, by rw [Handling.hand_handed, h.handed, List.nil_append]⟩
  · exact .inl ⟨hc, fun _ => by simp⟩

/-- The failure of a message from `recover`. -/
theorem wp_recoverFailed {t : Throwable} (hr : w.isMessageFromRecover = true)
    (hser : reliable → ∃ b, env.serializer.serialize m = .ok b) (hs : Caught reliable s t) :
    wp (handling env w m reliable) (fun s _ => s.Done env w m)
      (fun s _ => s.Thrown env w reliable) s (w.recoverFailed env m t) := by
  refine (wp_bind ..).mpr (wp_andCares (fun hc => ?_) (fun _ _ => ?_) (fun hn => ?_)
    fun hn _ => hs.thrown hn)
  · rcases Bool.or_eq_true_iff.mp hc with hc | hc
    · exact hc
    · exact shouldRetryByConfig_of_direct hc
  · cases w with
    | initial c => cases hr
    | retry c k fromRecover msgID =>
        exact wp_sendForProcess hser (fun rm hrm => hs.mayHand (.resendForRecover hr hrm))
          (fun rm hrm => hs.done (.resendForRecover hr hrm)) fun hn _ hrel => absurd hrel hn
  · refine hs.thrown fun hc => hn ⟨?_, hc⟩
    rw [hc.1, Bool.true_or]

/-- After the message went to recover the callback is called, if there is one. -/
theorem wp_doRecoverCallback {hop : Hop B} (hdone : (s.hand hop).Done env w m) :
    wp (handling env w m reliable) (fun s _ => s.Done env w m)
      (fun s _ => s.Thrown env w reliable) (s.hand hop) (w.doRecoverCallback m) := by
  unfold doRecoverCallback
  cases w.retryQueueConfig.hasRecoverCallback with
  | true =>
      exact (wp_perform ..).mpr
        ⟨⟨rfl, by simp⟩, fun _ _ => hdone, fun e he hrel => absurd hrel he⟩
  | false => exact hdone

/-- Send to the center and call back. -/
theorem wp_recovered {t : Throwable} {flag : MessageFlag}
    (hser : reliable → ∃ b, env.serializer.serialize m = .ok b) (hs : Caught reliable s t)
    (hh : ∀ rm, w.constructRetryMessage env m flag false = .ok rm →
      HandsOver env w m (.center rm)) :
    wp (handling env w m reliable) (fun s _ => s.Done env w m)
      (fun s _ => s.Thrown env w reliable) s
      (do w.sendForProcess env m flag false; w.doRecoverCallback m) :=
  (wp_bind ..).mpr (wp_sendForProcess hser (fun rm hrm => hs.mayHand (hh rm hrm))
    (fun rm hrm => wp_doRecoverCallback (hs.done (hh rm hrm))) fun hn _ hrel => absurd hrel hn)

/-- The next retry of a message. -/
theorem wp_doRetry {t : Throwable} (hr : w.isMessageFromRecover = false)
    (hser : reliable → ∃ b, env.serializer.serialize m = .ok b) (hs : Caught reliable s t)
    (hn : w.hasReachedMaxRetryTimes = false) :
    wp (handling env w m reliable) (fun s _ => s.Done env w m)
      (fun s _ => s.Thrown env w reliable) s (w.doRetry env m) := by
  unfold doRetry
  cases hi : isImmediateRetryMessage w.retryQueueConfig with
  | true =>
      refine (wp_bind ..).mpr ((wp_ofExcept _).mpr ⟨fun rm hrm => ?_, fun e he hrel => ?_⟩)
      · have hh : HandsOver env w m (.retryQueue rm) := .immediateRetry hr hn hi hrm
        exact (wp_perform ..).mpr
          ⟨hs.mayHand hh, fun _ _ => hs.done hh, fun e he hrel => absurd hrel he⟩
      · obtain ⟨b, hb⟩ := hser hrel
        simp only [constructRetryMessage, hb, reduceCtorEq] at he
  | false =>
      exact wp_sendForProcess hser (fun rm hrm => hs.mayHand (.intervalRetry hr hn hi hrm))
        (fun rm hrm => hs.done (.intervalRetry hr hn hi hrm)) fun hn _ hrel => absurd hrel hn

theorem wp_retryFailed {t : Throwable} (hr : w.isMessageFromRecover = false)
    (hser : reliable → ∃ b, env.serializer.serialize m = .ok b) (hs : Caught reliable s t) :
    wp (handling env w m reliable) (fun s _ => s.Done env w m)
      (fun s _ => s.Thrown env w reliable) s (w.retryFailed env m t) := by
  refine (wp_bind ..).mpr (wp_andCares shouldRetryByConfig_of_direct (fun hd _ => ?_) (fun _ => ?_)
    fun hn _ => hs.thrown hn)
  · cases w with
    | initial c => exact wp_recovered hser hs fun rm hrm => .directToRecover hr hd hrm
    | retry c k fromRecover msgID =>
        exact wp_recovered hser hs fun rm hrm => .directToRecover hr hd hrm
  · refine (wp_bind ..).mpr (wp_andCares (fun hc => hc) (fun _ _ => ?_) (fun hn => ?_)
      fun hn _ => hs.thrown hn)
    · cases hn : w.hasReachedMaxRetryTimes with
      | false => exact wp_doRetry hr hser hs hn
      | true =>
          cases w with
          | initial c => cases hn
          | retry c k fromRecover msgID =>
              change wp _ _ _ _ (do
                (BusinessMessageListenerWrapper.retry c k fromRecover msgID).doRecover env m false
                (BusinessMessageListenerWrapper.retry c k fromRecover msgID).doRecoverCallback m)
              cases hi : isImmediateRetryMessage c with
              | true =>
                  simp only [doRecover, hi, Bool.false_eq_true, if_false, if_true]
                  exact wp_recovered hser hs fun rm hrm => .immediateRecover hr hn hi hrm
              | false =>
                  simp only [doRecover, hi, Bool.false_eq_true, if_false]
                  exact wp_recovered hser hs fun rm hrm => .intervalRecover hr hn hi hrm
    · exact hs.thrown fun hc => hn ⟨hc.1, hc⟩

/-- The clean-up after the listener has returned. -/
theorem wp_doCleanup (hser : reliable → ∃ b, env.serializer.serialize m = .ok b)
    {E : Handling B → Throwable → Prop} (hE : ¬ reliable → ∀ e, E ⟨some (.ok ()), []⟩ e) :
    wp (handling env w m reliable) (fun s _ => s.Done env w m) E ⟨some (.ok ()), []⟩
      (w.doCleanup env m w.isMessageFromRecover) := by
  cases w with
  | initial c => exact .inl ⟨rfl, fun hr => absurd hr nofun⟩
  | retry c k fromRecover msgID =>
      cases fromRecover with
      | true =>
          exact wp_sendForProcess hser (fun rm hrm => ⟨rfl, .inl ⟨rfl, .recover rfl hrm⟩⟩)
            (fun rm hrm => .inl ⟨rfl, fun _ => by simp⟩) hE
      | false =>
          cases hi : isImmediateRetryMessage c with
          | true =>
              simp only [doCleanup, isMessageFromRecover, hi]
              exact .inl ⟨rfl, fun hr => absurd hr nofun⟩
          | false =>
              simp only [doCleanup, isMessageFromRecover, hi]
              exact wp_sendForProcess hser
                (fun rm hrm => ⟨rfl, .inl ⟨rfl, .intervalRetry rfl hi hrm⟩⟩)
                (fun rm hrm => .inl ⟨rfl, fun _ => by simp⟩) hE

/-- **`onMessage` keeps to the protocol.**  When it returns, the listener has returned or the
failed message was handed over; in a reliable world it throws only what is not cared for. -/
theorem wp_onMessage (hser : reliable → ∃ b, env.serializer.serialize m = .ok b) :
    wp (handling env w m reliable) (fun s _ => s.Done env w m)
      (fun s _ => s.Thrown env w reliable) .start (w.onMessage env m) := by
  unfold onMessage
  cases hr : w.isMessageFromRecover with
  | true =>
      refine (wp_tryCatch ..).mpr ((wp_bind ..).mpr ((wp_perform ..).mpr
        ⟨⟨rfl, rfl⟩, fun _ _ => ?_, fun t _ => ?_⟩))
      · exact hr ▸ wp_doCleanup hser fun hn t => wp_recoverFailed hr hser ⟨rfl, .inr ⟨hn, rfl⟩⟩
      · exact wp_recoverFailed hr hser ⟨rfl, .inl rfl⟩
  | false =>
      refine (wp_tryCatch ..).mpr ((wp_bind ..).mpr ((wp_perform ..).mpr
        ⟨⟨rfl, rfl⟩, fun _ _ => ?_, fun t _ => ?_⟩))
      · exact hr ▸ wp_doCleanup hser fun hn t => wp_retryFailed hr hser ⟨rfl, .inr ⟨hn, rfl⟩⟩
      · exact wp_retryFailed hr hser ⟨rfl, .inl rfl⟩

/-- `RetryMessageListener.onMessage` as well, on a message that unpacks. -/
theorem wp_onRetryMessage {c : RetryQueueConfig}
    (hw : w = .retry c rm.retriedTimes rm.isFromRecover rm.msgID)
    (hm : env.serializer.deserialize rm.businessMsg = .ok m)
    (hser : reliable → ∃ b, env.serializer.serialize m = .ok b) :
    wp (handling env w m reliable) (fun s _ => s.Done env w m)
      (fun s _ => s.Thrown env w reliable) .start
      (RetryMessageListener.onMessage env c (some rm)) := by
  subst hw
  simp only [RetryMessageListener.onMessage, hm]
  exact (wp_tryCatch ..).mpr (wp_onMessage hser)

end

end MRF.Client
