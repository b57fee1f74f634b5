import MRF.Client.SendsAgain

/-!
# Client — HandsOverOnce

A listener that throws makes the container deliver the message again, so a failed message is either
handed over, once, or left to the container.  An `Account` follows the answers of one `onMessage`,
whatever they are: what was handed over, whether the factory answered null, and whether the
`RecoverCallback` raised.

`handsOverOnce_iff`: the handling is as it should be unless one of the last two happens alone.
Null loses the message; a callback that raises after the hand-over makes the container deliver it
again.
-/

namespace MRF.Client
open MRF.Library BusinessMessageListenerWrapper RetryQueueConfigHelper MRFServiceThriftClient

variable {B Msg : Type} {env : ClientEnv B Msg} {w : BusinessMessageListenerWrapper} {m : Msg}
  {rm : RetryMessage B} {tr : ClientAnswers B Msg} {v : Except Throwable Unit}

/-- What has happened in one `onMessage`. -/
structure Account (B : Type) extends Handling B where
  /-- `getConnection` answered null. -/
  refused : Bool
  /-- The `RecoverCallback` raised. -/
  callbackRaised : Bool

namespace Account

/-- Before the listener is called. -/
def start : Account B := ⟨.start, false, false⟩

/-- What an answer says of the handling and of the connection. -/
def next (s : Account B) : (op : ClientOp B Msg) → Except Throwable op.Res → Account B
  | .getThriftConnection, .ok false => { s with refused := true }
  | .doRecoverCallback _, .error _ => { s with callbackRaised := true }
  | op, r => { s with toHandling := s.toHandling.next op r }

def hand (s : Account B) (hop : Hop B) : Account B :=
  { s with toHandling := s.toHandling.hand hop }

def refuse (s : Account B) : Account B := { s with refused := true }

/-- Nothing was handed over, and neither of the two has happened. -/
structure Fresh (s : Account B) : Prop where
  handed : s.handed = []
  refused : s.refused = false
  callbackRaised : s.callbackRaised = false

/-- A hand-over has ended: the message was handed over, or the factory answered null. -/
def HandedOver (s : Account B) : Prop :=
  s.handed.length = 1 ∧ s.refused = false ∨ s.handed = [] ∧ s.refused = true

/-- How `onMessage` returns. -/
def Returned (s : Account B) : Prop :=
  s.callbackRaised = false ∧ (s.called = some (.ok ()) ∨ s.HandedOver)

/-- How `onMessage` throws. -/
def Threw (s : Account B) : Prop := s.Fresh ∨ s.callbackRaised = true ∧ s.HandedOver

end Account

/-- The protocol that allows every call, assumes nothing, and keeps the account. -/
def accounting : Protocol (ClientOp B Msg) ClientOp.Res Throwable (Account B) where
  allows _ _ := True
  answers _ _ _ := True
  next := Account.next

/-- The account of a trace. -/
def Account.of (tr : ClientAnswers B Msg) : Account B := accounting.after .start tr

theorem answered_accounting (s : Account B) (tr : ClientAnswers B Msg) :
    accounting.Answered s tr := by
  induction tr generalizing s with
  | nil => trivial
  | cons a tr ih => exact ⟨trivial, ih _⟩

/-! ### Sendings -/

section
variable {s : Account B} {Q : Account B → Unit → Prop} {E : Account B → Throwable → Prop}

theorem wp_accounting_doFailOver (hQ : Q (s.hand (.center rm)) ()) (hE : ∀ e, E s e) :
    wp accounting Q E s (doFailOver env rm : ClientProg B Msg Unit) := by
  refine (wp_bind ..).mpr ((wp_perform ..).mpr ⟨trivial, fun found _ => ?_, fun e _ => hE e⟩)
  cases found with
  | true =>
      refine (wp_tryCatch ..).mpr ((wp_perform ..).mpr ⟨trivial, fun _ _ => hQ, fun e _ => ?_⟩)
      exact hE _
  | false => exact hE _

/-- A sending hands the message over, drops it on null, or raises without a trace. -/
theorem wp_accounting_send (hQ : Q (s.hand (.center rm)) ()) (hnull : Q s.refuse ())
    (hE : ∀ e, E s e) :
    wp accounting Q E s (sendRetryMessageForProcess env rm : ClientProg B Msg Unit) := by
  rw [sendRetryMessageForProcess_eq]
  refine ⟨trivial, fun r _ => ?_⟩
  rcases r with e | _ | _
  · change wp accounting Q E s (if env.classPath.isInstance thriftConnectionException e then
      doFailOver env rm else throw e)
    split
    · exact wp_accounting_doFailOver hQ hE
    · exact hE e
  · exact hnull
  · refine (wp_tryCatch ..).mpr ((wp_perform ..).mpr ⟨trivial, fun _ _ => hQ, fun e _ => ?_⟩)
    split
    · exact wp_accounting_doFailOver hQ hE
    · exact hE e

theorem wp_accounting_sendForProcess {flag : MessageFlag} {isMessageForRetry : Bool}
    (hQ : ∀ rm, Q (s.hand (.center rm)) ()) (hnull : Q s.refuse ()) (hE : ∀ e, E s e) :
    wp accounting Q E s (w.sendForProcess env m flag isMessageForRetry) := by
  cases hm : w.constructRetryMessage env m flag isMessageForRetry with
  | ok rm =>
      rw [sendForProcess_of_ok hm]
      exact wp_accounting_send (hQ rm) hnull hE
  | error e =>
      rw [sendForProcess_of_error hm]
      exact hE e

/-! ### Hand-overs -/

theorem Account.Fresh.handedOver_hand (hs : s.Fresh) (hop : Hop B) : (s.hand hop).HandedOver := by
  refine .inl ⟨?_, hs.refused⟩
  change (s.handed ++ [hop]).length = 1
  rw [hs.handed]
  rfl

theorem Account.Fresh.handedOver_refuse (hs : s.Fresh) : s.refuse.HandedOver :=
  .inr ⟨hs.handed, rfl⟩

/-- After the hand-over the callback may raise. -/
theorem wp_accounting_doRecoverCallback (hs : s.HandedOver) (hc : s.callbackRaised = false) :
    wp accounting (fun s _ => s.Returned) (fun s _ => s.Threw) s
      (w.doRecoverCallback m : ClientProg B Msg Unit) := by
  unfold doRecoverCallback
  cases w.retryQueueConfig.hasRecoverCallback with
  | true => exact (wp_perform ..).mpr ⟨trivial, fun _ _ => ⟨hc, .inr hs⟩, fun _ _ => .inr ⟨rfl, hs⟩⟩
  | false => exact ⟨hc, .inr hs⟩

theorem HandsOverBy.wp_accounting {p : ClientProg B Msg Unit} (h : HandsOverBy env w m p)
    (hs : s.Fresh) : wp accounting (fun s _ => s.Returned) (fun s _ => s.Threw) s p := by
  cases h with
  | center hf =>
      exact wp_accounting_sendForProcess
        (fun rm => ⟨hs.callbackRaised, .inr (hs.handedOver_hand _)⟩)
        ⟨hs.callbackRaised, .inr hs.handedOver_refuse⟩ fun _ => .inl hs
  | recovered hf =>
      exact (wp_bind ..).mpr (wp_accounting_sendForProcess
        (fun rm => wp_accounting_doRecoverCallback (hs.handedOver_hand _) hs.callbackRaised)
        (wp_accounting_doRecoverCallback hs.handedOver_refuse hs.callbackRaised) fun _ => .inl hs)
  | retryQueue =>
      exact (wp_bind ..).mpr ((wp_ofExcept _).mpr ⟨fun rm _ => (wp_perform ..).mpr ⟨trivial,
        fun _ _ => ⟨hs.callbackRaised, .inr (hs.handedOver_hand _)⟩, fun _ _ => .inl hs⟩,
        fun _ _ => .inl hs⟩)

theorem wp_accounting_failed {t : Throwable} (hs : s.Fresh) :
    wp accounting (fun s _ => s.Returned) (fun s _ => s.Threw) s (failed env w m t) := by
  by_cases hcared : Cared env w.retryQueueConfig t
  · rw [failed_of_cared hcared]
    exact handsOverBy_handOver.wp_accounting hs
  · obtain ⟨e, he⟩ := failed_throws (m := m) hcared
    rw [he]
    exact .inl hs

theorem wp_accounting_onMessage :
    wp accounting (fun s _ => s.Returned) (fun s _ => s.Threw) .start (w.onMessage env m) := by
  rw [onMessage_eq]
  refine ⟨trivial, fun r _ => ?_⟩
  rcases r with t | _
  · exact wp_accounting_failed ⟨rfl, rfl, rfl⟩
  · refine (wp_tryCatch ..).mpr ?_
    rw [doCleanup_eq]
    split
    · exact ⟨rfl, .inl rfl⟩
    · exact wp_accounting_sendForProcess (fun _ => ⟨rfl, .inl rfl⟩) ⟨rfl, .inl rfl⟩
        fun t => wp_accounting_failed ⟨rfl, rfl, rfl⟩

end

/-- One hand-over of a failed message when `onMessage` returns, and none when it throws. -/
structure HandsOverOnce (s : Account B) (v : Except Throwable Unit) : Prop where
  once : ∀ t, s.called = some (.error t) → v = .ok () → s.handed.length = 1
  notAtAll : ∀ e, v = .error e → s.handed = []

/-- When the callback raises the factory has answered null, and when the factory answers null after
a failure the callback raises. -/
structure Balanced (s : Account B) : Prop where
  raises : s.callbackRaised = true → s.refused = true
  refuses : ∀ t, s.called = some (.error t) → s.refused = true → s.callbackRaised = true

/-- **A failed message is handed over exactly once or not at all**, as long as the factory does not
answer null after the failure and the callback does not raise, or both happen. -/
theorem handsOverOnce_iff (h : (w.onMessage env m).Ends tr v) :
    HandsOverOnce (Account.of tr) v ↔ Balanced (Account.of tr) := by
  obtain ⟨hret, hthrow⟩ := h.wp wp_accounting_onMessage (answered_accounting _ _)
  change ∀ a, v = .ok a → (Account.of tr).Returned at hret
  change ∀ e, v = .error e → (Account.of tr).Threw at hthrow
  generalize Account.of tr = s at hret hthrow
  cases v with
  | ok a =>
      obtain ⟨hraised, hs⟩ := hret a rfl
      -- the callback did not raise, so all hangs on whether the factory answered null
      have not_raised : s.callbackRaised = true → False := by
        intro h
        rw [hraised] at h
        cases h
      constructor
      · intro hone
        refine ⟨fun h => (not_raised h).elim, fun t ht hrefused => ?_⟩
        rcases hs with hok | ⟨-, hr⟩ | ⟨hnil, -⟩
        · rw [hok] at ht
          cases ht
        · rw [hr] at hrefused
          cases hrefused
        · have hlen := hone.once t ht rfl
          rw [hnil] at hlen
          cases hlen
      · intro hb
        refine ⟨fun t ht _ => ?_, fun e he => (by cases he)⟩
        rcases hs with hok | ⟨hlen, -⟩ | ⟨-, hr⟩
        · rw [hok] at ht
          cases ht
        · exact hlen
        · exact (not_raised (hb.refuses t ht hr)).elim
  | error e =>
      rcases hthrow e rfl with hs | ⟨hraised, hs⟩
      · refine iff_of_true ⟨fun t _ he => (by cases he), fun _ _ => hs.handed⟩ ⟨fun h => ?_, ?_⟩
        · rw [hs.callbackRaised] at h
          cases h
        · intro t _ h
          rw [hs.refused] at h
          cases h
      · constructor
        · intro hone
          refine ⟨fun _ => ?_, fun _ _ _ => hraised⟩
          rcases hs with ⟨hlen, -⟩ | ⟨-, hr⟩
          · rw [hone.notAtAll e rfl] at hlen
            cases hlen
          · exact hr
        · intro hb
          refine ⟨fun t _ he => (by cases he), fun _ _ => ?_⟩
          rcases hs with ⟨-, hr⟩ | ⟨hnil, -⟩
          · rw [hb.raises hraised] at hr
            cases hr
          · exact hnil

/-- The center accepts the retry message. -/
theorem handsOverOnce_sample : HandsOverOnce (Account.of
    [⟨.invokeBusinessMessage "post 1", .error sampleIOException⟩, ⟨.getThriftConnection, .ok true⟩,
      ⟨.process sampleRetry, .ok ()⟩]) (.ok ()) := by
  have hends : ((sampleWrapper 5000 3).onMessage sampleEnv "post 1").Ends
      [⟨.invokeBusinessMessage "post 1", .error sampleIOException⟩,
        ⟨.getThriftConnection, .ok true⟩, ⟨.process sampleRetry, .ok ()⟩] (.ok ()) :=
    .call (.call (.call (.ret ())))
  exact (handsOverOnce_iff hends).mpr ⟨fun h => (by cases h), fun _ _ h => (by cases h)⟩

/-- The callback raises after the message went to recover, and the container delivers it again. -/
theorem callback_raises : ∃ c rm, ((BusinessMessageListenerWrapper.initial c).onMessage sampleEnv
      "post 1").Ends
    [⟨.invokeBusinessMessage "post 1", .error sampleIOException⟩, ⟨.getThriftConnection, .ok true⟩,
      ⟨.process rm, .ok ()⟩, ⟨.doRecoverCallback "post 1", .error sampleIOException⟩]
    (.error sampleIOException) ∧
    ¬ HandsOverOnce (Account.of
      [⟨.invokeBusinessMessage "post 1", .error sampleIOException⟩,
        ⟨.getThriftConnection, .ok true⟩, ⟨.process rm, .ok ()⟩,
        ⟨.doRecoverCallback "post 1", .error sampleIOException⟩]) (.error sampleIOException) := by
  refine ⟨(RetryQueueConfig.feedQ (-1) (-1)).setRecoverCallback true, _,
    .call (.call (.call (.call (.throw _)))), fun h => ?_⟩
  have hnil := h.notAtAll _ rfl
  cases hnil

end MRF.Client
