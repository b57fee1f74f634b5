import MRF.Client.Calls
import MRF.Library.Run

/-!
# Client — Listener

A `RetryMessageListener` with its single consumer.  The `RetryBusinessMessageListenerWrapper`
keeps the count, the flag and the id of the message at hand in fields, which the next message
overwrites; `RetryMessageListener.onMessage` sets them before it calls the wrapper.

`Listener.calls_run`: the fields that a message is handled with are its own, whatever came before
it, so the calls made for a message are those of a wrapper that was built for it.
-/

namespace MRF.Client
open MRF.Library

variable {B Msg : Type} {env : ClientEnv B Msg} {c : RetryQueueConfig}

/-- The listener: the fields of its wrapper, and the message at hand with what is left of
`onMessage`. -/
structure Listener (B Msg : Type) where
  retriedTimes : Int32
  isMessageFromRecover : Bool
  retryMessageID : Int
  handling : Option (RetryMessage B × ClientProg B Msg Unit)

namespace Listener

/-- A listener that has handled nothing. -/
def initial : Listener B Msg := ⟨0, false, 0, none⟩

/-- The fields that `onMessage` sets before it calls the wrapper. -/
def setFields (l : Listener B Msg) (m : RetryMessage B) : Listener B Msg :=
  { l with
    retriedTimes := m.retriedTimes
    isMessageFromRecover := m.isFromRecover
    retryMessageID := m.msgID }

/-- The wrapper as its fields are. -/
def wrapper (c : RetryQueueConfig) (l : Listener B Msg) : BusinessMessageListenerWrapper :=
  .retry c l.retriedTimes l.isMessageFromRecover l.retryMessageID

/-- What `onMessage` does after the fields are set. -/
def handle (env : ClientEnv B Msg) (c : RetryQueueConfig) (l : Listener B Msg)
    (m : RetryMessage B) : ClientProg B Msg Unit :=
  match env.serializer.deserialize m.businessMsg with
  | .error e => if env.classPath.isInstance exceptionClass e then pure () else throw e
  | .ok businessMessage =>
      try (l.wrapper c).onMessage env businessMessage
      catch _ => throw retryMessageListenerExecuteFailedException

/-- What happens to a listener. -/
inductive Event (B Msg : Type) where
  | receive (message : Option (RetryMessage B))
  | call (op : ClientOp B Msg)
  | finish

/-- The consumer takes one message after the other; a call gets any answer. -/
inductive Step (env : ClientEnv B Msg) (c : RetryQueueConfig) :
    Listener B Msg → Event B Msg → Listener B Msg → Prop where
  /-- A message that does not convert to a `RetryMessage` is logged. -/
  | illegible {l : Listener B Msg} (hl : l.handling = none) : Step env c l (.receive none) l
  | receive {l : Listener B Msg} (m : RetryMessage B) (hl : l.handling = none) :
      Step env c l (.receive (some m))
        { l.setFields m with handling := some (m, (l.setFields m).handle env c m) }
  | call {l : Listener B Msg} {m : RetryMessage B} {op : ClientOp B Msg}
      {k : Except Throwable op.Res → ClientProg B Msg Unit} (hl : l.handling = some (m, .call op k))
      (r : Except Throwable op.Res) :
      Step env c l (.call op) { l with handling := some (m, k r) }
  | returns {l : Listener B Msg} {m : RetryMessage B} (hl : l.handling = some (m, .ret ())) :
      Step env c l .finish { l with handling := none }
  | throws {l : Listener B Msg} {m : RetryMessage B} {e : Throwable}
      (hl : l.handling = some (m, .throw e)) : Step env c l .finish { l with handling := none }

/-- With the fields set for `m`, the listener does what one does that was built for `m`. -/
theorem handle_setFields (l : Listener B Msg) (m : RetryMessage B) :
    (l.setFields m).handle env c m = RetryMessageListener.onMessage env c (some m) := rfl

/-- Every call that is left for the message at hand meets `A`. -/
def Meets (A : RetryMessage B → ClientOp B Msg → Prop) (l : Listener B Msg) : Prop :=
  ∀ m rest, l.handling = some (m, rest) → rest.Always (A m)

theorem Meets.step {A : RetryMessage B → ClientOp B Msg → Prop} {l l' : Listener B Msg}
    {a : Event B Msg} (hA : ∀ m, (RetryMessageListener.onMessage env c (some m)).Always (A m))
    (h : Step env c l a l') (hl : l.Meets A) : l'.Meets A := by
  intro m rest hm
  cases h with
  | illegible => exact hl m rest hm
  | receive m' =>
      cases hm
      exact handle_setFields l m ▸ hA m
  | call hl' r =>
      cases hm
      exact (hl _ _ hl').2 r
  | returns => cases hm
  | throws => cases hm

/-- **Every call is a call for the message at hand**: it meets what every call of `onMessage` on
that message meets, whatever the listener handled before. -/
theorem calls_run {A : RetryMessage B → ClientOp B Msg → Prop} {l l' : Listener B Msg}
    {tr : List (Listener B Msg × Event B Msg)} (h : Run (Step env c) l tr l')
    (hl : l.handling = none)
    (hA : ∀ m, (RetryMessageListener.onMessage env c (some m)).Always (A m)) :
    ∀ p ∈ tr, ∀ op, p.2 = .call op → ∃ m rest, p.1.handling = some (m, rest) ∧ A m op := by
  intro p hp op ha
  obtain ⟨hmeets, l₁, hstep⟩ := h.forall_mem (I := Meets A) (fun _ _ _ hs hm => hm.step hA hs)
    (fun m rest hm => by rw [hl] at hm; cases hm) p hp
  rw [ha] at hstep
  cases hstep with
  | call hl r => exact ⟨_, _, hl, (hmeets _ _ hl).1⟩

end Listener

/-! ### Messages from recover -/

/-- The calls for a message from recover with the id `x`: its listener, the connection, and a
clean or a check-in of the id that goes to the center. -/
def CallsForRecover (x : Int) : ClientOp B Msg → Prop
  | .process rm | .sendToExceptionQueue rm =>
      (rm.messageFlag = .cleanRecover ∨ rm.messageFlag = .resendForRecover) ∧ rm.msgID = x
  | .sendToRetryQueue _ => False
  | .doRecoverCallback _ => False
  | _ => True

variable {w : BusinessMessageListenerWrapper} {m : Msg}

theorem allowsHandling_fromRecover (hr : w.isMessageFromRecover = true) :
    AllowsHandling env w m (CallsForRecover (B := B) w.getRetryMessageID) where
  invoke := trivial
  connection := trivial
  template := trivial
  callback hn := absurd (hr.symm.trans hn) nofun
  cleansUp hop hc := by
    cases hc with
    | recover _ hm =>
        obtain ⟨b, -, rfl⟩ := constructRetryMessage_ok hm
        exact ⟨⟨.inl rfl, rfl⟩, .inl rfl, rfl⟩
    | intervalRetry hn => exact absurd (hr.symm.trans hn) nofun
  handsOver hop hh := by
    cases hh with
    | resendForRecover _ hm =>
        obtain ⟨b, -, rfl⟩ := constructRetryMessage_ok hm
        exact ⟨⟨.inr rfl, rfl⟩, .inr rfl, rfl⟩
    | directToRecover hn | immediateRetry hn | intervalRetry hn | immediateRecover hn
    | intervalRecover hn => exact absurd (hr.symm.trans hn) nofun

/-- `RetryMessageListener.onMessage`, on a message from recover. -/
theorem always_onRetryMessage {rm : RetryMessage B} (hr : rm.isFromRecover = true) :
    (RetryMessageListener.onMessage env c (some rm)).Always
      (CallsForRecover rm.msgID : ClientOp B Msg → Prop) :=
  AllowsHandling.onRetryMessage fun _ _ =>
    allowsHandling_fromRecover (w := .retry c rm.retriedTimes rm.isFromRecover rm.msgID) hr

end MRF.Client
