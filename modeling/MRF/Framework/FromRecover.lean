import MRF.Center.ExceptionQueue
import MRF.Client.Listener
import MRF.Framework.State

/-!
# Framework — FromRecover

A message that was sent from the `recover` table touches its own `recover` row, and nothing else.
The listener shares its fields among successive messages, and the same `onMessage` has all the
branches of retry and recovery: what is handled here is every run of one listener, with any
messages before, any outcome of the business listener, and any RPC failure with its fail-over.
-/

namespace MRF
open MRF.Library MRF.Center MRF.Client

variable {B Msg : Type} [BusinessMsg B] {env : ClientEnv B Msg} {c : RetryQueueConfig}
  {t t' : Tables B} {x : Int}

/-- What the center does to its tables because of a call: an RPC, when it arrives, and a message of
the exception queue, when a worker handles it. -/
inductive CenterDoes : ClientOp B Msg → Tables B → Tables B → Prop where
  | process (rm : RetryMessage B) (e : Env) (t : Tables B) :
      CenterDoes (.process rm) t (processed e rm t)
  | handle (rm : RetryMessage B) (e : Env) (t : Tables B) :
      CenterDoes (.sendToExceptionQueue rm) t (PollEQTaskSchedulerThread.handled e rm t)

/-- Nothing but a delete of the `recover` row `x`, or its reset to `TO_RECOVER`. -/
structure OwnRow (x : Int) (t t' : Tables B) : Prop where
  intervalRetry : t'.intervalRetry = t.intervalRetry
  recover : t'.recover = t.recover ∨ t'.recover = t.recover.delete x ∨
    ∃ now, t'.recover = t.recover.update x (RecoverDAO.checkedIn now) (RecoverDAO.checkedIn_msgID _)

omit [BusinessMsg B] in
/-- Every other row is as it was. -/
theorem OwnRow.get_of_ne (h : OwnRow x t t') {y : Int} (hy : y ≠ x) :
    t'.recover.get y = t.recover.get y := by
  rcases h.recover with he | he | ⟨now, he⟩
  · rw [he]
  · rw [he, Table.get_delete, if_neg hy]
  · rw [he, Table.get_update, if_neg hy]

omit [BusinessMsg B] in
/-- No row is inserted. -/
theorem OwnRow.stored (h : OwnRow x t t') {y : Int} (hy : t'.Stored y) : t.Stored y := by
  rcases hy with hy | hy
  · rw [h.intervalRetry] at hy
    exact .inl hy
  · refine .inr fun hn => hy ?_
    rcases h.recover with he | he | ⟨now, he⟩
    · rw [he]
      exact hn
    · rw [he]
      exact Table.get_delete_eq_none.mpr (.inr hn)
    · rw [he]
      exact Table.get_update_eq_none.mpr hn

/-- An answer for a recover row touches that row alone. -/
theorem applied_ownRow {e : Env} {rm : RetryMessage B}
    (hf : rm.messageFlag = .cleanRecover ∨ rm.messageFlag = .resendForRecover)
    (h : Applied e rm t t') : OwnRow rm.msgID t t' := by
  cases h with
  | unchanged => exact ⟨rfl, .inl rfl⟩
  | cleanRecover => exact ⟨rfl, .inr (.inl rfl)⟩
  | resendForRecover => exact ⟨rfl, .inr (.inr ⟨_, rfl⟩)⟩
  | _ => simp_all

/-- **A message from recover touches its own recover row only.** -/
theorem fromRecover_ownRow {l l' : Listener B Msg}
    {tr : List (Listener B Msg × Listener.Event B Msg)} (h : Run (Listener.Step env c) l tr l')
    (hl : l.handling = none) :
    ∀ p ∈ tr, ∀ m rest op, p.1.handling = some (m, rest) → m.isFromRecover = true →
      p.2 = .call op → (∀ rm, op ≠ .sendToRetryQueue rm) ∧
        ∀ t t', CenterDoes op t t' → OwnRow m.msgID t t' ∧
          (∀ y, y ≠ m.msgID → t'.recover.get y = t.recover.get y) ∧
          ∀ y, t'.Stored y → t.Stored y := by
  intro p hp m rest op hm hr ha
  have hA : ∀ m : RetryMessage B, (RetryMessageListener.onMessage env c (some m)).Always
      fun op => m.isFromRecover = true → CallsForRecover m.msgID op := by
    intro m
    cases hr : m.isFromRecover with
    | true => exact (always_onRetryMessage hr).mono fun _ hop _ => hop
    | false => exact Prog.always_of_forall (fun op hop => nomatch hop) _
  obtain ⟨m', rest', hm', hcalls⟩ := Listener.calls_run h hl hA p hp op ha
  obtain rfl : m' = m := congrArg Prod.fst (Option.some.inj (hm'.symm.trans hm))
  have hcall := hcalls hr
  refine ⟨fun rm he => ?_, fun t t' hd => ?_⟩
  · rw [he] at hcall
    exact hcall
  · have hown : OwnRow m'.msgID t t' := by
      cases hd with
      | process rm e t => exact hcall.2 ▸ applied_ownRow hcall.1 (processed_applied e rm t)
      | handle rm e t =>
          have hne : rm.messageFlag ≠ .msgDirectToRecover := by
            rcases hcall.1 with hf | hf <;> rw [hf] <;> nofun
          rw [handled_of_ne t hne]
          exact hcall.2 ▸ applied_ownRow hcall.1 (processed_applied e rm t)
    exact ⟨hown, fun y => hown.get_of_ne, fun y => hown.stored⟩

/-! ### A sample -/

def Client.RetryQueueConfig.sample : RetryQueueConfig :=
  ⟨"feed", 5000, 3, [], false, feed_ne, neg_one_le_interval, neg_one_le_times⟩

def Client.ClientEnv.sample : ClientEnv String String :=
  (ClientService.sample 5000 3 neg_one_le_interval neg_one_le_times).env

/-- The message of a retry queue. -/
def listened (msgID : Int) (businessMsg : String) (isFromRecover : Bool) : RetryMessage String :=
  { sampleMessage .defaultMsgFlag msgID businessMsg with isFromRecover }

/-- What the wrapper sends for a message that was listened to. -/
def sentForSample (msgID : Int) (businessMsg : String) (messageFlag : MessageFlag)
    (isFromRecover : Bool) : RetryMessage String :=
  { sampleMessage messageFlag msgID businessMsg with isFromRecover }

/-- The listener cleans up after the message 7, and then its business listener throws on the message
1, which is from recover. -/
theorem fromRecover_ownRow_sample : ∃ tr l l',
    Run (Listener.Step .sample .sample) (Listener.initial : Listener String String)
      (tr ++ [(l, .call (.process (sentForSample 1 "post 1" .resendForRecover true)))]) l' ∧
    ∀ e t, OwnRow 1 t (processed e (sentForSample 1 "post 1" .resendForRecover true) t) := by
  obtain ⟨tr, l, hrun, k, hl⟩ : ∃ tr l,
      Run (Listener.Step .sample .sample) (Listener.initial : Listener String String) tr l ∧
      ∃ k, l.handling = some (listened 1 "post 1" true,
        .call (.process (sentForSample 1 "post 1" .resendForRecover true)) k) :=
    ⟨_, _,
      .cons (.receive (listened 7 "post 7" false) rfl) <|
      .cons (@Listener.Step.call _ _ _ _ _ _ (.invokeBusinessMessage "post 7") _ rfl (.ok ())) <|
      .cons (@Listener.Step.call _ _ _ _ _ _ .getThriftConnection _ rfl (.ok true)) <|
      .cons (@Listener.Step.call _ _ _ _ _ _
        (.process (sentForSample 7 "post 7" .cleanIntervalRetry false)) _ rfl (.ok ())) <|
      .cons (.returns rfl) <|
      .cons (.receive (listened 1 "post 1" true) rfl) <|
      .cons (@Listener.Step.call _ _ _ _ _ _ (.invokeBusinessMessage "post 1") _ rfl
        (.error sampleThrowable)) <|
      .cons (@Listener.Step.call _ _ _ _ _ _ .getThriftConnection _ rfl (.ok true)) <| .nil _,
      _, rfl⟩
  have hall := hrun.trans (Run.one (.call hl (.ok ())))
  have hown := fromRecover_ownRow hall rfl _ (List.mem_append_right _ List.mem_cons_self) _ _ _ hl
    rfl rfl
  exact ⟨tr, l, _, hall, fun e t => (hown.2 _ _ (.process _ e t)).1⟩

end MRF
