import MRF.Center.InRecover
import MRF.Framework.Sound

/-!
# Framework — Recovery

No recover row is stuck in recovery.  A row in `IN_RECOVER` has a carrier, on its way from the
request that checked it out, through the retry queue and a client, to the clean or the check-in
that takes it out of recovery.  It loses it when the request finds no template, or the send
raises, after the check-out; or when the factory of a client answers null for a connection.
-/

namespace MRF
open MRF.Library MRF.Center MRF.Client

variable {B Msg : Type} [BusinessMsg B]

namespace Framework

variable {cfg : MRFServerConfig} {service : ClientService B Msg} {s s' : Framework B Msg}
  {a : Step B} {x : Int}

/-- What the row of `x` waits for, when it is in recovery. -/
inductive RecoverCarrier (s : Framework B Msg) (x : Int) : Prop where
  /-- A request is about to send the record. -/
  | request {i : Nat} (h : HasRecord x s.center i)
  | retryQueue {rm : RetryMessage B} (h : rm ∈ s.center.retryQueues)
      (hr : rm.isFromRecover = true) (hid : rm.msgID = x)
  /-- With a client that has not handed it over. -/
  | handled {i : Nat} {th : ClientThread B Msg} {rm : RetryMessage B} (h : s.threads i = some th)
      (hsrc : th.source = .retry rm) (hn : th.run.state.handed = [])
      (hr : rm.isFromRecover = true) (hid : rm.msgID = x)
  /-- A clean or a check-in waits in the exception queue, or in a drained batch. -/
  | pending {rm : RetryMessage B} (h : s.center.Pends rm)
      (hf : rm.messageFlag = .cleanRecover ∨ rm.messageFlag = .resendForRecover)
      (hid : rm.msgID = x)

/-- A record that is checked out is sent, and no factory answers null. -/
structure NotStuck (s : Framework B Msg) (a : Step B) : Prop where
  records : ∀ a', a = .center a' → SendsRecords s.center a'
  connection : s.Answers (fun _ => False) a

/-- The content of a serialized message. -/
def IsSerialized (service : ClientService B Msg) (_ : Int) (q : String) (b : B) : Prop :=
  q ≠ "" ∧ ∃ m, service.Serializes m b

/-- The invariant behind `not_stuck`. -/
structure Recovered (service : ClientService B Msg) (s : Framework B Msg) : Prop where
  sound : Sound service (fun _ => False) (IsSerialized service) s
  carried : ∀ x, s.center.tables.RecoverStateIs x .inRecover → s.RecoverCarrier x

theorem isContent_isSerialized (hrt : service.env.serializer.RoundTrips) :
    IsContent service (IsSerialized service) where
  roundTrips := hrt
  serialized := fun _ _ _ ⟨_, m, hm⟩ => ⟨m, hm⟩
  new := fun m _ _ hm hq => ⟨hq, m, hm⟩

section
variable (hs : Sound service (fun _ => False) (IsSerialized service) s)
  (hrt : service.env.serializer.RoundTrips) (h : Stepped cfg service s a s')
  (hd : s.DaoSucceeds a) (hn : NotStuck s a)
include hs hrt h hd hn

omit hd in
theorem sound_isSerialized_step : Sound service (fun _ => False) (IsSerialized service) s' := by
  refine hs.step h (fun _ _ => False.elim) (isContent_isSerialized hrt) hn.connection
    (fun _ _ _ hOk => hOk) ?_
  rintro c rm hm hOk x q b - ⟨rfl, rfl, -⟩
  exact hOk

omit hs hrt hn in
/-- An applied clean or check-in takes its row out of recovery. -/
theorem not_inRecover_of_message {c : Call} {rm : RetryMessage B}
    (hm : s.message a = some (c, rm))
    (hf : rm.messageFlag = .cleanRecover ∨ rm.messageFlag = .resendForRecover)
    (hid : rm.msgID = x) (hpos : 0 < x) : ¬ s'.center.tables.RecoverStateIs x .inRecover := by
  subst hid
  rw [h.tables_eq hm]
  exact not_inRecover_of_processed (hd c rm hm) hpos hf

/-- **What the row of `x` waits for goes on**, as long as the row is in recovery. -/
theorem RecoverCarrier.step (hc : s.RecoverCarrier x) (hpos : 0 < x)
    (hx : s'.center.tables.RecoverStateIs x .inRecover) : s'.RecoverCarrier x := by
  cases hc with
  | @request i hi =>
      rcases h.center_stepped with ⟨-, hcenter⟩ | ⟨a', ha', hst⟩
      · exact .request (hcenter ▸ hi)
      · have hsend : SendsRecords s.center a' :=
          { template := fun j raises found q he hcall => by
              have ha := eq_center_of_centerAction ha' (by rw [he]; rfl)
              exact (hn.records a' ha).template j raises found q he hcall
            send := fun j raises found k m he hcall => by
              have ha := eq_center_of_centerAction ha' (by rw [he]; rfl)
              exact (hn.records a' ha).send j raises found k m he hcall }
        rcases hst.record_step hs.requests hsend hi fun act r hact hr =>
          (hs.records _ _ _ (.request hact hr rfl rfl rfl)).2.1 with hi | ⟨rm, hq, hr, hid⟩
        · exact .request hi
        · exact .retryQueue hq hr hid
  | retryQueue hq hr hid =>
      rcases h.retryQueues_step hq with hq | ⟨i, th, hi, hsrc, hst⟩
      · exact .retryQueue hq hr hid
      · exact .handled hi hsrc (by rw [hst]; rfl) hr hid
  | @handled i th rm hi hsrc hnil hr hid =>
      obtain ⟨m, hm⟩ := hs.source_message (isContent_isSerialized hrt) hi
      have hw : th.wrapper = .retry th.config rm.retriedTimes rm.isFromRecover rm.msgID := by
        simp only [ClientThread.wrapper, hsrc]
      have hrec : th.wrapper.isMessageFromRecover = true := by
        rw [hw]
        exact hr
      rcases h.threads_step hi with hi' | ⟨th', hi', hsrc', c, answer, op, k, r, s₁, ha, hop,
        hserve, hs', hst⟩ | ⟨hret, hs'⟩ | ⟨e, hthrow, hs'⟩
      · exact .handled hi' hsrc hnil hr hid
      · by_cases hnil' : th'.run.state.handed = []
        · exact .handled hi' (hsrc'.trans hsrc) hnil' hr hid
        -- this call hands the record over, which ends its stay in recover
        · obtain ⟨hop, hmay, htaken⟩ := hs.taken hi hm ha hop hserve hs' hnil (hst ▸ hnil')
          obtain ⟨rm', rfl, hf, hid'⟩ := hmay.fromRecover hrec
          have hid'' : rm'.msgID = x := by rw [hid', hw]; exact hid
          cases htaken with
          | applied hmsg =>
              exact absurd hx (not_inRecover_of_message h hd hmsg hf hid'' hpos)
          | pending hp => exact .pending hp hf hid''
      · -- the wrapper returns only after the hand-over
        rcases ((hs.threads i th hi).run m hm).returned hret with ⟨-, hdone⟩ | ⟨t, hop, -, -, hh⟩
        · exact absurd hnil (hdone hrec)
        · rw [hnil] at hh
          cases hh
      · have hcenter : s'.center = (s.redeliver th.source).center :=
          congrArg (fun s => s.center) hs'
        refine .retryQueue ?_ hr hid
        rw [hcenter, hsrc]
        exact List.mem_append_right _ (List.mem_singleton.mpr rfl)
  | @pending rm hp hf hid =>
      rcases h.pends_step hp with hp | ⟨w, c, ms, rfl, hw⟩
      · exact .pending hp hf hid
      · have hne : rm.messageFlag ≠ .msgDirectToRecover := by
          rcases hf with hf | hf <;> rw [hf] <;> decide
        have hmsg : s.message (.center (.executeEQ w c)) = some (c, rm) := by
          simp only [message, centerAction, Option.bind_some, State.message, hw, hne, if_false]
        exact absurd hx (not_inRecover_of_message h hd hmsg hf hid hpos)

end

/-- A step keeps every row in recovery waiting for something. -/
theorem Recovered.step (hr : Recovered service s) (hrt : service.env.serializer.RoundTrips)
    (h : Stepped cfg service s a s') (hd : s.DaoSucceeds a) (hn : NotStuck s a) :
    Recovered service s' := by
  have hsound := sound_isSerialized_step hr.sound hrt h hn
  refine ⟨hsound, fun x hx => ?_⟩
  have hpos : 0 < x := by
    obtain ⟨r, hrow, -⟩ := hx
    exact (hsound.records _ _ _ (.recover hrow)).1
  by_cases hold : s.center.tables.RecoverStateIs x .inRecover
  · exact (hr.carried x hold).step hr.sound hrt h hd hn hpos hx
  · rcases h.center_stepped with ⟨-, hcenter⟩ | ⟨a', -, hst⟩
    · exact absurd (hcenter ▸ hx) hold
    · have hcall := (hst.wrote.inRecover_inv hx).resolve_left hold
      obtain ⟨i, hi⟩ := hst.checkOut_step hr.sound.requests hcall hold hx
      exact .request hi

end Framework

end MRF
