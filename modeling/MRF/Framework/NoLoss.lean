import MRF.Framework.Owned

/-!
# Framework — NoLoss

No failed message is lost.  A business message whose listener threw, and whose `onMessage`
returned, has a carrier from then on: a message on its way, or a row.  It loses it when the
exception-queue poll takes up a `MSG_DIRECT_TO_RECOVER`, for which its `switch` has no case, or
when the factory of a client answers null for a connection.

The invariant `Kept` follows the ids.  A message that has an id has a row, and one that has none
yet is on its way.
-/

namespace MRF
open MRF.Library MRF.Center MRF.Client BusinessMessageListenerWrapper RetryQueueConfigHelper
open MRF.Center.State (asksForId)

variable {B Msg : Type} [BusinessMsg B]

namespace Framework

variable {cfg : MRFServerConfig} {service : ClientService B Msg} {s s' : Framework B Msg}
  {a : Step B} {m : Msg} {rm : RetryMessage B} {x : Int} {q : String}
  {own : Int → Option (String × Msg)}

/-- A listener call of the message has returned, or an admin has deleted a recover row of it. -/
def Closed (service : ClientService B Msg) (s : Framework B Msg) (m : Msg) : Prop :=
  .listened m (.ok ()) ∈ s.log ∨ ∃ b, service.Serializes m b ∧ .deleted b ∈ s.log

/-- The retry message is the business message, in its retry queue. -/
def Carries (service : ClientService B Msg) (rm : RetryMessage B) (q : String) (m : Msg) : Prop :=
  rm.retryQueueName = q ∧ service.Serializes m rm.businessMsg

/-- What carries a failed message, whose retry queue is `q`. -/
inductive Carrier (service : ClientService B Msg) (s : Framework B Msg) (q : String) (m : Msg) :
    Prop where
  | retryQueue {rm : RetryMessage B} (h : rm ∈ s.center.retryQueues) (hm : Carries service rm q m)
  /-- In the exception queue or in a drained batch, to be stored under a new id. -/
  | pending {rm : RetryMessage B} (h : s.center.Pends rm) (hask : asksForId rm = true)
      (hm : Carries service rm q m)
  /-- With a client that has not handed it over. -/
  | handled {i : Nat} {th : ClientThread B Msg} {rm : RetryMessage B} (h : s.threads i = some th)
      (hsrc : th.source = .retry rm) (hn : th.run.state.handed = []) (hm : Carries service rm q m)
  | intervalRetry {r : IntervalRetry B} (h : r ∈ s.center.tables.intervalRetry.rows)
      (hq : r.retryQueueName = q) (hm : service.Serializes m r.businessMsg)
  | recover {r : Recover B} (h : r ∈ s.center.tables.recover.rows)
      (hq : r.retryQueueName = q) (hm : service.Serializes m r.businessMsg)

/-- The center works: generated ids are new and positive, and the database does not raise. -/
structure Dependable (s : Framework B Msg) (a : Step B) : Prop where
  fresh : s.NewIds a
  dao : s.DaoSucceeds a

/-- Nothing is dropped without a word: no `MSG_DIRECT_TO_RECOVER` is taken up from the exception
queue, and no factory answers null. -/
structure NotDropped (s : Framework B Msg) (a : Step B) : Prop where
  exceptionQueue : ∀ w c m ms, a = .center (.executeEQ w c) → s.center.eqWorkers w = m :: ms →
    m.messageFlag ≠ .msgDirectToRecover
  connection : s.Answers (fun _ => False) a

/-! ### The invariant -/

/-- The message has an id, or is on its way to one. -/
inductive Live (service : ClientService B Msg) (own : Int → Option (String × Msg))
    (s : Framework B Msg) (q : String) (m : Msg) : Prop where
  | owned {x : Int} (h : own x = some (q, m))
  | pending {rm : RetryMessage B} (h : s.center.Pends rm) (hask : asksForId rm = true)
      (hm : Carries service rm q m)
  | retryQueue {rm : RetryMessage B} (h : rm ∈ s.center.retryQueues) (hid : rm.msgID ≤ 0)
      (hm : Carries service rm q m)
  | handled {i : Nat} {th : ClientThread B Msg} {rm : RetryMessage B} (h : s.threads i = some th)
      (hsrc : th.source = .retry rm) (hid : rm.msgID ≤ 0) (hn : th.run.state.handed = [])
      (hm : Carries service rm q m)

/-- The invariant behind `no_message_lost`. -/
structure Kept (service : ClientService B Msg) (own : Int → Option (String × Msg))
    (s : Framework B Msg) : Prop extends Numbered service (fun _ => False) own s where
  stored : ∀ x q m, own x = some (q, m) → Closed service s m ∨ s.center.tables.Stored x
  clean : ∀ rm m, s.Messages rm → (rm.messageFlag = .cleanRecover ∨
    rm.messageFlag = .cleanIntervalRetry) → service.Serializes m rm.businessMsg →
      .listened m (.ok ()) ∈ s.log
  /-- A message without an id is one of immediate retry. -/
  unnumbered : ∀ rm c, s.ToClient rm → rm.msgID ≤ 0 →
    service.ofRetryQueue rm.retryQueueName = some c →
      rm.isFromRecover = false ∧ isImmediateRetryMessage c = true
  called : ∀ i th m, s.threads i = some th → th.source.message service.env.serializer = .ok m →
    th.run.state.called = some (.ok ()) → .listened m (.ok ()) ∈ s.log
  handed : ∀ i th m, s.threads i = some th → th.source.message service.env.serializer = .ok m →
    th.run.state.handed ≠ [] →
      Closed service s m ∨ Live service own s th.source.retryQueueName m
  failed : ∀ source t m, .returned source (some (.error t)) ∈ s.log →
    source.message service.env.serializer = .ok m →
      Closed service s m ∨ Live service own s source.retryQueueName m

omit [BusinessMsg B] in
/-- A message that is through stays so. -/
theorem Closed.step [BusinessMsg B] (hc : Closed service s m) (h : Stepped cfg service s a s') :
    Closed service s' m :=
  hc.imp (fun h' => h.log_subset h') fun ⟨b, hb, hd⟩ => ⟨b, hb, h.log_subset hd⟩

/-! ### Rows -/

section
variable (hk : Kept service own s) (hrt : service.env.serializer.RoundTrips)
  (h : Stepped cfg service s a s')
include hk hrt h

/-- A message that is to be stored under a new id is stored. -/
theorem Kept.newId_stored (hd : Dependable s a) {c : Call} (hm : s.message a = some (c, rm))
    (hask : asksForId rm = true) : s'.center.tables.Stored c.newId := by
  obtain ⟨m, -, -, hcon⟩ := hk.content hrt h hm
  rw [h.tables_eq hm]
  exact processed_stored (hd.dao c rm hm) hask (hd.fresh c rm hm hask).1
    (hk.newId_fresh hd.fresh hm hask) hcon

/-- The listener has returned on a message that is cleaned. -/
theorem Kept.cleaned {c : Call} (hm : s.message a = some (c, rm))
    (hf : rm.messageFlag = .cleanRecover ∨ rm.messageFlag = .cleanIntervalRetry)
    (hser : service.Serializes m rm.businessMsg) : .listened m (.ok ()) ∈ s.log := by
  rcases h.message_inv hm with hmsg | hsend
  · exact hk.clean rm m hmsg hf hser
  · obtain ⟨i, th, hop, m', hi, hm', hmay, rfl⟩ := hk.sound.mayHand (isContent_owned hrt) hsend
    obtain ⟨b, flag, f, hb, hmsg⟩ := hmay.message
    rw [hmsg] at hser
    obtain rfl := serializes_unique hrt hser hb
    exact hk.called i th m hi hm' (hmay.returned hf)

/-- The row of a message stays until the message is closed. -/
theorem Kept.stored_step (hx : own x = some (q, m)) :
    Closed service s' m ∨ s'.center.tables.Stored x := by
  rcases hk.stored x q m hx with hc | hstored
  · exact .inl (hc.step h)
  rcases h.center_stepped with ⟨-, hcenter⟩ | ⟨a', ha', hst⟩
  · exact .inr (hcenter ▸ hstored)
  have hmsg : ∀ c rm, s.center.message a' = some (c, rm) → s.message a = some (c, rm) :=
    fun c rm hm => by rw [message, ha', Option.bind_some, hm]
  by_cases hr : Removes s.center a' x
  · rcases hr with ⟨c, rm, hm, hf, rfl⟩ | hcall
    · -- a clean comes after the listener has returned
      obtain ⟨m', hser, hown, -⟩ := hk.content hrt h (hmsg c rm hm)
      rw [hown (hk.issued _ _ _ hx).1] at hx
      cases hx
      exact .inl (.inl (h.log_subset (hk.cleaned hrt h (hmsg c rm hm) hf hser)))
    · rcases hst.wrote.deleteRecover_inv hcall hstored with hstored' | ⟨r, hget, hnone⟩
      · exact .inr hstored'
      · obtain ⟨-, -, m', hser, hown⟩ := hk.sound.records _ _ _ (.recover hget)
        rw [hown (hk.issued _ _ _ hx).1] at hx
        cases hx
        exact .inl (.inr ⟨_, hser, h.deleted ha' hcall hget hnone⟩)
  · refine .inr (hst.wrote.stored (fun c rm hm hdrop => ?_) hr hstored)
    obtain ⟨-, -, -, hcon⟩ := hk.content hrt h (hmsg c rm hm)
    rw [hdrop.2.2.1] at hcon
    cases hcon

end

/-! ### Hand-overs -/

omit [BusinessMsg B] in
/-- A failed message without an id goes to the retry queue, or is to be stored under a new id. -/
theorem handsOver_unnumbered {env : ClientEnv B Msg} {w : BusinessMessageListenerWrapper}
    {hop : Hop B} (h : HandsOver env w m hop) (hid : w.getRetryMessageID ≤ 0)
    (hr : w.isMessageFromRecover = false)
    (hi : w.hasReachedMaxRetryTimes = true → isImmediateRetryMessage w.retryQueueConfig = true) :
    hop.message.msgID ≤ 0 ∧
      ((∃ rm, hop = .center rm ∧ asksForId rm = true) ∨ ∃ rm, hop = .retryQueue rm) := by
  cases h with
  | resendForRecover hr' hm =>
      rw [hr] at hr'
      cases hr'
  | immediateRetry hr' hn hi' hm =>
      obtain ⟨b, -, rfl⟩ := constructRetryMessage_ok hm
      exact ⟨hid, .inr ⟨_, rfl⟩⟩
  | intervalRecover hr' hn hi' hm =>
      rw [hi hn] at hi'
      cases hi'
  | directToRecover hr' hd hm =>
      obtain ⟨b, -, rfl⟩ := constructRetryMessage_ok hm
      exact ⟨hid, .inl ⟨_, rfl, decide_eq_true hid⟩⟩
  | intervalRetry hr' hn hi' hm =>
      obtain ⟨b, -, rfl⟩ := constructRetryMessage_ok hm
      exact ⟨hid, .inl ⟨_, rfl, decide_eq_true hid⟩⟩
  | immediateRecover hr' hn hi' hm =>
      obtain ⟨b, -, rfl⟩ := constructRetryMessage_ok hm
      exact ⟨hid, .inl ⟨_, rfl, rfl⟩⟩

section
variable (hk : Kept service own s) (hrt : service.env.serializer.RoundTrips) {i : Nat}
  {th : ClientThread B Msg} (hi : s.threads i = some th)
include hk hrt hi

/-- What a thread hands over has the id of its message, or is on its way to one. -/
theorem Kept.handsOver (hm : th.source.message service.env.serializer = .ok m) {hop : Hop B}
    (hh : HandsOver service.env th.wrapper m hop) :
    own th.wrapper.getRetryMessageID = some (th.source.retryQueueName, m) ∨
      hop.message.msgID ≤ 0 ∧
        ((∃ rm, hop = .center rm ∧ asksForId rm = true) ∨ ∃ rm, hop = .retryQueue rm) := by
  cases hsrc : th.source with
  | business q m' =>
      have hw : th.wrapper = .initial th.config := by simp only [ClientThread.wrapper, hsrc]
      rw [hw] at hh ⊢
      exact .inr (handsOver_unnumbered hh (Int.le_refl 0) rfl fun ht => by cases ht)
  | retry rm =>
      have hw : th.wrapper = .retry th.config rm.retriedTimes rm.isFromRecover rm.msgID := by
        simp only [ClientThread.wrapper, hsrc]
      have hto : s.ToClient rm := .handled hi hsrc
      by_cases hid : 0 < rm.msgID
      · obtain ⟨-, m', hser, hown⟩ := hk.sound.messages rm (.toClient hto)
        rw [hsrc] at hm
        obtain rfl : m' = m := Except.ok.inj ((hrt m' _ hser).1.symm.trans hm)
        rw [hw]
        exact .inl (hown hid)
      · have hconf := (hk.sound.threads i th hi).ofRetryQueue hsrc
        obtain ⟨hr, himm⟩ := hk.unnumbered rm th.config hto (Int.not_lt.mp hid) hconf
        rw [hw] at hh ⊢
        exact .inr (handsOver_unnumbered hh (Int.not_lt.mp hid) hr fun _ => himm)

/-- What becomes of a message that is handed over by a call. -/
theorem Kept.handed_called (hd : Dependable s a)
    (hm : th.source.message service.env.serializer = .ok m) {c : Call} {answer : Answer}
    {op : ClientOp B Msg} {k : Except Throwable op.Res → ClientProg B Msg Unit}
    {r : Except Throwable op.Res} {s₁ : Framework B Msg} (ha : a = .call i c answer)
    (hop : th.run.rest = .call op k) (hs : s.serve c op answer = some (r, s₁))
    (hs' : s' = { s₁ with threads := s'.threads }) (hnil : th.run.state.handed = [])
    (hne : (th.run.state.next op r).handed ≠ []) :
    .listened m (.ok ()) ∈ s.log ∨
      Live service (ownAfter service own s a) s' th.source.retryQueueName m := by
  have hth := hk.sound.threads i th hi
  obtain ⟨hop, hmay, htaken⟩ := hk.sound.taken hi hm ha hop hs hs' hnil hne
  obtain ⟨b, flag, f, hb, hmsg⟩ := hmay.message
  rcases hmay.2 with ⟨hc, -⟩ | ⟨-, hh⟩
  · exact .inl (hk.called i th m hi hm hc)
  · right
    have hcarries : Carries service hop.message th.source.retryQueueName m := by
      refine ⟨?_, hmsg ▸ hb⟩
      rw [hmsg, hth.queue, ← th.wrapper_retryQueueConfig]
      rfl
    rcases hk.handsOver hrt hi hm hh with hown | ⟨hid, ⟨rm, rfl, hask⟩ | ⟨rm, rfl⟩⟩
    · exact .owned (ownAfter_of_eq hk.toNumbered hd.fresh hown)
    · cases htaken with
      | applied ha => exact hcarries.1 ▸ .owned (ownAfter_newId hrt ha hask hcarries.2)
      | pending hp => exact .pending hp hask hcarries
    · cases htaken with
      | queued hq => exact .retryQueue hq hid hcarries

end

/-! ### Steps -/

section
variable (hk : Kept service own s) (hrt : service.env.serializer.RoundTrips)
  (h : Stepped cfg service s a s') (hd : Dependable s a) (hn : NotDropped s a)
include hk hrt h hd hn

/-- **A message that is live stays so**, until it is closed. -/
theorem Kept.live_step (hl : Live service own s q m) :
    Closed service s' m ∨ Live service (ownAfter service own s a) s' q m := by
  cases hl with
  | owned hx => exact .inr (.owned (ownAfter_of_eq hk.toNumbered hd.fresh hx))
  | @pending rm hp hask hm =>
      right
      rcases h.pends_step hp with hp | ⟨w, c, ms, rfl, hw⟩
      · exact .pending hp hask hm
      · have hf := hn.exceptionQueue w c rm ms rfl hw
        have hmsg : s.message (.center (.executeEQ w c)) = some (c, rm) := by
          simp only [message, centerAction, Option.bind_some, State.message, hw, hf, if_false]
        exact hm.1 ▸ .owned (ownAfter_newId hrt hmsg hask hm.2)
  | retryQueue hq hid hm =>
      right
      rcases h.retryQueues_step hq with hq | ⟨i, th, hi, hsrc, hst⟩
      · exact .retryQueue hq hid hm
      · exact .handled hi hsrc hid (by rw [hst]; rfl) hm
  | @handled i th rm hi hsrc hid hnil hm =>
      have hmsg : th.source.message service.env.serializer = .ok m := by
        rw [hsrc]
        exact (hrt m _ hm.2).1
      have hq : th.source.retryQueueName = q := by
        rw [hsrc]
        exact hm.1
      rcases h.threads_step hi with hi' | ⟨th', hi', hsrc', c, answer, op, k, r, s₁, ha, hop, hs,
        hs', hst⟩ | ⟨hret, hs'⟩ | ⟨e, hthrow, hs'⟩
      · exact .inr (.handled hi' hsrc hid hnil hm)
      · by_cases hnil' : th'.run.state.handed = []
        · exact .inr (.handled hi' (hsrc'.trans hsrc) hid hnil' hm)
        · rw [← hq]
          refine (hk.handed_called hrt hi hd hmsg ha hop hs hs' hnil (hst ▸ hnil')).imp_left ?_
          exact fun hl => .inl (h.log_subset hl)
      · -- the wrapper returns on a failed message only after a hand-over
        rcases ((hk.sound.threads i th hi).run m hmsg).returned hret with ⟨hc, -⟩ |
          ⟨t, hop, -, -, hh⟩
        · exact .inl (.inl (h.log_subset (hk.called i th m hi hmsg hc)))
        · rw [hnil] at hh
          cases hh
      · have hcenter : s'.center = (s.redeliver th.source).center :=
          congrArg (fun s => s.center) hs'
        refine .inr (.retryQueue ?_ hid hm)
        rw [hcenter, hsrc]
        exact List.mem_append_right _ (List.mem_singleton.mpr rfl)

/-- What carries the message goes on, or the message is through. -/
theorem Kept.covered_step (hc : Closed service s m ∨ Live service own s q m) :
    Closed service s' m ∨ Live service (ownAfter service own s a) s' q m :=
  hc.elim (fun hc => .inl (hc.step h)) (hk.live_step hrt h hd hn)

/-- A message that was handed over is carried further on. -/
theorem Kept.handed_step {i : Nat} {th : ClientThread B Msg} (hi : s'.threads i = some th)
    (hm : th.source.message service.env.serializer = .ok m) (hne : th.run.state.handed ≠ []) :
    Closed service s' m ∨
      Live service (ownAfter service own s a) s' th.source.retryQueueName m := by
  cases h.threads_inv hi with
  | same hi₀ => exact hk.covered_step hrt h hd hn (hk.handed i th m hi₀ hm hne)
  | business hn hc => exact absurd rfl hne
  | retry hn hc => exact absurd rfl hne
  | @called c answer th₀ op k r s₁ ha hi₀ hop hs hs' =>
      by_cases hnil : th₀.run.state.handed = []
      · refine (hk.handed_called hrt hi₀ hd hm ha hop hs hs' hnil hne).imp_left ?_
        exact fun hl => .inl (h.log_subset hl)
      · exact hk.covered_step hrt h hd hn (hk.handed i th₀ m hi₀ hm hnil)

/-- A message whose handling failed is delivered again. -/
theorem Kept.failed_step {source : Source B Msg} {t : Throwable}
    (hr : .returned source (some (.error t)) ∈ s'.log)
    (hm : source.message service.env.serializer = .ok m) :
    Closed service s' m ∨
      Live service (ownAfter service own s a) s' source.retryQueueName m := by
  refine hk.covered_step hrt h hd hn ?_
  rcases h.returned_inv hr with hr | ⟨i, th, hi, hret, rfl, hcalled⟩
  · exact hk.failed source t m hr hm
  · rcases ((hk.sound.threads i th hi).run m hm).returned hret with ⟨hc, -⟩ | ⟨t', hop, -, -, hh⟩
    · rw [hcalled] at hc
      cases hc
    · exact hk.handed i th m hi hm (by rw [hh]; exact List.cons_ne_nil _ _)

omit hrt hd hn in
/-- A listener that has returned is in the log. -/
theorem Kept.called_step {i : Nat} {th : ClientThread B Msg} (hi : s'.threads i = some th)
    (hm : th.source.message service.env.serializer = .ok m)
    (hc : th.run.state.called = some (.ok ())) : .listened m (.ok ()) ∈ s'.log := by
  cases h.threads_inv hi with
  | same hi₀ => exact h.log_subset (hk.called i th m hi₀ hm hc)
  | business hn hcfg => cases hc
  | retry hn hcfg => cases hc
  | @called c answer th₀ op k r s₁ ha hi₀ hop hs hs' =>
      by_cases hl : ∃ m', op = .invokeBusinessMessage m'
      · obtain ⟨m', rfl⟩ := hl
        obtain ⟨rfl, -⟩ := ((hk.sound.threads i th₀ hi₀).run m hm).allows hop
        obtain rfl : r = .ok () := Option.some.inj hc
        have hlog : s'.log = s₁.log := congrArg (fun s => s.log) hs'
        have hserved := serve_served hs
        rw [hlog]
        cases hserved with
        | listened m outcome => exact List.mem_append_right _ (List.mem_singleton.mpr rfl)
      · refine h.log_subset (hk.called i th₀ m hi₀ hm ?_)
        rwa [Handling.next_called (not_exists.mp hl)] at hc

omit hd hn in
/-- A clean-up is sent for a message whose listener has returned. -/
theorem Kept.clean_step (hm : s'.Messages rm) (hf : rm.messageFlag = .cleanRecover ∨
    rm.messageFlag = .cleanIntervalRetry) (hser : service.Serializes m rm.businessMsg) :
    .listened m (.ok ()) ∈ s'.log := by
  rcases h.messages_inv hk.sound.requests hm with hm | hsend | ⟨hdef, -⟩
  · exact h.log_subset (hk.clean rm m hm hf hser)
  · obtain ⟨i, th, hop, m', hi, hm', hmay, rfl⟩ := hk.sound.mayHand (isContent_owned hrt) hsend
    obtain ⟨b, flag, f, hb, hmsg⟩ := hmay.message
    rw [hmsg] at hser
    obtain rfl := serializes_unique hrt hser hb
    exact h.log_subset (hk.called i th m hi hm' (hmay.returned hf))
  · rw [hdef] at hf
    exact hf.elim nofun nofun

omit hd hn in
/-- A message to a client without an id is an immediate retry. -/
theorem Kept.unnumbered_step {c : RetryQueueConfig} (hm : s'.ToClient rm) (hid : rm.msgID ≤ 0)
    (hc : service.ofRetryQueue rm.retryQueueName = some c) :
    rm.isFromRecover = false ∧ isImmediateRetryMessage c = true := by
  rcases h.toClient_inv hk.sound.requests hm with hm | ⟨i, th, k, hi, hop⟩ | ⟨-, hrec⟩
  · exact hk.unnumbered rm c hm hid hc
  · obtain ⟨m, hm⟩ := hk.sound.source_message (isContent_owned hrt) hi
    have hth := hk.sound.threads i th hi
    rcases ((hth.run m hm).allows hop).2 with ⟨-, hh⟩ | ⟨-, hh⟩
    · cases hh
    · cases hh with
      | immediateRetry hr hmax himm hrm =>
          obtain ⟨b, -, rfl⟩ := constructRetryMessage_ok hrm
          have hw := th.wrapper_retryQueueConfig
          have hconf : some c = some th.config := by
            rw [← hc, ← hth.config, ← hw]
            rfl
          cases hconf
          exact ⟨hr, hw ▸ himm⟩
  · exact absurd (hk.sound.records _ _ _ hrec).1 (Int.not_lt.mpr hid)

/-- A step keeps every message. -/
theorem Kept.step : Kept service (ownAfter service own s a) s' where
  toNumbered := hk.toNumbered.step hrt h (fun _ _ => False.elim) hd.fresh hn.connection
  stored x q m hx := by
    rcases ownAfter_inv hx with hx | ⟨c, rm, hm, hask, rfl⟩
    · exact hk.stored_step hrt h hx
    · exact .inr (hk.newId_stored hrt h hd hm hask)
  clean rm m hm hf hser := hk.clean_step hrt h hm hf hser
  unnumbered rm c hm hid hc := hk.unnumbered_step hrt h hm hid hc
  called i th m hi hm hc := hk.called_step h hi hm hc
  handed i th m hi hm hne := hk.handed_step hrt h hd hn hi hm hne
  failed source t m hr hm := hk.failed_step hrt h hd hn hr hm

end

/-! ### Runs -/

omit [BusinessMsg B] in
theorem kept_start (business : List (String × Msg)) :
    Kept service (fun _ => none) (start business) where
  toNumbered := numbered_start business
  stored _ _ _ hx := nomatch hx
  clean _ _ hm := absurd hm (not_messages_start business)
  unnumbered _ _ hm := absurd (.toClient hm) (not_messages_start business)
  called _ _ _ hi := nomatch hi
  handed _ _ _ hi := nomatch hi
  failed _ _ _ hr := nomatch hr

omit [BusinessMsg B] in
/-- A live message that is not closed has a carrier. -/
theorem Kept.carrier (hk : Kept service own s)
    (hl : Live service own s q m) (hc : ¬ Closed service s m) : Carrier service s q m := by
  cases hl with
  | @owned x hx =>
      have hcontent : ∀ q' b, s.center.Records x q' b → q' = q ∧ service.Serializes m b := by
        intro q' b hrec
        obtain ⟨hpos, -, m', hser, hown⟩ := hk.sound.records x q' b hrec
        rw [hown hpos] at hx
        cases hx
        exact ⟨rfl, hser⟩
      rcases (hk.stored x q m hx).resolve_left hc with hrow | hrow
      · obtain ⟨r, hr⟩ := Option.ne_none_iff_exists'.mp hrow
        obtain ⟨hq, hser⟩ := hcontent _ _ (.interval hr)
        exact .intervalRetry (Table.get_eq_some_iff.mp hr).1 hq hser
      · obtain ⟨r, hr⟩ := Option.ne_none_iff_exists'.mp hrow
        obtain ⟨hq, hser⟩ := hcontent _ _ (.recover hr)
        exact .recover (Table.get_eq_some_iff.mp hr).1 hq hser
  | pending hp hask hm => exact .pending hp hask hm
  | retryQueue hq hid hm => exact .retryQueue hq hm
  | handled hi hsrc hid hnil hm => exact .handled hi hsrc hnil hm

/-- **No failed message is lost**, in every run in which nothing is dropped without a word: a
message whose listener threw, and whose `onMessage` returned, has a carrier, until one of its
listener calls returns or an admin deletes a recover row of it. -/
theorem no_message_lost {tr : List (Framework B Msg × Step B)} {business : List (String × Msg)}
    (hrt : service.env.serializer.RoundTrips)
    (h : Run (Guarded (stepOf (step cfg service)) fun s a => Dependable s a ∧ NotDropped s a)
      (start business) tr s)
    {source : Source B Msg} {t : Throwable}
    (hr : .returned source (some (.error t)) ∈ s.log)
    (hm : source.message service.env.serializer = .ok m) (hc : ¬ Closed service s m) :
    Carrier service s source.retryQueueName m := by
  obtain ⟨own, hk⟩ := h.invariant (I := fun s => ∃ own, Kept service own s)
    (fun s a s' hg hs => by
      obtain ⟨own, hk⟩ := hs
      exact ⟨_, hk.step hrt (step_stepped hg.1) hg.2.1 hg.2.2⟩)
    ⟨_, kept_start business⟩
  exact hk.carrier ((hk.failed source t m hr hm).resolve_left hc) hc

/-! ### Samples -/

omit [BusinessMsg B] in
theorem dependable_of_quiet (h : s.message a = none) : Dependable s a where
  fresh c m hm := by
    rw [h] at hm
    cases hm
  dao c m hm := by
    rw [h] at hm
    cases hm

/-- The message of a failed listener is in its retry queue. -/
theorem no_message_lost_sample : ∃ s, exec (step .sample immediateService)
      (start [("feed", "post 1")]) (failing [.works]) = some s ∧
    Carrier immediateService s (getRetryQueueName "feed") "post 1" := by
  obtain ⟨s, hs⟩ : ∃ s, exec (step .sample immediateService)
      (start [("feed", "post 1")]) (failing [.works]) = some s := ⟨_, rfl⟩
  refine ⟨s, hs, ?_⟩
  have hlog : s.log = [.listened "post 1" (.error sampleThrowable),
      .returned (.business "feed" "post 1") (some (.error sampleThrowable))] := by
    cases hs
    rfl
  have hr : .returned (.business "feed" "post 1") (some (.error sampleThrowable)) ∈ s.log := by
    rw [hlog]
    exact .tail _ (.head _)
  have hrun := (Run.of_exec hs).to_guarded (G := fun s a => Dependable s a ∧ NotDropped s a) ?_
  · exact no_message_lost roundTrips_sample hrun hr rfl (by simp [Closed, hlog])
  · intro p hp
    have hquiet : (trace (step .sample immediateService)
        (start [("feed", "post 1")]) (failing [.works])).all
          (fun p => (p.1.message p.2).isNone) = true := rfl
    have hm := List.all_eq_true.mp hquiet p hp
    have ha := mem_trace hp
    refine ⟨dependable_of_quiet (Option.isNone_iff_eq_none.mp hm), ?_, ?_⟩
    · rintro w c m ms he
      rw [he] at ha
      simp [failing] at ha
    · refine answers_of_ne_answersNull fun i c he => ?_
      rw [he] at ha
      simp [failing] at ha

/-- The RPC of a queue that is configured direct-to-recover raises; the message goes through the
exception queue, and is gone. -/
def failingOver : List (Step String) :=
  failing [.works, .raises sampleThrowable, .works, .works] ++
    [.center (.receive 0), .center (.dispatchEQ 0 0), .center (.executeEQ 0 (.sample 1))]

/-- The message of a failover, with the flag that the worker drops, is nowhere. -/
theorem message_lost : ∃ s, exec (step .sample directService)
      (start [("feed", "post 1")]) failingOver = some s ∧
    (∀ p ∈ trace (step .sample directService) (start [("feed", "post 1")]) failingOver,
      Dependable p.1 p.2 ∧ p.1.Answers (fun _ => False) p.2) ∧
    (∃ c, directService.retryServiceConfig.getRetryQueueConfig "feed" = some c ∧
      Cared directService.env c sampleThrowable) ∧
    .returned (.business "feed" "post 1") (some (.error sampleThrowable)) ∈ s.log ∧
    ¬ Closed directService s "post 1" ∧
    s.rpcs = [] ∧ ∀ q, ¬ Carrier directService s q "post 1" := by
  obtain ⟨s, hs⟩ : ∃ s, exec (step .sample directService)
      (start [("feed", "post 1")]) failingOver = some s := ⟨_, rfl⟩
  have hlog : s.log = [.listened "post 1" (.error sampleThrowable),
      .returned (.business "feed" "post 1") (some (.error sampleThrowable))] := by
    cases hs
    rfl
  refine ⟨s, hs, fun p hp => ?_, ⟨_, rfl, rfl, rfl⟩, ?_, by simp [Closed, hlog], by cases hs; rfl,
    fun q hc => ?_⟩
  · have hquiet : (trace (step .sample directService)
        (start [("feed", "post 1")]) failingOver).all
          (fun p => (p.1.message p.2).isNone) = true := rfl
    have ha := mem_trace hp
    refine ⟨dependable_of_quiet (Option.isNone_iff_eq_none.mp (List.all_eq_true.mp hquiet p hp)),
      answers_of_ne_answersNull fun i c he => ?_⟩
    rw [he] at ha
    simp [failingOver, failing] at ha
  · rw [hlog]
    exact .tail _ (.head _)
  · cases hs
    cases hc with
    | retryQueue h => cases h
    | pending h =>
        cases h with
        | queue h => cases h
        | @task i h =>
            by_cases he : i = 0
            · subst he
              cases h
            · simp [start, Framework.failOver, State.empty, Function.update_of_ne he] at h
        | @worker w h =>
            by_cases he : w = 0
            · subst he
              cases h
            · simp [start, Framework.failOver, State.empty, Function.update_of_ne he] at h
    | @handled i th rm h =>
        by_cases he : i = 0
        · subst he
          cases h
        · simp [start, State.empty, Function.update_of_ne he] at h
    | intervalRetry h => cases h
    | recover h => cases h

end Framework

end MRF
