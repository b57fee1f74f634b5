import MRF.Center.Track
import MRF.Client.FiniteRetry
import MRF.Framework.Owned

/-!
# Framework — OneMessage

One message whose listener always throws, in a queue with `n` retries.  `Follows` says at which
stage the message is, how often it was retried, how often its listener was called, and that there
is no copy of it anywhere else.

`Follows.stored` is what the center does with the message when a client hands it over.
-/

namespace MRF
open MRF.Library MRF.Center MRF.Client BusinessMessageListenerWrapper
open MRF.Center.State (asksForId)

variable {B Msg : Type} [BusinessMsg B]

/-- The source is the business message. -/
abbrev ClientService.Reads (service : ClientService B Msg) (m : Msg) (source : Source B Msg) :
    Prop :=
  source.message service.env.serializer = .ok m

/-- The calls that are not the framework's own: the listener and the recover callback. -/
def Client.ClientOp.isApplication : ClientOp B Msg → Bool
  | .invokeBusinessMessage _ => true
  | .doRecoverCallback _ => true
  | _ => false

/-- The listener of the message was called. -/
def Event.isCall [DecidableEq Msg] (m : Msg) : Event B Msg → Bool
  | .listened m' _ => m' = m
  | _ => false

namespace Framework

/-- The calls of the message's listener, so far. -/
def calls [DecidableEq Msg] (s : Framework B Msg) (m : Msg) : Nat := s.log.countP (Event.isCall m)

/-- Where the message is. -/
inductive Stage where
  | business
  | client (i : Nat) (called : Bool)
  | center (p : Place)

/-- The place that the center has the message at. -/
def Stage.place : Stage → Place
  | .center p => p
  | _ => .away

/-- The order of the stages of one round. -/
def Stage.rank : Stage → Nat
  | .business => 3
  | .client _ false => 4
  | .client _ true => 5
  | .center p => p.rank

/-- The order of the stages of all rounds. -/
def Stage.score (st : Stage) (k : Nat) : Nat := 7 * k + st.rank

/-- The listener was called in this round. -/
def Stage.called : Stage → Nat
  | .client _ true => 1
  | .center .recover => 1
  | _ => 0

/-- In the center the listener is not called, until `recover`. -/
theorem Stage.called_center {p : Place} (hp : p ≠ .recover) : (Stage.center p).called = 0 := by
  cases p with
  | recover => exact absurd rfl hp
  | _ => rfl

/-- How the stage goes with the number of retries and the id. -/
structure Stage.Counts (c : RetryQueueConfig) (n : Nat) (st : Stage) (k : Nat) (x : Int) :
    Prop where
  le : k ≤ n
  recovered : st = .center .recover → k = n
  not_away : st ≠ .center .away
  fresh : st = .business → k = 0 ∧ x = 0
  nonneg : 0 ≤ x
  immediate : c.retryInterval = 0 → st ≠ .center .recover → x = 0
  interval : c.retryInterval ≠ 0 → 0 < x ∨ k = 0 ∧ st.place = .away

/-- A client takes the message without changing its numbers. -/
theorem Stage.Counts.toClient {c : RetryQueueConfig} {n : Nat} {st : Stage} {k : Nat} {x : Int}
    (h : st.Counts c n k x) (hne : st ≠ .center .recover) {i : Nat} {called : Bool} :
    (Stage.client i called).Counts c n k x where
  le := h.le
  recovered hc := by cases hc
  not_away hc := by cases hc
  fresh hc := by cases hc
  nonneg := h.nonneg
  immediate hi _ := h.immediate hi hne
  interval hi := (h.interval hi).imp_right fun hk => ⟨hk.1, rfl⟩

/-- A thread that was given the message. -/
structure IsClient (service : ClientService B Msg) (c : RetryQueueConfig) (st : Stage) (k : Nat)
    (x : Int) (i : Nat) (th : ClientThread B Msg) : Prop where
  config : th.config = c
  called : ∀ r, th.run.state.called = some r → ∃ t, r = .error t ∧ Cared service.env c t
  current : th.run.state.handed = [] → st = .client i th.run.state.called.isSome ∧
    HasRetried c th.wrapper k x

/-- The message `m` is at the stage `st`, was retried `k` times, has the id `x`, if any, and is
nowhere else. -/
structure Follows [DecidableEq Msg] (service : ClientService B Msg) (c : RetryQueueConfig) (n : Nat)
    (q : String) (m : Msg) (b : B) (own : Int → Option (String × Msg)) (st : Stage) (k : Nat)
    (x : Int) (s : Framework B Msg) : Prop where
  numbered : Numbered service (service.Reads m) own s
  tracked : Tracked b (getRetryQueueName q) st.place k x s.center
  business : ∀ q', (q', m) ∈ s.business → st = .business ∧ q' = q
  atMostOne : AtMostOne (fun p => p.2 = m) s.business
  waiting : st = .business → (q, m) ∈ s.business
  rpcs : ∀ rm ∈ s.rpcs, rm.businessMsg ≠ b
  clients : ∀ i th, s.threads i = some th → service.Reads m th.source →
    IsClient service c st k x i th
  client : ∀ i called, st = .client i called → ∃ th, s.threads i = some th ∧
    service.Reads m th.source ∧ th.run.state.handed = []
  calls : s.calls m = k + st.called
  counts : st.Counts c n k x

/-- The message, its queue, and what they are configured and serialized as. -/
structure Retried (service : ClientService B Msg) (c : RetryQueueConfig) (n : Nat) (q : String)
    (m : Msg) (b : B) : Prop where
  roundTrips : service.env.serializer.RoundTrips
  serialized : service.Serializes m b
  config : service.retryServiceConfig.getRetryQueueConfig q = some c
  retries : RetriesFinitely c n

/-- What is assumed of a step: no call that is made for the message fails, its listener throws what
is cared for, generated ids are new, and no house keeper takes its row for expired. -/
structure Untroubled (cfg : MRFServerConfig) (service : ClientService B Msg) (c : RetryQueueConfig)
    (m : Msg) (b : B) (s : Framework B Msg) (a : Step B) : Prop where
  newIds : s.NewIds a
  listener : ∀ i call answer th f, a = .call i call answer → s.threads i = some th →
    th.run.rest = .call (.invokeBusinessMessage m) f →
      ∃ t, answer = .raises t ∧ Cared service.env c t
  /-- The RPC and the broker. -/
  works : ∀ i call answer th op f, a = .call i call answer → s.threads i = some th →
    th.run.rest = .call op f → service.Reads m th.source →
      op.isApplication = false → answer = .works
  /-- The factory of no client answers null. -/
  connection : ∀ i call th f, a = .call i call .answersNull → s.threads i = some th →
    th.run.rest ≠ .call .getThriftConnection f
  dao : ∀ call rm, s.message a = some (call, rm) → rm.businessMsg = b → call.faults = []
  checkOut : ∀ i raises r, a = .center (.checkOut i raises) → s.center.pollers i = .selected r →
    r.businessMsg = b → raises = false
  sendRetry : ∀ w found raises r, a = .center (.sendRetry w found raises) →
    s.center.workers w = some r → r.businessMsg = b → found = true ∧ raises = false
  houseKeep : ∀ rows r, (∃ j, a = .center (.readHouseKeep j)) ∨
      (∃ faults, a = .center (.houseKeepRound faults)) →
    s.center.outOfThreshold cfg = some rows → r ∈ rows → r.businessMsg ≠ b

/-- What else a step must not do: let the recover callback of the message throw, check its row out
for a poll thread that has selected it with an older count, or take up its recover row for an
admin. -/
structure Undisturbed (service : ClientService B Msg) (m : Msg) (b : B) (s : Framework B Msg)
    (a : Step B) : Prop where
  callback : ∀ i call answer th m' f, a = .call i call answer → s.threads i = some th →
    th.run.rest = .call (.doRecoverCallback m') f → service.Reads m th.source → answer = .works
  count : ∀ i raises r row, a = .center (.checkOut i raises) → s.center.pollers i = .selected r →
    r.businessMsg = b → s.center.tables.intervalRetry.get r.msgID = some row →
      row.retryState = .toRetry → row.retriedTimes = r.retriedTimes
  admin : ∀ a' y r, a = .center a' →
    s.center.call a' = some (.checkOutRecover y) ∨ s.center.call a' = some (.deleteRecover y) →
      s.center.tables.recover.get y = some r → r.businessMsg ≠ b

/-- Nobody but those that retry the message takes part in its retries, and all that they do
works. -/
structure Steady (cfg : MRFServerConfig) (service : ClientService B Msg) (c : RetryQueueConfig)
    (m : Msg) (b : B) (s : Framework B Msg) (a : Step B) : Prop extends
    Untroubled cfg service c m b s a, Undisturbed service m b s a

variable [DecidableEq Msg] {cfg : MRFServerConfig} {service : ClientService B Msg}
  {s s' : Framework B Msg} {a : Step B} {q : String} {m : Msg} {b : B} {c : RetryQueueConfig}
  {n k : Nat} {x : Int} {own own' : Int → Option (String × Msg)} {st : Stage}

omit [BusinessMsg B] [DecidableEq Msg] in
/-- The center leaves the message alone. -/
theorem Steady.leftAlone (hs : Steady cfg service c m b s a) (a' : Center.Action B)
    (ha : a = .center a') : LeftAlone cfg b s.center a' where
  checkOut i raises r he hi hb := by
    subst he
    exact ⟨hs.checkOut i raises r ha hi hb,
      fun row hrow hto => hs.count i raises r row ha hi hb hrow hto⟩
  sendRetry w found raises r he hw hb := by
    subst he
    exact hs.sendRetry w found raises r ha hw hb
  houseKeep rows r he := by
    refine hs.houseKeep rows r (he.imp ?_ ?_)
    · rintro ⟨j, rfl⟩
      exact ⟨j, ha⟩
    · rintro ⟨faults, rfl⟩
      exact ⟨faults, ha⟩
  admin y r hc := hs.admin a' y r ha hc

omit [BusinessMsg B] [DecidableEq Msg] in
/-- The message that a client sends to the center is applied. -/
theorem message_process (call : Call) {i : Nat} {th : ClientThread B Msg} {rm : RetryMessage B}
    {f : Except Throwable Unit → ClientProg B Msg Unit} (hi : s.threads i = some th)
    (hk : th.run.rest = .call (.process rm) f) :
    s.message (.call i call .works) = some (call, rm) := by
  simp only [message, centerAction, hi, hk, Option.bind_some, State.message]

omit [BusinessMsg B] [DecidableEq Msg] in
/-- Only a message that is sent to the center is applied. -/
theorem message_call {i : Nat} {call call' : Call} {answer : Answer} {th : ClientThread B Msg}
    {op : ClientOp B Msg} {f : Except Throwable op.Res → ClientProg B Msg Unit}
    {rm : RetryMessage B} (hi : s.threads i = some th) (hk : th.run.rest = .call op f)
    (h : s.message (.call i call answer) = some (call', rm)) :
    call' = call ∧ op = .process rm ∧ answer = .works := by
  cases answer with
  | works =>
      cases op <;> simp only [message, centerAction, hi, hk, Option.bind_some, Option.bind_none,
        State.message, reduceCtorEq, Option.some.injEq, Prod.mk.injEq] at h
      exact ⟨h.1.symm, congrArg _ h.2, rfl⟩
  | _ => simp only [message, centerAction, hi, Option.bind_none, reduceCtorEq] at h

/-! ### The hand-over to the center -/

omit [DecidableEq Msg] in
/-- The messages of a retried queue name its retry queue. -/
theorem Retried.retryQueueName (hr : Retried service c n q m b)
    {w : BusinessMessageListenerWrapper} (hw : HasRetried c w k x) (flag : MessageFlag)
    (isMessageForRetry : Bool) :
    (w.retryMessage b flag isMessageForRetry).retryQueueName = getRetryQueueName q := by
  change getRetryQueueName w.retryQueueConfig.businessQueueName = _
  rw [hw.config, RetryServiceConfig.businessQueueName_of_get hr.config]

omit [DecidableEq Msg] in
/-- The message of a retry, one count on. -/
theorem Retried.isCopy (hr : Retried service c n q m b) {w : BusinessMessageListenerWrapper}
    (hw : HasRetried c w k x) (hk : k < n) (flag : MessageFlag) :
    IsCopy (getRetryQueueName q) (k + 1) x (w.retryMessage b flag true).msgID
      (w.retryMessage b flag true).retryQueueName (w.retryMessage b flag true).retriedTimes where
  msgID_eq := hw.msgID
  retryQueueName_eq := hr.retryQueueName hw flag true
  retriedTimes_eq := hw.retriedTimes_retry hr.retries hk

section
variable (hr : Retried service c n q m b) (h : Follows service c n q m b own st k x s)
include hr h

omit hr [BusinessMsg B] in
/-- The message is not in `recover` as long as it has a row of `interval_retry`. -/
theorem Follows.recover_none (hp : st.place ≠ .recover) (hx : 0 < x) :
    s.center.tables.recover.get x = none := by
  obtain ⟨r, hrow, hb⟩ := h.tracked.row hx hp
  by_contra hne
  obtain ⟨r', hrec⟩ := Option.ne_none_iff_exists'.mp hne
  have hown := (h.numbered.sound.records x _ _ (.interval hrow)).2
  have hown' := (h.numbered.sound.records x _ _ (.recover hrec)).2
  have hb' : r'.businessMsg = b := (hown.unique hx hown').2 ▸ hb
  exact hp (h.tracked.recovers x r' hrec hb').1

/-- The thread that hands the message over, and what it hands over. -/
theorem Follows.handsOn {i : Nat} {th : ClientThread B Msg} (hi : s.threads i = some th)
    (hth : service.Reads m th.source) {hop : Hop B}
    (hmay : th.run.state.MayHand service.env th.wrapper m hop) :
    st = .client i true ∧ HasRetried c th.wrapper k x ∧ HandsOn c th.wrapper n k b hop := by
  have hcl := h.clients i th hi hth
  obtain ⟨hst, hw⟩ := hcl.current hmay.1
  rcases hmay.2 with ⟨hc, -⟩ | ⟨hc, hh⟩
  · obtain ⟨t, ht, -⟩ := hcl.called _ hc
    cases ht
  · rw [Option.isSome_iff_ne_none.mpr hc] at hst
    exact ⟨hst, hw, hw.handsOn hr.retries hr.serialized hh⟩

omit hr in
/-- The message that a client sends to the center has the content. -/
theorem Follows.businessMsg_process (hr : Retried service c n q m b) {i : Nat}
    {th : ClientThread B Msg} {rm : RetryMessage B}
    {f : Except Throwable Unit → ClientProg B Msg Unit} (hi : s.threads i = some th)
    (hk : th.run.rest = .call (.process rm) f) (hth : service.Reads m th.source) :
    rm.businessMsg = b := by
  have hmay := ((h.numbered.sound.threads i th hi).run m hth).allows hk
  obtain ⟨b', flag, isMessageForRetry, hb', hrm⟩ := hmay.message
  have hbb : b' = b := Except.ok.inj (hb'.symm.trans hr.serialized)
  exact (congrArg (fun rm => rm.businessMsg) hrm).trans hbb

/-- The message goes to the center, which stores it in one of the tables, with its count. -/
theorem Follows.stored {i : Nat} {call : Call} {th : ClientThread B Msg} {rm : RetryMessage B}
    {f : Except Throwable Unit → ClientProg B Msg Unit} (hi : s.threads i = some th)
    (hk : th.run.rest = .call (.process rm) f) (hth : service.Reads m th.source)
    (hst : Stepped cfg service s (.call i call .works) s')
    (hids : s.NewIds (.call i call .works)) (hdao : call.faults = []) :
    st = .client i true ∧
      (MRFServiceImpl.process (s.center.env call) rm s.center.tables).1 = .ok () ∧
      ∃ p' k' x', 7 * k + 5 < 7 * k' + p'.rank ∧
        Tracked b (getRetryQueueName q) p' k' x' (s.center.process call rm) ∧
        k + 1 = k' + (Stage.center p').called ∧ (Stage.center p').Counts c n k' x' := by
  have hmay := ((h.numbered.sound.threads i th hi).run m hth).allows hk
  obtain ⟨rfl, hw, hon⟩ := h.handsOn hr hi hth hmay
  have hmsg := message_process call hi hk
  obtain ⟨-, -, -, hcon⟩ := h.numbered.content hr.roundTrips hst hmsg
  have hfresh := h.numbered.newId_fresh hids hmsg
  have hnew := fun hask => (hids call rm hmsg hask).1
  refine ⟨rfl, ?_⟩
  cases hon with
  | intervalRetry hint hlt =>
      have hcopy := hr.isCopy hw hlt .intervalMsgDoRetry
      have hcounts : ∀ y, 0 < y → (Stage.center .toRetry).Counts c n (k + 1) y := fun y hy =>
        { le := hlt
          recovered := fun hc => by cases hc
          not_away := fun hc => by cases hc
          fresh := fun hc => by cases hc
          nonneg := Int.le_of_lt hy
          immediate := fun he => absurd he hint
          interval := fun _ => .inl hy }
      -- a message that has an id is checked in; the first failure gets a row and an id
      by_cases hx : 0 < x
      · obtain ⟨hok, htracked⟩ := h.tracked.checkin hdao rfl hcon hcopy.retryQueueName_eq
          hcopy.retriedTimes_eq rfl hcopy.msgID_eq hx
        exact ⟨hok, .toRetry, k + 1, x, by simp only [Place.rank]; omega, htracked, rfl,
          hcounts x hx⟩
      · have hzero : x = 0 := Int.le_antisymm (Int.not_lt.mp hx) h.counts.nonneg
        have hle : (th.wrapper.retryMessage b .intervalMsgDoRetry true).msgID ≤ 0 :=
          hcopy.msgID_eq.le.trans (Int.not_lt.mp hx)
        have hask : asksForId (th.wrapper.retryMessage b .intervalMsgDoRetry true) = true :=
          decide_eq_true hle
        obtain ⟨hok, htracked⟩ := h.tracked.addIntervalRetry hdao rfl hcon
          hcopy.retryQueueName_eq hcopy.retriedTimes_eq rfl hle hzero (hnew hask) (hfresh hask)
        exact ⟨hok, .toRetry, k + 1, call.newId, by simp only [Place.rank]; omega, htracked, rfl,
          hcounts _ (hnew hask)⟩
  | immediateRecover hint hle =>
      have hkn : k = n := Nat.le_antisymm h.counts.le hle
      have hx : x = 0 := h.counts.immediate hint fun hc => by cases hc
      have hask : asksForId (th.wrapper.retryMessage b .immediateMsgDoRecover false) = true := rfl
      obtain ⟨hok, htracked⟩ := h.tracked.immediateToRecover hdao rfl hcon
        (hr.retryQueueName hw .immediateMsgDoRecover false) hw.retriedTimes rfl hx (hnew hask)
        (hfresh hask)
      refine ⟨hok, .recover, k, call.newId, by simp only [Place.rank]; omega, htracked, rfl, ?_⟩
      exact {
        le := h.counts.le
        recovered := fun _ => hkn
        not_away := fun hc => by cases hc
        fresh := fun hc => by cases hc
        nonneg := Int.le_of_lt (hnew hask)
        immediate := fun _ hne => absurd rfl hne
        interval := fun _ => .inl (hnew hask) }
  | intervalRecover hint hle =>
      have hkn : k = n := Nat.le_antisymm h.counts.le hle
      have hx : 0 < x := by
        refine (h.counts.interval hint).resolve_right fun hzero => ?_
        have hpos := hr.retries.pos
        omega
      obtain ⟨hok, htracked⟩ := h.tracked.moveToRecover hdao rfl hcon
        (hr.retryQueueName hw .intervalMsgDoRecover false) hw.retriedTimes rfl hw.msgID hx
        (h.recover_none (fun hc => by cases hc) hx)
      refine ⟨hok, .recover, k, x, by simp only [Place.rank]; omega, htracked, rfl, ?_⟩
      exact {
        le := h.counts.le
        recovered := fun _ => hkn
        not_away := fun hc => by cases hc
        fresh := fun hc => by cases hc
        nonneg := h.counts.nonneg
        immediate := fun he => absurd he hint
        interval := fun _ => .inl hx }

omit hr [BusinessMsg B] in
/-- A thread does not return before it has handed the message over. -/
theorem Follows.handed_of_returned {i : Nat} {th : ClientThread B Msg} (hi : s.threads i = some th)
    (hth : service.Reads m th.source) (hret : th.run.rest = .ret ()) :
    th.run.state.handed ≠ [] := by
  intro hnil
  rcases ((h.numbered.sound.threads i th hi).run m hth).returned hret with
    ⟨hc, -⟩ | ⟨t, hop, -, -, hh⟩
  · obtain ⟨t, ht, -⟩ := (h.clients i th hi hth).called _ hc
    cases ht
  · rw [hnil] at hh
    cases hh

omit hr [BusinessMsg B] in
/-- Nor does it throw, as what the listener throws is cared for. -/
theorem Follows.not_thrown {i : Nat} {th : ClientThread B Msg} {e : Throwable}
    (hi : s.threads i = some th) (hth : service.Reads m th.source) : th.run.rest ≠ .throw e := by
  intro hthrow
  obtain ⟨t, hc, hnc⟩ := ((h.numbered.sound.threads i th hi).run m hth).thrown hthrow hth
  have hcl := h.clients i th hi hth
  obtain ⟨t', ht, hcares⟩ := hcl.called _ hc
  cases ht
  rw [th.wrapper_retryQueueConfig, hcl.config] at hnc
  exact hnc hcares

/-! ### What a step answers -/

/-- A call that is made for the message is answered, and not with an exception. -/
theorem Follows.answers (hs : Steady cfg service c m b s a) : s.Answers (service.Reads m) a := by
  rintro i call answer th op f r s₁ rfl hi hk hserve
  have hworks := fun hop hth => hs.works i call answer th op f rfl hi hk hth hop
  cases op with
  | invokeBusinessMessage m' => trivial
  | getThriftConnection =>
      cases answer with
      | works => cases hserve; rfl
      | answersNull => exact absurd hk (hs.connection i call th f rfl hi)
      | raises t => cases hserve; exact fun hth => by cases hworks rfl hth
      | timesOut t => cases hserve
  | process rm =>
      cases answer with
      | works =>
          have hst : Stepped cfg service s _ _ := .call hi hk hserve
          cases hserve
          cases hanswer : s.processAnswer call rm with
          | ok u => trivial
          | error e =>
              intro hth
              -- what the thread sends is stored, so the RPC does not raise
              have hb := h.businessMsg_process hr hi hk hth
              have hmsg := message_process call hi hk
              obtain ⟨-, hok, -⟩ := h.stored hr hi hk hth hst hs.newIds (hs.dao call rm hmsg hb)
              simp only [processAnswer, hok, reduceCtorEq] at hanswer
      | answersNull => cases hserve
      | raises t => cases hserve; exact fun hth => by cases hworks rfl hth
      | timesOut t => cases hserve; exact fun hth => by cases hworks rfl hth
  | getExceptionRabbitTemplate =>
      cases answer with
      | works => cases hserve; exact fun _ => rfl
      | answersNull => cases hserve; exact fun hth => by cases hworks rfl hth
      | raises t => cases hserve; exact fun hth => by cases hworks rfl hth
      | timesOut t => cases hserve
  | doRecoverCallback m' =>
      cases answer with
      | works => cases hserve; trivial
      | answersNull => cases hserve
      | raises t =>
          cases hserve
          exact fun hth => by cases hs.callback i call _ th m' f rfl hi hk hth
      | timesOut t => cases hserve
  | _ =>
      cases answer with
      | works => cases hserve; trivial
      | answersNull => cases hserve
      | raises t => cases hserve; exact fun hth => by cases hworks rfl hth
      | timesOut t => cases hserve

end

end Framework

end MRF
