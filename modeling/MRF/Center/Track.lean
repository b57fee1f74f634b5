import MRF.Center.Copies

/-!
# Center — Track

One business message on its way through the center.  `Tracked` says where it is and which id and
count it has there, and that there is no copy of it that could start a second way.

`Tracked.step`: the actions of the center alone take the message from its row to the retry queue,
one stop at a time, as long as nobody else takes part.  `Tracked.deliver`, `Tracked.publish` and
the lemmas on `process` are the hand-overs between the center and a client.
-/

namespace MRF.Center
open MRF.Library State MRFMessageProcessService

variable {B : Type} [BusinessMsg B] {b : B} {q : String} {k k' : Nat} {x x' : Int} {e : Env}
  {m : RetryMessage B} {cfg : MRFServerConfig} {s s' : State B} {a : Action B}

/-- Where the center has the message. -/
inductive Place where
  /-- Not in the center, but for a row that is checked out. -/
  | away
  | retryQueue
  /-- In `interval_retry`, to be retried. -/
  | toRetry
  /-- With a poll thread that has checked the row out. -/
  | task (i : Nat)
  | worker (w : Nat)
  | recover

/-- The row is to be retried. -/
def Place.Waits : Place → Prop
  | .toRetry => True
  | _ => False

/-- The order of the stops of one round. -/
def Place.rank : Place → Nat
  | .toRetry => 0
  | .task _ => 1
  | .worker _ => 2
  | .retryQueue => 3
  | .away => 4
  | .recover => 6

variable {p p' : Place}

/-- The id, the retry queue and the count of a copy. -/
structure IsCopy (q : String) (k : Nat) (x : Int) (msgID : Int) (retryQueueName : String)
    (retriedTimes : Int32) : Prop where
  msgID_eq : msgID = x
  retryQueueName_eq : retryQueueName = q
  retriedTimes_eq : retriedTimes.toInt = k

/-- The copy that the place stands for. -/
def Carried (b : B) (s : State B) : Place → Prop
  | .retryQueue => ∃ m ∈ s.retryQueues, m.businessMsg = b
  | .task i => ∃ r, s.pollers i = .task r ∧ r.businessMsg = b
  | .worker w => ∃ r, s.workers w = some r ∧ r.businessMsg = b
  | _ => True

/-- The message `b` of the retry queue `q` is at `p`, with `k` retries and under the id `x`, if it
has one; and no copy of it is anywhere else. -/
structure Tracked (b : B) (q : String) (p : Place) (k : Nat) (x : Int) (s : State B) : Prop where
  queued : ∀ m ∈ s.retryQueues, m.businessMsg = b → p = .retryQueue ∧ m.isFromRecover = false ∧
    IsCopy q k x m.msgID m.retryQueueName m.retriedTimes
  atMostOne : AtMostOne (fun m => m.businessMsg = b) s.retryQueues
  pends : ∀ m, s.Pends m → m.businessMsg ≠ b
  task : ∀ i r, s.pollers i = .task r → r.businessMsg = b →
    p = .task i ∧ IsCopy q k x r.msgID r.retryQueueName r.retriedTimes
  worker : ∀ w r, s.workers w = some r → r.businessMsg = b →
    p = .worker w ∧ IsCopy q k x r.msgID r.retryQueueName r.retriedTimes
  held : ∀ h rows r, s.Held h rows → r ∈ rows → r.businessMsg ≠ b
  /-- A request may have read the recover row, and not more. -/
  requests : ∀ i act r, s.requests i = some act → act.state.record = some r → r.businessMsg = b →
    act.state = .got r ∧ p = .recover ∧ r.msgID = x
  rows : ∀ y r, s.tables.intervalRetry.get y = some r → r.businessMsg = b →
    p ≠ .recover ∧ 0 < x ∧ IsCopy q k x y r.retryQueueName r.retriedTimes ∧
      (r.retryState = .toRetry ↔ p.Waits)
  recovers : ∀ y r, s.tables.recover.get y = some r → r.businessMsg = b →
    p = .recover ∧ r.recoverState = .toRecover ∧ IsCopy q k x y r.retryQueueName r.retriedTimes
  row : 0 < x → p ≠ .recover → ∃ r, s.tables.intervalRetry.get x = some r ∧ r.businessMsg = b
  recover : p = .recover → ∃ r, s.tables.recover.get x = some r ∧ r.businessMsg = b
  id : p ≠ .away → p ≠ .retryQueue → 0 < x
  carried : Carried b s p

/-- Nobody else takes part in the retries of the message: its check-out and its send do not raise,
a poll thread that checks its row out has selected it with the count that it has now, no house
keeper reads the row, and no admin checks out or deletes its record. -/
structure LeftAlone (cfg : MRFServerConfig) (b : B) (s : State B) (a : Action B) : Prop where
  checkOut : ∀ i raises r, a = .checkOut i raises → s.pollers i = .selected r →
    r.businessMsg = b → raises = false ∧ ∀ row, s.tables.intervalRetry.get r.msgID = some row →
      row.retryState = .toRetry → row.retriedTimes = r.retriedTimes
  sendRetry : ∀ w found raises r, a = .sendRetry w found raises → s.workers w = some r →
    r.businessMsg = b → found = true ∧ raises = false
  houseKeep : ∀ rows r, (∃ h, a = .readHouseKeep h) ∨ (∃ faults, a = .houseKeepRound faults) →
    s.outOfThreshold cfg = some rows → r ∈ rows → r.businessMsg ≠ b
  admin : ∀ y r, s.call a = some (.checkOutRecover y) ∨ s.call a = some (.deleteRecover y) →
    s.tables.recover.get y = some r → r.businessMsg ≠ b

/-- The center takes the message neither from a client nor to one. -/
structure Internal (b : B) (s : State B) (a : Action B) : Prop where
  message : ∀ c m, s.message a = some (c, m) → m.businessMsg ≠ b
  failOver : ∀ m, a = .failOver m → m.businessMsg ≠ b
  publish : ∀ m, a = .publish m → m.businessMsg ≠ b
  deliver : ∀ n m, a = .deliver n → s.retryQueues[n]? = some m → m.businessMsg ≠ b

/-! ### Actions that do not concern the message -/

section
variable (h : Tracked b q p k x s) (hst : Stepped cfg s a s')
include h hst

theorem Tracked.pends_step (hi : Internal b s a) : ∀ m, s'.Pends m → m.businessMsg ≠ b := by
  intro m hm
  rcases hst.pends_inv hm with hm | ha
  · exact h.pends m hm
  · exact hi.failOver m ha

theorem Tracked.held_step (hu : LeftAlone cfg b s a) :
    ∀ j rows r, s'.Held j rows → r ∈ rows → r.businessMsg ≠ b := by
  intro j rows r hj hr
  rcases hst.held hj with hj | ⟨hj, -⟩ | ⟨ha, hrows⟩
  · exact h.held j rows r (.inl hj) hr
  · exact h.held j rows r (.inr hj) hr
  · exact hu.houseKeep rows r (.inl ⟨j, ha⟩) hrows hr

/-- A request that has read the record goes on with a check-out. -/
theorem Tracked.requests_step (hc : RequestsConform s) (hu : LeftAlone cfg b s a) :
    ∀ i act r, s'.requests i = some act → act.state.record = some r → r.businessMsg = b →
      act.state = .got r ∧ p = .recover ∧ r.msgID = x := by
  intro i act r hact hr hb
  rcases hst.requests_inv hact with
    ⟨hact, -⟩ | ⟨req, rfl⟩ | ⟨raises, found, act₀, op, f, rfl, hi, hf, rfl⟩
  · exact h.requests i act r hact hr hb
  · cases hr
  · rcases requestProtocol_record hr with hr₀ | ⟨y, rfl, hres⟩
    · obtain ⟨hgot, hp, hx⟩ := h.requests i act₀ r hi hr₀ hb
      have hallows := (hc i act₀ hi).allows hf
      rw [hgot] at hallows
      cases op with
      | checkOutRecover y =>
          obtain ⟨r', hr', hb'⟩ := h.recover hp
          obtain ⟨rfl, -⟩ := hallows
          have hcall : s.call (.requestStep i raises found) = some (.checkOutRecover _) :=
            call_requestStep hi hf
          exact absurd hb' (hu.admin _ r' (.inl hcall) (hx ▸ hr'))
      | _ => exact hallows.elim
    · have hget := serve_getRecover hres
      obtain ⟨hp, -, hcopy⟩ := h.recovers y r hget hb
      have hkey : r.msgID = y := Table.key_of_get hget
      refine ⟨?_, hp, hkey.trans hcopy.msgID_eq⟩
      have hres' : (s.serve raises found (.getRecover y)).1 = .ok (some r) := hres
      simp only [Activation.answer, hres']
      cases act₀.state <;> rfl

end

omit [BusinessMsg B] in
theorem Tracked.of_same (h : Tracked b q p k x s) (hs : Same b s s')
    (hpends : ∀ m, s'.Pends m → m.businessMsg ≠ b)
    (hheld : ∀ j rows r, s'.Held j rows → r ∈ rows → r.businessMsg ≠ b)
    (hreq : ∀ i act r, s'.requests i = some act → act.state.record = some r → r.businessMsg = b →
      act.state = .got r ∧ p = .recover ∧ r.msgID = x) : Tracked b q p k x s' where
  queued m hm hb := h.queued m ((hs.retryQueues m hb).mp hm) hb
  atMostOne := hs.atMostOne h.atMostOne
  pends := hpends
  task i r hi hb := h.task i r ((hs.task i r hb).mp hi) hb
  worker w r hw hb := h.worker w r ((hs.worker w r hb).mp hw) hb
  held := hheld
  requests := hreq
  rows y r hr hb := h.rows y r ((hs.intervalRetry y r hb).mp hr) hb
  recovers y r hr hb := h.recovers y r ((hs.recover y r hb).mp hr) hb
  row hx hp := by
    obtain ⟨r, hr, hb⟩ := h.row hx hp
    exact ⟨r, (hs.intervalRetry x r hb).mpr hr, hb⟩
  recover hp := by
    obtain ⟨r, hr, hb⟩ := h.recover hp
    exact ⟨r, (hs.recover x r hb).mpr hr, hb⟩
  id := h.id
  carried := by
    have hcarried := h.carried
    cases p with
    | retryQueue =>
        obtain ⟨m, hm, hb⟩ := hcarried
        exact ⟨m, (hs.retryQueues m hb).mpr hm, hb⟩
    | task i =>
        obtain ⟨r, hi, hb⟩ := hcarried
        exact ⟨r, (hs.task i r hb).mpr hi, hb⟩
    | worker w =>
        obtain ⟨r, hw, hb⟩ := hcarried
        exact ⟨r, (hs.worker w r hb).mpr hw, hb⟩
    | _ => trivial

/-! ### From the row to the retry queue -/

section
variable {i w : Nat} {y : Int} {r : IntervalRetry B} {raises found : Bool}

/-- A poll thread checks the row out. -/
theorem Tracked.checkOut (h : Tracked b q p k x s) (hst : Stepped cfg s (.checkOut i false) s')
    (hi : s.pollers i = .selected r) (hb : r.businessMsg = b)
    (hids : IdsAgree s (.checkOut i false)) {row : IntervalRetry B}
    (hrow : s.tables.intervalRetry.get r.msgID = some row) (hto : row.retryState = .toRetry)
    (hk : row.retriedTimes = r.retriedTimes) :
    p = .toRetry ∧ Tracked b q (.task i) k x s' := by
  -- the row has the content and the queue that the poll thread has selected
  obtain ⟨hq, hb'⟩ := hids.records _ _ _ _ _ (.interval hrow) (.polled (.inl hi) rfl rfl rfl)
  obtain ⟨-, hpos, hcopy, hwaits⟩ := h.rows _ row hrow (hb'.trans hb)
  have hp : p = .toRetry := by
    have hw := hwaits.mp hto
    cases p with
    | toRetry => rfl
    | _ => exact hw.elim
  subst hp
  obtain rfl : r.msgID = x := hcopy.msgID_eq
  refine ⟨rfl, ?_⟩
  have hres := checkOutResult_eq (s := s) (r := r) hpos
  simp only [hrow, Option.any_some, hto, decide_true] at hres
  have hpends : ∀ m, s'.Pends m → s.Pends m := by
    intro m hm
    refine (hst.pends_inv hm).resolve_right fun hp => ?_
    cases hp
  cases hst with
  | @checkOut _ _ r₀ hi₀ =>
      obtain rfl : r = r₀ := Poller.selected.inj (hi.symm.trans hi₀)
      rw [hres] at hpends ⊢
      have hrows : ∀ y' r', (s.tables.intervalRetry.update r.msgID
          (IntervalRetryDAO.checkedOut s.currentTimestamp)
          (IntervalRetryDAO.checkedOut_msgID _)).get y' = some r' → r'.businessMsg = b →
          y' = r.msgID ∧ r' = IntervalRetryDAO.checkedOut s.currentTimestamp row := by
        intro y' r' hr' hb'
        rw [Table.get_update] at hr'
        split at hr'
        · next he =>
            rw [hrow] at hr'
            cases hr'
            exact ⟨he, rfl⟩
        · next he => exact absurd (h.rows y' r' hr' hb').2.2.1.msgID_eq he
      have hout : IntervalRetryDAO.checkedOut s.currentTimestamp row =
          { row with
            retryState := .inRetry, checkoutAt := some s.currentTimestamp
            updatedAt := some s.currentTimestamp } := by
        simp only [IntervalRetryDAO.checkedOut, hto, if_true]
      exact {
        queued := fun m hm hb => by cases (h.queued m hm hb).1
        atMostOne := h.atMostOne
        pends := fun m hm => h.pends m (hpends m hm)
        task := fun j r' hj hb' => by
          by_cases he : j = i
          · subst he
            simp only [Function.update_self, if_true, Poller.task.injEq] at hj
            subst hj
            exact ⟨rfl, rfl, hq.symm.trans hcopy.retryQueueName_eq,
              hk ▸ hcopy.retriedTimes_eq⟩
          · simp only [Function.update_of_ne he] at hj
            cases (h.task j r' hj hb').1
        worker := fun v r' hv hb' => by cases (h.worker v r' hv hb').1
        held := h.held
        requests := fun j act r' hj hr' hb' => by cases (h.requests j act r' hj hr' hb').2.1
        rows := fun y' r' hr' hb' => by
          obtain ⟨rfl, rfl⟩ := hrows y' r' hr' hb'
          rw [hout]
          exact ⟨fun hp => (by cases hp), hpos, hcopy, fun hp => (by cases hp), False.elim⟩
        recovers := fun y' r' hr' hb' => by cases (h.recovers y' r' hr' hb').1
        row := fun _ _ => by
          refine ⟨_, ?_, (congrArg (fun r => r.businessMsg) hout).trans (hb'.trans hb)⟩
          rw [Tables.setIntervalRetry_intervalRetry, Table.get_update, if_pos rfl, hrow]
          rfl
        recover := fun hp => by cases hp
        id := fun _ _ => hpos
        carried := ⟨r, Function.update_self .., hb⟩ }

/-- The poll thread hands its task to a worker. -/
theorem Tracked.dispatch (h : Tracked b q p k x s) (hst : Stepped cfg s (.dispatch i w) s')
    (hi : s.pollers i = .task r) (hb : r.businessMsg = b) :
    p = .task i ∧ Tracked b q (.worker w) k x s' := by
  obtain ⟨rfl, hcopy⟩ := h.task i r hi hb
  refine ⟨rfl, ?_⟩
  have hpends : ∀ m, s'.Pends m → s.Pends m := fun m hm => (hst.pends_inv hm).resolve_right nofun
  cases hst with
  | @dispatch _ _ r₀ hi₀ hw =>
      obtain rfl : r = r₀ := Poller.task.inj (hi.symm.trans hi₀)
      exact {
        queued := fun m hm hb => nomatch (h.queued m hm hb).1
        atMostOne := h.atMostOne
        pends := fun m hm => h.pends m (hpends m hm)
        task := fun j r' hj hb' => by
          by_cases he : j = i
          · subst he
            simp only [Function.update_self, reduceCtorEq] at hj
          · simp only [Function.update_of_ne he] at hj
            cases (h.task j r' hj hb').1
            exact absurd rfl he
        worker := fun v r' hv hb' => by
          by_cases he : v = w
          · subst he
            simp only [Function.update_self, Option.some.injEq] at hv
            exact ⟨rfl, hv ▸ hcopy⟩
          · simp only [Function.update_of_ne he] at hv
            exact nomatch (h.worker v r' hv hb').1
        held := h.held
        requests := fun j act r' hj hr' hb' => nomatch (h.requests j act r' hj hr' hb').2.1
        rows := fun y' r' hr' hb' => by
          obtain ⟨-, hpos', hcopy', hwaits'⟩ := h.rows y' r' hr' hb'
          exact ⟨nofun, hpos', hcopy', hwaits'⟩
        recovers := fun y' r' hr' hb' => nomatch (h.recovers y' r' hr' hb').1
        row := fun hx _ => h.row hx nofun
        recover := nofun
        id := fun _ _ => h.id nofun nofun
        carried := ⟨r, Function.update_self .., hb⟩ }

/-- The worker sends the message to its retry queue. -/
theorem Tracked.sendRetry (h : Tracked b q p k x s)
    (hst : Stepped cfg s (.sendRetry w true false) s') (hq : q ≠ "") (hw : s.workers w = some r)
    (hb : r.businessMsg = b) : p = .worker w ∧ Tracked b q .retryQueue k x s' := by
  obtain ⟨rfl, hcopy⟩ := h.worker w r hw hb
  refine ⟨rfl, ?_⟩
  have hpends : ∀ m, s'.Pends m → s.Pends m := fun m hm => (hst.pends_inv hm).resolve_right nofun
  have hname : r.retryQueueName ≠ "" := hcopy.retryQueueName_eq ▸ hq
  have hnone : ∀ m ∈ s.retryQueues, m.businessMsg ≠ b := fun m hm hb => nomatch (h.queued m hm hb).1
  cases hst with
  | @sendRetry _ _ _ r₀ hw₀ =>
      obtain rfl : r = r₀ := Option.some.inj (hw.symm.trans hw₀)
      simp only [hname, ne_eq, not_false_eq_true, decide_true, Bool.and_self, Bool.not_false,
        if_true] at hpends ⊢
      exact {
        queued := fun m hm hb => by
          rcases List.mem_append.mp hm with hm | hm
          · exact absurd hb (hnone m hm)
          · obtain rfl := List.mem_singleton.mp hm
            exact ⟨rfl, rfl, hcopy⟩
        atMostOne := h.atMostOne.append fun _ => hnone
        pends := fun m hm => h.pends m (hpends m hm)
        task := fun j r' hj hb' => nomatch (h.task j r' hj hb').1
        worker := fun v r' hv hb' => by
          by_cases he : v = w
          · subst he
            simp only [Function.update_self, reduceCtorEq] at hv
          · simp only [Function.update_of_ne he] at hv
            cases (h.worker v r' hv hb').1
            exact absurd rfl he
        held := h.held
        requests := fun j act r' hj hr' hb' => nomatch (h.requests j act r' hj hr' hb').2.1
        rows := fun y' r' hr' hb' => by
          obtain ⟨-, hpos', hcopy', hwaits'⟩ := h.rows y' r' hr' hb'
          exact ⟨nofun, hpos', hcopy', hwaits'⟩
        recovers := fun y' r' hr' hb' => nomatch (h.recovers y' r' hr' hb').1
        row := fun hx _ => h.row hx nofun
        recover := nofun
        id := fun _ hn => absurd rfl hn
        carried := ⟨_, List.mem_append_right _ (List.mem_singleton.mpr rfl), hb⟩ }

end

/-- **The center alone takes the message from its row to the retry queue**, one stop at a time. -/
theorem Tracked.step (h : Tracked b q p k x s) (hst : Stepped cfg s a s') (hc : RequestsConform s)
    (hq : q ≠ "") (hids : IdsAgree s a) (hi : Internal b s a) (hu : LeftAlone cfg b s a) :
    ∃ p', Tracked b q p' k x s' ∧
      (p' = p ∨ p.rank < p'.rank ∧ p'.rank ≤ Place.retryQueue.rank) := by
  by_cases hcon : Concerns cfg b s a
  · cases hcon with
    | message hm hb => exact absurd hb (hi.message _ _ hm)
    | failOver hb => exact absurd hb (hi.failOver _ rfl)
    | publish hb => exact absurd hb (hi.publish _ rfl)
    | deliver hn hb => exact absurd hb (hi.deliver _ _ rfl hn)
    | @checkOut i raises r hi₀ hb hto =>
        obtain ⟨rfl, hk⟩ := hu.checkOut _ _ _ rfl hi₀ hb
        obtain ⟨row, hrow, hto⟩ := hto.resolve_left Bool.false_ne_true
        obtain ⟨rfl, h'⟩ := h.checkOut hst hi₀ hb hids hrow hto (hk row hrow hto)
        exact ⟨_, h', .inr ⟨Nat.zero_lt_one, by simp [Place.rank]⟩⟩
    | dispatch hi₀ hb =>
        obtain ⟨rfl, h'⟩ := h.dispatch hst hi₀ hb
        exact ⟨_, h', .inr ⟨Nat.lt_succ_self 1, by simp [Place.rank]⟩⟩
    | sendRetry hw hb =>
        obtain ⟨rfl, rfl⟩ := hu.sendRetry _ _ _ _ rfl hw hb
        obtain ⟨rfl, h'⟩ := h.sendRetry hst hq hw hb
        exact ⟨_, h', .inr ⟨Nat.lt_succ_self 2, by simp [Place.rank]⟩⟩
    | readHouseKeep hrows hr hb => exact absurd hb (hu.houseKeep _ _ (.inl ⟨_, rfl⟩) hrows hr)
    | houseKeep hrows hr hb =>
        cases a with
        | moveHouseKeep j faults => exact absurd hb (h.held j _ _ (.inr hrows) hr)
        | houseKeepRound faults =>
            exact absurd hb (hu.houseKeep _ _ (.inr ⟨_, rfl⟩) hrows hr)
        | _ => cases hrows
    | admin hcall hr hb => exact absurd hb (hu.admin _ _ hcall hr)
    | send hcall hb =>
        cases hst with
        | @requestStep i raises found act op f hi₀ hf =>
            rw [call_requestStep hi₀ hf] at hcall
            cases hcall
            -- the record that a request sends is not one that it has only read
            obtain ⟨r, hready, -, rfl, -⟩ := requestProtocol_send ((hc i act hi₀).allows hf)
            have hgot := (h.requests i act r hi₀ (by rw [hready]; rfl) hb).1
            rw [hready] at hgot
            cases hgot
        | _ => cases hcall
  · exact ⟨p, h.of_same (hst.same hids hcon) (h.pends_step hst hi) (h.held_step hst hu)
      (h.requests_step hst hc hu), .inl rfl⟩

/-! ### Hand-overs between the center and a client -/

omit [BusinessMsg B] in
theorem State.Pends.congr (hm : s'.Pends m) (hq : s'.exceptionQueue = s.exceptionQueue)
    (ht : s'.eqTasks = s.eqTasks) (hw : s'.eqWorkers = s.eqWorkers) : s.Pends m := by
  cases hm with
  | queue hm => exact .queue (hq ▸ hm)
  | task hm => exact .task (ht ▸ hm)
  | worker hm => exact .worker (hw ▸ hm)

omit [BusinessMsg B] in
/-- A client gets the message. -/
theorem Tracked.deliver (h : Tracked b q p k x s) {n : Nat} (hn : s.retryQueues[n]? = some m)
    (hb : m.businessMsg = b) : p = .retryQueue ∧ m.isFromRecover = false ∧
      IsCopy q k x m.msgID m.retryQueueName m.retriedTimes ∧
      Tracked b q .away k x { s with retryQueues := s.retryQueues.eraseIdx n } := by
  obtain ⟨rfl, hrec, hcopy⟩ := h.queued m (List.mem_of_getElem? hn) hb
  refine ⟨rfl, hrec, hcopy, ?_⟩
  exact {
    queued := fun m' hm' hb' => absurd hb' (h.atMostOne.forall_eraseIdx hn hb m' hm')
    atMostOne := h.atMostOne.eraseIdx n
    pends := fun m' hm' => h.pends m' (hm'.congr rfl rfl rfl)
    task := fun j r' hj hb' => nomatch (h.task j r' hj hb').1
    worker := fun v r' hv hb' => nomatch (h.worker v r' hv hb').1
    held := h.held
    requests := fun j act r' hj hr' hb' => nomatch (h.requests j act r' hj hr' hb').2.1
    rows := fun y' r' hr' hb' => by
      obtain ⟨-, hpos', hcopy', hwaits'⟩ := h.rows y' r' hr' hb'
      exact ⟨nofun, hpos', hcopy', hwaits'⟩
    recovers := fun y' r' hr' hb' => nomatch (h.recovers y' r' hr' hb').1
    row := fun hx _ => h.row hx nofun
    recover := nofun
    id := fun hn _ => absurd rfl hn
    carried := trivial }

omit [BusinessMsg B] in
/-- A client sends a message that has no row to its retry queue. -/
theorem Tracked.publish (h : Tracked b q .away k 0 s) (hb : m.businessMsg = b)
    (hr : m.isFromRecover = false) (hcopy : IsCopy q k' 0 m.msgID m.retryQueueName m.retriedTimes) :
    Tracked b q .retryQueue k' 0 { s with retryQueues := s.retryQueues ++ [m] } := by
  have hnone : ∀ m ∈ s.retryQueues, m.businessMsg ≠ b := fun m hm hb => nomatch (h.queued m hm hb).1
  exact {
    queued := fun m' hm' hb' => by
      rcases List.mem_append.mp hm' with hm' | hm'
      · exact absurd hb' (hnone m' hm')
      · obtain rfl := List.mem_singleton.mp hm'
        exact ⟨rfl, hr, hcopy⟩
    atMostOne := h.atMostOne.append fun _ => hnone
    pends := fun m' hm' => h.pends m' (hm'.congr rfl rfl rfl)
    task := fun j r' hj hb' => nomatch (h.task j r' hj hb').1
    worker := fun v r' hv hb' => nomatch (h.worker v r' hv hb').1
    held := h.held
    requests := fun j act r' hj hr' hb' => nomatch (h.requests j act r' hj hr' hb').2.1
    rows := fun y' r' hr' hb' => absurd (h.rows y' r' hr' hb').2.1 (Int.lt_irrefl 0)
    recovers := fun y' r' hr' hb' => nomatch (h.recovers y' r' hr' hb').1
    row := fun hx _ => absurd hx (Int.lt_irrefl 0)
    recover := nofun
    id := fun _ hn => absurd rfl hn
    carried := ⟨m, List.mem_append_right _ (List.mem_singleton.mpr rfl), hb⟩ }

omit [BusinessMsg B] in
/-- A client has the message stored, in one of the tables. -/
theorem Tracked.store (h : Tracked b q .away k x s) {t : Tables B} {issued : List Int}
    (hp : p' = .toRetry ∨ p' = .recover) (hx : 0 < x')
    (hrows : ∀ y r, t.intervalRetry.get y = some r → r.businessMsg = b →
      p' = .toRetry ∧ r.retryState = .toRetry ∧
        IsCopy q k' x' y r.retryQueueName r.retriedTimes)
    (hrecs : ∀ y r, t.recover.get y = some r → r.businessMsg = b →
      p' = .recover ∧ r.recoverState = .toRecover ∧
        IsCopy q k' x' y r.retryQueueName r.retriedTimes)
    (hrow : p' = .toRetry → ∃ r, t.intervalRetry.get x' = some r ∧ r.businessMsg = b)
    (hrec : p' = .recover → ∃ r, t.recover.get x' = some r ∧ r.businessMsg = b) :
    Tracked b q p' k' x' { s with tables := t, issued := issued } where
  queued m' hm' hb' := nomatch (h.queued m' hm' hb').1
  atMostOne := h.atMostOne
  pends m' hm' := h.pends m' (hm'.congr rfl rfl rfl)
  task j r' hj hb' := nomatch (h.task j r' hj hb').1
  worker v r' hv hb' := nomatch (h.worker v r' hv hb').1
  held := h.held
  requests j act r' hj hr' hb' := nomatch (h.requests j act r' hj hr' hb').2.1
  rows y' r' hr' hb' := by
    obtain ⟨rfl, hstate, hcopy⟩ := hrows y' r' hr' hb'
    exact ⟨nofun, hx, hcopy, fun _ => trivial, fun _ => hstate⟩
  recovers := hrecs
  row _ hne := hrow (hp.resolve_right hne)
  recover := hrec
  id _ _ := hx
  carried := by rcases hp with rfl | rfl <;> trivial

section
variable {c : Call} (h : Tracked b q .away k x s) (hc : c.faults = []) (hb : m.businessMsg = b)
  (hcon : hasContent m.retryQueueName m.businessMsg = true) (hname : m.retryQueueName = q)
  (hk : m.retriedTimes.toInt = k')
include h hc hb hcon hname hk

/-- The first failure of interval retry: the message gets its row. -/
theorem Tracked.addIntervalRetry (hf : m.messageFlag = .intervalMsgDoRetry) (hid : m.msgID ≤ 0)
    (hx : x = 0) (hnew : 0 < c.newId) (hfresh : ¬ s.tables.Stored c.newId) :
    (MRFServiceImpl.process (s.env c) m s.tables).1 = .ok () ∧
      Tracked b q .toRetry k' c.newId (s.process c m) := by
  subst hx
  obtain ⟨u, hu⟩ := Table.insert_isSome (t := s.tables.intervalRetry)
    (r := IntervalRetryDAO.insertedRow (s.env c).currentTimestamp
      (newIntervalRetry (s.env c).newId m (nextExecAt (s.env c) m)))
    (not_not.mp fun hn => hfresh (.inl hn))
  have hp := process_addIntervalRetry (e := s.env c) hc hcon hf hid hnew hu
  refine ⟨congrArg Prod.fst hp, ?_⟩
  unfold State.process processed
  rw [hp]
  refine h.store (.inl rfl) hnew (fun y r hr hb' => ?_) (fun y r hr hb' => ?_) (fun _ => ?_) nofun
  · rcases Table.get_insert_inv hu hr with hr | ⟨rfl, rfl⟩
    · exact absurd (h.rows y r hr hb').2.1 (Int.lt_irrefl 0)
    · exact ⟨rfl, rfl, rfl, hname, hk⟩
  · exact nomatch (h.recovers y r hr hb').1
  · exact ⟨_, (Table.get_insert hu _).trans (if_pos rfl), hb⟩

/-- A later failure: the row is checked in. -/
theorem Tracked.checkin (hf : m.messageFlag = .intervalMsgDoRetry) (hid : m.msgID = x)
    (hpos : 0 < x) : (MRFServiceImpl.process (s.env c) m s.tables).1 = .ok () ∧
      Tracked b q .toRetry k' x (s.process c m) := by
  subst hid
  have hp := process_checkin (e := s.env c) (t := s.tables) hc hcon hf hpos
  refine ⟨congrArg Prod.fst hp, ?_⟩
  unfold State.process processed
  rw [hp]
  refine h.store (.inl rfl) hpos (fun y r hr hb' => ?_) (fun y r hr hb' => ?_) (fun _ => ?_)
    fun hp => by cases hp
  · rw [Tables.setIntervalRetry_intervalRetry, Table.get_update] at hr
    split at hr
    · next he =>
        obtain ⟨r₀, -, rfl⟩ := Option.map_eq_some_iff.mp hr
        exact ⟨rfl, rfl, he, hname, hk⟩
    · next he => exact absurd (h.rows y r hr hb').2.2.1.msgID_eq he
  · cases (h.recovers y r hr hb').1
  · obtain ⟨r₀, hr₀, -⟩ := h.row hpos fun hp => by cases hp
    simp only [Tables.setIntervalRetry_intervalRetry, Table.get_update, if_true, hr₀,
      Option.map_some]
    exact ⟨_, rfl, hb⟩

/-- The last failure of interval retry: the row moves to `recover`. -/
theorem Tracked.moveToRecover (hf : m.messageFlag = .intervalMsgDoRecover) (hid : m.msgID = x)
    (hpos : 0 < x) (hrec : s.tables.recover.get x = none) :
    (MRFServiceImpl.process (s.env c) m s.tables).1 = .ok () ∧
      Tracked b q .recover k' x (s.process c m) := by
  subst hid
  obtain ⟨r₀, hr₀, -⟩ := h.row hpos nofun
  obtain ⟨u, hu⟩ := Table.insert_isSome (t := s.tables.recover)
    (r := RecoverDAO.insertedRow (s.env c).currentTimestamp (newRecover m.msgID m)) hrec
  have hp := process_moveToRecover (e := s.env c) hc hcon hf hpos
    (by rw [hr₀]; exact Option.some_ne_none r₀) hu
  refine ⟨congrArg Prod.fst hp, ?_⟩
  unfold State.process processed
  rw [hp]
  refine h.store (.inr rfl) hpos (fun y r hr hb' => ?_) (fun y r hr hb' => ?_) nofun fun _ => ?_
  · obtain ⟨hne, hr⟩ := Table.get_delete_inv hr
    exact absurd (h.rows y r hr hb').2.2.1.msgID_eq hne
  · rcases Table.get_insert_inv hu hr with hr | ⟨rfl, rfl⟩
    · exact nomatch (h.recovers y r hr hb').1
    · exact ⟨rfl, rfl, rfl, hname, hk⟩
  · exact ⟨_, (Table.get_insert hu _).trans (if_pos rfl), hb⟩

/-- The last failure of immediate retry: the message gets a row of `recover`. -/
theorem Tracked.immediateToRecover (hf : m.messageFlag = .immediateMsgDoRecover) (hx : x = 0)
    (hnew : 0 < c.newId) (hfresh : ¬ s.tables.Stored c.newId) :
    (MRFServiceImpl.process (s.env c) m s.tables).1 = .ok () ∧
      Tracked b q .recover k' c.newId (s.process c m) := by
  subst hx
  obtain ⟨u, hu⟩ := Table.insert_isSome (t := s.tables.recover)
    (r := RecoverDAO.insertedRow (s.env c).currentTimestamp (newRecover (s.env c).newId m))
    (not_not.mp fun hn => hfresh (.inr hn))
  have hp := process_immediateToRecover (e := s.env c) hc hcon hf hnew hu
  refine ⟨congrArg Prod.fst hp, ?_⟩
  unfold State.process processed
  rw [hp]
  refine h.store (.inr rfl) hnew (fun y r hr hb' => ?_) (fun y r hr hb' => ?_) nofun fun _ => ?_
  · exact absurd (h.rows y r hr hb').2.1 (Int.lt_irrefl 0)
  · rcases Table.get_insert_inv hu hr with hr | ⟨rfl, rfl⟩
    · exact nomatch (h.recovers y r hr hb').1
    · exact ⟨rfl, rfl, rfl, hname, hk⟩
  · exact ⟨_, (Table.get_insert hu _).trans (if_pos rfl), hb⟩

end

end MRF.Center
