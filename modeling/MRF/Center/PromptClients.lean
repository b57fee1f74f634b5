import MRF.Center.Payload

/-!
# Center — PromptClients

The time a row is checked out for.  `checkout_at` is written when the poll thread picks the row,
which then waits for its `next_exec_at`, for a worker, and for its client.  The clock of the
database is exact here, and the clients are prompt: each answers within the threshold after its
retry message was put on the queue (`Prompt`).

`never_housekept`: no row is ever out of the threshold, as long as the clock does not go on while
the poll keeps a row that is checked out.  `late_read`: as soon as it does, the row can be.
-/

namespace MRF.Center
open MRF.Library State MRFMessageProcessService

variable {B : Type} [BusinessMsg B] {x : Int} {e : Env} {m : RetryMessage B} {t : Tables B}
  {cfg : MRFServerConfig} {s s' : State B} {a : Action B}

/-- The threshold of the house keeper, in the seconds that its query compares. -/
def MRFServerConfig.threshold (cfg : MRFServerConfig) : Int :=
  (cfg.houseKeepCheckoutTimeThreshold / 1000).toInt

theorem MRFServerConfig.threshold_nonneg (h : 0 < cfg.houseKeepCheckoutTimeThreshold) :
    0 ≤ cfg.threshold := by
  have hpos := Int64.lt_iff_toInt_lt.mp h
  rw [Int64.toInt_zero] at hpos
  have hthousand : ((1000 : Int64)).toInt = 1000 := rfl
  rw [threshold, Int64.toInt_div_of_ne_right _ _ (by decide), hthousand]
  exact Int.tdiv_nonneg (by omega) (by omega)

/-- The query of the house keeper compares exact times. -/
def MRFServerConfig.Exact (cfg : MRFServerConfig) : Prop := ∀ d, cfg.clock.number d = d

/-! ### Answers -/

/-- The id whose retry message an action puts on its queue, from `interval_retry`. -/
def retrySent (s : State B) (a : Action B) : Option Int :=
  match a with
  | .sendRetry _ _ _ => (s.puts a).map fun p => p.2.msgID
  | _ => none

/-- A client answers a retry message: it cleans the row, checks it in, or moves it to `recover`. -/
def isAnswer (m : RetryMessage B) : Bool :=
  0 < m.msgID && match m.messageFlag with
    | .cleanIntervalRetry | .intervalMsgDoRecover => true
    | .intervalMsgDoRetry => hasContent m.retryQueueName m.businessMsg
    | _ => false

/-- The id whose answer an action applies: the service returns. -/
def answered (s : State B) (a : Action B) : Option Int :=
  match s.message a with
  | some (c, m) =>
      if isAnswer m && (MRFServiceImpl.process (s.env c) m s.tables).1.isOk then some m.msgID
      else none
  | none => none

/-- The move to `recover` takes the row out of `interval_retry`. -/
theorem doIntervalMessageRecover_deletes {now : Datetime} {u u' : Session (Tables B)} {b : Bool}
    (hid : 0 < m.msgID) (h : JoinDAO.doIntervalMessageRecover now m u = .ok (b, u')) :
    u'.tables.intervalRetry.get m.msgID = none := by
  obtain ⟨deleted, u₁, h₁, h₂⟩ := Dao.bind_ok h
  rcases deleteIntervalRetry_ok h₁ with ⟨hle, -⟩ | ⟨-, -, rfl, ht₁⟩
  · omega
  · have hnone : u₁.tables.intervalRetry.get m.msgID = none := by
      rw [ht₁]
      exact Table.get_delete_eq_none.mpr (.inl rfl)
    cases hrow : (u.tables.intervalRetry.get m.msgID).isSome with
    | false =>
        simp only [hrow, Bool.false_eq_true, if_false] at h₂
        cases h₂
        exact hnone
    | true =>
        simp only [hrow, if_true] at h₂
        obtain ⟨b', u₂, h₂, h₃⟩ := Dao.bind_ok h₂
        cases h₃
        rcases addRecover_ok h₂ with ⟨-, rfl⟩ | ⟨-, v, -, ht₂⟩
        · exact hnone
        · rw [ht₂]
          exact hnone

/-- After an answer the row is not checked out. -/
theorem not_inRetry_of_answer (ha : isAnswer m = true)
    (hok : (MRFServiceImpl.process e m t).1.isOk = true) :
    ¬ (processed e m t).RetryStateIs m.msgID .inRetry := by
  obtain ⟨hid, ha⟩ := Bool.and_eq_true_iff.mp ha
  have hid : 0 < m.msgID := of_decide_eq_true hid
  rintro ⟨r, hr, hstate⟩
  -- a check-in leaves the row to be retried, every other answer takes it away
  by_cases hf : m.messageFlag = .intervalMsgDoRetry
  · rw [hf] at ha
    rw [processed_checkin_of_ok hok hf hid ha, Tables.setIntervalRetry_intervalRetry,
      Table.get_update, if_pos rfl] at hr
    obtain ⟨r₀, -, rfl⟩ := Option.map_eq_some_iff.mp hr
    cases hstate
  · suffices hnone : (processed e m t).intervalRetry.get m.msgID = none by
      rw [hnone] at hr
      cases hr
    unfold processed
    unfold MRFServiceImpl.process at hok ⊢
    rcases Dao.transactional_cases (MRFServiceImpl.handle e m) e.faults t with
      ⟨⟨⟩, u, hrun, ht⟩ | ⟨cause, ht⟩
    · rw [ht]
      cases hflag : m.messageFlag with
      | cleanIntervalRetry =>
          simp only [MRFServiceImpl.handle, hflag] at hrun
          obtain ⟨b, u₁, hrun, hret⟩ := Dao.bind_ok hrun
          cases hret
          rcases deleteIntervalRetry_ok hrun with ⟨hle, -⟩ | ⟨-, -, -, ht₁⟩
          · omega
          · change u.tables.intervalRetry.get m.msgID = none
            rw [ht₁]
            exact Table.get_delete_eq_none.mpr (.inl rfl)
      | intervalMsgDoRecover =>
          simp only [MRFServiceImpl.handle, hflag] at hrun
          obtain ⟨b, u₁, hrun, hret⟩ := Dao.bind_ok hrun
          cases hret
          exact doIntervalMessageRecover_deletes hid hrun
      | intervalMsgDoRetry => exact absurd hflag hf
      | _ =>
          rw [hflag] at ha
          cases ha
    · rw [ht] at hok
      cases hok

/-- An answer takes the row out of `IN_RETRY`. -/
theorem State.Stepped.answered_step (h : Stepped cfg s a s') (ha : answered s a = some x) :
    ¬ s'.tables.RetryStateIs x .inRetry := by
  unfold answered at ha
  split at ha
  · next c m hm =>
      split at ha
      · next hans =>
          cases ha
          obtain ⟨hans, hok⟩ := Bool.and_eq_true_iff.mp hans
          rw [h.tables_eq hm]
          exact not_inRetry_of_answer hans hok
      · cases ha
  · cases ha

/-! ### Rows that are checked out -/

/-- The poll has a task for `x`: a poll thread, or a worker. -/
inductive InPoll (x : Int) (s : State B) : Prop where
  | task {i : Nat} (h : HasTask x s i) : InPoll x s
  | worker {w : Nat} {r : IntervalRetry B} (h : s.workers w = some r) (hr : r.msgID = x) :
      InPoll x s

omit [BusinessMsg B] in
theorem InPoll.congr (hx : InPoll x s) (hp : s'.pollers = s.pollers) (hw : s'.workers = s.workers) :
    InPoll x s' := by
  cases hx with
  | task h =>
      obtain ⟨r, hi, hr⟩ := h
      exact .task ⟨r, hp ▸ hi, hr⟩
  | worker h hr => exact .worker (hw ▸ h) hr

/-- The poll keeps the row of `x`, which is checked out. -/
structure Keeps (s : State B) (x : Int) : Prop where
  inRetry : s.tables.RetryStateIs x .inRetry
  inPoll : InPoll x s

/-- No message makes a row `IN_RETRY`. -/
theorem Applied.inRetry_inv {t' : Tables B} (h : Applied e m t t') {r : IntervalRetry B}
    (hr : t'.intervalRetry.get x = some r) (hstate : r.retryState = .inRetry) :
    t.intervalRetry.get x = some r := by
  cases h with
  | cleanIntervalRetry hf => exact (Table.get_delete_inv hr).2
  | checkin hf hid hcon =>
      rw [Tables.setIntervalRetry_intervalRetry, Table.get_update] at hr
      rcases Table.update_inv hr with hr | ⟨-, r₀, -, rfl⟩
      · exact hr
      · cases hstate
  | addIntervalRetry hf hid hnew hcon hu =>
      rcases Table.get_insert_inv hu hr with hr | ⟨-, rfl⟩
      · exact hr
      · cases hstate
  | moveToRecover hf hid hrow hcon hu => exact (Table.get_delete_inv hr).2
  | moveToNowhere hf hid hrow hcon => exact (Table.get_delete_inv hr).2
  | _ => exact hr

omit [BusinessMsg B] in
theorem State.checkOutResult_of_le {r : IntervalRetry B} {raises : Bool} (hid : r.msgID ≤ 0) :
    s.checkOutResult r raises = (false, s.tables) := by
  simp only [checkOutResult, IntervalRetryDAO.checkOutIntervalRetry, if_pos hid]
  rfl

omit [BusinessMsg B] in
theorem State.checkOutResult_raises (r : IntervalRetry B) :
    (s.checkOutResult r true).2 = s.tables := by
  by_cases hid : r.msgID ≤ 0
  · rw [checkOutResult_of_le hid]
  · simp only [checkOutResult, IntervalRetryDAO.checkOutIntervalRetry, if_neg hid]
    rfl

/-- A row is checked out by a poll thread, which has a task for it from then on. -/
theorem State.Stepped.inRetry_inv (h : Stepped cfg s a s') {r : IntervalRetry B}
    (hr : s'.tables.intervalRetry.get x = some r) (hstate : r.retryState = .inRetry) :
    s.tables.intervalRetry.get x = some r ∨
      r.checkoutAt = some s.currentTimestamp ∧ InPoll x s' ∧
        s'.currentTimestamp = s.currentTimestamp := by
  cases hm : s.message a with
  | some p =>
      obtain ⟨c, m⟩ := p
      rw [h.tables_eq hm] at hr
      exact .inl ((processed_applied (s.env c) m s.tables).inRetry_inv hr hstate)
  | none =>
      by_cases hc : ∃ i raises, a = .checkOut i raises
      · obtain ⟨i, raises, rfl⟩ := hc
        cases h with
        | @checkOut _ _ r₀ hi =>
            dsimp only at hr
            cases raises with
            | true => exact .inl (checkOutResult_raises r₀ ▸ hr)
            | false =>
                by_cases hid : 0 < r₀.msgID
                · rw [checkOutResult_eq hid, Tables.setIntervalRetry_intervalRetry,
                    Table.get_update] at hr
                  rcases Table.update_inv hr with hr | ⟨rfl, old, hold, rfl⟩
                  · exact .inl hr
                  · unfold IntervalRetryDAO.checkedOut at hstate ⊢
                    split at hstate
                    · next hto =>
                        have hres : (s.checkOutResult r₀ false).1 = true := by
                          rw [checkOutResult_eq hid]
                          exact (Option.any_eq_true _ _).mpr ⟨old, hold, decide_eq_true hto⟩
                        refine .inr ⟨by rw [if_pos hto], .task (i := i) ⟨r₀, ?_, rfl⟩, rfl⟩
                        simp only [Function.update_self, hres, if_true]
                    · next hto => exact .inl (by rw [if_neg hto]; exact hold)
                · rw [checkOutResult_of_le (Int.not_lt.mp hid)] at hr
                  exact .inl hr
      · left
        generalize ht : s'.tables = t' at hr
        have hw := ht ▸ h.wrote
        cases hw with
        | applied hm' =>
            rw [hm] at hm'
            cases hm'
        | checkOut ha => exact absurd ⟨_, _, ha⟩ hc
        | houseKept hb hu => exact (Table.get_deleteAll_inv hr).2
        | _ => exact hr

/-- The poll keeps a task until it sends it. -/
theorem State.Stepped.inPoll_step (h : Stepped cfg s a s') (hx : InPoll x s) :
    InPoll x s' ∨ ∃ w found raises r, a = .sendRetry w found raises ∧ s.workers w = some r ∧
      r.msgID = x := by
  cases hx with
  | @task i htask =>
      obtain ⟨r, hi, hr⟩ := htask
      left
      cases h with
      | @select j y r' hj hrow hu =>
          have hne : i ≠ j := by
            rintro rfl
            rw [hi] at hj
            cases hj
          exact .task ⟨r, (Function.update_of_ne hne ..).trans hi, hr⟩
      | @checkOut j raises r' hj =>
          have hne : i ≠ j := by
            rintro rfl
            rw [hi] at hj
            cases hj
          exact .task ⟨r, (Function.update_of_ne hne ..).trans hi, hr⟩
      | @dispatch j w r' hj hw =>
          by_cases he : i = j
          · subst he
            rw [hi] at hj
            cases hj
            exact .worker (Function.update_self ..) hr
          · exact .task ⟨r, (Function.update_of_ne he ..).trans hi, hr⟩
      | @requestStep j raises found act op k hj hk =>
          obtain ⟨t, q, hs⟩ := serve_snd (s := s) raises found op
          refine .task (i := i) ⟨r, ?_, hr⟩
          simp only [hs]
          exact hi
      | _ => exact .task ⟨r, hi, hr⟩
  | @worker w r hw hr =>
      cases h with
      | @dispatch j v r' hj hv =>
          have hne : w ≠ v := by
            rintro rfl
            rw [hw] at hv
            cases hv
          exact .inl (.worker ((Function.update_of_ne hne ..).trans hw) hr)
      | @sendRetry v found raises r' hv =>
          by_cases he : w = v
          · subst he
            rw [hw] at hv
            cases hv
            exact .inr ⟨w, found, raises, r, rfl, hw, hr⟩
          · exact .inl (.worker ((Function.update_of_ne he ..).trans hw) hr)
      | @requestStep j raises found act op k hj hk =>
          obtain ⟨t, q, hs⟩ := serve_snd (s := s) raises found op
          refine .inl (.worker (w := w) ?_ hr)
          simp only [hs]
          exact hw
      | _ => exact .inl (.worker hw hr)

/-- The poll has a task since a poll thread has checked the row out, or since its check-out
raised. -/
theorem State.Stepped.inPoll_inv (h : Stepped cfg s a s') (hx : InPoll x s') :
    InPoll x s ∨ ∃ i raises r, a = .checkOut i raises ∧ s.pollers i = .selected r ∧ r.msgID = x ∧
      (s.checkOutResult r raises).1 = true := by
  cases hx with
  | @task i htask =>
      obtain ⟨r, hi, hr⟩ := htask
      rcases h.task_inv hi with hi₀ | ⟨raises, ha, hsel, hres⟩
      · exact .inl (.task ⟨r, hi₀, hr⟩)
      · exact .inr ⟨i, raises, r, ha, hsel, hr, hres⟩
  | worker hw hr =>
      rcases h.workers_inv hw with ⟨hw₀, -⟩ | ⟨i, -, hi⟩
      · exact .inl (.worker hw₀ hr)
      · exact .inl (.task ⟨_, hi, hr⟩)

omit [BusinessMsg B] in
theorem State.checkOutResult_pos {r : IntervalRetry B} {raises : Bool}
    (h : (s.checkOutResult r raises).1 = true) : 0 < r.msgID := by
  by_contra hid
  rw [checkOutResult_of_le (Int.not_lt.mp hid)] at h
  cases h

/-- Only a tick moves the clock. -/
theorem State.Stepped.clock_eq (h : Stepped cfg s a s') :
    s'.currentTimestamp = s.currentTimestamp ∨ ∃ n, a = .tick n := by
  cases h with
  | tick n => exact .inr ⟨n, rfl⟩
  | @requestStep i raises found act op k hi hk =>
      obtain ⟨t, q, hs⟩ := serve_snd (s := s) raises found op
      left
      simp only [hs]
  | _ => exact .inl rfl

/-- A row goes by a clean or by a move for its id. -/
theorem Applied.intervalRetry_stays {t' : Tables B} (h : Applied e m t t')
    (hx : t.intervalRetry.get x ≠ none) : t'.intervalRetry.get x ≠ none ∨
      x = m.msgID ∧ (m.messageFlag = .cleanIntervalRetry ∨
        m.messageFlag = .intervalMsgDoRecover) := by
  by_cases hm : x = m.msgID ∧
      (m.messageFlag = .cleanIntervalRetry ∨ m.messageFlag = .intervalMsgDoRecover)
  · exact .inr hm
  · left
    cases h with
    | cleanIntervalRetry hf =>
        exact fun hn => (Table.get_delete_eq_none.mp hn).elim (fun he => hm ⟨he, .inl hf⟩) hx
    | checkin hf hid hcon =>
        rw [Tables.setIntervalRetry_intervalRetry, ne_eq, Table.get_update_eq_none]
        exact hx
    | addIntervalRetry hf hid hnew hcon hu =>
        exact fun hn => hx ((Table.get_insert_eq_none hu).mp hn).2
    | moveToRecover hf hid hrow hcon hu =>
        exact fun hn => (Table.get_delete_eq_none.mp hn).elim (fun he => hm ⟨he, .inr hf⟩) hx
    | moveToNowhere hf hid hrow hcon =>
        exact fun hn => (Table.get_delete_eq_none.mp hn).elim (fun he => hm ⟨he, .inr hf⟩) hx
    | _ => exact hx

/-- A row stays until a client takes it away, or a house keeper. -/
theorem State.Wrote.intervalRetry_stays {t' : Tables B} (h : Wrote cfg s a t')
    (hx : s.tables.intervalRetry.get x ≠ none) : t'.intervalRetry.get x ≠ none ∨
      (∃ c m, s.message a = some (c, m) ∧ x = m.msgID ∧
        (m.messageFlag = .cleanIntervalRetry ∨ m.messageFlag = .intervalMsgDoRecover)) ∨
      ∃ rows, s.batch cfg a = some rows := by
  cases h with
  | applied hm h => exact (h.intervalRetry_stays hx).imp_right fun hx => .inl ⟨_, _, hm, hx⟩
  | checkOut ha hr =>
      left
      rw [Tables.setIntervalRetry_intervalRetry, ne_eq, Table.get_update_eq_none]
      exact hx
  | houseKept hb hu => exact .inr (.inr ⟨_, hb⟩)
  | _ => exact .inl hx

/-! ### Prompt clients -/

/-- The center, with the retry messages that were put on their queues and wait for an answer: the
ids, and when it was. -/
structure Timed (B : Type) where
  center : State B
  awaited : List (Int × Datetime)

namespace Timed

variable {w w' : Timed B}

/-- What is sent is awaited from now on, and what is answered no longer. -/
def awaitedAfter (w : Timed B) (a : Action B) : List (Int × Datetime) :=
  match retrySent w.center a with
  | some x => (x, w.center.currentTimestamp) :: w.awaited
  | none =>
      match answered w.center a with
      | some x => w.awaited.filter fun p => p.1 ≠ x
      | none => w.awaited

/-- One step of the center, with what is awaited. -/
def step (cfg : MRFServerConfig) (w : Timed B) (a : Action B) : Option (Timed B) :=
  (w.center.step cfg a).map fun s' => ⟨s', w.awaitedAfter a⟩

/-- Sends do not fail, and no answer is applied later than the threshold after its message was put
on the queue. -/
structure Prompt (cfg : MRFServerConfig) (w : Timed B) (a : Action B) : Prop where
  sends : ∀ v found raises r, a = .sendRetry v found raises → w.center.workers v = some r →
    retrySent w.center a = some r.msgID
  answers : ∀ n : Nat, a = .tick n → ∀ p ∈ w.awaited,
    w.center.currentTimestamp + n ≤ p.2 + cfg.threshold

/-- The clock does not go on while the poll keeps a row that is checked out. -/
def SendsAtOnce (w : Timed B) (a : Action B) : Prop :=
  ∀ n, a = .tick n → 0 < n → ∀ x, ¬ Keeps w.center x

/-- A center that starts: no thread has anything.  A row that is checked out already had its retry
message put on the queue in the second of its check-out, and its client is not late. -/
structure Started (cfg : MRFServerConfig) (w : Timed B) : Prop where
  pollers : ∀ i, w.center.pollers i = .idle
  workers : ∀ v, w.center.workers v = none
  houseKeepers : ∀ k, w.center.houseKeepers k = ⟨none, none⟩
  sent : ∀ x r, w.center.tables.intervalRetry.get x = some r → r.retryState = .inRetry →
    ∃ c, r.checkoutAt = some c ∧ (x, c) ∈ w.awaited
  prompt : ∀ p ∈ w.awaited, w.center.currentTimestamp ≤ p.2 + cfg.threshold
  awaited_pos : ∀ p ∈ w.awaited, 0 < p.1

/-- A row that is checked out is in the poll, in the second of its check-out, or its message was put
on the queue in that second. -/
structure OnTime (cfg : MRFServerConfig) (w : Timed B) : Prop where
  noBatch : ∀ k rows, ¬ w.center.Held k rows
  leased : ∀ x r, w.center.tables.intervalRetry.get x = some r → r.retryState = .inRetry →
    ∃ c, r.checkoutAt = some c ∧
      (InPoll x w.center ∧ c = w.center.currentTimestamp ∨ (x, c) ∈ w.awaited)
  deadline : 0 < cfg.houseKeepCheckoutTimeThreshold →
    ∀ p ∈ w.awaited, w.center.currentTimestamp ≤ p.2 + cfg.threshold
  inPoll_pos : ∀ x, InPoll x w.center → 0 < x
  awaited_pos : ∀ p ∈ w.awaited, 0 < p.1

omit [BusinessMsg B] in
theorem Started.not_inPoll (h : Started cfg w) : ¬ InPoll x w.center := by
  intro hx
  cases hx with
  | @task i htask =>
      obtain ⟨r, hi, -⟩ := htask
      rw [h.pollers i] at hi
      cases hi
  | @worker v r hv =>
      rw [h.workers v] at hv
      cases hv

omit [BusinessMsg B] in
/-- At the start all rows are on time. -/
theorem Started.onTime (h : Started cfg w) : OnTime cfg w where
  noBatch k rows hk := by
    unfold State.Held at hk
    rw [h.houseKeepers k] at hk
    exact hk.elim nofun nofun
  leased x r hr hstate := by
    obtain ⟨c, hc, hmem⟩ := h.sent x r hr hstate
    exact ⟨c, hc, .inr hmem⟩
  deadline _ := h.prompt
  inPoll_pos x hx := absurd hx h.not_inPoll
  awaited_pos := h.awaited_pos

namespace OnTime

omit [BusinessMsg B] in
/-- The house keeper finds nothing. -/
theorem nothing (hw : OnTime cfg w) (hclock : cfg.Exact) : w.center.outOfThreshold cfg = none := by
  cases hread : w.center.outOfThreshold cfg with
  | none => rfl
  | some rows =>
      obtain ⟨hsel, hne⟩ := Option.filter_eq_some_iff.mp hread
      unfold IntervalRetryDAO.getIntervalRetriesOutOfThreshold at hsel
      split at hsel
      · cases hsel
      · next hpos =>
          have hpos : 0 < cfg.houseKeepCheckoutTimeThreshold := Int64.not_le.mp hpos
          cases hsel
          obtain ⟨r, hr⟩ := List.exists_mem_of_ne_nil _ (by simpa using hne)
          obtain ⟨hrow, hout⟩ := Table.mem_select.mp hr
          simp only [IntervalRetryDAO.isOutOfThreshold, Bool.and_eq_true, decide_eq_true_eq,
            Option.any_eq_true] at hout
          obtain ⟨hstate, c, hc, hlt⟩ := hout
          rw [hclock, hclock] at hlt
          obtain ⟨c', hc', hleased⟩ := hw.leased _ r hrow hstate
          rw [hc] at hc'
          cases hc'
          have hle : w.center.currentTimestamp ≤ c + cfg.threshold := by
            rcases hleased with ⟨-, rfl⟩ | hmem
            · exact Int.le_add_of_nonneg_right (MRFServerConfig.threshold_nonneg hpos)
            · exact hw.deadline hpos _ hmem
          exact absurd hlt (Int.not_lt.mpr hle)

end OnTime

/-- What is not answered is awaited further on. -/
theorem mem_awaitedAfter {p : Int × Datetime} (hp : p ∈ w.awaited)
    (ha : answered w.center a ≠ some p.1) : p ∈ w.awaitedAfter a := by
  unfold awaitedAfter
  split
  · exact List.mem_cons_of_mem _ hp
  · split
    · next y hy =>
        refine List.mem_filter.mpr ⟨hp, decide_eq_true ?_⟩
        rintro rfl
        exact ha hy
    · exact hp

/-- What is awaited was so before, or has just been sent. -/
theorem awaitedAfter_inv {p : Int × Datetime} (hp : p ∈ w.awaitedAfter a) :
    p ∈ w.awaited ∨ retrySent w.center a = some p.1 ∧ p.2 = w.center.currentTimestamp := by
  unfold awaitedAfter at hp
  split at hp
  · next y hy =>
      rcases List.mem_cons.mp hp with rfl | hp
      · exact .inr ⟨hy, rfl⟩
      · exact .inl hp
  · split at hp
    · exact .inl (List.mem_filter.mp hp).1
    · exact .inl hp

omit [BusinessMsg B] in
/-- What is sent is a task of a worker. -/
theorem retrySent_inv (h : retrySent s a = some x) :
    ∃ v found raises r, a = .sendRetry v found raises ∧ s.workers v = some r ∧ r.msgID = x := by
  cases a with
  | sendRetry v found raises =>
      obtain ⟨⟨k, m⟩, hput, rfl⟩ := Option.map_eq_some_iff.mp h
      obtain ⟨r, hr, hput⟩ := Option.bind_eq_some_iff.mp hput
      obtain ⟨-, rfl⟩ := sentRetry_eq_some hput
      exact ⟨v, found, raises, r, rfl, hr, rfl⟩
  | _ => cases h

/-- **A step keeps the rows on time.** -/
theorem OnTime.step (hw : OnTime cfg w) (hclock : cfg.Exact) (h : w.step cfg a = some w')
    (hp : Prompt cfg w a) (hk : SendsAtOnce w a) : OnTime cfg w' := by
  obtain ⟨s', hs, rfl⟩ := Option.map_eq_some_iff.mp h
  have hst := step_stepped hs
  refine ⟨fun k rows hheld => ?_, fun x r hr hstate => ?_, fun hpos p hmem => ?_, fun x hx => ?_,
    fun p hmem => ?_⟩
  · rcases hst.held hheld with hheld | ⟨hheld, -⟩ | ⟨-, hread⟩
    · exact hw.noBatch k rows (.inl hheld)
    · exact hw.noBatch k rows (.inr hheld)
    · rw [hw.nothing hclock] at hread
      cases hread
  · rcases hst.inRetry_inv hr hstate with hr₀ | ⟨hc, hin, hnow⟩
    · obtain ⟨c, hc, hleased⟩ := hw.leased x r hr₀ hstate
      refine ⟨c, hc, ?_⟩
      rcases hleased with ⟨hin, rfl⟩ | hmem
      · rcases hst.inPoll_step hin with hin' | ⟨v, found, raises, r', rfl, hv, rfl⟩
        · refine .inl ⟨hin', ?_⟩
          rcases hst.clock_eq with hnow | ⟨n, rfl⟩
          · exact hnow.symm
          · -- the poll keeps the row, so the clock stands still
            obtain rfl : n = 0 := by
              by_contra hn
              exact hk n rfl (Nat.pos_of_ne_zero hn) x ⟨⟨r, hr₀, hstate⟩, hin⟩
            cases hst
            exact (Int.add_zero _).symm
        · have hsent := hp.sends v found raises r' rfl hv
          simp only [awaitedAfter, hsent]
          exact .inr List.mem_cons_self
      · exact .inr (mem_awaitedAfter hmem fun ha => hst.answered_step ha ⟨r, hr, hstate⟩)
    · exact ⟨_, hc, .inl ⟨hin, hnow.symm⟩⟩
  · rcases awaitedAfter_inv hmem with hmem | ⟨hsent, hnow⟩
    · rcases hst.clock_eq with he | ⟨n, rfl⟩
      · exact he ▸ hw.deadline hpos p hmem
      · cases hst
        exact hp.answers n rfl p hmem
    · have he : s'.currentTimestamp = w.center.currentTimestamp := by
        rcases hst.clock_eq with he | ⟨n, rfl⟩
        · exact he
        · cases hsent
      rw [hnow, he]
      exact Int.le_add_of_nonneg_right (MRFServerConfig.threshold_nonneg hpos)
  · rcases hst.inPoll_inv hx with hx | ⟨i, raises, r, rfl, -, rfl, hres⟩
    · exact hw.inPoll_pos x hx
    · exact checkOutResult_pos hres
  · rcases awaitedAfter_inv hmem with hmem | ⟨hsent, -⟩
    · exact hw.awaited_pos p hmem
    · obtain ⟨v, found, raises, r, -, hv, hr⟩ := retrySent_inv hsent
      exact hw.inPoll_pos _ (.worker hv hr)

/-! ### Rows that the poll has -/

/-- Ids are issued and stored in order, no check-out raises, and a client does not take away a row
that the poll has. -/
structure InOrder (s : State B) (a : Action B) : Prop where
  ids : IssuedIds s a
  direct : NoDirectWhileRetried s a
  checkOut : CheckOutReturns s a
  answers : ∀ c m, s.message a = some (c, m) →
    m.messageFlag = .cleanIntervalRetry ∨ m.messageFlag = .intervalMsgDoRecover →
      ¬ InPoll m.msgID s

/-- What the poll has is in `interval_retry`. -/
structure Orderly (cfg : MRFServerConfig) (w : Timed B) : Prop where
  onTime : OnTime cfg w
  sound : Sound w.center
  present : ∀ x, InPoll x w.center → w.center.tables.intervalRetry.get x ≠ none

/-- A step keeps the rows in order. -/
theorem Orderly.step (hw : Orderly cfg w) (hclock : cfg.Exact) (h : w.step cfg a = some w')
    (hp : Prompt cfg w a) (hk : SendsAtOnce w a) (ho : InOrder w.center a) : Orderly cfg w' := by
  refine ⟨hw.onTime.step hclock h hp hk, ?_, fun x hx => ?_⟩
  · obtain ⟨s', hs, rfl⟩ := Option.map_eq_some_iff.mp h
    exact hw.sound.step hs ho.ids ho.direct
  · obtain ⟨s', hs, rfl⟩ := Option.map_eq_some_iff.mp h
    have hst := step_stepped hs
    rcases hst.inPoll_inv hx with hx | ⟨i, raises, r, rfl, hi, rfl, hres⟩
    · rcases hst.wrote.intervalRetry_stays (hw.present x hx) with hrow | ⟨c, m, hm, rfl, hf⟩ |
        ⟨rows, hb⟩
      · exact hrow
      · exact absurd hx (ho.answers c m hm hf)
      · cases a with
        | moveHouseKeep k faults => exact absurd (.inr hb) (hw.onTime.noBatch k rows)
        | houseKeepRound faults =>
            have hread : w.center.outOfThreshold cfg = some rows := hb
            rw [hw.onTime.nothing hclock] at hread
            cases hread
        | _ => cases hb
    · cases raises with
      | true => exact absurd rfl (ho.checkOut i)
      | false =>
          obtain ⟨-, row, hrow, -⟩ := checkOutResult_true hres
          cases hst with
          | checkOut hi' =>
              rw [hi] at hi'
              cases hi'
              dsimp only
              rw [hrow]
              exact Option.some_ne_none row

/-! ### Rows that are kept -/

/-- A client cleans the row. -/
def cleanOf (businessMsg : B) (msgID : Int) : RetryMessage B :=
  ⟨msgID, "", businessMsg, 0, 0, 0, .cleanIntervalRetry, false⟩

omit [BusinessMsg B] in
/-- A call of a client never makes a row late. -/
theorem prompt_process {c : Call} : Prompt cfg w (.process c m) :=
  ⟨fun _ _ _ _ ha => (nomatch ha), fun _ ha => (nomatch ha)⟩

/-- The clients can answer all that is awaited at once, and the poll and the other rows stay as
they are. -/
theorem answers_all (businessMsg : B) (n : Nat) {w : Timed B} (hlen : w.awaited.length ≤ n)
    (hpos : ∀ p ∈ w.awaited, 0 < p.1) :
    ∃ tr w', Run (Guarded (stepOf (step cfg)) (Prompt cfg)) w tr w' ∧ w'.awaited = [] ∧
      w'.center.currentTimestamp = w.center.currentTimestamp ∧
      w'.center.pollers = w.center.pollers ∧ w'.center.workers = w.center.workers ∧
      ∀ x, (∀ p ∈ w.awaited, p.1 ≠ x) →
        w'.center.tables.intervalRetry.get x = w.center.tables.intervalRetry.get x := by
  induction n generalizing w with
  | zero =>
      have hnil : w.awaited = [] := List.length_eq_zero_iff.mp (Nat.le_zero.mp hlen)
      exact ⟨[], w, .nil w, hnil, rfl, rfl, rfl, fun _ _ => rfl⟩
  | succ n ih =>
      obtain ⟨s, awaited⟩ := w
      cases awaited with
      | nil => exact ⟨[], _, .nil _, rfl, rfl, rfl, rfl, fun _ _ => rfl⟩
      | cons p ps =>
          have hp : 0 < p.1 := hpos p List.mem_cons_self
          -- the first message that is waited for is answered by its clean-up
          have hproc := process_cleanIntervalRetry (e := s.env ⟨0, 0, []⟩)
            (m := cleanOf businessMsg p.1) (t := s.tables) rfl rfl hp
          have hans : answered s (.process ⟨0, 0, []⟩ (cleanOf businessMsg p.1)) = some p.1 := by
            simp only [answered, State.message, hproc]
            simp [isAnswer, cleanOf, hp, Except.isOk, Except.toBool]
          have hstep : stepOf (step cfg) ⟨s, p :: ps⟩
              (.process ⟨0, 0, []⟩ (cleanOf businessMsg p.1))
              ⟨s.process ⟨0, 0, []⟩ (cleanOf businessMsg p.1), ps.filter fun q => q.1 ≠ p.1⟩ := by
            change some _ = some _
            simp [awaitedAfter, retrySent, hans]
          have hrest : (ps.filter fun q => q.1 ≠ p.1).length ≤ n :=
            (List.length_filter_le ..).trans (Nat.le_of_succ_le_succ hlen)
          obtain ⟨tr, w', hrun, hnil, hclock, hpollers, hworkers, hrows⟩ := ih
            (w := ⟨s.process ⟨0, 0, []⟩ (cleanOf businessMsg p.1), ps.filter fun q => q.1 ≠ p.1⟩)
            hrest (fun q hq => hpos q (List.mem_cons_of_mem _ (List.mem_filter.mp hq).1))
          refine ⟨_, w', .cons ⟨hstep, prompt_process⟩ hrun, hnil, hclock, hpollers, hworkers,
            fun x hx => ?_⟩
          have hne : ¬ x = (cleanOf businessMsg p.1).msgID := (hx p List.mem_cons_self).symm
          rw [hrows x fun q hq => hx q (List.mem_cons_of_mem _ (List.mem_filter.mp hq).1)]
          change (processed _ (cleanOf businessMsg p.1) s.tables).intervalRetry.get x = _
          rw [processed, hproc, Tables.setIntervalRetry_intervalRetry, Table.get_delete, if_neg hne]

/-- A row that the poll keeps can be read by a house keeper, and the poll has it still. -/
theorem late_read (hclock : cfg.Exact) (hpos : 0 < cfg.houseKeepCheckoutTimeThreshold)
    (hw : OnTime cfg w) (hx : Keeps w.center x) (hna : ∀ p ∈ w.awaited, p.1 ≠ x) {n : Nat}
    (hn : 0 < n) (hp : Prompt cfg w (.tick n)) :
    ∃ tr w', Run (Guarded (stepOf (step cfg)) (Prompt cfg)) w ((w, .tick n) :: tr) w' ∧
      InPoll x w'.center ∧ ∃ rows, w'.center.outOfThreshold cfg = some rows ∧
        ∃ r ∈ rows, r.msgID = x := by
  obtain ⟨⟨r, hr, hstate⟩, hin⟩ := hx
  obtain ⟨c, hc, hleased⟩ := hw.leased x r hr hstate
  obtain rfl : c = w.center.currentTimestamp :=
    hleased.elim And.right fun hmem => absurd rfl (hna _ hmem)
  have htick : stepOf (step cfg) w (.tick n)
      ⟨{ w.center with currentTimestamp := w.center.currentTimestamp + n }, w.awaited⟩ := rfl
  obtain ⟨tr, w₁, hrun, hnil, hnow, hpollers, hworkers, hrows⟩ := @answers_all B _ cfg
    r.businessMsg w.awaited.length
    ⟨{ w.center with currentTimestamp := w.center.currentTimestamp + n }, w.awaited⟩
    (Nat.le_refl _) hw.awaited_pos
  have hlate : stepOf (step cfg) w₁ (.tick cfg.threshold.toNat) ⟨{ w₁.center with
      currentTimestamp := w₁.center.currentTimestamp + cfg.threshold.toNat }, w₁.awaited⟩ := rfl
  have hrow : w₁.center.tables.intervalRetry.get x = some r := (hrows x hna).trans hr
  refine ⟨_, _, .cons ⟨htick, hp⟩ (hrun.trans (Run.one ⟨hlate, ?_, ?_⟩)), ?_, ?_⟩
  · exact fun _ _ _ _ ha => nomatch ha
  · rintro k - p hmem
    rw [hnil] at hmem
    cases hmem
  · exact hin.congr hpollers hworkers
  · have hout : IntervalRetryDAO.isOutOfThreshold cfg.clock
        (w₁.center.currentTimestamp + cfg.threshold.toNat)
        (cfg.houseKeepCheckoutTimeThreshold / 1000) r = true := by
      have hT := Int.toNat_of_nonneg (MRFServerConfig.threshold_nonneg hpos)
      have hlt : w.center.currentTimestamp + cfg.threshold <
          w.center.currentTimestamp + n + cfg.threshold :=
        Int.add_lt_add_right (Int.lt_add_of_pos_right _ (Int.natCast_pos.mpr hn)) _
      rw [hnow]
      simp only [IntervalRetryDAO.isOutOfThreshold, hstate, hc, hclock _, hT, Option.any_some,
        decide_true, Bool.true_and, decide_eq_true_eq]
      exact hlt
    have hmem : r ∈ w₁.center.tables.intervalRetry.select (IntervalRetryDAO.isOutOfThreshold
        cfg.clock (w₁.center.currentTimestamp + cfg.threshold.toNat)
        (cfg.houseKeepCheckoutTimeThreshold / 1000)) := by
      have hkey : Keyed.key r = x := Table.key_of_get hr
      exact Table.mem_select.mpr ⟨hkey ▸ hrow, hout⟩
    refine ⟨_, Option.filter_eq_some_iff.mpr ⟨if_neg (Int64.not_le.mpr hpos), ?_⟩, r, hmem,
      Table.key_of_get hr⟩
    simpa using List.ne_nil_of_mem hmem

/-- **Prompt clients are not housekept**, in every run from a start in which the clock does not go
on while the poll keeps a row that is checked out: the house keeper finds nothing.  When ids are in
order, no id that the poll has is in `recover`.  And as soon as the clock goes on while the poll
keeps a row, a house keeper can come to read it. -/
theorem never_housekept {w₀ : Timed B} {tr : List (Timed B × Action B)} (hclock : cfg.Exact)
    (hs : Started cfg w₀)
    (h : Run (Guarded (stepOf (step cfg)) fun w a => Prompt cfg w a ∧ SendsAtOnce w a) w₀ tr w) :
    w.center.outOfThreshold cfg = none ∧
      (Sound w₀.center → (∀ p ∈ tr, InOrder p.1.center p.2) →
        ∀ x, InPoll x w.center → w.center.tables.recover.get x = none) ∧
      ∀ x (n : Nat), 0 < cfg.houseKeepCheckoutTimeThreshold → Keeps w.center x →
        (∀ p ∈ w.awaited, p.1 ≠ x) → 0 < n → Prompt cfg w (.tick n) →
          ∃ tr w', Run (Guarded (stepOf (step cfg)) (Prompt cfg)) w ((w, .tick n) :: tr) w' ∧
            InPoll x w'.center ∧ ∃ rows, w'.center.outOfThreshold cfg = some rows ∧
              ∃ r ∈ rows, r.msgID = x := by
  have hw : OnTime cfg w := by
    refine h.invariant (I := OnTime cfg) ?_ hs.onTime
    rintro w a w' ⟨hstep, hp, hk⟩ hw
    exact hw.step hclock hstep hp hk
  refine ⟨hw.nothing hclock, fun hsound ho x hx => ?_, fun x n hpos hx hna hn hp => ?_⟩
  · have hrun := (h.to_guarded (G := fun w a => InOrder w.center a) ho).invariant
      (I := Orderly cfg) ?_ ⟨hs.onTime, hsound, fun x hx => absurd hx hs.not_inPoll⟩
    · exact (hrun.sound.disjoint x).resolve_left (hrun.present x hx)
    · rintro w a w' ⟨⟨hstep, hp, hk⟩, ho⟩ hw
      exact hw.step hclock hstep hp hk ho
  · exact late_read hclock hpos hw hx hna hn hp

/-! ### Samples -/

theorem exact_sample : MRFServerConfig.sample.Exact := fun _ => rfl

omit [BusinessMsg B] in
theorem started_empty : Started cfg ⟨(State.empty : State B), []⟩ where
  pollers _ := rfl
  workers _ := rfl
  houseKeepers _ := rfl
  sent _ _ hr := nomatch hr
  prompt _ hp := nomatch hp
  awaited_pos _ hp := nomatch hp

/-- Nothing is sent, and no time passes. -/
theorem quiet_run {actions : List (Action B)} (h : exec (step cfg) w actions = some w')
    (hq : ∀ a ∈ actions, (∀ n, a ≠ .tick n) ∧ ∀ v found raises, a ≠ .sendRetry v found raises) :
    Run (Guarded (stepOf (step cfg)) fun w a => Prompt cfg w a ∧ SendsAtOnce w a) w
      (trace (step cfg) w actions) w' := by
  refine (Run.of_exec h).to_guarded fun p hp => ?_
  obtain ⟨ht, hs⟩ := hq p.2 (mem_trace hp)
  exact ⟨⟨fun _ _ _ _ ha => absurd ha (hs _ _ _), fun n ha => absurd ha (ht n)⟩,
    fun n ha => absurd ha (ht n)⟩

omit [BusinessMsg B] in
/-- The poll has nothing while time passes. -/
theorem prompt_tick {n : Nat}
    (ha : ∀ p ∈ w.awaited, w.center.currentTimestamp + n ≤ p.2 + cfg.threshold)
    (hp : ∀ i, w.center.pollers i = .idle) (hw : ∀ v, w.center.workers v = none) :
    Prompt cfg w (.tick n) ∧ SendsAtOnce w (.tick n) := by
  refine ⟨⟨fun _ _ _ _ he => (nomatch he), fun k he => ?_⟩, ?_⟩
  · cases he
    exact ha
  · rintro k - - x ⟨-, hin⟩
    cases hin with
    | @task i h =>
        obtain ⟨r, hi, -⟩ := h
        rw [hp] at hi
        cases hi
    | worker h =>
        rw [hw] at h
        cases h

/-- A row that was checked out, and sent, before the center started. -/
def sentRow : IntervalRetry String :=
  { msgID := 7, retryQueueName := "feed_retry", businessMsg := "post 7", retryInterval := 5000,
    retriedTimes := 1, maxRetryTimes := 3, checkoutAt := some 0, updatedAt := none,
    createdAt := none, retryState := .inRetry, nextExecAt := 0 }

/-- A center that starts with a row that was sent in the second of its check-out. -/
def startedWithSent : Timed String where
  center := { State.empty with tables := ⟨⟨[sentRow], List.nodup_singleton _⟩, .empty⟩ }
  awaited := [(7, 0)]

/-- A row that is out at the start was sent in the second of its check-out. -/
theorem started_startedWithSent : Started .sample startedWithSent where
  pollers _ := rfl
  workers _ := rfl
  houseKeepers _ := rfl
  sent x r hr _ := by
    obtain ⟨hmem, rfl⟩ := Table.get_eq_some_iff.mp hr
    rw [List.mem_singleton.mp hmem]
    exact ⟨0, rfl, List.mem_singleton_self _⟩
  prompt p hp := by
    rw [List.mem_singleton.mp hp]
    decide
  awaited_pos p hp := by
    rw [List.mem_singleton.mp hp]
    decide

/-- The client of the row 7 answers after five seconds.  The row 1 is picked when it is due, sent at
once, and its client takes ten seconds. -/
theorem never_housekept_sample : ∃ tr w,
    Run (stepOf (step .sample)) startedWithSent tr w ∧
    w.center.currentTimestamp = 15 ∧ w.center.tables.intervalRetry.get 7 = none ∧
    w.center.tables.RetryStateIs 1 .inRetry ∧
    w.awaited = [(1, 5)] ∧ w.center.outOfThreshold .sample = none := by
  obtain ⟨w₁, h₁⟩ : ∃ w, exec (step .sample) startedWithSent
      [.process (.sample 1) (sampleMessage .intervalMsgDoRetry 0 "post 1")] = some w := ⟨_, rfl⟩
  obtain ⟨w₂, h₂⟩ : ∃ w, w₁.step .sample (.tick 5) = some w := ⟨_, rfl⟩
  obtain ⟨w₃, h₃⟩ : ∃ w, exec (step .sample) w₂
      [.process (.sample 2) (cleanOf "post 7" 7), .select 0 1, .checkOut 0 false,
        .dispatch 0 0] = some w := by
    cases h₁
    cases h₂
    exact ⟨_, rfl⟩
  obtain ⟨w₄, h₄⟩ : ∃ w, w₃.step .sample (.sendRetry 0 true false) = some w := by
    cases h₁
    cases h₂
    cases h₃
    exact ⟨_, rfl⟩
  obtain ⟨w₅, h₅⟩ : ∃ w, w₄.step .sample (.tick 10) = some w := ⟨_, rfl⟩
  have hg₂ : Prompt .sample w₁ (.tick 5) ∧ SendsAtOnce w₁ (.tick 5) := by
    cases h₁
    refine prompt_tick (fun p hp => ?_) (fun _ => rfl) fun _ => rfl
    cases List.mem_singleton.mp hp
    decide
  have hg₄ : Prompt .sample w₃ (.sendRetry 0 true false) ∧
      SendsAtOnce w₃ (.sendRetry 0 true false) := by
    refine ⟨⟨fun v found raises r ha hr => ?_, fun _ ha => (nomatch ha)⟩,
      fun _ ha => (nomatch ha)⟩
    cases ha
    cases h₁
    cases h₂
    cases h₃
    cases hr
    rfl
  have hg₅ : Prompt .sample w₄ (.tick 10) ∧ SendsAtOnce w₄ (.tick 10) := by
    cases h₁
    cases h₂
    cases h₃
    cases h₄
    refine prompt_tick (fun p hp => ?_) (fun i => ?_) fun v => ?_
    · cases List.mem_singleton.mp hp
      decide
    · by_cases he : i = 0
      · subst he
        rfl
      · simp [Function.update_of_ne he, State.process, startedWithSent, State.empty]
    · by_cases he : v = 0
      · subst he
        rfl
      · simp [Function.update_of_ne he, State.process, startedWithSent, State.empty]
  have hrun := ((((quiet_run h₁ (by simp)).trans (Run.one ⟨h₂, hg₂⟩)).trans
    (quiet_run h₃ (by simp))).trans (Run.one ⟨h₄, hg₄⟩)).trans (Run.one ⟨h₅, hg₅⟩)
  -- ten seconds after the retry was sent its row is still not past the threshold
  have hnone := (never_housekept exact_sample started_startedWithSent hrun).1
  refine ⟨_, w₅, hrun.of_guarded, ?_, ?_, ?_, ?_, hnone⟩ <;>
    · cases h₁
      cases h₂
      cases h₃
      cases h₄
      cases h₅
      first | rfl | exact ⟨_, rfl, rfl⟩

/-- A row that is due in 20 seconds. -/
def slowMessage : RetryMessage String :=
  { sampleMessage .intervalMsgDoRetry 0 "post 1" with retryInterval := 20000 }

/-- The poll thread picks the row 1, and waits. -/
def waitingRound : List (Action String) :=
  [.process (.sample 1) slowMessage, .select 0 1, .checkOut 0 false, .tick 11]

/-- One round of a house keeper. -/
def houseKeeping : List (Action String) := [.readHouseKeep 0, .acquire 0, .moveHouseKeep 0 []]

/-- The house keeper reads the row 1 eleven seconds after its check-out, while the poll thread waits
for the twentieth: nothing was sent, so no client is late.  Then the row is in `recover`, and the
poll thread is still to send it. -/
theorem prompt_yet_housekept : ∃ w₁ w₂ r,
    MRFServerConfig.sample.Exact ∧ Started .sample ⟨(State.empty : State String), []⟩ ∧
    exec (step .sample) ⟨.empty, []⟩ waitingRound = some w₁ ∧
    exec (step .sample) w₁ houseKeeping = some w₂ ∧
    (∀ p ∈ trace (step .sample) ⟨.empty, []⟩ waitingRound, Prompt .sample p.1 p.2) ∧
    (∀ p ∈ trace (step .sample) w₁ houseKeeping, Prompt .sample p.1 p.2) ∧
    w₁.awaited = [] ∧ w₁.center.pollers 0 = .task r ∧
    (w₁.center.outOfThreshold .sample).map (fun rows => rows.map (·.msgID)) = some [r.msgID] ∧
    w₂.center.pollers 0 = .task r ∧ w₂.center.currentTimestamp < r.nextExecAt ∧
    w₂.center.tables.recover.get r.msgID ≠ none := by
  obtain ⟨w₁, h₁⟩ : ∃ w, exec (step .sample) (⟨.empty, []⟩ : Timed String) waitingRound = some w :=
    ⟨_, rfl⟩
  obtain ⟨w₂, h₂⟩ : ∃ w, exec (step .sample) w₁ houseKeeping = some w := by
    cases h₁
    exact ⟨_, rfl⟩
  have hprompt₁ : ∀ p ∈ trace (step .sample) (⟨.empty, []⟩ : Timed String) waitingRound,
      Prompt .sample p.1 p.2 := by
    intro p hp
    have hawaited : p.1.awaited = [] := List.isEmpty_iff.mp
      (List.all_eq_true.mp (rfl : (trace (step .sample) (⟨.empty, []⟩ : Timed String)
        waitingRound).all (fun p => p.1.awaited.isEmpty) = true) p hp)
    have ha := mem_trace hp
    refine ⟨fun v found raises r he => ?_, fun n _ q hq => ?_⟩
    · rw [he] at ha
      simp [waitingRound] at ha
    · rw [hawaited] at hq
      cases hq
  have hprompt₂ : ∀ p ∈ trace (step .sample) w₁ houseKeeping, Prompt .sample p.1 p.2 := by
    intro p hp
    have ha := mem_trace hp
    refine ⟨fun v found raises r he => ?_, fun n he => ?_⟩ <;>
      · rw [he] at ha
        simp [houseKeeping] at ha
  cases h₁
  cases h₂
  exact ⟨_, _, _, exact_sample, started_empty, rfl, rfl, hprompt₁, hprompt₂, rfl, rfl, rfl, rfl,
    by decide, by decide⟩

end Timed

end MRF.Center
