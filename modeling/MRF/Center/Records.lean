import MRF.Center.IntervalPoll
import MRF.Center.RecoverLease

/-!
# Center — Records

The records of the center: the rows of both tables, and the copies of rows that its threads and
requests have.  And the messages that wait to be applied.

A step makes no content of its own.  `Stepped.records_inv`: a record has the id, the queue and the
business message of an earlier one, or those of the message that the step applies, possibly under a
generated id.  `Stepped.retryQueues_inv`: a message comes to a retry queue from a client, or from a
record.
-/

namespace MRF.Center
open MRF.Library State MRFMessageProcessService

variable {B : Type} [BusinessMsg B] {x : Int} {q : String} {b : B} {e : Env} {m : RetryMessage B}
  {t t' : Tables B} {cfg : MRFServerConfig} {s s' : State B} {a : Action B}

/-! ### Rows -/

/-- A row for `x`, with the queue and the business message. -/
def Tables.HasRow (t : Tables B) (x : Int) (q : String) (b : B) : Prop :=
  (∃ r, t.intervalRetry.get x = some r ∧ r.retryQueueName = q ∧ r.businessMsg = b) ∨
    ∃ r, t.recover.get x = some r ∧ r.retryQueueName = q ∧ r.businessMsg = b

/-- A message that is stored brings its content, under its own id or a generated one. -/
def Brings (newId : Int) (m : RetryMessage B) (x : Int) (q : String) (b : B) : Prop :=
  m.retryQueueName = q ∧ m.businessMsg = b ∧
    ((0 < m.msgID ∧ x = m.msgID) ∨ (asksForId m = true ∧ 0 < newId ∧ x = newId))

theorem Applied.hasRow_inv (h : Applied e m t t') (hx : t'.HasRow x q b) :
    t.HasRow x q b ∨ Brings e.newId m x q b := by
  cases h with
  | unchanged => exact .inl hx
  | cleanRecover hf =>
      refine .inl (hx.imp_right ?_)
      exact fun ⟨r, hr, hc⟩ => ⟨r, (Table.get_delete_inv hr).2, hc⟩
  | cleanIntervalRetry hf =>
      refine .inl (hx.imp_left ?_)
      exact fun ⟨r, hr, hc⟩ => ⟨r, (Table.get_delete_inv hr).2, hc⟩
  | resendForRecover hf =>
      rcases hx with hx | ⟨r, hr, hc⟩
      · exact .inl (.inl hx)
      · rw [Tables.setRecover_recover, Table.get_update] at hr
        rcases Table.update_inv hr with hr | ⟨-, r₀, hr₀, rfl⟩
        · exact .inl (.inr ⟨r, hr, hc⟩)
        · exact .inl (.inr ⟨r₀, hr₀, hc⟩)
  | checkin hf hid hcon =>
      rcases hx with ⟨r, hr, hc⟩ | hx
      · rw [Tables.setIntervalRetry_intervalRetry, Table.get_update] at hr
        rcases Table.update_inv hr with hr | ⟨he, r₀, hr₀, rfl⟩
        · exact .inl (.inl ⟨r, hr, hc⟩)
        · exact .inr ⟨hc.1, hc.2, .inl ⟨hid, he⟩⟩
      · exact .inl (.inr hx)
  | addIntervalRetry hf hid hnew hcon hu =>
      rcases hx with ⟨r, hr, hc⟩ | hx
      · rcases Table.get_insert_inv hu hr with hr | ⟨he, rfl⟩
        · exact .inl (.inl ⟨r, hr, hc⟩)
        · exact .inr ⟨hc.1, hc.2, .inr ⟨by simpa [asksForId, hf] using hid, hnew, he⟩⟩
      · exact .inl (.inr hx)
  | moveToRecover hf hid hrow hcon hu =>
      rcases hx with ⟨r, hr, hc⟩ | ⟨r, hr, hc⟩
      · exact .inl (.inl ⟨r, (Table.get_delete_inv hr).2, hc⟩)
      · rcases Table.get_insert_inv hu hr with hr | ⟨he, rfl⟩
        · exact .inl (.inr ⟨r, hr, hc⟩)
        · exact .inr ⟨hc.1, hc.2, .inl ⟨hid, he⟩⟩
  | moveToNowhere hf hid hrow hcon =>
      refine .inl (hx.imp_left ?_)
      exact fun ⟨r, hr, hc⟩ => ⟨r, (Table.get_delete_inv hr).2, hc⟩
  | immediateToRecover hf hnew hcon hu =>
      rcases hx with hx | ⟨r, hr, hc⟩
      · exact .inl (.inl hx)
      · rcases Table.get_insert_inv hu hr with hr | ⟨he, rfl⟩
        · exact .inl (.inr ⟨r, hr, hc⟩)
        · exact .inr ⟨hc.1, hc.2, .inr ⟨by simp [asksForId, hf], hnew, he⟩⟩
  | directToRecover hf hid hcon hu =>
      rcases hx with hx | ⟨r, hr, hc⟩
      · exact .inl (.inl hx)
      · rcases Table.get_insert_inv hu hr with hr | ⟨he, rfl⟩
        · exact .inl (.inr ⟨r, hr, hc⟩)
        · refine .inr ⟨hc.1, hc.2, ?_⟩
          change x = directId e m at he
          unfold directId at he hid
          split at he
          · next hpos => exact .inl ⟨hpos, he⟩
          · next hpos =>
              rw [if_neg hpos] at hid
              exact .inr ⟨by simpa [asksForId, hf] using hpos, hid, he⟩

/-! ### Records -/

/-- The record that a request has. -/
def RequestState.record : RequestState B → Option (Recover B)
  | .idle => none
  | .got r => some r
  | .out r => some r
  | .ready r => some r

/-- The rows, and the copies of rows on their way. -/
inductive State.Records (s : State B) (x : Int) (q : String) (b : B) : Prop where
  | row (h : s.tables.HasRow x q b)
  | polled {i : Nat} {r : IntervalRetry B} (h : s.pollers i = .selected r ∨ s.pollers i = .task r)
      (hx : r.msgID = x) (hq : r.retryQueueName = q) (hb : r.businessMsg = b)
  | worker {w : Nat} {r : IntervalRetry B} (h : s.workers w = some r)
      (hx : r.msgID = x) (hq : r.retryQueueName = q) (hb : r.businessMsg = b)
  | held {k : Nat} {rows : List (IntervalRetry B)} {r : IntervalRetry B} (h : s.Held k rows)
      (hr : r ∈ rows) (hx : r.msgID = x) (hq : r.retryQueueName = q) (hb : r.businessMsg = b)
  | request {i : Nat} {act : Request B} {r : Recover B} (h : s.requests i = some act)
      (hr : act.state.record = some r) (hx : r.msgID = x) (hq : r.retryQueueName = q)
      (hb : r.businessMsg = b)

omit [BusinessMsg B] in
theorem State.Records.interval {r : IntervalRetry B} (h : s.tables.intervalRetry.get x = some r) :
    s.Records x r.retryQueueName r.businessMsg :=
  .row (.inl ⟨r, h, rfl, rfl⟩)

omit [BusinessMsg B] in
theorem State.Records.recover {r : Recover B} (h : s.tables.recover.get x = some r) :
    s.Records x r.retryQueueName r.businessMsg :=
  .row (.inr ⟨r, h, rfl, rfl⟩)

omit [BusinessMsg B] in
/-- The rows of a batch are records. -/
theorem State.Records.batch {rows : List (IntervalRetry B)} (hb : s.batch cfg a = some rows)
    {r : IntervalRetry B} (hr : r ∈ rows) : s.Records r.msgID r.retryQueueName r.businessMsg := by
  cases a with
  | moveHouseKeep k faults => exact .held (.inr hb) hr rfl rfl rfl
  | houseKeepRound faults =>
      have hread : s.outOfThreshold cfg = some rows := hb
      exact .interval (stored_of_outOfThreshold hread r hr)
  | _ => cases hb

/-- Where the content of a row comes from. -/
theorem State.Wrote.hasRow_inv (h : Wrote cfg s a t') (hx : t'.HasRow x q b) :
    s.Records x q b ∨ ∃ c m, s.message a = some (c, m) ∧ Brings c.newId m x q b := by
  cases h with
  | nothing => exact .inl (.row hx)
  | applied hm h =>
      rcases h.hasRow_inv hx with hx | hx
      · exact .inl (.row hx)
      · exact .inr ⟨_, _, hm, hx⟩
  | checkOut ha hp =>
      rcases hx with ⟨r, hr, hq, hb⟩ | hx
      · rw [Tables.setIntervalRetry_intervalRetry, Table.get_update] at hr
        rcases Table.update_inv hr with hr | ⟨-, r₀, hr₀, rfl⟩
        · exact .inl (.row (.inl ⟨r, hr, hq, hb⟩))
        · have hsame : ∀ now, (IntervalRetryDAO.checkedOut now r₀).retryQueueName =
              r₀.retryQueueName ∧
              (IntervalRetryDAO.checkedOut now r₀).businessMsg = r₀.businessMsg := by
            intro now
            unfold IntervalRetryDAO.checkedOut
            split <;> exact ⟨rfl, rfl⟩
          exact .inl (.row (.inl ⟨r₀, hr₀, (hsame _).1 ▸ hq, (hsame _).2 ▸ hb⟩))
      · exact .inl (.row (.inr hx))
  | houseKept hb hu =>
      rcases hx with ⟨r, hr, hc⟩ | ⟨r, hr, rfl, rfl⟩
      · exact .inl (.row (.inl ⟨r, (Table.get_deleteAll_inv hr).2, hc⟩))
      · have hx : r.msgID = x := Table.key_of_get hr
        rcases Table.get_insertAll_inv hu hr with hr | hmem
        · exact .inl (.recover hr)
        · obtain ⟨cur, hcur, rfl⟩ := List.mem_map.mp hmem
          subst hx
          exact .inl (.batch hb hcur)
  | checkOutRecover hc =>
      rcases hx with hx | ⟨r, hr, hq, hb⟩
      · exact .inl (.row (.inl hx))
      · rw [Tables.setRecover_recover, Table.get_update] at hr
        rcases Table.update_inv hr with hr | ⟨-, r₀, hr₀, rfl⟩
        · exact .inl (.row (.inr ⟨r, hr, hq, hb⟩))
        · exact .inl (.row (.inr ⟨r₀, hr₀, hq, hb⟩))
  | deleteRecover hc =>
      rcases hx with hx | ⟨r, hr, hc⟩
      · exact .inl (.row (.inl hx))
      · exact .inl (.row (.inr ⟨r, (Table.get_delete_inv hr).2, hc⟩))

omit [BusinessMsg B] in
/-- The record of a request is the one it had, or the row it has just read. -/
theorem requestProtocol_record {st : RequestState B} {op : RecoverOp B}
    {res : Except String op.Res} {r : Recover B}
    (hr : (requestProtocol.next st op res).record = some r) :
    st.record = some r ∨ ∃ y, ∃ he : op = .getRecover y, he ▸ res = .ok (some r) := by
  cases op with
  | getRecover y =>
      rcases res with e | _ | r'
      · cases st <;> cases hr
      · cases st <;> cases hr
      · have hgot : (RequestState.got r').record = some r := by cases st <;> exact hr
        cases hgot
        exact .inr ⟨y, rfl, rfl⟩
  | checkOutRecover y =>
      cases st with
      | got r' => cases res <;> first | exact .inl hr | cases hr
      | _ => cases hr
  | getRetryRabbitTemplate u =>
      cases st with
      | out r' => rcases res with e | _ | _ <;> first | exact .inl hr | cases hr
      | _ => cases hr
  | _ => cases st <;> cases hr

omit [BusinessMsg B] in
/-- `getRecover` answers rows. -/
theorem State.serve_getRecover {y : Int} {raises found : Bool} {r : Recover B}
    (h : (s.serve raises found (.getRecover y)).1 = .ok (some r)) :
    s.tables.recover.get y = some r := by
  change (s.callDao (RecoverDAO.getRecover y) raises).1 = _ at h
  rcases callDao_cases (s := s) (RecoverDAO.getRecover y) raises with ⟨r', s₁, hrun, he⟩ | ⟨e, he⟩
  · rw [he] at h
    cases h
    unfold RecoverDAO.getRecover at hrun
    split at hrun
    · cases hrun
    · exact (Prod.mk.inj (Option.some.inj (Dao.execute_ok hrun))).1
  · rw [he] at h
    cases h

theorem State.Stepped.request_inv (h : Stepped cfg s a s') {i : Nat} {act : Request B}
    {r : Recover B} (hi : s'.requests i = some act) (hr : act.state.record = some r) :
    (∃ act₀, s.requests i = some act₀ ∧ act₀.state.record = some r) ∨
      s.tables.recover.get r.msgID = some r := by
  rcases h.requests_inv hi with
    ⟨hi, -⟩ | ⟨req, rfl⟩ | ⟨raises, found, act₀, op, k, -, hi₀, -, rfl⟩
  · exact .inl ⟨act, hi, hr⟩
  · cases hr
  · rcases requestProtocol_record hr with hr₀ | ⟨y, rfl, hres⟩
    · exact .inl ⟨act₀, hi₀, hr₀⟩
    · have hget := serve_getRecover hres
      have hy : r.msgID = y := Table.key_of_get hget
      exact .inr (hy ▸ hget)

/-- **Where the content of a record comes from.** -/
theorem State.Stepped.records_inv (h : Stepped cfg s a s') (hx : s'.Records x q b) :
    s.Records x q b ∨ s'.tables.HasRow x q b ∧
      ∃ c m, s.message a = some (c, m) ∧ Brings c.newId m x q b := by
  cases hx with
  | row hx => exact (h.wrote.hasRow_inv hx).imp_right fun hbr => ⟨hx, hbr⟩
  | @polled i r hi hid hq hb =>
      left
      rcases hi with hi | hi
      · rcases h.selected_inv hi with hi₀ | hr
        · exact .polled (.inl hi₀) hid hq hb
        · subst hid hq hb
          exact .interval hr
      · rcases h.task_inv hi with hi₀ | ⟨raises, rfl, hsel, -⟩
        · exact .polled (.inr hi₀) hid hq hb
        · exact .polled (.inl hsel) hid hq hb
  | @worker w r hw hid hq hb =>
      rcases h.workers_inv hw with ⟨hw₀, -⟩ | ⟨i, -, hi⟩
      · exact .inl (.worker hw₀ hid hq hb)
      · exact .inl (.polled (.inr hi) hid hq hb)
  | @held k rows r hk hr hid hq hb =>
      rcases h.held hk with hk₀ | ⟨hk₀, -⟩ | ⟨-, hrows⟩
      · exact .inl (.held (.inl hk₀) hr hid hq hb)
      · exact .inl (.held (.inr hk₀) hr hid hq hb)
      · subst hid hq hb
        exact .inl (.interval (stored_of_outOfThreshold hrows r hr))
  | @request i act r hi hr hid hq hb =>
      rcases h.request_inv hi hr with ⟨act₀, hi₀, hr₀⟩ | hget
      · exact .inl (.request hi₀ hr₀ hid hq hb)
      · subst hid hq hb
        exact .inl (.recover hget)

/-! ### Messages -/

/-- The messages that wait to be applied, in the exception queue or drained from it. -/
inductive State.Pends (s : State B) (m : RetryMessage B) : Prop where
  | queue (h : m ∈ s.exceptionQueue)
  | task {i : Nat} (h : m ∈ s.eqTasks i)
  | worker {w : Nat} (h : m ∈ s.eqWorkers w)

/-- A message waits to be applied since a client sent it to the exception queue. -/
theorem State.Stepped.pends_inv (h : Stepped cfg s a s') (hm : s'.Pends m) :
    s.Pends m ∨ a = .failOver m := by
  cases h with
  | failOver m' =>
      cases hm with
      | queue hm =>
          rcases List.mem_append.mp hm with hm | hm
          · exact .inl (.queue hm)
          · exact .inr (congrArg _ (List.mem_singleton.mp hm).symm)
      | task hm => exact .inl (.task hm)
      | worker hm => exact .inl (.worker hm)
  | @receive i m' queue hq =>
      left
      cases hm with
      | queue hm => exact .queue (hq ▸ List.mem_cons_of_mem _ hm)
      | @task j hm =>
          by_cases he : j = i
          · subst he
            simp only [Function.update_self, List.mem_append, List.mem_singleton] at hm
            rcases hm with hm | rfl
            · exact .task hm
            · exact .queue (hq ▸ List.mem_cons_self)
          · exact .task (by simpa only [Function.update_of_ne he] using hm)
      | worker hm => exact .worker hm
  | @dispatchEQ i w hw =>
      left
      cases hm with
      | queue hm => exact .queue hm
      | @task j hm =>
          by_cases he : j = i
          · subst he
            simp only [Function.update_self, List.not_mem_nil] at hm
          · exact .task (by simpa only [Function.update_of_ne he] using hm)
      | @worker v hm =>
          by_cases he : v = w
          · subst he
            simp only [Function.update_self] at hm
            exact .task hm
          · exact .worker (by simpa only [Function.update_of_ne he] using hm)
  | @executeEQ w c m' ms hw =>
      left
      cases hm with
      | queue hm => exact .queue hm
      | task hm => exact .task hm
      | @worker v hm =>
          by_cases he : v = w
          · subst he
            simp only [Function.update_self] at hm
            exact .worker (hw ▸ List.mem_cons_of_mem _ hm)
          · exact .worker (by simpa only [Function.update_of_ne he] using hm)
  | @requestStep j raises found act op k hj hk =>
      obtain ⟨t, u, hs⟩ := serve_snd (s := s) raises found op
      left
      cases hm with
      | queue hm => exact .queue (by simpa only [hs] using hm)
      | task hm => exact .task (by simpa only [hs] using hm)
      | worker hm => exact .worker (by simpa only [hs] using hm)
  | _ =>
      left
      cases hm with
      | queue hm => exact .queue hm
      | task hm => exact .task hm
      | worker hm => exact .worker hm

/-- A message waits until a worker takes it up. -/
theorem State.Stepped.pends_step (h : Stepped cfg s a s') (hm : s.Pends m) :
    s'.Pends m ∨ ∃ w c ms, a = .executeEQ w c ∧ s.eqWorkers w = m :: ms := by
  cases h with
  | failOver m' =>
      left
      cases hm with
      | queue hm => exact .queue (List.mem_append_left _ hm)
      | task hm => exact .task hm
      | worker hm => exact .worker hm
  | @receive i m' queue hq =>
      left
      cases hm with
      | queue hm =>
          rcases List.mem_cons.mp (hq ▸ hm) with rfl | hm
          · exact .task (i := i) (by simp only [Function.update_self, List.mem_append,
              List.mem_singleton, or_true])
          · exact .queue hm
      | @task j hm =>
          refine .task (i := j) ?_
          by_cases he : j = i
          · subst he
            simp only [Function.update_self]
            exact List.mem_append_left _ hm
          · simpa only [Function.update_of_ne he] using hm
      | worker hm => exact .worker hm
  | @dispatchEQ i w hw =>
      left
      cases hm with
      | queue hm => exact .queue hm
      | @task j hm =>
          by_cases he : j = i
          · subst he
            exact .worker (w := w) (by simpa only [Function.update_self] using hm)
          · exact .task (i := j) (by simpa only [Function.update_of_ne he] using hm)
      | @worker v hm =>
          by_cases he : v = w
          · subst he
            rw [hw] at hm
            cases hm
          · exact .worker (w := v) (by simpa only [Function.update_of_ne he] using hm)
  | @executeEQ w c m' ms hw =>
      cases hm with
      | queue hm => exact .inl (.queue hm)
      | task hm => exact .inl (.task hm)
      | @worker v hm =>
          by_cases he : v = w
          · subst he
            rcases List.mem_cons.mp (hw ▸ hm) with rfl | hm
            -- the head of the batch is the message that is executed
            · exact .inr ⟨v, c, ms, rfl, hw⟩
            · exact .inl (.worker (w := v) (by simpa only [Function.update_self] using hm))
          · exact .inl (.worker (w := v) (by simpa only [Function.update_of_ne he] using hm))
  | @requestStep j raises found act op k hj hk =>
      obtain ⟨t, u, hs⟩ := serve_snd (s := s) raises found op
      left
      cases hm with
      | queue hm => exact .queue (by simpa only [hs] using hm)
      | @task i hm => exact .task (i := i) (by simpa only [hs] using hm)
      | @worker w hm => exact .worker (w := w) (by simpa only [hs] using hm)
  | _ =>
      left
      cases hm with
      | queue hm => exact .queue hm
      | task hm => exact .task hm
      | worker hm => exact .worker hm

omit [BusinessMsg B] in
/-- The message of a step comes with the action, or has waited. -/
theorem State.message_cases {c : Call} (h : s.message a = some (c, m)) :
    a = .process c m ∨ s.Pends m := by
  cases a with
  | process c' m' => cases h; exact .inl rfl
  | executeEQ w c' =>
      simp only [message] at h
      split at h
      · cases h
      · next hw =>
          split at h
          · cases h
          · cases h
            exact .inr (.worker (hw ▸ List.mem_cons_self))
  | _ => cases h

omit [BusinessMsg B] in
theorem State.callDao_retryQueues {α : Type} (d : Dao (Tables B) α) (raises : Bool) :
    (s.callDao d raises).2.retryQueues = s.retryQueues := by
  unfold callDao
  split <;> rfl

omit [BusinessMsg B] in
/-- Only `convertAndSend` sends. -/
theorem State.serve_retryQueues (raises found : Bool) (op : RecoverOp B)
    (h : ∀ k m, op ≠ .convertAndSend k m) :
    (s.serve raises found op).2.retryQueues = s.retryQueues := by
  cases op with
  | getRecover y => exact callDao_retryQueues ..
  | checkOutRecover y => exact callDao_retryQueues ..
  | deleteRecover y => exact callDao_retryQueues ..
  | getRetryRabbitTemplate u => rfl
  | convertAndSend k m => exact absurd rfl (h k m)

/-- A message comes to a retry queue from a client, or from a record, with the default flag. -/
theorem State.Stepped.retryQueues_inv (h : Stepped cfg s a s') (hc : RequestsConform s)
    (hm : m ∈ s'.retryQueues) : m ∈ s.retryQueues ∨ a = .publish m ∨
      m.messageFlag = .defaultMsgFlag ∧ s.Records m.msgID m.retryQueueName m.businessMsg := by
  cases h with
  | publish m' =>
      rcases List.mem_append.mp hm with hm | hm
      · exact .inl hm
      · exact .inr (.inl (congrArg _ (List.mem_singleton.mp hm).symm))
  | deliver hn => exact .inl (List.mem_of_mem_eraseIdx hm)
  | @sendRetry w found raises r hw =>
      simp only at hm
      split at hm
      · rcases List.mem_append.mp hm with hm | hm
        · exact .inl hm
        · obtain rfl := List.mem_singleton.mp hm
          exact .inr (.inr ⟨rfl, .worker hw rfl rfl rfl⟩)
      · exact .inl hm
  | @requestStep i raises found act op k hi hk =>
      by_cases hop : ∃ key m', op = .convertAndSend key m'
      · obtain ⟨key, m', rfl⟩ := hop
        obtain ⟨r, hst, -, rfl, -⟩ := requestProtocol_send ((hc i act hi).allows hk)
        cases raises with
        | true => exact .inl hm
        | false =>
            rcases List.mem_append.mp hm with hm | hm
            · exact .inl hm
            · obtain rfl := List.mem_singleton.mp hm
              refine .inr (.inr ⟨rfl, .request hi ?_ rfl rfl rfl⟩)
              rw [hst]
              rfl
      · exact .inl (serve_retryQueues raises found op (fun key m' he => hop ⟨key, m', he⟩) ▸ hm)
  | _ => exact .inl hm

/-- A message stays in its retry queue until it is delivered. -/
theorem State.Stepped.retryQueues_step (h : Stepped cfg s a s') (hm : m ∈ s.retryQueues) :
    m ∈ s'.retryQueues ∨ ∃ n, a = .deliver n ∧ s.retryQueues[n]? = some m := by
  cases h with
  | publish m' => exact .inl (List.mem_append_left _ hm)
  | @deliver n hn =>
      obtain ⟨j, hj⟩ := List.mem_iff_getElem?.mp hm
      by_cases he : j = n
      · exact .inr ⟨n, rfl, he ▸ hj⟩
      · exact .inl (List.mem_eraseIdx_iff_getElem?.mpr ⟨j, he, hj⟩)
  | @sendRetry w found raises r hw =>
      left
      simp only
      split
      · exact List.mem_append_left _ hm
      · exact hm
  | @requestStep i raises found act op k hi hk =>
      left
      by_cases hop : ∃ key m', op = .convertAndSend key m'
      · obtain ⟨key, m', rfl⟩ := hop
        cases raises with
        | true => exact hm
        | false => exact List.mem_append_left _ hm
      · exact (serve_retryQueues raises found op (fun key m' he => hop ⟨key, m', he⟩)).symm ▸ hm
  | _ => exact .inl hm

end MRF.Center
