import MRF.Center.Payload

/-!
# Center — AllRecords

A property of the content of a record, held by every row of both tables and by every copy of a row
that a thread or a request has.  The center copies rows as they are, so such a property is kept
when every message that is applied brings it (`AllRecords.step`), and a message that the center
puts on a retry queue is made of a record that has it (`AllRecords.retryQueues_inv`).
-/

namespace MRF.Center
open MRF.Library State

variable {B : Type} [BusinessMsg B] {P : MessageRecord B → Prop} {m : RetryMessage B}
  {cfg : MRFServerConfig} {s s' : State B} {a : Action B}

/-- Every row and every copy of one meets `P`. -/
structure State.AllRecords (P : MessageRecord B → Prop) (s : State B) : Prop where
  intervalRetry : ∀ x r, s.tables.intervalRetry.get x = some r → P r.toMessageRecord
  recover : ∀ x r, s.tables.recover.get x = some r → P r.toMessageRecord
  poller : ∀ i r, s.pollers i = .selected r ∨ s.pollers i = .task r → P r.toMessageRecord
  worker : ∀ w r, s.workers w = some r → P r.toMessageRecord
  held : ∀ k rows, s.Held k rows → ∀ r ∈ rows, P r.toMessageRecord
  request : ∀ i act r, s.requests i = some act → act.state.record = some r → P r.toMessageRecord

omit [BusinessMsg B] in
theorem allRecords_empty : State.AllRecords P (State.empty : State B) where
  intervalRetry _ _ hr := nomatch hr
  recover _ _ hr := nomatch hr
  poller _ _ hi := hi.elim nofun nofun
  worker _ _ hw := nomatch hw
  held _ _ hk := hk.elim nofun nofun
  request _ _ _ hi := nomatch hi

namespace State.AllRecords

omit [BusinessMsg B] in
theorem batch (hs : AllRecords P s) {rows : List (IntervalRetry B)} (hb : s.batch cfg a = some rows)
    {r : IntervalRetry B} (hr : r ∈ rows) : P r.toMessageRecord := by
  cases a with
  | moveHouseKeep k faults => exact hs.held k rows (.inr hb) r hr
  | houseKeepRound faults =>
      have hread : s.outOfThreshold cfg = some rows := hb
      exact hs.intervalRetry _ _ (stored_of_outOfThreshold hread r hr)
  | _ => cases hb

variable (hsame : ∀ r r₀ : MessageRecord B, SameContent r r₀ → P r₀ → P r)
include hsame

theorem intervalRetry_step (hs : AllRecords P s) (h : Stepped cfg s a s')
    (hm : ∀ c m, s.message a = some (c, m) → ∀ r, Copies r m → P r) (x : Int)
    (r : IntervalRetry B) (hr : s'.tables.intervalRetry.get x = some r) : P r.toMessageRecord := by
  cases hmsg : s.message a with
  | none =>
      obtain ⟨r₀, hr₀, hc⟩ := h.wrote.intervalRetry_same hmsg hr
      exact hsame _ _ hc (hs.intervalRetry x r₀ hr₀)
  | some p =>
      obtain ⟨c, m⟩ := p
      have happ := processed_applied (s.env c) m s.tables
      rw [← h.tables_eq hmsg] at happ
      rcases happ.intervalRetry_copies hr with hr₀ | ⟨hc, -⟩
      · exact hs.intervalRetry x r hr₀
      · exact hm c m hmsg _ hc

theorem recover_wrote (hs : AllRecords P s) {t' : Tables B} (h : Wrote cfg s a t')
    (hmsg : s.message a = none) (x : Int) (r : Recover B) (hr : t'.recover.get x = some r) :
    P r.toMessageRecord := by
  cases h with
  | applied hm =>
      rw [hmsg] at hm
      cases hm
  | houseKept hb hu =>
      rcases Table.get_insertAll_inv hu hr with hr | hmem
      · exact hs.recover x r hr
      · obtain ⟨cur, hcur, rfl⟩ := List.mem_map.mp hmem
        exact hsame _ cur.toMessageRecord ⟨rfl, rfl, rfl, rfl, rfl⟩ (hs.batch hb hcur)
  | checkOutRecover hc =>
      rw [Tables.setRecover_recover, Table.get_update] at hr
      rcases Table.update_inv hr with hr | ⟨-, r₀, hr₀, rfl⟩
      · exact hs.recover x r hr
      · exact hsame _ r₀.toMessageRecord ⟨rfl, rfl, rfl, rfl, rfl⟩ (hs.recover x r₀ hr₀)
  | deleteRecover hc => exact hs.recover x r (Table.get_delete_inv hr).2
  | _ => exact hs.recover x r hr

theorem recover_step (hs : AllRecords P s) (h : Stepped cfg s a s')
    (hm : ∀ c m, s.message a = some (c, m) → ∀ r, Copies r m → P r) (x : Int) (r : Recover B)
    (hr : s'.tables.recover.get x = some r) : P r.toMessageRecord := by
  cases hmsg : s.message a with
  | none => exact hs.recover_wrote hsame h.wrote hmsg x r hr
  | some p =>
      obtain ⟨c, m⟩ := p
      have happ := processed_applied (s.env c) m s.tables
      rw [← h.tables_eq hmsg] at happ
      rcases happ.recover_copies hr with ⟨-, hc⟩ | ⟨r₀, hr₀, hc⟩
      · exact hm c m hmsg _ hc
      · exact hsame _ _ hc (hs.recover x r₀ hr₀)

/-- **A property of the content is kept** when every message that is applied brings it. -/
theorem step (hs : AllRecords P s) (h : Stepped cfg s a s')
    (hm : ∀ c m, s.message a = some (c, m) → ∀ r, Copies r m → P r) : AllRecords P s' where
  intervalRetry := hs.intervalRetry_step hsame h hm
  recover := hs.recover_step hsame h hm
  poller i r hi := by
    rcases hi with hi | hi
    · rcases h.selected_inv hi with hi₀ | hr
      · exact hs.poller i r (.inl hi₀)
      · exact hs.intervalRetry _ r hr
    · rcases h.task_inv hi with hi₀ | ⟨raises, rfl, hsel, -⟩
      · exact hs.poller i r (.inr hi₀)
      · exact hs.poller i r (.inl hsel)
  worker w r hw := by
    rcases h.workers_inv hw with ⟨hw₀, -⟩ | ⟨i, -, hi⟩
    · exact hs.worker w r hw₀
    · exact hs.poller i r (.inr hi)
  held k rows hk r hr := by
    rcases h.held hk with hk₀ | ⟨hk₀, -⟩ | ⟨-, hrows⟩
    · exact hs.held k rows (.inl hk₀) r hr
    · exact hs.held k rows (.inr hk₀) r hr
    · exact hs.intervalRetry _ r (stored_of_outOfThreshold hrows r hr)
  request i act r hi hr := by
    rcases h.request_inv hi hr with ⟨act₀, hi₀, hr₀⟩ | hget
    · exact hs.request i act₀ r hi₀ hr₀
    · exact hs.recover _ r hget

end State.AllRecords

/-! ### Retry queues -/

/-- The message is made of the record, to be retried. -/
structure MadeOf (m : RetryMessage B) (r : MessageRecord B) : Prop where
  retryQueueName : m.retryQueueName = r.retryQueueName
  businessMsg : m.businessMsg = r.businessMsg
  retriedTimes : m.retriedTimes = r.retriedTimes
  messageFlag : m.messageFlag = .defaultMsgFlag

omit [BusinessMsg B] in
theorem State.AllRecords.puts {k : String} (hs : AllRecords P s) (hc : RequestsConform s)
    (h : s.puts a = some (k, m)) : ∃ r, P r ∧ MadeOf m r := by
  cases a with
  | sendRetry w found raises =>
      obtain ⟨r, hr, h⟩ := Option.bind_eq_some_iff.mp h
      obtain ⟨-, rfl⟩ := sentRetry_eq_some h
      exact ⟨_, hs.worker w r hr, rfl, rfl, rfl, rfl⟩
  | requestStep i raises found =>
      simp only [State.puts] at h
      split at h
      · next st k' m' f hi =>
          split at h
          · cases h
          · obtain ⟨r, rfl, -, rfl, -⟩ := requestProtocol_send ((hc i _ hi).allows rfl)
            cases h
            exact ⟨_, hs.request i _ r hi rfl, rfl, rfl, rfl, rfl⟩
      · cases h
  | _ => cases h

/-- A message comes to a retry queue from a client, or is made of a record. -/
theorem State.AllRecords.retryQueues_inv (hs : AllRecords P s) (hc : RequestsConform s)
    (h : Stepped cfg s a s') (hm : m ∈ s'.retryQueues) :
    m ∈ s.retryQueues ∨ a = .publish m ∨ ∃ r, P r ∧ MadeOf m r := by
  by_cases hp : ∃ m', a = .publish m'
  · obtain ⟨m', rfl⟩ := hp
    cases h with
    | publish m' =>
        rcases List.mem_append.mp hm with hm | hm
        · exact .inl hm
        · exact .inr (.inl (congrArg _ (List.mem_singleton.mp hm).symm))
  · by_cases hd : ∃ n, a = .deliver n
    · obtain ⟨n, rfl⟩ := hd
      cases h with
      | deliver hn => exact .inl (List.mem_of_mem_eraseIdx hm)
    · rw [h.retryQueues_eq (not_exists.mp hp) (not_exists.mp hd)] at hm
      rcases List.mem_append.mp hm with hm | hm
      · exact .inl hm
      · obtain ⟨p, hput, rfl⟩ := Option.map_eq_some_iff.mp (Option.mem_toList.mp hm)
        exact .inr (.inr (hs.puts hc (k := p.1) hput))

end MRF.Center
