import MRF.Center.Records

/-!
# Center — Payload

What the center sends is what a client gave it.  A ledger runs along with the center: it has, for
every row, the message that last wrote the row, and for every copy of a row that is on its way to a
retry queue, the message that had last written the row when the copy was read.  `Audited` says
that every row and every copy has the fields of the message in the ledger.
-/

namespace MRF.Center
open MRF.Library State MRFMessageProcessService

variable {B : Type} [BusinessMsg B] {x : Int} {e : Env} {m w : RetryMessage B} {t t' : Tables B}
  {cfg : MRFServerConfig} {s s' : State B} {a : Action B}

/-! ### The ledger -/

/-- The message that a copy was read from, with the id of the row. -/
abbrev Reading (B : Type) := Int × RetryMessage B

/-- Who wrote what. -/
structure Ledger (B : Type) where
  intervalRetry : Int → Option (RetryMessage B)
  recover : Int → Option (RetryMessage B)
  pollers : Nat → Option (Reading B)
  workers : Nat → Option (Reading B)
  requests : Nat → Option (Reading B)

/-- The message, applied to the tables, writes the row of `x`: it inserts the row, or is a check-in
for it that returns normally. -/
def WritesIntervalRetry (e : Env) (m : RetryMessage B) (t : Tables B) (x : Int) : Prop :=
  (t.intervalRetry.get x = none ∧ (processed e m t).intervalRetry.get x ≠ none) ∨
    (MRFServiceImpl.process e m t).1.isOk = true ∧ m.messageFlag = .intervalMsgDoRetry ∧
      0 < x ∧ m.msgID = x ∧ hasContent m.retryQueueName m.businessMsg = true

instance : Decidable (WritesIntervalRetry e m t x) :=
  inferInstanceAs (Decidable ((_ ∧ ¬ _) ∨ _))

namespace Ledger

/-- Nobody has written anything. -/
def empty : Ledger B :=
  ⟨fun _ => none, fun _ => none, fun _ => none, fun _ => none, fun _ => none⟩

/-- The ledger after a step. -/
def after (L : Ledger B) (s : State B) (a : Action B) (s' : State B) : Ledger B where
  intervalRetry x :=
    match s.message a with
    | some (c, m) =>
        if WritesIntervalRetry (s.env c) m s.tables x then some m else L.intervalRetry x
    | none => L.intervalRetry x
  recover x :=
    if s.tables.recover.get x = none ∧ ¬ s'.tables.recover.get x = none then
      match s.message a with
      | some (_, m) => some m
      -- a house keeper copies the row of `interval_retry`
      | none => L.intervalRetry x
    else L.recover x
  pollers i :=
    match a with
    | .select j x => if i = j then (L.intervalRetry x).map (x, ·) else L.pollers i
    | _ => L.pollers i
  workers w :=
    match a with
    | .dispatch i v => if w = v then L.pollers i else L.workers w
    | _ => L.workers w
  requests i :=
    match a, s.call a with
    | .requestStep j _ _, some (.getRecover x) =>
        if i = j then (L.recover x).map (x, ·) else L.requests i
    | _, _ => L.requests i

variable {L : Ledger B} {s s' : State B} {a : Action B}

theorem after_pollers {i : Nat} (ha : ∀ x, a ≠ .select i x) :
    (L.after s a s').pollers i = L.pollers i := by
  cases a with
  | select j x =>
      have hij : i ≠ j := fun he => ha x (he ▸ rfl)
      simp only [after, if_neg hij]
  | _ => rfl

theorem after_workers {w : Nat} (ha : ∀ i, a ≠ .dispatch i w) :
    (L.after s a s').workers w = L.workers w := by
  cases a with
  | dispatch i v =>
      have hwv : w ≠ v := fun he => ha i (he ▸ rfl)
      simp only [after, if_neg hwv]
  | _ => rfl

theorem after_requests {i : Nat} (ha : ∀ raises found, a ≠ .requestStep i raises found) :
    (L.after s a s').requests i = L.requests i := by
  cases a with
  | requestStep j raises found =>
      have hij : i ≠ j := fun he => ha raises found (he ▸ rfl)
      simp only [after]
      split
      · next he _ =>
          cases he
          exact if_neg hij
      · rfl
  | _ => rfl

end Ledger

/-- The center with its ledger. -/
def auditedStep (cfg : MRFServerConfig) (p : State B × Ledger B) (a : Action B) :
    Option (State B × Ledger B) :=
  (p.1.step cfg a).map fun s' => (s', p.2.after p.1 a s')

/-- What the center puts on a retry queue: the routing key, and the message. -/
def State.puts (s : State B) : Action B → Option (String × RetryMessage B)
  | .sendRetry w found raises =>
      (s.workers w).bind fun r => sentRetry r found raises
  | .requestStep i raises _ =>
      match s.requests i with
      | some ⟨_, .call (.convertAndSend k m) _⟩ => if raises then none else some (k, m)
      | _ => none
  | _ => none

/-- Who wrote the row that an action sends. -/
def Ledger.reading (L : Ledger B) : Action B → Option (Reading B)
  | .sendRetry w _ _ => L.workers w
  | .requestStep i _ _ => L.requests i
  | _ => none

/-- The action sends a row of `recover`. -/
def Action.fromRecover : Action B → Bool
  | .requestStep _ _ _ => true
  | _ => false

/-! ### Copies -/

/-- A record has the fields of the message that wrote it. -/
structure Copies (r : MessageRecord B) (w : RetryMessage B) : Prop where
  retryQueueName : r.retryQueueName = w.retryQueueName
  businessMsg : r.businessMsg = w.businessMsg
  counts : (r.retryInterval, r.retriedTimes, r.maxRetryTimes) =
    if w.messageFlag = .msgDirectToRecover then (-1, -1, -1)
    else (w.retryInterval, w.retriedTimes, w.maxRetryTimes)

/-- The fields that a client gave are the same in both records. -/
structure SameContent (r r₀ : MessageRecord B) : Prop where
  retryQueueName : r.retryQueueName = r₀.retryQueueName
  businessMsg : r.businessMsg = r₀.businessMsg
  retryInterval : r.retryInterval = r₀.retryInterval
  retriedTimes : r.retriedTimes = r₀.retriedTimes
  maxRetryTimes : r.maxRetryTimes = r₀.maxRetryTimes

omit [BusinessMsg B] in
/-- The copy of a copy. -/
theorem Copies.of_same {r r₀ : MessageRecord B} (h : Copies r₀ w) (hs : SameContent r r₀) :
    Copies r w where
  retryQueueName := hs.retryQueueName.trans h.retryQueueName
  businessMsg := hs.businessMsg.trans h.businessMsg
  counts := by rw [hs.retryInterval, hs.retriedTimes, hs.maxRetryTimes, h.counts]

omit [BusinessMsg B] in
/-- A record that has the message's fields, when the flag is not the direct one. -/
theorem copies_of_ne {r : MessageRecord B} (hf : w.messageFlag ≠ .msgDirectToRecover)
    (hq : r.retryQueueName = w.retryQueueName) (hb : r.businessMsg = w.businessMsg)
    (hi : r.retryInterval = w.retryInterval) (hk : r.retriedTimes = w.retriedTimes)
    (hn : r.maxRetryTimes = w.maxRetryTimes) : Copies r w :=
  ⟨hq, hb, by rw [if_neg hf, hi, hk, hn]⟩

/-! ### What a message writes -/

/-- A call that throws is rolled back. -/
theorem processed_of_not_ok (h : ¬ (MRFServiceImpl.process e m t).1.isOk = true) :
    processed e m t = t := by
  unfold processed
  unfold MRFServiceImpl.process at h ⊢
  rcases Dao.transactional_cases (MRFServiceImpl.handle e m) e.faults t with
    ⟨⟨⟩, s, -, ht⟩ | ⟨cause, ht⟩
  · rw [ht] at h
    exact absurd rfl h
  · rw [ht]

/-- A check-in that returns has run. -/
theorem processed_checkin_of_ok (h : (MRFServiceImpl.process e m t).1.isOk = true)
    (hf : m.messageFlag = .intervalMsgDoRetry) (hid : 0 < m.msgID)
    (hc : hasContent m.retryQueueName m.businessMsg = true) :
    processed e m t = t.setIntervalRetry (t.intervalRetry.update m.msgID
      (IntervalRetryDAO.checkedIn e.currentTimestamp (newIntervalRetry m.msgID m (nextExecAt e m)))
      (IntervalRetryDAO.checkedIn_msgID _ _)) := by
  unfold processed
  unfold MRFServiceImpl.process at h ⊢
  rcases Dao.transactional_cases (MRFServiceImpl.handle e m) e.faults t with
    ⟨⟨⟩, s, hrun, ht⟩ | ⟨cause, ht⟩
  · rw [ht]
    simp only [MRFServiceImpl.handle, hf, doIntervalMessageRetry, if_pos hid] at hrun
    obtain ⟨b, s₁, hrun, hret⟩ := Dao.bind_ok hrun
    cases hret
    have hv : IntervalRetryDAO.isIntervalRetryValid
        (newIntervalRetry m.msgID m (nextExecAt e m)) = true := by
      simp only [IntervalRetryDAO.isIntervalRetryValid, newIntervalRetry, hid, hc, decide_true,
        Bool.and_self]
    simp only [IntervalRetryDAO.checkinIntervalRetry, hv, Bool.not_true, Bool.false_eq_true,
      if_false] at hrun
    exact (Prod.mk.inj (Option.some.inj (Dao.execute_ok hrun))).2.symm
  · rw [ht] at h
    cases h

/-- A row of `interval_retry` is the one before, or has the fields of the message, which then
brought it in or met a row for its id. -/
theorem Applied.intervalRetry_copies (h : Applied e m t t') {r : IntervalRetry B}
    (hr : t'.intervalRetry.get x = some r) : t.intervalRetry.get x = some r ∨
      Copies r.toMessageRecord m ∧ m.messageFlag = .intervalMsgDoRetry ∧
        (t.intervalRetry.get x = none ∨ 0 < m.msgID ∧ x = m.msgID ∧
          hasContent m.retryQueueName m.businessMsg = true) := by
  cases h with
  | cleanIntervalRetry hf => exact .inl (Table.get_delete_inv hr).2
  | checkin hf hid hcon =>
      rw [Tables.setIntervalRetry_intervalRetry, Table.get_update] at hr
      rcases Table.update_inv hr with hr | ⟨he, r₀, hr₀, rfl⟩
      · exact .inl hr
      · exact .inr ⟨copies_of_ne (by rw [hf]; exact nofun) rfl rfl rfl rfl rfl, hf,
          .inr ⟨hid, he, hcon⟩⟩
  | addIntervalRetry hf hid hnew hcon hu =>
      rcases Table.get_insert_inv hu hr with hr | ⟨he, rfl⟩
      · exact .inl hr
      · have hnone := Table.get_eq_none_of_insert hu
        subst he
        exact .inr ⟨copies_of_ne (by rw [hf]; exact nofun) rfl rfl rfl rfl rfl, hf, .inl hnone⟩
  | moveToRecover hf hid hrow hcon hu => exact .inl (Table.get_delete_inv hr).2
  | moveToNowhere hf hid hrow hcon => exact .inl (Table.get_delete_inv hr).2
  | _ => exact .inl hr

/-- **The rows of `interval_retry` after a message.** -/
theorem copies_of_processed {r : IntervalRetry B}
    (hr : (processed e m t).intervalRetry.get x = some r) :
    if WritesIntervalRetry e m t x then Copies r.toMessageRecord m
    else t.intervalRetry.get x = some r := by
  by_cases hok : (MRFServiceImpl.process e m t).1.isOk = true
  · split
    · next hw =>
        rcases hw with ⟨hnone, -⟩ | ⟨-, hf, hpos, rfl, hc⟩
        · rcases (processed_applied e m t).intervalRetry_copies hr with hr₀ | ⟨hcopy, -⟩
          · rw [hnone] at hr₀
            cases hr₀
          · exact hcopy
        · rw [processed_checkin_of_ok hok hf hpos hc, Tables.setIntervalRetry_intervalRetry,
            Table.get_update, if_pos rfl] at hr
          obtain ⟨r₀, -, rfl⟩ := Option.map_eq_some_iff.mp hr
          exact copies_of_ne (by rw [hf]; decide) rfl rfl rfl rfl rfl
    · next hw =>
        rcases (processed_applied e m t).intervalRetry_copies hr with
          hr₀ | ⟨-, hf, hnone | ⟨hpos, rfl, hc⟩⟩
        · exact hr₀
        · exact absurd (.inl ⟨hnone, by rw [hr]; exact Option.some_ne_none r⟩) hw
        · exact absurd (.inr ⟨hok, hf, hpos, rfl, hc⟩) hw
  · have hsame := processed_of_not_ok hok
    rw [hsame] at hr
    rw [if_neg]
    · exact hr
    · rintro (⟨hnone, hsome⟩ | ⟨hok', -⟩)
      · exact hsome (by rw [hsame]; exact hnone)
      · exact hok hok'

/-- A row that a message writes has content, and is due at the message's time. -/
theorem WritesIntervalRetry.written {r : IntervalRetry B} (h : WritesIntervalRetry e m t x)
    (hr : (processed e m t).intervalRetry.get x = some r) :
    hasContent m.retryQueueName m.businessMsg = true ∧ r.nextExecAt = nextExecAt e m := by
  rcases h with ⟨hnone, -⟩ | ⟨hok, hf, hpos, rfl, hc⟩
  · obtain ⟨hc, rfl⟩ := (processed_applied e m t).intervalRetry_added hnone hr
    exact ⟨hc, rfl⟩
  · rw [processed_checkin_of_ok hok hf hpos hc, Tables.setIntervalRetry_intervalRetry,
      Table.get_update, if_pos rfl] at hr
    obtain ⟨r₀, -, rfl⟩ := Option.map_eq_some_iff.mp hr
    exact ⟨hc, rfl⟩

/-- **The rows of `recover` after a message**: a new row has the fields of the message. -/
theorem Applied.recover_copies (h : Applied e m t t') {r : Recover B}
    (hr : t'.recover.get x = some r) :
    (t.recover.get x = none ∧ Copies r.toMessageRecord m) ∨
      ∃ r₀, t.recover.get x = some r₀ ∧ SameContent r.toMessageRecord r₀.toMessageRecord := by
  have same : ∀ r₀, t.recover.get x = some r₀ → r = r₀ →
      ∃ r₀, t.recover.get x = some r₀ ∧ SameContent r.toMessageRecord r₀.toMessageRecord := by
    rintro r₀ hr₀ rfl
    exact ⟨r, hr₀, rfl, rfl, rfl, rfl, rfl⟩
  cases h with
  | cleanRecover hf => exact .inr (same r (Table.get_delete_inv hr).2 rfl)
  | resendForRecover hf =>
      rw [Tables.setRecover_recover, Table.get_update] at hr
      rcases Table.update_inv hr with hr | ⟨-, r₀, hr₀, rfl⟩
      · exact .inr (same r hr rfl)
      · exact .inr ⟨r₀, hr₀, rfl, rfl, rfl, rfl, rfl⟩
  | moveToRecover hf hid hrow hcon hu =>
      rcases Table.get_insert_inv hu hr with hr | ⟨he, rfl⟩
      · exact .inr (same r hr rfl)
      · subst he
        exact .inl ⟨Table.get_eq_none_of_insert hu,
          copies_of_ne (by rw [hf]; exact nofun) rfl rfl rfl rfl rfl⟩
  | immediateToRecover hf hnew hcon hu =>
      rcases Table.get_insert_inv hu hr with hr | ⟨he, rfl⟩
      · exact .inr (same r hr rfl)
      · subst he
        exact .inl ⟨Table.get_eq_none_of_insert hu,
          copies_of_ne (by rw [hf]; exact nofun) rfl rfl rfl rfl rfl⟩
  | directToRecover hf hid hcon hu =>
      rcases Table.get_insert_inv hu hr with hr | ⟨he, rfl⟩
      · exact .inr (same r hr rfl)
      · subst he
        exact .inl ⟨Table.get_eq_none_of_insert hu, rfl, rfl, by rw [if_pos hf]; rfl⟩
  | _ => exact .inr (same r hr rfl)

/-! ### Rows and copies -/

/-- The copy was read from a row that the message had last written. -/
def ReadFrom (reading : Option (Reading B)) (r : MessageRecord B) : Prop :=
  ∃ w, reading = some (r.msgID, w) ∧ Copies r w

/-- Every row, and every copy on its way, has the fields that the ledger says. -/
structure Audited (p : State B × Ledger B) : Prop where
  intervalRetry : ∀ x r, p.1.tables.intervalRetry.get x = some r →
    ∃ w, p.2.intervalRetry x = some w ∧ Copies r.toMessageRecord w
  recover : ∀ x r, p.1.tables.recover.get x = some r →
    ∃ w, p.2.recover x = some w ∧ Copies r.toMessageRecord w
  poller : ∀ i r, p.1.pollers i = .selected r ∨ p.1.pollers i = .task r →
    ReadFrom (p.2.pollers i) r.toMessageRecord
  worker : ∀ v r, p.1.workers v = some r → ReadFrom (p.2.workers v) r.toMessageRecord
  request : ∀ i act r, p.1.requests i = some act → act.state.record = some r →
    ReadFrom (p.2.requests i) r.toMessageRecord
  conform : RequestsConform p.1

/-- A house keeper moves a batch in the step that reads it. -/
def MovesAtOnce (_ : State B × Ledger B) (a : Action B) : Prop :=
  ∀ k faults, a ≠ .moveHouseKeep k faults

omit [BusinessMsg B] in
theorem sameContent_refl (r : MessageRecord B) : SameContent r r := ⟨rfl, rfl, rfl, rfl, rfl⟩

omit [BusinessMsg B] in
/-- A check-out leaves the content. -/
theorem sameContent_checkedOut (now : Datetime) (r : IntervalRetry B) :
    SameContent (IntervalRetryDAO.checkedOut now r).toMessageRecord r.toMessageRecord := by
  unfold IntervalRetryDAO.checkedOut
  split <;> exact ⟨rfl, rfl, rfl, rfl, rfl⟩

/-- The rows of `interval_retry` after a step that applies no message. -/
theorem State.Wrote.intervalRetry_same (h : Wrote cfg s a t') (hm : s.message a = none)
    {r : IntervalRetry B} (hr : t'.intervalRetry.get x = some r) :
    ∃ r₀, s.tables.intervalRetry.get x = some r₀ ∧
      SameContent r.toMessageRecord r₀.toMessageRecord := by
  cases h with
  | applied hm' h =>
      rw [hm] at hm'
      cases hm'
  | checkOut ha hp =>
      rw [Tables.setIntervalRetry_intervalRetry, Table.get_update] at hr
      rcases Table.update_inv hr with hr | ⟨-, r₀, hr₀, rfl⟩
      · exact ⟨r, hr, sameContent_refl _⟩
      · exact ⟨r₀, hr₀, sameContent_checkedOut _ r₀⟩
  | houseKept hb hu => exact ⟨r, (Table.get_deleteAll_inv hr).2, sameContent_refl _⟩
  | _ => exact ⟨r, hr, sameContent_refl _⟩

/-- The rows of `recover` after a step that applies no message: a new row is a copy that a house
keeper made. -/
theorem State.Wrote.recover_same (h : Wrote cfg s a t') (hm : s.message a = none)
    (hone : ∀ k faults, a ≠ .moveHouseKeep k faults) {r : Recover B}
    (hr : t'.recover.get x = some r) :
    (s.tables.recover.get x = none ∧ ∃ r₀, s.tables.intervalRetry.get x = some r₀ ∧
        SameContent r.toMessageRecord r₀.toMessageRecord) ∨
      ∃ r₀, s.tables.recover.get x = some r₀ ∧
        SameContent r.toMessageRecord r₀.toMessageRecord := by
  cases h with
  | applied hm' h =>
      rw [hm] at hm'
      cases hm'
  | @houseKept rows hb u hu =>
      have hr : u.get x = some r := hr
      cases hget : s.tables.recover.get x with
      | some r₀ =>
          have hkeep := Table.get_insertAll_of_ne_none hu (k := x) (by rw [hget]; exact nofun)
          rw [hr, hget] at hkeep
          cases hkeep
          exact .inr ⟨r, rfl, sameContent_refl _⟩
      | none =>
          rcases Table.get_insertAll_inv hu hr with hr₀ | hmem
          · rw [hget] at hr₀
            cases hr₀
          · obtain ⟨cur, hcur, rfl⟩ := List.mem_map.mp hmem
            have hx : cur.msgID = x := Table.key_of_get hr
            -- one round reads its batch in the step that moves it, so the row is still there
            have hread : s.outOfThreshold cfg = some rows := by
              cases a with
              | moveHouseKeep k faults => exact absurd rfl (hone k faults)
              | houseKeepRound faults => exact hb
              | _ => cases hb
            have hrow := stored_of_outOfThreshold hread cur hcur
            rw [hx] at hrow
            exact .inl ⟨rfl, cur, hrow, rfl, rfl, rfl, rfl, rfl⟩
  | checkOutRecover hc =>
      rw [Tables.setRecover_recover, Table.get_update] at hr
      rcases Table.update_inv hr with hr | ⟨-, r₀, hr₀, rfl⟩
      · exact .inr ⟨r, hr, sameContent_refl _⟩
      · exact .inr ⟨r₀, hr₀, rfl, rfl, rfl, rfl, rfl⟩
  | deleteRecover hc => exact .inr ⟨r, (Table.get_delete_inv hr).2, sameContent_refl _⟩
  | _ => exact .inr ⟨r, hr, sameContent_refl _⟩

variable {L : Ledger B}

/-- Every row of `interval_retry` keeps its last writer. -/
theorem Audited.intervalRetry_step (hs : Audited (s, L)) (h : Stepped cfg s a s') (x : Int)
    (r : IntervalRetry B) (hr : s'.tables.intervalRetry.get x = some r) :
    ∃ w, (L.after s a s').intervalRetry x = some w ∧ Copies r.toMessageRecord w := by
  cases hm : s.message a with
  | none =>
      obtain ⟨r₀, hr₀, hsame⟩ := h.wrote.intervalRetry_same hm hr
      obtain ⟨w, hw, hc⟩ := hs.intervalRetry x r₀ hr₀
      exact ⟨w, by simpa only [Ledger.after, hm] using hw, hc.of_same hsame⟩
  | some p =>
      obtain ⟨c, m⟩ := p
      rw [h.tables_eq hm] at hr
      have hcopy := copies_of_processed hr
      simp only [Ledger.after, hm]
      split
      · next hw => exact ⟨m, rfl, by rwa [if_pos hw] at hcopy⟩
      · next hw =>
          rw [if_neg hw] at hcopy
          exact hs.intervalRetry x r hcopy

/-- Every row of `recover` keeps its last writer. -/
theorem Audited.recover_step (hs : Audited (s, L)) (h : Stepped cfg s a s')
    (hone : ∀ k faults, a ≠ .moveHouseKeep k faults) (x : Int) (r : Recover B)
    (hr : s'.tables.recover.get x = some r) :
    ∃ w, (L.after s a s').recover x = some w ∧ Copies r.toMessageRecord w := by
  have hsome : s'.tables.recover.get x ≠ none := by rw [hr]; exact Option.some_ne_none r
  -- a row that was there is still the row of its writer
  have kept : ∀ r₀, s.tables.recover.get x = some r₀ →
      SameContent r.toMessageRecord r₀.toMessageRecord →
      ∃ w, (L.after s a s').recover x = some w ∧ Copies r.toMessageRecord w := by
    intro r₀ hr₀ hsame
    obtain ⟨w, hw, hc⟩ := hs.recover x r₀ hr₀
    refine ⟨w, ?_, hc.of_same hsame⟩
    simp only [Ledger.after, hr₀, reduceCtorEq, false_and, if_false]
    exact hw
  cases hm : s.message a with
  | none =>
      rcases h.wrote.recover_same hm hone hr with ⟨hnone, r₀, hr₀, hsame⟩ | ⟨r₀, hr₀, hsame⟩
      · obtain ⟨w, hw, hc⟩ := hs.intervalRetry x r₀ hr₀
        refine ⟨w, ?_, hc.of_same hsame⟩
        simp only [Ledger.after, hm, if_pos (And.intro hnone hsome)]
        exact hw
      · exact kept r₀ hr₀ hsame
  | some p =>
      obtain ⟨c, m⟩ := p
      have happ := processed_applied (s.env c) m s.tables
      rw [← h.tables_eq hm] at happ
      rcases happ.recover_copies hr with ⟨hnone, hc⟩ | ⟨r₀, hr₀, hsame⟩
      · exact ⟨m, by simp only [Ledger.after, hm, if_pos (And.intro hnone hsome)], hc⟩
      · exact kept r₀ hr₀ hsame

/-- A poll thread knows who wrote the row it has. -/
theorem Audited.poller_step (hs : Audited (s, L)) (h : Stepped cfg s a s') (i : Nat)
    (r : IntervalRetry B) (hi : s'.pollers i = .selected r ∨ s'.pollers i = .task r) :
    ReadFrom ((L.after s a s').pollers i) r.toMessageRecord := by
  rcases h.pollers_inv i with
    ⟨hsame, ha⟩ | ⟨y, r', rfl, hr, hsel⟩ | ⟨raises, r', rfl, hsel, hres⟩ | ⟨w, -, hidle⟩
  · rw [Ledger.after_pollers ha]
    exact hs.poller i r (hsame ▸ hi)
  · rw [hsel] at hi
    obtain rfl : r' = r := by simpa using hi
    obtain ⟨w, hw, hc⟩ := hs.intervalRetry y r' hr
    have hy : r'.msgID = y := Table.key_of_get hr
    exact ⟨w, by simp only [Ledger.after, if_true]; rw [hw, hy]; rfl, hc⟩
  · rw [hres] at hi
    split at hi
    · obtain rfl : r' = r := by simpa using hi
      exact hs.poller i r' (.inl hsel)
    · rcases hi with hi | hi <;> cases hi
  · rw [hidle] at hi
    rcases hi with hi | hi <;> cases hi

/-- A worker knows who wrote the row it has. -/
theorem Audited.worker_step (hs : Audited (s, L)) (h : Stepped cfg s a s') (v : Nat)
    (r : IntervalRetry B) (hv : s'.workers v = some r) :
    ReadFrom ((L.after s a s').workers v) r.toMessageRecord := by
  rcases h.workers_inv hv with ⟨hv, ha⟩ | ⟨i, rfl, hi⟩
  · rw [Ledger.after_workers ha]
    exact hs.worker v r hv
  · simp only [Ledger.after, if_true]
    exact hs.poller i r (.inr hi)

omit [BusinessMsg B] in
/-- A request that reads has the record that was read. -/
theorem requestProtocol_getRecover {st : RequestState B} {y : Int}
    {res : Except String (RecoverOp.Res (.getRecover y : RecoverOp B))} {r : Recover B}
    (hr : (requestProtocol.next st (.getRecover y) res).record = some r) : res = .ok (some r) := by
  rcases res with e | _ | r'
  · cases st <;> cases hr
  · cases st <;> cases hr
  · have hgot : (RequestState.got r').record = some r := by cases st <;> exact hr
    cases hgot
    rfl

/-- A request knows who wrote the record it has. -/
theorem Audited.request_step (hs : Audited (s, L)) (h : Stepped cfg s a s') (i : Nat)
    (act : Request B) (r : Recover B) (hi : s'.requests i = some act)
    (hr : act.state.record = some r) :
    ReadFrom ((L.after s a s').requests i) r.toMessageRecord := by
  rcases h.requests_inv hi with
    ⟨hi, ha⟩ | ⟨req, rfl⟩ | ⟨raises, found, act₀, op, k, rfl, hi₀, hk, rfl⟩
  · rw [Ledger.after_requests ha]
    exact hs.request i act r hi hr
  · cases hr
  · have hcall : s.call (.requestStep i raises found) = some op := call_requestStep hi₀ hk
    by_cases hop : ∃ y, op = .getRecover y
    · obtain ⟨y, rfl⟩ := hop
      have hget := serve_getRecover (requestProtocol_getRecover hr)
      obtain ⟨w, hw, hc⟩ := hs.recover y r hget
      have hy : r.msgID = y := Table.key_of_get hget
      exact ⟨w, by simp only [Ledger.after, hcall, if_true]; rw [hw, hy]; rfl, hc⟩
    · have hr₀ : act₀.state.record = some r := by
        refine (requestProtocol_record hr).resolve_right ?_
        rintro ⟨y, hy, -⟩
        exact hop ⟨y, hy⟩
      have hold := hs.request i act₀ r hi₀ hr₀
      simp only [Ledger.after, hcall]
      split
      · next y _ hy => exact absurd ⟨y, Option.some.inj hy⟩ hop
      · exact hold

/-- **Every step keeps the rows and the copies with their writers.** -/
theorem Audited.step {p p' : State B × Ledger B} (hp : Audited p)
    (h : auditedStep cfg p a = some p') (hone : MovesAtOnce p a) : Audited p' := by
  obtain ⟨s, L⟩ := p
  obtain ⟨s', hs', rfl⟩ := Option.map_eq_some_iff.mp h
  have hst := step_stepped hs'
  exact ⟨hp.intervalRetry_step hst, hp.recover_step hst hone, hp.poller_step hst,
    hp.worker_step hst, hp.request_step hst, hp.conform.step hst⟩

omit [BusinessMsg B] in
theorem audited_empty : Audited ((State.empty, Ledger.empty) : State B × Ledger B) where
  intervalRetry _ _ hr := nomatch hr
  recover _ _ hr := nomatch hr
  poller _ _ hi := hi.elim nofun nofun
  worker _ _ hv := nomatch hv
  request _ _ _ hi := nomatch hi
  conform _ _ hi := nomatch hi

/-- The message `m`, put on a retry queue with the routing key, is what `w` left in the row
of `x`. -/
structure Faithful (routingKey : String) (m : RetryMessage B) (fromRecover : Bool) (x : Int)
    (w : RetryMessage B) : Prop where
  msgID : m.msgID = x
  messageFlag : m.messageFlag = .defaultMsgFlag
  isFromRecover : m.isFromRecover = fromRecover
  routingKey : routingKey = w.retryQueueName
  retryQueueName : m.retryQueueName = w.retryQueueName
  businessMsg : m.businessMsg = w.businessMsg
  counts : (m.retryInterval, m.retriedTimes, m.maxRetryTimes) =
    if w.messageFlag = .msgDirectToRecover then (-1, -1, -1)
    else (w.retryInterval, w.retriedTimes, w.maxRetryTimes)

omit [BusinessMsg B] in
/-- What is put on a retry queue is what the last writer left. -/
theorem Audited.puts {k : String} (hs : Audited (s, L)) (h : s.puts a = some (k, m)) :
    ∃ x w, L.reading a = some (x, w) ∧ Faithful k m a.fromRecover x w := by
  cases a with
  | sendRetry v found raises =>
      obtain ⟨r, hr, h⟩ := Option.bind_eq_some_iff.mp h
      obtain ⟨rfl, rfl⟩ := sentRetry_eq_some h
      obtain ⟨w, hw, hc⟩ := hs.worker v r hr
      exact ⟨r.msgID, w, hw, rfl, rfl, rfl, hc.retryQueueName, hc.retryQueueName, hc.businessMsg,
        hc.counts⟩
  | requestStep i raises found =>
      simp only [State.puts] at h
      split at h
      · next st k' m' f hi =>
          split at h
          · cases h
          · have hallow := (hs.conform i _ hi).allows rfl
            obtain ⟨r, rfl, rfl, rfl, -⟩ := requestProtocol_send hallow
            cases h
            obtain ⟨w, hw, hc⟩ := hs.request i _ r hi rfl
            exact ⟨r.msgID, w, hw, rfl, rfl, rfl, hc.retryQueueName, hc.retryQueueName,
              hc.businessMsg, hc.counts⟩
      · cases h
  | _ => cases h

omit [BusinessMsg B] in
/-- A step of a request adds what it puts. -/
theorem State.puts_requestStep {i : Nat} {raises found : Bool} {act : Request B} {op : RecoverOp B}
    {f : Except String op.Res → RecoverProg B (ProcessResult ⊕ BatchProcessResult)}
    (hi : s.requests i = some act) (hk : act.rest = .call op f) :
    (s.serve raises found op).2.retryQueues =
      s.retryQueues ++ ((s.puts (.requestStep i raises found)).map fun p => p.2).toList := by
  obtain ⟨st, rest⟩ := act
  cases hk
  simp only [State.puts, hi]
  by_cases hop : ∃ k m, op = .convertAndSend k m
  · obtain ⟨k, m, rfl⟩ := hop
    cases raises with
    | true => exact (List.append_nil _).symm
    | false => rfl
  · rw [serve_retryQueues raises found op fun k m he => hop ⟨k, m, he⟩]
    cases op with
    | convertAndSend k m => exact absurd ⟨k, m, rfl⟩ hop
    | _ => exact (List.append_nil _).symm

/-- `puts` is what a step adds to the retry queues, the clients' own messages aside. -/
theorem State.Stepped.retryQueues_eq (h : Stepped cfg s a s') (hp : ∀ m, a ≠ .publish m)
    (hd : ∀ n, a ≠ .deliver n) :
    s'.retryQueues = s.retryQueues ++ ((s.puts a).map fun p => p.2).toList := by
  cases h with
  | publish m => exact absurd rfl (hp m)
  | deliver hn => exact absurd rfl (hd _)
  | @sendRetry v found raises r hv =>
      simp only [State.puts, hv, Option.bind_some, append_sentRetry]
  | requestStep hi hk => exact State.puts_requestStep hi hk
  | _ => exact (List.append_nil _).symm

/-- The ledger only watches: every run of the center is a run with it. -/
theorem audited_run {tr : List (State B × Action B)} (h : Run (stepOf (State.step cfg)) s tr s')
    (L : Ledger B) : ∃ tr' L', Run (stepOf (auditedStep cfg)) (s, L) tr' (s', L') ∧
      tr'.map (fun p => (p.1.1, p.2)) = tr := by
  induction h generalizing L with
  | nil s => exact ⟨[], L, .nil _, rfl⟩
  | @cons s s₁ s' a tr hstep _ ih =>
      obtain ⟨tr', L', hrun, rfl⟩ := ih (L.after s a s₁)
      have hfirst : stepOf (auditedStep cfg) (s, L) a (s₁, L.after s a s₁) := by
        simp only [stepOf, auditedStep, show s.step cfg a = some s₁ from hstep, Option.map_some]
      exact ⟨_, L', .cons hfirst hrun, rfl⟩

/-- What is put is put by a step the center can take. -/
theorem State.step_of_puts {k : String} (h : s.puts a = some (k, m)) : (s.step cfg a).isSome := by
  cases a with
  | sendRetry v found raises =>
      obtain ⟨r, hr, -⟩ := Option.bind_eq_some_iff.mp h
      have hst : Stepped cfg s (.sendRetry v found raises) _ := .sendRetry hr
      rw [hst.step_eq]
      rfl
  | requestStep i raises found =>
      simp only [State.puts] at h
      split at h
      · next st k' m' f hi =>
          have hst : Stepped cfg s (.requestStep i raises found) _ := .requestStep hi rfl
          rw [hst.step_eq]
          rfl
      · cases h
  | _ => cases h

/-- **Payload fidelity.**  What a step of the center adds to the retry queues, the clients' own
messages aside, is what it puts there, and that carries what the client's message carried that had
last written the row when the row was read for sending. -/
theorem puts_faithful {tr : List ((State B × Ledger B) × Action B)}
    (h : Run (Guarded (stepOf (auditedStep cfg)) MovesAtOnce) (State.empty, Ledger.empty) tr
      (s, L)) (a : Action B) :
    (∀ s', s.step cfg a = some s' → (∀ m, a ≠ .publish m) → (∀ n, a ≠ .deliver n) →
      s'.retryQueues = s.retryQueues ++ ((s.puts a).map fun p => p.2).toList) ∧
    ∀ k m, s.puts a = some (k, m) → (s.step cfg a).isSome ∧
      ∃ x w, L.reading a = some (x, w) ∧ Faithful k m a.fromRecover x w := by
  have haudited : Audited (s, L) :=
    h.invariant (fun _ _ _ hstep hp => hp.step hstep.1 hstep.2) audited_empty
  exact ⟨fun _ hs hp hd => (step_stepped hs).retryQueues_eq hp hd,
    fun _ _ hput => ⟨State.step_of_puts hput, haudited.puts hput⟩⟩

/-- A first failure is stored, polled and handed to a worker. -/
def polled : List (Action String) :=
  [.process (.sample 1) (sampleMessage .intervalMsgDoRetry 0 "post 1"), .select 0 1,
    .checkOut 0 false, .dispatch 0 0]

/-- The worker sends the row: the queue has the message, and the message is the first failure's. -/
theorem puts_faithful_sample :
    ∃ p s', exec (auditedStep .sample) (State.empty, Ledger.empty) polled = some p ∧
      p.1.step .sample (.sendRetry 0 true false) = some s' ∧
      s'.retryQueues = [sampleMessage .defaultMsgFlag 1 "post 1"] ∧
      ∃ x w, p.2.reading (.sendRetry 0 true false) = some (x, w) ∧
        Faithful "feed_retry" (sampleMessage .defaultMsgFlag 1 "post 1") false x w := by
  obtain ⟨p, hp⟩ : ∃ p, exec (auditedStep .sample) (State.empty, Ledger.empty) polled = some p :=
    ⟨_, rfl⟩
  have hrun := (Run.of_exec hp).to_guarded (G := MovesAtOnce) fun p hp k faults => by
    have ha := mem_trace hp
    rintro he
    simp [polled, he] at ha
  obtain ⟨hadds, hfaithful⟩ := puts_faithful hrun (.sendRetry 0 true false)
  have hput : p.1.puts (.sendRetry 0 true false) =
      some ("feed_retry", sampleMessage .defaultMsgFlag 1 "post 1") := by cases hp; rfl
  obtain ⟨henabled, hcopy⟩ := hfaithful _ _ hput
  obtain ⟨s', hs'⟩ := Option.isSome_iff_exists.mp henabled
  have hqueue := hadds s' hs' nofun nofun
  have hnone : p.1.retryQueues = [] := by cases hp; rfl
  rw [hnone, hput] at hqueue
  exact ⟨p, s', hp, hs', hqueue, hcopy⟩

end MRF.Center
