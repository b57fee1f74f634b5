import MRF.Center.State

/-!
# Center — Storage

What the center keeps, over whole runs.

* `stored_run`: an id that has a row keeps one, in `interval_retry` or in `recover`, until a clean
  or an admin delete for the id is applied; the exception is an `INTERVAL_MSG_DO_RECOVER` without
  content.
* `disjoint_run`: no id has a row in both tables, as long as no `MSG_DIRECT_TO_RECOVER` comes for
  an id that is in `interval_retry`.
-/

namespace MRF.Center
open MRF.Library State MRFMessageProcessService

variable {B : Type} [BusinessMsg B] {e : Env} {m : RetryMessage B} {t t' : Tables B} {x : Int}
  {cfg : MRFServerConfig} {s s' : State B} {a : Action B} {tr : List (State B × Action B)}

/-! ### Stored ids -/

/-- The message deletes a row of `interval_retry` and adds none to `recover`: it has no content,
and the delete does not raise. -/
def Drops (e : Env) (t : Tables B) (m : RetryMessage B) : Prop :=
  m.messageFlag = .intervalMsgDoRecover ∧ t.intervalRetry.get m.msgID ≠ none ∧
    hasContent m.retryQueueName m.businessMsg = false ∧ e.faults.head? ≠ some true

/-- A clean of either table. -/
def Cleans (m : RetryMessage B) (x : Int) : Prop :=
  (m.messageFlag = .cleanRecover ∨ m.messageFlag = .cleanIntervalRetry) ∧ m.msgID = x

theorem Applied.stored (h : Applied e m t t') (hd : ¬ Drops e t m) (hc : ¬ Cleans m x)
    (hx : t.Stored x) : t'.Stored x := by
  cases h with
  | unchanged => exact hx
  | cleanRecover hf =>
      have hne : x ≠ m.msgID := fun he => hc ⟨.inl hf, he.symm⟩
      simpa [Tables.Stored, Table.get_delete_eq_none, hne] using hx
  | cleanIntervalRetry hf =>
      have hne : x ≠ m.msgID := fun he => hc ⟨.inr hf, he.symm⟩
      simpa [Tables.Stored, Table.get_delete_eq_none, hne] using hx
  | resendForRecover hf =>
      simpa only [Tables.Stored, Tables.setRecover_recover, Tables.setRecover_intervalRetry, ne_eq,
        Table.get_update_eq_none] using hx
  | checkin hf hid hcon =>
      simpa only [Tables.Stored, Tables.setIntervalRetry_recover,
        Tables.setIntervalRetry_intervalRetry, ne_eq, Table.get_update_eq_none] using hx
  | addIntervalRetry hf hid hnew hcon hu =>
      exact hx.imp_left fun hx hn => hx ((Table.get_insert_eq_none hu).mp hn).2
  | moveToRecover hf hid hr hcon hu =>
      -- the row of the message moves to the other table, and the other rows stay
      by_cases he : x = m.msgID
      · exact .inr fun hn => ((Table.get_insert_eq_none hu).mp hn).1 he
      · refine hx.imp (fun hx hn => ?_) fun hx hn => hx ((Table.get_insert_eq_none hu).mp hn).2
        exact (Table.get_delete_eq_none.mp hn).elim he hx
  | moveToNowhere hf hid hr hcon hnf => exact absurd ⟨hf, hr, hcon, hnf⟩ hd
  | immediateToRecover hf hnew hcon hu =>
      exact hx.imp_right fun hx hn => hx ((Table.get_insert_eq_none hu).mp hn).2
  | directToRecover hf hid hcon hu =>
      exact hx.imp_right fun hx hn => hx ((Table.get_insert_eq_none hu).mp hn).2

/-- The action does not apply a message that drops a stored row. -/
def NothingDropped (s : State B) (a : Action B) : Prop :=
  ∀ c m, s.message a = some (c, m) → ¬ Drops (s.env c) s.tables m

/-- The action applies a clean for `x`, or is an admin delete of `x`. -/
def Removes (s : State B) (a : Action B) (x : Int) : Prop :=
  (∃ c m, s.message a = some (c, m) ∧ Cleans m x) ∨ s.call a = some (.deleteRecover x)

theorem State.Wrote.stored (h : Wrote cfg s a t') (hd : NothingDropped s a) (hr : ¬ Removes s a x)
    (hx : s.tables.Stored x) : t'.Stored x := by
  cases h with
  | nothing => exact hx
  | applied hm h => exact h.stored (hd _ _ hm) (fun hc => hr (.inl ⟨_, _, hm, hc⟩)) hx
  | checkOut ha hp =>
      simpa only [Tables.Stored, Tables.setIntervalRetry_recover,
        Tables.setIntervalRetry_intervalRetry, ne_eq, Table.get_update_eq_none] using hx
  | @houseKept rows hb u hu =>
      -- an id leaves `interval_retry` only with a row for it in `recover`
      by_cases hrec : u.get x = none
      · left
        intro hn
        obtain ⟨hmem, hrec⟩ := (Table.get_insertAll_eq_none hu).mp hrec
        rcases Table.get_deleteAll_eq_none.mp hn with hx' | hx'
        · refine hmem ?_
          simpa [Function.comp_def, constructRecover] using hx'
        · exact hx.elim (fun h => h hx') fun h => h hrec
      · exact .inr hrec
  | checkOutRecover hc =>
      simpa only [Tables.Stored, Tables.setRecover_recover, Tables.setRecover_intervalRetry, ne_eq,
        Table.get_update_eq_none] using hx
  | deleteRecover hc =>
      refine hx.imp_right fun hx hn => ?_
      rcases Table.get_delete_eq_none.mp hn with he | hn
      · exact hr (.inr (he ▸ hc))
      · exact hx hn

/-- An admin's delete leaves the id without a row only if it finds the row in `recover`. -/
theorem State.Wrote.deleteRecover_inv (h : Wrote cfg s a t')
    (hc : s.call a = some (.deleteRecover x)) (hx : s.tables.Stored x) :
    t'.Stored x ∨ ∃ r, s.tables.recover.get x = some r ∧ t'.recover.get x = none := by
  obtain ⟨i, raises, found, rfl⟩ : ∃ i raises found, a = .requestStep i raises found := by
    cases a with
    | requestStep i raises found => exact ⟨i, raises, found, rfl⟩
    | _ => cases hc
  cases h with
  | nothing => exact .inl hx
  | applied hm h => cases hm
  | checkOut ha hp => cases ha
  | houseKept hb hu => cases hb
  | checkOutRecover hc' =>
      rw [hc] at hc'
      cases hc'
  | deleteRecover hc' =>
      rw [hc] at hc'
      cases hc'
      cases hr : s.tables.recover.get x with
      | none => exact .inl (.inl (hx.resolve_right fun hn => hn hr))
      | some r => exact .inr ⟨r, rfl, Table.get_delete_eq_none.mpr (.inl rfl)⟩

/-- **A stored id stays stored**, in every run that drops no row, until a clean or an admin
delete for the id is applied. -/
theorem stored_run (h : Run (Guarded (stepOf (State.step cfg)) NothingDropped) s tr s')
    (hr : ∀ p ∈ tr, ¬ Removes p.1 p.2 x) (hx : s.tables.Stored x) : s'.tables.Stored x := by
  induction h with
  | nil => exact hx
  | cons hstep _ ih =>
      refine ih (fun p hp => hr p (List.mem_cons_of_mem _ hp)) ?_
      exact (step_wrote hstep.1).stored hstep.2 (hr _ List.mem_cons_self) hx

theorem stored_run_sample : (sampleState.process (.sample 2)
    (sampleMessage .intervalMsgDoRecover 1 "post 1")).tables.Stored 1 := by
  have hrun : Run (Guarded (stepOf (State.step .sample)) NothingDropped) sampleState
      [(sampleState, .process (.sample 2) (sampleMessage .intervalMsgDoRecover 1 "post 1"))]
      (sampleState.process (.sample 2) (sampleMessage .intervalMsgDoRecover 1 "post 1")) := by
    refine Run.one ⟨rfl, ?_⟩
    rintro c m ⟨⟩ ⟨-, -, hc, -⟩
    cases hc
  refine stored_run hrun ?_ (by decide)
  simp [Removes, State.message, State.call, Cleans, sampleMessage]

/-- A message without content takes the stored row away. -/
theorem not_stored_sample :
    Run (stepOf (State.step .sample)) sampleState
        [(sampleState, .process (.sample 2) (sampleMessage .intervalMsgDoRecover 1 ""))]
        (sampleState.process (.sample 2) (sampleMessage .intervalMsgDoRecover 1 "")) ∧
      ¬ Removes sampleState (.process (.sample 2) (sampleMessage .intervalMsgDoRecover 1 "")) 1 ∧
      sampleState.tables.Stored 1 ∧
      ¬ (sampleState.process (.sample 2)
        (sampleMessage .intervalMsgDoRecover 1 "")).tables.Stored 1 := by
  refine ⟨Run.one rfl, ?_, by decide, by decide⟩
  simp [Removes, State.message, State.call, Cleans, sampleMessage]

/-- A message with content that asks for an id is stored under it, if the database does not
raise. -/
theorem processed_stored (he : e.faults = []) (hask : asksForId m = true) (hnew : 0 < e.newId)
    (hfresh : ¬ t.Stored e.newId) (hc : hasContent m.retryQueueName m.businessMsg = true) :
    (processed e m t).Stored e.newId := by
  simp only [Tables.Stored, not_or, not_not] at hfresh
  cases hf : m.messageFlag with
  | intervalMsgDoRetry =>
      have hid : m.msgID ≤ 0 := by simpa [asksForId, hf] using hask
      obtain ⟨u, hu⟩ := Table.insert_isSome (t := t.intervalRetry)
        (r := IntervalRetryDAO.insertedRow e.currentTimestamp
          (newIntervalRetry e.newId m (nextExecAt e m))) hfresh.1
      refine .inl fun hn => ?_
      rw [processed, process_addIntervalRetry he hc hf hid hnew hu] at hn
      exact ((Table.get_insert_eq_none hu).mp hn).1 rfl
  | immediateMsgDoRecover =>
      obtain ⟨u, hu⟩ := Table.insert_isSome (t := t.recover)
        (r := RecoverDAO.insertedRow e.currentTimestamp (newRecover e.newId m)) hfresh.2
      refine .inr fun hn => ?_
      rw [processed, process_immediateToRecover he hc hf hnew hu] at hn
      exact ((Table.get_insert_eq_none hu).mp hn).1 rfl
  | msgDirectToRecover =>
      have hid : directId e m = e.newId :=
        if_neg (Int.not_lt.mpr (by simpa [asksForId, hf] using hask))
      obtain ⟨u, hu⟩ := Table.insert_isSome (t := t.recover)
        (r := RecoverDAO.insertedRow e.currentTimestamp (newDirectRecover (directId e m) m))
        (hid ▸ hfresh.2)
      refine .inr fun hn => ?_
      rw [processed, process_directToRecover he hc hf (hid ▸ hnew) hu] at hn
      exact ((Table.get_insert_eq_none hu).mp hn).1 hid.symm
  | _ => simp [asksForId, hf] at hask

/-! ### Disjoint tables -/

/-- No id has a row in both tables. -/
def Tables.Disjoint (t : Tables B) : Prop :=
  ∀ x, t.intervalRetry.get x = none ∨ t.recover.get x = none

/-- `MSG_DIRECT_TO_RECOVER`, with content, for an id that is in `interval_retry`. -/
def DirectWhileRetried (t : Tables B) (m : RetryMessage B) : Prop :=
  StoredDirectly m ∧ 0 < m.msgID ∧ t.intervalRetry.get m.msgID ≠ none

/-- Where a new row comes from: under a generated id, or under the id of the message. -/
theorem Applied.stored_inv (h : Applied e m t t') (hx : t'.Stored x) :
    t.Stored x ∨ (asksForId m = true ∧ x = e.newId) ∨ (0 < m.msgID ∧ x = m.msgID) := by
  cases h with
  | unchanged => exact .inl hx
  | cleanRecover hf =>
      exact .inl (hx.imp_right fun hx hn => hx (Table.get_delete_eq_none.mpr (.inr hn)))
  | cleanIntervalRetry hf =>
      exact .inl (hx.imp_left fun hx hn => hx (Table.get_delete_eq_none.mpr (.inr hn)))
  | resendForRecover hf =>
      left
      simpa only [Tables.Stored, Tables.setRecover_recover, Tables.setRecover_intervalRetry, ne_eq,
        Table.get_update_eq_none] using hx
  | checkin hf hid hcon =>
      left
      simpa only [Tables.Stored, Tables.setIntervalRetry_recover,
        Tables.setIntervalRetry_intervalRetry, ne_eq, Table.get_update_eq_none] using hx
  | addIntervalRetry hf hid hnew hcon hu =>
      by_cases he : x = e.newId
      · exact .inr (.inl ⟨by simpa [asksForId, hf] using hid, he⟩)
      · exact .inl (hx.imp_left fun hx hn => hx ((Table.get_insert_eq_none hu).mpr ⟨he, hn⟩))
  | moveToRecover hf hid hr hcon hu =>
      by_cases he : x = m.msgID
      · exact .inr (.inr ⟨hid, he⟩)
      · refine .inl (hx.imp (fun hx hn => ?_) fun hx hn => ?_)
        · exact hx (Table.get_delete_eq_none.mpr (.inr hn))
        · exact hx ((Table.get_insert_eq_none hu).mpr ⟨he, hn⟩)
  | moveToNowhere hf hid hr hcon =>
      exact .inl (hx.imp_left fun hx hn => hx (Table.get_delete_eq_none.mpr (.inr hn)))
  | immediateToRecover hf hnew hcon hu =>
      by_cases he : x = e.newId
      · exact .inr (.inl ⟨by simp [asksForId, hf], he⟩)
      · exact .inl (hx.imp_right fun hx hn => hx ((Table.get_insert_eq_none hu).mpr ⟨he, hn⟩))
  | directToRecover hf hid hcon hu =>
      by_cases he : x = directId e m
      · subst he
        unfold directId
        split
        · next hpos => exact .inr (.inr ⟨hpos, rfl⟩)
        · next hpos => exact .inr (.inl ⟨by simpa [asksForId, hf] using hpos, rfl⟩)
      · exact .inl (hx.imp_right fun hx hn => hx ((Table.get_insert_eq_none hu).mpr ⟨he, hn⟩))

theorem Applied.disjoint (h : Applied e m t t') (hd : t.Disjoint)
    (hnew : asksForId m = true → ¬ t.Stored e.newId) (hm : ¬ DirectWhileRetried t m) :
    t'.Disjoint := by
  intro x
  cases h with
  | unchanged => exact hd x
  | cleanRecover hf => exact (hd x).imp_right fun hn => Table.get_delete_eq_none.mpr (.inr hn)
  | cleanIntervalRetry hf => exact (hd x).imp_left fun hn => Table.get_delete_eq_none.mpr (.inr hn)
  | resendForRecover hf =>
      simpa only [Tables.setRecover_recover, Tables.setRecover_intervalRetry,
        Table.get_update_eq_none] using hd x
  | checkin hf hid hcon =>
      simpa only [Tables.setIntervalRetry_recover, Tables.setIntervalRetry_intervalRetry,
        Table.get_update_eq_none] using hd x
  | addIntervalRetry hf hid hnewId hcon hu =>
      have hfresh := hnew (by simpa [asksForId, hf] using hid)
      by_cases he : x = e.newId
      · right
        by_contra hn
        exact hfresh (.inr (he ▸ hn))
      · exact (hd x).imp_left fun hn => (Table.get_insert_eq_none hu).mpr ⟨he, hn⟩
  | moveToRecover hf hid hr hcon hu =>
      by_cases he : x = m.msgID
      · exact .inl (Table.get_delete_eq_none.mpr (.inl he))
      · refine (hd x).imp (fun hn => ?_) fun hn => ?_
        · exact Table.get_delete_eq_none.mpr (.inr hn)
        · exact (Table.get_insert_eq_none hu).mpr ⟨he, hn⟩
  | moveToNowhere hf hid hr hcon =>
      exact (hd x).imp_left fun hn => Table.get_delete_eq_none.mpr (.inr hn)
  | immediateToRecover hf hnewId hcon hu =>
      have hfresh := hnew (by simp [asksForId, hf])
      by_cases he : x = e.newId
      · left
        by_contra hn
        exact hfresh (.inl (he ▸ hn))
      · exact (hd x).imp_right fun hn => (Table.get_insert_eq_none hu).mpr ⟨he, hn⟩
  | directToRecover hf hid hcon hu =>
      by_cases he : x = directId e m
      · left
        by_contra hn
        rw [he] at hn
        unfold directId at hn
        split at hn
        · next hpos => exact hm ⟨⟨hf, hcon⟩, hpos, hn⟩
        · next hpos => exact hnew (by simpa [asksForId, hf] using hpos) (.inl hn)
      · exact (hd x).imp_right fun hn => (Table.get_insert_eq_none hu).mpr ⟨he, hn⟩

/-- The ids are as the center issues them: a generated id is new, and a message has the id of a
row or none. -/
structure IssuedIds (s : State B) (a : Action B) : Prop where
  fresh : ∀ c m, s.message a = some (c, m) → asksForId m = true → c.newId ∉ s.issued
  known : ∀ c m, s.message a = some (c, m) → 0 < m.msgID → m.msgID ∈ s.issued

/-- No message is stored directly while its id is in `interval_retry`. -/
def NoDirectWhileRetried (s : State B) (a : Action B) : Prop :=
  ∀ c m, s.message a = some (c, m) → ¬ DirectWhileRetried s.tables m

/-- The invariant behind disjointness: a row, or a row in a batch, has an issued id. -/
structure Sound (s : State B) : Prop where
  disjoint : s.tables.Disjoint
  stored : ∀ x, s.tables.Stored x → x ∈ s.issued
  held : ∀ k rows, s.Held k rows → ∀ r ∈ rows, r.msgID ∈ s.issued

omit [BusinessMsg B] in
theorem sound_empty : Sound (State.empty : State B) where
  disjoint _ := .inl rfl
  stored _ h := h.elim (fun h => absurd rfl h) fun h => absurd rfl h
  held _ _ h := h.elim nofun nofun

omit [BusinessMsg B] in
/-- The rows that a house keeper reads are in the table. -/
theorem State.stored_of_outOfThreshold {rows : List (IntervalRetry B)}
    (h : s.outOfThreshold cfg = some rows) :
    ∀ r ∈ rows, s.tables.intervalRetry.get r.msgID = some r := by
  intro r hr
  obtain ⟨hsel, -⟩ := Option.filter_eq_some_iff.mp h
  unfold IntervalRetryDAO.getIntervalRetriesOutOfThreshold at hsel
  split at hsel
  · cases hsel
  · cases hsel
    exact (Table.mem_select.mp hr).1

theorem State.Wrote.sound (h : Wrote cfg s a t') (hs : Sound s) (hid : IssuedIds s a)
    (hm : NoDirectWhileRetried s a) : t'.Disjoint := by
  cases h with
  | nothing => exact hs.disjoint
  | applied hmsg h =>
      exact h.disjoint hs.disjoint (fun hask hx => hid.fresh _ _ hmsg hask (hs.stored _ hx))
        (hm _ _ hmsg)
  | checkOut ha hp =>
      intro x
      simpa only [Tables.setIntervalRetry_recover, Tables.setIntervalRetry_intervalRetry,
        Table.get_update_eq_none] using hs.disjoint x
  | @houseKept rows hb u hu =>
      intro x
      -- a batch deletes exactly the ids that it inserts
      by_cases hx : x ∈ rows.map fun cur => cur.msgID
      · exact .inl (Table.get_deleteAll_eq_none.mpr (.inl hx))
      · refine (hs.disjoint x).imp (fun hn => ?_) fun hn => ?_
        · exact Table.get_deleteAll_eq_none.mpr (.inr hn)
        · refine (Table.get_insertAll_eq_none hu).mpr ⟨?_, hn⟩
          simpa [Function.comp_def, constructRecover] using hx
  | checkOutRecover hc =>
      intro x
      simpa only [Tables.setRecover_recover, Tables.setRecover_intervalRetry,
        Table.get_update_eq_none] using hs.disjoint x
  | deleteRecover hc =>
      intro x
      exact (hs.disjoint x).imp_right fun hn => Table.get_delete_eq_none.mpr (.inr hn)

/-- Where a stored id comes from. -/
theorem State.Wrote.stored_inv (h : Wrote cfg s a t') (hx : t'.Stored x) :
    s.tables.Stored x ∨
      (∃ c m, s.message a = some (c, m) ∧
        ((asksForId m = true ∧ x = c.newId) ∨ (0 < m.msgID ∧ x = m.msgID))) ∨
      ∃ rows, s.batch cfg a = some rows ∧ ∃ r ∈ rows, x = r.msgID := by
  cases h with
  | nothing => exact .inl hx
  | applied hmsg h =>
      rcases h.stored_inv hx with hx | hx
      · exact .inl hx
      · exact .inr (.inl ⟨_, _, hmsg, hx⟩)
  | checkOut ha hp =>
      left
      simpa only [Tables.Stored, Tables.setIntervalRetry_recover,
        Tables.setIntervalRetry_intervalRetry, ne_eq, Table.get_update_eq_none] using hx
  | @houseKept rows hb u hu =>
      by_cases hmem : x ∈ rows.map fun cur => cur.msgID
      · obtain ⟨r, hr, rfl⟩ := List.mem_map.mp hmem
        exact .inr (.inr ⟨rows, hb, r, hr, rfl⟩)
      · refine .inl (hx.imp (fun hx hn => ?_) fun hx hn => ?_)
        · exact hx (Table.get_deleteAll_eq_none.mpr (.inr hn))
        · refine hx ((Table.get_insertAll_eq_none hu).mpr ⟨?_, hn⟩)
          simpa [Function.comp_def, constructRecover] using hmem
  | checkOutRecover hc =>
      left
      simpa only [Tables.Stored, Tables.setRecover_recover, Tables.setRecover_intervalRetry, ne_eq,
        Table.get_update_eq_none] using hx
  | deleteRecover hc =>
      exact .inl (hx.imp_right fun hx hn => hx (Table.get_delete_eq_none.mpr (.inr hn)))

omit [BusinessMsg B] in
theorem Sound.batch (hs : Sound s) {rows : List (IntervalRetry B)}
    (hb : s.batch cfg a = some rows) : ∀ r ∈ rows, r.msgID ∈ s.issued := by
  intro r hr
  cases a with
  | moveHouseKeep k faults => exact hs.held k rows (.inr hb) r hr
  | houseKeepRound faults =>
      have hread : s.outOfThreshold cfg = some rows := hb
      have hrow := stored_of_outOfThreshold hread r hr
      exact hs.stored _ (.inl (by simp [hrow]))
  | _ => cases hb

theorem Sound.step (h : s.step cfg a = some s') (hs : Sound s) (hid : IssuedIds s a)
    (hm : NoDirectWhileRetried s a) : Sound s' := by
  have hst := step_stepped h
  refine ⟨hst.wrote.sound hs hid hm, fun x hx => ?_, fun k rows hk r hr => ?_⟩
  · rcases hst.wrote.stored_inv hx with hx | ⟨c, m, hmsg, ⟨hask, rfl⟩ | ⟨hpos, rfl⟩⟩ |
      ⟨rows, hb, r, hr, rfl⟩
    · exact hst.issued_subset (hs.stored x hx)
    · rw [hst.issued_eq, hmsg]
      simp [hask]
    · exact hst.issued_subset (hid.known c m hmsg hpos)
    · exact hst.issued_subset (hs.batch hb r hr)
  · rcases hst.held hk with hk | ⟨hk, -⟩ | ⟨-, hrows⟩
    · exact hst.issued_subset (hs.held k rows (.inl hk) r hr)
    · exact hst.issued_subset (hs.held k rows (.inr hk) r hr)
    · have hrow := stored_of_outOfThreshold hrows r hr
      exact hst.issued_subset (hs.stored _ (.inl (by simp [hrow])))

/-- **The tables are disjoint in every reachable state**, as long as no message is stored
directly while its id is in `interval_retry`. -/
theorem disjoint_run
    (h : Run (Guarded (stepOf (State.step cfg)) fun s a => IssuedIds s a ∧ NoDirectWhileRetried s a)
      (State.empty : State B) tr s) : s.tables.Disjoint := by
  refine (h.invariant (I := Sound) ?_ sound_empty).disjoint
  rintro s a s' ⟨hstep, hid, hm⟩ hs
  exact hs.step hstep hid hm

omit [BusinessMsg B] in
theorem issuedIds_process {c : Call} (hnew : asksForId m = true → c.newId ∉ s.issued)
    (hid : 0 < m.msgID → m.msgID ∈ s.issued) : IssuedIds s (.process c m) where
  fresh := by rintro c m ⟨⟩; exact hnew
  known := by rintro c m ⟨⟩; exact hid

/-- The last retry of the message 1 fails, and its row moves to `recover`. -/
theorem disjoint_run_sample :
    (sampleState.tables.intervalRetry.get 1).isSome ∧
      (sampleState.process (.sample 2)
        (sampleMessage .intervalMsgDoRecover 1 "post 1")).tables.intervalRetry.get 1 = none ∧
      ((sampleState.process (.sample 2)
        (sampleMessage .intervalMsgDoRecover 1 "post 1")).tables.recover.get 1).isSome ∧
      (sampleState.process (.sample 2)
        (sampleMessage .intervalMsgDoRecover 1 "post 1")).tables.Disjoint := by
  have hrun : Run (Guarded (stepOf (State.step .sample)) fun s a =>
      IssuedIds s a ∧ NoDirectWhileRetried s a) (State.empty : State String)
      [(.empty, .process (.sample 1) (sampleMessage .intervalMsgDoRetry 0 "post 1")),
        (sampleState, .process (.sample 2) (sampleMessage .intervalMsgDoRecover 1 "post 1"))]
      (sampleState.process (.sample 2) (sampleMessage .intervalMsgDoRecover 1 "post 1")) := by
    refine .cons ⟨rfl, issuedIds_process (by decide) (by decide), ?_⟩
      (.cons ⟨rfl, issuedIds_process (by decide) (by decide), ?_⟩ (.nil _))
    · rintro c m ⟨⟩ ⟨⟨hf, -⟩, -⟩
      cases hf
    · rintro c m ⟨⟩ ⟨⟨hf, -⟩, -⟩
      cases hf
  exact ⟨rfl, rfl, rfl, disjoint_run hrun⟩

/-- A queue that was configured direct-to-recover while its message was in `interval_retry`. -/
theorem not_disjoint_sample :
    Run (Guarded (stepOf (State.step .sample)) IssuedIds) (State.empty : State String)
        [(.empty, .process (.sample 1) (sampleMessage .intervalMsgDoRetry 0 "post 1")),
          (sampleState, .process (.sample 2) (sampleMessage .msgDirectToRecover 1 "post 1"))]
        (sampleState.process (.sample 2) (sampleMessage .msgDirectToRecover 1 "post 1")) ∧
      ¬ (sampleState.process (.sample 2)
        (sampleMessage .msgDirectToRecover 1 "post 1")).tables.Disjoint := by
  refine ⟨.cons ⟨rfl, ?_⟩ (.cons ⟨rfl, ?_⟩ (.nil _)), fun hd => ?_⟩
  · exact issuedIds_process (by decide) (by decide)
  · exact issuedIds_process (by decide) (by decide)
  · exact absurd (hd 1) (by decide)

end MRF.Center
