import MRF.Center.Storage

/-!
# Center — HouseKeep

House keeping moves the rows whose check-out has expired from `interval_retry` to `recover`.  It
reads them in one transaction and moves them in another, and the move does not look at the rows
again.

`houseKeep_run`: what a move inserts is still stuck, as long as nothing touches the ids of a batch
between its read and its move.
-/

namespace MRF.Center
open MRF.Library State MRFMessageProcessService

variable {B : Type} [BusinessMsg B] {x : Int} {t' : Tables B} {cfg : MRFServerConfig}
  {s s' : State B} {a : Action B} {tr : List (State B × Action B)}

/-- The row of `x` is checked out, and the check-out has expired. -/
def Stuck (cfg : MRFServerConfig) (s : State B) (x : Int) : Prop :=
  ∃ r, s.tables.intervalRetry.get x = some r ∧
    IntervalRetryDAO.isOutOfThreshold cfg.clock s.currentTimestamp
      (cfg.houseKeepCheckoutTimeThreshold / 1000) r = true

/-- The action writes the row of `x` in `interval_retry`, for another reason than a check-out. -/
def Touches (cfg : MRFServerConfig) (s : State B) (a : Action B) (x : Int) : Prop :=
  (∃ c m, s.message a = some (c, m) ∧ m.msgID = x ∧ (m.messageFlag = .cleanIntervalRetry ∨
      m.messageFlag = .intervalMsgDoRetry ∨ m.messageFlag = .intervalMsgDoRecover)) ∨
    ∃ rows, s.batch cfg a = some rows ∧ ∃ r ∈ rows, r.msgID = x

/-- The action touches no id of a batch that waits to be moved, its own batch apart. -/
structure Undisturbed (cfg : MRFServerConfig) (s : State B) (a : Action B) : Prop where
  waiting : ∀ k rows, (s.houseKeepers k).waiting = some rows → ∀ r ∈ rows,
    ¬ Touches cfg s a r.msgID
  running : ∀ k rows, (s.houseKeepers k).running = some rows →
    (∀ faults, a ≠ .moveHouseKeep k faults) → ∀ r ∈ rows, ¬ Touches cfg s a r.msgID

/-! ### Stuck rows -/

theorem Applied.get_intervalRetry {e : Env} {m : RetryMessage B} {t t' : Tables B}
    (h : Applied e m t t') {r : IntervalRetry B} (hr : t.intervalRetry.get x = some r)
    (hm : m.msgID = x → m.messageFlag ≠ .cleanIntervalRetry ∧
      m.messageFlag ≠ .intervalMsgDoRetry ∧ m.messageFlag ≠ .intervalMsgDoRecover) :
    t'.intervalRetry.get x = some r := by
  cases h with
  | cleanIntervalRetry hf =>
      have hne : x ≠ m.msgID := fun he => (hm he.symm).1 hf
      exact (Table.get_delete _ _ _).trans ((if_neg hne).trans hr)
  | checkin hf hid hcon =>
      have hne : x ≠ m.msgID := fun he => (hm he.symm).2.1 hf
      rw [Tables.setIntervalRetry_intervalRetry, Table.get_update, if_neg hne, hr]
  | addIntervalRetry hf hid hnew hcon hu =>
      have hne : x ≠ e.newId := by
        rintro rfl
        have hnone := Table.get_eq_none_of_insert hu
        exact absurd (hnone.symm.trans hr) nofun
      exact (Table.get_insert hu x).trans ((if_neg hne).trans hr)
  | moveToRecover hf hid hrow hcon hu =>
      have hne : x ≠ m.msgID := fun he => (hm he.symm).2.2 hf
      exact (Table.get_delete _ _ _).trans ((if_neg hne).trans hr)
  | moveToNowhere hf hid hrow hcon =>
      have hne : x ≠ m.msgID := fun he => (hm he.symm).2.2 hf
      exact (Table.get_delete _ _ _).trans ((if_neg hne).trans hr)
  | _ => exact hr

/-- A row that is checked out stays as it is, until it is touched. -/
theorem State.Wrote.get_intervalRetry (h : Wrote cfg s a t') {r : IntervalRetry B}
    (hr : s.tables.intervalRetry.get x = some r) (hstate : r.retryState = .inRetry)
    (ht : ¬ Touches cfg s a x) : t'.intervalRetry.get x = some r := by
  cases h with
  | applied hm h =>
      refine h.get_intervalRetry hr fun he => ⟨fun hf => ?_, fun hf => ?_, fun hf => ?_⟩
      · exact ht (.inl ⟨_, _, hm, he, .inl hf⟩)
      · exact ht (.inl ⟨_, _, hm, he, .inr (.inl hf)⟩)
      · exact ht (.inl ⟨_, _, hm, he, .inr (.inr hf)⟩)
  | @checkOut i raises row ha hp =>
      rw [Tables.setIntervalRetry_intervalRetry, Table.get_update]
      split
      · next he =>
          -- the `WHERE` clause of the check-out asks for `retry_state = 0`
          subst he
          rw [hr]
          simp [IntervalRetryDAO.checkedOut, hstate]
      · exact hr
  | @houseKept rows hb u hu =>
      rw [Tables.setIntervalRetry_intervalRetry, Table.get_deleteAll, if_neg, hr]
      intro hmem
      obtain ⟨row, hrow, he⟩ := List.mem_map.mp hmem
      exact ht (.inr ⟨rows, hb, row, hrow, he⟩)
  | _ => exact hr

omit [BusinessMsg B] in
theorem isOutOfThreshold_inRetry {clock : MySqlClock} {now : Datetime} {value : Int64}
    {r : IntervalRetry B} (h : IntervalRetryDAO.isOutOfThreshold clock now value r = true) :
    r.retryState = .inRetry := by
  simp only [IntervalRetryDAO.isOutOfThreshold, Bool.and_eq_true, decide_eq_true_eq] at h
  exact h.1

omit [BusinessMsg B] in
/-- What has expired stays expired. -/
theorem isOutOfThreshold_mono {clock : MySqlClock} {now now' : Datetime} (hle : now ≤ now')
    {value : Int64} {r : IntervalRetry B}
    (h : IntervalRetryDAO.isOutOfThreshold clock now value r = true) :
    IntervalRetryDAO.isOutOfThreshold clock now' value r = true := by
  simp only [IntervalRetryDAO.isOutOfThreshold, Bool.and_eq_true, decide_eq_true_eq,
    Option.any_eq_true] at h ⊢
  obtain ⟨hstate, checkoutAt, hc, hlt⟩ := h
  exact ⟨hstate, checkoutAt, hc, lt_of_lt_of_le hlt (clock.mono hle)⟩

theorem Stuck.step (h : Stepped cfg s a s') (hs : Stuck cfg s x) (ht : ¬ Touches cfg s a x) :
    Stuck cfg s' x := by
  obtain ⟨r, hr, hout⟩ := hs
  exact ⟨r, h.wrote.get_intervalRetry hr (isOutOfThreshold_inRetry hout) ht,
    isOutOfThreshold_mono h.clock_le hout⟩

omit [BusinessMsg B] in
theorem stuck_of_outOfThreshold {rows : List (IntervalRetry B)}
    (h : s.outOfThreshold cfg = some rows) : ∀ r ∈ rows, Stuck cfg s r.msgID := by
  intro r hr
  obtain ⟨hsel, -⟩ := Option.filter_eq_some_iff.mp h
  unfold IntervalRetryDAO.getIntervalRetriesOutOfThreshold at hsel
  split at hsel
  · cases hsel
  · cases hsel
    obtain ⟨hget, hout⟩ := Table.mem_select.mp hr
    exact ⟨r, hget, hout⟩

/-- Every batch that waits to be moved consists of stuck rows. -/
def BatchesStuck (cfg : MRFServerConfig) (s : State B) : Prop :=
  ∀ k rows, s.Held k rows → ∀ r ∈ rows, Stuck cfg s r.msgID

theorem BatchesStuck.step (h : Stepped cfg s a s') (hs : BatchesStuck cfg s)
    (hu : Undisturbed cfg s a) : BatchesStuck cfg s' := by
  intro k rows hk r hr
  rcases h.held hk with hk | ⟨hk, ha⟩ | ⟨rfl, hrows⟩
  · exact (hs k rows (.inl hk) r hr).step h (hu.waiting k rows hk r hr)
  · exact (hs k rows (.inr hk) r hr).step h (hu.running k rows hk ha r hr)
  · refine (stuck_of_outOfThreshold hrows r hr).step h ?_
    simp [Touches, message, batch]

/-! ### Rows that come to recover -/

/-- The action adds a row for `x` to `recover`. -/
def Inserts (cfg : MRFServerConfig) (s : State B) (a : Action B) (x : Int) : Prop :=
  s.tables.recover.get x = none ∧
    ∃ s', s.step cfg a = some s' ∧ s'.tables.recover.get x ≠ none

/-- A row comes to `recover` under a new id, from `interval_retry`, directly, or in a batch. -/
theorem Applied.recover_inv {e : Env} {m : RetryMessage B} {t t' : Tables B} (h : Applied e m t t')
    (hn : t.recover.get x = none) (hx : t'.recover.get x ≠ none) :
    (asksForId m = true ∧ x = e.newId) ∨ (t.intervalRetry.get x ≠ none ∧ x = m.msgID) ∨
      (m.messageFlag = .msgDirectToRecover ∧ x = m.msgID) := by
  cases h with
  | cleanRecover hf => exact absurd (Table.get_delete_eq_none.mpr (.inr hn)) hx
  | resendForRecover hf =>
      rw [Tables.setRecover_recover, ne_eq, Table.get_update_eq_none] at hx
      exact absurd hn hx
  | moveToRecover hf hid hr hcon hu =>
      by_cases he : x = m.msgID
      · exact .inr (.inl ⟨he ▸ hr, he⟩)
      · exact absurd ((Table.get_insert_eq_none hu).mpr ⟨he, hn⟩) hx
  | immediateToRecover hf hnew hcon hu =>
      by_cases he : x = e.newId
      · exact .inl ⟨by simp [asksForId, hf], he⟩
      · exact absurd ((Table.get_insert_eq_none hu).mpr ⟨he, hn⟩) hx
  | directToRecover hf hid hcon hu =>
      by_cases he : x = directId e m
      · unfold directId at he
        split at he
        · exact .inr (.inr ⟨hf, he⟩)
        · next hpos => exact .inl ⟨by simpa [asksForId, hf] using hpos, he⟩
      · exact absurd ((Table.get_insert_eq_none hu).mpr ⟨he, hn⟩) hx
  | _ => exact absurd hn hx

theorem Inserts.cases (h : Inserts cfg s a x) :
    (∃ c m, s.message a = some (c, m) ∧ ((asksForId m = true ∧ x = c.newId) ∨
        (s.tables.intervalRetry.get x ≠ none ∧ x = m.msgID) ∨
        (m.messageFlag = .msgDirectToRecover ∧ x = m.msgID))) ∨
      ∃ rows, s.batch cfg a = some rows ∧ ∃ r ∈ rows, x = r.msgID := by
  obtain ⟨hn, s', hstep, hx⟩ := h
  generalize ht : s'.tables = t' at hx
  have hw := ht ▸ step_wrote hstep
  cases hw with
  | applied hm h => exact .inl ⟨_, _, hm, h.recover_inv hn hx⟩
  | @houseKept rows hb u hu =>
      by_cases hmem : x ∈ rows.map fun cur => cur.msgID
      · obtain ⟨r, hr, rfl⟩ := List.mem_map.mp hmem
        exact .inr ⟨rows, hb, r, hr, rfl⟩
      · refine absurd ((Table.get_insertAll_eq_none hu).mpr ⟨?_, hn⟩) hx
        simpa [Function.comp_def, constructRecover] using hmem
  | checkOutRecover hc =>
      rw [Tables.setRecover_recover, ne_eq, Table.get_update_eq_none] at hx
      exact absurd hn hx
  | deleteRecover hc => exact absurd (Table.get_delete_eq_none.mpr (.inr hn)) hx
  | _ => exact absurd hn hx

/-- The ids that the center generates are new, and nothing is stored directly. -/
structure Ordinary (s : State B) (a : Action B) : Prop where
  fresh : ∀ c m, s.message a = some (c, m) → asksForId m = true → c.newId ∉ s.issued
  notDirect : ∀ c m, s.message a = some (c, m) → m.messageFlag ≠ .msgDirectToRecover

/-- A `CLEAN_INTERVAL_RETRY` for `x` is applied, and its statement does not raise. -/
def CleansInterval (s : State B) (a : Action B) (x : Int) : Prop :=
  ∃ c m, s.message a = some (c, m) ∧ m.messageFlag = .cleanIntervalRetry ∧ m.msgID = x ∧
    c.faults = []

/-- Nothing is left from which house keeping or a client could bring `x` to `recover`. -/
structure Gone (s : State B) (x : Int) : Prop where
  row : s.tables.intervalRetry.get x = none
  held : ∀ k rows, s.Held k rows → ∀ r ∈ rows, r.msgID ≠ x
  issued : x ∈ s.issued

theorem Applied.intervalRetry_inv {e : Env} {m : RetryMessage B} {t t' : Tables B}
    (h : Applied e m t t') (hn : t.intervalRetry.get x = none)
    (hx : t'.intervalRetry.get x ≠ none) : asksForId m = true ∧ x = e.newId := by
  cases h with
  | cleanIntervalRetry hf => exact absurd (Table.get_delete_eq_none.mpr (.inr hn)) hx
  | checkin hf hid hcon =>
      rw [Tables.setIntervalRetry_intervalRetry, ne_eq, Table.get_update_eq_none] at hx
      exact absurd hn hx
  | addIntervalRetry hf hid hnew hcon hu =>
      by_cases he : x = e.newId
      · exact ⟨by simpa [asksForId, hf] using hid, he⟩
      · exact absurd ((Table.get_insert_eq_none hu).mpr ⟨he, hn⟩) hx
  | moveToRecover hf hid hr hcon hu =>
      exact absurd (Table.get_delete_eq_none.mpr (.inr hn)) hx
  | moveToNowhere hf hid hr hcon =>
      exact absurd (Table.get_delete_eq_none.mpr (.inr hn)) hx
  | _ => exact absurd hn hx

/-- The row that is added. -/
theorem Applied.intervalRetry_added {e : Env} {m : RetryMessage B} {t t' : Tables B}
    {r : IntervalRetry B} (h : Applied e m t t') (hn : t.intervalRetry.get x = none)
    (hr : t'.intervalRetry.get x = some r) :
    hasContent m.retryQueueName m.businessMsg = true ∧
      r = IntervalRetryDAO.insertedRow e.currentTimestamp
        (newIntervalRetry e.newId m (nextExecAt e m)) := by
  have gone : ∀ y, (t.intervalRetry.delete y).get x = some r → False := by
    intro y hr
    rw [(Table.get_delete_inv hr).2] at hn
    cases hn
  cases h with
  | cleanIntervalRetry hf => exact (gone _ hr).elim
  | checkin hf hid hcon =>
      rw [Tables.setIntervalRetry_intervalRetry, Table.get_update_eq_none.mpr hn] at hr
      cases hr
  | addIntervalRetry hf hid hnew hcon hu =>
      rcases Table.get_insert_inv hu hr with hr | ⟨-, rfl⟩
      · rw [hn] at hr
        cases hr
      · exact ⟨hcon, rfl⟩
  | moveToRecover hf hid hrow hcon hu => exact (gone _ hr).elim
  | moveToNowhere hf hid hrow hcon => exact (gone _ hr).elim
  | _ =>
      have hrow := hn.symm.trans hr
      cases hrow

/-- A row of `interval_retry` is added under a new id. -/
theorem State.Wrote.intervalRetry_inv (h : Wrote cfg s a t')
    (hn : s.tables.intervalRetry.get x = none) (hx : t'.intervalRetry.get x ≠ none) :
    ∃ c m, s.message a = some (c, m) ∧ asksForId m = true ∧ x = c.newId := by
  cases h with
  | applied hm h => exact ⟨_, _, hm, h.intervalRetry_inv hn hx⟩
  | checkOut ha hp =>
      rw [Tables.setIntervalRetry_intervalRetry, ne_eq, Table.get_update_eq_none] at hx
      exact absurd hn hx
  | houseKept hb hu => exact absurd (Table.get_deleteAll_eq_none.mpr (.inr hn)) hx
  | _ => exact absurd hn hx

theorem Gone.not_inserts (hg : Gone s x) (ho : Ordinary s a) : ¬ Inserts cfg s a x := by
  intro h
  rcases h.cases with ⟨c, m, hm, ⟨hask, rfl⟩ | ⟨hrow, -⟩ | ⟨hf, -⟩⟩ | ⟨rows, hb, r, hr, he⟩
  · exact ho.fresh c m hm hask hg.issued
  · exact hrow hg.row
  · exact ho.notDirect c m hm hf
  · cases a with
    | moveHouseKeep k faults => exact hg.held k rows (.inr hb) r hr he.symm
    | houseKeepRound faults =>
        have hread : s.outOfThreshold cfg = some rows := hb
        have hrow := stored_of_outOfThreshold hread r hr
        rw [← he, hg.row] at hrow
        cases hrow
    | _ => cases hb

theorem Gone.step (h : Stepped cfg s a s') (hg : Gone s x) (ho : Ordinary s a) : Gone s' x := by
  refine ⟨?_, fun k rows hk r hr => ?_, h.issued_subset hg.issued⟩
  · by_contra hx
    obtain ⟨c, m, hm, hask, rfl⟩ := h.wrote.intervalRetry_inv hg.row hx
    exact ho.fresh c m hm hask hg.issued
  · rcases h.held hk with hk | ⟨hk, -⟩ | ⟨-, hrows⟩
    · exact hg.held k rows (.inl hk) r hr
    · exact hg.held k rows (.inr hk) r hr
    · rintro rfl
      have hrow := stored_of_outOfThreshold hrows r hr
      rw [hg.row] at hrow
      cases hrow

/-- A clean, when no batch has the id, leaves nothing. -/
theorem gone_of_clean (h : Stepped cfg s a s') (hc : CleansInterval s a x) (hpos : 0 < x)
    (hx : x ∈ s.issued) (hu : Undisturbed cfg s a) : Gone s' x := by
  obtain ⟨c, m, hm, hf, rfl, hfaults⟩ := hc
  have htouch : Touches cfg s a m.msgID := .inl ⟨c, m, hm, rfl, .inl hf⟩
  refine ⟨?_, fun k rows hk r hr he => ?_, h.issued_subset hx⟩
  · rw [h.tables_eq hm, processed_cleanIntervalRetry hfaults hf hpos]
    exact Table.get_delete_eq_none.mpr (.inl rfl)
  · rcases h.held hk with hk | ⟨hk, ha⟩ | ⟨rfl, -⟩
    · exact hu.waiting k rows hk r hr (he ▸ htouch)
    · exact hu.running k rows hk ha r hr (he ▸ htouch)
    · cases hm

/-! ### Runs -/

/-- **House keeping acts only on rows that are still stuck**, in every run in which nothing
touches the ids of a batch between its read and its move.  And with new ids, and nothing stored
directly, a message whose `CLEAN_INTERVAL_RETRY` was applied does not come to `recover` any
more. -/
theorem houseKeep_run
    (h : Run (Guarded (stepOf (State.step cfg)) (Undisturbed cfg)) (State.empty : State B) tr s) :
    (∀ p ∈ tr, ∀ k faults x, p.2 = .moveHouseKeep k faults → Inserts cfg p.1 p.2 x →
        Stuck cfg p.1 x) ∧
      ((∀ p ∈ tr, Ordinary p.1 p.2) → ∀ tr₁ p tr₂ x, tr = tr₁ ++ p :: tr₂ →
        CleansInterval p.1 p.2 x → 0 < x → x ∈ p.1.issued →
          ∀ q ∈ tr₂, ¬ Inserts cfg q.1 q.2 x) := by
  constructor
  · intro p hp k faults x ha hi
    have hs : BatchesStuck cfg p.1 := (h.forall_mem (I := BatchesStuck cfg)
      (fun s a s' hg hs => hs.step (step_stepped hg.1) hg.2) (fun _ _ hk => hk.elim nofun nofun)
      p hp).1
    rcases hi.cases with ⟨c, m, hm, -⟩ | ⟨rows, hb, r, hr, rfl⟩
    · rw [ha] at hm
      cases hm
    · rw [ha] at hb
      exact hs k rows (.inr hb) r hr
  · rintro hord tr₁ ⟨s₁, a₁⟩ tr₂ x rfl hc hpos hx q hq
    obtain ⟨s₂, -, h₂⟩ := h.append_inv
    obtain ⟨rfl, s₃, hstep, h₃⟩ := h₂.cons_inv
    have hgone := gone_of_clean (step_stepped hstep.1) hc hpos hx hstep.2
    have hord₂ : ∀ q ∈ tr₂, Ordinary q.1 q.2 := fun q hq =>
      hord q (List.mem_append_right _ (List.mem_cons_of_mem _ hq))
    -- from the clean on, nothing can bring the id back
    have h₄ := h₃.of_guarded.to_guarded hord₂
    have hq' := h₄.forall_mem (I := fun s => Gone s x)
      (fun s a s' hg hs => hs.step (step_stepped hg.1) hg.2) hgone q hq
    exact hq'.1.not_inserts (hord₂ q hq)

omit [BusinessMsg B] in
theorem undisturbed_of_quiet (hm : s.message a = none) (hb : s.batch cfg a = none) :
    Undisturbed cfg s a := by
  have hquiet : ∀ x, ¬ Touches cfg s a x := by
    rintro x (⟨c, m, h, -⟩ | ⟨rows, h, -⟩)
    · rw [hm] at h
      cases h
    · rw [hb] at h
      cases h
  exact ⟨fun _ _ _ _ _ => hquiet _, fun _ _ _ _ _ _ => hquiet _⟩

/-- A check-out expires, is read, and is moved. -/
def expiry : List (Action String) :=
  [.select 0 1, .checkOut 0 false, .tick 11, .readHouseKeep 0, .acquire 0]

theorem houseKeep_run_sample :
    ∃ s, exec (State.step .sample) sampleState expiry = some s ∧ Stuck .sample s 1 := by
  obtain ⟨s, hs⟩ : ∃ s, exec (State.step .sample) sampleState expiry = some s := ⟨_, rfl⟩
  refine ⟨s, hs, ?_⟩
  have hrun : ∃ tr s', Run (Guarded (stepOf (State.step .sample)) (Undisturbed .sample))
      (State.empty : State String) (tr ++ [(s, .moveHouseKeep 0 [])]) s' := by
    have h₀ : Run (Guarded (stepOf (State.step .sample)) (Undisturbed .sample)) (State.empty)
        [(.empty, .process (.sample 1) (sampleMessage .intervalMsgDoRetry 0 "post 1"))]
        sampleState :=
      Run.one ⟨rfl, ⟨fun _ _ h => (nomatch h), fun _ _ h => (nomatch h)⟩⟩
    have h₁ := (Run.of_exec hs).to_guarded (G := Undisturbed .sample) fun p hp => by
      have ha := mem_trace hp
      simp only [expiry, List.mem_cons, List.not_mem_nil, or_false] at ha
      rcases ha with ha | ha | ha | ha | ha <;> rw [ha] <;> exact undisturbed_of_quiet rfl rfl
    cases hs
    refine ⟨_, _, (h₀.trans h₁).trans (Run.one ⟨rfl, ?_, ?_⟩)⟩
    · intro k rows hk
      by_cases he : k = 0
      · subst he
        cases hk
      · simp [Function.update_of_ne he, sampleState, State.process, State.empty] at hk
    · intro k rows hk ha
      by_cases he : k = 0
      · exact absurd (he ▸ rfl) (ha [])
      · simp [Function.update_of_ne he, sampleState, State.process, State.empty] at hk
  obtain ⟨tr, s', hrun⟩ := hrun
  refine (houseKeep_run hrun).1 (s, .moveHouseKeep 0 []) (by simp) 0 [] 1 rfl ?_
  cases hs
  exact ⟨by decide, _, rfl, by decide⟩

/-- The batch is read before the clean, and moved after it. -/
theorem moved_after_clean :
    ∃ s, exec (State.step .sample) sampleState
        (expiry ++ [.process (.sample 2) (sampleMessage .cleanIntervalRetry 1 "post 1")]) = some s ∧
      Inserts .sample s (.moveHouseKeep 0 []) 1 ∧ ¬ Stuck .sample s 1 := by
  refine ⟨_, rfl, ⟨by decide, _, rfl, by decide⟩, ?_⟩
  rintro ⟨r, hr, -⟩
  cases hr

end MRF.Center
