import MRF.Center.HouseKeep

/-!
# Center — HouseKeepRound

One round of house keeping, read and move with nothing in between.  The rows go to `recover` in
one batch insert, so an id that has a row there already keeps all of them in `interval_retry`.

`roundComplete_run`: a round moves all the rows past the threshold exactly if none of their ids is
in `recover`; so every round is complete, as long as no `MSG_DIRECT_TO_RECOVER` comes for an id that
is in `interval_retry`.
-/

namespace MRF.Center
open MRF.Library State

variable {B : Type} [BusinessMsg B] {cfg : MRFServerConfig} {s : State B} {x : Int}
  {tr : List (State B × Action B)}

/-- The rows that the DAO selects as past the threshold; without a positive threshold there are
none. -/
def State.pastThreshold (cfg : MRFServerConfig) (s : State B) : List (IntervalRetry B) :=
  (IntervalRetryDAO.getIntervalRetriesOutOfThreshold cfg.clock s.currentTimestamp
    cfg.houseKeepCheckoutTimeThreshold s.tables).getD []

/-- The tables after one round, in which no statement raises. -/
def State.afterRound (cfg : MRFServerConfig) (s : State B) : Tables B :=
  ((s.houseKeepRound cfg []).getD s).tables

/-- A round moves every row past the threshold, and no other row changes. -/
structure RoundComplete (cfg : MRFServerConfig) (s : State B) : Prop where
  removed : ∀ r ∈ s.pastThreshold cfg, (s.afterRound cfg).intervalRetry.get r.msgID = none
  recovered : ∀ r ∈ s.pastThreshold cfg, (s.afterRound cfg).recover.get r.msgID ≠ none
  others : ∀ x, (∀ r ∈ s.pastThreshold cfg, r.msgID ≠ x) →
    (s.afterRound cfg).intervalRetry.get x = s.tables.intervalRetry.get x ∧
      (s.afterRound cfg).recover.get x = s.tables.recover.get x

/-- No row past the threshold has its id in `recover` as well. -/
def FreeToMove (cfg : MRFServerConfig) (s : State B) : Prop :=
  ∀ r ∈ s.pastThreshold cfg, s.tables.recover.get r.msgID = none

/-! ### One round -/

omit [BusinessMsg B] in
theorem nodup_pastThreshold : ((s.pastThreshold cfg).map fun r => r.msgID).Nodup := by
  unfold State.pastThreshold IntervalRetryDAO.getIntervalRetriesOutOfThreshold
  split
  · exact List.nodup_nil
  · exact s.tables.intervalRetry.unique.sublist (List.filter_sublist.map _)

omit [BusinessMsg B] in
theorem afterRound_of_nil (h : s.pastThreshold cfg = []) : s.afterRound cfg = s.tables := by
  have hnone : s.outOfThreshold cfg = none := by
    refine Option.filter_eq_none_iff.mpr fun rows hrows => ?_
    rw [State.pastThreshold, hrows] at h
    simpa using h
  rw [State.afterRound, State.houseKeepRound, hnone]
  rfl

omit [BusinessMsg B] in
theorem afterRound_of_ne_nil (h : s.pastThreshold cfg ≠ []) :
    s.afterRound cfg = s.houseKept [] (s.pastThreshold cfg) := by
  have hsome : s.outOfThreshold cfg = some (s.pastThreshold cfg) := by
    unfold State.pastThreshold at h ⊢
    unfold State.outOfThreshold
    cases hrows : IntervalRetryDAO.getIntervalRetriesOutOfThreshold cfg.clock s.currentTimestamp
      cfg.houseKeepCheckoutTimeThreshold s.tables with
    | none =>
        rw [hrows] at h
        exact absurd rfl h
    | some rows =>
        rw [hrows] at h
        exact Option.filter_eq_some_iff.mpr ⟨rfl, by simpa using h⟩
  rw [State.afterRound, State.houseKeepRound, hsome]
  rfl

/-- The rows that a batch inserts. -/
def movedRows (s : State B) (rows : List (IntervalRetry B)) : List (Recover B) :=
  rows.map fun cur => RecoverDAO.insertedRow s.currentTimestamp (constructRecover cur)

omit [BusinessMsg B] in
theorem key_movedRows (rows : List (IntervalRetry B)) :
    (movedRows s rows).map Keyed.key = rows.map fun cur => cur.msgID := by
  rw [movedRows, List.map_map]
  rfl

omit [BusinessMsg B] in
/-- The move of a batch that is not empty, as one batch insert and one batch delete. -/
theorem houseKept_nil {rows : List (IntervalRetry B)} (hne : rows ≠ []) :
    s.houseKept [] rows = match s.tables.recover.insertAll (movedRows s rows) with
      | some u => (s.tables.setRecover u).setIntervalRetry
          (s.tables.intervalRetry.deleteAll (rows.map fun cur => cur.msgID))
      | none => s.tables := by
  obtain ⟨cur, rows, rfl⟩ := List.exists_cons_of_ne_nil hne
  have hrows : ((cur :: rows).map constructRecover).map
      (RecoverDAO.insertedRow s.currentTimestamp) = movedRows s (cur :: rows) := List.map_map ..
  unfold State.houseKept Dao.transactional JoinDAO.doHouseKeep RecoverDAO.batchAddRecovers
    IntervalRetryDAO.batchDeleteIntervalRetries
  simp only [List.length_map, bne_self_eq_false, List.isEmpty_map, List.isEmpty_cons, Bool.or_self,
    Bool.false_eq_true, if_false, Dao.bind_apply, Dao.execute_nil, hrows]
  rcases s.tables.recover.insertAll (movedRows s (cur :: rows)) with _ | u <;> rfl

omit [BusinessMsg B] in
/-- One id that is in `recover` keeps the whole batch back. -/
theorem houseKept_stays {rows : List (IntervalRetry B)} {r : IntervalRetry B} (hr : r ∈ rows)
    (hdup : s.tables.recover.get r.msgID ≠ none) : s.houseKept [] rows = s.tables := by
  rw [houseKept_nil (List.ne_nil_of_mem hr)]
  cases hu : s.tables.recover.insertAll (movedRows s rows) with
  | none => rfl
  | some u =>
      exact absurd (Table.get_insertAll_of_mem hu (List.mem_map_of_mem hr)).2 hdup

omit [BusinessMsg B] in
theorem get_of_mem_pastThreshold {r : IntervalRetry B} (hr : r ∈ s.pastThreshold cfg) :
    s.tables.intervalRetry.get r.msgID = some r := by
  unfold State.pastThreshold IntervalRetryDAO.getIntervalRetriesOutOfThreshold at hr
  split at hr
  · cases hr
  · exact (Table.mem_select.mp hr).1

omit [BusinessMsg B] in
theorem roundComplete_of_free (h : FreeToMove cfg s) : RoundComplete cfg s := by
  by_cases hne : s.pastThreshold cfg = []
  · refine ⟨?_, ?_, fun x _ => ?_⟩
    · simp [hne]
    · simp [hne]
    · rw [afterRound_of_nil hne]
      exact ⟨rfl, rfl⟩
  · obtain ⟨u, hu⟩ := Table.insertAll_isSome (t := s.tables.recover)
      (movedRows s (s.pastThreshold cfg)) (by rw [key_movedRows]; exact nodup_pastThreshold)
      (fun r hr => by
        obtain ⟨cur, hcur, rfl⟩ := List.mem_map.mp hr
        exact h cur hcur)
    have hafter : s.afterRound cfg = (s.tables.setRecover u).setIntervalRetry
        (s.tables.intervalRetry.deleteAll ((s.pastThreshold cfg).map fun cur => cur.msgID)) := by
      rw [afterRound_of_ne_nil hne, houseKept_nil hne, hu]
    refine ⟨fun r hr => ?_, fun r hr => ?_, fun x hx => ?_⟩
    · rw [hafter]
      exact Table.get_deleteAll_eq_none.mpr (.inl (List.mem_map_of_mem hr))
    · rw [hafter]
      have hget := (Table.get_insertAll_of_mem hu (List.mem_map_of_mem hr)).1
      exact ne_of_eq_of_ne hget (Option.some_ne_none _)
    · have hmem : x ∉ (s.pastThreshold cfg).map fun cur => cur.msgID := fun hmem => by
        obtain ⟨r, hr, he⟩ := List.mem_map.mp hmem
        exact hx r hr he
      rw [hafter]
      constructor
      · rw [Tables.setIntervalRetry_intervalRetry, Table.get_deleteAll, if_neg hmem]
      · exact Table.get_insertAll_of_notMem hu (by rw [key_movedRows]; exact hmem)

omit [BusinessMsg B] in
/-- A row that stays in the table was not moved. -/
theorem roundComplete_iff : RoundComplete cfg s ↔ FreeToMove cfg s := by
  refine ⟨fun h r hr => ?_, roundComplete_of_free⟩
  by_contra hdup
  have hstays : s.afterRound cfg = s.tables := by
    rw [afterRound_of_ne_nil (List.ne_nil_of_mem hr), houseKept_stays hr hdup]
  have hgone := h.removed r hr
  rw [hstays, get_of_mem_pastThreshold hr] at hgone
  cases hgone

omit [BusinessMsg B] in
theorem freeToMove_of_disjoint (h : s.tables.Disjoint) : FreeToMove cfg s := by
  intro r hr
  refine (h r.msgID).resolve_left ?_
  rw [get_of_mem_pastThreshold hr]
  exact Option.some_ne_none r

/-- **A round moves all the rows past the threshold**, in every reachable state, exactly if none of
their ids is in `recover`.  No id is, as long as no message is stored directly while its id is in
`interval_retry`. -/
theorem roundComplete_run
    (h : Run (Guarded (stepOf (State.step cfg)) IssuedIds) (State.empty : State B) tr s) :
    (RoundComplete cfg s ↔ FreeToMove cfg s) ∧
      ((∀ p ∈ tr, NoDirectWhileRetried p.1 p.2) → RoundComplete cfg s) := by
  refine ⟨roundComplete_iff, fun hdirect => ?_⟩
  have hrun : Run (Guarded (stepOf (State.step cfg)) fun s a =>
      IssuedIds s a ∧ NoDirectWhileRetried s a) State.empty tr s :=
    h.of_guarded.to_guarded fun p hp => ⟨h.guard p hp, hdirect p hp⟩
  exact roundComplete_of_free (freeToMove_of_disjoint (disjoint_run hrun))

/-! ### Two rows past the threshold -/

omit [BusinessMsg B] in
theorem issuedIds_of_quiet {a : Action B} (h : s.message a = none) : IssuedIds s a where
  fresh c m hm := by
    rw [h] at hm
    cases hm
  known c m hm := by
    rw [h] at hm
    cases hm

/-- Two rows, 1 and 2. -/
def twoRows : State String :=
  sampleState.process (.sample 2) (sampleMessage .intervalMsgDoRetry 0 "post 2")

/-- The check-outs of two rows expire. -/
def twoExpire : List (Action String) :=
  [.select 0 1, .checkOut 0 false, .select 1 2, .checkOut 1 false, .tick 11]

/-- Two messages fail for the first time, are picked, and time passes. -/
theorem twoExpire_run {s : State String}
    (h : exec (State.step .sample) twoRows twoExpire = some s) :
    Run (Guarded (stepOf (State.step .sample)) IssuedIds) (State.empty : State String)
      ((State.empty, .process (.sample 1) (sampleMessage .intervalMsgDoRetry 0 "post 1")) ::
        (sampleState, .process (.sample 2) (sampleMessage .intervalMsgDoRetry 0 "post 2")) ::
          trace (State.step .sample) twoRows twoExpire) s := by
  refine .cons ⟨rfl, issuedIds_process (by decide) (by decide)⟩
    (.cons ⟨rfl, issuedIds_process (by decide) (by decide)⟩
      ((Run.of_exec h).to_guarded fun p hp => ?_))
  have ha := mem_trace hp
  simp only [twoExpire, List.mem_cons, List.not_mem_nil, or_false] at ha
  rcases ha with ha | ha | ha | ha | ha <;> rw [ha] <;> exact issuedIds_of_quiet rfl

/-- No message is stored directly, so one round moves both rows. -/
theorem roundComplete_run_sample : ∃ tr s,
    Run (Guarded (stepOf (State.step .sample)) IssuedIds) (State.empty : State String) tr s ∧
      (s.pastThreshold .sample).map (fun r => r.msgID) = [1, 2] ∧ RoundComplete .sample s ∧
        (s.afterRound .sample).recover.rows.map (fun r => r.msgID) = [1, 2] := by
  obtain ⟨s, hs⟩ : ∃ s, exec (State.step .sample) twoRows twoExpire = some s := ⟨_, rfl⟩
  have hrun := twoExpire_run hs
  refine ⟨_, s, hrun, ?_, (roundComplete_run hrun).2 fun p hp => ?_, ?_⟩
  · cases hs
    rfl
  · rcases List.mem_cons.mp hp with rfl | hp
    · rintro c m ⟨⟩ ⟨⟨hf, -⟩, -⟩
      cases hf
    · rcases List.mem_cons.mp hp with rfl | hp
      · rintro c m ⟨⟩ ⟨⟨hf, -⟩, -⟩
        cases hf
      · have ha := mem_trace hp
        simp only [twoExpire, List.mem_cons, List.not_mem_nil, or_false] at ha
        rintro c m hm
        rcases ha with ha | ha | ha | ha | ha <;> rw [ha] at hm <;> cases hm
  · cases hs
    rfl

/-! ### A row that stays -/

/-- One of the two messages is stored directly as well, and the row of the other one stays. -/
theorem stranded : ∃ tr s, Run (Guarded (stepOf (State.step .sample)) IssuedIds)
      (State.empty : State String) tr s ∧
    (s.pastThreshold .sample).map (fun r => r.msgID) = [1, 2] ∧
    s.tables.recover.get 2 = none ∧ (s.afterRound .sample).intervalRetry.get 2 ≠ none ∧
    ¬ RoundComplete .sample s := by
  obtain ⟨s, hs⟩ : ∃ s, exec (State.step .sample) twoRows twoExpire = some s := ⟨_, rfl⟩
  have hissued : 1 ∈ s.issued := by
    cases hs
    decide
  have hdirect : Run (Guarded (stepOf (State.step .sample)) IssuedIds) s
      [(s, .process (.sample 3) (sampleMessage .msgDirectToRecover 1 "post 1"))]
      (s.process (.sample 3) (sampleMessage .msgDirectToRecover 1 "post 1")) :=
    Run.one ⟨rfl, issuedIds_process (fun h => absurd h (by decide)) fun _ => hissued⟩
  refine ⟨_, _, (twoExpire_run hs).trans hdirect, ?_⟩
  cases hs
  refine ⟨rfl, rfl, by decide, fun h => ?_⟩
  exact absurd (h.removed _ List.mem_cons_self) (by decide)

end MRF.Center
