import MRF.Center.RecoverLease
import MRF.Library.Outcome

/-!
# Center — BatchRecover

`doBatchRecoverRecords` against `doRecoverRecord` on each id in turn.  The loop of the batch is a
copy of the single operation, and has no `else` for an id without a record, nor for a record
without a template; and it ends at a `getRecover` that raises.

`batchRecover_iff`: the two agree on an array of ids exactly if every id has a record that can be
read, and every record that is checked out has a template.
-/

namespace MRF.Center
open MRF.Library MRFRecoverService

variable {B : Type} {ids : List Int} {x : Int}

/-! ### A center that answers -/

/-- A center at work on an array of ids, and how many of their records it has read. -/
abbrev AtRecord (B : Type) := State B × Nat

/-- The retry queues with a template, and which calls raise at the `n`-th record. -/
structure Conditions (B : Type) where
  templates : String → Bool
  raises : Nat → RecoverOp B → Bool

variable {c : Conditions B} {w w' : AtRecord B}

namespace Conditions

/-- Whether the look-up or the statement of a call finds what it asks for. -/
def found (c : Conditions B) : RecoverOp B → Bool
  | .getRetryRabbitTemplate retryQueueName => c.templates retryQueueName
  | _ => false

/-- The record that a call belongs to: each begins with `getRecover`. -/
def record (n : Nat) : RecoverOp B → Nat
  | .getRecover _ => n + 1
  | _ => n

/-- What a call of a request answers under these conditions. -/
def answer (c : Conditions B) (w : AtRecord B) (op : RecoverOp B) :
    Except String op.Res × AtRecord B :=
  let n := record w.2 op
  let served := w.1.serve (c.raises n op) (c.found op) op
  (served.1, served.2, n)

end Conditions

/-- `doRecoverRecord` on each id in turn: what the calls come to. -/
def recoverOneByOne (c : Conditions B) :
    List Int → AtRecord B → List (Except String ProcessResult) × AtRecord B
  | [], w => ([], w)
  | msgID :: msgIDs, w =>
      let single := (doRecoverRecord msgID).exec c.answer w
      let later := recoverOneByOne c msgIDs single.2
      (single.1 :: later.1, later.2)

/-- The ids whose call reports `successFlag = false`. -/
def reportedFailed : List (Except String ProcessResult) → List Int
  | [] => []
  | .ok res :: results =>
      if res.successFlag then reportedFailed results else res.msgID :: reportedFailed results
  | .error _ :: results => reportedFailed results

/-- The batch does what the single calls do, and reports it. -/
structure BatchIsOneByOne (c : Conditions B) (s : State B) (ids : List Int) : Prop where
  recover : ((doBatchRecoverRecords ids).exec c.answer (s, 0)).2.1.tables.recover =
    (recoverOneByOne c ids (s, 0)).2.1.tables.recover
  retryQueues : ((doBatchRecoverRecords ids).exec c.answer (s, 0)).2.1.retryQueues =
    (recoverOneByOne c ids (s, 0)).2.1.retryQueues
  result : ∃ res, ((doBatchRecoverRecords ids).exec c.answer (s, 0)).1 = .ok res ∧
    res.errorMsgIDs = reportedFailed (recoverOneByOne c ids (s, 0)).1 ∧
    (res.successFlag = true ↔ res.errorMsgIDs = [] ∧ ids ≠ [])

/-- The record of `x`, the `n`-th, is there and can be read, and it has a template, unless its
check-out raises. -/
structure Recoverable (c : Conditions B) (s : State B) (n : Nat) (x : Int) : Prop where
  pos : 0 < x
  read : c.raises n (.getRecover x) = false
  record : ∃ q, (s.tables.recover.get x).map (·.retryQueueName) = some q ∧
    (c.raises n (.checkOutRecover x) = true ∨ c.templates q = true ∧ q ≠ "")

/-! ### One record -/

theorem exec_getRecover : (getRecover x).exec c.answer w =
    (if x ≤ 0 then .ok none
      else if c.raises (w.2 + 1) (.getRecover x) then .error "getRecover"
      else .ok (w.1.tables.recover.get x), w.1, w.2 + 1) := by
  have hanswer : (getRecover x).exec c.answer w = c.answer w (.getRecover x) :=
    Prog.exec_perform _
  rw [hanswer]
  simp only [Conditions.answer, Conditions.record, State.serve, State.callDao,
    RecoverDAO.getRecover]
  by_cases hx : x ≤ 0
  · simp only [if_pos hx]
    rfl
  · simp only [if_neg hx]
    cases c.raises (w.2 + 1) (.getRecover x) <;> rfl

theorem exec_checkOutRecover (hx : 0 < x) : (checkOutRecover x).exec c.answer w =
    if c.raises w.2 (.checkOutRecover x) then (.error "checkOutRecover", w)
    else (.ok (w.1.tables.recover.get x).isSome,
      { w.1 with tables := w.1.tables.setRecover (w.1.tables.recover.update x
        (RecoverDAO.checkedOut w.1.currentTimestamp) (RecoverDAO.checkedOut_msgID _)) }, w.2) := by
  have hanswer : (checkOutRecover x).exec c.answer w = c.answer w (.checkOutRecover x) :=
    Prog.exec_perform _
  rw [hanswer]
  simp only [Conditions.answer, Conditions.record]
  cases c.raises w.2 (.checkOutRecover x) with
  | true =>
      rw [State.serve_checkOutRecover_raises _ hx]
      rfl
  | false =>
      rw [State.serve_checkOutRecover _ hx]
      rfl

theorem exec_getRetryRabbitTemplate (q : String) :
    (getRetryRabbitTemplate q).exec c.answer w =
      (.ok (c.templates q && q ≠ ""), w) := Prog.exec_perform _

theorem exec_convertAndSend (k : String) (m : RetryMessage B) :
    (convertAndSend k m).exec c.answer w =
      if c.raises w.2 (.convertAndSend k m) then (.error "convertAndSend", w)
      else (.ok (), { w.1 with retryQueues := w.1.retryQueues ++ [m] }, w.2) := by
  have hanswer : (convertAndSend k m).exec c.answer w = c.answer w (.convertAndSend k m) :=
    Prog.exec_perform _
  rw [hanswer]
  simp only [Conditions.answer, Conditions.record]
  cases c.raises w.2 (.convertAndSend k m) <;> rfl

/-- What a record that was read comes to.  The rows keep their queue names; nothing is sent,
and nothing raised, only without a template. -/
theorem exec_checkOutAndSend {r : Recover B} (hx : 0 < x) :
    ∃ res s', (checkOutAndSend x r).exec c.answer w = (res, s', w.2) ∧
      Table.SameUpTo (·.retryQueueName) s'.tables.recover w.1.tables.recover ∧
      (res = .ok false ↔ ¬ (c.raises w.2 (.checkOutRecover x) = true ∨
        c.templates r.retryQueueName = true ∧ r.retryQueueName ≠ "")) := by
  unfold checkOutAndSend
  have hout := exec_checkOutRecover (c := c) (w := w) hx
  cases hraises : c.raises w.2 (.checkOutRecover x) with
  | true =>
      rw [hraises, if_pos rfl] at hout
      exact ⟨_, _, Prog.exec_bind_error hout, .refl _ _, by simp⟩
  | false =>
      rw [hraises, if_neg Bool.false_ne_true] at hout
      -- the check-out sets a state and a time, and no queue name
      have hsame : Table.SameUpTo (fun r : Recover B => r.retryQueueName)
          (w.1.tables.recover.update x (RecoverDAO.checkedOut w.1.currentTimestamp)
            (RecoverDAO.checkedOut_msgID _)) w.1.tables.recover := fun k => by
        rw [Table.get_update]
        split
        · next hk =>
            subst hk
            simp only [Option.map_map]
            rfl
        · rfl
      rw [Prog.exec_bind_ok hout, Prog.exec_bind_ok (exec_getRetryRabbitTemplate _)]
      by_cases hfound : c.templates r.retryQueueName = true ∧ r.retryQueueName ≠ ""
      · have hif : (c.templates r.retryQueueName && decide (r.retryQueueName ≠ "")) = true := by
          simpa using hfound
        rw [if_pos hif, Prog.exec_bind, exec_convertAndSend]
        by_cases hs : c.raises w.2
            (.convertAndSend r.retryQueueName (constructRetryMessage r)) = true
        · rw [if_pos hs]
          exact ⟨_, _, rfl, hsame, by simp [hfound]⟩
        · rw [if_neg hs]
          exact ⟨_, _, rfl, hsame, by simp [hfound]⟩
      · have hif : ¬ (c.templates r.retryQueueName && decide (r.retryQueueName ≠ "")) = true := by
          simpa using hfound
        rw [if_neg hif]
        exact ⟨_, _, rfl, hsame, by simpa using hfound⟩

theorem exec_doRecoverRecord (msgID : Int) : (doRecoverRecord msgID).exec c.answer w =
    match (getRecover msgID).exec c.answer w with
    | (.error ex, w₁) => (.error ex, w₁)
    | (.ok none, w₁) => (.ok ⟨msgID, false, some "There is no corresponding recover record!"⟩, w₁)
    | (.ok (some r), w₁) =>
        match (checkOutAndSend msgID r).exec c.answer w₁ with
        | (.ok sent, w₂) => (.ok ⟨msgID, sent, none⟩, w₂)
        | (.error ex, w₂) => (.ok ⟨msgID, false, some ex⟩, w₂) := by
  unfold doRecoverRecord
  rw [Prog.exec_bind]
  rcases (getRecover msgID).exec c.answer w with ⟨_ | _ | r, w₁⟩
  · rfl
  · rfl
  · simp only [Prog.exec_tryCatch, Prog.exec_bind]
    rcases (checkOutAndSend msgID r).exec c.answer w₁ with ⟨_ | _, w₂⟩ <;> rfl

theorem exec_recoverAll_cons (msgID : Int) (msgIDs : List Int) (errors : List (Int × String)) :
    (recoverAll (msgID :: msgIDs) errors).exec c.answer w =
    match (getRecover msgID).exec c.answer w with
    | (.error ex, w₁) => (.error ex, w₁)
    | (.ok none, w₁) => (recoverAll msgIDs errors).exec c.answer w₁
    | (.ok (some r), w₁) =>
        match (checkOutAndSend msgID r).exec c.answer w₁ with
        | (.ok _, w₂) => (recoverAll msgIDs errors).exec c.answer w₂
        | (.error ex, w₂) =>
            (recoverAll msgIDs (errors ++ [(msgID, ex)])).exec c.answer w₂ := by
  rw [recoverAll, Prog.exec_bind]
  rcases (getRecover msgID).exec c.answer w with ⟨_ | _ | r, w₁⟩
  · rfl
  · rfl
  · simp only [Prog.exec_tryCatch, Prog.exec_bind]
    rcases (checkOutAndSend msgID r).exec c.answer w₁ with ⟨_ | _, w₂⟩
    · rfl
    · simp only [Prog.exec_pure, List.append_nil]

/-! ### Arrays of ids -/

theorem Recoverable.congr {s s' : State B} {n : Nat}
    (hs : Table.SameUpTo (·.retryQueueName) s'.tables.recover s.tables.recover) :
    Recoverable c s' n x ↔ Recoverable c s n x := by
  constructor
  · rintro ⟨hpos, hread, q, hq, hc⟩
    exact ⟨hpos, hread, q, (hs x).symm.trans hq, hc⟩
  · rintro ⟨hpos, hread, q, hq, hc⟩
    exact ⟨hpos, hread, q, (hs x).trans hq, hc⟩

/-- What `getRecover` answers at the next record, and what that says about the record. -/
theorem exec_getRecover_cases : ∃ res, (getRecover x).exec c.answer w = (res, w.1, w.2 + 1) ∧
    match res with
    | .ok (some r) => 0 < x ∧ (Recoverable c w.1 (w.2 + 1) x ↔
        c.raises (w.2 + 1) (.checkOutRecover x) = true ∨
          c.templates r.retryQueueName = true ∧ r.retryQueueName ≠ "")
    | _ => ¬ Recoverable c w.1 (w.2 + 1) x := by
  refine ⟨_, exec_getRecover, ?_⟩
  by_cases hx : x ≤ 0
  · rw [if_pos hx]
    exact fun h => absurd h.pos (Int.not_lt.mpr hx)
  · rw [if_neg hx]
    cases hread : c.raises (w.2 + 1) (.getRecover x) with
    | true => exact fun h => absurd h.read (by simp [hread])
    | false =>
        rw [if_neg Bool.false_ne_true]
        cases hget : w.1.tables.recover.get x with
        | none =>
            rintro ⟨-, -, q, hq, -⟩
            rw [hget] at hq
            cases hq
        | some r =>
            refine ⟨Int.not_le.mp hx, ?_, fun h => ⟨Int.not_le.mp hx, hread, _, ?_, h⟩⟩
            · rintro ⟨-, -, q, hq, h⟩
              rw [hget] at hq
              cases hq
              exact h
            · rw [hget]
              rfl

/-- Where the batch is, in its list of errors, against the ids that single calls report. -/
structure ErrorsFollow (c : Conditions B) (s : State B) (n : Nat) (ids : List Int)
    (es : List (Int × String)) (failed : List Int) : Prop where
  length : es.length ≤ failed.length
  iff : es.map Prod.fst = failed ↔ ∀ p ∈ ids.zipIdx n, Recoverable c s p.2 p.1

theorem ErrorsFollow.congr {s s' : State B} {n : Nat} {es : List (Int × String)}
    {failed : List Int} (hs : Table.SameUpTo (·.retryQueueName) s'.tables.recover s.tables.recover)
    (h : ErrorsFollow c s' n ids es failed) : ErrorsFollow c s n ids es failed :=
  ⟨h.length, h.iff.trans (forall₂_congr fun _ _ => Recoverable.congr hs)⟩

section
variable {s : State B} {n : Nat} {es : List (Int × String)} {failed : List Int}
  (h : ErrorsFollow c s (n + 1) ids es failed)
include h

/-- The single call reports a failure that the batch does not list. -/
theorem ErrorsFollow.missed (hx : ¬ Recoverable c s n x) :
    ErrorsFollow c s n (x :: ids) es (x :: failed) := by
  refine ⟨Nat.le_succ_of_le h.length, ?_⟩
  have hne : es.map Prod.fst ≠ x :: failed := fun he => by
    have hlen := congrArg List.length he
    rw [List.length_map, List.length_cons] at hlen
    exact absurd h.length (by omega)
  rw [List.zipIdx_cons, List.forall_mem_cons]
  exact iff_of_false hne fun hall => hx hall.1

theorem ErrorsFollow.listed (hx : Recoverable c s n x) (ex : String) :
    ErrorsFollow c s n (x :: ids) ((x, ex) :: es) (x :: failed) := by
  refine ⟨Nat.succ_le_succ h.length, ?_⟩
  rw [List.zipIdx_cons, List.forall_mem_cons, List.map_cons, List.cons_eq_cons]
  exact and_congr (iff_of_true rfl hx) h.iff

theorem ErrorsFollow.sent (hx : Recoverable c s n x) :
    ErrorsFollow c s n (x :: ids) es failed := by
  refine ⟨h.length, ?_⟩
  rw [List.zipIdx_cons, List.forall_mem_cons]
  exact h.iff.trans (and_iff_right hx).symm

end

/-- The loop of the batch, if it comes to its end, against the single calls. -/
theorem recoverAll_ok {errors errs : List (Int × String)}
    (h : (recoverAll ids errors).exec c.answer w = (.ok errs, w')) :
    (recoverOneByOne c ids w).2 = w' ∧ ∃ es, errs = errors ++ es ∧
      ErrorsFollow c w.1 (w.2 + 1) ids es (reportedFailed (recoverOneByOne c ids w).1) := by
  induction ids generalizing errors w with
  | nil =>
      cases h
      exact ⟨rfl, [], by simp, Nat.le_refl _, by simp [recoverOneByOne, reportedFailed]⟩
  | cons msgID msgIDs ih =>
      obtain ⟨res, hget, hres⟩ := exec_getRecover_cases (x := msgID) (c := c) (w := w)
      rw [exec_recoverAll_cons, hget] at h
      rw [recoverOneByOne, exec_doRecoverRecord, hget]
      match res, hres with
      | .error ex, hres => cases h
      | .ok none, hres =>
          obtain ⟨hw, es, rfl, hes⟩ := ih h
          exact ⟨hw, es, rfl, hes.missed hres⟩
      | .ok (some r), ⟨hpos, hrec⟩ =>
          obtain ⟨sent, s', hsend, hsame, hsent⟩ :=
            exec_checkOutAndSend (c := c) (w := (w.1, w.2 + 1)) (r := r) hpos
          simp only [hsend] at h ⊢
          have hiff := hrec.trans (not_iff_comm.mp hsent.symm).symm
          match sent, hiff with
          | .error ex, hiff =>
              obtain ⟨hw, es, rfl, hes⟩ := ih h
              refine ⟨hw, (msgID, ex) :: es, List.append_assoc .., ?_⟩
              exact (hes.congr hsame).listed (hiff.mpr (by simp)) ex
          | .ok true, hiff =>
              obtain ⟨hw, es, rfl, hes⟩ := ih h
              exact ⟨hw, es, rfl, (hes.congr hsame).sent (hiff.mpr (by simp))⟩
          | .ok false, hiff =>
              obtain ⟨hw, es, rfl, hes⟩ := ih h
              exact ⟨hw, es, rfl, (hes.congr hsame).missed fun hr => hiff.mp hr rfl⟩

/-- The loop comes to its end if every record can be read. -/
theorem recoverAll_returns (errors : List (Int × String))
    (h : ∀ p ∈ ids.zipIdx (w.2 + 1), Recoverable c w.1 p.2 p.1) :
    ∃ errs w', (recoverAll ids errors).exec c.answer w = (.ok errs, w') := by
  induction ids generalizing errors w with
  | nil => exact ⟨errors, w, rfl⟩
  | cons msgID msgIDs ih =>
      rw [List.zipIdx_cons, List.forall_mem_cons] at h
      obtain ⟨hrec, hlater⟩ := h
      obtain ⟨res, hget, hres⟩ := exec_getRecover_cases (x := msgID) (c := c) (w := w)
      rw [exec_recoverAll_cons, hget]
      match res, hres with
      | .error ex, hres => exact absurd hrec hres
      | .ok none, hres => exact absurd hrec hres
      | .ok (some r), ⟨hpos, _⟩ =>
          obtain ⟨sent, s', hsend, hsame, -⟩ :=
            exec_checkOutAndSend (c := c) (w := (w.1, w.2 + 1)) (r := r) hpos
          have hlater' : ∀ p ∈ msgIDs.zipIdx (w.2 + 1 + 1), Recoverable c s' p.2 p.1 :=
            fun p hp => (Recoverable.congr hsame).mpr (hlater p hp)
          simp only [hsend]
          cases sent with
          | error ex => exact ih _ hlater'
          | ok b => exact ih _ hlater'

theorem exec_doBatchRecoverRecords (hne : ids ≠ []) :
    (doBatchRecoverRecords ids).exec c.answer w =
      match (recoverAll ids []).exec c.answer w with
      | (.ok errors, w') => (.ok (batchResult errors), w')
      | (.error ex, w') => (.error ex, w') := by
  unfold doBatchRecoverRecords
  rw [if_neg (by simpa using hne), Prog.exec_bind]
  rcases (recoverAll ids []).exec c.answer w with ⟨_ | _, _⟩ <;> rfl

/-- **The batch is the single calls, one after the other**, exactly if every record of the array
can be read, and every record that is checked out has a template. -/
theorem batchRecover_iff (c : Conditions B) (s : State B) (ids : List Int) :
    BatchIsOneByOne c s ids ↔ ∀ p ∈ ids.zipIdx 1, Recoverable c s p.2 p.1 := by
  by_cases hne : ids = []
  · subst hne
    exact iff_of_true ⟨rfl, rfl, _, rfl, rfl, by simp⟩ (by simp)
  have hexec := exec_doBatchRecoverRecords (c := c) (w := (s, 0)) hne
  constructor
  · rintro ⟨-, -, res, hres, hids, -⟩
    rw [hexec] at hres
    rcases h : (recoverAll ids []).exec c.answer (s, 0) with ⟨ex | errs, w'⟩
    · rw [h] at hres
      cases hres
    · rw [h] at hres
      cases hres
      obtain ⟨-, es, rfl, hes⟩ := recoverAll_ok h
      exact hes.iff.mp hids
  · intro hrec
    obtain ⟨errs, w', h⟩ := recoverAll_returns (w := (s, 0)) [] hrec
    obtain ⟨hw, es, rfl, hes⟩ := recoverAll_ok h
    rw [h] at hexec
    refine ⟨?_, ?_, batchResult errs, ?_, hes.iff.mpr hrec, ?_⟩
    · rw [hexec, hw]
    · rw [hexec, hw]
    · rw [hexec]
    · simp [batchResult, hne]

/-- An unknown id: the single call fails, and the batch reports success. -/
theorem unknown_id :
    ((doRecoverRecord 5).exec (Conditions.answer ⟨fun _ => true, fun _ _ => false⟩)
        ((State.empty : State String), 0)).1 =
      .ok ⟨5, false, some "There is no corresponding recover record!"⟩ ∧
    ((doBatchRecoverRecords [5]).exec (Conditions.answer ⟨fun _ => true, fun _ _ => false⟩)
        ((State.empty : State String), 0)).1 = .ok ⟨true, none, [], []⟩ ∧
    ¬ BatchIsOneByOne ⟨fun _ => true, fun _ _ => false⟩ (State.empty : State String) [5] := by
  refine ⟨rfl, rfl, fun h => ?_⟩
  obtain ⟨res, hres, hids, -⟩ := h.result
  cases hres
  cases hids

end MRF.Center
