import MRF.Center.HouseKeep
import MRF.Library.Lease

/-!
# Center — RecoverLease

Requests of the admin page check recover records out and send them to their retry queues.
`RecoverDAO` documents the check-out as a lock, but the statement has no condition on
`recover_state`, and neither recover method looks at its result.

`send_run`: as long as a check-out finds its row in `TO_RECOVER`, the row is checked in between any
two sends.
-/

namespace MRF.Center
open MRF.Library State MRFMessageProcessService

variable {B : Type} [BusinessMsg B] {x : Int} {e : Env} {m : RetryMessage B} {t t' : Tables B}
  {cfg : MRFServerConfig} {s s' : State B} {a : Action B} {tr : List (State B × Action B)}

/-- The row of `x` in `recover` has the state. -/
def Tables.RecoverStateIs (t : Tables B) (x : Int) (state : RecoverState) : Prop :=
  ∃ r, t.recover.get x = some r ∧ r.recoverState = state

/-- A request has checked the record of `x` out and not sent it. -/
def HasRecord (x : Int) (s : State B) (i : Nat) : Prop :=
  ∃ act r, s.requests i = some act ∧ (act.state = .out r ∨ act.state = .ready r) ∧ r.msgID = x

/-- A request sends the record of `x` to its retry queue. -/
def Sends (x : Int) (s : State B) (a : Action B) : Prop :=
  ∃ i found k m, a = .requestStep i false found ∧ s.call a = some (.convertAndSend k m) ∧
    m.msgID = x

/-- A check-in of `x` is applied, and `x` is to be recovered after it. -/
def ChecksInRecover (x : Int) (s : State B) (a : Action B) : Prop :=
  ∃ c m, s.message a = some (c, m) ∧ m.messageFlag = .resendForRecover ∧ m.msgID = x ∧
    (processed (s.env c) m s.tables).RecoverStateIs x .toRecover

/-- A check-out that does not raise finds its row in `TO_RECOVER`. -/
def ChecksOutFree (s : State B) (a : Action B) : Prop :=
  ∀ i found y, a = .requestStep i false found → s.call a = some (.checkOutRecover y) →
    s.tables.RecoverStateIs y .toRecover

/-- No check-in of `x` is applied while a request has the record of `x`. -/
def NoCheckInWhileOut (x : Int) (s : State B) (a : Action B) : Prop :=
  ChecksInRecover x s a → ∀ i, ¬ HasRecord x s i

/-! ### Requests -/

/-- The requests on their way keep to the protocol. -/
def RequestsConform (s : State B) : Prop :=
  ∀ i act, s.requests i = some act →
    act.Conforms requestProtocol (fun st _ => st = .idle) (fun st _ => st = .idle)

omit [BusinessMsg B] in
/-- The center answers as the protocol assumes. -/
theorem State.serve_answers (st : RequestState B) (raises found : Bool) (op : RecoverOp B) :
    requestProtocol.answers st op (s.serve raises found op).1 := by
  cases op with
  | getRecover y =>
      change requestProtocol.answers st (.getRecover y)
        (s.callDao (RecoverDAO.getRecover y) raises).1
      rcases callDao_cases (s := s) (RecoverDAO.getRecover y) raises with ⟨r, s₁, h, he⟩ | ⟨e, he⟩
      · rw [he]
        unfold RecoverDAO.getRecover at h
        split at h
        · cases h; trivial
        · next hy =>
            have hget := (Prod.mk.inj (Option.some.inj (Dao.execute_ok h))).1
            cases r with
            | none => trivial
            | some r => exact ⟨Table.key_of_get hget, Int.not_le.mp hy⟩
      · rw [he]; trivial
  | getRetryRabbitTemplate q => trivial
  | _ => trivial

theorem RequestsConform.step (h : Stepped cfg s a s') (hs : RequestsConform s) :
    RequestsConform s' := by
  intro i act hi
  rcases h.requests_inv hi with ⟨hi, -⟩ | ⟨req, rfl⟩ | ⟨raises, found, act₀, op, k, -, hi₀, hk, rfl⟩
  · exact hs i act hi
  · exact req.run_conforms
  · exact (hs i act₀ hi₀).answer hk (serve_answers ..)

omit [BusinessMsg B] in
theorem State.serve_checkOutRecover (found : Bool) (hx : 0 < x) :
    s.serve false found (.checkOutRecover x) = (.ok (s.tables.recover.get x).isSome,
      { s with tables := s.tables.setRecover (s.tables.recover.update x
        (RecoverDAO.checkedOut s.currentTimestamp) (RecoverDAO.checkedOut_msgID _)) }) := by
  simp only [serve, callDao, RecoverDAO.checkOutRecover, if_neg (Int.not_le.mpr hx)]
  rfl

omit [BusinessMsg B] in
theorem State.serve_checkOutRecover_raises (found : Bool) (hx : 0 < x) :
    s.serve true found (.checkOutRecover x) = (.error "checkOutRecover", s) := by
  simp only [serve, callDao, RecoverDAO.checkOutRecover, if_neg (Int.not_le.mpr hx)]
  rfl

/-- Where the record of a request comes from: the request has just checked it out. -/
theorem State.Stepped.record_inv (h : Stepped cfg s a s') (hc : RequestsConform s) {j : Nat}
    (hj : HasRecord x s' j) : HasRecord x s j ∨
      ∃ found, a = .requestStep j false found ∧ s.call a = some (.checkOutRecover x) ∧ 0 < x := by
  obtain ⟨act', r, hact, hr, rfl⟩ := hj
  rcases h.requests_inv hact with
    ⟨hact, -⟩ | ⟨req, rfl⟩ | ⟨raises, found, act, op, k, rfl, hi, hk, rfl⟩
  · exact .inl ⟨act', r, hact, hr, rfl⟩
  · rcases hr with hr | hr <;> cases hr
  · rcases requestProtocol_next ((hc j act hi).allows hk) hr with hst | ⟨-, rfl, hpos, b, hb⟩
    · exact .inl ⟨act, r, hi, .inl hst, rfl⟩
    · refine .inr ?_
      cases raises with
      | false => exact ⟨found, rfl, call_requestStep hi hk, hpos⟩
      | true =>
          rw [serve_checkOutRecover_raises found hpos] at hb
          cases hb

/-! ### Rows to be recovered -/

theorem Applied.toRecover_inv (h : Applied e m t t') (hx : t'.RecoverStateIs x .toRecover) :
    t.recover.get x = none ∨ t.RecoverStateIs x .toRecover ∨
      (m.messageFlag = .resendForRecover ∧ m.msgID = x) := by
  by_cases hn : t.recover.get x = none
  · exact .inl hn
  · refine .inr ?_
    obtain ⟨r, hr, hstate⟩ := hx
    cases h with
    | cleanRecover hf =>
        rw [Tables.setRecover_recover, Table.get_delete] at hr
        split at hr
        · cases hr
        · exact .inl ⟨r, hr, hstate⟩
    | resendForRecover hf =>
        rw [Tables.setRecover_recover, Table.get_update] at hr
        split at hr
        · next he => exact .inr ⟨hf, he.symm⟩
        · exact .inl ⟨r, hr, hstate⟩
    | moveToRecover hf hid hrow hcon hu =>
        exact .inl ⟨r, (Table.get_insert_of_ne_none hu hn).symm.trans hr, hstate⟩
    | immediateToRecover hf hid hcon hu =>
        exact .inl ⟨r, (Table.get_insert_of_ne_none hu hn).symm.trans hr, hstate⟩
    | directToRecover hf hid hcon hu =>
        exact .inl ⟨r, (Table.get_insert_of_ne_none hu hn).symm.trans hr, hstate⟩
    | _ => exact .inl ⟨r, hr, hstate⟩

/-- A row is to be recovered since it was checked in, or since it came in. -/
theorem State.Stepped.toRecover_inv (h : Stepped cfg s a s')
    (hx : s'.tables.RecoverStateIs x .toRecover) :
    s.tables.recover.get x = none ∨ s.tables.RecoverStateIs x .toRecover ∨
      ChecksInRecover x s a := by
  cases hm : s.message a with
  | some p =>
      obtain ⟨c, m⟩ := p
      have ht := h.tables_eq hm
      refine ((processed_applied (s.env c) m s.tables).toRecover_inv (ht ▸ hx)).imp_right ?_
      exact .imp_right fun ⟨hf, hid⟩ => ⟨c, m, hm, hf, hid, ht ▸ hx⟩
  | none =>
      by_cases hn : s.tables.recover.get x = none
      · exact .inl hn
      · refine .inr (.inl ?_)
        obtain ⟨r, hr, hstate⟩ := hx
        generalize ht : s'.tables = t' at hr
        have hw := ht ▸ h.wrote
        cases hw with
        | applied hm' => rw [hm] at hm'; cases hm'
        | houseKept hb hu =>
            exact ⟨r, (Table.get_insertAll_of_ne_none hu hn).symm.trans hr, hstate⟩
        | checkOutRecover hc =>
            rw [Tables.setRecover_recover, Table.get_update] at hr
            split at hr
            · obtain ⟨old, hold, rfl⟩ := Option.map_eq_some_iff.mp hr
              cases hstate
            · exact ⟨r, hr, hstate⟩
        | deleteRecover hc =>
            rw [Tables.setRecover_recover, Table.get_delete] at hr
            split at hr
            · cases hr
            · exact ⟨r, hr, hstate⟩
        | _ => exact ⟨r, hr, hstate⟩

/-! ### The lease -/

/-- What a step has to meet for the record of `x` to be leased. -/
structure RecordLeased (cfg : MRFServerConfig) (x : Int) (s : State B) (a : Action B) : Prop where
  conform : RequestsConform s
  checkOut : ChecksOutFree s a
  checkIn : NoCheckInWhileOut x s a
  inserts : ¬ Inserts cfg s a x

omit [BusinessMsg B] in
/-- The check-out of a record takes it from `TO_RECOVER`. -/
theorem not_toRecover_of_checkOut {y : Int} {found : Bool} (hy : 0 < y) :
    ¬ (s.serve false found (.checkOutRecover y)).2.tables.RecoverStateIs y .toRecover := by
  rintro ⟨r, hr, hstate⟩
  rw [serve_checkOutRecover found hy] at hr
  have hget := (Table.get_update s.tables.recover y
    (RecoverDAO.checkedOut s.currentTimestamp) (RecoverDAO.checkedOut_msgID _) y).symm.trans hr
  rw [if_pos rfl] at hget
  obtain ⟨old, -, rfl⟩ := Option.map_eq_some_iff.mp hget
  cases hstate

/-- A request that sends a record has it, and does not have it afterwards. -/
theorem State.Stepped.sends (h : Stepped cfg s a s') (hc : RequestsConform s)
    (hs : Sends x s a) : ∃ i, HasRecord x s i ∧ ¬ HasRecord x s' i := by
  obtain ⟨i, found, k, m, rfl, hcall, rfl⟩ := hs
  cases h with
  | @requestStep i raises found act op k hi hk =>
      rw [call_requestStep hi hk] at hcall
      cases hcall
      obtain ⟨r, hst, rfl, rfl, hnext⟩ := requestProtocol_send ((hc i act hi).allows hk)
      refine ⟨i, ⟨act, r, hi, .inr hst, rfl⟩, ?_⟩
      rintro ⟨act', r', hact, hr, -⟩
      simp only [Function.update_self, Option.some.injEq] at hact
      subst hact
      rw [Activation.answer, hnext] at hr
      exact hr.elim nofun nofun

/-- The check-out is a lease of the record, if it finds the row in `TO_RECOVER`. -/
theorem isLease_checkOutRecover (cfg : MRFServerConfig) (x : Int) :
    IsLease (Guarded (stepOf (State.step (B := B) cfg)) (RecordLeased cfg x))
      (fun s => s.tables.RecoverStateIs x .toRecover) (HasRecord x) (Sends x)
      (ChecksInRecover x) where
  taken := by
    rintro s a s' i ⟨hstep, hg⟩ hi hi₀
    have hst := step_stepped hstep
    rcases hst.record_inv hg.conform hi with hi' | ⟨found, rfl, hcall, hpos⟩
    · exact absurd hi' hi₀
    · refine ⟨hg.checkOut i found x rfl hcall, ?_, fun j hj => ?_⟩
      · cases hst with
        | @requestStep i raises found act op k hact hk =>
            rw [call_requestStep hact hk] at hcall
            cases hcall
            exact not_toRecover_of_checkOut hpos
      · rcases hst.record_inv hg.conform hj with hj' | ⟨_, ha, -, -⟩
        · exact .inl hj'
        · cases ha
          exact .inr rfl
  freed := by
    rintro s a s' ⟨hstep, hg⟩ hx
    rcases (step_stepped hstep).toRecover_inv hx with hn | hx₀
    · obtain ⟨r, hr, -⟩ := hx
      exact absurd ⟨hn, s', hstep, by simp [hr]⟩ hg.inserts
    · exact hx₀
  returned := by
    rintro s a s' ⟨-, hg⟩ hc
    exact hg.checkIn hc
  used := by
    rintro s a s' ⟨hstep, hg⟩ hs
    refine ⟨?_, (step_stepped hstep).sends hg.conform hs⟩
    obtain ⟨i, found, k, m, rfl, -⟩ := hs
    rintro ⟨c, m, hm, -⟩
    cases hm

/-! ### Runs -/

/-- **The check-out of a recover record works like a lock**, in every run, from requests that are
all to come, in which a check-out finds its row in `TO_RECOVER`, and no check-in of `x` is applied
while a request has the record: between two sends of `x` there is a check-in of `x`. -/
theorem send_run
    (h : Run (Guarded (stepOf (State.step cfg)) fun s a =>
      ChecksOutFree s a ∧ NoCheckInWhileOut x s a ∧ ¬ Inserts cfg s a x) s tr s')
    (hs : ∀ i, s.requests i = none) :
    ∀ tr₁ p tr₂ q tr₃, tr = tr₁ ++ p :: tr₂ ++ q :: tr₃ → Sends x p.1 p.2 → Sends x q.1 q.2 →
      ∃ r ∈ tr₂, ChecksInRecover x r.1 r.2 := by
  rintro tr₁ p tr₂ q tr₃ rfl hp hq
  have hconform := h.forall_mem (I := RequestsConform)
    (fun s a s' hg hs => hs.step (step_stepped hg.1)) fun i act hi => by
      rw [hs i] at hi
      cases hi
  have hleased : ∀ r ∈ tr₁ ++ p :: tr₂ ++ q :: tr₃, RecordLeased cfg x r.1 r.2 := fun r hr =>
    ⟨(hconform r hr).1, (h.guard r hr).1, (h.guard r hr).2.1, (h.guard r hr).2.2⟩
  have hnone : ∀ i, ¬ HasRecord x s i := by
    rintro i ⟨act, r, hi, -⟩
    rw [hs i] at hi
    cases hi
  exact (isLease_checkOutRecover cfg x).between_uses (h.of_guarded.to_guarded hleased)
    ⟨fun i _ hi => absurd hi (hnone i), fun i hi => absurd hi (hnone i)⟩ hp hq

/-- The center with the record 1 in `recover`. -/
def recoverState : State String :=
  sampleState.process (.sample 2) (sampleMessage .intervalMsgDoRecover 1 "post 1")

/-- The calls of a request up to the send of a record. -/
def calls : List (Action String) :=
  [.requestStep 0 false true, .requestStep 0 false true, .requestStep 0 false true]

/-- The action is one of a request, and its check-out, if it is one, finds its row; and the
record 1 is there. -/
def findsRow (s : State String) (a : Action String) : Bool :=
  (s.tables.recover.get 1).isSome && (s.message a).isNone &&
    match s.call a with
    | some (.checkOutRecover y) => (s.tables.recover.get y).any fun r => r.recoverState = .toRecover
    | _ => true

theorem guard_of_findsRow {s : State String} {a : Action String} (h : findsRow s a = true) :
    ChecksOutFree s a ∧ NoCheckInWhileOut 1 s a ∧ ¬ Inserts .sample s a 1 := by
  simp only [findsRow, Bool.and_eq_true, Option.isNone_iff_eq_none] at h
  obtain ⟨⟨hsome, hm⟩, hrow⟩ := h
  refine ⟨fun i found y ha hcall => ?_, ?_, fun hi => ?_⟩
  · rw [hcall] at hrow
    obtain ⟨r, hr, hstate⟩ := (Option.any_eq_true _ _).mp hrow
    exact ⟨r, hr, of_decide_eq_true hstate⟩
  · rintro ⟨c, m, hm', -⟩
    rw [hm] at hm'
    cases hm'
  · rw [hi.1] at hsome
    cases hsome

theorem send_run_sample : ∃ s₁ s₂ s₃ s₄, exec (State.step .sample) recoverState
      (.request 0 (.doRecoverRecord 1) :: calls) = some s₁ ∧
    s₁.step .sample (.requestStep 0 false true) = some s₂ ∧
    s₂.step .sample (.requestEnd 0) = some s₃ ∧
    s₃.step .sample (.process (.sample 3) (sampleMessage .resendForRecover 1 "post 1")) = some s₄ ∧
    ∃ p ∈ (s₂, .requestEnd 0) ::
      (s₃, .process (.sample 3) (sampleMessage .resendForRecover 1 "post 1")) ::
      trace (State.step .sample) s₄ (.request 0 (.doRecoverRecord 1) :: calls),
      ChecksInRecover 1 p.1 p.2 := by
  obtain ⟨s₁, h₁⟩ : ∃ s, exec (State.step .sample) recoverState
      (.request 0 (.doRecoverRecord 1) :: calls) = some s := ⟨_, rfl⟩
  obtain ⟨s₂, h₂⟩ : ∃ s, s₁.step .sample (.requestStep 0 false true) = some s := by
    cases h₁
    exact ⟨_, rfl⟩
  obtain ⟨s₃, h₃⟩ : ∃ s, s₂.step .sample (.requestEnd 0) = some s := by
    cases h₁
    cases h₂
    exact ⟨_, rfl⟩
  obtain ⟨s₄, h₄⟩ : ∃ s, s₃.step .sample
      (.process (.sample 3) (sampleMessage .resendForRecover 1 "post 1")) = some s := ⟨_, rfl⟩
  obtain ⟨s₅, h₅⟩ : ∃ s, exec (State.step .sample) s₄
      (.request 0 (.doRecoverRecord 1) :: calls) = some s := by
    cases h₁
    cases h₂
    cases h₃
    cases h₄
    exact ⟨_, rfl⟩
  obtain ⟨s₆, h₆⟩ : ∃ s, s₅.step .sample (.requestStep 0 false true) = some s := by
    cases h₁
    cases h₂
    cases h₃
    cases h₄
    cases h₅
    exact ⟨_, rfl⟩
  -- sent to its client, checked in again by the client, and sent once more
  have hrun := ((Run.of_exec h₁).trans (.cons h₂ (.cons h₃ (.cons h₄ (Run.of_exec h₅))))).trans
    (Run.one h₆)
  refine ⟨s₁, s₂, s₃, s₄, h₁, h₂, h₃, h₄, send_run (hrun.to_guarded ?_) (fun i => rfl) _
    (s₁, .requestStep 0 false true) _ (s₅, .requestStep 0 false true) [] rfl ?_ ?_⟩
  · have hfinds : (trace (State.step .sample) recoverState
          (.request 0 (.doRecoverRecord 1) :: calls)).all (fun p => findsRow p.1 p.2) = true ∧
        findsRow s₁ (.requestStep 0 false true) = true ∧ findsRow s₂ (.requestEnd 0) = true ∧
        (trace (State.step .sample) s₄
          (.request 0 (.doRecoverRecord 1) :: calls)).all (fun p => findsRow p.1 p.2) = true ∧
        findsRow s₅ (.requestStep 0 false true) = true := by
      cases h₁
      cases h₂
      cases h₃
      cases h₄
      cases h₅
      exact ⟨rfl, rfl, rfl, rfl, rfl⟩
    intro p hp
    simp only [List.mem_append, List.mem_cons, List.not_mem_nil, or_false] at hp
    rcases hp with (hp | rfl | rfl | rfl | hp) | rfl
    · exact guard_of_findsRow (List.all_eq_true.mp hfinds.1 p hp)
    · exact guard_of_findsRow hfinds.2.1
    · exact guard_of_findsRow hfinds.2.2.1
    · refine ⟨fun _ _ _ ha => (by cases ha), fun _ i => ?_, fun hi => ?_⟩
      · rintro ⟨act, r, hi, -⟩
        cases h₁
        cases h₂
        cases h₃
        by_cases he : i = 0
        · subst he
          cases hi
        · simp [Function.update_of_ne he, recoverState, sampleState, State.process,
            State.empty] at hi
      · cases h₁
        cases h₂
        cases h₃
        cases hi.1
    · exact guard_of_findsRow (List.all_eq_true.mp hfinds.2.2.2.1 p hp)
    · exact guard_of_findsRow hfinds.2.2.2.2
  · cases h₁
    exact ⟨0, true, _, _, rfl, rfl, rfl⟩
  · cases h₁
    cases h₂
    cases h₃
    cases h₄
    cases h₅
    exact ⟨0, true, _, _, rfl, rfl, rfl⟩

/-- A batch with a repeated id sends the record twice, with nothing in between. -/
theorem sent_twice :
    ∃ s₁ s₂, exec (State.step .sample) recoverState
        (.request 0 (.doBatchRecoverRecords [1, 1]) :: calls) = some s₁ ∧
      Sends 1 s₁ (.requestStep 0 false true) ∧
      exec (State.step .sample) s₁ (.requestStep 0 false true :: calls) = some s₂ ∧
      Sends 1 s₂ (.requestStep 0 false true) ∧
      (s₂.step .sample (.requestStep 0 false true)).isSome ∧
      ∀ p ∈ trace (State.step .sample) s₁ (.requestStep 0 false true :: calls),
        ¬ ChecksInRecover 1 p.1 p.2 := by
  refine ⟨_, _, rfl, ⟨0, true, _, _, rfl, rfl, rfl⟩, rfl, ⟨0, true, _, _, rfl, rfl, rfl⟩, rfl,
    fun p hp => ?_⟩
  have ha := mem_trace hp
  simp only [calls, List.mem_cons, List.not_mem_nil, or_false, or_self] at ha
  rintro ⟨c, m, hm, -⟩
  rw [ha] at hm
  cases hm

end MRF.Center
