import MRF.Center.Records

/-!
# Center — InRecover

The rows of `recover` in `IN_RECOVER`.  A row comes to this state by a check-out alone, and the
request that checked it out has its record.  It leaves it by a clean or a check-in, which a client
sends; until then it depends on the message that the request sends.

`record_step`: a request with a record goes on to send it, as long as it finds a template and the
send does not raise.
-/

namespace MRF.Center
open MRF.Library State

variable {B : Type} [BusinessMsg B] {x : Int} {e : Env} {m : RetryMessage B} {t t' : Tables B}
  {cfg : MRFServerConfig} {s s' : State B} {a : Action B}

theorem Applied.inRecover_inv (h : Applied e m t t') (hx : t'.RecoverStateIs x .inRecover) :
    t.RecoverStateIs x .inRecover := by
  obtain ⟨r, hr, hstate⟩ := hx
  cases h with
  | cleanRecover hf => exact ⟨r, (Table.get_delete_inv hr).2, hstate⟩
  | resendForRecover hf =>
      rw [Tables.setRecover_recover, Table.get_update] at hr
      rcases Table.update_inv hr with hr | ⟨-, r₀, -, rfl⟩
      · exact ⟨r, hr, hstate⟩
      · cases hstate
  | moveToRecover hf hid hrow hcon hu =>
      rcases Table.get_insert_inv hu hr with hr | ⟨-, rfl⟩
      · exact ⟨r, hr, hstate⟩
      · cases hstate
  | immediateToRecover hf hid hcon hu =>
      rcases Table.get_insert_inv hu hr with hr | ⟨-, rfl⟩
      · exact ⟨r, hr, hstate⟩
      · cases hstate
  | directToRecover hf hid hcon hu =>
      rcases Table.get_insert_inv hu hr with hr | ⟨-, rfl⟩
      · exact ⟨r, hr, hstate⟩
      · cases hstate
  | _ => exact ⟨r, hr, hstate⟩

/-- A row is in recovery since it was checked out. -/
theorem State.Wrote.inRecover_inv (h : Wrote cfg s a t') (hx : t'.RecoverStateIs x .inRecover) :
    s.tables.RecoverStateIs x .inRecover ∨ s.call a = some (.checkOutRecover x) := by
  cases h with
  | applied hm h => exact .inl (h.inRecover_inv hx)
  | houseKept hb hu =>
      obtain ⟨r, hr, hstate⟩ := hx
      rcases Table.get_insertAll_inv hu hr with hr | hmem
      · exact .inl ⟨r, hr, hstate⟩
      · obtain ⟨cur, -, rfl⟩ := List.mem_map.mp hmem
        cases hstate
  | checkOutRecover hc =>
      obtain ⟨r, hr, hstate⟩ := hx
      rw [Tables.setRecover_recover, Table.get_update] at hr
      rcases Table.update_inv hr with hr | ⟨rfl, -⟩
      · exact .inl ⟨r, hr, hstate⟩
      · exact .inr hc
  | deleteRecover hc =>
      obtain ⟨r, hr, hstate⟩ := hx
      exact .inl ⟨r, (Table.get_delete_inv hr).2, hstate⟩
  | _ => exact .inl hx

/-- The request that checks a row out has its record. -/
theorem State.Stepped.checkOut_step (h : Stepped cfg s a s') (hc : RequestsConform s)
    (hcall : s.call a = some (.checkOutRecover x)) (hn : ¬ s.tables.RecoverStateIs x .inRecover)
    (hx : s'.tables.RecoverStateIs x .inRecover) : ∃ i, HasRecord x s' i := by
  cases h with
  | @requestStep i raises found act op k hi hk =>
      rw [call_requestStep hi hk] at hcall
      cases hcall
      have hallows := (hc i act hi).allows hk
      cases hst : act.state with
      | got r =>
          rw [hst] at hallows
          obtain ⟨rfl, hpos⟩ := hallows
          cases raises with
          | true =>
              rw [serve_checkOutRecover_raises found hpos] at hx
              exact absurd hx hn
          | false =>
              refine ⟨i, _, r, Function.update_self .., .inl ?_, rfl⟩
              rw [serve_checkOutRecover found hpos, Activation.answer, hst]
              rfl
      | _ => rw [hst] at hallows; exact hallows.elim
  | _ => cases hcall

/-- A checked-out record is sent: the request finds a template, and the send does not raise. -/
structure SendsRecords (s : State B) (a : Action B) : Prop where
  template : ∀ i raises found q, a = .requestStep i raises found →
    s.call a = some (.getRetryRabbitTemplate q) → found = true
  send : ∀ i raises found k m, a = .requestStep i raises found →
    s.call a = some (.convertAndSend k m) → raises = false

/-- A request that has a record goes on to send it. -/
theorem State.Stepped.record_step (h : Stepped cfg s a s') (hc : RequestsConform s)
    (hsend : SendsRecords s a) {j : Nat} (hj : HasRecord x s j)
    (hq : ∀ act r, s.requests j = some act → act.state.record = some r → r.retryQueueName ≠ "") :
    HasRecord x s' j ∨ ∃ m ∈ s'.retryQueues, m.isFromRecover = true ∧ m.msgID = x := by
  obtain ⟨act, r, hact, hst, rfl⟩ := hj
  cases h with
  | @request i req hi =>
      have hne : j ≠ i := by
        rintro rfl
        rw [hi] at hact
        cases hact
      exact .inl ⟨act, r, by simpa only [Function.update_of_ne hne] using hact, hst, rfl⟩
  | @requestEnd i act' hi hre =>
      by_cases he : j = i
      · -- a request that ends is idle
        subst he
        rw [hact] at hi
        cases hi
        have hidle : act.state = .idle := by
          cases hrest : act.rest with
          | ret v => exact (hc j act hact).returned hrest
          | throw ex => exact (hc j act hact).thrown hrest
          | call op k => exact absurd hrest (hre op k)
        rw [hidle] at hst
        exact hst.elim nofun nofun
      · exact .inl ⟨act, r, by simpa only [Function.update_of_ne he] using hact, hst, rfl⟩
  | @requestStep i raises found act' op k hi hk =>
      by_cases he : j = i
      · subst he
        rw [hact] at hi
        cases hi
        -- the protocol leaves one call: the template is asked for, then the record is sent
        have hallows := (hc j act hact).allows hk
        rcases hst with hst | hst
        · rw [hst] at hallows
          cases op with
          | getRetryRabbitTemplate q =>
              obtain rfl : q = r.retryQueueName := hallows
              obtain rfl := hsend.template j raises found _ rfl (call_requestStep hact hk)
              have hname := hq act r hact (by rw [hst]; rfl)
              refine .inl ⟨_, r, Function.update_self .., .inr ?_, rfl⟩
              simp only [Activation.answer, hst, serve, hname, ne_eq, not_false_eq_true,
                decide_true, Bool.and_self]
              rfl
          | _ => exact hallows.elim
        · rw [hst] at hallows
          cases op with
          | convertAndSend key m =>
              obtain rfl : m = MRFRecoverService.constructRetryMessage r := hallows.2
              obtain rfl := hsend.send j raises found _ _ rfl (call_requestStep hact hk)
              exact .inr ⟨_, List.mem_append_right _ (List.mem_singleton.mpr rfl), rfl, rfl⟩
          | _ => exact hallows.elim
      · obtain ⟨t, u, hs⟩ := serve_snd (s := s) raises found op
        exact .inl ⟨act, r, by simpa only [hs, Function.update_of_ne he] using hact, hst, rfl⟩
  | _ => exact .inl ⟨act, r, hact, hst, rfl⟩

/-- A clean or a check-in takes the row of its id out of recovery. -/
theorem not_inRecover_of_processed (he : e.faults = []) (hid : 0 < m.msgID)
    (hf : m.messageFlag = .cleanRecover ∨ m.messageFlag = .resendForRecover) :
    ¬ (processed e m t).RecoverStateIs m.msgID .inRecover := by
  rintro ⟨r, hr, hstate⟩
  rcases hf with hf | hf
  · rw [processed_cleanRecover he hf hid] at hr
    exact (Table.get_delete_inv hr).1 rfl
  · rw [processed_resendForRecover he hf hid, Tables.setRecover_recover, Table.get_update,
      if_pos rfl] at hr
    obtain ⟨r₀, -, rfl⟩ := Option.map_eq_some_iff.mp hr
    cases hstate

end MRF.Center
