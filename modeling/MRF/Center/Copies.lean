import MRF.Center.Records
import MRF.Library.AtMostOne

/-!
# Center — Copies

The copies of one business message in the center, and the actions that concern it.

`State.Stepped.same` is the frame theorem: an action that does not concern the message leaves its
rows, its copies with the poll threads and the workers, and its messages in the retry queues as
they are.  It rests on the ids: what has one id has one content.
-/

namespace MRF.Center
open MRF.Library State MRFMessageProcessService

variable {B : Type} [BusinessMsg B] {b : B} {e : Env} {m : RetryMessage B} {t t' : Tables B}
  {cfg : MRFServerConfig} {s s' : State B} {a : Action B}

/-- The action moves a copy of the message, or writes to a row of it. -/
inductive Concerns (cfg : MRFServerConfig) (b : B) (s : State B) : Action B → Prop where
  | message {a : Action B} {c : Call} {m : RetryMessage B} (hm : s.message a = some (c, m))
      (hb : m.businessMsg = b) : Concerns cfg b s a
  | failOver {m : RetryMessage B} (hb : m.businessMsg = b) : Concerns cfg b s (.failOver m)
  | publish {m : RetryMessage B} (hb : m.businessMsg = b) : Concerns cfg b s (.publish m)
  | deliver {n : Nat} {m : RetryMessage B} (hn : s.retryQueues[n]? = some m)
      (hb : m.businessMsg = b) : Concerns cfg b s (.deliver n)
  /-- A check-out that raises, or finds the row to be retried. -/
  | checkOut {i : Nat} {raises : Bool} {r : IntervalRetry B} (hi : s.pollers i = .selected r)
      (hb : r.businessMsg = b)
      (hto : raises = true ∨ s.tables.RetryStateIs r.msgID .toRetry) :
      Concerns cfg b s (.checkOut i raises)
  | dispatch {i w : Nat} {r : IntervalRetry B} (hi : s.pollers i = .task r)
      (hb : r.businessMsg = b) : Concerns cfg b s (.dispatch i w)
  | sendRetry {w : Nat} {found raises : Bool} {r : IntervalRetry B} (hw : s.workers w = some r)
      (hb : r.businessMsg = b) : Concerns cfg b s (.sendRetry w found raises)
  | readHouseKeep {k : Nat} {rows : List (IntervalRetry B)} {r : IntervalRetry B}
      (hrows : s.outOfThreshold cfg = some rows) (hr : r ∈ rows) (hb : r.businessMsg = b) :
      Concerns cfg b s (.readHouseKeep k)
  | houseKeep {a : Action B} {rows : List (IntervalRetry B)} {r : IntervalRetry B}
      (hrows : s.batch cfg a = some rows) (hr : r ∈ rows) (hb : r.businessMsg = b) :
      Concerns cfg b s a
  | admin {a : Action B} {y : Int} {r : Recover B}
      (hc : s.call a = some (.checkOutRecover y) ∨ s.call a = some (.deleteRecover y))
      (hr : s.tables.recover.get y = some r) (hb : r.businessMsg = b) : Concerns cfg b s a
  | send {a : Action B} {k : String} {m : RetryMessage B}
      (hc : s.call a = some (.convertAndSend k m)) (hb : m.businessMsg = b) : Concerns cfg b s a

/-- What has one id has one content: two records, and a record and the message that is applied. -/
structure IdsAgree (s : State B) (a : Action B) : Prop where
  records : ∀ x q q' b b', s.Records x q b → s.Records x q' b' → q = q' ∧ b = b'
  message : ∀ c m q b, s.message a = some (c, m) → s.Records m.msgID q b → m.businessMsg = b

/-- The copies of the message are the same in both states. -/
structure Same (b : B) (s s' : State B) : Prop where
  retryQueues : ∀ m, m.businessMsg = b → (m ∈ s'.retryQueues ↔ m ∈ s.retryQueues)
  atMostOne : AtMostOne (fun m => m.businessMsg = b) s.retryQueues →
    AtMostOne (fun m => m.businessMsg = b) s'.retryQueues
  task : ∀ i r, r.businessMsg = b → (s'.pollers i = .task r ↔ s.pollers i = .task r)
  worker : ∀ w r, r.businessMsg = b → (s'.workers w = some r ↔ s.workers w = some r)
  intervalRetry :
    Table.SameRows (fun r => r.businessMsg = b) s.tables.intervalRetry s'.tables.intervalRetry
  recover : Table.SameRows (fun r => r.businessMsg = b) s.tables.recover s'.tables.recover

/-! ### Rows -/

theorem Applied.sameRows (h : Applied e m t t') (hm : m.businessMsg ≠ b)
    (hid : ∀ q b', t.HasRow m.msgID q b' → m.businessMsg = b') :
    Table.SameRows (fun r => r.businessMsg = b) t.intervalRetry t'.intervalRetry ∧
      Table.SameRows (fun r => r.businessMsg = b) t.recover t'.recover := by
  have hi : ∀ r, t.intervalRetry.get m.msgID = some r → r.businessMsg ≠ b :=
    fun r hr => hid _ _ (.inl ⟨r, hr, rfl, rfl⟩) ▸ hm
  have hr : ∀ r, t.recover.get m.msgID = some r → r.businessMsg ≠ b :=
    fun r hr => hid _ _ (.inr ⟨r, hr, rfl, rfl⟩) ▸ hm
  cases h with
  | unchanged => exact ⟨.refl _ _, .refl _ _⟩
  | cleanRecover hf => exact ⟨.refl _ _, Table.sameRows_delete hr⟩
  | cleanIntervalRetry hf => exact ⟨Table.sameRows_delete hi, .refl _ _⟩
  | resendForRecover hf =>
      exact ⟨.refl _ _, Table.sameRows_update (f := RecoverDAO.checkedIn _)
        (RecoverDAO.checkedIn_msgID _) fun r hget => ⟨hr r hget, hr r hget⟩⟩
  | checkin hf hpos hc =>
      exact ⟨Table.sameRows_update (f := IntervalRetryDAO.checkedIn _ _)
        (IntervalRetryDAO.checkedIn_msgID _ _) fun r hget => ⟨hi r hget, hm⟩, .refl _ _⟩
  | addIntervalRetry hf hpos hnew hc hu => exact ⟨Table.sameRows_insert hu hm, .refl _ _⟩
  | moveToRecover hf hpos hrow hc hu =>
      exact ⟨Table.sameRows_delete hi, Table.sameRows_insert hu hm⟩
  | moveToNowhere hf hpos hrow hc => exact ⟨Table.sameRows_delete hi, .refl _ _⟩
  | immediateToRecover hf hnew hc hu => exact ⟨.refl _ _, Table.sameRows_insert hu hm⟩
  | directToRecover hf hpos hc hu => exact ⟨.refl _ _, Table.sameRows_insert hu hm⟩

omit [BusinessMsg B] in
theorem checkedOut_businessMsg (now : Datetime) (r : IntervalRetry B) :
    (IntervalRetryDAO.checkedOut now r).businessMsg = r.businessMsg := by
  unfold IntervalRetryDAO.checkedOut
  split <;> rfl

theorem State.Wrote.sameRows (h : Wrote cfg s a t') (hids : IdsAgree s a)
    (hn : ¬ Concerns cfg b s a) :
    Table.SameRows (fun r => r.businessMsg = b) s.tables.intervalRetry t'.intervalRetry ∧
      Table.SameRows (fun r => r.businessMsg = b) s.tables.recover t'.recover := by
  cases h with
  | nothing => exact ⟨.refl _ _, .refl _ _⟩
  | @applied c m t hm h =>
      exact h.sameRows (fun hb => hn (.message hm hb)) fun q b' hrow =>
        hids.message c m q b' hm (.row hrow)
  | @checkOut i raises r ha hi =>
      refine ⟨?_, .refl _ _⟩
      by_cases hb : r.businessMsg = b
      · refine Table.sameRows_update_fixed (IntervalRetryDAO.checkedOut_msgID _) fun r' hr' => ?_
        exact if_neg fun hto => hn (ha ▸ .checkOut hi hb (.inr ⟨r', hr', hto⟩))
      · refine Table.sameRows_update (IntervalRetryDAO.checkedOut_msgID _) fun r' hr' => ?_
        have hsame := hids.records _ _ _ _ _ (.interval hr') (.polled (.inl hi) rfl rfl rfl)
        have hb' : r'.businessMsg ≠ b := hsame.2 ▸ hb
        exact ⟨hb', by rwa [checkedOut_businessMsg]⟩
  | @houseKept rows hrows u hu =>
      refine ⟨Table.sameRows_deleteAll ?_, Table.sameRows_insertAll hu ?_⟩
      · intro y hy r hr hb
        obtain ⟨r', hr', rfl⟩ := List.mem_map.mp hy
        have hsame := hids.records _ _ _ _ _ (.interval hr) (.batch hrows hr')
        exact hn (.houseKeep hrows hr' (hsame.2 ▸ hb))
      · intro r hr hb
        obtain ⟨r', hr', rfl⟩ := List.mem_map.mp hr
        exact hn (.houseKeep hrows hr' hb)
  | checkOutRecover hc =>
      refine ⟨.refl _ _, Table.sameRows_update (f := RecoverDAO.checkedOut _)
        (RecoverDAO.checkedOut_msgID _) fun r hr => ?_⟩
      have hb : r.businessMsg ≠ b := fun hb => hn (.admin (.inl hc) hr hb)
      exact ⟨hb, hb⟩
  | deleteRecover hc =>
      exact ⟨.refl _ _, Table.sameRows_delete fun r hr hb => hn (.admin (.inr hc) hr hb)⟩

/-! ### The frame theorem -/

/-- **An action that does not concern the message leaves its copies as they are.** -/
theorem State.Stepped.same (h : Stepped cfg s a s') (hids : IdsAgree s a)
    (hn : ¬ Concerns cfg b s a) : Same b s s' := by
  obtain ⟨hint, hrec⟩ := h.wrote.sameRows hids hn
  have hrefl : Same b s s := ⟨fun _ _ => Iff.rfl, id, fun _ _ _ => Iff.rfl, fun _ _ _ => Iff.rfl,
    .refl _ _, .refl _ _⟩
  cases h with
  | publish m =>
      have hb : m.businessMsg ≠ b := fun hb => hn (.publish hb)
      exact { hrefl with
        retryQueues := fun m' hb' =>
          mem_append_singleton_iff (P := fun m => m.businessMsg = b) hb hb'
        atMostOne := fun h => h.append fun hb' => absurd hb' hb }
  | @deliver n hlt =>
      have hget := List.getElem?_eq_getElem hlt
      have hb : s.retryQueues[n].businessMsg ≠ b := fun hb => hn (.deliver hget hb)
      exact { hrefl with
        retryQueues := fun m' hb' => mem_eraseIdx_iff (P := fun m => m.businessMsg = b) hget hb hb'
        atMostOne := fun h => h.eraseIdx n }
  | @select i y r hi hr hu =>
      refine { hrefl with task := fun j r' hb' => update_eq_iff ?_ ?_ j }
      · rw [hi]
        nofun
      · nofun
  | @checkOut i raises r hi =>
      refine { hrefl with
        intervalRetry := hint, recover := hrec
        task := fun j r' hb' => update_eq_iff ?_ ?_ j }
      · rw [hi]
        nofun
      · split
        · next hres =>
            intro he
            obtain rfl := Poller.task.inj he
            -- the thread gets a task only with the row, or when the statement raised
            refine hn (.checkOut hi hb' ?_)
            cases raises with
            | true => exact .inl rfl
            | false => exact .inr (checkOutResult_true hres).1
        · nofun
  | @dispatch i w r hi hw =>
      have hb : r.businessMsg ≠ b := fun hb => hn (.dispatch hi hb)
      have hne : ∀ r', r'.businessMsg = b → r ≠ r' := by
        rintro r' hb' rfl
        exact hb hb'
      refine { hrefl with
        task := fun j r' hb' => update_eq_iff ?_ ?_ j
        worker := fun j r' hb' => update_eq_iff ?_ ?_ j }
      · rw [hi]
        exact fun he => hne r' hb' (Poller.task.inj he)
      · nofun
      · rw [hw]
        nofun
      · exact fun he => hne r' hb' (Option.some.inj he)
  | @sendRetry w found raises r hw =>
      have hb : r.businessMsg ≠ b := fun hb => hn (.sendRetry hw hb)
      have hne : ∀ r', r'.businessMsg = b → r ≠ r' := by
        rintro r' hb' rfl
        exact hb hb'
      refine { hrefl with
        retryQueues := fun m hb' => ?_
        atMostOne := fun h => ?_
        worker := fun j r' hb' => update_eq_iff ?_ ?_ j }
      · simp only
        split
        · exact mem_append_singleton_iff (P := fun m => m.businessMsg = b) hb hb'
        · exact Iff.rfl
      · simp only
        split
        · exact h.append fun hb' => absurd hb' hb
        · exact h
      · rw [hw]
        exact fun he => hne r' hb' (Option.some.inj he)
      · nofun
  | @requestStep i raises found act op k hi hk =>
      obtain ⟨t, q, hs⟩ := serve_snd (s := s) raises found op
      have hcall : s.call (.requestStep i raises found) = some op := call_requestStep hi hk
      -- of the calls of a request only `convertAndSend` reaches a queue
      by_cases hop : ∃ key m, op = .convertAndSend key m
      · obtain ⟨key, m, rfl⟩ := hop
        have hb : m.businessMsg ≠ b := fun hb => hn (.send hcall hb)
        cases raises with
        | true => exact { hrefl with retryQueues := fun _ _ => Iff.rfl }
        | false =>
            exact { hrefl with
              retryQueues := fun m' hb' =>
                mem_append_singleton_iff (P := fun m => m.businessMsg = b) hb hb'
              atMostOne := fun h => h.append fun hb' => absurd hb' hb }
      · have hq : q = s.retryQueues := by
          have hq := serve_retryQueues (s := s) raises found op fun key m he => hop ⟨key, m, he⟩
          rw [hs] at hq
          exact hq
        simp only [hs] at hint hrec ⊢
        exact { hrefl with
          retryQueues := fun m _ => by rw [hq]
          atMostOne := fun h => by rwa [hq]
          intervalRetry := hint, recover := hrec }
  | _ => exact { hrefl with intervalRetry := hint, recover := hrec }

end MRF.Center
