import Mathlib.Data.Set.Finite.Lemmas
import Mathlib.Algebra.Order.Ring.Int
import Mathlib.Order.Interval.Set.Infinite
import MRF.Framework.Rounds

/-!
# Framework — Progress

A message that has not come to recover can always go on.  There is a free thread of the clients
for it, a free poll thread and a free worker (`Spares`); each call of its thread can be answered,
and each action of the center that is due can be taken, so that the steps stay steady.

`Follows.goesOn`: from every stage but the last, a run leads to a later one.
-/

namespace MRF
open MRF.Library MRF.Center MRF.Client BusinessMessageListenerWrapper
open MRF.Center.State (asksForId)

variable {B Msg : Type} [BusinessMsg B]

/-! ### Free slots -/

section
variable {cfg : MRFServerConfig} {s s' : State B} {a : Center.Action B}

/-- A step leaves a poll thread free. -/
theorem Center.State.Stepped.spare_pollers (h : State.Stepped cfg s a s')
    (hs : Spare s.pollers .idle) : Spare s'.pollers .idle := by
  cases h with
  | select hi hr hu => exact hs.update _ _
  | checkOut hi => exact hs.update _ _
  | dispatch hi hw => exact hs.update _ _
  | @requestStep i raises found act op f hi hf =>
      obtain ⟨t, q, hserve⟩ := State.serve_snd (s := s) raises found op
      simp only [hserve]
      exact hs
  | _ => exact hs

theorem Center.State.Stepped.spare_workers (h : State.Stepped cfg s a s')
    (hs : Spare s.workers none) : Spare s'.workers none := by
  cases h with
  | dispatch hi hw => exact hs.update _ _
  | sendRetry hw => exact hs.update _ _
  | @requestStep i raises found act op f hi hf =>
      obtain ⟨t, q, hserve⟩ := State.serve_snd (s := s) raises found op
      simp only [hserve]
      exact hs
  | _ => exact hs

omit [BusinessMsg B] in
/-- As long as a row is to be retried, there is a most urgent one. -/
theorem Center.exists_isMostUrgent {t : Tables B} {x : Int} {r : IntervalRetry B}
    (hr : t.intervalRetry.get x = some r) (hto : r.retryState = .toRetry) :
    ∃ r₀, t.intervalRetry.get r₀.msgID = some r₀ ∧ r₀.retryState = .toRetry ∧
      IntervalRetryDAO.isMostUrgent t r₀ = true := by
  obtain ⟨r₀, hr₀, hmin⟩ := Set.exists_min_image
    {r | r ∈ t.intervalRetry.select fun r => r.retryState = .toRetry} (fun r => r.nextExecAt)
    (List.finite_toSet _)
    ⟨r, Table.mem_select.mpr ⟨(Table.key_of_get hr).symm ▸ hr, decide_eq_true hto⟩⟩
  obtain ⟨hget, hto₀⟩ := Table.mem_select.mp hr₀
  refine ⟨r₀, hget, of_decide_eq_true hto₀, Bool.and_eq_true_iff.mpr ⟨hto₀, ?_⟩⟩
  exact List.all_eq_true.mpr fun r' hr' => decide_eq_true (hmin r' hr')

end

namespace Framework

variable {cfg : MRFServerConfig} {service : ClientService B Msg} {s s' : Framework B Msg}
  {a : Step B}

/-- All but finitely many threads, poll threads and workers are free. -/
structure Spares (s : Framework B Msg) : Prop where
  threads : Spare s.threads none
  pollers : Spare s.center.pollers .idle
  workers : Spare s.center.workers none

theorem Stepped.spare_threads (h : Stepped cfg service s a s') (hs : Spare s.threads none) :
    Spare s'.threads none := by
  cases h with
  | deliverBusiness hi hn hc => exact hs.update _ _
  | deliverRetry hi hn hc => exact hs.update _ _
  | call hi hk hserve => exact hs.update _ _
  | returned hi hr => exact hs.update _ _
  | thrown hi hr => exact hs.update _ _
  | _ => exact hs

/-- A step leaves threads of all kinds free. -/
theorem Spares.step (hs : Spares s) (h : Stepped cfg service s a s') : Spares s' where
  threads := h.spare_threads hs.threads
  pollers := by
    rcases h.center_stepped with ⟨-, hcenter⟩ | ⟨a', -, hst⟩
    · exact hcenter ▸ hs.pollers
    · exact hst.spare_pollers hs.pollers
  workers := by
    rcases h.center_stepped with ⟨-, hcenter⟩ | ⟨a', -, hst⟩
    · exact hcenter ▸ hs.workers
    · exact hst.spare_workers hs.workers

variable [DecidableEq Msg] {q : String} {m : Msg} {b : B} {c : RetryQueueConfig} {n k : Nat}
  {x : Int} {own : Int → Option (String × Msg)} {st : Stage}

omit [BusinessMsg B] [DecidableEq Msg] in
/-- A step that neither applies a message nor answers a client is steady. -/
theorem steady_of_none (hm : s.message a = none) (hcall : ∀ i call answer, a ≠ .call i call answer)
    (hl : ∀ a', a = .center a' → LeftAlone cfg b s.center a') : Steady cfg service c m b s a where
  newIds call rm h := by
    rw [hm] at h
    cases h
  dao call rm h := by
    rw [hm] at h
    cases h
  listener i call answer th f ha := absurd ha (hcall i call answer)
  works i call answer th op f ha := absurd ha (hcall i call answer)
  connection i call th f ha := absurd ha (hcall i call .answersNull)
  callback i call answer th m' f ha := absurd ha (hcall i call answer)
  checkOut i raises r ha hi hb := ((hl _ ha).checkOut i raises r rfl hi hb).1
  count i raises r row ha hi hb := ((hl _ ha).checkOut i raises r rfl hi hb).2 row
  sendRetry w found raises r ha := (hl _ ha).sendRetry w found raises r rfl
  houseKeep rows r he := by
    rcases he with ⟨j, ha⟩ | ⟨faults, ha⟩
    · exact (hl _ ha).houseKeep rows r (.inl ⟨j, rfl⟩)
    · exact (hl _ ha).houseKeep rows r (.inr ⟨faults, rfl⟩)
  admin a' y r ha := (hl a' ha).admin y r

/-- There is an id that was not generated yet. -/
theorem exists_newId (issued : List Int) : ∃ y, 0 < y ∧ y ∉ issued :=
  (Set.Ioi_infinite (0 : Int)).exists_notMem_finite (List.finite_toSet issued)

omit [BusinessMsg B] in
/-- A poll thread that selects a row, or hands its task over, leaves the message alone. -/
theorem leftAlone_of_poll {s : State B} {a : Center.Action B}
    (ha : (∃ i y, a = .select i y) ∨ ∃ i w, a = .dispatch i w) : LeftAlone cfg b s a where
  checkOut := by
    rintro i raises r rfl
    rcases ha with ⟨_, _, ha⟩ | ⟨_, _, ha⟩ <;> cases ha
  sendRetry := by
    rintro w found raises r rfl
    rcases ha with ⟨_, _, ha⟩ | ⟨_, _, ha⟩ <;> cases ha
  houseKeep := by
    rintro rows r (⟨h, rfl⟩ | ⟨faults, rfl⟩) <;>
      rcases ha with ⟨_, _, ha⟩ | ⟨_, _, ha⟩ <;> cases ha
  admin y r hc := by
    rcases ha with ⟨_, _, rfl⟩ | ⟨_, _, rfl⟩ <;> rcases hc with hc | hc <;> cases hc

/-- A steady run leads the message on. -/
def CanGoOn (cfg : MRFServerConfig) (service : ClientService B Msg) (c : RetryQueueConfig) (n : Nat)
    (q : String) (m : Msg) (b : B) (st : Stage) (k : Nat) (s : Framework B Msg) : Prop :=
  ∃ tr s', Run (Guarded (stepOf (step cfg service)) (Steady cfg service c m b)) s tr s' ∧
    Spares s' ∧ ∃ own st' k' x', Follows service c n q m b own st' k' x' s' ∧
      st.score k < st'.score k'

section
variable (hr : Retried service c n q m b) (h : Follows service c n q m b own st k x s)
  (hsp : Spares s)
include hr h hsp

/-- A steady step leads the message on, or it can still go on after the step. -/
theorem CanGoOn.of_step (hst : Stepped cfg service s a s') (hs : Steady cfg service c m b s a)
    (hstay : ∀ own' x', Follows service c n q m b own' st k x' s' →
      CanGoOn cfg service c n q m b st k s') : CanGoOn cfg service c n q m b st k s := by
  obtain ⟨st', k', x', h', ⟨rfl, rfl⟩ | hlt⟩ := h.step hr hst hs
  · obtain ⟨tr, s'', hrun, hgo⟩ := hstay _ _ h'
    exact ⟨_, s'', .cons ⟨hst.step_eq, hs⟩ hrun, hgo⟩
  · exact ⟨_, s', .one ⟨hst.step_eq, hs⟩, hsp.step hst, _, _, _, _, h', hlt⟩

/-! ### From stage to stage -/

/-- From the business queue, the message can be delivered. -/
theorem Follows.goesOn_business (hst : st = .business) :
    CanGoOn cfg service c n q m b st k s := by
  obtain ⟨j, hj⟩ := List.mem_iff_getElem?.mp (h.waiting hst)
  obtain ⟨i, hi⟩ := hsp.threads.exists_eq
  refine .of_step hr h hsp (.deliverBusiness hi hj hr.config)
    (steady_of_none rfl (fun _ _ _ ha => by cases ha) fun _ ha => by cases ha) fun own' x' h' => ?_
  exact absurd rfl (h.atMostOne.forall_eraseIdx hj rfl _ (h'.waiting hst))

theorem Follows.goesOn_retryQueue (hst : st = .center .retryQueue) :
    CanGoOn cfg service c n q m b st k s := by
  subst hst
  obtain ⟨rm, hm, hb⟩ := h.tracked.carried
  obtain ⟨j, hj⟩ := List.mem_iff_getElem?.mp hm
  obtain ⟨i, hi⟩ := hsp.threads.exists_eq
  have hconf : service.ofRetryQueue rm.retryQueueName = some c := by
    rw [(h.tracked.queued rm hm hb).2.2.retryQueueName_eq]
    exact hr.ofRetryQueue
  refine .of_step hr h hsp (.deliverRetry hi hj hconf)
    (steady_of_none rfl (fun _ _ _ ha => by cases ha) fun _ ha => by cases ha) fun own' x' h' => ?_
  obtain ⟨rm', hm', hb'⟩ := h'.tracked.carried
  exact absurd hb' (h.tracked.atMostOne.forall_eraseIdx hj hb rm' hm')

theorem Follows.goesOn_worker {w : Nat} (hst : st = .center (.worker w)) :
    CanGoOn cfg service c n q m b st k s := by
  subst hst
  obtain ⟨r, hw, hb⟩ := h.tracked.carried
  have hstep : Stepped cfg service s (.center (.sendRetry w true false)) _ :=
    .center rfl (State.Stepped.sendRetry hw).step_eq
  refine .of_step hr h hsp hstep
    (steady_of_none rfl (fun _ _ _ ha => by cases ha) fun a' ha => ?_) fun own' x' h' => ?_
  · cases ha
    exact {
      checkOut := fun _ _ _ ha => by cases ha
      sendRetry := fun _ _ _ _ ha _ _ => by cases ha; exact ⟨rfl, rfl⟩
      houseKeep := fun _ _ ha => by rcases ha with ⟨_, ha⟩ | ⟨_, ha⟩ <;> cases ha
      admin := fun _ _ hc => by rcases hc with hc | hc <;> cases hc }
  · obtain ⟨r', hw', -⟩ := h'.tracked.carried
    simp only [Function.update_self, reduceCtorEq] at hw'

theorem Follows.goesOn_task {i : Nat} (hst : st = .center (.task i)) :
    CanGoOn cfg service c n q m b st k s := by
  subst hst
  obtain ⟨r, hi, hb⟩ := h.tracked.carried
  obtain ⟨w, hw⟩ := hsp.workers.exists_eq
  have hstep : Stepped cfg service s (.center (.dispatch i w)) _ :=
    .center rfl (State.Stepped.dispatch hi hw).step_eq
  refine .of_step hr h hsp hstep
    (steady_of_none rfl (fun _ _ _ ha => by cases ha) fun a' ha => ?_) fun own' x' h' => ?_
  · cases ha
    exact leftAlone_of_poll (.inr ⟨_, _, rfl⟩)
  · obtain ⟨r', hi', -⟩ := h'.tracked.carried
    simp only [Function.update_self, reduceCtorEq] at hi'

/-- The row is selected and checked out, once it is the most urgent one. -/
theorem Follows.goesOn_toRetry (hst : st = .center .toRetry) :
    CanGoOn cfg service c n q m b st k s := by
  subst hst
  -- by induction on the number of rows that are to be retried
  generalize hd : (s.center.tables.intervalRetry.select fun r => r.retryState = .toRetry).length = d
  induction d using Nat.strongRecOn generalizing s own x with
  | ind d ih =>
      obtain ⟨r, hrow, hb⟩ := h.tracked.row
        (h.tracked.id (fun hp => by cases hp) fun hp => by cases hp) fun hp => by cases hp
      have hto : r.retryState = .toRetry := (h.tracked.rows x r hrow hb).2.2.2.mpr trivial
      obtain ⟨r₀, hr₀, hto₀, hu⟩ := exists_isMostUrgent hrow hto
      obtain ⟨i, hi⟩ := hsp.pollers.exists_eq
      obtain ⟨s₁, hsel, ht₁, hi₁⟩ : ∃ s₁, Stepped cfg service s (.center (.select i r₀.msgID)) s₁ ∧
          s₁.center.tables = s.center.tables ∧ s₁.center.pollers i = .selected r₀ :=
        ⟨_, .center rfl (State.Stepped.select hi hr₀ hu).step_eq, rfl, Function.update_self ..⟩
      refine .of_step hr h hsp hsel (steady_of_none rfl (fun _ _ _ ha => by cases ha)
        fun a' ha => ?_) fun own₁ x₁ h₁ => ?_
      · cases ha
        exact leftAlone_of_poll (.inl ⟨_, _, rfl⟩)
      have hsp₁ := hsp.step hsel
      obtain ⟨s₂, hout, ht₂⟩ : ∃ s₂, Stepped cfg service s₁ (.center (.checkOut i false)) s₂ ∧
          s₂.center.tables = (s₁.center.checkOutResult r₀ false).2 :=
        ⟨_, .center rfl (State.Stepped.checkOut hi₁).step_eq, rfl⟩
      refine .of_step hr h₁ hsp₁ hout (steady_of_none rfl (fun _ _ _ ha => by cases ha)
        fun a' ha => ?_) fun own₂ x₂ h₂ => ?_
      · cases ha
        refine {
          checkOut := fun j raises r' ha hj _ => ?_
          sendRetry := fun _ _ _ _ ha => by cases ha
          houseKeep := fun _ _ ha => by rcases ha with ⟨_, ha⟩ | ⟨_, ha⟩ <;> cases ha
          admin := fun _ _ hc => by rcases hc with hc | hc <;> cases hc }
        cases ha
        rw [hi₁] at hj
        cases hj
        refine ⟨rfl, fun row hget _ => ?_⟩
        rw [ht₁, hr₀] at hget
        cases hget
        rfl
      have hpos : 0 < r₀.msgID := (h.numbered.sound.records _ _ _ (.interval hr₀)).1
      refine ih _ ?_ (hsp₁.step hout) h₂ rfl
      rw [ht₂, State.checkOutResult_eq hpos, ht₁, ← hd]
      refine Table.length_select_update_lt (IntervalRetryDAO.checkedOut_msgID _) hr₀
        (decide_eq_true hto₀) ?_
      simp only [IntervalRetryDAO.checkedOut, hto₀, if_true, reduceCtorEq, decide_false]

end

/-- The listener throws, and everything else works. -/
def steadyAnswer (t : Throwable) : ClientOp B Msg → Answer
  | .invokeBusinessMessage _ => .raises t
  | _ => .works

omit [DecidableEq Msg] in
/-- Every call can be answered as a steady environment does. -/
theorem exists_served (s : Framework B Msg) (call : Call) (op : ClientOp B Msg) (t : Throwable) :
    ∃ r s₁, s.serve call op (steadyAnswer t op) = some (r, s₁) := by
  cases op <;> exact ⟨_, _, rfl⟩

omit [BusinessMsg B] [DecidableEq Msg] in
/-- A call that is answered so is steady. -/
theorem steady_call {t : Throwable} (ht : Cared service.env c t) {i : Nat} {call : Call}
    {th : ClientThread B Msg} {op : ClientOp B Msg}
    {f : Except Throwable op.Res → ClientProg B Msg Unit} (hi : s.threads i = some th)
    (hk : th.run.rest = .call op f) (hnew : 0 < call.newId ∧ call.newId ∉ s.center.issued)
    (hfaults : call.faults = []) :
    Steady cfg service c m b s (.call i call (steadyAnswer t op)) := by
  have hth : ∀ th', s.threads i = some th' → th' = th := by
    intro th' hi'
    exact Option.some.inj (hi'.symm.trans hi)
  exact {
    newIds := fun call' rm hmsg _ => (message_call hi hk hmsg).1 ▸ hnew
    dao := fun call' rm hmsg _ => (message_call hi hk hmsg).1 ▸ hfaults
    listener := fun i' call' answer th' f' ha hi' hk' => by
      cases ha
      rw [hth th' hi', hk] at hk'
      cases hk'
      exact ⟨t, rfl, ht⟩
    works := fun i' call' answer th' op' f' ha hi' hk' _ hop => by
      cases ha
      rw [hth th' hi', hk] at hk'
      cases hk'
      cases op with
      | invokeBusinessMessage m' => cases hop
      | _ => rfl
    connection := fun i' call' th' f' ha => by cases op <;> cases ha
    callback := fun i' call' answer th' m' f' ha hi' hk' _ => by
      cases ha
      rw [hth th' hi', hk] at hk'
      cases hk'
      rfl
    checkOut := fun _ _ _ ha => by cases ha
    count := fun _ _ _ _ ha => by cases ha
    sendRetry := fun _ _ _ _ ha => by cases ha
    houseKeep := fun _ _ he => by rcases he with ⟨_, ha⟩ | ⟨_, ha⟩ <;> cases ha
    admin := fun _ _ _ ha => by cases ha }

/-- The thread makes its calls, until it has handed the message over. -/
theorem Follows.goesOn_client (hr : Retried service c n q m b)
    (h : Follows service c n q m b own st k x s) (hsp : Spares s)
    (hcares : ∃ t, Cared service.env c t) {i : Nat} {called : Bool} (hst : st = .client i called) :
    CanGoOn cfg service c n q m b st k s := by
  obtain ⟨t, ht⟩ := hcares
  obtain ⟨th, hi, hth, hnil⟩ := h.client i called hst
  -- by induction on what is left of `onMessage`
  generalize hp : th.run.rest = p
  induction p generalizing s th own x with
  | ret u => exact absurd hnil (h.handed_of_returned hi hth hp)
  | throw e => exact absurd hp (h.not_thrown hi hth)
  | call op f ih =>
      obtain ⟨y, hnew⟩ := exists_newId s.center.issued
      obtain ⟨r, s₁, hserve⟩ := exists_served s ⟨0, y, []⟩ op t
      have hs : Steady cfg service c m b s (.call i ⟨0, y, []⟩ (steadyAnswer t op)) :=
        steady_call ht hi hp hnew rfl
      have hstep : Stepped cfg service s _ _ := .call hi hp hserve
      refine .of_step hr h hsp hstep hs fun own' x' h' => ?_
      obtain ⟨th', hi', hth', hnil'⟩ := h'.client i called hst
      have hth₁ := hi'.symm.trans (Function.update_self ..)
      exact ih r h' (hsp.step hstep) th' hi' hth' hnil'
        (by rw [Option.some.inj hth₁])

/-- **A message that has not come to recover can always go on.** -/
theorem Follows.goesOn (hr : Retried service c n q m b)
    (h : Follows service c n q m b own st k x s) (hsp : Spares s)
    (hcares : ∃ t, Cared service.env c t) (hst : st ≠ .center .recover) :
    CanGoOn cfg service c n q m b st k s := by
  cases st with
  | business => exact h.goesOn_business hr hsp rfl
  | client i called => exact h.goesOn_client hr hsp hcares rfl
  | center p =>
      cases p with
      | away => exact absurd rfl h.counts.not_away
      | retryQueue => exact h.goesOn_retryQueue hr hsp rfl
      | toRetry => exact h.goesOn_toRetry hr hsp rfl
      | task i => exact h.goesOn_task hr hsp rfl
      | worker w => exact h.goesOn_worker hr hsp rfl
      | recover => exact absurd rfl hst

end Framework

end MRF
