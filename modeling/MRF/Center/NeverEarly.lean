import MRF.Center.PollThread

/-!
# Center — NeverEarly

Whether a retry comes early.  The due time of a row is the sum of a clock reading and the message's
interval, wraps at 64 bits, and loses its milliseconds in the `DATETIME` column; the poll thread
then keeps to what the column says, with a slack of two milliseconds (`OnTime`).

`neverEarly_iff`: no retry comes more than two milliseconds early, exactly when the sum does not
overflow and is a whole second, or the interval is no longer than the slack.
-/

namespace MRF.Center
open MRF.Library State MRFMessageProcessService

variable {B : Type} [BusinessMsg B] {i : Nat} {x : Int} {t now : Int64} {m : RetryMessage B}
  {cfg : MRFServerConfig} {r : IntervalRetry B} {v v' : PollCenter B} {act : PollAction B}
  {tr : List (PollCenter B × PollAction B)}

/-- `m` is processed at `t` and stored as the row `r`; and later a poll thread, which has selected
since, hands `r` to a worker at `now`. -/
inductive HandedOver (cfg : MRFServerConfig) (m : RetryMessage B) (t : Int64) : Int64 → Prop where
  | intro {millis : Int64} {x : Int} {i w : Nat} {a : Action B} {c : Call} {r : IntervalRetry B}
      {u u' v v' : PollCenter B} {tr tr' : List (PollCenter B × PollAction B)}
      (before : Run (stepOf (PollCenter.step cfg)) (PollCenter.initial millis) tr u)
      (time : u.currentTimeMillis = t)
      (message : u.center.message a = some (c, m))
      (processed : u.step cfg (.center a) = some u')
      (writes : WritesIntervalRetry (u.center.env c) m u.center.tables x)
      (row : u'.center.tables.intervalRetry.get x = some r)
      (after : Run (stepOf (PollCenter.step cfg)) u' tr' v)
      (selected : ∃ p ∈ tr', p.2 = .center (.select i x))
      (task : v.center.pollers i = .task r)
      (handOver : v.step cfg (.handOver i w) = some v') :
      HandedOver cfg m t v.currentTimeMillis

/-- A retry is not handed over before its interval is over, but for two milliseconds. -/
def NeverEarly (cfg : MRFServerConfig) (m : RetryMessage B) (t : Int64) : Prop :=
  ∀ now, HandedOver cfg m t now → t.toInt + m.retryInterval.toInt - 2 ≤ now.toInt

/-! ### The poll thread keeps to the column -/

/-- Where a thread with a task for `r` can be at `now`, as long as it has not read the clock before
`t`. -/
def OnTimeAt (r : IntervalRetry B) (t now : Int64) (halted : Bool) : PollPlace → Prop
  | .loop => halted = true
  | .construct => False
  | .testDue time => ∃ read : Int64, t ≤ read ∧ read ≤ now ∧ time = timeUntilTrigger read r
  | .goAhead => halted = true ∨ getTime r.nextExecAt - 2 ≤ now.toInt
  | .handOver => getTime r.nextExecAt - 2 ≤ now.toInt
  | _ => True

def OnTime (r : IntervalRetry B) (t : Int64) (v : PollCenter B) (i : Nat) : Prop :=
  OnTimeAt r t v.currentTimeMillis (v.halted i) (v.places i)

omit [BusinessMsg B] in
/-- A thread that stays where it is, stays on time. -/
theorem OnTime.mono (h : OnTime r t v i) (hplace : v'.places i = v.places i)
    (hhalted : v.halted i = true → v'.halted i = true)
    (hclock : v.currentTimeMillis ≤ v'.currentTimeMillis) : OnTime r t v' i := by
  have hle := Int64.le_iff_toInt_le.mp hclock
  unfold OnTime at h ⊢
  rw [hplace]
  cases hp : v.places i with
  | loop =>
      rw [hp] at h
      exact hhalted h
  | construct =>
      rw [hp] at h
      exact h
  | testDue time =>
      rw [hp] at h
      obtain ⟨read, h₁, h₂, h₃⟩ := h
      exact ⟨read, h₁, Int64.le_trans h₂ hclock, h₃⟩
  | goAhead =>
      rw [hp] at h
      exact h.imp hhalted fun hdue => Int.le_trans hdue hle
  | handOver =>
      rw [hp] at h
      exact Int.le_trans h hle
  | _ => trivial

omit [BusinessMsg B] in
/-- The wait loop is not left before the due time, but for two milliseconds. -/
theorem getTime_le_of_timeUntilTrigger (hdue : getTime r.nextExecAt - t.toInt < 2 ^ 63)
    (ht : t ≤ now) (h : ¬ 2 < timeUntilTrigger now r) :
    getTime r.nextExecAt - 2 ≤ now.toInt := by
  have hle := Int64.le_iff_toInt_le.mp ht
  by_cases hlow : -2 ^ 63 ≤ getTime r.nextExecAt - now.toInt
  · have hsub : (timeUntilTrigger now r).toInt = getTime r.nextExecAt - now.toInt :=
      Int64.toInt_ofInt_of_le hlow (by omega)
    rw [Int64.lt_iff_toInt_lt, hsub] at h
    have htwo : (2 : Int64).toInt = 2 := rfl
    omega
  · omega

omit [BusinessMsg B] in
/-- The next statement of a thread keeps it on time. -/
theorem OnTime.next {p : PollPlace} (h : OnTime r t v i)
    (hdue : getTime r.nextExecAt - t.toInt < 2 ^ 63) (ht : t ≤ v.currentTimeMillis)
    (hi : v.center.pollers i = .task r) (hp : v.nextPlace i = some p) :
    OnTimeAt r t v.currentTimeMillis (v.halted i) p := by
  unfold OnTime at h
  unfold PollCenter.nextPlace at hp
  rw [hi] at hp
  cases hplace : v.places i with
  | loop =>
      rw [hplace] at h hp
      cases hp
      have hhalted : v.halted i = true := h
      rw [if_pos hhalted]
      trivial
  | construct =>
      rw [hplace] at h
      exact h.elim
  | reach =>
      rw [hplace] at hp
      cases hp
      split
      · next hreach =>
          have hle : getTime r.nextExecAt ≤ v.currentTimeMillis.toInt := of_decide_eq_true hreach
          exact .inr (by omega)
      · trivial
  | readClock =>
      rw [hplace] at hp
      cases hp
      exact ⟨v.currentTimeMillis, ht, Int64.le_refl _, rfl⟩
  | testDue time =>
      rw [hplace] at h hp
      cases hp
      obtain ⟨read, hread, hclock, rfl⟩ := h
      split
      · trivial
      · next hstop =>
          -- the wait loop ends for a halted thread, or when two milliseconds are left
          by_cases hhalted : v.halted i = true
          · exact .inl hhalted
          · have hout : ¬ 2 < timeUntilTrigger read r := by simpa [hhalted] using hstop
            exact .inr (Int.le_trans (getTime_le_of_timeUntilTrigger hdue hread hout)
              (Int64.le_iff_toInt_le.mp hclock))
  | waitDue =>
      rw [hplace] at hp
      cases hp
      trivial
  | goAhead =>
      rw [hplace] at h hp
      cases hp
      split
      · next hhalted => exact hhalted
      · next hhalted => exact h.resolve_left hhalted
  | handOver =>
      rw [hplace] at hp
      cases hp
  | ended =>
      rw [hplace] at hp
      cases hp

/-- A thread that gets or has a task for `r` is on time after every step. -/
theorem onTime_step (h : PollCenter.Stepped cfg v act v')
    (hdue : getTime r.nextExecAt - t.toInt < 2 ^ 63) (ht : t ≤ v.currentTimeMillis)
    (hi' : v'.center.pollers i = .task r)
    (hv : v.center.pollers i = .task r → OnTime r t v i) : OnTime r t v' i := by
  cases h with
  | clock hle => exact (hv hi').mono rfl id hle
  | halt j =>
      have hhalt : PollCenter.Stepped cfg v (.halt j) _ := .halt j
      exact (hv hi').mono rfl hhalt.halted (Int64.le_refl _)
  | @next j p hp =>
      by_cases he : i = j
      · subst he
        have hnext := (hv hi').next hdue ht hi' hp
        simpa only [OnTime, Function.update_self] using hnext
      · exact (hv hi').mono (Function.update_of_ne he ..) id (Int64.le_refl _)
  | @center a s ha hstep =>
      -- a thread with a task stays where it is, and one that gets its task goes to `reach`
      rcases hstep.task_inv hi' with hi | ⟨raises, rfl, hsel, -⟩
      · refine (hv hi).mono ?_ id (Int64.le_refl _)
        cases a with
        | checkOut j raises =>
            have hne : i ≠ j := by
              rintro rfl
              cases hstep with
              | checkOut hsel =>
                  rw [hi] at hsel
                  cases hsel
            exact Function.update_of_ne hne ..
        | _ => rfl
      · unfold OnTime
        dsimp only at hi' ⊢
        rw [PollCenter.placesAfter_checkOut v hi']
        trivial
  | @handOver j w s hp hstep =>
      rcases hstep.task_inv hi' with hi | ⟨raises, ha, -, -⟩
      · have hne : i ≠ j := by
          rintro rfl
          cases hstep with
          | dispatch hi₀ hw => simp only [Function.update_self, reduceCtorEq] at hi'
        exact (hv hi).mono (Function.update_of_ne hne ..) id (Int64.le_refl _)
      · cases ha

/-- A thread that has selected, and has a task for `r`, is on time. -/
def OnTimeSince (i : Nat) (r : IntervalRetry B) (t : Int64)
    (tr : List (PollCenter B × PollAction B)) (v : PollCenter B) : Prop :=
  t ≤ v.currentTimeMillis ∧ ((∃ p ∈ tr, ∃ x, p.2 = .center (.select i x)) →
    v.center.pollers i = .task r → OnTime r t v i)

/-- A step keeps a thread on time since it selected its row. -/
theorem onTimeSince_step (hdue : getTime r.nextExecAt - t.toInt < 2 ^ 63)
    (h : PollCenter.Stepped cfg v act v') (hv : OnTimeSince i r t tr v) :
    OnTimeSince i r t (tr ++ [(v, act)]) v' := by
  obtain ⟨ht, hv⟩ := hv
  refine ⟨Int64.le_trans ht h.clock_le, ?_⟩
  rintro ⟨p, hp, x, hx⟩ hi'
  refine onTime_step h hdue ht hi' fun hi => ?_
  rcases List.mem_append.mp hp with hp | hp
  · exact hv ⟨p, hp, x, hx⟩ hi
  · -- a thread that selects has no task
    obtain rfl := List.mem_singleton.mp hp
    obtain rfl := hx
    cases h with
    | center ha hselect =>
        cases hselect with
        | select hidle hr hu =>
            rw [hi] at hidle
            cases hidle

/-- A thread that has a task is on time. -/
theorem onTime_run (h : Run (stepOf (PollCenter.step cfg)) v tr v')
    (hdue : getTime r.nextExecAt - t.toInt < 2 ^ 63) (ht : t ≤ v.currentTimeMillis)
    (hsel : ∃ p ∈ tr, ∃ x, p.2 = .center (.select i x)) (hi : v'.center.pollers i = .task r) :
    OnTime r t v' i := by
  have hstart : OnTimeSince i r t [] v := ⟨ht, fun hnil => by simp at hnil⟩
  have hrun := h.history (fun _ _ _ _ hs hv =>
    onTimeSince_step hdue (PollCenter.step_stepped hs) hv) hstart
  exact hrun.2 hsel hi

/-! ### The due time -/

theorem getTime_toDatetime_le (millis : Int64) : getTime (toDatetime millis) ≤ millis.toInt := by
  unfold getTime toDatetime
  omega

theorem getTime_toDatetime_eq {millis : Int64} (h : 1000 ∣ millis.toInt) :
    getTime (toDatetime millis) = millis.toInt := Int.mul_ediv_cancel' h

omit [BusinessMsg B] in
/-- The sum, or what is left of it. -/
theorem toInt_add_cases (hri : 0 ≤ m.retryInterval) :
    (t.toInt + m.retryInterval.toInt < 2 ^ 63 ∧
        (t + m.retryInterval).toInt = t.toInt + m.retryInterval.toInt) ∨
      2 ^ 63 ≤ t.toInt + m.retryInterval.toInt ∧ (t + m.retryInterval).toInt < 0 := by
  have hnn : 0 ≤ m.retryInterval.toInt := Int64.le_iff_toInt_le.mp hri
  have ht := t.le_toInt
  have ht' := t.toInt_lt
  have hm := m.retryInterval.toInt_lt
  rw [Int64.toInt_add]
  by_cases hlt : t.toInt + m.retryInterval.toInt < 2 ^ 63
  · exact .inl ⟨hlt, Int.bmod_eq_of_le (by omega) (by omega)⟩
  · refine .inr ⟨by omega, ?_⟩
    rw [Int.bmod_def]
    omega

omit [BusinessMsg B] in
/-- The column is earlier than the sum, which overflows or is not a whole second. -/
theorem getTime_toDatetime_lt (hri : 0 ≤ m.retryInterval)
    (h : t.toInt + m.retryInterval.toInt < 2 ^ 63 → ¬ 1000 ∣ t.toInt + m.retryInterval.toInt) :
    getTime (toDatetime (t + m.retryInterval)) < t.toInt + m.retryInterval.toInt := by
  rcases toInt_add_cases (t := t) hri with ⟨hlt, hsum⟩ | ⟨hge, hneg⟩
  · have hround := h hlt
    unfold getTime toDatetime
    rw [hsum]
    omega
  · have hle := getTime_toDatetime_le (t + m.retryInterval)
    omega

/-! ### A run to the hand-over -/

/-- `r` is the only row of `interval_retry`, under `x`. -/
def Only (x : Int) (r : IntervalRetry B) (t : Tables B) : Prop :=
  ∀ k, t.intervalRetry.get k = if k = x then some r else none

/-- Nothing goes on at `t`. -/
structure Resting (t : Int64) (v : PollCenter B) : Prop where
  time : v.currentTimeMillis = t
  pollers : ∀ i, v.center.pollers i = .idle
  workers : ∀ w, v.center.workers w = none
  places : ∀ i, v.places i = .loop
  halted : ∀ i, v.halted i = false

omit [BusinessMsg B] in
theorem resting_initial (t : Int64) : Resting t (PollCenter.initial t : PollCenter B) :=
  ⟨rfl, fun _ => rfl, fun _ => rfl, fun _ => rfl, fun _ => rfl⟩

/-- A message is processed while the poll threads rest. -/
theorem Resting.process (cfg : MRFServerConfig) (h : Resting t v) (newId : Int)
    (m : RetryMessage B) :
    ∃ v', v.step cfg (.center (.process ⟨t, newId, []⟩ m)) = some v' ∧ Resting t v' ∧
      v'.center.tables = processed (v.center.env ⟨t, newId, []⟩) m v.center.tables := by
  have hstep : PollCenter.Stepped cfg v (.center (.process ⟨t, newId, []⟩ m)) _ :=
    .center (decide_eq_true h.time.symm) (.process ⟨t, newId, []⟩ m)
  exact ⟨_, hstep.step_eq, ⟨h.time, h.pollers, h.workers, h.places, h.halted⟩, rfl⟩

section
variable {e : Env} {T : Tables B} (he : e.faults = [])
  (hf : m.messageFlag = .intervalMsgDoRetry)
  (hc : hasContent m.retryQueueName m.businessMsg = true)
include he hf hc

/-- A first failure is stored, as the only row. -/
theorem only_insert (hid : m.msgID ≤ 0) (hnew : 0 < e.newId)
    (hempty : ∀ k, T.intervalRetry.get k = none) :
    WritesIntervalRetry e m T e.newId ∧ ∃ r, Only e.newId r (processed e m T) ∧
      r.retryState = .toRetry := by
  obtain ⟨u, hu⟩ := Table.insert_isSome (hempty (Keyed.key (IntervalRetryDAO.insertedRow
    e.currentTimestamp (newIntervalRetry e.newId m (nextExecAt e m)))))
  have hproc : processed e m T = T.setIntervalRetry u :=
    congrArg Prod.snd (process_addIntervalRetry he hc hf hid hnew hu)
  have honly : Only e.newId (IntervalRetryDAO.insertedRow e.currentTimestamp
      (newIntervalRetry e.newId m (nextExecAt e m))) (processed e m T) := by
    intro k
    rw [hproc, Tables.setIntervalRetry_intervalRetry, Table.get_insert hu, hempty]
    rfl
  refine ⟨.inl ⟨hempty _, ?_⟩, _, honly, rfl⟩
  rw [honly, if_pos rfl]
  exact Option.some_ne_none _

/-- A check-in is stored, as the only row. -/
theorem only_checkin (hid : 0 < m.msgID) {r₀ : IntervalRetry B} (h : Only m.msgID r₀ T) :
    WritesIntervalRetry e m T m.msgID ∧ ∃ r, Only m.msgID r (processed e m T) ∧
      r.retryState = .toRetry := by
  have hproc := process_checkin (t := T) he hc hf hid
  have hok : (MRFServiceImpl.process e m T).1.isOk = true := by
    rw [hproc]
    rfl
  have honly : Only m.msgID (IntervalRetryDAO.checkedIn e.currentTimestamp
      (newIntervalRetry m.msgID m (nextExecAt e m)) r₀) (processed e m T) := by
    intro k
    rw [processed, hproc, Tables.setIntervalRetry_intervalRetry, Table.get_update, h, h,
      if_pos rfl]
    split
    · rfl
    · rfl
  exact ⟨.inr ⟨hok, hf, hid, rfl, hc⟩, _, honly, rfl⟩

end

/-- A message with content can be processed at any time, to be the only row. -/
theorem exists_stored (cfg : MRFServerConfig) (hf : m.messageFlag = .intervalMsgDoRetry)
    (hc : hasContent m.retryQueueName m.businessMsg = true) (t : Int64) :
    ∃ tr u c v x r, Run (stepOf (PollCenter.step cfg)) (PollCenter.initial t) tr u ∧
      u.currentTimeMillis = t ∧ u.step cfg (.center (.process c m)) = some v ∧
      WritesIntervalRetry (u.center.env c) m u.center.tables x ∧ Resting t v ∧
      Only x r v.center.tables ∧ r.retryState = .toRetry ∧ 0 < x := by
  by_cases hid : 0 < m.msgID
  · -- a first failure under the id, and then its check-in
    obtain ⟨u, hstep, hu, htables⟩ := (resting_initial (B := B) t).process cfg m.msgID
      { m with msgID := 0 }
    obtain ⟨-, r₀, honly₀, -⟩ := only_insert (m := { m with msgID := 0 })
      (e := (PollCenter.initial t).center.env ⟨t, m.msgID, []⟩) (T := Tables.empty) rfl hf hc
      (Int.le_refl _) hid (fun _ => rfl)
    obtain ⟨v, hstep', hv, htables'⟩ := hu.process cfg 1 m
    obtain ⟨hw, r, honly, hstate⟩ := only_checkin (e := u.center.env ⟨t, 1, []⟩)
      (T := u.center.tables) rfl hf hc hid (htables ▸ honly₀)
    exact ⟨_, u, _, v, _, r, Run.one hstep, hu.time, hstep', hw, hv, htables' ▸ honly, hstate, hid⟩
  · obtain ⟨v, hstep, hv, htables⟩ := (resting_initial (B := B) t).process cfg 1 m
    obtain ⟨hw, r, honly, hstate⟩ := only_insert (m := m)
      (e := (PollCenter.initial t).center.env ⟨t, 1, []⟩) (T := Tables.empty) rfl hf hc
      (Int.not_lt.mp hid) Int.zero_lt_one (fun _ => rfl)
    exact ⟨[], _, _, v, _, r, .nil _, rfl, hstep, hw, hv, htables ▸ honly, hstate,
      Int.zero_lt_one⟩

/-- Where the thread `i` is at `now`, and a worker is free. -/
structure StandsAt (i : Nat) (now : Int64) (place : PollPlace) (poller : Poller B)
    (v : PollCenter B) : Prop where
  time : v.currentTimeMillis = now
  place : v.places i = place
  poller : v.center.pollers i = poller
  halted : v.halted i = false
  worker : v.center.workers 0 = none

namespace StandsAt

variable {place place' : PollPlace} {poller : Poller B}

theorem next (cfg : MRFServerConfig) (h : StandsAt i now place poller v)
    (hp : v.nextPlace i = some place') : ∃ v₁, Run (stepOf (PollCenter.step cfg)) v
      [(v, .next i)] v₁ ∧ StandsAt i now place' poller v₁ ∧ v₁.center = v.center :=
  ⟨_, Run.one (PollCenter.Stepped.next hp).step_eq,
    ⟨h.time, Function.update_self .., h.poller, h.halted, h.worker⟩, rfl⟩

theorem select (cfg : MRFServerConfig) (h : StandsAt i now .construct .idle v)
    (hr : v.center.tables.intervalRetry.get x = some r)
    (hu : IntervalRetryDAO.isMostUrgent v.center.tables r = true) :
    ∃ v₁, Run (stepOf (PollCenter.step cfg)) v [(v, .center (.select i x))] v₁ ∧
      StandsAt i now .construct (.selected r) v₁ ∧ v₁.center.tables = v.center.tables := by
  have hadmits : v.admits (.select i x) = true := decide_eq_true h.place
  exact ⟨_, Run.one (PollCenter.Stepped.center hadmits (.select h.poller hr hu)).step_eq,
    ⟨h.time, h.place, Function.update_self .., h.halted, h.worker⟩, rfl⟩

theorem checkOut (cfg : MRFServerConfig) (h : StandsAt i now .construct (.selected r) v)
    (hres : (v.center.checkOutResult r false).1 = true) :
    ∃ v₁, Run (stepOf (PollCenter.step cfg)) v [(v, .center (.checkOut i false))] v₁ ∧
      StandsAt i now .reach (.task r) v₁ := by
  have hadmits : v.admits (.checkOut i false) = true := decide_eq_true h.place
  have hstep : PollCenter.Stepped cfg v (.center (.checkOut i false)) _ :=
    .center hadmits (.checkOut h.poller)
  refine ⟨_, Run.one hstep.step_eq, h.time, ?_, ?_, h.halted, h.worker⟩
  · simp only [PollCenter.placesAfter, hres, if_true, Function.update_self]
  · simp only [hres, if_true, Function.update_self]

theorem handOver (cfg : MRFServerConfig) (h : StandsAt i now .handOver (.task r) v) :
    ∃ v', v.step cfg (.handOver i 0) = some v' :=
  ⟨_, (PollCenter.Stepped.handOver h.place (.dispatch h.poller h.worker)).step_eq⟩

/-- The thread is past its waits and may hand over. -/
theorem goAhead (cfg : MRFServerConfig) (h : StandsAt i now .goAhead (.task r) v) :
    ∃ tr v₁, Run (stepOf (PollCenter.step cfg)) v tr v₁ ∧
      StandsAt i now .handOver (.task r) v₁ := by
  have hnext : v.nextPlace i = some .handOver := by
    simp only [PollCenter.nextPlace, h.place, h.poller, h.halted, Bool.false_eq_true, if_false]
  obtain ⟨v₁, hrun, h₁, -⟩ := h.next cfg hnext
  exact ⟨_, v₁, hrun, h₁⟩

/-- The thread does not wait, two milliseconds before the due time or later. -/
theorem reach (cfg : MRFServerConfig) (h : StandsAt i now .reach (.task r) v)
    (hdue : getTime r.nextExecAt - 2 ≤ now.toInt) :
    ∃ tr v₁, Run (stepOf (PollCenter.step cfg)) v tr v₁ ∧
      StandsAt i now .handOver (.task r) v₁ := by
  by_cases hreach : hasReachTaskExecuteTime now r = true
  · have hnext : v.nextPlace i = some .goAhead := by
      simp only [PollCenter.nextPlace, h.place, h.poller, h.time, hreach, if_true]
    obtain ⟨v₁, hrun₁, h₁, -⟩ := h.next cfg hnext
    obtain ⟨tr, v₂, hrun₂, h₂⟩ := h₁.goAhead cfg
    exact ⟨_, v₂, hrun₁.trans hrun₂, h₂⟩
  · have hlt : now.toInt < getTime r.nextExecAt := by
      simpa [hasReachTaskExecuteTime] using hreach
    have htime : ¬ 2 < timeUntilTrigger now r := by
      have hsub : (timeUntilTrigger now r).toInt = getTime r.nextExecAt - now.toInt :=
        Int64.toInt_ofInt_of_le (by omega) (by omega)
      have htwo : (2 : Int64).toInt = 2 := rfl
      rw [Int64.lt_iff_toInt_lt, hsub]
      omega
    have hread : v.nextPlace i = some .readClock := by
      simp only [PollCenter.nextPlace, h.place, h.poller, h.time, hreach, Bool.false_eq_true,
        if_false]
    obtain ⟨v₁, hrun₁, h₁, -⟩ := h.next cfg hread
    have htest : v₁.nextPlace i = some (.testDue (timeUntilTrigger now r)) := by
      simp only [PollCenter.nextPlace, h₁.place, h₁.poller, h₁.time]
    obtain ⟨v₂, hrun₂, h₂, -⟩ := h₁.next cfg htest
    have hgo : v₂.nextPlace i = some .goAhead := by
      simp only [PollCenter.nextPlace, h₂.place, h₂.poller, htime, decide_false, Bool.false_and,
        Bool.false_eq_true, if_false]
    obtain ⟨v₃, hrun₃, h₃, -⟩ := h₂.next cfg hgo
    obtain ⟨tr, v₄, hrun₄, h₄⟩ := h₃.goAhead cfg
    exact ⟨_, v₄, ((hrun₁.trans hrun₂).trans hrun₃).trans hrun₄, h₄⟩

end StandsAt

omit [BusinessMsg B] in
/-- The only row of a table is the most urgent one. -/
theorem Only.isMostUrgent {T : Tables B} (h : Only x r T) (hto : r.retryState = .toRetry) :
    IntervalRetryDAO.isMostUrgent T r = true := by
  refine Bool.and_eq_true_iff.mpr ⟨decide_eq_true hto, List.all_eq_true.mpr fun r' hr' => ?_⟩
  have hget := (Table.mem_select.mp hr').1
  rw [h] at hget
  split at hget
  · cases hget
    exact decide_eq_true (Int.le_refl _)
  · cases hget

/-- A thread takes the only row, when the clock has gone on to `now`. -/
theorem reach_of_only (cfg : MRFServerConfig) (hv : Resting t v) (hle : t ≤ now)
    (honly : Only x r v.center.tables) (hto : r.retryState = .toRetry) (hx : 0 < x) :
    ∃ tr v₁, Run (stepOf (PollCenter.step cfg)) v tr v₁ ∧
      (∃ p ∈ tr, p.2 = .center (.select 0 x)) ∧ StandsAt 0 now .reach (.task r) v₁ := by
  have hrow : v.center.tables.intervalRetry.get x = some r := by rw [honly, if_pos rfl]
  have hid : r.msgID = x := Table.key_of_get hrow
  have hclock : v.currentTimeMillis ≤ now := by rw [hv.time]; exact hle
  have h₀ : StandsAt 0 now .loop .idle { v with currentTimeMillis := now } :=
    ⟨rfl, hv.places 0, hv.pollers 0, hv.halted 0, hv.workers 0⟩
  have hnext : ({ v with currentTimeMillis := now } : PollCenter B).nextPlace 0 =
      some .construct := by
    simp only [PollCenter.nextPlace, hv.places, hv.halted, Bool.false_eq_true, if_false]
  obtain ⟨v₁, hrun₁, h₁, hcenter⟩ := h₀.next cfg hnext
  have htables₁ : v₁.center.tables = v.center.tables := by rw [hcenter]
  obtain ⟨v₂, hrun₂, h₂, htables₂⟩ := h₁.select cfg (htables₁ ▸ hrow)
    (htables₁ ▸ honly.isMostUrgent hto)
  have hres : (v₂.center.checkOutResult r false).1 = true := by
    rw [checkOutResult_eq (hid ▸ hx), htables₂, htables₁, hid, hrow]
    exact decide_eq_true hto
  obtain ⟨v₃, hrun₃, h₃⟩ := h₂.checkOut cfg hres
  exact ⟨_, v₃, .cons (PollCenter.Stepped.clock hclock).step_eq
    (hrun₁.trans (hrun₂.trans hrun₃)), ⟨(v₁, _), by simp, rfl⟩, h₃⟩

/-- A message is processed on the clock as it is. -/
theorem processedAt {c : Call} {a : Action B} (h : v.step cfg (.center a) = some v')
    (hm : v.center.message a = some (c, m)) : c.currentTimeMillis = v.currentTimeMillis ∧
      v'.center.tables = processed (v.center.env c) m v.center.tables := by
  cases PollCenter.step_stepped h with
  | center ha hstep =>
      refine ⟨?_, hstep.tables_eq hm⟩
      cases a with
      | process c' m' =>
          cases hm
          exact of_decide_eq_true ha
      | executeEQ w c' =>
          simp only [State.message] at hm
          split at hm
          · cases hm
          · split at hm
            · cases hm
            · cases hm
              exact of_decide_eq_true ha
      | _ => cases hm

/-- A message with content can be handed over at any time from two milliseconds before the due time
of its row on. -/
theorem handedOver (cfg : MRFServerConfig) (hf : m.messageFlag = .intervalMsgDoRetry)
    (hc : hasContent m.retryQueueName m.businessMsg = true) (hle : t ≤ now)
    (hdue : getTime (toDatetime (t + m.retryInterval)) - 2 ≤ now.toInt) :
    HandedOver cfg m t now := by
  obtain ⟨tr, u, c, v, x, r, hrun, hu, hstep, hw, hv, honly, hto, hx⟩ :=
    exists_stored cfg hf hc t
  obtain ⟨tr', v₁, hrun', hsel, h₁⟩ := reach_of_only cfg hv hle honly hto hx
  have hrow : v.center.tables.intervalRetry.get x = some r := by rw [honly, if_pos rfl]
  obtain ⟨hcall, htables⟩ := processedAt hstep rfl
  have hnext : r.nextExecAt = nextExecAt (u.center.env c) m := (hw.written (htables ▸ hrow)).2
  have hdue' : getTime r.nextExecAt - 2 ≤ now.toInt := by
    rw [hnext]
    simpa only [nextExecAt, State.env, hcall, hu] using hdue
  obtain ⟨tr'', v₂, hrun'', h₂⟩ := h₁.reach cfg hdue'
  obtain ⟨v', hhand⟩ := h₂.handOver cfg
  obtain ⟨p, hp, he⟩ := hsel
  have hdone := HandedOver.intro hrun hu rfl hstep hw hrow (hrun'.trans hrun'')
    ⟨p, List.mem_append_left _ hp, he⟩ h₂.poller hhand
  rwa [h₂.time] at hdone

/-! ### Retries are never early, or are -/

/-- What is handed over is due by its column, but for two milliseconds. -/
theorem HandedOver.on_time (h : HandedOver cfg m t now) (hri : 0 ≤ m.retryInterval) :
    hasContent m.retryQueueName m.businessMsg = true ∧ t.toInt ≤ now.toInt ∧
      getTime (toDatetime (t + m.retryInterval)) - 2 ≤ now.toInt := by
  cases h with
  | @intro millis x i w a c r u u' v v' tr tr' before time message hprocess writes row after
      selected task handOver =>
      obtain ⟨hcall, htables⟩ := processedAt hprocess message
      obtain ⟨hc, hnext⟩ := writes.written (htables ▸ row)
      have hdue : r.nextExecAt = toDatetime (t + m.retryInterval) := by
        rw [hnext, nextExecAt, State.env, hcall, time]
      have hstart : t ≤ u'.currentTimeMillis := by
        rw [← time]
        exact (PollCenter.step_stepped hprocess).clock_le
      have hwrap : getTime r.nextExecAt - t.toInt < 2 ^ 63 := by
        have hle := getTime_toDatetime_le (t + m.retryInterval)
        have hm := m.retryInterval.toInt_lt
        have ht := t.le_toInt
        rw [hdue]
        rcases toInt_add_cases (t := t) hri with ⟨hlt, hsum⟩ | ⟨hlt, hsum⟩ <;> omega
      obtain ⟨p, hp, he⟩ := selected
      have hon := onTime_run after hwrap hstart ⟨p, hp, x, he⟩ task
      refine ⟨hc, Int64.le_iff_toInt_le.mp (PollCenter.clock_le_run after hstart), ?_⟩
      cases PollCenter.step_stepped handOver with
      | handOver hp hs =>
          rw [OnTime, hp] at hon
          rwa [← hdue]

/-- **A retry is never early** if and only if its due time is a whole second that a `long` can hold,
or its interval is at most two milliseconds; a message without content is not retried at all. -/
theorem neverEarly_iff (cfg : MRFServerConfig) (hf : m.messageFlag = .intervalMsgDoRetry)
    (hri : 0 ≤ m.retryInterval) (t : Int64) :
    NeverEarly cfg m t ↔ hasContent m.retryQueueName m.businessMsg = false ∨
      m.retryInterval.toInt ≤ 2 ∨
      t.toInt + m.retryInterval.toInt < 2 ^ 63 ∧ 1000 ∣ t.toInt + m.retryInterval.toInt := by
  constructor
  · intro hnever
    by_contra hcond
    simp only [not_or, not_and, Bool.not_eq_false] at hcond
    obtain ⟨hc, hlong, hround⟩ := hcond
    have hgone := getTime_toDatetime_lt hri hround
    have hcolumn := getTime_toDatetime_le (t + m.retryInterval)
    have ht := t.le_toInt
    have ht' := t.toInt_lt
    have hlast := (t + m.retryInterval).toInt_lt
    have hnow : (Int64.ofInt (max t.toInt
        (getTime (toDatetime (t + m.retryInterval)) - 2))).toInt =
          max t.toInt (getTime (toDatetime (t + m.retryInterval)) - 2) :=
      Int64.toInt_ofInt_of_le (by omega) (by omega)
    have hearly := hnever _ (handedOver cfg hf hc
      (Int64.le_iff_toInt_le.mpr (by rw [hnow]; exact le_max_left _ _))
      (by rw [hnow]; exact le_max_right _ _))
    rw [hnow] at hearly
    omega
  · intro hcond now hnow
    obtain ⟨hc, hle, hdue⟩ := hnow.on_time hri
    rcases hcond with hempty | hshort | ⟨hlt, hdvd⟩
    · rw [hc] at hempty
      cases hempty
    · omega
    · rcases toInt_add_cases (t := t) hri with ⟨-, hsum⟩ | ⟨hge, -⟩
      · rw [getTime_toDatetime_eq (hsum ▸ hdvd), hsum] at hdue
        exact hdue
      · omega

/-- A whole second is kept to; a second and a half is not. -/
theorem neverEarly_sample :
    NeverEarly .sample (sampleMessage .intervalMsgDoRetry 0 "post 1") 1000 ∧
      ¬ NeverEarly .sample (sampleMessage .intervalMsgDoRetry 0 "post 1") 1500 := by
  constructor
  · exact (neverEarly_iff .sample rfl (by decide) 1000).mpr (by decide)
  · intro h
    exact absurd ((neverEarly_iff .sample rfl (by decide) 1500).mp h) (by decide)

/-- The poll thread wakes up two milliseconds before the second of the row. -/
def earlyRun : List (PollAction String) :=
  [.next 0, .center (.select 0 1), .center (.checkOut 0 false), .next 0, .next 0, .next 0,
    .clock 1369000004998, .next 0, .next 0, .next 0, .next 0]

/-- A message that failed at half past the second is retried half a second early. -/
theorem handedOver_early :
    HandedOver .sample (sampleMessage .intervalMsgDoRetry 0 "post 1") 1369000000500
        1369000004998 ∧
      ¬ NeverEarly .sample (sampleMessage .intervalMsgDoRetry 0 "post 1") 1369000000500 := by
  have hearly : HandedOver .sample (sampleMessage .intervalMsgDoRetry 0 "post 1") 1369000000500
      1369000004998 := by
    obtain ⟨u, hu⟩ : ∃ u, (PollCenter.initial 1369000000500).step .sample
        (.center (.process ⟨1369000000500, 1, []⟩
          (sampleMessage .intervalMsgDoRetry 0 "post 1"))) = some u := ⟨_, rfl⟩
    obtain ⟨v, hv⟩ : ∃ v, exec (PollCenter.step .sample) u earlyRun = some v := by
      cases hu
      exact ⟨_, rfl⟩
    obtain ⟨v', hv'⟩ : ∃ v', v.step .sample (.handOver 0 0) = some v' := by
      cases hu
      cases hv
      exact ⟨_, rfl⟩
    obtain ⟨r, hr⟩ : ∃ r, u.center.tables.intervalRetry.get 1 = some r := by
      cases hu
      exact ⟨_, rfl⟩
    have htask : v.center.pollers 0 = .task r := by
      cases hu
      cases hv
      cases hr
      rfl
    have hclock : v.currentTimeMillis = 1369000004998 := by
      cases hu
      cases hv
      rfl
    have hwrites : WritesIntervalRetry
        ((State.empty : State String).env ⟨1369000000500, 1, []⟩)
        (sampleMessage .intervalMsgDoRetry 0 "post 1") Tables.empty 1 := by decide
    have hselects : ∃ p ∈ trace (PollCenter.step .sample) u earlyRun,
        p.2 = .center (.select 0 1) := by
      cases hu
      exact ⟨_, List.mem_cons_of_mem _ List.mem_cons_self, rfl⟩
    rw [← hclock]
    exact .intro (.nil _) rfl rfl hu hwrites hr (Run.of_exec hv) hselects htask hv'
  exact ⟨hearly, fun h => absurd (h _ hearly) (by decide)⟩

end MRF.Center
