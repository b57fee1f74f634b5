import MRF.Center.PollThread

/-!
# Center — MostUrgent

Whether the most urgent row goes first.  A poll thread selects a row with the least `next_exec_at`
and keeps it until the row is due; nothing makes it look at the table again.  So a row that comes
in meanwhile with an earlier time is overtaken.

`mostUrgent_iff`: as long as a thread has a task, no row to be retried is earlier, if and only if no
earlier row has come in since the thread selected and is there still.
-/

namespace MRF.Center
open MRF.Library State MRFMessageProcessService

variable {B : Type} [BusinessMsg B] {k : Int} {d : Datetime} {i : Nat} {e : Env}
  {m : RetryMessage B} {t : Tables B} {cfg : MRFServerConfig} {s s' : State B} {a : Action B}
  {r : IntervalRetry B} {v v' : PollCenter B} {act : PollAction B} {millis : Int64}
  {tr : List (PollCenter B × PollAction B)}

/-- The row of `k` is to be retried at `d`. -/
def ToRetryAt (k : Int) (d : Datetime) (t : Tables B) : Prop :=
  ∃ r, t.intervalRetry.get k = some r ∧ r.retryState = .toRetry ∧ r.nextExecAt = d

/-- A message writes the row of `k`, to be retried at `d`. -/
def BringsDue (k : Int) (d : Datetime) (s : State B) (a : Action B) : Prop :=
  ∃ c m, s.message a = some (c, m) ∧ WritesIntervalRetry (s.env c) m s.tables k ∧
    d = nextExecAt (s.env c) m

/-- The poll thread has selected the row, and not handed it over yet. -/
def Has (i : Nat) (r : IntervalRetry B) (s : State B) : Prop :=
  s.pollers i = .selected r ∨ s.pollers i = .task r

/-- The row of `k` comes in while the thread has `r`, to be retried earlier, and is there ever
since. -/
def OvertakenBy (i : Nat) (r : IntervalRetry B) (k : Int) (d : Datetime)
    (tr : List (PollCenter B × PollAction B)) (v : PollCenter B) : Prop :=
  d < r.nextExecAt ∧ ToRetryAt k d v.center.tables ∧ ∃ tr₁ u a tr₂,
    tr = tr₁ ++ (u, .center a) :: tr₂ ∧ Has i r u.center ∧ BringsDue k d u.center a ∧
      ∀ p ∈ tr₂, Has i r p.1.center ∧ ToRetryAt k d p.1.center.tables

def Overtaken (i : Nat) (r : IntervalRetry B) (tr : List (PollCenter B × PollAction B))
    (v : PollCenter B) : Prop :=
  ∃ k d, OvertakenBy i r k d tr v

/-- No row comes in with an earlier time than a row that a thread has. -/
def KeepsOrder (v : PollCenter B) (act : PollAction B) : Prop :=
  ∀ i r k d a, act = .center a → Has i r v.center → BringsDue k d v.center a → r.nextExecAt ≤ d

/-- No row to be retried is earlier than `r`. -/
def MostUrgent (r : IntervalRetry B) (t : Tables B) : Prop :=
  ∀ k d, ToRetryAt k d t → r.nextExecAt ≤ d

/-! ### Where rows come from -/

/-- A step without a message brings no row to be retried. -/
theorem State.Stepped.toRetry_of_quiet (h : Stepped cfg s a s') (hm : s.message a = none)
    (hr : s'.tables.intervalRetry.get k = some r) (hstate : r.retryState = .toRetry) :
    s.tables.intervalRetry.get k = some r := by
  have hw := h.wrote
  generalize s'.tables = t' at hr hw
  cases hw with
  | applied hm' => rw [hm] at hm'; cases hm'
  | checkOut ha hp =>
      rw [Tables.setIntervalRetry_intervalRetry, Table.get_update] at hr
      rcases Table.update_inv hr with hr | ⟨he, r₀, hr₀, rfl⟩
      · exact hr
      · unfold IntervalRetryDAO.checkedOut at hstate ⊢
        split at hstate
        · cases hstate
        · next hn => rw [if_neg hn]; exact hr₀
  | houseKept hb hu => exact (Table.get_deleteAll_inv hr).2
  | _ => exact hr

/-- A row to be retried was there, or a message brings it. -/
theorem State.Stepped.toRetryAt_inv (h : Stepped cfg s a s') (hk : ToRetryAt k d s'.tables) :
    ToRetryAt k d s.tables ∨ BringsDue k d s a := by
  obtain ⟨r, hr, hstate, rfl⟩ := hk
  cases hm : s.message a with
  | none => exact .inl ⟨r, h.toRetry_of_quiet hm hr hstate, hstate, rfl⟩
  | some p =>
      obtain ⟨c, m⟩ := p
      rw [h.tables_eq hm] at hr
      by_cases hw : WritesIntervalRetry (s.env c) m s.tables k
      · exact .inr ⟨c, m, hm, hw, (hw.written hr).2⟩
      · have hcopy := copies_of_processed hr
        rw [if_neg hw] at hcopy
        exact .inl ⟨r, hcopy, hstate, rfl⟩

omit [BusinessMsg B] in
/-- What the query answers is most urgent. -/
theorem mostUrgent_of_select (h : IntervalRetryDAO.isMostUrgent t r = true) : MostUrgent r t := by
  rintro k d ⟨r', hr', hstate, rfl⟩
  obtain ⟨-, hall⟩ := Bool.and_eq_true_iff.mp h
  obtain rfl := Table.key_of_get hr'
  exact of_decide_eq_true
    (List.all_eq_true.mp hall r' (Table.mem_select.mpr ⟨hr', decide_eq_true hstate⟩))

/-- A row that a thread has was selected before, or is selected now, as a most urgent one. -/
theorem State.Stepped.has_inv (h : Stepped cfg s a s') (hi : Has i r s') :
    Has i r s ∨ MostUrgent r s'.tables := by
  rcases h.pollers_inv i with
    ⟨hsame, -⟩ | ⟨x, r₀, rfl, -, hsel⟩ | ⟨raises, r₀, rfl, hsel, hres⟩ | ⟨w, rfl, hidle⟩
  · left
    unfold Has at hi ⊢
    rwa [hsame] at hi
  · right
    cases h with
    | @select _ _ r₁ hidle hr hu =>
        have he : r₁ = r := by simpa [Has, Function.update_self] using hi
        subst he
        exact mostUrgent_of_select hu
  · left
    rw [Has, hres] at hi
    split at hi
    · have he : r₀ = r := by simpa using hi
      exact .inl (he ▸ hsel)
    · simp at hi
  · rw [Has, hidle] at hi
    simp at hi

/-! ### Runs -/

theorem OvertakenBy.extend (h : OvertakenBy i r k d tr v) (hi : Has i r v.center)
    (hk : ToRetryAt k d v'.center.tables) : OvertakenBy i r k d (tr ++ [(v, act)]) v' := by
  obtain ⟨hlt, hv, tr₁, u, a, tr₂, rfl, hu, hbrings, hall⟩ := h
  refine ⟨hlt, hk, tr₁, u, a, tr₂ ++ [(v, act)], by simp, hu, hbrings, fun p hp => ?_⟩
  rcases List.mem_append.mp hp with hp | hp
  · exact hall p hp
  · obtain rfl := List.mem_singleton.mp hp
    exact ⟨hi, hv⟩

/-- Every earlier row has come in since the thread selected. -/
theorem overtakenBy_step (h : PollCenter.Stepped cfg v act v')
    (hv : ∀ i r k d, Has i r v.center → ToRetryAt k d v.center.tables → d < r.nextExecAt →
      OvertakenBy i r k d tr v) (hi : Has i r v'.center) (hk : ToRetryAt k d v'.center.tables)
    (hd : d < r.nextExecAt) : OvertakenBy i r k d (tr ++ [(v, act)]) v' := by
  rcases h.center_cases with ⟨-, hsame⟩ | ⟨b, hb, hstep⟩
  · have hk₀ := hk
    rw [hsame] at hi hk₀
    exact (hv i r k d hi hk₀ hd).extend hi hk
  · rcases hstep.has_inv hi with hi₀ | hurgent
    · rcases hstep.toRetryAt_inv hk with hk₀ | hbrings
      · exact (hv i r k d hi₀ hk₀ hd).extend hi₀ hk
      · cases act with
        | center a =>
            cases hb
            -- the row comes in now, while the thread has its own
            exact ⟨hd, hk, tr, v, _, [], rfl, hi₀, hbrings, by simp⟩
        | handOver j w =>
            cases hb
            obtain ⟨c, m, hm, -⟩ := hbrings
            cases hm
        | _ => cases hb
    · exact absurd (hurgent k d hk) (Int.not_le.mpr hd)

/-- **The most urgent row goes first** exactly when it is not overtaken: at any time while a thread
has the task, and so at its hand-over.  Then no row that is due waits for one that is not. -/
theorem mostUrgent_iff (h : Run (stepOf (PollCenter.step cfg)) (PollCenter.initial millis) tr v)
    (hi : v.center.pollers i = .task r) :
    (MostUrgent r v.center.tables ↔ ¬ Overtaken i r tr v) ∧
      ((∀ p ∈ tr, KeepsOrder p.1 p.2) → ¬ Overtaken i r tr v) ∧
      (¬ Overtaken i r tr v → ∀ k d, ToRetryAt k d v.center.tables →
        getTime d ≤ v.currentTimeMillis.toInt →
          hasReachTaskExecuteTime v.currentTimeMillis r = true) := by
  have hall : ∀ i r k d, Has i r v.center → ToRetryAt k d v.center.tables → d < r.nextExecAt →
      OvertakenBy i r k d tr v :=
    h.history_of_start (J := fun tr v => ∀ i r k d, Has i r v.center →
      ToRetryAt k d v.center.tables → d < r.nextExecAt → OvertakenBy i r k d tr v)
      (fun tr v act v' hs hv i r k d hi hk hd =>
        overtakenBy_step (PollCenter.step_stepped hs) hv hi hk hd)
      (fun i r k d hi => by rcases hi with hi | hi <;> cases hi)
  have hiff : MostUrgent r v.center.tables ↔ ¬ Overtaken i r tr v := by
    constructor
    · rintro hurgent ⟨k, d, hlt, hk, -⟩
      exact Int.not_le.mpr hlt (hurgent k d hk)
    · intro hn k d hk
      exact Int.not_lt.mp fun hlt => hn ⟨k, d, hall i r k d (.inr hi) hk hlt⟩
  refine ⟨hiff, ?_, fun hn k d hk hdue => decide_eq_true ?_⟩
  · rintro horder ⟨k, d, hlt, -, tr₁, u, a, tr₂, rfl, hu, hbrings, -⟩
    have hle := horder (u, .center a) (by simp) i r k d a rfl hu hbrings
    exact Int.not_le.mpr hlt hle
  · exact (getTime_mono (hiff.mpr hn k d hk)).trans hdue

/-- A first failure that is to be retried after `retryInterval`. -/
def firstFailure (retryInterval : Int64) : RetryMessage String :=
  { sampleMessage .intervalMsgDoRetry 0 "post" with retryInterval }

/-- The row 1 is stored at 0, to be retried after ten seconds, and a poll thread takes it and
waits. -/
def waitsForFirst : List (PollAction String) :=
  [.center (.process ⟨0, 1, []⟩ (firstFailure 10000)), .next 0, .center (.select 0 1),
    .center (.checkOut 0 false), .next 0, .next 0, .next 0]

/-- The thread wakes up at ten seconds, and goes ahead. -/
def wakesUp : List (PollAction String) := [.clock 10000, .next 0, .next 0, .next 0, .next 0]

/-- Meanwhile a second row comes in, to be retried at twenty. -/
def laterRow : List (PollAction String) :=
  waitsForFirst ++ .center (.process ⟨0, 2, []⟩ (firstFailure 20000)) :: wakesUp

theorem mostUrgent_sample :
    ∃ v r, exec (PollCenter.step .sample) (PollCenter.initial 0) laterRow = some v ∧
      v.center.pollers 0 = .task r ∧
      ¬ Overtaken 0 r (trace (PollCenter.step .sample) (PollCenter.initial 0) laterRow) v := by
  obtain ⟨v, hv⟩ : ∃ v, exec (PollCenter.step .sample) (PollCenter.initial 0) laterRow = some v :=
    ⟨_, rfl⟩
  obtain ⟨r, hr⟩ : ∃ r, v.center.pollers 0 = .task r := by
    cases hv
    exact ⟨_, rfl⟩
  refine ⟨v, r, hv, hr, (mostUrgent_iff (Run.of_exec hv) hr).1.mp (mostUrgent_of_select ?_)⟩
  cases hv
  cases hr
  decide

/-- A second row comes in at one second, to be retried at five.  At seven seconds it is due, and the
thread still waits for the first, which it hands over at ten while the second is there. -/
theorem overtaken_sample :
    ∃ u v v' r, exec (PollCenter.step .sample) (PollCenter.initial 0) (waitsForFirst ++
        [.clock 1000, .center (.process ⟨1000, 2, []⟩ (firstFailure 4000)), .clock 7000]) = some u ∧
      u.places 0 = .waitDue ∧ ToRetryAt 2 5 u.center.tables ∧
      exec (PollCenter.step .sample) u wakesUp = some v ∧
      v.step .sample (.handOver 0 0) = some v' ∧ v.center.pollers 0 = .task r ∧
      r.nextExecAt = 10 ∧ ToRetryAt 2 5 v.center.tables :=
  ⟨_, _, _, _, rfl, rfl, ⟨_, rfl, rfl, rfl⟩, rfl, rfl, rfl, rfl, ⟨_, rfl, rfl, rfl⟩⟩

end MRF.Center
