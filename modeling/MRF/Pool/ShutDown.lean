import MRF.Pool.Lost

/-!
# Pool — ShutDown

What is true when `shutdown(true)` has stopped waiting, and when it returns.

* `settled_run`: once it has stopped waiting for the busy workers, whatever was ever handed to a
  worker has been run to its end, exactly once: a worker that lost a runnable would still be busy.
* `ended_run`: when it returns and none of its joins was interrupted, every thread that the pool
  ever created has ended.
-/

namespace MRF.Pool.SimpleThreadPool
open MRF.Library

variable {ρ : Type*} {s s' : SimpleThreadPool ρ} {a : Action ρ} {c wt : Nat}
  {tr : List (SimpleThreadPool ρ × Action ρ)} {cfg : PoolConfig}

/-! ### Nothing is left -/

/-- A worker that throws a runnable away is lost. -/
theorem Sound.lost_of_drops (hs : s.Sound) (hd : s.drops a ≠ []) : ∃ wt, s.Lost wt := by
  cases a with
  | worker wt =>
      have hclear : (s.threads wt).place = .clear ∧ (s.threads wt).ran = false := by
        by_contra hn
        exact hd (if_neg hn)
      have hrunnable : (s.threads wt).runnable ≠ none := by
        intro hn
        refine hd ?_
        simp [drops, WorkerThread.drops, hn]
      obtain ⟨hb, hh⟩ := hs.busy_of_runnable hrunnable
      exact ⟨wt, hb, ⟨hclear.2, .inr (.inl hclear.1)⟩, hh⟩
  | _ => exact absurd rfl hd

/-- As long as no worker is lost, nothing has been thrown away. -/
theorem drops_run (h : initialized cfg = .ok s)
    (hrun : Run (stepOf SimpleThreadPool.step) s tr s') :
    (∃ wt, s'.Lost wt) ∨ total (fun s a => (s.drops a : Multiset ρ)) tr = 0 := by
  have hhist := hrun.history_of_start (J := fun tr s => s.Sound ∧
      ((∃ wt, s.Lost wt) ∨ total (fun s a => (s.drops a : Multiset ρ)) tr = 0)) ?_
    ⟨initialized_sound h, .inr rfl⟩
  · exact hhist.2
  · rintro tr s a s' hstep ⟨hs, hlost⟩
    refine ⟨Sound.step hstep hs, ?_⟩
    have hstays {wt : Nat} (hl : s.Lost wt) : ∃ wt, s'.Lost wt :=
      ⟨wt, (hs.lost_iff hstep).mpr (.inl hl)⟩
    rcases hlost with ⟨wt, hl⟩ | hnone
    · exact .inl (hstays hl)
    · by_cases hd : s.drops a = []
      · refine .inr ?_
        rw [total_append, hnone, total_cons, hd]
        rfl
      · obtain ⟨wt, hl⟩ := hs.lost_of_drops hd
        exact .inl (hstays hl)

/-- If no worker is busy, none has anything left. -/
theorem Sound.held_nil_of_busy (hs : s.Sound) (hb : s.busyWorkers = []) :
    ∀ wt, (s.threads wt).left = [] := by
  intro wt
  refine (hs.threads.idle wt ?_).left
  rw [hb]
  exact List.not_mem_nil

/-- Once a `shutdown(true)` has stopped waiting, nobody has anything left, and what was handed to
the workers is what they have run to its end. -/
theorem settled_run (h : initialized cfg = .ok s)
    (hrun : Run (stepOf SimpleThreadPool.step) s tr s') {wts : List Nat}
    (hc : s'.callers c = .join wts) : (∀ wt, (s'.threads wt).left = []) ∧
      total (fun s a => (s.finishes a : Multiset ρ)) tr =
        total (fun s a => (s.accepts a : Multiset ρ)) tr := by
  have hs := sound_run h hrun
  obtain ⟨-, -, -, hb⟩ := hs.joins hc
  have hleft := hs.held_nil_of_busy hb
  refine ⟨hleft, ?_⟩
  have hheld : s'.held = 0 := by
    unfold held left
    simp [hleft]
  have hdrops : total (fun s a => (s.drops a : Multiset ρ)) tr = 0 := by
    rcases drops_run h hrun with ⟨wt, hl⟩ | hnone
    · have hbusy := hl.busy
      rw [hb] at hbusy
      cases hbusy
    · exact hnone
  have haccount := account_run h hrun
  rw [total_add, hdrops, hheld] at haccount
  simpa using haccount

/-- The worker is told to stop while it waits, and ends. -/
def shutInTime : List (Action Nat) :=
  usedOnce ++ [.shutdown 1 true, .goOn 1 false, .goOn 1 false, .worker 0, .goOn 1 false]

/-- The runnable that was handed over has ended when the caller comes to its joins. -/
theorem settled_run_sample : ∃ tr s, Run (stepOf SimpleThreadPool.step) sample tr s ∧
    s.callers 1 = .join [] ∧ total (fun s a => (s.finishes a : Multiset Nat)) tr = {7} := by
  obtain ⟨s, hs⟩ : ∃ s, exec SimpleThreadPool.step sample shutInTime = some s := ⟨_, rfl⟩
  have hc : s.callers 1 = .join [] := by
    cases hs
    rfl
  have haccepts : total (fun s a => (s.accepts a : Multiset Nat))
      (trace SimpleThreadPool.step sample shutInTime) = {7} := rfl
  have hsettled := settled_run initialized_sample (Run.of_exec hs) hc
  exact ⟨_, s, Run.of_exec hs, hc, hsettled.2.trans haccepts⟩

/-! ### No thread is left -/

/-- The action interrupts a `join` of `shutdown`. -/
def InterruptsJoin (s : SimpleThreadPool ρ) (a : Action ρ) : Prop :=
  ∃ c wt wts, a = .goOn c true ∧ s.callers c = .join (wt :: wts)

/-- What the last loop of `shutdown` has to come to. -/
structure Joins (s : SimpleThreadPool ρ) : Prop where
  ended : ∀ wt < s.created, wt ∈ s.workers ∨ (s.threads wt).place = .ended
  rest : ∀ c wts, s.callers c = .join wts → s.workers = wts

/-- A thread that has ended is as it was. -/
theorem ended_update {v : Nat} {th : WorkerThread ρ} (he : (s.threads wt).place = .ended)
    (hth : wt = v → th.place = .ended) : (Function.update s.threads v th wt).place = .ended := by
  by_cases hv : wt = v
  · rw [hv, Function.update_self]
    exact hth hv
  · rw [Function.update_of_ne hv]
    exact he

/-- A caller moves, and a last loop that it comes to has all workers before it. -/
theorem Joins.moved {t : SimpleThreadPool ρ} {p : Caller ρ} (hfree : s.Free c)
    (hcallers : t.callers = s.callers)
    (he : ∀ wt < t.created, wt ∈ t.workers ∨ (t.threads wt).place = .ended)
    (hp : ∀ wts, p = .join wts → t.workers = wts) : (t.goTo c p).Joins where
  ended := he
  rest d wts hd := by
    by_cases hdc : d = c
    · subst hdc
      rw [goTo_callers_self] at hd
      exact hp wts hd
    · have hn := hfree d hdc
      rw [goTo_callers_ne hdc, hcallers] at hd
      rw [hd] at hn
      cases hn

theorem Joins.goTo {p : Caller ρ} (hj : s.Joins) (hfree : s.Free c)
    (hp : ∀ wts, p = .join wts → s.workers = wts) : (s.goTo c p).Joins :=
  .moved hfree rfl hj.ended hp

theorem Joins.findWorker (hj : s.Joins) (hfree : s.Free c) (r : ρ) : (s.findWorker c r).Joins := by
  unfold SimpleThreadPool.findWorker
  split
  · refine .moved hfree rfl (fun wt hlt => ?_) (by simp)
    rcases Nat.lt_succ_iff_lt_or_eq.mp hlt with hlt | rfl
    · rcases hj.ended wt hlt with hw | he
      · exact .inl (List.mem_append_left _ hw)
      · exact .inr (ended_update he fun hwt => absurd hwt (Nat.ne_of_lt hlt))
    · exact .inl (List.mem_append_right _ List.mem_cons_self)
  · split
    · exact hj.goTo hfree (by simp)
    · exact .moved hfree rfl hj.ended (by simp)

/-- The test on `busyWorkers` goes on to a loop over all workers. -/
theorem Joins.testBusy (hj : s.Joins) (hfree : s.Free c) : (s.testBusy c).Joins := by
  unfold SimpleThreadPool.testBusy
  split
  · refine hj.goTo hfree fun wts h => ?_
    cases h
    rfl
  · exact hj.goTo hfree (by simp)

theorem Joins.testHandoff (hj : s.Joins) (hfree : s.Free c) : (s.testHandoff c).Joins := by
  unfold SimpleThreadPool.testHandoff
  split
  · exact hj.goTo hfree (by simp)
  · exact hj.testBusy hfree

theorem Joins.signal (hj : s.Joins) (hfree : s.Free c) (wts : List Nat) (wait : Bool) :
    (s.signal c wts wait).Joins := by
  unfold SimpleThreadPool.signal
  split
  · next v wts =>
      refine .moved hfree rfl (fun wt hlt => (hj.ended wt hlt).imp_right fun he => ?_) (by simp)
      exact ended_update he fun hv => hv ▸ he
  · exact hj.goTo hfree (by simp)
  · exact hj.testHandoff hfree

/-- A step of a worker that has not ended. -/
theorem Joins.update {t : SimpleThreadPool ρ} {th : WorkerThread ρ} (hj : s.Joins)
    (hth : t.threads = Function.update s.threads wt th) (hn : t.created = s.created)
    (hw : t.workers = s.workers) (hcallers : t.callers = s.callers)
    (hne : (s.threads wt).place ≠ .ended) : t.Joins where
  ended v hlt := by
    rw [hw, hth]
    refine (hj.ended v (hn ▸ hlt)).imp_right fun he => ended_update he fun hv => ?_
    exact absurd (hv ▸ he) hne
  rest d wts hd := by
    rw [hw]
    exact hj.rest d wts (hcallers ▸ hd)

theorem Joins.handOver (hj : s.Joins) (hfree : s.Free c) {r : ρ}
    (hne : (s.threads wt).place ≠ .ended) : (s.handOver c wt r).Joins := by
  unfold SimpleThreadPool.handOver
  split
  · exact hj.goTo hfree (by simp)
  · refine .moved hfree rfl (fun v hlt => (hj.ended v hlt).imp_right fun he => ?_) (by simp)
    exact ended_update he fun hv => absurd (hv ▸ he) hne

theorem Joins.blockForAvailableThreads (hj : s.Joins) (hfree : s.Free c) :
    (s.blockForAvailableThreads c).Joins := by
  unfold SimpleThreadPool.blockForAvailableThreads
  split <;> exact hj.goTo hfree (by simp)

/-- The join of a worker that has ended. -/
theorem Joins.joined (hj : s.Joins) (hfree : s.Free c) {wts : List Nat}
    (hc : s.callers c = .join (wt :: wts)) (he : (s.threads wt).place = .ended) :
    ({ s with workers := s.workers.erase wt }.goTo c (.join wts)).Joins := by
  have hw := hj.rest c _ hc
  refine .moved hfree rfl (fun v hlt => ?_) fun wts' h => ?_
  · by_cases hv : v = wt
    · exact .inr (hv ▸ he)
    · refine (hj.ended v hlt).imp_left fun hin => ?_
      exact (List.mem_erase_of_ne hv).mpr hin
  · cases h
    rw [hw, List.erase_cons_head]

/-- Every step keeps it, unless it interrupts a join. -/
theorem Joins.step (h : s.step a = some s') (hs : s.Sound) (hi : ¬ s.InterruptsJoin a)
    (hj : s.Joins) : s'.Joins := by
  have hfree {p : Caller ρ} {c : Nat} (hc : s.callers c = p) (hp : p.holds = true) : s.Free c :=
    hs.free_of_holds (by rw [hc]; exact hp)
  cases step_stepped h with
  | @refuse c v hc =>
      refine ⟨hj.ended, fun d wts hd => ?_⟩
      by_cases hdc : d = c
      · rw [hdc, setCaller_callers_self] at hd
        cases hd
      · rw [setCaller_callers_ne hdc] at hd
        exact hj.rest d wts hd
  | runInThread hl hc =>
      have hpending : ({ s with handoffPending := true } : SimpleThreadPool ρ).Joins :=
        ⟨hj.ended, hj.rest⟩
      exact hpending.findWorker (hs.free_of_lock hl _) _
  | blockForAvailableThreads hl hc | wakeAvailable hl hc =>
      exact hj.blockForAvailableThreads (hs.free_of_lock hl _)
  | shutdown wait hl hc => exact .moved (hs.free_of_lock hl _) rfl hj.ended (by simp)
  | wakeWorker hl hc => exact hj.findWorker (hs.free_of_lock hl _) _
  | wakeHandoff hl hc => exact hj.testHandoff (hs.free_of_lock hl _)
  | wakeBusy hl hc => exact hj.testBusy (hs.free_of_lock hl _)
  | @handOver c wt r i hc hw =>
      have hok := hs.caller c
      rw [hc] at hok
      exact hj.handOver (hfree hc rfl) (hok.2.1.not_ran (hs.threads.ok wt) hok.2.2).2.2
  | signal i hc => exact hj.signal (hfree hc rfl) _ _
  | joinedAll i hc => exact hj.goTo (hfree hc rfl) (by simp)
  | joinInterrupted hc => exact absurd ⟨_, _, _, rfl, hc⟩ hi
  | joined hc he => exact hj.joined (hfree hc rfl) hc he
  | release hn hp hr hl => exact hj.update rfl rfl rfl rfl (by simp [hp])
  | @advance wt th hn hth =>
      refine hj.update rfl rfl rfl rfl fun he => ?_
      simp [WorkerThread.advance, he] at hth
  | interrupt hn hth =>
      exact hj.update rfl rfl rfl rfl (by simp [(WorkerThread.interrupted_inv hth).1])

theorem initialized_joins (h : initialized cfg = .ok s) : s.Joins := by
  obtain ⟨rfl, -⟩ := initialized_inv h
  exact ⟨fun wt hlt => .inl (List.mem_range.mpr hlt), fun c wts hc => by cases hc⟩

/-- When a `shutdown(true)` returns, and no join was interrupted, every thread that the pool ever
created has ended. -/
theorem ended_run (h : initialized cfg = .ok s)
    (hrun : Run (Guarded (stepOf SimpleThreadPool.step) fun s a => ¬ s.InterruptsJoin a) s tr s')
    (hc : s'.callers c = .join []) : ∀ wt < s'.created, (s'.threads wt).place = .ended := by
  have hboth := hrun.invariant (I := fun s => s.Sound ∧ s.Joins)
    (fun _ _ _ hstep hs => ⟨Sound.step hstep.1 hs.1, hs.2.step hstep.1 hs.1 hstep.2⟩)
    ⟨initialized_sound h, initialized_joins h⟩
  intro wt hlt
  rcases hboth.2.ended wt hlt with hw | he
  · rw [hboth.2.rest c [] hc] at hw
    cases hw
  · exact he

/-- The thread has ended when the caller has joined it. -/
theorem ended_run_sample : ∃ tr s, Run (stepOf SimpleThreadPool.step) sample tr s ∧
    s.callers 1 = .join [] ∧ s.created = 1 ∧ (s.threads 0).place = .ended := by
  obtain ⟨s, hs⟩ : ∃ s, exec SimpleThreadPool.step sample shutInTime = some s := ⟨_, rfl⟩
  have hc : s.callers 1 = .join [] ∧ s.created = 1 := by
    cases hs
    exact ⟨rfl, rfl⟩
  have hguard : ∀ p ∈ trace SimpleThreadPool.step sample shutInTime, ¬ p.1.InterruptsJoin p.2 := by
    rintro p hp ⟨c, wt, wts, hgo, -⟩
    have hmem := mem_trace hp
    rw [hgo] at hmem
    simp [shutInTime, usedOnce] at hmem
  have hended := ended_run initialized_sample ((Run.of_exec hs).to_guarded hguard) hc.1
  exact ⟨_, s, Run.of_exec hs, hc.1, hc.2, hended 0 (by rw [hc.2]; decide)⟩

end MRF.Pool.SimpleThreadPool
