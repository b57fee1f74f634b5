import MRF.Center.Graceful

/-!
# Center — Ending

Whether a `shutDown(true)` of `PollTaskScheduler` returns.

* `Fits.reaches_pool`: what a pool can come to by going on with what has begun, the process can.
* `can_end_iff`: in every state that a run reaches while a `shutDown(true)` has joined the threads
  and has not returned, it can return exactly if no worker of a pool is lost.
-/

namespace MRF.Pool.SimpleThreadPool
open MRF.Library

variable {ρ : Type*} {s s' : SimpleThreadPool ρ} {c : Nat}

/-- A caller that is out can come to have the lock free for its call. -/
theorem Fit.reaches_call (hf : s.Fit) {v : Result} (hc : s.callers c = .out v) :
    Reaches Careful s fun t => t.nextRunnableLock = none ∧ t.callers c = .out v := by
  cases hl : s.nextRunnableLock with
  | none => exact .here ⟨hl, hc⟩
  | some d =>
      have hholds := (hf.sound.lock d).mp hl
      have hne : c ≠ d := by
        rintro rfl
        rw [hc] at hholds
        cases hholds
      refine (hf.reaches_free hholds).mono ?_
      rintro t ⟨hfree, hothers⟩
      exact ⟨hfree, (hothers c hne).trans hc⟩

/-- A `shutdown(true)` can return, with no worker lost. -/
theorem Fit.reaches_out (hf : s.Fit) (hc : (s.callers c).shutting true) :
    Reaches Careful s fun t => ∃ v, t.callers c = .out v := by
  by_cases hout : ∃ v, s.callers c = .out v
  · exact .here hout
  · have hshuts : (s.callers c).shutsDown = true := by
      cases hp : s.callers c with
      | out v => exact absurd ⟨v, hp⟩ hout
      | signal | awaitHandoff | awaitBusy | join =>
          rw [hp] at hc
          exact hc
      | awaitWorker | handOver | awaitAvailable =>
          rw [hp] at hc
          exact hc.elim
    refine (hf.reaches_end hshuts).trans fun t ht => ?_
    exact .one (joinedAll_careful ht) ⟨_, goTo_callers_self⟩

/-- A call of `shutdown` loses no worker at once. -/
theorem Fit.shutdown (hf : s.Fit) {wait : Bool} (h : s.step (.shutdown c wait) = some s') :
    s'.Fit where
  sound := hf.sound.step h
  stopping := hf.stopping.step h hf.sound
  kept wt hl := by
    rcases (hf.sound.lost_iff h).mp hl with hold | hloses
    · exact hf.kept wt hold
    · exact hloses

end MRF.Pool.SimpleThreadPool

namespace MRF.Center
open MRF.Library MRF.Pool

variable {ρ : Type*}

/-- The call of `shutDown(true)` has joined the threads and has not returned. -/
def ShutDownCall.ending : ShutDownCall → Bool
  | .pool _ wait | .inPool _ wait | .finish wait => wait
  | _ => false

namespace SchedulerProcess

variable {s s' : SchedulerProcess ρ} {a : ProcessAction ρ} {name : SchedulerName} {c : Nat}
  {tr : List (SchedulerProcess ρ × ProcessAction ρ)}
  {cfg : SchedulerName → PoolConfig} {pools : SchedulerName → SimpleThreadPool ρ}

/-! ### What a pool can come to -/

/-- An orderly state, with no worker lost. -/
structure Fits (s : SchedulerProcess ρ) : Prop where
  orderly : s.Orderly
  pools : ∀ name, (s.pools name).Fit

theorem Fits.reaches_pool (hf : s.Fits) {P : SimpleThreadPool ρ → Prop}
    (hr : Reaches SimpleThreadPool.Careful (s.pools name) P) :
    Reaches (stepOf step) s fun t =>
      t.Fits ∧ P (t.pools name) ∧ t.shutDowns = s.shutDowns := by
  obtain ⟨tr, pool, hrun, hfit, hP⟩ := (hf.pools name).reaches hr
  have hwithin : Run (Guarded (stepOf SimpleThreadPool.step) fun _ b => b.within = true)
      (s.pools name) tr pool := hrun.mono fun _ _ _ h => ⟨h.1, h.2.1⟩
  have hreach := (pool_runs hwithin rfl).invariant (I := Orderly)
    (fun _ _ _ h ho => Orderly.step h ho) hf.orderly
  refine hreach.mono ?_
  rintro t ⟨ho, rfl⟩
  refine ⟨⟨ho, fun n => ?_⟩, ?_, rfl⟩
  · rcases s.setPool_cases name n pool with ⟨-, hpool⟩ | ⟨-, hpool⟩
    · rwa [hpool]
    · rw [hpool]
      exact hf.pools n
  · rwa [show (s.setPool name pool).pools name = pool from Function.update_self ..]

/-! ### One pool after the other -/

/-- The pool can be shut down. -/
theorem Fits.reaches_inPool (hf : s.Fits) (hc : s.shutDowns c = .pool name true) :
    Reaches (stepOf step) s fun t => t.Fits ∧ t.shutDowns c = .inPool name true := by
  obtain ⟨v, hv⟩ := ShutDownCall.out_of_allows (hf.orderly.shuts c name) (by rw [hc]; simp)
  refine (hf.reaches_pool ((hf.pools name).reaches_call hv)).trans ?_
  rintro t ⟨ht, ⟨hl, hvt⟩, hcalls⟩
  have hshut : (t.pools name).step (.shutdown (c + 1) true) =
      some ((t.pools name).shutdown (c + 1) true) := by
    simp [SimpleThreadPool.step, SimpleThreadPool.call, hvt, hl]
  have hstep : stepOf step t (.shutDownNext c) ((t.setPool name
      ((t.pools name).shutdown (c + 1) true)).setShutDown c (.inPool name true)) := by
    change t.shutDownNext c = _
    simp [shutDownNext, hcalls, hc, hshut]
  refine .one hstep ⟨⟨ht.orderly.step hstep, fun n => ?_⟩, Function.update_self ..⟩
  change ((t.setPool name ((t.pools name).shutdown (c + 1) true)).pools n).Fit
  rcases t.setPool_cases name n ((t.pools name).shutdown (c + 1) true) with
    ⟨-, hpool⟩ | ⟨-, hpool⟩
  · rw [hpool]
    exact (ht.pools name).shutdown hshut
  · rw [hpool]
    exact ht.pools n

/-- The pool can be left. -/
theorem Fits.reaches_after (hf : s.Fits) (hc : s.shutDowns c = .inPool name true) :
    Reaches (stepOf step) s fun t => t.Fits ∧ t.shutDowns c = afterPool name true := by
  have hshut := ShutDownCall.shutting_of_allows (hc ▸ hf.orderly.shuts c name)
  refine (hf.reaches_pool ((hf.pools name).reaches_out hshut)).trans ?_
  rintro t ⟨ht, ⟨v, hv⟩, hcalls⟩
  have hstep : stepOf step t (.shutDownNext c) (t.setShutDown c (afterPool name true)) := by
    change t.shutDownNext c = _
    simp [shutDownNext, hcalls, hc, hv]
  exact .one hstep ⟨⟨ht.orderly.step hstep, ht.pools⟩, Function.update_self ..⟩

theorem Fits.reaches_returned (hf : s.Fits) (hc : (s.shutDowns c).ending = true) :
    Reaches (stepOf step) s fun t => t.shutDowns c = .returned true := by
  have hfinish {s : SchedulerProcess ρ} (hc : s.shutDowns c = .finish true) :
      Reaches (stepOf step) s fun t => t.shutDowns c = .returned true := by
    have hstep : stepOf step s (.shutDownNext c)
        ({ s with isShutDown := true }.setShutDown c (.returned true)) := by
      change s.shutDownNext c = _
      simp [shutDownNext, hc]
    exact .one hstep (Function.update_self ..)
  -- from the last pool back to the first
  have hin {s : SchedulerProcess ρ} (name : SchedulerName) (hf : s.Fits)
      (hc : s.shutDowns c = .inPool name true) :
      Reaches (stepOf step) s fun t => t.shutDowns c = .returned true := by
    induction hk : 3 - name.index using Nat.strongRecOn generalizing s name with
    | ind k ih =>
        refine (hf.reaches_after hc).trans ?_
        rintro t ⟨ht, hct⟩
        cases name with
        | pollIntervalRetry => exact hfinish hct
        | houseKeep =>
            refine (ht.reaches_inPool hct).trans ?_
            rintro u ⟨hu, hcu⟩
            exact ih _ (by rw [← hk]; decide) _ hu hcu rfl
        | pollEQ =>
            refine (ht.reaches_inPool hct).trans ?_
            rintro u ⟨hu, hcu⟩
            exact ih _ (by rw [← hk]; decide) _ hu hcu rfl
  cases hplace : s.shutDowns c with
  | pool n wait =>
      obtain rfl : wait = true := by rwa [hplace] at hc
      refine (hf.reaches_inPool hplace).trans ?_
      rintro t ⟨ht, hct⟩
      exact hin n ht hct
  | inPool n wait =>
      obtain rfl : wait = true := by rwa [hplace] at hc
      exact hin n hf hplace
  | finish wait =>
      obtain rfl : wait = true := by rwa [hplace] at hc
      exact hfinish hplace
  | notCalled | passed | halt | join | returned | refused =>
      rw [hplace] at hc
      cases hc

/-! ### A lost worker -/

theorem stopping_step (h : s.step a = some s') (ho : s.Orderly)
    (hst : (s.pools name).Stopping) : (s'.pools name).Stopping := by
  rcases refines_pool name s a s' h trivial with ⟨-, heq⟩ | ⟨b, -, hstep, -⟩
  · rw [show s'.pools name = s.pools name from heq]
    exact hst
  · exact hst.step hstep (ho.user name).sound

/-- In every state that a run reaches while a `shutDown(true)` has joined the threads and has not
returned, it can return exactly if no worker of a pool is lost. -/
theorem can_end_iff (h : ∀ name, SimpleThreadPool.initialized (cfg name) = .ok (pools name))
    (hrun : Run (stepOf step) (initial pools) tr s) (hc : (s.shutDowns c).ending = true) :
    Reaches (stepOf step) s (fun t => t.shutDowns c = .returned true) ↔
      ∀ name wt, ¬ (s.pools name).Lost wt := by
  have hall := hrun.invariant
    (I := fun s => s.Orderly ∧ ∀ name, (s.pools name).Stopping)
    (fun _ _ _ hstep hs =>
      ⟨Orderly.step hstep hs.1, fun name => stopping_step hstep hs.1 (hs.2 name)⟩)
    ⟨initial_orderly h, fun name => SimpleThreadPool.initialized_stopping (h name)⟩
  constructor
  · rintro ⟨tr', t, hrun', hct⟩ name wt hl
    have hq : (t.pools name).Quiet :=
      quiet_run h (hrun.trans hrun') (c := c) (.inl (by rw [hct]; rfl))
    have hpool := (refines_pool name).run (fun _ _ _ _ _ => trivial) hrun' trivial
    have hlost := SimpleThreadPool.lost_run (hall.1.user name).sound hpool.of_guarded hl
    have hbusy := hlost.busy
    rw [hq.busy] at hbusy
    cases hbusy
  · exact fun hn => Fits.reaches_returned
      ⟨hall.1, fun name => ⟨(hall.1.user name).sound, hall.2 name, hn name⟩⟩ hc

/-- The thread hands 7 over and is joined; the worker is told to stop before it comes to run it. -/
def shutTooEarly : List (ProcessAction Nat) :=
  handsOver ++ haltPaused .pollEQ ++ haltPaused .houseKeep ++ haltPaused .pollIntervalRetry ++
    [.shutDownNext 0, .pool .pollEQ (.goOn 1 false)]

theorem can_end_iff_sample : ∃ tr s,
    Run (stepOf step) (initial fun _ => SimpleThreadPool.sample) tr s ∧
      s.shutDowns 0 = .inPool .pollEQ true ∧
        ¬ Reaches (stepOf step) s fun t => t.shutDowns 0 = .returned true := by
  obtain ⟨s, hs⟩ : ∃ s, exec step (initial fun _ => SimpleThreadPool.sample) shutTooEarly =
    some s := ⟨_, rfl⟩
  have hstate : s.shutDowns 0 = .inPool .pollEQ true ∧
      (s.pools .pollEQ).callers 1 = .signal [] true ∧ (s.pools .pollEQ).busyWorkers = [0] ∧
        ((s.pools .pollEQ).threads 0).ran = false ∧
          ((s.pools .pollEQ).threads 0).place = .loop ∧
            ((s.pools .pollEQ).threads 0).run = false := by
    cases hs
    exact ⟨rfl, rfl, rfl, rfl, rfl, rfl⟩
  obtain ⟨hc, hsignal, hb, hran, hp, hstop⟩ := hstate
  have hsound := ((orderly_run (fun _ => SimpleThreadPool.initialized_sample)
    (Run.of_exec hs)).user .pollEQ).sound
  have hlost : (s.pools .pollEQ).Lost 0 := by
    refine ⟨hb ▸ List.mem_cons_self, ⟨hran, .inr (.inr (.inr ⟨.inl hp, hstop⟩))⟩, ?_⟩
    exact (hsound.free_of_holds (c := 1) (by rw [hsignal]; rfl)).not_handed (by simp [hsignal])
  refine ⟨_, s, Run.of_exec hs, hc, fun hreach => ?_⟩
  have hending : (s.shutDowns 0).ending = true := by
    rw [hc]
    rfl
  exact (can_end_iff (fun _ => SimpleThreadPool.initialized_sample) (Run.of_exec hs) hending).mp
    hreach .pollEQ 0 hlost

end SchedulerProcess

end MRF.Center
