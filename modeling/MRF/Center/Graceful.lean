import MRF.Center.Orderly

/-!
# Center — Graceful

What `shutDown(true)` of `PollTaskScheduler` promises, whoever else calls it.

* `graceful_run`: when a `shutDown(true)` returns, the threads have ended, and whatever they handed
  to their pools has been run to its end, exactly once; no thread of a pool is left, if no join in
  it was interrupted.
-/

namespace MRF.Center.SchedulerProcess
open MRF.Library MRF.Pool

variable {ρ : Type*} {s s' : SchedulerProcess ρ} {a : ProcessAction ρ} {name : SchedulerName}
  {c : Nat} {tr : List (SchedulerProcess ρ × ProcessAction ρ)}
  {cfg : SchedulerName → PoolConfig} {pools : SchedulerName → SimpleThreadPool ρ}

/-! ### What is handed over, and what is run -/

/-- What the thread calls `runInThread` of its pool with, in a run. -/
def handed (name : SchedulerName) : List (SchedulerProcess ρ × ProcessAction ρ) → Multiset ρ :=
  total fun s a => ((poolAction name s a).map fun b => (b.asks : Multiset ρ)).getD 0

/-- What the workers of the pool run to its end, in a run. -/
def completed (name : SchedulerName) : List (SchedulerProcess ρ × ProcessAction ρ) → Multiset ρ :=
  total fun s a =>
    ((poolAction name s a).map fun b => ((s.pools name).finishes b : Multiset ρ)).getD 0

/-- What becomes of a pool in a run. -/
theorem pool_run (hrun : Run (stepOf step) (initial pools) tr s) (name : SchedulerName) :
    Run (Guarded (stepOf SimpleThreadPool.step) (SimpleThreadPool.OnlyUser 0)) (pools name)
      (tr.filterMap fun p => (poolAction name p.1 p.2).map fun b => (p.1.pools name, b))
      (s.pools name) :=
  (refines_pool name).run (fun _ _ _ _ _ => trivial) hrun trivial

theorem orderly_run (h : ∀ name, SimpleThreadPool.initialized (cfg name) = .ok (pools name))
    (hrun : Run (stepOf step) (initial pools) tr s) : s.Orderly :=
  hrun.invariant (fun _ _ _ h ho => Orderly.step h ho) (initial_orderly h)

/-! ### Past a pool nothing is left in it -/

theorem quiet_step (h : s.step a = some s') (ho : s.Orderly)
    (hq : s.Past c name → (s.pools name).Quiet) : s'.Past c name → (s'.pools name).Quiet := by
  refine past_rule h ho (fun d hd hn => ?_) (fun b hb hstep hq => hq.step hstep hb) hq
  exact ⟨((ho.user name).sound.joins hd).2.2.2, hn⟩

theorem quiet_run (h : ∀ name, SimpleThreadPool.initialized (cfg name) = .ok (pools name))
    (hrun : Run (stepOf step) (initial pools) tr s) (hp : s.Past c name) :
    (s.pools name).Quiet := by
  have hboth := hrun.invariant (I := fun s => s.Orderly ∧ (s.Past c name → (s.pools name).Quiet))
    (fun _ _ _ hstep hs => ⟨Orderly.step hstep hs.1, quiet_step hstep hs.1 hs.2⟩)
    ⟨initial_orderly h, fun hp => ?_⟩
  · exact hboth.2 hp
  · rcases hp with hp | ⟨hp, -⟩ <;> cases hp

/-- The action interrupts a join in the pool. -/
def InterruptsJoin (name : SchedulerName) (s : SchedulerProcess ρ) (a : ProcessAction ρ) : Prop :=
  ∃ b, poolAction name s a = some b ∧ (s.pools name).InterruptsJoin b

theorem joins_step (h : s.step a = some s') (ho : s.Orderly) (hi : ¬ InterruptsJoin name s a)
    (hj : (s.pools name).Joins) : (s'.pools name).Joins := by
  rcases refines_pool name s a s' h trivial with ⟨-, heq⟩ | ⟨b, hb, hstep, -⟩
  · rw [show s'.pools name = s.pools name from heq]
    exact hj
  · exact hj.step hstep (ho.user name).sound fun hib => hi ⟨b, hb, hib⟩

theorem pool_ended_step (h : s.step a = some s') (ho : s.Orderly) (hj : (s.pools name).Joins)
    (he : s.Past c name → (s.pools name).Quiet ∧ (s.pools name).Ended) :
    s'.Past c name → (s'.pools name).Quiet ∧ (s'.pools name).Ended := by
  refine past_rule (P := fun p => p.Quiet ∧ p.Ended) h ho (fun d hd hn => ?_)
    (fun b hb hstep hq => ⟨hq.1.step hstep hb, SimpleThreadPool.ended_step hstep hq.1 hq.2 hb⟩) he
  refine ⟨⟨((ho.user name).sound.joins hd).2.2.2, hn⟩, fun wt hlt => ?_⟩
  rcases hj.ended wt hlt with hw | hend
  · rw [hj.rest d [] hd] at hw
    cases hw
  · exact hend

/-- When a `shutDown(true)` has returned, the threads have ended, the pools have run all that the
threads handed over, each as often as it was handed over, and their threads have ended as well. -/
theorem graceful_run (h : ∀ name, SimpleThreadPool.initialized (cfg name) = .ok (pools name))
    (hrun : Run (stepOf step) (initial pools) tr s) (hc : s.shutDowns c = .returned true)
    (name : SchedulerName) : (s.threads name).place = .ended ∧
      completed name tr = handed name tr ∧
        ((∀ p ∈ tr, ¬ InterruptsJoin name p.1 p.2) → (s.pools name).Ended) := by
  have hp : s.Past c name := .inl (by rw [hc]; rfl)
  refine ⟨(orderly_run h hrun).ended c name hp.joined, ?_, fun hi => ?_⟩
  · have hasked := (quiet_run h hrun hp).asked_run (h name) (pool_run hrun name)
    rw [total_seen (fun s : SchedulerProcess ρ => s.pools name) (poolAction name),
      total_seen (fun s : SchedulerProcess ρ => s.pools name) (poolAction name)] at hasked
    exact hasked
  · have hall := (hrun.to_guarded hi).invariant
      (I := fun s => s.Orderly ∧ (s.pools name).Joins ∧
        (s.Past c name → (s.pools name).Quiet ∧ (s.pools name).Ended))
      (fun _ _ _ hstep hs => ⟨Orderly.step hstep.1 hs.1, joins_step hstep.1 hs.1 hstep.2 hs.2.1,
        pool_ended_step hstep.1 hs.1 hs.2.1 hs.2.2⟩)
      ⟨initial_orderly h, SimpleThreadPool.initialized_joins (h name), fun hp => ?_⟩
    · exact (hall.2.2 hp).2
    · rcases hp with hp | ⟨hp, -⟩ <;> cases hp

theorem poolAction_goOn {d : Nat} {i : Bool} (h : poolAction name s a = some (.goOn d i)) :
    a = .pool name (.goOn d i) := by
  unfold poolAction at h
  split at h
  · split at h
    · split at h <;> cases h
    · cases h
  · next n b =>
      split at h
      · next hn =>
          cases h
          rw [hn]
      · cases h
  · split at h
    · split at h <;> cases h
    · cases h
  · cases h

/-- A call of `shutDown` shuts down the pool of a thread, whose worker is idle. -/
def shutIdle (name : SchedulerName) : List (ProcessAction Nat) :=
  [.shutDownNext 0, .pool name (.goOn 1 false), .pool name (.goOn 1 false),
    .pool name (.worker 0), .pool name (.goOn 1 false), .pool name (.goOn 1 false),
    .shutDownNext 0]

/-- A thread that is paused is halted and joined. -/
def haltPaused (name : SchedulerName) : List (ProcessAction Nat) :=
  [.shutDownNext 0, .move name .next, .shutDownNext 0]

/-- The exception-queue thread hands 7 over; then `shutDown(true)` is called. -/
def handsOver : List (ProcessAction Nat) :=
  [.togglePause .pollEQ false, .move .pollEQ .next, .move .pollEQ .next, .call .pollEQ,
    .back .pollEQ, .move .pollEQ (.task true), .test .pollEQ 7, .call .pollEQ,
    .pool .pollEQ (.goOn 0 false), .shutDown 0 true, .shutDownNext 0, .back .pollEQ,
    .move .pollEQ .next, .move .pollEQ .next]

/-- A runnable is handed over, and the scheduler is shut down thread by thread. -/
def shutGracefully : List (ProcessAction Nat) :=
  handsOver ++ haltPaused .pollEQ ++ haltPaused .houseKeep ++ haltPaused .pollIntervalRetry ++
    List.replicate 5 (.pool .pollEQ (.worker 0)) ++ shutIdle .pollEQ ++ shutIdle .houseKeep ++
    shutIdle .pollIntervalRetry ++ [.shutDownNext 0]

set_option maxRecDepth 2000 in
theorem graceful_run_sample : ∃ tr s,
    Run (stepOf step) (initial fun _ => SimpleThreadPool.sample) tr s ∧
      s.shutDowns 0 = .returned true ∧ completed .pollEQ tr = {7} ∧
        (s.pools .pollEQ).Ended := by
  obtain ⟨s, hs⟩ : ∃ s, exec step (initial fun _ => SimpleThreadPool.sample) shutGracefully =
    some s := ⟨_, rfl⟩
  have hc : s.shutDowns 0 = .returned true := by
    cases hs
    rfl
  have hhanded : handed .pollEQ (trace step (initial fun _ => SimpleThreadPool.sample)
    shutGracefully) = {7} := rfl
  have hi : ∀ p ∈ trace step (initial fun _ => SimpleThreadPool.sample) shutGracefully,
      ¬ InterruptsJoin .pollEQ p.1 p.2 := by
    rintro p hp ⟨b, hb, d, wt, wts, rfl, -⟩
    have hmem := mem_trace hp
    rw [poolAction_goOn hb] at hmem
    simp [shutGracefully, handsOver, haltPaused, shutIdle] at hmem
  obtain ⟨-, hcompleted, hended⟩ := graceful_run
    (fun _ => SimpleThreadPool.initialized_sample) (Run.of_exec hs) hc .pollEQ
  exact ⟨_, s, Run.of_exec hs, hc, hcompleted.trans hhanded, hended hi⟩

end MRF.Center.SchedulerProcess
