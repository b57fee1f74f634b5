import MRF.Pool.Lost

/-!
# Pool — Return

What a worker needs to come back to its pool.

`can_return_iff`: a busy worker can come back, by steps that lose nobody, unless it is lost.
`can_return_run`: so in a run every worker can always come back exactly if no step of the run is one
of the three that lose a worker.
-/

namespace MRF.Pool.SimpleThreadPool
open MRF.Library

variable {ρ : Type*} {s s' t : SimpleThreadPool ρ} {a : Action ρ} {c wt : Nat}
  {tr : List (SimpleThreadPool ρ × Action ρ)}

/-- The steps that go on with what has begun, and lose nobody. -/
def Careful : SimpleThreadPool ρ → Action ρ → SimpleThreadPool ρ → Prop :=
  Guarded (stepOf SimpleThreadPool.step) fun s a => a.within = true ∧ ∀ wt, ¬ s.Loses wt a

theorem Careful.sound (h : Careful s a s') (hs : s.Sound) : s'.Sound := hs.step h.1

/-- A careful step loses nobody, and brings nobody back. -/
theorem Careful.lost_iff (h : Careful s a s') (hs : s.Sound) : s'.Lost wt ↔ s.Lost wt := by
  rw [hs.lost_iff h.1]
  exact or_iff_left (h.2.2 wt)

/-! ### The steps of a worker -/

/-- A step of a worker is careful. -/
theorem worker_careful {th : WorkerThread ρ} (hn : wt < s.created)
    (hth : (s.threads wt).advance = some th) : Careful s (.worker wt) (s.setThread wt th) := by
  have hnot : ¬ ((s.threads wt).place = .release ∧
      ((s.threads wt).runOnce || (s.threads wt).ran) = true) := by
    rintro ⟨hp, hr⟩
    simp [WorkerThread.advance, hp, hr] at hth
  refine ⟨?_, rfl, fun v => id⟩
  change s.worker wt = _
  unfold worker
  rw [if_pos hn, if_neg hnot, hth]
  rfl

theorem setThread_setThread (th th' : WorkerThread ρ) :
    (s.setThread wt th).setThread wt th' = s.setThread wt th' := by
  simp [setThread]

theorem setThread_self : s.setThread wt (s.threads wt) = s := by
  simp [setThread]

/-- A worker that is not doomed gets to the end of its turn for itself. -/
theorem Sound.reaches_release (hs : s.Sound) (hb : wt ∈ s.busyWorkers)
    (hd : ¬ (s.threads wt).Doomed) : Reaches Careful s fun t => ∃ th : WorkerThread ρ,
      t = s.setThread wt th ∧ t.Sound ∧ th.place = .release ∧ th.ran = true := by
  induction hk : (s.threads wt).toRelease using Nat.strongRecOn generalizing s with
  | ind k ih =>
      by_cases hend : (s.threads wt).place = .release ∧ (s.threads wt).ran = true
      · exact .here ⟨s.threads wt, setThread_self.symm, hs, hend⟩
      · have hlt := hs.lists.lt wt (hs.lists.listed wt (.inr hb))
        obtain ⟨th, hadv, hless⟩ := WorkerThread.can_advance (hs.threads.ok wt)
          (hs.threads.turn wt hb) hd hend
        have hcareful := worker_careful hlt hadv
        have hth : (s.setThread wt th).threads wt = th := setThread_threads_self
        have hn : ¬ th.Doomed := fun h =>
          hd (((WorkerThread.advance_advanced hadv).doomed_iff (hs.threads.ok wt)).mp h)
        refine .step hcareful ((ih th.toRelease (hk ▸ hless) (hcareful.sound hs) hb
          (by rwa [hth]) (by rw [hth])).mono ?_)
        rintro t ⟨th', rfl, hsound, hend⟩
        exact ⟨th', setThread_setThread th th', hsound, hend⟩

/-- With the lock free, a busy worker comes back that is not lost. -/
theorem Sound.reaches_back (hs : s.Sound) (hl : s.nextRunnableLock = none)
    (hb : wt ∈ s.busyWorkers) (hn : ¬ s.Lost wt) : Reaches Careful s fun t =>
      t.Sound ∧ t.nextRunnableLock = none ∧ t.busyWorkers = s.busyWorkers.erase wt ∧
        t.callers = s.callers ∧ t.handoffPending = s.handoffPending := by
  have hh : ¬ s.Handed wt := by
    rintro ⟨c, r, hc⟩
    have hlock := (hs.lock c).mpr (by rw [hc]; rfl)
    rw [hl] at hlock
    cases hlock
  have hd : ¬ (s.threads wt).Doomed := fun hd => hn ⟨hb, hd, hh⟩
  refine (hs.reaches_release hb hd).trans ?_
  rintro t ⟨th, rfl, hsound, hp, hran⟩
  have hlt := hs.lists.lt wt (hs.lists.listed wt (.inr hb))
  have hstep : (s.setThread wt th).worker wt = some ((s.setThread wt th).release wt) := by
    have hth : (s.setThread wt th).threads wt = th := setThread_threads_self
    unfold worker
    rw [if_pos (show wt < (s.setThread wt th).created from hlt), hth,
      if_pos ⟨hp, by rw [hran, Bool.or_true]⟩,
      if_pos (show (s.setThread wt th).nextRunnableLock = none from hl)]
  have hcareful : Careful (s.setThread wt th) (.worker wt) ((s.setThread wt th).release wt) :=
    ⟨hstep, rfl, fun v => id⟩
  exact .one hcareful ⟨hcareful.sound hsound, hl, rfl, rfl, rfl⟩

/-! ### The lock -/

/-- A hand-over is careful, except to a worker that clears. -/
theorem Sound.handOver_careful (hs : s.Sound) {r : ρ} (hc : s.callers c = .handOver wt r)
    (hp : (s.threads wt).place ≠ .clear) : Careful s (.goOn c false) (s.handOver c wt r) := by
  have hok := hs.caller c
  rw [hc] at hok
  have hlock : (s.threads wt).hasLock = false := by
    simpa [WorkerThread.hasLock] using hok.2.1.not_work (hs.threads.ok wt)
  refine ⟨?_, rfl, fun v hl => ?_⟩
  · change s.goOn c false = _
    simp [goOn, hc, hlock]
  · simp only [Loses, hc] at hl
    obtain ⟨rfl, hclear⟩ := hl
    exact hp hclear

/-- A hand-over gives the lock back, and moves one caller only. -/
theorem Sound.handOver_free (hs : s.Sound) {r : ρ} (hc : s.callers c = .handOver wt r) :
    (s.handOver c wt r).nextRunnableLock = none ∧
      (s.handOver c wt r).busyWorkers = s.busyWorkers ∧
        ∀ d ≠ c, (s.handOver c wt r).callers d = s.callers d := by
  rw [hs.handOver_eq hc]
  exact ⟨rfl, rfl, fun d hd => goTo_callers_ne hd⟩

/-- A runnable can be handed over without losing its worker. -/
theorem Sound.reaches_handedOver (hs : s.Sound) {r : ρ} (hc : s.callers c = .handOver wt r) :
    Reaches Careful s fun t => t.Sound ∧ t.nextRunnableLock = none ∧
      t.busyWorkers = s.busyWorkers ∧ ∀ d ≠ c, t.callers d = s.callers d := by
  by_cases hp : (s.threads wt).place = .clear
  · -- The worker is let through its `finally` first.
    have hok := hs.caller c
    rw [hc] at hok
    have hlt := hs.lists.lt wt (hs.lists.listed wt (.inr hok.1))
    have hadv : (s.threads wt).advance =
        some { s.threads wt with runnable := none, place := .release } := by
      simp [WorkerThread.advance, hp]
    have hclear := worker_careful hlt hadv
    have hs₁ := hclear.sound hs
    have hc₁ : (s.setThread wt
        { s.threads wt with runnable := none, place := .release }).callers c = .handOver wt r := hc
    have hgo := hs₁.handOver_careful hc₁ (by rw [setThread_threads_self]; simp)
    exact .step hclear (.one hgo ⟨hgo.sound hs₁, hs₁.handOver_free hc₁⟩)
  · have hgo := hs.handOver_careful hc hp
    exact .one hgo ⟨hgo.sound hs, hs.handOver_free hc⟩

/-- A turn of the first loop that loses nobody is careful. -/
theorem signal_careful {wts : List Nat} {wait : Bool} (hc : s.callers c = .signal wts wait)
    (hn : ∀ wt, ¬ s.Loses wt (.goOn c false)) :
    Careful s (.goOn c false) (s.signal c wts wait) := by
  refine ⟨?_, rfl, hn⟩
  change s.goOn c false = _
  simp [goOn, hc]

/-- The first loop of `shutdown` can go on without losing a worker. -/
theorem Sound.reaches_signalled (hs : s.Sound) {wts : List Nat} {wait : Bool}
    (hc : s.callers c = .signal (wt :: wts) wait) : Reaches Careful s fun t =>
      t.Sound ∧ t.callers = Function.update s.callers c (.signal wts wait) ∧
        t.busyWorkers = s.busyWorkers := by
  by_cases hl : s.Loses wt (.goOn c false)
  · -- The worker is let go to the end of its turn first.
    have hlose : (s.threads wt).runnable ≠ none ∧ (s.threads wt).ran = false ∧
        (s.threads wt).run = true ∧
          ((s.threads wt).place = .loop ∨ (s.threads wt).place = .release) := by
      simpa [Loses, hc] using hl
    obtain ⟨hrunnable, hran, hrun, hp⟩ := hlose
    have hd : ¬ (s.threads wt).Doomed := by
      rintro ⟨-, h | h | h | ⟨-, h⟩⟩
      · exact hrunnable h
      · rcases hp with hp | hp <;> rw [hp] at h <;> cases h
      · rcases hp with hp | hp <;> rw [hp] at h <;> cases h
      · rw [hrun] at h
        cases h
    refine (hs.reaches_release (hs.busy_of_runnable hrunnable).1 hd).trans ?_
    rintro t ⟨th, rfl, hsound, -, hend⟩
    have hc₁ : (s.setThread wt th).callers c = .signal (wt :: wts) wait := hc
    have hgo := signal_careful hc₁ fun v hl => by
      simp only [Loses, hc₁] at hl
      obtain ⟨rfl, -, hran, -⟩ := hl
      rw [setThread_threads_self, hend] at hran
      cases hran
    exact .one hgo ⟨hgo.sound hsound, rfl, rfl⟩
  · have hgo := signal_careful hc fun v hl' => by
      have hv : v = wt := by
        simp only [Loses, hc] at hl'
        exact hl'.1.symm
      exact hl (hv ▸ hl')
    exact .one hgo ⟨hgo.sound hs, rfl, rfl⟩

/-- After its first loop `shutdown` returns or waits, when a worker is busy. -/
theorem signal_nil_lock {wait : Bool} (hb : s.busyWorkers ≠ []) :
    (s.signal c [] wait).nextRunnableLock = none := by
  cases wait with
  | false => rfl
  | true =>
      simp only [SimpleThreadPool.signal, testHandoff, testBusy, List.isEmpty_iff, hb, if_false]
      split <;> rfl

theorem signal_nil_busy {wait : Bool} :
    (s.signal c [] wait).busyWorkers = s.busyWorkers := by
  cases wait with
  | false => rfl
  | true =>
      simp only [SimpleThreadPool.signal, testHandoff, testBusy]
      split
      · rfl
      · split <;> rfl

/-- With a worker busy, the lock can be had without losing a worker. -/
theorem Sound.reaches_lock (hs : s.Sound) (hb : s.busyWorkers ≠ []) :
    Reaches Careful s fun t =>
      t.Sound ∧ t.nextRunnableLock = none ∧ t.busyWorkers = s.busyWorkers := by
  cases hl : s.nextRunnableLock with
  | none => exact .here ⟨hs, hl, rfl⟩
  | some c =>
      have hholds := (hs.lock c).mp hl
      cases hc : s.callers c with
      | handOver wt r =>
          exact (hs.reaches_handedOver hc).mono fun t ht => ⟨ht.1, ht.2.1, ht.2.2.1⟩
      | signal wts wait =>
          clear hl hholds
          induction wts generalizing s with
          | nil =>
              have hgo := signal_careful hc fun v hl => by simp [Loses, hc] at hl
              exact .one hgo ⟨hgo.sound hs, signal_nil_lock hb, signal_nil_busy⟩
          | cons wt wts ih =>
              refine (hs.reaches_signalled hc).trans ?_
              rintro t ⟨ht, hct, hbt⟩
              refine (ih ht (hbt.symm ▸ hb) (by rw [hct, Function.update_self])).mono ?_
              rintro u ⟨hu, hlu, hbu⟩
              exact ⟨hu, hlu, hbu.trans hbt⟩
      | join wts => exact absurd (hs.joins hc).2.2.2 hb
      | out | awaitWorker | awaitAvailable | awaitHandoff | awaitBusy =>
          rw [hc] at hholds
          cases hholds

/-! ### Coming back -/

/-- A careful run loses nobody, and brings nobody back. -/
theorem careful_lost_iff (hs : s.Sound) (hrun : Run Careful s tr s') :
    s'.Sound ∧ (s'.Lost wt ↔ s.Lost wt) :=
  hrun.invariant (I := fun t => t.Sound ∧ (t.Lost wt ↔ s.Lost wt))
    (fun _ _ _ h ht => ⟨h.sound ht.1, (h.lost_iff ht.1).trans ht.2⟩) ⟨hs, Iff.rfl⟩

/-- A lost worker stays lost, whatever is done. -/
theorem lost_run (hs : s.Sound) (hrun : Run (stepOf SimpleThreadPool.step) s tr s')
    (hl : s.Lost wt) : s'.Lost wt :=
  (hrun.invariant (I := fun t => t.Sound ∧ t.Lost wt)
    (fun _ _ _ h ht => ⟨Sound.step h ht.1, (ht.1.lost_iff h).mpr (.inl ht.2)⟩) ⟨hs, hl⟩).2

/-- The worker is not busy, or it can come back. -/
def CanReturn (s : SimpleThreadPool ρ) (wt : Nat) : Prop :=
  Reaches (stepOf SimpleThreadPool.step) s fun t => wt ∉ t.busyWorkers

/-- A worker can return exactly if it is not lost. -/
theorem Sound.can_return_iff (hs : s.Sound) : s.CanReturn wt ↔ ¬ s.Lost wt := by
  constructor
  · rintro ⟨tr, t, hrun, ht⟩ hl
    exact ht (lost_run hs hrun hl).busy
  · intro hn
    by_cases hb : wt ∈ s.busyWorkers
    · have hne : s.busyWorkers ≠ [] := List.ne_nil_of_mem hb
      obtain ⟨tr, t, hrun, ht, hlt, hbt⟩ := hs.reaches_lock hne
      have hnt : ¬ t.Lost wt := fun h => hn ((careful_lost_iff hs hrun).2.mp h)
      have hback := ht.reaches_back hlt (hbt.symm ▸ hb) hnt
      refine Reaches.of_guarded (.trans ⟨tr, t, hrun, rfl⟩ fun u hu => hu ▸ hback.mono ?_)
      rintro v ⟨hv, -, hbv, -⟩
      rw [hbv]
      exact ht.lists.busy_nodup.not_mem_erase
    · exact .here hb

/-- In a run from a pool just made, every worker can come back from every state of the run exactly
if no step of it loses a worker. -/
theorem can_return_run {cfg : PoolConfig} (h : initialized cfg = .ok s)
    (hrun : Run (stepOf SimpleThreadPool.step) s tr s') :
    ((∀ p ∈ tr, ∀ wt, p.1.CanReturn wt) ∧ ∀ wt, s'.CanReturn wt) ↔
      ∀ p ∈ tr, ∀ wt, ¬ p.1.Loses wt p.2 := by
  have hstart : ∀ wt, s.CanReturn wt := by
    intro wt
    obtain ⟨rfl, -⟩ := initialized_inv h
    exact .here List.not_mem_nil
  refine hrun.always_iff (P := fun s => ∀ wt, s.CanReturn wt)
    (G := fun s a => ∀ wt, ¬ s.Loses wt a) (fun _ _ _ h => Sound.step h) ?_ (initialized_sound h)
    hstart
  intro s a s' hstep hs hcan
  have hs' : s'.Sound := hs.step hstep
  refine forall_congr' fun wt => ?_
  rw [hs'.can_return_iff, hs.lost_iff hstep]
  have hn := hs.can_return_iff.mp (hcan wt)
  exact not_congr (or_iff_right hn)

/-- The worker is handed a second runnable and told to stop before it is at the test of its loop. -/
def shutTooEarly : List (Action Nat) :=
  usedOnce ++ [.runInThread 0 (some 8), .goOn 0 false, .shutdown 1 true, .goOn 1 false]

/-- The worker is lost, and the caller has told it to stop. -/
theorem exec_shutTooEarly : ∃ s, exec SimpleThreadPool.step sample shutTooEarly = some s ∧
    s.callers 1 = .signal [] true ∧ s.Lost 0 := by
  obtain ⟨s, hs⟩ : ∃ s, exec SimpleThreadPool.step sample shutTooEarly = some s := ⟨_, rfl⟩
  have hsound := sound_run initialized_sample (Run.of_exec hs)
  have hstate : s.callers 1 = .signal [] true ∧ s.busyWorkers = [0] ∧
      (s.threads 0).ran = false ∧ (s.threads 0).place = .loop ∧ (s.threads 0).run = false := by
    cases hs
    exact ⟨rfl, rfl, rfl, rfl, rfl⟩
  obtain ⟨hc, hb, hran, hp, hrun⟩ := hstate
  refine ⟨s, hs, hc, hb ▸ List.mem_cons_self, ⟨hran, .inr (.inr (.inr ⟨.inl hp, hrun⟩))⟩, ?_⟩
  exact (hsound.free_of_holds (c := 1) (by rw [hc]; rfl)).not_handed (by simp [hc])

/-- One of the steps of that run loses the worker. -/
theorem can_return_run_sample : ∃ tr s, Run (stepOf SimpleThreadPool.step) sample tr s ∧
    s.Lost 0 ∧ ¬ ∀ p ∈ tr, ∀ wt, ¬ p.1.Loses wt p.2 := by
  obtain ⟨s, hs, -, hl⟩ := exec_shutTooEarly
  refine ⟨_, s, Run.of_exec hs, hl, fun hall => ?_⟩
  have hcan := ((can_return_run initialized_sample (Run.of_exec hs)).mpr hall).2 0
  exact (sound_run initialized_sample (Run.of_exec hs)).can_return_iff.mp hcan hl

end MRF.Pool.SimpleThreadPool
