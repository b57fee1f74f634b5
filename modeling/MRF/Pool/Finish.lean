import MRF.Pool.Stopping

/-!
# Pool — Finish

Whether a `shutdown(true)` returns.

`can_shut_down_iff`: in every state that a run reaches while a `shutdown(true)` is under way, it can
come to its end exactly if no worker is lost.  The steps that bring it there let a worker go to the
end of its turn before it is told to stop, and lose nobody.
-/

namespace MRF.Pool
open MRF.Library

variable {ρ : Type*}

/-- The caller is in a `shutdown(true)`. -/
def Caller.shutsDown : Caller ρ → Bool
  | .signal _ wait => wait
  | .awaitHandoff => true
  | .awaitBusy => true
  | .join _ => true
  | _ => false

namespace SimpleThreadPool

variable {s s' t : SimpleThreadPool ρ} {a : Action ρ} {c wt : Nat} {p : Caller ρ}
  {tr : List (SimpleThreadPool ρ × Action ρ)}

/-- A state that a run reaches, with no worker lost. -/
structure Fit (s : SimpleThreadPool ρ) : Prop where
  sound : s.Sound
  stopping : s.Stopping
  kept : ∀ wt, ¬ s.Lost wt

theorem Fit.step (h : Careful s a s') (hf : s.Fit) : s'.Fit where
  sound := h.sound hf.sound
  stopping := hf.stopping.step h.1 hf.sound
  kept wt hl := hf.kept wt ((h.lost_iff hf.sound).mp hl)

/-- What careful steps reach from a fit state is fit. -/
theorem Fit.reaches {P : SimpleThreadPool ρ → Prop} (hf : s.Fit) (hr : Reaches Careful s P) :
    Reaches Careful s fun t => t.Fit ∧ P t :=
  hr.invariant (fun _ _ _ => Fit.step) hf

/-! ### The last loop -/

/-- An idle worker that has been told to stop can end. -/
theorem Sound.reaches_ended (hs : s.Sound) (hlt : wt < s.created) (hi : (s.threads wt).Idle)
    (hrun : (s.threads wt).run = false) : Reaches Careful s fun t => ∃ th : WorkerThread ρ,
      t = s.setThread wt th ∧ th.place = .ended := by
  induction hk : (s.threads wt).toEnd using Nat.strongRecOn generalizing s with
  | ind k ih =>
      by_cases hend : (s.threads wt).place = .ended
      · exact .here ⟨s.threads wt, setThread_self.symm, hend⟩
      · obtain ⟨th, hadv, hless⟩ := hi.can_end (hs.threads.ok wt) hrun hend
        have hcareful := worker_careful hlt hadv
        have hadvanced := WorkerThread.advance_advanced hadv
        have hth : (s.setThread wt th).threads wt = th := setThread_threads_self
        refine .step hcareful ((ih th.toEnd (hk ▸ hless) (hcareful.sound hs) hlt
          (by rw [hth]; exact hi.advanced (hs.threads.ok wt) hadvanced)
          (by rw [hth, hadvanced.run_eq, hrun]) (by rw [hth])).mono ?_)
        rintro t ⟨th', rfl, hend⟩
        exact ⟨th', setThread_setThread th th', hend⟩

/-- To join a thread that has ended is careful. -/
theorem join_careful {wts : List Nat} (hc : s.callers c = .join (wt :: wts))
    (he : (s.threads wt).place = .ended) : Careful s (.goOn c false)
      ({ s with workers := s.workers.erase wt }.goTo c (.join wts)) := by
  refine ⟨?_, rfl, fun v hl => by simp [Loses, hc] at hl⟩
  change s.goOn c false = _
  simp [goOn, hc, join, he]

/-- The last loop of `shutdown` can come to its end. -/
theorem Fit.reaches_joined (hf : s.Fit) {wts : List Nat} (hc : s.callers c = .join wts) :
    Reaches Careful s fun t => t.callers = Function.update s.callers c (.join []) := by
  induction wts generalizing s with
  | nil => exact .here (by rw [← hc, Function.update_eq_self])
  | cons wt wts ih =>
      obtain ⟨-, -, -, hb⟩ := hf.sound.joins hc
      have hstops := hf.stopping.stopped c
      rw [hc] at hstops
      obtain ⟨hlt, htold⟩ := hstops wt List.mem_cons_self
      have hrun : (s.threads wt).run = false := by
        refine htold.resolve_right fun h => ?_
        rw [hb] at h
        cases h.1
      have hidle := hf.sound.threads.idle wt (by rw [hb]; exact List.not_mem_nil)
      refine (hf.reaches (hf.sound.reaches_ended hlt hidle hrun)).trans ?_
      rintro t ⟨ht, th, rfl, hend⟩
      have hc₁ : (s.setThread wt th).callers c = .join (wt :: wts) := hc
      have hgo := join_careful hc₁ (by rw [setThread_threads_self]; exact hend)
      refine .step hgo ((ih (ht.step hgo) goTo_callers_self).mono ?_)
      intro u hu
      rw [hu]
      exact Function.update_idem _ _ _

theorem joinedAll_careful (hc : s.callers c = .join []) :
    Careful s (.goOn c false) (s.goTo c (.out .shutdown)) := by
  refine ⟨?_, rfl, fun v hl => by simp [Loses, hc] at hl⟩
  change s.goOn c false = _
  simp [goOn, hc, join]

/-! ### The lock, and the busy workers -/

/-- The first loop of `shutdown` can come to its end. -/
theorem Fit.reaches_all_signalled (hf : s.Fit) {wts : List Nat} {wait : Bool}
    (hc : s.callers c = .signal wts wait) :
    Reaches Careful s fun t => t.callers = Function.update s.callers c (.signal [] wait) := by
  induction wts generalizing s with
  | nil => exact .here (by rw [← hc, Function.update_eq_self])
  | cons wt wts ih =>
      refine (hf.reaches (hf.sound.reaches_signalled hc)).trans ?_
      rintro t ⟨ht, -, hct, -⟩
      refine (ih ht (by rw [hct, Function.update_self])).mono ?_
      intro u hu
      rw [hu, hct]
      exact Function.update_idem _ _ _

/-- After its first loop a `shutdown` has returned, waits without the lock, or joins. -/
theorem signal_nil_cases (s : SimpleThreadPool ρ) (c : Nat) (wait : Bool) :
    ∃ p, s.signal c [] wait = s.goTo c p ∧ (wait = true → p.shutsDown = true) ∧
      (p.holds = false ∨ ∃ wts, p = .join wts) := by
  cases wait with
  | false => exact ⟨_, rfl, (fun h => by cases h), .inl rfl⟩
  | true =>
      simp only [SimpleThreadPool.signal, testHandoff, testBusy]
      split
      · exact ⟨_, rfl, fun _ => rfl, .inl rfl⟩
      · split
        · exact ⟨_, rfl, fun _ => rfl, .inr ⟨_, rfl⟩⟩
        · exact ⟨_, rfl, fun _ => rfl, .inl rfl⟩

/-- Whoever has the lock can give it back. -/
theorem Fit.reaches_free (hf : s.Fit) (hholds : (s.callers c).holds = true) :
    Reaches Careful s fun t => t.nextRunnableLock = none ∧ ∀ d ≠ c, t.callers d = s.callers d := by
  have hjoined {s : SimpleThreadPool ρ} (hf : s.Fit) {wts : List Nat}
      (hc : s.callers c = .join wts) : Reaches Careful s fun t =>
        t.nextRunnableLock = none ∧ ∀ d ≠ c, t.callers d = s.callers d := by
    refine (hf.reaches_joined hc).trans fun t hct => ?_
    refine .one (joinedAll_careful (c := c) (by rw [hct, Function.update_self]))
      ⟨rfl, fun d hd => ?_⟩
    rw [goTo_callers_ne hd, hct, Function.update_of_ne hd]
  cases hc : s.callers c with
  | handOver wt r =>
      exact (hf.sound.reaches_handedOver hc).mono fun t ht => ⟨ht.2.1, ht.2.2.2⟩
  | signal wts wait =>
      refine (hf.reaches (hf.reaches_all_signalled hc)).trans ?_
      rintro t ⟨ht, hct⟩
      have hct' : t.callers c = .signal [] wait := by rw [hct, Function.update_self]
      have hgo := signal_careful hct' fun v hl => by simp [Loses, hct'] at hl
      have hothers : ∀ d ≠ c, t.callers d = s.callers d := fun d hd => by
        rw [hct, Function.update_of_ne hd]
      obtain ⟨p, hp, -, hfree | ⟨wts, rfl⟩⟩ := signal_nil_cases t c wait
      · refine .one hgo ⟨by rw [hp]; simp [SimpleThreadPool.goTo, hfree], fun d hd => ?_⟩
        rw [hp, goTo_callers_ne hd, hothers d hd]
      · refine .step hgo ((hjoined (ht.step hgo) (by rw [hp, goTo_callers_self])).mono ?_)
        rintro u ⟨hlu, hcu⟩
        refine ⟨hlu, fun d hd => ?_⟩
        rw [hcu d hd, hp, goTo_callers_ne hd, hothers d hd]
  | join wts => exact hjoined hf hc
  | out | awaitWorker | awaitAvailable | awaitHandoff | awaitBusy =>
      rw [hc] at hholds
      cases hholds

/-- With the lock free, all busy workers can come back. -/
theorem Fit.reaches_quiet (hf : s.Fit) (hl : s.nextRunnableLock = none) :
    Reaches Careful s fun t => t.nextRunnableLock = none ∧ t.busyWorkers = [] ∧
      t.callers = s.callers ∧ t.handoffPending = s.handoffPending := by
  induction hb : s.busyWorkers generalizing s with
  | nil => exact .here ⟨hl, hb, rfl, rfl⟩
  | cons wt busy ih =>
      have hmem : wt ∈ s.busyWorkers := hb ▸ List.mem_cons_self
      refine (hf.reaches (hf.sound.reaches_back hl hmem (hf.kept wt))).trans ?_
      rintro t ⟨ht, -, hlt, hbt, hct, hpt⟩
      refine (ih ht hlt (by rw [hbt, hb, List.erase_cons_head])).mono ?_
      rintro u ⟨hlu, hbu, hcu, hpu⟩
      exact ⟨hlu, hbu, hcu.trans hct, hpu.trans hpt⟩

/-! ### `shutdown(true)` -/

/-- The steps of a caller that wakes lose nobody. -/
theorem wake_careful (h : s.wake c = some s') : Careful s (.wake c) s' :=
  ⟨h, rfl, fun _ => id⟩

/-- The last loop can go through all its workers. -/
theorem Fit.reaches_end_of_join (hf : s.Fit) {wts : List Nat} (hc : s.callers c = .join wts) :
    Reaches Careful s fun t => t.callers c = .join [] :=
  (hf.reaches_joined hc).mono fun t ht => by rw [ht, Function.update_self]

/-- From the wait on `busyWorkers`. -/
theorem Fit.reaches_end_of_busy (hf : s.Fit) (hl : s.nextRunnableLock = none)
    (hc : s.callers c = .awaitBusy) : Reaches Careful s fun t => t.callers c = .join [] := by
  refine (hf.reaches (hf.reaches_quiet hl)).trans ?_
  rintro t ⟨ht, hlt, hbt, hct, -⟩
  have hwake : t.wake c = some (t.goTo c (.join t.workers)) := by
    have hc' : t.callers c = .awaitBusy := by rw [hct, hc]
    simp [wake, hlt, hc', testBusy, hbt]
  have hcareful := wake_careful hwake
  exact .step hcareful ((ht.step hcareful).reaches_end_of_join goTo_callers_self)

/-- From the wait on `handoffPending`, when nothing is pending. -/
theorem Fit.reaches_end_of_handedOff (hf : s.Fit) (hl : s.nextRunnableLock = none)
    (hc : s.callers c = .awaitHandoff) (hp : s.handoffPending = false) :
    Reaches Careful s fun t => t.callers c = .join [] := by
  by_cases hb : s.busyWorkers = []
  · have hwake : s.wake c = some (s.goTo c (.join s.workers)) := by
      simp [wake, hl, hc, testHandoff, testBusy, hb, hp]
    have hcareful := wake_careful hwake
    exact .step hcareful ((hf.step hcareful).reaches_end_of_join goTo_callers_self)
  · have hwake : s.wake c = some (s.goTo c .awaitBusy) := by
      simp [wake, hl, hc, testHandoff, testBusy, hb, hp]
    have hcareful := wake_careful hwake
    exact .step hcareful ((hf.step hcareful).reaches_end_of_busy rfl goTo_callers_self)

/-- From the wait on `handoffPending`: the caller whose hand-off is pending makes it. -/
theorem Fit.reaches_end_of_handoff (hf : s.Fit) (hl : s.nextRunnableLock = none)
    (hc : s.callers c = .awaitHandoff) : Reaches Careful s fun t => t.callers c = .join [] := by
  cases hp : s.handoffPending with
  | false => exact hf.reaches_end_of_handedOff hl hc hp
  | true =>
      obtain ⟨d, hd⟩ := hf.stopping.pending hp
      have hsd : s.isShutdown = true := by
        have hok := hf.sound.caller c
        rwa [hc] at hok
      cases hcd : s.callers d with
      | awaitWorker r =>
          have hwake : s.wake d = some (s.lastJob d r) := by
            simp [wake, hl, hcd, findWorker, hsd]
          have hcareful := wake_careful hwake
          have hdc : c ≠ d := by
            rintro rfl
            rw [hc] at hcd
            cases hcd
          have hc' : (s.lastJob d r).callers c = .awaitHandoff :=
            (goTo_callers_ne hdc).trans hc
          exact .step hcareful ((hf.step hcareful).reaches_end_of_handedOff rfl hc' rfl)
      | handOver wt r =>
          have hlock := (hf.sound.lock d).mpr (by rw [hcd]; rfl)
          rw [hl] at hlock
          cases hlock
      | out | awaitAvailable | signal | awaitHandoff | awaitBusy | join =>
          rw [hcd] at hd
          cases hd

/-- With no worker lost, a `shutdown(true)` that is under way can come to its end. -/
theorem Fit.reaches_end (hf : s.Fit) (hc : (s.callers c).shutsDown = true) :
    Reaches Careful s fun t => t.callers c = .join [] := by
  have hwaits {s : SimpleThreadPool ρ} (hf : s.Fit) (hl : s.nextRunnableLock = none)
      (hc : (s.callers c).shutsDown = true) :
      Reaches Careful s fun t => t.callers c = .join [] := by
    cases hp : s.callers c with
    | awaitHandoff => exact hf.reaches_end_of_handoff hl hp
    | awaitBusy => exact hf.reaches_end_of_busy hl hp
    | signal | join =>
        have hlock := (hf.sound.lock c).mpr (by rw [hp]; rfl)
        rw [hl] at hlock
        cases hlock
    | out | awaitWorker | handOver | awaitAvailable =>
        rw [hp] at hc
        cases hc
  cases hl : s.nextRunnableLock with
  | none => exact hwaits hf hl hc
  | some d =>
      by_cases hdc : d = c
      · subst hdc
        have hholds := (hf.sound.lock d).mp hl
        cases hp : s.callers d with
        | signal wts wait =>
            have hwait : wait = true := by
              rw [hp] at hc
              exact hc
            subst hwait
            refine (hf.reaches (hf.reaches_all_signalled hp)).trans ?_
            rintro t ⟨ht, hct⟩
            have hct' : t.callers d = .signal [] true := by rw [hct, Function.update_self]
            have hgo := signal_careful hct' fun v hl => by simp [Loses, hct'] at hl
            obtain ⟨p, hp, hshuts, hfree⟩ := signal_nil_cases t d true
            have hgoes := ht.step hgo
            rw [hp] at hgo hgoes
            refine .step hgo ?_
            rcases hfree with hfree | ⟨wts, rfl⟩
            · refine hwaits hgoes (by simp [SimpleThreadPool.goTo, hfree]) ?_
              rw [goTo_callers_self]
              exact hshuts rfl
            · exact hgoes.reaches_end_of_join goTo_callers_self
        | join wts => exact hf.reaches_end_of_join hp
        | awaitHandoff | awaitBusy =>
            rw [hp] at hholds
            cases hholds
        | out | awaitWorker | handOver | awaitAvailable =>
            rw [hp] at hc
            cases hc
      · -- Another caller has the lock.
        refine (hf.reaches (hf.reaches_free ((hf.sound.lock d).mp hl))).trans ?_
        rintro t ⟨ht, hlt, hct⟩
        exact hwaits ht hlt (by rw [hct c (Ne.symm hdc)]; exact hc)

/-- In every state that a run reaches while a `shutdown(true)` is under way, the shutdown can come
to its end exactly if no worker is lost. -/
theorem can_shut_down_iff {cfg : PoolConfig} (h : initialized cfg = .ok s)
    (hrun : Run (stepOf SimpleThreadPool.step) s tr s') (hc : (s'.callers c).shutsDown = true) :
    Reaches (stepOf SimpleThreadPool.step) s' (fun t => t.callers c = .join []) ↔
      ∀ wt, ¬ s'.Lost wt := by
  have hboth := hrun.invariant (I := fun s => s.Sound ∧ s.Stopping)
    (fun _ _ _ hstep hs => ⟨Sound.step hstep hs.1, hs.2.step hstep hs.1⟩)
    ⟨initialized_sound h, initialized_stopping h⟩
  constructor
  · rintro ⟨tr', t, hrun', hct⟩ wt hl
    have ht := hrun'.invariant (fun _ _ _ h => Sound.step h) hboth.1
    have hbusy := (lost_run hboth.1 hrun' hl).busy
    rw [(ht.joins hct).2.2.2] at hbusy
    cases hbusy
  · exact fun hn => (Fit.reaches_end ⟨hboth.1, hboth.2, hn⟩ hc).of_guarded

/-- The lost worker keeps the caller in its `shutdown` for ever. -/
theorem can_shut_down_iff_sample : ∃ tr s, Run (stepOf SimpleThreadPool.step) sample tr s ∧
    (s.callers 1).shutsDown = true ∧
      ¬ Reaches (stepOf SimpleThreadPool.step) s fun t => t.callers 1 = .join [] := by
  obtain ⟨s, hs, hc, hl⟩ := exec_shutTooEarly
  have hshuts : (s.callers 1).shutsDown = true := by rw [hc]; rfl
  refine ⟨_, s, Run.of_exec hs, hshuts, fun hreach => ?_⟩
  exact (can_shut_down_iff initialized_sample (Run.of_exec hs) hshuts).mp hreach 0 hl

end SimpleThreadPool

end MRF.Pool
