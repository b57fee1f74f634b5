import MRF.Pool.Account

/-!
# Pool — Lost

A worker is lost when it is busy, is not being handed anything, and will not come to run a
runnable: it stays in `busyWorkers` for good, and what it has been handed is never run.

* `Lost.step`: a lost worker stays lost.
* `Sound.lost_iff`: a step loses a worker exactly when it is one of three (`Loses`): `shutdown`
  tells a worker to stop that has been handed a runnable and has yet to test `run` in its loop; an
  interrupt comes out of a wait of a worker that has been handed a runnable meanwhile; a runnable is
  handed to a worker that such an interrupt has brought to its `finally`.
-/

namespace MRF.Pool.SimpleThreadPool
open MRF.Library

variable {ρ : Type*} {s s' t : SimpleThreadPool ρ} {a : Action ρ} {c wt : Nat} {p : Caller ρ}

/-- A caller is about to give the worker a runnable. -/
def Handed (s : SimpleThreadPool ρ) (wt : Nat) : Prop := ∃ c r, s.callers c = .handOver wt r

/-- The worker is busy, and never comes back to the pool. -/
structure Lost (s : SimpleThreadPool ρ) (wt : Nat) : Prop where
  busy : wt ∈ s.busyWorkers
  doomed : (s.threads wt).Doomed
  notHanded : ¬ s.Handed wt

/-- The steps that lose a worker. -/
def Loses (s : SimpleThreadPool ρ) (wt : Nat) : Action ρ → Prop
  | .goOn c _ =>
      match s.callers c with
      | .signal (v :: _) _ =>
          v = wt ∧ (s.threads wt).runnable ≠ none ∧ (s.threads wt).ran = false ∧
            (s.threads wt).run = true ∧
              ((s.threads wt).place = .loop ∨ (s.threads wt).place = .release)
      | .handOver v _ => v = wt ∧ (s.threads wt).place = .clear
      | _ => False
  | .interrupt v => v = wt ∧ (s.threads wt).runnable ≠ none
  | _ => False

/-! ### Frames -/

/-- What the worker has, and what is known of it, is as it was. -/
theorem lost_congr (hb : wt ∈ t.busyWorkers ↔ wt ∈ s.busyWorkers)
    (hth : t.threads wt = s.threads wt) (hh : t.Handed wt ↔ s.Handed wt) :
    t.Lost wt ↔ s.Lost wt := by
  constructor
  · rintro ⟨hbusy, hd, hn⟩
    exact ⟨hb.mp hbusy, hth ▸ hd, fun h => hn (hh.mpr h)⟩
  · rintro ⟨hbusy, hd, hn⟩
    exact ⟨hb.mpr hbusy, hth.symm ▸ hd, fun h => hn (hh.mp h)⟩

/-- One caller moves that has nothing for the worker, before or after. -/
theorem handed_update_iff (hcallers : t.callers = Function.update s.callers c p)
    (hc : ∀ r, s.callers c ≠ .handOver wt r) (hp : ∀ r, p ≠ .handOver wt r) :
    t.Handed wt ↔ s.Handed wt := by
  unfold Handed
  rw [hcallers]
  constructor
  · rintro ⟨d, r, hd⟩
    by_cases hdc : d = c
    · subst hdc
      rw [Function.update_self] at hd
      exact absurd hd (hp r)
    · rw [Function.update_of_ne hdc] at hd
      exact ⟨d, r, hd⟩
  · rintro ⟨d, r, hd⟩
    have hdc : d ≠ c := by
      rintro rfl
      exact hc r hd
    exact ⟨d, r, by rw [Function.update_of_ne hdc]; exact hd⟩

/-- A caller that has the lock is the only one with something to hand over. -/
theorem Free.not_handed (hfree : s.Free c) (hc : ∀ r, s.callers c ≠ .handOver wt r) :
    ¬ s.Handed wt := by
  rintro ⟨d, r, hd⟩
  by_cases hdc : d = c
  · exact hc r (hdc ▸ hd)
  · have hn := hfree d hdc
    rw [hd] at hn
    cases hn

/-- A worker that has a runnable is busy, and is handed no other. -/
theorem Sound.busy_of_runnable (hs : s.Sound) (hn : (s.threads wt).runnable ≠ none) :
    wt ∈ s.busyWorkers ∧ ¬ s.Handed wt := by
  constructor
  · by_contra hb
    exact hn (hs.threads.idle wt hb).runnable
  · rintro ⟨c, r, hc⟩
    have hok := hs.caller c
    rw [hc] at hok
    exact hn hok.2.1.runnable

/-! ### What loses a worker -/

theorem Sound.lastJob_lost_iff (hs : s.Sound) (hc : ∀ r, s.callers c ≠ .handOver wt r) (r : ρ) :
    (s.lastJob c r).Lost wt ↔ s.Lost wt := by
  by_cases hwt : wt = s.created
  · -- The new worker was not there, and has its runnable.
    subst hwt
    constructor
    · rintro ⟨-, ⟨-, hd⟩, -⟩
      rw [show (s.lastJob c r).threads s.created = .initial (some r) from
        Function.update_self _ _ _] at hd
      rcases hd with h | h | h | ⟨-, h⟩ <;> cases h
    · rintro ⟨hbusy, -, -⟩
      exact absurd (hs.lists.lt _ (hs.lists.listed _ (.inr hbusy))) (Nat.lt_irrefl _)
  · refine lost_congr ?_ (Function.update_of_ne hwt _ _) (handed_update_iff rfl hc (by simp))
    change wt ∈ s.busyWorkers ++ [s.created] ↔ _
    simp [hwt]

theorem Sound.findWorker_lost_iff (hs : s.Sound) (hl : s.nextRunnableLock = none) (r : ρ) :
    (s.findWorker c r).Lost wt ↔ s.Lost wt := by
  have hc : ∀ r, s.callers c ≠ .handOver wt r := by
    intro r hc
    have hlock := (hs.lock c).mpr (by rw [hc]; rfl)
    rw [hl] at hlock
    cases hlock
  unfold SimpleThreadPool.findWorker
  split
  · exact hs.lastJob_lost_iff hc r
  · split
    · exact lost_congr Iff.rfl rfl (handed_update_iff rfl hc (by simp))
    · next v avail ha =>
        by_cases hv : v = wt
        · subst hv
          -- The worker was not busy, and is being handed its runnable.
          constructor
          · rintro ⟨-, -, hn⟩
            exact absurd ⟨c, r, goTo_callers_self⟩ hn
          · rintro ⟨hbusy, -, -⟩
            exact absurd hbusy (hs.lists.disjoint v (ha ▸ List.mem_cons_self))
        · refine lost_congr ?_ rfl (handed_update_iff rfl hc (by simp [hv]))
          change wt ∈ s.busyWorkers ++ [v] ↔ _
          simp [Ne.symm hv]

/-- A caller that has no worker in its hands loses none. -/
theorem goTo_lost_iff (hc : ∀ r, s.callers c ≠ .handOver wt r) (hp : ∀ r, p ≠ .handOver wt r) :
    (s.goTo c p).Lost wt ↔ s.Lost wt :=
  lost_congr Iff.rfl rfl (handed_update_iff rfl hc hp)

theorem blockForAvailableThreads_lost_iff (hc : ∀ r, s.callers c ≠ .handOver wt r) :
    (s.blockForAvailableThreads c).Lost wt ↔ s.Lost wt := by
  unfold blockForAvailableThreads
  split <;> exact goTo_lost_iff hc (by simp)

theorem testBusy_lost_iff (hc : ∀ r, s.callers c ≠ .handOver wt r) :
    (s.testBusy c).Lost wt ↔ s.Lost wt := by
  unfold testBusy
  split <;> exact goTo_lost_iff hc (by simp)

theorem testHandoff_lost_iff (hc : ∀ r, s.callers c ≠ .handOver wt r) :
    (s.testHandoff c).Lost wt ↔ s.Lost wt := by
  unfold testHandoff
  split
  · exact goTo_lost_iff hc (by simp)
  · exact testBusy_lost_iff hc

/-- A hand-over loses its worker if that is about to clear its runnable. -/
theorem Sound.handOver_lost_iff (hs : s.Sound) {v : Nat} {r : ρ}
    (hc : s.callers c = .handOver v r) :
    (s.handOver c v r).Lost wt ↔ s.Lost wt ∨ v = wt ∧ (s.threads wt).place = .clear := by
  have hok := hs.caller c
  rw [hc] at hok
  obtain ⟨hbusy, hidle, hrun⟩ := hok
  have hfree := hs.free_of_holds (c := c) (by rw [hc]; rfl)
  have heq := hs.handOver_eq hc
  have hth : (s.handOver c v r).threads = Function.update s.threads v ((s.threads v).given r) := by
    rw [heq]; rfl
  have hcallers : (s.handOver c v r).callers =
      Function.update s.callers c (.out (.runInThread true)) := by
    rw [heq]; rfl
  have hb : (s.handOver c v r).busyWorkers = s.busyWorkers := by rw [heq]; rfl
  by_cases hv : v = wt
  · subst hv
    have hdoomed := hidle.given_doomed_iff (hs.threads.ok v) hrun r
    constructor
    · rintro ⟨-, hd, -⟩
      rw [hth, Function.update_self] at hd
      exact .inr ⟨rfl, hdoomed.mp hd⟩
    · rintro (⟨-, -, hn⟩ | ⟨-, hp⟩)
      · exact absurd ⟨c, r, hc⟩ hn
      · refine ⟨hb ▸ hbusy, ?_, ?_⟩
        · rw [hth, Function.update_self]
          exact hdoomed.mpr hp
        · -- Nobody else has the lock.
          rintro ⟨d, r', hd⟩
          rw [hcallers] at hd
          by_cases hdc : d = c
          · rw [hdc, Function.update_self] at hd
            cases hd
          · have hn := hfree d hdc
            rw [Function.update_of_ne hdc] at hd
            rw [hd] at hn
            cases hn
  · have hother : ∀ r, s.callers c ≠ .handOver wt r := by
      intro r' hc'
      rw [hc] at hc'
      cases hc'
      exact hv rfl
    have hne : wt ≠ v := fun h => hv h.symm
    rw [lost_congr (s := s) (by rw [hb]) (by rw [hth, Function.update_of_ne hne])
      (handed_update_iff hcallers hother (by simp))]
    simp [hv]

/-- A turn of the first loop loses the worker that it tells too early. -/
theorem Sound.signal_lost_iff (hs : s.Sound) {wts : List Nat} {wait : Bool} (i : Bool)
    (hc : s.callers c = .signal wts wait) :
    (s.signal c wts wait).Lost wt ↔ s.Lost wt ∨ s.Loses wt (.goOn c i) := by
  have hnot : ∀ r, s.callers c ≠ .handOver wt r := by simp [hc]
  unfold SimpleThreadPool.signal
  split
  · next v wts =>
      have hfree := hs.free_of_holds (c := c) (by rw [hc]; rfl)
      by_cases hv : v = wt
      · subst hv
        have hh : ¬ s.Handed v := hfree.not_handed hnot
        have hth : ({ s with
            threads := Function.update s.threads v (s.threads v).shutdown
            availWorkers := s.availWorkers.erase v }.goTo c (.signal wts wait)).threads v =
            (s.threads v).shutdown := Function.update_self _ _ _
        constructor
        · rintro ⟨hb, hd, -⟩
          rw [hth, WorkerThread.shutdown_doomed_iff] at hd
          rcases hd with hd | hd
          · exact .inl ⟨hb, hd, hh⟩
          · exact .inr (by simpa [Loses, hc] using hd)
        · intro h
          have hh' : ¬ ({ s with
              threads := Function.update s.threads v (s.threads v).shutdown
              availWorkers := s.availWorkers.erase v }.goTo c (.signal wts wait)).Handed v :=
            fun h => hh ((handed_update_iff rfl hnot (by simp)).mp h)
          rcases h with ⟨hb, hd, -⟩ | h
          · exact ⟨hb, hth.symm ▸ WorkerThread.shutdown_doomed_iff.mpr (.inl hd), hh'⟩
          · have hd : (s.threads v).runnable ≠ none ∧ (s.threads v).ran = false ∧
                (s.threads v).run = true ∧
                  ((s.threads v).place = .loop ∨ (s.threads v).place = .release) := by
              simpa [Loses, hc] using h
            exact ⟨(hs.busy_of_runnable hd.1).1,
              hth.symm ▸ WorkerThread.shutdown_doomed_iff.mpr (.inr hd), hh'⟩
      · have hne : wt ≠ v := fun h => hv h.symm
        refine Iff.trans (lost_congr (s := s) Iff.rfl (Function.update_of_ne hne _ _)
          (handed_update_iff rfl hnot (by simp))) ?_
        simp [Loses, hc, hv]
  · rw [goTo_lost_iff hnot (by simp)]
    simp [Loses, hc]
  · rw [testHandoff_lost_iff hnot]
    simp [Loses, hc]

/-! ### Steps of the workers -/

/-- A change that neither dooms a worker nor saves it loses nobody. -/
theorem setThread_lost_iff {v : Nat} {th : WorkerThread ρ} (hd : th.Doomed ↔ (s.threads v).Doomed) :
    (s.setThread v th).Lost wt ↔ s.Lost wt := by
  by_cases hv : wt = v
  · subst hv
    constructor
    · rintro ⟨hb, h, hn⟩
      rw [setThread_threads_self] at h
      exact ⟨hb, hd.mp h, hn⟩
    · rintro ⟨hb, h, hn⟩
      exact ⟨hb, setThread_threads_self.symm ▸ hd.mpr h, hn⟩
  · exact lost_congr Iff.rfl (setThread_threads_ne hv) Iff.rfl

/-- An interrupt loses a worker that has been handed a runnable. -/
theorem Sound.interrupt_lost_iff (hs : s.Sound) {v : Nat} {th : WorkerThread ρ}
    (hth : (s.threads v).interrupted = some th) :
    (s.setThread v th).Lost wt ↔ s.Lost wt ∨ v = wt ∧ (s.threads wt).runnable ≠ none := by
  by_cases hv : wt = v
  · subst hv
    have hd := WorkerThread.interrupted_doomed hth (hs.threads.ok wt)
    have hp := (WorkerThread.interrupted_inv hth).1
    constructor
    · rintro ⟨hb, -, hn⟩
      by_cases hr : (s.threads wt).runnable = none
      · exact .inl ⟨hb, ⟨WorkerThread.wait_not_ran (hs.threads.ok wt) hp, .inl hr⟩, hn⟩
      · exact .inr ⟨rfl, hr⟩
    · rintro (⟨hb, -, hn⟩ | ⟨-, hr⟩)
      · exact ⟨hb, setThread_threads_self.symm ▸ hd, hn⟩
      · obtain ⟨hb, hn⟩ := hs.busy_of_runnable hr
        exact ⟨hb, setThread_threads_self.symm ▸ hd, hn⟩
  · refine Iff.trans (lost_congr (s := s) Iff.rfl (setThread_threads_ne hv) Iff.rfl) ?_
    simp [Ne.symm hv]

theorem Sound.release_lost_iff (hs : s.Sound) {v : Nat} (hp : (s.threads v).place = .release)
    (hr : ((s.threads v).runOnce || (s.threads v).ran) = true) :
    (s.release v).Lost wt ↔ s.Lost wt := by
  by_cases hv : wt = v
  · subst hv
    constructor
    · rintro ⟨hb, -, -⟩
      exact absurd hb hs.lists.busy_nodup.not_mem_erase
    · rintro ⟨-, hd, -⟩
      have htrue := (hs.threads.releases hp hr).1
      rw [hd.ran] at htrue
      cases htrue
  · refine lost_congr ?_ (Function.update_of_ne hv _ _) Iff.rfl
    change wt ∈ s.busyWorkers.erase v ↔ _
    exact List.mem_erase_of_ne hv

/-- A worker is lost after a step when it was lost, and when the step loses it. -/
theorem Sound.lost_iff (h : s.step a = some s') (hs : s.Sound) :
    s'.Lost wt ↔ s.Lost wt ∨ s.Loses wt a := by
  have hfree {c : Nat} (hl : s.nextRunnableLock = none) (r : ρ) : s.callers c ≠ .handOver wt r := by
    intro hc
    have hlock := (hs.lock c).mpr (by rw [hc]; rfl)
    rw [hl] at hlock
    cases hlock
  cases step_stepped h with
  | refuse hc =>
      refine Iff.trans (lost_congr (s := s) Iff.rfl rfl
        (handed_update_iff rfl (by simp [hc]) (by simp))) ?_
      simp [Loses]
  | @runInThread c v r hl hc =>
      have hpending :
          ({ s with handoffPending := true } : SimpleThreadPool ρ).Lost wt ↔ s.Lost wt :=
        lost_congr Iff.rfl rfl Iff.rfl
      refine ((hs.pending true).findWorker_lost_iff hl r).trans (hpending.trans ?_)
      simp [Loses]
  | blockForAvailableThreads hl hc =>
      rw [blockForAvailableThreads_lost_iff (hfree hl)]
      simp [Loses]
  | wakeAvailable hl hc =>
      rw [blockForAvailableThreads_lost_iff (hfree hl)]
      simp [Loses]
  | shutdown wait hl hc =>
      refine Iff.trans (lost_congr (s := s) Iff.rfl rfl
        (handed_update_iff rfl (hfree hl) (by simp))) ?_
      simp [Loses]
  | wakeWorker hl hc =>
      rw [hs.findWorker_lost_iff hl]
      simp [Loses]
  | wakeHandoff hl hc =>
      rw [testHandoff_lost_iff (hfree hl)]
      simp [Loses]
  | wakeBusy hl hc =>
      rw [testBusy_lost_iff (hfree hl)]
      simp [Loses]
  | handOver i hc hw =>
      rw [hs.handOver_lost_iff hc]
      simp [Loses, hc]
  | signal i hc => exact hs.signal_lost_iff i hc
  | joinedAll i hc =>
      rw [goTo_lost_iff (by simp [hc]) (by simp)]
      simp [Loses, hc]
  | joinInterrupted hc =>
      rw [goTo_lost_iff (by simp [hc]) (by simp)]
      simp [Loses, hc]
  | joined hc he =>
      refine Iff.trans (lost_congr (s := s) Iff.rfl rfl
        (handed_update_iff rfl (by simp [hc]) (by simp))) ?_
      simp [Loses, hc]
  | release hn hp hr hl =>
      rw [hs.release_lost_iff hp hr]
      simp [Loses]
  | @advance v th hn hth =>
      rw [setThread_lost_iff ((WorkerThread.advance_advanced hth).doomed_iff (hs.threads.ok v))]
      simp [Loses]
  | @interrupt v th hn hth => exact hs.interrupt_lost_iff hth

end MRF.Pool.SimpleThreadPool
