import Mathlib.Data.List.Nodup
import Mathlib.Data.List.Perm.Basic
import Mathlib.Data.List.Range
import MRF.Pool.State

/-!
# Pool — Sound

The invariant of the pool, over every run of any number of callers and workers.

* `Lists`: the lists have every worker once, and a worker of the pool is available or busy until
  the pool is shut down.
* `Threads`: a worker that is not busy is idle, and one that is available has not been told to stop.
* `CallerOk`: whoever has the lock finds what it needs.

`initialized_sound`, `Sound.step` and `sound_run` carry it along; `workers_run` is what it says of
the pool.
-/

namespace MRF.Pool
open MRF.Library

variable {ρ : Type*}

/-! ### The lists of the pool -/

/-- The workers of the pool, each once; until `shutdown`, each of them is available or busy. -/
structure Lists (created : Nat) (workers avail busy : List Nat) (isShutdown : Bool) : Prop where
  lt : ∀ wt ∈ workers, wt < created
  listed : ∀ wt, wt ∈ avail ∨ wt ∈ busy → wt ∈ workers
  workers_nodup : workers.Nodup
  avail_nodup : avail.Nodup
  busy_nodup : busy.Nodup
  disjoint : ∀ wt ∈ avail, wt ∉ busy
  all : isShutdown = false → ∀ wt ∈ workers, wt ∈ avail ∨ wt ∈ busy

namespace Lists

variable {n wt : Nat} {workers avail busy : List Nat} {isShutdown : Bool}

/-- The workers of a new pool are all available. -/
theorem initial (n : Nat) : Lists n (List.range n) (List.range n) [] false where
  lt _ h := List.mem_range.mp h
  listed _ h := h.elim id (fun h => by cases h)
  workers_nodup := List.nodup_range
  avail_nodup := List.nodup_range
  busy_nodup := List.nodup_nil
  disjoint _ _ := List.not_mem_nil
  all _ _ h := .inl h

theorem shut (h : Lists n workers avail busy isShutdown) : Lists n workers avail busy true :=
  { h with all := fun h => by cases h }

/-- `removeFirst`, and `busyWorkers.add`. -/
theorem take (h : Lists n workers (wt :: avail) busy isShutdown) :
    Lists n workers avail (busy ++ [wt]) isShutdown where
  lt := h.lt
  listed v hv := h.listed v (by grind)
  workers_nodup := h.workers_nodup
  avail_nodup := h.avail_nodup.of_cons
  busy_nodup := List.nodup_append.mpr ⟨h.busy_nodup, List.nodup_singleton wt, by
    have hwt := h.disjoint wt List.mem_cons_self
    grind⟩
  disjoint v hv := by
    have hne : v ≠ wt := fun he => (List.nodup_cons.mp h.avail_nodup).1 (he ▸ hv)
    have hd := h.disjoint v (List.mem_cons_of_mem _ hv)
    grind
  all hs v hv := by
    have ha := h.all hs v hv
    grind

/-- A worker that is not of the pool. -/
theorem last (h : Lists n workers [] busy isShutdown) (hs : isShutdown = true) :
    Lists (n + 1) (workers ++ [n]) [] (busy ++ [n]) isShutdown where
  lt v hv := by
    have hlt := h.lt v
    grind
  listed v hv := by
    have hl := h.listed v
    grind
  workers_nodup := List.nodup_append.mpr ⟨h.workers_nodup, List.nodup_singleton n, by
    have hlt := h.lt
    grind⟩
  avail_nodup := List.nodup_nil
  busy_nodup := List.nodup_append.mpr ⟨h.busy_nodup, List.nodup_singleton n, by
    have hlt := h.lt
    have hl := h.listed
    grind⟩
  disjoint v hv := by cases hv
  all hf := by rw [hs] at hf; cases hf

/-- `availWorkers.remove`, in `shutdown`. -/
theorem erase_avail (h : Lists n workers avail busy true) (wt : Nat) :
    Lists n workers (avail.erase wt) busy true where
  lt := h.lt
  listed v hv := h.listed v (hv.imp_left List.mem_of_mem_erase)
  workers_nodup := h.workers_nodup
  avail_nodup := h.avail_nodup.erase wt
  busy_nodup := h.busy_nodup
  disjoint v hv := h.disjoint v (List.mem_of_mem_erase hv)
  all hs := by cases hs

/-- `workerThreads.remove`, in `shutdown`. -/
theorem erase_worker (h : Lists n workers [] [] true) (wt : Nat) :
    Lists n (workers.erase wt) [] [] true where
  lt v hv := h.lt v (List.mem_of_mem_erase hv)
  listed v hv := by grind
  workers_nodup := h.workers_nodup.erase wt
  avail_nodup := h.avail_nodup
  busy_nodup := h.busy_nodup
  disjoint := h.disjoint
  all hs := by cases hs

/-- `clearFromBusyWorkersList`, and `makeAvailable` in a pool that has been shut down. -/
theorem clear (h : Lists n workers avail busy true) (wt : Nat) :
    Lists n workers avail (busy.erase wt) true where
  lt := h.lt
  listed v hv := h.listed v (hv.imp_right List.mem_of_mem_erase)
  workers_nodup := h.workers_nodup
  avail_nodup := h.avail_nodup
  busy_nodup := h.busy_nodup.erase wt
  disjoint v hv hb := h.disjoint v hv (List.mem_of_mem_erase hb)
  all hs := by cases hs

/-- `makeAvailable`. -/
theorem makeAvailable (h : Lists n workers avail busy isShutdown) (hwt : wt ∈ busy) :
    Lists n workers (avail ++ [wt]) (busy.erase wt) isShutdown where
  lt := h.lt
  listed v hv := by
    have hl := h.listed v
    have hb := @List.mem_of_mem_erase _ _ wt v busy
    grind
  workers_nodup := h.workers_nodup
  avail_nodup := List.nodup_append.mpr ⟨h.avail_nodup, List.nodup_singleton wt, by
    have hd := h.disjoint
    grind⟩
  busy_nodup := h.busy_nodup.erase wt
  disjoint v hv := by
    have hd := h.disjoint v
    rw [h.busy_nodup.mem_erase_iff]
    grind
  all hs v hv := by
    have ha := h.all hs v hv
    rw [h.busy_nodup.mem_erase_iff]
    grind

end Lists

/-! ### The threads of the workers -/

/-- What the lists say of the threads of the workers. -/
structure Threads (threads : Nat → WorkerThread ρ) (avail busy : List Nat)
    (isShutdown : Bool) : Prop where
  ok : ∀ wt, (threads wt).Ok
  idle : ∀ wt, wt ∉ busy → (threads wt).Idle
  run : ∀ wt ∈ avail, (threads wt).run = true
  keptOn : isShutdown = false → ∀ wt, (threads wt).runOnce = false ∧ (threads wt).run = true
  turn : ∀ wt ∈ busy, (threads wt).InTurn

namespace Threads

variable {threads : Nat → WorkerThread ρ} {avail busy : List Nat} {wt : Nat} {isShutdown : Bool}

/-- The threads of a new pool are idle. -/
theorem initial (avail : List Nat) :
    Threads (fun _ => WorkerThread.initial (none : Option ρ)) avail [] false where
  ok _ := WorkerThread.initial_ok none
  idle _ _ := WorkerThread.initial_idle
  run _ _ := rfl
  keptOn _ _ := ⟨rfl, rfl⟩
  turn _ h := by cases h

/-- The first available worker becomes busy. -/
theorem take (h : Threads threads (wt :: avail) busy isShutdown) (hn : wt ∉ busy) :
    Threads threads avail (busy ++ [wt]) isShutdown :=
  { h with
    idle := fun v hv => h.idle v fun hb => hv (List.mem_append_left _ hb)
    run := fun v hv => h.run v (List.mem_cons_of_mem _ hv)
    turn := fun v hv => by
      rcases List.mem_append.mp hv with hb | hb
      · exact h.turn v hb
      · rw [List.mem_singleton.mp hb]
        exact (h.idle wt hn).inTurn (h.ok wt) (h.run wt List.mem_cons_self) }

/-- A worker changes. -/
theorem update {avail' busy' : List Nat} (h : Threads threads avail busy isShutdown)
    {th : WorkerThread ρ} (hok : th.Ok) (hidle : wt ∉ busy' → th.Idle)
    (hrun : wt ∈ avail' → th.run = true)
    (hkept : isShutdown = false → th.runOnce = false ∧ th.run = true)
    (hturn : wt ∈ busy' → th.InTurn) (hbusy : ∀ v ∈ busy', v ≠ wt → v ∈ busy)
    (hb : ∀ v ∈ busy, v ≠ wt → v ∈ busy') (ha : ∀ v ∈ avail', v ≠ wt → v ∈ avail) :
    Threads (Function.update threads wt th) avail' busy' isShutdown where
  ok v := by
    by_cases hv : v = wt
    · subst hv
      rwa [Function.update_self]
    · rw [Function.update_of_ne hv]
      exact h.ok v
  idle v hvb := by
    by_cases hv : v = wt
    · subst hv
      rw [Function.update_self]
      exact hidle hvb
    · rw [Function.update_of_ne hv]
      exact h.idle v fun hbusy => hvb (hb v hbusy hv)
  run v hva := by
    by_cases hv : v = wt
    · subst hv
      rw [Function.update_self]
      exact hrun hva
    · rw [Function.update_of_ne hv]
      exact h.run v (ha v hva hv)
  keptOn hn v := by
    by_cases hv : v = wt
    · subst hv
      rw [Function.update_self]
      exact hkept hn
    · rw [Function.update_of_ne hv]
      exact h.keptOn hn v
  turn v hvb := by
    by_cases hv : v = wt
    · subst hv
      rw [Function.update_self]
      exact hturn hvb
    · rw [Function.update_of_ne hv]
      exact h.turn v (hbusy v hvb hv)

/-- A worker that goes back to the pool has run, and is busy until then. -/
theorem releases (h : Threads threads avail busy isShutdown) (hp : (threads wt).place = .release)
    (hr : ((threads wt).runOnce || (threads wt).ran) = true) :
    (threads wt).ran = true ∧ wt ∈ busy := by
  have hran : (threads wt).ran = true := by
    by_contra hne
    have hfalse := (Bool.not_eq_true _).mp hne
    rw [hfalse, Bool.or_false] at hr
    rcases ((h.ok wt).once hr hfalse).1 with h | h | h <;> rw [hp] at h <;> cases h
  refine ⟨hran, ?_⟩
  by_contra hb
  rcases (h.idle wt hb).ran hran with h | h <;> rw [hp] at h <;> cases h

end Threads

/-! ### The pool -/

namespace SimpleThreadPool

variable {s s' t : SimpleThreadPool ρ} {a : Action ρ} {c wt : Nat} {p : Caller ρ}

/-- What a caller has found at its place. -/
def CallerOk (s : SimpleThreadPool ρ) : Caller ρ → Prop
  | .out v => v ≠ .illegalStateException
  | .handOver wt _ => wt ∈ s.busyWorkers ∧ (s.threads wt).Idle ∧ (s.threads wt).run = true
  | .signal wts _ =>
      s.isShutdown = true ∧ (∀ wt ∈ s.availWorkers, wt ∈ wts) ∧ ∀ wt ∈ wts, wt ∈ s.workers
  | .awaitHandoff => s.isShutdown = true
  | .awaitBusy => s.isShutdown = true
  | .join _ => s.isShutdown = true ∧ s.availWorkers = [] ∧ s.busyWorkers = []
  | _ => True

/-- What every reachable state of a pool keeps. -/
structure Sound (s : SimpleThreadPool ρ) : Prop where
  lists : Lists s.created s.workers s.availWorkers s.busyWorkers s.isShutdown
  threads : Threads s.threads s.availWorkers s.busyWorkers s.isShutdown
  lock : ∀ c, s.nextRunnableLock = some c ↔ (s.callers c).holds = true
  caller : ∀ c, s.CallerOk (s.callers c)
  /-- After a shutdown nothing is available but what its first loop has not come to. -/
  drained : s.isShutdown = true →
    s.availWorkers = [] ∨ ∃ c wts wait, s.callers c = .signal wts wait

/-- No caller but `c` has the lock. -/
def Free (s : SimpleThreadPool ρ) (c : Nat) : Prop := ∀ d, d ≠ c → (s.callers d).holds = false

theorem Sound.free_of_lock (hs : s.Sound) (hl : s.nextRunnableLock = none) (c : Nat) :
    s.Free c := by
  intro d _
  rw [← Bool.not_eq_true, ← hs.lock d, hl]
  simp

/-- A caller that has the lock is the only one. -/
theorem Sound.free_of_holds (hs : s.Sound) (hc : (s.callers c).holds = true) : s.Free c := by
  intro d hne
  rw [← Bool.not_eq_true, ← hs.lock d, (hs.lock c).mpr hc]
  intro h
  exact hne (Option.some.inj h).symm

/-- A pool that was shut down has no available worker. -/
theorem Sound.avail_nil (hs : s.Sound) (hl : s.nextRunnableLock = none)
    (hsd : s.isShutdown = true) : s.availWorkers = [] := by
  rcases hs.drained hsd with h | ⟨c, wts, wait, hc⟩
  · exact h
  · have hlock := (hs.lock c).mpr (by rw [hc]; rfl)
    rw [hl] at hlock
    cases hlock

/-- A caller without the lock has found nothing that could change. -/
theorem callerOk_of_not_holds (hp : p.holds = false)
    (hsd : s.isShutdown = true → t.isShutdown = true) (h : s.CallerOk p) : t.CallerOk p := by
  cases p with
  | out v => exact h
  | awaitWorker r => trivial
  | handOver wt r => cases hp
  | awaitAvailable => trivial
  | signal wts wait => cases hp
  | awaitHandoff => exact hsd h
  | awaitBusy => exact hsd h
  | join wts => cases hp

/-- What a caller has found does not depend on where the callers are. -/
theorem callerOk_goTo {q : Caller ρ} : (t.goTo c p).CallerOk q ↔ t.CallerOk q := by
  cases q <;> exact Iff.rfl

/-- A caller that may have the lock changes the pool, and comes to a place. -/
theorem Sound.moved (hs : s.Sound) (hfree : s.Free c) (hcallers : t.callers = s.callers)
    (hshut : s.isShutdown = true → t.isShutdown = true)
    (hlists : Lists t.created t.workers t.availWorkers t.busyWorkers t.isShutdown)
    (hthreads : Threads t.threads t.availWorkers t.busyWorkers t.isShutdown) (hp : t.CallerOk p)
    (hd : t.isShutdown = true → t.availWorkers = [] ∨ ∃ wts wait, p = .signal wts wait) :
    (t.goTo c p).Sound where
  lists := hlists
  threads := hthreads
  lock d := by
    by_cases hdc : d = c
    · subst hdc
      cases hh : p.holds <;> simp [goTo, hh]
    · have hn := hfree d hdc
      cases hh : p.holds <;> simp [goTo, hh, Function.update_of_ne hdc, hcallers, hn, Ne.symm hdc]
  caller d := by
    rw [callerOk_goTo]
    by_cases hdc : d = c
    · subst hdc
      rw [goTo_callers_self]
      exact hp
    · rw [goTo_callers_ne hdc, hcallers]
      exact callerOk_of_not_holds (hfree d hdc) hshut (hs.caller d)
  drained hsd := by
    rcases hd hsd with h | ⟨wts, wait, rfl⟩
    · exact .inl h
    · exact .inr ⟨c, wts, wait, goTo_callers_self⟩

/-- A caller comes to a place and changes nothing else. -/
theorem Sound.goTo (hs : s.Sound) (hfree : s.Free c) (hp : s.CallerOk p)
    (hd : s.isShutdown = true → s.availWorkers = [] ∨ ∃ wts wait, p = .signal wts wait) :
    (s.goTo c p).Sound :=
  hs.moved hfree rfl id hs.lists hs.threads hp hd

/-! ### What a caller does -/

/-- The worker of a last job is a new one, and busy. -/
theorem Sound.lastJob (hs : s.Sound) (hl : s.nextRunnableLock = none) (hsd : s.isShutdown = true)
    (r : ρ) : (s.lastJob c r).Sound := by
  have havail := hs.avail_nil hl hsd
  have hlists := hs.lists
  rw [havail] at hlists
  refine hs.moved (hs.free_of_lock hl c) rfl id (by simpa only [havail] using hlists.last hsd) ?_
    (by simp [CallerOk]) fun _ => .inl havail
  exact hs.threads.update (WorkerThread.initial_ok _)
    (fun h => absurd (List.mem_append_right _ List.mem_cons_self) h) (fun _ => rfl)
    (fun h => by rw [hsd] at h; cases h) (fun _ h => by cases h) (by grind)
    (fun _ h _ => List.mem_append_left _ h) fun _ h _ => h

/-- `runInThread` waits, takes a worker, or has a last job run. -/
theorem Sound.findWorker (hs : s.Sound) (hl : s.nextRunnableLock = none) (r : ρ) :
    (s.findWorker c r).Sound := by
  have hfree := hs.free_of_lock hl c
  unfold SimpleThreadPool.findWorker
  split
  · next hsd => exact hs.lastJob hl hsd r
  · next hsd =>
      split
      · exact hs.goTo hfree trivial fun h => absurd h hsd
      · next wt avail ha =>
          have hlists := hs.lists
          have hmem : wt ∈ s.availWorkers := by rw [ha]; exact List.mem_cons_self
          rw [ha] at hlists
          refine hs.moved hfree rfl id hlists.take ?_
            ⟨List.mem_append_right _ List.mem_cons_self, ?_, ?_⟩ fun h => absurd h hsd
          · have hthreads := hs.threads
            rw [ha] at hthreads
            exact hthreads.take (hs.lists.disjoint wt hmem)
          · exact hs.threads.idle wt (hs.lists.disjoint wt hmem)
          · exact hs.threads.run wt hmem

theorem callerOk_congr (hb : t.busyWorkers = s.busyWorkers) (ha : t.availWorkers = s.availWorkers)
    (hw : t.workers = s.workers) (hth : t.threads = s.threads) (hsd : t.isShutdown = s.isShutdown) :
    t.CallerOk p ↔ s.CallerOk p := by
  cases p <;> simp only [CallerOk, hb, ha, hw, hth, hsd]

theorem Sound.pending (hs : s.Sound) (b : Bool) : { s with handoffPending := b }.Sound where
  lists := hs.lists
  threads := hs.threads
  lock := hs.lock
  caller c := (callerOk_congr rfl rfl rfl rfl rfl).mpr (hs.caller c)
  drained := hs.drained

theorem Sound.runInThread (hs : s.Sound) (hl : s.nextRunnableLock = none) (r : ρ) :
    (s.runInThread c r).Sound :=
  (hs.pending true).findWorker hl r

/-- The worker that is handed a runnable has none. -/
theorem Sound.runWith_eq (hs : s.Sound) {r : ρ} (hc : s.callers c = .handOver wt r) :
    (s.threads wt).runWith r = some ((s.threads wt).given r) := by
  have hok := hs.caller c
  rw [hc] at hok
  exact WorkerThread.runWith_eq hok.2.1.runnable

/-- The worker that was taken has no runnable, and takes this one. -/
theorem Sound.handOver_eq (hs : s.Sound) {r : ρ} (hc : s.callers c = .handOver wt r) :
    s.handOver c wt r = { s with
      threads := Function.update s.threads wt ((s.threads wt).given r)
      handoffPending := false }.goTo c (.out (.runInThread true)) := by
  simp only [SimpleThreadPool.handOver, hs.runWith_eq hc]

theorem Sound.handOver (hs : s.Sound) {r : ρ} (hc : s.callers c = .handOver wt r) :
    (s.handOver c wt r).Sound := by
  have hfree := hs.free_of_holds (c := c) (by rw [hc]; rfl)
  have hok := hs.caller c
  rw [hc] at hok
  obtain ⟨hbusy, hidle, hrun⟩ := hok
  rw [hs.handOver_eq hc]
  refine hs.moved hfree rfl id hs.lists ?_ (by simp [CallerOk]) ?_
  · exact hs.threads.update (hidle.given_ok (hs.threads.ok wt) hrun r)
      (fun h => absurd hbusy h) (fun _ => hrun) (fun h => hs.threads.keptOn h wt)
      (hs.threads.turn wt) (fun _ h _ => h) (fun _ h _ => h) fun _ h _ => h
  · intro hsd
    refine .inl ?_
    rcases hs.drained hsd with h | ⟨d, wts, wait, hd⟩
    · exact h
    · by_cases hdc : d = c
      · rw [hdc, hc] at hd
        cases hd
      · have hn := hfree d hdc
        rw [hd] at hn
        cases hn

theorem Sound.blockForAvailableThreads (hs : s.Sound) (hl : s.nextRunnableLock = none) :
    (s.blockForAvailableThreads c).Sound := by
  have hfree := hs.free_of_lock hl c
  unfold SimpleThreadPool.blockForAvailableThreads
  split
  · exact hs.goTo hfree trivial fun h => .inl (hs.avail_nil hl h)
  · exact hs.goTo hfree (by simp [CallerOk]) fun h => .inl (hs.avail_nil hl h)

theorem Sound.shutdown (hs : s.Sound) (hl : s.nextRunnableLock = none) (wait : Bool) :
    (s.shutdown c wait).Sound :=
  hs.moved (hs.free_of_lock hl c) rfl (fun _ => rfl) hs.lists.shut
    { hs.threads with keptOn := fun h => by cases h }
    ⟨rfl, fun wt h => hs.lists.listed wt (.inl h), fun _ h => h⟩ fun _ => .inr ⟨_, _, rfl⟩

theorem Sound.testBusy (hs : s.Sound) (hfree : s.Free c) (hsd : s.isShutdown = true)
    (ha : s.availWorkers = []) : (s.testBusy c).Sound := by
  unfold SimpleThreadPool.testBusy
  split
  · next hb => exact hs.goTo hfree ⟨hsd, ha, List.isEmpty_iff.mp hb⟩ fun _ => .inl ha
  · exact hs.goTo hfree hsd fun _ => .inl ha

theorem Sound.testHandoff (hs : s.Sound) (hfree : s.Free c) (hsd : s.isShutdown = true)
    (ha : s.availWorkers = []) : (s.testHandoff c).Sound := by
  unfold SimpleThreadPool.testHandoff
  split
  · exact hs.goTo hfree hsd fun _ => .inl ha
  · exact hs.testBusy hfree hsd ha

theorem Sound.signal (hs : s.Sound) {wts : List Nat} {wait : Bool}
    (hc : s.callers c = .signal wts wait) : (s.signal c wts wait).Sound := by
  have hfree := hs.free_of_holds (c := c) (by rw [hc]; rfl)
  have hok := hs.caller c
  rw [hc] at hok
  obtain ⟨hsd, hin, hof⟩ := hok
  unfold SimpleThreadPool.signal
  split
  · next wt wts =>
      have hlists := hs.lists
      rw [hsd] at hlists
      have hnot : wt ∉ s.availWorkers.erase wt := hs.lists.avail_nodup.not_mem_erase
      refine hs.moved hfree rfl id (by simpa only [hsd] using hlists.erase_avail wt) ?_
        ⟨hsd, ?_, ?_⟩ fun _ => .inr ⟨_, _, rfl⟩
      · exact hs.threads.update (WorkerThread.shutdown_ok (hs.threads.ok wt))
          (fun h => (hs.threads.idle wt h).shutdown) (fun h => absurd h hnot)
          (fun h => by rw [hsd] at h; cases h) (hs.threads.turn wt) (fun _ h _ => h)
          (fun _ h _ => h) fun _ h _ => List.mem_of_mem_erase h
      · intro v hv
        rcases List.mem_cons.mp (hin v (List.mem_of_mem_erase hv)) with rfl | h
        · exact absurd hv hnot
        · exact h
      · exact fun v hv => hof v (List.mem_cons_of_mem _ hv)
  · have ha : s.availWorkers = [] := List.eq_nil_iff_forall_not_mem.mpr fun v hv => by
      cases hin v hv
    exact hs.goTo hfree (by simp [CallerOk]) fun _ => .inl ha
  · have ha : s.availWorkers = [] := List.eq_nil_iff_forall_not_mem.mpr fun v hv => by
      cases hin v hv
    exact hs.testHandoff hfree hsd ha

/-- Who is in the last loop has the lock, and finds both lists empty. -/
theorem Sound.joins (hs : s.Sound) {wts : List Nat} (hc : s.callers c = .join wts) :
    s.Free c ∧ s.isShutdown = true ∧ s.availWorkers = [] ∧ s.busyWorkers = [] := by
  have hok := hs.caller c
  rw [hc] at hok
  exact ⟨hs.free_of_holds (by rw [hc]; rfl), hok⟩

theorem Sound.joined (hs : s.Sound) {wts : List Nat} (hc : s.callers c = .join wts)
    (wt : Nat) (wts' : List Nat) :
    ({ s with workers := s.workers.erase wt }.goTo c (.join wts')).Sound := by
  obtain ⟨hfree, hsd, ha, hb⟩ := hs.joins hc
  have hlists := hs.lists
  rw [ha, hb, hsd] at hlists
  refine hs.moved hfree rfl id ?_ hs.threads ⟨hsd, ha, hb⟩ fun _ => .inl ha
  simpa only [ha, hb, hsd] using hlists.erase_worker wt

/-! ### What a worker does -/

/-- A worker takes a step for itself. -/
theorem Sound.setThread (hs : s.Sound) {th : WorkerThread ρ} (hok : th.Ok)
    (hidle : (s.threads wt).Idle → th.Idle) (hrun : th.run = (s.threads wt).run)
    (honce : th.runOnce = (s.threads wt).runOnce)
    (hturn : (s.threads wt).InTurn → th.InTurn) : (s.setThread wt th).Sound where
  lists := hs.lists
  threads := hs.threads.update hok (fun h => hidle (hs.threads.idle wt h))
    (fun h => hrun.trans (hs.threads.run wt h))
    (fun h => ⟨honce.trans (hs.threads.keptOn h wt).1, hrun.trans (hs.threads.keptOn h wt).2⟩)
    (fun h => hturn (hs.threads.turn wt h)) (fun _ h _ => h) (fun _ h _ => h) fun _ h _ => h
  lock := hs.lock
  caller c := by
    have hcaller := hs.caller c
    change (s.setThread wt th).CallerOk (s.callers c)
    cases hc : s.callers c with
    | handOver v r =>
        rw [hc] at hcaller
        obtain ⟨hb, hi, hr⟩ := hcaller
        by_cases hv : v = wt
        · subst hv
          exact ⟨hb, setThread_threads_self.symm ▸ hidle hi,
            setThread_threads_self.symm ▸ hrun.trans hr⟩
        · exact ⟨hb, (setThread_threads_ne hv).symm ▸ hi, (setThread_threads_ne hv).symm ▸ hr⟩
    | out | awaitWorker | awaitAvailable | signal | awaitHandoff | awaitBusy | join =>
        rw [hc] at hcaller
        exact hcaller
  drained := hs.drained

/-- A worker that has run comes back, or leaves the pool. -/
theorem Sound.release (hs : s.Sound) (hp : (s.threads wt).place = .release)
    (hr : ((s.threads wt).runOnce || (s.threads wt).ran) = true)
    (hl : s.nextRunnableLock = none) : (s.release wt).Sound := by
  obtain ⟨hran, hbusy⟩ := hs.threads.releases hp hr
  have hok := WorkerThread.released_ok hp (hs.threads.ok wt) hran
  have hidle := WorkerThread.released_idle hp (hs.threads.ok wt) hran
  have hkeeps : ∀ v ∈ s.busyWorkers, v ≠ wt → v ∈ s.busyWorkers.erase wt := fun v hv hne =>
    (List.mem_erase_of_ne hne).mpr hv
  have hgone : wt ∉ s.busyWorkers.erase wt := hs.lists.busy_nodup.not_mem_erase
  have hnot : ∀ c, (s.callers c).holds = false := by
    intro c
    rw [← Bool.not_eq_true, ← hs.lock c, hl]
    simp
  cases hback : (s.threads wt).runOnce || s.isShutdown with
  | true =>
      have hsd : s.isShutdown = true := by
        by_contra hne
        have hfalse := (Bool.not_eq_true _).mp hne
        rw [hfalse, (hs.threads.keptOn hfalse wt).1] at hback
        cases hback
      have hlists := hs.lists
      rw [hsd] at hlists
      have ha := hs.avail_nil hl hsd
      simp only [SimpleThreadPool.release, hback, if_true]
      exact {
        lists := by simpa only [hsd] using hlists.clear wt
        threads := hs.threads.update hok (fun _ => hidle) (fun h => by rw [ha] at h; cases h)
          (fun h => by rw [hsd] at h; cases h) (fun h => absurd h hgone)
          (fun _ h _ => List.mem_of_mem_erase h) hkeeps fun _ h _ => h
        lock := hs.lock
        caller := fun c => callerOk_of_not_holds (s := s) (hnot c) id (hs.caller c)
        drained := fun _ => .inl ha }
  | false =>
      obtain ⟨hfalse, hsd⟩ := Bool.or_eq_false_iff.mp hback
      have hrun : (s.threads wt).released.runOnce = false ∧ (s.threads wt).released.run = true := by
        simpa [WorkerThread.released, hfalse] using (hs.threads.keptOn hsd wt).2
      simp only [SimpleThreadPool.release, hback, Bool.false_eq_true, if_false]
      exact {
        lists := hs.lists.makeAvailable hbusy
        threads := hs.threads.update hok (fun _ => hidle) (fun _ => hrun.2) (fun _ => hrun)
          (fun h => absurd h hgone) (fun _ h _ => List.mem_of_mem_erase h) hkeeps (by grind)
        lock := hs.lock
        caller := fun c => callerOk_of_not_holds (s := s) (hnot c) id (hs.caller c)
        drained := fun h => by rw [hsd] at h; cases h }

theorem Sound.refuse (hs : s.Sound) {v : Result} (hc : s.callers c = .out v) :
    (s.setCaller c (.out (.runInThread false))).Sound where
  lists := hs.lists
  threads := hs.threads
  lock d := by
    by_cases hdc : d = c
    · subst hdc
      have hn : s.nextRunnableLock ≠ some d := by simp [hs.lock d, hc, Caller.holds]
      simpa [setCaller, Caller.holds] using hn
    · rw [setCaller_callers_ne hdc]
      exact hs.lock d
  caller d := by
    refine (callerOk_congr (s := s) rfl rfl rfl rfl rfl).mpr ?_
    by_cases hdc : d = c
    · subst hdc
      simp [CallerOk]
    · rw [setCaller_callers_ne hdc]
      exact hs.caller d
  drained hsd := by
    rcases hs.drained hsd with h | ⟨d, wts, wait, hd⟩
    · exact .inl h
    · have hdc : d ≠ c := by
        rintro rfl
        rw [hc] at hd
        cases hd
      exact .inr ⟨d, wts, wait, (setCaller_callers_ne hdc).trans hd⟩

/-- Every step keeps the pool sound. -/
theorem Sound.step (h : s.step a = some s') (hs : s.Sound) : s'.Sound := by
  cases step_stepped h with
  | refuse hc => exact hs.refuse hc
  | runInThread hl hc => exact hs.runInThread hl _
  | blockForAvailableThreads hl hc | wakeAvailable hl hc => exact hs.blockForAvailableThreads hl
  | shutdown wait hl hc => exact hs.shutdown hl wait
  | wakeWorker hl hc => exact hs.findWorker hl _
  | @wakeHandoff c hl hc =>
      have hsd := hs.caller c
      rw [hc] at hsd
      exact hs.testHandoff (hs.free_of_lock hl c) hsd (hs.avail_nil hl hsd)
  | @wakeBusy c hl hc =>
      have hsd := hs.caller c
      rw [hc] at hsd
      exact hs.testBusy (hs.free_of_lock hl c) hsd (hs.avail_nil hl hsd)
  | handOver i hc hw => exact hs.handOver hc
  | signal i hc => exact hs.signal hc
  | joinedAll i hc =>
      obtain ⟨hfree, -, ha, -⟩ := hs.joins hc
      exact hs.goTo hfree (by simp [CallerOk]) fun _ => .inl ha
  | joinInterrupted hc =>
      obtain ⟨hfree, hsd, ha, hb⟩ := hs.joins hc
      exact hs.goTo hfree ⟨hsd, ha, hb⟩ fun _ => .inl ha
  | joined hc he => exact hs.joined hc _ _
  | release hn hp hr hl => exact hs.release hp hr hl
  | advance hn hth =>
      have hadv := WorkerThread.advance_advanced hth
      exact hs.setThread (hadv.ok (hs.threads.ok _)) (fun hi => hi.advanced (hs.threads.ok _) hadv)
        hadv.run_eq hadv.runOnce_eq fun ht => ht.advanced hadv
  | interrupt hn hth =>
      have hok := WorkerThread.interrupted_ok hth (hs.threads.ok _)
      have hidle := fun hi => WorkerThread.Idle.interrupted hi hth
      obtain ⟨-, rfl⟩ := WorkerThread.interrupted_inv hth
      exact hs.setThread hok hidle rfl rfl fun ht hr => .inr (.inl rfl)

/-- The state that `initialize` leaves, and what it has checked. -/
theorem initialized_inv {cfg : PoolConfig} (h : initialized cfg = .ok s) :
    s = { threads := fun _ => .initial none, created := cfg.count.toNat,
          workers := List.range cfg.count.toNat, availWorkers := List.range cfg.count.toNat,
          busyWorkers := [], isShutdown := false, handoffPending := false,
          nextRunnableLock := none, callers := fun _ => .out .none } ∧ 0 < cfg.count := by
  unfold initialized at h
  split at h
  · cases h
  · split at h
    · cases h
    · next hcount =>
        split at h
        · cases h
        · exact ⟨(Except.ok.inj h).symm, Int.not_le.mp hcount⟩

theorem initialized_sound {cfg : PoolConfig} (h : initialized cfg = .ok s) : s.Sound := by
  obtain ⟨rfl, -⟩ := initialized_inv h
  exact {
    lists := Lists.initial _
    threads := Threads.initial _
    lock := fun c => by simp [Caller.holds]
    caller := fun c => by simp [CallerOk]
    drained := fun h => by cases h }

/-- Every reachable state of a pool is sound. -/
theorem sound_run {cfg : PoolConfig} (h : initialized cfg = .ok s)
    {tr : List (SimpleThreadPool ρ × Action ρ)}
    (hrun : Run (stepOf SimpleThreadPool.step) s tr s') : s'.Sound :=
  hrun.invariant (fun _ _ _ h => Sound.step h) (initialized_sound h)

/-! ### The workers of a pool -/

/-- Until it is shut down, a pool has the workers it was made with. -/
theorem Sound.workers_eq (h : s.step a = some s') (hs : s.Sound) (hn : s'.isShutdown = false) :
    s.isShutdown = false ∧ s'.workers = s.workers := by
  have hfind {s : SimpleThreadPool ρ} {c : Nat} {r : ρ}
      (hn : (s.findWorker c r).isShutdown = false) :
      s.isShutdown = false ∧ (s.findWorker c r).workers = s.workers := by
    unfold SimpleThreadPool.findWorker at hn ⊢
    split at hn
    · next hsd => exact absurd (hsd.symm.trans hn) (by simp)
    · next hsd =>
        refine ⟨(Bool.not_eq_true _).mp hsd, ?_⟩
        rw [if_neg hsd]
        split <;> rfl
  have hdown {d : Nat} {q : Caller ρ} (hc : s.callers d = q)
      (hq : s.CallerOk q → s.isShutdown = true) : s.isShutdown = true :=
    hq (hc ▸ hs.caller d)
  cases step_stepped h with
  | refuse hc => exact ⟨hn, rfl⟩
  | runInThread hl hc => exact hfind (s := { s with handoffPending := true }) hn
  | blockForAvailableThreads hl hc | wakeAvailable hl hc =>
      unfold SimpleThreadPool.blockForAvailableThreads at hn ⊢
      split at hn
      · next hw => rw [if_pos hw]; exact ⟨hn, rfl⟩
      · next hw => rw [if_neg hw]; exact ⟨hn, rfl⟩
  | shutdown wait hl hc => cases hn
  | wakeWorker hl hc => exact hfind hn
  | @wakeHandoff d hl hc =>
      obtain ⟨p, hp, -⟩ := testHandoff_goTo s d
      rw [hp] at hn ⊢
      exact ⟨hn, rfl⟩
  | @wakeBusy d hl hc =>
      obtain ⟨p, hp, -⟩ := testBusy_goTo s d
      rw [hp] at hn ⊢
      exact ⟨hn, rfl⟩
  | handOver i hc hw =>
      rw [hs.handOver_eq hc] at hn ⊢
      exact ⟨hn, rfl⟩
  | @signal d wts wait i hc =>
      have hsd := hdown hc fun h => h.1
      unfold SimpleThreadPool.signal at hn ⊢
      split at hn
      · exact ⟨hn, rfl⟩
      · exact ⟨hn, rfl⟩
      · obtain ⟨p, hp, -⟩ := testHandoff_goTo s d
        rw [hp] at hn ⊢
        exact ⟨hn, rfl⟩
  | joinedAll i hc => exact ⟨hn, rfl⟩
  | joinInterrupted hc => exact ⟨hn, rfl⟩
  | joined hc he => exact absurd ((hdown hc fun h => h.1).symm.trans hn) (by simp)
  | release hn' hp hr hl => exact ⟨hn, rfl⟩
  | advance hn' hth => exact ⟨hn, rfl⟩
  | interrupt hn' hth => exact ⟨hn, rfl⟩

/-- In every run no caller meets a worker that is already running something, no worker is in the
lists twice, every worker of the pool is available or busy until the pool is shut down, and who is
not busy has nothing left. -/
theorem workers_run {cfg : PoolConfig} (h : initialized cfg = .ok s)
    {tr : List (SimpleThreadPool ρ × Action ρ)}
    (hrun : Run (stepOf SimpleThreadPool.step) s tr s') :
    (∀ c, s'.callers c ≠ .out .illegalStateException) ∧
      (s'.availWorkers ++ s'.busyWorkers).Nodup ∧
      (s'.isShutdown = false →
        (s'.availWorkers ++ s'.busyWorkers).Perm (List.range cfg.count.toNat)) ∧
      ∀ wt, wt ∉ s'.busyWorkers → (s'.threads wt).left = [] := by
  have hs := sound_run h hrun
  have hworkers : s'.isShutdown = false → s'.workers = List.range cfg.count.toNat := by
    have hstart : s.Sound ∧ (s.isShutdown = false → s.workers = List.range cfg.count.toNat) := by
      refine ⟨initialized_sound h, fun _ => ?_⟩
      obtain ⟨rfl, -⟩ := initialized_inv h
      rfl
    refine (hrun.invariant (I := fun s => s.Sound ∧
      (s.isShutdown = false → s.workers = List.range cfg.count.toNat)) ?_ hstart).2
    rintro s a s' hstep ⟨hs, hw⟩
    refine ⟨hs.step hstep, fun hn => ?_⟩
    obtain ⟨hn', heq⟩ := hs.workers_eq hstep hn
    exact heq.trans (hw hn')
  have hnodup : (s'.availWorkers ++ s'.busyWorkers).Nodup :=
    List.nodup_append.mpr ⟨hs.lists.avail_nodup, hs.lists.busy_nodup, fun v hv w hw hvw =>
      hs.lists.disjoint v hv (hvw ▸ hw)⟩
  refine ⟨fun c hc => ?_, hnodup, fun hn => ?_, fun wt hwt => (hs.threads.idle wt hwt).left⟩
  · have hok := hs.caller c
    rw [hc] at hok
    exact hok rfl
  · rw [← hworkers hn, List.perm_ext_iff_of_nodup hnodup hs.lists.workers_nodup]
    intro wt
    rw [List.mem_append]
    exact ⟨hs.lists.listed wt, hs.lists.all hn wt⟩

/-- A pool of one worker. -/
def sample : SimpleThreadPool Nat :=
  { threads := fun _ => .initial none, created := 1, workers := [0], availWorkers := [0],
    busyWorkers := [], isShutdown := false, handoffPending := false, nextRunnableLock := none,
    callers := fun _ => .out .none }

theorem initialized_sample : initialized ⟨some "EQPoll", 1, 5⟩ = .ok sample := by
  simp [initialized, sample]

/-- A runnable is handed to the worker and is run to its end; the worker is back at its loop. -/
def usedOnce : List (Action Nat) :=
  [.runInThread 0 (some 7), .goOn 0 false, .worker 0, .worker 0, .worker 0, .worker 0, .worker 0]

/-- The worker that has run is available again, with nothing left. -/
theorem workers_run_sample : ∃ tr s, Run (stepOf SimpleThreadPool.step) sample tr s ∧
    s.busyWorkers = [] ∧ (s.availWorkers ++ s.busyWorkers).Perm (List.range 1) ∧
      (s.threads 0).left = [] := by
  obtain ⟨s, hs⟩ : ∃ s, exec SimpleThreadPool.step sample usedOnce = some s := ⟨_, rfl⟩
  have hb : s.busyWorkers = [] ∧ s.isShutdown = false := by
    cases hs
    exact ⟨rfl, rfl⟩
  obtain ⟨-, -, hperm, hleft⟩ := workers_run initialized_sample (Run.of_exec hs)
  exact ⟨_, s, Run.of_exec hs, hb.1, hperm hb.2, hleft 0 (by simp [hb.1])⟩

end SimpleThreadPool

end MRF.Pool
