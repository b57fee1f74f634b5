import MRF.Pool.Contract
import MRF.Pool.Finish
import MRF.Pool.ShutDown

/-!
# Pool — Calls

What a call of the pool is to its caller, for whoever puts the pool together with its callers.

* `callers_eq`, `out_step`: a caller moves only by its own steps, and one that is out only by a
  call.
* `block_step`, `Sound.handOver_step`, `shutting_step`: how the calls go on to their ends.
* `isShutdown_step`, `created_step`: what shuts a pool down, and what makes it grow.
* `Quiet.step`, `ended_step`: when nobody hands anything over any more, a pool with no busy worker
  stays without one, and one whose threads have ended gets no other.
* `Quiet.asked_run`: whatever its only user has asked such a pool for has been run to its end.
-/

namespace MRF.Pool
open MRF.Library

variable {ρ : Type*}

/-- The places of a call of `shutdown`, and of its end. -/
def Caller.shutting (waitForJobsToComplete : Bool) : Caller ρ → Prop
  | .signal _ wait => wait = waitForJobsToComplete
  | .awaitHandoff | .awaitBusy | .join _ => waitForJobsToComplete = true
  | .out v => v = .shutdown
  | .awaitWorker _ | .handOver _ _ | .awaitAvailable => False

/-- The runnable that a caller has yet to hand over. -/
def Caller.pending : Caller ρ → List ρ
  | .awaitWorker r => [r]
  | .handOver _ r => [r]
  | _ => []

/-- A caller that has not to hand over has nothing pending. -/
theorem Caller.pending_of_pends {p : Caller ρ} (hp : p.pends = false) : p.pending = [] := by
  cases p with
  | awaitWorker | handOver => cases hp
  | out | awaitAvailable | signal | awaitHandoff | awaitBusy | join => rfl

namespace SimpleThreadPool

variable {s s' : SimpleThreadPool ρ} {a : Action ρ} {c d : Nat} {v : Result} {wait : Bool}

/-- Whose step an action is, if it is a caller's. -/
def Action.caller : Action ρ → Option Nat
  | .runInThread c _ | .blockForAvailableThreads c | .shutdown c _ | .wake c | .goOn c _ => some c
  | .worker _ | .interrupt _ => none

/-! ### Other callers -/

/-- The step brings one caller to a place. -/
def Brings (s : SimpleThreadPool ρ) (c : Nat) (s' : SimpleThreadPool ρ) : Prop :=
  ∃ p, s'.callers = Function.update s.callers c p

theorem Brings.ne (h : s.Brings c s') (hd : d ≠ c) : s'.callers d = s.callers d := by
  obtain ⟨p, hp⟩ := h
  rw [hp, Function.update_of_ne hd]

theorem findWorker_brings (s : SimpleThreadPool ρ) (c : Nat) (r : ρ) :
    s.Brings c (s.findWorker c r) := by
  unfold findWorker
  split
  · exact ⟨_, rfl⟩
  · split <;> exact ⟨_, rfl⟩

theorem blockForAvailableThreads_brings (s : SimpleThreadPool ρ) (c : Nat) :
    s.Brings c (s.blockForAvailableThreads c) := by
  unfold blockForAvailableThreads
  split <;> exact ⟨_, rfl⟩

theorem testBusy_brings (s : SimpleThreadPool ρ) (c : Nat) : s.Brings c (s.testBusy c) := by
  unfold testBusy
  split <;> exact ⟨_, rfl⟩

theorem testHandoff_brings (s : SimpleThreadPool ρ) (c : Nat) : s.Brings c (s.testHandoff c) := by
  unfold testHandoff
  split
  · exact ⟨_, rfl⟩
  · exact s.testBusy_brings c

/-- A caller moves by its own steps. -/
theorem callers_eq (h : s.step a = some s') (hd : a.caller ≠ some d) :
    s'.callers d = s.callers d := by
  have hne {c : Nat} (hc : some c ≠ some d) : d ≠ c := fun h => hc (by rw [h])
  cases step_stepped h with
  | refuse hc => exact setCaller_callers_ne (hne hd)
  | @runInThread c v r hl hc =>
      exact (findWorker_brings { s with handoffPending := true } c r).ne (hne hd)
  | wakeWorker hl hc => exact (s.findWorker_brings _ _).ne (hne hd)
  | blockForAvailableThreads hl hc | wakeAvailable hl hc =>
      exact (s.blockForAvailableThreads_brings _).ne (hne hd)
  | wakeHandoff hl hc => exact (s.testHandoff_brings _).ne (hne hd)
  | wakeBusy hl hc => exact (s.testBusy_brings _).ne (hne hd)
  | handOver i hc hw =>
      unfold SimpleThreadPool.handOver
      split <;> exact goTo_callers_ne (hne hd)
  | signal i hc =>
      unfold SimpleThreadPool.signal
      split
      · exact goTo_callers_ne (hne hd)
      · exact goTo_callers_ne (hne hd)
      · exact (s.testHandoff_brings _).ne (hne hd)
  | shutdown wait hl hc | joinedAll i hc | joinInterrupted hc | joined hc he =>
      exact goTo_callers_ne (hne hd)
  | release hn hp hr hl | advance hn hth | interrupt hn hth => rfl

/-- A caller that is out stays out until it makes a call. -/
theorem out_step (h : s.step a = some s') (ha : a.within = true ∨ a.caller ≠ some d)
    (hc : s.callers d = .out v) : s'.callers d = .out v := by
  by_cases hd : a.caller = some d
  · have hwithin := ha.resolve_right fun hn => hn hd
    cases a with
    | wake e =>
        cases hd
        simp only [step, wake, hc] at h
        split at h <;> simp_all
    | goOn e i =>
        cases hd
        simp [step, goOn, hc] at h
    | worker | interrupt => cases hd
    | runInThread | blockForAvailableThreads | shutdown => cases hwithin
  · rw [callers_eq h hd, hc]

/-! ### What a call returns -/

/-- `blockForAvailableThreads` waits on, or returns. -/
theorem block_step (h : s.step a = some s') (ha : a.within = true ∨ a.caller ≠ some c)
    (hc : s.callers c = .awaitAvailable) : s'.callers c = .awaitAvailable ∨
      ∃ k, s'.callers c = .out (.blockForAvailableThreads k) := by
  by_cases hd : a.caller = some c
  · have hwithin := ha.resolve_right fun hn => hn hd
    cases a with
    | wake e =>
        cases hd
        cases step_stepped h with
        | wakeAvailable hl hc' =>
            unfold SimpleThreadPool.blockForAvailableThreads
            split
            · exact .inl goTo_callers_self
            · exact .inr ⟨_, goTo_callers_self⟩
        | wakeWorker hl hc' | wakeHandoff hl hc' | wakeBusy hl hc' =>
            rw [hc] at hc'
            cases hc'
    | goOn e i =>
        cases hd
        simp [step, goOn, hc] at h
    | worker | interrupt => cases hd
    | runInThread | blockForAvailableThreads | shutdown => cases hwithin
  · rw [callers_eq h hd]
    exact .inl hc

/-- A hand-over is made. -/
theorem Sound.handOver_step (hs : s.Sound) (h : s.step a = some s')
    (ha : a.within = true ∨ a.caller ≠ some c) {wt : Nat} {r : ρ}
    (hc : s.callers c = .handOver wt r) :
    s'.callers c = .handOver wt r ∨ s'.callers c = .out (.runInThread true) := by
  by_cases hd : a.caller = some c
  · have hwithin := ha.resolve_right fun hn => hn hd
    cases a with
    | wake e =>
        cases hd
        cases step_stepped h with
        | wakeWorker hl hc' | wakeAvailable hl hc' | wakeHandoff hl hc' | wakeBusy hl hc' =>
            rw [hc] at hc'
            cases hc'
    | goOn e i =>
        cases hd
        cases step_stepped h with
        | handOver i hc' hw =>
            rw [hs.handOver_eq hc']
            exact .inr goTo_callers_self
        | signal _ hc' | joinedAll _ hc' | joinInterrupted hc' | joined hc' =>
            rw [hc] at hc'
            cases hc'
    | worker | interrupt => cases hd
    | runInThread | blockForAvailableThreads | shutdown => cases hwithin
  · rw [callers_eq h hd]
    exact .inl hc

/-! ### A call of `shutdown` -/

/-- After a test of `shutdown`, the call is not at its end. -/
theorem tested_shutting {p : Caller ρ}
    (hp : p = .awaitHandoff ∨ p = .awaitBusy ∨ p = .join s.workers) :
    ((s.goTo d p).callers d).shutting true ∧ ∀ v, (s.goTo d p).callers d ≠ .out v := by
  rw [goTo_callers_self]
  rcases hp with rfl | rfl | rfl
  · exact ⟨rfl, by simp⟩
  · exact ⟨rfl, by simp⟩
  · exact ⟨rfl, by simp⟩

/-- A call of `shutdown` goes on; a `shutdown(true)` returns from its last loop. -/
theorem shutting_step (h : s.step a = some s') (ha : a.within = true)
    (hp : (s.callers d).shutting wait) : (s'.callers d).shutting wait ∧
      (wait = true → ∀ v, s'.callers d = .out v →
        s.callers d = .out v ∨ s.callers d = .join []) := by
  by_cases hd : a.caller = some d
  · have hno {q : Caller ρ} (hc : s.callers d = q) (hq : ¬ q.shutting wait) : False :=
      hq (hc ▸ hp)
    have htested {t : SimpleThreadPool ρ} (ht : ∃ p, t = s.goTo d p ∧
        (p = .awaitHandoff ∨ p = .awaitBusy ∨ p = .join s.workers)) :
        (t.callers d).shutting true ∧ ∀ v, t.callers d ≠ .out v := by
      obtain ⟨p, rfl, hcases⟩ := ht
      exact tested_shutting hcases
    cases step_stepped h with
    | wakeWorker hl hc | wakeAvailable hl hc | handOver i hc hw =>
        cases hd
        exact (hno hc id).elim
    | wakeHandoff hl hc =>
        cases hd
        have hwait : wait = true := by rwa [hc] at hp
        obtain ⟨hshut, hne⟩ := htested (testHandoff_goTo s d)
        exact ⟨hwait ▸ hshut, fun _ v hv => absurd hv (hne v)⟩
    | wakeBusy hl hc =>
        cases hd
        have hwait : wait = true := by rwa [hc] at hp
        obtain ⟨hshut, hne⟩ := htested (testBusy_goTo s d)
        exact ⟨hwait ▸ hshut, fun _ v hv => absurd hv (hne v)⟩
    | signal i hc =>
        cases hd
        rw [hc] at hp
        cases hp
        unfold SimpleThreadPool.signal
        split
        · rw [goTo_callers_self]
          exact ⟨rfl, by simp⟩
        · rw [goTo_callers_self]
          exact ⟨rfl, by simp⟩
        · obtain ⟨hshut, hne⟩ := htested (testHandoff_goTo s d)
          exact ⟨hshut, fun _ v hv => absurd hv (hne v)⟩
    | joinedAll i hc =>
        cases hd
        rw [goTo_callers_self]
        exact ⟨rfl, fun _ _ _ => .inr hc⟩
    | joinInterrupted hc | joined hc he =>
        cases hd
        rw [goTo_callers_self]
        exact ⟨by rwa [hc] at hp, by simp⟩
    | release | advance | interrupt => cases hd
    | refuse | runInThread | blockForAvailableThreads | shutdown => cases ha
  · rw [callers_eq h hd]
    exact ⟨hp, fun _ _ => .inl⟩

/-! ### What shuts a pool down, and what makes it grow -/

/-- A pool is shut down by a call of `shutdown` only. -/
theorem isShutdown_step (h : s.step a = some s') (hs : s'.isShutdown = true) :
    s.isShutdown = true ∨ ∃ d wait, a = .shutdown d wait := by
  have hfind {d : Nat} {r : ρ} (hs : (s.findWorker d r).isShutdown = true) :
      s.isShutdown = true := by
    unfold SimpleThreadPool.findWorker at hs
    split at hs
    · assumption
    · split at hs <;> exact hs
  have hblock {d : Nat} (hs : (s.blockForAvailableThreads d).isShutdown = true) :
      s.isShutdown = true := by
    unfold SimpleThreadPool.blockForAvailableThreads at hs
    split at hs <;> exact hs
  have htested {d : Nat} {t : SimpleThreadPool ρ} (ht : ∃ p, t = s.goTo d p ∧
      (p = .awaitHandoff ∨ p = .awaitBusy ∨ p = .join s.workers)) (hs : t.isShutdown = true) :
      s.isShutdown = true := by
    obtain ⟨p, rfl, -⟩ := ht
    exact hs
  cases step_stepped h with
  | shutdown wait hl hc => exact .inr ⟨_, _, rfl⟩
  | @runInThread d v r hl hc =>
      refine .inl ?_
      unfold SimpleThreadPool.runInThread SimpleThreadPool.findWorker at hs
      split at hs
      · assumption
      · split at hs <;> exact hs
  | wakeWorker hl hc => exact .inl (hfind hs)
  | blockForAvailableThreads hl hc | wakeAvailable hl hc => exact .inl (hblock hs)
  | wakeHandoff hl hc => exact .inl (htested (testHandoff_goTo s _) hs)
  | wakeBusy hl hc => exact .inl (htested (testBusy_goTo s _) hs)
  | handOver i hc hw =>
      unfold SimpleThreadPool.handOver at hs
      split at hs <;> exact .inl hs
  | signal i hc =>
      unfold SimpleThreadPool.signal at hs
      split at hs
      · exact .inl hs
      · exact .inl hs
      · exact .inl (htested (testHandoff_goTo s _) hs)
  | refuse | joinedAll | joinInterrupted | joined | release | advance | interrupt => exact .inl hs

/-- A pool that is shut down grows only by what is handed to it. -/
theorem created_step (h : s.step a = some s') (hpends : s.isShutdown = true →
    (∀ d, (s.callers d).pends = false) ∧ ∀ d r, a ≠ .runInThread d (some r)) :
    s'.created = s.created := by
  have hfind {t : SimpleThreadPool ρ} {d : Nat} {r : ρ} (hn : t.created = s.created)
      (ht : t.isShutdown = s.isShutdown) (hd : s.isShutdown ≠ true) :
      (t.findWorker d r).created = s.created := by
    unfold SimpleThreadPool.findWorker
    rw [if_neg (by rwa [ht])]
    split <;> exact hn
  have htested {d : Nat} {t : SimpleThreadPool ρ} (ht : ∃ p, t = s.goTo d p ∧
      (p = .awaitHandoff ∨ p = .awaitBusy ∨ p = .join s.workers)) : t.created = s.created := by
    obtain ⟨p, rfl, -⟩ := ht
    rfl
  cases step_stepped h with
  | @runInThread d v r hl hc =>
      exact hfind (t := { s with handoffPending := true }) rfl rfl fun hd => (hpends hd).2 d r rfl
  | @wakeWorker d r hl hc =>
      refine hfind rfl rfl fun hd => ?_
      have hn := (hpends hd).1 d
      rw [hc] at hn
      cases hn
  | blockForAvailableThreads hl hc | wakeAvailable hl hc =>
      unfold SimpleThreadPool.blockForAvailableThreads
      split <;> rfl
  | wakeHandoff hl hc => exact htested (testHandoff_goTo s _)
  | wakeBusy hl hc => exact htested (testBusy_goTo s _)
  | handOver i hc hw =>
      unfold SimpleThreadPool.handOver
      split <;> rfl
  | signal i hc =>
      unfold SimpleThreadPool.signal
      split
      · rfl
      · rfl
      · exact htested (testHandoff_goTo s _)
  | refuse | shutdown | joinedAll | joinInterrupted | joined | release | advance | interrupt => rfl

/-! ### What a caller has to hand over -/

/-- The runnable that `runInThread` is called with. -/
def Action.asks : Action ρ → List ρ
  | .runInThread _ (some r) => [r]
  | _ => []

/-- A last job is handed over at once; any other runnable is pending. -/
theorem findWorker_pending (r : ρ) :
    ((s.findWorker c r).callers c).pending ++ (if s.isShutdown then [r] else []) = [r] := by
  unfold findWorker
  split
  · rw [lastJob, goTo_callers_self]
    rfl
  · split <;> rw [goTo_callers_self] <;> rfl

/-- What the only user has been asked to run is handed to a worker, or is yet to be. -/
theorem UserOk.pending_step (h : Guarded (stepOf SimpleThreadPool.step) (OnlyUser c) s a s')
    (hu : s.UserOk c) :
    (s'.callers c).pending ++ s.accepts a = (s.callers c).pending ++ a.asks := by
  have hpend {d : Nat} {q : Caller ρ} (hd : s.callers d = q) (hq : q.pends = true) : d = c := by
    by_contra hne
    have hn := hu.others d hne
    rw [hd, hq] at hn
    cases hn
  -- a caller moves that has nothing to hand over, before or after
  have hmoves {d : Nat} {q p : Caller ρ} {t : SimpleThreadPool ρ} (hd : s.callers d = q)
      (hq : q.pending = []) (ht : t.callers = Function.update s.callers d p) (hp : p.pending = []) :
      (t.callers c).pending = (s.callers c).pending := by
    rw [ht]
    by_cases hdc : c = d
    · subst hdc
      rw [Function.update_self, hp, hd, hq]
    · rw [Function.update_of_ne hdc]
  have htested {d : Nat} {q : Caller ρ} {t : SimpleThreadPool ρ} (hd : s.callers d = q)
      (hq : q.pending = []) (ht : ∃ p, t = s.goTo d p ∧
        (p = .awaitHandoff ∨ p = .awaitBusy ∨ p = .join s.workers)) :
      (t.callers c).pending = (s.callers c).pending := by
    obtain ⟨p, rfl, rfl | rfl | rfl⟩ := ht
    · exact hmoves hd hq rfl rfl
    · exact hmoves hd hq rfl rfl
    · exact hmoves hd hq rfl rfl
  have hblock {d : Nat} {q : Caller ρ} (hd : s.callers d = q) (hq : q.pending = []) :
      ((s.blockForAvailableThreads d).callers c).pending = (s.callers c).pending := by
    unfold SimpleThreadPool.blockForAvailableThreads
    split
    · exact hmoves hd hq rfl rfl
    · exact hmoves hd hq rfl rfl
  cases step_stepped h.1 with
  | @runInThread d v r hl hc =>
      obtain rfl := h.2 d r rfl
      have hfind := findWorker_pending (s := { s with handoffPending := true }) (c := d) r
      rw [hc]
      exact hfind
  | @wakeWorker d r hl hc =>
      obtain rfl := hpend hc rfl
      simpa [accepts, Action.asks, Caller.pending, hc] using findWorker_pending (s := s) (c := d) r
  | @handOver d wt r i hc hw =>
      obtain rfl := hpend hc rfl
      have hok := hu.sound.caller d
      rw [hc] at hok
      rw [hu.sound.handOver_eq hc]
      simp [accepts, Action.asks, Caller.pending, hc, hok.2.1.runnable]
  | refuse hc => simpa [accepts, Action.asks] using hmoves hc rfl rfl rfl
  | blockForAvailableThreads hl hc => simpa [accepts, Action.asks] using hblock hc rfl
  | shutdown wait hl hc => simpa [accepts, Action.asks] using hmoves hc rfl rfl rfl
  | wakeAvailable hl hc => simpa [accepts, Action.asks, hc] using hblock hc rfl
  | wakeHandoff hl hc =>
      simpa [accepts, Action.asks, hc] using htested hc rfl (testHandoff_goTo s _)
  | wakeBusy hl hc =>
      simpa [accepts, Action.asks, hc] using htested hc rfl (testBusy_goTo s _)
  | signal i hc =>
      simp only [accepts, Action.asks, hc, List.append_nil]
      unfold SimpleThreadPool.signal
      split
      · exact hmoves hc rfl rfl rfl
      · exact hmoves hc rfl rfl rfl
      · exact htested hc rfl (testHandoff_goTo s _)
  | joinedAll i hc => simpa [accepts, Action.asks, hc] using hmoves hc rfl rfl rfl
  | joinInterrupted hc => simpa [accepts, Action.asks, hc] using hmoves hc rfl rfl rfl
  | joined hc he => simpa [accepts, Action.asks, hc] using hmoves hc rfl rfl rfl
  | release hn hp hr hl | advance hn hth | interrupt hn hth => rfl

/-! ### A pool that is handed nothing -/

/-- No worker is busy, and nobody has a runnable to hand over. -/
structure Quiet (s : SimpleThreadPool ρ) : Prop where
  busy : s.busyWorkers = []
  pends : ∀ c, (s.callers c).pends = false

theorem Quiet.goTo (hq : s.Quiet) {t : SimpleThreadPool ρ} {p : Caller ρ}
    (hb : t.busyWorkers = s.busyWorkers) (hcallers : t.callers = s.callers)
    (hp : p.pends = false) : (t.goTo c p).Quiet where
  busy := hb.trans hq.busy
  pends d := by
    by_cases hd : d = c
    · rw [hd, goTo_callers_self]
      exact hp
    · rw [goTo_callers_ne hd, hcallers]
      exact hq.pends d

/-- The tests of `shutdown` hand nothing over. -/
theorem Quiet.tested (hq : s.Quiet) {p : Caller ρ}
    (hp : p = .awaitHandoff ∨ p = .awaitBusy ∨ p = .join s.workers) : (s.goTo c p).Quiet := by
  refine hq.goTo rfl rfl ?_
  rcases hp with rfl | rfl | rfl <;> rfl

/-- A pool that is handed nothing stays quiet. -/
theorem Quiet.step (h : s.step a = some s') (hq : s.Quiet)
    (ha : ∀ c r, a ≠ .runInThread c (some r)) : s'.Quiet := by
  have hno {c : Nat} {q : Caller ρ} (hc : s.callers c = q) (hp : q.pends = true) : False := by
    have hn := hq.pends c
    rw [hc, hp] at hn
    cases hn
  cases step_stepped h with
  | refuse hc => exact ⟨hq.busy, (hq.goTo (t := s) rfl rfl rfl).pends⟩
  | runInThread hl hc => exact absurd rfl (ha _ _)
  | wakeWorker hl hc => exact (hno hc rfl).elim
  | handOver i hc hw => exact (hno hc rfl).elim
  | blockForAvailableThreads hl hc | wakeAvailable hl hc =>
      unfold SimpleThreadPool.blockForAvailableThreads
      split <;> exact hq.goTo rfl rfl rfl
  | @wakeHandoff c hl hc =>
      obtain ⟨p, htest, hcases⟩ := testHandoff_goTo s c
      exact htest ▸ hq.tested hcases
  | @wakeBusy c hl hc =>
      obtain ⟨p, htest, hcases⟩ := testBusy_goTo s c
      exact htest ▸ hq.tested hcases
  | @signal c wts w i hc =>
      unfold SimpleThreadPool.signal
      split
      · exact hq.goTo rfl rfl rfl
      · exact hq.goTo rfl rfl rfl
      · obtain ⟨p, htest, hcases⟩ := testHandoff_goTo s c
        exact htest ▸ hq.tested hcases
  | shutdown wait hl hc | joinedAll i hc | joinInterrupted hc | joined hc he =>
      exact hq.goTo rfl rfl rfl
  | @release wt hn hp hr hl =>
      refine ⟨?_, hq.pends⟩
      simp [SimpleThreadPool.release, hq.busy]
  | advance hn hth | interrupt hn hth => exact ⟨hq.busy, hq.pends⟩

/-- Of a pool with one user that has come to be quiet: all that its user has asked for has been run
to its end, once for each time it was asked for. -/
theorem Quiet.asked_run (hq : s'.Quiet) {cfg : PoolConfig} (h : initialized cfg = .ok s)
    {tr : List (SimpleThreadPool ρ × Action ρ)}
    (hrun : Run (Guarded (stepOf SimpleThreadPool.step) (OnlyUser c)) s tr s') :
    total (fun s a => (s.finishes a : Multiset ρ)) tr =
      total (fun _ a => (a.asks : Multiset ρ)) tr := by
  have hall := hrun.of_guarded
  have hu := hrun.invariant (fun _ _ _ hstep hu => UserOk.step hstep hu) (initialized_user h)
  have hheld : s'.held = 0 := by
    unfold held left
    simp [hu.sound.held_nil_of_busy hq.busy]
  have hdrops : total (fun s a => (s.drops a : Multiset ρ)) tr = 0 := by
    rcases drops_run h hall with ⟨wt, hl⟩ | hnone
    · have hbusy := hl.busy
      rw [hq.busy] at hbusy
      cases hbusy
    · exact hnone
  have haccount := account_run h hall
  rw [total_add, hdrops, hheld, zero_add, add_zero] at haccount
  have hstep : ∀ (s : SimpleThreadPool ρ) (a : Action ρ) (s' : SimpleThreadPool ρ),
      Guarded (stepOf SimpleThreadPool.step) (OnlyUser c) s a s' → s.UserOk c →
        ((s'.callers c).pending : Multiset ρ) + s.accepts a = (s.callers c).pending + a.asks :=
    fun _ _ _ hstep hu => congrArg ((↑) : List ρ → Multiset ρ) (hu.pending_step hstep)
  have hpending := hrun.balance (fun _ _ _ hstep hu => UserOk.step hstep hu) hstep
    (initialized_user h)
  rw [initialized_out h, Caller.pending_of_pends (hq.pends c)] at hpending
  rw [haccount]
  simpa [Caller.pending] using hpending

/-- The pool's threads have ended. -/
def Ended (s : SimpleThreadPool ρ) : Prop := ∀ wt < s.created, (s.threads wt).place = .ended

/-- Threads that have ended stay so, as long as nothing is handed over. -/
theorem ended_step (h : s.step a = some s') (hq : s.Quiet) (he : s.Ended)
    (ha : ∀ c r, a ≠ .runInThread c (some r)) : s'.Ended := by
  have hno {c : Nat} {q : Caller ρ} (hc : s.callers c = q) (hp : q.pends = true) : False := by
    have hn := hq.pends c
    rw [hc, hp] at hn
    cases hn
  have htested {c : Nat} {t : SimpleThreadPool ρ} (ht : ∃ p, t = s.goTo c p ∧
      (p = .awaitHandoff ∨ p = .awaitBusy ∨ p = .join s.workers)) : t.Ended := by
    obtain ⟨p, rfl, -⟩ := ht
    exact he
  cases step_stepped h with
  | runInThread hl hc => exact absurd rfl (ha _ _)
  | wakeWorker hl hc => exact (hno hc rfl).elim
  | handOver i hc hw => exact (hno hc rfl).elim
  | blockForAvailableThreads hl hc | wakeAvailable hl hc =>
      unfold SimpleThreadPool.blockForAvailableThreads
      split <;> exact he
  | @wakeHandoff c hl hc => exact htested (testHandoff_goTo s c)
  | @wakeBusy c hl hc => exact htested (testBusy_goTo s c)
  | @signal c wts w i hc =>
      unfold SimpleThreadPool.signal
      split
      · intro v hv
        exact ended_update (he v hv) fun hvw => hvw ▸ he v hv
      · exact he
      · exact htested (testHandoff_goTo s c)
  | refuse hc | shutdown wait hl hc | joinedAll i hc | joinInterrupted hc | joined hc hend =>
      exact he
  | @release wt hn hp hr hl =>
      rw [he wt hn] at hp
      cases hp
  | @advance wt th hn hth =>
      rw [WorkerThread.advance, he wt hn] at hth
      cases hth
  | @interrupt wt th hn hth =>
      have hwait := (WorkerThread.interrupted_inv hth).1
      rw [he wt hn] at hwait
      cases hwait

end SimpleThreadPool

end MRF.Pool
