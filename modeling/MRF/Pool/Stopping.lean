import MRF.Pool.Return

/-!
# Pool — Stopping

What a `shutdown(true)` relies on: after its first loop every worker of the pool has been told to
stop, or is a `WorkerThread-LastJob`; and a pending hand-off has a caller that waits to make it.

`step_keepsStops`: a worker that stops goes on to, and a worker that is new to the pool stops.
`Stopping.step` carries the invariant along.
-/

namespace MRF.Pool
open MRF.Library

variable {ρ : Type*}

namespace SimpleThreadPool

variable {s s' t : SimpleThreadPool ρ} {a : Action ρ} {c wt : Nat} {p : Caller ρ}
  {tr : List (SimpleThreadPool ρ × Action ρ)}

/-- The worker has been told to stop, or stops by itself. -/
def Stops (s : SimpleThreadPool ρ) (wt : Nat) : Prop :=
  wt < s.created ∧
    ((s.threads wt).run = false ∨ wt ∈ s.busyWorkers ∧ (s.threads wt).runOnce = true)

/-- What a caller in `shutdown` has told the workers. -/
def StoppedFor (s : SimpleThreadPool ρ) : Caller ρ → Prop
  | .signal wts _ => ∀ wt ∈ s.workers, wt ∈ wts ∨ s.Stops wt
  | .awaitHandoff => ∀ wt ∈ s.workers, s.Stops wt
  | .awaitBusy => ∀ wt ∈ s.workers, s.Stops wt
  | .join wts => ∀ wt ∈ wts, s.Stops wt
  | _ => True

/-- What is kept of the workers that `shutdown` goes through. -/
structure Stopping (s : SimpleThreadPool ρ) : Prop where
  stopped : ∀ c, s.StoppedFor (s.callers c)
  pending : s.handoffPending = true → ∃ c, (s.callers c).pends = true

/-! ### Workers that have been told -/

/-- What a step keeps of the workers that stop. -/
structure KeepsStops (s t : SimpleThreadPool ρ) : Prop where
  stops : ∀ wt, s.Stops wt → t.Stops wt
  workers : ∀ wt ∈ t.workers, wt ∈ s.workers ∨ t.Stops wt

/-- What a caller has told the workers stays told. -/
theorem KeepsStops.stoppedFor (h : KeepsStops s t) (hp : s.StoppedFor p) : t.StoppedFor p := by
  cases p with
  | signal wts wait =>
      intro wt hwt
      rcases h.workers wt hwt with hw | hst
      · exact (hp wt hw).imp_right (h.stops wt)
      · exact .inr hst
  | awaitHandoff | awaitBusy =>
      intro wt hwt
      rcases h.workers wt hwt with hw | hst
      · exact h.stops wt (hp wt hw)
      · exact hst
  | join wts => exact fun wt hwt => h.stops wt (hp wt hwt)
  | out | awaitWorker | handOver | awaitAvailable => trivial

/-- A step that leaves the threads leaves who stops. -/
theorem keepsStops_of_eq (hth : t.threads = s.threads)
    (hb : ∀ wt ∈ s.busyWorkers, wt ∈ t.busyWorkers) (hn : t.created = s.created)
    (hw : ∀ wt ∈ t.workers, wt ∈ s.workers) : KeepsStops s t where
  stops wt hst := ⟨hn ▸ hst.1, by rw [hth]; exact hst.2.imp_right fun h => ⟨hb wt h.1, h.2⟩⟩
  workers wt hwt := .inl (hw wt hwt)

/-- A worker changes that goes on being told to stop. -/
theorem keepsStops_update {v : Nat} {th : WorkerThread ρ}
    (hth : t.threads = Function.update s.threads v th) (hn : t.created = s.created)
    (hb : ∀ wt ∈ s.busyWorkers, wt ≠ v → wt ∈ t.busyWorkers) (hw : t.workers = s.workers)
    (hv : s.Stops v → th.run = false ∨ v ∈ t.busyWorkers ∧ th.runOnce = true) : KeepsStops s t where
  stops wt hst := by
    refine ⟨hn ▸ hst.1, ?_⟩
    rw [hth]
    by_cases hwt : wt = v
    · subst hwt
      rw [Function.update_self]
      exact hv hst
    · rw [Function.update_of_ne hwt]
      exact hst.2.imp_right fun h => ⟨hb wt h.1 hwt, h.2⟩
  workers wt hwt := .inl (hw ▸ hwt)

/-- A last job is a worker that stops by itself. -/
theorem lastJob_keepsStops (r : ρ) : KeepsStops s (s.lastJob c r) := by
  have hth : ∀ wt, wt ≠ s.created → (s.lastJob c r).threads wt = s.threads wt := fun wt h =>
    Function.update_of_ne h _ _
  have hnew : (s.lastJob c r).Stops s.created := by
    refine ⟨Nat.lt_succ_self _, .inr ⟨List.mem_append_right _ List.mem_cons_self, ?_⟩⟩
    rw [show (s.lastJob c r).threads s.created = .initial (some r) from Function.update_self _ _ _]
    rfl
  constructor
  · rintro wt ⟨hlt, htold⟩
    refine ⟨Nat.lt_succ_of_lt hlt, ?_⟩
    rw [hth wt (Nat.ne_of_lt hlt)]
    exact htold.imp_right fun h => ⟨List.mem_append_left _ h.1, h.2⟩
  · intro wt hwt
    rcases List.mem_append.mp hwt with h | h
    · exact .inl h
    · exact .inr (List.mem_singleton.mp h ▸ hnew)

theorem findWorker_keepsStops (r : ρ) : KeepsStops s (s.findWorker c r) := by
  unfold findWorker
  split
  · exact lastJob_keepsStops r
  · split
    · exact keepsStops_of_eq rfl (fun _ h => h) rfl fun _ h => h
    · exact keepsStops_of_eq rfl (fun _ h => List.mem_append_left _ h) rfl fun _ h => h

theorem goTo_keepsStops : KeepsStops s (s.goTo c p) :=
  keepsStops_of_eq rfl (fun _ h => h) rfl fun _ h => h

theorem blockForAvailableThreads_keepsStops : KeepsStops s (s.blockForAvailableThreads c) := by
  unfold blockForAvailableThreads
  split <;> exact goTo_keepsStops

theorem testBusy_keepsStops : KeepsStops s (s.testBusy c) := by
  unfold testBusy
  split <;> exact goTo_keepsStops

theorem testHandoff_keepsStops : KeepsStops s (s.testHandoff c) := by
  unfold testHandoff
  split
  · exact goTo_keepsStops
  · exact testBusy_keepsStops

/-- A turn of the first loop tells one more worker to stop. -/
theorem signal_keepsStops (wts : List Nat) (wait : Bool) : KeepsStops s (s.signal c wts wait) := by
  unfold signal
  split
  · exact keepsStops_update rfl rfl (fun _ h _ => h) rfl fun _ => .inl rfl
  · exact goTo_keepsStops
  · exact testHandoff_keepsStops

/-- A runnable does not make a worker go on that was told to stop. -/
theorem handOver_keepsStops (r : ρ) : KeepsStops s (s.handOver c wt r) := by
  unfold handOver
  split
  · exact goTo_keepsStops
  · next th hth =>
      obtain ⟨-, rfl⟩ := WorkerThread.runWith_inv hth
      exact keepsStops_update rfl rfl (fun _ h _ => h) rfl fun h => h.2

/-- A worker that stops keeps stopping, in every step. -/
theorem step_keepsStops (h : s.step a = some s') : KeepsStops s s' := by
  cases step_stepped h with
  | refuse hc => exact keepsStops_of_eq rfl (fun _ h => h) rfl fun _ h => h
  | @runInThread c v r hl hc =>
      have hkeeps : KeepsStops { s with handoffPending := true } (s.runInThread c r) :=
        findWorker_keepsStops r
      exact ⟨fun wt h => hkeeps.stops wt h, hkeeps.workers⟩
  | blockForAvailableThreads hl hc => exact blockForAvailableThreads_keepsStops
  | wakeAvailable hl hc => exact blockForAvailableThreads_keepsStops
  | shutdown wait hl hc => exact keepsStops_of_eq rfl (fun _ h => h) rfl fun _ h => h
  | wakeWorker hl hc => exact findWorker_keepsStops _
  | wakeHandoff hl hc => exact testHandoff_keepsStops
  | wakeBusy hl hc => exact testBusy_keepsStops
  | handOver i hc hw => exact handOver_keepsStops _
  | signal i hc => exact signal_keepsStops _ _
  | joinedAll i hc => exact goTo_keepsStops
  | joinInterrupted hc => exact goTo_keepsStops
  | joined hc he => exact keepsStops_of_eq rfl (fun _ h => h) rfl fun _ h => List.mem_of_mem_erase h
  | @release wt hn hp hr hl =>
      refine keepsStops_update (v := wt) rfl rfl (fun v h hv => (List.mem_erase_of_ne hv).mpr h) rfl
        fun hst => .inl ?_
      unfold WorkerThread.released
      split
      · rfl
      · next honce => exact hst.2.resolve_right fun h => honce h.2
  | @advance wt th hn hth =>
      have hadv := WorkerThread.advance_advanced hth
      refine keepsStops_update (v := wt) rfl rfl (fun _ h _ => h) rfl fun h => ?_
      rw [hadv.run_eq, hadv.runOnce_eq]
      exact h.2
  | @interrupt wt th hn hth =>
      obtain ⟨-, rfl⟩ := WorkerThread.interrupted_inv hth
      exact keepsStops_update (v := wt) rfl rfl (fun _ h _ => h) rfl fun h => h.2

/-! ### The callers in `shutdown` -/

/-- One caller moves. -/
theorem stopping_moved (hstopped : ∀ d, s.StoppedFor (s.callers d)) (hk : KeepsStops s t)
    (hcallers : t.callers = Function.update s.callers c p) (hp : t.StoppedFor p)
    (hpending : t.handoffPending = true → p.pends = true ∨
      ∃ d, d ≠ c ∧ (s.callers d).pends = true) : t.Stopping where
  stopped d := by
    rw [hcallers]
    by_cases hdc : d = c
    · rw [hdc, Function.update_self]
      exact hp
    · rw [Function.update_of_ne hdc]
      exact hk.stoppedFor (hstopped d)
  pending ht := by
    rw [hcallers]
    rcases hpending ht with h | ⟨d, hdc, hd⟩
    · exact ⟨c, by rwa [Function.update_self]⟩
    · exact ⟨d, by rwa [Function.update_of_ne hdc]⟩

/-- A caller moves that has nothing to hand over. -/
theorem Stopping.moved (hst : s.Stopping) (hk : KeepsStops s t)
    (hcallers : t.callers = Function.update s.callers c p) (hp : t.StoppedFor p)
    (ht : t.handoffPending = s.handoffPending) (hc : (s.callers c).pends = false) : t.Stopping := by
  refine stopping_moved hst.stopped hk hcallers hp fun h => .inr ?_
  obtain ⟨d, hd⟩ := hst.pending (ht ▸ h)
  refine ⟨d, ?_, hd⟩
  rintro rfl
  rw [hc] at hd
  cases hd

/-- No caller moves. -/
theorem Stopping.kept (hst : s.Stopping) (hk : KeepsStops s t) (hcallers : t.callers = s.callers)
    (ht : t.handoffPending = s.handoffPending) : t.Stopping where
  stopped d := by
    rw [hcallers]
    exact hk.stoppedFor (hst.stopped d)
  pending h := by
    rw [hcallers]
    exact hst.pending (ht ▸ h)

theorem Stopping.blockForAvailableThreads (hst : s.Stopping) (hc : (s.callers c).pends = false) :
    (s.blockForAvailableThreads c).Stopping := by
  unfold SimpleThreadPool.blockForAvailableThreads
  split <;> exact hst.moved goTo_keepsStops rfl trivial rfl hc

/-- A caller that takes a worker has a runnable to hand over. -/
theorem findWorker_stopping (hstopped : ∀ d, s.StoppedFor (s.callers d)) (r : ρ) :
    (s.findWorker c r).Stopping := by
  have hk := findWorker_keepsStops (s := s) (c := c) r
  unfold findWorker at hk ⊢
  split
  · next hsd =>
      rw [if_pos hsd] at hk
      exact stopping_moved hstopped hk rfl trivial fun h => by cases h
  · next hsd =>
      rw [if_neg hsd] at hk
      split
      · next ha =>
          rw [ha] at hk
          exact stopping_moved hstopped hk rfl trivial fun _ => .inl rfl
      · next ha =>
          rw [ha] at hk
          exact stopping_moved hstopped hk rfl trivial fun _ => .inl rfl

theorem Stopping.testBusy (hst : s.Stopping) (hc : (s.callers c).pends = false)
    (hw : ∀ wt ∈ s.workers, s.Stops wt) : (s.testBusy c).Stopping := by
  unfold SimpleThreadPool.testBusy
  split
  · exact hst.moved goTo_keepsStops rfl hw rfl hc
  · exact hst.moved goTo_keepsStops rfl hw rfl hc

theorem Stopping.testHandoff (hst : s.Stopping) (hc : (s.callers c).pends = false)
    (hw : ∀ wt ∈ s.workers, s.Stops wt) : (s.testHandoff c).Stopping := by
  unfold SimpleThreadPool.testHandoff
  split
  · exact hst.moved goTo_keepsStops rfl hw rfl hc
  · exact hst.testBusy hc hw

/-- The first loop tells the workers one after the other. -/
theorem Stopping.signal (hst : s.Stopping) (hs : s.Sound) {wts : List Nat} {wait : Bool}
    (hc : s.callers c = .signal wts wait) : (s.signal c wts wait).Stopping := by
  have hstopped := hst.stopped c
  rw [hc] at hstopped
  have hpends : (s.callers c).pends = false := by rw [hc]; rfl
  have hk := signal_keepsStops (s := s) (c := c) wts wait
  unfold SimpleThreadPool.signal at hk ⊢
  split
  · next v wts =>
      refine hst.moved hk rfl (fun wt hwt => ?_) rfl hpends
      rcases hstopped wt hwt with h | h
      · rcases List.mem_cons.mp h with rfl | h
        · refine .inr ⟨hs.lists.lt wt hwt, .inl ?_⟩
          change (Function.update s.threads wt (s.threads wt).shutdown wt).run = false
          rw [Function.update_self]
          rfl
        · exact .inl h
      · exact .inr (hk.stops wt h)
  · exact hst.moved goTo_keepsStops rfl trivial rfl hpends
  · refine hst.testHandoff hpends fun wt hwt => ?_
    exact (hstopped wt hwt).resolve_left List.not_mem_nil

/-- Every step keeps it. -/
theorem Stopping.step (h : s.step a = some s') (hs : s.Sound) (hst : s.Stopping) :
    s'.Stopping := by
  have hk := step_keepsStops h
  have hpends {q : Caller ρ} {c : Nat} (hc : s.callers c = q) (hq : q.pends = false) :
      (s.callers c).pends = false := by rw [hc]; exact hq
  cases step_stepped h with
  | refuse hc => exact hst.moved hk rfl trivial rfl (hpends hc rfl)
  | @runInThread c v r hl hc =>
      have hkeeps : KeepsStops s { s with handoffPending := true } :=
        keepsStops_of_eq rfl (fun _ h => h) rfl fun _ h => h
      exact findWorker_stopping (s := { s with handoffPending := true })
        (fun d => hkeeps.stoppedFor (hst.stopped d)) r
  | blockForAvailableThreads hl hc => exact hst.blockForAvailableThreads (hpends hc rfl)
  | wakeAvailable hl hc => exact hst.blockForAvailableThreads (hpends hc rfl)
  | shutdown wait hl hc =>
      exact hst.moved hk rfl (fun wt hwt => .inl hwt) rfl (hpends hc rfl)
  | wakeWorker hl hc => exact findWorker_stopping hst.stopped _
  | @wakeHandoff c hl hc =>
      have hstopped := hst.stopped c
      rw [hc] at hstopped
      exact hst.testHandoff (hpends hc rfl) hstopped
  | @wakeBusy c hl hc =>
      have hstopped := hst.stopped c
      rw [hc] at hstopped
      exact hst.testBusy (hpends hc rfl) hstopped
  | handOver i hc hw =>
      rw [hs.handOver_eq hc] at hk ⊢
      exact stopping_moved hst.stopped hk rfl trivial fun h => by cases h
  | signal i hc => exact hst.signal hs hc
  | joinedAll i hc => exact hst.moved hk rfl trivial rfl (hpends hc rfl)
  | @joinInterrupted c wt wts hc =>
      have hstopped := hst.stopped c
      rw [hc] at hstopped
      exact hst.moved hk rfl (fun v hv => hk.stops v (hstopped v (List.mem_cons_of_mem _ hv)))
        rfl (hpends hc rfl)
  | @joined c wt wts hc he =>
      have hstopped := hst.stopped c
      rw [hc] at hstopped
      exact hst.moved hk rfl (fun v hv => hk.stops v (hstopped v (List.mem_cons_of_mem _ hv)))
        rfl (hpends hc rfl)
  | release hn hp hr hl => exact hst.kept hk rfl rfl
  | advance hn hth => exact hst.kept hk rfl rfl
  | interrupt hn hth => exact hst.kept hk rfl rfl

theorem initialized_stopping {cfg : PoolConfig} (h : initialized cfg = .ok s) : s.Stopping := by
  obtain ⟨rfl, -⟩ := initialized_inv h
  exact ⟨fun _ => trivial, fun h => by cases h⟩

end SimpleThreadPool

end MRF.Pool
