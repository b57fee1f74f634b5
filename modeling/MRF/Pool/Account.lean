import MRF.Pool.Sound

/-!
# Pool — Account

Every runnable that is handed to a worker is held by it until the worker has run it to its end,
or throws it away.

* `Sound.balance`: what a step hands to a worker, what it runs to its end and what it throws away.
* `account_run`: so for a whole run; `ρ` may be any type, and a runnable that is handed over twice
  counts twice.
-/

namespace MRF.Pool
open MRF.Library

variable {ρ : Type*}

namespace SimpleThreadPool

variable {s s' t : SimpleThreadPool ρ} {a : Action ρ} {c wt : Nat}

/-- What the workers have left. -/
def left (s : SimpleThreadPool ρ) : Nat → List ρ := fun wt => (s.threads wt).left

/-- All that the workers have left. -/
def held (s : SimpleThreadPool ρ) : Multiset ρ := Library.held s.created s.left

/-- The runnable that an action hands to a worker, of the pool or a new one. -/
def accepts (s : SimpleThreadPool ρ) : Action ρ → List ρ
  | .runInThread _ (some r) => if s.isShutdown then [r] else []
  | .wake c =>
      match s.callers c with
      | .awaitWorker r => if s.isShutdown then [r] else []
      | _ => []
  | .goOn c _ =>
      match s.callers c with
      | .handOver wt r => if (s.threads wt).runnable.isSome then [] else [r]
      | _ => []
  | _ => []

/-- The runnable that an action ends. -/
def finishes (s : SimpleThreadPool ρ) : Action ρ → List ρ
  | .worker wt => (s.threads wt).finishes
  | _ => []

/-- The runnable that an action throws away. -/
def drops (s : SimpleThreadPool ρ) : Action ρ → List ρ
  | .worker wt => (s.threads wt).drops
  | _ => []

/-- A worker that changes has left what its thread has left. -/
theorem left_update (th : WorkerThread ρ) (hth : t.threads = Function.update s.threads wt th) :
    t.left = Function.update s.left wt th.left := by
  funext v
  by_cases hv : v = wt
  · subst hv
    simp [left, hth]
  · simp [left, hth, Function.update_of_ne hv]

theorem held_congr (hth : t.threads = s.threads) (hn : t.created = s.created) :
    t.held = s.held := by
  unfold held left
  rw [hth, hn]

/-- What a step of a worker changes. -/
theorem held_setThread (given rid : List ρ) (hn : wt < s.created) {th : WorkerThread ρ}
    (hth : t.threads = Function.update s.threads wt th) (hc : t.created = s.created)
    (hl : (th.left : Multiset ρ) + rid = ((s.threads wt).left : Multiset ρ) + given) :
    t.held + rid = s.held + given := by
  unfold held
  rw [left_update th hth, hc]
  exact held_change hn hl

/-- A step of a worker that leaves it with what it had. -/
theorem held_setThread_eq (hn : wt < s.created) {th : WorkerThread ρ}
    (hth : t.threads = Function.update s.threads wt th) (hc : t.created = s.created)
    (hl : th.left = (s.threads wt).left) : t.held = s.held := by
  have h := held_setThread [] [] hn hth hc (by rw [hl])
  simpa using h

/-- A last job is held by its new worker. -/
theorem findWorker_held (r : ρ) :
    (s.findWorker c r).held =
      s.held + ((if s.isShutdown then [r] else [] : List ρ) : Multiset ρ) := by
  unfold findWorker
  split
  · next hsd =>
      have hleft : (s.lastJob c r).left = Function.update s.left s.created [r] :=
        left_update (.initial (some r)) rfl
      calc (s.lastJob c r).held
          = Library.held (s.created + 1) (Function.update s.left s.created [r]) := by
            rw [held, hleft]; rfl
        _ = s.held + ([r] : List ρ) := held_grow _ _ _
        _ = _ := rfl
  · next hsd =>
      simp only [Multiset.coe_nil, add_zero]
      split <;> exact held_congr rfl rfl

theorem blockForAvailableThreads_held : (s.blockForAvailableThreads c).held = s.held := by
  unfold blockForAvailableThreads
  split <;> exact held_congr rfl rfl

theorem testBusy_held : (s.testBusy c).held = s.held := by
  unfold testBusy
  split <;> exact held_congr rfl rfl

theorem testHandoff_held : (s.testHandoff c).held = s.held := by
  unfold testHandoff
  split
  · exact held_congr rfl rfl
  · exact testBusy_held

/-- To tell a worker to stop takes nothing from it. -/
theorem Sound.signal_held (hs : s.Sound) {wts : List Nat} {wait : Bool}
    (hc : s.callers c = .signal wts wait) : (s.signal c wts wait).held = s.held := by
  have hok := hs.caller c
  rw [hc] at hok
  unfold SimpleThreadPool.signal
  split
  · exact held_setThread_eq (hs.lists.lt _ (hok.2.2 _ List.mem_cons_self)) rfl rfl rfl
  · exact held_congr rfl rfl
  · exact testHandoff_held

/-- What is handed over is held by the worker. -/
theorem Sound.handOver_held (hs : s.Sound) {r : ρ} (hc : s.callers c = .handOver wt r) :
    (s.handOver c wt r).held = s.held + ([r] : List ρ) := by
  have hok := hs.caller c
  rw [hc] at hok
  obtain ⟨hbusy, hidle, hrun⟩ := hok
  rw [hs.handOver_eq hc]
  have hran := (hidle.not_ran (hs.threads.ok wt) hrun).1
  have h := held_setThread (t := { s with
      threads := Function.update s.threads wt ((s.threads wt).given r)
      handoffPending := false }.goTo c (.out (.runInThread true))) [r] []
    (hs.lists.lt wt (hs.lists.listed wt (.inr hbusy))) rfl rfl
    (by simp [WorkerThread.left, WorkerThread.given, hran, hidle.runnable])
  simpa using h

theorem Sound.release_held (hs : s.Sound) (hn : wt < s.created)
    (hp : (s.threads wt).place = .release)
    (hr : ((s.threads wt).runOnce || (s.threads wt).ran) = true) :
    (s.release wt).held = s.held := by
  have hran := (hs.threads.releases hp hr).1
  have hnone := (hs.threads.ok wt).release hp hran
  refine held_setThread_eq hn rfl rfl ?_
  rw [(WorkerThread.released_idle hp (hs.threads.ok wt) hran).left]
  simp [WorkerThread.left, hnone]

/-- What a step hands to a worker comes to what the workers have, and what it runs to its end or
throws away goes from it. -/
theorem Sound.balance (h : s.step a = some s') (hs : s.Sound) :
    s'.held + (s.finishes a + s.drops a : Multiset ρ) = s.held + s.accepts a := by
  have hcaller {t : SimpleThreadPool ρ} (ht : t.held = s.held) :
      t.held + (([] : List ρ) + ([] : List ρ) : Multiset ρ) = s.held + ([] : List ρ) := by
    simpa using ht
  cases step_stepped h with
  | refuse hc => exact hcaller (held_congr rfl rfl)
  | @runInThread c v r hl hc =>
      have hheld : (s.runInThread c r).held = _ :=
        findWorker_held (s := { s with handoffPending := true }) r
      rw [hheld, held_congr (t := { s with handoffPending := true }) (s := s) rfl rfl]
      simp [finishes, drops, accepts]
  | blockForAvailableThreads hl hc => exact hcaller blockForAvailableThreads_held
  | wakeAvailable hl hc =>
      simp only [finishes, drops, accepts, hc]
      exact hcaller blockForAvailableThreads_held
  | shutdown wait hl hc => exact hcaller (held_congr rfl rfl)
  | @wakeWorker c r hl hc =>
      have hheld := findWorker_held (s := s) (c := c) r
      simpa [finishes, drops, accepts, hc] using hheld
  | wakeHandoff hl hc =>
      simp only [finishes, drops, accepts, hc]
      exact hcaller testHandoff_held
  | wakeBusy hl hc =>
      simp only [finishes, drops, accepts, hc]
      exact hcaller testBusy_held
  | @handOver c wt r i hc hw =>
      have hok := hs.caller c
      rw [hc] at hok
      simpa [finishes, drops, accepts, hc, hok.2.1.runnable] using hs.handOver_held hc
  | signal i hc =>
      simp only [finishes, drops, accepts, hc]
      exact hcaller (hs.signal_held hc)
  | joinedAll i hc =>
      simp only [finishes, drops, accepts, hc]
      exact hcaller (held_congr rfl rfl)
  | joinInterrupted hc =>
      simp only [finishes, drops, accepts, hc]
      exact hcaller (held_congr rfl rfl)
  | joined hc he =>
      simp only [finishes, drops, accepts, hc]
      exact hcaller (held_congr rfl rfl)
  | release hn hp hr hl =>
      simp only [finishes, drops, accepts, WorkerThread.finishes, WorkerThread.drops, hp]
      exact hcaller (hs.release_held hn hp hr)
  | @advance wt th hn hth =>
      have hleft := (WorkerThread.advance_advanced hth).left_eq (hs.threads.ok wt)
      refine held_setThread [] ((s.threads wt).finishes ++ (s.threads wt).drops) hn rfl rfl ?_
      rw [hleft]
      simp
  | @interrupt wt th hn hth =>
      exact hcaller (held_setThread_eq hn rfl rfl
        (WorkerThread.interrupted_left hth (hs.threads.ok wt)))

/-- In every run, what was handed to the workers is what they have left, what they have run to its
end and what they have thrown away. -/
theorem account_run {cfg : PoolConfig} (h : initialized cfg = .ok s)
    {tr : List (SimpleThreadPool ρ × Action ρ)}
    (hrun : Run (stepOf SimpleThreadPool.step) s tr s') :
    s'.held + total (fun s a => (s.finishes a + s.drops a : Multiset ρ)) tr =
      total (fun s a => (s.accepts a : Multiset ρ)) tr := by
  have hstep : ∀ (s : SimpleThreadPool ρ) (a : Action ρ) (s' : SimpleThreadPool ρ),
      stepOf SimpleThreadPool.step s a s' → s.Sound →
        s'.held + (s.finishes a + s.drops a : Multiset ρ) = s.held + s.accepts a :=
    fun _ _ _ h hs => hs.balance h
  have hbalance := hrun.balance (fun _ _ _ h => Sound.step h) hstep (initialized_sound h)
  have hnil : s.held = 0 := by
    obtain ⟨rfl, -⟩ := initialized_inv h
    exact held_nil _
  rwa [hnil, zero_add] at hbalance

end SimpleThreadPool

end MRF.Pool
