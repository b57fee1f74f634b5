import MRF.Center.Scheduler
import MRF.Pool.Account

/-!
# Pool — Contract

What `SimpleThreadPool` promises to the thread of the scheduler that uses it, and what the pools of
`MRF.Center.Scheduler` are to it.

* `contract_run`: until it is shut down, and as long as nobody interrupts its workers, what is seen
  of the pool is a run of the abstract pool: whoever is told that a worker is available could hand
  it a runnable there and then, a runnable is handed to a worker with nothing left, and a worker
  ends the runnable it was handed.  The pools of the scheduler are the same abstract pool
  (`scheduler_refines`), one with the messages and one with the batches of its tasks.
* `never_waits`: with one thread that hands over, and whatever else is called, `runInThread` does
  not wait after `blockForAvailableThreads` has returned, and that returns 0 only after `shutdown`.
-/

namespace MRF.Pool.SimpleThreadPool
open MRF.Library

variable {ρ : Type*} {s s' t : SimpleThreadPool ρ} {a : Action ρ} {c wt n : Nat}
  {tr : List (SimpleThreadPool ρ × Action ρ)} {cfg : PoolConfig}

/-! ### What is seen of the pool -/

/-- `blockForAvailableThreads` returns the number of available workers; the first is seen. -/
def seesAvailable (s : SimpleThreadPool ρ) : Option (PoolEvent ρ) :=
  if s.handoffPending then none else s.availWorkers.head?.map .available

/-- What a user sees of an action. -/
def sees (s : SimpleThreadPool ρ) : Action ρ → Option (PoolEvent ρ)
  | .blockForAvailableThreads _ => s.seesAvailable
  | .wake c =>
      match s.callers c with
      | .awaitAvailable => s.seesAvailable
      | _ => none
  | .goOn c _ =>
      match s.callers c with
      | .handOver wt r => some (.start wt [r])
      | _ => none
  | .worker wt => if (s.threads wt).place = .work then some (.next wt) else none
  | _ => none

/-- The action is neither a shutdown nor an interrupt. -/
def Plain (_ : SimpleThreadPool ρ) : Action ρ → Prop
  | .shutdown _ _ => False
  | .interrupt _ => False
  | _ => True

/-- What the plain actions keep. -/
structure PlainOf (n : Nat) (s : SimpleThreadPool ρ) : Prop where
  sound : s.Sound
  created : s.created = n
  running : s.isShutdown = false
  clear : ∀ wt, (s.threads wt).place = .clear → (s.threads wt).ran = true

/-- Nobody is in `shutdown`. -/
theorem PlainOf.not_shut (hp : s.PlainOf n) {q : Caller ρ} (hc : s.callers c = q)
    (hq : s.CallerOk q → s.isShutdown = true) : False := by
  have hsd := hq (hc ▸ hp.sound.caller c)
  rw [hp.running] at hsd
  cases hsd

/-- The plain steps of a pool that has not been shut down. -/
inductive PlainStepped (s : SimpleThreadPool ρ) : Action ρ → SimpleThreadPool ρ → Prop where
  | called {a : Action ρ} {t : SimpleThreadPool ρ} (hth : t.threads = s.threads)
      (hn : t.created = s.created) (hsd : t.isShutdown = s.isShutdown) (hs : s.sees a = none) :
      PlainStepped s a t
  | blocked {a : Action ρ} (c : Nat) (hs : s.sees a = s.seesAvailable) :
      PlainStepped s a (s.blockForAvailableThreads c)
  | handOver {c wt : Nat} {r : ρ} (i : Bool) (hc : s.callers c = .handOver wt r) :
      PlainStepped s (.goOn c i) (s.handOver c wt r)
  | release {wt : Nat} (hn : wt < s.created) (hp : (s.threads wt).place = .release)
      (hr : ((s.threads wt).runOnce || (s.threads wt).ran) = true) :
      PlainStepped s (.worker wt) (s.release wt)
  | advance {wt : Nat} {th : WorkerThread ρ} (hn : wt < s.created)
      (h : (s.threads wt).advance = some th) : PlainStepped s (.worker wt) (s.setThread wt th)

/-- A caller of a running pool takes a worker or waits, and leaves the threads. -/
theorem findWorker_called (hsd : s.isShutdown = false) (r : ρ) :
    (s.findWorker c r).threads = s.threads ∧ (s.findWorker c r).created = s.created ∧
      (s.findWorker c r).isShutdown = s.isShutdown := by
  unfold findWorker
  rw [if_neg (by simp [hsd])]
  split <;> exact ⟨rfl, rfl, rfl⟩

/-- The plain actions are these steps. -/
theorem PlainOf.plainStepped (h : Guarded (stepOf SimpleThreadPool.step) Plain s a s')
    (hp : s.PlainOf n) : PlainStepped s a s' := by
  cases step_stepped h.1 with
  | refuse _ => exact .called rfl rfl rfl rfl
  | @runInThread c v r =>
      obtain ⟨hth, hn, hsd⟩ := findWorker_called (s := { s with handoffPending := true })
        (c := c) hp.running r
      exact .called hth hn hsd rfl
  | @blockForAvailableThreads c => exact .blocked c rfl
  | shutdown wait hl hc => exact h.2.elim
  | @wakeWorker c r hl hc =>
      obtain ⟨hth, hn, hsd⟩ := findWorker_called (c := c) hp.running r
      exact .called hth hn hsd (by simp [sees, hc])
  | @wakeAvailable c hl hc => exact .blocked c (by simp [sees, hc])
  | wakeHandoff hl hc => exact (hp.not_shut hc id).elim
  | wakeBusy hl hc => exact (hp.not_shut hc id).elim
  | handOver i hc hw => exact .handOver i hc
  | signal i hc => exact (hp.not_shut hc fun h => h.1).elim
  | joinedAll i hc => exact (hp.not_shut hc fun h => h.1).elim
  | joinInterrupted hc => exact (hp.not_shut hc fun h => h.1).elim
  | joined hc he => exact (hp.not_shut hc fun h => h.1).elim
  | release hn hrel hr hl => exact .release hn hrel hr
  | advance hn hth => exact .advance hn hth
  | interrupt hn hth => exact h.2.elim

/-- Until it is told to stop, a worker comes to its `finally` only after it has run. -/
theorem advance_clear {th th' : WorkerThread ρ} (h : WorkerThread.Advanced th th') (ho : th.Ok)
    (hrun : th.run = true) : th'.place = .clear → th'.ran = true := by
  intro hclear
  cases h with
  | worked hp => exact (ho.work hp).2
  | leaves hp hn hr =>
      rw [hrun] at hr
      cases hr
  | goesOn | ends | waits | works | wakes | clears | turns => cases hclear

theorem clear_update {threads : Nat → WorkerThread ρ} {th : WorkerThread ρ}
    (h : ∀ v, (threads v).place = .clear → (threads v).ran = true)
    (hth : th.place = .clear → th.ran = true) (v : Nat) :
    (Function.update threads wt th v).place = .clear →
      (Function.update threads wt th v).ran = true := by
  by_cases hv : v = wt
  · rw [hv, Function.update_self]
    exact hth
  · rw [Function.update_of_ne hv]
    exact h v

/-- A plain action keeps what holds of a running pool. -/
theorem PlainOf.step (h : Guarded (stepOf SimpleThreadPool.step) Plain s a s') (hp : s.PlainOf n) :
    s'.PlainOf n := by
  have hsound : s'.Sound := Sound.step h.1 hp.sound
  cases hp.plainStepped h with
  | called hth hn hsd hs =>
      exact ⟨hsound, hn.trans hp.created, hsd.trans hp.running, fun wt => hth ▸ hp.clear wt⟩
  | blocked c hs =>
      unfold blockForAvailableThreads at hsound ⊢
      split at hsound
      · next hw =>
          rw [if_pos hw]
          exact ⟨hsound, hp.created, hp.running, hp.clear⟩
      · next hw =>
          rw [if_neg hw]
          exact ⟨hsound, hp.created, hp.running, hp.clear⟩
  | @handOver c wt r i hc =>
      rw [hp.sound.handOver_eq hc] at hsound ⊢
      exact ⟨hsound, hp.created, hp.running, clear_update hp.clear (hp.clear wt)⟩
  | @release wt hn hrel hr =>
      refine ⟨hsound, hp.created, hp.running, clear_update hp.clear fun hclear => ?_⟩
      unfold WorkerThread.released at hclear
      split at hclear <;> cases hclear
  | @advance wt th hn hth =>
      exact ⟨hsound, hp.created, hp.running, clear_update hp.clear
        (advance_clear (WorkerThread.advance_advanced hth) (hp.sound.threads.ok wt)
          (hp.sound.threads.keptOn hp.running wt).2)⟩

/-! ### The abstract pool -/

theorem left_congr (hth : t.threads = s.threads) : t.left = s.left := by
  unfold left
  rw [hth]

/-- An available worker has nothing left. -/
theorem PlainOf.available (hp : s.PlainOf n) (ha : wt ∈ s.availWorkers) :
    wt < n ∧ s.left wt = [] :=
  ⟨hp.created ▸ hp.sound.lists.lt wt (hp.sound.lists.listed wt (.inl ha)),
    (hp.sound.threads.idle wt (hp.sound.lists.disjoint wt ha)).left⟩

/-- A worker ends its runnable, or nothing is seen of its step. -/
theorem PlainOf.advance_refines (hp : s.PlainOf n) (hn : wt < s.created) {th : WorkerThread ρ}
    (hth : (s.threads wt).advance = some th) :
    (s.sees (.worker wt) = none ∧ (s.setThread wt th).left = s.left) ∨
      ∃ b, s.sees (.worker wt) = some b ∧ PoolStep n s.left b (s.setThread wt th).left := by
  have hok := hp.sound.threads.ok wt
  have hleft := (WorkerThread.advance_advanced hth).left_eq hok
  have hupdate : (s.setThread wt th).left = Function.update s.left wt th.left := left_update th rfl
  have hdrops : (s.threads wt).drops = [] := by
    refine if_neg fun h => ?_
    have hran := hp.clear wt h.1
    rw [h.2] at hran
    cases hran
  rw [hdrops, List.append_nil] at hleft
  by_cases hwork : (s.threads wt).place = .work
  · refine .inr ⟨.next wt, by simp [sees, hwork], ?_⟩
    obtain ⟨r, hr⟩ := Option.isSome_iff_exists.mp (hok.work hwork).1
    have hhas : (s.threads wt).left = [r] := by simp [WorkerThread.left, hwork, hr]
    have hends : (s.threads wt).finishes = [r] := by simp [WorkerThread.finishes, hwork, hr]
    have hnil : th.left = [] := by
      rw [hhas, hends] at hleft
      simpa using hleft.symm
    rw [hupdate, hnil]
    exact .next (hp.created ▸ hn) (d := [r]) (by simpa [left] using hhas) (by simp)
  · refine .inl ⟨by simp [sees, hwork], ?_⟩
    have hends : (s.threads wt).finishes = [] := if_neg hwork
    rw [hends, List.append_nil] at hleft
    rw [hupdate, ← hleft]
    exact Function.update_eq_self wt s.left

/-- A running pool refines the abstract one, step by step. -/
theorem PlainOf.refines : Refines (Guarded (stepOf SimpleThreadPool.step) Plain)
    (PoolStep n) left (sees : SimpleThreadPool ρ → Action ρ → _) (PlainOf n) := by
  intro s a s' h hp
  cases hp.plainStepped h with
  | called hth hn hsd hs => exact .inl ⟨hs, left_congr hth⟩
  | blocked c hs =>
      have hleft : (s.blockForAvailableThreads c).left = s.left := by
        unfold blockForAvailableThreads
        split <;> exact left_congr rfl
      rw [hs, hleft]
      unfold seesAvailable
      split
      · exact .inl ⟨rfl, rfl⟩
      · cases ha : s.availWorkers with
        | nil => exact .inl ⟨rfl, rfl⟩
        | cons wt avail =>
            obtain ⟨hlt, hnil⟩ := hp.available (ha ▸ List.mem_cons_self)
            exact .inr ⟨.available wt, rfl, .available hlt hnil⟩
  | @handOver c wt r i hc =>
      have hok := hp.sound.caller c
      rw [hc] at hok
      have hran := (hok.2.1.not_ran (hp.sound.threads.ok wt) hok.2.2).1
      refine .inr ⟨.start wt [r], by simp [sees, hc], ?_⟩
      have hleft : (s.handOver c wt r).left = Function.update s.left wt [r] := by
        rw [hp.sound.handOver_eq hc, left_update ((s.threads wt).given r) rfl]
        simp [WorkerThread.left, WorkerThread.given, hran]
      rw [hleft]
      exact .start (hp.created ▸ hp.sound.lists.lt wt (hp.sound.lists.listed wt (.inr hok.1)))
        hok.2.1.left [r]
  | @release wt hn hrel hr =>
      refine .inl ⟨by simp [sees, hrel], ?_⟩
      have hran := (hp.sound.threads.releases hrel hr).1
      have hnone := (hp.sound.threads.ok wt).release hrel hran
      rw [left_update ((s.threads wt).released) rfl,
        (WorkerThread.released_idle hrel (hp.sound.threads.ok wt) hran).left]
      rw [show ([] : List ρ) = s.left wt by simp [left, WorkerThread.left, hnone]]
      exact Function.update_eq_self wt s.left
  | advance hn hth => exact hp.advance_refines hn hth

theorem initialized_plain (h : initialized cfg = .ok s) : s.PlainOf cfg.count.toNat := by
  have hs := initialized_sound h
  obtain ⟨rfl, -⟩ := initialized_inv h
  exact ⟨hs, rfl, rfl, fun wt hclear => by cases hclear⟩

/-- Until it is shut down, and as long as nobody interrupts its workers, what is seen of the pool
is a run of the abstract pool. -/
theorem contract_run (h : initialized cfg = .ok s)
    (hrun : Run (Guarded (stepOf SimpleThreadPool.step) Plain) s tr s') :
    Run (PoolStep cfg.count.toNat) (fun _ => [])
      (tr.filterMap fun p => (p.1.sees p.2).map fun b => (p.1.left, b)) s'.left := by
  have hstart : s.left = fun _ => [] := by
    obtain ⟨rfl, -⟩ := initialized_inv h
    rfl
  rw [← hstart]
  exact PlainOf.refines.run (fun _ _ _ h hp => hp.step h) hrun (initialized_plain h)

/-- The worker starts the runnable and takes it up. -/
theorem contract_run_sample : ∃ tr s, Run (stepOf SimpleThreadPool.step) sample tr s ∧
    tr.filterMap (fun p => p.1.sees p.2) = [.start 0 [7], .next 0] ∧
      Run (PoolStep 1) (fun _ => [])
        (tr.filterMap fun p => (p.1.sees p.2).map fun b => (p.1.left, b)) s.left := by
  obtain ⟨s, hs⟩ : ∃ s, exec SimpleThreadPool.step sample usedOnce = some s := ⟨_, rfl⟩
  have hguard : ∀ p ∈ trace SimpleThreadPool.step sample usedOnce, p.1.Plain p.2 := by
    intro p hp
    have hmem := mem_trace hp
    simp only [usedOnce, List.mem_cons, List.not_mem_nil, or_false] at hmem
    rcases hmem with h | h | h | h | h | h | h <;> rw [h] <;> trivial
  exact ⟨_, s, Run.of_exec hs, rfl,
    contract_run initialized_sample ((Run.of_exec hs).to_guarded hguard)⟩

/-! ### One thread that hands over -/

/-- Nobody but `c` calls `runInThread` with a runnable. -/
def OnlyUser (c : Nat) (_ : SimpleThreadPool ρ) (a : Action ρ) : Prop :=
  ∀ d r, a = .runInThread d (some r) → d = c

/-- A worker is available, or the pool has been shut down. -/
def Ready (s : SimpleThreadPool ρ) : Prop := s.availWorkers ≠ [] ∨ s.isShutdown = true

/-- What holds of the only user. -/
structure UserOk (c : Nat) (s : SimpleThreadPool ρ) : Prop where
  sound : s.Sound
  others : ∀ d, d ≠ c → (s.callers d).pends = false
  told : ∀ k, s.callers c = .out (.blockForAvailableThreads k) →
    s.Ready ∧ (k = 0 → s.isShutdown = true)

/-- A caller moves, and takes no worker but from the only user. -/
theorem UserOk.moved {d : Nat} {p : Caller ρ} (hu : s.UserOk c) (hsound : t.Sound)
    (hcallers : t.callers = Function.update s.callers d p) (hp : d ≠ c → p.pends = false)
    (hready : d ≠ c → s.Ready → t.Ready) (hshut : s.isShutdown = true → t.isShutdown = true)
    (htold : ∀ k, p = .out (.blockForAvailableThreads k) →
      t.Ready ∧ (k = 0 → t.isShutdown = true)) : t.UserOk c where
  sound := hsound
  others e he := by
    rw [hcallers]
    by_cases hed : e = d
    · rw [hed, Function.update_self]
      exact hp (hed ▸ he)
    · rw [Function.update_of_ne hed]
      exact hu.others e he
  told k hk := by
    rw [hcallers] at hk
    by_cases hd : d = c
    · rw [hd, Function.update_self] at hk
      exact htold k hk
    · rw [Function.update_of_ne (Ne.symm hd)] at hk
      obtain ⟨hr, hzero⟩ := hu.told k hk
      exact ⟨hready hd hr, fun h => hshut (hzero h)⟩

/-- No caller moves, and no worker is taken. -/
theorem UserOk.kept (hu : s.UserOk c) (hsound : t.Sound) (hcallers : t.callers = s.callers)
    (ha : s.availWorkers ≠ [] → t.availWorkers ≠ []) (hsd : t.isShutdown = s.isShutdown) :
    t.UserOk c where
  sound := hsound
  others e he := hcallers ▸ hu.others e he
  told k hk := by
    rw [hcallers] at hk
    obtain ⟨hr, hzero⟩ := hu.told k hk
    exact ⟨hr.imp ha fun h => hsd ▸ h, fun h => hsd ▸ hzero h⟩

/-- What `blockForAvailableThreads` does for its caller. -/
theorem UserOk.block {d : Nat} (hu : s.UserOk c) (hl : s.nextRunnableLock = none) :
    (s.blockForAvailableThreads d).UserOk c := by
  have hsound : (s.blockForAvailableThreads d).Sound := hu.sound.blockForAvailableThreads hl
  unfold blockForAvailableThreads at hsound ⊢
  split at hsound
  · next hw =>
      rw [if_pos hw]
      exact hu.moved hsound rfl (fun _ => rfl) (fun _ h => h) id (by simp)
  · next hw =>
      rw [if_neg hw]
      refine hu.moved hsound rfl (fun _ => rfl) (fun _ h => h) id fun k hk => ?_
      cases hk
      have hready : s.Ready := by
        cases hsd : s.isShutdown with
        | true => exact .inr hsd
        | false =>
            refine .inl fun ha => hw ?_
            simp [ha, hsd]
      refine ⟨hready, fun hzero => hready.resolve_left fun hne => ?_⟩
      exact hne (List.length_eq_zero_iff.mp hzero)

/-- What looking for a worker does, which only the user does. -/
theorem UserOk.findWorker (hu : s.UserOk c) (hl : s.nextRunnableLock = none) (r : ρ) :
    (s.findWorker c r).UserOk c := by
  have hsound : (s.findWorker c r).Sound := hu.sound.findWorker hl r
  unfold SimpleThreadPool.findWorker at hsound ⊢
  split at hsound
  · next hsd =>
      rw [if_pos hsd]
      exact hu.moved (d := c) hsound rfl (fun h => absurd rfl h) (fun h => absurd rfl h) id
        (by simp)
  · next hsd =>
      rw [if_neg hsd]
      split at hsound
      · exact hu.moved (d := c) hsound rfl (fun h => absurd rfl h) (fun h => absurd rfl h) id
          (by simp)
      · exact hu.moved (d := c) hsound rfl (fun h => absurd rfl h) (fun h => absurd rfl h) id
          (by simp)

/-- What a caller in `shutdown` does. -/
theorem UserOk.tested {d : Nat} {p : Caller ρ} (hu : s.UserOk c) (hsound : t.Sound)
    (ht : t = s.goTo d p) (hp : p = .awaitHandoff ∨ p = .awaitBusy ∨ p = .join s.workers)
    (hsd : s.isShutdown = true) : t.UserOk c := by
  subst ht
  refine hu.moved hsound rfl (fun _ => ?_) (fun _ _ => .inr hsd) id fun k hk => ?_
  · rcases hp with rfl | rfl | rfl <;> rfl
  · rcases hp with rfl | rfl | rfl <;> cases hk

/-- A step of anybody keeps what holds of the only user. -/
theorem UserOk.step (h : Guarded (stepOf SimpleThreadPool.step) (OnlyUser c) s a s')
    (hu : s.UserOk c) : s'.UserOk c := by
  have hsound : s'.Sound := Sound.step h.1 hu.sound
  have hdown {d : Nat} {q : Caller ρ} (hc : s.callers d = q)
      (hq : s.CallerOk q → s.isShutdown = true) : s.isShutdown = true :=
    hq (hc ▸ hu.sound.caller d)
  cases step_stepped h.1 with
  | refuse hc => exact hu.moved hsound rfl (fun _ => rfl) (fun _ h => h) id (by simp)
  | @runInThread d v r hl hc =>
      obtain rfl := h.2 d r rfl
      have hpending : ({ s with handoffPending := true } : SimpleThreadPool ρ).UserOk d :=
        ⟨hu.sound.pending true, hu.others, hu.told⟩
      exact hpending.findWorker hl r
  | blockForAvailableThreads hl hc => exact hu.block hl
  | wakeAvailable hl hc => exact hu.block hl
  | shutdown wait hl hc =>
      exact hu.moved hsound rfl (fun _ => rfl) (fun _ _ => .inr rfl) (fun _ => rfl) (by simp)
  | @wakeWorker d r hl hc =>
      have hdc : d = c := by
        by_contra hne
        have hn := hu.others d hne
        rw [hc] at hn
        cases hn
      exact hdc ▸ hu.findWorker hl r
  | @wakeHandoff d hl hc =>
      obtain ⟨p, hp, hcases⟩ := testHandoff_goTo s d
      exact hu.tested hsound hp hcases (hdown hc id)
  | @wakeBusy d hl hc =>
      obtain ⟨p, hp, hcases⟩ := testBusy_goTo s d
      exact hu.tested hsound hp hcases (hdown hc id)
  | handOver i hc hw =>
      rw [hu.sound.handOver_eq hc] at hsound ⊢
      exact hu.moved hsound rfl (fun _ => rfl) (fun _ h => h) id (by simp)
  | @signal d wts wait i hc =>
      have hsd := hdown hc fun h => h.1
      unfold SimpleThreadPool.signal at hsound ⊢
      split at hsound
      · exact hu.moved hsound rfl (fun _ => rfl) (fun _ _ => .inr hsd) id (by simp)
      · exact hu.moved hsound rfl (fun _ => rfl) (fun _ h => h) id (by simp)
      · obtain ⟨p, hp, hcases⟩ := testHandoff_goTo s d
        exact hu.tested hsound hp hcases hsd
  | joinedAll i hc => exact hu.moved hsound rfl (fun _ => rfl) (fun _ h => h) id (by simp)
  | joinInterrupted hc => exact hu.moved hsound rfl (fun _ => rfl) (fun _ h => h) id (by simp)
  | joined hc he => exact hu.moved hsound rfl (fun _ => rfl) (fun _ h => h) id (by simp)
  | release hn hp hr hl =>
      refine hu.kept hsound rfl (fun ha => ?_) rfl
      simp only [SimpleThreadPool.release]
      split
      · exact ha
      · simp
  | advance hn hth => exact hu.kept hsound rfl id rfl
  | interrupt hn hth => exact hu.kept hsound rfl id rfl

theorem initialized_out (h : initialized cfg = .ok s) (c : Nat) : s.callers c = .out .none := by
  obtain ⟨rfl, -⟩ := initialized_inv h
  rfl

theorem initialized_user (h : initialized cfg = .ok s) : s.UserOk c where
  sound := initialized_sound h
  others d _ := by
    rw [initialized_out h]
    rfl
  told k hk := by
    rw [initialized_out h] at hk
    cases hk

/-- With one thread that hands over, `blockForAvailableThreads` returns 0 only after `shutdown`, and
the `runInThread` of that thread after it does not wait. -/
theorem never_waits (h : initialized cfg = .ok s)
    (hrun : Run (Guarded (stepOf SimpleThreadPool.step) (OnlyUser c)) s tr s') {k : Nat}
    (hc : s'.callers c = .out (.blockForAvailableThreads k)) :
    (k = 0 → s'.isShutdown = true) ∧
      ∀ r t, s'.step (.runInThread c (some r)) = some t → ∀ r', t.callers c ≠ .awaitWorker r' := by
  have hu := hrun.invariant (fun _ _ _ h hu => UserOk.step h hu) (initialized_user h)
  obtain ⟨hready, hzero⟩ := hu.told k hc
  refine ⟨hzero, fun r t hstep r' => ?_⟩
  obtain ⟨-, -, rfl⟩ := call_inv hstep
  unfold runInThread findWorker
  rcases hready with ha | hsd
  · split
    · simp [lastJob]
    · split
      · next hnil => exact absurd hnil ha
      · simp
  · rw [if_pos hsd]
    simp [lastJob]

/-- After it was told of an available worker, `runInThread` does not wait. -/
theorem never_waits_sample : ∃ s t : SimpleThreadPool Nat,
    s.callers 0 = .out (.blockForAvailableThreads 1) ∧
      s.step (.runInThread 0 (some 7)) = some t ∧ ∀ r, t.callers 0 ≠ .awaitWorker r := by
  obtain ⟨s, hs⟩ : ∃ s, exec SimpleThreadPool.step sample [.blockForAvailableThreads 0] = some s :=
    ⟨_, rfl⟩
  have hc : s.callers 0 = .out (.blockForAvailableThreads 1) := by
    cases hs
    rfl
  obtain ⟨t, ht⟩ : ∃ t, s.step (.runInThread 0 (some 7)) = some t := by
    cases hs
    exact ⟨_, rfl⟩
  have hguard : ∀ p ∈ trace SimpleThreadPool.step sample [.blockForAvailableThreads 0],
      OnlyUser 0 p.1 p.2 := by
    intro p hp d r h
    have hmem := mem_trace hp
    rw [h] at hmem
    simp at hmem
  have hnever := never_waits initialized_sample ((Run.of_exec hs).to_guarded hguard) hc
  exact ⟨s, t, hc, ht, hnever.2 7 t ht⟩

end MRF.Pool.SimpleThreadPool

/-! ### The pools of the scheduler -/

namespace MRF.Center.Scheduler
open MRF.Library

variable {B : Type} [BusinessMsg B] {cfg : SchedulerConfig} {s s' : Scheduler B}
  {a : SchedulerAction B} {tr : List (Scheduler B × SchedulerAction B)}

/-- What an action of the scheduler is to the pool of the exception queue. -/
def seesEQ (s : Scheduler B) : SchedulerAction B → Option (PoolEvent (RetryMessage B))
  | .startEQ w => some (.available w)
  | .handOverEQ w => some (.start w s.pollEQ.position.task)
  | .executeEQ w _ _ => some (.next w)
  | _ => none

/-- What an action of the scheduler is to the pool of the house keeper. -/
def seesHouseKeep (s : Scheduler B) : SchedulerAction B → Option (PoolEvent (IntervalRetry B))
  | .startHouseKeep w => some (.available w)
  | .handOverHouseKeep w => some (.start w s.houseKeep.position.task)
  | .moveHouseKeep w _ _ _ => some (.next w)
  | _ => none

/-- The workers of the exception queue are an abstract pool. -/
theorem refinesEQ : Refines (stepOf (step cfg)) (PoolStep cfg.eqPollThreadCount) eqWorkers
    (seesEQ : Scheduler B → _ → _) fun s => Within cfg.eqPollThreadCount s.eqWorkers := by
  intro s a s' h hw
  cases step_stepped h with
  | startEQ hp hn hw' => exact .inr ⟨_, rfl, .available hn hw'⟩
  | handOverEQ hp hn hw' => exact .inr ⟨_, rfl, by simpa [hp] using PoolStep.start hn hw' _⟩
  | @executeEQ w e proxyThrows m ms hw' =>
      exact .inr ⟨_, rfl, .next (hw.lt (hw' ▸ List.cons_ne_nil m ms)) (d := [m]) hw'
        (List.cons_ne_nil _ _)⟩
  | _ => exact .inl ⟨rfl, rfl⟩

theorem refinesHouseKeep : Refines (stepOf (step cfg)) (PoolStep cfg.houseKeepThreadCount)
    houseKeepWorkers (seesHouseKeep : Scheduler B → _ → _)
    fun s => Within cfg.houseKeepThreadCount s.houseKeepWorkers := by
  intro s a s' h hw
  cases step_stepped h with
  | startHouseKeep hp hn hw' => exact .inr ⟨_, rfl, .available hn hw'⟩
  | handOverHouseKeep hp hn hw' =>
      exact .inr ⟨_, rfl, by simpa [hp] using PoolStep.start hn hw' _⟩
  | @proxyThrows w now faults r rows hw' | @moveHouseKeep w now faults r rows hw' =>
      exact .inr ⟨_, rfl, .next (hw.lt (hw' ▸ List.cons_ne_nil r rows)) (d := r :: rows)
        (by rw [hw', List.append_nil]) (List.cons_ne_nil _ _)⟩
  | _ => exact .inl ⟨rfl, rfl⟩

/-- A step of the abstract pool is one of its workers. -/
theorem within_poolStep {τ : Type} {n : Nat} {w w' : Nat → List τ} {e : PoolEvent τ}
    (h : PoolStep n w e w') (hw : Within n w) : Within n w' := by
  cases h with
  | available hn hnil => exact hw
  | start hn hnil l => exact hw.update hn l
  | next hn hl hd => exact hw.update hn _

/-- In every run of the scheduler, what is seen of its pools is a run of the abstract pool. -/
theorem pools_run {q : List (RetryMessage B)} {t : Tables B}
    (hrun : Run (stepOf (step cfg)) (initial q t) tr s) :
    Run (PoolStep cfg.eqPollThreadCount) (fun _ => [])
        (tr.filterMap fun p => (seesEQ p.1 p.2).map fun b => (p.1.eqWorkers, b)) s.eqWorkers ∧
      Run (PoolStep cfg.houseKeepThreadCount) (fun _ => [])
        (tr.filterMap fun p => (seesHouseKeep p.1 p.2).map fun b => (p.1.houseKeepWorkers, b))
        s.houseKeepWorkers := by
  have hkeeps {τ : Type} {n : Nat} {abs : Scheduler B → Nat → List τ}
      {sees : Scheduler B → SchedulerAction B → Option (PoolEvent τ)}
      (href : Refines (stepOf (step cfg)) (PoolStep n) abs sees fun s => Within n (abs s)) :
      ∀ s a s', stepOf (step cfg) s a s' → Within n (abs s) → Within n (abs s') := by
    intro s a s' h hw
    rcases href s a s' h hw with ⟨-, heq⟩ | ⟨b, -, hstep⟩
    · rw [heq]
      exact hw
    · exact within_poolStep hstep hw
  exact ⟨refinesEQ.run (hkeeps refinesEQ) hrun (within_nil _),
    refinesHouseKeep.run (hkeeps refinesHouseKeep) hrun (within_nil _)⟩

end MRF.Center.Scheduler
