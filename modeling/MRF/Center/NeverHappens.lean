import MRF.Center.Graceful

/-!
# Center — NeverHappens

What the threads of `PollTaskScheduler` take for impossible.  `run` has a branch for a
`blockForAvailableThreads` that answers 0, and one for a `runInThread` that answers `false`, and
says of each that it never happens.

* `Waiting`: as long as everyone who calls `shutDown` waits, a pool is shut down only when its
  thread has ended, so the pool gets no `WorkerThread-LastJob`, and the thread has a worker for what
  it hands over.
* `never_happens_run`: so in no run with such calls only does a thread come to one of the branches;
  its `runInThread` does not wait either.
* `happens_without_waiting`: after a `shutDown(false)` a thread does come to the first branch.
-/

namespace MRF.Center
open MRF.Library MRF.Pool

variable {ρ : Type*}

/-! ### Calls that wait -/

/-- The call of `shutDown` waits, as far as it still matters. -/
def ShutDownCall.waits : ShutDownCall → Bool
  | .passed wait | .halt _ wait | .pool _ wait | .inPool _ wait | .finish wait | .returned wait =>
      wait
  | .notCalled | .join _ | .refused => true

/-- A thread goes on with what it was told in `construct`. -/
def RunPlace.goesOn : RunPlace → Bool
  | .testDue | .waitDue | .goAhead => true
  | _ => false

/-- What a thread has been told by its pool, by its place and by where caller 0 of its pool is. -/
def PoolCall.Told (place : RunPlace) (p : Caller ρ) : PoolCall ρ → Prop
  | .none => place.goesOn = true → ∃ k, p = .out (.blockForAvailableThreads k)
  | .block => p = .awaitAvailable ∨ ∃ k, p = .out (.blockForAvailableThreads k)
  | .available | .goAhead _ => ∃ k, p = .out (.blockForAvailableThreads k)
  | .run => (∃ wt r, p = .handOver wt r) ∨ p = .out (.runInThread true)
  | .done => True

namespace PollTaskSchedulerThread

variable {dependent : Option Bool} {th th' : PollTaskSchedulerThread} {m : Move}

/-- A thread comes to go on from `construct`. -/
theorem run_goesOn (h : th.run dependent m = some th') (hg : th'.place.goesOn = true) :
    th.place ≠ .goAhead ∧ (th.place.goesOn = true ∨ th.place = .construct) := by
  obtain ⟨place, paused, halted, executed⟩ := th
  cases place with
  | testDue | waitDue => exact ⟨by simp, .inl rfl⟩
  | construct => exact ⟨by simp, .inr rfl⟩
  | _ =>
      -- whatever the move, it leads to a place of another kind
      cases m <;> cases h
      all_goals
        simp only [goTo, apply_ite RunPlace.goesOn] at hg
        simp [RunPlace.goesOn] at hg

end PollTaskSchedulerThread

namespace SchedulerProcess

variable {s s' : SchedulerProcess ρ} {a : ProcessAction ρ} {name : SchedulerName} {c : Nat}
  {tr : List (SchedulerProcess ρ × ProcessAction ρ)}
  {cfg : SchedulerName → PoolConfig} {pools : SchedulerName → SimpleThreadPool ρ}

/-! ### The invariant -/

/-- What every state keeps, as long as whoever calls `shutDown` waits. -/
structure Waiting (created : SchedulerName → Nat) (s : SchedulerProcess ρ) : Prop where
  orderly : s.Orderly
  waits : ∀ c, (s.shutDowns c).waits = true
  shut : ∀ name, (s.pools name).isShutdown = true → (s.threads name).place = .ended
  grown : ∀ name, (s.pools name).created = created name
  told : ∀ name, (s.calls name).Told (s.threads name).place ((s.pools name).callers 0)

/-- Whoever calls `shutDown` waits. -/
def CallsWaiting (_ : SchedulerProcess ρ) (a : ProcessAction ρ) : Prop :=
  ∀ c, a ≠ .shutDown c false

theorem waits_step (h : s.step a = some s') (ha : CallsWaiting s a)
    (hw : ∀ c, (s.shutDowns c).waits = true) : (s'.shutDowns c).waits = true := by
  have hcase {d : Nat} {place : ShutDownCall} (hp : place.waits = true) :
      (Function.update s.shutDowns d place c).waits = true := by
    by_cases hd : c = d
    · rw [hd, Function.update_self]
      exact hp
    · rw [Function.update_of_ne hd]
      exact hw c
  have hhas {d : Nat} {place : ShutDownCall} (hc : s.shutDowns d = place) : place.waits = true :=
    hc ▸ hw d
  cases step_stepped h with
  | togglePause | move | test | block | run | available | endsTurn | ran | pool => exact hw c
  | @called d wait hc =>
      refine hcase ?_
      cases wait with
      | false => exact absurd rfl (ha d)
      | true => split <;> rfl
  | @passed d wait hc => exact hcase (show wait = true from hhas hc)
  | @halt d n wait t hc hstep =>
      obtain rfl : wait = true := hhas hc
      exact hcase rfl
  | @joined d n hc he => exact hcase (by cases n <;> rfl)
  | @shutPool d n wait pool hc hstep => exact hcase (show wait = true from hhas hc)
  | @outOfPool d n wait v hc hr =>
      obtain rfl : wait = true := hhas hc
      exact hcase (by cases n <;> rfl)
  | @finish d wait hc => exact hcase (show wait = true from hhas hc)

theorem poolAction_shutdown (h : s.step a = some s') {d : Nat} {wait : Bool}
    (hb : poolAction name s a = some (.shutdown d wait)) :
    ∃ c, s.shutDowns c = .pool name wait := by
  cases step_stepped h with
  | @block n pool hp hc hstep => simp [poolAction, hp, hc] at hb
  | @run n r pool hp hc hstep => simp [poolAction, hp, hc] at hb
  | @pool n b pool hwithin hstep =>
      simp only [poolAction, Option.ite_none_right_eq_some] at hb
      cases Option.some.inj hb.2
      cases hwithin
  | @shutPool e n w pool hc hstep =>
      simp only [poolAction, hc, Option.ite_none_right_eq_some] at hb
      obtain ⟨rfl, hb⟩ := hb
      cases hb
      exact ⟨_, hc⟩
  | togglePause | move | test | available | endsTurn | ran | called => cases hb
  | passed hc | halt hc | joined hc | outOfPool hc | finish hc => simp [poolAction, hc] at hb

namespace Waiting

variable {created : SchedulerName → Nat}

theorem shut_step (h : s.step a = some s') (hw : s.Waiting created)
    (hs : (s'.pools name).isShutdown = true) : (s'.threads name).place = .ended := by
  refine ended_step h ?_
  rcases refines_pool name s a s' h trivial with ⟨-, heq⟩ | ⟨b, hb, hstep, -⟩
  · rw [show s'.pools name = s.pools name from heq] at hs
    exact hw.shut name hs
  · rcases SimpleThreadPool.isShutdown_step hstep hs with hold | ⟨d, wait, rfl⟩
    · exact hw.shut name hold
    · obtain ⟨c, hc⟩ := poolAction_shutdown h hb
      have hwait : wait = true := by
        have := hw.waits c
        rwa [hc] at this
      exact hw.orderly.ended c name (by rw [hc, hwait]; rfl)

theorem grown_step (h : s.step a = some s') (hw : s.Waiting created) :
    (s'.pools name).created = created name := by
  rw [← hw.grown name]
  rcases refines_pool name s a s' h trivial with ⟨-, heq⟩ | ⟨b, hb, hstep, -⟩
  · rw [show s'.pools name = s.pools name from heq]
  · refine SimpleThreadPool.created_step hstep fun hs => ?_
    have he := hw.shut name hs
    exact ⟨hw.orderly.pends he, poolAction_ended h he hb⟩

/-- A thread that has been told so has a worker for what it hands over. -/
theorem runs (hw : s.Waiting created) (hp : (s.threads name).place = .goAhead) {k : Nat}
    (hk : (s.pools name).callers 0 = .out (.blockForAvailableThreads k)) (r : ρ) :
    ∃ wt, ((s.pools name).runInThread 0 r).callers 0 = .handOver wt r := by
  have hsd : (s.pools name).isShutdown ≠ true := by
    intro hs
    rw [hw.shut name hs] at hp
    cases hp
  have hready := ((hw.orderly.user name).told k hk).1.resolve_right hsd
  unfold SimpleThreadPool.runInThread SimpleThreadPool.findWorker
  rw [if_neg hsd]
  split
  · next hnil => exact absurd hnil hready
  · exact ⟨_, SimpleThreadPool.goTo_callers_self⟩

end Waiting

/-- A step of a pool that is no call of its thread. -/
theorem told_pool {call : PoolCall ρ} {place : RunPlace} {p p' : SimpleThreadPool ρ}
    {b : SimpleThreadPool.Action ρ} (hstep : p.step b = some p')
    (hb : b.within = true ∨ b.caller ≠ some 0) (hs : p.Sound)
    (h : call.Told place (p.callers 0)) : call.Told place (p'.callers 0) := by
  have hout (hk : ∃ k, p.callers 0 = .out (.blockForAvailableThreads k)) :
      ∃ k, p'.callers 0 = .out (.blockForAvailableThreads k) :=
    hk.imp fun k hk => SimpleThreadPool.out_step hstep hb hk
  cases call with
  | none => exact fun hg => hout (h hg)
  | block =>
      rcases h with hwait | hk
      · exact SimpleThreadPool.block_step hstep hb hwait
      · exact .inr (hout hk)
  | available | goAhead => exact hout h
  | run =>
      rcases h with ⟨wt, r, hr⟩ | hr
      · exact (hs.handOver_step hstep hb hr).imp_left fun hr => ⟨wt, r, hr⟩
      · exact .inr (SimpleThreadPool.out_step hstep hb hr)
  | done => trivial

/-- A thread that moves on to hand over has been told that there is a worker. -/
theorem told_move {call : PoolCall ρ} {th th' : PollTaskSchedulerThread} {dependent : Option Bool}
    {m : Move} {p : Caller ρ} (hrun : th.run dependent m = some th') (hok : call.Ok th.place p)
    (h : call.Told th.place p)
    (hl : call.lets th.place m = true ∨ call ≠ .none ∧ ∃ v, p = .out v) :
    PoolCall.none.Told th'.place p := by
  intro hg
  obtain ⟨hne, hplace⟩ := PollTaskSchedulerThread.run_goesOn hrun hg
  cases call with
  | none =>
      rcases hplace with hplace | hplace
      · exact h hplace
      · -- a thread in `construct` has to make its call first
        rcases hl with hl | ⟨hnone, -⟩
        · rw [hplace] at hl
          cases hl
        · exact absurd rfl hnone
  | block =>
      rcases hl with hl | ⟨-, v, hv⟩
      · rw [show th.place = .construct from hok] at hl
        cases hl
      · refine h.resolve_left fun hwait => ?_
        rw [hwait] at hv
        cases hv
  | available | goAhead => exact h
  | run => exact absurd hok hne
  | done => exact absurd hok.1 hne

theorem setPool_self (s : SchedulerProcess ρ) (name : SchedulerName) (pool : SimpleThreadPool ρ)
    (call : PoolCall ρ) : ((s.setPool name pool).setCall name call).pools name = pool :=
  Function.update_self ..

theorem Waiting.told_step {created : SchedulerName → Nat} (h : s.step a = some s')
    (hw : s.Waiting created) :
    (s'.calls name).Told (s'.threads name).place ((s'.pools name).callers 0) := by
  have hhas {n : SchedulerName} {call : PoolCall ρ} (hc : s.calls n = call) :
      call.Told (s.threads n).place ((s.pools n).callers 0) := hc ▸ hw.told n
  have hpools {n : SchedulerName} {pool : SimpleThreadPool ρ} {b : SimpleThreadPool.Action ρ}
      (hstep : (s.pools n).step b = some pool) (hb : b.within = true ∨ b.caller ≠ some 0) :
      (s.calls name).Told (s.threads name).place (((s.setPool n pool).pools name).callers 0) := by
    rcases s.setPool_cases n name pool with ⟨rfl, hpool⟩ | ⟨-, hpool⟩
    · rw [hpool]
      exact told_pool hstep hb (hw.orderly.user n).sound (hw.told n)
    · rw [hpool]
      exact hw.told name
  cases step_stepped h with
  | togglePause hstep | halt hc hstep =>
      have htold := hw.told name
      rwa [← place_step hstep (by simp)] at htold
  | @move n m t hl hstep =>
      refine call_rule (P := PoolCall.Told) (hw.told name) rfl ?_ fun hn =>
        ⟨place_step hstep fun m hm => hn (by cases hm; rfl), rfl⟩
      exact told_move (PollTaskScheduler.move_run hstep) (hw.orderly.calls n) (hw.told n) (.inl hl)
  | @endsTurn n t hc hstep =>
      refine call_rule (P := PoolCall.Told) (hw.told name) rfl ?_ fun hn =>
        ⟨place_step hstep fun m hm => hn (by cases hm; rfl), rfl⟩
      refine told_move (PollTaskScheduler.move_run hstep) (hw.orderly.calls n) (hw.told n)
        (.inr ⟨?_, hc.out⟩)
      rcases hc with ⟨hc, -⟩ | ⟨hc, -⟩ <;> simp [hc]
  | @test n r hp hc =>
      refine call_rule (P := PoolCall.Told) (hw.told name) rfl ?_ fun _ => ⟨rfl, rfl⟩
      split
      · trivial
      · exact hhas hc (by rw [hp]; rfl)
  | @block n pool hp hc hstep =>
      refine call_rule (P := PoolCall.Told) (hw.told name) rfl ?_ fun hn =>
        ⟨rfl, Function.update_of_ne (Ne.symm hn) ..⟩
      obtain ⟨-, -, rfl⟩ := SimpleThreadPool.call_inv hstep
      rw [setPool_self]
      unfold SimpleThreadPool.blockForAvailableThreads
      split
      · exact .inl SimpleThreadPool.goTo_callers_self
      · exact .inr ⟨_, SimpleThreadPool.goTo_callers_self⟩
  | @run n r pool hp hc hstep =>
      refine call_rule (P := PoolCall.Told) (hw.told name) rfl ?_ fun hn =>
        ⟨rfl, Function.update_of_ne (Ne.symm hn) ..⟩
      obtain ⟨-, -, rfl⟩ := SimpleThreadPool.call_inv hstep
      obtain ⟨k, hk⟩ := hhas hc
      obtain ⟨wt, hwt⟩ := hw.runs hp hk r
      rw [setPool_self]
      exact .inl ⟨wt, r, hwt⟩
  | @available n k hc hr hn =>
      exact call_rule (P := PoolCall.Told) (hw.told name) rfl ⟨k, hr⟩ fun _ => ⟨rfl, rfl⟩
  | ran hc hr hv =>
      exact call_rule (P := PoolCall.Told) (hw.told name) rfl trivial fun _ => ⟨rfl, rfl⟩
  | pool hb hstep => exact hpools hstep (.inl hb)
  | shutPool hc hstep => exact hpools hstep (.inr (by simp [SimpleThreadPool.Action.caller]))
  | called | passed | joined | outOfPool | finish => exact hw.told name

theorem Waiting.step {created : SchedulerName → Nat}
    (h : Guarded (stepOf SchedulerProcess.step) CallsWaiting s a s') (hw : s.Waiting created) :
    s'.Waiting created where
  orderly := hw.orderly.step h.1
  waits _ := waits_step h.1 h.2 hw.waits
  shut _ := hw.shut_step h.1
  grown _ := hw.grown_step h.1
  told _ := hw.told_step h.1

theorem initial_waiting
    (h : ∀ name, SimpleThreadPool.initialized (cfg name) = .ok (pools name)) :
    (initial pools).Waiting fun name => (cfg name).count.toNat where
  orderly := initial_orderly h
  waits _ := rfl
  shut name hs := by
    obtain ⟨hp, -⟩ := SimpleThreadPool.initialized_inv (h name)
    rw [show (initial pools).pools name = pools name from rfl, hp] at hs
    cases hs
  grown name := by
    obtain ⟨hp, -⟩ := SimpleThreadPool.initialized_inv (h name)
    rw [show (initial pools).pools name = pools name from rfl, hp]
  told _ hg := by cases hg

/-- As long as everyone who calls `shutDown` waits, `blockForAvailableThreads` answers a thread with
a worker, `runInThread` answers it with `true` and does not wait, and no pool makes another
thread. -/
theorem never_happens_run
    (h : ∀ name, SimpleThreadPool.initialized (cfg name) = .ok (pools name))
    (hrun : Run (Guarded (stepOf step) CallsWaiting) (initial pools) tr s) (name : SchedulerName) :
    (∀ k, s.calls name = .block →
      (s.pools name).callers 0 = .out (.blockForAvailableThreads k) → 0 < k) ∧
    (∀ v, s.calls name = .run → (s.pools name).callers 0 = .out v → v = .runInThread true) ∧
    (∀ r, (s.pools name).callers 0 ≠ .awaitWorker r) ∧
    (s.pools name).created = (cfg name).count.toNat := by
  have hw := hrun.invariant (fun _ _ _ hstep hw => Waiting.step hstep hw) (initial_waiting h)
  have htold := hw.told name
  have hok : (s.calls name).Ok _ _ := hw.orderly.calls name
  refine ⟨fun k hc hk => ?_, fun v hc hv => ?_, fun r hr => ?_, hw.grown name⟩
  · refine Nat.pos_of_ne_zero fun hzero => ?_
    have he := hw.shut name (((hw.orderly.user name).told k hk).2 hzero)
    rw [hc] at hok
    rw [show (s.threads name).place = .construct from hok] at he
    cases he
  · rw [hc, hv] at htold
    rcases htold with ⟨wt, r, hr⟩ | hr
    · cases hr
    · cases hr
      rfl
  · rw [hr] at htold hok
    cases hc : s.calls name with
    | none =>
        rw [hc] at hok
        obtain ⟨v, hv⟩ := hok
        cases hv
    | block =>
        rw [hc] at htold
        rcases htold with hwait | ⟨k, hk⟩
        · cases hwait
        · cases hk
    | run =>
        rw [hc] at htold
        rcases htold with ⟨wt, r, hr⟩ | hr <;> cases hr
    | available | goAhead | done =>
        rw [hc] at hok
        obtain ⟨-, v, hv⟩ := hok
        cases hv

theorem never_happens_run_sample : ∃ tr s,
    Run (stepOf step) (initial fun _ => SimpleThreadPool.sample) tr s ∧
      s.calls .pollEQ = .run ∧ (s.pools .pollEQ).callers 0 = .out (.runInThread true) ∧
        (s.pools .pollEQ).created = 1 := by
  obtain ⟨s, hs⟩ : ∃ s, exec step (initial fun _ => SimpleThreadPool.sample)
    (handsOver.take 11) = some s := ⟨_, rfl⟩
  have hcall : s.calls .pollEQ = .run ∧ ∃ v, (s.pools .pollEQ).callers 0 = .out v := by
    cases hs
    exact ⟨rfl, _, rfl⟩
  have hguard : ∀ p ∈ trace step (initial fun _ => SimpleThreadPool.sample) (handsOver.take 11),
      CallsWaiting p.1 p.2 := by
    intro p hp d h
    have hmem := mem_trace hp
    rw [h] at hmem
    simp [handsOver] at hmem
  obtain ⟨hrun, v, hv⟩ := hcall
  obtain ⟨-, hresult, -, hcreated⟩ := never_happens_run
    (fun _ => SimpleThreadPool.initialized_sample) ((Run.of_exec hs).to_guarded hguard) .pollEQ
  exact ⟨_, s, Run.of_exec hs, hrun, by rw [hv, hresult v hrun hv], hcreated⟩

/-- The exception-queue thread is about to look for a worker when `shutDown(false)` is called. -/
def shutWithoutWaiting : List (ProcessAction Nat) :=
  [.togglePause .pollEQ false, .move .pollEQ .next, .move .pollEQ .next, .shutDown 0 false] ++
    List.replicate 5 (.shutDownNext 0) ++ List.replicate 2 (.pool .pollEQ (.goOn 1 false)) ++
    [.call .pollEQ]

/-- A `shutDown(false)` takes the worker away that the thread looks for. -/
theorem happens_without_waiting : ∃ tr s,
    Run (stepOf step) (initial fun _ => SimpleThreadPool.sample) tr s ∧
      s.calls .pollEQ = .block ∧
        (s.pools .pollEQ).callers 0 = .out (.blockForAvailableThreads 0) := by
  obtain ⟨s, hs⟩ : ∃ s, exec step (initial fun _ => SimpleThreadPool.sample) shutWithoutWaiting =
    some s := ⟨_, rfl⟩
  refine ⟨_, s, Run.of_exec hs, ?_⟩
  cases hs
  exact ⟨rfl, rfl⟩

end SchedulerProcess

end MRF.Center
