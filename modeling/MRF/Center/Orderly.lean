import MRF.Center.ShutDown

/-!
# Center — Orderly

How far the threads of `PollTaskScheduler` are with their pools, and `shutDown` with both.

* `Orderly`, `Orderly.step`: a thread is in its pool only where it makes a call of it, a call of
  `shutDown` is in a pool only where it shuts it down, and a thread that it has joined has ended.
* `past_rule`: what holds of a pool when a `shutdown(true)` is at the end of its last loop, and
  stays as long as nothing is handed over, holds once `shutDown(true)` is past the pool.
-/

namespace MRF.Center
open MRF.Library MRF.Pool

variable {ρ : Type*}

/-! ### How far `shutDown` is -/

namespace SchedulerName

/-- The place of a thread in the order of `shutDown`. -/
def index : SchedulerName → Nat
  | .pollEQ => 0
  | .houseKeep => 1
  | .pollIntervalRetry => 2

end SchedulerName

namespace ShutDownCall

/-- A `shutDown(true)` has joined the thread. -/
def joined (name : SchedulerName) : ShutDownCall → Bool
  | .halt n wait => wait && decide (name.index < n.index)
  | .join n => decide (name.index < n.index)
  | .pool _ wait | .inPool _ wait | .finish wait | .returned wait => wait
  | .notCalled | .passed _ | .refused => false

/-- A `shutDown(true)` is done with the pool. -/
def shut (name : SchedulerName) : ShutDownCall → Bool
  | .pool n wait | .inPool n wait => wait && decide (name.index < n.index)
  | .finish wait | .returned wait => wait
  | .notCalled | .passed _ | .halt _ _ | .join _ | .refused => false

/-- Where a call of `shutDown` is in a pool. -/
def Allows (name : SchedulerName) (p : Caller ρ) : ShutDownCall → Prop
  | .inPool n wait => if n = name then p.shutting wait else ∃ v, p = .out v
  | _ => ∃ v, p = .out v

/-- A call is done with a pool after it has joined the thread. -/
theorem joined_of_shut {name : SchedulerName} {place : ShutDownCall}
    (h : place.shut name = true) : place.joined name = true := by
  cases place <;> simp_all [shut, joined]

theorem joined_afterThread (n name : SchedulerName) :
    (SchedulerProcess.afterThread n true).joined name = true ↔
      (join n).joined name = true ∨ n = name := by
  cases n <;> cases name <;> decide

theorem not_joined_afterThread (n name : SchedulerName) :
    (SchedulerProcess.afterThread n false).joined name = false := by
  cases n <;> rfl

theorem joined_afterPool (n name : SchedulerName) (wait : Bool) :
    (SchedulerProcess.afterPool n wait).joined name = wait := by
  cases n <;> rfl

theorem shut_afterPool (n name : SchedulerName) (wait : Bool) :
    (SchedulerProcess.afterPool n wait).shut name = true ↔
      (inPool n wait).shut name = true ∨ n = name ∧ wait = true := by
  cases n <;> cases name <;> cases wait <;> decide

theorem not_shut_afterThread (n name : SchedulerName) (wait : Bool) :
    (SchedulerProcess.afterThread n wait).shut name = false := by
  cases n <;> cases name <;> cases wait <;> rfl

/-- What is out of the pool is allowed to be. -/
theorem allows_out {name : SchedulerName} {place : ShutDownCall} {p : Caller ρ}
    (h : ∃ v, p = .out v) (hplace : ∀ wait, place ≠ .inPool name wait) : place.Allows name p := by
  cases place with
  | inPool n wait =>
      have hne : n ≠ name := by
        rintro rfl
        exact hplace wait rfl
      simpa only [Allows, if_neg hne] using h
  | _ => exact h

/-- Outside its `shutdown`, a call is in no call of the pool. -/
theorem out_of_allows {name : SchedulerName} {place : ShutDownCall} {p : Caller ρ}
    (h : place.Allows name p) (hplace : ∀ wait, place ≠ .inPool name wait) : ∃ v, p = .out v := by
  cases place with
  | inPool n wait =>
      have hne : n ≠ name := by
        rintro rfl
        exact hplace wait rfl
      simpa only [Allows, if_neg hne] using h
  | _ => exact h

/-- In its `shutdown`, a call is in the pool's. -/
theorem shutting_of_allows {name : SchedulerName} {wait : Bool} {p : Caller ρ}
    (h : (inPool name wait).Allows name p) : p.shutting wait := by
  simpa only [Allows, if_pos] using h

end ShutDownCall

/-- How far a thread is with a call, by its place and by where caller 0 of its pool is. -/
def PoolCall.Ok (place : RunPlace) (p : Caller ρ) : PoolCall ρ → Prop
  | .none => ∃ v, p = .out v
  | .block => place = .construct
  | .available => place = .construct ∧ ∃ v, p = .out v
  | .goAhead _ => place = .goAhead ∧ ∃ v, p = .out v
  | .run => place = .goAhead
  | .done => place = .goAhead ∧ ∃ v, p = .out v

namespace PoolCall

variable {call : PoolCall ρ} {place : RunPlace} {p q : Caller ρ}

/-- Whoever moves, if the caller is out as before. -/
theorem Ok.mono (h : call.Ok place p) (hout : ∀ v, p = .out v → q = .out v) : call.Ok place q := by
  have houts : (∃ v, p = .out v) → ∃ v, q = .out v := fun ⟨v, hv⟩ => ⟨v, hout v hv⟩
  cases call with
  | none => exact houts h
  | block | run => exact h
  | available | goAhead | done => exact h.imp_right houts

/-- A thread that may move on is out of its pool. -/
theorem Ok.out_of_lets {m : Move} (h : call.Ok place p) (hl : call.lets place m = true) :
    ∃ v, p = .out v := by
  cases call with
  | none => exact h
  | available | goAhead | done => exact h.2
  | block =>
      obtain rfl : place = .construct := h
      cases hl
  | run =>
      obtain rfl : place = .goAhead := h
      cases m <;> cases hl

/-- A thread that has ended is out of its pool. -/
theorem Ok.out_of_ended (h : call.Ok .ended p) : ∃ v, p = .out v :=
  h.out_of_lets (m := .next) (by cases call <;> rfl)

end PoolCall

namespace SchedulerProcess

variable {s s' : SchedulerProcess ρ} {a : ProcessAction ρ} {name : SchedulerName} {c : Nat}

/-! ### The invariant -/

/-- The thread is in its pool where it says so. -/
def CallOk (s : SchedulerProcess ρ) (name : SchedulerName) : Prop :=
  (s.calls name).Ok (s.threads name).place ((s.pools name).callers 0)

/-- What every reachable state of the scheduler keeps. -/
structure Orderly (s : SchedulerProcess ρ) : Prop where
  user : ∀ name, (s.pools name).UserOk 0
  calls : ∀ name, s.CallOk name
  shuts : ∀ c name, (s.shutDowns c).Allows name ((s.pools name).callers (c + 1))
  ended : ∀ c name, (s.shutDowns c).joined name = true → (s.threads name).place = .ended

/-- The thread stays the only user of its pool. -/
theorem user_step (h : s.step a = some s') (hu : (s.pools name).UserOk 0) :
    (s'.pools name).UserOk 0 := by
  rcases refines_pool name s a s' h trivial with ⟨-, heq⟩ | ⟨b, -, hstep⟩
  · rw [show s'.pools name = s.pools name from heq]
    exact hu
  · exact SimpleThreadPool.UserOk.step hstep hu

/-- A thread that has ended stays so. -/
theorem ended_step (h : s.step a = some s') (he : (s.threads name).place = .ended) :
    (s'.threads name).place = .ended := by
  rcases refines_threads s a s' h trivial with ⟨-, heq⟩ | ⟨b, -, hstep⟩
  · rw [show s'.threads = s.threads from congrArg PollTaskScheduler.threads heq]
    exact he
  · exact (PollTaskScheduler.ended_step hstep he).1

/-- A thread that does not move stays where it is. -/
theorem place_step {t : PollTaskScheduler} {b : ThreadAction} (h : s.scheduler.step b = some t)
    (hb : ∀ m, b ≠ .move name m) : (t.threads name).place = (s.threads name).place := by
  rcases PollTaskScheduler.threads_inv h name with ⟨m, hm, -⟩ | ⟨-, hstays⟩
  · exact absurd hm (hb m)
  · exact hstays.place

/-! ### The calls of the threads -/

/-- At the end of a turn, the thread is in no call of the pool. -/
theorem EndsTurn.out (h : s.EndsTurn name) : ∃ v, (s.pools name).callers 0 = .out v := by
  rcases h with ⟨-, hr⟩ | ⟨-, hr⟩ <;> exact ⟨_, hr⟩

/-- A thread comes to the next step of a call, and the others stay. -/
theorem call_rule {P : RunPlace → Caller ρ → PoolCall ρ → Prop} {t : SchedulerProcess ρ}
    {n : SchedulerName} {call : PoolCall ρ}
    (h : P (s.threads name).place ((s.pools name).callers 0) (s.calls name))
    (hc : t.calls = Function.update s.calls n call)
    (hn : P (t.threads n).place ((t.pools n).callers 0) call)
    (hp : n ≠ name → (t.threads name).place = (s.threads name).place ∧
      t.pools name = s.pools name) :
    P (t.threads name).place ((t.pools name).callers 0) (t.calls name) := by
  by_cases he : n = name
  · subst he
    rwa [hc, Function.update_self]
  · obtain ⟨hplace, hpool⟩ := hp he
    rwa [hc, Function.update_of_ne (Ne.symm he), hplace, hpool]

/-- The thread stays where it says it is. -/
theorem callOk_step (h : s.step a = some s') (ho : ∀ n, s.CallOk n) : s'.CallOk name := by
  have hhas {n : SchedulerName} {call : PoolCall ρ} (hc : s.calls n = call) :
      call.Ok (s.threads n).place ((s.pools n).callers 0) := hc ▸ ho n
  have hpools {n : SchedulerName} {pool : SimpleThreadPool ρ} {b : SimpleThreadPool.Action ρ}
      (hstep : (s.pools n).step b = some pool) (hb : b.within = true ∨ b.caller ≠ some 0) :
      (s.setPool n pool).CallOk name := by
    refine (ho name).mono fun v hv => ?_
    rcases s.setPool_cases n name pool with ⟨rfl, hpool⟩ | ⟨-, hpool⟩
    · rw [hpool]
      exact SimpleThreadPool.out_step hstep hb hv
    · rwa [hpool]
  cases step_stepped h with
  | togglePause hstep | halt hc hstep =>
      have hok := ho name
      unfold CallOk at hok ⊢
      rwa [← place_step hstep (by simp)] at hok
  | move hl hstep =>
      exact call_rule (P := PoolCall.Ok) (ho name) rfl ((ho _).out_of_lets hl) fun hn =>
        ⟨place_step hstep fun m hm => hn (by cases hm; rfl), rfl⟩
  | endsTurn hc hstep =>
      exact call_rule (P := PoolCall.Ok) (ho name) rfl hc.out fun hn =>
        ⟨place_step hstep fun m hm => hn (by cases hm; rfl), rfl⟩
  | @test n r hp hc =>
      refine call_rule (P := PoolCall.Ok) (ho name) rfl ?_ fun _ => ⟨rfl, rfl⟩
      split
      · exact ⟨hp, hhas hc⟩
      · exact ⟨hp, hhas hc⟩
  | @block n pool hp hc hstep =>
      exact call_rule (P := PoolCall.Ok) (ho name) rfl hp fun hn =>
        ⟨rfl, Function.update_of_ne (Ne.symm hn) ..⟩
  | run hp hc hstep =>
      exact call_rule (P := PoolCall.Ok) (ho name) rfl hp fun hn =>
        ⟨rfl, Function.update_of_ne (Ne.symm hn) ..⟩
  | available hc hr hn =>
      exact call_rule (P := PoolCall.Ok) (ho name) rfl ⟨hhas hc, _, hr⟩ fun _ => ⟨rfl, rfl⟩
  | ran hc hr hv =>
      exact call_rule (P := PoolCall.Ok) (ho name) rfl ⟨hhas hc, _, hr⟩ fun _ => ⟨rfl, rfl⟩
  | pool hb hstep => exact hpools hstep (.inl hb)
  | shutPool hc hstep => exact hpools hstep (.inr (by simp [SimpleThreadPool.Action.caller]))
  | called | passed | joined | outOfPool | finish => exact ho name

/-! ### The calls of `shutDown` -/

/-- A call of `shutDown` comes to a place, with the pools as they are. -/
theorem allows_setShutDown {t : SchedulerProcess ρ} {d : Nat} {place : ShutDownCall}
    (h : (s.shutDowns c).Allows name ((s.pools name).callers (c + 1)))
    (ht : t.shutDowns = Function.update s.shutDowns d place) (hpools : t.pools = s.pools)
    (hout : d = c → ∃ v, (s.pools name).callers (d + 1) = .out v)
    (hplace : ∀ wait, place ≠ .inPool name wait) :
    (t.shutDowns c).Allows name ((t.pools name).callers (c + 1)) := by
  rw [ht, hpools]
  by_cases hd : c = d
  · subst hd
    rw [Function.update_self]
    exact ShutDownCall.allows_out (hout rfl) hplace
  · rwa [Function.update_of_ne hd]

/-- A call of `shutDown` stays where it says it is. -/
theorem allows_step (h : s.step a = some s')
    (ho : (s.shutDowns c).Allows name ((s.pools name).callers (c + 1))) :
    (s'.shutDowns c).Allows name ((s'.pools name).callers (c + 1)) := by
  -- a step of the pool that is not the start of this call of `shutdown`
  have hpools {n : SchedulerName} {pool : SimpleThreadPool ρ} {b : SimpleThreadPool.Action ρ}
      (hstep : (s.pools n).step b = some pool)
      (hb : b.within = true ∨ b.caller ≠ some (c + 1)) :
      (s.shutDowns c).Allows name (((s.setPool n pool).pools name).callers (c + 1)) := by
    rcases s.setPool_cases n name pool with ⟨rfl, hpool⟩ | ⟨-, hpool⟩
    · rw [hpool]
      by_cases hin : ∃ wait, s.shutDowns c = .inPool n wait
      · obtain ⟨wait, hin⟩ := hin
        rw [hin] at ho ⊢
        have hshut := ShutDownCall.shutting_of_allows ho
        simp only [ShutDownCall.Allows, if_pos]
        rcases hb with hb | hb
        · exact (SimpleThreadPool.shutting_step hstep hb hshut).1
        · rwa [SimpleThreadPool.callers_eq hstep hb]
      · have hplace : ∀ wait, s.shutDowns c ≠ .inPool n wait := fun wait h => hin ⟨wait, h⟩
        obtain ⟨v, hv⟩ := ShutDownCall.out_of_allows ho hplace
        exact ShutDownCall.allows_out ⟨v, SimpleThreadPool.out_step hstep hb hv⟩ hplace
    · rwa [hpool]
  have hstays {d : Nat} {t : SchedulerProcess ρ} {old place : ShutDownCall}
      (hc : s.shutDowns d = old) (hold : ∀ wait, old ≠ .inPool name wait)
      (ht : t.shutDowns = Function.update s.shutDowns d place) (hpools : t.pools = s.pools)
      (hplace : ∀ wait, place ≠ .inPool name wait) :
      (t.shutDowns c).Allows name ((t.pools name).callers (c + 1)) := by
    refine allows_setShutDown ho ht hpools (fun hd => ?_) hplace
    subst hd
    rw [hc] at ho
    exact ShutDownCall.out_of_allows ho hold
  cases step_stepped h with
  | togglePause | move | test | available | endsTurn | ran => exact ho
  | block hp hc hstep => exact hpools hstep (.inr (by simp [SimpleThreadPool.Action.caller]))
  | run hp hc hstep => exact hpools hstep (.inr (by simp [SimpleThreadPool.Action.caller]))
  | pool hb hstep => exact hpools hstep (.inl hb)
  | called wait hc =>
      refine hstays hc (by simp) rfl rfl ?_
      split <;> simp
  | passed hc => exact hstays hc (by simp) rfl rfl (by simp)
  | @halt d n wait t hc hstep =>
      refine hstays hc (by simp) rfl rfl ?_
      cases wait <;> cases n <;> simp [afterThread, SchedulerName.next]
  | @joined d n hc he =>
      refine hstays hc (by simp) rfl rfl ?_
      cases n <;> simp [afterThread, SchedulerName.next]
  | finish hc => exact hstays hc (by simp) rfl rfl (by simp)
  | @shutPool d n wait pool hc hstep =>
      by_cases hd : c = d
      · subst hd
        obtain ⟨-, -, rfl⟩ := SimpleThreadPool.call_inv hstep
        have hout := hc ▸ ho
        change ((Function.update s.shutDowns c (.inPool n wait)) c).Allows name _
        rw [Function.update_self]
        rcases s.setPool_cases n name ((s.pools n).shutdown (c + 1) wait) with
          ⟨rfl, hpool⟩ | ⟨hn, hpool⟩
        · simp only [ShutDownCall.Allows, if_pos]
          change (((s.setPool n ((s.pools n).shutdown (c + 1) wait)).pools n).callers _).shutting _
          rw [hpool]
          unfold SimpleThreadPool.shutdown
          rw [SimpleThreadPool.goTo_callers_self]
          exact rfl
        · simp only [ShutDownCall.Allows, if_neg hn]
          change ∃ v, ((s.setPool n ((s.pools n).shutdown (c + 1) wait)).pools name).callers _ = _
          rw [hpool]
          exact hout
      · change ((Function.update s.shutDowns d (.inPool n wait)) c).Allows name _
        rw [Function.update_of_ne hd]
        refine hpools hstep (.inr fun h => hd ?_)
        exact (Nat.succ_injective (Option.some.inj h)).symm
  | @outOfPool d n wait v hc hr =>
      refine allows_setShutDown ho rfl rfl (fun hd => ?_) ?_
      · subst hd
        by_cases hn : n = name
        · exact ⟨v, hn ▸ hr⟩
        · rw [hc] at ho
          exact ShutDownCall.out_of_allows ho fun w h => hn (by cases h; rfl)
      · cases n <;> simp [afterPool, SchedulerName.next]

/-- A step of a call of `shutDown`. -/
theorem update_cases {P : ShutDownCall → Prop} {d : Nat} {place : ShutDownCall}
    (h : P (Function.update s.shutDowns d place c)) : P (s.shutDowns c) ∨ c = d ∧ P place := by
  by_cases hd : c = d
  · subst hd
    rw [Function.update_self] at h
    exact .inr ⟨rfl, h⟩
  · rw [Function.update_of_ne hd] at h
    exact .inl h

/-- A thread that is newly joined has ended. -/
theorem joined_step (h : s.step a = some s') (hj : (s'.shutDowns c).joined name = true) :
    (s.shutDowns c).joined name = true ∨ (s.threads name).place = .ended := by
  have hcases {d : Nat} {place : ShutDownCall}
      (hj : (Function.update s.shutDowns d place c).joined name = true)
      (hd : place.joined name = true →
        (s.shutDowns d).joined name = true ∨ (s.threads name).place = .ended) :
      (s.shutDowns c).joined name = true ∨ (s.threads name).place = .ended := by
    rcases update_cases (P := fun place => place.joined name = true) hj with hold | ⟨rfl, hnew⟩
    · exact .inl hold
    · exact hd hnew
  cases step_stepped h with
  | togglePause | move | test | block | run | available | endsTurn | ran | pool => exact .inl hj
  | called wait hc =>
      refine hcases hj fun hj => ?_
      split at hj <;> cases hj
  | passed hc =>
      refine hcases hj fun hj => ?_
      simp [ShutDownCall.joined, SchedulerName.index] at hj
  | @halt d n wait t hc hstep =>
      refine hcases hj fun hj => ?_
      cases wait with
      | false =>
          rw [if_neg Bool.false_ne_true, ShutDownCall.not_joined_afterThread] at hj
          cases hj
      | true =>
          rw [hc]
          exact .inl (by simpa [ShutDownCall.joined] using hj)
  | joined hc he =>
      refine hcases hj fun hj => ?_
      rw [hc]
      rcases (ShutDownCall.joined_afterThread ..).mp hj with hj | rfl
      · exact .inl hj
      · exact .inr he
  | shutPool hc hstep => exact hcases hj fun hj => .inl (by rw [hc]; exact hj)
  | outOfPool hc hr =>
      refine hcases hj fun hj => ?_
      rw [ShutDownCall.joined_afterPool] at hj
      rw [hc]
      exact .inl hj
  | finish hc => exact hcases hj fun hj => .inl (by rw [hc]; exact hj)

/-- Every step keeps the scheduler orderly. -/
theorem Orderly.step (h : s.step a = some s') (ho : s.Orderly) : s'.Orderly where
  user name := user_step h (ho.user name)
  calls _ := callOk_step h ho.calls
  shuts c name := allows_step h (ho.shuts c name)
  ended c name hj :=
    ended_step h ((joined_step h hj).elim (ho.ended c name) id)

theorem initial_orderly {cfg : SchedulerName → PoolConfig}
    {pools : SchedulerName → SimpleThreadPool ρ}
    (h : ∀ name, SimpleThreadPool.initialized (cfg name) = .ok (pools name)) :
    (initial pools).Orderly where
  user name := SimpleThreadPool.initialized_user (h name)
  calls name := ⟨.none, SimpleThreadPool.initialized_out (h name) 0⟩
  shuts c name := ⟨.none, SimpleThreadPool.initialized_out (h name) (c + 1)⟩
  ended c name hj := by cases hj

/-! ### Past a pool -/

/-- In call `c` of `shutDown`, the `shutdown(true)` of the pool has returned. -/
def Past (s : SchedulerProcess ρ) (c : Nat) (name : SchedulerName) : Prop :=
  (s.shutDowns c).shut name = true ∨
    s.shutDowns c = .inPool name true ∧ ∃ v, (s.pools name).callers (c + 1) = .out v

theorem Past.joined (h : s.Past c name) : (s.shutDowns c).joined name = true := by
  rcases h with h | ⟨h, -⟩
  · exact ShutDownCall.joined_of_shut h
  · rw [h]
    rfl

/-- A `shutdown(true)` returns from its last loop. -/
theorem past_step (h : s.step a = some s') (ho : s.Orderly) (hp : s'.Past c name) :
    s.Past c name ∨ s.shutDowns c = .inPool name true ∧
      (s.pools name).callers (c + 1) = .join [] := by
  have hpools {n : SchedulerName} {pool : SimpleThreadPool ρ} {b : SimpleThreadPool.Action ρ}
      (hstep : (s.pools n).step b = some pool) (hb : b.within = true ∨ b.caller ≠ some (c + 1))
      (hp : (s.setPool n pool).Past c name) : s.Past c name ∨ s.shutDowns c = .inPool name true ∧
        (s.pools name).callers (c + 1) = .join [] := by
    rcases hp with hshut | ⟨hin, v, hv⟩
    · exact .inl (.inl hshut)
    · have hin : s.shutDowns c = .inPool name true := hin
      rcases s.setPool_cases n name pool with ⟨rfl, hpool⟩ | ⟨-, hpool⟩
      · rw [hpool] at hv
        rcases hb with hb | hb
        · have hshutting := ShutDownCall.shutting_of_allows (hin ▸ ho.shuts c n)
          rcases (SimpleThreadPool.shutting_step hstep hb hshutting).2 rfl v hv with hout | hjoin
          · exact .inl (.inr ⟨hin, v, hout⟩)
          · exact .inr ⟨hin, hjoin⟩
        · rw [SimpleThreadPool.callers_eq hstep hb] at hv
          exact .inl (.inr ⟨hin, v, hv⟩)
      · rw [hpool] at hv
        exact .inl (.inr ⟨hin, v, hv⟩)
  -- a call of `shutDown` comes to a place where it is past no more pools
  have hplace {t : SchedulerProcess ρ} {d : Nat} {place : ShutDownCall} (hp : t.Past c name)
      (ht : t.shutDowns = Function.update s.shutDowns d place) (hpools : t.pools = s.pools)
      (hshut : place.shut name = true → s.Past d name) (hin : place ≠ .inPool name true) :
      s.Past c name := by
    rcases hp with hp | ⟨hp, v, hv⟩
    · rw [ht] at hp
      rcases update_cases (P := fun place => place.shut name = true) hp with hold | ⟨rfl, hnew⟩
      · exact .inl hold
      · exact hshut hnew
    · rw [ht] at hp
      rcases update_cases (P := fun place => place = .inPool name true) hp with
        hold | ⟨rfl, hnew⟩
      · exact .inr ⟨hold, v, hpools ▸ hv⟩
      · exact absurd hnew hin
  cases step_stepped h with
  | togglePause | move | test | available | endsTurn | ran => exact .inl hp
  | block _ _ hstep => exact hpools hstep (.inr (by simp [SimpleThreadPool.Action.caller])) hp
  | run _ _ hstep => exact hpools hstep (.inr (by simp [SimpleThreadPool.Action.caller])) hp
  | pool hb hstep => exact hpools hstep (.inl hb) hp
  | called wait hc =>
      refine .inl (hplace hp rfl rfl ?_ ?_)
      · split <;> simp [ShutDownCall.shut]
      · split <;> simp
  | passed hc => exact .inl (hplace hp rfl rfl (by simp [ShutDownCall.shut]) (by simp))
  | @halt d n wait t hc hstep =>
      refine .inl (hplace hp rfl rfl ?_ ?_)
      · cases wait with
        | false =>
            rw [if_neg Bool.false_ne_true, ShutDownCall.not_shut_afterThread]
            exact fun hfalse => by cases hfalse
        | true => simp [ShutDownCall.shut]
      · cases wait <;> cases n <;> simp [afterThread, SchedulerName.next]
  | @joined d n hc he =>
      refine .inl (hplace hp rfl rfl ?_ ?_)
      · rw [ShutDownCall.not_shut_afterThread]
        exact fun hfalse => by cases hfalse
      · cases n <;> simp [afterThread, SchedulerName.next]
  | @shutPool d n wait pool hc hstep =>
      rcases hp with hp | ⟨hp, v, hv⟩
      · rcases update_cases (P := fun place => place.shut name = true) hp with hold | ⟨rfl, hnew⟩
        · exact .inl (.inl hold)
        · exact .inl (.inl (by rw [hc]; exact hnew))
      · rcases update_cases (P := fun place => place = .inPool name true) hp with
          hold | ⟨rfl, hnew⟩
        · refine hpools hstep (.inr fun hd => ?_) (.inr ⟨hold, v, hv⟩)
          cases hd
          cases hc.symm.trans hold
        · -- the call has only begun
          cases hnew
          obtain ⟨-, -, rfl⟩ := SimpleThreadPool.call_inv hstep
          have hsignal : ((s.setPool name ((s.pools name).shutdown (c + 1) true)).pools
              name).callers (c + 1) = .signal (s.pools name).workers true := by
            change (Function.update s.pools name _ name).callers _ = _
            rw [Function.update_self]
            exact SimpleThreadPool.goTo_callers_self
          cases hsignal.symm.trans hv
  | @outOfPool d n wait v hc hr =>
      refine .inl (hplace hp rfl rfl ?_ ?_)
      · rw [ShutDownCall.shut_afterPool]
        rintro (hshut | ⟨rfl, rfl⟩)
        · exact .inl (by rw [hc]; exact hshut)
        · exact .inr ⟨hc, v, hr⟩
      · cases n <;> simp [afterPool, SchedulerName.next]
  | finish hc =>
      exact .inl (hplace hp rfl rfl (fun h => .inl (by rw [hc]; exact h)) (by simp))

/-- Nobody hands anything to the pool of a thread that has ended. -/
theorem Orderly.pends (ho : s.Orderly) (he : (s.threads name).place = .ended) (d : Nat) :
    ((s.pools name).callers d).pends = false := by
  by_cases hd : d = 0
  · have hok := ho.calls name
    unfold CallOk at hok
    rw [he] at hok
    obtain ⟨v, hv⟩ := hok.out_of_ended
    rw [hd, hv]
    rfl
  · exact (ho.user name).others d hd

/-- A thread that has ended hands nothing over. -/
theorem poolAction_ended {b : SimpleThreadPool.Action ρ} (h : s.step a = some s')
    (he : (s.threads name).place = .ended) (hb : poolAction name s a = some b) :
    ∀ d r, b ≠ .runInThread d (some r) := by
  rintro d r rfl
  cases step_stepped h with
  | @block n pool hp hc hstep => simp [poolAction, hp, hc] at hb
  | @run n r pool hp hc hstep =>
      have hn : n = name := by
        by_contra hne
        simp [poolAction, hne] at hb
      rw [hn, he] at hp
      cases hp
  | @pool n b pool hwithin hstep =>
      simp only [poolAction, Option.ite_none_right_eq_some] at hb
      cases Option.some.inj hb.2
      cases hwithin
  | @shutPool d n wait pool hc hstep => simp [poolAction, hc] at hb
  | togglePause | move | test | available | endsTurn | ran | called => cases hb
  | passed hc | halt hc | joined hc | outOfPool hc | finish hc => simp [poolAction, hc] at hb

/-- What holds of a pool at the end of a `shutdown(true)`, and as long as nothing is handed over,
holds past the pool. -/
theorem past_rule {P : SimpleThreadPool ρ → Prop} (h : s.step a = some s') (ho : s.Orderly)
    (hjoin : ∀ d, (s.pools name).callers d = .join [] →
      (∀ e, ((s.pools name).callers e).pends = false) → P (s.pools name))
    (hstep : ∀ b, (∀ d r, b ≠ .runInThread d (some r)) →
      (s.pools name).step b = some (s'.pools name) → P (s.pools name) → P (s'.pools name))
    (hp : s.Past c name → P (s.pools name)) (hp' : s'.Past c name) : P (s'.pools name) := by
  have hpool : (s.threads name).place = .ended ∧ P (s.pools name) := by
    rcases past_step h ho hp' with hold | ⟨hin, hend⟩
    · exact ⟨ho.ended c name hold.joined, hp hold⟩
    · have he := ho.ended c name (by rw [hin]; rfl)
      exact ⟨he, hjoin _ hend (ho.pends he)⟩
  rcases refines_pool name s a s' h trivial with ⟨-, heq⟩ | ⟨b, hb, hb', -⟩
  · rw [show s'.pools name = s.pools name from heq]
    exact hpool.2
  · exact hstep b (poolAction_ended h hpool.1 hb) hb' hpool.2

end SchedulerProcess

end MRF.Center
