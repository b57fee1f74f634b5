import MRF.Center.Payload

/-!
# Center — PollThread

The interval poll with the clock of the center.  `MRF.Center.State` takes the time between the
check-out of a row and its hand-over as one stop; here a poll thread goes through the statements of
`PollTaskSchedulerThread.run` between the two: `hasReachTaskExecuteTime`, the wait loop of
`waitUntilAppropriateToExecute`, `goAhead`, and `runInThread`.  A wait may end at any time, and a
thread may be halted at any time.

`PollCenter.Stepped.center_cases`: the timed center does what the center does.
-/

namespace MRF.Center
open MRF.Library State

variable {B : Type} [BusinessMsg B]

/-! ### The thread -/

/-- Where a poll thread is in `run`. -/
inductive PollPlace where
  /-- `while(!halted.get())`, with the pause and the idle wait. -/
  | loop
  /-- In `constructPollTask`. -/
  | construct
  /-- `hasReachTaskExecuteTime`. -/
  | reach
  /-- `waitUntilAppropriateToExecute` is about to read the clock. -/
  | readClock
  /-- `while(timeUntilTrigger > 2)`. -/
  | testDue (timeUntilTrigger : Int64)
  /-- `sigLock.wait(timeUntilTrigger)`. -/
  | waitDue
  /-- `goAhead = !halted.get()`. -/
  | goAhead
  /-- `runInThread`. -/
  | handOver
  | ended
  deriving DecidableEq, Repr

/-- `getTime` of a stored `DATETIME`, in milliseconds. -/
def getTime (d : Datetime) : Int := 1000 * d

theorem getTime_mono {d d' : Datetime} (h : d ≤ d') : getTime d ≤ getTime d' :=
  Int.mul_le_mul_of_nonneg_left h (by decide)

/-- The row is due. -/
def hasReachTaskExecuteTime (currentTimeMillis : Int64) (r : IntervalRetry B) : Bool :=
  getTime r.nextExecAt ≤ currentTimeMillis.toInt

/-- `triggerTime - now`; the subtraction of two `long`s wraps. -/
def timeUntilTrigger (now : Int64) (r : IntervalRetry B) : Int64 :=
  Int64.ofInt (getTime r.nextExecAt - now.toInt)

/-! ### The timed center -/

/-- The center with its clock and the places of its poll threads. -/
structure PollCenter (B : Type) where
  center : State B
  currentTimeMillis : Int64
  places : Nat → PollPlace
  halted : Nat → Bool

/-- The steps of the center, with the clock and the threads of the poll. -/
inductive PollAction (B : Type) where
  /-- The clock of the center goes on. -/
  | clock (currentTimeMillis : Int64)
  | halt (i : Nat)
  /-- A poll thread makes its next statement, or its wait ends. -/
  | next (i : Nat)
  /-- Anything else that happens in the center. -/
  | center (a : Action B)
  /-- A poll thread hands its task to a worker. -/
  | handOver (i w : Nat)

namespace PollCenter

omit [BusinessMsg B] in
/-- The empty center, with all poll threads at the head of their loops. -/
def initial (currentTimeMillis : Int64) : PollCenter B :=
  ⟨State.empty, currentTimeMillis, fun _ => .loop, fun _ => false⟩

/-- The next place of a poll thread. -/
def nextPlace (v : PollCenter B) (i : Nat) : Option PollPlace :=
  match v.places i, v.center.pollers i with
  | .loop, _ => some (if v.halted i then .ended else .construct)
  -- `constructPollTask` has found no row, or the query raised
  | .construct, .idle => some .loop
  | .reach, .task r =>
      some (if hasReachTaskExecuteTime v.currentTimeMillis r then .goAhead else .readClock)
  | .readClock, .task r => some (.testDue (timeUntilTrigger v.currentTimeMillis r))
  | .testDue time, .task _ => some (if 2 < time && !v.halted i then .waitDue else .goAhead)
  | .waitDue, .task _ => some .readClock
  | .goAhead, .task _ => some (if v.halted i then .loop else .handOver)
  | _, _ => none

/-- What has to hold for an action of the center: a call reads the clock as it is, and a poll
thread selects and checks out in `constructPollTask`. -/
def admits (v : PollCenter B) : Action B → Bool
  | .process c _ | .executeEQ _ c => c.currentTimeMillis = v.currentTimeMillis
  | .select i _ | .checkOut i _ => v.places i = .construct
  | .dispatch _ _ => false
  | _ => true

/-- The places after an action of the center, which led to `s`. -/
def placesAfter (v : PollCenter B) (s : State B) : Action B → Nat → PollPlace
  | .checkOut i _ =>
      Function.update v.places i (match s.pollers i with
        | .task _ => .reach
        | _ => .loop)
  | _ => v.places

/-- One step of the center with its poll threads. -/
def step (cfg : MRFServerConfig) (v : PollCenter B) : PollAction B → Option (PollCenter B)
  | .clock now =>
      if v.currentTimeMillis ≤ now then some { v with currentTimeMillis := now } else none
  | .halt i => some { v with halted := Function.update v.halted i true }
  | .next i => (v.nextPlace i).map fun p => { v with places := Function.update v.places i p }
  | .center a =>
      if v.admits a then
        (v.center.step cfg a).map fun s => { v with center := s, places := v.placesAfter s a }
      else none
  | .handOver i w =>
      if v.places i = .handOver then
        (v.center.step cfg (.dispatch i w)).map fun s =>
          { v with center := s, places := Function.update v.places i .loop }
      else none

omit [BusinessMsg B] in
theorem placesAfter_checkOut (v : PollCenter B) {s : State B} {i : Nat} {r : IntervalRetry B}
    (hi : s.pollers i = .task r) (raises : Bool) :
    v.placesAfter s (.checkOut i raises) i = .reach := by
  rw [placesAfter, Function.update_self, hi]

variable {cfg : MRFServerConfig} {v v' : PollCenter B} {a : PollAction B}

/-- The enabled actions, each with what it leads to. -/
inductive Stepped (cfg : MRFServerConfig) (v : PollCenter B) : PollAction B → PollCenter B → Prop
    where
  | clock {now : Int64} (h : v.currentTimeMillis ≤ now) :
      Stepped cfg v (.clock now) { v with currentTimeMillis := now }
  | halt (i : Nat) : Stepped cfg v (.halt i) { v with halted := Function.update v.halted i true }
  | next {i : Nat} {p : PollPlace} (h : v.nextPlace i = some p) :
      Stepped cfg v (.next i) { v with places := Function.update v.places i p }
  | center {a : Action B} {s : State B} (ha : v.admits a = true)
      (h : State.Stepped cfg v.center a s) :
      Stepped cfg v (.center a) { v with center := s, places := v.placesAfter s a }
  | handOver {i w : Nat} {s : State B} (hp : v.places i = .handOver)
      (h : State.Stepped cfg v.center (.dispatch i w) s) :
      Stepped cfg v (.handOver i w)
        { v with center := s, places := Function.update v.places i .loop }

theorem step_stepped (h : v.step cfg a = some v') : Stepped cfg v a v' := by
  cases a with
  | clock now =>
      simp only [step] at h
      split at h
      · next hle => cases h; exact .clock hle
      · cases h
  | halt i => cases h; exact .halt i
  | next i =>
      obtain ⟨p, hp, rfl⟩ := Option.map_eq_some_iff.mp h
      exact .next hp
  | center a =>
      simp only [step] at h
      split at h
      · next ha =>
          obtain ⟨s, hs, rfl⟩ := Option.map_eq_some_iff.mp h
          exact .center ha (State.step_stepped hs)
      · cases h
  | handOver i w =>
      simp only [step] at h
      split at h
      · next hp =>
          obtain ⟨s, hs, rfl⟩ := Option.map_eq_some_iff.mp h
          exact .handOver hp (State.step_stepped hs)
      · cases h

/-- Each of these actions is enabled. -/
theorem Stepped.step_eq (h : Stepped cfg v a v') : v.step cfg a = some v' := by
  cases h with
  | clock h => exact if_pos h
  | halt i => rfl
  | next h => simp only [step, h, Option.map_some]
  | center ha h => simp only [step, ha, if_true, h.step_eq, Option.map_some]
  | handOver hp h => simp only [step, if_pos hp, h.step_eq, Option.map_some]

/-- The action of the center that an action of the timed center is. -/
def centerAction : PollAction B → Option (Action B)
  | .center a => some a
  | .handOver i w => some (.dispatch i w)
  | _ => none

/-- **The timed center does what the center does**: a step is a step of the center, or leaves it. -/
theorem Stepped.center_cases (h : Stepped cfg v a v') :
    (centerAction a = none ∧ v'.center = v.center) ∨
      ∃ b, centerAction a = some b ∧ State.Stepped cfg v.center b v'.center := by
  cases h with
  | clock h => exact .inl ⟨rfl, rfl⟩
  | halt i => exact .inl ⟨rfl, rfl⟩
  | next h => exact .inl ⟨rfl, rfl⟩
  | center ha h => exact .inr ⟨_, rfl, h⟩
  | handOver hp h => exact .inr ⟨_, rfl, h⟩

/-- The clock does not go back. -/
theorem Stepped.clock_le (h : Stepped cfg v a v') : v.currentTimeMillis ≤ v'.currentTimeMillis := by
  cases h with
  | clock h => exact h
  | _ => exact Int64.le_refl _

theorem clock_le_run {t : Int64} {tr : List (PollCenter B × PollAction B)}
    (h : Run (stepOf (step cfg)) v tr v') (ht : t ≤ v.currentTimeMillis) :
    t ≤ v'.currentTimeMillis := by
  have hI : ∀ (v : PollCenter B) a v', stepOf (step cfg) v a v' → t ≤ v.currentTimeMillis →
      t ≤ v'.currentTimeMillis :=
    fun v a v' hs ht => Int64.le_trans ht (step_stepped hs).clock_le
  exact h.invariant hI ht

/-- A halted thread stays halted. -/
theorem Stepped.halted (h : Stepped cfg v a v') {i : Nat} (hi : v.halted i = true) :
    v'.halted i = true := by
  cases h with
  | halt j =>
      by_cases he : i = j
      · subst he
        exact Function.update_self ..
      · exact (Function.update_of_ne he ..).trans hi
  | _ => exact hi

end PollCenter

end MRF.Center
