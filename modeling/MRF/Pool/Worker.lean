import Mathlib.Data.Multiset.AddSub

/-!
# Pool — Worker

The thread of a `WorkerThread` of `SimpleThreadPool`, test by test.  It holds its `lock` from one
step to the next only while it runs a runnable: what lies between taking `lock` and giving it back
is one step everywhere else, and a wait gives it back.

`left` is what a worker has left to do.  `Ok` is the invariant of the fields of one worker, and an
`Idle` worker is one that nobody can be waiting for.
-/

namespace MRF.Pool

/-- Where a worker is in `run`. -/
inductive WorkerPlace where
  /-- `while (run.get())`. -/
  | loop
  /-- `while (runnable == null && run.get())`, before `lock` is taken. -/
  | test
  /-- In `lock.wait(500)`. -/
  | wait
  /-- In `runnable.run()`, with `lock`. -/
  | work
  /-- In the `finally`, before `runnable = null`. -/
  | clear
  /-- In the `finally`, before `if (runOnce)`. -/
  | release
  | ended
  deriving DecidableEq, Repr

/-- The fields of a worker, and where it is in `run`. -/
structure WorkerThread (ρ : Type*) where
  place : WorkerPlace
  runnable : Option ρ
  runOnce : Bool
  run : Bool
  /-- The local variable of `run`. -/
  ran : Bool

namespace WorkerThread

variable {ρ : Type*}

/-- The constructors; a worker that is given a runnable here is not used again. -/
def initial (runnable : Option ρ) : WorkerThread ρ :=
  ⟨.loop, runnable, runnable.isSome, true, false⟩

/-- `shutdown`. -/
def shutdown (th : WorkerThread ρ) : WorkerThread ρ := { th with run := false }

/-- The runnable of the worker. -/
def given (th : WorkerThread ρ) (newRunnable : ρ) : WorkerThread ρ :=
  { th with runnable := some newRunnable }

/-- `run(newRunnable)`, with `lock`; `none` is the `IllegalStateException`. -/
def runWith (th : WorkerThread ρ) (newRunnable : ρ) : Option (WorkerThread ρ) :=
  if th.runnable.isSome then none else some (th.given newRunnable)

def goTo (th : WorkerThread ρ) (place : WorkerPlace) : WorkerThread ρ := { th with place }

/-- The steps of `run` that need nothing but the worker. -/
def advance (th : WorkerThread ρ) : Option (WorkerThread ρ) :=
  match th.place with
  | .loop => some (th.goTo (if th.run then .test else .ended))
  | .test =>
      if th.runnable.isNone && th.run then some (th.goTo .wait)
      else if th.runnable.isSome then some { th with place := .work, ran := true }
      else some (th.goTo .clear)
  | .wait => some (th.goTo .test)
  -- What the runnable throws is logged.
  | .work => some (th.goTo .clear)
  | .clear => some { th with runnable := none, place := .release }
  | .release => if th.runOnce || th.ran then none else some (th.goTo .loop)
  | .ended => none

/-- An `InterruptedException` comes out of `lock.wait(500)`. -/
def interrupted (th : WorkerThread ρ) : Option (WorkerThread ρ) :=
  if th.place = .wait then some (th.goTo .clear) else none

/-- What the worker does for itself when it goes back to its pool. -/
def released (th : WorkerThread ρ) : WorkerThread ρ :=
  if th.runOnce then { th with run := false, place := .loop }
  else { th with ran := false, place := .loop }

/-- Whether the worker has `lock`. -/
def hasLock (th : WorkerThread ρ) : Bool := th.place == .work

/-- What the worker has been given and has not run to its end. -/
def left (th : WorkerThread ρ) : List ρ :=
  if th.place = .clear ∧ th.ran = true then [] else th.runnable.toList

variable {th th' : WorkerThread ρ} {r : ρ}

@[simp] theorem goTo_place (th : WorkerThread ρ) (p : WorkerPlace) : (th.goTo p).place = p := rfl

@[simp] theorem goTo_runnable (th : WorkerThread ρ) (p : WorkerPlace) :
    (th.goTo p).runnable = th.runnable := rfl

@[simp] theorem goTo_runOnce (th : WorkerThread ρ) (p : WorkerPlace) :
    (th.goTo p).runOnce = th.runOnce := rfl

@[simp] theorem goTo_run (th : WorkerThread ρ) (p : WorkerPlace) : (th.goTo p).run = th.run := rfl

@[simp] theorem goTo_ran (th : WorkerThread ρ) (p : WorkerPlace) : (th.goTo p).ran = th.ran := rfl

/-! ### What a step of a worker does -/

/-- The steps of `advance`, by the place of the worker. -/
inductive Advanced (th : WorkerThread ρ) : WorkerThread ρ → Prop where
  | goesOn (hp : th.place = .loop) (hr : th.run = true) : Advanced th (th.goTo .test)
  | ends (hp : th.place = .loop) (hr : th.run = false) : Advanced th (th.goTo .ended)
  | waits (hp : th.place = .test) (hn : th.runnable = none) (hr : th.run = true) :
      Advanced th (th.goTo .wait)
  | works (hp : th.place = .test) {r : ρ} (hr : th.runnable = some r) :
      Advanced th { th with place := .work, ran := true }
  | leaves (hp : th.place = .test) (hn : th.runnable = none) (hr : th.run = false) :
      Advanced th (th.goTo .clear)
  | wakes (hp : th.place = .wait) : Advanced th (th.goTo .test)
  | worked (hp : th.place = .work) : Advanced th (th.goTo .clear)
  | clears (hp : th.place = .clear) : Advanced th { th with runnable := none, place := .release }
  | turns (hp : th.place = .release) (ho : th.runOnce = false) (hr : th.ran = false) :
      Advanced th (th.goTo .loop)

/-- A step of a worker is one of these. -/
theorem advance_advanced (h : th.advance = some th') : Advanced th th' := by
  unfold advance at h
  split at h
  · next hp =>
      cases h
      cases hr : th.run with
      | true => exact .goesOn hp hr
      | false => exact .ends hp hr
  · next hp =>
      cases hn : th.runnable with
      | none =>
          cases hr : th.run with
          | true =>
              simp only [hn, hr, Option.isNone_none, Bool.and_self, if_true] at h
              cases h
              exact .waits hp hn hr
          | false =>
              simp only [hn, hr, Option.isSome_none, Bool.and_false, Bool.false_eq_true,
                if_false] at h
              cases h
              exact .leaves hp hn hr
      | some r =>
          simp only [hn, Option.isNone_some, Option.isSome_some, Bool.false_and, Bool.false_eq_true,
            if_false, if_true] at h
          cases h
          exact hn ▸ .works hp hn
  · next hp => cases h; exact .wakes hp
  · next hp => cases h; exact .worked hp
  · next hp => cases h; exact .clears hp
  · next hp =>
      split at h
      · cases h
      · next hno =>
          cases h
          obtain ⟨ho, hr⟩ := Bool.or_eq_false_iff.mp ((Bool.not_eq_true _).mp hno)
          exact .turns hp ho hr
  · cases h

theorem Advanced.run_eq (h : Advanced th th') : th'.run = th.run := by
  cases h <;> rfl

theorem Advanced.runOnce_eq (h : Advanced th th') : th'.runOnce = th.runOnce := by
  cases h <;> rfl

/-- Only the wait of a worker is interrupted, and it then leaves its turn. -/
theorem interrupted_inv (h : th.interrupted = some th') :
    th.place = .wait ∧ th' = th.goTo .clear := by
  unfold interrupted at h
  split at h
  · next hp => cases h; exact ⟨hp, rfl⟩
  · cases h

/-- `run(Runnable)` needs a worker without one. -/
theorem runWith_inv (h : th.runWith r = some th') :
    th.runnable = none ∧ th' = th.given r := by
  unfold runWith at h
  split at h
  · cases h
  · next hn => cases h; exact ⟨by simpa using hn, rfl⟩

theorem runWith_eq (h : th.runnable = none) : th.runWith r = some (th.given r) := by
  simp [runWith, h]

/-! ### The fields of a worker -/

/-- What the fields of a worker say about its place. -/
structure Ok (th : WorkerThread ρ) : Prop where
  work : th.place = .work → th.runnable.isSome ∧ th.ran = true
  release : th.place = .release → th.ran = true → th.runnable = none
  ran : th.ran = true → th.place = .work ∨ th.place = .clear ∨ th.place = .release ∨
    (th.place = .loop ∨ th.place = .ended) ∧ th.runOnce = true ∧ th.run = false ∧ th.runnable = none
  ended : th.place = .ended → th.run = false
  once : th.runOnce = true → th.ran = false →
    (th.place = .loop ∨ th.place = .test ∨ th.place = .ended) ∧ th.runnable.isSome

/-- A worker with nothing to do, that is not on its way back to its pool. -/
structure Idle (th : WorkerThread ρ) : Prop where
  runnable : th.runnable = none
  ran : th.ran = true → th.place = .loop ∨ th.place = .ended

/-- A worker that has run is before the end of its turn. -/
def InTurn (th : WorkerThread ρ) : Prop :=
  th.ran = true → th.place = .work ∨ th.place = .clear ∨ th.place = .release

theorem initial_ok (o : Option ρ) : (initial o).Ok where
  work h := by cases h
  release h := by cases h
  ran h := by cases h
  ended h := by cases h
  once ho _ := ⟨.inl rfl, ho⟩

theorem initial_idle : (initial (none : Option ρ)).Idle where
  runnable := rfl
  ran h := by cases h

/-- A step keeps the fields of a worker in line with its place. -/
theorem Advanced.ok (h : Advanced th th') (ho : th.Ok) : th'.Ok := by
  obtain ⟨hwork, hrelease, hran, hended, honce⟩ := ho
  cases h with
  | goesOn hp hr | ends hp hr => constructor <;> grind [goTo]
  | waits hp hn hr | leaves hp hn hr => constructor <;> grind [goTo]
  | works hp hr | clears hp => constructor <;> grind
  | wakes hp | worked hp => constructor <;> grind [goTo]
  | turns hp ho hr => constructor <;> grind [goTo]

theorem interrupted_ok (h : th.interrupted = some th') (ho : th.Ok) : th'.Ok := by
  obtain ⟨hp, rfl⟩ := interrupted_inv h
  obtain ⟨hwork, hrelease, hran, hended, honce⟩ := ho
  constructor <;> grind [goTo]

/-- A worker that waits has not run in this turn. -/
theorem wait_not_ran (ho : th.Ok) (hp : th.place = .wait) : th.ran = false := by
  rw [← Bool.not_eq_true]
  intro htrue
  rcases ho.ran htrue with h | h | h | ⟨h | h, -⟩ <;> rw [hp] at h <;> cases h

theorem shutdown_ok (ho : th.Ok) : th.shutdown.Ok where
  work := ho.work
  release := ho.release
  ran hr := by
    rcases ho.ran hr with h | h | h | ⟨hp, hro, -, hn⟩
    · exact .inl h
    · exact .inr (.inl h)
    · exact .inr (.inr (.inl h))
    · exact .inr (.inr (.inr ⟨hp, hro, rfl, hn⟩))
  ended _ := rfl
  once := ho.once

theorem released_ok (hp : th.place = .release) (ho : th.Ok) (hr : th.ran = true) :
    th.released.Ok := by
  have hn := ho.release hp hr
  unfold released
  split
  · next honce => constructor <;> grind
  · next honce => constructor <;> grind

/-! ### Idle workers -/

/-- An idle worker is not at work. -/
theorem Idle.not_work (hi : th.Idle) (ho : th.Ok) : th.place ≠ .work := by
  intro hp
  have hsome := (ho.work hp).1
  rw [hi.runnable] at hsome
  cases hsome

theorem Idle.shutdown (hi : th.Idle) : th.shutdown.Idle := ⟨hi.runnable, hi.ran⟩

/-- An idle worker that is to go on has not run and will be used again. -/
theorem Idle.not_ran (hi : th.Idle) (ho : th.Ok) (hrun : th.run = true) :
    th.ran = false ∧ th.runOnce = false ∧ th.place ≠ .ended := by
  have hran : th.ran = false := by
    rw [← Bool.not_eq_true]
    intro htrue
    rcases ho.ran htrue with h | h | h | ⟨-, -, h, -⟩
    · rcases hi.ran htrue with h' | h' <;> rw [h] at h' <;> cases h'
    · rcases hi.ran htrue with h' | h' <;> rw [h] at h' <;> cases h'
    · rcases hi.ran htrue with h' | h' <;> rw [h] at h' <;> cases h'
    · rw [hrun] at h
      cases h
  refine ⟨hran, ?_, fun he => ?_⟩
  · rw [← Bool.not_eq_true]
    intro honce
    have hsome := (ho.once honce hran).2
    rw [hi.runnable] at hsome
    cases hsome
  · have hend := ho.ended he
    rw [hrun] at hend
    cases hend

theorem Idle.inTurn (hi : th.Idle) (ho : th.Ok) (hrun : th.run = true) : th.InTurn := by
  intro htrue
  rw [(hi.not_ran ho hrun).1] at htrue
  cases htrue

/-- A worker stays in its turn until it has run. -/
theorem InTurn.advanced (ht : th.InTurn) (h : Advanced th th') : th'.InTurn := by
  intro hran
  cases h with
  | works hp hr => exact .inl rfl
  | worked hp => exact .inr (.inl rfl)
  | clears hp => exact .inr (.inr rfl)
  | turns hp ho hr => rw [goTo_ran, hr] at hran; cases hran
  | goesOn hp | ends hp | waits hp | leaves hp | wakes hp => rcases ht hran with h | h | h <;> grind

theorem Idle.given_ok (hi : th.Idle) (ho : th.Ok) (hrun : th.run = true) (r : ρ) :
    (th.given r).Ok := by
  obtain ⟨hran, honce, hne⟩ := hi.not_ran ho hrun
  have hwork := hi.not_work ho
  constructor <;> grind [given]

theorem Idle.left (hi : th.Idle) : th.left = [] := by
  simp [WorkerThread.left, hi.runnable]

theorem Idle.advanced (hi : th.Idle) (ho : th.Ok) (h : Advanced th th') : th'.Idle := by
  obtain ⟨hn, hran⟩ := hi
  cases h with
  | goesOn hp hr =>
      refine ⟨hn, fun htrue => ?_⟩
      -- A worker that ran and is at its loop has been told to stop.
      have hrun : th.run = false := by
        rcases ho.ran htrue with h | h | h | h
        · rw [hp] at h; cases h
        · rw [hp] at h; cases h
        · rw [hp] at h; cases h
        · exact h.2.2.1
      rw [hr] at hrun
      cases hrun
  | ends hp hr => exact ⟨hn, fun _ => .inr rfl⟩
  | works hp hr => rw [hn] at hr; cases hr
  | waits hp | leaves hp | wakes hp | worked hp | clears hp | turns hp =>
      constructor <;> grind [goTo]

theorem Idle.interrupted (hi : th.Idle) (h : th.interrupted = some th') : th'.Idle := by
  obtain ⟨hp, rfl⟩ := interrupted_inv h
  refine ⟨hi.runnable, fun htrue => ?_⟩
  rcases hi.ran htrue with h | h <;> rw [hp] at h <;> cases h

theorem released_idle (hp : th.place = .release) (ho : th.Ok) (hr : th.ran = true) :
    th.released.Idle := by
  have hn := ho.release hp hr
  unfold released
  split
  · exact ⟨hn, fun _ => .inl rfl⟩
  · refine ⟨hn, ?_⟩
    intro h
    cases h

/-! ### What a worker has left -/

/-- The runnable that the next step of a worker ends. -/
def finishes (th : WorkerThread ρ) : List ρ := if th.place = .work then th.runnable.toList else []

/-- The runnable that the next step of a worker throws away. -/
def drops (th : WorkerThread ρ) : List ρ :=
  if th.place = .clear ∧ th.ran = false then th.runnable.toList else []

/-- What a worker has left it ends, throws away, or still has after the step. -/
theorem Advanced.left_eq (h : Advanced th th') (ho : th.Ok) :
    th.left = th'.left ++ th.finishes ++ th.drops := by
  cases h with
  | worked hp => simp [left, finishes, drops, goTo, hp, (ho.work hp).2]
  | clears hp => cases hr : th.ran <;> simp [left, finishes, drops, hp, hr]
  | works hp hr => simp [left, finishes, drops, hp, hr]
  | leaves hp hn => simp [left, finishes, drops, goTo, hp, hn]
  | goesOn hp | ends hp | waits hp | wakes hp | turns hp => simp [left, finishes, drops, goTo, hp]

theorem interrupted_left (h : th.interrupted = some th') (ho : th.Ok) : th'.left = th.left := by
  obtain ⟨hp, rfl⟩ := interrupted_inv h
  simp [left, goTo, hp, wait_not_ran ho hp]

/-! ### Workers that do not come back -/

/-- A worker that does not get to run a runnable, unless it is given one: it has none, or it throws
it away, or it ends. -/
structure Doomed (th : WorkerThread ρ) : Prop where
  ran : th.ran = false
  nothing : th.runnable = none ∨ th.place = .clear ∨ th.place = .ended ∨
    (th.place = .loop ∨ th.place = .release) ∧ th.run = false

/-- A step of its own neither dooms a worker nor saves it. -/
theorem Advanced.doomed_iff (h : Advanced th th') (ho : th.Ok) : th'.Doomed ↔ th.Doomed := by
  have hiff : ∀ th : WorkerThread ρ, th.Doomed ↔ th.ran = false ∧ (th.runnable = none ∨
      th.place = .clear ∨ th.place = .ended ∨
        (th.place = .loop ∨ th.place = .release) ∧ th.run = false) :=
    fun th => ⟨fun ⟨hr, hn⟩ => ⟨hr, hn⟩, fun ⟨hr, hn⟩ => ⟨hr, hn⟩⟩
  rw [hiff, hiff]
  cases h with
  | goesOn hp hr | ends hp hr => simp [goTo, hp, hr]
  | waits hp hn | leaves hp hn => simp [hn]
  | works hp hr => simp [hp, hr]
  | wakes hp => simp [hp]
  | worked hp => simp [(ho.work hp).2]
  | clears hp => simp [hp]
  | turns hp honce hr => simp [hp]

/-- A worker that is interrupted does not run in this turn any more. -/
theorem interrupted_doomed (h : th.interrupted = some th') (ho : th.Ok) : th'.Doomed := by
  obtain ⟨hp, rfl⟩ := interrupted_inv h
  have hran := wait_not_ran ho hp
  exact ⟨hran, .inr (.inl rfl)⟩

/-- To be told to stop dooms a worker that has yet to test `run` in its loop. -/
theorem shutdown_doomed_iff : th.shutdown.Doomed ↔ th.Doomed ∨ th.runnable ≠ none ∧
    th.ran = false ∧ th.run = true ∧ (th.place = .loop ∨ th.place = .release) := by
  constructor
  · rintro ⟨hran, hn | hp | hp | ⟨hp, -⟩⟩
    · exact .inl ⟨hran, .inl hn⟩
    · exact .inl ⟨hran, .inr (.inl hp)⟩
    · exact .inl ⟨hran, .inr (.inr (.inl hp))⟩
    · by_cases hn : th.runnable = none
      · exact .inl ⟨hran, .inl hn⟩
      · cases hrun : th.run with
        | true => exact .inr ⟨hn, hran, rfl, hp⟩
        | false => exact .inl ⟨hran, .inr (.inr (.inr ⟨hp, hrun⟩))⟩
  · rintro (⟨hran, hn | hp | hp | ⟨hp, -⟩⟩ | ⟨-, hran, -, hp⟩)
    · exact ⟨hran, .inl hn⟩
    · exact ⟨hran, .inr (.inl hp)⟩
    · exact ⟨hran, .inr (.inr (.inl hp))⟩
    · exact ⟨hran, .inr (.inr (.inr ⟨hp, rfl⟩))⟩
    · exact ⟨hran, .inr (.inr (.inr ⟨hp, rfl⟩))⟩

/-- An idle worker that is given a runnable runs it, unless it is about to clear it. -/
theorem Idle.given_doomed_iff (hi : th.Idle) (ho : th.Ok) (hrun : th.run = true) (r : ρ) :
    (th.given r).Doomed ↔ th.place = .clear := by
  obtain ⟨hran, -, hne⟩ := hi.not_ran ho hrun
  constructor
  · rintro ⟨-, hn | hp | hp | ⟨-, hp⟩⟩
    · cases hn
    · exact hp
    · exact absurd hp hne
    · rw [show (th.given r).run = th.run from rfl, hrun] at hp
      cases hp
  · exact fun hp => ⟨hran, .inr (.inl hp)⟩

/-- The steps that a worker with a runnable makes before it is back at its pool. -/
def toRelease (th : WorkerThread ρ) : Nat :=
  match th.place with
  | .release => if th.ran then 0 else 5
  | .clear => 1
  | .work => 2
  | .test => 3
  | .loop => 4
  | .wait => 4
  | .ended => 0

/-- A busy worker that is not doomed comes nearer to the end of its turn. -/
theorem can_advance (ho : th.Ok) (ht : th.InTurn) (hd : ¬ th.Doomed)
    (hr : ¬ (th.place = .release ∧ th.ran = true)) :
    ∃ th', th.advance = some th' ∧ th'.toRelease < th.toRelease := by
  have hsome : th.ran = false → ∃ r, th.runnable = some r := fun hran =>
    Option.ne_none_iff_exists'.mp fun hn => hd ⟨hran, .inl hn⟩
  have hnot : th.place ≠ .work → th.place ≠ .clear → th.place ≠ .release → th.ran = false := by
    intro hw hc hrel
    rw [← Bool.not_eq_true]
    intro htrue
    rcases ht htrue with h | h | h
    · exact hw h
    · exact hc h
    · exact hrel h
  cases hp : th.place with
  | loop =>
      have hrun : th.run = true := by
        by_contra hne
        exact hd ⟨hnot (by simp [hp]) (by simp [hp]) (by simp [hp]),
          .inr (.inr (.inr ⟨.inl hp, (Bool.not_eq_true _).mp hne⟩))⟩
      exact ⟨th.goTo .test, by simp [advance, hp, hrun], by simp [toRelease, hp]⟩
  | test =>
      obtain ⟨r, hr⟩ := hsome (hnot (by simp [hp]) (by simp [hp]) (by simp [hp]))
      exact ⟨{ th with place := .work, ran := true }, by simp [advance, hp, hr],
        by simp [toRelease, hp]⟩
  | wait => exact ⟨th.goTo .test, by simp [advance, hp], by simp [toRelease, hp]⟩
  | work => exact ⟨th.goTo .clear, by simp [advance, hp], by simp [toRelease, hp]⟩
  | clear =>
      have hran : th.ran = true := by
        by_contra hne
        exact hd ⟨(Bool.not_eq_true _).mp hne, .inr (.inl hp)⟩
      exact ⟨{ th with runnable := none, place := .release }, by simp [advance, hp],
        by simp [toRelease, hp, hran]⟩
  | release =>
      have hran : th.ran = false := (Bool.not_eq_true _).mp fun htrue => hr ⟨hp, htrue⟩
      have honce : th.runOnce = false := by
        rw [← Bool.not_eq_true]
        intro h
        rcases (ho.once h hran).1 with h | h | h <;> rw [hp] at h <;> cases h
      exact ⟨th.goTo .loop, by simp [advance, hp, honce, hran], by simp [toRelease, hp, hran]⟩
  | ended =>
      exact absurd ⟨hnot (by simp [hp]) (by simp [hp]) (by simp [hp]), .inr (.inr (.inl hp))⟩ hd

/-- The steps that an idle worker makes before it ends. -/
def toEnd (th : WorkerThread ρ) : Nat :=
  match th.place with
  | .ended => 0
  | .loop => 1
  | .release => 2
  | .clear => 3
  | .test => 4
  | .wait => 5
  | .work => 0

/-- An idle worker that has been told to stop comes nearer to its end. -/
theorem Idle.can_end (hi : th.Idle) (ho : th.Ok) (hrun : th.run = false) (hne : th.place ≠ .ended) :
    ∃ th', th.advance = some th' ∧ th'.toEnd < th.toEnd := by
  cases hp : th.place with
  | loop => exact ⟨th.goTo .ended, by simp [advance, hp, hrun], by simp [toEnd, hp]⟩
  | test =>
      exact ⟨th.goTo .clear, by simp [advance, hp, hrun, hi.runnable], by simp [toEnd, hp]⟩
  | wait => exact ⟨th.goTo .test, by simp [advance, hp], by simp [toEnd, hp]⟩
  | work => exact absurd hp (hi.not_work ho)
  | clear =>
      exact ⟨{ th with runnable := none, place := .release }, by simp [advance, hp],
        by simp [toEnd, hp]⟩
  | release =>
      have hran : th.ran = false := by
        rw [← Bool.not_eq_true]
        intro htrue
        rcases hi.ran htrue with h | h <;> rw [hp] at h <;> cases h
      have honce : th.runOnce = false := by
        rw [← Bool.not_eq_true]
        intro h
        have hsome := (ho.once h hran).2
        rw [hi.runnable] at hsome
        cases hsome
      exact ⟨th.goTo .loop, by simp [advance, hp, honce, hran], by simp [toEnd, hp]⟩
  | ended => exact absurd hp hne

end WorkerThread

end MRF.Pool
