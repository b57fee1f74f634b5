import MRF.Center.Scheduler
import MRF.Library.Pool

/-!
# Center — CoordinateSignal

The house keeper takes the permit of `coordinateSignal` when it has read a batch, and the worker
gives it back when it has moved the batch.  While the thread is not halted, the permits and the
batches that are on their way make one together, unless a worker meets a `RuntimeException` that
is not a `DAOException`, which passes the `release()`, or an interrupt ends an `acquire()`
without a permit (`permits_step`).
-/

namespace MRF.Center
open MRF.Library

variable {B : Type} [BusinessMsg B] {cfg : SchedulerConfig} {s s' : Scheduler B}
  {a : SchedulerAction B}

namespace SchedulerAction

/-- The worker does not come to its `release()`. -/
def leaks : SchedulerAction B → Bool
  | .moveHouseKeep _ _ _ proxyThrows => proxyThrows
  | _ => false

/-- The house keeper goes on without a permit. -/
def interrupts : SchedulerAction B → Bool
  | .acquire interrupted => interrupted
  | _ => false

/-- Whether the action changes the permits alone. -/
def Upsets (a : SchedulerAction B) : Prop := a.leaks = true ∨ a.interrupts = true

end SchedulerAction

namespace Scheduler

/-- The batches built from a read that answered rows, and not moved yet. -/
def outstanding (cfg : SchedulerConfig) (s : Scheduler B) : Nat :=
  (if s.houseKeep.position.task.isEmpty then 0 else 1) +
    busy cfg.houseKeepThreadCount s.houseKeepWorkers

/-- What the semaphore is there for. -/
structure Coordinated (cfg : SchedulerConfig) (s : Scheduler B) : Prop where
  conserved : s.coordinateSignal + s.outstanding cfg = 1
  /-- Two moves never overlap. -/
  alone : ∀ w v, w ≠ v → s.houseKeepWorkers w = [] ∨ s.houseKeepWorkers v = []
  /-- A house keeper that has to wait for the permit waits for a batch. -/
  awaited : ∀ rows, s.houseKeep.position = .construct (.acquire rows) → s.coordinateSignal = 0 →
    ∃ w, s.houseKeepWorkers w ≠ []

/-- What holds whatever becomes of the permits. -/
structure Batched (cfg : SchedulerConfig) (s : Scheduler B) : Prop where
  within : Within cfg.houseKeepThreadCount s.houseKeepWorkers
  rows_ne : ∀ rows, s.houseKeep.position = .construct (.acquire rows) → rows ≠ []
  running : s.houseKeep.halted = false

omit [BusinessMsg B] in
/-- With the batches counted, the conservation law says the rest. -/
theorem Batched.coordinated (hb : Batched cfg s)
    (h : s.coordinateSignal + s.outstanding cfg = 1) : Coordinated cfg s := by
  refine ⟨h, fun w v hne => ?_, fun rows hp hz => ?_⟩
  · by_contra hboth
    obtain ⟨hw, hv⟩ := not_or.mp hboth
    have h₂ := two_le_busy (hb.within.lt hw) (hb.within.lt hv) hne hw hv
    simp only [outstanding] at h
    omega
  · refine exists_busy (n := cfg.houseKeepThreadCount) ?_
    simp only [outstanding, hp, Position.task, List.isEmpty_nil, if_true] at h
    omega

/-! ### Steps -/

theorem Batched.step (h : Stepped cfg s a s') (hb : Batched cfg s) (ha : a ≠ .haltHouseKeep) :
    Batched cfg s' := by
  cases h with
  | haltHouseKeep => exact absurd rfl ha
  | advanceHouseKeep h =>
      exact ⟨hb.within, fun _ hp => absurd hp (h.not_construct _), h.halted_eq.trans hb.running⟩
  | startHouseKeep => exact ⟨hb.within, fun _ hp => (by cases hp), hb.running⟩
  | @readHouseKeep now outcome hp =>
      refine ⟨hb.within, fun rows hr => ?_, hb.running⟩
      rcases afterRead_cases cfg s now outcome with he | he | ⟨r, rows', he⟩
      · simp [SchedulerThread.goTo, he] at hr
      · simp [SchedulerThread.goTo, he] at hr
      · simp only [SchedulerThread.goTo, he, Position.construct.injEq,
          HouseKeepConstruct.acquire.injEq] at hr
        exact hr ▸ List.cons_ne_nil r rows'
  | interrupted => exact ⟨hb.within, fun _ hp => (by cases hp), hb.running⟩
  | acquired => exact ⟨hb.within, fun _ hp => (by cases hp), hb.running⟩
  | handOverHouseKeep hp hn hw =>
      exact ⟨hb.within.update hn _, fun _ hp => (by cases hp), hb.running⟩
  | proxyThrows hw | moveHouseKeep hw =>
      exact ⟨hb.within.update (hb.within.lt (hw ▸ List.cons_ne_nil _ _)) [], hb.rows_ne, hb.running⟩
  | _ => exact ⟨hb.within, hb.rows_ne, hb.running⟩

omit [BusinessMsg B] in
theorem batched_initial (cfg : SchedulerConfig) (q : List (RetryMessage B)) (t : Tables B) :
    Batched cfg (initial q t) :=
  ⟨within_nil _, nofun, rfl⟩

/-- **The permits across a step.** -/
theorem permits_step (h : Stepped cfg s a s') (hb : Batched cfg s) (ha : a ≠ .haltHouseKeep) :
    s'.coordinateSignal + s'.outstanding cfg + a.leaks.toNat =
      s.coordinateSignal + s.outstanding cfg + a.interrupts.toNat := by
  cases h with
  | haltHouseKeep => exact absurd rfl ha
  | advanceHouseKeep h =>
      simp only [outstanding, h.task_eq hb.running]
      rfl
  | startHouseKeep hp hn hw =>
      simp only [outstanding, hp]
      rfl
  | @readHouseKeep now outcome hp =>
      simp only [outstanding, hp, SchedulerThread.goTo, afterRead_task]
      rfl
  | @interrupted rows hp =>
      have hr := hb.rows_ne rows hp
      simp only [outstanding, hp, SchedulerThread.goTo, Position.task, List.isEmpty_iff, hr,
        SchedulerAction.leaks, SchedulerAction.interrupts, if_true, if_false, Bool.toNat_true,
        Bool.toNat_false]
      omega
  | @acquired rows permits hp hc =>
      have hr := hb.rows_ne rows hp
      simp only [outstanding, hp, hc, SchedulerThread.goTo, Position.task, List.isEmpty_iff, hr,
        SchedulerAction.leaks, SchedulerAction.interrupts, if_true, if_false, Bool.toNat_false]
      omega
  | @handOverHouseKeep w task hp hn hw =>
      simp only [outstanding, hp, SchedulerThread.goTo, Position.task, busy_start hn hw,
        SchedulerAction.leaks, SchedulerAction.interrupts, List.isEmpty_nil, if_true,
        Bool.toNat_false]
      omega
  | @proxyThrows w now faults r rows hw =>
      have hne : s.houseKeepWorkers w ≠ [] := hw ▸ List.cons_ne_nil r rows
      have hf := busy_finish (hb.within.lt hne) hne
      simp only [outstanding, SchedulerAction.leaks, SchedulerAction.interrupts, Bool.toNat_true,
        Bool.toNat_false]
      omega
  | @moveHouseKeep w now faults r rows hw =>
      have hne : s.houseKeepWorkers w ≠ [] := hw ▸ List.cons_ne_nil r rows
      have hf := busy_finish (hb.within.lt hne) hne
      simp only [outstanding, SchedulerAction.leaks, SchedulerAction.interrupts, Bool.toNat_false]
      omega
  | _ => rfl

/-! ### Runs -/

/-- The steps of a scheduler whose house keeper is not halted. -/
def Running (cfg : SchedulerConfig) :
    Scheduler B → SchedulerAction B → Scheduler B → Prop :=
  Guarded (stepOf (step cfg)) fun _ a => a ≠ .haltHouseKeep

variable {tr : List (Scheduler B × SchedulerAction B)} {q : List (RetryMessage B)} {t : Tables B}

/-- A leaked permit does not come back, and one too many stays. -/
theorem permits_run (h : Run (Running cfg) s tr s') (hb : Batched cfg s) :
    s'.coordinateSignal + s'.outstanding cfg + total (fun _ a => a.leaks.toNat) tr =
      s.coordinateSignal + s.outstanding cfg + total (fun _ a => a.interrupts.toNat) tr :=
  h.balance (I := Batched cfg) (V := fun s => s.coordinateSignal + s.outstanding cfg)
    (fun _ _ _ hs hb => hb.step (step_stepped hs.1) hs.2)
    (fun _ _ _ hs hb => permits_step (step_stepped hs.1) hb hs.2) hb

/-- **The semaphore is conserved** exactly in the runs in which every `acquire()` returns with a
permit and no worker meets a `RuntimeException` that is not a `DAOException`. -/
theorem coordinated_iff (h : Run (Running cfg) (initial q t) tr s) :
    ((∀ p ∈ tr, Coordinated cfg p.1) ∧ Coordinated cfg s) ↔ ∀ p ∈ tr, ¬ p.2.Upsets := by
  refine h.always_iff (I := Batched cfg) (P := Coordinated cfg) (G := fun _ a => ¬ a.Upsets)
    (fun s a s' hs hb => hb.step (step_stepped hs.1) hs.2) (fun s a s' hs hb hc => ?_)
    (batched_initial cfg q t) ((batched_initial cfg q t).coordinated ?_)
  · have hp := permits_step (step_stepped hs.1) hb hs.2
    have hb' := hb.step (step_stepped hs.1) hs.2
    rw [hc.conserved] at hp
    constructor
    · intro hc'
      rw [hc'.conserved] at hp
      rintro (hl | hi)
      · cases a <;> simp_all [SchedulerAction.leaks, SchedulerAction.interrupts]
      · cases a <;> simp_all [SchedulerAction.leaks, SchedulerAction.interrupts]
    · intro hu
      obtain ⟨hl, hi⟩ := not_or.mp hu
      rw [Bool.eq_false_of_not_eq_true hl, Bool.eq_false_of_not_eq_true hi] at hp
      exact hb'.coordinated (by simpa using hp)
  · simp [initial, outstanding, SchedulerThread.initial, Position.task]

/-! ### A sample -/

/-- A house keeper reads the row and hands it over. -/
def handsOver : List (SchedulerAction String) :=
  emptyRound ++ comesToRead ++
    [.readHouseKeep 11 .returns, .acquire false, .advanceHouseKeep, .advanceHouseKeep,
      .handOverHouseKeep 0]

theorem coordinated_sample : ∃ s, exec (step .sample) (initial [] checkedOutTables)
    (handsOver ++ [.moveHouseKeep 0 11 [] false]) = some s ∧ Coordinated .sample s := by
  obtain ⟨s, hs⟩ : ∃ s, exec (step .sample) (initial [] checkedOutTables)
      (handsOver ++ [.moveHouseKeep 0 11 [] false]) = some s := ⟨_, rfl⟩
  refine ⟨s, hs, ?_⟩
  have hrun := (Run.of_exec hs).to_guarded (G := fun _ a => a ≠ .haltHouseKeep) fun p hp => by
    have hmem := mem_trace hp
    rintro he
    simp [he, handsOver, emptyRound, comesToRead] at hmem
  refine ((coordinated_iff hrun).mpr fun p hp => ?_).2
  have hmem := mem_trace hp
  simp only [handsOver, emptyRound, comesToRead, List.cons_append, List.nil_append,
    List.mem_cons, List.not_mem_nil, or_false] at hmem
  rintro (hu | hu)
  · cases ha : p.2 <;> simp_all [SchedulerAction.leaks]
  · cases ha : p.2 <;> simp_all [SchedulerAction.interrupts]

/-- The transaction of the first move cannot begin.  The permit is not given back: the next
round of the house keeper waits for it with nothing outstanding. -/
theorem permit_leaks : ∃ s, exec (step .sample) (initial [] checkedOutTables)
      (handsOver ++ [.moveHouseKeep 0 11 [] true, .advanceHouseKeep, .advanceHouseKeep,
        .advanceHouseKeep, .advanceHouseKeep, .startHouseKeep 0, .readHouseKeep 11 .returns])
      = some s ∧
    s.houseKeep.halted = false ∧ s.coordinateSignal + s.outstanding .sample = 0 ∧
    (∃ rows, s.houseKeep.position = .construct (.acquire rows)) ∧
    s.step .sample (.acquire false) = none := by
  refine ⟨_, rfl, rfl, ?_, ⟨_, rfl⟩, rfl⟩
  rfl

end Scheduler

end MRF.Center
