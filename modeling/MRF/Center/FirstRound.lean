import MRF.Center.Drain

/-!
# Center — FirstRound

The house keeper depends on the exception-queue thread: it waits for `hasExecutedOnce`, so that
what waits in the exception queue at the start is applied before any row is judged expired.  The
flag is set by the scheduler thread, also where it has only handed its batch to a worker, where a
receive failed, and where it drops its batch because it is halted.  In the runs in which none of
this sets the flag early (`EndsFirst`), the house keeper waits for a whole round.
-/

namespace MRF.Center
open MRF.Library

variable {B : Type} {cfg : SchedulerConfig} {s s' : Scheduler B} {a : SchedulerAction B}
  {tr : List (Scheduler B × SchedulerAction B)} {q : List (RetryMessage B)} {t : Tables B}

namespace Scheduler

/-! ### Rounds -/

/-- A drain emptied the queue and answered `ms`. -/
def Drained (ms : List (RetryMessage B)) : List (Scheduler B × SchedulerAction B) → Prop :=
  Happened fun _ s a =>
    a = .receive ∧ s.pollEQ.position = .construct ms ∧ s.exceptionQueue = []

/-- The batch `ms` of a drain was handed to the worker `w`. -/
def HandedOver (ms : List (RetryMessage B)) (w : Nat) :
    List (Scheduler B × SchedulerAction B) → Prop :=
  Happened fun tr s a => a = .handOverEQ w ∧ s.pollEQ.position = .handOver ms ∧ Drained ms tr

/-- The worker `w` came to the end of the batch `ms`. -/
def Executed (ms : List (RetryMessage B)) (w : Nat) :
    List (Scheduler B × SchedulerAction B) → Prop :=
  Happened fun tr s a =>
    (∃ e proxyThrows, a = .executeEQ w e proxyThrows) ∧ (∃ m, s.eqWorkers w = [m]) ∧
      HandedOver ms w tr

/-- A whole round of the exception-queue thread. -/
def CompletedRound (tr : List (Scheduler B × SchedulerAction B)) : Prop :=
  Drained [] tr ∨ ∃ ms w, Executed ms w tr

theorem CompletedRound.append (h : CompletedRound tr)
    (tr' : List (Scheduler B × SchedulerAction B)) : CompletedRound (tr ++ tr') :=
  h.imp (fun h => h.append tr') fun ⟨ms, w, h⟩ => ⟨ms, w, h.append tr'⟩

/-- The message that a worker executes. -/
def executed (s : Scheduler B) : SchedulerAction B → Multiset (RetryMessage B)
  | .executeEQ w _ _ => (s.eqWorkers w).take 1
  | _ => 0

/-- A step of `HouseKeepSchedulerThread.constructPollTask`: its start or its read. -/
inductive ConstructsPollTask : SchedulerAction B → Prop where
  | start (w : Nat) : ConstructsPollTask (.startHouseKeep w)
  | read (now : Datetime) (outcome : ReadOutcome) : ConstructsPollTask (.readHouseKeep now outcome)

/-- Until the thread has executed once, no receive fails, the thread is not halted where it asks
whether to go ahead, and it does not come to `signalHasExecutedOnce` before its worker is
through. -/
structure EndsFirst (s : Scheduler B) (a : SchedulerAction B) : Prop where
  receives : s.pollEQ.hasExecutedOnce = false → a ≠ .receiveFails
  goesAhead : s.pollEQ.hasExecutedOnce = false → a = .advanceEQ →
    ∀ task, s.pollEQ.position = .goAhead task → s.pollEQ.halted = false
  waits : s.pollEQ.hasExecutedOnce = false → a = .advanceEQ →
    ∀ idle, s.pollEQ.position = .signal idle → ∀ w, s.eqWorkers w = []

/-! ### The first round -/

/-- How far the first round is, after `tr`, with the queue `q` at the start. -/
inductive FirstRound (q : List (RetryMessage B)) (tr : List (Scheduler B × SchedulerAction B))
    (s : Scheduler B) : Prop where
  | before (hp : s.pollEQ.position = .loop ∨ s.pollEQ.position = .waitForDependent ∨
        s.pollEQ.position = .pause ∨ s.pollEQ.position = .block)
      (hw : ∀ w, s.eqWorkers w = []) (hq : (q : Multiset (RetryMessage B)) ≤ s.exceptionQueue)
  | draining {ms : List (RetryMessage B)} (hp : s.pollEQ.position = .construct ms)
      (hw : ∀ w, s.eqWorkers w = [])
      (hq : (q : Multiset (RetryMessage B)) ≤ s.exceptionQueue + ms)
  | drained {ms : List (RetryMessage B)} (hp : s.pollEQ.position = .constructed ms)
      (hw : ∀ w, s.eqWorkers w = []) (hd : Drained ms tr)
      (hq : (q : Multiset (RetryMessage B)) ≤ ms)
  | nothing (hp : s.pollEQ.position = .signal true) (hd : Drained [] tr)
      (hq : (q : Multiset (RetryMessage B)) ≤ 0)
  | goesAhead {ms : List (RetryMessage B)}
      (hp : s.pollEQ.position = .goAhead ms ∨ s.pollEQ.position = .handOver ms) (hms : ms ≠ [])
      (hw : ∀ w, s.eqWorkers w = []) (hd : Drained ms tr)
      (hq : (q : Multiset (RetryMessage B)) ≤ ms)
  | handedOver {ms : List (RetryMessage B)} {w : Nat} (hp : s.pollEQ.position = .signal false)
      (hw : ∀ v, v ≠ w → s.eqWorkers v = []) (hh : HandedOver ms w tr)
      (he : s.eqWorkers w = [] → Executed ms w tr)
      (hq : (q : Multiset (RetryMessage B)) ≤ s.eqWorkers w + total executed tr)
  | ended (hp : s.pollEQ.position = .ended)

/-- The house keeper has not come past its dependent thread. -/
def Depends (s : Scheduler B) : Prop :=
  s.houseKeep.position = .loop ∨ s.houseKeep.position = .waitForDependent ∨
    s.houseKeep.position = .ended

/-- What holds after `tr`: the first round is on its way and the house keeper waits, or a whole
round is completed and what was in the queue at the start has been executed. -/
inductive Waits (q : List (RetryMessage B)) (tr : List (Scheduler B × SchedulerAction B))
    (s : Scheduler B) : Prop where
  | first (hn : s.pollEQ.hasExecutedOnce = false) (hf : FirstRound q tr s) (hd : Depends s)
  | done (hn : s.pollEQ.hasExecutedOnce = true) (hc : CompletedRound tr)
      (hq : (q : Multiset (RetryMessage B)) ≤ total executed tr)

theorem waits_initial (q : List (RetryMessage B)) (t : Tables B) : Waits q [] (initial q t) :=
  .first rfl (.before (.inl rfl) (fun _ => rfl) le_rfl) (.inl rfl)

/-! ### Steps -/

theorem total_executed_concat (s : Scheduler B) (a : SchedulerAction B) :
    total executed (tr ++ [(s, a)]) = total executed tr + s.executed a := by
  simp [total_append, total_cons]

theorem executed_mono {ms l : Multiset (RetryMessage B)} (h : l ≤ ms + total executed tr)
    (s : Scheduler B) (a : SchedulerAction B) : l ≤ ms + total executed (tr ++ [(s, a)]) := by
  rw [total_executed_concat, ← add_assoc]
  exact h.trans (Multiset.le_add_right _ _)

/-- A step that is neither the thread's nor a worker's. -/
theorem FirstRound.frame (h : FirstRound q tr s)
    (hp : s'.pollEQ.position = s.pollEQ.position) (hw : s'.eqWorkers = s.eqWorkers)
    (hq : (s.exceptionQueue : Multiset (RetryMessage B)) ≤ s'.exceptionQueue) :
    FirstRound q (tr ++ [(s, a)]) s' := by
  cases h with
  | before hp' hw' hq' => exact .before (by rwa [hp]) (by rwa [hw]) (hq'.trans hq)
  | draining hp' hw' hq' =>
      exact .draining (hp.trans hp') (by rwa [hw]) (hq'.trans (add_le_add_left hq _))
  | drained hp' hw' hd hq' => exact .drained (hp.trans hp') (by rwa [hw]) (hd.append _) hq'
  | nothing hp' hd hq' => exact .nothing (hp.trans hp') (hd.append _) hq'
  | goesAhead hp' hms hw' hd hq' =>
      exact .goesAhead (by rwa [hp]) hms (by rwa [hw]) (hd.append _) hq'
  | handedOver hp' hw' hh he hq' =>
      refine .handedOver (hp.trans hp') (by rwa [hw]) (hh.append _) (fun h => ?_) ?_
      · rw [hw] at h
        exact (he h).append _
      · rw [hw]
        exact executed_mono hq' s a
  | ended hp' => exact .ended (hp.trans hp')

namespace FirstRound

/-! The cases of `FirstRound`, by the place of the thread. -/

theorem at_before (h : FirstRound q tr s)
    (hp : s.pollEQ.position = .loop ∨ s.pollEQ.position = .waitForDependent ∨
      s.pollEQ.position = .pause ∨ s.pollEQ.position = .block) :
    (∀ w, s.eqWorkers w = []) ∧ (q : Multiset (RetryMessage B)) ≤ s.exceptionQueue := by
  cases h with
  | before _ hw hq => exact ⟨hw, hq⟩
  | _ => rcases hp with hp | hp | hp | hp <;> simp_all

theorem at_construct {ms : List (RetryMessage B)} (h : FirstRound q tr s)
    (hp : s.pollEQ.position = .construct ms) : (∀ w, s.eqWorkers w = []) ∧
      (q : Multiset (RetryMessage B)) ≤ s.exceptionQueue + ms := by
  cases h with
  | draining hp' hw hq =>
      obtain rfl : _ = ms := by simpa [hp] using hp'.symm
      exact ⟨hw, hq⟩
  | _ => simp_all

theorem at_constructed {ms : List (RetryMessage B)} (h : FirstRound q tr s)
    (hp : s.pollEQ.position = .constructed ms) : (∀ w, s.eqWorkers w = []) ∧ Drained ms tr ∧
      (q : Multiset (RetryMessage B)) ≤ ms := by
  cases h with
  | drained hp' hw hd hq =>
      obtain rfl : _ = ms := by simpa [hp] using hp'.symm
      exact ⟨hw, hd, hq⟩
  | _ => simp_all

theorem at_goAhead {ms : List (RetryMessage B)} (h : FirstRound q tr s)
    (hp : s.pollEQ.position = .goAhead ms ∨ s.pollEQ.position = .handOver ms) :
    ms ≠ [] ∧ (∀ w, s.eqWorkers w = []) ∧ Drained ms tr ∧
      (q : Multiset (RetryMessage B)) ≤ ms := by
  cases h with
  | @goesAhead ms' hp' hms hw hd hq =>
      obtain rfl : ms' = ms := by
        rcases hp with hp | hp <;> rcases hp' with hp' | hp' <;> simp_all
      exact ⟨hms, hw, hd, hq⟩
  | _ => rcases hp with hp | hp <;> simp_all

/-- Where the flag is set, with all workers available, the round is completed. -/
theorem at_signal {idle : Bool} (h : FirstRound q tr s)
    (hp : s.pollEQ.position = .signal idle) (hw : ∀ w, s.eqWorkers w = []) :
    CompletedRound tr ∧ (q : Multiset (RetryMessage B)) ≤ total executed tr := by
  cases h with
  | nothing _ hd hq => exact ⟨.inl hd, hq.trans (Multiset.zero_le _)⟩
  | @handedOver ms w _ _ _ he hq =>
      rw [hw w, Multiset.coe_nil, zero_add] at hq
      exact ⟨.inr ⟨ms, w, he (hw w)⟩, hq⟩
  | _ => simp_all

end FirstRound

/-- The thread goes on, in its first round. -/
theorem FirstRound.advance {th : SchedulerThread (List (RetryMessage B)) (RetryMessage B)}
    (hf : FirstRound q tr s) (h : s.pollEQ.Advanced true th) (hn : s.pollEQ.hasExecutedOnce = false)
    (hg : EndsFirst s .advanceEQ) (hd : Depends s) :
    Waits q (tr ++ [(s, .advanceEQ)]) { s with pollEQ := th } := by
  cases h with
  | loop hp =>
      obtain ⟨hw, hq⟩ := hf.at_before (.inl hp)
      refine .first hn ?_ hd
      cases hh : s.pollEQ.halted with
      | true => exact .ended rfl
      | false => exact .before (.inr (.inl rfl)) hw hq
  | waitForDependent hp =>
      obtain ⟨hw, hq⟩ := hf.at_before (.inr (.inl hp))
      exact .first hn (.before (.inr (.inr (.inl rfl))) hw hq) hd
  | halted => exact .first hn (.ended rfl) hd
  | unpaused hp =>
      obtain ⟨hw, hq⟩ := hf.at_before (.inr (.inr (.inl hp)))
      exact .first hn (.before (.inr (.inr (.inr rfl))) hw hq) hd
  | noTask hp =>
      obtain ⟨-, hdr, hq⟩ := hf.at_constructed hp
      exact .first hn (.nothing rfl (hdr.append _) hq) hd
  | task hp hms =>
      obtain ⟨hw, hdr, hq⟩ := hf.at_constructed hp
      exact .first hn (.goesAhead (.inl rfl) hms hw (hdr.append _) hq) hd
  | dropped hp hh =>
      rw [hg.goesAhead hn rfl _ hp] at hh
      cases hh
  | goAhead hp =>
      obtain ⟨hms, hw, hdr, hq⟩ := hf.at_goAhead (.inl hp)
      exact .first hn (.goesAhead (.inr rfl) hms hw (hdr.append _) hq) hd
  | signal hp =>
      obtain ⟨hc, hq⟩ := hf.at_signal hp (hg.waits hn rfl _ hp)
      refine .done rfl (hc.append _) ?_
      rw [total_executed_concat]
      exact hq.trans (Multiset.le_add_right _ _)
  | idle hp => cases hf <;> simp_all

/-- A worker executes a message of the first batch. -/
theorem FirstRound.execute {w : Nat} {e : Env} {proxyThrows : Bool} {m : RetryMessage B}
    {ms : List (RetryMessage B)} {t : Tables B} (hf : FirstRound q tr s)
    (hw : s.eqWorkers w = m :: ms) :
    FirstRound q (tr ++ [(s, .executeEQ w e proxyThrows)])
      { s with tables := t, eqWorkers := Function.update s.eqWorkers w ms } := by
  cases hf with
  | before _ hw' | draining _ hw' | drained _ hw' | goesAhead _ _ hw' =>
      rw [hw' w] at hw
      cases hw
  | nothing hp hd hq => exact .nothing hp (hd.append _) hq
  | @handedOver ms' v hp hw' hh he hq =>
      obtain rfl : w = v := by
        by_contra hne
        rw [hw' w hne] at hw
        cases hw
      have hself : Function.update s.eqWorkers w ms w = ms := Function.update_self _ _ _
      have hm : s.executed (.executeEQ w e proxyThrows) = {m} := by simp [executed, hw]
      refine .handedOver hp (fun v hv => (Function.update_of_ne hv _ _).trans (hw' v hv))
        (hh.append _) (fun hms => ?_) ?_
      · have hlast : ms = [] := hself.symm.trans hms
        exact Happened.last ⟨⟨e, proxyThrows, rfl⟩, ⟨m, hlast ▸ hw⟩, hh⟩
      · rw [hw, ← Multiset.cons_coe, ← Multiset.singleton_add] at hq
        dsimp only
        rw [total_executed_concat, hself, hm]
        exact hq.trans (le_of_eq (by ac_rfl))
  | ended hp => exact .ended hp

theorem hasExecutedOnce_mono [BusinessMsg B] (h : Stepped cfg s a s')
    (hn : s.pollEQ.hasExecutedOnce = true) : s'.pollEQ.hasExecutedOnce = true := by
  cases h with
  | advanceEQ h => cases h <;> first | exact hn | rfl
  | _ => exact hn

/-- While the flag is not set, the house keeper stays where it waits for it. -/
theorem Depends.step [BusinessMsg B] (h : Stepped cfg s a s')
    (hn : s.pollEQ.hasExecutedOnce = false) (hd : Depends s) : Depends s' := by
  cases h with
  | advanceHouseKeep h =>
      rcases hd with hp | hp | hp
      · cases h with
        | loop => cases s.houseKeep.halted <;> simp [Depends]
        | _ => simp_all
      · cases h with
        | waitForDependent _ hdep => rw [hn] at hdep; cases hdep
        | _ => simp_all
      · cases h <;> simp_all
  | startHouseKeep hp | readHouseKeep hp | interrupted hp | acquired hp | handOverHouseKeep hp =>
      simp [Depends, hp] at hd
  | _ => exact hd

theorem Waits.step [BusinessMsg B] (h : Stepped cfg s a s') (hg : EndsFirst s a)
    (hw : Waits q tr s) : Waits q (tr ++ [(s, a)]) s' := by
  cases hw with
  | done hn hc hq =>
      refine .done (hasExecutedOnce_mono h hn) (hc.append _) ?_
      rw [total_executed_concat]
      exact hq.trans (Multiset.le_add_right _ _)
  | first hn hf hd =>
      have hd' := hd.step h hn
      cases h with
      | send m =>
          refine .first hn (hf.frame rfl rfl ?_) hd'
          rw [← Multiset.coe_add]
          exact Multiset.le_add_right _ _
      | advanceEQ h => exact hf.advance h hn hg hd
      | startEQ hp =>
          obtain ⟨hidle, hq⟩ := hf.at_before (.inr (.inr (.inr hp)))
          exact .first hn (.draining rfl hidle (by simpa using hq)) hd'
      | drained hp hempty =>
          obtain ⟨hidle, hq⟩ := hf.at_construct hp
          -- the queue is empty, so all that was there at the start is in the task
          rw [hempty, Multiset.coe_nil, zero_add] at hq
          exact .first hn (.drained rfl hidle (.last ⟨rfl, hp, hempty⟩) hq) hd'
      | received hp hqueue =>
          obtain ⟨hidle, hq⟩ := hf.at_construct hp
          rw [hqueue, ← Multiset.cons_coe, ← Multiset.singleton_add] at hq
          refine .first hn (.draining rfl hidle (hq.trans (le_of_eq ?_))) hd'
          rw [← Multiset.coe_add, Multiset.coe_singleton]
          ac_rfl
      | receiveFails => exact absurd rfl (hg.receives hn)
      | handOverEQ hp hlt hidle =>
          obtain ⟨hms, hall, hdr, hq⟩ := hf.at_goAhead (.inr hp)
          refine .first hn (.handedOver rfl
            (fun v hv => (Function.update_of_ne hv _ _).trans (hall v)) (.last ⟨rfl, hp, hdr⟩)
            (fun he => absurd ((Function.update_self _ _ _).symm.trans he) hms) ?_) hd'
          dsimp only
          rw [Function.update_self]
          exact hq.trans (Multiset.le_add_right _ _)
      | executeEQ hw => exact .first hn (hf.execute hw) hd'
      | _ => exact .first hn (hf.frame rfl rfl le_rfl) hd'

/-! ### Runs -/

variable [BusinessMsg B]

/-- What has been executed in the runs that lose nothing has been applied. -/
theorem handledIn_executed (hn : ∀ p ∈ tr, ¬ Loses p.1 p.2) :
    handledIn (total executed tr) ≤ total applied tr := by
  induction tr with
  | nil => exact le_rfl
  | cons p tr ih =>
      obtain ⟨s, a⟩ := p
      have hlost := lost_eq_zero_iff.mpr (hn (s, a) List.mem_cons_self)
      have hall := applied_add_lost s a
      rw [hlost, add_zero] at hall
      have hle : handledIn (s.executed a) ≤ s.applied a := by
        rw [hall]
        cases a with
        | executeEQ w e proxyThrows => exact le_rfl
        | _ => exact Multiset.zero_le _
      rw [total_cons, total_cons, handledIn_add]
      exact add_le_add hle (ih fun p hp => hn p (List.mem_cons_of_mem _ hp))

/-- **House keeping waits for a finished round of the exception queue**, in every run in which
the flag is not set before the first round is through.  What was in the queue at the start has
then been executed, and applied unless the service threw. -/
theorem houseKeep_waits
    (h : Run (Guarded (stepOf (step cfg)) EndsFirst) (initial q t) tr s) :
    ∀ tr₁ p tr₂, tr = tr₁ ++ p :: tr₂ → ConstructsPollTask p.2 →
      CompletedRound tr₁ ∧ (q : Multiset (RetryMessage B)) ≤ total executed tr₁ ∧
        ((∀ p ∈ tr₁, ¬ Loses p.1 p.2) → handledIn q ≤ total applied tr₁) := by
  rintro tr₁ p tr₂ rfl hp
  obtain ⟨hw, s₁, hstep⟩ := h.history_mem (J := Waits q)
    (fun tr s a s' hs hw => hw.step (step_stepped hs.1) hs.2) (waits_initial q t)
  cases hw with
  | first hn hf hd =>
      have hs := step_stepped hstep.1
      generalize p.2 = a at hp hs
      cases hp with
      | start w => cases hs with | startHouseKeep hp => simp [Depends, hp] at hd
      | read now outcome => cases hs with | readHouseKeep hp => simp [Depends, hp] at hd
  | done hn hc hq =>
      exact ⟨hc, hq, fun hl => (Multiset.filter_le_filter _ hq).trans (handledIn_executed hl)⟩

/-! ### A sample -/

/-- The first round on a clean, with the house keeper behind it. -/
def firstRound : List (SchedulerAction String) :=
  drain ++ [.advanceEQ, .handOverEQ 0, .executeEQ 0 .working false, .advanceEQ] ++ comesToRead

/-- Whether the worker of the sample is through where the flag is set. -/
def isThrough (s : Scheduler String) (a : SchedulerAction String) : Bool :=
  match s.pollEQ.position, a with
  | .signal _, .advanceEQ => (s.eqWorkers 0).isEmpty
  | _, _ => true

/-- Whether the step does not end a drain with nothing received. -/
def isNoEmptyDrain (s : Scheduler String) (a : SchedulerAction String) : Bool :=
  match s.pollEQ.position, a with
  | .construct [], .receive => !s.exceptionQueue.isEmpty
  | _, _ => true

theorem houseKeep_waits_sample : ∃ s,
    exec (step .sample) (initial [queuedClean] checkedOutTables) firstRound = some s ∧
      (s.step .sample (.readHouseKeep 11 .returns)).isSome = true ∧
      CompletedRound
        (trace (step .sample) (initial [queuedClean] checkedOutTables) firstRound) := by
  refine ⟨_, rfl, rfl, ?_⟩
  obtain ⟨s, hs⟩ : ∃ s, exec (step .sample) (initial [queuedClean] checkedOutTables)
    (firstRound ++ [.readHouseKeep 11 .returns]) = some s := ⟨_, rfl⟩
  have hrun := Run.of_exec hs
  have hwithin := hrun.forall_mem
    (I := fun s => Within SchedulerConfig.sample.eqPollThreadCount s.eqWorkers)
    (fun _ _ _ hs hw => within_step (step_stepped hs) hw) (within_nil _)
  have hall : ∀ p ∈ trace (step .sample) (initial [queuedClean] checkedOutTables)
      (firstRound ++ [.readHouseKeep 11 .returns]),
      p.1.pollEQ.halted = false ∧ isThrough p.1 p.2 = true := by decide
  have hg := hrun.to_guarded (G := EndsFirst) fun p hp => by
    refine ⟨fun _ he => ?_, fun _ _ _ _ => (hall p hp).1, fun _ ha idle hs w => ?_⟩
    · have hmem := mem_trace hp
      simp [he, firstRound, drain, comesToRead] at hmem
    · cases w with
      | zero => simpa [isThrough, hs, ha] using (hall p hp).2
      | succ w => exact (hwithin p hp).1 _ (Nat.le_add_left 1 w)
  exact (houseKeep_waits hg _ _ [] rfl (.read 11 .returns)).1

/-- The thread has handed its batch over and sets the flag.  The house keeper reads the row 1,
which has expired, while its clean waits in the worker. -/
theorem houseKeep_too_early : ∃ s,
    exec (step .sample) (initial [queuedClean] checkedOutTables)
        (drain ++ [.advanceEQ, .handOverEQ 0, .advanceEQ] ++ comesToRead) = some s ∧
      (s.step .sample (.readHouseKeep 11 .returns)).isSome = true ∧
      s.eqWorkers 0 = [queuedClean] ∧
      ¬ CompletedRound (trace (step .sample) (initial [queuedClean] checkedOutTables)
        (drain ++ [.advanceEQ, .handOverEQ 0, .advanceEQ] ++ comesToRead)) := by
  refine ⟨_, rfl, rfl, rfl, ?_⟩
  rintro (⟨tr₁, s, a, tr₂, he, rfl, hp, hq⟩ | ⟨ms, w, tr₁, s, a, tr₂, he, ⟨e, b, rfl⟩, -⟩)
  · have hall : ∀ p ∈ trace (step .sample) (initial [queuedClean] checkedOutTables)
        (drain ++ [.advanceEQ, .handOverEQ 0, .advanceEQ] ++ comesToRead),
        isNoEmptyDrain p.1 p.2 = true := by decide
    have hlast := hall (s, .receive) (by rw [he]; simp)
    simp [isNoEmptyDrain, hp, hq] at hlast
  · have hmem : (s, SchedulerAction.executeEQ w e b) ∈ trace (step .sample)
        (initial [queuedClean] checkedOutTables)
        (drain ++ [.advanceEQ, .handOverEQ 0, .advanceEQ] ++ comesToRead) := by
      rw [he]
      simp
    have ha := mem_trace hmem
    simp [drain, comesToRead] at ha

end Scheduler

end MRF.Center
