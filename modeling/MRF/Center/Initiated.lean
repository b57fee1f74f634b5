import MRF.Center.Initiating

/-!
# Center — Initiated

What the start of the center comes to, whoever calls `init`, whatever fails, and whatever clients
register and the scheduler does in between.

* `Stands.answer`: what each call of `init` does to what has been set.
* `init_run`: a center that says it is initiated is complete; its scheduler was initialized once;
  and an `init` that threw has started none of the threads.
-/

namespace MRF.Center
open MRF.Library MRF.Pool InitState

variable {ρ : Type*} {ctx : CenterContext} {t t' : CenterProcess ρ} {op op' : InitOp}
  {p : InitState} {name : SchedulerName}

/-! ### What is set -/

/-- A pool of the configuration, whose workers may have moved since. -/
def Readied (cfg : PoolConfig) (pool : SimpleThreadPool ρ) : Prop :=
  ∃ pool₀ tr, SimpleThreadPool.initialized cfg = .ok pool₀ ∧
    Run (Guarded (stepOf SimpleThreadPool.step) fun _ b => b.within = true) pool₀ tr pool

/-- The scheduler has run since it was initialized on pools of the configuration, and has been
told to start the threads of some names. -/
def HasRun (ctx : CenterContext) (Started : SchedulerName → Prop) (q : SchedulerProcess ρ) : Prop :=
  ∃ pools tr, (∀ name, SimpleThreadPool.initialized (ctx.pool name) = .ok (pools name)) ∧
    Run (stepOf SchedulerProcess.step) (.initial pools) tr q ∧
    ∀ name, Started name → ∃ e ∈ tr, e.2 = .togglePause name false

theorem HasRun.step {Started : SchedulerName → Prop} {q q' : SchedulerProcess ρ}
    {a : ProcessAction ρ} (h : HasRun ctx Started q) (hq : q.step a = some q') :
    HasRun ctx (fun name => Started name ∨ a = .togglePause name false) q' := by
  obtain ⟨pools, tr, hpools, hrun, hstarted⟩ := h
  refine ⟨pools, tr ++ [(q, a)], hpools, hrun.trans (.one hq), ?_⟩
  rintro name (hs | ha)
  · obtain ⟨e, he, heq⟩ := hstarted name hs
    exact ⟨e, List.mem_append_left _ he, heq⟩
  · exact ⟨(q, a), by simp, ha⟩

theorem HasRun.mono {Started Started' : SchedulerName → Prop} {q : SchedulerProcess ρ}
    (h : HasRun ctx Started q) (hs : ∀ name, Started' name → Started name) :
    HasRun ctx Started' q := by
  obtain ⟨pools, tr, hpools, hrun, hstarted⟩ := h
  exact ⟨pools, tr, hpools, hrun, fun name hn => hstarted name (hs name hn)⟩

/-- The scheduler on pools whose workers have moved before. -/
theorem hasRun_initial {pools : SchedulerName → SimpleThreadPool ρ}
    (h : ∀ name, Readied (ctx.pool name) (pools name)) :
    HasRun ctx (fun _ => False) (.initial pools) := by
  choose pools₀ tr hpools hrun using h
  -- one pool after the other comes to where it is
  have hreach : Reaches (stepOf SchedulerProcess.step) (.initial pools₀) fun q =>
      q = .initial pools := by
    have h₁ : (SchedulerProcess.initial pools₀).pools .pollEQ = pools₀ .pollEQ := rfl
    refine (SchedulerProcess.pool_runs (hrun .pollEQ) h₁).trans ?_
    rintro s rfl
    have h₂ : ((SchedulerProcess.initial pools₀).setPool .pollEQ (pools .pollEQ)).pools .houseKeep =
        pools₀ .houseKeep := rfl
    refine (SchedulerProcess.pool_runs (hrun .houseKeep) h₂).trans ?_
    rintro s rfl
    have h₃ : (((SchedulerProcess.initial pools₀).setPool .pollEQ (pools .pollEQ)).setPool
        .houseKeep (pools .houseKeep)).pools .pollIntervalRetry = pools₀ .pollIntervalRetry := rfl
    refine (SchedulerProcess.pool_runs (hrun .pollIntervalRetry) h₃).mono ?_
    rintro s rfl
    have hall : Function.update (Function.update (Function.update pools₀ .pollEQ (pools .pollEQ))
        .houseKeep (pools .houseKeep)) .pollIntervalRetry (pools .pollIntervalRetry) = pools := by
      funext name
      cases name <;> rfl
    exact congrArg SchedulerProcess.initial hall
  obtain ⟨tr, _, hrun, rfl⟩ := hreach
  exact ⟨pools₀, tr, hpools, hrun, fun _ h => h.elim⟩

/-- A scheduler that is shut stays so. -/
theorem shut_stays {q q' : SchedulerProcess ρ} {a : ProcessAction ρ} (h : q.step a = some q')
    (hq : (q.isShutDown || q.isShuttingDown) = true) :
    (q'.isShutDown || q'.isShuttingDown) = true := by
  cases SchedulerProcess.step_stepped h with
  | passed => exact Bool.or_true _
  | finish => exact Bool.true_or _
  | _ => exact hq

namespace CenterProcess

/-- There is a template for the queue of the row. -/
def Covers (t : CenterProcess ρ) (cur : ClientConfig) : Prop :=
  cur.retryQueueName ≠ "" → ∃ template, MRFServerResources.getRetryRabbitTemplate
    t.registry.retryRabbitTemplateMap cur.retryQueueName = some template

/-- What a call has set. -/
def Established (ctx : CenterContext) (t : CenterProcess ρ) : InitOp → Prop
  | .setInjected => t.injected = true
  | .addRetryRabbitTemplate cur => t.Covers cur
  | .initGlobalMessageIdGenerator => t.identityServiceClient = true
  | .setExceptionQueueName _ => t.exceptionQueueName = some (queueNameOf ctx.exceptionQueue)
  | .setExceptionQueueConfig _ => t.exceptionQueueConfig = some ctx.exceptionQueueConfig
  | .setExceptionRabbitTemplate _ => t.exceptionRabbitTemplate = some ctx.exceptionRabbitTemplate
  | .setExceptionRabbitAdmin _ => t.exceptionRabbitAdmin = some ctx.rabbitAdmin
  | .initializePool name => (t.threadPools name).isSome = true
  | _ => True

/-- The scheduler, by whether `init` has initialized it. -/
inductive SchedulerStands (ctx : CenterContext) (p : InitState) (t : CenterProcess ρ) : Prop where
  | none (hp : .initializeScheduler ∉ p.calls) (ht : t.pollTaskScheduler = .none)
      (hn : t.initializations = 0) (hu : ∀ name, .unpause name ∉ p.calls) (hr : p.refused = false)
  | some {q : SchedulerProcess ρ} (hp : .initializeScheduler ∈ p.calls)
      (ht : t.pollTaskScheduler = .some q) (hn : t.initializations = 1)
      (hr : HasRun ctx (fun name => .unpause name ∈ p.calls) q)

/-- The process, while `init` is so far. -/
structure Stands (ctx : CenterContext) (p : InitState) (t : CenterProcess ρ) : Prop where
  established : ∀ op ∈ p.calls, t.Established ctx op
  finished : .setHasInitiated ∈ p.calls → p.Finished ctx
  covered : .getAllClientConfigs ∈ p.calls → ∀ cur ∈ t.registry.clientConfig.rows,
    cur ∈ p.clientConfigs ∨ t.Covers cur
  pools : ∀ name pool, t.threadPools name = some pool → Readied (ctx.pool name) pool
  scheduler : t.SchedulerStands ctx p
  refused : p.refused = true → t.schedulerIsShut = true
  monitor : t.monitorThread = true ↔ .initializeMonitor ∈ p.calls
  initiated : t.hasInitiated = true ↔ .setHasInitiated ∈ p.calls

/-- What the center needs.  A shut scheduler is not started. -/
structure Complete (ctx : CenterContext) (t : CenterProcess ρ) : Prop where
  injected : t.injected = true
  identityServiceClient : t.identityServiceClient = true
  exceptionQueueName : t.exceptionQueueName = some (queueNameOf ctx.exceptionQueue)
  exceptionQueueConfig : t.exceptionQueueConfig = some ctx.exceptionQueueConfig
  exceptionRabbitTemplate : t.exceptionRabbitTemplate = some ctx.exceptionRabbitTemplate
  exceptionRabbitAdmin : t.exceptionRabbitAdmin = some ctx.rabbitAdmin
  templates : ∀ cur ∈ t.registry.clientConfig.rows, t.Covers cur
  monitorThread : t.monitorThread = true
  scheduler : ∃ q Started, t.pollTaskScheduler = some q ∧ HasRun ctx Started q ∧
    ((q.isShutDown || q.isShuttingDown) = true ∨ ∀ name, Started name)

/-- When `init` has come to its end, the center is complete. -/
theorem Stands.complete (hs : t.Stands ctx p) (h : t.hasInitiated = true) : t.Complete ctx := by
  have hf := hs.finished (hs.initiated.mp h)
  have hest (op : InitOp) (hop : op ∈ InitState.prepared ctx) : t.Established ctx op :=
    hs.established op (hf.prepared op hop)
  refine ⟨hest .setInjected (by simp [prepared]),
    hest .initGlobalMessageIdGenerator (by simp [prepared]),
    hest (.setExceptionQueueName ctx.exceptionQueue) (by simp [prepared]),
    hest (.setExceptionQueueConfig ctx.exceptionQueueConfig) (by simp [prepared]),
    hest (.setExceptionRabbitTemplate ctx.exceptionRabbitTemplate) (by simp [prepared]),
    hest (.setExceptionRabbitAdmin ctx.rabbitAdmin) (by simp [prepared]), ?_,
    hs.monitor.mpr hf.monitor, ?_⟩
  · intro cur hcur
    rcases hs.covered (hf.prepared _ (by simp [prepared])) cur hcur with hread | hcov
    · exact hs.established _ (hf.templates cur hread)
    · exact hcov
  · cases hs.scheduler with
    | none hp => exact absurd hf.scheduler hp
    | @some q hp ht hn hr =>
        refine ⟨q, _, ht, hr, hf.started.imp_left fun hrefused => ?_⟩
        have := hs.refused hrefused
        rwa [schedulerIsShut, ht] at this

/-! ### The calls of `init` -/

/-- What a call that starts no thread leaves as it is. -/
structure Beside (t t' : CenterProcess ρ) : Prop where
  clientConfig : t'.registry.clientConfig = t.registry.clientConfig
  pollTaskScheduler : t'.pollTaskScheduler = t.pollTaskScheduler
  initializations : t'.initializations = t.initializations
  monitorThread : t'.monitorThread = t.monitorThread
  hasInitiated : t'.hasInitiated = t.hasInitiated

theorem mem_called_iff (h : op ≠ op') : op' ∈ (p.called op).calls ↔ op' ∈ p.calls := by
  simp [called, h.symm]

theorem mem_of_called (h : op ≠ op') (hop : op' ∈ (p.called op).calls) : op' ∈ p.calls :=
  (mem_called_iff h).mp hop

theorem prepares_ne (hop : op.prepares = true) (hop' : op'.prepares = false) : op ≠ op' := by
  rintro rfl
  rw [hop] at hop'
  cases hop'

/-- The scheduler stands as it did, if neither it nor its calls have changed. -/
theorem SchedulerStands.of_eq {p' : InitState} (h : t.SchedulerStands ctx p)
    (ht : t'.pollTaskScheduler = t.pollTaskScheduler)
    (hn : t'.initializations = t.initializations)
    (hp : .initializeScheduler ∈ p'.calls ↔ .initializeScheduler ∈ p.calls)
    (hu : ∀ name, .unpause name ∈ p'.calls → .unpause name ∈ p.calls)
    (hr : p'.refused = p.refused) : t'.SchedulerStands ctx p' := by
  cases h with
  | none hp₀ ht₀ hn₀ hu₀ hr₀ =>
      exact .none (mt hp.mp hp₀) (ht.trans ht₀) (hn.trans hn₀)
        (fun name h => hu₀ name (hu name h)) (hr.trans hr₀)
  | some hp₀ ht₀ hn₀ hrun => exact .some (hp.mpr hp₀) (ht.trans ht₀) (hn.trans hn₀) (hrun.mono hu)

/-- What a call of `init` is answered, and what it leaves. -/
structure Served (ctx : CenterContext) (p : InitState) (op : InitOp)
    (x : Except InitException op.Res × CenterProcess ρ) : Prop where
  answers : (initProtocol ρ ctx).answers p op x.1
  stands : x.2.Stands ctx (p.next op x.1)

/-- What the calls so far have set, and what the new one has. -/
theorem established_called (hold : ∀ op' ∈ p.calls, t.Established ctx op')
    (hnew : t.Established ctx op) (op' : InitOp) (hop : op' ∈ (p.called op).calls) :
    t.Established ctx op' := by
  rcases List.mem_cons.mp hop with rfl | hop
  · exact hnew
  · exact hold op' hop

theorem finished_called {p : InitState} (h : p.Finished ctx) (op : InitOp) :
    (p.called op).Finished ctx where
  prepared op' hop := List.mem_cons_of_mem _ (h.prepared op' hop)
  templates cur hcur := List.mem_cons_of_mem _ (h.templates cur hcur)
  scheduler := List.mem_cons_of_mem _ h.scheduler
  monitor := List.mem_cons_of_mem _ h.monitor
  started := h.started.imp_right fun hu name => List.mem_cons_of_mem _ (hu name)

/-- What goes on beside does not shut the scheduler. -/
theorem Beside.schedulerIsShut (h : Beside t t') : t'.schedulerIsShut = t.schedulerIsShut := by
  simp only [CenterProcess.schedulerIsShut, h.pollTaskScheduler]

/-- A call that starts no thread has set something more. -/
theorem Stands.prepared (hs : t.Stands ctx p) (hop : op.prepares = true) (hb : Beside t t')
    (hgrow : ∀ op', t.Established ctx op' → t'.Established ctx op') (hest : t'.Established ctx op)
    (hpools : ∀ name pool, t'.threadPools name = some pool →
      t.threadPools name = some pool ∨ Readied (ctx.pool name) pool) :
    t'.Stands ctx (p.called op) where
  established := established_called (fun op' hold => hgrow op' (hs.established op' hold)) hest
  finished hi := finished_called (hs.finished (mem_of_called (prepares_ne hop rfl) hi)) op
  covered hread cur hcur := by
    rw [hb.clientConfig] at hcur
    exact (hs.covered (mem_of_called (prepares_ne hop rfl) hread) cur hcur).imp_right
      (hgrow (.addRetryRabbitTemplate cur))
  pools name pool h := (hpools name pool h).elim (hs.pools name pool) id
  scheduler := hs.scheduler.of_eq hb.pollTaskScheduler hb.initializations
    (mem_called_iff (prepares_ne hop rfl))
    (fun name => mem_of_called (prepares_ne hop rfl)) rfl
  refused h := hb.schedulerIsShut.trans (hs.refused h)
  monitor := by rw [hb.monitorThread, hs.monitor, mem_called_iff (prepares_ne hop rfl)]
  initiated := by rw [hb.hasInitiated, hs.initiated, mem_called_iff (prepares_ne hop rfl)]

/-- A template covers the row it is made for. -/
theorem addRetryRabbitTemplate_covers (cur : ClientConfig) :
    (t.addRetryRabbitTemplate cur).Covers cur := by
  intro hq
  refine ⟨cur.toConnectionConfig, ?_⟩
  simp [addRetryRabbitTemplate, MRFServerCenterStarter.setRetryRabbitTemplate,
    MRFServerResources.addRetryRabbitTemplate, MRFServerResources.getRetryRabbitTemplate, hq]

/-- A template is replaced, not removed. -/
theorem get_add {map : String → Option ConnectionConfig} {q q' : String} {c c' : ConnectionConfig}
    (h : MRFServerResources.getRetryRabbitTemplate map q = some c) :
    ∃ c'', MRFServerResources.getRetryRabbitTemplate
      (MRFServerResources.addRetryRabbitTemplate map q' c') q = some c'' := by
  unfold MRFServerResources.getRetryRabbitTemplate at h ⊢
  unfold MRFServerResources.addRetryRabbitTemplate
  split at h
  · cases h
  · next hq =>
      rw [if_neg hq]
      split
      · exact ⟨c, h⟩
      · dsimp only
        split
        · exact ⟨c', rfl⟩
        · exact ⟨c, h⟩

theorem addRetryRabbitTemplate_grows (cur : ClientConfig) (op : InitOp)
    (h : t.Established ctx op) : (t.addRetryRabbitTemplate cur).Established ctx op := by
  cases op with
  | addRetryRabbitTemplate c =>
      intro hq
      obtain ⟨template, ht⟩ := h hq
      exact get_add ht
  | _ => exact h

/-- A pool is initialized, or its configuration is refused. -/
theorem Stands.initializePool (hs : t.Stands ctx p) (name : SchedulerName) :
    Served ctx p (.initializePool name) (t.initializePool (ctx.pool name) name) := by
  obtain ⟨x, hc⟩ : ∃ x : Except String (SimpleThreadPool ρ),
    SimpleThreadPool.initialized (ctx.pool name) = x := ⟨_, rfl⟩
  unfold CenterProcess.initializePool
  rw [hc]
  cases x with
  | error errorMsg => exact ⟨.config hc, hs⟩
  | ok pool =>
      refine ⟨trivial, hs.prepared rfl ⟨rfl, rfl, rfl, rfl, rfl⟩ (fun op' h => ?_) ?_ ?_⟩
      · cases op' with
        | initializePool n =>
            by_cases hn : n = name
            · subst hn
              simp [Established]
            · simpa [Established, Function.update_of_ne hn] using h
        | _ => exact h
      · simp [Established]
      · intro n pool' h
        change Function.update t.threadPools name (some pool) n = _ at h
        by_cases hn : n = name
        · subst hn
          rw [Function.update_self] at h
          cases h
          exact .inr ⟨pool, [], hc, .nil pool⟩
        · rw [Function.update_of_ne hn] at h
          exact .inl h

/-- The pools that the scheduler is initialized on. -/
theorem Stands.initializeScheduler (hs : t.Stands ctx p)
    (ha : p.Allows ctx .initializeScheduler) :
    Served ctx p .initializeScheduler t.initializeScheduler := by
  obtain ⟨hp, hpools⟩ := ha
  have hset (name : SchedulerName) : ∃ pool, t.threadPools name = some pool :=
    Option.isSome_iff_exists.mp (hs.established _ (hpools name))
  obtain ⟨pollEQ, hEQ⟩ := hset .pollEQ
  obtain ⟨houseKeep, hkeep⟩ := hset .houseKeep
  obtain ⟨pollIntervalRetry, hretry⟩ := hset .pollIntervalRetry
  obtain ⟨hn, hu, hr⟩ : t.initializations = 0 ∧ (∀ name, .unpause name ∉ p.calls) ∧
      p.refused = false := by
    cases hs.scheduler with
    | none _ _ hn hu hr => exact ⟨hn, hu, hr⟩
    | some hp' => exact absurd hp' hp
  unfold CenterProcess.initializeScheduler
  rw [hEQ, hkeep, hretry]
  refine ⟨trivial, ?_, ?_, ?_, hs.pools, ?_, ?_, ?_, ?_⟩
  · refine established_called (fun op hold => ?_) trivial
    have := hs.established op hold
    cases op <;> exact this
  · exact fun hi => finished_called (hs.finished (mem_of_called (by simp) hi)) _
  · exact fun hread => hs.covered (mem_of_called (by simp) hread)
  · refine .some List.mem_cons_self rfl (by simp [hn]) ?_
    refine (hasRun_initial fun name => ?_).mono fun name hn => ?_
    · cases name with
      | pollEQ => exact hs.pools _ _ hEQ
      | houseKeep => exact hs.pools _ _ hkeep
      | pollIntervalRetry => exact hs.pools _ _ hretry
    · exact hu name (mem_of_called (by simp) hn)
  · intro href
    change p.refused = true at href
    rw [hr] at href
    cases href
  · exact hs.monitor.trans (mem_called_iff (by simp)).symm
  · exact hs.initiated.trans (mem_called_iff (by simp)).symm

theorem schedulerStep_inv {a : ProcessAction ρ} (h : t.schedulerStep a = some t') :
    ∃ q q', t.pollTaskScheduler = some q ∧ q.step a = some q' ∧
      t' = { t with pollTaskScheduler := some q' } := by
  obtain ⟨q', hq', rfl⟩ := Option.map_eq_some_iff.mp h
  obtain ⟨q, hq, hstep⟩ := Option.bind_eq_some_iff.mp hq'
  exact ⟨q, q', hq, hstep, rfl⟩

/-- What a step of the scheduler keeps, but for what it says of the scheduler's run. -/
theorem Stands.schedulerStep (hs : t.Stands ctx p) {a : ProcessAction ρ}
    (h : t.schedulerStep a = some t') : t'.Stands ctx p := by
  obtain ⟨q, q', hq, hstep, rfl⟩ := schedulerStep_inv h
  refine ⟨fun op hop => ?_, hs.finished, hs.covered, hs.pools, ?_, fun href => ?_, hs.monitor,
    hs.initiated⟩
  · have := hs.established op hop
    cases op <;> exact this
  · cases hs.scheduler with
    | none hp ht => simp [hq] at ht
    | some hp ht hn hr =>
        obtain rfl := Option.some.inj (hq.symm.trans ht)
        exact .some hp rfl hn ((hr.step hstep).mono fun name hu => .inl hu)
  · have := hs.refused href
    rw [schedulerIsShut, hq] at this
    exact shut_stays hstep this

/-- A thread is told to start, unless the scheduler was shut down. -/
theorem Stands.unpause (hs : t.Stands ctx p) (ha : .initializeScheduler ∈ p.calls)
    (name : SchedulerName) : Served ctx p (.unpause name) (t.unpause name) := by
  obtain ⟨q, hq⟩ : ∃ q, t.pollTaskScheduler = some q := by
    cases hs.scheduler with
    | none hp => exact absurd ha hp
    | some _ ht => exact ⟨_, ht⟩
  obtain ⟨q', hq'⟩ : ∃ q', q.step (.togglePause name false) = some q' := ⟨_, rfl⟩
  have hstep : t.schedulerStep (.togglePause name false) =
      some { t with pollTaskScheduler := some q' } := by
    simp only [CenterProcess.schedulerStep, hq, Option.bind_some, hq', Option.map_some]
  have hold := hs.schedulerStep hstep
  unfold CenterProcess.unpause
  rw [hstep]
  refine ⟨trivial, ?_, ?_, ?_, hold.pools, ?_, hold.refused, ?_, ?_⟩
  · exact established_called hold.established trivial
  · exact fun hi => finished_called (hs.finished (mem_of_called (by simp) hi)) _
  · exact fun hread => hold.covered (mem_of_called (by simp) hread)
  · cases hs.scheduler with
    | none hp => exact absurd ha hp
    | some hp ht hn hr =>
        obtain rfl := Option.some.inj (hq.symm.trans ht)
        refine .some (List.mem_cons_of_mem _ hp) rfl hn ((hr.step hq').mono fun n hn => ?_)
        -- the step of the run is the call itself
        rcases List.mem_cons.mp hn with hn | hn
        · cases hn
          exact .inr rfl
        · exact .inl hn
  · exact hold.monitor.trans (mem_called_iff (by simp)).symm
  · exact hold.initiated.trans (mem_called_iff (by simp)).symm

/-- The rows are read, before any template is there. -/
theorem Stands.getAllClientConfigs (hs : t.Stands ctx p) (hu : p.Unbegun) (fails : Bool) :
    Served ctx p .getAllClientConfigs (t.getAllClientConfigs fails) := by
  cases fails with
  | true => exact ⟨.dao _, hs⟩
  | false =>
      refine ⟨trivial, ?_, fun hi => absurd (mem_of_called (by simp) hi) hu.initiated,
        fun _ cur hcur => .inl hcur, hs.pools, ?_, hs.refused, ?_, ?_⟩
      · exact established_called hs.established trivial
      · exact hs.scheduler.of_eq rfl rfl (mem_called_iff (by simp))
          (fun name => mem_of_called (by simp)) rfl
      · exact hs.monitor.trans (mem_called_iff (by simp)).symm
      · exact hs.initiated.trans (mem_called_iff (by simp)).symm

theorem Stands.askShut (hs : t.Stands ctx p) (hp : .initializeScheduler ∈ p.calls)
    (hi : .setHasInitiated ∉ p.calls) :
    t.Stands ctx (p.next .schedulerIsShut (.ok t.schedulerIsShut)) := by
  refine ⟨?_, fun hi' => absurd (mem_of_called (by simp) hi') hi,
    fun hread => hs.covered (mem_of_called (by simp) hread), hs.pools, ?_, id, ?_, ?_⟩
  · exact established_called hs.established trivial
  · cases hs.scheduler with
    | none hp' => exact absurd hp hp'
    | some hp ht hn hr =>
        exact .some (List.mem_cons_of_mem _ hp) ht hn (hr.mono fun name => mem_of_called (by simp))
  · exact hs.monitor.trans (mem_called_iff (by simp)).symm
  · exact hs.initiated.trans (mem_called_iff (by simp)).symm

theorem Stands.initializeMonitor (hs : t.Stands ctx p) (ha : .initializeMonitor ∉ p.calls) :
    Served ctx p .initializeMonitor t.initializeMonitor := by
  unfold CenterProcess.initializeMonitor
  rw [if_neg (mt hs.monitor.mp ha)]
  refine ⟨trivial, ?_, fun hi => finished_called (hs.finished (mem_of_called (by simp) hi)) _,
    fun hread => hs.covered (mem_of_called (by simp) hread), hs.pools, ?_, hs.refused, ?_, ?_⟩
  · refine established_called (fun op hold => ?_) trivial
    have := hs.established op hold
    cases op <;> exact this
  · exact hs.scheduler.of_eq rfl rfl (mem_called_iff (by simp))
      (fun name => mem_of_called (by simp)) rfl
  · exact iff_of_true rfl List.mem_cons_self
  · exact hs.initiated.trans (mem_called_iff (by simp)).symm

/-- The flag is set when all the other calls have been made. -/
theorem Stands.setHasInitiated (hs : t.Stands ctx p) (ha : p.Finished ctx) :
    Stands ctx (p.called .setHasInitiated) { t with hasInitiated := true } := by
  refine ⟨?_, fun _ => finished_called ha _,
    fun hread => hs.covered (mem_of_called (by simp) hread), hs.pools, ?_, hs.refused, ?_,
    iff_of_true rfl List.mem_cons_self⟩
  · refine established_called (fun op hold => ?_) trivial
    have := hs.established op hold
    cases op <;> exact this
  · exact hs.scheduler.of_eq rfl rfl (mem_called_iff (by simp))
      (fun name => mem_of_called (by simp)) rfl
  · exact hs.monitor.trans (mem_called_iff (by simp)).symm

/-- A setter that `init` may call has set what it is to. -/
theorem Stands.set (hs : t.Stands ctx p) (hop : op.prepares = true) (hb : Beside t t')
    (hgrow : ∀ op', t.Established ctx op' → t'.Established ctx op') (hest : t'.Established ctx op)
    (hpools : t'.threadPools = t.threadPools) : t'.Stands ctx (p.called op) :=
  hs.prepared hop hb hgrow hest fun _ _ h => .inl (hpools ▸ h)

/-- Each call of `init` is answered as its protocol says. -/
theorem Stands.answer (hs : t.Stands ctx p) (fails : Bool) (ha : p.Allows ctx op) :
    Served ctx p op (t.answer ctx fails op) := by
  cases op with
  | contextIsNull =>
      exact ⟨trivial, hs.set rfl ⟨rfl, rfl, rfl, rfl, rfl⟩ (fun _ => id) trivial rfl⟩
  | getBean bean =>
      cases fails with
      | true => exact ⟨.bean bean, hs⟩
      | false => exact ⟨rfl, hs.set rfl ⟨rfl, rfl, rfl, rfl, rfl⟩ (fun _ => id) trivial rfl⟩
  | addRetryRabbitTemplate cur =>
      exact ⟨trivial, hs.set rfl ⟨rfl, rfl, rfl, rfl, rfl⟩ (addRetryRabbitTemplate_grows cur)
        (addRetryRabbitTemplate_covers cur) rfl⟩
  | setInjected | initGlobalMessageIdGenerator =>
      refine ⟨trivial, hs.set rfl ⟨rfl, rfl, rfl, rfl, rfl⟩ (fun op' h => ?_) rfl rfl⟩
      cases op' <;> first | exact h | rfl
  | setExceptionQueueName _ | setExceptionQueueConfig _ | setExceptionRabbitTemplate _
    | setExceptionRabbitAdmin _ =>
      cases ha
      refine ⟨trivial, hs.set rfl ⟨rfl, rfl, rfl, rfl, rfl⟩ (fun op' h => ?_) rfl rfl⟩
      cases op' <;> first | exact h | rfl
  | initializePool name => exact hs.initializePool name
  | getAllClientConfigs => exact hs.getAllClientConfigs ha fails
  | initializeScheduler => exact hs.initializeScheduler ha
  | schedulerIsShut => exact ⟨trivial, hs.askShut ha.1 ha.2⟩
  | unpause name => exact hs.unpause ha name
  | initializeMonitor => exact hs.initializeMonitor ha
  | setHasInitiated => exact ⟨trivial, hs.setHasInitiated ha⟩

/-! ### What else happens -/

/-- A registration takes no template away, and leaves none of its rows without one. -/
theorem registerRetryService_keeps (qc : QueueConfig) (c : ClientConfig) (faults : List Bool)
    (g : Registry) : ∃ g', (MRFServiceImpl.registerRetryService qc c faults g).2 = g' ∧
      (g' = g ∨ g' = g.withTemplate c ∨ ∃ u, g.clientConfig.insert c = some u ∧
        g' = { g with clientConfig := u }.withTemplate c) := by
  refine ⟨_, rfl, ?_⟩
  by_cases hc : MRFServiceImpl.accepts c = true
  · obtain ⟨r, g', h⟩ : ∃ r g', MRFServiceImpl.registerRetryService qc c faults g = (r, g') :=
      ⟨_, _, rfl⟩
    rw [h]
    cases r with
    | ok r =>
        rcases registerRetryService_cases hc h with ⟨-, hg⟩ | ⟨-, -, hg⟩ | hg
        · exact .inl hg
        · exact .inr (.inl hg)
        · exact .inr (.inr hg)
    | error e =>
        -- the transaction was rolled back
        left
        unfold MRFServiceImpl.registerRetryService at h
        rw [hc, Bool.not_true, if_neg Bool.false_ne_true] at h
        rcases Dao.transactional_cases (MRFRegisterService.registerRetryService qc c) faults g with
          ⟨a, s, -, ht⟩ | ⟨e', ht⟩
        · rw [ht] at h
          cases h
        · rw [ht] at h
          cases h
          rfl
  · left
    unfold MRFServiceImpl.registerRetryService
    rw [(Bool.not_eq_true _).mp hc]
    rfl

theorem withTemplate_covers (c : ClientConfig) (u : Table ClientConfig) :
    Covers { t with registry := { t.registry with clientConfig := u }.withTemplate c } c :=
  addRetryRabbitTemplate_covers c

/-- A registration beside `init` leaves no row uncovered. -/
theorem Stands.registerRetryService (hs : t.Stands ctx p) (c : ClientConfig)
    (faults : List Bool) : (t.registerRetryService ctx c faults).Stands ctx p := by
  have hkeeps {u : Table ClientConfig}
      (hu : ∀ cur ∈ u.rows, cur ∈ t.registry.clientConfig.rows ∨ cur = c) :
      Stands ctx p { t with registry := { t.registry with clientConfig := u }.withTemplate c } := by
    have hgrow {cur : ClientConfig} (h : t.Covers cur) :
        Covers { t with registry := { t.registry with clientConfig := u }.withTemplate c } cur := by
      intro hq
      obtain ⟨template, ht⟩ := h hq
      exact get_add ht
    refine ⟨fun op hop => ?_, hs.finished, fun hread cur hcur => ?_, hs.pools,
      hs.scheduler.of_eq rfl rfl Iff.rfl (fun _ => id) rfl, hs.refused, hs.monitor, hs.initiated⟩
    · have := hs.established op hop
      cases op with
      | addRetryRabbitTemplate cur => exact hgrow this
      | _ => exact this
    · -- a row of the registration has its template from the registration
      rcases hu cur hcur with hold | rfl
      · exact (hs.covered hread cur hold).imp_right hgrow
      · exact .inr (withTemplate_covers cur u)
  unfold CenterProcess.registerRetryService
  obtain ⟨g', hg', hg⟩ :=
    registerRetryService_keeps ctx.exceptionQueueConfig c faults t.registry
  rw [hg']
  rcases hg with rfl | rfl | ⟨u, hu, rfl⟩
  · exact hs
  · exact hkeeps fun cur hcur => .inl hcur
  · refine hkeeps fun cur hcur => ?_
    rw [Table.rows_of_insert hu, List.mem_append, List.mem_singleton] at hcur
    exact hcur

/-- A worker beside `init` leaves its pool ready. -/
theorem Stands.worker (hs : t.Stands ctx p) {wt : Nat} (h : t.worker name wt = some t') :
    t'.Stands ctx p := by
  unfold CenterProcess.worker at h
  split at h
  · obtain ⟨pool', hpool', rfl⟩ := Option.map_eq_some_iff.mp h
    obtain ⟨pool, hpool, hstep⟩ := Option.bind_eq_some_iff.mp hpool'
    refine ⟨fun op hop => ?_, hs.finished, hs.covered, fun n pool'' hn => ?_,
      hs.scheduler.of_eq rfl rfl Iff.rfl (fun _ => id) rfl, hs.refused, hs.monitor, hs.initiated⟩
    · have := hs.established op hop
      cases op with
      | initializePool n =>
          by_cases hn : n = name
          · subst hn
            simp [Established]
          · simpa [Established, Function.update_of_ne hn] using this
      | _ => exact this
    · change Function.update t.threadPools name (some pool') n = _ at hn
      by_cases hname : n = name
      · subst hname
        rw [Function.update_self] at hn
        cases hn
        obtain ⟨pool₀, tr, hc, hrun⟩ := hs.pools n pool hpool
        exact ⟨pool₀, _, hc, hrun.trans (.one ⟨hstep, rfl⟩)⟩
      · rw [Function.update_of_ne hname] at hn
        exact hs.pools n pool'' hn
  · cases h

/-- Nothing that happens beside `init` takes away what it has set. -/
theorem Stands.step (hs : t.Stands ctx p) {o : CenterStep ρ} (h : t.step ctx o = some t') :
    t'.Stands ctx p := by
  cases o with
  | setApplicationContext =>
      cases h
      refine ⟨fun op hop => ?_, hs.finished, hs.covered, hs.pools,
        hs.scheduler.of_eq rfl rfl Iff.rfl (fun _ => id) rfl, hs.refused, hs.monitor, hs.initiated⟩
      have := hs.established op hop
      cases op <;> exact this
  | registerRetryService c faults =>
      cases h
      exact hs.registerRetryService c faults
  | worker name wt => exact hs.worker h
  | scheduler a => exact hs.schedulerStep h

/-! ### Runs -/

/-- Nobody is in `init`: nothing is started, or `init` has returned. -/
def Rests (ctx : CenterContext) (t : CenterProcess ρ) : Option InitState → Prop
  | some p => t.Stands ctx p
  | none => t.Stands ctx .initial ∨ ∃ p, .setHasInitiated ∈ p.calls ∧ t.Stands ctx p

/-- Where no thread was started, the next `init` finds what the first one found, and relies on
nothing that was set before. -/
theorem Stands.anew (hs : t.Stands ctx p) (hu : p.Unbegun) : t.Stands ctx .initial := by
  refine ⟨nofun, nofun, nofun, hs.pools, ?_, nofun, ?_, ?_⟩
  · cases hs.scheduler with
    | none _ ht hn => exact .none List.not_mem_nil ht hn (fun _ => List.not_mem_nil) rfl
    | some hp => exact absurd hp hu.scheduler
  · exact iff_of_false (mt hs.monitor.mp hu.monitor) List.not_mem_nil
  · exact iff_of_false (mt hs.initiated.mp hu.initiated) List.not_mem_nil

/-- No call takes the flag back. -/
theorem hasInitiated_answer (fails : Bool) (h : t.hasInitiated = true) :
    (t.answer ctx fails op).2.hasInitiated = true := by
  cases op with
  | getAllClientConfigs => cases fails <;> exact h
  | initializePool name =>
      unfold answer CenterProcess.initializePool
      dsimp only
      split <;> exact h
  | initializeScheduler =>
      unfold answer CenterProcess.initializeScheduler
      dsimp only
      split <;> exact h
  | unpause name =>
      unfold answer CenterProcess.unpause
      dsimp only
      split
      · next hstep =>
          obtain ⟨q, q', -, -, rfl⟩ := schedulerStep_inv hstep
          exact h
      · exact h
  | initializeMonitor =>
      unfold answer CenterProcess.initializeMonitor
      dsimp only
      split <;> exact h
  | setHasInitiated => rfl
  | _ => exact h

theorem hasInitiated_step {o : CenterStep ρ} (h : t.step ctx o = some t')
    (hi : t.hasInitiated = true) : t'.hasInitiated = true := by
  cases o with
  | setApplicationContext | registerRetryService c faults =>
      cases h
      exact hi
  | worker name wt =>
      simp only [CenterProcess.step, worker] at h
      split at h
      · obtain ⟨pool', -, rfl⟩ := Option.map_eq_some_iff.mp h
        exact hi
      · cases h
  | scheduler a =>
      obtain ⟨q, q', -, -, rfl⟩ := schedulerStep_inv h
      exact hi

/-- What the library's rule asks for. -/
theorem keeps : Once.Keeps (initialization ctx) (initProtocol ρ ctx) initQ (initE ρ ctx)
    (InitFailure ρ ctx) .initial fun p (t : CenterProcess ρ) => t.Rests ctx p where
  body := initiate_conforms
  enters t ht hd := by
    rcases ht with ht | ⟨p, hp, ht⟩
    · exact ht
    · have hi := ht.initiated.mpr hp
      rw [show t.hasInitiated = false from hd] at hi
      cases hi
  answers t i p op ht ha := ⟨(Stands.answer ht i ha).answers, (Stands.answer ht i ha).stands⟩
  returns t p ht hq := ⟨.inr ⟨p, hq, ht⟩, ht.initiated.mpr hq⟩
  throws t p e ht he := ⟨.inl (ht.anew he.1), he.2⟩
  others t x o t' ht h := by
    cases x with
    | some p => exact Stands.step ht h
    | none => exact ht.imp (·.step h) fun ⟨p, hp, ht⟩ => ⟨p, hp, ht.step h⟩
  stays t i op h := hasInitiated_answer i h
  otherStays t o t' h ho := hasInitiated_step ho h

theorem initial_stands (clientConfig : Table ClientConfig) :
    Stands ctx .initial (initial clientConfig : CenterProcess ρ) := by
  refine ⟨nofun, nofun, nofun, nofun, ?_, nofun, ?_, ?_⟩
  · exact .none List.not_mem_nil rfl rfl (fun _ => List.not_mem_nil) rfl
  · exact iff_of_false Bool.false_ne_true List.not_mem_nil
  · exact iff_of_false Bool.false_ne_true List.not_mem_nil

/-- The scheduler is initialized once at most. -/
theorem Stands.initializations_le (hs : t.Stands ctx p) : t.initializations ≤ 1 := by
  cases hs.scheduler with
  | none _ _ hn => exact hn.le.trans (Nat.zero_le 1)
  | some _ _ hn => exact hn.le

/-- **The center is started once.**  In every run of any number of calls of `init`, with any
failures, and with registrations and steps of the scheduler between their calls: a call that has
returned finds the center initiated, and then it is complete; one that has thrown failed at a
lookup or at a pool of the configuration; the scheduler is never initialized twice; and while
nobody is in `init` and the center is not initiated, neither the scheduler nor the monitor has been
started. -/
theorem init_run {clientConfig : Table ClientConfig}
    {s : Once (CenterProcess ρ) InitOp InitOp.Res InitException}
    {tr : List (Once (CenterProcess ρ) InitOp InitOp.Res InitException ×
      OnceAction Bool (CenterStep ρ))}
    (hrun : Run (stepOf (Once.step (initialization ctx))) (.initial (initial clientConfig)) tr s) :
    (∀ c, s.callers c = .out (some (.ok ())) → s.shared.hasInitiated = true) ∧
      (∀ c e, s.callers c = .out (some (.error e)) → InitFailure ρ ctx e) ∧
      (s.shared.hasInitiated = true → s.shared.Complete ctx) ∧
      s.shared.initializations ≤ 1 ∧
      (s.holder = none → s.shared.hasInitiated = false →
        s.shared.pollTaskScheduler = none ∧ s.shared.monitorThread = false) ∧
      ∀ c d, s.callers c = .inside → s.callers d = .inside → c = d := by
  obtain ⟨hs, hexclusive⟩ := Once.holds_run keeps (.inl (initial_stands clientConfig)) hrun
  obtain ⟨p, hp⟩ : ∃ p, s.shared.Stands ctx p := by
    have hbody := hs.body
    generalize s.holder = holder at hbody
    cases hbody with
    | free h =>
        rcases h with h | ⟨p, -, h⟩
        · exact ⟨_, h⟩
        · exact ⟨p, h⟩
    | taken h _ => exact ⟨_, h⟩
  refine ⟨hs.returned, hs.threw, hp.complete, hp.initializations_le, fun hfree hnot => ?_,
    fun c d hc hd => ?_⟩
  · have hbody := hs.body
    rw [hfree] at hbody
    cases hbody with
    | free h =>
        rcases h with h | ⟨p, hp, h⟩
        · refine ⟨?_, Bool.eq_false_iff.mpr (mt h.monitor.mp List.not_mem_nil)⟩
          cases h.scheduler with
          | none _ ht => exact ht
          | some hp => cases hp
        · have hi := h.initiated.mpr hp
          rw [hnot] at hi
          cases hi
  · obtain ⟨rest, hrest⟩ := (hexclusive c).mp hc
    obtain ⟨rest', hrest'⟩ := (hexclusive d).mp hd
    rw [hrest] at hrest'
    exact (Prod.mk.inj (Option.some.inj hrest')).1

/-- A center with pools of one worker. -/
def sampleContext : CenterContext where
  exceptionQueue := "mrf.exception.queue"
  exceptionConnectionFactory := ⟨"mq.center", 5672, "guest", "guest"⟩
  exceptionRabbitTemplate := ⟨"mq.center", 5672, "guest", "guest"⟩
  rabbitAdmin := ⟨"mq.center", 5672, "guest", "guest"⟩
  pool _ := ⟨some "EQPoll", 1, 5⟩

/-- The first call finds the database down; while the second is in `init`, a third calls, and a
client registers. -/
def startedTwice : List (OnceAction Bool (CenterStep Nat)) :=
  [.other .setApplicationContext, .call 0, .enter 0, .next false, .next false, .next true,
    .next false, .call 1, .call 2, .enter 1] ++ List.replicate 14 (.next false) ++
  [.other (.registerRetryService (feedConfig "mq.feed") [])] ++ List.replicate 10 (.next false) ++
  [.enter 2]

set_option maxRecDepth 4000 in
/-- The first call fails at the table, and the third completes the center. -/
theorem init_run_sample : ∃ s, exec (Once.step (initialization sampleContext))
      (.initial (initial .empty : CenterProcess Nat)) startedTwice = some s ∧
    s.callers 0 = .out (some (.error (.daoException ⟨"getAllClientConfigs"⟩))) ∧
    s.callers 2 = .out (some (.ok ())) ∧ s.shared.Complete sampleContext := by
  obtain ⟨s, hs⟩ : ∃ s, exec (Once.step (initialization sampleContext))
      (.initial (initial .empty : CenterProcess Nat)) startedTwice = some s := ⟨_, rfl⟩
  have hcallers : s.callers 0 = .out (some (.error (.daoException ⟨"getAllClientConfigs"⟩))) ∧
      s.callers 2 = .out (some (.ok ())) := by
    cases hs
    exact ⟨rfl, rfl⟩
  obtain ⟨hok, -, hcomplete, -⟩ := init_run (Run.of_exec hs)
  exact ⟨s, hs, hcallers.1, hcallers.2, hcomplete (hok 2 hcallers.2)⟩

end CenterProcess

end MRF.Center
