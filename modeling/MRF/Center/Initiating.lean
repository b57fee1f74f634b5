import MRF.Center.Starter

/-!
# Center — Initiating

`init` for itself: what it calls, and after what.

* `initiate_conforms`: it sets `hasInitiated` when everything has been set and the threads have
  been started, each once, and throws only before it starts a thread.
-/

namespace MRF.Center
open MRF.Library MRF.Pool

variable {ρ : Type*} {ctx : CenterContext} {t t' : CenterProcess ρ} {op : InitOp}

/-! ### The protocol -/

/-- What `init` has called, with what it was answered. -/
structure InitState where
  calls : List InitOp
  clientConfigs : List ClientConfig
  /-- It found the scheduler shut. -/
  refused : Bool

namespace InitState

/-- Before `init`. -/
def initial : InitState := ⟨[], [], false⟩

/-- One more call. -/
def called (p : InitState) (op : InitOp) : InitState := { p with calls := op :: p.calls }

/-- What a call that returns adds; one that raises adds nothing. -/
def next (p : InitState) : (op : InitOp) → Except InitException op.Res → InitState
  | _, .error _ => p
  | .getAllClientConfigs, .ok clientConfigs => { p with clientConfigs }.called .getAllClientConfigs
  | .schedulerIsShut, .ok refused => { p with refused }.called .schedulerIsShut
  | op, .ok _ => p.called op

/-- No thread has been started, but for the workers of pools. -/
structure Unbegun (p : InitState) : Prop where
  scheduler : .initializeScheduler ∉ p.calls
  monitor : .initializeMonitor ∉ p.calls
  initiated : .setHasInitiated ∉ p.calls

/-- What has to be called before the threads are started. -/
def prepared (ctx : CenterContext) : List InitOp :=
  [.setInjected, .getAllClientConfigs, .initGlobalMessageIdGenerator,
    .setExceptionQueueName ctx.exceptionQueue, .setExceptionQueueConfig ctx.exceptionQueueConfig,
    .setExceptionRabbitTemplate ctx.exceptionRabbitTemplate,
    .setExceptionRabbitAdmin ctx.rabbitAdmin]

/-- All calls that set anything have been made. -/
structure Finished (ctx : CenterContext) (p : InitState) : Prop where
  prepared : ∀ op ∈ prepared ctx, op ∈ p.calls
  templates : ∀ cur ∈ p.clientConfigs, .addRetryRabbitTemplate cur ∈ p.calls
  scheduler : .initializeScheduler ∈ p.calls
  monitor : .initializeMonitor ∈ p.calls
  started : p.refused = true ∨ ∀ name, .unpause name ∈ p.calls

end InitState

open InitState

/-- What `init` may throw. -/
inductive InitFailure (ρ : Type*) (ctx : CenterContext) : InitException → Prop where
  | context : InitFailure ρ ctx (.mrfServerInitException
      "MRFServerCenterStarter initialization failed, for applicationContext is null")
  | dao (e : DAOException) : InitFailure ρ ctx (.daoException e)
  | bean (bean : Bean) : InitFailure ρ ctx (.beansException bean)
  | config {name : SchedulerName} {errorMsg : String}
      (h : (SimpleThreadPool.initialized (ctx.pool name) : Except String (SimpleThreadPool ρ)) =
        .error errorMsg) : InitFailure ρ ctx (.configException errorMsg)

/-- The calls that look something up, and may fail. -/
inductive InitFails (ρ : Type*) (ctx : CenterContext) : InitOp → InitException → Prop where
  | dao (e : DAOException) : InitFails ρ ctx .getAllClientConfigs (.daoException e)
  | bean (bean : Bean) : InitFails ρ ctx (.getBean bean) (.beansException bean)
  | config {name : SchedulerName} {errorMsg : String}
      (h : (SimpleThreadPool.initialized (ctx.pool name) : Except String (SimpleThreadPool ρ)) =
        .error errorMsg) : InitFails ρ ctx (.initializePool name) (.configException errorMsg)

theorem InitFails.failure {e : InitException} (h : InitFails ρ ctx op e) : InitFailure ρ ctx e := by
  cases h with
  | dao e => exact .dao e
  | bean bean => exact .bean bean
  | config h => exact .config h

/-- What a call is answered that does not fail. -/
def InitAnswers (ctx : CenterContext) : (op : InitOp) → op.Res → Prop
  | .getBean bean, v => v = ctx.getBean bean
  | _, _ => True

/-- Which calls `init` may make when. -/
def InitState.Allows (ctx : CenterContext) (p : InitState) : InitOp → Prop
  | .setExceptionQueueName name => name = ctx.exceptionQueue
  | .setExceptionQueueConfig c => c = ctx.exceptionQueueConfig
  | .setExceptionRabbitTemplate template => template = ctx.exceptionRabbitTemplate
  | .setExceptionRabbitAdmin admin => admin = ctx.rabbitAdmin
  | .getAllClientConfigs => p.Unbegun
  | .initializePool _ => .initializeScheduler ∉ p.calls
  | .initializeScheduler =>
      .initializeScheduler ∉ p.calls ∧ ∀ name, .initializePool name ∈ p.calls
  | .schedulerIsShut => .initializeScheduler ∈ p.calls ∧ .setHasInitiated ∉ p.calls
  | .unpause _ => .initializeScheduler ∈ p.calls
  | .initializeMonitor => .initializeMonitor ∉ p.calls
  | .setHasInitiated => p.Finished ctx
  | _ => True

/-- `init` and the process it works on. -/
def initProtocol (ρ : Type*) (ctx : CenterContext) :
    Protocol InitOp InitOp.Res InitException InitState where
  allows := InitState.Allows ctx
  answers _ op
    | .ok v => InitAnswers ctx op v
    | .error e => InitFails ρ ctx op e
  next := InitState.next

/-! ### `init` keeps to it -/

/-- `init` has set its flag when it returns. -/
def initQ (p : InitState) (_ : Unit) : Prop := .setHasInitiated ∈ p.calls

/-- `init` has not begun to start anything when it raises. -/
def initE (ρ : Type*) (ctx : CenterContext) (p : InitState) (e : InitException) : Prop :=
  p.Unbegun ∧ InitFailure ρ ctx e

variable {p : InitState} {α : Type}

/-- The rule for a call; where it fails, no thread has been started. -/
theorem wp_initCall {Q : InitState → α → Prop} {f : op.Res → Initiating α}
    (ha : p.Allows ctx op) (hfail : (∃ e, InitFails ρ ctx op e) → p.Unbegun)
    (hQ : ∀ v, InitAnswers ctx op v →
      wp (initProtocol ρ ctx) Q (initE ρ ctx) (p.next op (.ok v)) (f v)) :
    wp (initProtocol ρ ctx) Q (initE ρ ctx) p (Prog.perform op >>= f) := by
  refine (wp_bind ..).mpr ((wp_perform ..).mpr ⟨ha, hQ, fun e he => ?_⟩)
  exact ⟨hfail ⟨e, he⟩, InitFails.failure he⟩

theorem InitState.Unbegun.called (h : p.Unbegun) (hs : op ≠ .initializeScheduler)
    (hm : op ≠ .initializeMonitor) (hi : op ≠ .setHasInitiated) : (p.called op).Unbegun where
  scheduler hmem := (List.mem_cons.mp hmem).elim (fun he => hs he.symm) h.scheduler
  monitor hmem := (List.mem_cons.mp hmem).elim (fun he => hm he.symm) h.monitor
  initiated hmem := (List.mem_cons.mp hmem).elim (fun he => hi he.symm) h.initiated

theorem unbegun_initial : InitState.initial.Unbegun where
  scheduler := List.not_mem_nil
  monitor := List.not_mem_nil
  initiated := List.not_mem_nil

/-- The calls that start no thread but workers, and whose answers nothing depends on. -/
def InitOp.prepares : InitOp → Bool
  | .getAllClientConfigs | .initializeScheduler | .schedulerIsShut | .unpause _ => false
  | .initializeMonitor | .setHasInitiated => false
  | _ => true

theorem next_prepares (hop : op.prepares = true) (v : op.Res) :
    p.next op (.ok v) = p.called op := by
  cases op with
  | getAllClientConfigs | schedulerIsShut => cases hop
  | _ => rfl

theorem InitState.Unbegun.prepared (h : p.Unbegun) (hop : op.prepares = true) :
    (p.called op).Unbegun := by
  refine h.called ?_ ?_ ?_ <;> rintro rfl <;> cases hop

/-- The rule for a call before the scheduler is initialized. -/
theorem wp_prepare {Q : InitState → α → Prop} {f : op.Res → Initiating α} (hu : p.Unbegun)
    (hop : op.prepares = true) (ha : p.Allows ctx op)
    (hQ : ∀ v, InitAnswers ctx op v → (p.called op).Unbegun →
      wp (initProtocol ρ ctx) Q (initE ρ ctx) (p.called op) (f v)) :
    wp (initProtocol ρ ctx) Q (initE ρ ctx) p (Prog.perform op >>= f) := by
  refine wp_initCall ha (fun _ => hu) fun v hv => ?_
  rw [next_prepares hop]
  exact hQ v hv (hu.prepared hop)

/-- What has been read and set once the loop has been through some of the rows. -/
structure Preparing (clientConfigs done : List ClientConfig) (p : InitState) : Prop where
  unbegun : p.Unbegun
  injected : .setInjected ∈ p.calls
  read : .getAllClientConfigs ∈ p.calls
  clientConfigs : p.clientConfigs = clientConfigs
  templates : ∀ cur ∈ done, .addRetryRabbitTemplate cur ∈ p.calls

theorem Preparing.add {clientConfigs done : List ClientConfig} {cur : ClientConfig}
    (h : Preparing clientConfigs done p) :
    Preparing clientConfigs (done ++ [cur]) (p.called (.addRetryRabbitTemplate cur)) where
  unbegun := h.unbegun.prepared rfl
  injected := List.mem_cons_of_mem _ h.injected
  read := List.mem_cons_of_mem _ h.read
  clientConfigs := h.clientConfigs
  templates c hc := by
    rcases List.mem_append.mp hc with hc | hc
    · exact List.mem_cons_of_mem _ (h.templates c hc)
    · rw [List.mem_singleton.mp hc]
      exact List.mem_cons_self

theorem wp_setTemplates {Q : InitState → α → Prop} {f : Unit → Initiating α}
    (clientConfigs : List ClientConfig) (h : Preparing clientConfigs [] p)
    (hQ : ∀ p, Preparing clientConfigs clientConfigs p →
      wp (initProtocol ρ ctx) Q (initE ρ ctx) p (f ())) :
    wp (initProtocol ρ ctx) Q (initE ρ ctx) p
      ((clientConfigs.forM fun cur => Prog.perform (InitOp.addRetryRabbitTemplate cur)) >>= f) := by
  refine (wp_bind ..).mpr (wp_mono (E := initE ρ ctx) (wp_forM (fun l cur p h => ?_) _ h)
    (fun p _ h => hQ p h) fun _ _ h => h)
  refine (wp_perform ..).mpr ⟨trivial, fun _ _ => h.add, fun e he => ?_⟩
  exact ⟨h.unbegun, InitFails.failure he⟩

/-- Whatever the threads of the scheduler were told, the rest of `init` returns. -/
theorem wp_start {Q : InitState → α → Prop} {f : Unit → Initiating α}
    (hp : .initializeScheduler ∈ p.calls) (hi : .setHasInitiated ∉ p.calls)
    (hrefused : wp (initProtocol ρ ctx) Q (initE ρ ctx)
      ({ p with refused := true }.called .schedulerIsShut) (f ()))
    (hstarted : wp (initProtocol ρ ctx) Q (initE ρ ctx)
      (((({ p with refused := false }.called .schedulerIsShut).called (.unpause .pollEQ)).called
        (.unpause .houseKeep)).called (.unpause .pollIntervalRetry)) (f ())) :
    wp (initProtocol ρ ctx) Q (initE ρ ctx) p (tryCatch MRFServerCenterStarter.start (fun
      | .mrfException _ => pure ()
      | e => throw e) >>= f) := by
  refine (wp_bind ..).mpr ((wp_tryCatch ..).mpr ?_)
  unfold MRFServerCenterStarter.start
  refine (wp_bind ..).mpr ((wp_perform ..).mpr
    ⟨⟨hp, hi⟩, fun refused _ => ?_, fun e he => by cases he⟩)
  cases refused with
  | true => exact hrefused
  | false =>
      refine (wp_bind ..).mpr ((wp_perform ..).mpr ⟨?_, fun _ _ => ?_, fun e he => by cases he⟩)
      · exact List.mem_cons_of_mem _ hp
      refine (wp_bind ..).mpr ((wp_perform ..).mpr ⟨?_, fun _ _ => ?_, fun e he => by cases he⟩)
      · exact List.mem_cons_of_mem _ (List.mem_cons_of_mem _ hp)
      refine (wp_perform ..).mpr ⟨?_, fun _ _ => hstarted, fun e he => by cases he⟩
      exact List.mem_cons_of_mem _ (List.mem_cons_of_mem _ (List.mem_cons_of_mem _ hp))

/-- What is there when the threads are started. -/
structure Prepared (ctx : CenterContext) (p : InitState) : Prop where
  unbegun : p.Unbegun
  prepared : ∀ op ∈ prepared ctx, op ∈ p.calls
  templates : ∀ cur ∈ p.clientConfigs, .addRetryRabbitTemplate cur ∈ p.calls
  pools : ∀ name, .initializePool name ∈ p.calls

theorem wp_startThreads (h : Prepared ctx p) :
    wp (initProtocol ρ ctx) initQ (initE ρ ctx) p MRFServerCenterStarter.startThreads := by
  have hends {q : InitState} (hsub : p.calls ⊆ q.calls) (hc : q.clientConfigs = p.clientConfigs)
      (hs : .initializeScheduler ∈ q.calls) (hm : .initializeMonitor ∉ q.calls)
      (hstarted : q.refused = true ∨ ∀ name, .unpause name ∈ q.calls) :
      wp (initProtocol ρ ctx) initQ (initE ρ ctx) q (do
        Prog.perform InitOp.initializeMonitor
        Prog.perform InitOp.setHasInitiated) := by
    refine wp_initCall hm (by rintro ⟨e, ⟨⟩⟩) fun _ _ => ?_
    refine (wp_perform ..).mpr ⟨?_, fun _ _ => List.mem_cons_self, fun e he => by cases he⟩
    refine ⟨fun op hop => ?_, fun cur hcur => ?_, ?_, List.mem_cons_self, ?_⟩
    · exact List.mem_cons_of_mem _ (hsub (h.prepared op hop))
    · exact List.mem_cons_of_mem _ (hsub (h.templates cur (hc ▸ hcur)))
    · exact List.mem_cons_of_mem _ hs
    · exact hstarted.imp_right fun hu name => List.mem_cons_of_mem _ (hu name)
  have hm := h.unbegun.monitor
  unfold MRFServerCenterStarter.startThreads
  refine wp_initCall ⟨h.unbegun.scheduler, h.pools⟩ (by rintro ⟨e, ⟨⟩⟩) fun _ _ => ?_
  refine wp_start List.mem_cons_self ?_ (hends ?_ rfl ?_ ?_ (.inl rfl))
    (hends ?_ rfl ?_ ?_ (.inr ?_))
  · simp [called, InitState.next, h.unbegun.initiated]
  · intro op hop
    simp [called, InitState.next, hop]
  · simp [called, InitState.next]
  · simp [called, InitState.next, hm]
  · intro op hop
    simp [called, InitState.next, hop]
  · simp [called, InitState.next]
  · simp [called, InitState.next, hm]
  · rintro (_ | _ | _) <;> simp [called, InitState.next]

theorem initiate_conforms :
    wp (initProtocol ρ ctx) initQ (initE ρ ctx) .initial MRFServerCenterStarter.initiate := by
  unfold MRFServerCenterStarter.initiate
  refine wp_prepare unbegun_initial rfl trivial fun isNull _ hu => ?_
  cases isNull with
  | true => exact ⟨hu, .context⟩
  | false =>
      refine wp_prepare hu rfl trivial fun _ _ hu => ?_
      refine wp_initCall hu (fun _ => hu) fun clientConfigs _ => ?_
      refine wp_setTemplates clientConfigs ?_ fun p h => ?_
      · have hread : (InitState.called _ .getAllClientConfigs).Unbegun :=
          hu.called (by simp) (by simp) (by simp)
        exact ⟨⟨hread.scheduler, hread.monitor, hread.initiated⟩, by simp [called, InitState.next],
          List.mem_cons_self, rfl, by simp⟩
      · refine wp_prepare h.unbegun rfl trivial fun _ _ hu => ?_
        refine wp_prepare hu rfl trivial fun _ _ hu => ?_
        refine wp_prepare hu rfl trivial fun exceptionQueue hq hu => ?_
        refine wp_prepare hu rfl hq fun _ _ hu => ?_
        refine wp_prepare hu rfl trivial fun exceptionConnectionFactory hc hu => ?_
        refine wp_prepare hu rfl (by rw [hq, hc]; rfl) fun _ _ hu => ?_
        refine wp_prepare hu rfl trivial fun exceptionRabbitTemplate ht hu => ?_
        refine wp_prepare hu rfl ht fun _ _ hu => ?_
        refine wp_prepare hu rfl trivial fun rabbitAdmin ha hu => ?_
        refine wp_prepare hu rfl ha fun _ _ hu => ?_
        refine wp_prepare hu rfl hu.scheduler fun _ _ hu => ?_
        refine wp_prepare hu rfl hu.scheduler fun _ _ hu => ?_
        refine wp_prepare hu rfl hu.scheduler fun _ _ hu => ?_
        refine wp_startThreads ⟨hu, ?_, ?_, ?_⟩
        · subst hq hc ht ha
          simp [called, prepared, h.injected, h.read, CenterContext.getBean,
            CenterContext.exceptionQueueConfig]
        · intro cur hcur
          have := h.templates cur (h.clientConfigs ▸ hcur)
          simp [called, this]
        · rintro (_ | _ | _) <;> simp [called]

end MRF.Center
