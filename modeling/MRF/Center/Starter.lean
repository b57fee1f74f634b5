import MRF.Center.Register
import MRF.Center.ShutDown
import MRF.Library.Once

/-!
# Center — Starter

`MRFServerCenterStarter.init`, call by call, by any number of threads, while clients register and
the scheduler that it starts runs.  A lookup in the application context or in the database may
fail each time; what was set by then stays set, and the next `init` starts anew.

The container does not destroy the starter here, and `PollTaskScheduler.initialize` is one step.
-/

namespace MRF.Center
open MRF.Library MRF.Pool

variable {ρ : Type*}

/-! ### What is looked up -/

/-- The beans that `init` looks up. -/
inductive Bean where
  | identityServiceClient
  | exceptionQueue
  | exceptionConnectionFactory
  | exceptionRabbitTemplate
  | rabbitAdmin
  deriving DecidableEq, Repr

/-- A queue is known by its name, and what has a connection by its parameters. -/
def Bean.Value : Bean → Type
  | .identityServiceClient => Unit
  | .exceptionQueue => String
  | _ => ConnectionConfig

/-- The application context of the center, with its `MRFServerConfig`. -/
structure CenterContext where
  exceptionQueue : String
  /-- `AMQPUtil.buildConnectionConfig` of the connection factory. -/
  exceptionConnectionFactory : ConnectionConfig
  exceptionRabbitTemplate : ConnectionConfig
  rabbitAdmin : ConnectionConfig
  /-- The name, the thread count and the priority of each pool. -/
  pool : SchedulerName → PoolConfig

namespace CenterContext

/-- The bean that a look-up answers. -/
def getBean (ctx : CenterContext) : (bean : Bean) → bean.Value
  | .identityServiceClient => ()
  | .exceptionQueue => ctx.exceptionQueue
  | .exceptionConnectionFactory => ctx.exceptionConnectionFactory
  | .exceptionRabbitTemplate => ctx.exceptionRabbitTemplate
  | .rabbitAdmin => ctx.rabbitAdmin

/-- The connection of the exception queue, with the name that the queue has by itself. -/
def exceptionQueueConfig (ctx : CenterContext) : QueueConfig :=
  { toConnectionConfig := ctx.exceptionConnectionFactory, queueName := ctx.exceptionQueue }

end CenterContext

/-! ### `init` -/

/-- What `init` calls and sets. -/
inductive InitOp where
  /-- `applicationContext == null`. -/
  | contextIsNull
  /-- The configuration, the message service and the three DAOs that were injected. -/
  | setInjected
  | getAllClientConfigs
  | addRetryRabbitTemplate (cur : ClientConfig)
  | getBean (bean : Bean)
  | initGlobalMessageIdGenerator
  | setExceptionQueueName (exceptionQueueName : String)
  | setExceptionQueueConfig (exceptionQueueConfig : QueueConfig)
  | setExceptionRabbitTemplate (template : ConnectionConfig)
  | setExceptionRabbitAdmin (admin : ConnectionConfig)
  /-- A new pool is initialized and set. -/
  | initializePool (name : SchedulerName)
  | initializeScheduler
  /-- `isShutDown || isShuttingDown`. -/
  | schedulerIsShut
  /-- `togglePause(false)`. -/
  | unpause (name : SchedulerName)
  | initializeMonitor
  | setHasInitiated

def InitOp.Res : InitOp → Type
  | .contextIsNull | .schedulerIsShut => Bool
  | .getAllClientConfigs => List ClientConfig
  | .getBean bean => bean.Value
  | _ => Unit

/-- What `init` may raise. -/
inductive InitException where
  | mrfServerInitException (errorMsg : String)
  | daoException (e : DAOException)
  | beansException (bean : Bean)
  | configException (errorMsg : String)
  | mrfException (errorMsg : String)
  | nullPointerException
  | illegalThreadStateException
  deriving DecidableEq, Repr

/-- The body of `init`, call by call. -/
abbrev Initiating (α : Type) : Type := Prog InitOp InitOp.Res InitException α

namespace MRFServerCenterStarter

def contextIsNull : Initiating Bool := Prog.perform InitOp.contextIsNull

def schedulerIsShut : Initiating Bool := Prog.perform InitOp.schedulerIsShut

/-- `PollTaskScheduler.start`. -/
def start : Initiating Unit := do
  if ← schedulerIsShut then
    throw (.mrfException "PollTaskScheduler can't be restarted after shutDown() called.")
  Prog.perform (InitOp.unpause .pollEQ)
  Prog.perform (InitOp.unpause .houseKeep)
  Prog.perform (InitOp.unpause .pollIntervalRetry)

/-- The last part of `init`: the threads are started. -/
def startThreads : Initiating Unit := do
  Prog.perform InitOp.initializeScheduler
  tryCatch start fun
    -- it is logged, and `init` goes on
    | .mrfException _ => pure ()
    | e => throw e
  Prog.perform InitOp.initializeMonitor
  Prog.perform InitOp.setHasInitiated

/-- `init`, within the lock, where `hasInitiated` is not set. -/
def initiate : Initiating Unit := do
  if ← contextIsNull then
    throw (.mrfServerInitException
      "MRFServerCenterStarter initialization failed, for applicationContext is null")
  Prog.perform InitOp.setInjected
  let clientConfigs ← Prog.perform InitOp.getAllClientConfigs
  clientConfigs.forM fun cur => Prog.perform (InitOp.addRetryRabbitTemplate cur)
  let _ ← Prog.perform (InitOp.getBean .identityServiceClient)
  Prog.perform InitOp.initGlobalMessageIdGenerator
  let exceptionQueue ← Prog.perform (InitOp.getBean .exceptionQueue)
  Prog.perform (InitOp.setExceptionQueueName exceptionQueue)
  let exceptionConnectionFactory ← Prog.perform (InitOp.getBean .exceptionConnectionFactory)
  Prog.perform (InitOp.setExceptionQueueConfig
    { toConnectionConfig := exceptionConnectionFactory, queueName := exceptionQueue })
  let exceptionRabbitTemplate ← Prog.perform (InitOp.getBean .exceptionRabbitTemplate)
  Prog.perform (InitOp.setExceptionRabbitTemplate exceptionRabbitTemplate)
  let rabbitAdmin ← Prog.perform (InitOp.getBean .rabbitAdmin)
  Prog.perform (InitOp.setExceptionRabbitAdmin rabbitAdmin)
  Prog.perform (InitOp.initializePool .pollEQ)
  Prog.perform (InitOp.initializePool .houseKeep)
  Prog.perform (InitOp.initializePool .pollIntervalRetry)
  startThreads

end MRFServerCenterStarter

/-! ### The process of the center -/

/-- `MRFServerResources`, and what else `init` sets. -/
structure CenterProcess (ρ : Type*) where
  applicationContext : Bool
  injected : Bool
  /-- `client_config`, and the map of retry templates. -/
  registry : Registry
  /-- That of `GlobalMessageIdGenerator`. -/
  identityServiceClient : Bool
  exceptionQueueName : Option String
  exceptionQueueConfig : Option QueueConfig
  exceptionRabbitTemplate : Option ConnectionConfig
  exceptionRabbitAdmin : Option ConnectionConfig
  /-- Before the scheduler is initialized; it has them from then on. -/
  threadPools : SchedulerName → Option (SimpleThreadPool ρ)
  pollTaskScheduler : Option (SchedulerProcess ρ)
  /-- How many times it was initialized: each time starts three threads more. -/
  initializations : Nat
  /-- The monitor thread has been started. -/
  monitorThread : Bool
  hasInitiated : Bool

/-- What else happens in the process. -/
inductive CenterStep (ρ : Type*) where
  | setApplicationContext
  | registerRetryService (c : ClientConfig) (faults : List Bool)
  /-- A worker of a pool that the scheduler does not have yet. -/
  | worker (name : SchedulerName) (wt : Nat)
  | scheduler (a : ProcessAction ρ)

namespace CenterProcess

/-- A process that has been started, on a database. -/
def initial (clientConfig : Table ClientConfig) : CenterProcess ρ where
  applicationContext := false
  injected := false
  registry := ⟨clientConfig, fun _ => none⟩
  identityServiceClient := false
  exceptionQueueName := none
  exceptionQueueConfig := none
  exceptionRabbitTemplate := none
  exceptionRabbitAdmin := none
  threadPools _ := none
  pollTaskScheduler := none
  initializations := 0
  monitorThread := false
  hasInitiated := false

/-- `StringUtils.isEmpty(exceptionQueueName) ? DEFAULT_EXCEPTION_QUEUE_NAME : …`. -/
def queueNameOf (exceptionQueueName : String) : String :=
  if exceptionQueueName = "" then "mrf.exception.queue" else exceptionQueueName

def getAllClientConfigs (t : CenterProcess ρ) (fails : Bool) :
    Except InitException (List ClientConfig) × CenterProcess ρ :=
  match Dao.transactional ClientConfigDAO.getAllClientConfigs [fails] t.registry with
  | (.ok clientConfigs, registry) => (.ok clientConfigs, { t with registry })
  | (.error e, registry) => (.error (.daoException e), { t with registry })

/-- The template of a row, in the map of the resources. -/
def addRetryRabbitTemplate (t : CenterProcess ρ) (cur : ClientConfig) : CenterProcess ρ :=
  { t with registry := { t.registry with
    retryRabbitTemplateMap :=
      MRFServerCenterStarter.setRetryRabbitTemplate t.registry.retryRabbitTemplateMap cur } }

/-- The pool is initialized, or its configuration is refused. -/
def initializePool (t : CenterProcess ρ) (cfg : PoolConfig) (name : SchedulerName) :
    Except InitException Unit × CenterProcess ρ :=
  match SimpleThreadPool.initialized cfg with
  | .error errorMsg => (.error (.configException errorMsg), t)
  | .ok pool => (.ok (), { t with threadPools := Function.update t.threadPools name (some pool) })

/-- Without its three pools the scheduler could not run; `init` does not come here then. -/
def initializeScheduler (t : CenterProcess ρ) : Except InitException Unit × CenterProcess ρ :=
  match t.threadPools .pollEQ, t.threadPools .houseKeep, t.threadPools .pollIntervalRetry with
  | some pollEQ, some houseKeep, some pollIntervalRetry =>
      (.ok (), { t with
        -- the threads of an earlier scheduler would run on
        pollTaskScheduler := some (.initial fun
          | .pollEQ => pollEQ
          | .houseKeep => houseKeep
          | .pollIntervalRetry => pollIntervalRetry)
        initializations := t.initializations + 1 })
  | _, _, _ => (.error .nullPointerException, t)

def schedulerIsShut (t : CenterProcess ρ) : Bool :=
  match t.pollTaskScheduler with
  | some p => p.isShutDown || p.isShuttingDown
  | none => false

def schedulerStep (t : CenterProcess ρ) (a : ProcessAction ρ) : Option (CenterProcess ρ) :=
  (t.pollTaskScheduler.bind (SchedulerProcess.step · a)).map fun p =>
    { t with pollTaskScheduler := some p }

/-- The thread is told to start. -/
def unpause (t : CenterProcess ρ) (name : SchedulerName) :
    Except InitException Unit × CenterProcess ρ :=
  match t.schedulerStep (.togglePause name false) with
  | some t' => (.ok (), t')
  | none => (.error .nullPointerException, t)

/-- `Thread.start`, which a thread does not let happen twice. -/
def initializeMonitor (t : CenterProcess ρ) : Except InitException Unit × CenterProcess ρ :=
  if t.monitorThread then (.error .illegalThreadStateException, t)
  else (.ok (), { t with monitorThread := true })

/-- A call of `init` is answered; whether the lookup fails. -/
def answer (ctx : CenterContext) (t : CenterProcess ρ) (fails : Bool) :
    (op : InitOp) → Except InitException op.Res × CenterProcess ρ
  | .contextIsNull => (.ok !t.applicationContext, t)
  | .setInjected => (.ok (), { t with injected := true })
  | .getAllClientConfigs => t.getAllClientConfigs fails
  | .addRetryRabbitTemplate cur => (.ok (), t.addRetryRabbitTemplate cur)
  | .getBean bean => (if fails then .error (.beansException bean) else .ok (ctx.getBean bean), t)
  | .initGlobalMessageIdGenerator => (.ok (), { t with identityServiceClient := true })
  | .setExceptionQueueName name =>
      (.ok (), { t with exceptionQueueName := some (queueNameOf name) })
  | .setExceptionQueueConfig c => (.ok (), { t with exceptionQueueConfig := some c })
  | .setExceptionRabbitTemplate template =>
      (.ok (), { t with exceptionRabbitTemplate := some template })
  | .setExceptionRabbitAdmin admin => (.ok (), { t with exceptionRabbitAdmin := some admin })
  | .initializePool name => t.initializePool (ctx.pool name) name
  | .initializeScheduler => t.initializeScheduler
  | .schedulerIsShut => (.ok t.schedulerIsShut, t)
  | .unpause name => t.unpause name
  | .initializeMonitor => t.initializeMonitor
  | .setHasInitiated => (.ok (), { t with hasInitiated := true })

/-- What a client that registers is answered is not looked at. -/
def registerRetryService (ctx : CenterContext) (t : CenterProcess ρ) (c : ClientConfig)
    (faults : List Bool) : CenterProcess ρ :=
  { t with registry :=
    (MRFServiceImpl.registerRetryService ctx.exceptionQueueConfig c faults t.registry).2 }

/-- A worker of a pool moves, before the scheduler has the pools. -/
def worker (t : CenterProcess ρ) (name : SchedulerName) (wt : Nat) : Option (CenterProcess ρ) :=
  if t.pollTaskScheduler.isNone then
    ((t.threadPools name).bind fun pool => pool.step (.worker wt)).map fun pool =>
      { t with threadPools := Function.update t.threadPools name (some pool) }
  else none

/-- What goes on beside `init`. -/
def step (ctx : CenterContext) (t : CenterProcess ρ) : CenterStep ρ → Option (CenterProcess ρ)
  | .setApplicationContext => some { t with applicationContext := true }
  | .registerRetryService c faults => some (t.registerRetryService ctx c faults)
  | .worker name wt => t.worker name wt
  | .scheduler a => t.schedulerStep a

/-- `init`, with its double check. -/
def initialization (ctx : CenterContext) :
    Initialization (CenterProcess ρ) Bool (CenterStep ρ) InitOp InitOp.Res InitException where
  isDone := hasInitiated
  body := MRFServerCenterStarter.initiate
  answer := answer ctx
  other := step ctx

end CenterProcess

end MRF.Center
