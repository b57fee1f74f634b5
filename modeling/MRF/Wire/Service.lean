import MRF.Library.Rpc
import MRF.Wire.RoundTrip
import MRF.Center.Process

/-!
# Wire — Service

`MRFService`: the generated client and processor of the two methods, and the center behind them.

* `Client.registerRetryService_call`, `Client.process_call`: a call ends as the handler does.  The
  handler gets the arguments of the call, and the client what the handler returned, up to the flags
  of the fields; a handler that throws, or returns null, makes the call throw.
* `registers_remotely`, `processes_remotely`: so a call on the wire is a call of the method of
  `MRFServiceImpl` that the other modules are about, with the tables left as it leaves them.  What
  that throws is never a `TException`: the client of such a call finds the connection closed.
-/

namespace MRF.Wire
open MRF.Library

variable {κ ε σ : Type}

/-- `MRFService.Iface` over the state of the server. -/
structure Iface (ε σ : Type) where
  registerRetryService (host : Option String) (port : Int32) (username password : Option String)
    (retryQueueName clientServiceName : Option String) :
    σ → Except (Thrown ε) (Option QueueConfig) × σ
  process (retryMessage : Option RetryMessage) : σ → Except (Thrown ε) Unit × σ

/-! ### The processor -/

namespace Processor

variable (conn : TConnection κ (Thrown ε)) (iface : Iface ε σ)

/-- The handler of `registerRetryService`, between its arguments and its result. -/
def registerRetryService : ProcessFunction κ ε σ where
  methodName := "registerRetryService"
  read := RegisterRetryServiceArgs.struct.read conn.request.toTProtocol .fresh
  getResult args s :=
    let r := iface.registerRetryService args.host args.port args.username args.password
      args.retryQueueName args.clientServiceName s
    (r.1.map RegisterRetryServiceResult.mk, r.2)
  write := RegisterRetryServiceResult.struct.write conn.reply.toTProtocol

/-- The handler of `process`, between its arguments and its result. -/
def process : ProcessFunction κ ε σ where
  methodName := "process"
  read := ProcessArgs.struct.read conn.request.toTProtocol .fresh
  getResult args s :=
    let r := iface.process args.retryMessage s
    (r.1.map fun () => ({} : ProcessResult), r.2)
  write := ProcessResult.struct.write conn.reply.toTProtocol

/-- The map of `getProcessMap`. -/
def getProcessMap (name : String) : Option (ProcessFunction κ ε σ) :=
  if name = "process" then some (process conn iface)
  else if name = "registerRetryService" then some (registerRetryService conn iface)
  else none

end Processor

/-! ### The client -/

namespace Client

variable (conn : TConnection κ (Thrown ε)) (iface : Iface ε σ)

/-- The arguments of a call, as the setters make them. -/
def registerArgs (host : Option String) (port : Int32) (username password : Option String)
    (retryQueueName clientServiceName : Option String) : RegisterRetryServiceArgs :=
  { host, port, isSetPort := true, username, password, retryQueueName, clientServiceName }

/-- `send_registerRetryService` -/
def sendRegisterRetryService (args : RegisterRetryServiceArgs) :
    Exchange (Remote κ σ) (Thrown ε) Unit :=
  conn.sendBase "registerRetryService"
    (RegisterRetryServiceArgs.struct.write conn.request.toTProtocol args)

def missingResult : TApplicationException :=
  .new TApplicationException.MISSING_RESULT "registerRetryService failed: unknown result"

/-- What `recv_registerRetryService` makes of the result. -/
def resultOf (result : RegisterRetryServiceResult) :
    Exchange (Remote κ σ) (Thrown ε) QueueConfig :=
  match result.success with
  | some success => return success
  | none => throw (.application missingResult)

/-- `recv_registerRetryService` -/
def recvRegisterRetryService : Exchange (Remote κ σ) (Thrown ε) QueueConfig := do
  let result ← conn.receiveBase
    (RegisterRetryServiceResult.struct.read conn.reply.toTProtocol .fresh) "registerRetryService"
  resultOf result

/-- `registerRetryService`, with the server that takes the call at the other end. -/
def registerRetryService (host : Option String) (port : Int32) (username password : Option String)
    (retryQueueName clientServiceName : Option String) :
    Exchange (Remote κ σ) (Thrown ε) QueueConfig := do
  sendRegisterRetryService conn
    (registerArgs host port username password retryQueueName clientServiceName)
  conn.serve (Processor.getProcessMap conn iface)
  recvRegisterRetryService conn

/-- `send_process` -/
def sendProcess (retryMessage : Option RetryMessage) : Exchange (Remote κ σ) (Thrown ε) Unit :=
  conn.sendBase "process" (ProcessArgs.struct.write conn.request.toTProtocol ⟨retryMessage⟩)

/-- `recv_process` -/
def recvProcess : Exchange (Remote κ σ) (Thrown ε) Unit := do
  let _ ← conn.receiveBase (ProcessResult.struct.read conn.reply.toTProtocol {}) "process"
  return ()

/-- `process`, with the server that takes the call at the other end. -/
def process (retryMessage : Option RetryMessage) : Exchange (Remote κ σ) (Thrown ε) Unit := do
  sendProcess conn retryMessage
  conn.serve (Processor.getProcessMap conn iface)
  recvProcess conn

end Client

/-! ### Calls -/

section Calls

variable {conn : TConnection κ (Thrown ε)} {C : κ → List Token → List Token → Prop}
  {r : Remote κ σ}

theorem args_received (scheme : Scheme) (host : Option String) (port : Int32)
    (username password retryQueueName clientServiceName : Option String) :
    Class.registerRetryServiceArgs.received scheme
        (Client.registerArgs host port username password retryQueueName clientServiceName) =
      Client.registerArgs host port username password retryQueueName clientServiceName := by
  cases scheme <;> rfl

/-- A call of `registerRetryService` ends as its handler does; one that returns null makes it
throw. -/
theorem Client.registerRetryService_call (hw : conn.Works C) (iface : Iface ε σ)
    (host : Option String) (port : Int32)
    (username password retryQueueName clientServiceName : Option String)
    (hk : C r.connection [] []) :
    TConnection.EndsAs C
      (registerRetryService conn iface host port username password retryQueueName
        clientServiceName) r
      (iface.registerRetryService host port username password retryQueueName clientServiceName
        r.server)
      fun success => match success with
        | some config => .ok (Class.queueConfig.received conn.reply.scheme config)
        | none => .error (.application missingResult) := by
  let args := registerArgs host port username password retryQueueName clientServiceName
  let ts := Class.registerRetryServiceArgs.struct.wire conn.request.scheme args
  have hargs : ∀ rep, Writes (fun k l => C k l rep)
      (RegisterRetryServiceArgs.struct.write conn.request.toTProtocol args) ts :=
    fun rep => Class.write_does .registerRetryServiceArgs (hw.request rep).protocol args
  have hread : ∀ rep, Reads (fun k l => C k l rep)
      (Processor.registerRetryService conn iface).read ts args := by
    intro rep
    have hread := Class.read_does .registerRetryServiceArgs (hw.request rep).protocol args
    rw [args_received] at hread
    exact hread
  have heq : registerRetryService conn iface host port username password retryQueueName
      clientServiceName =
        conn.call (Processor.getProcessMap conn iface) "registerRetryService"
          (RegisterRetryServiceArgs.struct.write conn.request.toTProtocol args)
          (RegisterRetryServiceResult.struct.read conn.reply.toTProtocol .fresh) >>= resultOf := by
    simp [registerRetryService, sendRegisterRetryService, recvRegisterRetryService,
      TConnection.call, args]
  rw [heq]
  refine hw.call_ends rfl hargs hread (Struct.stream_wire _ _ _) rfl
    (fun success req =>
      Class.write_does .registerRetryServiceResult (hw.reply req).protocol ⟨success⟩)
    (fun success req =>
      Class.read_does .registerRetryServiceResult (hw.reply req).protocol ⟨success⟩)
    (fun _ => Struct.stream_wire _ _ _) (fun success r => ?_) hk
  cases conn.reply.scheme <;> cases success <;> rfl

/-- A call of `process` ends as its handler does. -/
theorem Client.process_call (hw : conn.Works C) (iface : Iface ε σ)
    (retryMessage : Option RetryMessage) (hk : C r.connection [] []) :
    TConnection.EndsAs C (process conn iface retryMessage) r
      (iface.process (retryMessage.map (Class.retryMessage.received conn.request.scheme)) r.server)
      fun _ => .ok () := by
  let ts := Class.processArgs.struct.wire conn.request.scheme ⟨retryMessage⟩
  have hargs : ∀ rep, Writes (fun k l => C k l rep)
      (ProcessArgs.struct.write conn.request.toTProtocol ⟨retryMessage⟩) ts :=
    fun rep => Class.write_does .processArgs (hw.request rep).protocol ⟨retryMessage⟩
  have hread : ∀ rep, Reads (fun k l => C k l rep) (Processor.process conn iface).read ts
      (⟨retryMessage.map (Class.retryMessage.received conn.request.scheme)⟩ : ProcessArgs) := by
    intro rep
    have hread := Class.read_does .processArgs (hw.request rep).protocol ⟨retryMessage⟩
    have hreceived : Class.processArgs.received conn.request.scheme ⟨retryMessage⟩ =
        (⟨retryMessage.map (Class.retryMessage.received conn.request.scheme)⟩ : ProcessArgs) := by
      cases conn.request.scheme <;> rfl
    rw [hreceived] at hread
    exact hread
  have heq : process conn iface retryMessage =
      conn.call (Processor.getProcessMap conn iface) "process"
        (ProcessArgs.struct.write conn.request.toTProtocol ⟨retryMessage⟩)
        (ProcessResult.struct.read conn.reply.toTProtocol {}) >>= fun _ => pure () := by
    simp [process, sendProcess, recvProcess, TConnection.call]
  rw [heq]
  exact hw.call_ends rfl hargs hread (Struct.stream_wire _ _ _) rfl
    (fun _ req => Class.write_does .processResult (hw.reply req).protocol {})
    (fun _ req => Class.read_does .processResult (hw.reply req).protocol {})
    (fun _ => Struct.stream_wire _ _ _) (fun _ _ => rfl) hk

end Calls

/-! ### The center -/

/-- The flag that a code on the wire stands for. -/
def toMessageFlag (code : Int32) : MessageFlag :=
  if h : code < 1 ∨ 8 < code then .other ⟨code, h⟩
  else if code = 1 then .cleanRecover
  else if code = 2 then .cleanIntervalRetry
  else if code = 3 then .resendForRecover
  else if code = 4 then .intervalMsgDoRetry
  else if code = 5 then .immediateMsgDoRetry
  else if code = 6 then .intervalMsgDoRecover
  else if code = 7 then .immediateMsgDoRecover
  else .msgDirectToRecover

/-- The message as the center's methods see it, through its getters. -/
def RetryMessage.toCore (m : RetryMessage) : MRF.RetryMessage String where
  msgID := m.msgID.toInt
  retryQueueName := m.retryQueueName.getD ""
  businessMsg := m.businessMsg.getD ""
  retryInterval := m.retryInterval
  retriedTimes := m.retriedTimes
  maxRetryTimes := m.maxRetryTimes
  messageFlag := toMessageFlag m.messageFlag
  isFromRecover := m.isFromRecover

/-- The parameters of a registration; a null string is an empty one. -/
def clientConfig (host : Option String) (port : Int32)
    (username password retryQueueName clientServiceName : Option String) : Center.ClientConfig where
  host := host.getD ""
  port
  username := username.getD ""
  password := password.getD ""
  retryQueueName := retryQueueName.getD ""
  clientServiceName := clientServiceName.getD ""

/-- `MRFServiceImpl` as a handler: `e` and `faults` are what its calls read from outside.  All that
it throws are `MRFRuntimeException`s. -/
def center (e : Center.Env) (exceptionQueueConfig : Center.QueueConfig) (faults : List Bool) :
    Iface ε (Center.Tables String × Center.Registry) where
  registerRetryService host port username password retryQueueName clientServiceName s :=
    match Center.MRFServiceImpl.registerRetryService exceptionQueueConfig
      (clientConfig host port username password retryQueueName clientServiceName) faults s.2 with
    | (.ok result, g) => (.ok (some (QueueConfig.new result)), (s.1, g))
    | (.error _, g) => (.error .runtime, (s.1, g))
  process retryMessage s :=
    match retryMessage with
    | none => (.ok (), s)
    | some m =>
        match Center.MRFServiceImpl.process e m.toCore s.1 with
        | (.ok (), t) => (.ok (), (t, s.2))
        | (.error _, t) => (.error .runtime, (t, s.2))

section Center
open Center

variable {conn : TConnection κ (Thrown ε)} {C : κ → List Token → List Token → Prop}
  {r : Remote κ (Tables String × Registry)}

/-- The center sees the message that the client sent, unless the tuple scheme drops a value that is
not marked as set. -/
theorem toCore_received {scheme : Scheme} {m : RetryMessage}
    (hm : scheme = .standard ∨ m.onlySet = m) :
    RetryMessage.toCore (Class.retryMessage.received scheme m) = m.toCore := by
  cases scheme with
  | standard => rfl
  | tuple =>
      have hset : m.onlySet = m := hm.resolve_left (fun h => by cases h)
      exact congrArg RetryMessage.toCore hset

/-- **A remote call of `process` is `MRFServiceImpl.process`** on the message that the client has:
it leaves the tables as that leaves them, and throws exactly if that throws.  A call that returns
leaves the connection ready for the next. -/
theorem processes_remotely (hw : conn.Works C) (e : Env) (qc : Center.QueueConfig)
    (faults : List Bool) {m : RetryMessage} (hm : conn.request.scheme = .standard ∨ m.onlySet = m)
    (hk : C r.connection [] []) :
    ∃ x k, Client.process conn (center e qc faults) (some m) r =
        some (x, ⟨k, r.seqid + 1, (processed e m.toCore r.server.1, r.server.2)⟩) ∧
      (x = .ok () → C k [] []) ∧
        (x = .ok () ↔ (MRFServiceImpl.process e m.toCore r.server.1).1 = .ok ()) := by
  have hcall := Client.process_call hw (center e qc faults) (some m) hk
  have hhandler : (center (ε := ε) e qc faults).process
      ((some m).map (Class.retryMessage.received conn.request.scheme)) r.server =
        match MRFServiceImpl.process e m.toCore r.server.1 with
        | (.ok (), t) => (.ok (), (t, r.server.2))
        | (.error _, t) => (.error .runtime, (t, r.server.2)) := by
    rw [← toCore_received hm]
    rfl
  unfold processed
  rw [hhandler] at hcall
  rcases hp : MRFServiceImpl.process e m.toCore r.server.1 with ⟨cause | ⟨⟩, t⟩
  · rw [hp] at hcall
    obtain ⟨x, k, hcall⟩ := hcall
    exact ⟨_, k, hcall, by simp, by simp⟩
  · rw [hp] at hcall
    obtain ⟨k, hk', hcall⟩ := hcall
    exact ⟨_, k, hcall, fun _ => hk', by simp⟩

/-- The exception queue of the samples. -/
def sampleQueue : Center.QueueConfig :=
  ⟨⟨"mq", 5672, "guest", "guest"⟩, "mrf.exception.queue"⟩

/-- A client of a center with empty tables. -/
def sampleRemote : Remote TConnection.Wires (Tables String × Registry) :=
  ⟨⟨[], [], false⟩, 0, (.empty, ⟨.empty, fun _ => none⟩)⟩

/-- A message for direct recovery, over the tuple scheme: it is stored, or the insert fails and the
client finds the connection closed. -/
theorem processes_remotely_sample :
    let conn : TConnection TConnection.Wires (Thrown Unit) := .memory (.other ()) .tuple .tuple
    let m : RetryMessage := { RetryMessage.fresh with
      retryQueueName := some "q_retry"
      businessMsg := some "b"
      messageFlag := 8
      isSetMessageFlag := true }
    (∃ r, Client.process conn (center ⟨0, 0, 7, []⟩ sampleQueue []) (some m) sampleRemote =
        some (.ok (), r) ∧ r.server.1.recover.rows.map (·.msgID) = [7]) ∧
      ∃ e r, Client.process conn (center ⟨0, 0, 7, [true]⟩ sampleQueue []) (some m)
          sampleRemote = some (.error e, r) ∧ r.server.1.recover.rows.map (·.msgID) = [] := by
  intro conn m
  have hw := TConnection.memory_works (.other () : Thrown Unit) .tuple .tuple
  have hm : conn.request.scheme = .standard ∨ m.onlySet = m := .inr rfl
  have hk : sampleRemote.connection.request = [] ∧ sampleRemote.connection.reply = [] := ⟨rfl, rfl⟩
  constructor
  · obtain ⟨x, k, hcall, -, hx⟩ := processes_remotely hw ⟨0, 0, 7, []⟩ sampleQueue [] hm hk
    rw [hx.mpr rfl] at hcall
    exact ⟨_, hcall, rfl⟩
  · obtain ⟨x, k, hcall, -, hx⟩ := processes_remotely hw ⟨0, 0, 7, [true]⟩ sampleQueue [] hm hk
    cases x with
    | ok => exact absurd (hx.mp rfl) (by decide)
    | error e => exact ⟨e, _, hcall, rfl⟩

/-- **A remote registration is `MRFServiceImpl.registerRetryService`** on the parameters that the
client has, and returns the very configuration that it returns. -/
theorem registers_remotely (hw : conn.Works C) (e : Env) (qc : Center.QueueConfig)
    (faults : List Bool) (host : Option String) (port : Int32)
    (username password retryQueueName clientServiceName : Option String)
    (hk : C r.connection [] []) :
    let c := clientConfig host port username password retryQueueName clientServiceName
    let handled := MRFServiceImpl.registerRetryService qc c faults r.server.2
    ∃ x k, Client.registerRetryService conn (center e qc faults) host port username password
        retryQueueName clientServiceName r =
          some (x, ⟨k, r.seqid + 1, (r.server.1, handled.2)⟩) ∧
      ∀ config, (x = .ok config → C k [] []) ∧ (x = .ok config ↔
        ∃ result, handled.1 = .ok result ∧ config = QueueConfig.new result) := by
  intro c handled
  have hcall := Client.registerRetryService_call hw (center e qc faults) host port username
    password retryQueueName clientServiceName hk
  have hhandler : (center (ε := ε) e qc faults).registerRetryService host port username password
      retryQueueName clientServiceName r.server =
        match handled with
        | (.ok result, g) => (.ok (some (QueueConfig.new result)), (r.server.1, g))
        | (.error _, g) => (.error .runtime, (r.server.1, g)) := rfl
  rw [hhandler] at hcall
  rcases handled with ⟨cause | result, g⟩
  · obtain ⟨x, k, hcall⟩ := hcall
    exact ⟨_, k, hcall, by simp⟩
  · obtain ⟨k, hk', hcall⟩ := hcall
    have hreceived : Class.queueConfig.received conn.reply.scheme (QueueConfig.new result) =
        QueueConfig.new result := by
      cases conn.reply.scheme <;> rfl
    simp only [hreceived] at hcall
    exact ⟨_, k, hcall, fun config => ⟨fun _ => hk', by simp [eq_comm]⟩⟩

/-- A first registration, over the standard scheme, and one without a port. -/
theorem registers_remotely_sample :
    let conn : TConnection TConnection.Wires (Thrown Unit) :=
      .memory (.other ()) .standard .standard
    let register (port : Int32) := Client.registerRetryService conn
      (center ⟨0, 0, 7, []⟩ sampleQueue []) (some "client") port (some "u") (some "p")
      (some "q_retry") (some "service") sampleRemote
    (∃ r, register 5672 = some (.ok (QueueConfig.new sampleQueue), r) ∧
        r.server.2.clientConfig.rows.map (·.host) = ["client"]) ∧
      ∃ e r, register 0 = some (.error e, r) ∧ r.server.2.clientConfig.rows.map (·.host) = [] := by
  intro conn register
  have hw := TConnection.memory_works (.other () : Thrown Unit) .standard .standard
  have hk : sampleRemote.connection.request = [] ∧ sampleRemote.connection.reply = [] := ⟨rfl, rfl⟩
  constructor
  · obtain ⟨x, k, hcall, hx⟩ := registers_remotely hw ⟨0, 0, 7, []⟩ sampleQueue [] (some "client")
      5672 (some "u") (some "p") (some "q_retry") (some "service") hk
    rw [(hx (QueueConfig.new sampleQueue)).2.mpr ⟨sampleQueue, rfl, rfl⟩] at hcall
    exact ⟨_, hcall, rfl⟩
  · obtain ⟨x, k, hcall, hx⟩ := registers_remotely hw ⟨0, 0, 7, []⟩ sampleQueue [] (some "client")
      0 (some "u") (some "p") (some "q_retry") (some "service") hk
    cases x with
    | ok config =>
        obtain ⟨result, h, -⟩ := (hx config).2.mp rfl
        cases h
    | error e => exact ⟨e, _, hcall, rfl⟩

end Center

end MRF.Wire
