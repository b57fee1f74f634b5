import MRF.Library.Struct

/-!
# Library — Rpc

Remote calls: a client and the server of a service on one connection, as libthrift makes them.
`sendBase` and `receiveBase` are those of `TServiceClient`, `ProcessFunction.process` and
`TBaseProcessor.process` are the server's.  A handler changes the state `σ` of the server, and
returns a result or throws.  A `TException` is sent to the client; anything else leaves the
processor, and the server closes the connection without an answer (`serve`).

`TConnection.Works` is what is asked of the connection: its two directions carry what is written,
and a client that reads from a connection that was closed gets an exception.
`Works.call_returns`, `Works.call_answered` and `Works.call_closed` are the rules for a whole call;
`TConnection.memory` is a connection that works, in memory.
-/

namespace MRF.Library

/-! ### Exceptions -/

/-- What a server sends in the place of a result. -/
structure TApplicationException where
  message : Option String
  type : Int32
  deriving DecidableEq, Repr

namespace TApplicationException

/-- The types, with their numbers. -/
def UNKNOWN_METHOD : Int32 := 1
def BAD_SEQUENCE_ID : Int32 := 4
def MISSING_RESULT : Int32 := 5
def INTERNAL_ERROR : Int32 := 6
def PROTOCOL_ERROR : Int32 := 7

def new (type : Int32) (message : String) : TApplicationException := ⟨some message, type⟩

def fresh : TApplicationException := ⟨none, 0⟩

/-- The type is always written, and has no flag. -/
def struct : Struct TApplicationException where
  fresh
  fields :=
    [.nullable 1 .string message fun v s => { s with message := some v },
      .primitive 2 .i32 type (fun _ => true) fun v s => { s with type := v }]
  apart := by
    simp [StructField.Apart, StructField.KeptBy, StructField.nullable, StructField.primitive]

/-- The two fields are all there is. -/
theorem ext_fields {x y : TApplicationException}
    (h : ∀ f ∈ struct.fields, f.get x = f.get y) : x = y := by
  simp [struct, StructField.primitive, StructField.nullable] at h
  cases x
  cases y
  simp_all

/-- An exception is read as it was written. -/
theorem resent_eq (x : TApplicationException) : struct.resent x = x := by
  refine ext_fields fun f hf => ?_
  rw [(struct.get_resent hf x).1]
  revert f
  simp [struct, StructField.primitive, StructField.nullable, fresh]

/-- What is on the way of an exception. -/
def tokens (x : TApplicationException) : List Token :=
  (Value.struct (StandardScheme.sent x struct.fields)).tokens

/-- An exception is a well-formed sequence. -/
theorem stream_tokens (x : TApplicationException) : Stream x.tokens := by
  simpa [tokens] using Stream.value (Value.struct (StandardScheme.sent x struct.fields)) .nil

end TApplicationException

/-- What a call ends with, if not with a result. -/
inductive Thrown (ε : Type) where
  | application (x : TApplicationException)
  /-- A `TProtocolException`. -/
  | protocol (message : String)
  /-- Any other `TException`. -/
  | other (e : ε)
  /-- No `TException`. -/
  | runtime
  deriving DecidableEq, Repr

def Thrown.isTException {ε : Type} : Thrown ε → Bool
  | .runtime => false
  | _ => true

/-! ### Connections -/

/-- One direction of a connection, with the methods for messages and its transport's `flush`. -/
structure TChannel (κ ε : Type) extends TProtocol κ ε where
  readMessageBegin : Exchange κ ε (String × TMessageType × Int32)
  readMessageEnd : Exchange κ ε Unit
  flush : Exchange κ ε Unit

/-- A connection: what the client writes and the server reads, the way back, and the end of it that
the server can close. -/
structure TConnection (κ ε : Type) where
  request : TChannel κ ε
  reply : TChannel κ ε
  close : κ → κ

variable {κ ε α σ : Type}

namespace TChannel

variable {C : κ → List Token → Prop}

/-- What is on the way of a message. -/
def message (name : String) (type : TMessageType) (seqid : Int32) (body : List Token) :
    List Token :=
  .messageBegin name type seqid :: body ++ [.messageEnd]

structure Carries (ch : TChannel κ ε) (C : κ → List Token → Prop) : Prop where
  protocol : ch.toTProtocol.Carries C
  readMessageBegin (name : String) (type : TMessageType) (seqid : Int32) :
    Reads C ch.readMessageBegin [.messageBegin name type seqid] (name, type, seqid)
  readMessageEnd : Reads C ch.readMessageEnd [.messageEnd] ()
  flush : Writes C ch.flush []

variable {ch : TChannel κ ε}

/-- A message, as the client and the server both write it. -/
def writeMessage (ch : TChannel κ ε) (name : String) (type : TMessageType) (seqid : Int32)
    (body : Exchange κ ε Unit) : Exchange κ ε Unit := do
  ch.write (.messageBegin name type seqid)
  body
  ch.write .messageEnd
  ch.flush

/-- A message with a whole stream as its body goes on a connection that has nothing on it. -/
theorem Carries.sends (hch : ch.Carries C) (name : String) (type : TMessageType) (seqid : Int32)
    {body : Exchange κ ε Unit} {us : List Token} (hbody : Writes C body us) (hus : Stream us)
    {k : κ} (hk : C k []) :
    ∃ k', ch.writeMessage name type seqid body k = some (.ok (), k') ∧
      C k' (message name type seqid us) := by
  have hwrites : Writes C (ch.writeMessage name type seqid body) (message name type seqid us) := by
    simpa [TChannel.writeMessage, message] using
      (hch.protocol.write (.messageBegin name type seqid)).seq
        (hbody.seq ((hch.protocol.write .messageEnd).seq hch.flush))
  exact hwrites k [] (hus.one_message name type seqid).start hk

/-- A message that is on a connection is read from its begin to its end. -/
theorem Carries.receives (hch : ch.Carries C) {name : String} {type : TMessageType} {seqid : Int32}
    {body : Exchange κ ε α} {us : List Token} {x : α} (hbody : Reads C body us x)
    (hus : Stream us) {k : κ} (hk : C k (message name type seqid us)) :
    ∃ k₁ k₂ k₃, ch.readMessageBegin k = some (.ok (name, type, seqid), k₁) ∧
      body k₁ = some (.ok x, k₂) ∧ ch.readMessageEnd k₂ = some (.ok (), k₃) ∧ C k₃ [] := by
  have hrest := (hus.one_message name type seqid).rest
  have hrest₁ : Stream.Rest (us ++ [.messageEnd]) :=
    Stream.Rest.right (l := [.messageBegin name type seqid]) (by simpa using hrest)
  obtain ⟨k₁, h₁, hk₁⟩ := hch.readMessageBegin name type seqid k (us ++ [.messageEnd]) hrest hk
  obtain ⟨k₂, h₂, hk₂⟩ := hbody k₁ [.messageEnd] hrest₁ hk₁
  obtain ⟨k₃, h₃, hk₃⟩ := hch.readMessageEnd k₂ [] (by simpa using hrest₁.right) hk₂
  exact ⟨k₁, k₂, k₃, h₁, h₂, h₃, hk₃⟩

/-- The exception is written as a struct of the standard scheme, whatever the protocol uses. -/
def exceptions (ch : TChannel κ ε) : TProtocol κ ε := { ch.toTProtocol with scheme := .standard }

/-- Exceptions go over the same channel, in the standard scheme. -/
theorem Carries.exceptions (hch : ch.Carries C) : ch.exceptions.Carries C :=
  { hch.protocol with }

end TChannel

/-- A client, its connection, and the server at the other end. -/
structure Remote (κ σ : Type) where
  connection : κ
  seqid : Int32
  server : σ

/-- Code of one party on the connection. -/
def onConnection (m : Exchange κ ε α) : Exchange (Remote κ σ) ε α := fun r =>
  (m r.connection).map fun p => (p.1, { r with connection := p.2 })

/-- An exchange on the connection leaves the rest as it is. -/
theorem onConnection_eq {m : Exchange κ ε α} {r : Remote κ σ} {x : Except ε α} {k : κ}
    (h : m r.connection = some (x, k)) :
    onConnection m r = some (x, { r with connection := k }) := by
  simp [onConnection, h]

/-! ### The processor -/

/-- What a processor does for one method: `getResult` calls the handler. -/
structure ProcessFunction (κ ε σ : Type) where
  {Args Result : Type}
  methodName : String
  read : Exchange κ (Thrown ε) Args
  getResult : Args → σ → Except (Thrown ε) Result × σ
  write : Result → Exchange κ (Thrown ε) Unit

def ProcessFunction.internalError (f : ProcessFunction κ ε σ) : TApplicationException :=
  .new TApplicationException.INTERNAL_ERROR ("Internal error processing " ++ f.methodName)

namespace TConnection

variable (conn : TConnection κ (Thrown ε))

def sendException (name : String) (seqid : Int32) (x : TApplicationException) :
    Exchange κ (Thrown ε) Unit :=
  conn.reply.writeMessage name .exception seqid
    (TApplicationException.struct.write conn.reply.exceptions x)

/-- The arguments, or the message of a `TProtocolException`. -/
def readArgs {A : Type} (read : Exchange κ (Thrown ε) A) :
    Exchange κ (Thrown ε) (Except String A) :=
  tryCatch (Except.ok <$> read) fun
    | .protocol message => pure (.error message)
    | e => throw e

/-- The handler's turn: what it throws is a value here. -/
def callHandler {R : Type} (h : σ → Except (Thrown ε) R × σ) :
    Exchange (Remote κ σ) (Thrown ε) (Except (Thrown ε) R) := fun r =>
  some (.ok (h r.server).1, { r with server := (h r.server).2 })

/-- `ProcessFunction.process`, once the arguments are there. -/
def answer (f : ProcessFunction κ ε σ) (seqid : Int32) (args : f.Args) :
    Exchange (Remote κ σ) (Thrown ε) Unit := do
  match ← callHandler (f.getResult args) with
  | .ok result =>
      onConnection (conn.reply.writeMessage f.methodName .reply seqid (f.write result))
  | .error e =>
      if e.isTException then
        onConnection (conn.sendException f.methodName seqid f.internalError)
      else throw e

/-- `ProcessFunction.process` -/
def processFunction (f : ProcessFunction κ ε σ) (seqid : Int32) :
    Exchange (Remote κ σ) (Thrown ε) Unit := do
  match ← onConnection (readArgs f.read) with
  | .error message => onConnection do
      conn.request.readMessageEnd
      conn.sendException f.methodName seqid
        (.new TApplicationException.PROTOCOL_ERROR message)
  | .ok args => do
      onConnection conn.request.readMessageEnd
      conn.answer f seqid args

/-- `TBaseProcessor.process` -/
def process (map : String → Option (ProcessFunction κ ε σ)) :
    Exchange (Remote κ σ) (Thrown ε) Unit := do
  let (name, _, seqid) ← onConnection conn.request.readMessageBegin
  match map name with
  | none => onConnection do
      conn.request.skip .struct
      conn.request.readMessageEnd
      conn.sendException name seqid
        (.new TApplicationException.UNKNOWN_METHOD ("Invalid method name: '" ++ name ++ "'"))
  | some f => conn.processFunction f seqid

/-- The server takes one call.  What the processor throws ends in the server, which then closes the
connection. -/
def serve (map : String → Option (ProcessFunction κ ε σ)) :
    Exchange (Remote κ σ) (Thrown ε) Unit := fun r =>
  match conn.process map r with
  | some (.error _, r') => some (.ok (), { r' with connection := conn.close r'.connection })
  | result => result

/-! ### The client -/

/-- `TServiceClient.sendBase` -/
def sendBase (name : String) (args : Exchange κ (Thrown ε) Unit) :
    Exchange (Remote κ σ) (Thrown ε) Unit := fun r =>
  onConnection (conn.request.writeMessage name .call (r.seqid + 1) args)
    { r with seqid := r.seqid + 1 }

/-- `TServiceClient.receiveBase` -/
def receiveBase {R : Type} (result : Exchange κ (Thrown ε) R) (name : String) :
    Exchange (Remote κ σ) (Thrown ε) R := fun r =>
  onConnection (do
    let (_, type, seqid) ← conn.reply.readMessageBegin
    if type = .exception then
      let x ← TApplicationException.struct.read conn.reply.exceptions .fresh
      conn.reply.readMessageEnd
      throw (.application x)
    if seqid ≠ r.seqid then
      throw (.application (.new TApplicationException.BAD_SEQUENCE_ID
        (name ++ " failed: out of sequence response")))
    let x ← result
    conn.reply.readMessageEnd
    return x) r

/-- A whole call, with the server that takes it. -/
def call {R : Type} (map : String → Option (ProcessFunction κ ε σ)) (name : String)
    (args : Exchange κ (Thrown ε) Unit) (result : Exchange κ (Thrown ε) R) :
    Exchange (Remote κ σ) (Thrown ε) R := do
  conn.sendBase name args
  conn.serve map
  conn.receiveBase result name

end TConnection

/-! ### Rules for a call -/

namespace TConnection

/-- A connection that works: `C k req rep` says that `req` is on its way to the server, and `rep`
on its way back.  When the server has closed it and nothing is left, the client cannot read. -/
structure Works (conn : TConnection κ ε) (C : κ → List Token → List Token → Prop) : Prop where
  request (rep : List Token) : conn.request.Carries fun k l => C k l rep
  reply (req : List Token) : conn.reply.Carries fun k l => C k req l
  closed {k : κ} {req : List Token} (hk : C k req []) :
    ∃ e k', conn.reply.readMessageBegin (conn.close k) = some (.error e, k')

/-- A handler for exceptions is not asked where there is none. -/
theorem catch_eq {m : Exchange κ ε α} {h : ε → Exchange κ ε α} {x : α} {k k' : κ}
    (hm : m k = some (.ok x, k')) : tryCatch m h k = some (.ok x, k') := by
  simp only [tryCatch, tryCatchThe, MonadExceptOf.tryCatch, ExceptT.tryCatch, ExceptT.mk, bind,
    StateT.bind, hm, Option.bind_some]
  rfl

variable {conn : TConnection κ (Thrown ε)} {C : κ → List Token → List Token → Prop}
  {map : String → Option (ProcessFunction κ ε σ)} {name : String} {f : ProcessFunction κ ε σ}
  {args : Exchange κ (Thrown ε) Unit} {R : Type} {result : Exchange κ (Thrown ε) R}
  {ts us : List Token} {a : f.Args} {x : R} {s : σ} {k : κ} {seqid : Int32}

/-- Arguments that are read go to the handler. -/
theorem readArgs_eq {A : Type} {read : Exchange κ (Thrown ε) A} {a : A} {k k' : κ}
    (h : read k = some (.ok a, k')) : readArgs read k = some (.ok (.ok a), k') := by
  have hmap : (Except.ok <$> read : Exchange κ (Thrown ε) (Except String A)) k =
      some (.ok (.ok a), k') := by
    rw [map_eq_pure_bind]
    exact bind_eq h rfl
  exact catch_eq hmap

/-- The handler changes the server, and not the connection. -/
theorem callHandler_eq {R : Type} {h : σ → Except (Thrown ε) R × σ} {y : Except (Thrown ε) R}
    {r : Remote κ σ} (hr : h r.server = (y, s)) :
    callHandler h r = some (.ok y, { r with server := s }) := by
  simp [callHandler, hr]

/-- The server reads a request and is about to call the handler. -/
theorem Works.process_eq (hw : conn.Works C) (hf : map name = some f)
    (hread : ∀ rep, Reads (fun k l => C k l rep) f.read ts a) (hts : Stream ts) {r : Remote κ σ}
    (hk : C r.connection (TChannel.message name .call seqid ts) []) :
    ∃ k, C k [] [] ∧
      conn.process map r = conn.answer f seqid a { r with connection := k } := by
  obtain ⟨k₁, k₂, k₃, h₁, h₂, h₃, hk₃⟩ := (hw.request []).receives (hread []) hts hk
  refine ⟨k₃, hk₃, ?_⟩
  refine bind_eq (onConnection_eq h₁) ?_
  simp only [hf]
  refine bind_eq (onConnection_eq (readArgs_eq h₂)) ?_
  exact bind_eq (onConnection_eq h₃) rfl

/-- The handler returns: the result is on its way. -/
theorem Works.answer_returns (hw : conn.Works C) (seqid : Int32) {r : Remote κ σ} {y : f.Result}
    (hr : f.getResult a r.server = (.ok y, s))
    (hwrite : ∀ req, Writes (fun k l => C k req l) (f.write y) us) (hus : Stream us)
    (hk : C r.connection [] []) :
    ∃ k, C k [] (TChannel.message f.methodName .reply seqid us) ∧
      conn.answer f seqid a r = some (.ok (), { r with connection := k, server := s }) := by
  obtain ⟨k, h, hk'⟩ := (hw.reply []).sends f.methodName .reply seqid (hwrite []) hus hk
  refine ⟨k, hk', ?_⟩
  refine bind_eq (callHandler_eq hr) ?_
  exact onConnection_eq h

/-- The handler throws a `TException`: that the server failed is on its way. -/
theorem Works.answer_throws (hw : conn.Works C) (seqid : Int32) {r : Remote κ σ} {e : Thrown ε}
    (hr : f.getResult a r.server = (.error e, s)) (he : e.isTException = true)
    (hk : C r.connection [] []) :
    ∃ k, C k [] (TChannel.message f.methodName .exception seqid
        (f.internalError.tokens)) ∧
      conn.answer f seqid a r = some (.ok (), { r with connection := k, server := s }) := by
  have hwrite := TApplicationException.struct.writes (hw.reply []).exceptions rfl f.internalError
  obtain ⟨k, h, hk'⟩ := (hw.reply []).sends f.methodName .exception seqid hwrite
    (f.internalError.stream_tokens) hk
  refine ⟨k, hk', ?_⟩
  refine bind_eq (callHandler_eq hr) ?_
  simp only [he, if_true]
  exact onConnection_eq h

/-- The handler throws anything else: so does the processor, and nothing is on its way. -/
theorem answer_fails (conn : TConnection κ (Thrown ε)) (seqid : Int32) {r : Remote κ σ}
    {e : Thrown ε} (hr : f.getResult a r.server = (.error e, s)) (he : e.isTException = false) :
    conn.answer f seqid a r = some (.error e, { r with server := s }) := by
  refine bind_eq (callHandler_eq hr) ?_
  simp only [he]
  rfl

/-! ### The client's side -/

/-- What the processor handles, the server goes on from. -/
theorem serve_eq {r r' : Remote κ σ} (h : conn.process map r = some (.ok (), r')) :
    conn.serve map r = some (.ok (), r') := by
  simp [serve, h]

/-- What leaves the processor makes the server close the connection. -/
theorem serve_fails {r r' : Remote κ σ} {e : Thrown ε}
    (h : conn.process map r = some (.error e, r')) :
    conn.serve map r = some (.ok (), { r' with connection := conn.close r'.connection }) := by
  simp [serve, h]

/-- A call comes to its handler. -/
theorem Works.reaches_handler (hw : conn.Works C) (hf : map name = some f)
    (hargs : ∀ rep, Writes (fun k l => C k l rep) args ts)
    (hread : ∀ rep, Reads (fun k l => C k l rep) f.read ts a) (hts : Stream ts) {r : Remote κ σ}
    (hk : C r.connection [] []) :
    ∃ r₁ k, conn.sendBase name args r = some (.ok (), r₁) ∧ C k [] [] ∧
      conn.process map r₁ = conn.answer f (r.seqid + 1) a ⟨k, r.seqid + 1, r.server⟩ := by
  obtain ⟨k₁, h₁, hk₁⟩ := (hw.request []).sends name .call (r.seqid + 1) (hargs []) hts hk
  let r₁ : Remote κ σ := ⟨k₁, r.seqid + 1, r.server⟩
  obtain ⟨k, hk, h⟩ := hw.process_eq (r := r₁) hf hread hts hk₁
  refine ⟨r₁, k, ?_, hk, h⟩
  exact onConnection_eq (r := { r with seqid := r.seqid + 1 }) h₁

/-- The client reads a result. -/
theorem Works.receives (hw : conn.Works C) (name : String)
    (hresult : ∀ req, Reads (fun k l => C k req l) result us x) (hus : Stream us) {r : Remote κ σ}
    {server : String} (hk : C r.connection [] (TChannel.message server .reply r.seqid us)) :
    ∃ k, C k [] [] ∧
      conn.receiveBase result name r = some (.ok x, { r with connection := k }) := by
  obtain ⟨k₁, k₂, k₃, h₁, h₂, h₃, hk₃⟩ := (hw.reply []).receives (hresult []) hus hk
  refine ⟨k₃, hk₃, onConnection_eq (bind_eq h₁ ?_)⟩
  simp only [reduceCtorEq, if_false, ne_eq, not_true_eq_false]
  exact bind_eq h₂ (bind_eq h₃ rfl)

/-- The client reads an exception, and throws it. -/
theorem Works.receives_exception (hw : conn.Works C) (result : Exchange κ (Thrown ε) R)
    (name : String) {e : TApplicationException} {r : Remote κ σ} {server : String}
    (hk : C r.connection [] (TChannel.message server .exception r.seqid (e.tokens))) :
    ∃ k, C k [] [] ∧ conn.receiveBase result name r =
      some (.error (.application e), { r with connection := k }) := by
  have hread := TApplicationException.struct.reads (hw.reply []).exceptions rfl
    (StandardScheme.sent e TApplicationException.struct.fields) .fresh
  have he : TApplicationException.struct.loaded .fresh
      (StandardScheme.sent e TApplicationException.struct.fields) = e :=
    TApplicationException.resent_eq e
  rw [he] at hread
  obtain ⟨k₁, k₂, k₃, h₁, h₂, h₃, hk₃⟩ :=
    (hw.reply []).receives hread (e.stream_tokens) hk
  refine ⟨k₃, hk₃, onConnection_eq (bind_eq h₁ ?_)⟩
  simp only [if_true]
  exact bind_eq h₂ (bind_eq h₃ (bind_error rfl))

/-- The client finds the connection closed. -/
theorem Works.finds_closed (hw : conn.Works C) (result : Exchange κ (Thrown ε) R) (name : String)
    {r : Remote κ σ} (hk : C r.connection [] []) :
    ∃ e k, conn.receiveBase result name { r with connection := conn.close r.connection } =
      some (.error e, { r with connection := k }) := by
  obtain ⟨e, k, h⟩ := hw.closed hk
  exact ⟨e, k, onConnection_eq (bind_error h)⟩

/-! ### Whole calls -/

/-- The handler returns: so does the call. -/
theorem Works.call_returns (hw : conn.Works C) (hf : map name = some f)
    (hargs : ∀ rep, Writes (fun k l => C k l rep) args ts)
    (hread : ∀ rep, Reads (fun k l => C k l rep) f.read ts a) (hts : Stream ts) {r : Remote κ σ}
    {y : f.Result} (hr : f.getResult a r.server = (.ok y, s))
    (hwrite : ∀ req, Writes (fun k l => C k req l) (f.write y) us)
    (hresult : ∀ req, Reads (fun k l => C k req l) result us x) (hus : Stream us)
    (hk : C r.connection [] []) :
    ∃ k, C k [] [] ∧
      conn.call map name args result r = some (.ok x, ⟨k, r.seqid + 1, s⟩) := by
  obtain ⟨r₁, k₁, hsend, hk₁, hprocess⟩ := hw.reaches_handler hf hargs hread hts hk
  obtain ⟨k₂, hk₂, hanswer⟩ := hw.answer_returns (r.seqid + 1)
    (r := ⟨k₁, r.seqid + 1, r.server⟩) hr hwrite hus hk₁
  obtain ⟨k₃, hk₃, hreceive⟩ := hw.receives name (r := ⟨k₂, r.seqid + 1, s⟩) hresult hus hk₂
  refine ⟨k₃, hk₃, bind_eq hsend (bind_eq (serve_eq (hprocess.trans hanswer)) hreceive)⟩

/-- The handler throws a `TException`: the call throws that the server failed. -/
theorem Works.call_answered (hw : conn.Works C) (hf : map name = some f)
    (hargs : ∀ rep, Writes (fun k l => C k l rep) args ts)
    (hread : ∀ rep, Reads (fun k l => C k l rep) f.read ts a) (hts : Stream ts) {r : Remote κ σ}
    {e : Thrown ε} (hr : f.getResult a r.server = (.error e, s)) (he : e.isTException = true)
    (hk : C r.connection [] []) :
    ∃ k, C k [] [] ∧ conn.call map name args result r =
      some (.error (.application (f.internalError)), ⟨k, r.seqid + 1, s⟩) := by
  obtain ⟨r₁, k₁, hsend, hk₁, hprocess⟩ := hw.reaches_handler hf hargs hread hts hk
  obtain ⟨k₂, hk₂, hanswer⟩ := hw.answer_throws (r.seqid + 1)
    (r := ⟨k₁, r.seqid + 1, r.server⟩) hr he hk₁
  obtain ⟨k₃, hk₃, hreceive⟩ := hw.receives_exception result name
    (r := ⟨k₂, r.seqid + 1, s⟩) hk₂
  exact ⟨k₃, hk₃, bind_eq hsend (bind_eq (serve_eq (hprocess.trans hanswer)) hreceive)⟩

/-- The handler throws anything else: there is no answer, and the call throws what the client gets
from a closed connection. -/
theorem Works.call_closed (hw : conn.Works C) (hf : map name = some f)
    (hargs : ∀ rep, Writes (fun k l => C k l rep) args ts)
    (hread : ∀ rep, Reads (fun k l => C k l rep) f.read ts a) (hts : Stream ts) {r : Remote κ σ}
    {e : Thrown ε} (hr : f.getResult a r.server = (.error e, s)) (he : e.isTException = false)
    (hk : C r.connection [] []) :
    ∃ e' k, conn.call map name args result r = some (.error e', ⟨k, r.seqid + 1, s⟩) := by
  obtain ⟨r₁, k₁, hsend, hk₁, hprocess⟩ := hw.reaches_handler hf hargs hread hts hk
  have hanswer := answer_fails conn (r.seqid + 1)
    (r := ⟨k₁, r.seqid + 1, r.server⟩) hr he
  obtain ⟨e', k₂, hreceive⟩ := hw.finds_closed result name
    (r := ⟨k₁, r.seqid + 1, s⟩) hk₁
  exact ⟨e', k₂, bind_eq hsend (bind_eq (serve_fails (hprocess.trans hanswer)) hreceive)⟩

/-- How `m` ends, a call whose handler ends with `h`: with an answer to what the handler returns,
and the connection as before, or with an exception. -/
def EndsAs {α β : Type} (C : κ → List Token → List Token → Prop)
    (m : Exchange (Remote κ σ) (Thrown ε) β) (r : Remote κ σ) (h : Except (Thrown ε) α × σ)
    (answer : α → Except (Thrown ε) β) : Prop :=
  match h with
  | (.ok a, s) => ∃ k, C k [] [] ∧ m r = some (answer a, ⟨k, r.seqid + 1, s⟩)
  | (.error _, s) => ∃ e k, m r = some (.error e, ⟨k, r.seqid + 1, s⟩)

/-- **A call ends as its handler does.** -/
theorem Works.call_ends (hw : conn.Works C) (hf : map name = some f)
    (hargs : ∀ rep, Writes (fun k l => C k l rep) args ts)
    (hread : ∀ rep, Reads (fun k l => C k l rep) f.read ts a) (hts : Stream ts) {r : Remote κ σ}
    {α β : Type} {h : Except (Thrown ε) α × σ} {toResult : α → f.Result}
    (hr : f.getResult a r.server = (h.1.map toResult, h.2)) {us : α → List Token} {x : α → R}
    (hwrite : ∀ y req, Writes (fun k l => C k req l) (f.write (toResult y)) (us y))
    (hresult : ∀ y req, Reads (fun k l => C k req l) result (us y) (x y))
    (hus : ∀ y, Stream (us y)) {g : R → Exchange (Remote κ σ) (Thrown ε) β}
    {answer : α → Except (Thrown ε) β} (hg : ∀ y r, g (x y) r = some (answer y, r))
    (hk : C r.connection [] []) :
    EndsAs C (conn.call map name args result >>= g) r h answer := by
  obtain ⟨e | y, s⟩ := h
  · cases he : e.isTException with
    | true =>
        obtain ⟨k, -, hcall⟩ := hw.call_answered hf hargs hread hts hr he hk
        exact ⟨_, k, bind_error hcall⟩
    | false =>
        obtain ⟨e', k, hcall⟩ := hw.call_closed hf hargs hread hts hr he hk
        exact ⟨e', k, bind_error hcall⟩
  · obtain ⟨k, hk', hcall⟩ :=
      hw.call_returns hf hargs hread hts hr (hwrite y) (hresult y) (hus y) hk
    exact ⟨k, hk', bind_eq hcall (hg y _)⟩

/-! ### A connection in memory -/

/-- The two directions of a connection, and if the server has closed it. -/
structure Wires where
  request : List Token
  reply : List Token
  closed : Bool

section
variable (get : Wires → List Token) (set : List Token → Wires → Wires) (e : ε) (scheme : Scheme)

/-- One direction, as a queue.  Who reads where nothing is waits for ever, unless the connection is
closed. -/
def channel : TChannel Wires ε where
  toTProtocol := .queue get set e scheme
  readMessageBegin := fun k =>
    if (get k).isEmpty && !k.closed then none
    else take get set e (fun
      | .messageBegin name type seqid => some (name, type, seqid)
      | _ => none) k
  readMessageEnd := take get set e fun
    | .messageEnd => some ()
    | _ => none
  flush := pure ()

variable {get set} {C : Wires → List Token → Prop}

/-- A queue between two peers carries what is written. -/
theorem channel_carries (hget : ∀ k l, C k l → get k = l)
    (hset : ∀ k l l', C k l → C (set l' k) l') : (channel get set e scheme).Carries C where
  protocol := TProtocol.queue_carries _ _ _ hget hset scheme
  readMessageBegin name type seqid := by
    intro k l _ hk
    refine ⟨set l k, ?_, hset k _ l hk⟩
    simp [channel, take, hget k _ hk]
  readMessageEnd := take_reads hget hset rfl
  flush := .pure

end

/-- A connection of two queues. -/
def memory (e : ε) (request reply : Scheme) : TConnection Wires ε where
  request := channel Wires.request (fun l k => { k with request := l }) e request
  reply := channel Wires.reply (fun l k => { k with reply := l }) e reply
  close k := { k with closed := true }

/-- Two queues in memory work as a connection. -/
theorem memory_works (e : ε) (request reply : Scheme) :
    (memory e request reply).Works fun k req rep => k.request = req ∧ k.reply = rep where
  request _ := channel_carries e request (fun _ _ h => h.1) fun _ _ _ h => ⟨rfl, h.2⟩
  reply _ := channel_carries e reply (fun _ _ h => h.2) fun _ _ _ h => ⟨h.1, rfl⟩
  closed {k req} hk := by
    obtain ⟨-, hk⟩ := hk
    exact ⟨e, { k with closed := true }, by simp [memory, channel, take, hk]⟩

end TConnection

end MRF.Library
