import MRF.Client.Config
import MRF.Library.Prog

/-!
# Client — Wrapper

The wrappers around a business message listener, as programs over the calls they make: to the
listener, to the center, to the queues, and to the recover callback.

* `onMessage` runs the listener, and hands a message that failed over to the center or back to the
  retry queue;
* `sendRetryMessageForProcess` is the RPC with its fail-over to the exception queue;
* `RetryMessageListener.onMessage` unpacks a message of the retry queue.
-/

namespace MRF.Client
open MRF.Library

variable {B Msg : Type}

/-- `MessageSerializer`, which is Gson's.  A message is not null. -/
structure MessageSerializer (B Msg : Type) where
  serialize : Msg → Except Throwable B
  deserialize : B → Except Throwable Msg

/-- What a client is given: its classes and its serializer. -/
structure ClientEnv (B Msg : Type) where
  classPath : ClassPath
  serializer : MessageSerializer B Msg

/-! ### Calls -/

/-- The calls of a listener wrapper. -/
inductive ClientOp (B Msg : Type) where
  /-- The business listener. -/
  | invokeBusinessMessage (m : Msg)
  /-- Does the factory answer a connection, and not null? -/
  | getThriftConnection
  /-- The RPC; the `close` of its connection does not raise. -/
  | process (m : RetryMessage B)
  /-- Is there a template for the exception queue, and a name? -/
  | getExceptionRabbitTemplate
  | sendToExceptionQueue (m : RetryMessage B)
  /-- `convertAndSend` on the template of the retry queue. -/
  | sendToRetryQueue (m : RetryMessage B)
  | doRecoverCallback (m : Msg)

/-- What the calls answer. -/
def ClientOp.Res : ClientOp B Msg → Type
  | .getThriftConnection => Bool
  | .getExceptionRabbitTemplate => Bool
  | _ => Unit

/-- What a client thread does, call by call. -/
abbrev ClientProg (B Msg : Type) := Prog (ClientOp B Msg) ClientOp.Res Throwable

def invokeBusinessMessage (m : Msg) : ClientProg B Msg Unit :=
  Prog.perform (ClientOp.invokeBusinessMessage m)

def getThriftConnection : ClientProg B Msg Bool := Prog.perform ClientOp.getThriftConnection

def process (m : RetryMessage B) : ClientProg B Msg Unit := Prog.perform (ClientOp.process m)

def getExceptionRabbitTemplate : ClientProg B Msg Bool :=
  Prog.perform ClientOp.getExceptionRabbitTemplate

def sendToExceptionQueue (m : RetryMessage B) : ClientProg B Msg Unit :=
  Prog.perform (ClientOp.sendToExceptionQueue m)

def sendToRetryQueue (m : RetryMessage B) : ClientProg B Msg Unit :=
  Prog.perform (ClientOp.sendToRetryQueue m)

def mrfRuntimeException : Throwable := ⟨"com.nali.mrfcore.exception.MRFRuntimeException"⟩

def businessMessageListenerExecuteFailedException : Throwable :=
  ⟨"com.nali.mrfcore.exception.BusinessMessageListenerExecuteFailedException"⟩

def retryMessageListenerExecuteFailedException : Throwable :=
  ⟨"com.nali.mrfcore.exception.RetryMessageListenerExecuteFailedException"⟩

/-- The class that `catch(Exception)` catches. -/
def exceptionClass : String := "java.lang.Exception"

def thriftConnectionException : String :=
  "com.ximalaya.thrift.client.exception.ThriftConnectionException"

/-! ### MRFServiceThriftClient -/

namespace MRFServiceThriftClient

/-- The message goes to the exception queue, if there is a template. -/
def doFailOver (env : ClientEnv B Msg) (m : RetryMessage B) : ClientProg B Msg Unit := do
  if ← getExceptionRabbitTemplate then
    try sendToExceptionQueue m
    catch e =>
      throw (if env.classPath.isInstance exceptionClass e then mrfRuntimeException else e)
  else throw mrfRuntimeException

/-- The message goes to the center, and to the exception queue where that fails. -/
def sendRetryMessageForProcess (env : ClientEnv B Msg) (m : RetryMessage B) :
    ClientProg B Msg Unit := do
  let connection ←
    try
      pure (some (← getThriftConnection))
    catch e =>
      if env.classPath.isInstance thriftConnectionException e then pure none else throw e
  match connection with
  | none => doFailOver env m
  | some true =>
      try process m
      catch e =>
        if env.classPath.isInstance exceptionClass e then doFailOver env m else throw e
  -- the factory answered null, and the message is dropped
  | some false => pure ()

end MRFServiceThriftClient

/-! ### The wrappers -/

/-- `InitialBusinessMessageListenerWrapper`, and `RetryBusinessMessageListenerWrapper` with the
fields that were set for the message at hand. -/
inductive BusinessMessageListenerWrapper where
  | initial (retryQueueConfig : RetryQueueConfig)
  | retry (retryQueueConfig : RetryQueueConfig) (retriedTimes : Int32)
      (isMessageFromRecover : Bool) (retryMessageID : Int)

namespace BusinessMessageListenerWrapper

open RetryQueueConfigHelper MRFServiceThriftClient

def retryQueueConfig : BusinessMessageListenerWrapper → RetryQueueConfig
  | initial c => c
  | retry c _ _ _ => c

def isMessageFromRecover : BusinessMessageListenerWrapper → Bool
  | initial _ => false
  | retry _ _ fromRecover _ => fromRecover

def getRetryMessageID : BusinessMessageListenerWrapper → Int
  | initial _ => 0
  | retry _ _ _ msgID => msgID

def getRetriedTimes : BusinessMessageListenerWrapper → Int32
  | initial _ => 0
  | retry _ retriedTimes _ _ => retriedTimes

def hasReachedMaxRetryTimes : BusinessMessageListenerWrapper → Bool
  | initial _ => false
  | retry c retriedTimes _ _ => if c.retryTimes < 0 then false else c.retryTimes ≤ retriedTimes

/-- The retry message for a business message that serializes to `businessMsg`. -/
def retryMessage (w : BusinessMessageListenerWrapper) (businessMsg : B) (flag : MessageFlag)
    (isMessageForRetry : Bool) : RetryMessage B :=
  { msgID := w.getRetryMessageID
    retryQueueName := getRetryQueueName w.retryQueueConfig.businessQueueName
    businessMsg
    retryInterval := w.retryQueueConfig.retryInterval
    retriedTimes :=
      if isMessageForRetry && !isInfiniteRetryMessage w.retryQueueConfig then w.getRetriedTimes + 1
      else w.getRetriedTimes
    maxRetryTimes := w.retryQueueConfig.retryTimes
    messageFlag := flag
    isFromRecover := w.isMessageFromRecover }

/-- The message is serialized first. -/
def constructRetryMessage (env : ClientEnv B Msg) (w : BusinessMessageListenerWrapper) (m : Msg)
    (flag : MessageFlag) (isMessageForRetry : Bool) : Except Throwable (RetryMessage B) :=
  match env.serializer.serialize m with
  | .ok businessMsg => .ok (w.retryMessage businessMsg flag isMessageForRetry)
  | .error e =>
      .error (if env.classPath.isInstance exceptionClass e then mrfRuntimeException else e)

/-- Construct a retry message and send it to the center. -/
def sendForProcess (env : ClientEnv B Msg) (w : BusinessMessageListenerWrapper) (m : Msg)
    (flag : MessageFlag) (isMessageForRetry : Bool) : ClientProg B Msg Unit := do
  let retryMessage ← Prog.ofExcept (w.constructRetryMessage env m flag isMessageForRetry)
  sendRetryMessageForProcess env retryMessage

/-- The next retry, through the retry queue or through the center. -/
def doRetry (env : ClientEnv B Msg) (w : BusinessMessageListenerWrapper) (m : Msg) :
    ClientProg B Msg Unit := do
  if isImmediateRetryMessage w.retryQueueConfig then
    let retryMessage ← Prog.ofExcept (w.constructRetryMessage env m .immediateMsgDoRetry true)
    sendToRetryQueue retryMessage
  else
    w.sendForProcess env m .intervalMsgDoRetry true

/-- The message goes to `recover`. -/
def doRecover (env : ClientEnv B Msg) (w : BusinessMessageListenerWrapper) (m : Msg)
    (isDirectToRecover : Bool) : ClientProg B Msg Unit :=
  match w with
  | initial _ =>
      if isDirectToRecover then w.sendForProcess env m .msgDirectToRecover false else pure ()
  | retry c _ _ _ =>
      if isDirectToRecover then w.sendForProcess env m .msgDirectToRecover false
      else if isImmediateRetryMessage c then
        w.sendForProcess env m .immediateMsgDoRecover false
      else w.sendForProcess env m .intervalMsgDoRecover false

/-- The row of the message is deleted; an immediate retry has none. -/
def doCleanup (env : ClientEnv B Msg) (w : BusinessMessageListenerWrapper) (m : Msg)
    (isMessageFromRecover : Bool) : ClientProg B Msg Unit :=
  match w with
  | initial _ => pure ()
  | retry c _ _ _ =>
      if !isMessageFromRecover && isImmediateRetryMessage c then pure ()
      else if isMessageFromRecover then w.sendForProcess env m .cleanRecover false
      else w.sendForProcess env m .cleanIntervalRetry false

/-- The record is checked in again. -/
def resendForRecover (env : ClientEnv B Msg) (w : BusinessMessageListenerWrapper) (m : Msg) :
    ClientProg B Msg Unit :=
  match w with
  | initial _ => pure ()
  | retry _ _ _ _ => w.sendForProcess env m .resendForRecover false

/-- `byConfig && shouldCareThrowable(t, retryQueueConfig)`. -/
def andCares (env : ClientEnv B Msg) (w : BusinessMessageListenerWrapper) (t : Throwable)
    (byConfig : Bool) : ClientProg B Msg Bool :=
  if byConfig then Prog.ofExcept (shouldCareThrowable env.classPath t w.retryQueueConfig)
  else pure false

/-- The callback is called, if there is one. -/
def doRecoverCallback (w : BusinessMessageListenerWrapper) (m : Msg) : ClientProg B Msg Unit :=
  if w.retryQueueConfig.hasRecoverCallback then
    Prog.perform (ClientOp.doRecoverCallback m)
  else pure ()

/-- The `catch` block for a message from recover. -/
def recoverFailed (env : ClientEnv B Msg) (w : BusinessMessageListenerWrapper) (m : Msg)
    (t : Throwable) : ClientProg B Msg Unit := do
  if ← w.andCares env t (shouldRetryByConfig w.retryQueueConfig ||
      shouldDirectToRecover w.retryQueueConfig) then
    w.resendForRecover env m
  else throw businessMessageListenerExecuteFailedException

/-- The `catch` block for every other message. -/
def retryFailed (env : ClientEnv B Msg) (w : BusinessMessageListenerWrapper) (m : Msg)
    (t : Throwable) : ClientProg B Msg Unit := do
  if ← w.andCares env t (shouldDirectToRecover w.retryQueueConfig) then
    w.doRecover env m true
    w.doRecoverCallback m
  else if ← w.andCares env t (shouldRetryByConfig w.retryQueueConfig) then
    if !w.hasReachedMaxRetryTimes then
      w.doRetry env m
    else
      w.doRecover env m false
      w.doRecoverCallback m
  else throw businessMessageListenerExecuteFailedException

/-- The listener is called; a failure of it or of the clean-up is handled. -/
def onMessage (env : ClientEnv B Msg) (w : BusinessMessageListenerWrapper) (m : Msg) :
    ClientProg B Msg Unit :=
  if w.isMessageFromRecover then
    try
      invokeBusinessMessage m
      w.doCleanup env m true
    catch t => w.recoverFailed env m t
  else
    try
      invokeBusinessMessage m
      w.doCleanup env m false
    catch t => w.retryFailed env m t

end BusinessMessageListenerWrapper

/-- `RetryMessageListener.onMessage`; `none` is a message that does not convert to a
`RetryMessage`. -/
def RetryMessageListener.onMessage (env : ClientEnv B Msg) (c : RetryQueueConfig)
    (message : Option (RetryMessage B)) : ClientProg B Msg Unit :=
  match message with
  | none => pure ()
  | some retryMessage =>
      match env.serializer.deserialize retryMessage.businessMsg with
      | .error e => if env.classPath.isInstance exceptionClass e then pure () else throw e
      | .ok businessMessage =>
          let w := .retry c retryMessage.retriedTimes retryMessage.isFromRecover retryMessage.msgID
          try BusinessMessageListenerWrapper.onMessage env w businessMessage
          catch _ => throw retryMessageListenerExecuteFailedException

end MRF.Client
