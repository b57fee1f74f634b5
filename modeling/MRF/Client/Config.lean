import MRF.Core.Message

/-!
# Client — Config

`RetryQueueConfig`, its modes, and the filter on throwables of `RetryQueueConfigHelper`.

Java classes are known by their names; which of them load, and which is assignable from which,
is the class path's to say.
-/

namespace MRF.Client

/-- A thrown object, by the name of its class. -/
structure Throwable where
  className : String
  deriving DecidableEq, Repr

def nullPointerException : Throwable := ⟨"java.lang.NullPointerException"⟩

/-- `Class.forName` and `isAssignableFrom`. -/
structure ClassPath where
  loads : String → Bool
  isAssignableFrom : String → String → Bool

/-- `t instanceof name`. -/
def ClassPath.isInstance (cp : ClassPath) (name : String) (t : Throwable) : Bool :=
  cp.isAssignableFrom name t.className

/-- A `RetryQueueConfig` as its constructor and setters leave it. -/
structure RetryQueueConfig where
  businessQueueName : String
  retryInterval : Int64
  retryTimes : Int32
  retryExceptions : List String
  /-- Whether a `RecoverCallback` is registered. -/
  hasRecoverCallback : Bool
  name_ne : businessQueueName ≠ ""
  retryInterval_ge : -1 ≤ retryInterval
  retryTimes_ge : -1 ≤ retryTimes

/-- The retry modes of `MessageConstants`. -/
inductive RetryMode where
  | unsupportedRetryMode
  | noRetry
  | retryImmediateInfinite
  | retryImmediateFinite
  | retryIntervalInfinite
  | retryIntervalFinite
  | directToRecover
  deriving DecidableEq, Repr

namespace RetryQueueConfig

/-- `none` for the null of a list that is empty; a class that does not load is a null entry. -/
def getRetryExceptionClasses (cp : ClassPath) (c : RetryQueueConfig) :
    Option (List (Option String)) :=
  if c.retryExceptions = [] then none
  else some (c.retryExceptions.map fun name => if cp.loads name then some name else none)

end RetryQueueConfig

namespace RetryQueueConfigHelper

def isImmediateRetryMessage (c : RetryQueueConfig) : Bool := c.retryInterval = 0

/-- The mode, by the interval and the times. -/
def getMessageRetryMode (c : RetryQueueConfig) : RetryMode :=
  if c.retryInterval = -1 ∧ c.retryTimes = -1 then .directToRecover
  else if c.retryInterval = 0 ∧ c.retryTimes = 0 then .noRetry
  else if c.retryInterval = 0 ∧ c.retryTimes < 0 then .retryImmediateInfinite
  else if c.retryInterval = 0 ∧ 0 < c.retryTimes then .retryImmediateFinite
  else if 0 < c.retryInterval ∧ c.retryTimes < 0 then .retryIntervalInfinite
  else if 0 < c.retryInterval ∧ 0 < c.retryTimes then .retryIntervalFinite
  else .unsupportedRetryMode

/-- The message is retried without end. -/
def isInfiniteRetryMessage (c : RetryQueueConfig) : Bool :=
  getMessageRetryMode c = .retryImmediateInfinite || getMessageRetryMode c = .retryIntervalInfinite

/-- The loop of `shouldCareThrowable`, which dereferences each entry it comes to. -/
def anyAssignableFrom (cp : ClassPath) (t : Throwable) :
    List (Option String) → Except Throwable Bool
  | [] => .ok false
  | none :: _ => .error nullPointerException
  | some name :: classes =>
      if cp.isInstance name t then .ok true else anyAssignableFrom cp t classes

/-- The filter lets the throwable through, or throws itself. -/
def shouldCareThrowable (cp : ClassPath) (t : Throwable) (c : RetryQueueConfig) :
    Except Throwable Bool :=
  match c.getRetryExceptionClasses cp with
  | none => .ok true
  | some classes => anyAssignableFrom cp t classes

def shouldRetryByConfig (c : RetryQueueConfig) : Bool := getMessageRetryMode c ≠ .noRetry

def shouldDirectToRecover (c : RetryQueueConfig) : Bool := getMessageRetryMode c = .directToRecover

end RetryQueueConfigHelper

/-- `MRFClientResources.getRetryQueueName`. -/
def getRetryQueueName (businessQueueName : String) : String := businessQueueName ++ "_retry"

theorem getRetryQueueName_ne (q : String) : getRetryQueueName q ≠ "" := by
  intro h
  have hlen := congrArg String.length h
  simp [getRetryQueueName, String.length_append] at hlen

theorem getRetryQueueName_inj {q q' : String} (h : getRetryQueueName q = getRetryQueueName q') :
    q = q' :=
  (String.append_left_inj _).mp h

/-- `RetryServiceConfig`. -/
structure RetryServiceConfig where
  retryQueueConfigs : List RetryQueueConfig

/-- The first configuration of the queue. -/
def RetryServiceConfig.getRetryQueueConfig (s : RetryServiceConfig) (businessQueueName : String) :
    Option RetryQueueConfig :=
  s.retryQueueConfigs.find? fun c => businessQueueName = c.businessQueueName

theorem RetryServiceConfig.businessQueueName_of_get {s : RetryServiceConfig} {q : String}
    {c : RetryQueueConfig} (h : s.getRetryQueueConfig q = some c) :
    c.businessQueueName = q := by
  simpa [eq_comm] using List.find?_some h

end MRF.Client
