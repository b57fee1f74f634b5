import MRF.Core.Message
import MRF.Library.Table

/-!
# Center — Domain

The rows of `interval_retry` and `recover`, and the two tables with their unique index on
`msg_id`.  A `DATETIME` column holds whole seconds (`Datetime`); a nullable one is an `Option`.
The auto-increment `id`, which nothing reads, is left out.
-/

namespace MRF.Center
open MRF.Library

/-- A `DATETIME` value, in whole seconds. -/
abbrev Datetime := Int

/-- The `DATETIME` a millisecond `Timestamp` is stored as. -/
def toDatetime (millis : Int64) : Datetime := millis.toInt / 1000

/-- `MessageBase` and `MessageRecord`. -/
structure MessageRecord (B : Type) where
  msgID : Int
  retryQueueName : String
  businessMsg : B
  retryInterval : Int64
  retriedTimes : Int32
  maxRetryTimes : Int32
  checkoutAt : Option Datetime
  updatedAt : Option Datetime
  createdAt : Option Datetime
  deriving DecidableEq, Repr

/-- `interval_retry.retry_state`. -/
inductive RetryState where
  /-- `TO_RETRY = 0` -/
  | toRetry
  /-- `IN_RETRY = 1` -/
  | inRetry
  deriving DecidableEq, Repr

/-- A row of `interval_retry`. -/
structure IntervalRetry (B : Type) extends MessageRecord B where
  retryState : RetryState
  nextExecAt : Datetime
  deriving DecidableEq, Repr

/-- `recover.recover_state`. -/
inductive RecoverState where
  /-- `TO_RECOVER = 0` -/
  | toRecover
  /-- `IN_RECOVER = 1` -/
  | inRecover
  deriving DecidableEq, Repr

/-- A row of `recover`. -/
structure Recover (B : Type) extends MessageRecord B where
  recoverState : RecoverState
  deriving DecidableEq, Repr

instance {B : Type} : Keyed (IntervalRetry B) Int := ⟨fun r => r.msgID⟩

instance {B : Type} : Keyed (Recover B) Int := ⟨fun r => r.msgID⟩

@[simp] theorem key_intervalRetry {B : Type} (r : IntervalRetry B) : Keyed.key r = r.msgID := rfl

@[simp] theorem key_recover {B : Type} (r : Recover B) : Keyed.key r = r.msgID := rfl

/-- The two message tables of the center. -/
structure Tables (B : Type) where
  intervalRetry : Table (IntervalRetry B)
  recover : Table (Recover B)

variable {B : Type}

/-- A row or a message whose `isIntervalRetryValid` and `isRecoverValid` checks on the queue name
and the business message pass. -/
def hasContent [BusinessMsg B] (retryQueueName : String) (businessMsg : B) : Bool :=
  retryQueueName ≠ "" && !BusinessMsg.isEmpty businessMsg

namespace Tables

/-- The tables without rows. -/
def empty : Tables B := ⟨.empty, .empty⟩

/-- A message id is stored when it has a row in one of the tables. -/
def Stored (t : Tables B) (x : Int) : Prop :=
  t.intervalRetry.get x ≠ none ∨ t.recover.get x ≠ none

instance (t : Tables B) (x : Int) : Decidable (t.Stored x) :=
  inferInstanceAs (Decidable (¬ _ ∨ ¬ _))

end Tables

end MRF.Center
