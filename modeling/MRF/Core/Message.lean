/-!
# Core — Message

The retry message, which travels between the clients, the center and the queues, and the flags
it carries.

No class of the framework looks into a serialized business message: it is stored, copied and
tested for emptiness.  Its type is a parameter `B` throughout; the source's is `String`.
-/

namespace MRF

/-- Serialized business messages, with `StringUtils.isEmpty`. -/
class BusinessMsg (B : Type) where
  isEmpty : B → Bool

instance : BusinessMsg String := ⟨fun s => s = ""⟩

/-- A flag on the wire is an `i32`; these are the codes that no `switch` names. -/
abbrev OtherCode := { code : Int32 // code < 1 ∨ 8 < code }

/-- The message flags of `MessageConstants`, with their codes `1` to `8`, and every other code. -/
inductive MessageFlag where
  | cleanRecover
  | cleanIntervalRetry
  | resendForRecover
  | intervalMsgDoRetry
  | immediateMsgDoRetry
  | intervalMsgDoRecover
  | immediateMsgDoRecover
  | msgDirectToRecover
  | other (code : OtherCode)
  deriving DecidableEq, Repr

/-- `MessageConstants.DEFAULT_MSG_FLAG`. -/
def MessageFlag.defaultMsgFlag : MessageFlag := .other ⟨0, by decide⟩

/-- `com.nali.mrfcore.message.RetryMessage`.  A null string of the source is the empty one here:
the code asks `StringUtils.isEmpty` of every string it tests.  Message ids are only compared. -/
structure RetryMessage (B : Type) where
  msgID : Int
  retryQueueName : String
  businessMsg : B
  retryInterval : Int64
  retriedTimes : Int32
  maxRetryTimes : Int32
  messageFlag : MessageFlag
  isFromRecover : Bool
  deriving DecidableEq, Repr

end MRF
