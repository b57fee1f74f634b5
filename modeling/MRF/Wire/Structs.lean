import MRF.Library.Struct
import MRF.Center.Register
import MRF.Core.Message

/-!
# Wire — Structs

The structs of the RPC between a client and the center, as they are generated: `QueueConfig`,
`RetryMessage`, and the arguments and results of the two methods of `MRFService`.  `Class` lists
the six.

A null reference is `none`.  A field of a primitive type has a flag in `__isset_bitfield`, which is
a field of its own here.  `validate` checks nothing in any of the six, and is left out.
-/

namespace MRF.Wire
open MRF.Library

/-- The generated struct; a primitive field has a flag. -/
structure QueueConfig where
  queueName : Option String
  host : Option String
  port : Int32
  isSetPort : Bool
  username : Option String
  password : Option String
  deriving DecidableEq, Repr

namespace QueueConfig

/-- `new QueueConfig()` -/
def fresh : QueueConfig := ⟨none, none, 0, false, none, none⟩

def fields : List (StructField QueueConfig) :=
  [.nullable 1 .string queueName fun v s => { s with queueName := some v },
    .nullable 2 .string host fun v s => { s with host := some v },
    .primitive 3 .i32 port isSetPort fun v s => { s with port := v, isSetPort := true },
    .nullable 4 .string username fun v s => { s with username := some v },
    .nullable 5 .string password fun v s => { s with password := some v }]

def struct : Struct QueueConfig where
  fresh
  fields
  apart := by
    simp [fields, StructField.Apart, StructField.KeptBy, StructField.nullable,
      StructField.primitive]

/-- `new QueueConfig(queueName, connectionConfig)` -/
def new (c : Center.QueueConfig) : QueueConfig :=
  { queueName := some c.queueName, host := some c.host, port := c.port, isSetPort := true,
    username := some c.username, password := some c.password }

end QueueConfig

/-- The generated struct; a primitive field has a flag. -/
structure RetryMessage where
  msgID : Int64
  isSetMsgID : Bool
  retryQueueName : Option String
  businessMsg : Option String
  retryInterval : Int64
  isSetRetryInterval : Bool
  retriedTimes : Int32
  isSetRetriedTimes : Bool
  maxRetryTimes : Int32
  isSetMaxRetryTimes : Bool
  messageFlag : Int32
  isSetMessageFlag : Bool
  isFromRecover : Bool
  isSetIsFromRecover : Bool
  deriving DecidableEq, Repr

namespace RetryMessage

/-- `new RetryMessage()` -/
def fresh : RetryMessage :=
  { msgID := 0, isSetMsgID := false, retryQueueName := none, businessMsg := none,
    retryInterval := 0, isSetRetryInterval := false, retriedTimes := 0,
    isSetRetriedTimes := false, maxRetryTimes := 0, isSetMaxRetryTimes := false,
    messageFlag := 0, isSetMessageFlag := false, isFromRecover := false,
    isSetIsFromRecover := false }

def fields : List (StructField RetryMessage) :=
  [.primitive 1 .i64 msgID isSetMsgID fun v s => { s with msgID := v, isSetMsgID := true },
    .nullable 2 .string retryQueueName fun v s => { s with retryQueueName := some v },
    .nullable 3 .string businessMsg fun v s => { s with businessMsg := some v },
    .primitive 4 .i64 retryInterval isSetRetryInterval fun v s =>
      { s with retryInterval := v, isSetRetryInterval := true },
    .primitive 5 .i32 retriedTimes isSetRetriedTimes fun v s =>
      { s with retriedTimes := v, isSetRetriedTimes := true },
    .primitive 6 .i32 maxRetryTimes isSetMaxRetryTimes fun v s =>
      { s with maxRetryTimes := v, isSetMaxRetryTimes := true },
    .primitive 7 .i32 messageFlag isSetMessageFlag fun v s =>
      { s with messageFlag := v, isSetMessageFlag := true },
    .primitive 8 .bool isFromRecover isSetIsFromRecover fun v s =>
      { s with isFromRecover := v, isSetIsFromRecover := true }]

def struct : Struct RetryMessage where
  fresh
  fields
  apart := by
    simp [fields, StructField.Apart, StructField.KeptBy, StructField.nullable,
      StructField.primitive]

end RetryMessage

/-- `MRFService.registerRetryService_args` -/
structure RegisterRetryServiceArgs where
  host : Option String
  port : Int32
  isSetPort : Bool
  username : Option String
  password : Option String
  retryQueueName : Option String
  clientServiceName : Option String
  deriving DecidableEq, Repr

namespace RegisterRetryServiceArgs

def fresh : RegisterRetryServiceArgs := ⟨none, 0, false, none, none, none, none⟩

def fields : List (StructField RegisterRetryServiceArgs) :=
  [.nullable 1 .string host fun v s => { s with host := some v },
    .primitive 2 .i32 port isSetPort fun v s => { s with port := v, isSetPort := true },
    .nullable 3 .string username fun v s => { s with username := some v },
    .nullable 4 .string password fun v s => { s with password := some v },
    .nullable 5 .string retryQueueName fun v s => { s with retryQueueName := some v },
    .nullable 6 .string clientServiceName fun v s => { s with clientServiceName := some v }]

def struct : Struct RegisterRetryServiceArgs where
  fresh
  fields
  apart := by
    simp [fields, StructField.Apart, StructField.KeptBy, StructField.nullable,
      StructField.primitive]

end RegisterRetryServiceArgs

/-- `MRFService.registerRetryService_result` -/
structure RegisterRetryServiceResult where
  success : Option QueueConfig
  deriving DecidableEq, Repr

namespace RegisterRetryServiceResult

def fresh : RegisterRetryServiceResult := ⟨none⟩

def fields : List (StructField RegisterRetryServiceResult) :=
  [.nullable 0 QueueConfig.struct.coded success fun v s => { s with success := some v }]

def struct : Struct RegisterRetryServiceResult where
  fresh
  fields
  apart := List.pairwise_singleton _ _

end RegisterRetryServiceResult

/-- `MRFService.process_args` -/
structure ProcessArgs where
  retryMessage : Option RetryMessage
  deriving DecidableEq, Repr

namespace ProcessArgs

def fresh : ProcessArgs := ⟨none⟩

def fields : List (StructField ProcessArgs) :=
  [.nullable 1 RetryMessage.struct.coded retryMessage fun v s => { s with retryMessage := some v }]

def struct : Struct ProcessArgs where
  fresh
  fields
  apart := List.pairwise_singleton _ _

end ProcessArgs

/-- `MRFService.process_result` -/
structure ProcessResult where
  deriving DecidableEq, Repr

namespace ProcessResult

def struct : Struct ProcessResult where
  fresh := {}
  fields := []
  apart := .nil

end ProcessResult

/-! ### The six -/

/-- The six generated classes. -/
inductive Class where
  | queueConfig
  | retryMessage
  | registerRetryServiceArgs
  | registerRetryServiceResult
  | processArgs
  | processResult
  deriving DecidableEq, Repr

namespace Class

/-- The instances of a class. -/
def Instance : Class → Type
  | .queueConfig => QueueConfig
  | .retryMessage => RetryMessage
  | .registerRetryServiceArgs => RegisterRetryServiceArgs
  | .registerRetryServiceResult => RegisterRetryServiceResult
  | .processArgs => ProcessArgs
  | .processResult => ProcessResult

def struct : (c : Class) → Struct c.Instance
  | .queueConfig => QueueConfig.struct
  | .retryMessage => RetryMessage.struct
  | .registerRetryServiceArgs => RegisterRetryServiceArgs.struct
  | .registerRetryServiceResult => RegisterRetryServiceResult.struct
  | .processArgs => ProcessArgs.struct
  | .processResult => ProcessResult.struct

end Class

end MRF.Wire
