import MRF.Center.Process
import MRF.Library.Prog

/-!
# Center — RecoverService

`MRFRecoverService`: the admin page deletes recover records, one or many, and recovers them.  A
request runs statement by statement, and other requests and messages come in between, so the
methods are programs over the calls they make.

`requestProtocol` follows a request through one record: read, checked out, template found, sent.
-/

namespace MRF.Center
open MRF.Library

variable {B : Type}

/-- The calls of a recover request. -/
inductive RecoverOp (B : Type) where
  | getRecover (msgID : Int)
  | checkOutRecover (msgID : Int)
  | deleteRecover (msgID : Int)
  /-- Is there a template for the queue? -/
  | getRetryRabbitTemplate (retryQueueName : String)
  | convertAndSend (routingKey : String) (m : RetryMessage B)

/-- What the calls answer. -/
def RecoverOp.Res : RecoverOp B → Type
  | .getRecover _ => Option (Recover B)
  | .checkOutRecover _ => Bool
  | .deleteRecover _ => Bool
  | .getRetryRabbitTemplate _ => Bool
  | .convertAndSend _ _ => Unit

/-- Programs of the recover service; an exception is known by its message. -/
abbrev RecoverProg (B : Type) := Prog (RecoverOp B) RecoverOp.Res String

/-- The answer to a request for one record. -/
structure ProcessResult where
  msgID : Int
  successFlag : Bool
  failedMsg : Option String
  deriving DecidableEq, Repr

/-- The answer to a request for several records. -/
structure BatchProcessResult where
  successFlag : Bool
  summaryMsg : Option String
  errorMsgIDs : List Int
  failedMsgs : List String
  deriving DecidableEq, Repr

namespace MRFRecoverService

def getRecover (msgID : Int) : RecoverProg B (Option (Recover B)) :=
  Prog.perform (RecoverOp.getRecover msgID)

def checkOutRecover (msgID : Int) : RecoverProg B Bool :=
  Prog.perform (RecoverOp.checkOutRecover msgID)

def deleteRecover (msgID : Int) : RecoverProg B Bool := Prog.perform (RecoverOp.deleteRecover msgID)

def getRetryRabbitTemplate (retryQueueName : String) : RecoverProg B Bool :=
  Prog.perform (RecoverOp.getRetryRabbitTemplate retryQueueName)

def convertAndSend (routingKey : String) (m : RetryMessage B) : RecoverProg B Unit :=
  Prog.perform (RecoverOp.convertAndSend routingKey m)

/-- The message that is sent for a record. -/
def constructRetryMessage (r : Recover B) : RetryMessage B :=
  { msgID := r.msgID, retryQueueName := r.retryQueueName, businessMsg := r.businessMsg,
    retryInterval := r.retryInterval, retriedTimes := r.retriedTimes,
    maxRetryTimes := r.maxRetryTimes, messageFlag := .defaultMsgFlag, isFromRecover := true }

/-- Check out, construct and send: the `try` block of both recover methods.  What
`checkOutRecover` answers is not looked at; the result says whether there was a template. -/
def checkOutAndSend (msgID : Int) (recover : Recover B) : RecoverProg B Bool := do
  let _ ← checkOutRecover msgID
  if ← getRetryRabbitTemplate recover.retryQueueName then
    convertAndSend recover.retryQueueName (constructRetryMessage recover)
    return true
  else
    return false

/-- The record is checked out first, and then sent. -/
def doRecoverRecord (msgID : Int) : RecoverProg B ProcessResult := do
  match ← getRecover msgID with
  | some recover =>
      try
        pure ⟨msgID, ← checkOutAndSend msgID recover, none⟩
      catch ex => pure ⟨msgID, false, some ex⟩
  | none => return ⟨msgID, false, some "There is no corresponding recover record!"⟩

/-- The result of a batch, from the ids that failed and their messages. -/
def batchResult (errors : List (Int × String)) : BatchProcessResult :=
  ⟨errors.isEmpty, none, errors.map Prod.fst, errors.map Prod.snd⟩

/-- The loop of `doBatchRecoverRecords`.  What `getRecover` throws ends it. -/
def recoverAll : List Int → List (Int × String) → RecoverProg B (List (Int × String))
  | [], errors => return errors
  | msgID :: msgIDs, errors => do
      match ← getRecover msgID with
      | some recover =>
          let failed ←
            try
              let _ ← checkOutAndSend msgID recover
              pure []
            catch ex => pure [(msgID, ex)]
          recoverAll msgIDs (errors ++ failed)
      | none => recoverAll msgIDs errors

/-- One record after the other. -/
def doBatchRecoverRecords (msgIDs : List Int) : RecoverProg B BatchProcessResult := do
  if msgIDs.isEmpty then
    return ⟨false, some "msgIDs is null or empty!", [], []⟩
  return batchResult (← recoverAll msgIDs [])

def deleteRecoverRecord (msgID : Int) : RecoverProg B ProcessResult := do
  try
    let _ ← deleteRecover msgID
    pure ⟨msgID, true, none⟩
  catch ex => pure ⟨msgID, false, some ex⟩

/-- The loop of `batchDeleteRecoverRecords`. -/
def deleteAll : List Int → List (Int × String) → RecoverProg B (List (Int × String))
  | [], errors => return errors
  | msgID :: msgIDs, errors => do
      let failed ←
        try
          let _ ← deleteRecover msgID
          pure []
        catch ex => pure [(msgID, ex)]
      deleteAll msgIDs (errors ++ failed)

/-- One record after the other. -/
def batchDeleteRecoverRecords (msgIDs : List Int) : RecoverProg B BatchProcessResult := do
  if msgIDs.isEmpty then
    return ⟨false, some "msgIDs is null or empty!", [], []⟩
  return batchResult (← deleteAll msgIDs [])

end MRFRecoverService

/-- The requests of the admin page.  The source has these ids as `int` and the ids of the rows as
`long`; no request computes with an id, so any integer may be asked for here. -/
inductive AdminRequest where
  | doRecoverRecord (msgID : Int)
  | doBatchRecoverRecords (msgIDs : List Int)
  | deleteRecoverRecord (msgID : Int)
  | batchDeleteRecoverRecords (msgIDs : List Int)
  deriving DecidableEq, Repr

/-- The program of a request; its result goes to the page. -/
def AdminRequest.run : AdminRequest → RecoverProg B (ProcessResult ⊕ BatchProcessResult)
  | .doRecoverRecord msgID => return .inl (← MRFRecoverService.doRecoverRecord msgID)
  | .doBatchRecoverRecords msgIDs => return .inr (← MRFRecoverService.doBatchRecoverRecords msgIDs)
  | .deleteRecoverRecord msgID => return .inl (← MRFRecoverService.deleteRecoverRecord msgID)
  | .batchDeleteRecoverRecords msgIDs =>
      return .inr (← MRFRecoverService.batchDeleteRecoverRecords msgIDs)

/-! ### The protocol of a request -/

/-- How far a request is with a record. -/
inductive RequestState (B : Type) where
  | idle
  /-- `getRecover` answered the record. -/
  | got (r : Recover B)
  /-- `checkOutRecover` returned. -/
  | out (r : Recover B)
  /-- There is a template to send the record with. -/
  | ready (r : Recover B)

open MRFRecoverService in
/-- A record is sent as it was read, after it was checked out, and a request is not left, nor
goes on to the next record, between a check-out and the look for the template. -/
def requestProtocol : Protocol (RecoverOp B) RecoverOp.Res String (RequestState B) where
  allows
    | .idle, .getRecover _ => True
    | .idle, .deleteRecover _ => True
    | .got r, .checkOutRecover x => x = r.msgID ∧ 0 < x
    | .out r, .getRetryRabbitTemplate q => q = r.retryQueueName
    | .ready r, .convertAndSend k m => k = r.retryQueueName ∧ m = constructRetryMessage r
    | _, _ => False
  answers
    | _, .getRecover x, .ok (some r) => r.msgID = x ∧ 0 < x
    | _, .getRetryRabbitTemplate _, .error _ => False
    | _, _, _ => True
  next
    | _, .getRecover _, .ok (some r) => .got r
    | .got r, .checkOutRecover _, .ok _ => .out r
    | .out r, .getRetryRabbitTemplate _, .ok true => .ready r
    | _, _, _ => .idle

/-- A record is out since its check-out returned. -/
theorem requestProtocol_next {st : RequestState B} {op : RecoverOp B}
    {res : Except String op.Res} {r : Recover B} (h : requestProtocol.allows st op)
    (hr : requestProtocol.next st op res = .out r ∨ requestProtocol.next st op res = .ready r) :
    st = .out r ∨ st = .got r ∧ op = .checkOutRecover r.msgID ∧ 0 < r.msgID ∧
      ∃ b, res = .ok b := by
  cases st with
  | idle =>
      cases op with
      | getRecover x =>
          rcases res with e | _ | r' <;> exact hr.elim nofun nofun
      | deleteRecover x => exact hr.elim nofun nofun
      | _ => exact h.elim
  | got r' =>
      cases op with
      | checkOutRecover x =>
          cases res with
          | error e => exact hr.elim nofun nofun
          | ok b =>
              rcases hr with hr | hr
              · cases hr
                exact .inr ⟨rfl, congrArg _ h.1, h.1 ▸ h.2, b, rfl⟩
              · cases hr
      | _ => exact h.elim
  | out r' =>
      cases op with
      | getRetryRabbitTemplate q =>
          rcases res with e | _ | _
          · exact hr.elim nofun nofun
          · exact hr.elim nofun nofun
          · rcases hr with hr | hr
            · cases hr
            · cases hr
              exact .inl rfl
      | _ => exact h.elim
  | ready r' =>
      cases op with
      | convertAndSend k m => exact hr.elim nofun nofun
      | _ => exact h.elim

open MRFRecoverService

/-- What is sent is the record that is out, and it is not out any more. -/
theorem requestProtocol_send {st : RequestState B} {k : String} {m : RetryMessage B}
    (h : requestProtocol.allows st (.convertAndSend k m)) :
    ∃ r, st = .ready r ∧ k = r.retryQueueName ∧ m = constructRetryMessage r ∧
      ∀ res, requestProtocol.next st (.convertAndSend k m) res = .idle := by
  cases st with
  | ready r => exact ⟨r, rfl, h.1, h.2, fun _ => rfl⟩
  | _ => exact h.elim

/-- The `try` block of a record leaves the request idle, on every path. -/
theorem wp_checkOutAndSend {Q : RequestState B → Bool → Prop} {E : RequestState B → String → Prop}
    (r : Recover B) (hr : 0 < r.msgID) (hQ : ∀ b, Q .idle b) (hE : ∀ ex, E .idle ex) :
    wp requestProtocol Q E (.got r) (checkOutAndSend r.msgID r) := by
  unfold checkOutAndSend checkOutRecover
  refine (wp_bind ..).mpr ((wp_perform ..).mpr ⟨⟨rfl, hr⟩, fun _ _ => ?_, fun ex _ => hE ex⟩)
  refine (wp_bind ..).mpr ((wp_perform ..).mpr ⟨rfl, fun found _ => ?_, fun ex h => h.elim⟩)
  cases found with
  | false => exact hQ false
  | true =>
      exact (wp_bind ..).mpr
        ((wp_perform ..).mpr ⟨⟨rfl, rfl⟩, fun _ _ => hQ true, fun ex _ => hE ex⟩)

/-- Read a record, and handle it if there is one: the two recover methods, up to what they do
with an exception. -/
theorem wp_getRecover {α : Type} {Q : RequestState B → α → Prop}
    {E : RequestState B → String → Prop}
    (msgID : Int) {f : Option (Recover B) → RecoverProg B α}
    (hnone : wp requestProtocol Q E .idle (f none))
    (hsome : ∀ r : Recover B, r.msgID = msgID → 0 < r.msgID →
      wp requestProtocol Q E (.got r) (f (some r)))
    (hE : ∀ ex, E .idle ex) : wp requestProtocol Q E .idle (getRecover msgID >>= f) := by
  refine (wp_bind ..).mpr ((wp_perform ..).mpr ⟨trivial, fun found h => ?_, fun ex _ => hE ex⟩)
  cases found with
  | none => exact hnone
  | some r => exact hsome r h.1 (h.1 ▸ h.2)

theorem wp_doRecoverRecord {Q : RequestState B → ProcessResult → Prop}
    {E : RequestState B → String → Prop} (msgID : Int) (hQ : ∀ res, Q .idle res)
    (hE : ∀ ex, E .idle ex) : wp requestProtocol Q E .idle (doRecoverRecord msgID) := by
  refine wp_getRecover msgID (hQ _) (fun r hr hpos => ?_) hE
  subst hr
  refine (wp_tryCatch ..).mpr ((wp_bind ..).mpr (wp_checkOutAndSend r hpos ?_ ?_))
  · exact fun _ => hQ _
  · exact fun _ => hQ _

theorem wp_recoverAll {Q : RequestState B → List (Int × String) → Prop}
    {E : RequestState B → String → Prop} (msgIDs : List Int) (errors : List (Int × String))
    (hQ : ∀ errors, Q .idle errors) (hE : ∀ ex, E .idle ex) :
    wp requestProtocol Q E .idle (recoverAll msgIDs errors) := by
  induction msgIDs generalizing errors with
  | nil => exact hQ errors
  | cons msgID msgIDs ih =>
      refine wp_getRecover msgID (ih errors) (fun r hr hpos => ?_) hE
      subst hr
      refine (wp_bind ..).mpr ((wp_tryCatch ..).mpr ((wp_bind ..).mpr ?_))
      refine wp_checkOutAndSend r hpos ?_ ?_
      · exact fun _ => ih _
      · exact fun _ => ih _

theorem wp_deleteAll {Q : RequestState B → List (Int × String) → Prop}
    {E : RequestState B → String → Prop} (msgIDs : List Int) (errors : List (Int × String))
    (hQ : ∀ errors, Q .idle errors) : wp requestProtocol Q E .idle (deleteAll msgIDs errors) := by
  induction msgIDs generalizing errors with
  | nil => exact hQ errors
  | cons msgID msgIDs ih =>
      refine (wp_bind ..).mpr ((wp_tryCatch ..).mpr ((wp_bind ..).mpr ((wp_perform ..).mpr ?_)))
      exact ⟨trivial, fun _ _ => ih _, fun _ _ => ih _⟩

/-- **Every request keeps to the protocol**, and leaves no record between a check-out and the
look for its template. -/
theorem AdminRequest.run_conforms (request : AdminRequest) :
    wp requestProtocol (fun s _ => s = .idle) (fun s _ => s = .idle) .idle
      (request.run : RecoverProg B _) := by
  cases request with
  | doRecoverRecord msgID =>
      exact (wp_bind ..).mpr (wp_doRecoverRecord msgID (fun _ => rfl) fun _ => rfl)
  | doBatchRecoverRecords msgIDs =>
      refine (wp_bind ..).mpr (iteInduction (motive := wp _ _ _ _) (fun _ => rfl) fun _ => ?_)
      exact (wp_bind ..).mpr (wp_recoverAll msgIDs [] (fun _ => rfl) fun _ => rfl)
  | deleteRecoverRecord msgID =>
      refine (wp_bind ..).mpr ((wp_tryCatch ..).mpr ((wp_bind ..).mpr ((wp_perform ..).mpr ?_)))
      exact ⟨trivial, fun _ _ => rfl, fun _ _ => rfl⟩
  | batchDeleteRecoverRecords msgIDs =>
      refine (wp_bind ..).mpr (iteInduction (motive := wp _ _ _ _) (fun _ => rfl) fun _ => ?_)
      exact (wp_bind ..).mpr (wp_deleteAll msgIDs [] fun _ => rfl)

end MRF.Center
