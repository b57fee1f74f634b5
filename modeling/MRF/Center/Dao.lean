import MRF.Center.Domain

/-!
# Center — Dao

The data access objects, as programs over a database session.  A session holds the tables
and what is left of the fault schedule: at each statement the database may raise, and the DAO
then throws a `DAOException`.  A statement on its own is atomic; `transactional` is the Spring
proxy around a DAO method, which rolls a throwing transaction back.

Each DAO method has the name and the early returns of its source.
-/

namespace MRF.Center
open MRF.Library

variable {σ : Type}

/-- `DAOException`, with the statement that raised it. -/
structure DAOException where
  statementName : String
  deriving DecidableEq, Repr

/-- A database session: the tables, and for each statement to come whether it raises.  Past the
end of the schedule no statement raises. -/
structure Session (σ : Type) where
  tables : σ
  faults : List Bool

/-- Programs of the DAO layer, over tables `σ`. -/
def Dao (σ : Type) (α : Type) : Type := Session σ → Except DAOException (α × Session σ)

namespace Dao

instance : Monad (Dao σ) where
  pure a := fun s => .ok (a, s)
  bind d f := fun s => match d s with
    | .ok (a, s') => f a s'
    | .error e => .error e

@[simp] theorem bind_apply {α β : Type} (d : Dao σ α) (f : α → Dao σ β) (s : Session σ) :
    (d >>= f) s = match d s with
      | .ok (a, s') => f a s'
      | .error e => .error e := rfl

/-- `execute(statementName, …)`: one statement, `none` when it meets a duplicate key.  Whatever
the database raises comes out as a `DAOException`. -/
def execute {α : Type} (statementName : String) (stmt : σ → Option (α × σ)) :
    Dao σ α := fun s =>
  match s.faults with
  | true :: _ => .error ⟨statementName⟩
  | faults =>
      match stmt s.tables with
      | none => .error ⟨statementName⟩
      | some (a, t) => .ok (a, ⟨t, faults.tail⟩)

/-- The `@Transactional` proxy: commit on return, roll back on a throw. -/
def transactional {α : Type} (d : Dao σ α) (faults : List Bool) (t : σ) :
    Except DAOException α × σ :=
  match d ⟨t, faults⟩ with
  | .ok (a, s) => (.ok a, s.tables)
  | .error e => (.error e, t)

/-- A statement that completes has run, and met no duplicate key. -/
theorem execute_ok {α : Type} {name : String} {stmt : σ → Option (α × σ)}
    {s s' : Session σ} {a : α} (h : execute name stmt s = .ok (a, s')) :
    stmt s.tables = some (a, s'.tables) := by
  unfold execute at h
  split at h
  · cases h
  · split at h
    · cases h
    · next hs => cases h; exact hs

/-- A statement that works is not the one that fails. -/
theorem execute_ok_faults {α : Type} {name : String} {stmt : σ → Option (α × σ)}
    {s s' : Session σ} {a : α} (h : execute name stmt s = .ok (a, s')) :
    s.faults.head? ≠ some true := by
  unfold execute at h
  split at h
  · cases h
  · next hf => cases hs : s.faults <;> simp_all

/-- Without faults a statement completes unless it meets a duplicate key. -/
theorem execute_nil {α : Type} (name : String) (stmt : σ → Option (α × σ))
    (t : σ) : execute name stmt ⟨t, []⟩ = match stmt t with
      | none => .error ⟨name⟩
      | some (a, t') => .ok (a, ⟨t', []⟩) := rfl

/-- A sequence that works is two calls that work. -/
theorem bind_ok {α β : Type} {d : Dao σ α} {f : α → Dao σ β} {s s' : Session σ} {b : β}
    (h : (d >>= f) s = .ok (b, s')) : ∃ a s₁, d s = .ok (a, s₁) ∧ f a s₁ = .ok (b, s') := by
  rw [bind_apply] at h
  split at h
  · exact ⟨_, _, ‹_›, h⟩
  · cases h

/-- A transaction either commits what its program did or leaves the tables as they were. -/
theorem transactional_cases {α : Type} (d : Dao σ α) (faults : List Bool) (t : σ) :
    (∃ a s, d ⟨t, faults⟩ = .ok (a, s) ∧ transactional d faults t = (.ok a, s.tables)) ∨
      ∃ e, transactional d faults t = (.error e, t) := by
  unfold transactional
  cases h : d ⟨t, faults⟩ with
  | ok p => exact .inl ⟨p.1, p.2, rfl, rfl⟩
  | error e => exact .inr ⟨e, rfl⟩

end Dao

open Dao

variable {B : Type}

/-! ### Writing to one table -/

namespace Tables

def setIntervalRetry (t : Tables B) (u : Table (IntervalRetry B)) : Tables B :=
  { t with intervalRetry := u }

def setRecover (t : Tables B) (u : Table (Recover B)) : Tables B := { t with recover := u }

@[simp] theorem setIntervalRetry_intervalRetry (t : Tables B) (u : Table (IntervalRetry B)) :
    (t.setIntervalRetry u).intervalRetry = u := rfl

@[simp] theorem setIntervalRetry_recover (t : Tables B) (u : Table (IntervalRetry B)) :
    (t.setIntervalRetry u).recover = t.recover := rfl

@[simp] theorem setRecover_recover (t : Tables B) (u : Table (Recover B)) :
    (t.setRecover u).recover = u := rfl

@[simp] theorem setRecover_intervalRetry (t : Tables B) (u : Table (Recover B)) :
    (t.setRecover u).intervalRetry = t.intervalRetry := rfl

end Tables

/-! ### IntervalRetryDAO -/

namespace IntervalRetryDAO

variable [BusinessMsg B]

/-- What may be stored in `interval_retry`. -/
def isIntervalRetryValid (r : IntervalRetry B) : Bool :=
  0 < r.msgID && hasContent r.retryQueueName r.businessMsg

/-- The row `addIntervalRetry` inserts: `IFNULL(…, CURRENT_TIMESTAMP)` for the last two. -/
def insertedRow (now : Datetime) (r : IntervalRetry B) : IntervalRetry B :=
  { r with updatedAt := some (r.updatedAt.getD now), createdAt := some (r.createdAt.getD now) }

omit [BusinessMsg B] in
@[simp] theorem insertedRow_msgID (now : Datetime) (r : IntervalRetry B) :
    (insertedRow now r).msgID = r.msgID := rfl

/-- An invalid row is refused without a statement. -/
def addIntervalRetry (now : Datetime) (r : IntervalRetry B) : Dao (Tables B) Bool :=
  if !isIntervalRetryValid r then pure false
  else execute "addIntervalRetry" fun t =>
    (t.intervalRetry.insert (insertedRow now r)).map fun u => (true, t.setIntervalRetry u)

/-- Without faults a valid row under a new id is inserted. -/
theorem addIntervalRetry_nil {now : Datetime} {r : IntervalRetry B} {t : Tables B}
    {u : Table (IntervalRetry B)} (hv : isIntervalRetryValid r = true)
    (hu : t.intervalRetry.insert (insertedRow now r) = some u) :
    addIntervalRetry now r ⟨t, []⟩ = .ok (true, ⟨t.setIntervalRetry u, []⟩) := by
  unfold addIntervalRetry
  rw [hv, Bool.not_true, if_neg Bool.false_ne_true, execute_nil, hu]
  rfl

/-- Whether a row was deleted. -/
def deleteIntervalRetry (msgID : Int) : Dao (Tables B) Bool :=
  if msgID ≤ 0 then pure false
  else execute "deleteIntervalRetry" fun t =>
    some ((t.intervalRetry.get msgID).isSome, t.setIntervalRetry (t.intervalRetry.delete msgID))

def batchDeleteIntervalRetries (msgIDs : List Int) : Dao (Tables B) Unit :=
  if msgIDs.isEmpty then pure ()
  else execute "deleteIntervalRetry" fun t =>
    some ((), t.setIntervalRetry (t.intervalRetry.deleteAll msgIDs))

/-- The new values of `checkinIntervalRetry`, on the row they are written to. -/
def checkedIn (now : Datetime) (r old : IntervalRetry B) : IntervalRetry B :=
  { r with msgID := old.msgID, retryState := .toRetry, updatedAt := some now }

omit [BusinessMsg B] in
@[simp] theorem checkedIn_msgID (now : Datetime) (r old : IntervalRetry B) :
    (checkedIn now r old).msgID = old.msgID := rfl

/-- An invalid row is refused without a statement. -/
def checkinIntervalRetry (now : Datetime) (r : IntervalRetry B) : Dao (Tables B) Bool :=
  if !isIntervalRetryValid r then pure false
  else execute "checkinIntervalRetry" fun t =>
    some ((t.intervalRetry.get r.msgID).isSome,
      t.setIntervalRetry (t.intervalRetry.update r.msgID (checkedIn now r) (checkedIn_msgID now r)))

/-- The new values of `checkOutIntervalRetry`, for a row that meets `retry_state = 0`. -/
def checkedOut (now : Datetime) (r : IntervalRetry B) : IntervalRetry B :=
  if r.retryState = .toRetry then
    { r with retryState := .inRetry, checkoutAt := some now, updatedAt := some now }
  else r

omit [BusinessMsg B] in
@[simp] theorem checkedOut_msgID (now : Datetime) (r : IntervalRetry B) :
    (checkedOut now r).msgID = r.msgID := by
  unfold checkedOut; split <;> rfl

/-- Whether a row was checked out. -/
def checkOutIntervalRetry (now : Datetime) (msgID : Int) : Dao (Tables B) Bool :=
  if msgID ≤ 0 then pure false
  else execute "checkOutIntervalRetry" fun t =>
    some ((t.intervalRetry.get msgID).any fun r => r.retryState = .toRetry,
      t.setIntervalRetry (t.intervalRetry.update msgID (checkedOut now) (checkedOut_msgID now)))

end IntervalRetryDAO

/-! ### RecoverDAO -/

namespace RecoverDAO

def getRecover (msgID : Int) : Dao (Tables B) (Option (Recover B)) :=
  if msgID ≤ 0 then pure none
  else execute "getRecover" fun t => some (t.recover.get msgID, t)

/-- The row `addRecover` inserts. -/
def insertedRow (now : Datetime) (r : Recover B) : Recover B :=
  { r with updatedAt := some (r.updatedAt.getD now), createdAt := some (r.createdAt.getD now) }

@[simp] theorem insertedRow_msgID (now : Datetime) (r : Recover B) :
    (insertedRow now r).msgID = r.msgID := rfl

/-- What may be stored in `recover`. -/
def isRecoverValid [BusinessMsg B] (r : Recover B) : Bool :=
  0 < r.msgID && hasContent r.retryQueueName r.businessMsg

/-- An invalid row is refused without a statement. -/
def addRecover [BusinessMsg B] (now : Datetime) (r : Recover B) : Dao (Tables B) Bool :=
  if !isRecoverValid r then pure false
  else execute "addRecover" fun t =>
    (t.recover.insert (insertedRow now r)).map fun u => (true, t.setRecover u)

/-- Without faults a valid row under a new id is inserted. -/
theorem addRecover_nil [BusinessMsg B] {now : Datetime} {r : Recover B} {t : Tables B}
    {u : Table (Recover B)} (hv : isRecoverValid r = true)
    (hu : t.recover.insert (insertedRow now r) = some u) :
    addRecover now r ⟨t, []⟩ = .ok (true, ⟨t.setRecover u, []⟩) := by
  unfold addRecover
  rw [hv, Bool.not_true, if_neg Bool.false_ne_true, execute_nil, hu]
  rfl

/-- No validity check here: `batchAddRecovers` has none. -/
def batchAddRecovers (now : Datetime) (rs : List (Recover B)) : Dao (Tables B) Unit :=
  if rs.isEmpty then pure ()
  else execute "addRecover" fun t =>
    (t.recover.insertAll (rs.map (insertedRow now))).map fun u => ((), t.setRecover u)

/-- Whether a row was deleted. -/
def deleteRecover (msgID : Int) : Dao (Tables B) Bool :=
  if msgID ≤ 0 then pure false
  else execute "deleteRecover" fun t =>
    some ((t.recover.get msgID).isSome, t.setRecover (t.recover.delete msgID))

/-- The new values of `checkInRecover`. -/
def checkedIn (now : Datetime) (r : Recover B) : Recover B :=
  { r with recoverState := .toRecover, updatedAt := some now }

@[simp] theorem checkedIn_msgID (now : Datetime) (r : Recover B) :
    (checkedIn now r).msgID = r.msgID := rfl

/-- Whether a row was checked in. -/
def checkInRecover (now : Datetime) (msgID : Int) : Dao (Tables B) Bool :=
  if msgID ≤ 0 then pure false
  else execute "checkInRecover" fun t =>
    some ((t.recover.get msgID).isSome,
      t.setRecover (t.recover.update msgID (checkedIn now) (checkedIn_msgID now)))

/-- The new values of `checkOutRecover`.  Its `WHERE` clause asks for the id alone. -/
def checkedOut (now : Datetime) (r : Recover B) : Recover B :=
  { r with recoverState := .inRecover, checkoutAt := some now, updatedAt := some now }

@[simp] theorem checkedOut_msgID (now : Datetime) (r : Recover B) :
    (checkedOut now r).msgID = r.msgID := rfl

/-- Whether a row was checked out. -/
def checkOutRecover (now : Datetime) (msgID : Int) : Dao (Tables B) Bool :=
  if msgID ≤ 0 then pure false
  else execute "checkOutRecover" fun t =>
    some ((t.recover.get msgID).isSome,
      t.setRecover (t.recover.update msgID (checkedOut now) (checkedOut_msgID now)))

end RecoverDAO

/-! ### JoinDAO -/

namespace JoinDAO

/-- `new Recover(msgID, TO_RECOVER, …)`, the constructor without timestamps. -/
def newRecover (msgID : Int) (retryQueueName : String) (businessMsg : B) (retryInterval : Int64)
    (retriedTimes maxRetryTimes : Int32) : Recover B :=
  { msgID, retryQueueName, businessMsg, retryInterval, retriedTimes, maxRetryTimes,
    checkoutAt := none, updatedAt := none, createdAt := none, recoverState := .toRecover }

@[simp] theorem newRecover_msgID (msgID : Int) (q : String) (b : B) (i : Int64) (n k : Int32) :
    (newRecover msgID q b i n k).msgID = msgID := rfl

/-- What `addRecover` answers is not looked at. -/
def doIntervalMessageRecover [BusinessMsg B] (now : Datetime) (m : RetryMessage B) :
    Dao (Tables B) Bool := do
  if ← IntervalRetryDAO.deleteIntervalRetry m.msgID then
    let _ ← RecoverDAO.addRecover now (newRecover m.msgID m.retryQueueName m.businessMsg
      m.retryInterval m.retriedTimes m.maxRetryTimes)
  return true

/-- The rows are inserted into `recover` first, and then deleted. -/
def doHouseKeep (now : Datetime) (recovers : List (Recover B)) (msgIDs : List Int) :
    Dao (Tables B) Unit := do
  if recovers.isEmpty || msgIDs.isEmpty || recovers.length != msgIDs.length then
    return ()
  RecoverDAO.batchAddRecovers now recovers
  IntervalRetryDAO.batchDeleteIntervalRetries msgIDs

end JoinDAO

end MRF.Center
