import MRF.Wire.Structs

/-!
# Wire — RoundTrip

What the generated code reads, of anything that a peer can send.

* `Class.read_any`: in the standard scheme the code of each class reads every struct to its end,
  with whatever fields, in whatever order.  A field of the class ends as the last one on the wire
  that has its id and its type, and as it was if there is none; all others are passed over.
* `Class.round_trip`: what is written is read back, in both schemes.  The standard scheme marks
  every primitive field as set (`allSet`); the tuple scheme keeps the flags, and forgets the values
  that are not set (`onlySet`).
-/

namespace MRF.Wire
open MRF.Library

namespace QueueConfig

/-- Every primitive field is marked as set. -/
def allSet (c : QueueConfig) : QueueConfig := { c with isSetPort := true }

/-- A primitive field that is not marked as set is 0 or false. -/
def onlySet (c : QueueConfig) : QueueConfig := { c with port := if c.isSetPort then c.port else 0 }

end QueueConfig

namespace RetryMessage

def allSet (m : RetryMessage) : RetryMessage :=
  { m with
    isSetMsgID := true
    isSetRetryInterval := true
    isSetRetriedTimes := true
    isSetMaxRetryTimes := true
    isSetMessageFlag := true
    isSetIsFromRecover := true }

def onlySet (m : RetryMessage) : RetryMessage :=
  { m with
    msgID := if m.isSetMsgID then m.msgID else 0
    retryInterval := if m.isSetRetryInterval then m.retryInterval else 0
    retriedTimes := if m.isSetRetriedTimes then m.retriedTimes else 0
    maxRetryTimes := if m.isSetMaxRetryTimes then m.maxRetryTimes else 0
    messageFlag := if m.isSetMessageFlag then m.messageFlag else 0
    isFromRecover := m.isSetIsFromRecover && m.isFromRecover }

end RetryMessage

namespace RegisterRetryServiceArgs

def allSet (a : RegisterRetryServiceArgs) : RegisterRetryServiceArgs := { a with isSetPort := true }

def onlySet (a : RegisterRetryServiceArgs) : RegisterRetryServiceArgs :=
  { a with port := if a.isSetPort then a.port else 0 }

end RegisterRetryServiceArgs

namespace Class

/-- Every primitive field marked as set, in the structs inside too. -/
def allSet : (c : Class) → c.Instance → c.Instance
  | .queueConfig => QueueConfig.allSet
  | .retryMessage => RetryMessage.allSet
  | .registerRetryServiceArgs => RegisterRetryServiceArgs.allSet
  | .registerRetryServiceResult => fun r => ⟨r.success.map QueueConfig.allSet⟩
  | .processArgs => fun a => ⟨a.retryMessage.map RetryMessage.allSet⟩
  | .processResult => id

/-- The values of primitive fields that are not marked as set forgotten. -/
def onlySet : (c : Class) → c.Instance → c.Instance
  | .queueConfig => QueueConfig.onlySet
  | .retryMessage => RetryMessage.onlySet
  | .registerRetryServiceArgs => RegisterRetryServiceArgs.onlySet
  | .registerRetryServiceResult => fun r => ⟨r.success.map QueueConfig.onlySet⟩
  | .processArgs => fun a => ⟨a.retryMessage.map RetryMessage.onlySet⟩
  | .processResult => id

end Class

/-! ### The fields of each class -/

namespace QueueConfig

theorem ext_fields {a b : QueueConfig}
    (h : ∀ f ∈ struct.fields, f.get a = f.get b ∧ f.isSet a = f.isSet b) : a = b := by
  simp [struct, fields, StructField.primitive, StructField.nullable] at h
  cases a
  cases b
  simp_all

theorem resent_eq (c : QueueConfig) : struct.resent c = c.allSet := by
  refine ext_fields fun f hf => ?_
  rw [(struct.get_resent hf c).1, (struct.get_resent hf c).2]
  revert f
  simp [struct, fields, StructField.primitive, StructField.nullable, fresh, allSet]

theorem unpacked_eq (c : QueueConfig) : struct.unpacked c = c.onlySet := by
  refine ext_fields fun f hf => ?_
  rw [(struct.get_unpacked hf c).1, (struct.get_unpacked hf c).2]
  revert f
  simp [struct, fields, StructField.primitive, StructField.nullable, fresh, onlySet,
    TupleScheme.sent]

end QueueConfig

namespace RetryMessage

theorem ext_fields {a b : RetryMessage}
    (h : ∀ f ∈ struct.fields, f.get a = f.get b ∧ f.isSet a = f.isSet b) : a = b := by
  simp [struct, fields, StructField.primitive, StructField.nullable] at h
  cases a
  cases b
  simp_all

theorem resent_eq (m : RetryMessage) : struct.resent m = m.allSet := by
  refine ext_fields fun f hf => ?_
  rw [(struct.get_resent hf m).1, (struct.get_resent hf m).2]
  revert f
  simp [struct, fields, StructField.primitive, StructField.nullable, fresh, allSet]

theorem unpacked_eq (m : RetryMessage) : struct.unpacked m = m.onlySet := by
  refine ext_fields fun f hf => ?_
  rw [(struct.get_unpacked hf m).1, (struct.get_unpacked hf m).2]
  revert f
  simp [struct, fields, StructField.primitive, StructField.nullable, fresh, onlySet,
    TupleScheme.sent]

end RetryMessage

namespace RegisterRetryServiceArgs

theorem ext_fields {a b : RegisterRetryServiceArgs}
    (h : ∀ f ∈ struct.fields, f.get a = f.get b ∧ f.isSet a = f.isSet b) : a = b := by
  simp [struct, fields, StructField.primitive, StructField.nullable] at h
  cases a
  cases b
  simp_all

theorem resent_eq (a : RegisterRetryServiceArgs) : struct.resent a = a.allSet := by
  refine ext_fields fun f hf => ?_
  rw [(struct.get_resent hf a).1, (struct.get_resent hf a).2]
  revert f
  simp [struct, fields, StructField.primitive, StructField.nullable, fresh, allSet]

theorem unpacked_eq (a : RegisterRetryServiceArgs) : struct.unpacked a = a.onlySet := by
  refine ext_fields fun f hf => ?_
  rw [(struct.get_unpacked hf a).1, (struct.get_unpacked hf a).2]
  revert f
  simp [struct, fields, StructField.primitive, StructField.nullable, fresh, onlySet,
    TupleScheme.sent]

end RegisterRetryServiceArgs

namespace RegisterRetryServiceResult

theorem ext_fields {a b : RegisterRetryServiceResult}
    (h : ∀ f ∈ struct.fields, f.get a = f.get b ∧ f.isSet a = f.isSet b) : a = b := by
  simp [struct, fields, StructField.nullable] at h
  cases a
  cases b
  simp_all

theorem resent_eq (r : RegisterRetryServiceResult) :
    struct.resent r = ⟨r.success.map QueueConfig.allSet⟩ := by
  refine ext_fields fun f hf => ?_
  rw [(struct.get_resent hf r).1, (struct.get_resent hf r).2]
  revert f
  simp [struct, fields, StructField.nullable, fresh, QueueConfig.resent_eq]
  cases r.success <;> rfl

theorem unpacked_eq (r : RegisterRetryServiceResult) :
    struct.unpacked r = ⟨r.success.map QueueConfig.onlySet⟩ := by
  refine ext_fields fun f hf => ?_
  rw [(struct.get_unpacked hf r).1, (struct.get_unpacked hf r).2]
  revert f
  simp [struct, fields, StructField.nullable, fresh, TupleScheme.sent, QueueConfig.unpacked_eq]
  cases r.success <;> rfl

end RegisterRetryServiceResult

namespace ProcessArgs

theorem ext_fields {a b : ProcessArgs}
    (h : ∀ f ∈ struct.fields, f.get a = f.get b ∧ f.isSet a = f.isSet b) : a = b := by
  simp [struct, fields, StructField.nullable] at h
  cases a
  cases b
  simp_all

theorem resent_eq (a : ProcessArgs) :
    struct.resent a = ⟨a.retryMessage.map RetryMessage.allSet⟩ := by
  refine ext_fields fun f hf => ?_
  rw [(struct.get_resent hf a).1, (struct.get_resent hf a).2]
  revert f
  simp [struct, fields, StructField.nullable, fresh, RetryMessage.resent_eq]
  cases a.retryMessage <;> rfl

theorem unpacked_eq (a : ProcessArgs) :
    struct.unpacked a = ⟨a.retryMessage.map RetryMessage.onlySet⟩ := by
  refine ext_fields fun f hf => ?_
  rw [(struct.get_unpacked hf a).1, (struct.get_unpacked hf a).2]
  revert f
  simp [struct, fields, StructField.nullable, fresh, TupleScheme.sent, RetryMessage.unpacked_eq]
  cases a.retryMessage <;> rfl

end ProcessArgs

/-! ### On a connection -/

namespace Class

variable {κ ε : Type} {p : TProtocol κ ε} {C : κ → List Token → Prop}

/-- What is read of an instance that was written. -/
def received (c : Class) : Scheme → c.Instance → c.Instance
  | .standard => c.allSet
  | .tuple => c.onlySet

/-- What a peer receives of an instance, in closed form. -/
theorem received_eq (c : Class) (scheme : Scheme) (s : c.Instance) :
    c.struct.received scheme s = c.received scheme s := by
  cases scheme with
  | standard =>
      cases c with
      | queueConfig => exact QueueConfig.resent_eq s
      | retryMessage => exact RetryMessage.resent_eq s
      | registerRetryServiceArgs => exact RegisterRetryServiceArgs.resent_eq s
      | registerRetryServiceResult => exact RegisterRetryServiceResult.resent_eq s
      | processArgs => exact ProcessArgs.resent_eq s
      | processResult => rfl
  | tuple =>
      cases c with
      | queueConfig => exact QueueConfig.unpacked_eq s
      | retryMessage => exact RetryMessage.unpacked_eq s
      | registerRetryServiceArgs => exact RegisterRetryServiceArgs.unpacked_eq s
      | registerRetryServiceResult => exact RegisterRetryServiceResult.unpacked_eq s
      | processArgs => exact ProcessArgs.unpacked_eq s
      | processResult => rfl

theorem write_does (c : Class) (hp : p.Carries C) (s : c.Instance) :
    Writes C (c.struct.write p s) (c.struct.wire p.scheme s) :=
  c.struct.write_does hp s

/-- An instance that was written is read back, in the scheme of the protocol. -/
theorem read_does (c : Class) (hp : p.Carries C) (s : c.Instance) :
    Reads C (c.struct.read p c.struct.fresh) (c.struct.wire p.scheme s)
      (c.received p.scheme s) := by
  rw [← c.received_eq]
  exact c.struct.read_does hp s

/-- In the standard scheme the code of a class reads every struct that a peer sends, to its end: a
field ends as the last on the wire that has its id and its type, and as it was if there is none. -/
theorem read_any (c : Class) (hp : p.Carries C) (hs : p.scheme = .standard) (s : c.Instance)
    (l : List (Int16 × Value)) :
    ∃ t, Reads C (c.struct.read p s) (Value.struct l).tokens t ∧
      ∀ f ∈ c.struct.fields,
        f.get t = (Struct.last f.id f.coded.type l).elim (f.get s)
            (fun x => some (f.coded.ofValue x)) ∧
          f.isSet t = ((Struct.last f.id f.coded.type l).isSome || f.isSet s) :=
  ⟨_, c.struct.reads hp hs l s, fun _ hf => c.struct.get_loaded hf s l⟩

/-- A peer with a field that is not known here sends the id as an `i32` first, then as it should be,
and a set of strings. -/
theorem read_any_sample :
    let strings : Value :=
      .set .string [.string "x"] fun _ hv => List.mem_singleton.mp hv ▸ rfl
    let l := [(1, .i32 5), (9, strings), (1, .i64 7), (2, .string "q_retry")]
    ∃ t, Reads Eq (RetryMessage.struct.read (.memory () .standard) .fresh)
        (Value.struct l).tokens t ∧
      t = { RetryMessage.fresh with
        msgID := 7
        isSetMsgID := true
        retryQueueName := some "q_retry" } := by
  intro strings l
  obtain ⟨t, hreads, hf⟩ := read_any .retryMessage (TProtocol.memory_carries () .standard) rfl
    RetryMessage.fresh l
  refine ⟨t, hreads, RetryMessage.ext_fields fun f hmem => ?_⟩
  rw [(hf f hmem).1, (hf f hmem).2]
  revert f
  simp [RetryMessage.struct, RetryMessage.fields, StructField.primitive, StructField.nullable,
    RetryMessage.fresh, l, Struct.last, Coded.i64, Coded.string, Coded.i32, Coded.bool, Value.type,
    RawValue.type, Value.i32, Value.i64, Value.string]

/-- What is written on a connection with nothing on its way is read back. -/
theorem round_trip (c : Class) (hp : p.Carries C) (s : c.Instance) {k : κ} (hk : C k []) :
    ∃ k', (do c.struct.write p s; c.struct.read p c.struct.fresh : Exchange κ ε c.Instance) k =
      some (.ok (c.received p.scheme s), k') ∧ C k' [] := by
  have hstream := c.struct.stream_wire p.scheme s
  obtain ⟨k₁, h₁, hc₁⟩ := c.write_does hp s k [] hstream.start hk
  obtain ⟨k₂, h₂, hc₂⟩ := c.read_does hp s k₁ [] (by simpa using hstream.rest) (by simpa using hc₁)
  exact ⟨k₂, bind_eq h₁ h₂, hc₂⟩

/-- The tuple scheme forgets a message id that is not marked as set. -/
theorem round_trip_sample :
    let m : RetryMessage := { RetryMessage.fresh with
      msgID := 5
      retriedTimes := 2
      isSetRetriedTimes := true
      businessMsg := some "b" }
    (do
      RetryMessage.struct.write (.memory () .tuple) m
      RetryMessage.struct.read (.memory () .tuple) .fresh : Exchange _ Unit RetryMessage) [] =
        some (.ok { m with msgID := 0 }, []) := by
  intro m
  obtain ⟨_, h, rfl⟩ := round_trip .retryMessage (TProtocol.memory_carries () .tuple) m rfl
  exact h

end Class

end MRF.Wire
