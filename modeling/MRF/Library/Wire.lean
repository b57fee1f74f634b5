import Mathlib.Tactic.TypeStar

/-!
# Library — Wire

Structured values on their way over a connection, as the calls of a Thrift protocol: `Token` is
what one call of a `write` method sends, `Value.tokens` the calls that send a whole value.

A `TProtocol` is the interface that generated code reads and writes through.  What it is on the
bytes is left open; `TProtocol.Carries` says what is asked of it: what was written is what is read,
in that order, and `skip` passes over a whole value.  It is asked only of code that keeps to the
format (`Stream`): a token is written where a stream can go on with it, and read from a stream that
is complete.

`Reads` and `Writes` are the triples that code on such a connection is specified with, and
`Reads.seq` and `Writes.seq` their rules of composition.  `TProtocol.queue` is a protocol that meets
the laws, on a queue that the state holds.
-/

namespace MRF.Library

/-- The types of a wire value; `stop` ends the fields of a struct. -/
inductive TType where
  | stop
  | bool
  | byte
  | i16
  | i32
  | i64
  | double
  | string
  | struct
  | map
  | set
  | list
  deriving DecidableEq, Repr

/-- Values in any nesting.  A `double` is its bits. -/
inductive RawValue where
  | bool (b : Bool)
  | byte (n : Int8)
  | i16 (n : Int16)
  | i32 (n : Int32)
  | i64 (n : Int64)
  | double (bits : UInt64)
  | string (s : String)
  | struct (fields : List (Int16 × RawValue))
  | map (keyType valueType : TType) (entries : List (RawValue × RawValue))
  | set (elemType : TType) (elems : List RawValue)
  | list (elemType : TType) (elems : List RawValue)

namespace RawValue

def type : RawValue → TType
  | .bool _ => .bool
  | .byte _ => .byte
  | .i16 _ => .i16
  | .i32 _ => .i32
  | .i64 _ => .i64
  | .double _ => .double
  | .string _ => .string
  | .struct _ => .struct
  | .map _ _ _ => .map
  | .set _ _ => .set
  | .list _ _ => .list

mutual

/-- The elements of a container have the type that it declares for them. -/
def WellTyped : RawValue → Prop
  | .struct fields => FieldsWellTyped fields
  | .map k v entries => EntriesWellTyped k v entries
  | .set t elems => ElemsWellTyped t elems
  | .list t elems => ElemsWellTyped t elems
  | _ => True

def FieldsWellTyped : List (Int16 × RawValue) → Prop
  | [] => True
  | (_, v) :: fields => v.WellTyped ∧ FieldsWellTyped fields

def EntriesWellTyped (keyType valueType : TType) : List (RawValue × RawValue) → Prop
  | [] => True
  | (k, v) :: entries =>
      (k.type = keyType ∧ k.WellTyped) ∧ (v.type = valueType ∧ v.WellTyped) ∧
        EntriesWellTyped keyType valueType entries

def ElemsWellTyped (elemType : TType) : List RawValue → Prop
  | [] => True
  | v :: elems => (v.type = elemType ∧ v.WellTyped) ∧ ElemsWellTyped elemType elems

end

end RawValue

/-- A value that a peer can send. -/
structure Value where
  raw : RawValue
  wellTyped : raw.WellTyped

namespace Value

def type (v : Value) : TType := v.raw.type

/-- No value has the type of the stop. -/
theorem type_ne_stop (v : Value) : v.type ≠ .stop := by
  obtain ⟨raw, -⟩ := v
  cases raw <;> simp [type, RawValue.type]

def bool (b : Bool) : Value := ⟨.bool b, trivial⟩

def i32 (n : Int32) : Value := ⟨.i32 n, trivial⟩

def i64 (n : Int64) : Value := ⟨.i64 n, trivial⟩

def string (s : String) : Value := ⟨.string s, trivial⟩

/-- The fields without their proofs. -/
def rawFields (fields : List (Int16 × Value)) : List (Int16 × RawValue) :=
  fields.map fun x => (x.1, x.2.raw)

/-- The fields of a list of values are well typed. -/
theorem fieldsWellTyped (fields : List (Int16 × Value)) :
    RawValue.FieldsWellTyped (rawFields fields) := by
  induction fields with
  | nil => trivial
  | cons x fields ih => exact ⟨x.2.wellTyped, ih⟩

/-- A struct of well-typed fields. -/
def struct (fields : List (Int16 × Value)) : Value :=
  ⟨.struct (rawFields fields), fieldsWellTyped fields⟩

theorem elemsWellTyped {elemType : TType} (elems : List Value)
    (h : ∀ v ∈ elems, v.type = elemType) :
    RawValue.ElemsWellTyped elemType (elems.map raw) := by
  induction elems with
  | nil => trivial
  | cons v elems ih =>
      exact ⟨⟨h v List.mem_cons_self, v.wellTyped⟩,
        ih fun v hv => h v (List.mem_cons_of_mem _ hv)⟩

def set (elemType : TType) (elems : List Value) (h : ∀ v ∈ elems, v.type = elemType) : Value :=
  ⟨.set elemType (elems.map raw), elemsWellTyped elems h⟩

/-- The fields of a struct, with what they are. -/
def typed : (fields : List (Int16 × RawValue)) → RawValue.FieldsWellTyped fields →
    List (Int16 × Value)
  | [], _ => []
  | (id, v) :: fields, h => (id, ⟨v, h.1⟩) :: typed fields h.2

/-- `typed` only adds the proofs. -/
theorem rawFields_typed : (fields : List (Int16 × RawValue)) →
    (h : RawValue.FieldsWellTyped fields) → rawFields (typed fields h) = fields
  | [], _ => rfl
  | (id, v) :: fields, h => congrArg ((id, v) :: ·) (rawFields_typed fields h.2)

theorem typed_rawFields (fields : List (Int16 × Value)) :
    typed (rawFields fields) (fieldsWellTyped fields) = fields := by
  induction fields with
  | nil => rfl
  | cons x fields ih => exact congrArg (x :: ·) ih

/-- The fields of a struct; other values have none. -/
def fields : Value → List (Int16 × Value)
  | ⟨.struct fields, h⟩ => typed fields h
  | _ => []

/-- The fields of a struct are those it was made of. -/
@[simp] theorem fields_struct (l : List (Int16 × Value)) : (struct l).fields = l :=
  typed_rawFields l

/-- A value of the type is a boolean. -/
theorem eq_bool {v : Value} (h : v.type = .bool) : ∃ b, v = bool b := by
  obtain ⟨raw, ok⟩ := v
  cases raw with
  | bool b => exact ⟨b, rfl⟩
  | _ => cases h

theorem eq_i32 {v : Value} (h : v.type = .i32) : ∃ n, v = i32 n := by
  obtain ⟨raw, ok⟩ := v
  cases raw with
  | i32 n => exact ⟨n, rfl⟩
  | _ => cases h

theorem eq_i64 {v : Value} (h : v.type = .i64) : ∃ n, v = i64 n := by
  obtain ⟨raw, ok⟩ := v
  cases raw with
  | i64 n => exact ⟨n, rfl⟩
  | _ => cases h

theorem eq_string {v : Value} (h : v.type = .string) : ∃ s, v = string s := by
  obtain ⟨raw, ok⟩ := v
  cases raw with
  | string s => exact ⟨s, rfl⟩
  | _ => cases h

/-- A value of the type is a struct of well-typed fields. -/
theorem eq_struct {v : Value} (h : v.type = .struct) : ∃ l, v = struct l := by
  obtain ⟨raw, ok⟩ := v
  cases raw with
  | struct fields =>
      refine ⟨typed fields ok, ?_⟩
      unfold struct
      congr
      exact (rawFields_typed fields ok).symm
  | _ => cases h

end Value

/-- The type of a message. -/
inductive TMessageType where
  | call
  | reply
  | exception
  | oneway
  deriving DecidableEq, Repr

/-- What one call of a `write` method sends. -/
inductive Token where
  | messageBegin (name : String) (type : TMessageType) (seqid : Int32)
  | messageEnd
  | structBegin
  | structEnd
  | fieldBegin (type : TType) (id : Int16)
  | fieldEnd
  | fieldStop
  | mapBegin (keyType valueType : TType) (size : Nat)
  | mapEnd
  | setBegin (elemType : TType) (size : Nat)
  | setEnd
  | listBegin (elemType : TType) (size : Nat)
  | listEnd
  | bool (b : Bool)
  | byte (n : Int8)
  | i16 (n : Int16)
  | i32 (n : Int32)
  | i64 (n : Int64)
  | double (bits : UInt64)
  | string (s : String)
  | bitSet (bits : List Bool)

namespace RawValue

mutual

/-- The calls that send a value. -/
def tokens : RawValue → List Token
  | .bool b => [.bool b]
  | .byte n => [.byte n]
  | .i16 n => [.i16 n]
  | .i32 n => [.i32 n]
  | .i64 n => [.i64 n]
  | .double bits => [.double bits]
  | .string s => [.string s]
  | .struct fields => .structBegin :: fieldsTokens fields ++ [.fieldStop, .structEnd]
  | .map k v entries => .mapBegin k v entries.length :: entriesTokens entries ++ [.mapEnd]
  | .set t elems => .setBegin t elems.length :: elemsTokens elems ++ [.setEnd]
  | .list t elems => .listBegin t elems.length :: elemsTokens elems ++ [.listEnd]

def fieldsTokens : List (Int16 × RawValue) → List Token
  | [] => []
  | (id, v) :: fields => .fieldBegin v.type id :: v.tokens ++ .fieldEnd :: fieldsTokens fields

def entriesTokens : List (RawValue × RawValue) → List Token
  | [] => []
  | (k, v) :: entries => k.tokens ++ v.tokens ++ entriesTokens entries

def elemsTokens : List RawValue → List Token
  | [] => []
  | v :: elems => v.tokens ++ elemsTokens elems

end

end RawValue

namespace Value

def tokens (v : Value) : List Token := v.raw.tokens

def fieldsTokens : List (Int16 × Value) → List Token
  | [] => []
  | (id, v) :: fields => .fieldBegin v.type id :: v.tokens ++ .fieldEnd :: fieldsTokens fields

/-- Fields have the tokens of what is below them. -/
theorem raw_fieldsTokens (fields : List (Int16 × Value)) :
    RawValue.fieldsTokens (rawFields fields) = fieldsTokens fields := by
  induction fields with
  | nil => rfl
  | cons x fields ih =>
      rw [fieldsTokens, ← ih]
      rfl

/-- A struct is its fields between a begin and an end. -/
theorem tokens_struct (fields : List (Int16 × Value)) :
    (struct fields).tokens = .structBegin :: fieldsTokens fields ++ [.fieldStop, .structEnd] := by
  simp [tokens, struct, RawValue.tokens, raw_fieldsTokens]

end Value

/-! ### Streams -/

/-- What a peer sends over a connection, as a whole: values, bit sets, and messages of these. -/
inductive Stream : List Token → Prop where
  | nil : Stream []
  | value (v : Value) {l : List Token} (hl : Stream l) : Stream (v.tokens ++ l)
  | bitSet (bits : List Bool) {l : List Token} (hl : Stream l) : Stream (.bitSet bits :: l)
  | message (name : String) (type : TMessageType) (seqid : Int32) {body l : List Token}
      (hbody : Stream body) (hl : Stream l) :
      Stream (.messageBegin name type seqid :: body ++ .messageEnd :: l)

namespace Stream

variable {l l' : List Token}

/-- Two well-formed sequences after each other. -/
theorem append (h : Stream l) (h' : Stream l') : Stream (l ++ l') := by
  induction h with
  | nil => exact h'
  | value v _ ih =>
      rw [List.append_assoc]
      exact .value v ih
  | bitSet bits _ ih => exact .bitSet bits ih
  | message name type seqid hbody _ _ ih =>
      rw [List.append_assoc, List.cons_append]
      exact .message name type seqid hbody ih

/-- One message, with a stream as its body. -/
theorem one_message (h : Stream l) (name : String) (type : TMessageType) (seqid : Int32) :
    Stream (.messageBegin name type seqid :: l ++ [.messageEnd]) :=
  .message name type seqid h .nil

/-- `l` is how a stream begins. -/
def Start (l : List Token) : Prop := ∃ l', Stream (l ++ l')

/-- `l` is how a stream ends. -/
def Rest (l : List Token) : Prop := ∃ l', Stream (l' ++ l)

theorem start (h : Stream l) : Start l := ⟨[], by simpa using h⟩

theorem rest (h : Stream l) : Rest l := ⟨[], h⟩

theorem Start.left (h : Start (l ++ l')) : Start l := by
  obtain ⟨l'', h⟩ := h
  exact ⟨l' ++ l'', by simpa using h⟩

theorem Rest.right (h : Rest (l ++ l')) : Rest l' := by
  obtain ⟨l'', h⟩ := h
  exact ⟨l'' ++ l, by simpa using h⟩

end Stream

/-! ### Protocols -/

/-- Code on a connection with the state `κ`: it ends with a value or an exception, or, as `none`,
does not end. -/
abbrev Exchange (κ ε α : Type) := ExceptT ε (StateT κ Option) α

/-- How generated code reads and writes the fields of a struct. -/
inductive Scheme where
  | standard
  | tuple
  deriving DecidableEq, Repr

/-- The methods of a protocol that generated code calls: all that write, as one, those that read,
and `TProtocolUtil.skip`. -/
structure TProtocol (κ ε : Type) where
  scheme : Scheme
  write : Token → Exchange κ ε Unit
  readStructBegin : Exchange κ ε Unit
  readStructEnd : Exchange κ ε Unit
  readFieldBegin : Exchange κ ε (TType × Int16)
  readFieldEnd : Exchange κ ε Unit
  readBool : Exchange κ ε Bool
  readI32 : Exchange κ ε Int32
  readI64 : Exchange κ ε Int64
  readString : Exchange κ ε String
  readBitSet : Nat → Exchange κ ε (List Bool)
  skip : TType → Exchange κ ε Unit

variable {κ ε α β : Type} {C : κ → List Token → Prop}

/-- A step that returns, and what comes after it. -/
theorem bind_eq {m : Exchange κ ε α} {f : α → Exchange κ ε β} {x : α} {k k₁ : κ}
    {r : Option (Except ε β × κ)} (hm : m k = some (.ok x, k₁)) (hf : f x k₁ = r) :
    (m >>= f) k = r := by
  calc (m >>= f) k = (m k).bind fun r => ExceptT.bindCont f r.1 r.2 := rfl
    _ = f x k₁ := by rw [hm]; rfl
    _ = r := hf

/-- A step that throws ends the exchange. -/
theorem bind_error {m : Exchange κ ε α} {f : α → Exchange κ ε β} {e : ε} {k k₁ : κ}
    (hm : m k = some (.error e, k₁)) : (m >>= f) k = some (.error e, k₁) := by
  calc (m >>= f) k = (m k).bind fun r => ExceptT.bindCont f r.1 r.2 := rfl
    _ = some (.error e, k₁) := by rw [hm]; rfl

/-! ### Triples -/

/-- `C k l` says that `l` has been written and is still to be read.  The code reads `ts` from the
rest of a stream, and ends with `x`. -/
def Reads (C : κ → List Token → Prop) (m : Exchange κ ε α) (ts : List Token) (x : α) : Prop :=
  ∀ k l, Stream.Rest (ts ++ l) → C k (ts ++ l) → ∃ k', m k = some (.ok x, k') ∧ C k' l

/-- The code writes `us`, where a stream can go on with it. -/
def Writes (C : κ → List Token → Prop) (m : Exchange κ ε Unit) (us : List Token) : Prop :=
  ∀ k l, Stream.Start (l ++ us) → C k l → ∃ k', m k = some (.ok (), k') ∧ C k' (l ++ us)

namespace Reads

variable {m : Exchange κ ε α} {f : α → Exchange κ ε β} {ts ts' : List Token} {x : α} {y : β}

theorem pure (x : α) : Reads C (Pure.pure x : Exchange κ ε α) [] x :=
  fun k _ _ h => ⟨k, rfl, h⟩

/-- Code that reads and then code that reads. -/
theorem seq (hm : Reads C m ts x) (hf : Reads C (f x) ts' y) :
    Reads C (m >>= f) (ts ++ ts') y := by
  intro k l hrest h
  rw [List.append_assoc] at h hrest
  obtain ⟨k₁, h₁, hc₁⟩ := hm k (ts' ++ l) hrest h
  obtain ⟨k₂, h₂, hc₂⟩ := hf k₁ l hrest.right hc₁
  exact ⟨k₂, bind_eq h₁ h₂, hc₂⟩

/-- A triple is about some state of the connection. -/
theorem of_nonempty (h : Nonempty κ → Reads C m ts x) : Reads C m ts x :=
  fun k l hrest hk => h ⟨k⟩ k l hrest hk

end Reads

namespace Writes

variable {m m' : Exchange κ ε Unit} {us us' : List Token}

theorem pure : Writes C (Pure.pure () : Exchange κ ε Unit) [] := by
  intro k l _ h
  exact ⟨k, rfl, by simpa using h⟩

/-- Code that writes and then code that writes. -/
theorem seq (hm : Writes C m us) (hm' : Writes C m' us') :
    Writes C (m >>= fun _ => m') (us ++ us') := by
  intro k l hstart h
  rw [← List.append_assoc] at hstart
  obtain ⟨k₁, h₁, hc₁⟩ := hm k l hstart.left h
  obtain ⟨k₂, h₂, hc₂⟩ := hm' k₁ (l ++ us) hstart hc₁
  exact ⟨k₂, bind_eq h₁ h₂, by simpa using hc₂⟩

end Writes

namespace TProtocol

/-- A connection that works: what was written is read, in that order. -/
structure Carries (p : TProtocol κ ε) (C : κ → List Token → Prop) : Prop where
  write (t : Token) : Writes C (p.write t) [t]
  readStructBegin : Reads C p.readStructBegin [.structBegin] ()
  readStructEnd : Reads C p.readStructEnd [.structEnd] ()
  readFieldBegin (t : TType) (id : Int16) (ht : t ≠ .stop) :
    Reads C p.readFieldBegin [.fieldBegin t id] (t, id)
  readFieldStop : ∃ id, Reads C p.readFieldBegin [.fieldStop] (.stop, id)
  readFieldEnd : Reads C p.readFieldEnd [.fieldEnd] ()
  readBool (b : Bool) : Reads C p.readBool [.bool b] b
  readI32 (n : Int32) : Reads C p.readI32 [.i32 n] n
  readI64 (n : Int64) : Reads C p.readI64 [.i64 n] n
  readString (s : String) : Reads C p.readString [.string s] s
  readBitSet (bits : List Bool) : Reads C (p.readBitSet bits.length) [.bitSet bits] bits
  skip (v : Value) : Reads C (p.skip v.type) v.tokens ()

end TProtocol

/-! ### A queue of calls -/

/-- How deep a reader is in structs and containers after the token. -/
def Token.depth (d : Nat) : Token → Nat
  | .structBegin | .mapBegin _ _ _ | .setBegin _ _ | .listBegin _ _ => d + 1
  | .structEnd | .mapEnd | .setEnd | .listEnd => d - 1
  | _ => d

/-- What is left after the value at whose depth `d` the reader is. -/
def skipTokens : Nat → List Token → Option (List Token)
  | _, [] => none
  | d, t :: l => if t.depth d = 0 then some l else skipTokens (t.depth d) l

mutual

/-- A value is skipped whole, whatever is nested in it. -/
theorem skipTokens_value (d : Nat) (l : List Token) : (v : RawValue) →
    skipTokens d (v.tokens ++ l) = if d = 0 then some l else skipTokens d l
  | .bool _ | .byte _ | .i16 _ | .i32 _ | .i64 _ | .double _ | .string _ => by
      cases d <;> simp [RawValue.tokens, skipTokens, Token.depth]
  | .struct fields => by
      have h := skipTokens_fields d (.fieldStop :: .structEnd :: l) fields
      cases d <;> simp [RawValue.tokens, skipTokens, Token.depth, h]
  | .map _ _ entries => by
      have h := skipTokens_entries d (.mapEnd :: l) entries
      cases d <;> simp [RawValue.tokens, skipTokens, Token.depth, h]
  | .set _ elems => by
      have h := skipTokens_elems d (.setEnd :: l) elems
      cases d <;> simp [RawValue.tokens, skipTokens, Token.depth, h]
  | .list _ elems => by
      have h := skipTokens_elems d (.listEnd :: l) elems
      cases d <;> simp [RawValue.tokens, skipTokens, Token.depth, h]

/-- Fields are skipped whole. -/
theorem skipTokens_fields (d : Nat) (l : List Token) : (fields : List (Int16 × RawValue)) →
    skipTokens (d + 1) (RawValue.fieldsTokens fields ++ l) = skipTokens (d + 1) l
  | [] => rfl
  | (_, v) :: fields => by
      have hv := skipTokens_value (d + 1) (.fieldEnd :: (RawValue.fieldsTokens fields ++ l)) v
      have h := skipTokens_fields d l fields
      simp [RawValue.fieldsTokens, skipTokens, Token.depth, hv, h]

theorem skipTokens_entries (d : Nat) (l : List Token) : (entries : List (RawValue × RawValue)) →
    skipTokens (d + 1) (RawValue.entriesTokens entries ++ l) = skipTokens (d + 1) l
  | [] => rfl
  | (k, v) :: entries => by
      have hk := skipTokens_value (d + 1) (v.tokens ++ (RawValue.entriesTokens entries ++ l)) k
      have hv := skipTokens_value (d + 1) (RawValue.entriesTokens entries ++ l) v
      have h := skipTokens_entries d l entries
      simp [RawValue.entriesTokens, hk, hv, h]

theorem skipTokens_elems (d : Nat) (l : List Token) : (elems : List RawValue) →
    skipTokens (d + 1) (RawValue.elemsTokens elems ++ l) = skipTokens (d + 1) l
  | [] => rfl
  | v :: elems => by
      have hv := skipTokens_value (d + 1) (RawValue.elemsTokens elems ++ l) v
      have h := skipTokens_elems d l elems
      simp [RawValue.elemsTokens, hv, h]

end

section
variable (get : κ → List Token) (set : List Token → κ → κ) (e : ε)

/-- Takes one token that `f` accepts from the queue of the state, and raises `e` at any other. -/
def take (f : Token → Option α) : Exchange κ ε α := fun k =>
  match get k with
  | [] => some (.error e, k)
  | t :: l =>
      match f t with
      | none => some (.error e, k)
      | some a => some (.ok a, set l k)

variable {get set e}

/-- The next token is taken from the queue. -/
theorem take_reads (hget : ∀ k l, C k l → get k = l)
    (hset : ∀ k l l', C k l → C (set l' k) l') {f : Token → Option α} {t : Token} {a : α}
    (h : f t = some a) : Reads C (take get set e f) [t] a := by
  intro k l _ hk
  refine ⟨set l k, ?_, hset k _ l hk⟩
  simp [take, hget k _ hk, h]

variable (get set e)

namespace TProtocol

/-- The protocol on a queue of calls that the state holds. -/
def queue (scheme : Scheme) : TProtocol κ ε where
  scheme
  write t := fun k => some (.ok (), set (get k ++ [t]) k)
  readStructBegin := take get set e fun
    | .structBegin => some ()
    | _ => none
  readStructEnd := take get set e fun
    | .structEnd => some ()
    | _ => none
  readFieldBegin := take get set e fun
    | .fieldBegin t id => some (t, id)
    | .fieldStop => some (.stop, 0)
    | _ => none
  readFieldEnd := take get set e fun
    | .fieldEnd => some ()
    | _ => none
  readBool := take get set e fun
    | .bool b => some b
    | _ => none
  readI32 := take get set e fun
    | .i32 n => some n
    | _ => none
  readI64 := take get set e fun
    | .i64 n => some n
    | _ => none
  readString := take get set e fun
    | .string s => some s
    | _ => none
  readBitSet n := take get set e fun
    | .bitSet bits => if bits.length = n then some bits else none
    | _ => none
  skip _ := fun k =>
    match skipTokens 0 (get k) with
    | none => some (.error e, k)
    | some l => some (.ok (), set l k)

/-- A queue carries what is written, wherever the state keeps it. -/
theorem queue_carries (hget : ∀ k l, C k l → get k = l)
    (hset : ∀ k l l', C k l → C (set l' k) l') (scheme : Scheme) :
    (queue get set e scheme).Carries C where
  write t := by
    intro k l _ hk
    refine ⟨set (get k ++ [t]) k, rfl, ?_⟩
    rw [hget k _ hk]
    exact hset k l _ hk
  readStructBegin := take_reads hget hset rfl
  readStructEnd := take_reads hget hset rfl
  readFieldBegin _ _ _ := take_reads hget hset rfl
  readFieldStop := ⟨0, take_reads hget hset rfl⟩
  readFieldEnd := take_reads hget hset rfl
  readBool _ := take_reads hget hset rfl
  readI32 _ := take_reads hget hset rfl
  readI64 _ := take_reads hget hset rfl
  readString _ := take_reads hget hset rfl
  readBitSet _ := take_reads hget hset (if_pos rfl)
  skip v := by
    intro k l _ hk
    refine ⟨set l k, ?_, hset k _ l hk⟩
    simp [queue, hget k _ hk, Value.tokens, skipTokens_value]

/-- The protocol on a queue, and nothing else. -/
def memory {ε : Type} (e : ε) (scheme : Scheme) : TProtocol (List Token) ε :=
  queue id (fun l _ => l) e scheme

/-- A list in memory carries what is written. -/
theorem memory_carries {ε : Type} (e : ε) (scheme : Scheme) : (memory e scheme).Carries Eq :=
  queue_carries id (fun l _ => l) e (fun _ _ => id) (fun _ _ _ _ => rfl) scheme

end TProtocol

end

end MRF.Library
