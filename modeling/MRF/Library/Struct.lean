import MRF.Library.Wire
import Mathlib.Data.List.Induction
import Mathlib.Data.List.Pairwise

/-!
# Library — Struct

Generated structs: a `Struct S` is a class with its fields, and reads and writes its instances in
two schemes, as the Thrift compiler writes the code for them.  A field of a primitive type is
always there and carries a flag that says whether it was set; any other field can be null.

* `Coded` holds the code that writes and reads the values of one type, what it means, and the
  proof that the code does that.
* `Struct.reads`: in the standard scheme the code reads every struct that is on the wire, whoever
  wrote it, and loads the fields it knows, one after the other.
* `Struct.coded`: so a struct is again a type with such code, and can be a field of another.
* `Struct.get_load`, `Struct.isSet_load`: each field ends as the last on the wire that has its id
  and its type, and as it was if there is none.
-/

namespace MRF.Library

variable {κ ε S : Type} {C : κ → List Token → Prop}

/-- Code that writes and reads the values of a type. -/
structure Coded (V : Type) where
  type : TType
  write {κ ε : Type} : TProtocol κ ε → V → Exchange κ ε Unit
  read {κ ε : Type} : TProtocol κ ε → Exchange κ ε V
  /-- What is written in the standard scheme, and what is read of any value of the type. -/
  toValue : V → Value
  ofValue : Value → V
  /-- What is written in the tuple scheme, and what is read of that. -/
  packed : V → List Token
  unpacked : V → V
  type_toValue (v : V) : (toValue v).type = type
  stream_packed (v : V) : Stream (packed v)
  writes {κ ε : Type} {p : TProtocol κ ε} {C : κ → List Token → Prop} (hp : p.Carries C)
    (hs : p.scheme = .standard) (v : V) : Writes C (write p v) (toValue v).tokens
  reads {κ ε : Type} {p : TProtocol κ ε} {C : κ → List Token → Prop} (hp : p.Carries C)
    (hs : p.scheme = .standard) (x : Value) (hx : x.type = type) :
    Reads C (read p) x.tokens (ofValue x)
  packs {κ ε : Type} {p : TProtocol κ ε} {C : κ → List Token → Prop} (hp : p.Carries C)
    (hs : p.scheme = .tuple) (v : V) : Writes C (write p v) (packed v)
  unpacks {κ ε : Type} {p : TProtocol κ ε} {C : κ → List Token → Prop} (hp : p.Carries C)
    (hs : p.scheme = .tuple) (v : V) : Reads C (read p) (packed v) (unpacked v)

namespace Coded

def bool : Coded Bool where
  type := .bool
  write p b := p.write (.bool b)
  read p := p.readBool
  toValue := .bool
  ofValue
    | ⟨.bool b, _⟩ => b
    | _ => false
  packed b := [.bool b]
  unpacked := id
  type_toValue _ := rfl
  stream_packed b := .value (.bool b) .nil
  writes hp _ b := hp.write (.bool b)
  reads hp _ x hx := by
    obtain ⟨b, rfl⟩ := Value.eq_bool hx
    exact hp.readBool b
  packs hp _ b := hp.write (.bool b)
  unpacks hp _ b := hp.readBool b

def i32 : Coded Int32 where
  type := .i32
  write p n := p.write (.i32 n)
  read p := p.readI32
  toValue := .i32
  ofValue
    | ⟨.i32 n, _⟩ => n
    | _ => 0
  packed n := [.i32 n]
  unpacked := id
  type_toValue _ := rfl
  stream_packed n := .value (.i32 n) .nil
  writes hp _ n := hp.write (.i32 n)
  reads hp _ x hx := by
    obtain ⟨n, rfl⟩ := Value.eq_i32 hx
    exact hp.readI32 n
  packs hp _ n := hp.write (.i32 n)
  unpacks hp _ n := hp.readI32 n

def i64 : Coded Int64 where
  type := .i64
  write p n := p.write (.i64 n)
  read p := p.readI64
  toValue := .i64
  ofValue
    | ⟨.i64 n, _⟩ => n
    | _ => 0
  packed n := [.i64 n]
  unpacked := id
  type_toValue _ := rfl
  stream_packed n := .value (.i64 n) .nil
  writes hp _ n := hp.write (.i64 n)
  reads hp _ x hx := by
    obtain ⟨n, rfl⟩ := Value.eq_i64 hx
    exact hp.readI64 n
  packs hp _ n := hp.write (.i64 n)
  unpacks hp _ n := hp.readI64 n

def string : Coded String where
  type := .string
  write p s := p.write (.string s)
  read p := p.readString
  toValue := .string
  ofValue
    | ⟨.string s, _⟩ => s
    | _ => ""
  packed s := [.string s]
  unpacked := id
  type_toValue _ := rfl
  stream_packed s := .value (.string s) .nil
  writes hp _ s := hp.write (.string s)
  reads hp _ x hx := by
    obtain ⟨s, rfl⟩ := Value.eq_string hx
    exact hp.readString s
  packs hp _ s := hp.write (.string s)
  unpacks hp _ s := hp.readString s

@[simp] theorem bool_ofValue (b : Bool) : bool.ofValue (bool.toValue b) = b := rfl
@[simp] theorem bool_unpacked (b : Bool) : bool.unpacked b = b := rfl
@[simp] theorem i32_ofValue (n : Int32) : i32.ofValue (i32.toValue n) = n := rfl
@[simp] theorem i32_unpacked (n : Int32) : i32.unpacked n = n := rfl
@[simp] theorem i64_ofValue (n : Int64) : i64.ofValue (i64.toValue n) = n := rfl
@[simp] theorem i64_unpacked (n : Int64) : i64.unpacked n = n := rfl
@[simp] theorem string_ofValue (s : String) : string.ofValue (string.toValue s) = s := rfl
@[simp] theorem string_unpacked (s : String) : string.unpacked s = s := rfl

end Coded

/-- A field of a class: `get` is none for null, and `set` is the assignment with the flag. -/
structure StructField (S : Type) where
  id : Int16
  {V : Type}
  coded : Coded V
  get : S → Option V
  isSet : S → Bool
  set : V → S → S
  present (s : S) : isSet s = true → (get s).isSome = true
  get_set (v : V) (s : S) : get (set v s) = some v
  isSet_set (v : V) (s : S) : isSet (set v s) = true

/-- A field of a primitive type, with its flag: `set` assigns the value and sets the flag. -/
def StructField.primitive {V : Type} (id : Int16) (coded : Coded V) (value : S → V)
    (isSet : S → Bool) (set : V → S → S) (value_set : ∀ v s, value (set v s) = v := by intros; rfl)
    (isSet_set : ∀ v s, isSet (set v s) = true := by intros; rfl) : StructField S where
  id
  coded
  get s := some (value s)
  isSet
  set
  present _ _ := rfl
  get_set v s := congrArg some (value_set v s)
  isSet_set

/-- A field that is set when it is not null. -/
def StructField.nullable {V : Type} (id : Int16) (coded : Coded V) (value : S → Option V)
    (set : V → S → S) (value_set : ∀ v s, value (set v s) = some v := by intros; rfl) :
    StructField S where
  id
  coded
  get := value
  isSet s := (value s).isSome
  set
  present _ h := h
  get_set := value_set
  isSet_set v s := by rw [value_set]; rfl

/-- Assignments to `g` leave `f` as it is. -/
def StructField.KeptBy (f g : StructField S) : Prop :=
  ∀ v s, f.get (g.set v s) = f.get s ∧ f.isSet (g.set v s) = f.isSet s

def StructField.Apart (f g : StructField S) : Prop := f.id ≠ g.id ∧ f.KeptBy g ∧ g.KeptBy f

/-! ### The standard scheme -/

namespace StandardScheme

/-- An unset field is left out. -/
def writeField (p : TProtocol κ ε) (s : S) (f : StructField S) : Exchange κ ε Unit :=
  match f.get s with
  | none => pure ()
  | some v => do
      p.write (.fieldBegin f.coded.type f.id)
      f.coded.write p v
      p.write .fieldEnd

def writeFields (p : TProtocol κ ε) (s : S) : List (StructField S) → Exchange κ ε Unit
  | [] => pure ()
  | f :: fields => do
      writeField p s f
      writeFields p s fields

/-- The fields between a begin and an end. -/
def write (fields : List (StructField S)) (p : TProtocol κ ε) (s : S) : Exchange κ ε Unit := do
  p.write .structBegin
  writeFields p s fields
  p.write .fieldStop
  p.write .structEnd

/-- The `switch` over the id of a field. -/
def readField (fields : List (StructField S)) (p : TProtocol κ ε) (type : TType) (id : Int16)
    (s : S) : Exchange κ ε S :=
  match fields.find? fun f => f.id = id with
  | some f =>
      if type = f.coded.type then do
        let v ← f.coded.read p
        return f.set v s
      else do
        p.skip type
        return s
  | none => do
      p.skip type
      return s

/-- The loop over the fields, up to the one of type `stop`. -/
def readFields (fields : List (StructField S)) (p : TProtocol κ ε) (s : S) : Exchange κ ε S :=
  have : Nonempty S := ⟨s⟩
  repeatM (fun s => do
    let (type, id) ← p.readFieldBegin
    if type = .stop then
      return .inr s
    else
      let s ← readField fields p type id s
      p.readFieldEnd
      return .inl s) s

/-- The fields up to the stop, whatever their order. -/
def read (fields : List (StructField S)) (p : TProtocol κ ε) (s : S) : Exchange κ ε S := do
  p.readStructBegin
  let s ← readFields fields p s
  p.readStructEnd
  return s

/-- The fields that are written, with their ids. -/
def sent (s : S) (fields : List (StructField S)) : List (Int16 × Value) :=
  fields.filterMap fun f => (f.get s).map fun v => (f.id, f.coded.toValue v)

/-- What one field on the wire does to the struct that is read. -/
def load (fields : List (StructField S)) (s : S) (x : Int16 × Value) : S :=
  match fields.find? fun f => f.id = x.1 with
  | some f => if x.2.type = f.coded.type then f.set (f.coded.ofValue x.2) s else s
  | none => s

variable {p : TProtocol κ ε}

/-- The fields are written one after the other, the unset ones left out. -/
theorem writeFields_does (hp : p.Carries C) (hs : p.scheme = .standard) (s : S)
    (fields : List (StructField S)) :
    Writes C (writeFields p s fields) (Value.fieldsTokens (sent s fields)) := by
  induction fields with
  | nil => exact .pure
  | cons f fields ih =>
      cases hv : f.get s with
      | none =>
          have hnone : Writes C (writeField p s f) [] := by
            rw [writeField, hv]
            exact .pure
          simpa [writeFields, sent, hv] using hnone.seq ih
      | some v =>
          have hfield : Writes C (writeField p s f)
              (.fieldBegin f.coded.type f.id :: (f.coded.toValue v).tokens ++ [.fieldEnd]) := by
            rw [writeField, hv]
            exact (hp.write _).seq ((f.coded.writes hp hs v).seq (hp.write _))
          simpa [writeFields, sent, hv, Value.fieldsTokens, f.coded.type_toValue] using
            hfield.seq ih

/-- A field of the class is loaded, and any other is skipped. -/
theorem readField_does (hp : p.Carries C) (hs : p.scheme = .standard)
    (fields : List (StructField S)) (id : Int16) (x : Value) (s : S) :
    Reads C (readField fields p x.type id s) x.tokens (load fields s (id, x)) := by
  have hskip : Reads C (do p.skip x.type; return s) x.tokens s := by
    simpa using (hp.skip x).seq (f := fun _ => pure s) (.pure s)
  unfold readField load
  cases fields.find? fun f => f.id = id with
  | none => exact hskip
  | some f =>
      by_cases ht : x.type = f.coded.type
      · simp only [if_pos ht]
        simpa using (f.coded.reads hp hs x ht).seq (f := fun v => pure (f.set v s)) (.pure _)
      · simp only [if_neg ht]
        exact hskip

/-- One round of the loop. -/
theorem readFields_eq [Nonempty κ] (fields : List (StructField S)) (s : S) :
    readFields fields p s = p.readFieldBegin >>= fun h =>
      if h.1 = .stop then pure s
      else readField fields p h.1 h.2 s >>= fun s =>
        p.readFieldEnd >>= fun _ => readFields fields p s := by
  have : Nonempty S := ⟨s⟩
  unfold readFields
  rw [repeatM_eq_of_monadTail]
  simp only [repeatM.body, bind_assoc]
  congr 1
  funext h
  by_cases hstop : h.1 = .stop
  · simp [hstop]
  · simp [hstop]

/-- The fields are read up to the stop, each loaded over what was there. -/
theorem readFields_does (hp : p.Carries C) (hs : p.scheme = .standard)
    (fields : List (StructField S)) (l : List (Int16 × Value)) (s : S) :
    Reads C (readFields fields p s) (Value.fieldsTokens l ++ [.fieldStop])
      (l.foldl (load fields) s) := by
  refine .of_nonempty fun _ => ?_
  induction l generalizing s with
  | nil =>
      obtain ⟨id, hstop⟩ := hp.readFieldStop
      rw [readFields_eq]
      exact hstop.seq (.pure s : Reads C _ [] s)
  | cons x l ih =>
      obtain ⟨id, v⟩ := x
      rw [readFields_eq]
      have hrest := (readField_does hp hs fields id v s).seq
        (f := fun s => do p.readFieldEnd; readFields fields p s)
        (hp.readFieldEnd.seq (f := fun _ => readFields fields p (load fields s (id, v))) (ih _))
      have hbegin := (hp.readFieldBegin v.type id v.type_ne_stop).seq
        (f := fun h => if h.1 = .stop then pure s else do
          let s ← readField fields p h.1 h.2 s
          p.readFieldEnd
          readFields fields p s)
        (by rw [if_neg v.type_ne_stop]; exact hrest)
      simpa [Value.fieldsTokens] using hbegin

end StandardScheme

/-! ### The tuple scheme -/

namespace TupleScheme

def writeField (p : TProtocol κ ε) (s : S) (f : StructField S) : Exchange κ ε Unit :=
  if f.isSet s then
    match f.get s with
    | none => pure ()
    | some v => f.coded.write p v
  else pure ()

def writeFields (p : TProtocol κ ε) (s : S) : List (StructField S) → Exchange κ ε Unit
  | [] => pure ()
  | f :: fields => do
      writeField p s f
      writeFields p s fields

/-- A class without fields writes no bit set. -/
def write (fields : List (StructField S)) (p : TProtocol κ ε) (s : S) : Exchange κ ε Unit := do
  if fields.isEmpty then
    return ()
  p.write (.bitSet (fields.map fun f => f.isSet s))
  writeFields p s fields

/-- The fields whose flags are set, in the order of the class. -/
def readFields (p : TProtocol κ ε) : List (StructField S × Bool) → S → Exchange κ ε S
  | [], s => pure s
  | (f, true) :: fields, s => do
      let v ← f.coded.read p
      readFields p fields (f.set v s)
  | (_, false) :: fields, s => readFields p fields s

def read (fields : List (StructField S)) (p : TProtocol κ ε) (s : S) : Exchange κ ε S := do
  if fields.isEmpty then
    return s
  let incoming ← p.readBitSet fields.length
  readFields p (fields.zip incoming) s

/-- The value of a field that is written. -/
def sent (s : S) (f : StructField S) : Option f.V :=
  if f.isSet s then f.get s else none

/-- What the tuple scheme puts on the wire. -/
def packed (s : S) (fields : List (StructField S)) : List Token :=
  fields.flatMap fun f => (sent s f).elim [] f.coded.packed

/-- What one field of `s` does to the struct that is read. -/
def load (s t : S) (f : StructField S) : S :=
  (sent s f).elim t fun v => f.set (f.coded.unpacked v) t

variable {p : TProtocol κ ε}

/-- What is set is written, without its id. -/
theorem writeFields_does (hp : p.Carries C) (hs : p.scheme = .tuple) (s : S)
    (fields : List (StructField S)) : Writes C (writeFields p s fields) (packed s fields) := by
  induction fields with
  | nil => exact .pure
  | cons f fields ih =>
      have hfield : Writes C (writeField p s f) ((sent s f).elim [] f.coded.packed) := by
        unfold writeField sent
        split
        · cases f.get s with
          | none => exact .pure
          | some v => exact f.coded.packs hp hs v
        · exact .pure
      exact hfield.seq ih

/-- The flags that were read say which fields follow. -/
theorem readFields_does (hp : p.Carries C) (hs : p.scheme = .tuple) (s t : S)
    (fields : List (StructField S)) :
    Reads C (readFields p (fields.zip (fields.map fun f => f.isSet s)) t) (packed s fields)
      (fields.foldl (load s) t) := by
  induction fields generalizing t with
  | nil => exact .pure t
  | cons f fields ih =>
      cases hset : f.isSet s with
      | false => simpa [readFields, packed, load, sent, hset] using ih t
      | true =>
          obtain ⟨v, hv⟩ := Option.isSome_iff_exists.mp (f.present s hset)
          have hfield := (f.coded.unpacks hp hs v).seq
            (f := fun v => readFields p (fields.zip (fields.map fun f => f.isSet s)) (f.set v t))
            (ih (f.set (f.coded.unpacked v) t))
          simpa [readFields, packed, load, sent, hset, hv] using hfield

end TupleScheme

/-! ### Classes -/

section
variable {V : Type}

@[simp] theorem elim_some (o : Option V) : (o.elim none fun v => some v) = o := by
  cases o <;> rfl

@[simp] theorem ite_isSome (o : Option V) : (if o.isSome = true then o else none) = o := by
  cases o <;> rfl

@[simp] theorem elim_ite (b : Bool) (x y : V) :
    ((if b = true then some x else none).elim (some y) fun v => some v) =
      some (if b = true then x else y) := by
  cases b <;> rfl

end

/-- A generated class: an instance as its constructor makes it, and its fields. -/
structure Struct (S : Type) where
  fresh : S
  fields : List (StructField S)
  apart : fields.Pairwise StructField.Apart

namespace Struct

variable (st : Struct S) {p : TProtocol κ ε} {f : StructField S}

/-- `schemes.get(oprot.getScheme()).getScheme().write(oprot, this)` -/
def write (p : TProtocol κ ε) (s : S) : Exchange κ ε Unit :=
  match p.scheme with
  | .standard => StandardScheme.write st.fields p s
  | .tuple => TupleScheme.write st.fields p s

/-- `schemes.get(iprot.getScheme()).getScheme().read(iprot, this)` -/
def read (p : TProtocol κ ε) (s : S) : Exchange κ ε S :=
  match p.scheme with
  | .standard => StandardScheme.read st.fields p s
  | .tuple => TupleScheme.read st.fields p s

/-- What is read of the fields on a wire. -/
def loaded (s : S) (l : List (Int16 × Value)) : S := l.foldl (StandardScheme.load st.fields) s

/-- What is read of an instance in the standard scheme. -/
def resent (s : S) : S := st.loaded st.fresh (StandardScheme.sent s st.fields)

/-- What is read of an instance in the tuple scheme. -/
def unpacked (s : S) : S := st.fields.foldl (TupleScheme.load s) st.fresh

def packed (s : S) : List Token :=
  if st.fields.isEmpty then []
  else .bitSet (st.fields.map fun f => f.isSet s) :: TupleScheme.packed s st.fields

/-- A struct is written as the value that it is sent as. -/
theorem writes (hp : p.Carries C) (hs : p.scheme = .standard) (s : S) :
    Writes C (st.write p s) (Value.struct (StandardScheme.sent s st.fields)).tokens := by
  have htokens : (Value.struct (StandardScheme.sent s st.fields)).tokens =
      [.structBegin] ++ (Value.fieldsTokens (StandardScheme.sent s st.fields) ++
        ([.fieldStop] ++ [.structEnd])) := by
    simp [Value.tokens_struct]
  unfold write
  rw [hs, htokens]
  exact (hp.write .structBegin).seq
    ((StandardScheme.writeFields_does hp hs s st.fields).seq
      ((hp.write .fieldStop).seq (hp.write .structEnd)))

/-- Whatever struct is on the wire, the code reads it to its end. -/
theorem reads (hp : p.Carries C) (hs : p.scheme = .standard) (l : List (Int16 × Value)) (s : S) :
    Reads C (st.read p s) (Value.struct l).tokens (st.loaded s l) := by
  have htokens : (Value.struct l).tokens =
      [.structBegin] ++ ((Value.fieldsTokens l ++ [.fieldStop]) ++ ([.structEnd] ++ [])) := by
    simp [Value.tokens_struct]
  unfold read
  rw [hs, htokens]
  exact hp.readStructBegin.seq ((StandardScheme.readFields_does hp hs st.fields l s).seq
    (hp.readStructEnd.seq (.pure _)))

/-- A struct is written as a bit set and the fields that are set. -/
theorem packs (hp : p.Carries C) (hs : p.scheme = .tuple) (s : S) :
    Writes C (st.write p s) (st.packed s) := by
  unfold write packed
  rw [hs]
  simp only [TupleScheme.write]
  split
  · exact .pure
  · exact (hp.write _).seq (TupleScheme.writeFields_does hp hs s st.fields)

/-- What is packed is unpacked. -/
theorem unpacks (hp : p.Carries C) (hs : p.scheme = .tuple) (s : S) :
    Reads C (st.read p st.fresh) (st.packed s) (st.unpacked s) := by
  unfold read packed unpacked
  rw [hs]
  simp only [TupleScheme.read]
  split
  · next hnil =>
      rw [List.isEmpty_iff.mp hnil]
      exact .pure _
  · have hbits := hp.readBitSet (st.fields.map fun f => f.isSet s)
    rw [List.length_map] at hbits
    exact hbits.seq
      (f := fun incoming => TupleScheme.readFields p (st.fields.zip incoming) st.fresh)
      (TupleScheme.readFields_does hp hs s st.fresh st.fields)

/-- A packed struct is a well-formed sequence. -/
theorem stream_packed (s : S) : Stream (st.packed s) := by
  have hfields : ∀ fields : List (StructField S), Stream (TupleScheme.packed s fields) := by
    intro fields
    induction fields with
    | nil => exact .nil
    | cons f fields ih =>
        have hfield : Stream ((TupleScheme.sent s f).elim [] f.coded.packed) := by
          cases TupleScheme.sent s f with
          | none => exact .nil
          | some v => exact f.coded.stream_packed v
        exact hfield.append ih
  unfold packed
  split
  · exact .nil
  · exact .bitSet _ (hfields st.fields)

/-- Instances are again values that can be written and read, as those of a field. -/
def coded : Coded S where
  type := .struct
  write p s := st.write p s
  read p := st.read p st.fresh
  toValue s := .struct (StandardScheme.sent s st.fields)
  ofValue x := st.loaded st.fresh x.fields
  packed := st.packed
  unpacked := st.unpacked
  type_toValue _ := rfl
  stream_packed := st.stream_packed
  writes hp hs s := st.writes hp hs s
  reads hp hs x hx := by
    obtain ⟨l, rfl⟩ := Value.eq_struct hx
    rw [Value.fields_struct]
    exact st.reads hp hs l st.fresh
  packs hp hs s := st.packs hp hs s
  unpacks hp hs s := st.unpacks hp hs s

/-! ### What a field ends as -/

/-- The last value on the wire with this id and this type. -/
def last (id : Int16) (type : TType) (l : List (Int16 × Value)) : Option Value :=
  ((l.filter fun x => x.1 = id ∧ x.2.type = type).getLast?).map (·.2)

/-- One more field is the last if it has the id and the type. -/
theorem last_append_one (id : Int16) (type : TType) (l : List (Int16 × Value))
    (x : Int16 × Value) :
    last id type (l ++ [x]) = if x.1 = id ∧ x.2.type = type then some x.2 else last id type l := by
  unfold last
  rw [List.filter_append]
  by_cases h : x.1 = id ∧ x.2.type = type <;> simp [h]

/-- A field is found by its id. -/
theorem find_of_mem (hf : f ∈ st.fields) : (st.fields.find? fun g => g.id = f.id) = some f := by
  have hapart := st.apart
  revert hf hapart
  generalize st.fields = fields
  intro hf hapart
  induction fields with
  | nil => cases hf
  | cons g fields ih =>
      obtain ⟨hg, hfields⟩ := List.pairwise_cons.mp hapart
      rcases List.mem_cons.mp hf with rfl | hmem
      · simp
      · rw [List.find?_cons_of_neg (by simpa using (hg f hmem).1)]
        exact ih hmem hfields

/-- Fields with different ids keep out of each other's way. -/
theorem keptBy_of_mem (hf : f ∈ st.fields) {g : StructField S} (hg : g ∈ st.fields)
    (hid : f.id ≠ g.id) : f.KeptBy g := by
  have hsymm : Std.Symm (StructField.Apart : StructField S → StructField S → Prop) :=
    ⟨fun f g h => ⟨h.1.symm, h.2.2, h.2.1⟩⟩
  exact (st.apart.forall hf hg (fun h => hid (h ▸ rfl))).2.1

/-- A field with the id and the type of `f` sets `f`, and no other field does. -/
theorem load_of_mem (hf : f ∈ st.fields) (s : S) (x : Int16 × Value) :
    let t := StandardScheme.load st.fields s x
    if x.1 = f.id ∧ x.2.type = f.coded.type then
      f.get t = some (f.coded.ofValue x.2) ∧ f.isSet t = true
    else f.get t = f.get s ∧ f.isSet t = f.isSet s := by
  intro t
  by_cases hid : x.1 = f.id
  · have ht : t = if x.2.type = f.coded.type then f.set (f.coded.ofValue x.2) s else s := by
      change StandardScheme.load st.fields s x = _
      unfold StandardScheme.load
      rw [hid, st.find_of_mem hf]
    by_cases htype : x.2.type = f.coded.type
    · rw [if_pos ⟨hid, htype⟩, ht, if_pos htype]
      exact ⟨f.get_set _ _, f.isSet_set _ _⟩
    · rw [if_neg (fun h => htype h.2), ht, if_neg htype]
      exact ⟨rfl, rfl⟩
  · rw [if_neg (fun h => hid h.1)]
    change f.get (StandardScheme.load st.fields s x) = _ ∧
      f.isSet (StandardScheme.load st.fields s x) = _
    unfold StandardScheme.load
    cases hg : st.fields.find? fun g => g.id = x.1 with
    | none => exact ⟨rfl, rfl⟩
    | some g =>
        have hgid : g.id = x.1 := by simpa using List.find?_some hg
        have hkept := st.keptBy_of_mem hf (List.mem_of_find?_eq_some hg)
          (fun h => hid (h.trans hgid).symm)
        dsimp only
        split
        · exact hkept _ _
        · exact ⟨rfl, rfl⟩

/-- A field ends as the last on the wire that has its id and its type. -/
theorem get_loaded (hf : f ∈ st.fields) (s : S) (l : List (Int16 × Value)) :
    f.get (st.loaded s l) =
        (last f.id f.coded.type l).elim (f.get s) (fun x => some (f.coded.ofValue x)) ∧
      f.isSet (st.loaded s l) = ((last f.id f.coded.type l).isSome || f.isSet s) := by
  induction l using List.reverseRecOn with
  | nil => exact ⟨rfl, rfl⟩
  | append_singleton l x ih =>
      have hload := st.load_of_mem hf (st.loaded s l) x
      have happend : st.loaded s (l ++ [x]) = StandardScheme.load st.fields (st.loaded s l) x := by
        simp [loaded]
      rw [happend, last_append_one]
      by_cases hx : x.1 = f.id ∧ x.2.type = f.coded.type
      · simp only [if_pos hx] at hload ⊢
        exact ⟨hload.1, by simp [hload.2]⟩
      · simp only [if_neg hx] at hload ⊢
        exact ⟨hload.1.trans ih.1, hload.2.trans ih.2⟩

/-- The fields on the wire with the id and the type of a field: itself, if it is not null. -/
theorem filter_sent (hf : f ∈ st.fields) (s : S) :
    (StandardScheme.sent s st.fields).filter
        (fun x => x.1 = f.id ∧ x.2.type = f.coded.type) =
      ((f.get s).map fun v => (f.id, f.coded.toValue v)).toList := by
  have hapart := st.apart
  revert hf hapart
  generalize st.fields = fields
  intro hf hapart
  have hnone : ∀ fields : List (StructField S), (∀ g ∈ fields, f.id ≠ g.id) →
      (StandardScheme.sent s fields).filter
        (fun x => x.1 = f.id ∧ x.2.type = f.coded.type) = [] := by
    intro fields hid
    rw [List.filter_eq_nil_iff]
    intro x hx
    obtain ⟨g, hg, hgx⟩ := List.mem_filterMap.mp hx
    obtain ⟨v, -, rfl⟩ := Option.map_eq_some_iff.mp hgx
    simp [(hid g hg).symm]
  induction fields with
  | nil => cases hf
  | cons g fields ih =>
      obtain ⟨hg, hfields⟩ := List.pairwise_cons.mp hapart
      have hcons : StandardScheme.sent s (g :: fields) =
          ((g.get s).map fun v => (g.id, g.coded.toValue v)).toList ++
            StandardScheme.sent s fields := by
        unfold StandardScheme.sent
        rw [List.filterMap_cons]
        cases g.get s <;> rfl
      rw [hcons, List.filter_append]
      rcases List.mem_cons.mp hf with rfl | hmem
      · rw [hnone fields fun g hg' => (hg g hg').1, List.append_nil]
        cases f.get s <;> simp [f.coded.type_toValue]
      · rw [ih hmem hfields]
        have hid := (hg f hmem).1
        cases g.get s <;> simp [hid]

/-- Each field is sent once, if it is not null. -/
theorem last_sent (hf : f ∈ st.fields) (s : S) :
    last f.id f.coded.type (StandardScheme.sent s st.fields) = (f.get s).map f.coded.toValue := by
  unfold last
  rw [st.filter_sent hf]
  cases f.get s <;> rfl

/-- What becomes of a field in the standard scheme: its flag tells if it was sent. -/
theorem get_resent (hf : f ∈ st.fields) (s : S) :
    f.get (st.resent s) =
        (f.get s).elim (f.get st.fresh) (fun v => some (f.coded.ofValue (f.coded.toValue v))) ∧
      f.isSet (st.resent s) = ((f.get s).isSome || f.isSet st.fresh) := by
  have h := st.get_loaded hf st.fresh (StandardScheme.sent s st.fields)
  rw [st.last_sent hf] at h
  unfold resent
  cases hv : f.get s <;> simpa [hv] using h

/-- What becomes of a field in the tuple scheme: only those that are set are sent. -/
theorem get_unpacked (hf : f ∈ st.fields) (s : S) :
    f.get (st.unpacked s) =
        (TupleScheme.sent s f).elim (f.get st.fresh) (fun v => some (f.coded.unpacked v)) ∧
      f.isSet (st.unpacked s) = (f.isSet s || f.isSet st.fresh) := by
  have hapart := st.apart
  unfold unpacked
  revert hf hapart
  generalize st.fields = fields
  generalize st.fresh = t
  intro hf hapart
  have hkept : ∀ (fields : List (StructField S)) (t : S), (∀ g ∈ fields, f.KeptBy g) →
      f.get (fields.foldl (TupleScheme.load s) t) = f.get t ∧
        f.isSet (fields.foldl (TupleScheme.load s) t) = f.isSet t := by
    intro fields
    induction fields with
    | nil => exact fun t _ => ⟨rfl, rfl⟩
    | cons g fields ih =>
        intro t hg
        have hrest := ih (TupleScheme.load s t g) fun g' hg' => hg g' (List.mem_cons_of_mem g hg')
        have hload : f.get (TupleScheme.load s t g) = f.get t ∧
            f.isSet (TupleScheme.load s t g) = f.isSet t := by
          unfold TupleScheme.load
          cases TupleScheme.sent s g with
          | none => exact ⟨rfl, rfl⟩
          | some v => exact hg g List.mem_cons_self _ t
        exact ⟨hrest.1.trans hload.1, hrest.2.trans hload.2⟩
  induction fields generalizing t with
  | nil => cases hf
  | cons g fields ih =>
      obtain ⟨hg, hfields⟩ := List.pairwise_cons.mp hapart
      rw [List.foldl_cons]
      rcases List.mem_cons.mp hf with rfl | hmem
      · have hrest := hkept fields (TupleScheme.load s t f) fun g hg' => (hg g hg').2.1
        rw [hrest.1, hrest.2]
        unfold TupleScheme.load TupleScheme.sent
        cases hset : f.isSet s with
        | false => simp
        | true =>
            obtain ⟨v, hv⟩ := Option.isSome_iff_exists.mp (f.present s hset)
            simp [hv, f.get_set, f.isSet_set]
      · have hrest := ih (TupleScheme.load s t g) hmem hfields
        have hload : f.get (TupleScheme.load s t g) = f.get t ∧
            f.isSet (TupleScheme.load s t g) = f.isSet t := by
          unfold TupleScheme.load
          cases TupleScheme.sent s g with
          | none => exact ⟨rfl, rfl⟩
          | some v => exact (hg f hmem).2.2 _ t
        rw [hrest.1, hrest.2, hload.1, hload.2]
        exact ⟨rfl, rfl⟩

/-! ### There and back -/

/-- What is read of an instance that was written. -/
def received : Scheme → S → S
  | .standard => st.resent
  | .tuple => st.unpacked

/-- What is on the wire of an instance. -/
def wire : Scheme → S → List Token
  | .standard, s => (Value.struct (StandardScheme.sent s st.fields)).tokens
  | .tuple, s => st.packed s

/-- A struct is a well-formed sequence in both schemes. -/
theorem stream_wire (scheme : Scheme) (s : S) : Stream (st.wire scheme s) := by
  cases scheme with
  | standard =>
      simpa [wire] using Stream.value (.struct (StandardScheme.sent s st.fields)) .nil
  | tuple => exact st.stream_packed s

/-- A struct is written, in the scheme of the protocol. -/
theorem write_does (hp : p.Carries C) (s : S) :
    Writes C (st.write p s) (st.wire p.scheme s) := by
  cases hs : p.scheme with
  | standard => exact st.writes hp hs s
  | tuple => exact st.packs hp hs s

/-- A struct that was written is read back, in the scheme of the protocol. -/
theorem read_does (hp : p.Carries C) (s : S) :
    Reads C (st.read p st.fresh) (st.wire p.scheme s) (st.received p.scheme s) := by
  cases hs : p.scheme with
  | standard => exact st.reads hp hs _ st.fresh
  | tuple => exact st.unpacks hp hs s

/-- A struct that is nested as a value comes back as it is sent. -/
@[simp] theorem coded_ofValue (s : S) : st.coded.ofValue (st.coded.toValue s) = st.resent s :=
  congrArg (st.loaded st.fresh) (Value.fields_struct _)

@[simp] theorem coded_unpacked (s : S) : st.coded.unpacked s = st.unpacked s := rfl

end Struct

end MRF.Library
