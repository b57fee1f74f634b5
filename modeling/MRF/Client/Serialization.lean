import MRF.Client.Configure
import MRF.Client.Wrapper

/-!
# Client — Serialization

What becomes of a business message on its way through `MessageSerializer`.  Gson is a parameter,
with what is documented of it: it writes a value by its class, and reads it back by the type that
is declared.  A header is declared an `Object`, so a number among the headers is read as a double,
and a date is read to the second.

`retried_iff`: a listener sees the same message on every retry, exactly when no header has an
integer in it, at any depth, and the timestamp is a whole second.
-/

namespace MRF.Client

variable {B P D : Type}

/-! ### Messages -/

/-- A value of a header.  A map is the list of its entries; `D` are the doubles. -/
inductive HeaderValue (D : Type) where
  | string (s : String)
  | bool (b : Bool)
  | int (n : Int32)
  | long (n : Int64)
  | double (d : D)
  | list (values : List (HeaderValue D))
  | map (entries : List (String × HeaderValue D))

/-- An AMQP message.  `P` are the typed properties but for the date. -/
structure Message (P D : Type) where
  body : List UInt8
  properties : P
  /-- In milliseconds. -/
  timestamp : Option Int
  headers : List (String × HeaderValue D)

/-- A JSON value; a number is known by what its literal stands for. -/
inductive Json (D : Type) where
  | string (s : String)
  | bool (b : Bool)
  | integer (n : Int)
  | decimal (d : D)
  | array (elements : List (Json D))
  | object (members : List (String × Json D))

/-- A date to the second. -/
def toSecond (millis : Int) : Int := millis / 1000 * 1000

theorem dvd_toSecond (t : Int) : 1000 ∣ toSecond t := Int.dvd_mul_left _ _

/-- Only a whole second stays. -/
theorem toSecond_eq_iff (t : Int) : toSecond t = t ↔ 1000 ∣ t :=
  ⟨fun h => h ▸ dvd_toSecond t, fun h => Int.ediv_mul_cancel h⟩

theorem dvd_of_mem_map_toSecond (timestamp : Option Int) :
    ∀ t ∈ timestamp.map toSecond, 1000 ∣ t := by
  cases timestamp with
  | none => simp
  | some t => simp [dvd_toSecond]

theorem map_toSecond_eq_iff (timestamp : Option Int) :
    timestamp.map toSecond = timestamp ↔ ∀ t ∈ timestamp, 1000 ∣ t := by
  cases timestamp with
  | none => simp
  | some t => simp [toSecond_eq_iff]

/-- Gson, as far as `MessageSerializer` depends on it. -/
structure Gson (B P D : Type) where
  toJson : Message P D → B
  fromJson : B → Except Throwable (Message P D)
  /-- The adapter of a value by its class, and that of the type `Object`. -/
  writeValue : HeaderValue D → Json D
  readObject : Json D → HeaderValue D
  toDouble : Int → D
  /-- Typed fields are read back at their declared types, dates to the second.  `P` does not tell a
  property that is null from the default of its class: a null content type or priority is not
  written, and comes back as the default. -/
  reads : ∀ m, fromJson (toJson m) = .ok { m with
    timestamp := m.timestamp.map toSecond
    headers := m.headers.map fun p => (p.1, readObject (writeValue p.2)) }
  write_string : ∀ s, writeValue (.string s) = .string s
  write_bool : ∀ b, writeValue (.bool b) = .bool b
  write_int : ∀ n, writeValue (.int n) = .integer n.toInt
  write_long : ∀ n, writeValue (.long n) = .integer n.toInt
  write_double : ∀ d, writeValue (.double d) = .decimal d
  write_list : ∀ vs, writeValue (.list vs) = .array (vs.map writeValue)
  write_map : ∀ es, writeValue (.map es) = .object (es.map fun p => (p.1, writeValue p.2))
  read_string : ∀ s, readObject (.string s) = .string s
  read_bool : ∀ b, readObject (.bool b) = .bool b
  /-- A number that is read as an `Object` becomes a double. -/
  read_integer : ∀ n, readObject (.integer n) = .double (toDouble n)
  read_decimal : ∀ d, readObject (.decimal d) = .double d
  read_array : ∀ js, readObject (.array js) = .list (js.map readObject)
  read_object : ∀ ms, readObject (.object ms) = .map (ms.map fun p => (p.1, readObject p.2))

/-! ### Headers -/

mutual

/-- There is no integer in the value. -/
def HeaderValue.hasNoInteger : HeaderValue D → Bool
  | .int _ | .long _ => false
  | .list vs => HeaderValue.listHasNoInteger vs
  | .map es => HeaderValue.entriesHaveNoInteger es
  | _ => true

def HeaderValue.listHasNoInteger : List (HeaderValue D) → Bool
  | [] => true
  | v :: vs => v.hasNoInteger && HeaderValue.listHasNoInteger vs

def HeaderValue.entriesHaveNoInteger : List (String × HeaderValue D) → Bool
  | [] => true
  | (_, v) :: es => v.hasNoInteger && HeaderValue.entriesHaveNoInteger es

end

namespace Gson

variable (g : Gson B P D)

/-- A header as it comes back. -/
def readBack (v : HeaderValue D) : HeaderValue D := g.readObject (g.writeValue v)

/-- A list is read back element by element. -/
theorem readBack_list (vs : List (HeaderValue D)) :
    g.readBack (.list vs) = .list (vs.map g.readBack) := by
  rw [readBack, g.write_list, g.read_array, List.map_map]
  rfl

/-- A map is read back entry by entry. -/
theorem readBack_map (es : List (String × HeaderValue D)) :
    g.readBack (.map es) = .map (es.map fun p => (p.1, g.readBack p.2)) := by
  rw [readBack, g.write_map, g.read_object, List.map_map]
  rfl

/-- A 32-bit integer comes back as a double. -/
theorem readBack_int (n : Int32) : g.readBack (.int n) = .double (g.toDouble n.toInt) := by
  rw [readBack, g.write_int, g.read_integer]

theorem readBack_long (n : Int64) : g.readBack (.long n) = .double (g.toDouble n.toInt) := by
  rw [readBack, g.write_long, g.read_integer]

theorem readBack_string (s : String) : g.readBack (.string s) = .string s := by
  rw [readBack, g.write_string, g.read_string]

theorem readBack_bool (b : Bool) : g.readBack (.bool b) = .bool b := by
  rw [readBack, g.write_bool, g.read_bool]

theorem readBack_double (d : D) : g.readBack (.double d) = .double d := by
  rw [readBack, g.write_double, g.read_decimal]

mutual

/-- A header comes back as it was exactly when it has no integer in it. -/
theorem readBack_eq_iff : ∀ v : HeaderValue D, g.readBack v = v ↔ v.hasNoInteger = true
  | .string s => by simp [readBack_string, HeaderValue.hasNoInteger]
  | .bool b => by simp [readBack_bool, HeaderValue.hasNoInteger]
  | .int n => by simp [readBack_int, HeaderValue.hasNoInteger]
  | .long n => by simp [readBack_long, HeaderValue.hasNoInteger]
  | .double d => by simp [readBack_double, HeaderValue.hasNoInteger]
  | .list vs => by
      rw [readBack_list, HeaderValue.list.injEq, HeaderValue.hasNoInteger]
      exact map_readBack_eq_iff vs
  | .map es => by
      rw [readBack_map, HeaderValue.map.injEq, HeaderValue.hasNoInteger]
      exact entries_readBack_eq_iff es

theorem map_readBack_eq_iff : ∀ vs : List (HeaderValue D),
    vs.map g.readBack = vs ↔ HeaderValue.listHasNoInteger vs = true
  | [] => by simp [HeaderValue.listHasNoInteger]
  | v :: vs => by
      rw [List.map_cons, List.cons.injEq, HeaderValue.listHasNoInteger, Bool.and_eq_true,
        readBack_eq_iff v, map_readBack_eq_iff vs]

theorem entries_readBack_eq_iff : ∀ es : List (String × HeaderValue D),
    (es.map fun p => (p.1, g.readBack p.2)) = es ↔ HeaderValue.entriesHaveNoInteger es = true
  | [] => by simp [HeaderValue.entriesHaveNoInteger]
  | (k, v) :: es => by
      rw [List.map_cons, List.cons.injEq, HeaderValue.entriesHaveNoInteger, Bool.and_eq_true,
        entries_readBack_eq_iff es, Prod.mk.injEq, readBack_eq_iff v]
      simp

end

mutual

/-- What comes back has no integer in it. -/
theorem hasNoInteger_readBack : ∀ v : HeaderValue D, (g.readBack v).hasNoInteger = true
  | .string s => by rw [readBack_string]; rfl
  | .bool b => by rw [readBack_bool]; rfl
  | .int n => by rw [readBack_int]; rfl
  | .long n => by rw [readBack_long]; rfl
  | .double d => by rw [readBack_double]; rfl
  | .list vs => by
      rw [readBack_list, HeaderValue.hasNoInteger]
      exact listHasNoInteger_readBack vs
  | .map es => by
      rw [readBack_map, HeaderValue.hasNoInteger]
      exact entriesHaveNoInteger_readBack es

theorem listHasNoInteger_readBack : ∀ vs : List (HeaderValue D),
    HeaderValue.listHasNoInteger (vs.map g.readBack) = true
  | [] => rfl
  | v :: vs => by
      rw [List.map_cons, HeaderValue.listHasNoInteger, hasNoInteger_readBack v,
        listHasNoInteger_readBack vs]
      rfl

theorem entriesHaveNoInteger_readBack : ∀ es : List (String × HeaderValue D),
    HeaderValue.entriesHaveNoInteger (es.map fun p => (p.1, g.readBack p.2)) = true
  | [] => rfl
  | (k, v) :: es => by
      rw [List.map_cons, HeaderValue.entriesHaveNoInteger, hasNoInteger_readBack v,
        entriesHaveNoInteger_readBack es]
      rfl

end

/-! ### Messages -/

/-- A message as it comes back. -/
def received (m : Message P D) : Message P D :=
  { m with
    timestamp := m.timestamp.map toSecond
    headers := m.headers.map fun p => (p.1, g.readBack p.2) }

/-- A message comes back as it was exactly when no header has an integer in it, and its timestamp
is a whole second. -/
theorem received_eq_iff (m : Message P D) : g.received m = m ↔
    HeaderValue.entriesHaveNoInteger m.headers = true ∧ ∀ t ∈ m.timestamp, 1000 ∣ t := by
  obtain ⟨body, properties, timestamp, headers⟩ := m
  rw [received, Message.mk.injEq, map_toSecond_eq_iff, g.entries_readBack_eq_iff headers]
  simp [and_comm]

/-- The second trip changes nothing. -/
theorem received_received (m : Message P D) : g.received (g.received m) = g.received m := by
  rw [received_eq_iff]
  exact ⟨g.entriesHaveNoInteger_readBack m.headers, dvd_of_mem_map_toSecond m.timestamp⟩

/-- `MessageSerializer`. -/
def serializer : MessageSerializer B (Message P D) :=
  { serialize := fun m => .ok (g.toJson m)
    deserialize := g.fromJson }

/-- What is deserialized is the message as Gson leaves it. -/
theorem deserialize_toJson (m : Message P D) :
    g.serializer.deserialize (g.toJson m) = .ok (g.received m) :=
  g.reads m

end Gson

/-! ### Retries -/

/-- The message that a listener is called with on retry `n` of `m`: a wrapper that has `m'` makes a
retry message of it, and a `RetryMessageListener` that takes that message calls the listener. -/
inductive Sees {Msg : Type} (env : ClientEnv B Msg) (m : Msg) : Nat → Msg → Prop where
  | first : Sees env m 0 m
  | again {n : Nat} {m' m'' : Msg} {w : BusinessMessageListenerWrapper} {flag : MessageFlag}
      {isMessageForRetry : Bool} {rm : RetryMessage B} {c : RetryQueueConfig}
      {k : Except Throwable Unit → ClientProg B Msg Unit} (h : Sees env m n m')
      (hsent : w.constructRetryMessage env m' flag isMessageForRetry = .ok rm)
      (htaken : RetryMessageListener.onMessage env c (some rm) =
        .call (.invokeBusinessMessage m'') k) :
      Sees env m (n + 1) m''

/-- The business message of a retry message is the serialized message. -/
theorem businessMsg_of_constructRetryMessage {Msg : Type} {env : ClientEnv B Msg}
    {w : BusinessMessageListenerWrapper} {m : Msg} {flag : MessageFlag} {forRetry : Bool}
    {rm : RetryMessage B} (h : w.constructRetryMessage env m flag forRetry = .ok rm) :
    env.serializer.serialize m = .ok rm.businessMsg := by
  unfold BusinessMessageListenerWrapper.constructRetryMessage at h
  split at h
  · next hs =>
      cases h
      exact hs
  · cases h

/-- A retry message whose business message deserializes: the listener is called with it. -/
theorem onRetryMessage_eq {Msg : Type} {env : ClientEnv B Msg} {c : RetryQueueConfig}
    {rm : RetryMessage B} {m : Msg} (h : env.serializer.deserialize rm.businessMsg = .ok m) :
    ∃ k, RetryMessageListener.onMessage env c (some rm) =
      .call (.invokeBusinessMessage m) k := by
  unfold RetryMessageListener.onMessage
  simp only [h]
  unfold BusinessMessageListenerWrapper.onMessage
  split
  · exact ⟨_, rfl⟩
  · exact ⟨_, rfl⟩

section Retried

variable (g : Gson B P D) (cp : ClassPath) (m : Message P D)

/-- The client of `MessageSerializer`. -/
def Gson.env : ClientEnv B (Message P D) := ⟨cp, g.serializer⟩

variable {g cp m} in
/-- What one retry does: the listener is called with the message as it comes back. -/
theorem Gson.eq_received {m' m'' : Message P D} {w : BusinessMessageListenerWrapper}
    {flag : MessageFlag} {isMessageForRetry : Bool} {rm : RetryMessage B} {c : RetryQueueConfig}
    {k : Except Throwable Unit → ClientProg B (Message P D) Unit}
    (hsent : w.constructRetryMessage (g.env cp) m' flag isMessageForRetry = .ok rm)
    (htaken : RetryMessageListener.onMessage (g.env cp) c (some rm) =
      .call (.invokeBusinessMessage m'') k) : m'' = g.received m' := by
  have hs : Except.ok (g.toJson m') = Except.ok rm.businessMsg :=
    businessMsg_of_constructRetryMessage hsent
  have hd : (g.env cp).serializer.deserialize rm.businessMsg = .ok (g.received m') := by
    rw [← Except.ok.inj hs]
    exact g.deserialize_toJson m'
  obtain ⟨k', hk'⟩ := onRetryMessage_eq (c := c) hd
  rw [hk'] at htaken
  cases htaken
  rfl

/-- Every message is seen again. -/
theorem Gson.sees_again {n : Nat} {m' : Message P D} (h : Sees (g.env cp) m n m') :
    Sees (g.env cp) m (n + 1) (g.received m') := by
  let w := BusinessMessageListenerWrapper.initial (RetryQueueConfig.feedQ 0 1)
  let rm := w.retryMessage (g.toJson m') .immediateMsgDoRetry true
  have hd : (g.env cp).serializer.deserialize rm.businessMsg = .ok (g.received m') :=
    g.deserialize_toJson m'
  obtain ⟨k, hk⟩ := onRetryMessage_eq (c := RetryQueueConfig.feedQ 0 1) hd
  exact .again h rfl hk

variable {g cp m} in
/-- Whatever the number of retries, the message is as it was or as it came back the first time. -/
theorem Gson.eq_of_sees {n : Nat} {m' : Message P D} (h : Sees (g.env cp) m n m') :
    m' = m ∨ m' = g.received m := by
  induction h with
  | first => exact .inl rfl
  | again h hsent htaken ih =>
      right
      have heq := Gson.eq_received hsent htaken
      obtain rfl | rfl := ih
      · exact heq
      -- after the first retry there is no integer left to change
      · rw [heq, g.received_received]

/-- A message survives its serialization, and the listener sees the same message on every retry,
exactly when no header has an integer in it, at any depth, and the timestamp is a whole second. -/
theorem retried_iff :
    ((g.serializer.serialize m).bind g.serializer.deserialize = .ok m ∧
      ∀ n m', Sees (g.env cp) m n m' → m' = m) ↔
    HeaderValue.entriesHaveNoInteger m.headers = true ∧ ∀ t ∈ m.timestamp, 1000 ∣ t := by
  rw [← g.received_eq_iff]
  constructor
  · rintro ⟨-, h⟩
    exact h 1 _ (g.sees_again cp m .first)
  · intro h
    refine ⟨?_, fun n m' hm' => ?_⟩
    · exact (g.deserialize_toJson m).trans (congrArg Except.ok h)
    · obtain rfl | rfl := Gson.eq_of_sees hm'
      · rfl
      · exact h

end Retried

/-! ### A Gson whose doubles are rationals -/

mutual

def HeaderValue.toJson : HeaderValue D → Json D
  | .string s => .string s
  | .bool b => .bool b
  | .int n => .integer n.toInt
  | .long n => .integer n.toInt
  | .double d => .decimal d
  | .list vs => .array (HeaderValue.listToJson vs)
  | .map es => .object (HeaderValue.entriesToJson es)

def HeaderValue.listToJson : List (HeaderValue D) → List (Json D)
  | [] => []
  | v :: vs => v.toJson :: HeaderValue.listToJson vs

def HeaderValue.entriesToJson : List (String × HeaderValue D) → List (String × Json D)
  | [] => []
  | (k, v) :: es => (k, v.toJson) :: HeaderValue.entriesToJson es

end

mutual

def Json.toObject : Json Rat → HeaderValue Rat
  | .string s => .string s
  | .bool b => .bool b
  | .integer n => .double n
  | .decimal d => .double d
  | .array js => .list (Json.listToObject js)
  | .object ms => .map (Json.membersToObject ms)

def Json.listToObject : List (Json Rat) → List (HeaderValue Rat)
  | [] => []
  | j :: js => j.toObject :: Json.listToObject js

def Json.membersToObject : List (String × Json Rat) → List (String × HeaderValue Rat)
  | [] => []
  | (k, j) :: ms => (k, j.toObject) :: Json.membersToObject ms

end

/-- The elements of a list are written one by one. -/
theorem listToJson_eq (vs : List (HeaderValue D)) :
    HeaderValue.listToJson vs = vs.map HeaderValue.toJson := by
  induction vs with
  | nil => rfl
  | cons v vs ih => rw [HeaderValue.listToJson, ih, List.map_cons]

theorem entriesToJson_eq (es : List (String × HeaderValue D)) :
    HeaderValue.entriesToJson es = es.map fun p => (p.1, p.2.toJson) := by
  induction es with
  | nil => rfl
  | cons e es ih => rw [HeaderValue.entriesToJson, ih, List.map_cons]

theorem listToObject_eq (js : List (Json Rat)) :
    Json.listToObject js = js.map Json.toObject := by
  induction js with
  | nil => rfl
  | cons j js ih => rw [Json.listToObject, ih, List.map_cons]

theorem membersToObject_eq (ms : List (String × Json Rat)) :
    Json.membersToObject ms = ms.map fun p => (p.1, p.2.toObject) := by
  induction ms with
  | nil => rfl
  | cons e ms ih => rw [Json.membersToObject, ih, List.map_cons]

/-- A message as it is written: its date in seconds, its headers as JSON. -/
structure JsonMessage (P D : Type) where
  body : List UInt8
  properties : P
  timestamp : Option Int
  headers : List (String × Json D)

/-- Gson with rationals for doubles. -/
def rationalGson (P : Type) : Gson (JsonMessage P Rat) P Rat where
  toJson m := ⟨m.body, m.properties, m.timestamp.map (· / 1000),
    m.headers.map fun p => (p.1, p.2.toJson)⟩
  fromJson j := .ok ⟨j.body, j.properties, j.timestamp.map (· * 1000),
    j.headers.map fun p => (p.1, p.2.toObject)⟩
  writeValue := HeaderValue.toJson
  readObject := Json.toObject
  toDouble n := n
  reads m := by
    simp only [Option.map_map, List.map_map]
    rfl
  write_string _ := rfl
  write_bool _ := rfl
  write_int _ := rfl
  write_long _ := rfl
  write_double _ := rfl
  write_list vs := by rw [HeaderValue.toJson, listToJson_eq]
  write_map es := by rw [HeaderValue.toJson, entriesToJson_eq]
  read_string _ := rfl
  read_bool _ := rfl
  read_integer _ := rfl
  read_decimal _ := rfl
  read_array js := by rw [Json.toObject, listToObject_eq]
  read_object ms := by rw [Json.toObject, membersToObject_eq]

/-- A message without a body, with one header. -/
def countMessage (count : HeaderValue Rat) : Message Unit Rat := ⟨[], (), none, [("count", count)]⟩

/-- A string survives every retry. -/
theorem string_retried : ∀ n m',
    Sees ((rationalGson Unit).env RetryQueueConfig.sampleClassPath) (countMessage (.string "5")) n
      m' → m' = countMessage (.string "5") := by
  have hdate : ∀ t ∈ (countMessage (.string "5")).timestamp, (1000 : Int) ∣ t := by
    simp [countMessage]
  exact ((retried_iff (rationalGson Unit) _ _).mpr ⟨rfl, hdate⟩).2

/-- The header `count` is an integer; from the first retry on it is a double. -/
theorem count_retried :
    ((rationalGson Unit).serializer.serialize (countMessage (.int 5))).bind
        (rationalGson Unit).serializer.deserialize = .ok (countMessage (.double 5)) ∧
      Sees ((rationalGson Unit).env RetryQueueConfig.sampleClassPath) (countMessage (.int 5)) 1
        (countMessage (.double 5)) ∧
      countMessage (.double 5) ≠ countMessage (.int 5) := by
  have hback : (rationalGson Unit).received (countMessage (.int 5)) = countMessage (.double 5) := by
    rw [Gson.received, countMessage, countMessage, List.map_cons, Gson.readBack_int]
    rfl
  refine ⟨?_, ?_, ?_⟩
  · rw [← hback]
    exact (rationalGson Unit).deserialize_toJson _
  · rw [← hback]
    exact (rationalGson Unit).sees_again _ _ .first
  · intro h
    injection h with _ _ _ hheaders
    injection hheaders with hheader _
    injection hheader with _ hvalue
    cases hvalue

end MRF.Client
