import MRF.Framework.Sound

/-!
# Framework — Owned

The ids.  `own x` is the business message that the id `x` was generated for, with its retry queue.
Ids are generated anew, so a record or a message with an id has the content of the owner:
`Numbered.step`.  Two records with one id have the same content.
-/

namespace MRF
open MRF.Library MRF.Center MRF.Client
open MRF.Center.State (asksForId)

variable {B Msg : Type} [BusinessMsg B]

namespace Framework

variable {cfg : MRFServerConfig} {service : ClientService B Msg} {s s' : Framework B Msg}
  {a : Step B} {m : Msg} {rm : RetryMessage B} {x : Int} {q : String}
  {own : Int → Option (String × Msg)} {reliable : Source B Msg → Prop}

/-- Generated ids are new and positive. -/
def NewIds (s : Framework B Msg) (a : Step B) : Prop :=
  ∀ c m, s.message a = some (c, m) → asksForId m = true →
    0 < c.newId ∧ c.newId ∉ s.center.issued

/-- The content of a message, whose id, if it has one, was generated for its business message. -/
def Owned (service : ClientService B Msg) (own : Int → Option (String × Msg)) (x : Int) (q : String)
    (b : B) : Prop :=
  q ≠ "" ∧ ∃ m, service.Serializes m b ∧ (0 < x → own x = some (q, m))

/-- Every record and every message has the content of the owner of its id. -/
structure Numbered (service : ClientService B Msg) (reliable : Source B Msg → Prop)
    (own : Int → Option (String × Msg)) (s : Framework B Msg) : Prop where
  sound : Sound service reliable (Owned service own) s
  issued : ∀ x q m, own x = some (q, m) → 0 < x ∧ x ∈ s.center.issued

/-- The ids after a step: the one that it generates is the message's that it applies. -/
def ownAfter (service : ClientService B Msg) (own : Int → Option (String × Msg))
    (s : Framework B Msg) (a : Step B) : Int → Option (String × Msg) :=
  match s.message a with
  | some (c, rm) =>
      if asksForId rm then
        Function.update own c.newId
          ((service.env.serializer.deserialize rm.businessMsg).toOption.map
            (rm.retryQueueName, ·))
      else own
  | none => own

omit [BusinessMsg B] in
/-- An id that was given stays with its message. -/
theorem ownAfter_of_eq (hk : Numbered service reliable own s) (hn : s.NewIds a)
    {p : String × Msg} (hx : own x = some p) : ownAfter service own s a x = some p := by
  cases hm : s.message a with
  | none => simpa only [ownAfter, hm] using hx
  | some p' =>
      obtain ⟨c, rm⟩ := p'
      cases hask : asksForId rm with
      | false => simpa only [ownAfter, hm, hask, Bool.false_eq_true, if_false] using hx
      | true =>
          have hne : x ≠ c.newId := by
            rintro rfl
            exact (hn c rm hm hask).2 (hk.issued _ _ _ hx).2
          simpa only [ownAfter, hm, hask, if_true, Function.update_of_ne hne] using hx

omit [BusinessMsg B] in
/-- A new owner comes with a message that asks for an id. -/
theorem ownAfter_inv {p : String × Msg} (hx : ownAfter service own s a x = some p) :
    own x = some p ∨ ∃ c rm, s.message a = some (c, rm) ∧ asksForId rm = true ∧ x = c.newId := by
  cases hm : s.message a with
  | none => exact .inl (by simpa only [ownAfter, hm] using hx)
  | some p' =>
      obtain ⟨c, rm⟩ := p'
      cases hask : asksForId rm with
      | false =>
          exact .inl (by simpa only [ownAfter, hm, hask, Bool.false_eq_true, if_false] using hx)
      | true =>
          by_cases he : x = c.newId
          · exact .inr ⟨c, rm, rfl, hask, he⟩
          · left
            simpa only [ownAfter, hm, hask, if_true, Function.update_of_ne he] using hx

section
variable (hrt : service.env.serializer.RoundTrips)
include hrt

theorem isContent_owned : IsContent service (Owned service own) where
  roundTrips := hrt
  serialized := fun _ _ _ ⟨_, m, hm, _⟩ => ⟨m, hm⟩
  new := fun m _ _ hm hq => ⟨hq, m, hm, fun h => absurd h (Int.lt_irrefl 0)⟩

/-- What serializes to the same is the same message. -/
theorem serializes_unique {m m' : Msg} {b : B} (h : service.Serializes m b)
    (h' : service.Serializes m' b) : m = m' :=
  Except.ok.inj ((hrt m b h).1.symm.trans (hrt m' b h').1)

/-- The id that is generated for a message. -/
theorem ownAfter_newId {c : Call} (hm : s.message a = some (c, rm)) (hask : asksForId rm = true)
    (hser : service.Serializes m rm.businessMsg) :
    ownAfter service own s a c.newId = some (rm.retryQueueName, m) := by
  simp only [ownAfter, hm, hask, if_true, Function.update_self, (hrt m _ hser).1]
  rfl

variable (hk : Numbered service reliable own s) (h : Stepped cfg service s a s')
include hk h

/-- What is applied to the tables has content. -/
theorem Numbered.content {c : Call} (hm : s.message a = some (c, rm)) :
    ∃ m, service.Serializes m rm.businessMsg ∧
      (0 < rm.msgID → own rm.msgID = some (rm.retryQueueName, m)) ∧
      hasContent rm.retryQueueName rm.businessMsg = true := by
  obtain ⟨hq, m, hser, hown⟩ := hk.sound.applied h (isContent_owned hrt) hm
  refine ⟨m, hser, hown, ?_⟩
  simp only [hasContent, hq, (hrt m _ hser).2, ne_eq, not_false_eq_true, decide_true,
    Bool.not_false, Bool.and_true]

/-- **Every step keeps the ids with their owners.** -/
theorem Numbered.step
    (hser : ∀ source m, reliable source → source.message service.env.serializer = .ok m →
      ∃ b, service.env.serializer.serialize m = .ok b)
    (hn : s.NewIds a) (ha : s.Answers reliable a) :
    Numbered service reliable (ownAfter service own s a) s' where
  sound := by
    refine hk.sound.step h hser (isContent_owned hrt) ha ?_ ?_
    · rintro x q b ⟨hq, m, hm, hown⟩
      exact ⟨hq, m, hm, fun hpos => ownAfter_of_eq hk hn (hown hpos)⟩
    · rintro c rm hm ⟨hq, m, hmb, hown⟩ x q b - ⟨rfl, rfl, ⟨hpos, rfl⟩ | ⟨hask, hpos, rfl⟩⟩
      · exact ⟨hq, m, hmb, fun hpos => ownAfter_of_eq hk hn (hown hpos)⟩
      · exact ⟨hq, m, hmb, fun _ => ownAfter_newId hrt hm hask hmb⟩
  issued x q m hx := by
    rcases ownAfter_inv hx with hx | ⟨c, rm, hm, hask, rfl⟩
    · obtain ⟨hpos, hmem⟩ := hk.issued x q m hx
      exact ⟨hpos, h.issued_subset hmem⟩
    · exact ⟨(hn c rm hm hask).1, h.newId_issued hm hask⟩

end

omit [BusinessMsg B] in
/-- What has one id has one content. -/
theorem Owned.unique {q' : String} {b b' : B} (hpos : 0 < x) (h : Owned service own x q b)
    (h' : Owned service own x q' b') : q = q' ∧ b = b' := by
  obtain ⟨-, m, hm, hown⟩ := h
  obtain ⟨-, m', hm', hown'⟩ := h'
  have heq := (hown hpos).symm.trans (hown' hpos)
  cases heq
  exact ⟨rfl, Except.ok.inj (hm.symm.trans hm')⟩

omit [BusinessMsg B] in
/-- A generated id has no record. -/
theorem Numbered.newId_fresh (hk : Numbered service reliable own s) (hn : s.NewIds a) {c : Call}
    (hm : s.message a = some (c, rm)) (hask : asksForId rm = true) :
    ¬ s.center.tables.Stored c.newId := by
  intro hx
  obtain ⟨hpos, hnew⟩ := hn c rm hm hask
  have hrec : ∃ q b, s.center.Records c.newId q b := by
    rcases hx with hx | hx
    · obtain ⟨r, hr⟩ := Option.ne_none_iff_exists'.mp hx
      exact ⟨_, _, .interval hr⟩
    · obtain ⟨r, hr⟩ := Option.ne_none_iff_exists'.mp hx
      exact ⟨_, _, .recover hr⟩
  obtain ⟨q, b, hrec⟩ := hrec
  obtain ⟨-, -, m', -, hown⟩ := hk.sound.records _ _ _ hrec
  exact hnew (hk.issued _ _ _ (hown hpos)).2

omit [BusinessMsg B] in
theorem numbered_start (business : List (String × Msg)) :
    Numbered service reliable (fun _ => none) (start business) where
  sound := sound_start business
  issued _ _ _ hx := nomatch hx

end Framework

end MRF
