import Mathlib.Logic.Function.Basic
import MRF.Library.Prog
import MRF.Library.Run

/-!
# Library — Once

Initialization with a double check: whoever calls it returns at once when it has been done; else it
takes a lock, looks again, and runs the body if it is still to be done.  The body is a program of
`Prog` that may throw; then the next caller starts it anew.  Any number of threads may call, and
other things may happen to what is initialized, between any two calls of the body.

`Once.holds_run` is the rule: from what the body does for itself (`wp`, against a protocol) and from
what each call of it does to the shared state, to every run.  A call that returns normally finds the
initialization done, one that throws throws what the body may throw, and at most one caller is in
the body.
-/

namespace MRF.Library

variable {τ ι ο : Type*} {σ : Type} {Op : Type} {Res : Op → Type} {ε : Type}

/-- Where a caller is. -/
inductive OnceCaller (ε : Type) where
  /-- With the outcome of its last call. -/
  | out (outcome : Option (Except ε Unit))
  /-- Past the first check. -/
  | locking
  | inside

/-- What is initialized: `ι` is what the surroundings add to a call of the body, `ο` what else
happens to it. -/
structure Initialization (τ ι ο : Type*) (Op : Type) (Res : Op → Type) (ε : Type) where
  isDone : τ → Bool
  body : Prog Op Res ε Unit
  answer : τ → ι → (op : Op) → Except ε (Res op) × τ
  other : τ → ο → Option τ

/-- The shared state, who holds the lock and where, and where the callers are. -/
structure Once (τ : Type*) (Op : Type) (Res : Op → Type) (ε : Type) where
  shared : τ
  /-- The caller that has the lock, with what is left of the body. -/
  holder : Option (Nat × Prog Op Res ε Unit)
  callers : Nat → OnceCaller ε

/-- A caller calls and goes on; others act beside. -/
inductive OnceAction (ι ο : Type*) where
  | call (c : Nat)
  | enter (c : Nat)
  /-- The caller with the lock goes on in the body, or leaves it. -/
  | next (input : ι)
  | other (o : ο)

namespace Once

def initial (t : τ) : Once τ Op Res ε := ⟨t, none, fun _ => .out none⟩

def goTo (s : Once τ Op Res ε) (c : Nat) (place : OnceCaller ε) : Once τ Op Res ε :=
  { s with callers := Function.update s.callers c place }

/-- The caller with the lock leaves the body. -/
def leave (s : Once τ Op Res ε) (c : Nat) (outcome : Except ε Unit) : Once τ Op Res ε :=
  { s with holder := none }.goTo c (.out (some outcome))

/-- One step of the callers, or beside them. -/
def step (I : Initialization τ ι ο Op Res ε) (s : Once τ Op Res ε) :
    OnceAction ι ο → Option (Once τ Op Res ε)
  | .call c =>
      match s.callers c with
      | .out _ =>
          some (s.goTo c (if I.isDone s.shared then .out (some (.ok ())) else .locking))
      | _ => none
  | .enter c =>
      match s.callers c, s.holder with
      | .locking, none =>
          some (if I.isDone s.shared then s.goTo c (.out (some (.ok ())))
            else { s with holder := some (c, I.body) }.goTo c .inside)
      | _, _ => none
  | .next input =>
      match s.holder with
      | some (c, .ret ()) => some (s.leave c (.ok ()))
      | some (c, .throw e) => some (s.leave c (.error e))
      | some (c, .call op k) =>
          some { s with
            shared := (I.answer s.shared input op).2
            holder := some (c, k (I.answer s.shared input op).1) }
      | none => none
  | .other o => (I.other s.shared o).map fun t => { s with shared := t }

variable {I : Initialization τ ι ο Op Res ε} {s s' : Once τ Op Res ε} {a : OnceAction ι ο}
  {P : Protocol Op Res ε σ} {Q : σ → Unit → Prop} {E : σ → ε → Prop} {T : ε → Prop} {p₀ : σ}
  {J : Option σ → τ → Prop} {c : Nat}

/-- The enabled actions of a state, each with what it needs and the state it leads to. -/
inductive Stepped (I : Initialization τ ι ο Op Res ε) (s : Once τ Op Res ε) :
    OnceAction ι ο → Once τ Op Res ε → Prop where
  | found {c : Nat} {v : Option (Except ε Unit)} (hc : s.callers c = .out v)
      (hd : I.isDone s.shared = true) : Stepped I s (.call c) (s.goTo c (.out (some (.ok ()))))
  | call {c : Nat} {v : Option (Except ε Unit)} (hc : s.callers c = .out v)
      (hd : I.isDone s.shared = false) : Stepped I s (.call c) (s.goTo c .locking)
  | foundLate {c : Nat} (hc : s.callers c = .locking) (hl : s.holder = none)
      (hd : I.isDone s.shared = true) : Stepped I s (.enter c) (s.goTo c (.out (some (.ok ()))))
  | enter {c : Nat} (hc : s.callers c = .locking) (hl : s.holder = none)
      (hd : I.isDone s.shared = false) :
      Stepped I s (.enter c) ({ s with holder := some (c, I.body) }.goTo c .inside)
  | returns {c : Nat} (i : ι) (hl : s.holder = some (c, .ret ())) :
      Stepped I s (.next i) (s.leave c (.ok ()))
  | throws {c : Nat} {e : ε} (i : ι) (hl : s.holder = some (c, .throw e)) :
      Stepped I s (.next i) (s.leave c (.error e))
  | answered {c : Nat} {op : Op} {k : Except ε (Res op) → Prog Op Res ε Unit} (i : ι)
      (hl : s.holder = some (c, .call op k)) : Stepped I s (.next i)
        { s with
          shared := (I.answer s.shared i op).2
          holder := some (c, k (I.answer s.shared i op).1) }
  | other {o : ο} {t : τ} (h : I.other s.shared o = some t) :
      Stepped I s (.other o) { s with shared := t }

theorem step_stepped (h : s.step I a = some s') : Stepped I s a s' := by
  cases a with
  | call c =>
      simp only [step] at h
      split at h
      · next v hc =>
          cases hd : I.isDone s.shared with
          | true =>
              rw [hd] at h
              cases h
              exact .found hc hd
          | false =>
              rw [hd] at h
              cases h
              exact .call hc hd
      · cases h
  | enter c =>
      simp only [step] at h
      split at h
      · next hc hl =>
          cases hd : I.isDone s.shared with
          | true =>
              rw [hd] at h
              cases h
              exact .foundLate hc hl hd
          | false =>
              rw [hd] at h
              cases h
              exact .enter hc hl hd
      · cases h
  | next i =>
      simp only [step] at h
      split at h
      · next hl => cases h; exact .returns i hl
      · next hl => cases h; exact .throws i hl
      · next hl => cases h; exact .answered i hl
      · cases h
  | other o =>
      simp only [step] at h
      obtain ⟨t, ht, rfl⟩ := Option.map_eq_some_iff.mp h
      exact .other ht

/-! ### The rule -/

/-- What the calls of the body do to the shared state, by how far the body is.  `T` is what may be
said of an exception by itself. -/
structure Keeps (I : Initialization τ ι ο Op Res ε) (P : Protocol Op Res ε σ)
    (Q : σ → Unit → Prop) (E : σ → ε → Prop) (T : ε → Prop) (p₀ : σ) (J : Option σ → τ → Prop) :
    Prop where
  body : wp P Q E p₀ I.body
  enters : ∀ t, J none t → I.isDone t = false → J (some p₀) t
  answers : ∀ t i p op, J (some p) t → P.allows p op → P.answers p op (I.answer t i op).1 ∧
    J (some (P.next p op (I.answer t i op).1)) (I.answer t i op).2
  returns : ∀ t p, J (some p) t → Q p () → J none t ∧ I.isDone t = true
  throws : ∀ t p e, J (some p) t → E p e → J none t ∧ T e
  others : ∀ t x o t', J x t → I.other t o = some t' → J x t'
  stays : ∀ t i op, I.isDone t = true → I.isDone (I.answer t i op).2 = true
  otherStays : ∀ t o t', I.isDone t = true → I.other t o = some t' → I.isDone t' = true

/-- Nobody is in the body, or one caller is, which keeps to the protocol. -/
inductive Body (P : Protocol Op Res ε σ) (Q : σ → Unit → Prop) (E : σ → ε → Prop)
    (J : Option σ → τ → Prop) (t : τ) : Option (Nat × Prog Op Res ε Unit) → Prop where
  | free (h : J none t) : Body P Q E J t none
  | taken {c : Nat} {p : σ} {rest : Prog Op Res ε Unit} (h : J (some p) t) (hw : wp P Q E p rest) :
      Body P Q E J t (some (c, rest))

/-- What holds while the body runs, when it is done and after it has failed. -/
structure Holds (I : Initialization τ ι ο Op Res ε) (P : Protocol Op Res ε σ)
    (Q : σ → Unit → Prop) (E : σ → ε → Prop) (T : ε → Prop) (J : Option σ → τ → Prop)
    (s : Once τ Op Res ε) : Prop where
  body : Body P Q E J s.shared s.holder
  returned : ∀ c, s.callers c = .out (some (.ok ())) → I.isDone s.shared = true
  threw : ∀ c e, s.callers c = .out (some (.error e)) → T e

/-- A caller goes to another place, with the body as it must be. -/
theorem Holds.goTo (hs : s.Holds I P Q E T J) {place : OnceCaller ε} {t : Once τ Op Res ε}
    (hbody : Body P Q E J t.shared t.holder) (hcallers : t.callers = s.callers)
    (hdone : I.isDone s.shared = true → I.isDone t.shared = true)
    (hplace : place = .out (some (.ok ())) → I.isDone t.shared = true)
    (hthrew : ∀ e, place = .out (some (.error e)) → T e) : (t.goTo c place).Holds I P Q E T J where
  body := hbody
  returned d hd := by
    change Function.update t.callers c place d = _ at hd
    by_cases hdc : d = c
    · rw [hdc, Function.update_self] at hd
      exact hplace hd
    · rw [Function.update_of_ne hdc, hcallers] at hd
      exact hdone (hs.returned d hd)
  threw d e hd := by
    change Function.update t.callers c place d = _ at hd
    by_cases hdc : d = c
    · rw [hdc, Function.update_self] at hd
      exact hthrew e hd
    · rw [Function.update_of_ne hdc, hcallers] at hd
      exact hs.threw d e hd

/-- A step keeps what holds. -/
theorem Holds.step (hk : Keeps I P Q E T p₀ J) (h : s.step I a = some s')
    (hs : s.Holds I P Q E T J) : s'.Holds I P Q E T J := by
  have hbody := hs.body
  cases step_stepped h with
  | found hc hd | foundLate hc hl hd => exact hs.goTo hbody rfl id (fun _ => hd) (by simp)
  | call hc hd => exact hs.goTo hbody rfl id (by simp) (by simp)
  | enter hc hl hd =>
      rw [hl] at hbody
      cases hbody with
      | free hJ =>
          refine hs.goTo (t := { s with holder := some (_, I.body) }) ?_ rfl id (by simp) (by simp)
          exact .taken (hk.enters _ hJ hd) hk.body
  | returns i hl =>
      rw [hl] at hbody
      cases hbody with
      | taken hJ hw =>
          obtain ⟨hfree, hdone⟩ := hk.returns _ _ hJ hw
          exact hs.goTo (t := { s with holder := none }) (.free hfree) rfl id (fun _ => hdone)
            (by simp)
  | throws i hl =>
      rw [hl] at hbody
      cases hbody with
      | taken hJ hw =>
          obtain ⟨hfree, hT⟩ := hk.throws _ _ _ hJ hw
          refine hs.goTo (t := { s with holder := none }) (.free hfree) rfl id (by simp) ?_
          rintro _ ⟨⟩
          exact hT
  | @answered c op k i hl =>
      rw [hl] at hbody
      cases hbody with
      | taken hJ hw =>
          obtain ⟨hanswer, hnext⟩ := hk.answers _ i _ op hJ hw.1
          exact ⟨.taken hnext (hw.2 _ hanswer),
            fun d hd => hk.stays _ _ _ (hs.returned d hd), hs.threw⟩
  | @other o t ho =>
      refine ⟨?_, fun d hd => hk.otherStays _ _ _ (hs.returned d hd) ho, hs.threw⟩
      change Body P Q E J t s.holder
      generalize s.holder = holder at hbody ⊢
      cases hbody with
      | free hJ => exact .free (hk.others _ _ _ _ hJ ho)
      | taken hJ hw => exact .taken (hk.others _ _ _ _ hJ ho) hw

/-- The caller with the lock is the one that is in the body. -/
def Exclusive (s : Once τ Op Res ε) : Prop :=
  ∀ c, s.callers c = .inside ↔ ∃ rest, s.holder = some (c, rest)

/-- A step keeps the body to one caller. -/
theorem Exclusive.step (h : s.step I a = some s') (hs : s.Exclusive) : s'.Exclusive := by
  have hmoves {c : Nat} {place : OnceCaller ε} (hc : s.callers c ≠ .inside)
      (hp : place ≠ .inside) : (s.goTo c place).Exclusive := by
    intro d
    change Function.update s.callers c place d = _ ↔ _
    by_cases hd : d = c
    · subst hd
      rw [Function.update_self]
      exact ⟨fun h => absurd h hp, fun h => absurd ((hs d).mpr h) hc⟩
    · rw [Function.update_of_ne hd]
      exact hs d
  have hleaves {c : Nat} {rest : Prog Op Res ε Unit} {v : Except ε Unit}
      (hl : s.holder = some (c, rest)) : (s.leave c v).Exclusive := by
    intro d
    change Function.update s.callers c (.out (some v)) d = _ ↔ ∃ rest, none = some (d, rest)
    by_cases hd : d = c
    · subst hd
      simp
    · rw [Function.update_of_ne hd, hs d, hl]
      simp [Ne.symm hd]
  cases step_stepped h with
  | found hc hd | call hc hd => exact hmoves (by simp [hc]) (by simp)
  | foundLate hc hl hd => exact hmoves (by simp [hc]) (by simp)
  | @enter c hc hl hd =>
      intro d
      change Function.update s.callers c .inside d = _ ↔ ∃ rest, some (c, I.body) = some (d, rest)
      by_cases hdc : d = c
      · subst hdc
        simp
      · rw [Function.update_of_ne hdc, hs d, hl]
        simp [Ne.symm hdc]
  | returns i hl => exact hleaves hl
  | throws i hl => exact hleaves hl
  | @answered c op k i hl =>
      intro d
      refine (hs d).trans ?_
      rw [hl]
      simp
  | other ho => exact hs

/-- **The rule for an initialization with a double check.** -/
theorem holds_run (hk : Keeps I P Q E T p₀ J) {t : τ} (ht : J none t)
    {tr : List (Once τ Op Res ε × OnceAction ι ο)} (hrun : Run (stepOf (step I)) (initial t) tr s) :
    s.Holds I P Q E T J ∧ s.Exclusive :=
  hrun.invariant (I := fun s => s.Holds I P Q E T J ∧ s.Exclusive)
    (fun _ _ _ h hs => ⟨Holds.step hk h hs.1, Exclusive.step h hs.2⟩)
    ⟨⟨.free ht, nofun, nofun⟩, fun c => by simp [initial]⟩

end Once

end MRF.Library
