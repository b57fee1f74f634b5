import Mathlib.Tactic.TypeStar

/-!
# Library — Prog

Programs as effect trees: a program returns, throws, or calls an operation and goes on with what
the operation answered or raised.  Nothing is said here about what an operation does; a system
that runs such programs, one call at a time and interleaved with others, says it.

A `Protocol` follows the calls of a program with a state: it says which calls are allowed, what
may be assumed of the answers, and how the state moves.  `wp` is the weakest precondition of a
program against a protocol, with one rule for each way to put programs together.  An
`Activation` is a program on its way, with the state of its protocol; `Activation.Conforms.answer`
is the rule of a system that answers the pending call.
-/

namespace MRF.Library

/-- Programs over operations `Op`, which answer in `Res` or raise an `ε`. -/
inductive Prog (Op : Type) (Res : Op → Type) (ε : Type) (α : Type) where
  | ret (a : α)
  | throw (e : ε)
  | call (op : Op) (k : Except ε (Res op) → Prog Op Res ε α)

namespace Prog

variable {Op : Type} {Res : Op → Type} {ε α β : Type}

def bind : Prog Op Res ε α → (α → Prog Op Res ε β) → Prog Op Res ε β
  | ret a, f => f a
  | throw e, _ => throw e
  | call op k, f => call op fun r => (k r).bind f

/-- `try p catch e => h e`: what `h` throws is not caught. -/
def catchWith : Prog Op Res ε α → (ε → Prog Op Res ε α) → Prog Op Res ε α
  | ret a, _ => ret a
  | throw e, h => h e
  | call op k, h => call op fun r => (k r).catchWith h

/-- Calls one operation, and passes on what it raises. -/
def perform (op : Op) : Prog Op Res ε (Res op) :=
  call op fun
    | .ok a => ret a
    | .error e => throw e

/-- A computation that makes no call. -/
def ofExcept : Except ε α → Prog Op Res ε α
  | .ok a => ret a
  | .error e => throw e

instance : Monad (Prog Op Res ε) where
  pure := ret
  bind := bind

instance : MonadExceptOf ε (Prog Op Res ε) where
  throw := throw
  tryCatch := catchWith

/-! ### Calls -/

/-- Every call that the program can come to meets `A`, whatever the answers before it. -/
def Always (A : Op → Prop) : Prog Op Res ε α → Prop
  | ret _ => True
  | throw _ => True
  | call op k => A op ∧ ∀ r, Always A (k r)

variable {A : Op → Prop}

/-- A property of all operations holds of every program. -/
theorem always_of_forall (h : ∀ op, A op) (p : Prog Op Res ε α) : Always A p := by
  induction p with
  | ret a => trivial
  | throw e => trivial
  | call op k ih => exact ⟨h op, ih⟩

/-- A weaker property holds of a program as well. -/
theorem Always.mono {A' : Op → Prop} (hA : ∀ op, A op → A' op) {p : Prog Op Res ε α}
    (h : Always A p) : Always A' p := by
  induction p with
  | ret a => trivial
  | throw e => trivial
  | call op k ih => exact ⟨hA op h.1, fun r => ih r (h.2 r)⟩

theorem always_perform {op : Op} (h : A op) :
    Always A (perform op : Prog Op Res ε (Res op)) := by
  refine ⟨h, fun r => ?_⟩
  cases r <;> trivial

theorem always_bind {p : Prog Op Res ε α} {f : α → Prog Op Res ε β} (hp : Always A p)
    (hf : ∀ a, Always A (f a)) : Always A (p >>= f) := by
  induction p with
  | ret a => exact hf a
  | throw e => trivial
  | call op k ih => exact ⟨hp.1, fun r => ih r (hp.2 r)⟩

theorem always_tryCatch {p : Prog Op Res ε α} {h : ε → Prog Op Res ε α} (hp : Always A p)
    (hh : ∀ e, Always A (h e)) : Always A (tryCatch p h) := by
  induction p with
  | ret a => trivial
  | throw e => exact hh e
  | call op k ih => exact ⟨hp.1, fun r => ih r (hp.2 r)⟩

end Prog

/-! ### Protocols -/

/-- What a program may call and may assume, as a state `σ` follows its calls. -/
structure Protocol (Op : Type) (Res : Op → Type) (ε σ : Type) where
  allows : σ → Op → Prop
  answers : σ → (op : Op) → Except ε (Res op) → Prop
  next : σ → (op : Op) → Except ε (Res op) → σ

variable {Op : Type} {Res : Op → Type} {ε σ α β : Type} {P : Protocol Op Res ε σ}
  {Q Q' : σ → α → Prop} {E E' : σ → ε → Prop} {s : σ}

/-- The weakest precondition: every call is allowed, and the program returns in `Q` or throws in
`E`, as long as the answers are as the protocol assumes. -/
def wp (P : Protocol Op Res ε σ) (Q : σ → α → Prop) (E : σ → ε → Prop) :
    σ → Prog Op Res ε α → Prop
  | s, .ret a => Q s a
  | s, .throw e => E s e
  | s, .call op k => P.allows s op ∧ ∀ r, P.answers s op r → wp P Q E (P.next s op r) (k r)

@[simp] theorem wp_pure (a : α) : wp P Q E s (pure a) ↔ Q s a := Iff.rfl

@[simp] theorem wp_throw (e : ε) : wp P Q E s (throw e) ↔ E s e := Iff.rfl

/-- The operation is allowed, and each answer leads to its postcondition. -/
@[simp] theorem wp_perform (op : Op) {Q : σ → Res op → Prop} :
    wp P Q E s (Prog.perform op) ↔ P.allows s op ∧
      (∀ a, P.answers s op (.ok a) → Q (P.next s op (.ok a)) a) ∧
      ∀ e, P.answers s op (.error e) → E (P.next s op (.error e)) e := by
  refine and_congr_right fun _ => ⟨fun h => ⟨fun a => h (.ok a), fun e => h (.error e)⟩, ?_⟩
  rintro ⟨hok, herror⟩ (e | a) hr
  · exact herror e hr
  · exact hok a hr

/-- A value that is there already: it is returned, or thrown. -/
@[simp] theorem wp_ofExcept (x : Except ε α) :
    wp P Q E s (Prog.ofExcept x) ↔ (∀ a, x = .ok a → Q s a) ∧ ∀ e, x = .error e → E s e := by
  cases x with
  | ok a => exact ⟨fun h => ⟨fun _ ha => Except.ok.inj ha ▸ h, nofun⟩, fun h => h.1 a rfl⟩
  | error e => exact ⟨fun h => ⟨nofun, fun _ he => Except.error.inj he ▸ h⟩, fun h => h.2 e rfl⟩

/-- The rule of sequence. -/
@[simp] theorem wp_bind (p : Prog Op Res ε α) (f : α → Prog Op Res ε β) {Q : σ → β → Prop} :
    wp P Q E s (p >>= f) ↔ wp P (fun s a => wp P Q E s (f a)) E s p := by
  induction p generalizing s with
  | ret a => exact Iff.rfl
  | throw e => exact Iff.rfl
  | call op k ih =>
      exact and_congr_right fun _ => forall_congr' fun r => imp_congr_right fun _ => ih r

/-- The handler takes over what the body throws. -/
@[simp] theorem wp_tryCatch (p : Prog Op Res ε α) (h : ε → Prog Op Res ε α) :
    wp P Q E s (tryCatch p h) ↔ wp P Q (fun s e => wp P Q E s (h e)) s p := by
  induction p generalizing s with
  | ret a => exact Iff.rfl
  | throw e => exact Iff.rfl
  | call op k ih =>
      exact and_congr_right fun _ => forall_congr' fun r => imp_congr_right fun _ => ih r

/-- The rule of consequence. -/
theorem wp_mono {p : Prog Op Res ε α} (h : wp P Q E s p) (hQ : ∀ s a, Q s a → Q' s a)
    (hE : ∀ s e, E s e → E' s e) : wp P Q' E' s p := by
  induction p generalizing s with
  | ret a => exact hQ s a h
  | throw e => exact hE s e h
  | call op k ih => exact ⟨h.1, fun r hr => ih r (h.2 r hr)⟩

/-- The rule for a loop; `Inv` looks at the part of the list that the loop has been through. -/
theorem wp_forM {f : α → Prog Op Res ε PUnit} {Inv : List α → σ → Prop}
    (hstep : ∀ l a s, Inv l s → wp P (fun s _ => Inv (l ++ [a]) s) E s (f a)) (l : List α)
    (h : Inv [] s) : wp P (fun s _ => Inv l s) E s (l.forM f) := by
  suffices hgo : ∀ l₀, Inv l₀ s → wp P (fun s _ => Inv (l₀ ++ l) s) E s (l.forM f) from hgo [] h
  clear h
  induction l generalizing s with
  | nil => exact fun l₀ h => (List.append_nil l₀).symm ▸ h
  | cons a l ih =>
      intro l₀ h
      refine (wp_bind ..).mpr ?_
      refine wp_mono (hstep l₀ a s h) (fun s _ h => ?_) fun _ _ h => h
      have := ih (l₀ ++ [a]) h
      rwa [List.append_assoc] at this

/-! ### Activations -/

/-- A program on its way, with the state that its protocol is in. -/
structure Activation (Op : Type) (Res : Op → Type) (ε σ α : Type) where
  state : σ
  rest : Prog Op Res ε α

namespace Activation

variable {a : Activation Op Res ε σ α} {op : Op} {k : Except ε (Res op) → Prog Op Res ε α}
  {r : Except ε (Res op)}

/-- The activation after the pending call `op` was answered by `r`. -/
def answer (P : Protocol Op Res ε σ) (a : Activation Op Res ε σ α) (op : Op)
    (k : Except ε (Res op) → Prog Op Res ε α) (r : Except ε (Res op)) :
    Activation Op Res ε σ α :=
  ⟨P.next a.state op r, k r⟩

/-- The rest of the program keeps to the protocol. -/
def Conforms (P : Protocol Op Res ε σ) (Q : σ → α → Prop) (E : σ → ε → Prop)
    (a : Activation Op Res ε σ α) : Prop :=
  wp P Q E a.state a.rest

/-- The next operation of an activation that conforms is allowed. -/
theorem Conforms.allows (h : a.Conforms P Q E) (ha : a.rest = .call op k) :
    P.allows a.state op := by
  unfold Conforms at h
  rw [ha] at h
  exact h.1

/-- An activation that conforms still does after an answer. -/
theorem Conforms.answer (h : a.Conforms P Q E) (ha : a.rest = .call op k)
    (hr : P.answers a.state op r) : (a.answer P op k r).Conforms P Q E := by
  unfold Conforms at h
  rw [ha] at h
  exact h.2 r hr

/-- What is returned meets the postcondition. -/
theorem Conforms.returned {v : α} (h : a.Conforms P Q E) (ha : a.rest = .ret v) :
    Q a.state v := by
  unfold Conforms at h
  rw [ha] at h
  exact h

/-- What is thrown meets the postcondition of exceptions. -/
theorem Conforms.thrown {e : ε} (h : a.Conforms P Q E) (ha : a.rest = .throw e) :
    E a.state e := by
  unfold Conforms at h
  rw [ha] at h
  exact h

end Activation

end MRF.Library
