import MRF.Library.Prog

/-!
# Library — Outcome

What a program of `Prog` comes to, for each way its calls may be answered.  `Ends p tr v` says that
`p`, answered along the trace `tr`, ends with `v`: it returns or throws.

* There is one rule for each way to put programs together, as an equivalence.
* `Ends.unique`: no outcome's trace extends another's, so a trace splits in one way at the point
  where a part of the program ends.
* `Ends.wp` and `Ends.always` turn what was proved of all answers into facts about one trace.

`exec` runs a program where the calls are answered, with the same rules as equations.
-/

namespace MRF.Library

variable {Op : Type} {Res : Op → Type} {ε σ α β : Type}

/-- The calls of a program, each with its answer. -/
abbrev Answers (Op : Type) (Res : Op → Type) (ε : Type) := List ((op : Op) × Except ε (Res op))

/-- Answered along the trace, the program ends with `v`. -/
inductive Prog.Ends : Prog Op Res ε α → Answers Op Res ε → Except ε α → Prop where
  | ret (a : α) : Ends (.ret a) [] (.ok a)
  | throw (e : ε) : Ends (.throw e) [] (.error e)
  | call {op : Op} {k : Except ε (Res op) → Prog Op Res ε α} {r : Except ε (Res op)}
      {tr : Answers Op Res ε} {v : Except ε α} (h : Ends (k r) tr v) :
      Ends (.call op k) (⟨op, r⟩ :: tr) v

namespace Prog

variable {p : Prog Op Res ε α} {tr : Answers Op Res ε} {v : Except ε α}

@[simp] theorem ends_pure {a : α} : (pure a : Prog Op Res ε α).Ends tr v ↔ tr = [] ∧ v = .ok a := by
  constructor
  · rintro ⟨⟩
    exact ⟨rfl, rfl⟩
  · rintro ⟨rfl, rfl⟩
    exact .ret a

@[simp] theorem ends_throw {e : ε} :
    (MonadExcept.throw e : Prog Op Res ε α).Ends tr v ↔ tr = [] ∧ v = .error e := by
  constructor
  · rintro ⟨⟩
    exact ⟨rfl, rfl⟩
  · rintro ⟨rfl, rfl⟩
    exact .throw e

/-- An operation ends with its answer. -/
@[simp] theorem ends_perform {op : Op} {v : Except ε (Res op)} :
    (perform op : Prog Op Res ε (Res op)).Ends tr v ↔ tr = [⟨op, v⟩] := by
  constructor
  · rintro (_ | _ | @⟨_, _, r, tr, _, h⟩)
    cases r <;> cases h <;> rfl
  · rintro rfl
    cases v with
    | ok a => exact .call (.ret a)
    | error e => exact .call (.throw e)

@[simp] theorem ends_ofExcept {x : Except ε α} :
    (ofExcept x : Prog Op Res ε α).Ends tr v ↔ tr = [] ∧ v = x := by
  cases x with
  | ok a => exact ends_pure
  | error e => exact ends_throw

/-- A sequence ends in its second part, or with what the first throws. -/
theorem ends_bind {f : α → Prog Op Res ε β} {v : Except ε β} :
    (p >>= f).Ends tr v ↔
      (∃ tr₁ tr₂ a, tr = tr₁ ++ tr₂ ∧ p.Ends tr₁ (.ok a) ∧ (f a).Ends tr₂ v) ∨
        ∃ e, p.Ends tr (.error e) ∧ v = .error e := by
  constructor
  · intro h
    induction p generalizing tr with
    | ret a => exact .inl ⟨[], tr, a, rfl, .ret a, h⟩
    | throw e =>
        cases h
        exact .inr ⟨e, .throw e, rfl⟩
    | call op k ih =>
        obtain _ | _ | h := h
        rcases ih _ h with ⟨tr₁, tr₂, a, rfl, h₁, h₂⟩ | ⟨e, h₁, rfl⟩
        · exact .inl ⟨_, tr₂, a, rfl, .call h₁, h₂⟩
        · exact .inr ⟨e, .call h₁, rfl⟩
  · rintro (⟨tr₁, tr₂, a, rfl, h₁, h₂⟩ | ⟨e, h₁, rfl⟩)
    · induction p generalizing tr₁ with
      | ret a' =>
          cases h₁
          exact h₂
      | throw e => cases h₁
      | call op k ih =>
          obtain _ | _ | h₁ := h₁
          exact .call (ih _ _ h₁)
    · induction p generalizing tr with
      | ret a => cases h₁
      | throw e' =>
          cases h₁
          exact .throw e
      | call op k ih =>
          obtain _ | _ | h₁ := h₁
          exact .call (ih _ h₁)

/-- A `try` ends with its body, or in the handler of what that throws. -/
theorem ends_tryCatch {h : ε → Prog Op Res ε α} :
    (tryCatch p h).Ends tr v ↔
      (∃ a, p.Ends tr (.ok a) ∧ v = .ok a) ∨
        ∃ tr₁ tr₂ e, tr = tr₁ ++ tr₂ ∧ p.Ends tr₁ (.error e) ∧ (h e).Ends tr₂ v := by
  constructor
  · intro hp
    induction p generalizing tr with
    | ret a =>
        cases hp
        exact .inl ⟨a, .ret a, rfl⟩
    | throw e => exact .inr ⟨[], tr, e, rfl, .throw e, hp⟩
    | call op k ih =>
        obtain _ | _ | hp := hp
        rcases ih _ hp with ⟨a, h₁, rfl⟩ | ⟨tr₁, tr₂, e, rfl, h₁, h₂⟩
        · exact .inl ⟨a, .call h₁, rfl⟩
        · exact .inr ⟨_, tr₂, e, rfl, .call h₁, h₂⟩
  · rintro (⟨a, h₁, rfl⟩ | ⟨tr₁, tr₂, e, rfl, h₁, h₂⟩)
    · induction p generalizing tr with
      | ret a' =>
          cases h₁
          exact .ret a
      | throw e => cases h₁
      | call op k ih =>
          obtain _ | _ | h₁ := h₁
          exact .call (ih _ h₁)
    · induction p generalizing tr₁ with
      | ret a => cases h₁
      | throw e' =>
          cases h₁
          exact h₂
      | call op k ih =>
          obtain _ | _ | h₁ := h₁
          exact .call (ih _ _ h₁)

/-- Two outcomes of one program part at an answer, or not at all. -/
theorem Ends.unique {tr' rest rest' : Answers Op Res ε} {v' : Except ε α} (h : p.Ends tr v)
    (h' : p.Ends tr' v') (he : tr ++ rest = tr' ++ rest') : tr = tr' ∧ v = v' ∧ rest = rest' := by
  induction h generalizing tr' with
  | ret a =>
      cases h'
      exact ⟨rfl, rfl, he⟩
  | throw e =>
      cases h'
      exact ⟨rfl, rfl, he⟩
  | call h ih =>
      obtain _ | _ | h' := h'
      rw [List.cons_append, List.cons_append] at he
      obtain ⟨hr, ht⟩ := List.cons.inj he
      cases hr
      obtain ⟨rfl, hv, hrest⟩ := ih h' ht
      exact ⟨rfl, hv, hrest⟩

/-- Every call of an outcome meets what every call of the program meets. -/
theorem Ends.always {A : Op → Prop} (h : p.Ends tr v) (hA : p.Always A) : ∀ a ∈ tr, A a.1 := by
  induction h with
  | ret a => simp
  | throw e => simp
  | call h ih =>
      rintro a (_ | ⟨_, ha⟩)
      · exact hA.1
      · exact ih (hA.2 _) a ha

end Prog

/-! ### Programs that are run -/

namespace Prog

/-- Runs a program in an environment, whose state is an `σ`, that answers its calls. -/
def exec (answer : σ → (op : Op) → Except ε (Res op) × σ) : Prog Op Res ε α → σ → Except ε α × σ
  | ret a, s => (.ok a, s)
  | throw e, s => (.error e, s)
  | call op k, s => exec answer (k (answer s op).1) (answer s op).2

variable {answer : σ → (op : Op) → Except ε (Res op) × σ} {p : Prog Op Res ε α} {s s' : σ}

@[simp] theorem exec_pure (a : α) : (pure a : Prog Op Res ε α).exec answer s = (.ok a, s) := rfl

theorem exec_perform (op : Op) :
    (perform op : Prog Op Res ε (Res op)).exec answer s = answer s op := by
  unfold perform exec
  rcases answer s op with ⟨_ | _, _⟩ <;> rfl

/-- A sequence is executed part after part. -/
theorem exec_bind (f : α → Prog Op Res ε β) :
    (p >>= f).exec answer s = match p.exec answer s with
      | (.ok a, s') => (f a).exec answer s'
      | (.error e, s') => (.error e, s') := by
  induction p generalizing s with
  | ret a => rfl
  | throw e => rfl
  | call op k ih => exact ih _

theorem exec_bind_ok {f : α → Prog Op Res ε β} {a : α} (h : p.exec answer s = (.ok a, s')) :
    (p >>= f).exec answer s = (f a).exec answer s' := by
  rw [exec_bind, h]

theorem exec_bind_error {f : α → Prog Op Res ε β} {e : ε}
    (h : p.exec answer s = (.error e, s')) : (p >>= f).exec answer s = (.error e, s') := by
  rw [exec_bind, h]

/-- The handler is executed after what the body throws. -/
theorem exec_tryCatch (h : ε → Prog Op Res ε α) :
    (tryCatch p h).exec answer s = match p.exec answer s with
      | (.ok a, s') => (.ok a, s')
      | (.error e, s') => (h e).exec answer s' := by
  induction p generalizing s with
  | ret a => rfl
  | throw e => rfl
  | call op k ih => exact ih _

end Prog

/-! ### Protocols along a trace -/

namespace Protocol

/-- The state that a trace leads to. -/
def after (P : Protocol Op Res ε σ) (s : σ) (tr : Answers Op Res ε) : σ :=
  tr.foldl (fun s a => P.next s a.1 a.2) s

/-- Every answer of the trace is as the protocol assumes. -/
def Answered (P : Protocol Op Res ε σ) : σ → Answers Op Res ε → Prop
  | _, [] => True
  | s, a :: tr => P.answers s a.1 a.2 ∧ P.Answered (P.next s a.1 a.2) tr

end Protocol

/-- What `wp` proves of a program holds of each outcome of it. -/
theorem Prog.Ends.wp {P : Protocol Op Res ε σ} {Q : σ → α → Prop} {E : σ → ε → Prop} {s : σ}
    {p : Prog Op Res ε α} {tr : Answers Op Res ε} {v : Except ε α} (h : p.Ends tr v)
    (hwp : MRF.Library.wp P Q E s p) (ha : P.Answered s tr) :
    (∀ a, v = .ok a → Q (P.after s tr) a) ∧ ∀ e, v = .error e → E (P.after s tr) e := by
  induction h generalizing s with
  | ret a =>
      refine ⟨fun a' he => ?_, fun e he => (by cases he)⟩
      cases he
      exact hwp
  | throw e =>
      refine ⟨fun a he => (by cases he), fun e' he => ?_⟩
      cases he
      exact hwp
  | call h ih => exact ih (hwp.2 _ ha.1) ha.2

end MRF.Library
