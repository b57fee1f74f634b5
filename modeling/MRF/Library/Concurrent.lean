import Mathlib.Logic.Function.Basic
import MRF.Library.Prog
import MRF.Library.Run

/-!
# Library — Concurrent

Programs of `Prog` that run at the same time on one shared state.  The state answers one call at
a time, of whichever program; so a run is an interleaving of the calls, and any of them.

`Secure` is a program logic for one of the programs.  It takes a relation `R` on the shared state,
and assumes of the other programs that they keep to it: whatever they do between two calls of the
program, it keeps to `R` as well, and ends in `Q`, which may look at its own calls.  There is one
rule for each way to put programs together; `secure_run` is the rule for all of them at once.

`Within n` bounds the calls of a program by `n`, and `within_run` those it makes in a run.
-/

namespace MRF.Library

variable {Op : Type} {Res : Op → Type} {ε α β σ : Type}

/-! ### One program -/

/-- Whatever keeps to `R` happens between its calls, the program keeps to `R` and ends in `Q`.
`own` has the calls so far, each with the state that answered it. -/
def Secure (answer : σ → (op : Op) → Except ε (Res op) × σ) (R : σ → σ → Prop)
    (Q : List (σ × Op) → σ → Except ε α → Prop) :
    List (σ × Op) → σ → Prog Op Res ε α → Prop
  | own, s, .ret a => Q own s (.ok a)
  | own, s, .throw e => Q own s (.error e)
  | own, s, .call op k => ∀ s', R s s' → R s' (answer s' op).2 ∧
      Secure answer R Q (own ++ [(s', op)]) (answer s' op).2 (k (answer s' op).1)

variable {answer : σ → (op : Op) → Except ε (Res op) × σ} {R : σ → σ → Prop}
  {Q : List (σ × Op) → σ → Except ε α → Prop} {own : List (σ × Op)} {s s' : σ}

@[simp] theorem secure_pure (a : α) : Secure answer R Q own s (pure a) ↔ Q own s (.ok a) := Iff.rfl

/-- Whatever happens before it, the operation keeps to `R` and ends in `Q`. -/
theorem secure_perform (op : Op) {Q : List (σ × Op) → σ → Except ε (Res op) → Prop} :
    Secure answer R Q own s (Prog.perform op) ↔ ∀ s', R s s' → R s' (answer s' op).2 ∧
      Q (own ++ [(s', op)]) (answer s' op).2 (answer s' op).1 := by
  refine forall₂_congr fun s' _ => and_congr_right fun _ => ?_
  cases (answer s' op).1 <;> exact Iff.rfl

/-- The rule of sequence. -/
theorem secure_bind (p : Prog Op Res ε α) (f : α → Prog Op Res ε β)
    {Q : List (σ × Op) → σ → Except ε β → Prop} :
    Secure answer R Q own s (p >>= f) ↔
      Secure answer R (fun own s v => match v with
        | .ok a => Secure answer R Q own s (f a)
        | .error e => Q own s (.error e)) own s p := by
  induction p generalizing own s with
  | ret a => exact Iff.rfl
  | throw e => exact Iff.rfl
  | call op k ih => exact forall₂_congr fun s' _ => and_congr_right fun _ => ih _

/-- The handler takes over what the body throws. -/
theorem secure_tryCatch (p : Prog Op Res ε α) (h : ε → Prog Op Res ε α) :
    Secure answer R Q own s (tryCatch p h) ↔
      Secure answer R (fun own s v => match v with
        | .ok a => Q own s (.ok a)
        | .error e => Secure answer R Q own s (h e)) own s p := by
  induction p generalizing own s with
  | ret a => exact Iff.rfl
  | throw e => exact Iff.rfl
  | call op k ih => exact forall₂_congr fun s' _ => and_congr_right fun _ => ih _

/-- A weaker postcondition is secured as well. -/
theorem Secure.imp {Q' : List (σ × Op) → σ → Except ε α → Prop}
    (hQ : ∀ own s v, Q own s v → Q' own s v) {p : Prog Op Res ε α}
    (h : Secure answer R Q own s p) : Secure answer R Q' own s p := by
  induction p generalizing own s with
  | ret a => exact hQ _ _ _ h
  | throw e => exact hQ _ _ _ h
  | call op k ih => exact fun s' hs => ⟨(h s' hs).1, ih _ (h s' hs).2⟩

/-- What the others do is allowed for, as long as they do not undo `Q`. -/
theorem Secure.rely (hR : ∀ s₁ s₂ s₃, R s₁ s₂ → R s₂ s₃ → R s₁ s₃)
    (hQ : ∀ own s s' v, R s s' → Q own s v → Q own s' v) {p : Prog Op Res ε α}
    (h : Secure answer R Q own s p) (hs : R s s') : Secure answer R Q own s' p := by
  cases p with
  | ret a => exact hQ _ _ _ _ hs h
  | throw e => exact hQ _ _ _ _ hs h
  | call op k => exact fun s'' hs' => h s'' (hR _ _ _ hs hs')

namespace Prog

/-- The program makes at most `n` calls. -/
def Within : Nat → Prog Op Res ε α → Prop
  | _, ret _ => True
  | _, throw _ => True
  | 0, call _ _ => False
  | n + 1, call _ k => ∀ r, Within n (k r)

@[simp] theorem within_pure (n : Nat) (a : α) : (pure a : Prog Op Res ε α).Within n := by
  cases n <;> trivial

/-- A single operation is one call. -/
theorem within_perform (n : Nat) (op : Op) :
    (perform op : Prog Op Res ε (Res op)).Within (n + 1) := by
  rintro (_ | _) <;> cases n <;> trivial

/-- A larger bound holds as well. -/
theorem Within.mono {m n : Nat} {p : Prog Op Res ε α} (h : p.Within m) (hmn : m ≤ n) :
    p.Within n := by
  induction p generalizing m n with
  | ret a => exact within_pure n a
  | throw e => cases n <;> trivial
  | call op k ih =>
      cases m with
      | zero => exact h.elim
      | succ m =>
          cases n with
          | zero => omega
          | succ n => exact fun r => ih r (h r) (by omega)

/-- The calls of the two parts of a sequence add up. -/
theorem within_bind {m n : Nat} {p : Prog Op Res ε α} {f : α → Prog Op Res ε β}
    (hp : p.Within m) (hf : ∀ a, (f a).Within n) : (p >>= f).Within (m + n) := by
  induction p generalizing m with
  | ret a => exact (hf a).mono (Nat.le_add_left n m)
  | throw e => cases h : m + n <;> trivial
  | call op k ih =>
      cases m with
      | zero => exact hp.elim
      | succ m =>
          rw [Nat.succ_add]
          exact fun r => ih r (hp r)

/-- A handler adds its calls. -/
theorem within_tryCatch {m n : Nat} {p : Prog Op Res ε α} {h : ε → Prog Op Res ε α}
    (hp : p.Within m) (hh : ∀ e, (h e).Within n) : (tryCatch p h).Within (m + n) := by
  induction p generalizing m with
  | ret a => exact within_pure _ a
  | throw e => exact (hh e).mono (Nat.le_add_left n m)
  | call op k ih =>
      cases m with
      | zero => exact hp.elim
      | succ m =>
          rw [Nat.succ_add]
          exact fun r => ih r (hp r)

/-- What the program has come to, if it makes no more calls. -/
def outcome : Prog Op Res ε α → Option (Except ε α)
  | ret a => some (.ok a)
  | throw e => some (.error e)
  | call _ _ => none

end Prog

/-- A program that has ended meets its postcondition. -/
theorem Secure.outcome {p : Prog Op Res ε α} {v : Except ε α} (h : Secure answer R Q own s p)
    (hv : p.outcome = some v) : Q own s v := by
  cases p with
  | call op k => cases hv
  | _ =>
      cases hv
      exact h

/-! ### All of them -/

/-- Programs on their way, and the state they share. -/
structure Concurrent (Op : Type) (Res : Op → Type) (ε α σ ι : Type) where
  shared : σ
  threads : ι → Prog Op Res ε α

namespace Concurrent

variable {ι : Type} [DecidableEq ι]

/-- The program of `i` makes its next call. -/
def step (answer : σ → (op : Op) → Except ε (Res op) × σ) (s : Concurrent Op Res ε α σ ι) (i : ι) :
    Option (Concurrent Op Res ε α σ ι) :=
  match s.threads i with
  | .call op k =>
      some ⟨(answer s.shared op).2, Function.update s.threads i (k (answer s.shared op).1)⟩
  | _ => none

/-- The calls of `i`, each with the state that answered it. -/
def ownCalls (i : ι) (tr : List (Concurrent Op Res ε α σ ι × ι)) : List (σ × Op) :=
  tr.filterMap fun p =>
    if p.2 = i then
      match p.1.threads i with
      | .call op _ => some (p.1.shared, op)
      | _ => none
    else none

variable {s s' : Concurrent Op Res ε α σ ι} {i j : ι} {tr : List (Concurrent Op Res ε α σ ι × ι)}

/-- A thread steps by the operation it is at. -/
theorem step_inv (h : s.step answer i = some s') : ∃ op k, s.threads i = .call op k ∧
    s' = ⟨(answer s.shared op).2, Function.update s.threads i (k (answer s.shared op).1)⟩ := by
  unfold step at h
  split at h
  · next op k hi =>
      cases h
      exact ⟨op, k, hi, rfl⟩
  · cases h

/-- A program that has not come to its end can go on. -/
theorem can_step (h : (s.threads i).outcome = none) : ∃ s', s.step answer i = some s' := by
  cases hi : s.threads i with
  | call op k => exact ⟨_, by rw [step, hi]⟩
  | _ =>
      rw [hi] at h
      cases h

/-- The calls of a thread, over a run in two parts. -/
theorem ownCalls_append (tr tr' : List (Concurrent Op Res ε α σ ι × ι)) :
    ownCalls i (tr ++ tr') = ownCalls i tr ++ ownCalls i tr' :=
  List.filterMap_append

/-- The step of a thread is a call of its own. -/
theorem ownCalls_self {op : Op} {k : Except ε (Res op) → Prog Op Res ε α}
    (h : s.threads i = .call op k) : ownCalls i [(s, i)] = [(s.shared, op)] := by
  simp [ownCalls, h]

/-- The step of another thread is none. -/
theorem ownCalls_other (h : j ≠ i) : ownCalls i [(s, j)] = [] := by
  simp [ownCalls, h]

/-- The calls of a thread are its steps, with the state they were made in. -/
theorem mem_ownCalls {x : σ × Op} : x ∈ ownCalls i tr ↔
    ∃ s k, (s, i) ∈ tr ∧ s.shared = x.1 ∧ s.threads i = .call x.2 k := by
  simp only [ownCalls, List.mem_filterMap]
  constructor
  · rintro ⟨⟨s, j⟩, hp, hx⟩
    split at hx
    · next hj =>
        cases hj
        split at hx
        · next op k hcall =>
            cases hx
            exact ⟨s, k, hp, rfl, hcall⟩
        · cases hx
    · cases hx
  · rintro ⟨s, k, hp, hs, hcall⟩
    refine ⟨(s, i), hp, ?_⟩
    simp only [if_true, hcall, hs]

variable {Q : ι → List (σ × Op) → σ → Except ε α → Prop}

/-- The program that makes the call keeps to `R`, and the others are secure with whatever does. -/
theorem secure_step (hR : ∀ s₁ s₂ s₃, R s₁ s₂ → R s₂ s₃ → R s₁ s₃) (hrefl : ∀ s, R s s)
    (hQ : ∀ i own s s' v, R s s' → Q i own s v → Q i own s' v)
    (hs : ∀ i, Secure answer R (Q i) (ownCalls i tr) s.shared (s.threads i))
    (h : s.step answer j = some s') :
    R s.shared s'.shared ∧
      ∀ i, Secure answer R (Q i) (ownCalls i (tr ++ [(s, j)])) s'.shared (s'.threads i) := by
  obtain ⟨op, k, hj, rfl⟩ := step_inv h
  have hcall : R s.shared (answer s.shared op).2 ∧ Secure answer R (Q j)
      (ownCalls j tr ++ [(s.shared, op)]) (answer s.shared op).2 (k (answer s.shared op).1) := by
    have hsecure := hs j
    rw [hj] at hsecure
    exact hsecure s.shared (hrefl _)
  refine ⟨hcall.1, fun i => ?_⟩
  rw [ownCalls_append]
  by_cases hi : i = j
  · subst hi
    rw [ownCalls_self hj]
    simpa using hcall.2
  · rw [ownCalls_other fun he => hi he.symm, List.append_nil]
    simpa [Function.update_of_ne hi] using (hs i).rely hR (hQ i) hcall.1

/-- **The rule for programs that run at the same time**: if each is secure on its own, and the
others do not undo what it ends in, then each is secure all along. -/
theorem secure_run (hR : ∀ s₁ s₂ s₃, R s₁ s₂ → R s₂ s₃ → R s₁ s₃) (hrefl : ∀ s, R s s)
    (hQ : ∀ i own s s' v, R s s' → Q i own s v → Q i own s' v)
    (hs : ∀ i, Secure answer R (Q i) [] s.shared (s.threads i))
    (h : Run (stepOf (step answer)) s tr s') :
    R s.shared s'.shared ∧
      ∀ i, Secure answer R (Q i) (ownCalls i tr) s'.shared (s'.threads i) := by
  let J : List (Concurrent Op Res ε α σ ι × ι) → Concurrent Op Res ε α σ ι → Prop := fun tr s' =>
    R s.shared s'.shared ∧ ∀ i, Secure answer R (Q i) (ownCalls i tr) s'.shared (s'.threads i)
  have hstart : J [] s := ⟨hrefl _, hs⟩
  refine h.history (J := J) ?_ hstart
  rintro tr s₁ j s₂ hstep ⟨hshared, hs₁⟩
  obtain ⟨hcall, hs₂⟩ := secure_step hR hrefl hQ hs₁ hstep
  exact ⟨hR _ _ _ hshared hcall, hs₂⟩

/-- A program within `n` calls makes at most `n` in a run. -/
theorem within_run {n : Nat} (hn : (s.threads i).Within n)
    (h : Run (stepOf (step answer)) s tr s') : (ownCalls i tr).length ≤ n := by
  induction h generalizing n with
  | nil => exact Nat.zero_le n
  | @cons s s₁ s' j tr hstep _ ih =>
      obtain ⟨op, k, hj, rfl⟩ := step_inv hstep
      rw [← List.singleton_append, ownCalls_append, List.length_append]
      by_cases hi : i = j
      · subst hi
        rw [hj] at hn
        cases n with
        | zero => exact hn.elim
        | succ n =>
            have hrest : (ownCalls i tr).length ≤ n := ih (by simpa using hn _)
            rw [ownCalls_self hj, List.length_singleton]
            omega
      · rw [ownCalls_other fun he => hi he.symm, List.length_nil, Nat.zero_add]
        exact ih (by simpa [Function.update_of_ne hi] using hn)

end Concurrent

end MRF.Library
