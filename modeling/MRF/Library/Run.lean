import Mathlib.Algebra.BigOperators.Group.List.Basic

/-!
# Library — Run

Labelled transition systems, given as a relation `Step : σ → α → σ → Prop`, and their finite
runs.  The trace of a run lists the actions taken, each with the state it was taken in, so that
an event of the run is a predicate on a state and an action.

* `Run.invariant` is the induction principle for safety, `Run.forall_mem` its form for the
  events of the run.  `Run.last_entry` finds the step that a property holds since, and
  `Run.always_iff` says which runs a property holds all along.
* `Run.history` is the induction principle for a property that also looks at the trace so far,
  and `Happened` says that the trace has an event.
* `Run.balance` is the law of an account that every step keeps, `Run.bounded` that of a stock that
  is never filled up.
* `Refines.run` is the rule for a refinement: what is seen of a run is a run of the specification.
* `Run.exists_of_variant` is the rule for what can always be reached, and `Reaches` puts such runs
  together.
* `Guarded Step G` keeps the steps whose state and action meet `G`.  A statement of the form "in
  every run whose steps all meet `G`" is a statement about `Run (Guarded Step G)`.
* `Run.of_exec` turns an evaluation of a step function into a run.
-/

namespace MRF.Library

variable {σ α : Type*} {Step Step' : σ → α → σ → Prop}

/-- A finite run of `Step`. -/
inductive Run (Step : σ → α → σ → Prop) : σ → List (σ × α) → σ → Prop where
  | nil (s : σ) : Run Step s [] s
  | cons {s s₁ s' : σ} {a : α} {tr : List (σ × α)}
      (h : Step s a s₁) (t : Run Step s₁ tr s') : Run Step s ((s, a) :: tr) s'

namespace Run

theorem one {s s' : σ} {a : α} (h : Step s a s') : Run Step s [(s, a)] s' :=
  .cons h (.nil _)

/-- Runs are put together. -/
theorem trans {s s₁ s' : σ} {tr₁ tr₂ : List (σ × α)} (h₁ : Run Step s tr₁ s₁)
    (h₂ : Run Step s₁ tr₂ s') : Run Step s (tr₁ ++ tr₂) s' := by
  induction h₁ with
  | nil => exact h₂
  | cons h _ ih => exact .cons h (ih h₂)

theorem mono (hS : ∀ s a s', Step s a s' → Step' s a s') {s s' : σ} {tr : List (σ × α)}
    (h : Run Step s tr s') : Run Step' s tr s' := by
  induction h with
  | nil => exact .nil _
  | cons h _ ih => exact .cons (hS _ _ _ h) ih

/-- A run along `tr₁ ++ tr₂` passes through a state between the two. -/
theorem append_inv {s s' : σ} {tr₁ tr₂ : List (σ × α)} (h : Run Step s (tr₁ ++ tr₂) s') :
    ∃ s₁, Run Step s tr₁ s₁ ∧ Run Step s₁ tr₂ s' := by
  induction tr₁ generalizing s with
  | nil => exact ⟨s, .nil s, h⟩
  | cons p tr ih =>
      cases h with
      | cons h t =>
          obtain ⟨s₁, h₁, h₂⟩ := ih t
          exact ⟨s₁, .cons h h₁, h₂⟩

theorem cons_inv {s s' : σ} {p : σ × α} {tr : List (σ × α)} (h : Run Step s (p :: tr) s') :
    p.1 = s ∧ ∃ s₁, Step s p.2 s₁ ∧ Run Step s₁ tr s' := by
  cases h with
  | cons h t => exact ⟨rfl, _, h, t⟩

/-- What every step preserves, every run preserves. -/
theorem invariant {I : σ → Prop} (hI : ∀ s a s', Step s a s' → I s → I s') {s s' : σ}
    {tr : List (σ × α)} (h : Run Step s tr s') (hs : I s) : I s' := by
  induction h with
  | nil => exact hs
  | cons h _ ih => exact ih (hI _ _ _ h hs)

/-- Every event of a run is a step out of a state where the invariant holds, reached by the run. -/
theorem forall_mem {I : σ → Prop} (hI : ∀ s a s', Step s a s' → I s → I s') {s s' : σ}
    {tr : List (σ × α)} (h : Run Step s tr s') (hs : I s) :
    ∀ p ∈ tr, I p.1 ∧ ∃ s₁, Step p.1 p.2 s₁ := by
  induction h with
  | nil => simp
  | cons h _ ih =>
      rintro p (_ | ⟨_, hp⟩)
      · exact ⟨hs, _, h⟩
      · exact ih (hI _ _ _ h hs) p hp

/-- A property that a step keeps exactly when it meets `G` holds all along a run exactly when
every event of the run meets `G`. -/
theorem always_iff {I P : σ → Prop} {G : σ → α → Prop} (hI : ∀ s a s', Step s a s' → I s → I s')
    (hG : ∀ s a s', Step s a s' → I s → P s → (P s' ↔ G s a)) {s s' : σ} {tr : List (σ × α)}
    (h : Run Step s tr s') (hs : I s) (hP : P s) :
    ((∀ p ∈ tr, P p.1) ∧ P s') ↔ ∀ p ∈ tr, G p.1 p.2 := by
  induction h with
  | nil => simp [hP]
  | @cons s s₁ s' a tr h t ih =>
      have hs₁ := hI _ _ _ h hs
      have hstep := hG _ _ _ h hs hP
      simp only [List.forall_mem_cons]
      constructor
      · rintro ⟨⟨-, htr⟩, hend⟩
        have hP₁ : P s₁ := by
          cases t with
          | nil => exact hend
          | cons h' t' => exact htr _ List.mem_cons_self
        exact ⟨hstep.mp hP₁, (ih hs₁ hP₁).mp ⟨htr, hend⟩⟩
      · rintro ⟨ha, htr⟩
        obtain ⟨hall, hend⟩ := (ih hs₁ (hstep.mpr ha)).mpr htr
        exact ⟨⟨hP, hall⟩, hend⟩

/-- A property that holds at the end of a run held all along, or was last entered at some step
and held from then on. -/
theorem last_entry {P : σ → Prop} {s s' : σ} {tr : List (σ × α)} (h : Run Step s tr s')
    (hs' : P s') : (P s ∧ ∀ p ∈ tr, P p.1) ∨
      ∃ tr₁ s₁ a s₂ tr₂, tr = tr₁ ++ (s₁, a) :: tr₂ ∧ Step s₁ a s₂ ∧ ¬ P s₁ ∧ P s₂ ∧
        ∀ p ∈ tr₂, P p.1 := by
  induction h with
  | nil => exact .inl ⟨hs', by simp⟩
  | @cons s s₁ s' a tr h _ ih =>
      rcases ih hs' with ⟨hs₁, hall⟩ | ⟨tr₁, s₂, b, s₃, tr₂, rfl, hrest⟩
      · by_cases hs : P s
        · refine .inl ⟨hs, ?_⟩
          rintro p (_ | ⟨_, hp⟩)
          · exact hs
          · exact hall p hp
        · exact .inr ⟨[], s, a, s₁, tr, rfl, h, hs, hs₁, hall⟩
      · exact .inr ⟨(s, a) :: tr₁, s₂, b, s₃, tr₂, rfl, hrest⟩

/-- What can go on as long as it is not done can be done; `d` is the variant. -/
theorem exists_of_variant {I : Nat → σ → Prop} {P : σ → Prop}
    (hI : ∀ d s, I d s → P s ∨ ∃ tr s₁, Run Step s tr s₁ ∧ ∃ d₁, d₁ < d ∧ I d₁ s₁) {d : Nat} {s : σ}
    (h : I d s) : ∃ tr s', Run Step s tr s' ∧ P s' := by
  induction d using Nat.strongRecOn generalizing s with
  | ind d ih =>
      rcases hI d s h with hP | ⟨tr, s₁, hrun, d₁, hlt, h₁⟩
      · exact ⟨[], s, .nil s, hP⟩
      · obtain ⟨tr', s', hrun', hP⟩ := ih d₁ hlt h₁
        exact ⟨tr ++ tr', s', hrun.trans hrun', hP⟩

end Run

/-! ### Histories -/

/-- Some event of the trace meets `Q`, which may also look at the events before it. -/
def Happened (Q : List (σ × α) → σ → α → Prop) (tr : List (σ × α)) : Prop :=
  ∃ tr₁ s a tr₂, tr = tr₁ ++ (s, a) :: tr₂ ∧ Q tr₁ s a

/-- What holds of the last step has happened. -/
theorem Happened.last {Q : List (σ × α) → σ → α → Prop} {tr : List (σ × α)} {s : σ} {a : α}
    (h : Q tr s a) : Happened Q (tr ++ [(s, a)]) :=
  ⟨tr, s, a, [], rfl, h⟩

/-- What has happened stays so. -/
theorem Happened.append {Q : List (σ × α) → σ → α → Prop} {tr : List (σ × α)}
    (h : Happened Q tr) (tr' : List (σ × α)) : Happened Q (tr ++ tr') := by
  obtain ⟨tr₁, s, a, tr₂, rfl, hQ⟩ := h
  exact ⟨tr₁, s, a, tr₂ ++ tr', by simp, hQ⟩

/-- The induction principle for a property of a state and of the events that led to it. -/
theorem Run.history {J : List (σ × α) → σ → Prop}
    (hJ : ∀ tr s a s', Step s a s' → J tr s → J (tr ++ [(s, a)]) s') {s s' : σ}
    {tr₀ tr : List (σ × α)} (h : Run Step s tr s') (hs : J tr₀ s) : J (tr₀ ++ tr) s' := by
  induction h generalizing tr₀ with
  | nil => rwa [List.append_nil]
  | cons h _ ih => simpa using ih (hJ _ _ _ _ h hs)

/-- An invariant of the history, from a start with none. -/
theorem Run.history_of_start {J : List (σ × α) → σ → Prop}
    (hJ : ∀ tr s a s', Step s a s' → J tr s → J (tr ++ [(s, a)]) s') {s s' : σ}
    {tr : List (σ × α)} (h : Run Step s tr s') (hs : J [] s) : J tr s' := by
  have hrun := h.history hJ hs
  rwa [List.nil_append] at hrun

/-- At every event of a run the property holds of the events before it. -/
theorem Run.history_mem {J : List (σ × α) → σ → Prop}
    (hJ : ∀ tr s a s', Step s a s' → J tr s → J (tr ++ [(s, a)]) s') {s s' : σ}
    {tr₁ tr₂ : List (σ × α)} {p : σ × α} (h : Run Step s (tr₁ ++ p :: tr₂) s') (hs : J [] s) :
    J tr₁ p.1 ∧ ∃ s₁, Step p.1 p.2 s₁ := by
  obtain ⟨s₁, h₁, h₂⟩ := h.append_inv
  obtain ⟨hp, s₂, hstep, -⟩ := h₂.cons_inv
  exact ⟨hp ▸ h₁.history_of_start hJ hs, s₂, hp ▸ hstep⟩

/-! ### Accounts -/

/-- What `f` adds up to along a trace. -/
def total {M : Type*} [AddCommMonoid M] (f : σ → α → M) (tr : List (σ × α)) : M :=
  (tr.map fun p => f p.1 p.2).sum

@[simp] theorem total_nil {M : Type*} [AddCommMonoid M] (f : σ → α → M) : total f [] = 0 := rfl

theorem total_cons {M : Type*} [AddCommMonoid M] (f : σ → α → M) (s : σ) (a : α)
    (tr : List (σ × α)) : total f ((s, a) :: tr) = f s a + total f tr := by
  simp only [total, List.map_cons, List.sum_cons]

theorem total_append {M : Type*} [AddCommMonoid M] (f : σ → α → M) (tr tr' : List (σ × α)) :
    total f (tr ++ tr') = total f tr + total f tr' := by
  simp only [total, List.map_append, List.sum_append]

/-- A total of sums is the sum of the totals. -/
theorem total_add {M : Type*} [AddCommMonoid M] (f g : σ → α → M) (tr : List (σ × α)) :
    total (fun s a => f s a + g s a) tr = total f tr + total g tr := by
  induction tr with
  | nil => simp
  | cons p tr ih =>
      obtain ⟨s, a⟩ := p
      simp only [total_cons, ih]
      ac_rfl

/-- What every step balances, every run balances: `V` is what a state has, and a step takes in
what `inn` says and gives away what `out` says. -/
theorem Run.balance {M : Type*} [AddCommMonoid M] {I : σ → Prop} {V : σ → M}
    {inn out : σ → α → M} (hI : ∀ s a s', Step s a s' → I s → I s')
    (hV : ∀ s a s', Step s a s' → I s → V s' + out s a = V s + inn s a) {s s' : σ}
    {tr : List (σ × α)} (h : Run Step s tr s') (hs : I s) :
    V s' + total out tr = V s + total inn tr := by
  induction h with
  | nil => rfl
  | @cons s s₁ s' a tr h _ ih =>
      calc V s' + total out ((s, a) :: tr)
          = V s' + total out tr + out s a := by rw [total_cons]; ac_rfl
        _ = V s₁ + out s a + total inn tr := by rw [ih (hI _ _ _ h hs)]; ac_rfl
        _ = V s + total inn ((s, a) :: tr) := by rw [hV _ _ _ h hs, total_cons]; ac_rfl

/-- What every step takes from `V`, a run takes from it. -/
theorem Run.bounded {I : σ → Prop} {V : σ → Nat} {out : σ → α → Nat}
    (hI : ∀ s a s', Step s a s' → I s → I s')
    (hV : ∀ s a s', Step s a s' → I s → V s' + out s a ≤ V s) {s s' : σ}
    {tr : List (σ × α)} (h : Run Step s tr s') (hs : I s) : V s' + total out tr ≤ V s := by
  induction h with
  | nil => exact Nat.le_refl _
  | @cons s s₁ s' a tr h _ ih =>
      calc V s' + total out ((s, a) :: tr)
          = V s' + total out tr + out s a := by rw [total_cons]; ac_rfl
        _ ≤ V s₁ + out s a := Nat.add_le_add_right (ih (hI _ _ _ h hs)) _
        _ ≤ V s := hV _ _ _ h hs

/-! ### Guards -/

/-- The steps of `Step` whose state and action meet `G`. -/
def Guarded (Step : σ → α → σ → Prop) (G : σ → α → Prop) : σ → α → σ → Prop :=
  fun s a s' => Step s a s' ∧ G s a

/-- The guards of a run may be forgotten. -/
theorem Run.of_guarded {G : σ → α → Prop} {s s' : σ} {tr : List (σ × α)}
    (h : Run (Guarded Step G) s tr s') : Run Step s tr s' :=
  h.mono fun _ _ _ h => h.1

/-- Every step of a guarded run meets the guard. -/
theorem Run.guard {G : σ → α → Prop} {s s' : σ} {tr : List (σ × α)}
    (h : Run (Guarded Step G) s tr s') : ∀ p ∈ tr, G p.1 p.2 := by
  induction h with
  | nil => simp
  | cons h _ ih =>
      rintro p (_ | ⟨_, hp⟩)
      · exact h.2
      · exact ih p hp

/-- A run whose events all meet `G` is a guarded run. -/
theorem Run.to_guarded {G : σ → α → Prop} {s s' : σ} {tr : List (σ × α)} (h : Run Step s tr s')
    (hG : ∀ p ∈ tr, G p.1 p.2) : Run (Guarded Step G) s tr s' := by
  induction h with
  | nil => exact .nil _
  | cons h _ ih =>
      exact .cons ⟨h, hG _ List.mem_cons_self⟩ (ih fun p hp => hG p (List.mem_cons_of_mem _ hp))

/-! ### Refinement -/

/-- Every step, seen through `abs`, is a step of `Spec` that does what `seen` says, or nothing where
it says nothing. -/
def Refines {τ β : Type*} (Step : σ → α → σ → Prop) (Spec : τ → β → τ → Prop) (abs : σ → τ)
    (seen : σ → α → Option β) (I : σ → Prop) : Prop :=
  ∀ s a s', Step s a s' → I s →
    (seen s a = none ∧ abs s' = abs s) ∨ ∃ b, seen s a = some b ∧ Spec (abs s) b (abs s')

/-- What is seen of a run is a run of the specification. -/
theorem Refines.run {τ β : Type*} {Spec : τ → β → τ → Prop} {abs : σ → τ} {seen : σ → α → Option β}
    {I : σ → Prop} (href : Refines Step Spec abs seen I) (hI : ∀ s a s', Step s a s' → I s → I s')
    {s s' : σ} {tr : List (σ × α)} (h : Run Step s tr s') (hs : I s) :
    Run Spec (abs s) (tr.filterMap fun p => (seen p.1 p.2).map fun b => (abs p.1, b)) (abs s') := by
  induction h with
  | nil => exact .nil _
  | @cons s s₁ s' a tr h _ ih =>
      have hrest := ih (hI _ _ _ h hs)
      rcases href s a s₁ h hs with ⟨hn, habs⟩ | ⟨b, hb, hspec⟩
      · rw [habs] at hrest
        simpa [List.filterMap_cons, hn] using hrest
      · simpa [List.filterMap_cons, hb] using Run.cons hspec hrest

/-- A total over what is seen of a run. -/
theorem total_seen {τ β M : Type*} [AddCommMonoid M] (abs : σ → τ) (seen : σ → α → Option β)
    (f : τ → β → M) (tr : List (σ × α)) :
    total f (tr.filterMap fun p => (seen p.1 p.2).map fun b => (abs p.1, b)) =
      total (fun s a => ((seen s a).map (f (abs s))).getD 0) tr := by
  induction tr with
  | nil => rfl
  | cons p tr ih =>
      obtain ⟨s, a⟩ := p
      rw [total_cons, ← ih]
      cases hb : seen s a with
      | none => simp [hb]
      | some b => simp [hb, total_cons]

/-! ### What can be reached -/

/-- Some run leads to a state with the property. -/
def Reaches (Step : σ → α → σ → Prop) (s : σ) (P : σ → Prop) : Prop :=
  ∃ tr s', Run Step s tr s' ∧ P s'

namespace Reaches

variable {P Q : σ → Prop} {s s' : σ} {a : α}

theorem here (h : P s) : Reaches Step s P := ⟨[], s, .nil s, h⟩

theorem step (h : Step s a s') (hr : Reaches Step s' P) : Reaches Step s P := by
  obtain ⟨tr, t, hrun, hP⟩ := hr
  exact ⟨(s, a) :: tr, t, .cons h hrun, hP⟩

theorem one (h : Step s a s') (hP : P s') : Reaches Step s P := .step h (.here hP)

/-- What is reached from a reached state is reached. -/
theorem trans (hr : Reaches Step s P) (h : ∀ t, P t → Reaches Step t Q) : Reaches Step s Q := by
  obtain ⟨tr, t, hrun, hP⟩ := hr
  obtain ⟨tr', t', hrun', hQ⟩ := h t hP
  exact ⟨tr ++ tr', t', hrun.trans hrun', hQ⟩

theorem mono (hr : Reaches Step s P) (h : ∀ t, P t → Q t) : Reaches Step s Q :=
  hr.trans fun t hP => .here (h t hP)

/-- What every step keeps holds at the end as well. -/
theorem invariant {I : σ → Prop} (hr : Reaches Step s P)
    (hI : ∀ s a s', Step s a s' → I s → I s') (hs : I s) : Reaches Step s fun t => I t ∧ P t := by
  obtain ⟨tr, t, hrun, hP⟩ := hr
  exact ⟨tr, t, hrun, hrun.invariant hI hs, hP⟩

/-- What guarded steps reach, steps reach. -/
theorem of_guarded {G : σ → α → Prop} (hr : Reaches (Guarded Step G) s P) : Reaches Step s P := by
  obtain ⟨tr, t, hrun, hP⟩ := hr
  exact ⟨tr, t, hrun.of_guarded, hP⟩

end Reaches

/-! ### Step functions -/

/-- The steps of a step function: `none` is an action that is not enabled. -/
def stepOf (step : σ → α → Option σ) : σ → α → σ → Prop := fun s a s' => step s a = some s'

/-- The state after a list of actions. -/
def exec (step : σ → α → Option σ) (s : σ) : List α → Option σ
  | [] => some s
  | a :: as => (step s a).bind fun s₁ => exec step s₁ as

/-- The trace of an evaluation. -/
def trace (step : σ → α → Option σ) (s : σ) : List α → List (σ × α)
  | [] => []
  | a :: as => (s, a) :: ((step s a).map fun s₁ => trace step s₁ as).getD []

/-- The actions of a trace are those that were executed. -/
theorem mem_trace {step : σ → α → Option σ} {s : σ} {as : List α} {p : σ × α}
    (h : p ∈ trace step s as) : p.2 ∈ as := by
  induction as generalizing s with
  | nil => cases h
  | cons a as ih =>
      rcases List.mem_cons.mp h with rfl | h
      · exact List.mem_cons_self
      · cases hs : step s a with
        | none => simp [hs] at h
        | some s₁ => exact List.mem_cons_of_mem _ (ih (by simpa [hs] using h))

/-- An execution is a run over its trace. -/
theorem Run.of_exec {step : σ → α → Option σ} {s s' : σ} {as : List α}
    (h : exec step s as = some s') : Run (stepOf step) s (trace step s as) s' := by
  induction as generalizing s with
  | nil => cases h; exact .nil _
  | cons a as ih =>
      obtain ⟨s₁, hs₁, h⟩ := Option.bind_eq_some_iff.mp h
      have ht : trace step s (a :: as) = (s, a) :: trace step s₁ as := by
        simp only [trace, hs₁, Option.map_some, Option.getD_some]
      rw [ht]
      exact .cons hs₁ (ih h)

end MRF.Library
