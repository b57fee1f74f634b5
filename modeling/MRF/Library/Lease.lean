import MRF.Library.Run

/-!
# Library — Lease

Leases of one resource.  The resource is free or not, any number of parties may hold a lease, a
lease is taken from the free resource, and a use gives up the lease but leaves the resource
taken until someone gives it back.  `IsLease` says so of the steps of a system, given what it is
there to hold, to use and to give back.

`between_uses`: if nobody gives the resource back while a lease is out, there is a give-back
between any two uses.
-/

namespace MRF.Library

variable {σ α ι : Type*}

/-- The steps lease one resource: `free` and `holds` say how a state stands to it, `uses` and
`givesBack` which steps use it and give it back. -/
structure IsLease (Step : σ → α → σ → Prop) (free : σ → Prop) (holds : σ → ι → Prop)
    (uses : σ → α → Prop) (givesBack : σ → α → Prop) : Prop where
  /-- A new lease is taken from the free resource, by one party. -/
  taken : ∀ {s a s' i}, Step s a s' → holds s' i → ¬ holds s i →
    free s ∧ ¬ free s' ∧ ∀ j, holds s' j → holds s j ∨ j = i
  freed : ∀ {s a s'}, Step s a s' → free s' → free s ∨ givesBack s a
  /-- Nobody gives the resource back while a lease is out. -/
  returned : ∀ {s a s'}, Step s a s' → givesBack s a → ∀ i, ¬ holds s i
  used : ∀ {s a s'}, Step s a s' → uses s a → ¬ givesBack s a ∧ ∃ i, holds s i ∧ ¬ holds s' i

namespace IsLease

variable {Step : σ → α → σ → Prop} {free : σ → Prop} {holds : σ → ι → Prop}
  {uses givesBack : σ → α → Prop} {s s' : σ} {a : α}

/-- At most one lease is out, and only of a resource that is not free. -/
structure Exclusive (free : σ → Prop) (holds : σ → ι → Prop) (s : σ) : Prop where
  unique : ∀ i j, holds s i → holds s j → i = j
  taken : ∀ i, holds s i → ¬ free s

/-- The resource was used and not given back. -/
structure Spent (free : σ → Prop) (holds : σ → ι → Prop) (s : σ) : Prop where
  not_free : ¬ free s
  not_held : ∀ i, ¬ holds s i

/-- A step keeps what is leased with one holder. -/
theorem exclusive (hl : IsLease Step free holds uses givesBack) (h : Step s a s')
    (hs : Exclusive free holds s) : Exclusive free holds s' where
  unique i j hi hj := by
    by_cases hi₀ : holds s i
    · by_cases hj₀ : holds s j
      · exact hs.unique i j hi₀ hj₀
      · exact absurd (hl.taken h hj hj₀).1 (hs.taken i hi₀)
    · obtain ⟨hfree, -, hone⟩ := hl.taken h hi hi₀
      rcases hone j hj with hj₀ | rfl
      · exact absurd hfree (hs.taken j hj₀)
      · rfl
  taken i hi hfree := by
    by_cases hi₀ : holds s i
    · rcases hl.freed h hfree with hfree₀ | hback
      · exact hs.taken i hi₀ hfree₀
      · exact hl.returned h hback i hi₀
    · exact (hl.taken h hi hi₀).2.1 hfree

/-- A use spends the lease. -/
theorem spent_of_uses (hl : IsLease Step free holds uses givesBack) (h : Step s a s')
    (hs : Exclusive free holds s) (hu : uses s a) : Spent free holds s' := by
  obtain ⟨hnb, i, hi, hi'⟩ := hl.used h hu
  constructor
  · intro hfree
    rcases hl.freed h hfree with hfree₀ | hback
    · exact hs.taken i hi hfree₀
    · exact hnb hback
  · intro j hj
    by_cases hj₀ : holds s j
    · obtain rfl := hs.unique i j hi hj₀
      exact hi' hj
    · exact hs.taken i hi (hl.taken h hj hj₀).1

/-- A spent lease stays so until it is given back. -/
theorem spent (hl : IsLease Step free holds uses givesBack) (h : Step s a s')
    (hs : Spent free holds s) (hnb : ¬ givesBack s a) : Spent free holds s' where
  not_free hfree := (hl.freed h hfree).elim hs.not_free hnb
  not_held i hi := hs.not_free (hl.taken h hi (hs.not_held i)).1

/-- A spent resource stays spent until it is given back. -/
theorem spent_run (hl : IsLease Step free holds uses givesBack) {tr : List (σ × α)}
    (h : Run Step s tr s') (hs : Spent free holds s) (hnb : ∀ p ∈ tr, ¬ givesBack p.1 p.2) :
    Spent free holds s' := by
  induction h with
  | nil => exact hs
  | cons h _ ih =>
      refine ih (hl.spent h hs (hnb _ List.mem_cons_self)) fun p hp => ?_
      exact hnb p (List.mem_cons_of_mem _ hp)

/-- **Between two uses the resource is given back.** -/
theorem between_uses (hl : IsLease Step free holds uses givesBack) {tr₁ tr₂ tr₃ : List (σ × α)}
    {p q : σ × α} (h : Run Step s (tr₁ ++ p :: tr₂ ++ q :: tr₃) s')
    (hs : Exclusive free holds s) (hp : uses p.1 p.2) (hq : uses q.1 q.2) :
    ∃ r ∈ tr₂, givesBack r.1 r.2 := by
  by_contra hnb
  obtain ⟨s₂, h₁₂, h₃⟩ := h.append_inv
  obtain ⟨s₁, h₁, h₂⟩ := h₁₂.append_inv
  obtain ⟨hp₁, s₁', hstep, h₂⟩ := h₂.cons_inv
  obtain ⟨hq₁, s₂', hstep', h₃⟩ := h₃.cons_inv
  have hexc : Exclusive free holds s₁ := h₁.invariant (fun _ _ _ h => hl.exclusive h) hs
  have hspent : Spent free holds s₁' := hl.spent_of_uses hstep hexc (hp₁ ▸ hp)
  have hspent' : Spent free holds s₂ := hl.spent_run h₂ hspent fun r hr hb => hnb ⟨r, hr, hb⟩
  obtain ⟨-, i, hi, -⟩ := hl.used hstep' (hq₁ ▸ hq)
  exact hspent'.not_held i hi

end IsLease

end MRF.Library
