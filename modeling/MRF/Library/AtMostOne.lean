import Mathlib.Data.List.Basic
import Mathlib.Data.Set.Finite.Lattice

/-!
# Library — AtMostOne

What a system has once.  `AtMostOne P l` says that a list, such as a queue, has at most one entry
with `P`; it is kept by appending and by taking an entry out, and it is what makes an entry that
was taken out the last one.  `Spare f d` says of a family of slots that all but finitely many have
the default value, so that a free one can be found.
-/

namespace MRF.Library

/-! ### Entries of a list -/

section
variable {α : Type*} {P : α → Prop} {l : List α} {a : α} {n : Nat}

/-- At most one entry of the list has the property. -/
def AtMostOne (P : α → Prop) (l : List α) : Prop := l.Pairwise fun a b => ¬ (P a ∧ P b)

/-- One more entry, if it has the property alone. -/
theorem AtMostOne.append (h : AtMostOne P l) (ha : P a → ∀ b ∈ l, ¬ P b) :
    AtMostOne P (l ++ [a]) := by
  refine List.pairwise_append.mpr ⟨h, List.pairwise_singleton _ _, fun b hb c hc hP => ?_⟩
  obtain rfl := List.mem_singleton.mp hc
  exact ha hP.2 b hb hP.1

theorem AtMostOne.eraseIdx (h : AtMostOne P l) (n : Nat) : AtMostOne P (l.eraseIdx n) :=
  h.sublist (List.eraseIdx_sublist l n)

/-- The entry that is taken out was the only one. -/
theorem AtMostOne.forall_eraseIdx (h : AtMostOne P l) (hn : l[n]? = some a) (ha : P a) :
    ∀ b ∈ l.eraseIdx n, ¬ P b := by
  intro b hb hP
  obtain ⟨j, hne, hj⟩ := List.mem_eraseIdx_iff_getElem?.mp hb
  obtain ⟨hn', rfl⟩ := List.getElem?_eq_some_iff.mp hn
  obtain ⟨hj', rfl⟩ := List.getElem?_eq_some_iff.mp hj
  rcases Nat.lt_or_gt_of_ne hne with hlt | hlt
  · exact List.pairwise_iff_getElem.mp h j n hj' hn' hlt ⟨hP, ha⟩
  · exact List.pairwise_iff_getElem.mp h n j hn' hj' hlt ⟨ha, hP⟩

/-- An entry without the property adds none that has it. -/
theorem mem_append_singleton_iff (ha : ¬ P a) {b : α} (hb : P b) : b ∈ l ++ [a] ↔ b ∈ l := by
  rw [List.mem_append, List.mem_singleton]
  refine or_iff_left ?_
  rintro rfl
  exact ha hb

/-- Taking out an entry without the property leaves the others. -/
theorem mem_eraseIdx_iff (hn : l[n]? = some a) (ha : ¬ P a) {b : α} (hb : P b) :
    b ∈ l.eraseIdx n ↔ b ∈ l := by
  refine ⟨List.mem_of_mem_eraseIdx, fun hmem => ?_⟩
  obtain ⟨j, hj⟩ := List.mem_iff_getElem?.mp hmem
  refine List.mem_eraseIdx_iff_getElem?.mpr ⟨j, ?_, hj⟩
  rintro rfl
  rw [hn] at hj
  cases hj
  exact ha hb

end

/-! ### Slots -/

section
variable {α : Type*} {f : Nat → α} {d : α}

/-- All but finitely many slots have the default value. -/
def Spare (f : Nat → α) (d : α) : Prop := {i | f i ≠ d}.Finite

theorem Spare.update (h : Spare f d) (i : Nat) (v : α) : Spare (Function.update f i v) d := by
  refine (h.insert i).subset fun j hj => ?_
  by_cases he : j = i
  · exact .inl he
  · exact .inr fun hd => hj ((Function.update_of_ne he v f).trans hd)

/-- A slot that changes from one value to another is not the one that is looked for, before or
after. -/
theorem update_eq_iff {i : Nat} {v w : α} (hf : f i ≠ w) (hv : v ≠ w) (j : Nat) :
    Function.update f i v j = w ↔ f j = w := by
  by_cases he : j = i
  · subst he
    rw [Function.update_self]
    exact ⟨fun h => absurd h hv, fun h => absurd h hf⟩
  · rw [Function.update_of_ne he]

/-- Some slot has the default. -/
theorem Spare.exists_eq (h : Spare f d) : ∃ i, f i = d := by
  obtain ⟨i, hi⟩ := h.exists_notMem
  exact ⟨i, not_not.mp hi⟩

end

end MRF.Library
