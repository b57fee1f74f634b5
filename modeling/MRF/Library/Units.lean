import Mathlib.Order.Monotone.Basic
import Mathlib.Tactic.ByContra

/-!
# Library — Units

The natural numbers cut into units of the lengths `len 0, len 1, …`, as days are into months.
`position len n` is the unit that `n` lies in, and its offset there; it is reached by going on one
by one.

`strictMono_position` is the rule for codes of positions: a code that grows within each unit and
from a unit to the next grows everywhere.
-/

namespace MRF.Library

variable {len : Nat → Nat}

/-- The length of the first `k` units. -/
def before (len : Nat → Nat) : Nat → Nat
  | 0 => 0
  | k + 1 => before len k + len k

/-- Units that are at most `w` long. -/
theorem before_le {w : Nat} (h : ∀ k, len k ≤ w) (k : Nat) : before len k ≤ w * k := by
  induction k with
  | zero => exact Nat.le_refl 0
  | succ k ih =>
      rw [before, Nat.mul_succ]
      exact Nat.add_le_add ih (h k)

/-- The position after `p`: the next in its unit, or the first of the next unit. -/
def nextPosition (len : Nat → Nat) (p : Nat × Nat) : Nat × Nat :=
  if p.2 + 1 < len p.1 then (p.1, p.2 + 1) else (p.1 + 1, 0)

/-- The unit of the `n`-th position, and its place there. -/
def position (len : Nat → Nat) : Nat → Nat × Nat
  | 0 => (0, 0)
  | n + 1 => nextPosition len (position len n)

/-- The next position is in the same unit, or the first of the next. -/
theorem nextPosition_cases {k i : Nat} (hi : i < len k) :
    (i + 1 < len k ∧ nextPosition len (k, i) = (k, i + 1)) ∨
      i + 1 = len k ∧ nextPosition len (k, i) = (k + 1, 0) := by
  by_cases h : i + 1 < len k
  · exact .inl ⟨h, if_pos h⟩
  · exact .inr ⟨by omega, if_neg h⟩

section
variable (hlen : ∀ k, 0 < len k)
include hlen

theorem position_lt (n : Nat) : (position len n).2 < len (position len n).1 := by
  induction n with
  | zero => exact hlen 0
  | succ n ih =>
      rcases nextPosition_cases ih with ⟨h, he⟩ | ⟨-, he⟩
      · rw [position, he]
        exact h
      · rw [position, he]
        exact hlen _

/-- The number of a position counts the units before it and those before it in its unit. -/
theorem before_position (n : Nat) : before len (position len n).1 + (position len n).2 = n := by
  induction n with
  | zero => rfl
  | succ n ih =>
      rcases nextPosition_cases (position_lt hlen n) with ⟨-, he⟩ | ⟨h, he⟩
      · rw [position, he]
        exact congrArg Nat.succ ih
      · rw [position, he]
        simp only [before]
        omega

theorem before_strictMono : StrictMono (before len) :=
  strictMono_nat_of_lt_succ fun k => Nat.lt_add_of_pos_right (hlen k)

omit hlen in
/-- A position of a unit comes before the next unit. -/
theorem before_add_lt {k i : Nat} (hi : i < len k) : before len k + i < before len (k + 1) :=
  Nat.add_lt_add_left hi _

/-- Every number has one position. -/
theorem position_before_add {k i : Nat} (hi : i < len k) :
    position len (before len k + i) = (k, i) := by
  have hn := before_position hlen (before len k + i)
  have hlt := position_lt hlen (before len k + i)
  generalize position len (before len k + i) = p at hn hlt
  obtain ⟨k', i'⟩ := p
  have hmono := (before_strictMono hlen).monotone
  have hk : k' = k := by
    by_contra hne
    rcases Nat.lt_or_gt_of_ne hne with h | h
    · have hle : before len (k' + 1) ≤ before len k := hmono h
      have hend := before_add_lt hlt
      simp only at hn hend
      omega
    · have hle : before len (k + 1) ≤ before len k' := hmono h
      have hend := before_add_lt hi
      simp only at hn
      omega
  subst hk
  exact Prod.ext rfl (Nat.add_left_cancel hn)

/-- A code of positions that grows within each unit and from one to the next. -/
theorem strictMono_position {f : Nat → Nat → Nat} (hin : ∀ k i, i + 1 < len k → f k i < f k (i + 1))
    (hout : ∀ k i, i + 1 = len k → f k i < f (k + 1) 0) :
    StrictMono fun n => f (position len n).1 (position len n).2 := by
  refine strictMono_nat_of_lt_succ fun n => ?_
  rcases nextPosition_cases (position_lt hlen n) with ⟨h, he⟩ | ⟨h, he⟩
  · simp only [position, he]
    exact hin _ _ h
  · simp only [position, he]
    exact hout _ _ h

end

end MRF.Library
