import Mathlib.Algebra.BigOperators.Group.Finset.Piecewise
import Mathlib.Algebra.Order.BigOperators.Group.Finset
import Mathlib.Data.Multiset.AddSub

/-!
# Library — Pool

A pool of workers, as a function from the number of a worker to the list of tasks it has left; a
worker with nothing left is available.  `busy n` counts the workers below `n` that are not, and
`held n` is the multiset of the tasks they have left.  Handing a list to an available worker and
taking a task from a worker change both by what was handed over or taken.
-/

namespace MRF.Library

variable {τ : Type*}

/-- The tasks that the first `n` workers have left. -/
def held (n : Nat) (workers : Nat → List τ) : Multiset τ :=
  ∑ w ∈ Finset.range n, (workers w : Multiset τ)

/-- How many of the first `n` workers have a task left. -/
def busy (n : Nat) (workers : Nat → List τ) : Nat :=
  ∑ w ∈ Finset.range n, if (workers w).isEmpty then 0 else 1

/-- No worker but the first `n` has anything to do. -/
def Within (n : Nat) (workers : Nat → List τ) : Prop := ∀ w, n ≤ w → workers w = []

variable {n w : Nat} {workers : Nat → List τ}

theorem within_nil (n : Nat) : Within n fun _ => ([] : List τ) := fun _ _ => rfl

theorem Within.lt (h : Within n workers) (hw : workers w ≠ []) : w < n :=
  lt_of_not_ge fun hn => hw (h w hn)

/-- A worker of the pool may be given anything. -/
theorem Within.update (h : Within n workers) (hn : w < n) (l : List τ) :
    Within n (Function.update workers w l) := by
  intro v hv
  rw [Function.update_of_ne (by omega)]
  exact h v hv

/-- What a sum over the workers becomes when one of them changes. -/
theorem sum_update {M : Type*} [AddCommMonoid M] (g : List τ → M) (hn : w < n)
    (workers : Nat → List τ) (l : List τ) :
    ∑ v ∈ Finset.range n, g (Function.update workers w l v) + g (workers w) =
      ∑ v ∈ Finset.range n, g (workers v) + g l := by
  have hw : w ∈ Finset.range n := Finset.mem_range.mpr hn
  have hrest : ∑ v ∈ (Finset.range n).erase w, g (Function.update workers w l v) =
      ∑ v ∈ (Finset.range n).erase w, g (workers v) :=
    Finset.sum_congr rfl fun v hv => by rw [Function.update_of_ne (Finset.ne_of_mem_erase hv)]
  rw [← Finset.add_sum_erase _ _ hw, ← Finset.add_sum_erase _ (fun v => g (workers v)) hw, hrest,
    Function.update_self]
  ac_rfl

/-! ### `held` -/

@[simp] theorem held_nil (n : Nat) : held n (fun _ => ([] : List τ)) = 0 := by
  simp [held]

theorem held_start (hn : w < n) (hw : workers w = []) (l : List τ) :
    held n (Function.update workers w l) = held n workers + l := by
  have h := sum_update (fun l : List τ => (l : Multiset τ)) hn workers l
  rwa [hw, Multiset.coe_nil, add_zero] at h

/-- A worker more. -/
theorem held_grow (n : Nat) (workers : Nat → List τ) (l : List τ) :
    held (n + 1) (Function.update workers n l) = held n workers + l := by
  have hrest : ∑ v ∈ Finset.range n, (Function.update workers n l v : Multiset τ) =
      ∑ v ∈ Finset.range n, (workers v : Multiset τ) :=
    Finset.sum_congr rfl fun v hv => by
      rw [Function.update_of_ne (Nat.ne_of_lt (Finset.mem_range.mp hv))]
  rw [held, Finset.sum_range_succ, hrest, Function.update_self, held]

/-- A worker changes by what it is given and what it is rid of. -/
theorem held_change (hn : w < n) {l given rid : List τ}
    (hl : (l : Multiset τ) + rid = (workers w : Multiset τ) + given) :
    held n (Function.update workers w l) + rid = held n workers + given := by
  have h := sum_update (fun l : List τ => (l : Multiset τ)) hn workers l
  refine add_right_cancel (b := (workers w : Multiset τ)) ?_
  calc held n (Function.update workers w l) + rid + workers w
      = held n (Function.update workers w l) + workers w + rid := by ac_rfl
    _ = held n workers + l + rid := by rw [held, h, held]
    _ = held n workers + (l + rid) := by ac_rfl
    _ = held n workers + given + workers w := by rw [hl]; ac_rfl

/-- What a worker takes up was held. -/
theorem held_next (hn : w < n) {a : τ} {l : List τ} (hw : workers w = a :: l) :
    a ::ₘ held n (Function.update workers w l) = held n workers := by
  have h := sum_update (fun l : List τ => (l : Multiset τ)) hn workers l
  rw [hw, ← Multiset.cons_coe, ← Multiset.singleton_add a (l : Multiset τ), ← add_assoc] at h
  rw [← Multiset.singleton_add, add_comm]
  exact add_right_cancel h

/-! ### `busy` -/

@[simp] theorem busy_nil (n : Nat) : busy n (fun _ => ([] : List τ)) = 0 := by
  simp [busy]

theorem busy_start (hn : w < n) (hw : workers w = []) (l : List τ) :
    busy n (Function.update workers w l) = busy n workers + if l.isEmpty then 0 else 1 := by
  have h := sum_update (fun l : List τ => if l.isEmpty then 0 else 1) hn workers l
  simpa [busy, hw] using h

/-- A worker that ends is no longer busy. -/
theorem busy_finish (hn : w < n) (hw : workers w ≠ []) :
    busy n (Function.update workers w []) + 1 = busy n workers := by
  have h := sum_update (fun l : List τ => if l.isEmpty then 0 else 1) hn workers []
  simpa [busy, hw] using h

theorem exists_busy (h : busy n workers ≠ 0) : ∃ w, workers w ≠ [] := by
  obtain ⟨w, -, hw⟩ := Finset.exists_ne_zero_of_sum_ne_zero h
  exact ⟨w, fun he => hw (by simp [he])⟩

/-- Two workers with something to do make two. -/
theorem two_le_busy {v : Nat} (hw : w < n) (hv : v < n) (hne : w ≠ v) (hwl : workers w ≠ [])
    (hvl : workers v ≠ []) : 2 ≤ busy n workers := by
  have h₁ := busy_finish hw hwl
  have hvl' : Function.update workers w [] v ≠ [] := by rwa [Function.update_of_ne hne.symm]
  have h₂ := busy_finish hv hvl'
  omega

/-! ### What a user sees of a pool -/

/-- What is seen of a pool. -/
inductive PoolEvent (τ : Type*) where
  /-- The worker is found available. -/
  | available (w : Nat)
  /-- The worker is handed a list. -/
  | start (w : Nat) (l : List τ)
  /-- The worker is done with its first tasks. -/
  | next (w : Nat)

/-- The pool of the first `n` workers. -/
inductive PoolStep (n : Nat) : (Nat → List τ) → PoolEvent τ → (Nat → List τ) → Prop where
  | available {w : Nat} {workers : Nat → List τ} (hn : w < n) (hw : workers w = []) :
      PoolStep n workers (.available w) workers
  | start {w : Nat} {workers : Nat → List τ} (hn : w < n) (hw : workers w = []) (l : List τ) :
      PoolStep n workers (.start w l) (Function.update workers w l)
  | next {w : Nat} {workers : Nat → List τ} {d l : List τ} (hn : w < n)
      (hw : workers w = d ++ l) (hd : d ≠ []) :
      PoolStep n workers (.next w) (Function.update workers w l)

end MRF.Library
