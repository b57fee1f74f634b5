import Mathlib.Data.List.Nodup
import Mathlib.Data.List.Lemmas

/-!
# Library — Table

A database table with a unique index.  The rows are kept in insertion order; that no two of
them carry the same key is a field of the table, so a table that breaks its index cannot be
built.  `insert` answers `none` on a duplicate key; `update` and `delete` are the statements
with `WHERE key = k`.

Every operation comes with its `get` equation, and these equations are all that a proof about
the contents of a table uses.
-/

namespace MRF.Library

/-- Rows with a unique index. -/
class Keyed (ρ : Type*) (κ : outParam (Type*)) where
  key : ρ → κ

/-- A list of rows without two rows of the same key. -/
structure Table (ρ : Type*) {κ : Type*} [Keyed ρ κ] where
  rows : List ρ
  unique : (rows.map Keyed.key).Nodup

namespace Table

variable {ρ κ : Type*} [Keyed ρ κ]

@[ext] theorem ext {t u : Table ρ} (h : t.rows = u.rows) : t = u := by
  cases t; cases u; cases h; rfl

/-- The table without rows. -/
def empty : Table ρ := ⟨[], by simp⟩

/-- The rows that satisfy a `WHERE` clause, in insertion order. -/
def select (t : Table ρ) (p : ρ → Bool) : List ρ := t.rows.filter p

variable [DecidableEq κ]

/-- The row with key `k`. -/
def get (t : Table ρ) (k : κ) : Option ρ := t.rows.find? fun r => Keyed.key r = k

/-- A lookup answers a row with the key that was asked for. -/
theorem key_of_get {t : Table ρ} {k : κ} {r : ρ} (h : t.get k = some r) : Keyed.key r = k := by
  simpa using List.find?_some h

/-- A lookup answers the row with the key, of which there is one at most. -/
theorem get_eq_some_iff {t : Table ρ} {k : κ} {r : ρ} :
    t.get k = some r ↔ r ∈ t.rows ∧ Keyed.key r = k := by
  refine ⟨fun h => ⟨List.mem_of_find?_eq_some h, key_of_get h⟩, ?_⟩
  rintro ⟨hr, rfl⟩
  cases h : t.get (Keyed.key r) with
  | none => simpa using List.find?_eq_none.mp h r hr
  | some r' =>
      have hr' := List.mem_of_find?_eq_some h
      exact congrArg some (List.inj_on_of_nodup_map t.unique hr' hr (key_of_get h))

/-- A lookup fails exactly when no row has the key. -/
theorem get_eq_none_iff {t : Table ρ} {k : κ} : t.get k = none ↔ ∀ r ∈ t.rows, Keyed.key r ≠ k := by
  simp [get]

/-- A selected row is the row of its key, and satisfies the clause. -/
theorem mem_select {t : Table ρ} {p : ρ → Bool} {r : ρ} :
    r ∈ t.select p ↔ t.get (Keyed.key r) = some r ∧ p r = true := by
  simp [select, get_eq_some_iff]

/-- A key selects its row, if it has one. -/
theorem select_key (t : Table ρ) (k : κ) :
    (t.select fun r => Keyed.key r = k) = (t.get k).toList := by
  have aux : ∀ l : List ρ, (l.map Keyed.key).Nodup →
      l.filter (fun r => Keyed.key r = k) = (l.find? fun r => Keyed.key r = k).toList := by
    intro l
    induction l with
    | nil => intro _; rfl
    | cons r l ih =>
        intro hl
        obtain ⟨hr, hl⟩ := List.nodup_cons.mp hl
        by_cases hk : Keyed.key r = k
        · have hnone : l.filter (fun r => Keyed.key r = k) = [] := by
            refine List.filter_eq_nil_iff.mpr fun r' hr' => ?_
            simp only [decide_eq_true_eq]
            rintro rfl
            exact hr (hk ▸ List.mem_map_of_mem hr')
          simp [hk, hnone]
        · simpa [hk] using ih hl
  exact aux t.rows t.unique

/-! ### Delete -/

/-- `DELETE … WHERE key = k`. -/
def delete (t : Table ρ) (k : κ) : Table ρ :=
  ⟨t.rows.filter fun r => Keyed.key r ≠ k, t.unique.sublist (List.filter_sublist.map _)⟩

/-- After a delete, the row of the key is gone and the others are as they were. -/
@[simp] theorem get_delete (t : Table ρ) (k j : κ) :
    (t.delete k).get j = if j = k then none else t.get j := by
  split
  · next h => subst h; simp [get_eq_none_iff, delete]
  · next h =>
      ext r
      simp only [get_eq_some_iff, delete, List.mem_filter, decide_eq_true_eq]
      constructor
      · rintro ⟨⟨hr, -⟩, hk⟩; exact ⟨hr, hk⟩
      · rintro ⟨hr, rfl⟩; exact ⟨⟨hr, h⟩, rfl⟩

/-- Deleting a key that is not there changes nothing. -/
theorem delete_of_get_eq_none {t : Table ρ} {k : κ} (h : t.get k = none) : t.delete k = t :=
  ext (List.filter_eq_self.mpr fun r hr => by simpa using get_eq_none_iff.mp h r hr)

/-- `DELETE` for each key of a list. -/
def deleteAll (t : Table ρ) (ks : List κ) : Table ρ := ks.foldl delete t

/-- After deletes, the rows of the keys are gone and the others are as they were. -/
@[simp] theorem get_deleteAll (t : Table ρ) (ks : List κ) (j : κ) :
    (t.deleteAll ks).get j = if j ∈ ks then none else t.get j := by
  induction ks generalizing t with
  | nil => simp [deleteAll]
  | cons k ks ih =>
      rw [show t.deleteAll (k :: ks) = (t.delete k).deleteAll ks from rfl, ih, get_delete]
      by_cases hj : j ∈ ks <;> by_cases hk : j = k <;> simp [hj, hk]

/-! ### Update -/

/-- `UPDATE … WHERE key = k`: `f` gives the new values, and leaves the key. -/
def update (t : Table ρ) (k : κ) (f : ρ → ρ) (hf : ∀ r, Keyed.key (f r) = Keyed.key r) : Table ρ :=
  ⟨t.rows.map fun r => if Keyed.key r = k then f r else r, by
    have h : (t.rows.map fun r => if Keyed.key r = k then f r else r).map Keyed.key =
        t.rows.map Keyed.key := by
      rw [List.map_map]
      refine List.map_congr_left fun r _ => ?_
      simp only [Function.comp_apply]
      split <;> simp [hf]
    exact h ▸ t.unique⟩

/-- An update changes the row of its key, if there is one, and no other. -/
@[simp] theorem get_update (t : Table ρ) (k : κ) (f : ρ → ρ)
    (hf : ∀ r, Keyed.key (f r) = Keyed.key r) (j : κ) :
    (t.update k f hf).get j = if j = k then (t.get k).map f else t.get j := by
  have key_ite : ∀ r, Keyed.key (if Keyed.key r = k then f r else r) = Keyed.key r := fun r => by
    split <;> simp [hf]
  split
  · next h =>
      subst h
      ext r
      simp only [get_eq_some_iff, update, List.mem_map, Option.map_eq_some_iff]
      constructor
      · rintro ⟨⟨r', hr', rfl⟩, hk⟩
        rw [key_ite] at hk
        exact ⟨r', ⟨hr', hk⟩, by simp [hk]⟩
      · rintro ⟨r', ⟨hr', hk⟩, rfl⟩
        exact ⟨⟨r', hr', by simp [hk]⟩, by rw [hf, hk]⟩
  · next h =>
      ext r
      simp only [get_eq_some_iff, update, List.mem_map]
      constructor
      · rintro ⟨⟨r', hr', rfl⟩, hk⟩
        rw [key_ite] at hk
        have hne : ¬ Keyed.key r' = k := fun e => h (hk.symm.trans e)
        simp only [hne, if_false]
        exact ⟨hr', hk⟩
      · rintro ⟨hr, hk⟩
        exact ⟨⟨r, hr, by simp [hk, h]⟩, hk⟩

/-- An update that takes a row out of a `WHERE` clause. -/
theorem length_select_update_lt {t : Table ρ} {k : κ} {f : ρ → ρ}
    (hf : ∀ r, Keyed.key (f r) = Keyed.key r) {p : ρ → Bool} {r : ρ} (hr : t.get k = some r)
    (hp : p r = true) (hfr : p (f r) = false) :
    ((t.update k f hf).select p).length < (t.select p).length := by
  let g : ρ → ρ := fun r => if Keyed.key r = k then f r else r
  have hg : ∀ r' ∈ t.rows, p (g r') = true → p r' = true ∧ r' ≠ r := by
    intro r' hr' hgr
    by_cases hk : Keyed.key r' = k
    · obtain rfl : r' = r := Option.some.inj ((get_eq_some_iff.mpr ⟨hr', hk⟩).symm.trans hr)
      rw [show g r' = f r' from if_pos hk, hfr] at hgr
      cases hgr
    · rw [show g r' = r' from if_neg hk] at hgr
      refine ⟨hgr, ?_⟩
      rintro rfl
      exact hk (key_of_get hr)
  have hsel : (t.rows.filter fun r' => p (g r')) = (t.select p).filter fun r' => p (g r') := by
    rw [select, List.filter_filter]
    refine List.filter_congr fun r' hr' => ?_
    cases hpg : p (g r') with
    | false => rfl
    | true => rw [(hg r' hr' hpg).1]; rfl
  have hmem : r ∈ t.select p := List.mem_filter.mpr ⟨(get_eq_some_iff.mp hr).1, hp⟩
  calc ((t.update k f hf).select p).length
      = (t.rows.filter fun r' => p (g r')).length := by
        change ((t.rows.map g).filter p).length = _
        rw [List.filter_map, List.length_map]
        rfl
    _ < (t.select p).length := by
        rw [hsel]
        refine List.length_filter_lt_length_iff_exists.mpr ⟨r, hmem, fun hpg => ?_⟩
        exact (hg r (get_eq_some_iff.mp hr).1 hpg).2 rfl

/-! ### Insert -/

/-- `INSERT`; `none` when the key is already there. -/
def insert (t : Table ρ) (r : ρ) : Option (Table ρ) :=
  if h : t.get (Keyed.key r) = none then
    some ⟨t.rows ++ [r], by
      rw [List.map_append, List.map_singleton, List.nodup_append]
      refine ⟨t.unique, by simp, ?_⟩
      rintro k hk j hj rfl
      obtain ⟨r', hr', rfl⟩ := List.mem_map.mp hk
      exact get_eq_none_iff.mp h r' hr' (List.mem_singleton.mp hj)⟩
  else none

/-- An insert is refused exactly when the key is taken. -/
theorem insert_eq_none_iff {t : Table ρ} {r : ρ} :
    t.insert r = none ↔ t.get (Keyed.key r) ≠ none := by
  simp only [insert]; split <;> simp_all

theorem insert_isSome {t : Table ρ} {r : ρ} (h : t.get (Keyed.key r) = none) :
    ∃ u, t.insert r = some u := by
  cases hi : t.insert r with
  | none => exact absurd h (insert_eq_none_iff.mp hi)
  | some u => exact ⟨u, rfl⟩

/-- The key of a row that was inserted was free. -/
theorem get_eq_none_of_insert {t u : Table ρ} {r : ρ} (h : t.insert r = some u) :
    t.get (Keyed.key r) = none := by
  by_contra hn
  rw [insert_eq_none_iff.mpr hn] at h
  cases h

/-- The new row is the last. -/
theorem rows_of_insert {t u : Table ρ} {r : ρ} (h : t.insert r = some u) :
    u.rows = t.rows ++ [r] := by
  simp only [insert] at h
  split at h
  · cases h; rfl
  · cases h

/-- After an insert the row is found under its key, and the others as before. -/
theorem get_insert {t u : Table ρ} {r : ρ} (h : t.insert r = some u) (j : κ) :
    u.get j = if j = Keyed.key r then some r else t.get j := by
  have hrows := rows_of_insert h
  split
  · next e => subst e; exact get_eq_some_iff.mpr ⟨by simp [hrows], rfl⟩
  · next e =>
      ext r'
      simp only [get_eq_some_iff, hrows, List.mem_append, List.mem_singleton]
      constructor
      · rintro ⟨hr' | rfl, rfl⟩
        · exact ⟨hr', rfl⟩
        · exact absurd rfl e
      · rintro ⟨hr', hk⟩; exact ⟨Or.inl hr', hk⟩

/-- `INSERT` for each row of a list; `none` when one of them meets its key. -/
def insertAll (t : Table ρ) (rs : List ρ) : Option (Table ρ) := rs.foldlM insert t

theorem insertAll_cons {t u : Table ρ} {r : ρ} {rs : List ρ}
    (h : t.insertAll (r :: rs) = some u) : ∃ v, t.insert r = some v ∧ v.insertAll rs = some u := by
  simpa [insertAll, List.foldlM_cons, Option.bind_eq_some_iff] using h

/-- Rows under distinct keys that are all free go in. -/
theorem insertAll_isSome {t : Table ρ} (rs : List ρ) (hnd : (rs.map Keyed.key).Nodup)
    (h : ∀ r ∈ rs, t.get (Keyed.key r) = none) : ∃ u, t.insertAll rs = some u := by
  induction rs generalizing t with
  | nil => exact ⟨t, rfl⟩
  | cons r rs ih =>
      rw [List.map_cons, List.nodup_cons] at hnd
      obtain ⟨v, hv⟩ := insert_isSome (h r List.mem_cons_self)
      obtain ⟨u, hu⟩ := ih (t := v) hnd.2 fun r' hr' => by
        have hne : Keyed.key r' ≠ Keyed.key r := fun he => hnd.1 (he ▸ List.mem_map_of_mem hr')
        rw [get_insert hv, if_neg hne]
        exact h r' (List.mem_cons_of_mem _ hr')
      exact ⟨u, by simpa [insertAll, List.foldlM_cons, hv] using hu⟩

/-- An insert leaves the rows that are there. -/
theorem get_insert_of_ne_none {t u : Table ρ} {r : ρ} (h : t.insert r = some u) {k : κ}
    (hk : t.get k ≠ none) : u.get k = t.get k := by
  rw [get_insert h, if_neg]
  rintro rfl
  exact hk (get_eq_none_of_insert h)

/-- A batch does not touch the rows that were there. -/
theorem get_insertAll_of_ne_none {t u : Table ρ} {rs : List ρ} (h : t.insertAll rs = some u) {k : κ}
    (hk : t.get k ≠ none) : u.get k = t.get k := by
  induction rs generalizing t with
  | nil => cases h; rfl
  | cons r rs ih =>
      obtain ⟨v, hv, hu⟩ := insertAll_cons h
      have hget := get_insert_of_ne_none hv hk
      rw [ih hu (hget ▸ hk), hget]

/-- After a batch insert each inserted row is there, under a key that was free. -/
theorem get_insertAll_of_mem {t u : Table ρ} {rs : List ρ} (h : t.insertAll rs = some u) {r : ρ}
    (hr : r ∈ rs) : u.get (Keyed.key r) = some r ∧ t.get (Keyed.key r) = none := by
  induction rs generalizing t with
  | nil => cases hr
  | cons r' rs ih =>
      obtain ⟨v, hv, hu⟩ := insertAll_cons h
      rcases List.mem_cons.mp hr with rfl | hr
      · have hget := (get_insert hv (Keyed.key r)).trans (if_pos rfl)
        have hkept := get_insertAll_of_ne_none hu (by rw [hget]; exact Option.some_ne_none r)
        exact ⟨hkept.trans hget, get_eq_none_of_insert hv⟩
      · obtain ⟨h₁, h₂⟩ := ih hu hr
        rw [get_insert hv] at h₂
        split at h₂
        · cases h₂
        · exact ⟨h₁, h₂⟩

/-- A batch insert touches no key but those of its rows. -/
theorem get_insertAll_of_notMem {t u : Table ρ} {rs : List ρ} (h : t.insertAll rs = some u) {k : κ}
    (hk : k ∉ rs.map Keyed.key) : u.get k = t.get k := by
  induction rs generalizing t with
  | nil => cases h; rfl
  | cons r rs ih =>
      obtain ⟨v, hv, hu⟩ := insertAll_cons h
      simp only [List.map_cons, List.mem_cons, not_or] at hk
      rw [ih hu hk.2, get_insert hv, if_neg hk.1]

/-- Where a row comes from after an insert. -/
theorem get_insert_inv {t u : Table ρ} {r r' : ρ} (h : t.insert r = some u) {k : κ}
    (hk : u.get k = some r') : t.get k = some r' ∨ k = Keyed.key r ∧ r' = r := by
  rw [get_insert h] at hk
  split at hk
  · next he => exact .inr ⟨he, (Option.some.inj hk).symm⟩
  · exact .inl hk

/-- A row that is found after a batch was there before, or is of the batch. -/
theorem get_insertAll_inv {t u : Table ρ} {rs : List ρ} (h : t.insertAll rs = some u) {k : κ}
    {r : ρ} (hk : u.get k = some r) : t.get k = some r ∨ r ∈ rs := by
  by_cases hmem : k ∈ rs.map Keyed.key
  · obtain ⟨r', hr', rfl⟩ := List.mem_map.mp hmem
    rw [(get_insertAll_of_mem h hr').1] at hk
    cases hk
    exact .inr hr'
  · exact .inl (get_insertAll_of_notMem h hmem ▸ hk)

theorem get_delete_inv {t : Table ρ} {k j : κ} {r : ρ} (h : (t.delete k).get j = some r) :
    j ≠ k ∧ t.get j = some r := by
  rw [get_delete] at h
  split at h
  · cases h
  · next hne => exact ⟨hne, h⟩

theorem get_deleteAll_inv {t : Table ρ} {ks : List κ} {j : κ} {r : ρ}
    (h : (t.deleteAll ks).get j = some r) : j ∉ ks ∧ t.get j = some r := by
  rw [get_deleteAll] at h
  split at h
  · cases h
  · next hne => exact ⟨hne, h⟩

/-- Where a row comes from after an update, as `get_update` has it. -/
theorem update_inv {t : Table ρ} {k j : κ} {f : ρ → ρ} {r : ρ}
    (h : (if j = k then (t.get k).map f else t.get j) = some r) :
    t.get j = some r ∨ j = k ∧ ∃ r₀, t.get j = some r₀ ∧ r = f r₀ := by
  split at h
  · next he =>
      obtain ⟨r₀, hr₀, rfl⟩ := Option.map_eq_some_iff.mp h
      exact .inr ⟨he, r₀, he ▸ hr₀, rfl⟩
  · exact .inl h

/-! ### Which keys are there -/

theorem get_delete_eq_none {t : Table ρ} {k j : κ} :
    (t.delete k).get j = none ↔ j = k ∨ t.get j = none := by
  rw [get_delete]
  split <;> simp_all

theorem get_deleteAll_eq_none {t : Table ρ} {ks : List κ} {j : κ} :
    (t.deleteAll ks).get j = none ↔ j ∈ ks ∨ t.get j = none := by
  rw [get_deleteAll]
  split <;> simp_all

theorem get_update_eq_none {t : Table ρ} {k j : κ} {f : ρ → ρ}
    {hf : ∀ r, Keyed.key (f r) = Keyed.key r} :
    (t.update k f hf).get j = none ↔ t.get j = none := by
  rw [get_update]
  split
  · next h => subst h; exact Option.map_eq_none_iff
  · exact Iff.rfl

theorem get_insert_eq_none {t u : Table ρ} {r : ρ} (h : t.insert r = some u) {j : κ} :
    u.get j = none ↔ j ≠ Keyed.key r ∧ t.get j = none := by
  rw [get_insert h]
  split <;> simp_all

theorem get_insertAll_eq_none {t u : Table ρ} {rs : List ρ} (h : t.insertAll rs = some u) {j : κ} :
    u.get j = none ↔ j ∉ rs.map Keyed.key ∧ t.get j = none := by
  by_cases hj : j ∈ rs.map Keyed.key
  · obtain ⟨r, hr, rfl⟩ := List.mem_map.mp hj
    simp [(get_insertAll_of_mem h hr).1, hj]
  · rw [get_insertAll_of_notMem h hj]
    simp [hj]

/-! ### Rows that stay -/

/-- The rows with the property are the same in both tables. -/
def SameRows (P : ρ → Prop) (t u : Table ρ) : Prop :=
  ∀ k r, P r → (u.get k = some r ↔ t.get k = some r)

section
variable {P : ρ → Prop} {t u : Table ρ}

theorem SameRows.refl (P : ρ → Prop) (t : Table ρ) : SameRows P t t := fun _ _ _ => Iff.rfl

/-- Nothing but the row of one key differs, and it does not have the property. -/
theorem SameRows.of_ne {k : κ} (hne : ∀ j, j ≠ k → u.get j = t.get j)
    (ht : ∀ r, t.get k = some r → ¬ P r) (hu : ∀ r, u.get k = some r → ¬ P r) :
    SameRows P t u := by
  intro j r hr
  by_cases he : j = k
  · subst he
    exact ⟨fun h => absurd hr (hu r h), fun h => absurd hr (ht r h)⟩
  · rw [hne j he]

/-- A delete of another kind of row leaves the rows of the kind. -/
theorem sameRows_delete {k : κ} (h : ∀ r, t.get k = some r → ¬ P r) :
    SameRows P t (t.delete k) := by
  refine .of_ne (fun j hj => by rw [get_delete, if_neg hj]) h fun r hr => ?_
  exact absurd rfl (get_delete_inv hr).1

theorem sameRows_update {k : κ} {f : ρ → ρ} (hf : ∀ r, Keyed.key (f r) = Keyed.key r)
    (h : ∀ r, t.get k = some r → ¬ P r ∧ ¬ P (f r)) : SameRows P t (t.update k f hf) := by
  refine .of_ne (fun j hj => by rw [get_update, if_neg hj]) (fun r hr => (h r hr).1) fun r hr => ?_
  rw [get_update, if_pos rfl] at hr
  obtain ⟨r₀, hr₀, rfl⟩ := Option.map_eq_some_iff.mp hr
  exact (h r₀ hr₀).2

/-- The update leaves the row as it is. -/
theorem sameRows_update_fixed {k : κ} {f : ρ → ρ} (hf : ∀ r, Keyed.key (f r) = Keyed.key r)
    (h : ∀ r, t.get k = some r → f r = r) : SameRows P t (t.update k f hf) := by
  intro j r _
  by_cases he : j = k
  · subst he
    rw [get_update, if_pos rfl]
    cases hj : t.get j with
    | none => exact Iff.rfl
    | some r₀ => rw [Option.map_some, h r₀ hj]
  · rw [get_update, if_neg he]

theorem sameRows_insert {r : ρ} (hu : t.insert r = some u) (hr : ¬ P r) : SameRows P t u := by
  refine .of_ne (k := Keyed.key r) (fun j hj => by rw [get_insert hu, if_neg hj]) ?_ ?_
  · intro r' hr'
    rw [get_eq_none_of_insert hu] at hr'
    cases hr'
  · intro r' hr'
    rw [get_insert hu, if_pos rfl] at hr'
    cases hr'
    exact hr

theorem sameRows_deleteAll {ks : List κ} (h : ∀ k ∈ ks, ∀ r, t.get k = some r → ¬ P r) :
    SameRows P t (t.deleteAll ks) := by
  intro j r hr
  refine ⟨fun hj => (get_deleteAll_inv hj).2, fun hj => ?_⟩
  rw [get_deleteAll, if_neg fun hmem => h j hmem r hj hr, hj]

theorem sameRows_insertAll {rs : List ρ} (hu : t.insertAll rs = some u) (hrs : ∀ r ∈ rs, ¬ P r) :
    SameRows P t u := by
  intro j r hr
  refine ⟨fun hj => (get_insertAll_inv hu hj).resolve_right fun hmem => hrs r hmem hr, fun hj => ?_⟩
  rw [get_insertAll_of_ne_none hu (by rw [hj]; exact Option.some_ne_none r), hj]

end

/-! ### Tables up to some columns -/

/-- The tables have the same keys, and rows that `f` does not tell apart. -/
def SameUpTo {α : Type*} (f : ρ → α) (t u : Table ρ) : Prop :=
  ∀ k, (t.get k).map f = (u.get k).map f

section
variable {α : Type*} {f : ρ → α} {t u : Table ρ} {k : κ}

theorem SameUpTo.refl (f : ρ → α) (t : Table ρ) : SameUpTo f t t := fun _ => rfl

/-- Tables that are the same up to `f` have the same keys. -/
theorem SameUpTo.get_eq_none (h : SameUpTo f t u) (k : κ) : t.get k = none ↔ u.get k = none := by
  rw [← Option.map_eq_none_iff (f := f), h k, Option.map_eq_none_iff]

/-- The second delete of a key finds nothing. -/
theorem delete_delete : (t.delete k).delete k = t.delete k :=
  delete_of_get_eq_none (get_delete_eq_none.mpr (.inl rfl))

/-- A second update of a row writes what `f` does not see. -/
theorem sameUpTo_update_update {g g' : ρ → ρ} (hg : ∀ r, Keyed.key (g r) = Keyed.key r)
    (hg' : ∀ r, Keyed.key (g' r) = Keyed.key r) (h : ∀ r, f (g' (g r)) = f (g r)) :
    SameUpTo f ((t.update k g hg).update k g' hg') (t.update k g hg) := by
  intro j
  rw [get_update]
  split
  · next he =>
      subst he
      rw [get_update, if_pos rfl]
      cases t.get j with
      | none => rfl
      | some r => exact congrArg some (h r)
  · rfl

end

end Table

end MRF.Library
