import Mathlib.Data.List.Nodup

/-!
# Tables with a primary key

A table is a list of rows in which no two rows have the same key; the constraint
is a field, so every operation carries its proof that it keeps it.  The
statements are the ones a key-value store is written in:

* `select k`: the row with key `k`;
* `insertOrIgnore r`: add `r` unless its key is taken;
* `insertOrReplace r`: add `r` in the place of any row with its key;
* `deleteWhere p`: drop the rows that satisfy `p`.

Each has one equation about `select`, and a table is used through these only.
-/

namespace ExtractApi

variable {K R : Type*}

structure KeyedTable (key : R → K) where
  rows : List R
  /-- `PRIMARY KEY` -/
  primaryKey : (rows.map key).Nodup

namespace KeyedTable

variable {key : R → K}

/-- The table with no rows. -/
def empty : KeyedTable key := ⟨[], List.nodup_nil⟩

theorem eq_of_key_eq (t : KeyedTable key) {r r' : R} (hr : r ∈ t.rows) (hr' : r' ∈ t.rows)
    (h : key r = key r') : r = r' :=
  List.inj_on_of_nodup_map t.primaryKey hr hr' h

/-- `DELETE … WHERE p` -/
def deleteWhere (t : KeyedTable key) (p : R → Bool) : KeyedTable key where
  rows := t.rows.filter fun r => !p r
  primaryKey := t.primaryKey.sublist (List.filter_sublist.map key)

/-- The number of rows `deleteWhere p` drops. -/
def rowCount (t : KeyedTable key) (p : R → Bool) : ℕ := t.rows.countP p

section Lookup

variable [DecidableEq K]

/-- `SELECT … WHERE key = k` -/
def select (t : KeyedTable key) (k : K) : Option R := t.rows.find? fun r => decide (key r = k)

@[simp] theorem select_empty (k : K) : (empty : KeyedTable key).select k = none := rfl

theorem select_eq_some_iff (t : KeyedTable key) {k : K} {r : R} :
    t.select k = some r ↔ r ∈ t.rows ∧ key r = k := by
  constructor
  · intro h
    exact ⟨List.mem_of_find?_eq_some h, by simpa using List.find?_some h⟩
  · rintro ⟨hr, rfl⟩
    cases hfind : t.select (key r) with
    | none =>
      have hne := List.find?_eq_none.mp hfind r hr
      simp at hne
    | some r' =>
      have hkey : key r' = key r := by simpa using List.find?_some hfind
      rw [t.eq_of_key_eq (List.mem_of_find?_eq_some hfind) hr hkey]

theorem key_of_select (t : KeyedTable key) {k : K} {r : R} (h : t.select k = some r) :
    key r = k := (t.select_eq_some_iff.mp h).2

theorem select_eq_none_iff (t : KeyedTable key) {k : K} :
    t.select k = none ↔ ∀ r ∈ t.rows, key r ≠ k := by
  simp [select, List.find?_eq_none]

/-- `INSERT OR IGNORE` -/
def insertOrIgnore (t : KeyedTable key) (r : R) : KeyedTable key :=
  match h : t.select (key r) with
  | some _ => t
  | none =>
      { rows := t.rows ++ [r]
        primaryKey := by
          rw [List.map_append, List.nodup_append]
          refine ⟨t.primaryKey, List.nodup_singleton _, ?_⟩
          intro a ha b hb
          obtain ⟨r', hr', rfl⟩ := List.mem_map.mp ha
          have hb : b = key r := by simpa using hb
          exact hb ▸ t.select_eq_none_iff.mp h r' hr' }

/-- An insertion shows at its own key, and there only if the key was free. -/
theorem select_insertOrIgnore (t : KeyedTable key) (r : R) (k : K) :
    (t.insertOrIgnore r).select k =
      (t.select k).or (if key r = k then some r else none) := by
  unfold insertOrIgnore
  split
  · rename_i r' htaken
    by_cases hk : key r = k
    · subst hk
      simp [htaken]
    · simp [hk]
  · show (t.rows ++ [r]).find? _ = _
    rw [List.find?_append]
    by_cases hk : key r = k <;> simp [hk, select]

/-- A deletion shows at the keys of the rows it drops, and nowhere else. -/
theorem select_deleteWhere (t : KeyedTable key) (p : R → Bool) (k : K) :
    (t.deleteWhere p).select k = (t.select k).filter fun r => !p r := by
  apply Option.ext
  intro r
  rw [Option.filter_eq_some_iff, select_eq_some_iff, select_eq_some_iff]
  show r ∈ t.rows.filter _ ∧ _ ↔ _
  rw [List.mem_filter]
  tauto

/-- `INSERT OR REPLACE` -/
def insertOrReplace (t : KeyedTable key) (r : R) : KeyedTable key :=
  (t.deleteWhere fun r' => decide (key r' = key r)).insertOrIgnore r

/-- A replacement shows at its own key, and nowhere else. -/
theorem select_insertOrReplace (t : KeyedTable key) (r : R) (k : K) :
    (t.insertOrReplace r).select k = if key r = k then some r else t.select k := by
  unfold insertOrReplace
  rw [select_insertOrIgnore, select_deleteWhere]
  by_cases hk : key r = k
  · have hfree : (t.select k).filter (fun r' => !decide (key r' = key r)) = none := by
      rw [Option.filter_eq_none_iff]
      intro r' hr'
      simp [t.key_of_select hr', hk]
    rw [hfree, Option.none_or, if_pos hk, if_pos hk]
  · rw [if_neg hk, if_neg hk, Option.or_none]
    cases hselect : t.select k with
    | none => rfl
    | some r' =>
      have hne : key r' ≠ key r := fun heq => hk (heq.symm.trans (t.key_of_select hselect))
      simp [hne]

end Lookup

/-- A table whose rows all have one key has at most one row. -/
theorem length_le_one (t : KeyedTable key) {k : K} (h : ∀ r ∈ t.rows, key r = k) :
    t.rows.length ≤ 1 := by
  have hkeys : t.rows.map key = List.replicate t.rows.length k := by
    rw [List.eq_replicate_iff]
    simpa using h
  have hnodup := t.primaryKey
  rw [hkeys, List.nodup_replicate] at hnodup
  exact hnodup

end KeyedTable

end ExtractApi
