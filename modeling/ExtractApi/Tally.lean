import Mathlib.Algebra.BigOperators.Group.List.Basic
import Mathlib.Data.List.Nodup

/-!
# Tallies

A tally is a dictionary that is filled by `setdefault`: each item is added to the entry of
its key, and the first item of a key makes the entry.  Keys keep the order of their first
item, and no key has two entries.

A tally of items is known by two equations: the entry of a key is the sum of the items of
that key (`valueAt_collect`), and the sum over the entries is the sum over all items
(`sum_collect`).
-/

namespace ExtractApi

variable {K V : Type*}

structure Tally (K V : Type*) where
  entries : List (K × V)
  distinct : (entries.map Prod.fst).Nodup

namespace Tally

def empty : Tally K V := ⟨[], List.nodup_nil⟩

/-- The values, in the order of the entries. -/
def values (t : Tally K V) : List V := t.entries.map Prod.snd

variable [DecidableEq K] [AddCommMonoid V]

/-- `entries.setdefault(key, 0) += value` -/
def addEntry (key : K) (value : V) : List (K × V) → List (K × V)
  | [] => [(key, 0 + value)]
  | (name, sum) :: entries =>
      if name = key then (name, sum + value) :: entries
      else (name, sum) :: addEntry key value entries

/-- The entry of a key, zero where there is none. -/
def entryAt (key : K) : List (K × V) → V
  | [] => 0
  | (name, sum) :: entries => if name = key then sum else entryAt key entries

theorem keys_addEntry (key : K) (value : V) (entries : List (K × V)) :
    (addEntry key value entries).map Prod.fst =
      if key ∈ entries.map Prod.fst then entries.map Prod.fst
      else entries.map Prod.fst ++ [key] := by
  induction entries with
  | nil => rfl
  | cons entry entries ih =>
    obtain ⟨name, sum⟩ := entry
    unfold addEntry
    by_cases hname : name = key
    · simp [hname]
    · rw [if_neg hname, List.map_cons, ih]
      by_cases hmem : key ∈ entries.map Prod.fst
      · simp only [hmem, if_true, List.map_cons, List.mem_cons, or_true]
      · have hne : key ∉ ((name, sum) :: entries).map Prod.fst := by
          simp only [List.map_cons, List.mem_cons, not_or]
          exact ⟨Ne.symm hname, hmem⟩
        rw [if_neg hmem, if_neg hne]
        rfl

theorem nodup_addEntry (key : K) (value : V) {entries : List (K × V)}
    (h : (entries.map Prod.fst).Nodup) : ((addEntry key value entries).map Prod.fst).Nodup := by
  rw [keys_addEntry]
  split_ifs with hmem
  · exact h
  · rw [List.nodup_append_comm]
    exact List.nodup_cons.mpr ⟨hmem, h⟩

theorem entryAt_addEntry (key key' : K) (value : V) (entries : List (K × V)) :
    entryAt key' (addEntry key value entries) =
      entryAt key' entries + if key = key' then value else 0 := by
  induction entries with
  | nil =>
    by_cases hkey : key = key'
    · simp [addEntry, entryAt, hkey]
    · simp [addEntry, entryAt, hkey]
  | cons entry entries ih =>
    obtain ⟨name, sum⟩ := entry
    unfold addEntry
    by_cases hname : name = key
    · subst hname
      by_cases hkey : name = key'
      · simp [entryAt, hkey]
      · simp [entryAt, hkey]
    · rw [if_neg hname]
      by_cases hkey : name = key'
      · have hne : key ≠ key' := fun h => hname (hkey.trans h.symm)
        simp [entryAt, hkey, hne]
      · simp [entryAt, hkey, ih]

theorem sum_addEntry (key : K) (value : V) (entries : List (K × V)) :
    ((addEntry key value entries).map Prod.snd).sum = (entries.map Prod.snd).sum + value := by
  induction entries with
  | nil => simp [addEntry]
  | cons entry entries ih =>
    obtain ⟨name, sum⟩ := entry
    unfold addEntry
    split_ifs with hname
    · simp only [List.map_cons, List.sum_cons]
      rw [add_right_comm]
    · simp only [List.map_cons, List.sum_cons, ih, add_assoc]

/-- One item more. -/
def add (t : Tally K V) (item : K × V) : Tally K V where
  entries := addEntry item.1 item.2 t.entries
  distinct := nodup_addEntry item.1 item.2 t.distinct

/-- The tally of the items. -/
def collect (items : List (K × V)) : Tally K V := items.foldl add empty

def valueAt (t : Tally K V) (key : K) : V := entryAt key t.entries

/-- Each entry is the sum of the items of its key. -/
theorem valueAt_collect (items : List (K × V)) (key : K) :
    (collect items).valueAt key =
      ((items.filter fun item => decide (item.1 = key)).map Prod.snd).sum := by
  have hfold : ∀ (items : List (K × V)) (t : Tally K V), (items.foldl add t).valueAt key =
      t.valueAt key + ((items.filter fun item => decide (item.1 = key)).map Prod.snd).sum := by
    intro items
    induction items with
    | nil =>
      intro t
      exact (add_zero _).symm
    | cons item items ih =>
      intro t
      have hadd : (t.add item).valueAt key = t.valueAt key + if item.1 = key then item.2 else 0 :=
        entryAt_addEntry item.1 key item.2 t.entries
      rw [List.foldl_cons, ih, hadd, List.filter_cons]
      by_cases hkey : item.1 = key
      · simp [hkey, add_assoc]
      · simp [hkey]
  have hempty : (empty : Tally K V).valueAt key = 0 := rfl
  rw [collect, hfold, hempty, zero_add]

/-- The entries sum up to what the items sum up to. -/
theorem sum_collect (items : List (K × V)) :
    (collect items).values.sum = (items.map Prod.snd).sum := by
  have hfold : ∀ (items : List (K × V)) (t : Tally K V),
      (items.foldl add t).values.sum = t.values.sum + (items.map Prod.snd).sum := by
    intro items
    induction items with
    | nil =>
      intro t
      exact (add_zero _).symm
    | cons item items ih =>
      intro t
      have hadd : (t.add item).values.sum = t.values.sum + item.2 :=
        sum_addEntry item.1 item.2 t.entries
      rw [List.foldl_cons, ih, hadd, List.map_cons, List.sum_cons, add_assoc]
  have hempty : (empty : Tally K V).values.sum = 0 := rfl
  rw [collect, hfold, hempty, zero_add]

/-! ## The items in another order, or in two parts -/

/-- The keys, in the order of the entries. -/
def keys (t : Tally K V) : List K := t.entries.map Prod.fst

theorem mem_keys_collect (items : List (K × V)) (key : K) :
    key ∈ (collect items).keys ↔ key ∈ items.map Prod.fst := by
  have hfold : ∀ (items : List (K × V)) (t : Tally K V),
      key ∈ (items.foldl add t).keys ↔ key ∈ t.keys ∨ key ∈ items.map Prod.fst := by
    intro items
    induction items with
    | nil =>
      intro t
      simp
    | cons item items ih =>
      intro t
      have hadd : key ∈ (t.add item).keys ↔ key ∈ t.keys ∨ key = item.1 := by
        show key ∈ (addEntry item.1 item.2 t.entries).map Prod.fst ↔
          key ∈ t.entries.map Prod.fst ∨ _
        rw [keys_addEntry]
        split_ifs with hmem
        · constructor
          · exact Or.inl
          · rintro (h | rfl)
            · exact h
            · exact hmem
        · rw [List.mem_append, List.mem_singleton]
      rw [List.foldl_cons, ih, hadd, List.map_cons, List.mem_cons, or_assoc]
  rw [collect, hfold]
  simp [empty, keys]

theorem mem_entries_iff (t : Tally K V) (entry : K × V) :
    entry ∈ t.entries ↔ entry.1 ∈ t.keys ∧ t.valueAt entry.1 = entry.2 := by
  obtain ⟨entries, hdistinct⟩ := t
  obtain ⟨key, value⟩ := entry
  show (key, value) ∈ entries ↔ key ∈ entries.map Prod.fst ∧ entryAt key entries = value
  induction entries with
  | nil => simp
  | cons first entries ih =>
    obtain ⟨name, sum⟩ := first
    rw [List.map_cons, List.nodup_cons] at hdistinct
    have hrest := ih hdistinct.2
    by_cases hname : name = key
    · subst hname
      have hnot : (name, value) ∉ entries := by
        intro h
        exact hdistinct.1 (List.mem_map.mpr ⟨(name, value), h, rfl⟩)
      simp [entryAt, hnot, eq_comm]
    · simp [entryAt, hname, Ne.symm hname, hrest]

/-- Items in another order make the same entries, in some order. -/
theorem perm_collect {items items' : List (K × V)} (h : items.Perm items') :
    (collect items).entries.Perm (collect items').entries := by
  have hnodup : ∀ t : Tally K V, t.entries.Nodup := fun t => t.distinct.of_map
  rw [List.perm_ext_iff_of_nodup (hnodup _) (hnodup _)]
  intro entry
  rw [mem_entries_iff, mem_entries_iff, mem_keys_collect, mem_keys_collect, valueAt_collect,
    valueAt_collect, (h.map Prod.fst).mem_iff, ((h.filter _).map Prod.snd).sum_eq]

theorem valueAt_collect_append (items items' : List (K × V)) (key : K) :
    (collect (items ++ items')).valueAt key =
      (collect items).valueAt key + (collect items').valueAt key := by
  rw [valueAt_collect, valueAt_collect, valueAt_collect, List.filter_append, List.map_append,
    List.sum_append]

end Tally

end ExtractApi
