import Mathlib.Order.Bounds.Basic

/-!
# Order statistics

The element at a position of a sorted list is at most a bound exactly when more elements are
at most the bound than stand before it: `getElem_le_iff`.  Nothing else is needed of a nearest
rank, and how the list was sorted does not matter.
-/

namespace ExtractApi.OrderStatistics

variable {α : Type*} [LinearOrder α]

/-- How many elements are at most `v`. -/
def countLe (v : α) (l : List α) : ℕ := l.countP fun x => decide (x ≤ v)

theorem countLe_of_perm {l l' : List α} (h : l.Perm l') (v : α) : countLe v l = countLe v l' :=
  h.countP_eq _

/-- In a sorted list, the elements that are at most a bound come first. -/
theorem getElem_le_iff {l : List α} (hsorted : l.Pairwise (· ≤ ·)) (v : α) {k : ℕ}
    (hk : k < l.length) : l[k] ≤ v ↔ k < countLe v l := by
  induction l generalizing k with
  | nil => simp at hk
  | cons x l ih =>
    rw [List.pairwise_cons] at hsorted
    obtain ⟨hfirst, hrest⟩ := hsorted
    by_cases hx : x ≤ v
    · have hcount : countLe v (x :: l) = countLe v l + 1 :=
        List.countP_cons_of_pos (by simpa using hx)
      rw [hcount]
      cases k with
      | zero => simpa using hx
      | succ k =>
        rw [List.length_cons] at hk
        rw [List.getElem_cons_succ, ih hrest (by omega)]
        omega
    · have hnone : ∀ y ∈ x :: l, ¬ y ≤ v := by
        intro y hy hle
        rcases List.mem_cons.mp hy with rfl | hy
        · exact hx hle
        · exact hx ((hfirst y hy).trans hle)
      have hcount : countLe v (x :: l) = 0 := by
        apply List.countP_eq_zero.mpr
        intro y hy
        simpa using hnone y hy
      rw [hcount]
      constructor
      · intro hle
        exact absurd hle (hnone _ (List.getElem_mem hk))
      · intro hlt
        omega

/-- The element at a position is the least one that more elements are at most than stand
    before it. -/
theorem isLeast_getElem {l : List α} (hsorted : l.Pairwise (· ≤ ·)) {k : ℕ} (hk : k < l.length) :
    IsLeast {v | v ∈ l ∧ k < countLe v l} l[k] := by
  constructor
  · exact ⟨List.getElem_mem hk, (getElem_le_iff hsorted _ hk).mp le_rfl⟩
  · intro v hv
    exact (getElem_le_iff hsorted v hk).mpr hv.2

theorem getElem_le_getElem {l : List α} (hsorted : l.Pairwise (· ≤ ·)) {k k' : ℕ} (h : k ≤ k')
    (hk' : k' < l.length) : l[k] ≤ l[k'] := by
  rw [getElem_le_iff hsorted]
  exact h.trans_lt ((getElem_le_iff hsorted _ hk').mp le_rfl)

end ExtractApi.OrderStatistics
