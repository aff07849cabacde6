import Mathlib.Algebra.BigOperators.Group.List.Basic
import Mathlib.Algebra.Order.Monoid.Defs
import Mathlib.Tactic.Abel

/-!
# Two ledgers of the same entries

One party knows of some entries what they came to; the other has charged every entry.  Where
what is known agrees with what was charged, and no charge is negative, the sum of what is
known is a lower bound on the sum of the charges (`sum_known_le`), and is that sum if every
entry is known (`sum_known_eq`).

The second ledger may be kept as a running total while its entries still change: `sum_map_set`
says by how much.
-/

namespace ExtractApi.TwoLedgers

variable {α K : Type*} [AddCommGroup K]

/-- What is known of an entry is what was charged for it. -/
def Agrees (known : Option K) (charged : K) : Prop := ∀ cost, known = some cost → cost = charged

theorem sum_known_eq {known : List (Option K)} {charged : List K}
    (h : List.Forall₂ Agrees known charged) (hall : ∀ entry ∈ known, entry ≠ none) :
    (known.map fun entry => entry.getD 0).sum = charged.sum := by
  induction h with
  | nil => rfl
  | @cons entry charge known charged hagrees _ ih =>
    rcases entry with _ | cost
    · exact absurd rfl (hall none List.mem_cons_self)
    · rw [List.map_cons, List.sum_cons, List.sum_cons,
        ih fun other hother => hall other (List.mem_cons_of_mem _ hother), ← hagrees cost rfl]
      rfl

theorem sum_known_le [PartialOrder K] [IsOrderedAddMonoid K] {known : List (Option K)}
    {charged : List K} (h : List.Forall₂ Agrees known charged) (hnonneg : ∀ c ∈ charged, 0 ≤ c) :
    (known.map fun entry => entry.getD 0).sum ≤ charged.sum := by
  induction h with
  | nil => exact le_refl _
  | @cons entry charge known charged hagrees _ ih =>
    rw [List.map_cons, List.sum_cons, List.sum_cons]
    apply add_le_add
    · rcases entry with _ | cost
      · exact hnonneg charge List.mem_cons_self
      · exact le_of_eq (hagrees cost rfl)
    · exact ih fun c hc => hnonneg c (List.mem_cons_of_mem _ hc)

theorem sum_map_set (charge : α → K) {entries : List α} {n : ℕ} {entry : α}
    (h : entries[n]? = some entry) (entry' : α) :
    ((entries.set n entry').map charge).sum =
      (entries.map charge).sum + (charge entry' - charge entry) := by
  obtain ⟨hn, rfl⟩ := List.getElem?_eq_some_iff.mp h
  rw [List.map_set, List.sum_set', dif_pos (by simpa using hn), List.getElem_map]
  abel

end ExtractApi.TwoLedgers
