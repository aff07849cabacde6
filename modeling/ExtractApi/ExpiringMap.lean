import Mathlib.Algebra.Order.Group.Unbundled.Basic
import Mathlib.Algebra.Order.Monoid.Defs

/-!
# Maps whose entries expire

The abstract time-to-live map: an entry older than `ttl` does not exist for any
operation.  A map is a plain function to optional entries, and `live now` is what
it shows at a clock value.

Two maps agree from time `τ` on (`ViewsAgree τ`) when they show the same entries at
`τ` and at every later clock value.  This is the relation between an implementation
that removes dead entries lazily and the abstract map: it survives the passing of
time, the removal of dead entries on either side, and a `put` on both sides, as
long as no dead entry of the implementation stands in the way of the `put`.
-/

namespace ExtractApi.ExpiringMap

variable {K V T : Type*} [AddCommGroup T] [LinearOrder T]

section

variable (stamp : V → T) (ttl : T)

/-- The entry as seen at `now`: its age is at most the time to live. -/
def live (now : T) (entry : Option V) : Option V :=
  entry.filter fun v => decide (now - stamp v ≤ ttl)

def get (m : K → Option V) (now : T) (k : K) : Option V := live stamp ttl now (m k)

/-- Store `v` unless the key has a live entry. -/
def put [DecidableEq K] (m : K → Option V) (now : T) (k : K) (v : V) : K → Option V :=
  if (live stamp ttl now (m k)).isSome then m else Function.update m k (some v)

/-- The two maps show the same entries from `τ` on. -/
def ViewsAgree (τ : T) (f g : K → Option V) : Prop :=
  ∀ now, τ ≤ now → ∀ k, live stamp ttl now (f k) = live stamp ttl now (g k)

end

variable {stamp : V → T} {ttl : T}

@[simp] theorem live_none (now : T) : live stamp ttl now none = none := rfl

theorem live_some_of_le {now : T} {v : V} (h : now - stamp v ≤ ttl) :
    live stamp ttl now (some v) = some v := by
  rw [live, Option.filter_some, if_pos (decide_eq_true h)]

theorem live_some_of_lt {now : T} {v : V} (h : ttl < now - stamp v) :
    live stamp ttl now (some v) = none := by
  rw [live, Option.filter_some, if_neg (by simpa only [decide_eq_true_eq] using not_le.mpr h)]

theorem live_eq_some_iff {now : T} {entry : Option V} {v : V} :
    live stamp ttl now entry = some v ↔ entry = some v ∧ now - stamp v ≤ ttl := by
  rw [live, Option.filter_eq_some_iff, decide_eq_true_eq]

theorem live_eq_none_mono [IsOrderedAddMonoid T] {now later : T} {entry : Option V}
    (hle : now ≤ later)
    (h : live stamp ttl now entry = none) : live stamp ttl later entry = none := by
  cases entry with
  | none => rfl
  | some v =>
    by_contra hlive
    obtain ⟨w, hw⟩ := Option.ne_none_iff_exists'.mp hlive
    obtain ⟨hv, hage⟩ := live_eq_some_iff.mp hw
    cases hv
    have hnow : now - stamp v ≤ ttl := (sub_le_sub_right hle _).trans hage
    rw [live_some_of_le hnow] at h
    cases h

namespace ViewsAgree

variable {τ τ' : T} {f f' g : K → Option V}

theorem refl (f : K → Option V) : ViewsAgree stamp ttl τ f f := fun _ _ _ => rfl

theorem mono (h : ViewsAgree stamp ttl τ f g) (hle : τ ≤ τ') : ViewsAgree stamp ttl τ' f g :=
  fun now hnow => h now (hle.trans hnow)

/-- Dead entries may be removed. -/
theorem purge [IsOrderedAddMonoid T] (h : ViewsAgree stamp ttl τ f g)
    (hpurge : ∀ k, f' k = f k ∨ (f' k = none ∧ live stamp ttl τ (f k) = none)) :
    ViewsAgree stamp ttl τ f' g := by
  intro now hnow k
  rcases hpurge k with hsame | ⟨hgone, hdead⟩
  · rw [hsame, h now hnow k]
  · rw [hgone, live_none, ← h now hnow k, live_eq_none_mono hnow hdead]

variable [DecidableEq K] {k : K} {v : V}

/-- An entry stored at a free key may be stored over whatever the other side holds. -/
theorem overwrite (h : ViewsAgree stamp ttl τ f g) (hfree : f k = none) :
    ViewsAgree stamp ttl τ (fun k' => (f k').or (if k = k' then some v else none))
      (Function.update g k (some v)) := by
  intro now hnow k'
  by_cases hk : k = k'
  · subst hk
    simp [hfree]
  · rw [Function.update_of_ne (Ne.symm hk), ← h now hnow k']
    simp [hk]

/-- Inserting only at a free key refines `put`, unless a dead entry takes the key. -/
theorem put (h : ViewsAgree stamp ttl τ f g)
    (hfree : f k = none ∨ (live stamp ttl τ (f k)).isSome) :
    ViewsAgree stamp ttl τ (fun k' => (f k').or (if k = k' then some v else none))
      (ExpiringMap.put stamp ttl g τ k v) := by
  rcases hfree with hnone | hlive
  · have hdead : live stamp ttl τ (g k) = none := by rw [← h τ (le_refl τ) k, hnone, live_none]
    simp only [ExpiringMap.put, hdead, Option.isSome_none, Bool.false_eq_true, if_false]
    exact h.overwrite hnone
  · have hstored : (live stamp ttl τ (g k)).isSome := by rwa [← h τ (le_refl τ) k]
    rw [ExpiringMap.put, if_pos hstored]
    have hsame : ∀ k', (f k').or (if k = k' then some v else none) = f k' := by
      intro k'
      by_cases hk : k = k'
      · subst hk
        obtain ⟨w, hw⟩ := Option.isSome_iff_exists.mp hlive
        rw [(live_eq_some_iff.mp hw).1]
        rfl
      · simp [hk]
    simpa only [hsame] using h

end ViewsAgree

end ExtractApi.ExpiringMap
