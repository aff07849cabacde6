import Mathlib.Order.Basic
import Mathlib.Order.Nat

/-!
# Executions of a labelled transition system

A system is a relation `step s i t`: from `s`, the step labelled `i` leads to `t`.
An `Execution` of `n` steps is given by its states and its labels, so that a
statement can name two moments of one execution and speak of what happened between
them.  The rules are the inductions over the moments of an execution: what a step
preserves holds throughout, what a stretch of steps preserves holds at its end, what
came to hold was brought about by a step, and what every step relates any two moments
relate.  `Execution.map` carries an execution along a simulation, so that what holds of
the executions of the simulating system holds of it; `Execution.member` takes one member
out of an interleaving of many.
-/

namespace ExtractApi.TransitionSystem

variable {σ ι : Type*}

/-- `n` steps, the `i`-th of which leads from `state i` to `state (i + 1)`. -/
structure Execution (step : σ → ι → σ → Prop) (n : ℕ) where
  state : ℕ → σ
  label : ℕ → ι
  steps : ∀ i < n, step (state i) (label i) (state (i + 1))

namespace Execution

variable {step : σ → ι → σ → Prop} {n : ℕ} (e : Execution step n)

/-- What a stretch of steps preserves holds at its end. -/
theorem preserves {P : σ → Prop} {i j : ℕ} (hij : i ≤ j) (hi : P (e.state i))
    (hstep : ∀ m, i ≤ m → m < j → P (e.state m) → P (e.state (m + 1))) : P (e.state j) := by
  induction j, hij using Nat.le_induction with
  | base => exact hi
  | succ j hij ih =>
    exact hstep j hij (Nat.lt_succ_self j)
      (ih fun m him hmj => hstep m him (hmj.trans (Nat.lt_succ_self j)))

/-- **Invariant rule.**  What every step preserves holds at every moment. -/
theorem invariant {Inv : σ → Prop} (h0 : Inv (e.state 0))
    (hstep : ∀ s l t, Inv s → step s l t → Inv t) {i : ℕ} (hi : i ≤ n) : Inv (e.state i) :=
  e.preserves (Nat.zero_le i) h0 fun m _ hm hinv => hstep _ _ _ hinv (e.steps m (by omega))

/-- **Rule of the last change.**  What holds at a moment and did not hold at an earlier one
    has held since some step between the two. -/
theorem since {P : σ → Prop} {i j : ℕ} (hij : i ≤ j) (hi : ¬ P (e.state i))
    (hj : P (e.state j)) :
    ∃ k, i ≤ k ∧ k < j ∧ ¬ P (e.state k) ∧ ∀ m, k < m → m ≤ j → P (e.state m) := by
  induction j, hij using Nat.le_induction with
  | base => exact absurd hj hi
  | succ j hij ih =>
    by_cases hbefore : P (e.state j)
    · obtain ⟨k, hik, hkj, hk, hsince⟩ := ih hbefore
      refine ⟨k, hik, hkj.trans (Nat.lt_succ_self j), hk, ?_⟩
      intro m hkm hmj
      rcases Nat.lt_or_ge j m with hlt | hle
      · rwa [show m = j + 1 by omega]
      · exact hsince m hkm hle
    · refine ⟨j, hij, Nat.lt_succ_self j, hbefore, ?_⟩
      intro m hjm hmj
      rwa [show m = j + 1 by omega]

/-- What every step relates, two moments relate. -/
theorem relates {R : σ → σ → Prop} (hrefl : ∀ s, R s s)
    (htrans : ∀ s t u, R s t → R t u → R s u) (hstep : ∀ s l t, step s l t → R s t)
    {i j : ℕ} (hij : i ≤ j) (hj : j ≤ n) : R (e.state i) (e.state j) :=
  e.preserves (P := fun t => R (e.state i) t) hij (hrefl _) fun m _ hm h =>
    htrans _ _ _ h (hstep _ _ _ (e.steps m (by omega)))

/-- An execution whose steps another system simulates, state by state, is one of its own. -/
def map {τ κ : Type*} {step' : τ → κ → τ → Prop} (f : σ → τ) (g : ι → κ)
    (h : ∀ i < n, step' (f (e.state i)) (g (e.label i)) (f (e.state (i + 1)))) :
    Execution step' n where
  state i := f (e.state i)
  label i := g (e.label i)
  steps := h

end Execution

/-! ## Families of systems -/

variable {δ : Type*} [DecidableEq δ]

/-- One member of the family takes a step at a time. -/
inductive Interleaved (step : σ → ι → σ → Prop) : (δ → σ) → δ × ι → (δ → σ) → Prop where
  | step {family : δ → σ} {member : δ} {l : ι} {t : σ} (h : step (family member) l t) :
      Interleaved step family (member, l) (Function.update family member t)

variable {step : σ → ι → σ → Prop} {n : ℕ}

/-- The execution of one member, which takes `idle` steps while others move. -/
def Execution.member (e : Execution (Interleaved (δ := δ) step) n) (d : δ) {idle : ι}
    (hidle : ∀ s, step s idle s) : Execution step n where
  state i := e.state i d
  label i := if (e.label i).1 = d then (e.label i).2 else idle
  steps i hi := by
    have hstep := e.steps i hi
    generalize e.state i = family at hstep ⊢
    generalize e.label i = l at hstep ⊢
    generalize e.state (i + 1) = family' at hstep ⊢
    cases hstep with
    | @step member l t h =>
      by_cases hmember : member = d
      · subst hmember
        rw [if_pos rfl, Function.update_self]
        exact h
      · rw [if_neg hmember, Function.update_of_ne (Ne.symm hmember)]
        exact hidle _

end ExtractApi.TransitionSystem
