import ExtractApi.Observability

/-!
# The budget guard (`api/budget.py`)

The guard compares the committed total with the cap before a provider call and adds
the actual cost after it.  `passes` is the comparison on a total that was read;
`BudgetGuard.check` reads the total and compares, `BudgetGuard.add` adds.  Both
take the lock for the access to `_spent` only; what interleavings of these sections
can do is the subject of `AdmissionBudget`.
-/

namespace ExtractApi

open PythonText JsonValue RaisingProgram

variable {S : Type}

/-- `self._cap > 0.0` -/
def BudgetGuard.enabled (b : BudgetGuard) : Bool := decide (0 < b.cap)

/-- A check that read the committed total `spent` lets the request through. -/
def BudgetGuard.passes (b : BudgetGuard) (spent : ℚ) : Bool :=
  !b.enabled || decide (spent < b.cap)

/-- The `budget_exceeded` error; the body names no figure. -/
def budgetExceeded : ExtractError where
  code := .budgetExceeded
  detail := py "the per-run budget has been reached"

/-- The warning with the exact figures, which stay on the server. -/
def budgetExceededRecord (spent cap : ℚ) : LogRecord where
  logger := "extract.api"
  level := .warning
  msg := "budget exceeded: spent $%.4f of $%.4f cap"
  args := [.float spent, .float cap]

/-- `BudgetGuard.check` -/
def BudgetGuard.check : Service S Unit := do
  let w ← get
  if !w.budget.enabled then
    return ()
  let spent := w.budget.spent
  if w.budget.cap ≤ spent then
    emit (budgetExceededRecord spent w.budget.cap)
    throw (.extractError budgetExceeded)

/-- `self._spent += cost_usd` -/
def BudgetGuard.charge (b : BudgetGuard) (costUsd : ℚ) : BudgetGuard :=
  { b with spent := b.spent + costUsd }

/-- `BudgetGuard.add` -/
def BudgetGuard.add (costUsd : ℚ) : Service S Unit :=
  modify fun w => { w with budget := w.budget.charge costUsd }

theorem BudgetGuard.check_of_passes {w : World S} (h : w.budget.passes w.budget.spent = true) :
    (BudgetGuard.check (S := S)).run w = .ok () w := by
  by_cases henabled : w.budget.enabled = true
  · have hlt : w.budget.spent < w.budget.cap := by
      simpa [BudgetGuard.passes, henabled] using h
    simp [BudgetGuard.check, henabled, not_le.mpr hlt]
  · simp [BudgetGuard.check, henabled]

theorem BudgetGuard.check_of_not_passes {w : World S}
    (h : w.budget.passes w.budget.spent = false) :
    (BudgetGuard.check (S := S)).run w =
      .error (.extractError budgetExceeded)
        { w with log := w.log ++ [budgetExceededRecord w.budget.spent w.budget.cap] } := by
  obtain ⟨henabled, hle⟩ : w.budget.enabled = true ∧ w.budget.cap ≤ w.budget.spent := by
    simpa [BudgetGuard.passes] using h
  simp [BudgetGuard.check, emit, henabled, hle]

end ExtractApi
