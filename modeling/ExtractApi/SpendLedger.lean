import ExtractApi.AdmissionBudget
import ExtractApi.ExtractOutcome

/-!
# What is billed and what is charged

A provider bills each call it answers; `_run_extract` charges the budget once, at the
end of the run.  The cost travels there on the result, on the `ProviderError` or on the
`ExtractionFailed`.  Any other exception carries no cost: when one is raised after a
billed and rejected first call, that call's cost is lost, and this is the only way.

`runExtract_steps` places the run of one request among the steps of `AdmissionBudget`:
what the flow does to the budget is a check and at most one add.
-/

namespace ExtractApi

open PythonText JsonValue RaisingProgram

variable {S M : Type}

section Flow

variable (libs : Libraries M) (env : Surroundings S)

/-- The number of provider calls a run of `_run_extract` makes. -/
def callsMade (request : ExtractRequest) (w : World S) : ℕ :=
  (finalState ((runExtract libs env request).run w)).calls.length - w.calls.length

/-- What the provider billed for the run: the costs of the results its calls returned,
    and the own cost of the provider error that ended it. -/
def billed (request : ExtractRequest) (w : World S) : ℚ :=
  match env.getClient request.provider with
  | .ok client => client.total CallOutcome.ownCost (callsMade libs env request w)
  | .error _ => 0

/-- An exception that is no provider error ends the run after calls that cost something. -/
def CrashesAfterSpend (request : ExtractRequest) (budget : BudgetGuard) : Prop :=
  ∃ modelCls content client k className,
    preflight libs env request budget = .ok (modelCls, content, client) ∧ k ≤ MAX_ATTEMPTS ∧
      CrashesFirst client (libs.model modelCls) k className ∧
      client.total CallOutcome.ownCost (k - 1) ≠ 0

variable {libs env}

theorem ScriptEnd.billed_eq {client : LLMClient} {model : StrictModel M} {n : ℕ}
    {e : ScriptEnd M} (h : EndsAs client model n e) :
    client.total CallOutcome.ownCost (e.calls n) = match e with
      | .crashed k _ => client.total CallOutcome.ownCost (k - 1)
      | e => e.charged client n := by
  cases e with
  | exhausted => rfl
  | accepted k result value => rfl
  | raised k error =>
    obtain ⟨-, hpos, -, hscript⟩ := h
    obtain ⟨k, rfl⟩ : ∃ j, k = j + 1 := ⟨k - 1, by omega⟩
    show client.total _ (k + 1) = error.costUsd + client.total _ (k + 1 - 1)
    rw [LLMClient.total_succ, hscript, Nat.add_sub_cancel, add_comm]
    rfl
  | crashed k className =>
    obtain ⟨-, hpos, -, hscript⟩ := h
    obtain ⟨k, rfl⟩ : ∃ j, k = j + 1 := ⟨k - 1, by omega⟩
    show client.total _ (k + 1) = client.total _ (k + 1 - 1)
    rw [LLMClient.total_succ, hscript, Nat.add_sub_cancel]
    exact add_zero _

theorem billed_of_preflight_error {request : ExtractRequest} {w : World S} {exc : PyExc}
    (h : preflight libs env request w.budget = .error exc) : billed libs env request w = 0 := by
  obtain ⟨w', hrun, hafter⟩ := runExtract_of_preflight_error h
  have hmade : callsMade libs env request w = 0 := by
    simp [callsMade, hrun, hafter.calls]
  unfold billed
  rw [hmade]
  cases env.getClient request.provider with
  | error exc => rfl
  | ok client => simp [LLMClient.total]

theorem billed_of_preflight_ok {request : ExtractRequest} {w : World S} {modelCls : ModelClass}
    {content : PyStr} {client : LLMClient} {e : ScriptEnd M}
    (h : preflight libs env request w.budget = .ok (modelCls, content, client))
    (he : EndsAs client (libs.model modelCls) MAX_ATTEMPTS e) :
    billed libs env request w = client.total CallOutcome.ownCost (e.calls MAX_ATTEMPTS) := by
  obtain ⟨w', hrun, hafter⟩ := runExtract_of_preflight_ok h he
  have hmade : callsMade libs env request w = e.calls MAX_ATTEMPTS := by
    simp [callsMade, hrun, hafter.calls]
  simp only [billed, (preflight_eq_ok_iff.mp h).client, hmade]

/-- **The budget is charged what was billed, exactly on the runs that no other exception
    ends after a call that cost something.** -/
theorem charged_eq_billed_iff (libs : Libraries M) (env : Surroundings S)
    (request : ExtractRequest) (w : World S) :
    (finalState ((runExtract libs env request).run w)).budget.spent =
        w.budget.spent + billed libs env request w ↔
      ¬ CrashesAfterSpend libs env request w.budget := by
  cases h : preflight libs env request w.budget with
  | error exc =>
    obtain ⟨w', hrun, hafter⟩ := runExtract_of_preflight_error h
    have hspent : (finalState ((runExtract libs env request).run w)).budget.spent =
        w.budget.spent + billed libs env request w := by
      rw [billed_of_preflight_error h, hrun]
      simp [hafter.budget]
    refine iff_of_true hspent ?_
    rintro ⟨modelCls, content, client, k, className, hok, -⟩
    rw [h] at hok
    cases hok
  | ok ready =>
    obtain ⟨modelCls, content, client⟩ := ready
    obtain ⟨e, he⟩ := exists_endsAs client (libs.model modelCls) MAX_ATTEMPTS
    obtain ⟨w', hrun, hafter⟩ := runExtract_of_preflight_ok h he
    have hcrash : ∀ k className, k ≤ MAX_ATTEMPTS →
        CrashesFirst client (libs.model modelCls) k className → e = .crashed k className := by
      intro k className hk hcrash
      have hends : EndsAs client (libs.model modelCls) MAX_ATTEMPTS (.crashed k className) :=
        ⟨hk, hcrash⟩
      exact he.unique hends
    rw [billed_of_preflight_ok h he, e.billed_eq he, hrun, finalState_outcomeIn, hafter.budget]
    constructor
    · rintro hspent ⟨modelCls', content', client', k, className, hok, hk, hcrashes, hcost⟩
      rw [h] at hok
      cases hok
      obtain rfl := hcrash k className hk hcrashes
      simp only [BudgetGuard.charge, ScriptEnd.charged, add_right_inj] at hspent
      exact hcost hspent.symm
    · intro hnone
      cases e with
      | crashed k className =>
        have hzero : client.total CallOutcome.ownCost (k - 1) = 0 := by
          by_contra hcost
          exact hnone ⟨modelCls, content, client, k, className, h, he.1, he.2, hcost⟩
        simp [BudgetGuard.charge, ScriptEnd.charged, hzero]
      | _ => rfl

/-- The first call is billed one dollar and rejected, the second raises `RuntimeError`, and
    nothing is charged. -/
theorem crash_drops_spend :
    billed sampleLibs (sampleSurroundings (py "\x7b\x7d")) sampleRequest (freshWorld () 10) = 1 ∧
      (finalState ((runExtract sampleLibs (sampleSurroundings (py "\x7b\x7d"))
        sampleRequest).run (freshWorld () 10))).budget.spent = 0 := by
  decide +kernel

/-! ## The request at the gate -/

/-- **The flow of one admitted request is a path of `AdmissionBudget`**: a check and, when
    the run charges, one add of what it charges. -/
theorem runExtract_steps {ι : Type} [DecidableEq ι] {L : ℕ} {C : ℚ} {s : Gate ι} {r : ι}
    {request : ExtractRequest} {w : World S} (hphase : s.phase r = .admitted)
    (hlock : s.lock = none) (hbudget : s.budget = w.budget)
    (hcost : ∀ modelCls content client e,
      preflight libs env request w.budget = .ok (modelCls, content, client) →
      EndsAs client (libs.model modelCls) MAX_ATTEMPTS e →
      0 ≤ e.charged client MAX_ATTEMPTS ∧ e.charged client MAX_ATTEMPTS ≤ C) :
    ∃ t : Gate ι, Relation.ReflTransGen
        (fun s t => ∃ l : Section ι, l.request = r ∧ AdmissionStep L C s l t) s t ∧
      t.phase r = .finished ∧
      t.budget = (finalState ((runExtract libs env request).run w)).budget := by
  cases h : preflight libs env request w.budget with
  | error exc =>
    obtain ⟨w', hrun, hafter⟩ := runExtract_of_preflight_error h
    refine ⟨s.setPhase r .finished,
      .single ⟨.abandon r, rfl, .abandon (Or.inl hphase)⟩, by simp, ?_⟩
    rw [hrun]
    simp [hafter.budget, hbudget]
  | ok ready =>
    obtain ⟨modelCls, content, client⟩ := ready
    obtain ⟨e, he⟩ := exists_endsAs client (libs.model modelCls) MAX_ATTEMPTS
    obtain ⟨w', hrun, hafter⟩ := runExtract_of_preflight_ok h he
    obtain ⟨hnonneg, hbound⟩ := hcost modelCls content client e h he
    have hpasses : s.budget.passes s.budget.spent = true := by
      rw [hbudget]
      exact (preflight_eq_ok_iff.mp h).passes
    -- the check: lock, read, pass
    let checking : Gate ι := { s.setPhase r .checking with lock := some r }
    let seen : Gate ι := { checking.setPhase r (.seen s.budget.spent) with lock := none }
    let running : Gate ι := seen.setPhase r .running
    have hcheck : Relation.ReflTransGen
        (fun s t => ∃ l : Section ι, l.request = r ∧ AdmissionStep L C s l t) s running := by
      have hseen : seen.phase r = .seen s.budget.spent := by simp [seen]
      refine .tail (.tail (.single ⟨.lockForCheck r, rfl, .lockForCheck hphase hlock⟩)
        (b := checking) (c := seen) ⟨.readTotal r, rfl, ?_⟩)
        ⟨.pass r, rfl, .pass hseen hpasses⟩
      exact AdmissionStep.readTotal (s := checking) (by simp [checking])
    by_cases hcrash : ∃ k className, e = .crashed k className
    · obtain ⟨k, className, rfl⟩ := hcrash
      refine ⟨running.setPhase r .finished, hcheck.tail ⟨.abandon r, rfl, .abandon (Or.inr ?_)⟩,
        by simp, ?_⟩
      · simp [running]
      · rw [hrun, finalState_outcomeIn, hafter.budget]
        simp [running, seen, checking, hbudget, ScriptEnd.charged]
    · -- the add: lock, load, store
      let adding : Gate ι :=
        { running.setPhase r (.adding (e.charged client MAX_ATTEMPTS)) with lock := some r }
      let loaded : Gate ι :=
        adding.setPhase r (.loaded (e.charged client MAX_ATTEMPTS) s.budget.spent)
      refine ⟨{ loaded.setPhase r .finished with
          budget := ({ loaded.budget with spent := s.budget.spent } : BudgetGuard).charge
            (e.charged client MAX_ATTEMPTS)
          lock := none },
        .tail (.tail (.tail hcheck (c := adding) ⟨.lockForAdd r, rfl, .lockForAdd ?_ rfl hnonneg
          hbound⟩) (c := loaded) ⟨.loadTotal r, rfl, ?_⟩)
          ⟨.storeTotal r _, rfl, .storeTotal ?_⟩, by simp, ?_⟩
      · simp [running]
      · exact AdmissionStep.loadTotal (s := adding) (by simp [adding])
      · simp [loaded]
      · rw [hrun, finalState_outcomeIn, hafter.budget]
        simp [loaded, adding, running, seen, checking, hbudget]

end Flow

end ExtractApi
