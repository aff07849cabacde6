import ExtractApi.ScoreRelations

/-!
# The contract of a run

Preflight is all or nothing, and sufficient: once it has passed, nothing that the predictor
answers makes the run raise.  The label of the report is the provider of the last answer, so
it speaks for all answers only where they agree.
-/

namespace ExtractApi

open PythonText JsonValue

variable {M P : Type}

/-! ## Preflight -/

theorem preflightFrom_of_rejected {libs : HarnessLibs M} {docType message : PyStr}
    {fixtures : List Record} {n i : ℕ} {fx : Record} (hfx : fixtures[i]? = some fx)
    (hrejected : preflightFixture libs docType (n + i) fx = .error message) :
    ∃ message', preflightFrom libs docType n fixtures = .error message' := by
  induction fixtures generalizing n i with
  | nil => simp at hfx
  | cons first fixtures ih =>
    unfold preflightFrom
    rcases hfirst : preflightFixture libs docType n first with message' | p
    · exact ⟨message', rfl⟩
    · rcases i with _ | i
      · obtain rfl : first = fx := by simpa using hfx
        rw [Nat.add_zero, hfirst] at hrejected
        cases hrejected
      · obtain ⟨message', hrest⟩ := ih (n := n + 1) (i := i) (by simpa using hfx)
          (by rw [Nat.add_right_comm]; exact hrejected)
        exact ⟨message', by rw [hrest]; rfl⟩

theorem preflightFrom_of_accepted {libs : HarnessLibs M} {docType : PyStr}
    {fixtures : List Record} {n : ℕ}
    (haccepted : ∀ i fx, fixtures[i]? = some fx →
      ∃ p, preflightFixture libs docType (n + i) fx = .ok p) :
    ∃ prepared, preflightFrom libs docType n fixtures = .ok prepared := by
  induction fixtures generalizing n with
  | nil => exact ⟨[], rfl⟩
  | cons first fixtures ih =>
    obtain ⟨p, hp⟩ := haccepted 0 first rfl
    obtain ⟨prepared, hrest⟩ := ih (n := n + 1) fun i fx hfx => by
      obtain ⟨q, hq⟩ := haccepted (i + 1) fx (by simpa using hfx)
      exact ⟨q, by rw [Nat.add_right_comm]; exact hq⟩
    refine ⟨p :: prepared, ?_⟩
    rw [Nat.add_zero] at hp
    rw [preflightFrom, hp]
    show (preflightFrom libs docType (n + 1) fixtures >>= _) = _
    rw [hrest]
    rfl

/-- **Preflight is all or nothing, and sufficient.**  Where some fixture fails its checks, the
    run raises a `ValueError` in the state it began in: the predictor is not called.
    Otherwise the run returns a report, and the predictor was called once with each fixture,
    in order.  In a fixture that passes, `score_failed` raises nothing, and `score_record`
    raises only what the canonical form of the prediction raises. -/
theorem preflight_sufficient (libs : HarnessLibs M) (predict : Predictor P)
    (docType provider : PyStr) (fixtures : List Record) (memory : P) :
    ((∃ i fx message, fixtures[i]? = some fx ∧
        preflightFixture libs docType (1 + i) fx = .error message) →
      ∃ message, (runAccuracy libs predict docType fixtures).run (.start provider memory) =
        .error (.valueError message) (.start provider memory)) ∧
    ((∀ i fx, fixtures[i]? = some fx → ∃ p, preflightFixture libs docType (1 + i) fx = .ok p) →
      ∃ r s, (runAccuracy libs predict docType fixtures).run (.start provider memory) = .ok r s ∧
        s.called = fixtures) ∧
    ∀ i fx p, preflightFixture libs docType i fx = .ok p →
      (∃ outcomes, scoreFailed libs p.cls p.expected = .ok outcomes) ∧
        ∀ record errors, scoreRecord libs p.cls record p.expected = .error errors ↔
          canonical libs p.cls record = .error errors := by
  constructor
  · rintro ⟨i, fx, message, hfx, hrejected⟩
    obtain ⟨message', hpreflight⟩ := preflightFrom_of_rejected hfx hrejected
    exact ⟨message', run_runAccuracy_of_rejected libs predict hpreflight _⟩
  constructor
  · intro haccepted
    obtain ⟨prepared, hpreflight⟩ := preflightFrom_of_accepted haccepted
    obtain ⟨s, hrun, hcalled, -⟩ :=
      run_runAccuracy libs predict hpreflight provider memory
    exact ⟨_, s, hrun, hcalled⟩
  · intro i fx p hp
    obtain ⟨fields, hfields⟩ := (preflightFixture_eq_ok_iff.mp hp).valid
    refine ⟨⟨_, scoreFailed_of_canonical hfields⟩, ?_⟩
    intro record errors
    rw [scoreRecord_of_canonical hfields]
    rcases canonical libs p.cls record with errors' | pred
    · simp [Except.map]
    · simp [Except.map]

/-! ## The label -/

/-- The predictions among the outcomes. -/
def answers (outcomes : List PredictorOutcome) : List Prediction :=
  outcomes.filterMap fun
    | .prediction answer => some answer
    | _ => none

theorem providers_contributions (libs : HarnessLibs M) {prepared : List Prepared}
    {outcomes : List PredictorOutcome} (hlength : prepared.length = outcomes.length) :
    (List.zipWith (contribution libs) prepared outcomes).flatMap Contribution.providers =
      (answers outcomes).map Prediction.provider := by
  induction prepared generalizing outcomes with
  | nil =>
    rw [List.length_eq_zero_iff.mp hlength.symm]
    rfl
  | cons p prepared ih =>
    rcases outcomes with _ | ⟨outcome, outcomes⟩
    · cases hlength
    · have hrest : (List.zipWith (contribution libs) prepared outcomes).flatMap
          Contribution.providers = (answers outcomes).map Prediction.provider :=
        ih (by simpa using hlength)
      rw [List.zipWith_cons_cons, List.flatMap_cons, hrest]
      rcases outcome with answer | ⟨message, costUsd⟩ | message | message
      · rcases hrecord : canonical libs p.cls answer.record with errors | pred
        · rw [contribution_of_invalid hrecord]
          rfl
        · rw [contribution_of_valid hrecord]
          rfl
      · rfl
      · rfl
      · rfl

/-- **The label speaks for every answer exactly when the answers name one provider.** -/
theorem report_label_iff (libs : HarnessLibs M) (predict : Predictor P) {docType provider : PyStr}
    {fixtures : List Record} {memory : P} {r : AccuracyReport} {s : RunState P}
    (hrun : (runAccuracy libs predict docType fixtures).run (.start provider memory) = .ok r s) :
    (∀ answer ∈ answers (runOutcomes predict memory fixtures), answer.provider = r.provider) ↔
      ∀ answer ∈ answers (runOutcomes predict memory fixtures),
        ∀ answer' ∈ answers (runOutcomes predict memory fixtures),
          answer.provider = answer'.provider := by
  have hlabel : r.provider = ((answers (runOutcomes predict memory fixtures)).map
      Prediction.provider).getLastD provider := by
    rcases hpreflight : preflightFixtures libs docType fixtures with message | prepared
    · rw [run_runAccuracy_of_rejected libs predict hpreflight] at hrun
      cases hrun
    · have hpasses := preflightFixtures_eq_ok_iff.mp hpreflight
      obtain ⟨s', hrun', -, -⟩ := run_runAccuracy libs predict hpreflight provider memory
      rw [hrun'] at hrun
      cases hrun
      have houtcomes : prepared.length = (runOutcomes predict memory fixtures).length := by
        rw [length_runOutcomes, hpasses.length_eq]
      rw [← providers_contributions libs houtcomes]
      simp only [reportOf, aggregate, contributions, map_fx_of_passes hpasses]
  generalize answers (runOutcomes predict memory fixtures) = given at hlabel ⊢
  constructor
  · intro hall answer hanswer answer' hanswer'
    rw [hall answer hanswer, hall answer' hanswer']
  · intro hagree answer hanswer
    obtain ⟨init, last, rfl⟩ : ∃ init last, given = init ++ [last] :=
      ⟨_, _, (List.dropLast_append_getLast (List.ne_nil_of_mem hanswer)).symm⟩
    rw [hlabel, List.map_append, List.map_singleton, List.getLastD_concat]
    exact hagree answer hanswer last (by simp)

/-- Two fixtures whose answers name two providers. -/
def mixedRun : List Attached :=
  [(sampleFixture "a", .prediction (samplePrediction "openai")),
    (sampleFixture "b", .prediction (samplePrediction "anthropic"))]

/-- The report of two providers' answers is labelled with the second. -/
theorem mixed_run_labelled :
    ∃ r, Reports sampleHarnessLibs (py "invoice") (py "default") mixedRun r ∧
      r.provider = py "anthropic" ∧ (samplePrediction "openai").provider ≠ r.provider := by
  have hpasses : List.Forall₂ (Passes sampleHarnessLibs (py "invoice")) (mixedRun.map Prod.fst)
      [samplePrepared "a", samplePrepared "b"] :=
    .cons (sampleFixture_passes "a") (.cons (sampleFixture_passes "b") .nil)
  have hlabel : (reportOf (py "invoice") (py "default") (List.zipWith
      (contribution sampleHarnessLibs) [samplePrepared "a", samplePrepared "b"]
      (mixedRun.map Prod.snd))).provider = py "anthropic" := by
    simp only [reportOf, aggregate]
    rw [providers_contributions sampleHarnessLibs rfl]
    rfl
  refine ⟨_, reports_iff.mpr ⟨_, hpasses, rfl⟩, hlabel, ?_⟩
  rw [hlabel]
  decide

/-- A run with two answers of one provider, a failure and a refusal is labelled with the
    provider of the answers. -/
theorem report_label_iff_sample :
    ∃ r s, (runAccuracy sampleHarnessLibs mixedPredict (py "invoice")
        (sampleIds.map sampleFixture)).run (.start (py "default") 0) = .ok r s ∧
      ∀ answer ∈ answers (runOutcomes mixedPredict 0 (sampleIds.map sampleFixture)),
        answer.provider = r.provider := by
  obtain ⟨s, hrun, -, -⟩ := run_runAccuracy sampleHarnessLibs mixedPredict
    (preflight_sampleFixtures sampleIds) (py "default") 0
  refine ⟨_, s, hrun, (report_label_iff sampleHarnessLibs mixedPredict hrun).mpr ?_⟩
  intro answer hanswer answer' hanswer'
  have htwo : answers (runOutcomes mixedPredict 0 (sampleIds.map sampleFixture)) =
      [samplePrediction "openai", samplePrediction "openai"] := rfl
  rw [htwo, List.mem_pair, or_self] at hanswer hanswer'
  rw [hanswer, hanswer']

end ExtractApi
