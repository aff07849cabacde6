import ExtractApi.AccuracyRun

/-!
# Score conservation

What the counters of a report count.  Each fixture of a run contributes either a skip or one
list of outcomes, and that list has one outcome for each field of the label, a null outcome
exactly where the label is null (`Scores`); every identity of the report is the sum of this
over the run.
-/

namespace ExtractApi

open PythonText JsonValue

variable {M P : Type}

/-! ## One list of outcomes -/

/-- The outcomes of fields whose label is null. -/
def FieldStats.nulls (s : FieldStats) : ℕ := s.nullMatches + s.hallucinated + s.failedNull

theorem FieldStats.nulls_add (s t : FieldStats) : (s + t).nulls = s.nulls + t.nulls := by
  show (s.nullMatches + t.nullMatches) + (s.hallucinated + t.hallucinated) +
    (s.failedNull + t.failedNull) = _
  unfold FieldStats.nulls
  omega

/-- One outcome for each field of the label, a null outcome exactly where the label is null. -/
def Scores (outcomes : List (PyStr × FieldOutcome)) (expected : Record) : Prop :=
  ∃ outcome : PyStr × Json → FieldOutcome,
    outcomes = expected.map (fun field => (field.1, outcome field)) ∧
    ∀ field, (outcome field).stats.nulls = if field.2.isNull then 1 else 0

theorem scores_failedOutcomes (libs : HarnessLibs M) (p : Prepared) :
    Scores (failedOutcomes libs p) (label libs p) := by
  refine ⟨_, rfl, ?_⟩
  intro field
  by_cases hnull : field.2.isNull = true
  · simp only [if_pos hnull]
    rfl
  · simp only [if_neg hnull]
    rfl

theorem scores_recordOutcomes (libs : HarnessLibs M) (p : Prepared) (pred : Record) :
    Scores (recordOutcomes libs p pred) (label libs p) := by
  refine ⟨fun field => fieldOutcome (((Json.obj pred).get? field.1).getD .null) field.2, rfl,
    fun field => ?_⟩
  unfold fieldOutcome
  by_cases hnull : field.2.isNull = true
  · simp only [if_pos hnull]
    split_ifs <;> rfl
  · simp only [if_neg hnull]
    split_ifs <;> rfl

theorem filter_key_eq {α : Type} {fields : List (PyStr × α)}
    (hnodup : (fields.map Prod.fst).Nodup) (key : PyStr) :
    (fields.filter fun field => decide (field.1 = key)) =
      (fields.find? fun field => decide (field.1 = key)).toList := by
  induction fields with
  | nil => rfl
  | cons field fields ih =>
    rw [List.map_cons, List.nodup_cons] at hnodup
    by_cases hkey : field.1 = key
    · have hrest : (fields.filter fun field => decide (field.1 = key)) = [] := by
        rw [List.filter_eq_nil_iff]
        intro other hother
        have hne : other.1 ≠ field.1 := fun h => hnodup.1 (h ▸ List.mem_map_of_mem hother)
        simpa using fun h : other.1 = key => hne (h.trans hkey.symm)
      simp [hkey, hrest]
    · simp [hkey, ih hnodup.2]

/-- The field is in the record, with a value that satisfies `p`. -/
def hasField (p : Json → Bool) (field : PyStr) (record : Record) : Bool :=
  ((Json.obj record).get? field).any p

theorem Scores.stats {outcomes : List (PyStr × FieldOutcome)} {expected : Record}
    (h : Scores outcomes expected) (hnodup : (expected.map Prod.fst).Nodup) (field : PyStr) :
    let s := ((outcomes.filter fun entry => decide (entry.1 = field)).map
      fun entry => entry.2.stats).sum
    s.total = (if hasField (fun _ => true) field expected then 1 else 0) ∧
      s.nulls = if hasField Json.isNull field expected then 1 else 0 := by
  obtain ⟨outcome, rfl, hnulls⟩ := h
  have hfilter := filter_key_eq hnodup field
  simp only [List.filter_map, List.map_map, Function.comp_def, hfilter, hasField, Json.get?]
  rcases Option.eq_none_or_eq_some
    (expected.find? fun other : PyStr × Json => decide (other.1 = field)) with
    hnone | ⟨found, hfound⟩
  · simp only [hnone]
    exact ⟨rfl, rfl⟩
  · have htotal : (outcome found).stats.total = 1 := by cases outcome found <;> rfl
    simpa [hfound, htotal] using hnulls found

/-! ## All lists of outcomes -/

theorem scores_perField {scored : List (List (PyStr × FieldOutcome))} {labels : List Record}
    (h : List.Forall₂ Scores scored labels)
    (hnodup : ∀ expected ∈ labels, (expected.map Prod.fst).Nodup) (field : PyStr) :
    let s := ((scored.flatten.filter fun entry => decide (entry.1 = field)).map
      fun entry => entry.2.stats).sum
    s.total = labels.countP (hasField (fun _ => true) field) ∧
      s.nulls = labels.countP (hasField Json.isNull field) := by
  induction h with
  | nil => exact ⟨rfl, rfl⟩
  | @cons outcomes expected scored labels hfirst _ ih =>
    obtain ⟨htotal, hnulls⟩ := hfirst.stats (hnodup expected List.mem_cons_self) field
    obtain ⟨ihtotal, ihnulls⟩ := ih fun other hother => hnodup other (List.mem_cons_of_mem _ hother)
    simp only [List.flatten_cons, List.filter_append, List.map_append, List.sum_append,
      List.countP_cons, FieldStats.nulls_add, hnulls, ihnulls]
    constructor
    · show FieldStats.total _ + FieldStats.total _ = _
      rw [htotal, ihtotal, Nat.add_comm]
    · rw [Nat.add_comm]

theorem countP_hasField (labels : List Record) (field : PyStr) :
    labels.countP (hasField (fun _ => true) field) =
      labels.countP (hasField Json.isNull field) +
        labels.countP (hasField (fun value => !value.isNull) field) := by
  induction labels with
  | nil => rfl
  | cons expected labels ih =>
    simp only [List.countP_cons, ih, hasField]
    rcases Option.eq_none_or_eq_some ((Json.obj expected).get? field) with hnone | ⟨value, hvalue⟩
    · simp [hnone]
    · by_cases hnull : value.isNull = true
      · simp [hvalue, hnull]
        omega
      · simp [hvalue, hnull]
        omega

/-! ## One contribution -/

/-- What a contribution is made of, whatever the outcome. -/
structure Contribution.Sound (c : Contribution) : Prop where
  fixtures : c.scored.length + c.skipped = 1
  costs : c.costs.length + c.failures = c.scored.length
  latencies : c.latencies.length + c.failures = c.scored.length
  failedCosts : c.failedCosts.length ≤ c.failures

theorem contribution_sound (libs : HarnessLibs M) (p : Prepared) (outcome : PredictorOutcome) :
    (contribution libs p outcome).Sound := by
  rcases outcome with answer | ⟨message, costUsd⟩ | message | message
  · rcases hrecord : canonical libs p.cls answer.record with errors | pred
    · rw [contribution_of_invalid hrecord]
      exact ⟨rfl, rfl, rfl, Nat.le_refl 1⟩
    · rw [contribution_of_valid hrecord]
      exact ⟨rfl, rfl, rfl, Nat.le_refl 0⟩
  · refine ⟨rfl, rfl, rfl, ?_⟩
    show costUsd.toList.length ≤ 1
    rcases costUsd with _ | cost <;> simp
  · exact ⟨rfl, rfl, rfl, Nat.le_refl 0⟩
  · exact ⟨rfl, rfl, rfl, Nat.le_refl 0⟩

/-- A fixture that is not skipped is scored against its label. -/
theorem contribution_scored (libs : HarnessLibs M) (p : Prepared) (outcome : PredictorOutcome) :
    List.Forall₂ Scores (contribution libs p outcome).scored
      (if outcome.isSkip then [] else [label libs p]) := by
  rcases outcome with answer | ⟨message, costUsd⟩ | message | message
  · rcases hrecord : canonical libs p.cls answer.record with errors | pred
    · rw [contribution_of_invalid hrecord]
      exact .cons (scores_failedOutcomes libs p) .nil
    · rw [contribution_of_valid hrecord]
      exact .cons (scores_recordOutcomes libs p pred) .nil
  · exact .cons (scores_failedOutcomes libs p) .nil
  · exact .nil
  · exact .nil

/-! ## Runs -/

section Runs

variable (libs : HarnessLibs M) (predict : Predictor P)

/-- The fixtures of a run, each with the outcome of its call. -/
def observed (memory : P) (prepared : List Prepared) : List (Prepared × PredictorOutcome) :=
  prepared.zip (runOutcomes predict memory (prepared.map Prepared.fx))

/-- The fixtures that are scored. -/
def scoredFixtures (memory : P) (prepared : List Prepared) : List Prepared :=
  ((observed predict memory prepared).filter fun entry => !entry.2.isSkip).map Prod.fst

variable {libs predict}

theorem contributions_eq_map (memory : P) (prepared : List Prepared) :
    contributions libs predict memory prepared =
      (observed predict memory prepared).map fun entry => contribution libs entry.1 entry.2 := by
  rw [contributions, observed, List.map_zip_eq_zipWith]
  rfl

theorem map_snd_observed (memory : P) (prepared : List Prepared) :
    (observed predict memory prepared).map Prod.snd =
      runOutcomes predict memory (prepared.map Prepared.fx) := by
  rw [observed, List.map_snd_zip]
  simp [length_runOutcomes]

theorem length_observed (memory : P) (prepared : List Prepared) :
    (observed predict memory prepared).length = prepared.length := by
  simp [observed, length_runOutcomes]

theorem sound_sums {cs : List Contribution} (h : ∀ c ∈ cs, c.Sound) :
    (cs.flatMap Contribution.scored).length + (cs.map Contribution.skipped).sum = cs.length ∧
      (cs.flatMap Contribution.costs).length + (cs.map Contribution.failures).sum =
        (cs.flatMap Contribution.scored).length ∧
      (cs.flatMap Contribution.latencies).length + (cs.map Contribution.failures).sum =
        (cs.flatMap Contribution.scored).length ∧
      (cs.flatMap Contribution.failedCosts).length ≤ (cs.map Contribution.failures).sum := by
  induction cs with
  | nil => exact ⟨rfl, rfl, rfl, le_refl _⟩
  | cons c cs ih =>
    obtain ⟨hfixtures, hcosts, hlatencies, hfailed⟩ := h c List.mem_cons_self
    obtain ⟨ihfixtures, ihcosts, ihlatencies, ihfailed⟩ :=
      ih fun other hother => h other (List.mem_cons_of_mem _ hother)
    simp only [List.flatMap_cons, List.length_append, List.map_cons, List.sum_cons,
      List.length_cons]
    omega

theorem scored_labels (entries : List (Prepared × PredictorOutcome)) :
    List.Forall₂ Scores
      ((entries.map fun entry => contribution libs entry.1 entry.2).flatMap Contribution.scored)
      (((entries.filter fun entry => !entry.2.isSkip).map Prod.fst).map (label libs)) := by
  induction entries with
  | nil => exact .nil
  | cons entry entries ih =>
    have hfirst := contribution_scored libs entry.1 entry.2
    rw [List.map_cons, List.flatMap_cons]
    by_cases hskip : entry.2.isSkip = true
    · rw [if_pos hskip] at hfirst
      rw [List.filter_cons_of_neg (by simp [hskip])]
      exact List.rel_append hfirst ih
    · rw [if_neg hskip] at hfirst
      rw [List.filter_cons_of_pos (by simp [hskip])]
      exact List.rel_append hfirst ih

/-- The scored fixtures of a preflighted corpus have one canonical value for each field of
    their model. -/
theorem keys_label {p : Prepared} {fields : Record}
    (h : canonical libs p.cls p.expected = .ok fields) :
    (label libs p).map Prod.fst = FIELDS p.cls := by
  rw [label_of_canonical h]
  exact keys_of_canonical h

theorem mem_of_scoredFixtures {memory : P} {prepared : List Prepared} {p : Prepared}
    (h : p ∈ scoredFixtures predict memory prepared) : p ∈ prepared := by
  obtain ⟨⟨q, outcome⟩, hmem, rfl⟩ := List.mem_map.mp h
  exact (List.of_mem_zip (List.mem_filter.mp hmem).1).1

end Runs

/-! ## The identities -/

/-- What a report and the variables it was made of count, over a run with `n` fixtures of
    which `scored` were not skipped. -/
structure Conserved (libs : HarnessLibs M) (r : AccuracyReport) (s : RunState P) (n : ℕ)
    (scored : List Prepared) : Prop where
  fixtures : r.nFixtures + r.nSkipped = n
  count : r.nFixtures = scored.length
  total : ∀ field, let stats := r.perField.valueAt field
    stats.total = stats.matched + stats.mismatches + stats.missed + stats.hallucinated +
        stats.failedNull ∧
      stats.nullMatches ≤ stats.matched
  nulls : ∀ field, let stats := r.perField.valueAt field
    (scored.map (label libs)).countP (hasField Json.isNull field) =
      stats.nullMatches + stats.hallucinated + stats.failedNull
  values : ∀ field, let stats := r.perField.valueAt field
    (scored.map (label libs)).countP (hasField (fun value => !value.isNull) field) =
      (stats.matched - stats.nullMatches) + stats.mismatches + stats.missed
  totalFields : r.totalFields = (scored.map fun p => (FIELDS p.cls).length).sum
  costUnknown : 0 ≤ r.nFailedCostUnknown ∧ r.nFailedCostUnknown ≤ r.nFailures ∧
    r.nFailures ≤ r.nFixtures
  /-- the successful costs and latencies, which the report adds up and ranks -/
  successful : s.costs.length = r.nFixtures - r.nFailures ∧
    s.latencies.length = r.nFixtures - r.nFailures ∧ r.costUsdSuccessful = s.costs.sum
  rates : 0 < r.totalNullOpportunities →
    r.hallucinatedFieldRate + r.nullHandlingCorrectnessRate = 1

theorem rate_add_rate {a b : ℕ} (h : 0 < b + a) :
    AccuracyReport.rate a (b + a) + AccuracyReport.rate b (b + a) = 1 := by
  have hne : ((b + a : ℕ) : ℚ) ≠ 0 := Nat.cast_ne_zero.mpr h.ne'
  unfold AccuracyReport.rate
  rw [if_neg h.ne', if_neg h.ne', ← add_div, div_eq_one_iff_eq hne]
  push_cast
  exact add_comm _ _

theorem balanced_perField (docType provider : PyStr) (scored : List (List (PyStr × FieldOutcome)))
    (costsUsd latenciesMs : List ℚ) (nFailures nSkipped : ℕ) (failedCostsUsd : List ℚ)
    (field : PyStr) :
    ((aggregate docType provider scored costsUsd latenciesMs nFailures nSkipped
      failedCostsUsd).perField.valueAt field).Balanced := by
  rw [perField_aggregate]
  have hsum := FieldStats.balanced_sum
    ((scored.flatten.filter fun entry => decide (entry.1 = field)).map Prod.snd)
  rwa [List.map_map] at hsum

theorem totalFields_of_scores {scored : List (List (PyStr × FieldOutcome))} {labels : List Record}
    (h : List.Forall₂ Scores scored labels) :
    (scored.map fun outcomes => (outcomes.map fun entry => entry.2.stats.total).sum).sum =
      (labels.map List.length).sum := by
  induction h with
  | nil => rfl
  | @cons outcomes expected scored labels hfirst _ ih =>
    obtain ⟨outcome, rfl, -⟩ := hfirst
    have hone : ∀ o : FieldOutcome, o.stats.total = 1 := by
      intro o
      cases o <;> rfl
    rw [List.map_cons, List.sum_cons, ih, List.map_cons, List.sum_cons]
    simp [Function.comp_def, hone]

theorem sumOf_reportOf (docType provider : PyStr) (cs : List Contribution)
    (counter : FieldStats → ℕ) (hzero : counter 0 = 0)
    (hadd : ∀ s t, counter (s + t) = counter s + counter t) :
    (reportOf docType provider cs).sumOf counter =
      ((cs.flatMap Contribution.scored).map fun outcomes =>
        (outcomes.map fun entry => counter entry.2.stats).sum).sum :=
  sumOf_aggregate _ _ _ _ _ _ _ _ counter hzero hadd

/-- **Score conservation.**  Every run of `run_accuracy` over a corpus that passes preflight
    returns a report in which each counter counts what it says. -/
theorem score_conservation (libs : HarnessLibs M) (predict : Predictor P) {docType : PyStr}
    {fixtures : List Record} {prepared : List Prepared}
    (hpreflight : preflightFixtures libs docType fixtures = .ok prepared) (provider : PyStr)
    (memory : P) :
    ∃ r s, (runAccuracy libs predict docType fixtures).run (.start provider memory) = .ok r s ∧
      Conserved libs r s fixtures.length (scoredFixtures predict memory prepared) := by
  obtain ⟨s, hrun, -, -, hgains⟩ := run_runAccuracy libs predict hpreflight provider memory
  refine ⟨_, s, hrun, ?_⟩
  have hpasses := preflightFixtures_eq_ok_iff.mp hpreflight
  have hkeys : ∀ p ∈ scoredFixtures predict memory prepared,
      (label libs p).map Prod.fst = FIELDS p.cls := by
    intro p hp
    obtain ⟨fields, hfields⟩ := valid_of_passes hpasses p (mem_of_scoredFixtures hp)
    exact keys_label hfields
  have hnodup : ∀ expected ∈ (scoredFixtures predict memory prepared).map (label libs),
      (expected.map Prod.fst).Nodup := by
    intro expected hexpected
    obtain ⟨p, hp, rfl⟩ := List.mem_map.mp hexpected
    rw [hkeys p hp]
    exact nodup_FIELDS p.cls
  have hlength : (contributions libs predict memory prepared).length = fixtures.length := by
    rw [contributions_eq_map, List.length_map, length_observed, hpasses.length_eq]
  have hsound : ∀ c ∈ contributions libs predict memory prepared, c.Sound := by
    intro c hc
    rw [contributions_eq_map] at hc
    obtain ⟨entry, -, rfl⟩ := List.mem_map.mp hc
    exact contribution_sound libs entry.1 entry.2
  -- what every contribution keeps, summed over the run
  obtain ⟨hfixtures, hcosts, hlatencies, hfailed⟩ := sound_sums hsound
  have hscores : List.Forall₂ Scores
      ((contributions libs predict memory prepared).flatMap Contribution.scored)
      ((scoredFixtures predict memory prepared).map (label libs)) := by
    rw [contributions_eq_map]
    exact scored_labels _
  -- from here on only these sums and the labels matter
  generalize contributions libs predict memory prepared = cs at *
  have hbalanced : ∀ field, ((reportOf docType provider cs).perField.valueAt field).Balanced :=
    fun field => balanced_perField _ _ _ _ _ _ _ _ field
  have hcounts : ∀ field, let stats := (reportOf docType provider cs).perField.valueAt field
      stats.total = ((scoredFixtures predict memory prepared).map (label libs)).countP
          (hasField (fun _ => true) field) ∧
        stats.nulls = ((scoredFixtures predict memory prepared).map (label libs)).countP
          (hasField Json.isNull field) := by
    intro field
    rw [reportOf, perField_aggregate]
    exact scores_perField hscores hnodup field
  constructor
  · exact hfixtures.trans hlength
  · exact hscores.length_eq.trans (List.length_map _)
  · intro field
    exact ⟨(hbalanced field).total, (hbalanced field).nullMatches⟩
  · intro field
    exact (hcounts field).2.symm
  · intro field
    obtain ⟨htotal, hnulls⟩ := hcounts field
    have hsplit := countP_hasField ((scoredFixtures predict memory prepared).map (label libs)) field
    have hsum := (hbalanced field).total
    have hle := (hbalanced field).nullMatches
    simp only [FieldStats.nulls] at hnulls
    omega
  · have hsum := sumOf_reportOf docType provider cs FieldStats.total rfl fun _ _ => rfl
    refine hsum.trans ((totalFields_of_scores hscores).trans ?_)
    rw [List.map_map]
    apply congrArg List.sum
    apply List.map_congr_left
    intro p hp
    rw [← hkeys p hp, List.length_map]
    rfl
  · simp only [reportOf, aggregate]
    omega
  · simp only [hgains.costs, hgains.latencies, reportOf, aggregate, RunState.start,
      List.nil_append]
    exact ⟨by omega, by omega, trivial⟩
  · exact rate_add_rate

theorem score_conservation_sample :
    ∃ r s, (runAccuracy sampleHarnessLibs mixedPredict (py "invoice")
        (sampleIds.map sampleFixture)).run (.start (py "default") 0) = .ok r s ∧
      Conserved sampleHarnessLibs r s 4
        (scoredFixtures mixedPredict 0 (sampleIds.map samplePrepared)) :=
  score_conservation sampleHarnessLibs mixedPredict (preflight_sampleFixtures sampleIds)
    (py "default") 0

/-- Two answers and a failure are scored, the refusal is not. -/
example : scoredFixtures mixedPredict 0 (sampleIds.map samplePrepared) =
    [samplePrepared "a", samplePrepared "b", samplePrepared "d"] := rfl

end ExtractApi
