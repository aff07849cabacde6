import ExtractApi.ExtractFlow
import ExtractApi.Tally

/-!
# Accuracy scoring (`harness/scoring.py`)

A record is compared with its label field by field, after both have passed through the
strict model; `aggregate` folds the outcomes of all fixtures into one report.  Costs,
latencies and rates are exact.

`FieldStats` adds up: what one outcome contributes is a `FieldStats` itself, so every counter
of a report is a sum over the outcomes.
-/

namespace ExtractApi

open PythonText JsonValue

variable {M : Type}

/-- A `dict[str, object]` of JSON values. -/
abbrev Record := List (PyStr × Json)

/-- The fields of a strict model, in the order of its class. -/
def FIELDS : ModelClass → List PyStr
  | .InvoiceV1 =>
      [py "invoice_number", py "issue_date", py "due_date", py "currency", py "subtotal_minor",
        py "tax_minor", py "total_minor", py "vendor_name", py "vendor_tax_id", py "buyer_name",
        py "line_items"]
  | .JobPostingV1 =>
      [py "title", py "company", py "location", py "remote_policy", py "salary_min",
        py "salary_max", py "salary_currency", py "salary_period", py "employment_type",
        py "seniority", py "visa_sponsorship", py "posted_date"]

theorem nodup_FIELDS (cls : ModelClass) : (FIELDS cls).Nodup := by
  cases cls <;> decide +kernel

/-- What the harness calls: the libraries of the service, `json.dumps`, `str(value)` and
    `repr(value)` of a JSON value.  `model_dump` lists the fields of the class. -/
structure HarnessLibs (M : Type) extends Libraries M where
  jsonDumps : Json → PyStr
  format : Json → PyStr
  repr : Json → PyStr
  dump_keys : ∀ (cls : ModelClass) (m : M), ((model cls).dump m).map Prod.fst = FIELDS cls

/-! ## Outcomes -/

/-- `match` is `matched` here. -/
inductive FieldOutcome where
  | matched
  | nullMatch
  | mismatch
  | missed
  | hallucinated
  | failedNull
deriving DecidableEq, Repr

/-- The outcome of a field that should be `want`. -/
def fieldOutcome (got want : Json) : FieldOutcome :=
  if got.pyEq want then
    if want.isNull then .nullMatch else .matched
  else if want.isNull then .hallucinated
  else if got.isNull then .missed
  else .mismatch

section Scorers

variable (libs : HarnessLibs M) (cls : ModelClass)

/-- `_canonical`: the errors are those of the `ValidationError`. -/
def canonical (record : Record) : Except (List ErrorDetails) Record :=
  ((libs.model cls).validate (libs.jsonDumps (.obj record))).map (libs.model cls).dump

/-- `score_record` -/
def scoreRecord (predicted expected : Record) :
    Except (List ErrorDetails) (List (PyStr × FieldOutcome)) := do
  let pred ← canonical libs cls predicted
  let exp ← canonical libs cls expected
  return exp.map fun field =>
    (field.1, fieldOutcome (((Json.obj pred).get? field.1).getD .null) field.2)

/-- `score_failed` -/
def scoreFailed (expected : Record) :
    Except (List ErrorDetails) (List (PyStr × FieldOutcome)) := do
  let exp ← canonical libs cls expected
  return exp.map fun field =>
    (field.1, if field.2.isNull then .failedNull else .missed)

variable {libs cls}

theorem keys_of_canonical {record fields : Record} (h : canonical libs cls record = .ok fields) :
    fields.map Prod.fst = FIELDS cls := by
  unfold canonical at h
  rcases hvalid : (libs.model cls).validate (libs.jsonDumps (.obj record)) with errors | m
  · rw [hvalid] at h
    cases h
  · rw [hvalid] at h
    cases h
    exact libs.dump_keys cls m

end Scorers

/-! ## Counters -/

/-- `matches` is `matched` here. -/
@[ext]
structure FieldStats where
  total : ℕ := 0
  matched : ℕ := 0
  /-- subset of `matched` -/
  nullMatches : ℕ := 0
  mismatches : ℕ := 0
  missed : ℕ := 0
  hallucinated : ℕ := 0
  failedNull : ℕ := 0
deriving DecidableEq, Repr

/-- What one outcome adds. -/
def FieldOutcome.stats : FieldOutcome → FieldStats
  | .matched => { total := 1, matched := 1 }
  | .nullMatch => { total := 1, matched := 1, nullMatches := 1 }
  | .mismatch => { total := 1, mismatches := 1 }
  | .missed => { total := 1, missed := 1 }
  | .hallucinated => { total := 1, hallucinated := 1 }
  | .failedNull => { total := 1, failedNull := 1 }

namespace FieldStats

instance : Zero FieldStats := ⟨{}⟩

instance : Add FieldStats where
  add s t :=
    { total := s.total + t.total
      matched := s.matched + t.matched
      nullMatches := s.nullMatches + t.nullMatches
      mismatches := s.mismatches + t.mismatches
      missed := s.missed + t.missed
      hallucinated := s.hallucinated + t.hallucinated
      failedNull := s.failedNull + t.failedNull }

instance : AddCommMonoid FieldStats where
  add_assoc r s t := by ext <;> exact Nat.add_assoc _ _ _
  zero_add s := by ext <;> exact Nat.zero_add _
  add_zero s := by ext <;> exact Nat.add_zero _
  add_comm s t := by ext <;> exact Nat.add_comm _ _
  nsmul := nsmulRec

/-- `exact_match_rate` -/
def exactMatchRate (s : FieldStats) : ℚ := if s.total = 0 then 0 else s.matched / s.total

theorem sum_counter {counter : FieldStats → ℕ} (hzero : counter 0 = 0)
    (hadd : ∀ s t, counter (s + t) = counter s + counter t) (stats : List FieldStats) :
    counter stats.sum = (stats.map counter).sum := by
  induction stats with
  | nil => exact hzero
  | cons s stats ih => rw [List.sum_cons, hadd, ih, List.map_cons, List.sum_cons]

/-- Every field that was scored has one outcome. -/
structure Balanced (s : FieldStats) : Prop where
  total : s.total = s.matched + s.mismatches + s.missed + s.hallucinated + s.failedNull
  nullMatches : s.nullMatches ≤ s.matched

theorem balanced_stats (outcome : FieldOutcome) : Balanced outcome.stats := by
  cases outcome <;> exact ⟨rfl, by decide⟩

theorem Balanced.add {s t : FieldStats} (hs : Balanced s) (ht : Balanced t) :
    Balanced (s + t) where
  total := by
    have hsum : (s + t).total = s.total + t.total := rfl
    rw [hsum, hs.total, ht.total]
    show _ = (s.matched + t.matched) + (s.mismatches + t.mismatches) + (s.missed + t.missed) +
      (s.hallucinated + t.hallucinated) + (s.failedNull + t.failedNull)
    omega
  nullMatches := Nat.add_le_add hs.nullMatches ht.nullMatches

theorem balanced_sum (outcomes : List FieldOutcome) :
    Balanced (outcomes.map FieldOutcome.stats).sum := by
  induction outcomes with
  | nil => exact ⟨rfl, le_refl _⟩
  | cons outcome outcomes ih =>
    rw [List.map_cons, List.sum_cons]
    exact (balanced_stats outcome).add ih

end FieldStats

/-! ## The report -/

structure AccuracyReport where
  docType : PyStr
  provider : PyStr
  nFixtures : ℕ
  perField : Tally PyStr FieldStats
  costUsdTotal : ℚ
  costUsdSuccessful : ℚ
  costUsdFailed : ℚ
  nFailedCostUnknown : ℤ
  latencyP50Ms : ℚ
  latencyP95Ms : ℚ
  nFailures : ℕ
  nSkipped : ℕ

namespace AccuracyReport

/-- `sum(s.counter for s in self.per_field.values())` -/
def sumOf (r : AccuracyReport) (counter : FieldStats → ℕ) : ℕ :=
  (r.perField.values.map counter).sum

def totalFields (r : AccuracyReport) : ℕ := r.sumOf FieldStats.total

def totalMatches (r : AccuracyReport) : ℕ := r.sumOf FieldStats.matched

def totalHallucinated (r : AccuracyReport) : ℕ := r.sumOf FieldStats.hallucinated

def totalNullMatches (r : AccuracyReport) : ℕ := r.sumOf FieldStats.nullMatches

def totalFailedNull (r : AccuracyReport) : ℕ := r.sumOf FieldStats.failedNull

/-- Expected-null fields in usable records. -/
def totalNullOpportunities (r : AccuracyReport) : ℕ := r.totalNullMatches + r.totalHallucinated

/-- `n / denominator if denominator else 0.0` -/
def rate (n denominator : ℕ) : ℚ := if denominator = 0 then 0 else n / denominator

def overallExactMatchRate (r : AccuracyReport) : ℚ := rate r.totalMatches r.totalFields

def hallucinatedFieldRate (r : AccuracyReport) : ℚ :=
  rate r.totalHallucinated r.totalNullOpportunities

def nullHandlingCorrectnessRate (r : AccuracyReport) : ℚ :=
  rate r.totalNullMatches r.totalNullOpportunities

end AccuracyReport

/-! ## Aggregation -/

/-- The rank of a percentile, counted from one. -/
def percentileRank (pct : ℚ) (n : ℕ) : ℕ := max 1 ⌈pct / 100 * n⌉₊

theorem percentileRank_le {pct : ℚ} (hpct : pct ≤ 100) {n : ℕ} (hn : n ≠ 0) :
    percentileRank pct n ≤ n := by
  refine max_le (Nat.one_le_iff_ne_zero.mpr hn) (Nat.ceil_le.mpr ?_)
  have hshare : pct / 100 ≤ 1 := by linarith
  calc pct / 100 * n ≤ 1 * n := mul_le_mul_of_nonneg_right hshare (Nat.cast_nonneg n)
    _ = n := one_mul _

/-- `_percentile`: the rank of a percentile up to 100 is one of the list. -/
def percentile (sortedValues : List ℚ) (pct : ℚ) (hpct : pct ≤ 100) : ℚ :=
  if h : sortedValues = [] then 0
  else
    sortedValues.get ⟨percentileRank pct sortedValues.length - 1, by
      have hlength : sortedValues.length ≠ 0 := by simpa using h
      have hrank := percentileRank_le hpct hlength
      omega⟩

/-- `aggregate` -/
def aggregate (docType provider : PyStr) (scored : List (List (PyStr × FieldOutcome)))
    (costsUsd latenciesMs : List ℚ) (nFailures nSkipped : ℕ) (failedCostsUsd : List ℚ) :
    AccuracyReport :=
  let ordered := latenciesMs.insertionSort (· ≤ ·)
  { docType := docType
    provider := provider
    nFixtures := scored.length
    perField := Tally.collect (scored.flatten.map fun entry => (entry.1, entry.2.stats))
    costUsdTotal := costsUsd.sum + failedCostsUsd.sum
    costUsdSuccessful := costsUsd.sum
    costUsdFailed := failedCostsUsd.sum
    nFailedCostUnknown := nFailures - failedCostsUsd.length
    latencyP50Ms := percentile ordered 50 (by norm_num)
    latencyP95Ms := percentile ordered 95 (by norm_num)
    nFailures := nFailures
    nSkipped := nSkipped }

section Aggregate

variable (docType provider : PyStr) (scored : List (List (PyStr × FieldOutcome)))
  (costsUsd latenciesMs : List ℚ) (nFailures nSkipped : ℕ) (failedCostsUsd : List ℚ)

theorem sumOf_aggregate (counter : FieldStats → ℕ) (hzero : counter 0 = 0)
    (hadd : ∀ s t, counter (s + t) = counter s + counter t) :
    (aggregate docType provider scored costsUsd latenciesMs nFailures nSkipped
        failedCostsUsd).sumOf counter =
      (scored.map fun outcomes => (outcomes.map fun entry => counter entry.2.stats).sum).sum := by
  rw [AccuracyReport.sumOf, ← FieldStats.sum_counter hzero hadd]
  simp only [aggregate]
  rw [Tally.sum_collect, FieldStats.sum_counter hzero hadd, List.map_map, List.map_map]
  induction scored with
  | nil => rfl
  | cons outcomes scored ih =>
    rw [List.flatten_cons, List.map_append, List.sum_append, ih, List.map_cons, List.sum_cons]
    rfl

theorem perField_aggregate (field : PyStr) :
    (aggregate docType provider scored costsUsd latenciesMs nFailures nSkipped
        failedCostsUsd).perField.valueAt field =
      ((scored.flatten.filter fun entry => decide (entry.1 = field)).map
        fun entry => entry.2.stats).sum := by
  simp only [aggregate]
  rw [Tally.valueAt_collect, List.filter_map, List.map_map]
  rfl

end Aggregate

end ExtractApi
