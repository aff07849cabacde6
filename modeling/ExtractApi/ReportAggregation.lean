import ExtractApi.AccuracyScoring
import ExtractApi.OrderStatistics

/-!
# What `aggregate` reports of a list

The order of the fixtures, of the costs and of the latencies does not matter, and a list in two
parts is reported by the sums of the parts: `aggregate_homomorphism`.  The percentiles are
nearest ranks: `percentile_nearest_rank`.
-/

namespace ExtractApi

open PythonText OrderStatistics

/-! ## Reports of the same figures -/

/-- One field's outcomes in one fixture. -/
abbrev ScoredFixture := List (PyStr × FieldOutcome)

/-- The report's figures do not differ, and no rate that is computed from them. -/
structure AccuracyReport.SameFigures (r r' : AccuracyReport) : Prop where
  fields : ∀ field, field ∈ r.perField.keys ↔ field ∈ r'.perField.keys
  counters : ∀ field, r.perField.valueAt field = r'.perField.valueAt field
  fieldRates : ∀ field, (r.perField.valueAt field).exactMatchRate =
    (r'.perField.valueAt field).exactMatchRate
  totals : ∀ counter, r.sumOf counter = r'.sumOf counter
  overallRate : r.overallExactMatchRate = r'.overallExactMatchRate
  hallucinatedRate : r.hallucinatedFieldRate = r'.hallucinatedFieldRate
  nullRate : r.nullHandlingCorrectnessRate = r'.nullHandlingCorrectnessRate
  nFixtures : r.nFixtures = r'.nFixtures
  nFailures : r.nFailures = r'.nFailures
  nSkipped : r.nSkipped = r'.nSkipped
  nFailedCostUnknown : r.nFailedCostUnknown = r'.nFailedCostUnknown
  costUsdTotal : r.costUsdTotal = r'.costUsdTotal
  costUsdSuccessful : r.costUsdSuccessful = r'.costUsdSuccessful
  costUsdFailed : r.costUsdFailed = r'.costUsdFailed
  latencyP50Ms : r.latencyP50Ms = r'.latencyP50Ms
  latencyP95Ms : r.latencyP95Ms = r'.latencyP95Ms

/-- The figures of `r` are those of `r₁` and `r₂` added up; a field that one of them does not
    have counts as zero there. -/
structure AccuracyReport.AddsUp (r r₁ r₂ : AccuracyReport) : Prop where
  fields : ∀ field, field ∈ r.perField.keys ↔
    field ∈ r₁.perField.keys ∨ field ∈ r₂.perField.keys
  counters : ∀ field, r.perField.valueAt field =
    r₁.perField.valueAt field + r₂.perField.valueAt field
  nFixtures : r.nFixtures = r₁.nFixtures + r₂.nFixtures
  nFailures : r.nFailures = r₁.nFailures + r₂.nFailures
  nSkipped : r.nSkipped = r₁.nSkipped + r₂.nSkipped
  nFailedCostUnknown : r.nFailedCostUnknown = r₁.nFailedCostUnknown + r₂.nFailedCostUnknown
  costUsdTotal : r.costUsdTotal = r₁.costUsdTotal + r₂.costUsdTotal
  costUsdSuccessful : r.costUsdSuccessful = r₁.costUsdSuccessful + r₂.costUsdSuccessful
  costUsdFailed : r.costUsdFailed = r₁.costUsdFailed + r₂.costUsdFailed

/-- Sorting forgets the order. -/
theorem insertionSort_of_perm {xs ys : List ℚ} (h : xs.Perm ys) :
    xs.insertionSort (· ≤ ·) = ys.insertionSort (· ≤ ·) := by
  apply List.Perm.eq_of_sortedLE List.sortedLE_insertionSort List.sortedLE_insertionSort
  exact (List.perm_insertionSort _ xs).trans (h.trans (List.perm_insertionSort _ ys).symm)

/-- The outcomes of all fixtures, as `aggregate` counts them. -/
def outcomeStats (scored : List ScoredFixture) : List (PyStr × FieldStats) :=
  scored.flatten.map fun entry => (entry.1, entry.2.stats)

theorem outcomeStats_of_perm {scored scored' : List ScoredFixture} (h : scored.Perm scored') :
    (outcomeStats scored).Perm (outcomeStats scored') :=
  h.flatten.map _

theorem outcomeStats_append (scored scored' : List ScoredFixture) :
    outcomeStats (scored ++ scored') = outcomeStats scored ++ outcomeStats scored' := by
  rw [outcomeStats, List.flatten_append, List.map_append]
  rfl

section Aggregate

variable (docType provider : PyStr)

/-- Fixtures, costs and latencies in another order. -/
theorem aggregate_of_perm {scored scored' : List ScoredFixture} {costs costs' : List ℚ}
    {latencies latencies' : List ℚ} {failedCosts failedCosts' : List ℚ} (nFailures nSkipped : ℕ)
    (hscored : scored.Perm scored') (hcosts : costs.Perm costs')
    (hlatencies : latencies.Perm latencies') (hfailed : failedCosts.Perm failedCosts') :
    (aggregate docType provider scored costs latencies nFailures nSkipped failedCosts).SameFigures
      (aggregate docType provider scored' costs' latencies' nFailures nSkipped failedCosts') := by
  -- a permutation of the scores permutes the entries and keeps every sum
  have hentries := Tally.perm_collect (outcomeStats_of_perm hscored)
  have hcounters : ∀ field, (Tally.collect (outcomeStats scored)).valueAt field =
      (Tally.collect (outcomeStats scored')).valueAt field := by
    intro field
    rw [Tally.valueAt_collect, Tally.valueAt_collect]
    exact (((outcomeStats_of_perm hscored).filter _).map Prod.snd).sum_eq
  have htotals : ∀ counter,
      (aggregate docType provider scored costs latencies nFailures nSkipped failedCosts).sumOf
          counter =
        (aggregate docType provider scored' costs' latencies' nFailures nSkipped
          failedCosts').sumOf counter := by
    intro counter
    exact ((hentries.map Prod.snd).map counter).sum_eq
  have hsorted := insertionSort_of_perm hlatencies
  constructor
  case fields =>
    intro field
    exact (hentries.map Prod.fst).mem_iff
  case counters => exact hcounters
  case fieldRates =>
    intro field
    exact congrArg FieldStats.exactMatchRate (hcounters field)
  case totals => exact htotals
  case overallRate => exact congrArg₂ AccuracyReport.rate (htotals _) (htotals _)
  case hallucinatedRate =>
    exact congrArg₂ AccuracyReport.rate (htotals _)
      (congrArg₂ (· + ·) (htotals _) (htotals _))
  case nullRate =>
    exact congrArg₂ AccuracyReport.rate (htotals _)
      (congrArg₂ (· + ·) (htotals _) (htotals _))
  case nFixtures => exact hscored.length_eq
  case nFailures => rfl
  case nSkipped => rfl
  case nFailedCostUnknown => simp only [aggregate, hfailed.length_eq]
  case costUsdTotal => simp only [aggregate, hcosts.sum_eq, hfailed.sum_eq]
  case costUsdSuccessful => exact hcosts.sum_eq
  case costUsdFailed => exact hfailed.sum_eq
  case latencyP50Ms => simp only [aggregate, hsorted]
  case latencyP95Ms => simp only [aggregate, hsorted]

/-- Two lists, one after the other. -/
theorem aggregate_append (scored scored' : List ScoredFixture) (costs costs' : List ℚ)
    (latencies latencies' : List ℚ) (nFailures nFailures' nSkipped nSkipped' : ℕ)
    (failedCosts failedCosts' : List ℚ) :
    (aggregate docType provider (scored ++ scored') (costs ++ costs') (latencies ++ latencies')
        (nFailures + nFailures') (nSkipped + nSkipped') (failedCosts ++ failedCosts')).AddsUp
      (aggregate docType provider scored costs latencies nFailures nSkipped failedCosts)
      (aggregate docType provider scored' costs' latencies' nFailures' nSkipped' failedCosts') := by
  constructor
  case fields =>
    intro field
    show field ∈ (Tally.collect (outcomeStats (scored ++ scored'))).keys ↔
      field ∈ (Tally.collect (outcomeStats scored)).keys ∨
        field ∈ (Tally.collect (outcomeStats scored')).keys
    rw [outcomeStats_append, Tally.mem_keys_collect, Tally.mem_keys_collect,
      Tally.mem_keys_collect, List.map_append, List.mem_append]
  case counters =>
    intro field
    show (Tally.collect (outcomeStats (scored ++ scored'))).valueAt field = _
    rw [outcomeStats_append]
    exact Tally.valueAt_collect_append _ _ field
  case nFixtures => exact List.length_append
  case nFailures => rfl
  case nSkipped => rfl
  case nFailedCostUnknown =>
    simp only [aggregate, List.length_append]
    push_cast
    ring
  case costUsdTotal =>
    simp only [aggregate, List.sum_append]
    ring
  case costUsdSuccessful => exact List.sum_append
  case costUsdFailed => exact List.sum_append

/-- **Aggregation is independent of the order, and additive.** -/
theorem aggregate_homomorphism :
    (∀ (scored scored' : List ScoredFixture) (costs costs' latencies latencies' failedCosts
        failedCosts' : List ℚ) (nFailures nSkipped : ℕ), scored.Perm scored' → costs.Perm costs' →
      latencies.Perm latencies' → failedCosts.Perm failedCosts' →
      (aggregate docType provider scored costs latencies nFailures nSkipped
          failedCosts).SameFigures
        (aggregate docType provider scored' costs' latencies' nFailures nSkipped failedCosts')) ∧
    ∀ (scored scored' : List ScoredFixture) (costs costs' latencies latencies' failedCosts
        failedCosts' : List ℚ) (nFailures nFailures' nSkipped nSkipped' : ℕ),
      (aggregate docType provider (scored ++ scored') (costs ++ costs') (latencies ++ latencies')
          (nFailures + nFailures') (nSkipped + nSkipped') (failedCosts ++ failedCosts')).AddsUp
        (aggregate docType provider scored costs latencies nFailures nSkipped failedCosts)
        (aggregate docType provider scored' costs' latencies' nFailures' nSkipped'
          failedCosts') := by
  constructor
  · intro scored scored' costs costs' latencies latencies' failedCosts failedCosts' nFailures
      nSkipped hscored hcosts hlatencies hfailed
    exact aggregate_of_perm docType provider nFailures nSkipped hscored hcosts hlatencies hfailed
  · intro scored scored' costs costs' latencies latencies' failedCosts failedCosts' nFailures
      nFailures' nSkipped nSkipped'
    exact aggregate_append docType provider scored scored' costs costs' latencies latencies'
      nFailures nFailures' nSkipped nSkipped' failedCosts failedCosts'

end Aggregate

/-- Two fixtures of different fields, the other way round. -/
theorem aggregate_homomorphism_swapped :
    (aggregate (py "invoice") (py "openai")
        [[(py "currency", .matched)], [(py "due_date", .missed)]] [1, 2] [30, 10] 0 0
        []).SameFigures
      (aggregate (py "invoice") (py "openai")
        [[(py "due_date", .missed)], [(py "currency", .matched)]] [2, 1] [10, 30] 0 0 []) :=
  (aggregate_homomorphism (py "invoice") (py "openai")).1 _ _ _ _ _ _ _ _ 0 0
    (List.Perm.swap _ _ _) (List.Perm.swap _ _ _) (List.Perm.swap _ _ _) (List.Perm.refl _)

/-! ## Percentiles -/

/-- More elements than stand before the rank are at least the percentage. -/
theorem pred_percentileRank_lt_iff {pct : ℚ} (hpct : 0 < pct) {n count : ℕ} (hn : 0 < n) :
    percentileRank pct n - 1 < count ↔ pct / 100 * n ≤ count := by
  have hshare : 0 < pct / 100 * n := by positivity
  have hceil : 0 < ⌈pct / 100 * n⌉₊ := Nat.ceil_pos.mpr hshare
  have hrank : percentileRank pct n = ⌈pct / 100 * n⌉₊ := max_eq_right hceil
  rw [hrank, ← Nat.ceil_le]
  omega

theorem pred_percentileRank_lt {pct : ℚ} (hpct : pct ≤ 100) {n : ℕ} (hn : 0 < n) :
    percentileRank pct n - 1 < n := by
  have hrank := percentileRank_le hpct hn.ne'
  omega

theorem percentileRank_mono {pct pct' : ℚ} (h : pct ≤ pct') (n : ℕ) :
    percentileRank pct n ≤ percentileRank pct' n := by
  apply max_le_max_left
  apply Nat.ceil_mono
  apply mul_le_mul_of_nonneg_right _ (Nat.cast_nonneg n)
  linarith

section Percentile

variable {latencies : List ℚ}

theorem percentile_eq_getElem (hne : latencies ≠ []) {pct : ℚ} (hpct : pct ≤ 100) :
    ∃ h : percentileRank pct latencies.length - 1 < (latencies.insertionSort (· ≤ ·)).length,
      percentile (latencies.insertionSort (· ≤ ·)) pct hpct =
        (latencies.insertionSort (· ≤ ·))[percentileRank pct latencies.length - 1] := by
  have hlength := List.length_insertionSort (· ≤ ·) latencies
  have hpos := List.length_pos_iff.mpr hne
  have hsorted : latencies.insertionSort (· ≤ ·) ≠ [] := by
    intro hnil
    rw [hnil, List.length_nil] at hlength
    omega
  refine ⟨by rw [hlength]; exact pred_percentileRank_lt hpct hpos, ?_⟩
  unfold percentile
  rw [dif_neg hsorted, List.get_eq_getElem]
  congr 1
  exact congrArg (fun n => percentileRank pct n - 1) hlength

/-- The percentile is the least latency that the percentage of the latencies is at most. -/
theorem isLeast_percentile (hne : latencies ≠ []) {pct : ℚ} (hpos : 0 < pct) (hpct : pct ≤ 100) :
    IsLeast {v | v ∈ latencies ∧ pct / 100 * latencies.length ≤ countLe v latencies}
      (percentile (latencies.insertionSort (· ≤ ·)) pct hpct) := by
  obtain ⟨hrank, hvalue⟩ := percentile_eq_getElem hne hpct
  have hperm := List.perm_insertionSort (· ≤ ·) latencies
  have hleast := isLeast_getElem (List.pairwise_insertionSort (· ≤ ·) latencies) hrank
  have hcount : ∀ v, v ∈ latencies.insertionSort (· ≤ ·) ∧
      percentileRank pct latencies.length - 1 < countLe v (latencies.insertionSort (· ≤ ·)) ↔
        v ∈ latencies ∧ pct / 100 * latencies.length ≤ countLe v latencies := by
    intro v
    rw [hperm.mem_iff, countLe_of_perm hperm,
      pred_percentileRank_lt_iff hpos (List.length_pos_iff.mpr hne)]
  simp only [hcount] at hleast
  rw [hvalue]
  exact hleast

theorem percentile_mono (hne : latencies ≠ []) {pct pct' : ℚ} (h : pct ≤ pct')
    (hpct : pct ≤ 100) (hpct' : pct' ≤ 100) :
    percentile (latencies.insertionSort (· ≤ ·)) pct hpct ≤
      percentile (latencies.insertionSort (· ≤ ·)) pct' hpct' := by
  obtain ⟨hrank, hvalue⟩ := percentile_eq_getElem hne hpct
  obtain ⟨hrank', hvalue'⟩ := percentile_eq_getElem hne hpct'
  rw [hvalue, hvalue']
  apply getElem_le_getElem (List.pairwise_insertionSort (· ≤ ·) latencies)
  exact Nat.sub_le_sub_right (percentileRank_mono h latencies.length) 1

/-- **Percentiles are nearest ranks**: the rank is one of the sorted list, its value is the
    least latency that at least the percentage of the latencies are at most, and it grows with
    the percentage; so a report's median is at most its 95th percentile, and that is at most
    the greatest latency. -/
theorem percentile_nearest_rank (latencies : List ℚ) (hne : latencies ≠ []) :
    (∀ (pct : ℚ) (_ : 0 < pct) (hpct : pct ≤ 100),
      1 ≤ percentileRank pct latencies.length ∧
      percentileRank pct latencies.length ≤ latencies.length ∧
      (latencies.insertionSort (· ≤ ·))[percentileRank pct latencies.length - 1]? =
        some (percentile (latencies.insertionSort (· ≤ ·)) pct hpct) ∧
      IsLeast {v | v ∈ latencies ∧ pct / 100 * latencies.length ≤ countLe v latencies}
        (percentile (latencies.insertionSort (· ≤ ·)) pct hpct) ∧
      ∀ (pct' : ℚ) (hpct' : pct' ≤ 100), pct ≤ pct' →
        percentile (latencies.insertionSort (· ≤ ·)) pct hpct ≤
          percentile (latencies.insertionSort (· ≤ ·)) pct' hpct') ∧
    ∀ docType provider scored costs nFailures nSkipped failedCosts,
      let r := aggregate docType provider scored costs latencies nFailures nSkipped failedCosts
      r.latencyP50Ms ≤ r.latencyP95Ms ∧
        ∀ greatest, IsGreatest {v | v ∈ latencies} greatest → r.latencyP95Ms ≤ greatest := by
  constructor
  · intro pct hpos hpct
    obtain ⟨hrank, hvalue⟩ := percentile_eq_getElem hne hpct
    refine ⟨le_max_left _ _, percentileRank_le hpct (List.length_pos_iff.mpr hne).ne', ?_,
      isLeast_percentile hne hpos hpct, ?_⟩
    · rw [hvalue]
      exact List.getElem?_eq_getElem hrank
    · intro pct' hpct' h
      exact percentile_mono hne h hpct hpct'
  · intro docType provider scored costs nFailures nSkipped failedCosts r
    constructor
    · exact percentile_mono hne (by norm_num) (by norm_num) (by norm_num)
    · intro greatest hgreatest
      apply hgreatest.2
      exact (isLeast_percentile hne (by norm_num) (by norm_num)).1.1

end Percentile

/-- The median of four latencies is the second. -/
theorem percentile_nearest_rank_four :
    IsLeast {v | v ∈ [40, 10, 30, 20] ∧ 50 / 100 * (4 : ℚ) ≤ countLe v [40, 10, 30, 20]}
      (percentile ([40, 10, 30, 20].insertionSort (· ≤ ·)) 50 (by norm_num)) :=
  ((percentile_nearest_rank [40, 10, 30, 20] (by simp)).1 50 (by norm_num)
    (by norm_num)).2.2.2.1

end ExtractApi
