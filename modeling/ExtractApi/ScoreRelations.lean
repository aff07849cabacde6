import ExtractApi.ScoreConservation

/-!
# Relations between runs

Two runs that differ in one inserted fixture.  A skipped fixture only counts as skipped; a
failed one has outcomes that no rate over expected nulls and no successful figure counts.
-/

namespace ExtractApi

open PythonText JsonValue

variable {M : Type}

/-! ## Runs with their outcomes -/

/-- The predictor that ends its calls with the given outcomes, in order. -/
def scripted : Predictor (List PredictorOutcome) := fun _ outcomes =>
  match outcomes with
  | outcome :: rest => (outcome, rest)
  | [] => (.requestNotSent [], [])

/-- A fixture with the outcome of its call. -/
abbrev Attached := Record × PredictorOutcome

section Attached

variable (libs : HarnessLibs M) (docType provider : PyStr)

/-- `run_accuracy` over the fixtures, with the outcomes attached to them, returns `r`. -/
def Reports (entries : List Attached) (r : AccuracyReport) : Prop :=
  ∃ s, (runAccuracy libs scripted docType (entries.map Prod.fst)).run
    (.start provider (entries.map Prod.snd)) = .ok r s

variable {libs docType provider}

theorem runOutcomes_scripted (entries : List Attached) :
    runOutcomes scripted (entries.map Prod.snd) (entries.map Prod.fst) =
      entries.map Prod.snd := by
  induction entries with
  | nil => rfl
  | cons entry entries ih => exact congrArg (entry.2 :: ·) ih

/-- A run returns the report of what its fixtures contribute, if they pass preflight. -/
theorem reports_iff {entries : List Attached} {r : AccuracyReport} :
    Reports libs docType provider entries r ↔
      ∃ prepared, List.Forall₂ (Passes libs docType) (entries.map Prod.fst) prepared ∧
        r = reportOf docType provider
          (List.zipWith (contribution libs) prepared (entries.map Prod.snd)) := by
  have hscript : ∀ prepared, List.Forall₂ (Passes libs docType) (entries.map Prod.fst) prepared →
      contributions libs scripted (entries.map Prod.snd) prepared =
        List.zipWith (contribution libs) prepared (entries.map Prod.snd) := by
    intro prepared hpasses
    rw [contributions, map_fx_of_passes hpasses, runOutcomes_scripted]
  constructor
  · rintro ⟨s, hrun⟩
    rcases hpreflight : preflightFixtures libs docType (entries.map Prod.fst) with
      message | prepared
    · rw [run_runAccuracy_of_rejected libs scripted hpreflight] at hrun
      cases hrun
    · have hpasses := preflightFixtures_eq_ok_iff.mp hpreflight
      obtain ⟨s', hrun', -, -⟩ := run_runAccuracy libs scripted hpreflight provider
        (entries.map Prod.snd)
      rw [hrun'] at hrun
      cases hrun
      exact ⟨prepared, hpasses, by rw [hscript prepared hpasses]⟩
  · rintro ⟨prepared, hpasses, rfl⟩
    obtain ⟨s, hrun, -, -⟩ := run_runAccuracy libs scripted
      (preflightFixtures_eq_ok_iff.mpr hpasses) provider (entries.map Prod.snd)
    exact ⟨s, by rw [hrun, hscript prepared hpasses]⟩

end Attached

theorem exists_append_of_forall₂ {α β : Type} {R : α → β → Prop} {xs xs' : List α} {ys : List β}
    (h : List.Forall₂ R (xs ++ xs') ys) :
    ∃ zs zs', ys = zs ++ zs' ∧ List.Forall₂ R xs zs ∧ List.Forall₂ R xs' zs' := by
  induction xs generalizing ys with
  | nil => exact ⟨[], ys, rfl, .nil, h⟩
  | cons x xs ih =>
    rw [List.cons_append, List.forall₂_cons_left_iff] at h
    obtain ⟨y, ys, hxy, hrest, rfl⟩ := h
    obtain ⟨zs, zs', rfl, hleft, hright⟩ := ih hrest
    exact ⟨y :: zs, zs', rfl, .cons hxy hleft, hright⟩

/-- A well-formed fixture can be inserted into a run, wherever; its contribution is inserted
    into those of the run. -/
theorem Reports.insert {libs : HarnessLibs M} {docType provider : PyStr} {pre post : List Attached}
    {r : AccuracyReport} (h : Reports libs docType provider (pre ++ post) r) {fx : Record}
    {p : Prepared} (hpasses : Passes libs docType fx p) (outcome : PredictorOutcome) :
    ∃ cs cs', r = reportOf docType provider (cs ++ cs') ∧
      Reports libs docType provider (pre ++ (fx, outcome) :: post)
        (reportOf docType provider (cs ++ contribution libs p outcome :: cs')) := by
  obtain ⟨prepared, hall, rfl⟩ := reports_iff.mp h
  rw [List.map_append] at hall
  obtain ⟨ps, ps', rfl, hpre, hpost⟩ := exists_append_of_forall₂ hall
  have hlength : ps.length = (pre.map Prod.snd).length := by
    rw [← hpre.length_eq, List.length_map, List.length_map]
  refine ⟨List.zipWith (contribution libs) ps (pre.map Prod.snd),
    List.zipWith (contribution libs) ps' (post.map Prod.snd), ?_, ?_⟩
  · rw [List.map_append, List.zipWith_append hlength]
  · refine reports_iff.mpr ⟨ps ++ p :: ps', ?_, ?_⟩
    · rw [List.map_append]
      exact List.rel_append hpre (.cons hpasses hpost)
    · rw [List.map_append, List.zipWith_append hlength]
      rfl

/-! ## Reports with one contribution more -/

section Inserted

variable (docType provider : PyStr) (cs cs' : List Contribution)

theorem reportOf_insert_skip :
    reportOf docType provider (cs ++ { skipped := 1 } :: cs') =
      { reportOf docType provider (cs ++ cs') with
        nSkipped := (reportOf docType provider (cs ++ cs')).nSkipped + 1 } := by
  simp only [reportOf, aggregate, List.flatMap_append, List.flatMap_cons, List.map_append,
    List.map_cons, List.sum_append, List.sum_cons, List.nil_append]
  rw [Nat.zero_add, Nat.add_comm 1, ← Nat.add_assoc]

theorem sumOf_insert (c : Contribution) (counter : FieldStats → ℕ) (hzero : counter 0 = 0)
    (hadd : ∀ s t, counter (s + t) = counter s + counter t) :
    (reportOf docType provider (cs ++ c :: cs')).sumOf counter =
      (reportOf docType provider (cs ++ cs')).sumOf counter +
        (c.scored.map fun outcomes =>
          (outcomes.map fun entry => counter entry.2.stats).sum).sum := by
  rw [sumOf_reportOf _ _ _ counter hzero hadd, sumOf_reportOf _ _ _ counter hzero hadd]
  simp only [List.flatMap_append, List.flatMap_cons, List.map_append, List.sum_append]
  omega

theorem totalMatches_le_totalFields :
    (reportOf docType provider cs).totalMatches ≤ (reportOf docType provider cs).totalFields := by
  have hmatches := sumOf_reportOf docType provider cs FieldStats.matched rfl fun _ _ => rfl
  have htotal := sumOf_reportOf docType provider cs FieldStats.total rfl fun _ _ => rfl
  refine hmatches.trans_le (le_of_le_of_eq ?_ htotal.symm)
  apply List.sum_le_sum
  intro outcomes _
  apply List.sum_le_sum
  intro entry _
  rcases entry.2 <;> decide

end Inserted

theorem rate_add_le {m d : ℕ} (k : ℕ) (h : m ≤ d) :
    AccuracyReport.rate m (d + k) ≤ AccuracyReport.rate m d := by
  unfold AccuracyReport.rate
  by_cases hd : d = 0
  · obtain rfl : m = 0 := Nat.le_zero.mp (hd ▸ h)
    simp
  · have hpos : (0 : ℚ) < d := by exact_mod_cast Nat.pos_of_ne_zero hd
    have hle : (d : ℚ) ≤ (d + k : ℕ) := by
      push_cast
      linarith [Nat.cast_nonneg (α := ℚ) k]
    rw [if_neg hd, if_neg (by omega)]
    exact div_le_div_of_nonneg_left (Nat.cast_nonneg m) hpos hle

/-- What a failed extraction does not change, and what it does. -/
structure Undiluted (r r' : AccuracyReport) : Prop where
  hallucinatedFieldRate : r'.hallucinatedFieldRate = r.hallucinatedFieldRate
  nullHandlingCorrectnessRate :
    r'.nullHandlingCorrectnessRate = r.nullHandlingCorrectnessRate
  totalNullOpportunities : r'.totalNullOpportunities = r.totalNullOpportunities
  latencyP50Ms : r'.latencyP50Ms = r.latencyP50Ms
  latencyP95Ms : r'.latencyP95Ms = r.latencyP95Ms
  costUsdSuccessful : r'.costUsdSuccessful = r.costUsdSuccessful
  nFailures : r'.nFailures = r.nFailures + 1
  nFixtures : r'.nFixtures = r.nFixtures + 1
  overallExactMatchRate : r'.overallExactMatchRate ≤ r.overallExactMatchRate

/-- A failed outcome, which neither rewards nor counts as an observed null. -/
def FieldOutcome.isFailed : FieldOutcome → Bool
  | .missed | .failedNull => true
  | _ => false

/-- A contribution of a failed extraction. -/
structure Contribution.Failed (c : Contribution) : Prop where
  scored : ∃ outcomes, c.scored = [outcomes] ∧ ∀ entry ∈ outcomes, entry.2.isFailed = true
  costs : c.costs = []
  latencies : c.latencies = []
  failures : c.failures = 1

/-- The extraction fails: the predictor says so, or its record has no canonical form. -/
def Fails (libs : HarnessLibs M) (p : Prepared) : PredictorOutcome → Prop
  | .predictionFailed _ _ => True
  | .prediction answer => ∃ errors, canonical libs p.cls answer.record = .error errors
  | .controlPlaneRejection _ | .requestNotSent _ => False

theorem contribution_failed {libs : HarnessLibs M} {p : Prepared} {outcome : PredictorOutcome}
    (h : Fails libs p outcome) : (contribution libs p outcome).Failed := by
  have houtcomes : ∀ entry ∈ failedOutcomes libs p, entry.2.isFailed = true := by
    intro entry hentry
    obtain ⟨field, -, rfl⟩ := List.mem_map.mp hentry
    simp only
    split_ifs <;> rfl
  rcases outcome with answer | ⟨message, costUsd⟩ | message | message
  · obtain ⟨errors, hrecord⟩ := h
    rw [contribution_of_invalid hrecord]
    exact ⟨⟨_, rfl, houtcomes⟩, rfl, rfl, rfl⟩
  · exact ⟨⟨_, rfl, houtcomes⟩, rfl, rfl, rfl⟩
  · exact h.elim
  · exact h.elim

theorem undiluted_of_failed (docType provider : PyStr) (cs cs' : List Contribution)
    {c : Contribution} (h : c.Failed) :
    Undiluted (reportOf docType provider (cs ++ cs'))
      (reportOf docType provider (cs ++ c :: cs')) := by
  obtain ⟨⟨outcomes, hscored, houtcomes⟩, hcosts, hlatencies, hfailures⟩ := h
  -- a failed fixture adds misses only, so no counter of the numerators moves
  have hnone : ∀ counter : FieldStats → ℕ,
      (∀ o : FieldOutcome, o.isFailed = true → counter o.stats = 0) →
      (c.scored.map fun outcomes =>
        (outcomes.map fun entry => counter entry.2.stats).sum).sum = 0 := by
    intro counter hcounter
    have hzeros : (outcomes.map fun entry => counter entry.2.stats) =
        outcomes.map fun _ => 0 :=
      List.map_congr_left fun entry hentry => hcounter entry.2 (houtcomes entry hentry)
    simp [hscored, hzeros]
  have hkeeps : ∀ counter : FieldStats → ℕ, counter 0 = 0 →
      (∀ s t, counter (s + t) = counter s + counter t) →
      (∀ o : FieldOutcome, o.isFailed = true → counter o.stats = 0) →
      (reportOf docType provider (cs ++ c :: cs')).sumOf counter =
        (reportOf docType provider (cs ++ cs')).sumOf counter := by
    intro counter hzero hadd hcounter
    rw [sumOf_insert docType provider cs cs' c counter hzero hadd, hnone counter hcounter,
      Nat.add_zero]
  -- each counter of the report in turn
  have hhallucinated := hkeeps FieldStats.hallucinated rfl (fun _ _ => rfl)
    (by intro o; cases o <;> decide)
  have hnullMatches := hkeeps FieldStats.nullMatches rfl (fun _ _ => rfl)
    (by intro o; cases o <;> decide)
  have hmatched := hkeeps FieldStats.matched rfl (fun _ _ => rfl)
    (by intro o; cases o <;> decide)
  have htotal := sumOf_insert docType provider cs cs' c FieldStats.total rfl fun _ _ => rfl
  have hopportunities : (reportOf docType provider (cs ++ c :: cs')).totalNullOpportunities =
      (reportOf docType provider (cs ++ cs')).totalNullOpportunities :=
    congrArg₂ (· + ·) hnullMatches hhallucinated
  constructor
  · exact congrArg₂ AccuracyReport.rate hhallucinated hopportunities
  · exact congrArg₂ AccuracyReport.rate hnullMatches hopportunities
  · exact hopportunities
  · simp [reportOf, aggregate, hlatencies]
  · simp [reportOf, aggregate, hlatencies]
  · simp [reportOf, aggregate, hcosts]
  · simp only [reportOf, aggregate, List.map_append, List.map_cons, List.sum_append,
      List.sum_cons, hfailures]
    omega
  · simp only [reportOf, aggregate, List.flatMap_append, List.flatMap_cons, List.length_append,
      hscored, List.length_singleton]
    omega
  · unfold AccuracyReport.overallExactMatchRate
    rw [show (reportOf docType provider (cs ++ c :: cs')).totalMatches =
      (reportOf docType provider (cs ++ cs')).totalMatches from hmatched,
      show (reportOf docType provider (cs ++ c :: cs')).totalFields = _ from htotal]
    exact rate_add_le _ (totalMatches_le_totalFields docType provider (cs ++ cs'))

/-! ## The relations -/

/-- **Skips are erasable, and failures neither reward nor dilute.**  Into any run that returns
    a report, a fixture that passes preflight may be inserted wherever; a skip leaves the
    report as it was but for the skips, a failed extraction leaves every observed rate and
    every successful figure. -/
theorem insert_relations (libs : HarnessLibs M) {docType provider : PyStr}
    {pre post : List Attached} {r : AccuracyReport}
    (hrun : Reports libs docType provider (pre ++ post) r) {fx : Record} {p : Prepared}
    (hpasses : Passes libs docType fx p) (outcome : PredictorOutcome) :
    (outcome.isSkip = true →
      Reports libs docType provider (pre ++ (fx, outcome) :: post)
        { r with nSkipped := r.nSkipped + 1 }) ∧
    (Fails libs p outcome →
      ∃ r', Reports libs docType provider (pre ++ (fx, outcome) :: post) r' ∧
        Undiluted r r') := by
  obtain ⟨cs, cs', rfl, hinserted⟩ := hrun.insert hpasses outcome
  constructor
  · intro hskip
    have hcontribution : contribution libs p outcome = { skipped := 1 } := by
      rcases outcome with answer | ⟨message, costUsd⟩ | message | message
      · cases hskip
      · cases hskip
      · rfl
      · rfl
    rw [hcontribution, reportOf_insert_skip] at hinserted
    exact hinserted
  · intro hfails
    exact ⟨_, hinserted, undiluted_of_failed docType provider cs cs' (contribution_failed hfails)⟩

theorem insert_relations_sample :
    ∃ r, Reports sampleHarnessLibs (py "invoice") (py "default")
        [(sampleFixture "a", .prediction (samplePrediction "openai"))] r ∧
      Reports sampleHarnessLibs (py "invoice") (py "default")
        [(sampleFixture "a", .prediction (samplePrediction "openai")),
          (sampleFixture "b", .requestNotSent (py "b: ConnectError"))]
        { r with nSkipped := r.nSkipped + 1 } := by
  have hrun : Reports sampleHarnessLibs (py "invoice") (py "default")
      ([(sampleFixture "a", .prediction (samplePrediction "openai"))] ++ []) _ :=
    reports_iff.mpr ⟨[samplePrepared "a"], .cons (sampleFixture_passes "a") .nil, rfl⟩
  exact ⟨_, hrun, (insert_relations sampleHarnessLibs hrun (sampleFixture_passes "b")
    (.requestNotSent (py "b: ConnectError"))).1 rfl⟩

end ExtractApi
