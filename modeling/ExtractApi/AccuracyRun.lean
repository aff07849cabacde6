import ExtractApi.ExtractOutcome
import ExtractApi.FixturePreflight

/-!
# The accuracy run (`run_accuracy`)

One predictor call for each fixture of a preflighted corpus; the loop scores the answer and
keeps four lists and two counters, and `aggregate` makes the report of them.

A predictor is a function of the fixture and of whatever it remembers (`P`): the outcomes of
its calls are any sequence.  What the loop adds for one fixture is its `Contribution`, and
`run_runAccuracy` gives the report of a whole run as the aggregate of the contributions.
-/

namespace ExtractApi

open PythonText JsonValue

variable {M P : Type}

structure Prediction where
  record : Record
  costUsd : ℚ
  latencyMs : ℚ
  provider : PyStr

/-- How a predictor call ends: a `Prediction`, or one of the three exceptions. -/
inductive PredictorOutcome where
  | prediction (answer : Prediction)
  | predictionFailed (message : PyStr) (costUsd : Option ℚ)
  | controlPlaneRejection (message : PyStr)
  | requestNotSent (message : PyStr)

/-- The fixture is counted as skipped. -/
def PredictorOutcome.isSkip : PredictorOutcome → Bool
  | .controlPlaneRejection _ | .requestNotSent _ => true
  | .predictionFailed _ _ | .prediction _ => false

abbrev Predictor (P : Type) := Record → P → PredictorOutcome × P

inductive HarnessExc where
  | valueError (message : PyStr)
  | validationError (errors : List ErrorDetails)

/-- The variables of the run, the predictor's memory and the fixtures it was called with. -/
structure RunState (P : Type) where
  predictor : P
  called : List Record := []
  scored : List (List (PyStr × FieldOutcome)) := []
  costs : List ℚ := []
  failedCosts : List ℚ := []
  latencies : List ℚ := []
  failures : ℕ := 0
  skipped : ℕ := 0
  resolvedProvider : PyStr
  stderr : List PyStr := []

abbrev Run (P : Type) := EStateM HarnessExc (RunState P)

/-! ## The loop -/

section Loop

variable (libs : HarnessLibs M) (predict : Predictor P)

/-- `predict(fx)` -/
def callPredictor (fx : Record) : Run P PredictorOutcome := fun s =>
  let answer := predict fx s.predictor
  .ok answer.1 { s with predictor := answer.2, called := s.called ++ [fx] }

/-- `print(f"accuracy: fixture {fixture_id}: …", file=sys.stderr)` -/
def printLine (fx : Record) (text : PyStr) : Run P Unit :=
  modify fun s => { s with
    stderr := s.stderr ++ [py "accuracy: fixture " ++
      libs.format ((lookupField fx "fixture_id").getD (.str (py "?"))) ++ py ": " ++ text] }

/-- A scorer raises its `ValidationError`. -/
def liftScorer {α : Type} : Except (List ErrorDetails) α → Run P α
  | .ok a => pure a
  | .error errors => throw (.validationError errors)

def skipFixture (fx : Record) (reason message : PyStr) : Run P Unit := do
  printLine libs fx (py "skipped (" ++ reason ++ py "): " ++ message)
  modify fun s => { s with skipped := s.skipped + 1 }

/-- The two branches of a failed extraction. -/
def failFixture (p : Prepared) (text : PyStr) (costs : List ℚ) : Run P Unit := do
  printLine libs p.fx text
  let outcomes ← liftScorer (scoreFailed libs p.cls p.expected)
  modify fun s =>
    { s with
      scored := s.scored ++ [outcomes]
      failures := s.failures + 1
      failedCosts := s.failedCosts ++ costs }

/-- The body of the loop. -/
def scoreFixture (p : Prepared) : Run P Unit := do
  match ← callPredictor predict p.fx with
  | .controlPlaneRejection message => skipFixture libs p.fx (py "control-plane") message
  | .requestNotSent message => skipFixture libs p.fx (py "request not sent") message
  | .predictionFailed message costUsd =>
      failFixture libs p (py "prediction failed: " ++ message) costUsd.toList
  | .prediction answer =>
      modify fun s => { s with resolvedProvider := answer.provider }
      match scoreRecord libs p.cls answer.record p.expected with
      | .error errors =>
          failFixture libs p (py "prediction failed: schema-invalid record (" ++
            decimal errors.length ++ py " validation error(s))") [answer.costUsd]
      | .ok outcomes =>
          modify fun s =>
            { s with
              scored := s.scored ++ [outcomes]
              costs := s.costs ++ [answer.costUsd]
              latencies := s.latencies ++ [answer.latencyMs] }

def scoreAll : List Prepared → Run P Unit
  | [] => pure ()
  | p :: prepared => do
      scoreFixture libs predict p
      scoreAll prepared

variable (docType provider : PyStr)

/-- `run_accuracy` on an injected fixture list. -/
def runAccuracy (fixtures : List Record) : Run P AccuracyReport := do
  match preflightFixtures libs docType fixtures with
  | .error message => throw (.valueError message)
  | .ok prepared =>
      scoreAll libs predict prepared
      let s ← get
      return aggregate docType s.resolvedProvider s.scored s.costs s.latencies s.failures s.skipped
        s.failedCosts

/-- The variables before the loop; the selected provider is the label until a server names
    one. -/
def RunState.start (provider : PyStr) (memory : P) : RunState P where
  predictor := memory
  resolvedProvider := provider

end Loop

/-! ## Contributions -/

/-- What one fixture adds to the variables of the run. -/
structure Contribution where
  scored : List (List (PyStr × FieldOutcome)) := []
  costs : List ℚ := []
  failedCosts : List ℚ := []
  latencies : List ℚ := []
  failures : ℕ := 0
  skipped : ℕ := 0
  providers : List PyStr := []

section Contribution

variable (libs : HarnessLibs M)

/-- The canonical label. -/
def label (p : Prepared) : Record :=
  match canonical libs p.cls p.expected with
  | .ok fields => fields
  | .error _ => []

/-- The outcomes of a failed extraction. -/
def failedOutcomes (p : Prepared) : List (PyStr × FieldOutcome) :=
  (label libs p).map fun field => (field.1, if field.2.isNull then .failedNull else .missed)

/-- The outcomes of a record, given its canonical form. -/
def recordOutcomes (p : Prepared) (pred : Record) : List (PyStr × FieldOutcome) :=
  (label libs p).map fun field =>
    (field.1, fieldOutcome (((Json.obj pred).get? field.1).getD .null) field.2)

def contribution (p : Prepared) : PredictorOutcome → Contribution
  | .controlPlaneRejection _ | .requestNotSent _ => { skipped := 1 }
  | .predictionFailed _ costUsd =>
      { scored := [failedOutcomes libs p], failedCosts := costUsd.toList, failures := 1 }
  | .prediction answer =>
      match canonical libs p.cls answer.record with
      | .error _ =>
          { scored := [failedOutcomes libs p]
            failedCosts := [answer.costUsd]
            failures := 1
            providers := [answer.provider] }
      | .ok pred =>
          { scored := [recordOutcomes libs p pred]
            costs := [answer.costUsd]
            latencies := [answer.latencyMs]
            providers := [answer.provider] }

variable {libs} {p : Prepared} {fields : Record}

theorem contribution_of_invalid {answer : Prediction} {errors : List ErrorDetails}
    (h : canonical libs p.cls answer.record = .error errors) :
    contribution libs p (.prediction answer) =
      { scored := [failedOutcomes libs p]
        failedCosts := [answer.costUsd]
        failures := 1
        providers := [answer.provider] } := by
  simp [contribution, h]

theorem contribution_of_valid {answer : Prediction} {pred : Record}
    (h : canonical libs p.cls answer.record = .ok pred) :
    contribution libs p (.prediction answer) =
      { scored := [recordOutcomes libs p pred]
        costs := [answer.costUsd]
        latencies := [answer.latencyMs]
        providers := [answer.provider] } := by
  simp [contribution, h]

theorem label_of_canonical (h : canonical libs p.cls p.expected = .ok fields) :
    label libs p = fields := by
  simp [label, h]

theorem scoreFailed_of_canonical (h : canonical libs p.cls p.expected = .ok fields) :
    scoreFailed libs p.cls p.expected = .ok (failedOutcomes libs p) := by
  rw [scoreFailed, h, failedOutcomes, label_of_canonical h]
  rfl

/-- With a preflighted label, `score_record` raises for the prediction only. -/
theorem scoreRecord_of_canonical (h : canonical libs p.cls p.expected = .ok fields)
    (predicted : Record) :
    scoreRecord libs p.cls predicted p.expected =
      (canonical libs p.cls predicted).map (recordOutcomes libs p) := by
  unfold scoreRecord
  rcases canonical libs p.cls predicted with errors | pred
  · rfl
  · rw [h]
    show Except.ok _ = Except.ok (recordOutcomes libs p pred)
    rw [recordOutcomes, label_of_canonical h]

end Contribution

/-! ## Runs -/

/-- From `s` to `s'`, the run has gained the contributions. -/
structure Gains (s s' : RunState P) (cs : List Contribution) : Prop where
  scored : s'.scored = s.scored ++ cs.flatMap Contribution.scored
  costs : s'.costs = s.costs ++ cs.flatMap Contribution.costs
  failedCosts : s'.failedCosts = s.failedCosts ++ cs.flatMap Contribution.failedCosts
  latencies : s'.latencies = s.latencies ++ cs.flatMap Contribution.latencies
  failures : s'.failures = s.failures + (cs.map Contribution.failures).sum
  skipped : s'.skipped = s.skipped + (cs.map Contribution.skipped).sum
  resolvedProvider : s'.resolvedProvider =
    (cs.flatMap Contribution.providers).getLastD s.resolvedProvider

theorem Gains.refl (s : RunState P) : Gains s s [] where
  scored := (List.append_nil _).symm
  costs := (List.append_nil _).symm
  failedCosts := (List.append_nil _).symm
  latencies := (List.append_nil _).symm
  failures := rfl
  skipped := rfl
  resolvedProvider := rfl

theorem Gains.trans {s s' s'' : RunState P} {cs cs' : List Contribution} (h : Gains s s' cs)
    (h' : Gains s' s'' cs') : Gains s s'' (cs ++ cs') where
  scored := by rw [h'.scored, h.scored, List.flatMap_append, List.append_assoc]
  costs := by rw [h'.costs, h.costs, List.flatMap_append, List.append_assoc]
  failedCosts := by rw [h'.failedCosts, h.failedCosts, List.flatMap_append, List.append_assoc]
  latencies := by rw [h'.latencies, h.latencies, List.flatMap_append, List.append_assoc]
  failures := by rw [h'.failures, h.failures, List.map_append, List.sum_append, Nat.add_assoc]
  skipped := by rw [h'.skipped, h.skipped, List.map_append, List.sum_append, Nat.add_assoc]
  resolvedProvider := by
    rw [h'.resolvedProvider, h.resolvedProvider, List.flatMap_append, List.getLastD_eq_getLast?,
      List.getLastD_eq_getLast?, List.getLastD_eq_getLast?, List.getLast?_append,
      Option.getD_or]

section Runs

variable (libs : HarnessLibs M) (predict : Predictor P)

/-- The outcomes of the calls, in order. -/
def runOutcomes : P → List Record → List PredictorOutcome
  | _, [] => []
  | memory, fx :: fixtures =>
      (predict fx memory).1 :: runOutcomes (predict fx memory).2 fixtures

/-- What the predictor remembers after the calls. -/
def runMemory : P → List Record → P
  | memory, [] => memory
  | memory, fx :: fixtures => runMemory (predict fx memory).2 fixtures

theorem length_runOutcomes (memory : P) (fixtures : List Record) :
    (runOutcomes predict memory fixtures).length = fixtures.length := by
  induction fixtures generalizing memory with
  | nil => rfl
  | cons fx fixtures ih => exact congrArg (· + 1) (ih _)

/-- What the fixtures of a run contribute. -/
def contributions (memory : P) (prepared : List Prepared) : List Contribution :=
  List.zipWith (contribution libs) prepared (runOutcomes predict memory (prepared.map Prepared.fx))

variable {p : Prepared} {fields : Record}

theorem run_failFixture (h : canonical libs p.cls p.expected = .ok fields) (text : PyStr)
    (costs : List ℚ) (s : RunState P) :
    ∃ stderr, (failFixture libs p text costs).run s = .ok () { s with
      stderr := stderr
      scored := s.scored ++ [failedOutcomes libs p]
      failures := s.failures + 1
      failedCosts := s.failedCosts ++ costs } := by
  simp [failFixture, printLine, scoreFailed_of_canonical h, liftScorer]

theorem run_skipFixture (fx : Record) (reason message : PyStr) (s : RunState P) :
    ∃ stderr, (skipFixture libs fx reason message).run s =
      .ok () { s with stderr := stderr, skipped := s.skipped + 1 } := by
  simp [skipFixture, printLine]

/-- **One step of the loop**: one call, and the contribution of its outcome; nothing is
    raised. -/
theorem run_scoreFixture (h : canonical libs p.cls p.expected = .ok fields) (s : RunState P) :
    ∃ s', (scoreFixture libs predict p).run s = .ok () s' ∧
      s'.predictor = (predict p.fx s.predictor).2 ∧ s'.called = s.called ++ [p.fx] ∧
      Gains s s' [contribution libs p (predict p.fx s.predictor).1] := by
  let asked : RunState P := { s with
    predictor := (predict p.fx s.predictor).2
    called := s.called ++ [p.fx] }
  have hcall : (callPredictor predict p.fx).run s = .ok (predict p.fx s.predictor).1 asked := rfl
  simp only [scoreFixture, EStateM.run_bind, hcall]
  rcases houtcome : (predict p.fx s.predictor).1 with
    answer | ⟨message, costUsd⟩ | message | message
  · simp only [contribution, EStateM.run_bind, EStateM.run_modify,
      scoreRecord_of_canonical h answer.record]
    rcases canonical libs p.cls answer.record with errors | pred
    · obtain ⟨stderr, hrun⟩ := run_failFixture libs h
        (py "prediction failed: schema-invalid record (" ++ decimal errors.length ++
          py " validation error(s))") [answer.costUsd]
        { asked with resolvedProvider := answer.provider }
      refine ⟨_, hrun, rfl, rfl, ?_⟩
      constructor <;> simp [asked]
    · refine ⟨_, rfl, rfl, rfl, ?_⟩
      constructor <;> simp [asked]
  · obtain ⟨stderr, hrun⟩ := run_failFixture libs h (py "prediction failed: " ++ message)
      costUsd.toList asked
    refine ⟨_, hrun, rfl, rfl, ?_⟩
    constructor <;> simp [asked, contribution]
  · obtain ⟨stderr, hrun⟩ :=
      run_skipFixture libs p.fx (py "control-plane") message asked
    refine ⟨_, hrun, rfl, rfl, ?_⟩
    constructor <;> simp [asked, contribution]
  · obtain ⟨stderr, hrun⟩ :=
      run_skipFixture libs p.fx (py "request not sent") message asked
    refine ⟨_, hrun, rfl, rfl, ?_⟩
    constructor <;> simp [asked, contribution]

/-- **The whole loop**: one call for each fixture, in order, and all contributions. -/
theorem run_scoreAll (prepared : List Prepared) :
    ∀ s : RunState P, (∀ p ∈ prepared, ∃ fields, canonical libs p.cls p.expected = .ok fields) →
      ∃ s', (scoreAll libs predict prepared).run s = .ok () s' ∧
        s'.called = s.called ++ prepared.map Prepared.fx ∧
        s'.predictor = runMemory predict s.predictor (prepared.map Prepared.fx) ∧
        Gains s s' (contributions libs predict s.predictor prepared) := by
  induction prepared with
  | nil =>
    intro s _
    exact ⟨s, rfl, (List.append_nil _).symm, rfl, Gains.refl s⟩
  | cons p prepared ih =>
    intro s hvalid
    obtain ⟨fields, hfields⟩ := hvalid p List.mem_cons_self
    obtain ⟨s', hstep, hmemory, hcalled, hgains⟩ :=
      run_scoreFixture libs predict hfields s
    obtain ⟨s'', hrest, hcalled', hmemory', hgains'⟩ :=
      ih s' fun q hq => hvalid q (List.mem_cons_of_mem _ hq)
    refine ⟨s'', ?_, ?_, ?_, ?_⟩
    · rw [scoreAll, EStateM.run_bind, hstep]
      exact hrest
    · rw [hcalled', hcalled, List.map_cons, List.append_assoc]
      rfl
    · rw [hmemory', hmemory]
      rfl
    · rw [hmemory] at hgains'
      exact hgains.trans hgains'

/-- The report of contributions. -/
def reportOf (docType provider : PyStr) (cs : List Contribution) : AccuracyReport :=
  aggregate docType ((cs.flatMap Contribution.providers).getLastD provider)
    (cs.flatMap Contribution.scored) (cs.flatMap Contribution.costs)
    (cs.flatMap Contribution.latencies)
    (cs.map Contribution.failures).sum (cs.map Contribution.skipped).sum
    (cs.flatMap Contribution.failedCosts)

/-- **A run over a preflighted corpus returns the report of its contributions.** -/
theorem run_runAccuracy {docType : PyStr} {fixtures : List Record} {prepared : List Prepared}
    (hpreflight : preflightFixtures libs docType fixtures = .ok prepared) (provider : PyStr)
    (memory : P) :
    ∃ s, (runAccuracy libs predict docType fixtures).run (.start provider memory) =
        .ok (reportOf docType provider (contributions libs predict memory prepared)) s ∧
      s.called = fixtures ∧ s.predictor = runMemory predict memory fixtures ∧
      Gains (.start provider memory) s (contributions libs predict memory prepared) := by
  have hpasses := preflightFixtures_eq_ok_iff.mp hpreflight
  obtain ⟨s, hrun, hcalled, hmemory, hgains⟩ :=
    run_scoreAll libs predict prepared (.start provider memory)
      (valid_of_passes hpasses)
  rw [map_fx_of_passes hpasses] at hcalled hmemory
  refine ⟨s, ?_, hcalled, hmemory, hgains⟩
  simp only [runAccuracy, hpreflight, EStateM.run_bind, hrun, EStateM.run_get]
  have hprovider := hgains.resolvedProvider
  show EStateM.Result.ok _ s = EStateM.Result.ok _ s
  rw [reportOf, hgains.scored, hgains.costs, hgains.latencies, hgains.failures, hgains.skipped,
    hgains.failedCosts, hprovider]
  simp [RunState.start]

theorem run_runAccuracy_of_rejected {docType message : PyStr} {fixtures : List Record}
    (hpreflight : preflightFixtures libs docType fixtures = .error message) (s : RunState P) :
    (runAccuracy libs predict docType fixtures).run s = .error (.valueError message) s := by
  simp only [runAccuracy, hpreflight]
  rfl

end Runs

/-! ## A sample corpus -/

/-- `json.dumps` of the sample invoice. -/
def invoiceDumps : PyStr :=
  py "\x7b\"invoice_number\": \"1\", \"issue_date\": \"2026-01-01\", \"due_date\": null, " ++
    py "\"currency\": \"GBP\", \"subtotal_minor\": 1, \"tax_minor\": null, " ++
    py "\"total_minor\": 1, \"vendor_name\": \"V\", \"vendor_tax_id\": null, " ++
    py "\"buyer_name\": null, \"line_items\": null\x7d"

/-- The strict models, on the two records of the samples: the invoice and the empty object. -/
def sampleValidate (cls : ModelClass) (text : PyStr) : Except (List ErrorDetails) Unit :=
  if cls = .InvoiceV1 ∧ text = invoiceDumps then .ok ()
  else .error [⟨[.key (py "invoice_number")], py "missing", py "Field required", .obj []⟩]

/-- The libraries, on these records. -/
def sampleHarnessLibs : HarnessLibs Unit where
  toLibraries := { sampleLibs with
    model cls :=
      { jsonSchema := .obj []
        validate := sampleValidate cls
        dump _ :=
          match cls with
          | .InvoiceV1 => invoiceData
          | .JobPostingV1 => (FIELDS .JobPostingV1).map fun field => (field, .null) } }
  jsonDumps
    | .obj [] => py "\x7b\x7d"
    | _ => invoiceDumps
  format
    | .str text => text
    | _ => []
  repr
    | .str text => pyRepr (fun _ => true) text
    | _ => []
  dump_keys cls _ := by
    cases cls
    · rfl
    · simp [Function.comp_def]

/-- A fixture with the sample invoice as its label. -/
def sampleFixture (fixtureId : String) : Record :=
  [(py "fixture_id", .str (py fixtureId)), (py "doc_type", .str (py "invoice")),
    (py "schema_version", .str (py "v1")), (py "source", .str (py "synthetic")),
    (py "label_status", .str (py "REVIEWED")), (py "content", .str (py "Invoice 1")),
    (py "expected", .obj invoiceData)]

/-- The sample fixture, preflighted. -/
def samplePrepared (fixtureId : String) : Prepared :=
  ⟨sampleFixture fixtureId, .InvoiceV1, invoiceData⟩

theorem sampleHarnessLibs_validate (cls : ModelClass) (text : PyStr) :
    (sampleHarnessLibs.model cls).validate text = sampleValidate cls text := rfl

theorem canonical_invoiceData :
    canonical sampleHarnessLibs .InvoiceV1 invoiceData = .ok invoiceData := by
  have hdumps : sampleHarnessLibs.jsonDumps (.obj invoiceData) = invoiceDumps := rfl
  rw [canonical, hdumps, sampleHarnessLibs_validate, sampleValidate, if_pos ⟨rfl, rfl⟩]
  rfl

theorem sampleFixture_passes (fixtureId : String) :
    Passes sampleHarnessLibs (py "invoice") (sampleFixture fixtureId)
      (samplePrepared fixtureId) where
  keeps := rfl
  typed := rfl
  filled := by decide
  versioned := ⟨py "v1", rfl, by decide, rfl⟩
  hasContent := ⟨py "Invoice 1", rfl, by decide⟩
  labelled := rfl
  valid := ⟨invoiceData, canonical_invoiceData⟩

/-- A prediction of the sample invoice. -/
def samplePrediction (provider : String) : Prediction where
  record := invoiceData
  costUsd := 1
  latencyMs := 1
  provider := py provider

/-- A predictor that always answers with the sample invoice. -/
def samplePredict : Predictor Unit := fun _ _ => (.prediction (samplePrediction "openai"), ())

theorem preflight_sampleFixture (fixtureId : String) :
    preflightFixtures sampleHarnessLibs (py "invoice") [sampleFixture fixtureId] =
      .ok [samplePrepared fixtureId] :=
  preflightFixtures_eq_ok_iff.mpr (.cons (sampleFixture_passes fixtureId) .nil)

/-- A corpus of four. -/
def sampleIds : List String := ["a", "b", "c", "d"]

/-- A predictor that answers, fails at an unknown cost, is refused, and answers again. -/
def mixedPredict : Predictor ℕ := fun _ n =>
  match n with
  | 1 => (.predictionFailed (py "request timed out") none, n + 1)
  | 2 => (.controlPlaneRejection (py "budget_exceeded"), n + 1)
  | _ => (.prediction (samplePrediction "openai"), n + 1)

theorem preflight_sampleFixtures (fixtureIds : List String) :
    preflightFixtures sampleHarnessLibs (py "invoice") (fixtureIds.map sampleFixture) =
      .ok (fixtureIds.map samplePrepared) := by
  rw [preflightFixtures_eq_ok_iff, List.forall₂_map_left_iff, List.forall₂_map_right_iff,
    List.forall₂_same]
  exact fun fixtureId _ => sampleFixture_passes fixtureId

end ExtractApi
