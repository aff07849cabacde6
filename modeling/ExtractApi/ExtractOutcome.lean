import ExtractApi.ErrorHandlers
import ExtractApi.ExtractFlow
import ExtractApi.RetryContract

/-!
# What one extraction does

`preflight` is everything `_run_extract` decides before the first provider call, as a
pure function of the request, its surroundings and the budget.  Past it, the way the
client's script ends (`ScriptEnd`) decides the outcome, the calls made, the amount
charged to the budget and the cost noted for the access line: `runExtract_of_preflight_ok`
is the one description that the results about budgets, logs and keys are read from.
-/

namespace ExtractApi

open PythonText JsonValue RaisingProgram

variable {S M : Type}

/-! ## Before and after -/

/-- The access lines of a log. -/
def accessLines (log : List LogRecord) : List LogRecord :=
  log.filter fun record => decide (record.logger = "extract.access")

theorem accessLines_append_of_ne {log : List LogRecord} {record : LogRecord}
    (h : record.logger ≠ "extract.access") :
    accessLines (log ++ [record]) = accessLines log := by
  simp [accessLines, h]

/-- A noted fact of the current request. -/
def World.fact (w : World S) (key : String) : Option Json :=
  w.facts.bind fun bag => AList.lookup key bag

/-- What the pipeline cannot change: everything but the calls, the log lines that are
    not access lines, and the facts other than the cost. -/
def World.ledger (w : World S) :
    BudgetGuard × S × List LogRecord × Option Json × Bool :=
  (w.budget, w.store, accessLines w.log, w.fact "cost_usd", w.facts.isSome)

/-- From `w` to `w'`: the calls made, the amount charged, and the cost noted if any. -/
structure Aftermath (w w' : World S) (made : List ProviderCall) (charged : ℚ)
    (noted : Option ℚ) : Prop where
  budget : w'.budget = w.budget.charge charged
  store : w'.store = w.store
  calls : w'.calls = w.calls ++ made
  access : accessLines w'.log = accessLines w.log
  cost : w'.fact "cost_usd" = match noted with
    | none => w.fact "cost_usd"
    | some cost => w.facts.map fun _ => .float cost
  inRequest : w'.facts.isSome = w.facts.isSome

@[simp] theorem BudgetGuard.charge_zero (b : BudgetGuard) : b.charge 0 = b := by
  simp [BudgetGuard.charge]

theorem Aftermath.of_ledger {w w' : World S} {made : List ProviderCall}
    (hledger : w'.ledger = w.ledger) (hcalls : w'.calls = w.calls ++ made) :
    Aftermath w w' made 0 none := by
  simp only [World.ledger, Prod.mk.injEq] at hledger
  obtain ⟨hbudget, hstore, haccess, hcost, hin⟩ := hledger
  exact ⟨by rw [hbudget, BudgetGuard.charge_zero], hstore, hcalls, haccess, hcost, hin⟩

theorem ledger_log (w : World S) {log : List LogRecord}
    (h : accessLines log = accessLines w.log) : World.ledger { w with log := log } = w.ledger := by
  simp [World.ledger, World.fact, h]

theorem Aftermath.refl (w : World S) : Aftermath w w [] 0 none :=
  Aftermath.of_ledger rfl (by simp)

/-- Calls that charge nothing, followed by a step that makes none. -/
theorem Aftermath.trans {w w' w'' : World S} {made made' : List ProviderCall} {charged : ℚ}
    {noted : Option ℚ} (h : Aftermath w w' made 0 none)
    (h' : Aftermath w' w'' made' charged noted) :
    Aftermath w w'' (made ++ made') charged noted where
  budget := by rw [h'.budget, h.budget, BudgetGuard.charge_zero]
  store := h'.store.trans h.store
  calls := by rw [h'.calls, h.calls, List.append_assoc]
  access := h'.access.trans h.access
  cost := by
    rw [h'.cost]
    cases noted with
    | none => exact h.cost
    | some cost =>
      have hin := h.inRequest
      cases hw : w.facts <;> cases hw' : w'.facts <;> simp_all
  inRequest := h'.inRequest.trans h.inRequest

/-! ## The parts -/

theorem ledger_note {w : World S} {entries : List (String × Json)}
    (h : ∀ entry ∈ entries, entry.1 ≠ "cost_usd") :
    World.ledger { w with facts := w.facts.map fun bag => bag.update entries } = w.ledger := by
  cases hfacts : w.facts with
  | none => simp [World.ledger, World.fact, hfacts]
  | some bag => simp [World.ledger, World.fact, hfacts, Facts.lookup_update_of_not_mem h]

theorem aftermath_noteClient (client : LLMClient) (w : World S) :
    ∃ w', (noteClient client).run w = .ok () w' ∧ Aftermath w w' [] 0 none := by
  refine ⟨_, rfl, Aftermath.of_ledger (ledger_note fun entry hentry => ?_) (by simp)⟩
  simp only [List.mem_cons, List.not_mem_nil, or_false] at hentry
  rcases hentry with rfl | rfl | rfl <;> simp

theorem aftermath_charge (w : World S) (cost : ℚ) (entries : List (String × Json))
    (log : List LogRecord) (haccess : accessLines log = accessLines w.log) :
    Aftermath w
      { w with
        budget := w.budget.charge cost
        facts := w.facts.map fun bag => bag.update (entries ++ [("cost_usd", .float cost)])
        log := log } [] cost (some cost) where
  budget := rfl
  store := rfl
  calls := by simp
  access := haccess
  cost := by
    cases w.facts with
    | none => simp [World.fact]
    | some bag =>
      simp only [World.fact, Option.map_some, Option.bind_some, Facts.update,
        List.foldl_append, List.foldl_cons, List.foldl_nil, AList.lookup_insert]
  inRequest := by simp

/-- The taxonomy error of a provider failure. -/
def providerFailure (e : ProviderError) : ExtractError :=
  if e.kind = .timeout then providerTimedOut e else providerFailed e

theorem mapFailure_providerError {α : Type} (e : ProviderError) (w : World S) :
    ∃ w', (mapFailure (α := α) (.providerError e)).run w =
        .error (.extractError (providerFailure e)) w' ∧
      Aftermath w w' [] e.costUsd (some e.costUsd) := by
  by_cases htimeout : e.kind = .timeout
  · refine ⟨_, ?_, aftermath_charge w e.costUsd []
      (w.log ++ [providerFailureRecord "provider timeout (%s, %s)" e])
      (accessLines_append_of_ne (by simp [providerFailureRecord]))⟩
    simp [mapFailure, htimeout, BudgetGuard.add, note, emit, providerFailure]
  · refine ⟨_, ?_, aftermath_charge w e.costUsd []
      (w.log ++ [providerFailureRecord "provider error (%s, %s)" e])
      (accessLines_append_of_ne (by simp [providerFailureRecord]))⟩
    simp [mapFailure, htimeout, BudgetGuard.add, note, emit, providerFailure]

theorem mapFailure_extractionFailed {α : Type} (e : ExtractionFailed) (w : World S) :
    ∃ w', (mapFailure (α := α) (.extractionFailed e)).run w =
        .error (.extractError (extractionRejected e)) w' ∧
      Aftermath w w' [] e.costUsd (some e.costUsd) :=
  ⟨_, rfl, aftermath_charge w e.costUsd [("attempts", .int e.attempts)] w.log rfl⟩

theorem quiet_ledger : Quiet (World.ledger (S := S)) where
  logged w _ h := ledger_log w (accessLines_append_of_ne h)
  noted _ _ h := ledger_note h

/-- The retry loop makes the calls its script's end says and changes nothing else here. -/
theorem aftermath_runExtraction {client : LLMClient} {model : StrictModel M} {n : ℕ}
    {e : ScriptEnd M} (h : EndsAs client model n e) (system content : PyStr) (maxTokens : ℕ)
    (w : World S) :
    ∃ w', (runExtraction client model system content maxTokens n .noteRetry).run w =
        e.outcome client model n w' ∧
      Aftermath w w' (callsThrough client model system content maxTokens (e.calls n)) 0 none := by
  obtain ⟨w', hcalls, hrun⟩ := runExtraction_of_endsAs system content maxTokens
    (RetryObserver.noteRetry (S := S)) w h
  refine ⟨w', hrun, Aftermath.of_ledger ?_ hcalls⟩
  have hkeeps : Keeps World.ledger
      (runExtraction (S := S) client model system content maxTokens n .noteRetry) :=
    attemptLoop_keeps (fun _ _ => rfl)
      (fun w attempt summary =>
        ledger_log w (accessLines_append_of_ne (by simp [rejectionRecord])))
      (fun kinds => quiet_ledger.note (by simp)) _ _
  have hfinal := hkeeps w
  rw [hrun] at hfinal
  cases e <;> exact hfinal

/-! ## Before the first call -/

section Flow

variable (libs : Libraries M) (env : Surroundings S)

/-- What `_run_extract` decides before it calls the provider. -/
def preflight (request : ExtractRequest) (budget : BudgetGuard) :
    Except PyExc (ModelClass × PyStr × LLMClient) :=
  match resolve libs request.docType.value request.schemaVersion,
      resolveContent libs.pymupdfOpen request with
  | .error exc, _ => .error exc
  | .ok _, .error e => .error (.extractError e)
  | .ok modelCls, .ok content =>
      if strip content = [] then .error (.extractError emptyContent)
      else if budget.passes budget.spent = false then .error (.extractError budgetExceeded)
      else (env.getClient request.provider).map fun client => (modelCls, content, client)

variable {libs env}

section Preflight

variable (libs env) (request : ExtractRequest) (budget : BudgetGuard)

/-- Everything that `preflight` looks at is in order. -/
structure Cleared (modelCls : ModelClass) (content : PyStr) (client : LLMClient) : Prop where
  schema : resolve libs request.docType.value request.schemaVersion = .ok modelCls
  text : resolveContent libs.pymupdfOpen request = .ok content
  notBlank : strip content ≠ []
  passes : budget.passes budget.spent = true
  client : env.getClient request.provider = .ok client

/-- The first thing that is not in order, after those that are. -/
inductive StoppedBy : PyExc → Prop
  | schema {exc : PyExc} :
      resolve libs request.docType.value request.schemaVersion = .error exc → StoppedBy exc
  | content {modelCls : ModelClass} {e : ExtractError} :
      resolve libs request.docType.value request.schemaVersion = .ok modelCls →
      resolveContent libs.pymupdfOpen request = .error e → StoppedBy (.extractError e)
  | blank {modelCls : ModelClass} {content : PyStr} :
      resolve libs request.docType.value request.schemaVersion = .ok modelCls →
      resolveContent libs.pymupdfOpen request = .ok content → strip content = [] →
      StoppedBy (.extractError emptyContent)
  | budget {modelCls : ModelClass} {content : PyStr} :
      resolve libs request.docType.value request.schemaVersion = .ok modelCls →
      resolveContent libs.pymupdfOpen request = .ok content → strip content ≠ [] →
      budget.passes budget.spent = false → StoppedBy (.extractError budgetExceeded)
  | client {modelCls : ModelClass} {content : PyStr} {exc : PyExc} :
      resolve libs request.docType.value request.schemaVersion = .ok modelCls →
      resolveContent libs.pymupdfOpen request = .ok content → strip content ≠ [] →
      budget.passes budget.spent = true → env.getClient request.provider = .error exc →
      StoppedBy exc

variable {libs env request budget}

theorem Cleared.preflight_eq {modelCls : ModelClass} {content : PyStr} {client : LLMClient}
    (h : Cleared libs env request budget modelCls content client) :
    preflight libs env request budget = .ok (modelCls, content, client) := by
  rw [preflight, h.schema, h.text]
  simp only
  rw [if_neg h.notBlank, if_neg (by simp [h.passes]), h.client]
  rfl

/-- **`preflight` finds everything in order, or raises for the first thing that is not.** -/
theorem preflight_cases (libs : Libraries M) (env : Surroundings S) (request : ExtractRequest)
    (budget : BudgetGuard) :
    (∃ modelCls content client, Cleared libs env request budget modelCls content client) ∨
      ∃ exc, preflight libs env request budget = .error exc ∧
        StoppedBy libs env request budget exc := by
  rw [preflight]
  rcases hcls : resolve libs request.docType.value request.schemaVersion with exc | modelCls
  · exact .inr ⟨exc, rfl, .schema hcls⟩
  · rcases hcontent : resolveContent libs.pymupdfOpen request with e | content
    · exact .inr ⟨_, rfl, .content hcls hcontent⟩
    · by_cases hblank : strip content = []
      · exact .inr ⟨_, if_pos hblank, .blank hcls hcontent hblank⟩
      · simp only [if_neg hblank]
        rcases hpasses : budget.passes budget.spent with _ | _
        · exact .inr ⟨_, rfl, .budget hcls hcontent hblank hpasses⟩
        · rcases hclient : env.getClient request.provider with exc | client
          · exact .inr ⟨exc, rfl, .client hcls hcontent hblank hpasses hclient⟩
          · exact .inl ⟨modelCls, content, client, hcls, hcontent, hblank, hpasses, hclient⟩

theorem preflight_eq_ok_iff {modelCls : ModelClass} {content : PyStr} {client : LLMClient} :
    preflight libs env request budget = .ok (modelCls, content, client) ↔
      Cleared libs env request budget modelCls content client := by
  constructor
  · intro h
    obtain ⟨_, _, _, hcleared⟩ | ⟨exc, hexc, -⟩ :=
      preflight_cases libs env request budget
    · rw [hcleared.preflight_eq] at h
      cases h
      exact hcleared
    · rw [hexc] at h
      cases h
  · intro h
    exact h.preflight_eq

theorem stoppedBy_of_preflight_error {exc : PyExc}
    (h : preflight libs env request budget = .error exc) :
    StoppedBy libs env request budget exc := by
  obtain ⟨_, _, _, hcleared⟩ | ⟨exc', hexc, hstopped⟩ :=
    preflight_cases libs env request budget
  · rw [hcleared.preflight_eq] at h
    cases h
  · rw [hexc] at h
    cases h
    exact hstopped

end Preflight

theorem runExtract_of_preflight_error {request : ExtractRequest} {w : World S} {exc : PyExc}
    (h : preflight libs env request w.budget = .error exc) :
    ∃ w', (runExtract libs env request).run w = .error exc w' ∧ Aftermath w w' [] 0 none := by
  cases stoppedBy_of_preflight_error h with
  | schema hcls => exact ⟨w, by simp [runExtract, liftExcept, hcls], Aftermath.refl w⟩
  | content hcls hcontent =>
    exact ⟨w, by simp [runExtract, liftExcept, hcls, hcontent, Except.mapError],
      Aftermath.refl w⟩
  | blank hcls hcontent hblank =>
    exact ⟨w, by simp [runExtract, liftExcept, hcls, hcontent, Except.mapError, hblank],
      Aftermath.refl w⟩
  | budget hcls hcontent hblank hpasses =>
    refine ⟨{ w with
      log := w.log ++ [budgetExceededRecord w.budget.spent w.budget.cap] }, ?_,
      Aftermath.of_ledger (ledger_log w (accessLines_append_of_ne ?_)) (by simp)⟩
    · simp [runExtract, liftExcept, hcls, hcontent, Except.mapError, hblank,
        BudgetGuard.check_of_not_passes hpasses]
    · simp [budgetExceededRecord]
  | client hcls hcontent hblank hpasses hclient =>
    exact ⟨w, by simp [runExtract, liftExcept, hcls, hcontent, Except.mapError, hblank,
      BudgetGuard.check_of_passes hpasses, hclient], Aftermath.refl w⟩

/-! ## The outcome -/

/-- The amount charged to the budget, by the way the script ends. -/
def ScriptEnd.charged (client : LLMClient) (n : ℕ) : ScriptEnd M → ℚ
  | .exhausted => client.total CallOutcome.ownCost n
  | .accepted k _ _ => client.total CallOutcome.ownCost k
  | .raised k error => error.costUsd + client.total CallOutcome.ownCost (k - 1)
  | .crashed _ _ => 0

/-- The cost noted before the flow returns or raises; a returned response is noted later. -/
def ScriptEnd.noted (client : LLMClient) (n : ℕ) (e : ScriptEnd M) : Option ℚ :=
  match e with
  | .exhausted | .raised _ _ => some (e.charged client n)
  | .accepted _ _ _ | .crashed _ _ => none

/-- The outcome of the flow, by the way the script ends. -/
def ScriptEnd.answer (request : ExtractRequest) (client : LLMClient) (model : StrictModel M)
    (n : ℕ) : ScriptEnd M → Except PyExc ExtractResponse
  | .exhausted => .error (.extractError (extractionRejected
      { attempts := n
        trail := (List.range' 1 n).map (trailEntry client model)
        costUsd := client.total CallOutcome.ownCost n }))
  | .accepted k result value =>
      .ok (buildResponse request client (model.dump value) (reportedResult client k result) k)
  | .raised _ error => .error (.extractError (providerFailure error))
  | .crashed _ className => .error (.other className)

/-- Past what `preflight` decides, an extraction is its client's note, the loop and the charge. -/
theorem runExtract_run_of_preflight_ok {request : ExtractRequest} {w : World S}
    {modelCls : ModelClass} {content : PyStr} {client : LLMClient}
    (h : preflight libs env request w.budget = .ok (modelCls, content, client)) :
    (runExtract libs env request).run w =
      (noteClient client >>= fun _ =>
        tryCatch (runExtraction client (libs.model modelCls)
          (buildSystemPrompt request.docType.value) content DEFAULT_MAX_TOKENS MAX_ATTEMPTS
          .noteRetry) mapFailure >>= fun accepted =>
        BudgetGuard.add accepted.2.1.costUsd >>= fun _ =>
        pure (buildResponse request client ((libs.model modelCls).dump accepted.1) accepted.2.1
          accepted.2.2)).run w := by
  obtain ⟨hcls, hcontent, hblank, hpasses, hclient⟩ := preflight_eq_ok_iff.mp h
  simp [runExtract, liftExcept, hcls, hcontent, Except.mapError, hblank,
    BudgetGuard.check_of_passes hpasses, hclient]

/-- Past `preflight`, a request is the retry loop, the charge and the response. -/
theorem run_runExtract {request : ExtractRequest} {w : World S} {modelCls : ModelClass}
    {content : PyStr} {client : LLMClient}
    (h : preflight libs env request w.budget = .ok (modelCls, content, client)) :
    ∃ w', Aftermath w w' [] 0 none ∧
      (runExtract libs env request).run w =
        (do
          let (model, result, attempts) ← tryCatch
            (runExtraction client (libs.model modelCls)
              (buildSystemPrompt request.docType.value) content DEFAULT_MAX_TOKENS
              MAX_ATTEMPTS .noteRetry) mapFailure
          BudgetGuard.add result.costUsd
          return buildResponse request client ((libs.model modelCls).dump model) result
            attempts : Service S ExtractResponse).run w' := by
  obtain ⟨w', hnote, hafter⟩ := aftermath_noteClient client w
  refine ⟨w', hafter, ?_⟩
  rw [runExtract_run_of_preflight_ok h, EStateM.run_bind, hnote]

/-- Past `preflight`, the end of the script decides everything. -/
theorem runExtract_of_preflight_ok {request : ExtractRequest} {w : World S}
    {modelCls : ModelClass} {content : PyStr} {client : LLMClient} {e : ScriptEnd M}
    (h : preflight libs env request w.budget = .ok (modelCls, content, client))
    (he : EndsAs client (libs.model modelCls) MAX_ATTEMPTS e) :
    ∃ w', (runExtract libs env request).run w =
        outcomeIn w' (e.answer request client (libs.model modelCls) MAX_ATTEMPTS) ∧
      Aftermath w w'
        (callsThrough client (libs.model modelCls) (buildSystemPrompt request.docType.value)
          content DEFAULT_MAX_TOKENS (e.calls MAX_ATTEMPTS))
        (e.charged client MAX_ATTEMPTS) (e.noted client MAX_ATTEMPTS) := by
  obtain ⟨w₁, hafter₁, hstart⟩ := run_runExtract h
  obtain ⟨w₂, hrun, hafter₂⟩ := aftermath_runExtraction he
    (buildSystemPrompt request.docType.value) content DEFAULT_MAX_TOKENS w₁
  have hafter := hafter₁.trans hafter₂
  rw [List.nil_append] at hafter
  rw [hstart]
  -- what the handler of each way to end adds to the state
  cases e with
  | accepted k result value =>
    refine ⟨{ w₂ with
      budget := w₂.budget.charge (client.total CallOutcome.ownCost k) }, ?_, ?_⟩
    · simp [hrun, ScriptEnd.outcome, BudgetGuard.add, reportedResult, ScriptEnd.answer,
        outcomeIn]
    · rw [← List.append_nil (callsThrough _ _ _ _ _ _)]
      exact hafter.trans ⟨rfl, rfl, by simp, rfl, rfl, rfl⟩
  | raised k error =>
    obtain ⟨w₃, hmap, hafter₃⟩ := mapFailure_providerError (α := M × CompletionResult × ℕ)
      { error with
        costUsd := error.costUsd + client.total CallOutcome.ownCost (k - 1) } w₂
    refine ⟨w₃, ?_, ?_⟩
    · simp [hrun, ScriptEnd.outcome, hmap, ScriptEnd.answer, outcomeIn]
      rfl
    · rw [← List.append_nil (callsThrough _ _ _ _ _ _)]
      exact hafter.trans hafter₃
  | exhausted =>
    obtain ⟨w₃, hmap, hafter₃⟩ :=
      mapFailure_extractionFailed (α := M × CompletionResult × ℕ)
        { attempts := MAX_ATTEMPTS
          trail := (List.range' 1 MAX_ATTEMPTS).map
            (trailEntry client (libs.model modelCls))
          costUsd := client.total CallOutcome.ownCost MAX_ATTEMPTS } w₂
    refine ⟨w₃, ?_, ?_⟩
    · simp [hrun, ScriptEnd.outcome, hmap, ScriptEnd.answer, outcomeIn]
    · rw [← List.append_nil (callsThrough _ _ _ _ _ _)]
      exact hafter.trans hafter₃
  | crashed k className =>
    refine ⟨w₂, ?_, hafter⟩
    simp [hrun, ScriptEnd.outcome, mapFailure, ScriptEnd.answer, outcomeIn]

/-- The outcome, the calls, the charge and the noted cost of an extraction depend on the
    state through the budget only. -/
theorem runExtract_spec (libs : Libraries M) (env : Surroundings S) (request : ExtractRequest)
    (budget : BudgetGuard) :
    ∃ answer made charged noted,
      (∀ w : World S, w.budget = budget → ∃ w',
        (runExtract libs env request).run w = outcomeIn w' answer ∧
          Aftermath w w' made charged noted) ∧
      ∀ response, answer = .ok response → response.extractMeta.replayed = false := by
  cases h : preflight libs env request budget with
  | error exc =>
    refine ⟨.error exc, [], 0, none, ?_, fun response hok => by cases hok⟩
    rintro w rfl
    exact runExtract_of_preflight_error h
  | ok ready =>
    obtain ⟨modelCls, content, client⟩ := ready
    obtain ⟨e, he⟩ := exists_endsAs client (libs.model modelCls) MAX_ATTEMPTS
    refine ⟨e.answer request client (libs.model modelCls) MAX_ATTEMPTS,
      callsThrough client (libs.model modelCls) (buildSystemPrompt request.docType.value)
        content DEFAULT_MAX_TOKENS (e.calls MAX_ATTEMPTS),
      e.charged client MAX_ATTEMPTS, e.noted client MAX_ATTEMPTS, ?_, ?_⟩
    · rintro w rfl
      exact runExtract_of_preflight_ok h he
    · intro response hok
      cases e with
      | accepted k result value =>
        cases hok
        rfl
      | _ => cases hok

/-! ## The keyed path -/

/-- The hash of an encodable request. -/
def requestHash (libs : Libraries M) (request : ExtractRequest) : PyStr :=
  payloadHash libs (utf8SurrogatePass request.jsonText)

theorem ExtractRequest.dumpBytes_of_encodable {request : ExtractRequest}
    (h : request.encodable = true) :
    request.dumpBytes = .ok (utf8SurrogatePass request.jsonText) := by
  have hutf8 := utf8_of_encodable (request.encodable_jsonText.trans h)
  simp [ExtractRequest.dumpBytes, hutf8]

theorem ExtractRequest.dumpBytes_of_not_encodable {request : ExtractRequest}
    (h : request.encodable = false) : request.dumpBytes = .error serializationError := by
  have hutf8 : utf8 request.jsonText = none :=
    if_neg (by rw [request.encodable_jsonText, h]; exact Bool.false_ne_true)
  simp [ExtractRequest.dumpBytes, hutf8]

/-- The answer to a request whose key has a stored response. -/
def replayAnswer (libs : Libraries M) (request : ExtractRequest) (stored : StoredResponse) :
    Except PyExc ExtractResponse :=
  if stored.payloadSha256 = requestHash libs request then
    (parseResponse libs stored.responseJson).map ExtractResponse.asReplay
  else .error (.extractError idempotencyConflict)

section Keyed

variable {store : IdempotencyStore S} {key : PyStr} {request : ExtractRequest} {w : World S}

theorem runExtractIdempotent_of_not_encodable (h : request.encodable = false) :
    (runExtractIdempotent libs env store key request).run w = .error serializationError w := by
  simp [runExtractIdempotent, liftExcept, request.dumpBytes_of_not_encodable h]

theorem run_onStore {α : Type} (op : EStateM PyExc S α) (w : World S) :
    (onStore op).run w = match op.run w.store with
      | .ok a s => .ok a { w with store := s }
      | .error e s => .error e { w with store := s } := by
  cases h : op.run w.store <;> simp [onStore, run_focus, h]

theorem runExtractIdempotent_of_get_error (h : request.encodable = true) {exc : PyExc} {s : S}
    (hget : (store.get env.clockAtGet key).run w.store = .error exc s) :
    (runExtractIdempotent libs env store key request).run w =
      .error exc { w with store := s } := by
  simp [runExtractIdempotent, liftExcept, request.dumpBytes_of_encodable h, run_onStore, hget]

theorem runExtractIdempotent_of_hit (h : request.encodable = true) {stored : StoredResponse}
    {s : S} (hget : (store.get env.clockAtGet key).run w.store = .ok (some stored) s) :
    (runExtractIdempotent libs env store key request).run w =
      outcomeIn { w with store := s } (replayAnswer libs request stored) := by
  by_cases hhash : stored.payloadSha256 = requestHash libs request
  · cases hparse : parseResponse libs stored.responseJson with
    | error exc =>
      simp [runExtractIdempotent, liftExcept, request.dumpBytes_of_encodable h, run_onStore, hget,
        hhash, hparse, replayAnswer, Except.map, outcomeIn, requestHash]
    | ok response =>
      simp [runExtractIdempotent, liftExcept, request.dumpBytes_of_encodable h, run_onStore, hget,
        hhash, hparse, replayAnswer, Except.map, outcomeIn, requestHash]
  · have hhash' := hhash
    unfold requestHash at hhash'
    simp [runExtractIdempotent, liftExcept, request.dumpBytes_of_encodable h, run_onStore, hget,
      hhash, hhash', replayAnswer, outcomeIn]

theorem runExtractIdempotent_of_failure (h : request.encodable = true) {s : S} {w' : World S}
    {exc : PyExc} (hget : (store.get env.clockAtGet key).run w.store = .ok none s)
    (hrun : (runExtract libs env request).run { w with store := s } = .error exc w') :
    (runExtractIdempotent libs env store key request).run w = .error exc w' := by
  simp [runExtractIdempotent, liftExcept, request.dumpBytes_of_encodable h, run_onStore, hget,
    hrun]

theorem runExtractIdempotent_of_success (h : request.encodable = true) {s : S} {w' : World S}
    {response : ExtractResponse}
    (hget : (store.get env.clockAtGet key).run w.store = .ok none s)
    (hrun : (runExtract libs env request).run { w with store := s } = .ok response w') :
    (runExtractIdempotent libs env store key request).run w =
      match dumpResponse libs response with
      | .error exc => .error exc w'
      | .ok text =>
        match (store.put key (storedResponse (requestHash libs request) text
            env.clockAtPut)).run w'.store with
        | .ok _ s' => .ok response { w' with store := s' }
        | .error exc s' => .error exc { w' with store := s' } := by
  cases hdump : dumpResponse libs response with
  | error exc =>
    simp [runExtractIdempotent, liftExcept, request.dumpBytes_of_encodable h, run_onStore, hget,
      hrun, hdump]
  | ok text =>
    unfold requestHash
    simp only [runExtractIdempotent, liftExcept, request.dumpBytes_of_encodable h, run_onStore,
      hget, hrun, hdump, EStateM.run_bind, EStateM.run_pure]
    cases (store.put key (storedResponse (payloadHash libs (utf8SurrogatePass request.jsonText))
      text env.clockAtPut)).run w'.store <;> rfl

end Keyed

end Flow

/-! ## The answer to the client -/

/-- How the client is answered for an outcome of the flow. -/
def httpAnswer : Except PyExc ExtractResponse → Answer
  | .ok response => if response.encodable then (200, response.toJson) else internalAnswer
  | .error exc => exceptionAnswer exc

theorem run_noteRequest (request : ExtractRequest) (keyed : Bool) (w : World S) :
    ∃ w', (noteRequest request keyed).run w = .ok () w' ∧ w'.ledger = w.ledger ∧
      w'.calls = w.calls :=
  ⟨_, rfl, ledger_note (by simp), rfl⟩

theorem extract_header (libs : Libraries M) (env : Surroundings S) (request : ExtractRequest)
    (idempotencyKey : Option PyStr) :
    Ensures (fun answer => ∀ storeId, answer.2 = some storeId → isLatin1 storeId = true)
      (fun _ => True) (extract libs env request idempotencyKey) := by
  apply Ensures.bind (Ensures.trivial _)
  intro _ _
  cases idempotencyKey with
  | none =>
    refine Ensures.bind (Ensures.trivial _) fun _ _ =>
      Ensures.bind (Ensures.trivial _) fun _ _ => Ensures.pure ?_
    intro storeId h
    cases h
  | some rawKey =>
    refine Ensures.bind (Ensures.trivial _) fun _ _ =>
      Ensures.bind (Ensures.trivial _) fun store _ =>
        Ensures.bind (P := fun header => isLatin1 header = true) ?_ fun header hheader =>
          Ensures.bind (Ensures.trivial _) fun _ _ =>
            Ensures.bind (Ensures.trivial _) fun _ _ => Ensures.pure ?_
    · unfold setHeader
      by_cases hlatin : isLatin1 store.storeId = true
      · rw [if_pos hlatin]
        exact Ensures.pure hlatin
      · rw [if_neg hlatin]
        exact Ensures.throw trivial
    · rintro storeId ⟨⟩
      exact hheader

/-! ## A sample process -/

/-- A text that `InvoiceV1` accepts. -/
def invoiceText : PyStr :=
  py "\x7b\"invoice_number\":\"1\",\"issue_date\":\"2026-01-01\",\"due_date\":null," ++
    py "\"currency\":\"GBP\",\"subtotal_minor\":1,\"tax_minor\":null,\"total_minor\":1," ++
    py "\"vendor_name\":\"V\",\"vendor_tax_id\":null,\"buyer_name\":null,\"line_items\":null\x7d"

/-- Its fields. -/
def invoiceData : List (PyStr × Json) :=
  [(py "invoice_number", .str (py "1")), (py "issue_date", .str (py "2026-01-01")),
    (py "due_date", .null), (py "currency", .str (py "GBP")), (py "subtotal_minor", .int 1),
    (py "tax_minor", .null), (py "total_minor", .int 1), (py "vendor_name", .str (py "V")),
    (py "vendor_tax_id", .null), (py "buyer_name", .null), (py "line_items", .null)]

/-- The strict invoice model, on the texts of the samples: `invoiceText` and an empty object. -/
def invoiceModel : StrictModel Unit where
  jsonSchema := .obj []
  validate text :=
    if text = invoiceText then .ok ()
    else .error [⟨[.key (py "invoice_number")], py "missing", py "Field required", .obj []⟩]
  dump _ := invoiceData

def sampleRequest : ExtractRequest where
  docType := .invoice
  content := py "Invoice 1"

/-- The response that answers the sample request with the invoice. -/
def sampleResponse : ExtractResponse where
  data := invoiceData
  extractMeta :=
    { provider := py "openai"
      model := py "gpt"
      schemaVersion := py "v1"
      attempts := 1
      fieldConfidence := fieldConfidence invoiceData
      costUsd := 1
      latencyMs := 1 }

/-- Its JSON text. -/
def sampleResponseText : PyStr :=
  py "\x7b\"data\":\x7b\"invoice_number\":\"1\",\"issue_date\":\"2026-01-01\"," ++
    py "\"due_date\":null,\"currency\":\"GBP\",\"subtotal_minor\":1,\"tax_minor\":null," ++
    py "\"total_minor\":1,\"vendor_name\":\"V\",\"vendor_tax_id\":null,\"buyer_name\":null," ++
    py "\"line_items\":null\x7d,\"meta\":\x7b\"provider\":\"openai\",\"model\":\"gpt\"," ++
    py "\"schema_version\":\"v1\",\"attempts\":1,\"replayed\":false," ++
    py "\"field_confidence\":\x7b\"invoice_number\":1.0,\"issue_date\":1.0,\"due_date\":0.0," ++
    py "\"currency\":1.0,\"subtotal_minor\":1.0,\"tax_minor\":0.0,\"total_minor\":1.0," ++
    py "\"vendor_name\":1.0,\"vendor_tax_id\":0.0,\"buyer_name\":0.0,\"line_items\":0.0\x7d," ++
    py "\"cost_usd\":1.0,\"latency_ms\":1.0\x7d\x7d"

/-- The libraries, on the sample request and response; the digest is that of its payload. -/
def sampleLibs : Libraries Unit where
  model _ := invoiceModel
  pymupdfOpen _ := .error (py "FileDataError")
  isPrintable _ := true
  sha256 _ := [86, 44, 153, 31, 44, 180, 107, 46, 50, 230, 132, 134, 233, 240, 24, 196, 254, 47,
    146, 118, 8, 7, 118, 167, 140, 248, 58, 170, 180, 160, 168, 251]
  responseText _ := sampleResponseText
  validateResponse _ := .ok sampleResponse

/-- A result that costs one dollar. -/
def sampleResult (text : PyStr) : CompletionResult where
  text := text
  model := py "gpt"
  tokensIn := 1
  tokensOut := 1
  costUsd := 1
  latencyMs := 1
  stopReason := py "stop"

/-- A client whose first call returns `text` and whose later calls raise `RuntimeError`. -/
def sampleClient (text : PyStr) : LLMClient where
  provider := py "openai"
  model := some (py "gpt")
  script
    | 1 => .returned (sampleResult text)
    | _ => .crashed (py "RuntimeError")

/-- No store, and a client that first returns `text`. -/
def sampleSurroundings (text : PyStr) : Surroundings Unit where
  getClient _ := .ok (sampleClient text)
  store := .error (.other (py "OperationalError"))
  clockAtGet := 0
  clockAtPut := 0

def freshWorld {S : Type} (store : S) (cap : ℚ) : World S where
  budget := { cap := cap }
  store := store
  facts := none
  log := []
  calls := []

end ExtractApi
