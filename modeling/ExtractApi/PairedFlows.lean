import ExtractApi.AccessLedger
import ExtractApi.BodyCapContract
import ExtractApi.KeyedFirstRequest
import ExtractApi.PairedRuns

/-!
# Two extractions side by side

What the log may tell of an extraction: the shape of the request, how each provider call
ended (`CallView`), and the class of what was raised (`SameFailure`).  Two runs of the flow
that agree on these write the same lines, whatever their texts are.
-/

namespace ExtractApi

open PythonText JsonValue RaisingProgram PairedRuns

variable {S M : Type}

/-! ## Lines and worlds -/

/-- The lines say the same, but for the time that was measured. -/
structure SameLine (record record' : LogRecord) : Prop where
  logger : record.logger = record'.logger
  level : record.level = record'.level
  msg : record.msg = record'.msg
  args : record.args = record'.args
  extra : ∀ key, key ≠ "duration_ms" →
    AList.lookup key record.extra = AList.lookup key record'.extra

theorem SameLine.refl (record : LogRecord) : SameLine record record :=
  ⟨rfl, rfl, rfl, rfl, fun _ _ => rfl⟩

/-- Two worlds inside a post, whose lines since `log` and `log'` are the same. -/
structure Indistinct (log log' : List LogRecord) (w w' : World S) : Prop where
  budget : w.budget = w'.budget
  facts : w.facts = w'.facts
  route : w.fact "route" = some (.str EXTRACT_PATH)
  lines : ∃ lines lines', w.log = log ++ lines ∧ w'.log = log' ++ lines' ∧
    List.Forall₂ SameLine lines lines'

/-- Two exceptions of which the handlers and the log tell the same. -/
inductive SameFailure : PyExc → PyExc → Prop
  | same (exc : PyExc) : SameFailure exc exc
  | extractError {e e' : ExtractError} : e.code = e'.code →
      (Json.obj e.toBody).encodable = (Json.obj e'.toBody).encodable →
      SameFailure (.extractError e) (.extractError e')
  | requestValidationError {errors errors' : List ErrorDetails} :
      requestValidationCode errors = requestValidationCode errors' →
      SameFailure (.requestValidationError errors) (.requestValidationError errors')
  | providerError {e e' : ProviderError} : e.kind = e'.kind → e.provider = e'.provider →
      e.costUsd = e'.costUsd → SameFailure (.providerError e) (.providerError e')
  | extractionFailed {e e' : ExtractionFailed} : e.attempts = e'.attempts →
      e.costUsd = e'.costUsd → (trailJson e.trail).encodable = (trailJson e'.trail).encodable →
      SameFailure (.extractionFailed e) (.extractionFailed e')

theorem SameFailure.className {exc exc' : PyExc} (h : SameFailure exc exc') :
    exc.className = exc'.className := by
  cases h with
  | same => rfl
  | extractError => rfl
  | requestValidationError => rfl
  | providerError hkind => exact congrArg ProviderErrorKind.className hkind
  | extractionFailed => rfl

/-! ## Steps -/

section Steps

variable {log log' : List LogRecord}

/-- Facts are noted, and the route is not among them. -/
theorem Indistinct.noted {w w' : World S} (h : Indistinct log log' w w')
    {entries : List (String × Json)} (hroute : ∀ entry ∈ entries, entry.1 ≠ "route") :
    Indistinct log log' { w with facts := w.facts.map fun bag => bag.update entries }
      { w' with facts := w'.facts.map fun bag => bag.update entries } := by
  refine ⟨h.budget, congrArg (Option.map fun bag => bag.update entries) h.facts, ?_, h.lines⟩
  have hfact := h.route
  rcases hfacts : w.facts with _ | bag
  · simp [World.fact, hfacts] at hfact
  · simpa [World.fact, hfacts, Facts.lookup_update_of_not_mem hroute] using hfact

theorem coupled_note {E : PyExc → PyExc → Prop} {entries entries' : List (String × Json)}
    (hsame : entries = entries') (hroute : ∀ entry ∈ entries, entry.1 ≠ "route") :
    Coupled (Indistinct (S := S) log log') (fun _ _ => True) E (note entries) (note entries') := by
  subst hsame
  exact Coupled.modify trivial fun w w' h => h.noted hroute

theorem Indistinct.logged {w w' : World S} (h : Indistinct log log' w w')
    {record record' : LogRecord} (hsame : SameLine record record') :
    Indistinct log log' { w with log := w.log ++ [record] }
      { w' with log := w'.log ++ [record'] } := by
  obtain ⟨lines, lines', hlog, hlog', hlines⟩ := h.lines
  refine ⟨h.budget, h.facts, h.route, lines ++ [record], lines' ++ [record'], ?_, ?_, ?_⟩
  · simp [hlog]
  · simp [hlog']
  · exact List.rel_append hlines (.cons hsame .nil)

theorem coupled_emit {E : PyExc → PyExc → Prop} {record record' : LogRecord}
    (hsame : SameLine record record') :
    Coupled (Indistinct (S := S) log log') (fun _ _ => True) E (emit record) (emit record') :=
  Coupled.modify trivial fun _ _ h => h.logged hsame

theorem coupled_add {E : PyExc → PyExc → Prop} {costUsd costUsd' : ℚ} (hsame : costUsd = costUsd') :
    Coupled (Indistinct (S := S) log log') (fun _ _ => True) E (BudgetGuard.add costUsd)
      (BudgetGuard.add costUsd') := by
  apply Coupled.modify trivial
  intro w w' h
  refine ⟨?_, h.facts, h.route, h.lines⟩
  show w.budget.charge costUsd = w'.budget.charge costUsd'
  rw [h.budget, hsame]

theorem coupled_liftExcept {α α' : Type} {A : α → α' → Prop} {E : PyExc → PyExc → Prop}
    {x : Except PyExc α} {x' : Except PyExc α'} (h : Matched A E x x') :
    Coupled (Indistinct (S := S) log log') A E (liftExcept x) (liftExcept x') := by
  cases h with
  | ok ha => exact Coupled.pure ha
  | error he => exact Coupled.throw he

end Steps

/-! ## The retry loop -/

/-- What the log may tell of a provider call. -/
inductive CallView where
  | accepted (model : PyStr) (costUsd : ℚ)
  | rejected (model : PyStr) (costUsd : ℚ) (kinds : List PyStr) (errors : ℕ)
  | raised (kind : ProviderErrorKind) (provider : PyStr) (costUsd : ℚ)
  | crashed (className : PyStr)
deriving DecidableEq

/-- The outcome class, the cost, the model and the kinds and number of the errors. -/
def StrictModel.view (model : StrictModel M) : CallOutcome → CallView
  | .returned result =>
      match model.validate result.text with
      | .ok _ => .accepted result.model result.costUsd
      | .error errors =>
          .rejected result.model result.costUsd (retryKinds (summarize errors)) errors.length
  | .raised error => .raised error.kind error.provider error.costUsd
  | .crashed className => .crashed className

/-- The errors of a rejected text can be written as UTF-8. -/
def StrictModel.trailEncodable (model : StrictModel M) : CallOutcome → Bool
  | .returned result =>
      match model.validate result.text with
      | .ok _ => true
      | .error errors => (trailJson [summarize errors]).encodable
  | _ => true

section Loop

variable {client client' : LLMClient} {model : StrictModel M} {log log' : List LogRecord}

/-- Two results of which the log tells the same. -/
structure SameResult (result result' : CompletionResult) : Prop where
  model : result.model = result'.model
  costUsd : result.costUsd = result'.costUsd

/-- Two calls of which the log tells the same. -/
inductive SameCall (model : StrictModel M) : CallOutcome → CallOutcome → Prop
  | accepted {result result' : CompletionResult} {value value' : M} :
      model.validate result.text = .ok value → model.validate result'.text = .ok value' →
      SameResult result result' → SameCall model (.returned result) (.returned result')
  | rejected {result result' : CompletionResult} {errors errors' : List ErrorDetails} :
      model.validate result.text = .error errors → model.validate result'.text = .error errors' →
      SameResult result result' →
      retryKinds (summarize errors) = retryKinds (summarize errors') →
      errors.length = errors'.length →
      (trailJson [summarize errors]).encodable = (trailJson [summarize errors']).encodable →
      SameCall model (.returned result) (.returned result')
  | raised {error error' : ProviderError} : error.kind = error'.kind →
      error.provider = error'.provider → error.costUsd = error'.costUsd →
      SameCall model (.raised error) (.raised error')
  | crashed (className : PyStr) : SameCall model (.crashed className) (.crashed className)

theorem sameCall_of_view {outcome outcome' : CallOutcome}
    (hview : model.view outcome = model.view outcome')
    (htrail : model.trailEncodable outcome = model.trailEncodable outcome') :
    SameCall model outcome outcome' := by
  unfold StrictModel.view at hview
  unfold StrictModel.trailEncodable at htrail
  rcases outcome with result | error | className
  · rcases outcome' with result' | error' | className'
    · rcases hvalid : model.validate result.text with errors | value
      · rcases hvalid' : model.validate result'.text with errors' | value'
        · simp only [hvalid, hvalid', CallView.rejected.injEq] at hview htrail
          obtain ⟨hmodel, hcost, hkinds, hlength⟩ := hview
          exact .rejected hvalid hvalid' ⟨hmodel, hcost⟩ hkinds hlength htrail
        · simp [hvalid, hvalid'] at hview
      · rcases hvalid' : model.validate result'.text with errors' | value'
        · simp [hvalid, hvalid'] at hview
        · simp only [hvalid, hvalid', CallView.accepted.injEq] at hview
          exact .accepted hvalid hvalid' ⟨hview.1, hview.2⟩
    · rcases hvalid : model.validate result.text with errors | value <;> simp [hvalid] at hview
    · rcases hvalid : model.validate result.text with errors | value <;> simp [hvalid] at hview
  · rcases outcome' with result' | error' | className'
    · rcases hvalid' : model.validate result'.text with errors' | value' <;>
        simp [hvalid'] at hview
    · simp only [CallView.raised.injEq] at hview
      exact .raised hview.1 hview.2.1 hview.2.2
    · cases hview
  · rcases outcome' with result' | error' | className'
    · rcases hvalid' : model.validate result'.text with errors' | value' <;>
        simp [hvalid'] at hview
    · cases hview
    · cases hview
      exact .crashed className

/-- The locals of two loops of which the log tells the same. -/
structure SameState (st st' : RetryState) : Prop where
  costUsd : st.costUsd = st'.costUsd
  attempts : st.trail.length = st'.trail.length
  trail : (trailJson st.trail).encodable = (trailJson st'.trail).encodable

theorem encodable_trailJson_append (trail : List ErrorSummary) (summary : ErrorSummary) :
    (trailJson (trail ++ [summary])).encodable =
      ((trailJson trail).encodable && (trailJson [summary]).encodable) := by
  induction trail with
  | nil => simp [trailJson, Json.encodable, Json.encodableItems]
  | cons first rest ih =>
    simp only [trailJson, List.cons_append, List.map_cons, Json.encodable, Json.encodableItems]
      at ih ⊢
    rw [ih, Bool.and_assoc]

theorem SameState.reject {st st' : RetryState} (h : SameState st st') (content content' : PyStr)
    {result result' : CompletionResult} (hresult : SameResult result result')
    {errors errors' : List ErrorDetails}
    (htrail : (trailJson [summarize errors]).encodable =
      (trailJson [summarize errors']).encodable) :
    SameState (st.reject content result errors) (st'.reject content' result' errors') where
  costUsd := by
    show st.costUsd + result.costUsd = st'.costUsd + result'.costUsd
    rw [h.costUsd, hresult.costUsd]
  attempts := by
    show (st.trail ++ [_]).length = (st'.trail ++ [_]).length
    rw [List.length_append, List.length_append, h.attempts]
    rfl
  trail := by
    show (trailJson (st.trail ++ [_])).encodable = (trailJson (st'.trail ++ [_])).encodable
    rw [encodable_trailJson_append, encodable_trailJson_append, h.trail, htrail]

theorem attemptLoop_rejected_run {content system : PyStr} {maxTokens n attempt : ℕ}
    {rest : List ℕ} {st : RetryState} {observer : RetryObserver S} {result : CompletionResult}
    {errors : List ErrorDetails} (hscript : client.script attempt = .returned result)
    (hvalid : model.validate result.text = .error errors) (w : World S) :
    (attemptLoop client model system content maxTokens n observer (attempt :: rest) st).run w =
      (emit (rejectionRecord attempt n (summarize errors)) >>= fun _ =>
        (if attempt < n then observer.onRetry (retryKinds (summarize errors)) else pure ()) >>=
          fun _ => attemptLoop client model system content maxTokens n observer rest
            (st.reject content result errors)).run
        (w.called ⟨system, st.prompt, model.jsonSchema, maxTokens⟩) := by
  by_cases hlast : attempt < n
  · simp [attemptLoop, LLMClient.complete, hscript, hvalid, World.called, hlast]
  · simp [attemptLoop, LLMClient.complete, hscript, hvalid, World.called, hlast]

theorem Indistinct.called {w w' : World S} (h : Indistinct log log' w w')
    (call call' : ProviderCall) : Indistinct log log' (w.called call) (w'.called call') :=
  ⟨h.budget, h.facts, h.route, h.lines⟩

theorem sameLine_rejectionRecord {errors errors' : List ErrorDetails} (attempt n : ℕ)
    (hkinds : retryKinds (summarize errors) = retryKinds (summarize errors'))
    (hlength : errors.length = errors'.length) :
    SameLine (rejectionRecord attempt n (summarize errors))
      (rejectionRecord attempt n (summarize errors')) := by
  have hsame : rejectionRecord attempt n (summarize errors) =
      rejectionRecord attempt n (summarize errors') := by
    have hcount : (summarize errors).length = (summarize errors').length := by
      simp [summarize, hlength]
    unfold rejectionRecord
    rw [hkinds, hcount]
  rw [hsame]
  exact SameLine.refl _

/-- What is told of an accepted run. -/
def SameAccepted (accepted accepted' : M × CompletionResult × ℕ) : Prop :=
  SameResult accepted.2.1 accepted'.2.1 ∧ accepted.2.2 = accepted'.2.2

/-- Both scripts were rejected up to here, and agree on every call that is still made. -/
def AgreeFrom (client client' : LLMClient) (model : StrictModel M) (k m : ℕ) : Prop :=
  ∀ i, k ≤ i → i < k + m → RejectsThrough client model (i - 1) →
    RejectsThrough client' model (i - 1) → SameCall model (client.script i) (client'.script i)

theorem coupled_attemptLoop (system system' content content' : PyStr) (maxTokens n m : ℕ) :
    ∀ (k : ℕ), 1 ≤ k → RejectsThrough client model (k - 1) → RejectsThrough client' model (k - 1) →
      AgreeFrom client client' model k m → ∀ st st', SameState st st' →
      Coupled (Indistinct (S := S) log log') SameAccepted SameFailure
        (attemptLoop client model system content maxTokens n .noteRetry (List.range' k m) st)
        (attemptLoop client' model system' content' maxTokens n .noteRetry (List.range' k m)
          st') := by
  induction m with
  | zero =>
    intro k _ _ _ _ st st' hst
    exact Coupled.throw (.extractionFailed hst.attempts hst.costUsd hst.trail)
  | succ m ih =>
    intro k hk hrejects hrejects' hagree st st' hst w w' hw
    have hcall := hagree k (le_refl k) (by omega) hrejects hrejects'
    rw [List.range'_succ]
    generalize houtcome : client.script k = outcome at hcall
    generalize houtcome' : client'.script k = outcome' at hcall
    cases hcall with
    | accepted hvalid hvalid' hresult =>
      rw [attemptLoop_of_accepted houtcome hvalid, attemptLoop_of_accepted houtcome' hvalid']
      refine .returned ⟨⟨hresult.model, ?_⟩, rfl⟩ (hw.called _ _)
      show st.costUsd + _ = st'.costUsd + _
      rw [hst.costUsd, hresult.costUsd]
    | raised hkind hprovider hcost =>
      rw [attemptLoop_of_raised houtcome, attemptLoop_of_raised houtcome']
      refine .raised (.providerError hkind hprovider ?_) (hw.called _ _)
      show _ + st.costUsd = _ + st'.costUsd
      rw [hst.costUsd, hcost]
    | crashed className =>
      rw [attemptLoop_of_crashed houtcome, attemptLoop_of_crashed houtcome']
      exact .raised (.same _) (hw.called _ _)
    -- only a rejected answer goes on to another call
    | rejected hvalid hvalid' hresult hkinds hlength htrail =>
      rw [attemptLoop_rejected_run houtcome hvalid, attemptLoop_rejected_run houtcome' hvalid']
      have hnext : k - 1 + 1 = k := by omega
      have hthrough : RejectsThrough client model (k + 1 - 1) := by
        rw [Nat.add_sub_cancel, ← hnext]
        apply hrejects.succ
        rw [hnext]
        exact ⟨_, _, houtcome, hvalid⟩
      have hthrough' : RejectsThrough client' model (k + 1 - 1) := by
        rw [Nat.add_sub_cancel, ← hnext]
        apply hrejects'.succ
        rw [hnext]
        exact ⟨_, _, houtcome', hvalid'⟩
      have hrest : AgreeFrom client client' model (k + 1) m := by
        intro i hi him
        exact hagree i (by omega) (by omega)
      refine Related.bind (coupled_emit (sameLine_rejectionRecord k n hkinds hlength) _ _
        (hw.called _ _)) fun _ _ _ => ?_
      refine Coupled.bind (A := fun _ _ => True) ?_ fun _ _ _ =>
        ih (k + 1) (by omega) hthrough hthrough' hrest _ _
          (hst.reject content content' hresult htrail)
      split
      · apply coupled_note
        · rw [hkinds]
        · simp
      · exact Coupled.pure trivial

end Loop

/-! ## Errors -/

section Errors

variable {log log' : List LogRecord}

/-- The same code is noted, and both bodies can be rendered or neither. -/
theorem coupled_errorResponse (code : ErrorCode) {body body' : List (PyStr × Json)}
    {headers headers' : List (PyStr × PyStr)}
    (hbody : (Json.obj body).encodable = (Json.obj body').encodable)
    (hheaders : (headers.all fun h => isLatin1 h.1 && isLatin1 h.2) =
      headers'.all fun h => isLatin1 h.1 && isLatin1 h.2) :
    Coupled (Indistinct (S := S) log log') (fun r r' => r.status = r'.status) SameFailure
      (errorResponse code body headers) (errorResponse code body' headers') := by
  apply Coupled.bind (A := fun _ _ => True)
  · exact coupled_note rfl (by simp)
  · intro _ _ _
    apply coupled_liftExcept
    unfold jsonResponse
    rw [hbody, hheaders]
    split
    · exact .ok rfl
    · exact .error (.same _)

theorem coupled_handleException {exc exc' : PyExc} (h : SameFailure exc exc') :
    Coupled (Indistinct (S := S) log log') (fun r r' => r.status = r'.status) SameFailure
      (handleException exc) (handleException exc') := by
  cases h with
  | same =>
    cases exc with
    | extractError e => exact coupled_errorResponse _ rfl rfl
    | unknownSchema message => exact coupled_errorResponse _ rfl rfl
    | requestValidationError errors => exact coupled_errorResponse _ rfl rfl
    | httpException status detail headers =>
      show Coupled _ _ _ (handleHttpException status detail headers)
        (handleHttpException status detail headers)
      unfold handleHttpException
      split
      · exact Coupled.bind (coupled_emit (SameLine.refl _)) fun _ _ _ =>
          coupled_errorResponse _ rfl rfl
      · exact coupled_errorResponse _ rfl rfl
    | providerError e => exact Coupled.throw (.same _)
    | extractionFailed e => exact Coupled.throw (.same _)
    | other className => exact Coupled.throw (.same _)
  | @extractError e e' hcode hbody =>
    show Coupled _ _ _ (errorResponse e.code e.toBody []) (errorResponse e'.code e'.toBody [])
    rw [← hcode]
    exact coupled_errorResponse _ hbody rfl
  | @requestValidationError errors errors' hcode =>
    show Coupled _ _ _ (handleRequestValidation errors) (handleRequestValidation errors')
    unfold handleRequestValidation
    rw [hcode]
    exact coupled_errorResponse _ rfl rfl
  | providerError hkind hprovider hcost =>
    exact Coupled.throw (.providerError hkind hprovider hcost)
  | extractionFailed hattempts hcost htrail =>
    exact Coupled.throw (.extractionFailed hattempts hcost htrail)

theorem sameLine_providerFailureRecord (msg : String) {e e' : ProviderError}
    (hkind : e.kind = e'.kind) (hprovider : e.provider = e'.provider) :
    SameLine (providerFailureRecord msg e) (providerFailureRecord msg e') := by
  unfold providerFailureRecord
  rw [hkind, hprovider]
  exact SameLine.refl _

theorem encodable_extractionRejected (e : ExtractionFailed) :
    (Json.obj (extractionRejected e).toBody).encodable = (trailJson e.trail).encodable := by
  have hmessage : e.message ≠ [] := by simp [ExtractionFailed.message, py]
  have hdetail : PythonText.encodable e.message = true := by
    simp [ExtractionFailed.message, encodable_decimal, encodable_py]
  have hbody : (extractionRejected e).toBody =
      [(py "attempts", .int e.attempts), (py "trail", trailJson e.trail),
        (py "cost_usd", .float e.costUsd), (py "error", .str ErrorCode.validationFailed.value),
        (py "detail", .str e.message)] := by
    have hkept : py "attempts" ∉ [py "error", py "detail"] ∧
        py "trail" ∉ [py "error", py "detail"] ∧
        py "cost_usd" ∉ [py "error", py "detail"] := by decide
    unfold ExtractError.toBody extractionRejected
    simp only [List.filter_cons, List.filter_nil, hkept, not_false_eq_true, decide_true, if_true,
      hmessage, if_false, List.cons_append, List.nil_append]
  rw [hbody]
  simp [Json.encodable, Json.encodableFields, encodable_py, encodable_value, hdetail]

theorem coupled_mapFailure {α α' : Type} {A : α → α' → Prop} {exc exc' : PyExc}
    (h : SameFailure exc exc') :
    Coupled (Indistinct (S := S) log log') A SameFailure (mapFailure exc) (mapFailure exc') := by
  -- the two exceptions whose handlers write to the state
  have hprovider : ∀ e e' : ProviderError, e.kind = e'.kind → e.provider = e'.provider →
      e.costUsd = e'.costUsd → Coupled (Indistinct (S := S) log log') A SameFailure
        (mapFailure (.providerError e)) (mapFailure (.providerError e')) := by
    intro e e' hkind hname hcost
    apply Coupled.bind (coupled_add hcost)
    intro _ _ _
    apply Coupled.bind (coupled_note (by rw [hcost]) (by simp))
    intro _ _ _
    rw [hkind]
    split
    · refine Coupled.bind (coupled_emit (sameLine_providerFailureRecord _ hkind hname))
        fun _ _ _ => Coupled.throw ?_
      rw [providerTimedOut, providerTimedOut, hname]
      exact .same _
    · refine Coupled.bind (coupled_emit (sameLine_providerFailureRecord _ hkind hname))
        fun _ _ _ => Coupled.throw ?_
      rw [providerFailed, providerFailed, hname]
      exact .same _
  have hfailed : ∀ e e' : ExtractionFailed, e.attempts = e'.attempts → e.costUsd = e'.costUsd →
      (trailJson e.trail).encodable = (trailJson e'.trail).encodable →
      Coupled (Indistinct (S := S) log log') A SameFailure
        (mapFailure (.extractionFailed e)) (mapFailure (.extractionFailed e')) := by
    intro e e' hattempts hcost htrail
    apply Coupled.bind (coupled_add hcost)
    intro _ _ _
    refine Coupled.bind (coupled_note (by rw [hattempts, hcost]) (by simp)) fun _ _ _ =>
      Coupled.throw (.extractError rfl ?_)
    rw [encodable_extractionRejected, encodable_extractionRejected, htrail]
  cases h with
  | same =>
    cases exc with
    | providerError e => exact hprovider e e rfl rfl rfl
    | extractionFailed e => exact hfailed e e rfl rfl rfl
    | extractError e => exact Coupled.throw (.same _)
    | unknownSchema message => exact Coupled.throw (.same _)
    | requestValidationError errors => exact Coupled.throw (.same _)
    | httpException status detail headers => exact Coupled.throw (.same _)
    | other className => exact Coupled.throw (.same _)
  | extractError hcode hbody => exact Coupled.throw (.extractError hcode hbody)
  | requestValidationError hcode => exact Coupled.throw (.requestValidationError hcode)
  | providerError hkind hname hcost => exact hprovider _ _ hkind hname hcost
  | extractionFailed hattempts hcost htrail => exact hfailed _ _ hattempts hcost htrail

end Errors

/-! ## One extraction -/

/-- What the log tells of a request. -/
structure Shape where
  docType : DocType
  schemaVersion : PyStr
  provider : Provider
  contentFormat : ContentFormat
  contentBytes : ℕ
deriving DecidableEq

def ExtractRequest.shape (request : ExtractRequest) : Shape where
  docType := request.docType
  schemaVersion := request.schemaVersion
  provider := request.provider
  contentFormat := request.contentFormat
  contentBytes := (utf8SurrogatePass request.content).length

/-- Clients of the same provider and model. -/
structure SameNames (client client' : LLMClient) : Prop where
  provider : client.provider = client'.provider
  model : client.model = client'.model

/-- Responses whose metadata is noted alike. -/
structure SameMeta (response response' : ExtractResponse) : Prop where
  provider : response.extractMeta.provider = response'.extractMeta.provider
  model : response.extractMeta.model = response'.extractMeta.model
  replayed : response.extractMeta.replayed = response'.extractMeta.replayed
  attempts : response.extractMeta.attempts = response'.extractMeta.attempts
  costUsd : response.extractMeta.costUsd = response'.extractMeta.costUsd

/-- The extraction makes its `i`-th provider call, which ends so. -/
def Calls (libs : Libraries M) (env : Surroundings S) (request : ExtractRequest)
    (budget : BudgetGuard) (i : ℕ) (modelCls : ModelClass) (outcome : CallOutcome) : Prop :=
  ∃ content client, preflight libs env request budget = .ok (modelCls, content, client) ∧
    1 ≤ i ∧ i ≤ MAX_ATTEMPTS ∧ RejectsThrough client (libs.model modelCls) (i - 1) ∧
    client.script i = outcome

theorem Calls.unique {libs : Libraries M} {env : Surroundings S} {request : ExtractRequest}
    {budget : BudgetGuard} {i : ℕ} {modelCls modelCls' : ModelClass}
    {outcome outcome' : CallOutcome} (h : Calls libs env request budget i modelCls outcome)
    (h' : Calls libs env request budget i modelCls' outcome') :
    modelCls = modelCls' ∧ outcome = outcome' := by
  obtain ⟨content, client, hpre, -, -, -, rfl⟩ := h
  obtain ⟨content', client', hpre', -, -, -, rfl⟩ := h'
  cases hpre.symm.trans hpre'
  exact ⟨rfl, rfl⟩

section Extraction

variable (libs : Libraries M) (env env' : Surroundings S) (request request' : ExtractRequest)
  (budget : BudgetGuard)

/-- Two extractions agree on the verdict of the content, on the client that the environment
    resolves, and on each call. -/
structure AgreeingExtractions : Prop where
  resolved : (resolveContent libs.pymupdfOpen request).isOk =
    (resolveContent libs.pymupdfOpen request').isOk
  client : Matched SameNames Eq (env.getClient request.provider) (env'.getClient request'.provider)
  calls : ∀ i modelCls outcome modelCls' outcome',
    Calls libs env request budget i modelCls outcome →
    Calls libs env' request' budget i modelCls' outcome' →
      (libs.model modelCls).view outcome = (libs.model modelCls').view outcome'

/-- They also agree on whether the content is blank, and on whether the errors of a rejected
    text can be written. -/
structure SameContentVerdicts : Prop where
  blank : ∀ content content', resolveContent libs.pymupdfOpen request = .ok content →
    resolveContent libs.pymupdfOpen request' = .ok content' →
      (strip content = [] ↔ strip content' = [])
  trail : ∀ i modelCls outcome modelCls' outcome',
    Calls libs env request budget i modelCls outcome →
    Calls libs env' request' budget i modelCls' outcome' →
      (libs.model modelCls).trailEncodable outcome = (libs.model modelCls').trailEncodable outcome'

variable {libs env env' request request' budget} {log log' : List LogRecord}

theorem matched_resolveContent
    (h : (resolveContent libs.pymupdfOpen request).isOk =
      (resolveContent libs.pymupdfOpen request').isOk) :
    Matched (fun content content' => resolveContent libs.pymupdfOpen request = .ok content ∧
        resolveContent libs.pymupdfOpen request' = .ok content') SameFailure
      ((resolveContent libs.pymupdfOpen request).mapError PyExc.extractError)
      ((resolveContent libs.pymupdfOpen request').mapError PyExc.extractError) := by
  rcases hcontent : resolveContent libs.pymupdfOpen request with e | content
  · rcases hcontent' : resolveContent libs.pymupdfOpen request' with e' | content'
    · obtain ⟨detail, rfl, -⟩ := resolveContent_raisesOnly _ _ _ hcontent
      obtain ⟨detail', rfl, -⟩ := resolveContent_raisesOnly _ _ _ hcontent'
      refine .error (.extractError rfl ?_)
      rw [encodable_toBody rfl (encodable_py _), encodable_toBody rfl (encodable_py _)]
    · rw [hcontent, hcontent'] at h
      cases h
  · rcases hcontent' : resolveContent libs.pymupdfOpen request' with e' | content'
    · rw [hcontent, hcontent'] at h
      cases h
    · exact .ok ⟨rfl, rfl⟩

/-- The two extractions are stopped alike before the first call, or neither is. -/
inductive SamePreflight (libs : Libraries M) (env env' : Surroundings S)
    (request request' : ExtractRequest) (w w' : World S) : Prop
  | raised {exc exc' : PyExc} : SameFailure exc exc' →
      (runExtract libs env request).run w = .error exc w →
      (runExtract libs env' request').run w' = .error exc' w' → SamePreflight ..
  | overBudget : (runExtract libs env request).run w = .error (.extractError budgetExceeded)
        { w with log := w.log ++ [budgetExceededRecord w.budget.spent w.budget.cap] } →
      (runExtract libs env' request').run w' = .error (.extractError budgetExceeded)
        { w' with log := w'.log ++ [budgetExceededRecord w'.budget.spent w'.budget.cap] } →
      SamePreflight ..
  | passed {modelCls : ModelClass} {content content' : PyStr} {client client' : LLMClient} :
      preflight libs env request w.budget = .ok (modelCls, content, client) →
      preflight libs env' request' w'.budget = .ok (modelCls, content', client') →
      SameNames client client' → SamePreflight ..

theorem samePreflight (hshape : request.shape = request'.shape)
    (hagree : AgreeingExtractions libs env env' request request' budget)
    (hverdicts : SameContentVerdicts libs env env' request request' budget) {w w' : World S}
    (hbudget : w.budget = w'.budget) :
    SamePreflight libs env env' request request' w w' := by
  have hdoc : request.docType = request'.docType := congrArg Shape.docType hshape
  have hversion : request.schemaVersion = request'.schemaVersion :=
    congrArg Shape.schemaVersion hshape
  -- each check in the order of the flow: the first that fails, fails on both sides
  rcases hcls : resolve libs request.docType.value request.schemaVersion with exc | modelCls
  · have hcls' := hcls
    rw [hdoc, hversion] at hcls'
    apply SamePreflight.raised (.same exc)
    · simp [runExtract, liftExcept, hcls]
    · simp [runExtract, liftExcept, hcls']
  have hcls' := hcls
  rw [hdoc, hversion] at hcls'
  have hmatched := matched_resolveContent hagree.resolved
  generalize hcontent : (resolveContent libs.pymupdfOpen request).mapError PyExc.extractError = x
    at hmatched
  generalize hcontent' : (resolveContent libs.pymupdfOpen request').mapError PyExc.extractError = x'
    at hmatched
  cases hmatched with
  | error hsame =>
    apply SamePreflight.raised hsame
    · simp [runExtract, liftExcept, hcls, hcontent]
    · simp [runExtract, liftExcept, hcls', hcontent']
  | @ok content content' htext =>
    by_cases hblank : strip content = []
    · have hblank' := (hverdicts.blank content content' htext.1 htext.2).mp hblank
      apply SamePreflight.raised (.same (.extractError emptyContent))
      · simp [runExtract, liftExcept, hcls, hcontent, hblank]
      · simp [runExtract, liftExcept, hcls', hcontent', hblank']
    have hblank' : strip content' ≠ [] := fun h =>
      hblank ((hverdicts.blank content content' htext.1 htext.2).mpr h)
    rcases hpasses : w.budget.passes w.budget.spent with _ | _
    · have hpasses' : w'.budget.passes w'.budget.spent = false := by rw [← hbudget, hpasses]
      apply SamePreflight.overBudget
      · simp [runExtract, liftExcept, hcls, hcontent, hblank,
          BudgetGuard.check_of_not_passes hpasses]
      · simp [runExtract, liftExcept, hcls', hcontent', hblank',
          BudgetGuard.check_of_not_passes hpasses']
    have hpasses' : w'.budget.passes w'.budget.spent = true := by rw [← hbudget, hpasses]
    have hclients := hagree.client
    generalize hclient : env.getClient request.provider = c at hclients
    generalize hclient' : env'.getClient request'.provider = c' at hclients
    cases hclients with
    | @error exc exc' hsame =>
      subst hsame
      apply SamePreflight.raised (.same exc)
      · simp [runExtract, liftExcept, hcls, hcontent, hblank,
          BudgetGuard.check_of_passes hpasses, hclient]
      · simp [runExtract, liftExcept, hcls', hcontent', hblank',
          BudgetGuard.check_of_passes hpasses', hclient']
    | @ok client client' hnames =>
      have hpre : preflight libs env request w.budget = .ok (modelCls, content, client) :=
        preflight_eq_ok_iff.mpr ⟨hcls, htext.1, hblank, hpasses, hclient⟩
      have hpre' : preflight libs env' request' w'.budget = .ok (modelCls, content', client') :=
        preflight_eq_ok_iff.mpr ⟨hcls', htext.2, hblank', hpasses', hclient'⟩
      exact .passed hpre hpre' hnames

theorem coupled_noteClient {client client' : LLMClient} (h : SameNames client client') :
    Coupled (Indistinct (S := S) log log') (fun _ _ => True) SameFailure (noteClient client)
      (noteClient client') := by
  apply coupled_note
  · rw [h.provider, h.model]
  · simp

/-- **Extractions of which the log may tell the same write the same lines**, and answer with
    responses whose metadata is noted alike. -/
theorem related_runExtract (hshape : request.shape = request'.shape)
    (hagree : AgreeingExtractions libs env env' request request' budget)
    (hverdicts : SameContentVerdicts libs env env' request request' budget) {w w' : World S}
    (hw : Indistinct log log' w w') (hbudget : w.budget = budget) :
    Related (Indistinct log log') SameMeta SameFailure ((runExtract libs env request).run w)
      ((runExtract libs env' request').run w') := by
  rcases samePreflight hshape hagree hverdicts hw.budget with ⟨hsame, hrun, hrun'⟩ |
    ⟨hrun, hrun'⟩ | ⟨hpre, hpre', hnames⟩
  · rw [hrun, hrun']
    exact .raised hsame hw
  · rw [hrun, hrun']
    refine .raised (.same _) (hw.logged ?_)
    rw [hw.budget]
    exact SameLine.refl _
  · rename_i modelCls content content' client client'
    have hcalls : AgreeFrom client client' (libs.model modelCls) 1 MAX_ATTEMPTS := by
      intro i hi hlast hrejects hrejects'
      have hcall : Calls libs env request budget i modelCls (client.script i) :=
        ⟨content, client, hbudget ▸ hpre, hi, by omega, hrejects, rfl⟩
      have hcall' : Calls libs env' request' budget i modelCls (client'.script i) :=
        ⟨content', client', by rw [← hbudget, hw.budget]; exact hpre', hi, by omega, hrejects', rfl⟩
      exact sameCall_of_view (hagree.calls i _ _ _ _ hcall hcall')
        (hverdicts.trail i _ _ _ _ hcall hcall')
    rw [runExtract_run_of_preflight_ok hpre, runExtract_run_of_preflight_ok hpre']
    apply Related.bind (coupled_noteClient hnames _ _ hw)
    intro _ _ _
    refine Coupled.bind (A := SameAccepted) ?_ fun accepted accepted' haccepted => ?_
    · apply Coupled.tryCatch _ fun exc exc' h => coupled_mapFailure h
      exact coupled_attemptLoop _ _ _ _ _ _ _ 1 (le_refl 1) RejectsThrough.zero
        RejectsThrough.zero hcalls _ _ ⟨rfl, rfl, rfl⟩
    · obtain ⟨hresult, hattempts⟩ := haccepted
      refine Coupled.bind (coupled_add hresult.costUsd) fun _ _ _ => Coupled.pure ?_
      exact ⟨hnames.provider, hresult.model, rfl, congrArg Int.ofNat hattempts, hresult.costUsd⟩

end Extraction

end ExtractApi
