import ExtractApi.AccuracyRun
import ExtractApi.LiveResponses
import ExtractApi.ResponseModel
import ExtractApi.ServiceApp

/-!
# Canonical records

The dump of a record that a strict model accepts is a fixed point: every text of it validates to
the same instance.  A client that answers with the record is therefore accepted at its first
attempt, the record survives the response, and its score is perfect.
-/

namespace ExtractApi

open PythonText JsonValue LoadedJson JsonText RecordCodec

/-- The libraries with the strict models of `schemas/`, the response model and `json.dumps`. -/
def schemaLibs (pyd : Pydantic) (base : HarnessLibs Instance) : HarnessLibs Instance :=
  { base with
    model := strictModel pyd
    responseText := fun response => write pyd.modelLayout response.toJson
    validateResponse := validateResponse pyd
    jsonDumps := write pyd.dumpsLayout
    dump_keys := dump_keys_strictModel pyd }

/-- The body of a rendered response, as it is sent. -/
def renderedText (pyd : Pydantic) (body : Json) : PyStr := write pyd.renderLayout body

/-! ## Fixed points -/

section FixedPoints

variable (libs : HarnessLibs Instance) (cls : ModelClass)

/-- The record is accepted, dumps to itself and keeps the cross-field rules. -/
def IsCanonical (d : Record) : Prop :=
  ∃ m, (libs.model cls).validate (libs.jsonDumps (.obj d)) = .ok m ∧ (libs.model cls).dump m = d ∧
    m.KeepsRules

/-- Every field of the model has an outcome, and every outcome is a match. -/
def ScoresPerfectly (predicted expected : Record) : Prop :=
  ∃ outcomes, scoreRecord libs cls predicted expected = .ok outcomes ∧
    outcomes.map Prod.fst = FIELDS cls ∧ ∀ o ∈ outcomes, o.2 = .matched ∨ o.2 = .nullMatch

end FixedPoints

section Records

variable {pyd : Pydantic} {base : HarnessLibs Instance} {cls : ModelClass} {m : Instance}

theorem isCanonical_dump (h : StrictJsonMode pyd) {text : PyStr}
    (hvalid : ((schemaLibs pyd base).model cls).validate text = .ok m) :
    IsCanonical (schemaLibs pyd base) cls (((schemaLibs pyd base).model cls).dump m) :=
  ⟨m, (strictModel_canonical h hvalid).2.2 h.readable_dumps, rfl, m.keepsRules⟩

theorem canonical_of_isCanonical {libs : HarnessLibs Instance} {d : Record}
    (h : IsCanonical libs cls d) : canonical libs cls d = .ok d := by
  obtain ⟨m, hvalid, hdump, -⟩ := h
  rw [canonical, hvalid]
  exact congrArg Except.ok hdump

theorem scoresPerfectly_dump {libs : HarnessLibs Instance} {d expected : Record}
    (hwell : WellFormed (.obj d)) (hd : canonical libs cls d = .ok d)
    (hexpected : canonical libs cls expected = .ok d) : ScoresPerfectly libs cls d expected := by
  have hkeys := keys_of_canonical hd
  rw [WellFormed] at hwell
  refine ⟨d.map fun field =>
    (field.1, fieldOutcome (((Json.obj d).get? field.1).getD .null) field.2), ?_, ?_, ?_⟩
  · rw [scoreRecord, hd, hexpected]
    rfl
  · rw [List.map_map]
    exact hkeys
  · intro o ho
    obtain ⟨field, hfield, rfl⟩ := List.mem_map.mp ho
    have hself := pyEq_field hwell.2 field hfield
    rw [get?_of_mem hwell.1 hfield, Option.getD_some, fieldOutcome, if_pos hself]
    rcases field.2.isNull
    · exact Or.inl rfl
    · exact Or.inr rfl

end Records

/-! ## End to end -/

section EndToEnd

variable {S : Type}

/-- A text within the cap that is not blank, for a registered model, before the budget is spent. -/
structure Admissible (libs : HarnessLibs Instance) (cls : ModelClass) (request : ExtractRequest)
    (w : World S) : Prop where
  registered : resolve libs.toLibraries request.docType.value request.schemaVersion = .ok cls
  text : request.contentFormat = .text
  withinCap : request.content.length ≤ MAX_TEXT_CHARS
  nonblank : strip request.content ≠ []
  budget : w.budget.passes w.budget.spent = true

/-- The client's first call returns the text, at a cost and a latency that are floats. -/
structure AnswersWith (client : LLMClient) (text : PyStr) (result : CompletionResult) : Prop where
  returned : client.script 1 = .returned result
  text : result.text = text
  cost : IsDouble result.costUsd
  latency : IsDouble result.latencyMs

theorem preflight_of_admissible {libs : HarnessLibs Instance} {cls : ModelClass}
    {request : ExtractRequest} {w : World S} (h : Admissible libs cls request w)
    {env : Surroundings S} {client : LLMClient}
    (hclient : env.getClient request.provider = .ok client) :
    preflight libs.toLibraries env request w.budget = .ok (cls, request.content, client) := by
  have hcontent : resolveContent libs.pymupdfOpen request = .ok request.content := by
    rw [resolveContent, h.text]
    exact if_neg (Nat.not_lt.mpr h.withinCap)
  exact preflight_eq_ok_iff.mpr ⟨h.registered, hcontent, h.nonblank, h.budget, hclient⟩

theorem acceptsFirst_of_answersWith {client : LLMClient} {text : PyStr} {result : CompletionResult}
    (h : AnswersWith client text result) {model : StrictModel Instance} {m : Instance}
    (hvalid : model.validate text = .ok m) : AcceptsFirst client model 1 result m :=
  ⟨le_refl 1, fun i hi hle => absurd hi (by omega), h.returned, h.text ▸ hvalid⟩

/-- The response of an accepted dump, if it can be encoded, is read from each of its texts. -/
theorem validateResponse_buildResponse {pyd : Pydantic} (h : StrictJsonMode pyd)
    {request : ExtractRequest} {client : LLMClient} {data : Record} {result : CompletionResult}
    {attempts : ℕ} (hdata : WellFormed (.obj data)) (hdepth : depth (.obj data) ≤ 3)
    (hcost : IsDouble result.costUsd)
    (hlatency : IsDouble result.latencyMs)
    (hencodable : (buildResponse request client data result attempts).encodable = true)
    {layout : Layout} (hread : Readable layout pyd.number) :
    validateResponse pyd
        (write layout (buildResponse request client data result attempts).toJson) =
      .ok (buildResponse request client data result attempts) := by
  have hwell := wellFormed_extractResponse hencodable hdata (wellFormed_fieldConfidence hdata)
    hcost hlatency
  have hresponse : depth (buildResponse request client data result attempts).toJson ≤ 4 :=
    depth_extractResponse hdepth (by decide)
  exact validateResponse_write h hread hwell (hresponse.trans (by decide))

theorem encodable_of_renderExtract {response : ExtractResponse} {header : Option PyStr}
    {http : HttpResponse} (h : renderExtract (response, header) = .ok http) :
    response.encodable = true ∧ http.status = 200 ∧ http.body = some response.toJson := by
  unfold renderExtract jsonResponse at h
  split_ifs at h with hrenders
  cases h
  rw [Bool.and_eq_true] at hrenders
  exact ⟨hrenders.1, rfl, rfl⟩

theorem renderExtract_of_encodable {response : ExtractResponse} (h : response.encodable = true) :
    ∃ http, renderExtract (response, none) = .ok http := by
  rw [ExtractResponse.encodable] at h
  simp [renderExtract, jsonResponse, h]

theorem reportedResult_one {client : LLMClient} {text : PyStr} {result : CompletionResult}
    (h : AnswersWith client text result) :
    (reportedResult client 1 result).costUsd = result.costUsd ∧
      (reportedResult client 1 result).latencyMs = result.latencyMs := by
  simp [reportedResult, LLMClient.total, h.returned, CallOutcome.ownCost, CallOutcome.latencyMs]

/-- **Canonical records are fixed points, and a perfect answer scores perfectly.**  The dump of an
    accepted record is accepted again, dumps to itself and keeps the cross-field rules.  A client
    that answers with the record's `json.dumps` makes the retry loop succeed at its first attempt;
    the response carries the dump through its rendered text and through its stored text, and what
    is read back has a match in every field of the model. -/
theorem canonical_record_scores_perfectly (pyd : Pydantic) (hpyd : StrictJsonMode pyd)
    (base : HarnessLibs Instance) (cls : ModelClass) (r : Record) (m : Instance)
    (haccepted : ((schemaLibs pyd base).model cls).validate
      ((schemaLibs pyd base).jsonDumps (.obj r)) = .ok m) :
    let libs := schemaLibs pyd base
    let d := (libs.model cls).dump m
    IsCanonical libs cls d ∧
      ∀ {S : Type} (env : Surroundings S) (request : ExtractRequest) (w : World S)
        (client : LLMClient) (result : CompletionResult),
        Admissible libs cls request w → env.getClient request.provider = .ok client →
        AnswersWith client (libs.jsonDumps (.obj r)) result →
        (∀ (system content : PyStr) (maxTokens : ℕ) (observer : RetryObserver S) (w₀ : World S),
          ∃ reported w₁, (runExtraction client (libs.model cls) system content maxTokens
            MAX_ATTEMPTS observer).run w₀ = .ok (m, reported, 1) w₁) ∧
        ∃ response w', (runExtract libs.toLibraries env request).run w = .ok response w' ∧
          response.data = d ∧ response.extractMeta.attempts = 1 ∧
          (∀ header http, renderExtract (response, header) = .ok http →
            ∃ body read, http.status = 200 ∧ http.body = some body ∧
              libs.validateResponse (renderedText pyd body) = .ok read ∧ read.data = d ∧
              ScoresPerfectly libs cls read.data r) ∧
          (encodable client.provider = true → encodable result.model = true →
            ∃ http, renderExtract (response, none) = .ok http) ∧
          ∀ text, dumpResponse libs.toLibraries response = .ok text →
            parseResponse libs.toLibraries text = .ok response := by
  intro libs d
  obtain ⟨hwell, hdepth, -⟩ := strictModel_canonical hpyd haccepted
  have hfixed : IsCanonical libs cls d := isCanonical_dump hpyd haccepted
  have hcanonical : canonical libs cls d = .ok d := canonical_of_isCanonical hfixed
  have hlabel : canonical libs cls r = .ok d :=
    congrArg (Except.map (libs.model cls).dump) haccepted
  refine ⟨hfixed, ?_⟩
  intro S env request w client result hadmissible hclient hanswers
  -- the one call is accepted, so the run ends with it
  have hends : EndsAs client (libs.model cls) MAX_ATTEMPTS (.accepted 1 result m) :=
    ⟨by decide, acceptsFirst_of_answersWith hanswers haccepted⟩
  constructor
  · intro system content maxTokens observer w₀
    obtain ⟨w₁, -, hrun⟩ :=
      runExtraction_of_endsAs system content maxTokens observer w₀ hends
    exact ⟨_, w₁, hrun⟩
  · have hpreflight := preflight_of_admissible hadmissible hclient
    obtain ⟨w', hrun, -⟩ := runExtract_of_preflight_ok hpreflight hends
    obtain ⟨hcost, hlatency⟩ := reportedResult_one hanswers
    have hread := fun hencodable => @validateResponse_buildResponse pyd hpyd request client d
      (reportedResult client 1 result) 1 hwell hdepth (hcost ▸ hanswers.cost)
      (hlatency ▸ hanswers.latency) hencodable
    -- the response is read back from the wire, and from the row of the store
    refine ⟨_, w', hrun, rfl, rfl, ?_, ?_, ?_⟩
    · intro header http hrender
      obtain ⟨hencodable, hstatus, hbody⟩ := encodable_of_renderExtract hrender
      exact ⟨_, _, hstatus, hbody, hread hencodable hpyd.readable_render, rfl,
        scoresPerfectly_dump hwell hcanonical hlabel⟩
    · intro hprovider hmodel
      have hversion := (encodable_of_resolve hadmissible.registered).2
      exact renderExtract_of_encodable (encodable_extractResponse hwell
        (wellFormed_fieldConfidence hwell) hprovider hmodel hversion)
    · intro text hdump
      unfold dumpResponse at hdump
      split_ifs at hdump with hencodable
      cases hdump
      exact congrArg (Except.mapError PyExc.other) (hread hencodable hpyd.readable_model)

end EndToEnd

/-! ## A sample answer -/

/-- The invoice of the samples. -/
def sampleInvoice : InvoiceV1 :=
  ⟨{ invoiceNumber := py "1"
     issueDate := ⟨2026, 1, 1, by decide⟩
     dueDate := none
     currency := ⟨py "GBP", rfl⟩
     subtotalMinor := 1
     taxMinor := none
     totalMinor := 1
     vendorName := py "V"
     vendorTaxId := none
     buyerName := none
     lineItems := none }, rfl⟩

def sampleSchemaLibs : HarnessLibs Instance :=
  schemaLibs samplePydantic
    { sampleHarnessLibs with
      model := strictModel samplePydantic
      dump_keys := dump_keys_strictModel samplePydantic }

theorem validate_invoiceData :
    (sampleSchemaLibs.model .InvoiceV1).validate (sampleSchemaLibs.jsonDumps (.obj invoiceData)) =
      .ok (.invoice sampleInvoice) := by
  have hwell : WellFormed (.obj invoiceData) := by decide
  have hloads := strictJsonMode_samplePydantic.loads_write
    strictJsonMode_samplePydantic.readable_dumps hwell (by decide)
  have hlawful : (invoiceV1 samplePydantic).Lawful 3 :=
    ((lawful_invoiceFields strictJsonMode_samplePydantic).record
      (nodup_FIELDS .InvoiceV1)).checked ..
  have hdump : Json.obj invoiceData = (invoiceV1 samplePydantic).encode sampleInvoice := rfl
  have hdecode := hlawful.decode_encode sampleInvoice
  rw [← hdump] at hdecode
  have hvalid : validateJson samplePydantic (invoiceV1 samplePydantic)
      (write samplePydantic.dumpsLayout (.obj invoiceData)) = .ok sampleInvoice := by
    rw [validateJson, hloads]
    exact hdecode
  have hvalidate : ∀ text, (sampleSchemaLibs.model .InvoiceV1).validate text =
      (validateJson samplePydantic (invoiceV1 samplePydantic) text).map .invoice := fun _ => rfl
  have hdumps : sampleSchemaLibs.jsonDumps = write samplePydantic.dumpsLayout := rfl
  rw [hvalidate, hdumps, hvalid]
  rfl

theorem canonical_record_scores_perfectly_invoice :
    ∃ response w' http body read,
      (runExtract sampleSchemaLibs.toLibraries
        (sampleSurroundings (sampleSchemaLibs.jsonDumps (.obj invoiceData))) sampleRequest).run
          (freshWorld () 10) = .ok response w' ∧
        response.data = (sampleSchemaLibs.model .InvoiceV1).dump (.invoice sampleInvoice) ∧
        renderExtract (response, none) = .ok http ∧ http.body = some body ∧
        sampleSchemaLibs.validateResponse (renderedText samplePydantic body) = .ok read ∧
        ScoresPerfectly sampleSchemaLibs .InvoiceV1 read.data invoiceData := by
  have hdouble : IsDouble 1 := isDouble_intCast (by norm_num : |(1 : ℤ)| < 2 ^ 53)
  obtain ⟨-, hall⟩ := canonical_record_scores_perfectly samplePydantic
    strictJsonMode_samplePydantic _ .InvoiceV1 invoiceData (.invoice sampleInvoice)
    validate_invoiceData
  obtain ⟨-, response, w', hrun, hdata, -, hrendered, hrenders, -⟩ :=
    hall (sampleSurroundings (sampleSchemaLibs.jsonDumps (.obj invoiceData))) sampleRequest
      (freshWorld () 10) _ (sampleResult _) ⟨rfl, rfl, by decide, by decide, by decide⟩ rfl
      ⟨rfl, rfl, hdouble, hdouble⟩
  obtain ⟨http, hhttp⟩ := hrenders (encodable_py "openai") (encodable_py "gpt")
  obtain ⟨body, read, -, hbody, hread, -, hscore⟩ := hrendered none http hhttp
  exact ⟨response, w', http, body, read, hrun, hdata, hhttp, hbody, hread, hscore⟩

end ExtractApi
