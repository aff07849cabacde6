import ExtractApi.AuthBoundary
import ExtractApi.ClientResolution
import ExtractApi.ExtractRequests
import ExtractApi.PdfExtraction

/-!
# Posts without a key

What the service makes of a `POST /v1/extract` without an `Idempotency-Key`.  Up to the
provider call it can only refuse: with an error code, no cost in the body, and the budget,
the store and the calls as they were.  Past it, the end of the client's script decides the
answer, the charge and the calls.  `served_of_post` says which of the two it is.
-/

namespace ExtractApi

open PythonText JsonValue RaisingProgram

variable {S M V : Type}

/-! ## Refusals -/

/-- An error response with the code, and with no cost. -/
structure Refusal (code : ErrorCode) (r : HttpResponse) : Prop where
  status : r.status = STATUS_BY_CODE code
  error : r.errorField = some (.str code.value)
  costless : (r.body.bind fun body => body.get? (py "cost_usd")) = none

theorem refusal_of_codeBody {code : ErrorCode} {detail : Json} {r : HttpResponse}
    (h : r.Carries (STATUS_BY_CODE code, .obj (codeBody code detail))) : Refusal code r := by
  obtain ⟨hstatus, hbody⟩ := h
  refine ⟨hstatus, ?_, ?_⟩
  · rw [HttpResponse.errorField, hbody]
    exact get?_codeBody_error code detail
  · rw [hbody]
    rfl

theorem refusal_of_internal {r : HttpResponse} (h : r.Carries internalAnswer) :
    Refusal .internalError r := refusal_of_codeBody h

/-- A refusal that cannot be rendered is an internal error. -/
theorem refusal_of_rendered {code : ErrorCode} {detail : PyStr} {r : HttpResponse}
    (h : r.Carries (renderedAnswer code (codeBody code (.str detail)) [])) :
    Refusal code r ∨ Refusal .internalError r := by
  unfold renderedAnswer at h
  split at h
  · exact Or.inl (refusal_of_codeBody h)
  · exact Or.inr (refusal_of_internal h)

/-- The codes of what is wrong with a request or with the service's set-up. -/
def preliminaryCodes : List ErrorCode := [.validationFailed, .unsupportedDocType, .internalError]

/-- The exceptions before the first provider call, but for the budget's. -/
inductive Preliminary : PyExc → Prop
  | content {detail : PyStr} : detail ≠ [] →
      Preliminary (.extractError { code := .validationFailed, detail := detail })
  | schema (message : PyStr) : Preliminary (.unknownSchema message)
  | body (errors : List ErrorDetails) : Preliminary (.requestValidationError errors)
  | unreadable : Preliminary bodyParsingError
  | client : Preliminary valueError

theorem toBody_of_detail (code : ErrorCode) {detail : PyStr} (h : detail ≠ []) :
    ExtractError.toBody { code := code, detail := detail } = codeBody code (.str detail) := by
  simp [ExtractError.toBody, codeBody, h]

theorem refusal_of_preliminary {exc : PyExc} (h : Preliminary exc) {r : HttpResponse}
    (hr : r.Carries (exceptionAnswer exc)) : ∃ code ∈ preliminaryCodes, Refusal code r := by
  have hrendered : ∀ code ∈ preliminaryCodes, ∀ detail,
      r.Carries (renderedAnswer code (codeBody code (.str detail)) []) →
      ∃ code ∈ preliminaryCodes, Refusal code r := by
    intro code hcode detail hcarries
    rcases refusal_of_rendered hcarries with hrefusal | hrefusal
    · exact ⟨code, hcode, hrefusal⟩
    · exact ⟨.internalError, by decide, hrefusal⟩
  rcases h with hdetail | message | errors | _ | _
  · rename_i detail
    apply hrendered .validationFailed (by decide) detail
    rw [← toBody_of_detail _ hdetail]
    exact hr
  · exact hrendered .unsupportedDocType (by decide) message hr
  · refine hrendered (requestValidationCode errors) ?_ _ hr
    unfold requestValidationCode
    split <;> decide
  · exact ⟨.internalError, by decide, refusal_of_internal hr⟩
  · exact ⟨.internalError, by decide, refusal_of_internal hr⟩

theorem refusal_of_budgetExceeded {r : HttpResponse}
    (hr : r.Carries (exceptionAnswer (.extractError budgetExceeded))) :
    Refusal .budgetExceeded r := by
  have hanswer : exceptionAnswer (.extractError budgetExceeded) =
      (STATUS_BY_CODE .budgetExceeded, .obj (codeBody .budgetExceeded
        (.str (py "the per-run budget has been reached")))) := by
    have hbody : budgetExceeded.toBody = codeBody .budgetExceeded
        (.str (py "the per-run budget has been reached")) := toBody_of_detail _ (by decide)
    show renderedAnswer .budgetExceeded budgetExceeded.toBody [] = _
    rw [hbody]
    exact renderedAnswer_of_encodable (encodable_codeBody _ (encodable_py _))
  rw [hanswer] at hr
  exact refusal_of_codeBody hr

/-! ## Before the first call -/

theorem preliminary_of_parseBody {fw : Framework V} {scope : Scope} {body : List Byte}
    {exc : PyExc} (h : parseBody fw scope body = .error exc) : Preliminary exc := by
  have hvalidated : ∀ value,
      RaisesOnly Preliminary ((fw.validateBody value).mapError PyExc.requestValidationError) := by
    intro value
    rcases fw.validateBody value with errors | request
    · exact .error (.body errors)
    · exact .ok request
  have honly : RaisesOnly Preliminary (parseBody fw scope body) := by
    unfold parseBody
    by_cases hempty : body = []
    · rw [if_pos hempty]
      exact hvalidated .absent
    · rw [if_neg hempty]
      by_cases hjson : fw.isJson scope = true
      · rw [if_pos hjson]
        rcases fw.jsonLoads body with ⟨pos, msg⟩ | value
        · exact .error (.body _)
        · exact .error .unreadable
        · exact hvalidated (.json value)
      · rw [if_neg hjson]
        exact hvalidated (.raw body)
  exact honly exc h

section Preflight

variable {libs : Libraries M} {request : ExtractRequest} (env : Surroundings S)

/-- The request is one that only the budget or the client can still stop. -/
structure Resolves (libs : Libraries M) (request : ExtractRequest) (modelCls : ModelClass)
    (content : PyStr) : Prop where
  schema : resolve libs request.docType.value request.schemaVersion = .ok modelCls
  text : resolveContent libs.pymupdfOpen request = .ok content
  notBlank : strip content ≠ []

theorem Resolves.preflight_eq {modelCls : ModelClass} {content : PyStr}
    (h : Resolves libs request modelCls content) (budget : BudgetGuard) :
    preflight libs env request budget =
      if budget.passes budget.spent = false then .error (.extractError budgetExceeded)
      else (env.getClient request.provider).map fun client => (modelCls, content, client) := by
  unfold preflight
  rw [h.schema, h.text]
  exact if_neg h.notBlank

theorem preflight_of_not_resolves
    (h : ∀ modelCls content, ¬ Resolves libs request modelCls content) (budget : BudgetGuard) :
    ∃ exc, preflight libs env request budget = .error exc ∧ Preliminary exc := by
  unfold preflight
  rcases hschema : resolve libs request.docType.value request.schemaVersion with exc | modelCls
  · refine ⟨exc, rfl, ?_⟩
    unfold resolve at hschema
    split at hschema
    · cases hschema
    · cases hschema
      exact .schema _
  · rcases htext : resolveContent libs.pymupdfOpen request with e | content
    · obtain ⟨detail, rfl, hdetail⟩ := resolveContent_raisesOnly _ _ e htext
      exact ⟨_, rfl, .content hdetail⟩
    · have hblank : strip content = [] := by
        by_contra hne
        exact h modelCls content ⟨hschema, htext, hne⟩
      exact ⟨_, if_pos hblank, .content (by decide)⟩

end Preflight

/-! ## What a post leaves behind -/

/-- The budget, the stored replies and the provider calls. -/
def World.holdings (w : World S) : BudgetGuard × S × List ProviderCall :=
  (w.budget, w.store, w.calls)

theorem quiet_holdings : Quiet (World.holdings (S := S)) where
  logged _ _ _ := rfl
  noted _ _ _ := rfl

/-- What the application does around `reply` holds nothing. -/
theorem holdings_handleRequest (process : Process S M V) (occasion : Occasion S) {scope : Scope}
    (hhttp : scope.type = .http) (incoming : List ReceiveMessage) (w : World S) :
    (handleRequest process occasion scope incoming w).world.holdings =
      (finalState ((reply process occasion scope incoming).run { w with facts := some ∅ })).holdings
      := by
  have hspec := handleRequest_spec process occasion hhttp incoming w
  rcases hreply : (reply process occasion scope incoming).run { w with facts := some ∅ } with
    ⟨r, w'⟩ | ⟨exc, w'⟩
  · rw [hreply] at hspec
    obtain ⟨route, -, hworld⟩ := hspec
    rw [hworld]
    rfl
  · rw [hreply] at hspec
    obtain ⟨route, r, hunexpected, -, -⟩ := hspec
    have hholdings := (quiet_holdings.handleUnexpected _ exc).of_ok hunexpected
    exact hholdings

/-- An http `POST /v1/extract` without a key. -/
structure IsPost (scope : Scope) : Prop where
  http : scope.type = .http
  method : scope.method = py "POST"
  path : getRoutePath scope = EXTRACT_PATH
  keyless : idempotencyKey scope = none

theorem IsPost.guarded {scope : Scope} (h : IsPost scope) : isOpenPath scope = false :=
  isOpenPath_of_extract h.path

theorem IsPost.reads {scope : Scope} (h : IsPost scope) : readsBody scope = true :=
  readsBody_of_extract h.method h.path

section Served

variable (process : Process S M V) (occasion : Occasion S) (scope : Scope)
  (incoming : List ReceiveMessage) (w : World S)

/-- The messages hold the request that the endpoint is run on. -/
def Parses (request : ExtractRequest) : Prop :=
  ∃ body, Reaches process scope incoming body ∧ parseBody process.framework scope body = .ok request

/-- The post is answered with the code, and nothing comes of it. -/
def Refused (code : ErrorCode) : Prop :=
  ∃ r : HttpResponse, (handleRequest process occasion scope incoming w).sent = r.messages ∧
    Refusal code r ∧ (handleRequest process occasion scope incoming w).world.holdings = w.holdings

/-- The key of the post is none of those whose hashes are configured. -/
def Unauthorized : Prop :=
  process.environment.keyHashes ≠ [] ∧
    presentsKey process.libs.sha256 process.environment.keyHashes scope = false

/-- Nothing but the budget and the client stands between the post and a provider call. -/
def ReachesBudget (request : ExtractRequest) (modelCls : ModelClass) (content : PyStr) : Prop :=
  Parses process scope incoming request ∧ Resolves process.libs request modelCls content

/-- The post is extracted: the provider is called until the script ends as `e`. -/
structure Extracted (request : ExtractRequest) (modelCls : ModelClass) (content : PyStr)
    (client : LLMClient) (e : ScriptEnd M) : Prop where
  reaches : ReachesBudget process scope incoming request modelCls content
  passes : w.budget.passes w.budget.spent = true
  resolved : occasion.getClient request.provider = .ok client
  ends : EndsAs client (process.libs.model modelCls) MAX_ATTEMPTS e
  answered : ∃ r : HttpResponse,
    (handleRequest process occasion scope incoming w).sent = r.messages ∧
      r.Carries (httpAnswer (e.answer request client (process.libs.model modelCls) MAX_ATTEMPTS))
  charged : (handleRequest process occasion scope incoming w).world.holdings =
    (w.budget.charge (e.charged client MAX_ATTEMPTS), w.store,
      w.calls ++ callsThrough client (process.libs.model modelCls)
        (buildSystemPrompt request.docType.value) content DEFAULT_MAX_TOKENS
        (e.calls MAX_ATTEMPTS))

/-- The four things that can come of a post. -/
inductive Served : Prop
  | unauthorized : Unauthorized process scope →
      Refused process occasion scope incoming w .unauthorized → Served
  | overBudget {request : ExtractRequest} {modelCls : ModelClass} {content : PyStr} :
      ReachesBudget process scope incoming request modelCls content →
      w.budget.passes w.budget.spent = false →
      Refused process occasion scope incoming w .budgetExceeded → Served
  | refused {code : ErrorCode} : code ∈ preliminaryCodes → ¬ Unauthorized process scope →
      (∀ request modelCls content, ReachesBudget process scope incoming request modelCls content →
        w.budget.passes w.budget.spent = true ∧
          ∀ client, occasion.getClient request.provider ≠ .ok client) →
      Refused process occasion scope incoming w code → Served
  | extracted {request : ExtractRequest} {modelCls : ModelClass} {content : PyStr}
      {client : LLMClient} {e : ScriptEnd M} :
      Extracted process occasion scope incoming w request modelCls content client e → Served

end Served

section ServedOfPost

variable {process : Process S M V} {occasion : Occasion S} {scope : Scope}
  {incoming : List ReceiveMessage} {w : World S}

theorem Refused.held {code : ErrorCode} (h : Refused process occasion scope incoming w code) :
    (handleRequest process occasion scope incoming w).world.holdings = w.holdings := by
  obtain ⟨r, -, -, hholdings⟩ := h
  exact hholdings

theorem Served.refused_or_extracted (h : Served process occasion scope incoming w) :
    (∃ code, Refused process occasion scope incoming w code) ∨
      ∃ request modelCls content client e,
        Extracted process occasion scope incoming w request modelCls content client e := by
  rcases h with ⟨-, hrefused⟩ | ⟨-, -, hrefused⟩ | ⟨-, -, -, hrefused⟩ | hextracted
  · exact Or.inl ⟨_, hrefused⟩
  · exact Or.inl ⟨_, hrefused⟩
  · exact Or.inl ⟨_, hrefused⟩
  · exact Or.inr ⟨_, _, _, _, _, hextracted⟩

variable (occasion incoming w) in
theorem refused_of_rejected (hpost : IsPost scope)
    (hkey : presentsKey process.libs.sha256 process.environment.keyHashes scope = false) :
    Refused process occasion scope incoming w
      (if process.environment.keyHashes = [] then .internalError else .unauthorized) := by
  obtain ⟨hsent, -, hcalls, hstore, hbudget⟩ :=
    handleRequest_of_refused occasion hpost.http hpost.guarded hkey incoming w
  have hholdings : (handleRequest process occasion scope incoming w).world.holdings =
      w.holdings := by rw [World.holdings, hbudget, hstore, hcalls, World.holdings]
  by_cases hnone : process.environment.keyHashes = []
  · rw [if_pos hnone]
    refine ⟨_, hsent, ?_, hholdings⟩
    apply refusal_of_codeBody
    rw [decide_eq_false (not_not.mpr hnone)]
    exact ⟨rfl, rfl⟩
  · rw [if_neg hnone]
    refine ⟨_, hsent, ?_, hholdings⟩
    apply refusal_of_codeBody
    rw [decide_eq_true hnone]
    exact ⟨rfl, rfl⟩

theorem refused_of_unauthorized (hpost : IsPost scope) (h : Unauthorized process scope) :
    Refused process occasion scope incoming w .unauthorized := by
  have hrefused := refused_of_rejected occasion incoming w hpost h.2
  rwa [if_neg h.1] at hrefused

theorem served_of_rejected (hpost : IsPost scope)
    (hkey : presentsKey process.libs.sha256 process.environment.keyHashes scope = false) :
    Served process occasion scope incoming w := by
  by_cases hnone : process.environment.keyHashes = []
  · have hrefused := refused_of_rejected occasion incoming w hpost hkey
    rw [if_pos hnone] at hrefused
    have hcode : ErrorCode.internalError ∈ preliminaryCodes := by decide
    refine .refused hcode (fun h => h.1 hnone) ?_ hrefused
    rintro request modelCls content ⟨⟨body, hreaches, -⟩, -⟩
    rw [hreaches.authenticated] at hkey
    cases hkey
  · exact .unauthorized ⟨hnone, hkey⟩ (refused_of_unauthorized hpost ⟨hnone, hkey⟩)

theorem sent_of_tooLarge {limit : ℕ} {w' : World S} (hpost : IsPost scope)
    (hreply : (reply process occasion scope incoming).run { w with facts := some ∅ } =
      (bodyTooLargeResponse limit).run w') :
    ∃ r : HttpResponse, (handleRequest process occasion scope incoming w).sent = r.messages ∧
      ∃ code ∈ preliminaryCodes, Refusal code r := by
  have hdelivers := delivers_of_ensures (errorResponse_carries .validationFailed
    (codeBody .validationFailed
      (.str (py "request body exceeds the " ++ decimal limit ++ py "-byte limit"))) []) w'
  obtain ⟨r, hsent, hcarries⟩ := sent_of_reply hpost.http (hreply ▸ hdelivers)
  refine ⟨r, hsent, ?_⟩
  rcases refusal_of_rendered hcarries with hrefusal | hrefusal
  · exact ⟨.validationFailed, by decide, hrefusal⟩
  · exact ⟨.internalError, by decide, hrefusal⟩

variable (occasion w) in
/-- A post whose body the endpoint cannot be run on. -/
theorem sent_of_unparsed (hpost : IsPost scope)
    (hauth : presentsKey process.libs.sha256 process.environment.keyHashes scope = true)
    (hnone : ∀ request, ¬ Parses process scope incoming request) :
    ∃ r : HttpResponse, (handleRequest process occasion scope incoming w).sent = r.messages ∧
      ∃ code ∈ preliminaryCodes, Refusal code r := by
  obtain ⟨w', -, hrun⟩ :=
    reply_of_authenticated occasion hpost.guarded hauth incoming { w with facts := some ∅ }
  unfold capped at hrun
  simp only at hrun
  split_ifs at hrun with hdeclared hover
  · exact sent_of_tooLarge hpost hrun
  · exact sent_of_tooLarge hpost hrun
  · have hfits : readMessages (some process.environment.maxBodyBytes) [] incoming ≠ .tooLarge :=
      fun htoo => hover ⟨hpost.reads, htoo⟩
    have hdispatch : ∀ body, dispatch process occasion scope body =
        extractReply process occasion scope body := by
      intro body
      unfold dispatch
      rw [routing_of_extract hpost.method hpost.path]
      rfl
    -- an exception before the endpoint becomes a refusal of its own
    have hanswered : ∀ exc, Preliminary exc →
        answerOf ((extractReply process occasion scope
          (readMessages (some process.environment.maxBodyBytes) [] incoming)).run w') =
            .error exc →
        ∃ r : HttpResponse, (handleRequest process occasion scope incoming w).sent = r.messages ∧
          ∃ code ∈ preliminaryCodes, Refusal code r := by
      intro exc hexc hraised
      rw [← hdispatch] at hraised
      obtain ⟨r, hsent, hcarries⟩ := sent_of_raised hpost.http hrun hraised
      exact ⟨r, hsent, refusal_of_preliminary hexc hcarries⟩
    rcases hread : readMessages (some process.environment.maxBodyBytes) [] incoming with
      body | _ | _
    · have hreaches : Reaches process scope incoming body :=
        ⟨hpost.guarded, hauth, by simpa using hdeclared, hpost.reads, hread⟩
      rcases hparse : parseBody process.framework scope body with exc | request
      · rw [hread] at hanswered
        apply hanswered exc
        · exact preliminary_of_parseBody hparse
        · simp [extractReply, extractEndpoint, liftExcept, hparse, answerOf]
      · exact absurd ⟨body, hreaches, hparse⟩ (hnone request)
    · rw [hread] at hanswered
      exact hanswered bodyParsingError .unreadable rfl
    · exact absurd hread hfits

theorem Aftermath.holdings {w w' : World S} {made : List ProviderCall} {charged : ℚ}
    {noted : Option ℚ} (h : Aftermath w w' made charged noted) :
    w'.holdings = (w.budget.charge charged, w.store, w.calls ++ made) := by
  rw [World.holdings, h.budget, h.store, h.calls]

/-- Without a key, the endpoint answers and holds what `_run_extract` does. -/
theorem extract_keyless (libs : Libraries M) (env : Surroundings S) (request : ExtractRequest)
    (w : World S) :
    ∃ u : World S, u.holdings = w.holdings ∧
      (answerOf ((extract libs env request none).run w)).map Prod.fst =
        answerOf ((runExtract libs env request).run u) ∧
      (finalState ((extract libs env request none).run w)).holdings =
        (finalState ((runExtract libs env request).run u)).holdings := by
  obtain ⟨u, hnote, hledger, hcalls⟩ := run_noteRequest request false w
  have hholdings : u.holdings = w.holdings := by
    simp only [World.ledger, Prod.mk.injEq] at hledger
    rw [World.holdings, hledger.1, hledger.2.1, hcalls, World.holdings]
  refine ⟨u, hholdings, ?_⟩
  unfold extract
  simp only [Option.isSome_none, EStateM.run_bind, hnote]
  rcases (runExtract libs env request).run u with ⟨response, u'⟩ | ⟨exc, u'⟩
  · exact ⟨rfl, rfl⟩
  · exact ⟨rfl, rfl⟩

theorem Parses.not_unauthorized {request : ExtractRequest}
    (h : Parses process scope incoming request) : ¬ Unauthorized process scope := by
  obtain ⟨body, hreaches, -⟩ := h
  rintro ⟨-, hkey⟩
  rw [hreaches.authenticated] at hkey
  cases hkey

theorem Parses.unique {request request' : ExtractRequest}
    (h : Parses process scope incoming request) (h' : Parses process scope incoming request') :
    request' = request := by
  obtain ⟨body, hreaches, hparse⟩ := h
  obtain ⟨body', hreaches', hparse'⟩ := h'
  have hcomplete := hreaches.complete.symm.trans hreaches'.complete
  cases hcomplete
  rw [hparse, Except.ok.injEq] at hparse'
  exact hparse'.symm

section Flow

variable (occasion w)

/-- The post is answered as the flow answers in a world that holds the same, and holds then
    what the flow leaves. -/
theorem flow_of_parses (hpost : IsPost scope) {request : ExtractRequest}
    (hparses : Parses process scope incoming request) :
    ∃ (r : HttpResponse) (u : World S), u.holdings = w.holdings ∧
      (handleRequest process occasion scope incoming w).sent = r.messages ∧
      r.Carries (httpAnswer (answerOf
        ((runExtract process.libs occasion.toSurroundings request).run u))) ∧
      (handleRequest process occasion scope incoming w).world.holdings =
        (finalState ((runExtract process.libs occasion.toSurroundings request).run u)).holdings
      := by
  obtain ⟨body, hreaches, hparse⟩ := hparses
  obtain ⟨w', hquietly, hreply⟩ := reply_of_reaches occasion hreaches { w with facts := some ∅ }
  obtain ⟨r, hsent, hcarries⟩ := sent_answers hpost.http hreply hparse
  have hreplied := holdings_handleRequest process occasion hpost.http incoming w
  rw [hreply, quiet_holdings.tryCatch_handleException, finalState_extractEndpoint hparse,
    hpost.keyless] at hreplied
  rw [hpost.keyless] at hcarries
  obtain ⟨u, hu, hanswer, hheld⟩ :=
    extract_keyless process.libs occasion.toSurroundings request w'
  rw [hanswer] at hcarries
  rw [hheld] at hreplied
  exact ⟨r, u, hu.trans (hquietly quiet_holdings), hsent, hcarries, hreplied⟩

theorem answered_of_preflight_error (hpost : IsPost scope) {request : ExtractRequest}
    (hparses : Parses process scope incoming request) {exc : PyExc}
    (hexc : preflight process.libs occasion.toSurroundings request w.budget = .error exc) :
    ∃ r : HttpResponse, (handleRequest process occasion scope incoming w).sent = r.messages ∧
      r.Carries (exceptionAnswer exc) ∧
      (handleRequest process occasion scope incoming w).world.holdings = w.holdings := by
  obtain ⟨r, u, hsame, hsent, hcarries, hheld⟩ := flow_of_parses occasion w hpost hparses
  have hbudget : u.budget = w.budget := congrArg Prod.fst hsame
  rw [← hbudget] at hexc
  obtain ⟨u', hrun, hafter⟩ := runExtract_of_preflight_error hexc
  rw [hrun] at hcarries hheld
  refine ⟨r, hsent, hcarries, hheld.trans ?_⟩
  rw [finalState_error, hafter.holdings, BudgetGuard.charge_zero, List.append_nil]
  exact hsame

theorem extracted_of_client (hpost : IsPost scope) {request : ExtractRequest}
    {modelCls : ModelClass} {content : PyStr} {client : LLMClient}
    (hreaches : ReachesBudget process scope incoming request modelCls content)
    (hpasses : w.budget.passes w.budget.spent = true)
    (hclient : occasion.getClient request.provider = .ok client) :
    ∃ e, Extracted process occasion scope incoming w request modelCls content client e := by
  obtain ⟨r, u, hsame, hsent, hcarries, hheld⟩ := flow_of_parses occasion w hpost hreaches.1
  have hbudget : u.budget = w.budget := congrArg Prod.fst hsame
  have hstore : u.store = w.store := congrArg (fun h => h.2.1) hsame
  have hcalls : u.calls = w.calls := congrArg (fun h => h.2.2) hsame
  have hready : preflight process.libs occasion.toSurroundings request u.budget =
      .ok (modelCls, content, client) := by
    rw [hreaches.2.preflight_eq, hbudget, if_neg (by simp [hpasses]), hclient]
    rfl
  obtain ⟨e, he⟩ := exists_endsAs client (process.libs.model modelCls) MAX_ATTEMPTS
  obtain ⟨u', hrun, hafter⟩ := runExtract_of_preflight_ok hready he
  rw [hrun, answerOf_outcomeIn] at hcarries
  rw [hrun, finalState_outcomeIn, hafter.holdings, hbudget, hstore, hcalls] at hheld
  exact ⟨e, hreaches, hpasses, hclient, he, ⟨r, hsent, hcarries⟩, hheld⟩

end Flow

theorem served_of_parses (hpost : IsPost scope) {request : ExtractRequest}
    (hclients : ∀ provider, OnlyValueError (occasion.getClient provider))
    (hparses : Parses process scope incoming request) :
    Served process occasion scope incoming w := by
  -- a preflight that fails for another reason than the budget
  have hpreliminary : ∀ exc, Preliminary exc →
      preflight process.libs occasion.toSurroundings request w.budget = .error exc →
      (∀ modelCls content, Resolves process.libs request modelCls content →
        w.budget.passes w.budget.spent = true ∧
          ∀ client, occasion.getClient request.provider ≠ .ok client) →
      Served process occasion scope incoming w := by
    intro exc hexc hpreflight hnone
    obtain ⟨r, hsent, hcarries, hholdings⟩ :=
      answered_of_preflight_error occasion w hpost hparses hpreflight
    obtain ⟨code, hcode, hrefusal⟩ := refusal_of_preliminary hexc hcarries
    refine .refused hcode hparses.not_unauthorized ?_ ⟨r, hsent, hrefusal, hholdings⟩
    rintro request' modelCls content ⟨hparses', hresolves⟩
    obtain rfl := hparses.unique hparses'
    exact hnone modelCls content hresolves
  by_cases hresolves : ∃ modelCls content, Resolves process.libs request modelCls content
  · obtain ⟨modelCls, content, hresolves⟩ := hresolves
    have hpreflight := hresolves.preflight_eq occasion.toSurroundings w.budget
    cases hpasses : w.budget.passes w.budget.spent with
    | false =>
      rw [if_pos hpasses] at hpreflight
      obtain ⟨r, hsent, hcarries, hholdings⟩ :=
        answered_of_preflight_error occasion w hpost hparses hpreflight
      exact .overBudget ⟨hparses, hresolves⟩ hpasses
        ⟨r, hsent, refusal_of_budgetExceeded hcarries, hholdings⟩
    | true =>
      rcases hclient : occasion.getClient request.provider with exc | client
      · obtain rfl := hclients _ exc hclient
        rw [if_neg (by simp [hpasses]), hclient] at hpreflight
        apply hpreliminary _ .client hpreflight
        intro modelCls' content' _
        refine ⟨hpasses, ?_⟩
        intro client
        rw [hclient]
        simp
      · obtain ⟨e, hextracted⟩ :=
          extracted_of_client occasion w hpost ⟨hparses, hresolves⟩ hpasses hclient
        exact .extracted hextracted
  · have hnone : ∀ modelCls content, ¬ Resolves process.libs request modelCls content :=
      fun modelCls content h => hresolves ⟨modelCls, content, h⟩
    obtain ⟨exc, hexc, hearly⟩ :=
      preflight_of_not_resolves occasion.toSurroundings hnone w.budget
    exact hpreliminary exc hearly hexc fun modelCls content h => absurd h (hnone modelCls content)

/-- **A post is refused, and nothing comes of it, or it is extracted.** -/
theorem served_of_post (hpost : IsPost scope)
    (hclients : ∀ provider, OnlyValueError (occasion.getClient provider)) :
    Served process occasion scope incoming w := by
  cases hkey : presentsKey process.libs.sha256 process.environment.keyHashes scope with
  | false => exact served_of_rejected hpost hkey
  | true =>
    by_cases hparses : ∃ request, Parses process scope incoming request
    · obtain ⟨request, hparses⟩ := hparses
      exact served_of_parses hpost hclients hparses
    · have hnone : ∀ request, ¬ Parses process scope incoming request :=
        fun request h => hparses ⟨request, h⟩
      obtain ⟨r, hsent, code, hcode, hrefusal⟩ :=
        sent_of_unparsed occasion w hpost hkey hnone
      have hkeeps := reply_keeps quiet_holdings occasion
        (fun hreads => by rw [hpost.reads] at hreads; cases hreads)
        (fun body request hreaches hparse => hnone request ⟨body, hreaches, hparse⟩)
        { w with facts := some ∅ }
      have hholdings := (holdings_handleRequest process occasion hpost.http incoming w).trans hkeeps
      refine .refused hcode ?_ ?_ ⟨r, hsent, hrefusal, hholdings⟩
      · rintro ⟨-, hrejected⟩
        rw [hkey] at hrejected
        cases hrejected
      · rintro request modelCls content ⟨hreached, -⟩
        exact absurd hreached (hnone request)

end ServedOfPost

end ExtractApi
