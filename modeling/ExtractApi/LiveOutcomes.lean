import ExtractApi.LiveRun

/-!
# What the harness reads of the service

The outcome of a post whose answer arrives, by what the service has made of it.  A refusal
is a skip or a failure without a cost, by its code alone.  An extraction is never a skip, and
where the harness reads a cost from its answer, it is what the budget was charged.
-/

namespace ExtractApi

open PythonText JsonValue RaisingProgram

variable {S M M' V : Type}

/-! ## Refusals -/

/-- The codes that the harness skips. -/
def skippedCodes : List ErrorCode := [.budgetExceeded, .idempotencyConflict, .unauthorized]

theorem CONTROL_PLANE_CODES_eq : CONTROL_PLANE_CODES = skippedCodes.map ErrorCode.value := by
  decide +kernel

theorem not_success_STATUS_BY_CODE (code : ErrorCode) :
    ¬ (200 ≤ STATUS_BY_CODE code ∧ STATUS_BY_CODE code < 300) := by
  cases code <;> decide

section Refusals

variable {libs : HarnessLibs M'} {fx : Record} {code : ErrorCode} {r : HttpResponse}

variable (libs fx) in
theorem isSkip_of_code (hstatus : r.status = STATUS_BY_CODE code)
    (herror : r.errorField = some (.str code.value)) :
    (predictOutcome libs fx (.ok r)).isSkip = true ↔ code ∈ skippedCodes := by
  rw [isSkip_predictOutcome_ok, hstatus, responseErrorCode_eq_some_iff.mpr herror,
    CONTROL_PLANE_CODES_eq]
  constructor
  · rintro ⟨-, code', hmem, hsame⟩
    rw [← Option.some.inj hsame] at hmem
    exact (List.mem_map_of_injective ErrorCode.value_injective).mp hmem
  · exact fun hmem =>
      ⟨not_success_STATUS_BY_CODE code, code.value, List.mem_map_of_mem hmem, rfl⟩

theorem booked_of_code (hstatus : r.status = STATUS_BY_CODE code)
    (herror : r.errorField = some (.str code.value)) (hcode : code ∉ skippedCodes) :
    (predictOutcome libs fx (.ok r)).booked = responseValidationCost r := by
  apply booked_of_error
  · rw [hstatus]
    exact not_success_STATUS_BY_CODE code
  · rw [Bool.eq_false_iff]
    exact (isSkip_of_code libs fx hstatus herror).not.mpr hcode

theorem booked_of_refusal (h : Refusal code r) (hcode : code ∉ skippedCodes) :
    (predictOutcome libs fx (.ok r)).booked = none := by
  rw [booked_of_code h.status h.error hcode]
  unfold responseValidationCost
  split
  · rfl
  · rcases hbody : r.body with _ | body
    · rfl
    · have hcost := h.costless
      rw [hbody, Option.bind_some] at hcost
      simp only [Option.bind_some, dictGet, hcost]
      rfl

end Refusals

/-! ## Extractions -/

section Extractions

variable {libs : HarnessLibs M'} {fx : Record} {r : HttpResponse}

/-- The outcome is no skip, and a cost that is booked for it is the given one. -/
structure BookedAs (outcome : PredictorOutcome) (charged : ℚ) : Prop where
  notSkip : outcome.isSkip = false
  cost : ∀ cost, outcome.booked = some cost → cost = charged

theorem bookedAs_of_code {code : ErrorCode} {charged : ℚ} (hstatus : r.status = STATUS_BY_CODE code)
    (herror : r.errorField = some (.str code.value)) (hcode : code ∉ skippedCodes)
    (hcost : ∀ cost, responseValidationCost r = some cost → cost = charged) :
    BookedAs (predictOutcome libs fx (.ok r)) charged where
  notSkip := by
    rw [Bool.eq_false_iff]
    exact (isSkip_of_code _ _ hstatus herror).not.mpr hcode
  cost := by
    rw [booked_of_code hstatus herror hcode]
    exact hcost

theorem bookedAs_of_internal (charged : ℚ) (h : r.Carries internalAnswer) :
    BookedAs (predictOutcome libs fx (.ok r)) charged := by
  have hrefusal := refusal_of_internal h
  refine ⟨?_, fun cost hcost => ?_⟩
  · rw [Bool.eq_false_iff]
    exact (isSkip_of_code _ _ hrefusal.status hrefusal.error).not.mpr (by decide)
  · rw [booked_of_refusal hrefusal (by decide)] at hcost
    cases hcost

theorem eq_of_validatedCost {charged cost : ℚ} (h : validatedCost (.float charged) = some cost) :
    cost = charged := by
  simp only [validatedCost] at h
  split_ifs at h
  cases h
  rfl

theorem errorField_of_toBody {e : ExtractError} (hbody : r.body = some (.obj e.toBody)) :
    r.errorField = some (.str e.code.value) := by
  rw [HttpResponse.errorField, hbody]
  exact e.get?_toBody_error

/-- The answer of an `ExtractError`: its body, or the internal error's. -/
theorem carries_extractError {e : ExtractError}
    (h : r.Carries (exceptionAnswer (.extractError e))) :
    (r.status = STATUS_BY_CODE e.code ∧ r.body = some (.obj e.toBody)) ∨
      r.Carries internalAnswer := by
  unfold exceptionAnswer renderedAnswer at h
  simp only at h
  split at h
  · exact Or.inl h
  · exact Or.inr h

/-- The 422 of an exhausted script reports what was charged. -/
theorem bookedAs_of_exhausted {failed : ExtractionFailed}
    (h : r.Carries (exceptionAnswer (.extractError (extractionRejected failed)))) :
    BookedAs (predictOutcome libs fx (.ok r)) failed.costUsd := by
  rcases carries_extractError h with ⟨hstatus, hbody⟩ | hinternal
  · refine bookedAs_of_code hstatus (errorField_of_toBody hbody) ?_ ?_
    · show ErrorCode.validationFailed ∉ skippedCodes
      decide
    · intro cost hcost
      have hreported : dictGet (.obj (extractionRejected failed).toBody) "cost_usd" =
          .float failed.costUsd := rfl
      unfold responseValidationCost at hcost
      split_ifs at hcost
      rw [hbody, Option.bind_some, hreported] at hcost
      exact eq_of_validatedCost hcost
  · exact bookedAs_of_internal _ hinternal

/-- The answer of a provider failure reports no cost. -/
theorem bookedAs_of_raised {error : ProviderError} (charged : ℚ)
    (h : r.Carries (exceptionAnswer (.extractError (providerFailure error)))) :
    BookedAs (predictOutcome libs fx (.ok r)) charged := by
  rcases carries_extractError h with ⟨hstatus, hbody⟩ | hinternal
  · have hcode : (providerFailure error).code = .providerTimeout ∨
        (providerFailure error).code = .providerError := by
      unfold providerFailure
      split
      · exact Or.inl rfl
      · exact Or.inr rfl
    have hother : (providerFailure error).code ∉ skippedCodes ∧
        STATUS_BY_CODE (providerFailure error).code ≠ 422 := by
      rcases hcode with hcode | hcode
      · rw [hcode]
        decide
      · rw [hcode]
        decide
    refine bookedAs_of_code hstatus (errorField_of_toBody hbody) hother.1 ?_
    intro cost hcost
    rw [responseValidationCost, hstatus, if_pos (Or.inl hother.2)] at hcost
    cases hcost
  · exact bookedAs_of_internal _ hinternal

/-- A 200 reports the cost in its meta. -/
theorem bookedAs_of_accepted {response : ExtractResponse}
    (h : r.Carries (httpAnswer (.ok response))) :
    BookedAs (predictOutcome libs fx (.ok r)) response.extractMeta.costUsd := by
  unfold httpAnswer at h
  simp only at h
  split at h
  · obtain ⟨hstatus, hbody⟩ := h
    have hread : predictOutcome libs fx (.ok r) = readAnswer libs fx r := by
      simp only [predictOutcome, hstatus]
      rfl
    rw [hread]
    refine ⟨not_isSkip_readAnswer, ?_⟩
    intro cost hcost
    have hknown : knownCost r = validatedCost (.float response.extractMeta.costUsd) := by
      unfold knownCost
      rw [hbody]
      rfl
    rw [booked_readAnswer, hknown] at hcost
    exact eq_of_validatedCost hcost
  · exact bookedAs_of_internal _ h

variable (libs fx) in
/-- **The answer of an extraction reports what was charged, or no cost.** -/
theorem bookedAs_of_answer {request : ExtractRequest} {client : LLMClient} {model : StrictModel M}
    {n : ℕ} {e : ScriptEnd M} (h : r.Carries (httpAnswer (e.answer request client model n))) :
    BookedAs (predictOutcome libs fx (.ok r)) (e.charged client n) := by
  rcases e with _ | ⟨k, result, value⟩ | ⟨k, error⟩ | ⟨k, className⟩
  · exact bookedAs_of_exhausted h
  · exact bookedAs_of_accepted h
  · exact bookedAs_of_raised _ h
  · exact bookedAs_of_internal _ h

end Extractions

/-! ## Answered posts -/

section Answered

variable {process : Process S M V} {libs : HarnessLibs M'}

abbrev Flight.IsRefused (process : Process S M V) (flight : Flight S) (code : ErrorCode) : Prop :=
  Refused process flight.occasion.toOccasion flight.request.scope flight.incoming flight.before
    code

abbrev Flight.IsExtracted (process : Process S M V) (flight : Flight S)
    (request : ExtractRequest) (modelCls : ModelClass) (content : PyStr) (llm : LLMClient)
    (e : ScriptEnd M) : Prop :=
  Extracted process flight.occasion.toOccasion flight.request.scope flight.incoming flight.before
    request modelCls content llm e

theorem Flight.served (process : Process S M V) (flight : Flight S) :
    Served process flight.occasion.toOccasion flight.request.scope flight.incoming
      flight.before := by
  apply served_of_post flight.request.isPost
  intro provider
  rw [flight.occasion.resolves]
  rcases getClient_cases flight.occasion.environ flight.occasion.vendors provider with
    ⟨client, hclient, -⟩ | herror
  · rw [hclient]
    exact .ok client
  · rw [herror]
    exact .error rfl

theorem charge_of_holdings {flight : Flight S} {cost : ℚ} {s : S} {calls : List ProviderCall}
    (h : (flight.connection process).world.holdings =
      (flight.before.budget.charge cost, s, calls)) :
    (Post.answered flight).charge process = cost := by
  have hbudget : (flight.connection process).world.budget = flight.before.budget.charge cost :=
    congrArg Prod.fst h
  simp [Post.charge, hbudget, BudgetGuard.charge]

theorem charge_of_refused {flight : Flight S}
    (h : (flight.connection process).world.holdings = flight.before.holdings) :
    (Post.answered flight).charge process = 0 := by
  apply charge_of_holdings
  rw [h, BudgetGuard.charge_zero]
  rfl

theorem booked_of_isSkip {outcome : PredictorOutcome} (h : outcome.isSkip = true) :
    outcome.booked = some 0 := by
  rcases outcome with answer | ⟨message, costUsd⟩ | message | message
  · cases h
  · cases h
  · rfl
  · rfl

/-- What the harness makes of the response to the post. -/
structure Understood (process : Process S M V) (flight : Flight S) (r : HttpResponse)
    (outcome : PredictorOutcome) : Prop where
  sent : (flight.connection process).sent = r.messages
  /-- a skip leaves the service as it was -/
  skip : outcome.isSkip = true →
    (flight.connection process).world.holdings = flight.before.holdings
  /-- a cost that is booked is what the post added to the budget -/
  cost : ∀ cost, outcome.booked = some cost → cost = (Post.answered flight).charge process

theorem understood_of_refused {flight : Flight S} {code : ErrorCode} (fx : Record)
    (h : flight.IsRefused process code) :
    ∃ r, Understood process flight r (predictOutcome libs fx (.ok r)) := by
  obtain ⟨r, hsent, hrefusal, hholdings⟩ := h
  refine ⟨r, hsent, fun _ => hholdings, ?_⟩
  intro cost hcost
  rw [charge_of_refused hholdings]
  by_cases hskip : code ∈ skippedCodes
  · have hskipped := (isSkip_of_code libs fx hrefusal.status hrefusal.error).mpr hskip
    rw [booked_of_isSkip hskipped, Option.some.injEq] at hcost
    exact hcost.symm
  · rw [booked_of_refusal hrefusal hskip] at hcost
    cases hcost

theorem understood_of_extracted {flight : Flight S} (fx : Record) {request : ExtractRequest}
    {modelCls : ModelClass} {content : PyStr} {llm : LLMClient} {e : ScriptEnd M}
    (h : flight.IsExtracted process request modelCls content llm e) :
    ∃ r, Understood process flight r (predictOutcome libs fx (.ok r)) := by
  obtain ⟨r, hsent, hcarries⟩ := h.answered
  obtain ⟨hnotSkip, hcost⟩ := bookedAs_of_answer libs fx hcarries
  refine ⟨r, hsent, fun hskip => ?_, fun cost hbooked => ?_⟩
  · rw [hnotSkip] at hskip
    cases hskip
  · rw [hcost cost hbooked]
    exact (charge_of_holdings h.charged).symm

/-- **Every answered post is understood.** -/
theorem understood (process : Process S M V) (libs : HarnessLibs M') (flight : Flight S)
    (fx : Record) : ∃ r, Understood process flight r (predictOutcome libs fx (.ok r)) := by
  rcases (flight.served process).refused_or_extracted with
    ⟨code, hrefused⟩ | ⟨request, modelCls, content, llm, e, hextracted⟩
  · exact understood_of_refused fx hrefused
  · exact understood_of_extracted fx hextracted

end Answered

/-! ## Posts -/

section Posts

theorem booked_of_costless (libs : HarnessLibs M') (fx : Record) {r : HttpResponse}
    (h : r.NamesNoCost) (hskip : (predictOutcome libs fx (.ok r)).isSkip = false) :
    (predictOutcome libs fx (.ok r)).booked = none := by
  by_cases hsuccess : 200 ≤ r.status ∧ r.status < 300
  · simp only [predictOutcome, if_pos hsuccess, booked_readAnswer, h.known]
  · rw [booked_of_error hsuccess hskip, h.validation]

theorem not_isSkip_of_foreign (libs : HarnessLibs M') (fx : Record) {r : HttpResponse}
    (h : r.IsForeign) : (predictOutcome libs fx (.ok r)).isSkip = false := by
  rw [Bool.eq_false_iff]
  intro hskip
  obtain ⟨-, code, hmem, hcode⟩ := isSkip_predictOutcome_ok.mp hskip
  rw [CONTROL_PLANE_CODES_eq] at hmem
  obtain ⟨code', -, rfl⟩ := List.mem_map.mp hmem
  exact h.uncoded code' (responseErrorCode_eq_some_iff.mp hcode)

/-- Nothing was called, charged or stored for the post, and nothing will be. -/
def Post.Costless (process : Process S M V) : Post S → Prop
  | .undelivered => True
  | .answered flight =>
      (flight.connection process).world.holdings = flight.before.holdings
  | .sent _ | .running _ => False

theorem Post.Costless.isFinal {process : Process S M V} {post : Post S}
    (h : post.Costless process) : post.IsFinal := by
  rcases post with _ | request | flight | flight
  · trivial
  · exact h
  · exact h
  · trivial

/-- What an outcome says about its post. -/
structure Tells (process : Process S M V) (outcome : PredictorOutcome) (post : Post S) :
    Prop where
  skip : outcome.isSkip = true → post.Costless process
  cost : ∀ cost, outcome.booked = some cost → post.IsFinal ∧ cost = post.charge process

theorem tells_of_unknown (process : Process S M V) {outcome : PredictorOutcome}
    (hskip : outcome.isSkip = false) (hcost : outcome.booked = none) (post : Post S) :
    Tells process outcome post where
  skip h := by
    rw [hskip] at h
    cases h
  cost cost h := by
    rw [hcost] at h
    cases h

theorem tells_of_undelivered (process : Process S M V) {outcome : PredictorOutcome}
    (hcost : outcome.booked = some 0) : Tells process outcome .undelivered where
  skip _ := trivial
  cost cost h := by
    rw [hcost, Option.some.injEq] at h
    exact ⟨trivial, h.symm⟩

theorem tells_of_intercepted (process : Process S M V) (libs : HarnessLibs M') (fx : Record)
    {r : HttpResponse} (h : r.NamesNoCost) :
    Tells process (predictOutcome libs fx (.ok r)) .undelivered := by
  cases hskip : (predictOutcome libs fx (.ok r)).isSkip with
  | false => exact tells_of_unknown process hskip (booked_of_costless libs fx h hskip) _
  | true => exact tells_of_undelivered process (booked_of_isSkip hskip)

/-- The harness that waits is told what the service made of the post, or nothing. -/
theorem tells_of_waited (process : Process S M V) (libs : HarnessLibs M') (fx : Record)
    (post : Post S) :
    Tells process (predictOutcome libs fx (Ending.waited.received process (some post))) post := by
  rcases post with _ | request | flight | flight
  · exact tells_of_unknown process rfl rfl _
  · exact tells_of_unknown process rfl rfl _
  · exact tells_of_unknown process rfl rfl _
  · obtain ⟨r, hunderstood⟩ := understood process libs flight fx
    have hreceived : Ending.waited.received process (some (.answered flight)) = .ok r := by
      simp only [Ending.received, hunderstood.sent, responseOf_messages]
    rw [hreceived]
    exact ⟨hunderstood.skip, fun cost hcost => ⟨trivial, hunderstood.cost cost hcost⟩⟩

variable (process : Process S M V) (libs : HarnessLibs M') (client : HttpClient)
  (apiKey : Option (List Byte)) (provider : PyStr) (network : ℕ → Delivery S)

theorem Live.length_post (live : Live S) (fx : Record) :
    (live.post process client apiKey provider network fx).posts.length =
      live.posts.length + 1 := by
  rw [Live.post, Live.length_run, List.length_append, List.length_singleton]

theorem Live.post_of_final (live : Live S) (fx : Record) {post : Post S}
    (hposted : (network live.posts.length).ending.posted
      (client.request apiKey (requestPayload provider fx)) = post) (hfinal : post.IsFinal) :
    (live.post process client apiKey provider network fx).posts[live.posts.length]? = some post :=
  Live.run_of_final hfinal _ _ (by simp [hposted])

/-- **What a predictor call says about its post.** -/
theorem livePredictor_tells (live : Live S) (fx : Record) :
    ∃ post, (livePredictor process libs client apiKey provider network fx
        live).2.posts[live.posts.length]? = some post ∧
      Tells process (livePredictor process libs client apiKey provider network fx live).1 post := by
  have hlength := live.length_post process client apiKey provider network fx
  obtain ⟨post, hpost⟩ : ∃ post, (live.post process client apiKey provider network
      fx).posts[live.posts.length]? = some post :=
    ⟨_, List.getElem?_eq_getElem (by omega)⟩
  have hundelivered : (network live.posts.length).ending.posted
        (client.request apiKey (requestPayload provider fx)) = .undelivered →
      (live.post process client apiKey provider network fx).posts[live.posts.length]? =
        some .undelivered :=
    fun hposted => live.post_of_final process client apiKey provider network fx hposted trivial
  refine ⟨post, hpost, ?_⟩
  show Tells process (predictOutcome libs fx ((network live.posts.length).ending.received process
    (live.post process client apiKey provider network fx).posts[live.posts.length]?)) post
  rw [hpost]
  rcases hending : (network live.posts.length).ending with
    _ | _ | ⟨response, hcostless⟩ | className | ⟨response, hforeign⟩ | _
  · obtain rfl := Option.some.inj (hpost.symm.trans (hundelivered (by rw [hending]; rfl)))
    exact tells_of_undelivered process rfl
  · obtain rfl := Option.some.inj (hpost.symm.trans (hundelivered (by rw [hending]; rfl)))
    exact tells_of_undelivered process rfl
  · obtain rfl := Option.some.inj (hpost.symm.trans (hundelivered (by rw [hending]; rfl)))
    exact tells_of_intercepted process libs fx hcostless
  · exact tells_of_unknown process rfl rfl post
  · have hskip := not_isSkip_of_foreign libs fx hforeign
    exact tells_of_unknown process hskip
      (booked_of_costless libs fx hforeign.toNamesNoCost hskip) post
  · exact tells_of_waited process libs fx post

end Posts

end ExtractApi
