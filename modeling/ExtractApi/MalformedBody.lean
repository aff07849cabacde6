import ExtractApi.ExtractRequests

/-!
# Malformed request bodies

An authenticated `POST /v1/extract` whose body holds no valid request should be a client
error.  It is one whenever the body's bytes are text, in the encoding that `json.loads` finds
for them, and the text can be loaded: a JSON syntax error and the errors of the request model
are both reported as a `RequestValidationError`.  Every other exception of `json.loads` becomes
an `HTTPException(400)`, a status without a code of its own, and is rendered as
`internal_error`.
-/

namespace ExtractApi

open PythonText JsonValue RaisingProgram

variable {S M V : Type}

section

variable (fw : Framework V) (scope : Scope) (body : List Byte)

/-- The errors reported for the body. -/
def reportedErrors : List ErrorDetails :=
  match parseBody fw scope body with
  | .error (.requestValidationError errors) => errors
  | _ => []

/-- The response is the client error the contract asks for: a 422 whose code is
    `unsupported_doc_type` or `validation_failed`, the first exactly when the reported errors
    contain a literal mismatch located on `doc_type`. -/
structure ClientError (r : HttpResponse) : Prop where
  status : r.status = 422
  code : r.errorField = some (.str (py "unsupported_doc_type")) ∨
    r.errorField = some (.str (py "validation_failed"))
  unsupported : r.errorField = some (.str (py "unsupported_doc_type")) ↔
    ∃ e ∈ reportedErrors fw scope body,
      e.loc.getLast? = some (.key (py "doc_type")) ∧ e.type = py "literal_error"

/-- The bytes are no text in the encoding that `detect_encoding` finds. -/
def Undecodable (body : List Byte) : Prop := body ≠ [] ∧ jsonText body = none

/-- The text is one that `json.loads` cannot load for another reason than its syntax: an integer
    of too many digits, or too deep a nesting. -/
def Unloadable (body : List Byte) : Prop :=
  body ≠ [] ∧ ∃ text className, jsonText body = some text ∧
    fw.loadsText text = .error (.other className)

end

variable {fw : Framework V} {scope : Scope} {body : List Byte}

/-! ## What is raised -/

/-- `json.loads` raises something else than a `JSONDecodeError` on these bodies only. -/
theorem unreadable_of_jsonLoads {className : PyStr} (hne : body ≠ [])
    (h : fw.jsonLoads body = .error (.other className)) :
    Undecodable body ∨ Unloadable fw body := by
  unfold Framework.jsonLoads at h
  rcases htext : jsonText body with _ | text
  · exact Or.inl ⟨hne, htext⟩
  · rw [htext] at h
    exact Or.inr ⟨hne, text, className, htext, h⟩

theorem jsonLoads_of_unreadable (h : Undecodable body ∨ Unloadable fw body) :
    body ≠ [] ∧ ∃ className, fw.jsonLoads body = .error (.other className) := by
  unfold Framework.jsonLoads
  rcases h with ⟨hne, htext⟩ | ⟨hne, text, className, htext, hother⟩
  · rw [htext]
    exact ⟨hne, _, rfl⟩
  · rw [htext]
    exact ⟨hne, className, hother⟩

theorem parseBody_error (hjson : fw.isJson scope = true) {exc : PyExc}
    (h : parseBody fw scope body = .error exc) :
    ((Undecodable body ∨ Unloadable fw body) ∧ exc = bodyParsingError) ∨
      (¬ (Undecodable body ∨ Unloadable fw body) ∧
        ∃ errors, exc = .requestValidationError errors) := by
  have hvalidated : ∀ value, (fw.validateBody value).mapError PyExc.requestValidationError =
      .error exc → ∃ errors, exc = .requestValidationError errors := by
    intro value hvalue
    cases hvalidate : fw.validateBody value with
    | ok request => simp [hvalidate, Except.mapError] at hvalue
    | error errors =>
      rw [hvalidate, Except.mapError, Except.error.injEq] at hvalue
      exact ⟨errors, hvalue.symm⟩
  unfold parseBody at h
  by_cases hempty : body = []
  · rw [if_pos hempty] at h
    exact Or.inr ⟨fun hunreadable => (jsonLoads_of_unreadable hunreadable).1 hempty,
      hvalidated _ h⟩
  · rw [if_neg hempty, if_pos hjson] at h
    cases hloads : fw.jsonLoads body with
    | ok value =>
      rw [hloads] at h
      refine Or.inr ⟨?_, hvalidated _ h⟩
      intro hunreadable
      obtain ⟨-, className, hother⟩ := jsonLoads_of_unreadable hunreadable
      rw [hloads] at hother
      cases hother
    | error e =>
      cases e with
      | jsonDecodeError pos msg =>
        rw [hloads] at h
        refine Or.inr ⟨?_, _, (Except.error.inj h).symm⟩
        intro hunreadable
        obtain ⟨-, className, hother⟩ := jsonLoads_of_unreadable hunreadable
        rw [hloads] at hother
        cases hother
      | other className =>
        rw [hloads] at h
        exact Or.inl ⟨unreadable_of_jsonLoads hempty hloads, (Except.error.inj h).symm⟩

theorem requestValidationCode_eq_iff (errors : List ErrorDetails) :
    requestValidationCode errors = .unsupportedDocType ↔
      ∃ e ∈ errors, e.loc.getLast? = some (.key (py "doc_type")) ∧ e.type = py "literal_error" := by
  unfold requestValidationCode
  cases hany : errors.any ErrorDetails.isUnsupportedDocType with
  | true =>
    obtain ⟨e, he, hdoc⟩ := List.any_eq_true.mp hany
    simp only [ErrorDetails.isUnsupportedDocType, Bool.and_eq_true, decide_eq_true_eq] at hdoc
    exact iff_of_true rfl ⟨e, he, hdoc⟩
  | false =>
    refine iff_of_false (by simp) ?_
    rintro ⟨e, he, hloc, htype⟩
    have hnone := List.any_eq_false.mp hany e he
    simp [ErrorDetails.isUnsupportedDocType, hloc, htype] at hnone

theorem requestValidationCode_cases (errors : List ErrorDetails) :
    requestValidationCode errors = .unsupportedDocType ∨
      requestValidationCode errors = .validationFailed := by
  unfold requestValidationCode
  split <;> simp

/-- Reported errors are answered with the client error. -/
theorem clientError_of_reported {errors : List ErrorDetails} {r : HttpResponse}
    (hparse : parseBody fw scope body = .error (.requestValidationError errors))
    (hcarries : r.Carries (exceptionAnswer (.requestValidationError errors))) :
    ClientError fw scope body r := by
  have hreported : reportedErrors fw scope body = errors := by simp [reportedErrors, hparse]
  obtain ⟨detail, hanswer⟩ : ∃ detail, exceptionAnswer (.requestValidationError errors) =
      (STATUS_BY_CODE (requestValidationCode errors),
        .obj (codeBody (requestValidationCode errors) (.str detail))) := by
    refine ⟨_, renderedAnswer_of_encodable (encodable_codeBody _ ?_)⟩
    split <;> exact encodable_py _
  rw [hanswer] at hcarries
  obtain ⟨hstatus, hbody⟩ := hcarries
  have hfield : r.errorField = some (.str (requestValidationCode errors).value) := by
    rw [HttpResponse.errorField, hbody]
    exact get?_codeBody_error (requestValidationCode errors) (.str detail)
  rcases requestValidationCode_cases errors with hcode | hcode
  · rw [hcode] at hstatus hfield
    refine ⟨hstatus, Or.inl hfield, iff_of_true hfield ?_⟩
    rw [hreported]
    exact (requestValidationCode_eq_iff errors).mp hcode
  · rw [hcode] at hstatus hfield
    refine ⟨hstatus, Or.inr hfield, iff_of_false ?_ ?_⟩
    · rw [hfield, Option.some.injEq, Json.str.injEq]
      decide
    · rw [hreported, ← requestValidationCode_eq_iff, hcode]
      decide

theorem sent_of_parse_error {process : Process S M V} {scope : Scope} {exc : PyExc}
    (chunk : List Byte) (chunks : List (List Byte)) (occasion : Occasion S) (w : World S)
    (hpost : PostsExtract process scope)
    (hcap : (chunk ++ chunks.flatten).length ≤ process.environment.maxBodyBytes)
    (hparse : parseBody process.framework scope (chunk ++ chunks.flatten) = .error exc) :
    ∃ response : HttpResponse,
      (handleRequest process occasion scope (chunkMessages chunk chunks) w).sent =
          response.messages ∧
        response.Carries (exceptionAnswer exc) := by
  obtain ⟨w', -, hreply⟩ := reply_of_reaches occasion (hpost.reaches hcap)
    { w with facts := some ∅ }
  refine sent_of_raised hpost.http hreply ?_
  simp [extractEndpoint, liftExcept, hparse, answerOf]

/-- **A malformed JSON body is a client error exactly when its bytes are text that can be
    loaded**: text in the encoding that `json.loads` finds, on which it raises nothing but a
    `JSONDecodeError`. -/
theorem malformed_body_client_error_iff (process : Process S M V) (occasion : Occasion S)
    (scope : Scope) (chunk : List Byte) (chunks : List (List Byte)) (w : World S)
    (hpost : PostsExtract process scope) (hjson : process.framework.isJson scope = true)
    (hcap : (chunk ++ chunks.flatten).length ≤ process.environment.maxBodyBytes)
    (hmalformed : ∀ request,
      parseBody process.framework scope (chunk ++ chunks.flatten) ≠ .ok request) :
    ∃ response : HttpResponse,
      (handleRequest process occasion scope (chunkMessages chunk chunks) w).sent =
          response.messages ∧
        (ClientError process.framework scope (chunk ++ chunks.flatten) response ↔
          ¬ Undecodable (chunk ++ chunks.flatten) ∧
            ¬ Unloadable process.framework (chunk ++ chunks.flatten)) := by
  cases hparse : parseBody process.framework scope (chunk ++ chunks.flatten) with
  | ok request => exact absurd hparse (hmalformed request)
  | error exc =>
    obtain ⟨response, hsent, hcarries⟩ := sent_of_parse_error _ _ occasion w hpost hcap hparse
    refine ⟨response, hsent, ?_⟩
    rw [← not_or]
    rcases parseBody_error hjson hparse with ⟨hunreadable, rfl⟩ | ⟨hreadable, errors, rfl⟩
    · -- the 400 has no code of its own: `internal_error`
      refine iff_of_false (fun hclient => ?_) (not_not.mpr hunreadable)
      have hstatus : response.status = 500 := hcarries.1
      rw [hclient.status] at hstatus
      cases hstatus
    · exact iff_of_true (clientError_of_reported hparse hcarries) hreadable

theorem sampleScope_posts :
    PostsExtract (sampleProcess (S := Unit)) (sampleScope "POST" "/v1/extract" []) where
  http := rfl
  method := rfl
  path := by decide +kernel
  authenticated := by decide +kernel
  accepted := by decide +kernel

theorem malformed_body_client_error_iff_brace :
    ∃ response : HttpResponse,
      (handleRequest sampleProcess (sampleOccasion (sampleSurroundings invoiceText))
          (sampleScope "POST" "/v1/extract" []) (chunkMessages (bytes "\x7b") [])
          (freshWorld () 10)).sent = response.messages ∧
        (ClientError sampleFramework (sampleScope "POST" "/v1/extract" []) (bytes "\x7b" ++ [])
            response ↔
          ¬ Undecodable (bytes "\x7b" ++ []) ∧
            ¬ Unloadable sampleFramework (bytes "\x7b" ++ [])) := by
  have hparse : parseBody sampleFramework (sampleScope "POST" "/v1/extract" [])
      (bytes "\x7b" ++ [].flatten) = .error (.requestValidationError [jsonInvalid 1]) := rfl
  exact malformed_body_client_error_iff sampleProcess _ _ (bytes "\x7b") [] _ sampleScope_posts rfl
    (by decide +kernel)
    (by rw [show sampleProcess.framework = sampleFramework from rfl, hparse]; simp)

/-- A body of one byte that is no UTF-8 is answered with `internal_error`. -/
theorem undecodable_body_internal_error :
    PostsExtract (sampleProcess (S := Unit)) (sampleScope "POST" "/v1/extract" []) ∧
      (∀ request, parseBody sampleFramework (sampleScope "POST" "/v1/extract" []) [255] ≠
        .ok request) ∧
      ∃ response : HttpResponse,
        (handleRequest sampleProcess (sampleOccasion (sampleSurroundings invoiceText))
            (sampleScope "POST" "/v1/extract" []) [.httpRequest [255] false]
            (freshWorld () 10)).sent = response.messages ∧
          response.status = 500 ∧
          response.errorField = some (.str (py "internal_error")) := by
  have hparse : parseBody sampleFramework (sampleScope "POST" "/v1/extract" []) [255] =
      .error bodyParsingError := rfl
  obtain ⟨response, hsent, hstatus, hbody⟩ :=
    sent_of_parse_error [255] []
      (sampleOccasion (sampleSurroundings invoiceText)) (freshWorld () 10) sampleScope_posts
      (by decide +kernel) hparse
  refine ⟨sampleScope_posts, by simp [hparse], response, hsent, hstatus, ?_⟩
  rw [HttpResponse.errorField, hbody]
  rfl

end ExtractApi
