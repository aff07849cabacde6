import ExtractApi.Observability
import ExtractApi.RaisingProgram

/-!
# Error responses (`api/errors.py`)

The handlers that `install_error_handlers` registers, by exception class, and the
response they build.  A response is *coded* when it is a 200 or its body names an
`ErrorCode` whose status it travels with; every handler that returns, returns a
coded response.  A handler can itself raise: `JSONResponse` renders its body at
once, and rendering raises on text that cannot be encoded.
-/

namespace ExtractApi

open PythonText JsonValue RaisingProgram

variable {S : Type}

/-- A response as it is sent; `body` is `none` when it is not JSON. -/
structure HttpResponse where
  status : ℕ
  headers : List (PyStr × PyStr) := []
  body : Option Json

/-- `JSONResponse(status_code=…, content=…, headers=…)` -/
def jsonResponse (status : ℕ) (content : Json) (headers : List (PyStr × PyStr)) :
    Except PyExc HttpResponse :=
  if content.encodable && headers.all fun h => isLatin1 h.1 && isLatin1 h.2 then
    .ok { status := status, headers := headers, body := some content }
  else .error unicodeEncodeError

/-- `error_response` -/
def errorResponse (code : ErrorCode) (body : List (PyStr × Json))
    (headers : List (PyStr × PyStr)) : Service S HttpResponse := do
  note [("result", .str code.value)]
  liftExcept (jsonResponse (STATUS_BY_CODE code) (.obj body) headers)

/-- The world with other facts of the request. -/
def World.withFacts (w : World S) (facts : Option Facts) : World S := { w with facts := facts }

theorem run_errorResponse {code : ErrorCode} {body : List (PyStr × Json)}
    {headers : List (PyStr × PyStr)} {response : HttpResponse}
    (h : jsonResponse (STATUS_BY_CODE code) (.obj body) headers = .ok response) (w : World S) :
    ∃ facts, (errorResponse code body headers).run w = .ok response (w.withFacts facts) :=
  ⟨w.facts.map fun bag => bag.update [("result", .str code.value)],
    by simp only [errorResponse, h]; rfl⟩

/-! ## The handlers -/

/-- A literal mismatch located on `doc_type`. -/
def ErrorDetails.isUnsupportedDocType (e : ErrorDetails) : Bool :=
  decide (e.loc.getLast? = some (.key (py "doc_type"))) && decide (e.type = py "literal_error")

/-- The code of a request that failed validation. -/
def requestValidationCode (errors : List ErrorDetails) : ErrorCode :=
  if errors.any ErrorDetails.isUnsupportedDocType then .unsupportedDocType else .validationFailed

/-- `_handle_request_validation` -/
def handleRequestValidation (errors : List ErrorDetails) : Service S HttpResponse :=
  let code := requestValidationCode errors
  let detail := if code = .unsupportedDocType then py "unsupported doc_type"
    else py "request validation failed"
  errorResponse code (codeBody code (.str detail)) []

/-- The generic body of an internal error. -/
def internalErrorBody : List (PyStr × Json) :=
  codeBody .internalError (.str (py "internal error"))

/-- `_handle_http_exception` -/
def handleHttpException (status : ℕ) (detail : Json) (headers : List (PyStr × PyStr)) :
    Service S HttpResponse :=
  match CODE_BY_HTTP_STATUS status with
  | none => do
      emit
        { logger := "extract.api"
          level := .error
          msg := "unmapped HTTPException status %s"
          args := [.int status] }
      errorResponse .internalError internalErrorBody []
  | some code => errorResponse code (codeBody code detail) headers

/-- The handler of the exception's class in `ExceptionMiddleware`; a class without one
    is raised on. -/
def handleException : PyExc → Service S HttpResponse
  | .extractError e => errorResponse e.code e.toBody []
  | .unknownSchema message =>
      errorResponse .unsupportedDocType (codeBody .unsupportedDocType (.str message)) []
  | .requestValidationError errors => handleRequestValidation errors
  | .httpException status detail headers => handleHttpException status detail headers
  | exc => throw exc

/-- A handler is registered for the class of the exception. -/
def hasHandler : PyExc → Bool
  | .extractError _ | .unknownSchema _ | .requestValidationError _ | .httpException _ _ _ => true
  | .providerError _ | .extractionFailed _ | .other _ => false

/-- `type(exc).__name__` -/
def PyExc.className : PyExc → PyStr
  | .extractError _ => py "ExtractError"
  | .unknownSchema _ => py "UnknownSchema"
  | .requestValidationError _ => py "RequestValidationError"
  | .httpException _ _ _ => py "HTTPException"
  | .providerError e => e.kind.className
  | .extractionFailed _ => py "ExtractionFailed"
  | .other className => className

def REQUEST_ID_HEADER : PyStr := py "X-Request-ID"

/-- `_handle_unexpected`, in `ServerErrorMiddleware` -/
def handleUnexpected (requestId : Option PyStr) (exc : PyExc) : Service S HttpResponse := do
  emit
    { logger := "extract.api"
      level := .error
      msg := "unhandled exception during request: %s"
      args := [.str exc.className] }
  errorResponse .internalError internalErrorBody
    (match requestId with
      | some rid => [(REQUEST_ID_HEADER, rid)]
      | none => [])

/-! ## What the handlers leave alone -/

theorem liftExcept_keeps {τ α : Type} (f : World S → τ) (x : Except PyExc α) :
    Keeps f (liftExcept x : Service S α) := by
  rcases x with exc | a
  · exact Keeps.throw exc
  · exact Keeps.pure a

/-- A component that no note but the cost's and no log line but the access line changes. -/
structure Quiet {τ : Type} (f : World S → τ) : Prop where
  logged : ∀ (w : World S) (record : LogRecord), record.logger ≠ "extract.access" →
    f { w with log := w.log ++ [record] } = f w
  noted : ∀ (w : World S) (entries : List (String × Json)),
    (∀ entry ∈ entries, entry.1 ≠ "cost_usd") →
    f { w with facts := w.facts.map fun bag => bag.update entries } = f w

section Quiet

variable {τ : Type} {f : World S → τ}

theorem Quiet.emit (hquiet : Quiet f) {record : LogRecord} (h : record.logger ≠ "extract.access") :
    Keeps f (emit record) := fun w => hquiet.logged w record h

theorem Quiet.note (hquiet : Quiet f) {entries : List (String × Json)}
    (h : ∀ entry ∈ entries, entry.1 ≠ "cost_usd") : Keeps f (note entries) :=
  fun w => hquiet.noted w entries h

theorem Quiet.errorResponse (hquiet : Quiet f) (code : ErrorCode) (body : List (PyStr × Json))
    (headers : List (PyStr × PyStr)) : Keeps f (errorResponse code body headers) :=
  Keeps.bind (hquiet.note (by simp)) fun _ => liftExcept_keeps f _

theorem Quiet.handleException (hquiet : Quiet f) (exc : PyExc) :
    Keeps f (handleException exc) := by
  rcases exc with e | message | errors | ⟨status, detail, headers⟩ | e | e | className
  · exact hquiet.errorResponse _ _ _
  · exact hquiet.errorResponse _ _ _
  · exact hquiet.errorResponse _ _ _
  · show Keeps f (handleHttpException status detail headers)
    unfold handleHttpException
    rcases CODE_BY_HTTP_STATUS status with _ | code
    · exact Keeps.bind (hquiet.emit (by simp)) fun _ => hquiet.errorResponse _ _ _
    · exact hquiet.errorResponse _ _ _
  · exact Keeps.throw _
  · exact Keeps.throw _
  · exact Keeps.throw _

/-- The registered handlers change nothing of what they answer for. -/
theorem Quiet.tryCatch_handleException (hquiet : Quiet f) (x : Service S HttpResponse)
    (w : World S) :
    f (finalState ((tryCatch x ExtractApi.handleException).run w)) = f (finalState (x.run w)) := by
  rw [EStateM.run_tryCatch]
  rcases x.run w with ⟨r, w'⟩ | ⟨exc, w'⟩
  · rfl
  · exact hquiet.handleException exc w'

theorem Quiet.handleUnexpected (hquiet : Quiet f) (requestId : Option PyStr) (exc : PyExc) :
    Keeps f (handleUnexpected requestId exc) :=
  Keeps.bind (hquiet.emit (by simp)) fun _ => hquiet.errorResponse _ _ _

end Quiet

/-! ## Answers

What the client is told of an exception, once its handler or the catch-all outside
every middleware has answered. -/

/-- A status with a JSON body. -/
abbrev Answer := ℕ × Json

def internalAnswer : Answer := (STATUS_BY_CODE .internalError, .obj internalErrorBody)

/-- An error response, or the catch-all's when it cannot be rendered. -/
def renderedAnswer (code : ErrorCode) (body : List (PyStr × Json))
    (headers : List (PyStr × PyStr)) : Answer :=
  match jsonResponse (STATUS_BY_CODE code) (.obj body) headers with
  | .ok _ => (STATUS_BY_CODE code, .obj body)
  | .error _ => internalAnswer

def httpExceptionAnswer (status : ℕ) (detail : Json) (headers : List (PyStr × PyStr)) : Answer :=
  match CODE_BY_HTTP_STATUS status with
  | none => internalAnswer
  | some code => renderedAnswer code (codeBody code detail) headers

def exceptionAnswer : PyExc → Answer
  | .extractError e => renderedAnswer e.code e.toBody []
  | .unknownSchema message =>
      renderedAnswer .unsupportedDocType (codeBody .unsupportedDocType (.str message)) []
  | .requestValidationError errors =>
      let code := requestValidationCode errors
      renderedAnswer code (codeBody code (.str (if code = .unsupportedDocType
        then py "unsupported doc_type" else py "request validation failed"))) []
  | .httpException status detail headers => httpExceptionAnswer status detail headers
  | _ => internalAnswer

/-- The response carries the answer. -/
def HttpResponse.Carries (r : HttpResponse) (a : Answer) : Prop :=
  r.status = a.1 ∧ r.body = some a.2

theorem encodable_codeBody (code : ErrorCode) {detail : PyStr}
    (h : PythonText.encodable detail = true) :
    (Json.obj (codeBody code (.str detail))).encodable = true := by
  simp [codeBody, Json.encodable, Json.encodableFields, encodable_value, h, encodable_py]

theorem renderedAnswer_of_encodable {code : ErrorCode} {body : List (PyStr × Json)}
    (h : (Json.obj body).encodable = true) :
    renderedAnswer code body [] = (STATUS_BY_CODE code, .obj body) := by
  simp [renderedAnswer, jsonResponse, h]

theorem encodable_internalErrorBody : (Json.obj internalErrorBody).encodable = true :=
  encodable_codeBody .internalError (encodable_py _)

theorem errorResponse_carries (code : ErrorCode) (body : List (PyStr × Json))
    (headers : List (PyStr × PyStr)) :
    Ensures (fun r => HttpResponse.Carries r (renderedAnswer code body headers))
      (fun _ => renderedAnswer code body headers = internalAnswer)
      (errorResponse (S := S) code body headers) := by
  apply Ensures.bind (P := fun _ => True) (Ensures.modify trivial)
  intro _ _
  unfold renderedAnswer
  cases hrender : jsonResponse (STATUS_BY_CODE code) (.obj body) headers with
  | error exc => exact Ensures.throw rfl
  | ok r =>
    refine Ensures.pure ?_
    unfold jsonResponse at hrender
    split at hrender
    · cases hrender
      exact ⟨rfl, rfl⟩
    · cases hrender

/-- A handler answers its exception, or raises where the catch-all answers for it. -/
theorem handleException_carries (exc : PyExc) :
    Ensures (fun r => HttpResponse.Carries r (exceptionAnswer exc))
      (fun _ => exceptionAnswer exc = internalAnswer) (handleException (S := S) exc) := by
  cases exc with
  | extractError e => exact errorResponse_carries _ _ _
  | unknownSchema message => exact errorResponse_carries _ _ _
  | requestValidationError errors => exact errorResponse_carries _ _ _
  | httpException status detail headers =>
    show Ensures (fun r => HttpResponse.Carries r (httpExceptionAnswer status detail headers))
      (fun _ => httpExceptionAnswer status detail headers = internalAnswer)
      (handleHttpException status detail headers)
    unfold handleHttpException httpExceptionAnswer
    cases CODE_BY_HTTP_STATUS status with
    | none =>
      have hinternal : renderedAnswer .internalError internalErrorBody [] = internalAnswer :=
        renderedAnswer_of_encodable encodable_internalErrorBody
      have hbuild := errorResponse_carries (S := S) .internalError internalErrorBody []
      rw [hinternal] at hbuild
      exact Ensures.bind (P := fun _ => True) (Ensures.modify trivial) fun _ _ => hbuild
    | some code => exact errorResponse_carries _ _ _
  | providerError e => exact Ensures.throw rfl
  | extractionFailed e => exact Ensures.throw rfl
  | other className => exact Ensures.throw rfl

/-- The result carries the answer, or raises where the catch-all's is the answer. -/
def Delivers (a : Answer) : EStateM.Result PyExc (World S) HttpResponse → Prop
  | .ok r _ => r.Carries a
  | .error _ _ => a = internalAnswer

theorem delivers_of_ensures {a : Answer} {x : Service S HttpResponse}
    (h : Ensures (fun r => HttpResponse.Carries r a) (fun _ => a = internalAnswer) x)
    (w : World S) : Delivers a (x.run w) := by
  have hx := h w
  rcases hrun : x.run w with ⟨r, w'⟩ | ⟨exc, w'⟩
  · rw [hrun] at hx
    exact hx
  · rw [hrun] at hx
    exact hx

theorem handleUnexpected_carries {requestId : Option PyStr}
    (hlatin : ∀ rid, requestId = some rid → isLatin1 rid = true) (exc : PyExc) :
    Ensures (fun r => HttpResponse.Carries r internalAnswer) (fun _ => False)
      (handleUnexpected (S := S) requestId exc) := by
  apply Ensures.bind (P := fun _ => True) (Ensures.modify trivial)
  intro _ _
  apply Ensures.bind (P := fun _ => True) (Ensures.modify trivial)
  intro _ _
  have hheader : isLatin1 REQUEST_ID_HEADER = true := by decide
  cases requestId with
  | none =>
    simp only [jsonResponse, encodable_internalErrorBody, List.all_nil, Bool.and_self, if_true,
      liftExcept]
    exact Ensures.pure ⟨rfl, rfl⟩
  | some rid =>
    simp only [jsonResponse, encodable_internalErrorBody, List.all_cons, List.all_nil,
      hheader, hlatin rid rfl, Bool.and_self, if_true, liftExcept]
    exact Ensures.pure ⟨rfl, rfl⟩

/-! ## Coded responses -/

/-- The `error` field of the body. -/
def HttpResponse.errorField (r : HttpResponse) : Option Json :=
  r.body.bind fun body => body.get? (py "error")

/-- A 200, or a body with an error code that has the response's status. -/
def Coded (r : HttpResponse) : Prop :=
  r.status = 200 ∨ ∃ code : ErrorCode,
    r.errorField = some (.str code.value) ∧ r.status = STATUS_BY_CODE code

theorem jsonResponse_eq_ok {status : ℕ} {content : Json} {headers : List (PyStr × PyStr)}
    {r : HttpResponse} (h : jsonResponse status content headers = .ok r) :
    r = { status := status, headers := headers, body := some content } := by
  unfold jsonResponse at h
  split at h
  · cases h
    rfl
  · cases h

theorem errorResponse_coded {code : ErrorCode} {body : List (PyStr × Json)}
    (hbody : (Json.obj body).get? (py "error") = some (.str code.value))
    (headers : List (PyStr × PyStr)) :
    Ensures Coded (fun _ => True) (errorResponse (S := S) code body headers) := by
  apply Ensures.bind (Ensures.trivial _)
  intro _ _
  cases hrender : jsonResponse (STATUS_BY_CODE code) (.obj body) headers with
  | error exc => exact Ensures.throw trivial
  | ok r =>
    refine Ensures.pure (Or.inr ⟨code, ?_, ?_⟩) <;> rw [jsonResponse_eq_ok hrender]
    exact hbody

/-- **Every handler that returns, returns a coded response.** -/
theorem handleException_coded (exc : PyExc) :
    Ensures Coded (fun _ => True) (handleException (S := S) exc) := by
  cases exc with
  | extractError e => exact errorResponse_coded e.get?_toBody_error _
  | unknownSchema message => exact errorResponse_coded (get?_codeBody_error _ _) _
  | requestValidationError errors => exact errorResponse_coded (get?_codeBody_error _ _) _
  | httpException status detail headers =>
    show Ensures _ _ (handleHttpException status detail headers)
    unfold handleHttpException
    cases CODE_BY_HTTP_STATUS status with
    | none =>
      exact Ensures.bind (Ensures.trivial _) fun _ _ =>
        errorResponse_coded (get?_codeBody_error _ _) _
    | some code => exact errorResponse_coded (get?_codeBody_error _ _) _
  | providerError e => exact Ensures.throw trivial
  | extractionFailed e => exact Ensures.throw trivial
  | other className => exact Ensures.throw trivial

end ExtractApi
