import ExtractApi.JsonValue

/-!
# The error taxonomy (`api/errors.py`)

The closed list of codes, the one HTTP status of each, the statuses of framework
exceptions that have a code of their own, and the domain error with its body.
The handlers that turn an exception into a response are in `ErrorHandlers`.
-/

namespace ExtractApi

open PythonText JsonValue

inductive ErrorCode where
  | validationFailed
  | lowConfidence
  | unsupportedDocType
  | providerError
  | providerTimeout
  | budgetExceeded
  | idempotencyConflict
  | internalError
  | notFound
  | methodNotAllowed
  | unauthorized
deriving DecidableEq, Repr

/-- `code.value` -/
def ErrorCode.value : ErrorCode → PyStr
  | .validationFailed => py "validation_failed"
  | .lowConfidence => py "low_confidence"
  | .unsupportedDocType => py "unsupported_doc_type"
  | .providerError => py "provider_error"
  | .providerTimeout => py "provider_timeout"
  | .budgetExceeded => py "budget_exceeded"
  | .idempotencyConflict => py "idempotency_conflict"
  | .internalError => py "internal_error"
  | .notFound => py "not_found"
  | .methodNotAllowed => py "method_not_allowed"
  | .unauthorized => py "unauthorized"

/-- Exactly one HTTP status per taxonomy member. -/
def STATUS_BY_CODE : ErrorCode → ℕ
  | .validationFailed => 422
  | .lowConfidence => 422
  | .unsupportedDocType => 422
  | .providerError => 502
  | .providerTimeout => 504
  | .budgetExceeded => 402
  | .idempotencyConflict => 409
  | .internalError => 500
  | .notFound => 404
  | .methodNotAllowed => 405
  | .unauthorized => 401

/-- `_CODE_BY_HTTP_STATUS` -/
def CODE_BY_HTTP_STATUS : ℕ → Option ErrorCode
  | 404 => some .notFound
  | 405 => some .methodNotAllowed
  | _ => none

/-- Two codes with one wire value are one code, so a body's `error` field determines
    the status it must travel with. -/
theorem ErrorCode.value_injective : Function.Injective ErrorCode.value := by
  intro c d
  cases c <;> cases d <;> simp [ErrorCode.value] <;> decide

theorem encodable_value (code : ErrorCode) : PythonText.encodable code.value = true := by
  cases code <;> decide

/-- `ExtractError`: one taxonomy code plus an optional structured body. -/
structure ExtractError where
  code : ErrorCode
  detail : PyStr := []
  extra : List (PyStr × Json) := []

/-- `ExtractError.to_body`: the reserved keys of `extra` are dropped before the code
    and the detail are stamped. -/
def ExtractError.toBody (e : ExtractError) : List (PyStr × Json) :=
  e.extra.filter (fun f => decide (f.1 ∉ [py "error", py "detail"])) ++
    [(py "error", .str e.code.value)] ++
    (if e.detail = [] then [] else [(py "detail", .str e.detail)])

/-- The body `{"error": code, "detail": detail}` of the handlers that build it directly. -/
def codeBody (code : ErrorCode) (detail : Json) : List (PyStr × Json) :=
  [(py "error", .str code.value), (py "detail", detail)]

theorem ExtractError.get?_toBody_error (e : ExtractError) :
    (Json.obj e.toBody).get? (py "error") = some (.str e.code.value) := by
  unfold ExtractError.toBody
  rw [List.append_assoc, Json.get?_obj_append_of_not_mem]
  · simp [Json.get?]
  · intro f hf
    have hmem := (List.mem_filter.mp hf).2
    simp only [decide_eq_true_eq, List.mem_cons, not_or] at hmem
    exact hmem.1

theorem get?_codeBody_error (code : ErrorCode) (detail : Json) :
    (Json.obj (codeBody code detail)).get? (py "error") = some (.str code.value) := by
  simp [Json.get?, codeBody]

end ExtractApi
