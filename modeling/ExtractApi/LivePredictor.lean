import ExtractApi.AccuracyRun
import ExtractApi.ErrorHandlers
import ExtractApi.LoadedJson

/-!
# The live predictor (`live_predictor`)

What `predict` makes of one `httpx.post`: a response, or the exception that it raised.  A
response is the service's `HttpResponse`, whose body is a JSON value or no JSON at all.

The readers are written out in the order in which the source reads, since the first thing
that is wrong names the exception in the message.
-/

namespace ExtractApi

open PythonText JsonValue RaisingProgram
open LoadedJson (fitsFloat nearestDouble)

variable {M : Type}

/-! ## Costs and codes -/

/-- `_CONTROL_PLANE_CODES` -/
def CONTROL_PLANE_CODES : List PyStr :=
  [py "budget_exceeded", py "idempotency_conflict", py "unauthorized"]

/-- `_response_error_code` -/
def responseErrorCode (resp : HttpResponse) : Option PyStr :=
  match resp.errorField with
  | some (.str code) => some code
  | _ => none

theorem responseErrorCode_eq_some_iff {resp : HttpResponse} {code : PyStr} :
    responseErrorCode resp = some code ↔ resp.errorField = some (.str code) := by
  unfold responseErrorCode
  split
  · rename_i herror
    simp [herror]
  · rename_i hother
    constructor
    · intro h
      cases h
    · intro h
      exact absurd h (hother code)

/-- `_validated_cost` -/
def validatedCost : Json → Option ℚ
  | .int n => if fitsFloat n = true ∧ 0 ≤ n then some (nearestDouble n) else none
  | .float q => if 0 ≤ q then some q else none
  | _ => none

/-- `value.get(key)` -/
def dictGet (value : Json) (key : String) : Json := (value.get? (py key)).getD .null

/-- `_response_validation_cost` -/
def responseValidationCost (resp : HttpResponse) : Option ℚ :=
  if resp.status ≠ 422 ∨ responseErrorCode resp ≠ some (py "validation_failed") then none
  else resp.body.bind fun body => validatedCost (dictGet body "cost_usd")

/-! ## A 2xx -/

/-- `value[key]`; an error is the exception's class name. -/
def subscript (value : Json) (key : String) : Except PyStr Json :=
  match value with
  | .obj _ => (value.get? (py key)).elim (.error (py "KeyError")) .ok
  | _ => .error (py "TypeError")

/-- The check of `latency_ms`, and `float(latency_ms)`. -/
def checkLatency : Json → Except PyStr ℚ
  | .int n =>
      if fitsFloat n = false then .error (py "OverflowError")
      else if n < 0 then .error (py "ValueError")
      else .ok (nearestDouble n)
  | .float q => if q < 0 then .error (py "ValueError") else .ok q
  | _ => .error (py "ValueError")

/-- The check of `provider`. -/
def checkProvider : Json → Except PyStr PyStr
  | .str provider => if strip provider = [] then .error (py "ValueError") else .ok provider
  | _ => .error (py "ValueError")

/-- `known_cost`, which an exception after it leaves as it is. -/
def knownCost (resp : HttpResponse) : Option ℚ :=
  match resp.body.bind fun body => body.get? (py "meta") with
  | some (.obj fields) => validatedCost (dictGet (.obj fields) "cost_usd")
  | _ => none

/-- The `try` around the parsing of a 2xx: the record, its cost and latency and the provider
    the server resolved. -/
def parseAnswer (resp : HttpResponse) : Except PyStr (Json × ℚ × ℚ × PyStr) := do
  let body ← resp.body.elim (.error (py "JSONDecodeError")) .ok
  let answerMeta ← subscript body "meta"
  let record ← subscript body "data"
  let costUsd ← (knownCost resp).elim (.error (py "ValueError")) .ok
  let latencyMs ← subscript answerMeta "latency_ms" >>= checkLatency
  let serverProvider ← subscript answerMeta "provider" >>= checkProvider
  return (record, costUsd, latencyMs, serverProvider)

/-! ## The outcome -/

/-- What `httpx.post` raises: its connection errors, and any other `RequestError` by class
    name. -/
inductive TransportError where
  | connectError
  | connectTimeout
  | requestError (className : PyStr)

section Predict

variable (libs : HarnessLibs M) (fx : Record)

/-- `f"{fixture_id}: {text}"` -/
def fixtureMessage (text : PyStr) : PyStr :=
  libs.format ((lookupField fx "fixture_id").getD (.str (py "?"))) ++ py ": " ++ text

/-- The `except httpx.HTTPStatusError` clause. -/
def readRefusal (resp : HttpResponse) : PredictorOutcome :=
  if (responseErrorCode resp).any fun code => decide (code ∈ CONTROL_PLANE_CODES) then
    .controlPlaneRejection (fixtureMessage libs fx
      (py "HTTP " ++ decimal resp.status ++ py " (control-plane)"))
  else
    .predictionFailed (fixtureMessage libs fx (py "HTTP " ++ decimal resp.status))
      (responseValidationCost resp)

/-- A 2xx that is shaped like an `ExtractResponse` is a prediction. -/
def readAnswer (resp : HttpResponse) : PredictorOutcome :=
  match parseAnswer resp with
  | .error className =>
      .predictionFailed
        (fixtureMessage libs fx (py "malformed 2xx response (" ++ className ++ py ")"))
        (knownCost resp)
  | .ok (.obj record, costUsd, latencyMs, provider) =>
      .prediction
        { record := record, costUsd := costUsd, latencyMs := latencyMs, provider := provider }
  | .ok _ =>
      .predictionFailed (fixtureMessage libs fx (py "2xx 'data' is not a JSON object"))
        (knownCost resp)

/-- `predict(fx)`, once `httpx.post` has returned or raised. -/
def predictOutcome : Except TransportError HttpResponse → PredictorOutcome
  | .error .connectError => .requestNotSent (fixtureMessage libs fx (py "ConnectError"))
  | .error .connectTimeout => .requestNotSent (fixtureMessage libs fx (py "ConnectTimeout"))
  | .error (.requestError className) =>
      .predictionFailed (fixtureMessage libs fx className) none
  | .ok resp =>
      -- `raise_for_status`
      if 200 ≤ resp.status ∧ resp.status < 300 then readAnswer libs fx resp
      else readRefusal libs fx resp

end Predict

/-! ## What an outcome costs -/

/-- The cost that the run books for the outcome; `none` where it is not known. -/
def PredictorOutcome.booked : PredictorOutcome → Option ℚ
  | .prediction answer => some answer.costUsd
  | .predictionFailed _ costUsd => costUsd
  | .controlPlaneRejection _ | .requestNotSent _ => some 0

section Booked

variable {libs : HarnessLibs M} {fx : Record} {resp : HttpResponse}

theorem knownCost_of_parseAnswer {record : Json} {costUsd latencyMs : ℚ} {provider : PyStr}
    (h : parseAnswer resp = .ok (record, costUsd, latencyMs, provider)) :
    knownCost resp = some costUsd := by
  unfold parseAnswer at h
  obtain ⟨body, -, h⟩ := bind_eq_ok_iff.mp h
  obtain ⟨answerMeta, -, h⟩ := bind_eq_ok_iff.mp h
  obtain ⟨record', -, h⟩ := bind_eq_ok_iff.mp h
  obtain ⟨costUsd', hcost, h⟩ := bind_eq_ok_iff.mp h
  obtain ⟨latencyMs', -, h⟩ := bind_eq_ok_iff.mp h
  obtain ⟨provider', -, h⟩ := bind_eq_ok_iff.mp h
  cases h
  rcases hknown : knownCost resp with _ | known
  · rw [hknown] at hcost
    cases hcost
  · rw [hknown] at hcost
    cases hcost
    rfl

theorem booked_readAnswer : (readAnswer libs fx resp).booked = knownCost resp := by
  unfold readAnswer
  rcases hparse : parseAnswer resp with className | ⟨record, costUsd, latencyMs, provider⟩
  · rfl
  · have hcost := knownCost_of_parseAnswer hparse
    rcases record with _ | _ | _ | _ | _ | _ | fields
    · rfl
    · rfl
    · rfl
    · rfl
    · rfl
    · rfl
    · exact hcost.symm

theorem not_isSkip_readAnswer : (readAnswer libs fx resp).isSkip = false := by
  unfold readAnswer
  split <;> rfl

/-- A response makes a skip of the fixture when it is an error with one of the three codes. -/
theorem isSkip_predictOutcome_ok :
    (predictOutcome libs fx (.ok resp)).isSkip = true ↔
      ¬ (200 ≤ resp.status ∧ resp.status < 300) ∧
        ∃ code ∈ CONTROL_PLANE_CODES, responseErrorCode resp = some code := by
  unfold predictOutcome
  simp only
  split_ifs with hsuccess
  · rw [not_isSkip_readAnswer]
    simp [hsuccess]
  · unfold readRefusal
    rcases hcode : responseErrorCode resp with _ | code
    · simp [PredictorOutcome.isSkip]
    · by_cases hmem : code ∈ CONTROL_PLANE_CODES
      · simp [hmem, hsuccess, PredictorOutcome.isSkip]
      · simp [hmem, PredictorOutcome.isSkip]

theorem booked_of_error (hstatus : ¬ (200 ≤ resp.status ∧ resp.status < 300))
    (hskip : (predictOutcome libs fx (.ok resp)).isSkip = false) :
    (predictOutcome libs fx (.ok resp)).booked = responseValidationCost resp := by
  simp only [predictOutcome, if_neg hstatus, readRefusal] at hskip ⊢
  split at hskip
  · cases hskip
  · rename_i hplane
    rw [if_neg hplane]
    rfl

end Booked

end ExtractApi
