import ExtractApi.LivePredictor

/-!
# Any response (`live_predictor`, `predict`)

`predict` with nothing known of who answers.  `LivePredictor` reads the service's own
responses; here a body is whatever `json.loads` makes of it, special floats included, or a
failure to decode, and each access is written with the exception that it raises.  An
exception that no clause handles leaves `predict`: that none does is what is proved.
-/

namespace ExtractApi

open PythonText JsonValue LoadedJson RaisingProgram
open JsonText (IsDouble)

variable {M : Type}

/-! ## Responses -/

/-- Why a body is not decoded: it is not JSON, not text, too deep, or has an integer of more
    digits than `int` takes. -/
inductive DecodeFailure where
  | notJson
  | notText
  | tooDeep
  | tooManyDigits

def DecodeFailure.cls : DecodeFailure → PyClass
  | .notJson => .jsonDecodeError
  | .notText => .unicodeDecodeError
  | .tooDeep => .recursionError
  | .tooManyDigits => .valueError

/-- An `httpx.Response`. -/
structure LiveResponse where
  status : ℕ
  content : Except DecodeFailure Loaded

/-- `resp.is_success` -/
def LiveResponse.IsSuccess (resp : LiveResponse) : Prop := 200 ≤ resp.status ∧ resp.status < 300

instance (resp : LiveResponse) : Decidable resp.IsSuccess := by
  unfold LiveResponse.IsSuccess
  infer_instance

/-- `resp.json()` -/
def LiveResponse.json (resp : LiveResponse) : Except PyClass Loaded :=
  resp.content.mapError DecodeFailure.cls

/-! ## The readers -/

/-- `except (ValueError, TypeError, RecursionError)` -/
def decodeClause : List PyClass := [.valueError, .typeError, .recursionError]

/-- `_response_error_code` -/
def LiveResponse.responseErrorCode (resp : LiveResponse) : Except PyClass (Option PyStr) :=
  tryExcept decodeClause
    (do
      let body ← resp.json
      if body.isDict then
        match ← body.get "error" with
        | .str code => return some code
        | _ => return none
      else return none)
    fun _ => .ok none

/-- `_validated_cost` -/
def LiveResponse.validatedCost (cost : Loaded) : Except PyClass (Option PyFloat) :=
  match cost.number? with
  | none => .ok none
  | some number =>
      tryExcept [.overflowError]
        (do
          if (← number.isfinite) && number.isNonneg then return some (← number.toFloat)
          else return none)
        fun _ => .ok none

/-- `_response_validation_cost` -/
def LiveResponse.responseValidationCost (resp : LiveResponse) :
    Except PyClass (Option PyFloat) := do
  if resp.status ≠ 422 then return none
  if (← resp.responseErrorCode) ≠ some (py "validation_failed") then return none
  let cost ← tryExcept decodeClause (do (← resp.json).get "cost_usd") fun _ => .ok .null
  validatedCost cost

/-- The check of `latency_ms`, and `float(latency_ms)`. -/
def LiveResponse.checkLatency (latencyMs : Loaded) : Except PyClass PyFloat :=
  match latencyMs.number? with
  | none => .error .valueError
  | some number => do
      if !(← number.isfinite) || number.isNegative then throw .valueError
      number.toFloat

/-- The check of `provider`. -/
def LiveResponse.checkProvider : Loaded → Except PyClass PyStr
  | .str provider => if strip provider = [] then .error .valueError else .ok provider
  | _ => .error .valueError

/-! ## A 2xx -/

/-- A step that leaves `known_cost` as it is. -/
def raising {α : Type} : Except PyClass α → EStateM PyClass (Option PyFloat) α
  | .ok a => pure a
  | .error exc => throw exc

/-- What is read once `known_cost` is set. -/
def LiveResponse.readFields (body answerMeta : Loaded) :
    EStateM PyClass (Option PyFloat) (Loaded × PyFloat × PyFloat × PyStr) := do
  let record ← raising (body.subscript "data")
  match ← get with
  | none => throw .valueError
  | some costUsd => do
      let latencyMs ← raising (answerMeta.subscript "latency_ms" >>= checkLatency)
      let serverProvider ← raising (answerMeta.subscript "provider" >>= checkProvider)
      return (record, costUsd, latencyMs, serverProvider)

/-- The body of the `try`; the state is `known_cost`. -/
def LiveResponse.parse (resp : LiveResponse) :
    EStateM PyClass (Option PyFloat) (Loaded × PyFloat × PyFloat × PyStr) := do
  let body ← raising resp.json
  let answerMeta ← raising (body.subscript "meta")
  if answerMeta.isDict then
    set (← raising (answerMeta.get "cost_usd" >>= validatedCost))
  readFields body answerMeta

/-- `except (ValueError, TypeError, KeyError, ArithmeticError, RecursionError)` -/
def parseClause : List PyClass :=
  [.valueError, .typeError, .keyError, .arithmeticError, .recursionError]

/-- How `predict` ends, when no other exception leaves it. -/
inductive LiveOutcome where
  | prediction (record : List (PyStr × Loaded)) (costUsd latencyMs : PyFloat) (provider : PyStr)
  | predictionFailed (message : PyStr) (costUsd : Option PyFloat)
  | controlPlaneRejection (message : PyStr)
  | requestNotSent (message : PyStr)

section Predict

variable (libs : HarnessLibs M) (provider : PyStr) (fx : Record)

/-- What follows `raise_for_status`. -/
def LiveResponse.readAnswer (resp : LiveResponse) : Except PyClass LiveOutcome :=
  match resp.parse.run none with
  | .error exc knownCost =>
      if exc.caught parseClause then
        .ok (.predictionFailed
          (fixtureMessage libs fx (py "malformed 2xx response (" ++ exc.name ++ py ")"))
          knownCost)
      else .error exc
  | .ok (.obj record, costUsd, latencyMs, serverProvider) _ =>
      .ok (.prediction record costUsd latencyMs serverProvider)
  | .ok _ knownCost =>
      .ok (.predictionFailed (fixtureMessage libs fx (py "2xx 'data' is not a JSON object"))
        knownCost)

/-- The `except httpx.HTTPStatusError` clause. -/
def LiveResponse.readRefusal (resp : LiveResponse) : Except PyClass LiveOutcome := do
  if (← resp.responseErrorCode).any fun code => decide (code ∈ CONTROL_PLANE_CODES) then
    return .controlPlaneRejection (fixtureMessage libs fx
      (py "HTTP " ++ decimal resp.status ++ py " (control-plane)"))
  return .predictionFailed (fixtureMessage libs fx (py "HTTP " ++ decimal resp.status))
    (← resp.responseValidationCost)

/-- `fx[key]` -/
def fixtureItem (key : String) : Except PyClass Json :=
  (lookupField fx key).elim (.error .keyError) .ok

/-- The `json=` argument, and its encoding. -/
def encodeRequest : Except PyClass Json := do
  let docType ← fixtureItem fx "doc_type"
  let schemaVersion ← fixtureItem fx "schema_version"
  let content ← fixtureItem fx "content"
  let payload := Json.obj [(py "doc_type", docType), (py "schema_version", schemaVersion),
    (py "content", content), (py "provider", .str provider)]
  if payload.encodable then return payload else throw .unicodeEncodeError

/-- `predict(fx)`; `answer` is what `httpx.post` returns or raises, once it has encoded the
    request. -/
def predict (answer : Except TransportError LiveResponse) : Except PyClass LiveOutcome := do
  let _payload ← encodeRequest provider fx
  match answer with
  | .error .connectError => return .requestNotSent (fixtureMessage libs fx (py "ConnectError"))
  | .error .connectTimeout =>
      return .requestNotSent (fixtureMessage libs fx (py "ConnectTimeout"))
  | .error (.requestError className) =>
      return .predictionFailed (fixtureMessage libs fx className) none
  | .ok resp =>
      if resp.IsSuccess then resp.readAnswer libs fx else resp.readRefusal libs fx

end Predict

/-! ## What a reader makes of a number -/

theorem LiveResponse.validatedCost_eq (cost : Loaded) :
    validatedCost cost = .ok (cost.amount?.map PyFloat.finite) := by
  rcases cost with _ | _ | n | x | _ | _ | _
  case int =>
    by_cases hfits : fitsFloat n = true
    · by_cases hn : 0 ≤ n
      · simp [validatedCost, Loaded.number?, Loaded.amount?, PyNumber.isfinite,
          PyNumber.isNonneg, PyNumber.toFloat, hfits, hn, bind, Except.bind, pure, Except.pure]
      · simp [validatedCost, Loaded.number?, Loaded.amount?, PyNumber.isfinite,
          PyNumber.isNonneg, hfits, hn, bind, Except.bind, pure, Except.pure]
    · -- `math.isfinite` overflows, and the clause gives the cost up
      have hcaught : PyClass.overflowError.caught [.overflowError] = true := by decide
      simp [validatedCost, Loaded.number?, Loaded.amount?, PyNumber.isfinite, hfits, bind,
        Except.bind, tryExcept, hcaught]
  case float =>
    rcases x with q | _ | _ | _
    · by_cases hq : 0 ≤ q
      · simp [validatedCost, Loaded.number?, Loaded.amount?, PyNumber.isfinite,
          PyNumber.isNonneg, PyNumber.toFloat, hq, bind, Except.bind, pure, Except.pure]
      · simp [validatedCost, Loaded.number?, Loaded.amount?, PyNumber.isfinite,
          PyNumber.isNonneg, hq, bind, Except.bind, pure, Except.pure]
    all_goals rfl
  all_goals rfl

/-- A latency is accepted when it is an amount, and refused by an exception that the clause
    names. -/
theorem LiveResponse.checkLatency_spec (latencyMs : Loaded) :
    (∃ q, latencyMs.amount? = some q ∧ checkLatency latencyMs = .ok (.finite q)) ∨
      (latencyMs.amount? = none ∧
        ∃ exc, checkLatency latencyMs = .error exc ∧ exc.caught parseClause = true) := by
  rcases latencyMs with _ | _ | n | x | _ | _ | _
  case int =>
    by_cases hfits : fitsFloat n = true
    · by_cases hn : 0 ≤ n
      · refine Or.inl ⟨nearestDouble n, by rw [Loaded.amount?_int, if_pos ⟨hfits, hn⟩], ?_⟩
        simp [checkLatency, Loaded.number?, PyNumber.isfinite, PyNumber.isNegative,
          PyNumber.toFloat, hfits, not_lt.mpr hn, bind, Except.bind]
      · refine Or.inr ⟨by rw [Loaded.amount?_int, if_neg fun h => hn h.2], .valueError, ?_,
          by decide⟩
        simp [checkLatency, Loaded.number?, PyNumber.isfinite, PyNumber.isNegative, hfits,
          not_le.mp hn, bind, Except.bind, throw, throwThe, MonadExceptOf.throw]
    · refine Or.inr ⟨by rw [Loaded.amount?_int, if_neg fun h => hfits h.1], .overflowError, ?_,
        by decide⟩
      simp [checkLatency, Loaded.number?, PyNumber.isfinite, hfits, bind, Except.bind]
  case float =>
    rcases x with q | _ | _ | _
    · by_cases hq : 0 ≤ q
      · refine Or.inl ⟨q, by rw [Loaded.amount?_finite, if_pos hq], ?_⟩
        simp [checkLatency, Loaded.number?, PyNumber.isfinite, PyNumber.isNegative,
          PyNumber.toFloat, not_lt.mpr hq, bind, Except.bind]
      · refine Or.inr ⟨by rw [Loaded.amount?_finite, if_neg hq], .valueError, ?_, by decide⟩
        simp [checkLatency, Loaded.number?, PyNumber.isfinite, PyNumber.isNegative,
          not_le.mp hq, bind, Except.bind, throw, throwThe, MonadExceptOf.throw]
    all_goals exact Or.inr ⟨rfl, .valueError, rfl, by decide⟩
  all_goals exact Or.inr ⟨rfl, .valueError, rfl, by decide⟩

theorem LiveResponse.checkLatency_eq_ok_iff {value : Loaded} {latencyMs : PyFloat} :
    checkLatency value = .ok latencyMs ↔ ∃ q, IsAmount value q ∧ latencyMs = .finite q := by
  simp only [← amount?_eq_some_iff]
  rcases checkLatency_spec value with ⟨q, hamount, hok⟩ | ⟨hamount, exc, herror, -⟩
  · rw [hok, hamount]
    constructor
    · rintro ⟨⟩
      exact ⟨q, rfl, rfl⟩
    · rintro ⟨_, ⟨⟩, rfl⟩
      rfl
  · rw [herror, hamount]
    apply iff_of_false
    · intro h
      cases h
    · rintro ⟨_, ⟨⟩, -⟩

theorem LiveResponse.checkProvider_str (text : PyStr) :
    checkProvider (.str text) = if strip text = [] then .error .valueError else .ok text := rfl

theorem LiveResponse.checkProvider_eq_ok_iff {value : Loaded} {serverProvider : PyStr} :
    checkProvider value = .ok serverProvider ↔
      value = .str serverProvider ∧ strip serverProvider ≠ [] := by
  rcases value with _ | _ | _ | _ | text | _ | _
  case str =>
    rw [checkProvider_str]
    split_ifs with hblank
    · apply iff_of_false
      · intro h
        cases h
      · rintro ⟨⟨⟩, hne⟩
        exact hne hblank
    · constructor
      · rintro ⟨⟩
        exact ⟨rfl, hblank⟩
      · rintro ⟨⟨⟩, -⟩
        rfl
  all_goals
    apply iff_of_false
    · intro h
      cases h
    · rintro ⟨⟨⟩, -⟩

theorem LiveResponse.checkProvider_error {value : Loaded} {exc : PyClass}
    (h : checkProvider value = .error exc) : exc = .valueError := by
  rcases value with _ | _ | _ | _ | text | _ | _
  case str =>
    rw [checkProvider_str] at h
    split_ifs at h
    cases h
    rfl
  all_goals
    cases h
    rfl

theorem DecodeFailure.caught (failure : DecodeFailure) :
    failure.cls.caught decodeClause = true ∧ failure.cls.caught parseClause = true := by
  cases failure <;> decide

theorem LiveResponse.json_eq_ok_iff {resp : LiveResponse} {body : Loaded} :
    resp.json = .ok body ↔ resp.content = .ok body := mapError_eq_ok_iff

/-! ## Refusals -/

section Refusals

variable {resp : LiveResponse}

/-- The body is an object whose `error` is the code. -/
def LiveResponse.Names (resp : LiveResponse) (code : PyStr) : Prop :=
  ∃ body, resp.content = .ok body ∧ body.field? "error" = some (.str code)

/-- The error code is read off any body without an exception. -/
theorem LiveResponse.responseErrorCode_spec (resp : LiveResponse) :
    ∃ answer, resp.responseErrorCode = .ok answer ∧
      ∀ code, answer = some code ↔ resp.Names code := by
  unfold LiveResponse.responseErrorCode LiveResponse.Names LiveResponse.json
  rcases hcontent : resp.content with failure | body
  · refine ⟨none, tryExcept_error_of_caught failure.caught.1 _, ?_⟩
    intro code
    simp
  · rcases body with _ | _ | _ | _ | _ | _ | fields
    case obj =>
      rcases hfield : (Loaded.obj fields).field? "error" with _ | value
      · refine ⟨none, ?_, ?_⟩
        · simp [Except.mapError, bind, Except.bind, Loaded.isDict, Loaded.get, hfield, pure,
            Except.pure]
        · intro code
          simp [hfield]
      · rcases value with _ | _ | _ | _ | text | _ | _
        case str =>
          refine ⟨some text, ?_, ?_⟩
          · simp [Except.mapError, bind, Except.bind, Loaded.isDict, Loaded.get, hfield, pure,
              Except.pure]
          · intro code
            simp [hfield]
        all_goals
          refine ⟨none, ?_, ?_⟩
          · simp [Except.mapError, bind, Except.bind, Loaded.isDict, Loaded.get, hfield, pure,
              Except.pure]
          · intro code
            simp [hfield]
    all_goals
      refine ⟨none, rfl, ?_⟩
      intro code
      simp [Loaded.field?]

/-- A terminal `validation_failed` with its cost. -/
structure LiveResponse.BillsValidation (resp : LiveResponse) (q : ℚ) : Prop where
  status : resp.status = 422
  code : resp.Names (py "validation_failed")
  cost : ∃ body cost, resp.content = .ok body ∧ body.field? "cost_usd" = some cost ∧
    IsAmount cost q

theorem LiveResponse.responseValidationCost_spec (resp : LiveResponse) :
    ∃ answer : Option ℚ, resp.responseValidationCost = .ok (answer.map PyFloat.finite) ∧
      ∀ q, answer = some q ↔ resp.BillsValidation q := by
  obtain ⟨code, hcode, hnames⟩ := resp.responseErrorCode_spec
  unfold LiveResponse.responseValidationCost
  by_cases hstatus : resp.status = 422
  · by_cases hfailed : code = some (py "validation_failed")
    · obtain ⟨body, hbody, herror⟩ := (hnames _).mp hfailed
      have hjson : resp.json = .ok body := json_eq_ok_iff.mpr hbody
      have hget := Loaded.get_of_isDict (Loaded.isDict_of_field? herror) "cost_usd"
      refine ⟨(body.field? "cost_usd").bind Loaded.amount?, ?_, ?_⟩
      · simp only [hstatus, hcode, hfailed, hjson, hget, bind, Except.bind, ne_eq,
          not_true_eq_false, if_false, tryExcept_ok, validatedCost_eq, Loaded.amount?_getD_null]
      · intro q
        simp only [Option.bind_eq_some_iff, amount?_eq_some_iff]
        constructor
        · rintro ⟨cost, hcost, hamount⟩
          exact ⟨hstatus, (hnames _).mp hfailed, body, cost, hbody, hcost, hamount⟩
        · rintro ⟨-, -, body', cost, hbody', hcost, hamount⟩
          cases hbody.symm.trans hbody'
          exact ⟨cost, hcost, hamount⟩
    · refine ⟨none, ?_, ?_⟩
      · simp only [hstatus, hcode, hfailed, bind, Except.bind, ne_eq, not_true_eq_false,
          not_false_eq_true, if_true, if_false]
        rfl
      · intro q
        apply iff_of_false
        · intro h
          cases h
        · intro h
          exact hfailed ((hnames _).mpr h.code)
  · refine ⟨none, ?_, ?_⟩
    · simp only [ne_eq, hstatus, not_false_eq_true, if_true]
      rfl
    · intro q
      apply iff_of_false
      · intro h
        cases h
      · intro h
        exact hstatus h.status

end Refusals

/-! ## The answer of a 2xx -/

section Answers

variable {resp : LiveResponse}

@[simp] theorem run_raising_ok {α : Type} (a : α) (s : Option PyFloat) :
    (raising (.ok a)).run s = .ok a s := rfl

@[simp] theorem run_raising_error {α : Type} (exc : PyClass) (s : Option PyFloat) :
    (raising (.error exc : Except PyClass α)).run s = .error exc s := rfl

/-- Why the parsing stops: an exception that the clause handles. -/
abbrev Handled (exc : PyClass) : Prop := exc.caught parseClause = true

theorem ensures_raising {α : Type} {P : α → Prop} {x : Except PyClass α}
    (hok : ∀ a, x = .ok a → P a) (herror : RaisesOnly Handled x) :
    Ensures P Handled (raising x) := by
  rcases x with exc | a
  · exact Ensures.throw (herror exc rfl)
  · exact Ensures.pure (hok a rfl)

theorem keeps_raising {α τ : Type} (f : Option PyFloat → τ) (x : Except PyClass α) :
    Keeps f (raising x) := by
  rcases x with exc | a
  · exact Keeps.throw exc
  · exact Keeps.pure a

theorem subscript_raisesOnly (value : Loaded) (key : String) :
    RaisesOnly Handled (value.subscript key) := by
  intro exc h
  rcases Loaded.subscript_error h with rfl | rfl
  · decide
  · decide

theorem checkLatency_raisesOnly (value : Loaded) :
    RaisesOnly Handled (LiveResponse.checkLatency value) := by
  rcases LiveResponse.checkLatency_spec value with ⟨q, -, hok⟩ | ⟨-, exc, herror, hcaught⟩
  · rw [hok]
    exact .ok _
  · rw [herror]
    exact .error hcaught

theorem checkProvider_raisesOnly (value : Loaded) :
    RaisesOnly Handled (LiveResponse.checkProvider value) := by
  intro exc h
  rw [LiveResponse.checkProvider_error h]
  decide

theorem run_parse_error {failure : DecodeFailure} (h : resp.content = .error failure) :
    resp.parse.run none = .error failure.cls none := by
  have hjson : resp.json = .error failure.cls := by
    unfold LiveResponse.json
    rw [h]
    rfl
  unfold LiveResponse.parse
  rw [hjson, EStateM.run_bind]
  rfl

theorem run_parse_ok {body : Loaded} (h : resp.content = .ok body) :
    resp.parse.run none = match body.subscript "meta" with
      | .error exc => .error exc none
      | .ok answerMeta =>
          (LiveResponse.readFields body answerMeta).run
            (((answerMeta.field? "cost_usd").bind Loaded.amount?).map PyFloat.finite) := by
  have hjson : resp.json = .ok body := LiveResponse.json_eq_ok_iff.mpr h
  unfold LiveResponse.parse
  rw [hjson, EStateM.run_bind]
  simp only [run_raising_ok, EStateM.run_bind]
  rcases body.subscript "meta" with exc | answerMeta
  · rfl
  · simp only [run_raising_ok]
    by_cases hdict : answerMeta.isDict = true
    · simp only [hdict, if_true, Loaded.get_of_isDict hdict, bind, Except.bind,
        LiveResponse.validatedCost_eq, Loaded.amount?_getD_null]
      rfl
    · have hnone : answerMeta.field? "cost_usd" = none := by
        by_contra hfield
        obtain ⟨cost, hcost⟩ := Option.ne_none_iff_exists'.mp hfield
        exact hdict (Loaded.isDict_of_field? hcost)
      simp only [hdict, hnone]
      rfl

theorem keeps_readFields {τ : Type} (f : Option PyFloat → τ) (body answerMeta : Loaded) :
    Keeps f (LiveResponse.readFields body answerMeta) := by
  unfold LiveResponse.readFields
  apply (keeps_raising f _).bind
  intro record s
  rcases s with _ | costUsd
  · rfl
  · refine ((keeps_raising f _).bind fun latencyMs => ?_) (some costUsd)
    apply (keeps_raising f _).bind
    intro serverProvider
    exact Keeps.pure _

theorem ensures_readFields (body answerMeta : Loaded) :
    Ensures (fun _ => True) Handled (LiveResponse.readFields body answerMeta) := by
  unfold LiveResponse.readFields
  refine Ensures.bind (P := fun _ => True)
    (ensures_raising (fun _ _ => trivial) (subscript_raisesOnly body "data")) ?_
  intro record _ s
  rcases s with _ | costUsd
  · show Handled .valueError
    decide
  · refine (Ensures.bind (P := fun _ => True) (ensures_raising (fun _ _ => trivial)
      ((subscript_raisesOnly answerMeta "latency_ms").bind checkLatency_raisesOnly)) ?_)
      (some costUsd)
    intro latencyMs _
    refine Ensures.bind (P := fun _ => True) (ensures_raising (fun _ _ => trivial)
      ((subscript_raisesOnly answerMeta "provider").bind checkProvider_raisesOnly)) ?_
    intro serverProvider _
    exact Ensures.pure trivial

/-- The shape of a successful answer. -/
structure LiveResponse.Answers (resp : LiveResponse) (record : Loaded) (costUsd latencyMs : ℚ)
    (serverProvider : PyStr) : Prop where
  fields : ∃ body answerMeta cost latency, resp.content = .ok body ∧
    body.field? "meta" = some answerMeta ∧ body.field? "data" = some record ∧
    answerMeta.field? "cost_usd" = some cost ∧ IsAmount cost costUsd ∧
    answerMeta.field? "latency_ms" = some latency ∧ IsAmount latency latencyMs ∧
    answerMeta.field? "provider" = some (.str serverProvider)
  named : strip serverProvider ≠ []

theorem run_readFields_eq_ok_iff {body answerMeta record : Loaded} {known : Option PyFloat}
    {costUsd latencyMs : PyFloat} {serverProvider : PyStr} {s : Option PyFloat} :
    (LiveResponse.readFields body answerMeta).run known =
        .ok (record, costUsd, latencyMs, serverProvider) s ↔
      s = known ∧ known = some costUsd ∧ body.field? "data" = some record ∧
        (∃ latency q, answerMeta.field? "latency_ms" = some latency ∧ IsAmount latency q ∧
          latencyMs = .finite q) ∧
        answerMeta.field? "provider" = some (.str serverProvider) ∧ strip serverProvider ≠ [] := by
  have hlatency : answerMeta.subscript "latency_ms" >>= LiveResponse.checkLatency =
      .ok latencyMs ↔ ∃ latency q, answerMeta.field? "latency_ms" = some latency ∧
        IsAmount latency q ∧ latencyMs = .finite q := by
    simp only [bind_eq_ok_iff, Loaded.subscript_eq_ok_iff, LiveResponse.checkLatency_eq_ok_iff,
      exists_and_left]
  have hprovider : answerMeta.subscript "provider" >>= LiveResponse.checkProvider =
      .ok serverProvider ↔ answerMeta.field? "provider" = some (.str serverProvider) ∧
        strip serverProvider ≠ [] := by
    simp only [bind_eq_ok_iff, Loaded.subscript_eq_ok_iff, LiveResponse.checkProvider_eq_ok_iff]
    constructor
    · rintro ⟨_, hfield, rfl, hne⟩
      exact ⟨hfield, hne⟩
    · rintro ⟨hfield, hne⟩
      exact ⟨_, hfield, rfl, hne⟩
  rw [← hlatency, ← hprovider, ← Loaded.subscript_eq_ok_iff]
  unfold LiveResponse.readFields
  rw [EStateM.run_bind]
  rcases body.subscript "data" with exc | record'
  · simp
  · rw [run_raising_ok]
    rcases known with _ | costUsd'
    · simp [EStateM.run_bind]
    · simp only [EStateM.run_bind, EStateM.run_get]
      rcases answerMeta.subscript "latency_ms" >>= LiveResponse.checkLatency with exc | latencyMs'
      · simp
      · rcases answerMeta.subscript "provider" >>= LiveResponse.checkProvider with exc | text
        · simp
        · simp only [run_raising_ok, EStateM.run_pure, EStateM.Result.ok.injEq, Prod.mk.injEq,
            Option.some.injEq, Except.ok.injEq]
          grind

/-- The body reports the cost in its `meta`. -/
def LiveResponse.Reports (resp : LiveResponse) (q : ℚ) : Prop :=
  ∃ body answerMeta cost, resp.content = .ok body ∧ body.field? "meta" = some answerMeta ∧
    answerMeta.field? "cost_usd" = some cost ∧ IsAmount cost q

theorem handled_of_parse_error {exc : PyClass} {known : Option PyFloat}
    (h : resp.parse.run none = .error exc known) : Handled exc := by
  rcases hcontent : resp.content with failure | body
  · rw [run_parse_error hcontent] at h
    cases h
    exact failure.caught.2
  · rw [run_parse_ok hcontent] at h
    rcases hmeta : body.subscript "meta" with exc' | answerMeta
    · rw [hmeta] at h
      cases h
      exact subscript_raisesOnly body "meta" _ hmeta
    · rw [hmeta] at h
      have hensures := ensures_readFields body answerMeta
        (((answerMeta.field? "cost_usd").bind Loaded.amount?).map PyFloat.finite)
      simp only at h
      rwa [h] at hensures

/-- `known_cost` at the end is the cost that the body reports, however the parsing ended. -/
theorem finalState_parse (resp : LiveResponse) :
    ∃ cost : Option ℚ, finalState (resp.parse.run none) = cost.map PyFloat.finite ∧
      ∀ q, cost = some q ↔ resp.Reports q := by
  unfold LiveResponse.Reports
  rcases hcontent : resp.content with failure | body
  · refine ⟨none, by rw [run_parse_error hcontent]; rfl, ?_⟩
    intro q
    simp
  · rw [run_parse_ok hcontent]
    rcases hmeta : body.subscript "meta" with exc | answerMeta
    · have hnone : ∀ answerMeta, body.field? "meta" ≠ some answerMeta := by
        intro answerMeta hfield
        rw [Loaded.subscript_eq_ok_iff.mpr hfield] at hmeta
        cases hmeta
      refine ⟨none, rfl, ?_⟩
      intro q
      apply iff_of_false
      · intro h
        cases h
      · rintro ⟨body', answerMeta, cost, hbody, hfield, -⟩
        cases hbody
        exact hnone answerMeta hfield
    · refine ⟨(answerMeta.field? "cost_usd").bind Loaded.amount?,
        keeps_readFields id body answerMeta _, ?_⟩
      intro q
      simp only [Option.bind_eq_some_iff, amount?_eq_some_iff]
      have hfield := Loaded.subscript_eq_ok_iff.mp hmeta
      constructor
      · rintro ⟨cost, hcost, hamount⟩
        exact ⟨body, answerMeta, cost, rfl, hfield, hcost, hamount⟩
      · rintro ⟨body', answerMeta', cost, hbody, hfield', hcost, hamount⟩
        cases hbody
        cases hfield.symm.trans hfield'
        exact ⟨cost, hcost, hamount⟩

theorem run_parse_eq_ok_iff {record : Loaded} {costUsd latencyMs : PyFloat}
    {serverProvider : PyStr} :
    (∃ s, resp.parse.run none = .ok (record, costUsd, latencyMs, serverProvider) s) ↔
      ∃ c l, costUsd = .finite c ∧ latencyMs = .finite l ∧
        resp.Answers record c l serverProvider := by
  rcases hcontent : resp.content with failure | body
  · rw [run_parse_error hcontent]
    apply iff_of_false
    · rintro ⟨s, ⟨⟩⟩
    · rintro ⟨c, l, -, -, ⟨body, -, -, -, hbody, -⟩, -⟩
      cases hcontent.symm.trans hbody
  · rw [run_parse_ok hcontent]
    constructor
    · rintro ⟨s, h⟩
      rcases hmeta : body.subscript "meta" with exc | answerMeta
      · rw [hmeta] at h
        cases h
      · rw [hmeta] at h
        obtain ⟨-, hcost, hdata, ⟨latency, l, hlatency, hl, rfl⟩, hprovider, hne⟩ :=
          run_readFields_eq_ok_iff.mp h
        obtain ⟨c, hc, rfl⟩ := Option.map_eq_some_iff.mp hcost
        obtain ⟨cost, hfield, hamount⟩ := Option.bind_eq_some_iff.mp hc
        exact ⟨c, l, rfl, rfl, ⟨body, answerMeta, cost, latency, hcontent,
          Loaded.subscript_eq_ok_iff.mp hmeta, hdata, hfield, amount?_eq_some_iff.mp hamount,
          hlatency, hl, hprovider⟩, hne⟩
    · rintro ⟨c, l, rfl, rfl, ⟨body', answerMeta, cost, latency, hbody, hmeta, hdata, hcost,
        hamount, hlatency, hl, hprovider⟩, hne⟩
      cases hcontent.symm.trans hbody
      rw [Loaded.subscript_eq_ok_iff.mpr hmeta]
      refine ⟨_, run_readFields_eq_ok_iff.mpr ⟨rfl, ?_, hdata, ⟨latency, l, hlatency, hl, rfl⟩,
        hprovider, hne⟩⟩
      rw [hcost, Option.bind_some, amount?_eq_some_iff.mpr hamount]
      rfl

end Answers

/-! ## The outcome -/

/-- `_PROVIDERS` -/
def PROVIDERS : List PyStr := [py "openai", py "anthropic", py "default"]

section Classified

variable {libs : HarnessLibs M} {docType provider : PyStr} {fx : Record} {resp : LiveResponse}

/-- A 2xx is a prediction or a failure at the cost that it reports. -/
theorem readAnswer_spec (libs : HarnessLibs M) (fx : Record) (resp : LiveResponse) :
    (∃ record c l serverProvider, resp.Answers (.obj record) c l serverProvider ∧
      resp.readAnswer libs fx =
        .ok (.prediction record (.finite c) (.finite l) serverProvider)) ∨
    (¬ (∃ record c l serverProvider, resp.Answers (.obj record) c l serverProvider) ∧
      ∃ message, ∃ cost : Option ℚ, (∀ q, cost = some q ↔ resp.Reports q) ∧
        resp.readAnswer libs fx =
          .ok (.predictionFailed message (cost.map PyFloat.finite))) := by
  obtain ⟨cost, hknown, hreports⟩ := finalState_parse resp
  unfold LiveResponse.readAnswer
  rcases hrun : resp.parse.run none with ⟨⟨record, costUsd, latencyMs, text⟩, known⟩ |
      ⟨exc, known⟩
  · rw [hrun, finalState_ok] at hknown
    obtain ⟨c, l, rfl, rfl, hanswers⟩ := run_parse_eq_ok_iff.mp ⟨known, hrun⟩
    rcases record with _ | _ | _ | _ | _ | _ | fields
    case obj => exact Or.inl ⟨fields, c, l, text, hanswers, rfl⟩
    all_goals
      refine Or.inr ⟨?_, _, cost, hreports, by rw [← hknown]⟩
      rintro ⟨record, c', l', text', hother⟩
      obtain ⟨s, hrun'⟩ := run_parse_eq_ok_iff.mpr ⟨c', l', rfl, rfl, hother⟩
      cases hrun.symm.trans hrun'
  · rw [hrun, finalState_error] at hknown
    refine Or.inr ⟨?_,
      fixtureMessage libs fx (py "malformed 2xx response (" ++ exc.name ++ py ")"), cost,
      hreports, ?_⟩
    · rintro ⟨record, c, l, text, hanswers⟩
      obtain ⟨s, hrun'⟩ := run_parse_eq_ok_iff.mpr ⟨c, l, rfl, rfl, hanswers⟩
      cases hrun.symm.trans hrun'
    · simp only [handled_of_parse_error hrun, if_true, hknown]

/-- Any other status is a rejection, or a failure at the cost of a terminal validation. -/
theorem readRefusal_spec (libs : HarnessLibs M) (fx : Record) (resp : LiveResponse) :
    ∃ message, resp.readRefusal libs fx = .ok (.controlPlaneRejection message) ∨
      ∃ cost : Option ℚ, (∀ q, cost = some q ↔ resp.BillsValidation q) ∧
        resp.readRefusal libs fx = .ok (.predictionFailed message (cost.map PyFloat.finite)) := by
  obtain ⟨code, hcode, -⟩ := resp.responseErrorCode_spec
  obtain ⟨cost, hcost, hbills⟩ := resp.responseValidationCost_spec
  unfold LiveResponse.readRefusal
  rw [hcode, hcost]
  by_cases hplane : (code.any fun code => decide (code ∈ CONTROL_PLANE_CODES)) = true
  · refine ⟨fixtureMessage libs fx (py "HTTP " ++ decimal resp.status ++ py " (control-plane)"),
      Or.inl ?_⟩
    simp only [bind, Except.bind, hplane, if_true]
    rfl
  · refine ⟨fixtureMessage libs fx (py "HTTP " ++ decimal resp.status),
      Or.inr ⟨cost, hbills, ?_⟩⟩
    simp only [bind, Except.bind, hplane]
    rfl

theorem encodable_of_resolve {libs : HarnessLibs M} {docType version : PyStr} {cls : ModelClass}
    (h : resolve libs.toLibraries docType version = .ok cls) :
    encodable docType = true ∧ encodable version = true := by
  unfold resolve at h
  split at h
  · rename_i entry hfind
    have hentry := List.find?_some hfind
    have hmem := List.mem_of_find?_eq_some hfind
    have hall : ∀ entry ∈ REGISTRY, encodable entry.1.1 = true ∧ encodable entry.1.2 = true := by
      decide
    have hencodable := hall entry hmem
    rwa [of_decide_eq_true hentry] at hencodable
  · cases h

/-- The request of a preflighted fixture is encoded, if its content can be. -/
theorem encodeRequest_of_passes {p : Prepared} (hpasses : Passes libs docType fx p)
    (hprovider : provider ∈ PROVIDERS)
    (hcontent : ∀ content, lookupField fx "content" = some (.str content) →
      encodable content = true) :
    ∃ payload, encodeRequest provider fx = .ok payload := by
  obtain ⟨version, hversion, -, hresolve⟩ := hpasses.versioned
  obtain ⟨content, hfield, -⟩ := hpasses.hasContent
  obtain ⟨hdoc, hencodable⟩ := encodable_of_resolve hresolve
  have hprovided : encodable provider = true := by
    have hall : ∀ provider ∈ PROVIDERS, encodable provider = true := by decide
    exact hall provider hprovider
  have hkeys : encodable (py "doc_type") = true ∧ encodable (py "schema_version") = true ∧
      encodable (py "content") = true ∧ encodable (py "provider") = true := by decide
  have hpayload : (Json.obj [(py "doc_type", .str docType), (py "schema_version", .str version),
      (py "content", .str content), (py "provider", .str provider)]).encodable = true := by
    simp [Json.encodable, Json.encodableFields, hdoc, hencodable, hcontent content hfield,
      hprovided, hkeys]
  have hencoded : encodeRequest provider fx = .ok (Json.obj [(py "doc_type", .str docType),
      (py "schema_version", .str version), (py "content", .str content),
      (py "provider", .str provider)]) := by
    unfold encodeRequest fixtureItem
    rw [hpasses.typed, hversion, hfield]
    exact if_pos hpayload
  exact ⟨_, hencoded⟩

theorem predict_of_encoded {payload : Json} (h : encodeRequest provider fx = .ok payload)
    (libs : HarnessLibs M) (answer : Except TransportError LiveResponse) :
    predict libs provider fx answer = match answer with
      | .error .connectError => .ok (.requestNotSent (fixtureMessage libs fx (py "ConnectError")))
      | .error .connectTimeout =>
          .ok (.requestNotSent (fixtureMessage libs fx (py "ConnectTimeout")))
      | .error (.requestError className) =>
          .ok (.predictionFailed (fixtureMessage libs fx className) none)
      | .ok resp =>
          if resp.IsSuccess then resp.readAnswer libs fx else resp.readRefusal libs fx := by
  unfold predict
  rw [h]
  rcases answer with (_ | _ | _) | resp <;> rfl

/-- **Every answer is classified, and no known cost is lost**: a preflighted fixture whose
    content can be encoded ends in one of the four outcomes; it is a prediction exactly on a
    2xx of the right shape, and a failure carries a cost exactly where the body reports one.
    The cost is a float: an integer that is no double comes out as the one nearest to it. -/
theorem live_response_classified {index : ℕ} {p : Prepared}
    (hpreflight : preflightFixture libs docType index fx = .ok p)
    (hprovider : provider ∈ PROVIDERS)
    (hcontent : ∀ content, lookupField fx "content" = some (.str content) →
      encodable content = true) (answer : Except TransportError LiveResponse) :
    (∃ outcome, predict libs provider fx answer = .ok outcome) ∧
    ∀ resp, answer = .ok resp →
      (∀ record costUsd latencyMs serverProvider,
        predict libs provider fx answer =
            .ok (.prediction record costUsd latencyMs serverProvider) ↔
          resp.IsSuccess ∧ ∃ c l, costUsd = .finite c ∧ latencyMs = .finite l ∧
            resp.Answers (.obj record) c l serverProvider) ∧
      ∀ message cost, predict libs provider fx answer = .ok (.predictionFailed message cost) →
        ∃ c : Option ℚ, cost = c.map PyFloat.finite ∧
          (resp.IsSuccess → ∀ q, c = some q ↔ resp.Reports q) ∧
          (¬ resp.IsSuccess → ∀ q, c = some q ↔ resp.BillsValidation q) ∧
          ∀ n q, IsAmount (.int n) q → IsDouble q ∧
            ∀ d, IsDouble d → |(n : ℚ) - q| ≤ |(n : ℚ) - d| := by
  obtain ⟨payload, hpayload⟩ :=
    encodeRequest_of_passes (preflightFixture_eq_ok_iff.mp hpreflight) hprovider hcontent
  rw [predict_of_encoded hpayload]
  -- what `float` makes of an integer cost
  have hnearest : ∀ n q, IsAmount (.int n) q → IsDouble q ∧
      ∀ d, IsDouble d → |(n : ℚ) - q| ≤ |(n : ℚ) - d| := by
    rintro n _ (⟨-, hfits⟩ | -)
    exact ⟨isDouble_nearestDouble hfits, fun d => nearestDouble_nearest n⟩
  refine ⟨?_, ?_⟩
  -- no answer escapes the four outcomes
  · rcases answer with (_ | _ | className) | resp
    · exact ⟨_, rfl⟩
    · exact ⟨_, rfl⟩
    · exact ⟨_, rfl⟩
    · simp only
      split_ifs
      · rcases readAnswer_spec libs fx resp with ⟨_, _, _, _, -, h⟩ | ⟨-, _, _, -, h⟩
        · exact ⟨_, h⟩
        · exact ⟨_, h⟩
      · obtain ⟨_, h | ⟨_, -, h⟩⟩ := readRefusal_spec libs fx resp
        · exact ⟨_, h⟩
        · exact ⟨_, h⟩
  · rintro resp rfl
    by_cases hsuccess : resp.IsSuccess
    -- a 2xx is read field by field, and the fields are unique
    · simp only [if_pos hsuccess]
      rcases readAnswer_spec libs fx resp with
        ⟨record, c, l, name, hanswers, h⟩ | ⟨hnone, message, cost, hreports, h⟩
      · rw [h]
        refine ⟨?_, fun message cost hfailed => by cases hfailed⟩
        intro record' costUsd latencyMs name'
        constructor
        · rintro ⟨⟩
          exact ⟨hsuccess, c, l, rfl, rfl, hanswers⟩
        · rintro ⟨-, c', l', rfl, rfl, hanswers'⟩
          have hparse := run_parse_eq_ok_iff.mpr ⟨c, l, rfl, rfl, hanswers⟩
          obtain ⟨s, hrun⟩ := hparse
          obtain ⟨s', hrun'⟩ := run_parse_eq_ok_iff.mpr ⟨c', l', rfl, rfl, hanswers'⟩
          cases hrun.symm.trans hrun'
          rfl
      · rw [h]
        refine ⟨?_, ?_⟩
        · intro record costUsd latencyMs name
          apply iff_of_false
          · intro hprediction
            cases hprediction
          · rintro ⟨-, c, l, -, -, hanswers⟩
            exact hnone ⟨record, c, l, name, hanswers⟩
        · rintro message' cost' ⟨⟩
          exact ⟨cost, rfl, fun _ => hreports, fun hfailed => absurd hsuccess hfailed, hnearest⟩
    -- any other status is a refusal, which is billed or not
    · simp only [if_neg hsuccess]
      obtain ⟨message, h | ⟨cost, hbills, h⟩⟩ := readRefusal_spec libs fx resp
      · rw [h]
        refine ⟨fun record costUsd latencyMs name => ?_, fun _ _ hfailed => by cases hfailed⟩
        apply iff_of_false
        · intro hprediction
          cases hprediction
        · intro hprediction
          exact hsuccess hprediction.1
      · rw [h]
        refine ⟨fun record costUsd latencyMs name => ?_, ?_⟩
        · apply iff_of_false
          · intro hprediction
            cases hprediction
          · intro hprediction
            exact hsuccess hprediction.1
        · rintro message' cost' ⟨⟩
          exact ⟨cost, rfl, fun hsuccess' => absurd hsuccess' hsuccess, fun _ => hbills, hnearest⟩

end Classified

/-- A latency that is no finite float fails the prediction, and the response is classified. -/
theorem live_response_classified_overflow :
    ∃ outcome, predict sampleHarnessLibs (py "openai") (sampleFixture "a")
      (.ok { status := 200
             content := .ok (.obj [(py "data", .obj []), (py "meta", .obj [(py "cost_usd", .int 1),
               (py "latency_ms", .float .posInf), (py "provider", .str (py "openai"))])]) }) =
      .ok outcome := by
  have hpreflight : preflightFixture sampleHarnessLibs (py "invoice") 1 (sampleFixture "a") =
      .ok (samplePrepared "a") := preflightFixture_eq_ok_iff.mpr (sampleFixture_passes "a")
  refine (live_response_classified hpreflight (by decide) ?_ _).1
  intro content h
  have hfield : lookupField (sampleFixture "a") "content" = some (.str (py "Invoice 1")) := rfl
  rw [hfield] at h
  cases h
  decide

/-- A `meta` whose cost is the first integer that is no double, and nothing else. -/
def costlyMeta : Loaded := .obj [(py "cost_usd", .int (2 ^ 53 + 1))]

def costlyResponse : LiveResponse where
  status := 200
  content := .ok (.obj [(py "meta", costlyMeta)])

/-- An integer cost that is no double is not carried exactly. -/
theorem reported_cost_is_rounded :
    preflightFixture sampleHarnessLibs (py "invoice") 1 (sampleFixture "a") =
        .ok (samplePrepared "a") ∧
      ∃ message cost, predict sampleHarnessLibs (py "openai") (sampleFixture "a")
          (.ok costlyResponse) = .ok (.predictionFailed message (some (.finite cost))) ∧
        cost ≠ ((2 ^ 53 + 1 : ℤ) : ℚ) := by
  have hamount : (Loaded.int (2 ^ 53 + 1)).amount? = some (nearestDouble (2 ^ 53 + 1) : ℚ) := by
    rw [Loaded.amount?_int, if_pos (by decide +kernel)]
  have hparse : costlyResponse.parse.run none =
      .error .keyError (some (.finite (nearestDouble (2 ^ 53 + 1)))) := by
    have hcontent : costlyResponse.content = .ok (.obj [(py "meta", costlyMeta)]) := rfl
    have hmeta : (Loaded.obj [(py "meta", costlyMeta)]).subscript "meta" = .ok costlyMeta := rfl
    have hfield : costlyMeta.field? "cost_usd" = some (.int (2 ^ 53 + 1)) := rfl
    rw [run_parse_ok hcontent, hmeta]
    simp only [hfield, Option.bind_some, hamount]
    rfl
  have hcaught : PyClass.keyError.caught parseClause = true := by decide
  have hanswer : ∃ message, costlyResponse.readAnswer sampleHarnessLibs (sampleFixture "a") =
      .ok (.predictionFailed message (some (.finite (nearestDouble (2 ^ 53 + 1))))) := by
    rw [LiveResponse.readAnswer, hparse]
    exact ⟨_, if_pos hcaught⟩
  obtain ⟨message, hanswer⟩ := hanswer
  have hencoded : ∃ payload, encodeRequest (py "openai") (sampleFixture "a") = .ok payload :=
    ⟨_, rfl⟩
  obtain ⟨payload, hpayload⟩ := hencoded
  have hsuccess : costlyResponse.IsSuccess := by decide
  refine ⟨preflightFixture_eq_ok_iff.mpr (sampleFixture_passes "a"), message,
    nearestDouble (2 ^ 53 + 1), ?_, ?_⟩
  · rw [predict_of_encoded hpayload]
    exact (if_pos hsuccess).trans hanswer
  · rw [Ne, Int.cast_inj]
    decide +kernel

end ExtractApi
