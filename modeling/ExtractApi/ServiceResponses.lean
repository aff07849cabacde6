import ExtractApi.LiveResponses

/-!
# The service's own responses

On a body that holds no special float, `predict` is the `predictOutcome` of the live runs:
the same fields are read in the same order, the same exception stops the reading, and the
same cost is known when it does.
-/

namespace ExtractApi

open PythonText JsonValue LoadedJson RaisingProgram

variable {M : Type}

/-! ## Two models of a program -/

/-- A program of the one model does what the other's does, and names its exceptions. -/
def Agrees {α β : Type} (f : α → β) (x : Except PyStr α) (y : Except PyClass β) : Prop :=
  y.mapError PyClass.name = x.map f

section Agrees

variable {α β α' β' : Type} {f : α → β} {g : α' → β'}

theorem Agrees.ok {a : α} {b : β} (h : b = f a) : Agrees f (.ok a) (.ok b) := by
  rw [h]
  rfl

theorem Agrees.error (exc : PyClass) : Agrees f (.error exc.name) (.error exc) := rfl

theorem Agrees.bind {x : Except PyStr α} {y : Except PyClass β} {k : α → Except PyStr α'}
    {l : β → Except PyClass β'} (h : Agrees f x y) (hk : ∀ a, Agrees g (k a) (l (f a))) :
    Agrees g (x >>= k) (y >>= l) := by
  rcases x with name | a
  · rcases y with exc | b
    · cases h
      exact Agrees.error exc
    · cases h
  · rcases y with exc | b
    · cases h
    · cases h
      exact hk a

end Agrees

/-! ## The readers -/

theorem agrees_subscript (value : Json) (key : String) :
    Agrees ofJson (subscript value key) ((ofJson value).subscript key) := by
  rcases value with _ | _ | _ | _ | _ | _ | fields
  case obj =>
    have hfield := field?_ofJson (.obj fields) key
    have hdict : (ofJson (.obj fields)).isDict = true := rfl
    unfold subscript Loaded.subscript
    rw [hdict, hfield]
    rcases (Json.obj fields).get? (py key) with _ | found
    · exact Agrees.error .keyError
    · exact Agrees.ok rfl
  all_goals exact Agrees.error .typeError

theorem subscript_of_get? {value found : Json} {key : String}
    (h : value.get? (py key) = some found) : subscript value key = .ok found := by
  rcases value with _ | _ | _ | _ | _ | _ | fields
  case obj =>
    show ((Json.obj fields).get? (py key)).elim _ _ = _
    rw [h]
    rfl
  all_goals cases h

theorem amount?_ofJson (value : Json) : (ofJson value).amount? = validatedCost value := by
  cases value <;> rfl

theorem agrees_checkLatency (value : Json) :
    Agrees PyFloat.finite (checkLatency value) (LiveResponse.checkLatency (ofJson value)) := by
  rcases value with _ | _ | n | q | _ | _ | _
  case int =>
    by_cases hfits : fitsFloat n = true
    · by_cases hn : n < 0
      · simp [checkLatency, LiveResponse.checkLatency, Agrees, ofJson, Loaded.number?,
          PyNumber.isfinite, PyNumber.isNegative, hfits, hn, bind, Except.bind, throw, throwThe,
          MonadExceptOf.throw, Except.mapError, Except.map, PyClass.name]
      · simp [checkLatency, LiveResponse.checkLatency, Agrees, ofJson, Loaded.number?,
          PyNumber.isfinite, PyNumber.isNegative, PyNumber.toFloat, hfits, hn, bind, Except.bind,
          Except.mapError, Except.map]
    · simp [checkLatency, LiveResponse.checkLatency, Agrees, ofJson, Loaded.number?,
        PyNumber.isfinite, hfits, bind, Except.bind, Except.mapError, Except.map, PyClass.name]
  case float =>
    by_cases hq : q < 0
    · simp [checkLatency, LiveResponse.checkLatency, Agrees, ofJson, Loaded.number?,
        PyNumber.isfinite, PyNumber.isNegative, hq, bind, Except.bind, throw, throwThe,
        MonadExceptOf.throw, Except.mapError, Except.map, PyClass.name]
    · simp [checkLatency, LiveResponse.checkLatency, Agrees, ofJson, Loaded.number?,
        PyNumber.isfinite, PyNumber.isNegative, PyNumber.toFloat, hq, bind, Except.bind,
        Except.mapError, Except.map]
  all_goals exact Agrees.error .valueError

theorem agrees_checkProvider (value : Json) :
    Agrees id (checkProvider value) (LiveResponse.checkProvider (ofJson value)) := by
  rcases value with _ | _ | _ | _ | text | _ | _
  case str =>
    have hpure : checkProvider (.str text) =
        if strip text = [] then .error (py "ValueError") else .ok text := rfl
    rw [hpure, ofJson, LiveResponse.checkProvider_str]
    split_ifs
    · exact Agrees.error .valueError
    · exact Agrees.ok rfl
  all_goals exact Agrees.error .valueError

/-! ## The parsing -/

/-- The service's response, as `httpx` hands it on. -/
def LiveResponse.ofHttp (resp : HttpResponse) : LiveResponse where
  status := resp.status
  content := resp.body.elim (.error .notJson) fun body => .ok (ofJson body)

/-- The fields of a parsed answer. -/
def ofParsed : Json × ℚ × ℚ × PyStr → Loaded × PyFloat × PyFloat × PyStr
  | (record, costUsd, latencyMs, provider) =>
      (ofJson record, .finite costUsd, .finite latencyMs, provider)

theorem answerOf_readFields (body answerMeta : Loaded) (known : Option PyFloat) :
    answerOf ((LiveResponse.readFields body answerMeta).run known) = (do
      let record ← body.subscript "data"
      let costUsd ← known.elim (.error .valueError) .ok
      let latencyMs ← answerMeta.subscript "latency_ms" >>= LiveResponse.checkLatency
      let serverProvider ← answerMeta.subscript "provider" >>= LiveResponse.checkProvider
      return (record, costUsd, latencyMs, serverProvider)) := by
  unfold LiveResponse.readFields
  rw [EStateM.run_bind]
  rcases body.subscript "data" with exc | record
  · rfl
  · rw [run_raising_ok]
    rcases known with _ | costUsd
    · rfl
    · simp only [EStateM.run_bind, EStateM.run_get]
      rcases answerMeta.subscript "latency_ms" >>= LiveResponse.checkLatency with exc | latencyMs
      · rfl
      · rcases answerMeta.subscript "provider" >>= LiveResponse.checkProvider with exc | text
        · rfl
        · rfl

theorem amount?_cost_ofJson (value : Json) :
    ((ofJson value).field? "cost_usd").bind Loaded.amount? =
      validatedCost (dictGet value "cost_usd") := by
  rw [field?_ofJson, dictGet]
  rcases value.get? (py "cost_usd") with _ | cost
  · rfl
  · exact amount?_ofJson cost

/-- The parsing of the two models: the same fields or the same exception, and the same known
    cost. -/
theorem agrees_parse (resp : HttpResponse) :
    Agrees ofParsed (parseAnswer resp) (answerOf ((LiveResponse.ofHttp resp).parse.run none)) ∧
      finalState ((LiveResponse.ofHttp resp).parse.run none) =
        (knownCost resp).map PyFloat.finite := by
  rcases hbody : resp.body with _ | body
  · have hcontent : (LiveResponse.ofHttp resp).content = .error .notJson := by
      rw [LiveResponse.ofHttp, hbody]
      rfl
    rw [run_parse_error hcontent, parseAnswer, knownCost, hbody]
    exact ⟨Agrees.error .jsonDecodeError, rfl⟩
  · have hcontent : (LiveResponse.ofHttp resp).content = .ok (ofJson body) := by
      rw [LiveResponse.ofHttp, hbody]
      rfl
    have hknown : knownCost resp = (body.get? (py "meta")).bind fun answerMeta =>
        ((ofJson answerMeta).field? "cost_usd").bind Loaded.amount? := by
      unfold knownCost
      rw [hbody, Option.bind_some]
      rcases body.get? (py "meta") with _ | answerMeta
      · rfl
      · rw [Option.bind_some, amount?_cost_ofJson]
        cases answerMeta <;> rfl
    have hparse : parseAnswer resp = (do
        let answerMeta ← subscript body "meta"
        let record ← subscript body "data"
        let costUsd ← (knownCost resp).elim (.error (py "ValueError")) .ok
        let latencyMs ← subscript answerMeta "latency_ms" >>= checkLatency
        let serverProvider ← subscript answerMeta "provider" >>= checkProvider
        return (record, costUsd, latencyMs, serverProvider)) := by
      rw [parseAnswer, hbody]
      rfl
    -- without a `meta` both readings end here, and neither knows a cost
    have hsub := agrees_subscript body "meta"
    rw [run_parse_ok hcontent, hparse]
    rcases hmeta : (ofJson body).subscript "meta" with exc | answerMeta'
    · rw [hmeta] at hsub
      rcases hsubscript : subscript body "meta" with name | answerMeta
      · rw [hsubscript] at hsub
        cases hsub
        refine ⟨Agrees.error exc, ?_⟩
        have hnone : body.get? (py "meta") = none := by
          by_contra hsome
          obtain ⟨found, hfound⟩ := Option.ne_none_iff_exists'.mp hsome
          have hfield := field?_ofJson body "meta"
          rw [hfound] at hfield
          cases hmeta.symm.trans (Loaded.subscript_eq_ok_iff.mpr hfield)
        rw [hknown, hnone]
        rfl
      · rw [hsubscript] at hsub
        cases hsub
    · have hfield := Loaded.subscript_eq_ok_iff.mp hmeta
      rw [field?_ofJson] at hfield
      obtain ⟨answerMeta, hget, rfl⟩ := Option.map_eq_some_iff.mp hfield
      have hcost :
          ((ofJson answerMeta).field? "cost_usd").bind Loaded.amount? = knownCost resp := by
        rw [hknown, hget, Option.bind_some]
      rw [subscript_of_get? hget]
      show Agrees _ (do
          let record ← subscript body "data"
          let costUsd ← (knownCost resp).elim (.error (py "ValueError")) .ok
          let latencyMs ← subscript answerMeta "latency_ms" >>= checkLatency
          let serverProvider ← subscript answerMeta "provider" >>= checkProvider
          return (record, costUsd, latencyMs, serverProvider))
        (answerOf ((LiveResponse.readFields (ofJson body) (ofJson answerMeta)).run _)) ∧
        finalState ((LiveResponse.readFields (ofJson body) (ofJson answerMeta)).run _) = _
      rw [hcost, answerOf_readFields]
      -- the remaining fields, in the order in which both read them
      refine ⟨?_, keeps_readFields id _ _ _⟩
      apply (agrees_subscript body "data").bind
      intro record
      refine Agrees.bind (f := PyFloat.finite) ?_ ?_
      · rcases knownCost resp with _ | costUsd
        · exact Agrees.error .valueError
        · exact Agrees.ok rfl
      · intro costUsd
        apply ((agrees_subscript answerMeta "latency_ms").bind agrees_checkLatency).bind
        intro latencyMs
        apply ((agrees_subscript answerMeta "provider").bind agrees_checkProvider).bind
        intro serverProvider
        exact Agrees.ok rfl

/-! ## The outcome -/

/-- The outcome of the service's response, with the values that `httpx` hands on. -/
def LiveOutcome.ofOutcome : PredictorOutcome → LiveOutcome
  | .prediction answer =>
      .prediction (ofFields answer.record) (.finite answer.costUsd) (.finite answer.latencyMs)
        answer.provider
  | .predictionFailed message costUsd =>
      .predictionFailed message (costUsd.map PyFloat.finite)
  | .controlPlaneRejection message => .controlPlaneRejection message
  | .requestNotSent message => .requestNotSent message

section OwnResponses

variable {provider : PyStr} {fx : Record}

theorem readAnswer_ofHttp (libs : HarnessLibs M) (fx : Record) (resp : HttpResponse) :
    (LiveResponse.ofHttp resp).readAnswer libs fx =
      .ok (LiveOutcome.ofOutcome (readAnswer libs fx resp)) := by
  obtain ⟨hagrees, hknown⟩ := agrees_parse resp
  unfold LiveResponse.readAnswer readAnswer
  rcases hrun : (LiveResponse.ofHttp resp).parse.run none with ⟨parsed, known⟩ | ⟨exc, known⟩
  · rw [hrun, answerOf] at hagrees
    rw [hrun, finalState_ok] at hknown
    rcases hparse : parseAnswer resp with name | ⟨record, costUsd, latencyMs, text⟩
    · rw [hparse] at hagrees
      cases hagrees
    · rw [hparse] at hagrees
      cases hagrees
      cases record <;> simp only [ofParsed, ofJson, LiveOutcome.ofOutcome, hknown]
  · rw [hrun, answerOf] at hagrees
    rw [hrun, finalState_error] at hknown
    rcases hparse : parseAnswer resp with name | parsed
    · rw [hparse] at hagrees
      cases hagrees
      simp only [handled_of_parse_error hrun, if_true, LiveOutcome.ofOutcome, hknown]
    · rw [hparse] at hagrees
      cases hagrees

theorem names_ofHttp {resp : HttpResponse} {code : PyStr} :
    (LiveResponse.ofHttp resp).Names code ↔ responseErrorCode resp = some code := by
  unfold LiveResponse.Names LiveResponse.ofHttp
  rw [responseErrorCode_eq_some_iff, HttpResponse.errorField]
  rcases resp.body with _ | body
  · simp
  · simp only [Option.elim_some, Except.ok.injEq, exists_eq_left', Option.bind_some]
    rw [field?_ofJson, Option.map_eq_some_iff]
    constructor
    · rintro ⟨value, hvalue, hstr⟩
      rcases value with _ | _ | _ | _ | text | _ | _
      case str =>
        cases hstr
        exact hvalue
      all_goals cases hstr
    · intro hvalue
      exact ⟨_, hvalue, rfl⟩

theorem responseErrorCode_ofHttp (resp : HttpResponse) :
    (LiveResponse.ofHttp resp).responseErrorCode = .ok (responseErrorCode resp) := by
  obtain ⟨code, hcode, hnames⟩ := (LiveResponse.ofHttp resp).responseErrorCode_spec
  rw [hcode]
  apply congrArg Except.ok
  apply Option.ext
  intro text
  rw [hnames, names_ofHttp]

theorem responseValidationCost_ofHttp (resp : HttpResponse) :
    (LiveResponse.ofHttp resp).responseValidationCost =
      .ok ((responseValidationCost resp).map PyFloat.finite) := by
  obtain ⟨cost, hcost, hbills⟩ := (LiveResponse.ofHttp resp).responseValidationCost_spec
  rw [hcost]
  apply congrArg (fun cost => Except.ok (Option.map PyFloat.finite cost))
  apply Option.ext
  intro q
  rw [hbills]
  unfold responseValidationCost
  constructor
  · rintro ⟨hstatus, hnames, body, cost, hbody, hfield, hamount⟩
    have hstatus' : resp.status = 422 := hstatus
    rw [if_neg (by simp [hstatus', names_ofHttp.mp hnames])]
    rcases hown : resp.body with _ | own
    · rw [LiveResponse.ofHttp, hown] at hbody
      cases hbody
    · rw [LiveResponse.ofHttp, hown] at hbody
      cases hbody
      rw [Option.bind_some, ← amount?_cost_ofJson, hfield, Option.bind_some,
        amount?_eq_some_iff]
      exact hamount
  · intro h
    split_ifs at h with hrefused
    simp only [not_or, not_not] at hrefused
    obtain ⟨own, hown, hcost⟩ := Option.bind_eq_some_iff.mp h
    rw [← amount?_cost_ofJson] at hcost
    obtain ⟨cost, hfield, hamount⟩ := Option.bind_eq_some_iff.mp hcost
    refine ⟨hrefused.1, names_ofHttp.mpr hrefused.2, ofJson own, cost, ?_, hfield,
      amount?_eq_some_iff.mp hamount⟩
    rw [LiveResponse.ofHttp, hown]
    rfl

/-- **On the service's responses the two models agree.** -/
theorem predict_ofHttp {payload : Json} (h : encodeRequest provider fx = .ok payload)
    (libs : HarnessLibs M) (answer : Except TransportError HttpResponse) :
    predict libs provider fx (answer.map LiveResponse.ofHttp) =
      .ok (LiveOutcome.ofOutcome (predictOutcome libs fx answer)) := by
  rw [predict_of_encoded h]
  rcases answer with (_ | _ | className) | resp
  · rfl
  · rfl
  · rfl
  · have hsuccess : (LiveResponse.ofHttp resp).IsSuccess ↔
        200 ≤ resp.status ∧ resp.status < 300 := Iff.rfl
    simp only [Except.map, predictOutcome, hsuccess]
    split_ifs
    · exact readAnswer_ofHttp libs fx resp
    · unfold LiveResponse.readRefusal readRefusal
      rw [responseErrorCode_ofHttp, responseValidationCost_ofHttp]
      simp only [bind, Except.bind]
      split_ifs <;> rfl

end OwnResponses

end ExtractApi
