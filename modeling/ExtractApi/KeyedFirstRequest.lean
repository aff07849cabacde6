import ExtractApi.PdfExtraction
import ExtractApi.SequentialReplay

/-!
# The first request of a key

A request whose key shows no row should do what it does without the key.  The keyed
path departs from the unkeyed one in one respect: it serializes the request before
anything else, and a request that holds a lone surrogate cannot be written as UTF-8.
Such a request fails with `internal_error` before any call, where the unkeyed path
runs it.

A response that cannot be written as UTF-8 fails on both paths, inside the keyed path
or when it is rendered, so outcomes are compared as the client is answered
(`httpAnswer`).
-/

namespace ExtractApi

open PythonText JsonValue ExpiringMap RaisingProgram

variable {S M : Type}

/-! ## Answers that are no internal error -/

theorem encodable_toBody {e : ExtractError} (hextra : e.extra = [])
    (hdetail : encodable e.detail = true) : (Json.obj e.toBody).encodable = true := by
  have hkeys : encodable (py "error") = true ∧ encodable (py "detail") = true :=
    ⟨encodable_py _, encodable_py _⟩
  unfold ExtractError.toBody
  by_cases hempty : e.detail = [] <;>
    simp [hextra, hempty, Json.encodable, Json.encodableFields, encodable_value, hdetail, hkeys]

/-- An error of the service with a plain detail is rendered under its own code. -/
theorem exceptionAnswer_ne_internal {e : ExtractError} (hextra : e.extra = [])
    (hdetail : encodable e.detail = true) (hcode : e.code ≠ .internalError) :
    exceptionAnswer (.extractError e) ≠ internalAnswer := by
  show renderedAnswer e.code e.toBody [] ≠ internalAnswer
  rw [renderedAnswer_of_encodable (encodable_toBody hextra hdetail)]
  intro h
  have hstatus : STATUS_BY_CODE e.code = 500 := congrArg Prod.fst h
  cases hcase : e.code <;> simp_all [STATUS_BY_CODE]

theorem unknownSchema_ne_internal (isPrintable : CodePoint → Bool) (docType version : PyStr) :
    exceptionAnswer (.unknownSchema
      (py "no schema registered for (doc_type=" ++ pyRepr isPrintable docType ++
        py ", schema_version=" ++ pyRepr isPrintable version ++ py ")")) ≠ internalAnswer := by
  generalize hmessage : py "no schema registered for (doc_type=" ++ pyRepr isPrintable docType ++
    py ", schema_version=" ++ pyRepr isPrintable version ++ py ")" = message
  have hencodable : encodable message = true := by
    simp only [← hmessage, encodable_append, encodable_py, encodable_pyRepr, Bool.and_self]
  show renderedAnswer _ _ [] ≠ internalAnswer
  rw [renderedAnswer_of_encodable (encodable_codeBody .unsupportedDocType hencodable)]
  intro h
  have hstatus : STATUS_BY_CODE .unsupportedDocType = 500 := congrArg Prod.fst h
  cases hstatus

/-! ## The condition -/

/-- Everything before the provider client is in order, and building the client raises
    what the client of the service is told as `internal_error`. -/
structure NoClient (libs : Libraries M) (env : Surroundings S) (request : ExtractRequest)
    (budget : BudgetGuard) : Prop where
  schema : ∃ modelCls, resolve libs request.docType.value request.schemaVersion = .ok modelCls
  content : ∃ content, resolveContent libs.pymupdfOpen request = .ok content ∧ strip content ≠ []
  budget : budget.passes budget.spent = true
  unavailable : ∃ exc, env.getClient request.provider = .error exc ∧
    exceptionAnswer exc = internalAnswer

/-- An extraction fails with `internal_error` before its first call exactly when it has no
    client. -/
theorem preflight_internal_iff {libs : Libraries M} {env : Surroundings S}
    {request : ExtractRequest} {budget : BudgetGuard} {exc : PyExc}
    (h : preflight libs env request budget = .error exc) :
    exceptionAnswer exc = internalAnswer ↔ NoClient libs env request budget := by
  cases stoppedBy_of_preflight_error h with
  | schema hcls =>
    refine iff_of_false ?_ ?_
    · unfold resolve at hcls
      split at hcls
      · cases hcls
      · cases hcls
        exact unknownSchema_ne_internal _ _ _
    · intro hno
      simpa [hcls] using hno.schema
  | content _ hcontent =>
    obtain ⟨detail, rfl, -⟩ := resolveContent_raisesOnly _ _ _ hcontent
    refine iff_of_false ?_ ?_
    · exact exceptionAnswer_ne_internal rfl (encodable_py detail) (by simp [invalidContent])
    · intro hno
      simpa [hcontent] using hno.content
  | blank _ hcontent hblank =>
    refine iff_of_false ?_ ?_
    · exact exceptionAnswer_ne_internal rfl (encodable_py _) (by decide)
    · intro hno
      obtain ⟨content', hok, hne⟩ := hno.content
      rw [hcontent, Except.ok.injEq] at hok
      exact hne (hok ▸ hblank)
  | budget _ _ _ hpasses =>
    refine iff_of_false ?_ ?_
    · exact exceptionAnswer_ne_internal rfl (encodable_py _) (by decide)
    · intro hno
      simpa [hpasses] using hno.budget
  | client hcls hcontent hblank hpasses hclient =>
    constructor
    · intro hinternal
      exact ⟨⟨_, hcls⟩, ⟨_, hcontent, hblank⟩, hpasses, ⟨_, hclient, hinternal⟩⟩
    · intro hno
      obtain ⟨exc, hexc, hinternal⟩ := hno.unavailable
      rw [hclient, Except.error.injEq] at hexc
      rwa [hexc]

/-! ## The comparison -/

/-- Serializing the response early does not change the answer. -/
@[simp] theorem httpAnswer_keyedAnswer (x : Except PyExc ExtractResponse) :
    httpAnswer (keyedAnswer x) = httpAnswer x := by
  cases x with
  | error exc => rfl
  | ok response =>
    cases h : response.encodable <;> simp [keyedAnswer, httpAnswer, h]
    rfl

/-- The rows after a first request: a 200 adds its own. -/
def rowsAfter (libs : Libraries M) (c : KeyedCall) (rows : Reference) :
    Except PyExc ExtractResponse → Reference
  | .ok response =>
      if response.encodable then Function.update rows c.key (some (rowOf libs (c, response)))
      else rows
  | .error _ => rows

/-- With its key the request does what it does without: the same provider calls, the same
    budget and the same answer; and a 200 leaves its row, as seen from the end of the
    request on. -/
structure SameAsUnkeyed (libs : Libraries M) (storeId : PyStr) (c : KeyedCall)
    (w : World SqliteIdempotencyStore) : Prop where
  calls : (finalState ((c.handle libs storeId).run w)).calls =
    (finalState ((c.unkeyed libs storeId).run w)).calls
  budget : (finalState ((c.handle libs storeId).run w)).budget =
    (finalState ((c.unkeyed libs storeId).run w)).budget
  answer : httpAnswer (answerOf ((c.handle libs storeId).run w)) =
    httpAnswer (answerOf ((c.unkeyed libs storeId).run w))
  rows : ViewsAgree StoredResponse.createdAtEpoch w.store.ttlSeconds
    (max c.clockAtGet c.clockAtPut)
    (finalState ((c.handle libs storeId).run w)).store.selectRow
    (rowsAfter libs c w.store.selectRow (answerOf ((c.unkeyed libs storeId).run w)))

variable {libs : Libraries M} {storeId : PyStr} {c : KeyedCall}
  {w : World SqliteIdempotencyStore}

theorem sameAsUnkeyed_of_encodable
    (haccepted : ∃ key, validateIdempotencyKey c.idempotencyKey = .ok key)
    (hget : (w.store.get c.clockAtGet c.key).1 = none) (hencodable : c.request.encodable = true) :
    SameAsUnkeyed libs storeId c w := by
  obtain ⟨w', hrun, hcalls, hbudget, -, hstore⟩ :=
    handle_of_miss libs storeId haccepted hencodable hget
  have hpurged : ViewsAgree StoredResponse.createdAtEpoch w.store.ttlSeconds c.clockAtGet
      (w.store.get c.clockAtGet c.key).2.selectRow w.store.selectRow :=
    (ViewsAgree.refl _).purge (get_purges w.store c.key)
  constructor
  case calls => rw [hrun, finalState_outcomeIn, hcalls]
  case budget => rw [hrun, finalState_outcomeIn, hbudget]
  case answer => rw [hrun, answerOf_outcomeIn, httpAnswer_keyedAnswer]
  case rows =>
    rw [hrun, finalState_outcomeIn, hstore]
    cases answerOf ((c.unkeyed libs storeId).run w) with
    | error exc => exact hpurged.mono (le_max_left _ _)
    | ok response =>
      cases hresponse : response.encodable with
      | false =>
        simp only [keyedAnswer, rowsAfter, hresponse, Bool.false_eq_true, if_false]
        exact hpurged.mono (le_max_left _ _)
      | true =>
        simp only [keyedAnswer, rowsAfter, hresponse, if_true]
        rw [SqliteIdempotencyStore.selectRow_put_eq]
        exact (hpurged.overwrite (selectRow_get_of_none w.store hget)).mono (le_max_left _ _)

variable (libs storeId w) in
theorem handle_of_not_encodable
    (haccepted : ∃ key, validateIdempotencyKey c.idempotencyKey = .ok key)
    (h : c.request.encodable = false) :
    (c.handle libs storeId).run w = outcomeIn w (.error serializationError) := by
  rw [handle_run haccepted]
  exact runExtractIdempotent_of_not_encodable h

theorem sameAsUnkeyed_of_not_encodable
    (haccepted : ∃ key, validateIdempotencyKey c.idempotencyKey = .ok key)
    (h : c.request.encodable = false) :
    SameAsUnkeyed libs storeId c w ↔
      NoClient libs (c.surroundings storeId) c.request w.budget := by
  have hkeyed := handle_of_not_encodable libs storeId w haccepted h
  cases hpre : preflight libs (c.surroundings storeId) c.request w.budget with
  | error exc =>
    obtain ⟨w', hrun, hafter⟩ := runExtract_of_preflight_error hpre
    have hunkeyed : (c.unkeyed libs storeId).run w = outcomeIn w' (.error exc) := hrun
    rw [← preflight_internal_iff hpre]
    constructor
    · intro hsame
      have hanswer := hsame.answer
      rw [hkeyed, hunkeyed, answerOf_outcomeIn, answerOf_outcomeIn] at hanswer
      exact hanswer.symm
    · intro hinternal
      constructor
      case calls =>
        rw [hkeyed, hunkeyed, finalState_outcomeIn, finalState_outcomeIn, hafter.calls,
          List.append_nil]
      case budget =>
        rw [hkeyed, hunkeyed, finalState_outcomeIn, finalState_outcomeIn, hafter.budget,
          BudgetGuard.charge_zero]
      case answer =>
        rw [hkeyed, hunkeyed, answerOf_outcomeIn, answerOf_outcomeIn]
        exact hinternal.symm
      case rows =>
        rw [hkeyed, hunkeyed, finalState_outcomeIn, answerOf_outcomeIn]
        exact ViewsAgree.refl _
  | ok ready =>
    -- past `preflight` the unkeyed path calls the provider, the keyed path never does
    obtain ⟨modelCls, content, client⟩ := ready
    obtain ⟨e, he⟩ := exists_endsAs client (libs.model modelCls) MAX_ATTEMPTS
    obtain ⟨w', hrun, hafter⟩ := runExtract_of_preflight_ok hpre he
    have hunkeyed : (c.unkeyed libs storeId).run w = outcomeIn w' _ := hrun
    refine iff_of_false (fun hsame => ?_) fun hno => ?_
    · have hcalls := hsame.calls
      rw [hkeyed, hunkeyed, finalState_outcomeIn, finalState_outcomeIn, hafter.calls] at hcalls
      have hlength := congrArg List.length hcalls
      rw [List.length_append, length_callsThrough] at hlength
      have hone : 1 ≤ e.calls MAX_ATTEMPTS := he.one_le_calls (by decide)
      omega
    · obtain ⟨exc, hexc, -⟩ := hno.unavailable
      rw [(preflight_eq_ok_iff.mp hpre).client] at hexc
      cases hexc

/-- **A key does not change what a first request does, exactly when the request can be
    written as UTF-8 or has no provider client anyway.** -/
theorem first_request_same_iff (libs : Libraries M) (storeId : PyStr) (c : KeyedCall)
    (w : World SqliteIdempotencyStore)
    (haccepted : ∃ key, validateIdempotencyKey c.idempotencyKey = .ok key)
    (hget : (w.store.get c.clockAtGet c.key).1 = none) :
    SameAsUnkeyed libs storeId c w ↔
      c.request.encodable = true ∨ NoClient libs (c.surroundings storeId) c.request w.budget := by
  cases hencodable : c.request.encodable with
  | true => simp [sameAsUnkeyed_of_encodable haccepted hget hencodable]
  | false => simpa using sameAsUnkeyed_of_not_encodable haccepted hencodable

theorem first_request_same_iff_sample :
    SameAsUnkeyed sampleLibs (py "store") (sampleCall 0 1) (freshWorld emptyHourStore 10) := by
  have hencodable : sampleRequest.encodable = true := by decide +kernel
  exact (first_request_same_iff sampleLibs (py "store") (sampleCall 0 1)
    (freshWorld emptyHourStore 10) ⟨py "k1", rfl⟩ rfl).mpr (Or.inl hencodable)

/-- The sample request with a lone surrogate for content. -/
def surrogateCall : KeyedCall :=
  { sampleCall 0 1 with request := { sampleRequest with content := [0xD800] } }

/-- Without its key the request is answered with a 200 after one call; with its key, under
    which nothing is stored, with an `internal_error` and no call. -/
theorem surrogate_request_differs :
    validateIdempotencyKey surrogateCall.idempotencyKey = .ok (py "k1") ∧
      (emptyHourStore.get 0 surrogateCall.key).1 = none ∧
      (httpAnswer (answerOf ((surrogateCall.unkeyed sampleLibs (py "store")).run
        (freshWorld emptyHourStore 10)))).1 = 200 ∧
      (finalState ((surrogateCall.unkeyed sampleLibs (py "store")).run
        (freshWorld emptyHourStore 10))).calls.length = 1 ∧
      (httpAnswer (answerOf ((surrogateCall.handle sampleLibs (py "store")).run
        (freshWorld emptyHourStore 10)))).1 = 500 ∧
      (finalState ((surrogateCall.handle sampleLibs (py "store")).run
        (freshWorld emptyHourStore 10))).calls.length = 0 := by
  refine ⟨rfl, rfl, ?_, ?_, ?_, ?_⟩ <;> decide +kernel

end ExtractApi
