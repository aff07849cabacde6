import ExtractApi.BudgetGuard
import ExtractApi.ContentResolution
import ExtractApi.IdempotencyStore
import ExtractApi.ValidationRetry

/-!
# The extraction flow (`api/main.py`)

`runExtract` drives one extraction and maps failures to the taxonomy;
`runExtractIdempotent` wraps it for a keyed request; `extract` is the endpoint.

What the flow takes from outside the repository is a parameter: `Libraries` is the
same for every request of a process, `Surroundings` is what one request finds (the
provider client that its environment resolves, the store and the clock).
-/

namespace ExtractApi

open PythonText JsonValue

variable {S M : Type}

/-! ## Schemas and prompts -/

/-- The strict models, by class. -/
inductive ModelClass where
  | InvoiceV1
  | JobPostingV1
deriving DecidableEq, Repr

def REGISTRY : List ((PyStr × PyStr) × ModelClass) :=
  [((py "invoice", py "v1"), .InvoiceV1), ((py "uk_job_posting", py "v1"), .JobPostingV1)]

/-- Third-party code, and the parts of the standard library that are not modelled. -/
structure Libraries (M : Type) where
  /-- the strict model of a class, as Pydantic builds it -/
  model : ModelClass → StrictModel M
  pymupdfOpen : PyMuPdf
  /-- `str.isprintable` of one character beyond ASCII -/
  isPrintable : CodePoint → Bool
  /-- `hashlib.sha256(data).digest()` -/
  sha256 : List Byte → List Byte
  /-- the text of `model_dump_json()` of an encodable response -/
  responseText : ExtractResponse → PyStr
  /-- `ExtractResponse.model_validate_json`; an error is the exception's class name -/
  validateResponse : PyStr → Except PyStr ExtractResponse

/-- What one request finds around it. -/
structure Surroundings (S : Type) where
  /-- `get_client`, for the environment of the process -/
  getClient : Provider → Except PyExc LLMClient
  /-- `_store()`: the cached or injected store, or what building it raises -/
  store : Except PyExc (IdempotencyStore S)
  /-- `time.time()` in the store's `get` -/
  clockAtGet : ℚ
  /-- `time.time()` when the response is stored -/
  clockAtPut : ℚ

/-- `schemas.registry.resolve` -/
def resolve (libs : Libraries M) (docType schemaVersion : PyStr) : Except PyExc ModelClass :=
  match REGISTRY.find? fun entry => decide (entry.1 = (docType, schemaVersion)) with
  | some entry => .ok entry.2
  | none => .error (.unknownSchema
      (py "no schema registered for (doc_type=" ++ pyRepr libs.isPrintable docType ++
        py ", schema_version=" ++ pyRepr libs.isPrintable schemaVersion ++ py ")"))

/-- `_DOC_LABELS` -/
def DOC_LABELS : List (PyStr × PyStr) :=
  [(py "invoice", py "an invoice"), (py "uk_job_posting", py "a UK job posting")]

/-- `_BASE` -/
def BASE_PROMPT : PyStr :=
  py "You extract structured data from documents into a strict JSON schema. " ++
    py "Return ONLY a single JSON object that conforms to the provided schema, with no " ++
    py "prose, markdown, or code fences. Rules: use the exact field names from the " ++
    py "schema; include every field, using an explicit null for any value that is " ++
    py "genuinely absent from the document; never guess, infer, or invent a value; " ++
    py "write dates in ISO-8601 (YYYY-MM-DD); write monetary amounts as integer minor " ++
    py "units (for example pence or cents), never decimal strings; write currency as a " ++
    py "3-letter uppercase ISO-4217 code."

/-- `build_system_prompt` -/
def buildSystemPrompt (docType : PyStr) : PyStr :=
  BASE_PROMPT ++ py " The document is " ++
    (DOC_LABELS.lookup docType).getD (py "a document") ++ py "."

/-- `_field_confidence` -/
def fieldConfidence (data : List (PyStr × Json)) : List (PyStr × ℚ) :=
  data.map fun field => (field.1, if field.2.isNull then 0 else 1)

/-! ## One extraction -/

def emptyContent : ExtractError where
  code := .validationFailed
  detail := py "content is empty or whitespace-only; nothing to extract"

/-- The warning logged for a provider failure: the provider and the class only. -/
def providerFailureRecord (msg : String) (e : ProviderError) : LogRecord where
  logger := "extract.api"
  level := .warning
  msg := msg
  args := [.str e.provider, .str e.kind.className]

def providerTimedOut (e : ProviderError) : ExtractError where
  code := .providerTimeout
  detail := py "the " ++ e.provider ++ py " provider timed out"

def providerFailed (e : ProviderError) : ExtractError where
  code := .providerError
  detail := py "the " ++ e.provider ++ py " provider call failed"

/-- The `validation_failed` of an exhausted retry loop, with its trail. -/
def extractionRejected (e : ExtractionFailed) : ExtractError where
  code := .validationFailed
  detail := e.message
  extra := [(py "attempts", .int e.attempts), (py "trail", trailJson e.trail),
    (py "cost_usd", .float e.costUsd)]

/-- The `except` clauses around `run_extraction`: reconcile the spend, note it, and
    raise the taxonomy error. -/
def mapFailure {α : Type} : PyExc → Service S α
  | .providerError e => do
      BudgetGuard.add e.costUsd
      note [("cost_usd", .float e.costUsd)]
      if e.kind = .timeout then
        emit (providerFailureRecord "provider timeout (%s, %s)" e)
        throw (.extractError (providerTimedOut e))
      else
        emit (providerFailureRecord "provider error (%s, %s)" e)
        throw (.extractError (providerFailed e))
  | .extractionFailed e => do
      BudgetGuard.add e.costUsd
      note [("attempts", .int e.attempts), ("cost_usd", .float e.costUsd)]
      throw (.extractError (extractionRejected e))
  | exc => throw exc

/-- The response of a run that was accepted. -/
def buildResponse (request : ExtractRequest) (client : LLMClient) (data : List (PyStr × Json))
    (result : CompletionResult) (attempts : ℕ) : ExtractResponse where
  data := data
  extractMeta :=
    { provider := client.provider
      model := result.model
      schemaVersion := request.schemaVersion
      attempts := attempts
      fieldConfidence := fieldConfidence data
      costUsd := result.costUsd
      latencyMs := result.latencyMs }

section Flow

variable (libs : Libraries M) (env : Surroundings S)

/-- `_run_extract` -/
def runExtract (request : ExtractRequest) : Service S ExtractResponse := do
  let modelCls ← liftExcept (resolve libs request.docType.value request.schemaVersion)
  let content ← liftExcept
    ((resolveContent libs.pymupdfOpen request).mapError PyExc.extractError)
  if strip content = [] then throw (.extractError emptyContent)
  BudgetGuard.check
  let client ← liftExcept (env.getClient request.provider)
  noteClient client
  let system := buildSystemPrompt request.docType.value
  let (model, result, attempts) ← tryCatch
    (runExtraction client (libs.model modelCls) system content DEFAULT_MAX_TOKENS MAX_ATTEMPTS
      .noteRetry) mapFailure
  BudgetGuard.add result.costUsd
  let data := (libs.model modelCls).dump model
  return buildResponse request client data result attempts

/-! ## The keyed path -/

/-- `_MAX_IDEMPOTENCY_KEY_LEN` -/
def MAX_IDEMPOTENCY_KEY_LEN : ℕ := 255

/-- `_validate_idempotency_key` -/
def validateIdempotencyKey (idempotencyKey : PyStr) : Except PyExc PyStr :=
  let key := strip idempotencyKey
  if key = [] then
    .error (.extractError
      { code := .validationFailed, detail := py "Idempotency-Key must not be blank" })
  else if MAX_IDEMPOTENCY_KEY_LEN < key.length then
    .error (.extractError
      { code := .validationFailed
        detail := py "Idempotency-Key must be at most 255 characters" })
  else .ok key

/-- `hexdigest()` of a digest -/
def hexDigest (digest : List Byte) : PyStr :=
  digest.flatMap fun b => [hexDigit ⟨b.val / 16, by omega⟩, hexDigit ⟨b.val % 16, by omega⟩]

theorem hexDigest_injective : Function.Injective hexDigest := by
  intro xs ys h
  induction xs generalizing ys with
  | nil =>
    cases ys with
    | nil => rfl
    | cons y ys => cases h
  | cons x xs ih =>
    cases ys with
    | nil => cases h
    | cons y ys =>
      simp only [hexDigest, List.flatMap_cons, List.cons_append, List.nil_append,
        List.cons.injEq] at h
      obtain ⟨hhigh, hlow, hrest⟩ := h
      have hhigh := Fin.ext_iff.mp (hexDigit_injective hhigh)
      have hlow := Fin.ext_iff.mp (hexDigit_injective hlow)
      simp only at hhigh hlow
      have hxy : x = y := Fin.ext (by omega)
      rw [hxy, ih hrest]

/-- `payload_hash` -/
def payloadHash (body : List Byte) : PyStr := hexDigest (libs.sha256 body)

/-- What `model_dump_json` raises on text that cannot be encoded as UTF-8. -/
def serializationError : PyExc := .other (py "PydanticSerializationError")

/-- `request.model_dump_json().encode()` -/
def ExtractRequest.dumpBytes (request : ExtractRequest) : Except PyExc (List Byte) :=
  match utf8 request.jsonText with
  | some bytes => .ok bytes
  | none => .error serializationError

/-- Every string of the response can be written as UTF-8. -/
def ExtractResponse.encodable (r : ExtractResponse) : Bool := r.toJson.encodable

/-- `response.model_dump_json()` -/
def dumpResponse (response : ExtractResponse) : Except PyExc PyStr :=
  if response.encodable then .ok (libs.responseText response) else .error serializationError

/-- `ExtractResponse.model_validate_json(text)` -/
def parseResponse (text : PyStr) : Except PyExc ExtractResponse :=
  (libs.validateResponse text).mapError PyExc.other

/-- An operation of the store, inside a request. -/
def onStore {α : Type} (op : EStateM PyExc S α) : Service S α :=
  RaisingProgram.focus World.store (fun w s => { w with store := s }) id op

def idempotencyConflict : ExtractError where
  code := .idempotencyConflict
  detail := py "Idempotency-Key was reused with a different request payload"

/-- The stored response as a replay answers it. -/
def ExtractResponse.asReplay (r : ExtractResponse) : ExtractResponse :=
  { r with extractMeta := { r.extractMeta with replayed := true } }

/-- The row stored for a 200. -/
def storedResponse (requestHash responseJson : PyStr) (createdAtEpoch : ℚ) : StoredResponse where
  payloadSha256 := requestHash
  responseJson := responseJson
  statusCode := 200
  createdAtEpoch := createdAtEpoch

/-- `_run_extract_idempotent` -/
def runExtractIdempotent (store : IdempotencyStore S) (key : PyStr) (request : ExtractRequest) :
    Service S ExtractResponse := do
  let body ← liftExcept request.dumpBytes
  let requestHash := payloadHash libs body
  let existing ← onStore (store.get env.clockAtGet key)
  match existing with
  | some stored =>
      if stored.payloadSha256 ≠ requestHash then throw (.extractError idempotencyConflict)
      let replayed ← liftExcept (parseResponse libs stored.responseJson)
      return replayed.asReplay
  | none =>
      let response ← runExtract libs env request
      let responseJson ← liftExcept (dumpResponse libs response)
      onStore (store.put key (storedResponse requestHash responseJson env.clockAtPut))
      return response

/-! ## The endpoint -/

/-- `response.headers["X-Idempotency-Store"] = store_id` -/
def setHeader (value : PyStr) : Except PyExc PyStr :=
  if isLatin1 value then .ok value else .error unicodeEncodeError

/-- The endpoint `extract`, with the `X-Idempotency-Store` header it sets. -/
def extract (request : ExtractRequest) (idempotencyKey : Option PyStr) :
    Service S (ExtractResponse × Option PyStr) := do
  noteRequest request idempotencyKey.isSome
  match idempotencyKey with
  | none =>
      let result ← runExtract libs env request
      noteMeta result.extractMeta
      return (result, none)
  | some idempotencyKey =>
      let key ← liftExcept (validateIdempotencyKey idempotencyKey)
      let store ← liftExcept env.store
      let header ← liftExcept (setHeader store.storeId)
      let result ← runExtractIdempotent libs env store key request
      noteMeta result.extractMeta
      return (result, some header)

end Flow

end ExtractApi
