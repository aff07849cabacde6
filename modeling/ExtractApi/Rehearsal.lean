import ExtractApi.BodyCapContract
import ExtractApi.CanonicalRecords
import ExtractApi.FixtureCorpus
import ExtractApi.LiveRun
import ExtractApi.LogStream
import ExtractApi.Startup
import ExtractApi.Utf8Decoding

/-!
# The rehearsal (`scripts/rehearse_accuracy.py`)

The accuracy pipeline against the service itself, in one process and at no cost: the
environment is pinned to the fixture mode, the application is built, and each reviewed fixture
is posted with its own label as the canned text.  The test client raises what the application
raises.

`rehearsal_reports` says what comes out: every fixture that fits the caps is answered with its
canonical label and scores a match in every field, whatever else the process's environment
holds, and the environment is put back.
-/

namespace ExtractApi.Rehearsal

open PythonText JsonValue RaisingProgram LoadedJson JsonText RecordCodec

variable {S V : Type}

/-! ## The environment -/

/-- `_CALLER_KEY` -/
def CALLER_KEY : List Byte := bytes "offline-rehearsal-only-not-a-secret"

/-- `_ENV` -/
def ENV (sha256 : List Byte → List Byte) : List (String × PyStr) :=
  [("LLM_PROVIDER_MODE", py "fixture"), ("FIXTURE_CANNED_TEXT", []), ("FIXTURE_LATENCY_MS", py "0"),
    ("EXTRACT_API_KEY_SHA256S", hexDigest (sha256 CALLER_KEY)), ("EXTRACT_BUDGET_USD", py "0")]

/-- `os.environ[name] = value`, or `os.environ.pop(name, None)` -/
def setVar (environ : Environ) (entry : String × Option PyStr) : Environ :=
  fun name => if name = entry.1 then entry.2 else environ name

/-- `os.environ.update` -/
def update (environ : Environ) (entries : List (String × PyStr)) : Environ :=
  (entries.map fun entry => (entry.1, some entry.2)).foldl setVar environ

/-- The part of the process that the rehearsal shares with others. -/
structure Host where
  environ : Environ
  logging : Startup.Logging

/-- `_fixture_environment` -/
def fixtureEnvironment {ε α : Type} (sha256 : List Byte → List Byte) (body : EStateM ε Host α) :
    EStateM ε Host α := fun host =>
  let saved := (ENV sha256).map fun entry => (entry.1, host.environ entry.1)
  let restored := fun host' : Host => { host' with environ := saved.foldl setVar host'.environ }
  match body.run { host with environ := update host.environ (ENV sha256) } with
  | .ok a host' => .ok a (restored host')
  | .error e host' => .error e (restored host')

/-! ## One fixture -/

/-- What the rehearsal runs on: the libraries, the test client, a fresh store, and what the
    application finds around each of its requests. -/
structure Setting (S V : Type) where
  pyd : Pydantic
  base : HarnessLibs Instance
  startup : Startup.StartupLibs
  vendors : Vendors
  framework : Framework V
  client : HttpClient
  otherScopes : AsgiApp S
  store : S
  occasion : ℕ → Occasion S

/-- What changes from one fixture to the next. -/
structure State (S : Type) where
  environ : Environ
  world : World S
  posts : ℕ := 0

/-- `os.environ["FIXTURE_CANNED_TEXT"] = text` -/
def State.withCanned (s : State S) (text : PyStr) : State S :=
  { s with environ := setVar s.environ ("FIXTURE_CANNED_TEXT", some text) }

section Predict

variable (on : Setting S V) (settings : Startup.AppSettings)

/-- The libraries with the strict models and the response model. -/
def Setting.libs : HarnessLibs Instance := schemaLibs on.pyd on.base

/-- The application that `create_app` builds with the settings. -/
def Setting.process (environ : Environ) : Process S Instance V where
  libs := on.libs.toLibraries
  framework := on.framework
  environment :=
    { keyHashes := settings.keyHashes
      maxBodyBytes := settings.maxBodyBytes
      revision := environ "EXTRACT_API_REVISION"
      llmProviderMode := environ "LLM_PROVIDER_MODE" }
  otherScopes := on.otherScopes

/-- What the request finds; the client is resolved from the environment of the moment. -/
def Setting.occasionOf (s : State S) : Occasion S :=
  { on.occasion s.posts with getClient := getClient s.environ on.vendors }

/-- The test client raises what the application raises. -/
def exceptionOf : Raised → PyExc
  | .exception exc => exc
  | .bodyTooLarge => .other (py "_BodyTooLarge")
  | .cancelled => .other (py "CancelledError")

/-- `client.post("/v1/extract", json=payload)` -/
def post (payload : Json) : EStateM PyExc (State S) HttpResponse := fun s =>
  let request := on.client.request (some CALLER_KEY) payload
  match (createApp (on.process settings s.environ) (on.occasionOf s) request.scope serverReceive
      serverSend).run (.opened s.world (bodyMessages [] request.body)) with
  | .ok () c =>
      let s' := { s with world := c.world, posts := s.posts + 1 }
      match responseOf c.sent with
      | some response => .ok response s'
      | none => .error (.other (py "AssertionError")) s'
  | .error raised c => .error (exceptionOf raised) { s with world := c.world, posts := s.posts + 1 }

/-- A step that changes nothing, with the name of the class that it raises. -/
def plain {α : Type} : Except PyClass α → EStateM PyExc (State S) α
  | .ok a => pure a
  | .error cls => throw (.other cls.name)

/-- `ExtractResponse.model_validate_json(response.content)` -/
def readBody (response : HttpResponse) : Except PyExc ExtractResponse :=
  parseResponse on.libs.toLibraries ((response.body.map (renderedText on.pyd)).getD [])

/-- What is made of the response. -/
def readResponse (response : HttpResponse) : Except PyExc PredictorOutcome :=
  if response.status ≠ 200 then
    .ok (.predictionFailed (py "offline endpoint returned HTTP " ++ decimal response.status)
      (some 0))
  else do
    let body ← readBody on response
    if body.extractMeta.provider ≠ py "fixture" ∨ body.extractMeta.costUsd ≠ 0 then
      throw (.other (py "RuntimeError"))
    return .prediction
      { record := body.data
        costUsd := body.extractMeta.costUsd
        latencyMs := body.extractMeta.latencyMs
        provider := body.extractMeta.provider }

/-- `predict`.  The text of `json.dumps` is ASCII, so that it can be set in the environment. -/
def predict (fx : Record) : EStateM PyExc (State S) PredictorOutcome := do
  let expected ← plain (fixtureItem fx "expected")
  modify fun s => s.withCanned (on.libs.jsonDumps expected)
  let payload ← plain (encodeRequest (py "default") fx)
  let response ← post on settings payload
  match readResponse on response with
  | .ok outcome => return outcome
  | .error exc => throw exc

end Predict

/-! ## The run -/

/-- What ends the rehearsal without a report. -/
inductive Failure where
  | load (raised : LoadRaise)
  | noFixtures (message : PyStr)
  | start (message : PyStr)
  | harness (exc : HarnessExc)
  | predict (exc : PyExc)

/-- The state between two calls of `predict`; an exception that left it ends the run. -/
structure Memory (S : Type) where
  state : State S
  raised : Option PyExc := none

section Rehearse

variable (on : Setting S V)

/-- `predict` as the predictor of `run_accuracy`.  After an exception nothing more is done. -/
def predictor (settings : Startup.AppSettings) : Predictor (Memory S) := fun fx memory =>
  match memory.raised with
  | some _ => (.requestNotSent [], memory)
  | none =>
      match (predict on settings fx).run memory.state with
      | .ok outcome s => (outcome, { memory with state := s })
      | .error exc s => (.requestNotSent [], { state := s, raised := some exc })

/-- `run_accuracy(doc_type, "fixture", predict, fixtures=fixtures)` -/
def runFixtures (settings : Startup.AppSettings) (docType : PyStr) (fixtures : List Record) :
    EStateM Failure Host AccuracyReport := fun host =>
  let start : Memory S := { state := { environ := host.environ, world := freshWorld on.store 0 } }
  match (runAccuracy on.libs (predictor on settings) docType fixtures).run
      (.start (py "fixture") start) with
  | .ok report run =>
      let host' := { host with environ := run.predictor.state.environ }
      match run.predictor.raised with
      | none => .ok report host'
      | some exc => .error (.predict exc) host'
  | .error exc run =>
      .error (run.predictor.raised.elim (.harness exc) .predict)
        { host with environ := run.predictor.state.environ }

/-- Building an application in the host's environment. -/
def starting (budget : Option BudgetGuard) : EStateM Failure Host Startup.AppSettings := fun host =>
  match (Startup.createApp on.startup host.environ budget).run host.logging with
  | .ok settings logging => .ok settings { host with logging := logging }
  | .error message logging => .error (.start message) { host with logging := logging }

/-- The body of the `with`: `api.main` builds an application when it is imported. -/
def runPinned (docType : PyStr) (fixtures : List Record) : EStateM Failure Host AccuracyReport := do
  let _default ← starting on none
  let settings ← starting on (some { cap := 0 })
  runFixtures on settings docType fixtures

/-- `rehearse` -/
def rehearse (docType : PyStr) (tree : FixtureTree) : EStateM Failure Host AccuracyReport := do
  match loadReviewedFixtures on.libs docType tree with
  | .error raised => throw (.load raised)
  | .ok fixtures =>
      if fixtures = [] then
        throw (.noFixtures (py "no REVIEWED " ++ docType ++
          py " fixtures; DRAFT labels are never scored"))
      else fixtureEnvironment on.base.sha256 (runPinned on docType fixtures)

/-- The subclasses of `ValueError` and `OSError` among the built-in classes. -/
def CAUGHT : List PyStr :=
  [py "ValueError", py "UnicodeError", py "UnicodeDecodeError", py "UnicodeEncodeError",
    py "JSONDecodeError", py "ValidationError", py "OSError", py "BlockingIOError",
    py "ChildProcessError", py "ConnectionError", py "BrokenPipeError",
    py "ConnectionAbortedError", py "ConnectionRefusedError", py "ConnectionResetError",
    py "FileExistsError", py "FileNotFoundError", py "InterruptedError", py "IsADirectoryError",
    py "NotADirectoryError", py "PermissionError", py "ProcessLookupError", py "TimeoutError"]

/-- `except (ValueError, OSError)` -/
def Failure.isCaught : Failure → Bool
  | .load (.other className) => decide (className ∈ CAUGHT)
  | .predict exc => decide (exc.className ∈ CAUGHT)
  | .load _ | .noFixtures _ | .start _ | .harness _ => true

/-- `main`'s exit code; `none` is a traceback. -/
def exitCode : Except Failure AccuracyReport → Option ℕ
  | .ok report =>
      some (if 0 < report.nFailures ∨ 0 < report.nSkipped ∨ report.overallExactMatchRate ≠ 1 then 1
        else 0)
  | .error failure => if failure.isCaught then some 1 else none

end Rehearse

/-! ## One post -/

section Posts

variable {M : Type} {process : Process S M V} {occasion : Occasion S} {scope : Scope}
  {incoming : List ReceiveMessage} {w : World S} {r : HttpResponse}

/-- Whoever is sent another status than 500 is answered by the application itself, which raises
    nothing then. -/
theorem createApp_returns (hhttp : scope.type = .http)
    (hsent : (handleRequest process occasion scope incoming w).sent = r.messages)
    (hstatus : r.status ≠ 500) :
    (createApp process occasion scope serverReceive serverSend).run (.opened w incoming) =
      .ok () (handleRequest process occasion scope incoming w) := by
  have hcontext := requestContext_spec (c := .opened w incoming) occasion.uuid
    occasion.durationMs hhttp (guardedApp_performs process occasion hhttp rfl)
  have hrefines := handleRequest_refines process occasion hhttp incoming w
  rcases hreply : (reply process occasion scope incoming).run { w with facts := some ∅ } with
    ⟨r', w'⟩ | ⟨exc, w'⟩
  · simp only [Connection.opened, hreply] at hcontext
    obtain ⟨c', hrun, -, -⟩ := hcontext
    have hserved : (createApp process occasion scope serverReceive serverSend).run
        (.opened w incoming) = .ok () c' := serverErrorMiddleware_of_ok hrun
    rw [handleRequest, hserved]
    rfl
  · rw [hreply] at hrefines
    obtain ⟨r', -, hcarries, hsent'⟩ := hrefines
    have hsame : some r = some r' := by
      rw [← responseOf_messages r, ← responseOf_messages r', ← hsent, ← hsent']
    rw [Option.some.injEq] at hsame
    exact absurd (hsame ▸ hcarries.1) hstatus

variable (process occasion w) in
/-- A post whose body is over the cap is refused with a 422, and nothing comes of it. -/
theorem refused_of_tooLarge (hpost : IsPost scope)
    (hauth : presentsKey process.libs.sha256 process.environment.keyHashes scope = true)
    {body : List Byte} (hlarge : process.environment.maxBodyBytes < body.length) :
    ∃ r : HttpResponse,
      (handleRequest process occasion scope [.httpRequest body false] w).sent = r.messages ∧
      r.status = 422 ∧
      (handleRequest process occasion scope [.httpRequest body false] w).world.holdings =
        w.holdings := by
  obtain ⟨w', hquietly, hrun⟩ := reply_of_authenticated occasion hpost.guarded hauth
    [.httpRequest body false] { w with facts := some ∅ }
  have hover : readMessages (some process.environment.maxBodyBytes) [] [.httpRequest body false] =
      .tooLarge := by
    simp [readMessages, hlarge]
  have hcapped : capped process occasion scope [.httpRequest body false] =
      bodyTooLargeResponse process.environment.maxBodyBytes := by
    simp only [capped, hpost.reads, hover, and_self, if_true, ite_self]
  rw [hcapped] at hrun
  have hanswer := delivers_of_ensures (errorResponse_carries .validationFailed
    (codeBody .validationFailed (.str (py "request body exceeds the " ++
      decimal process.environment.maxBodyBytes ++ py "-byte limit"))) []) w'
  have hencodable : encodable (py "request body exceeds the " ++
      decimal process.environment.maxBodyBytes ++ py "-byte limit") = true := by
    simp only [encodable_append, encodable_py, encodable_decimal, Bool.and_self]
  rw [renderedAnswer_of_encodable (encodable_codeBody _ hencodable)] at hanswer
  obtain ⟨r, hsent, hcarries⟩ := sent_of_reply hpost.http (by rw [hrun]; exact hanswer)
  refine ⟨r, hsent, hcarries.1, ?_⟩
  rw [holdings_handleRequest process occasion hpost.http, hrun]
  exact (quiet_holdings.errorResponse _ _ _ w').trans (hquietly quiet_holdings)

end Posts

/-! ## What the rehearsal relies on -/

/-- The payload of a request for a text by the default provider. -/
def payloadOf (request : ExtractRequest) : Json :=
  .obj [(py "doc_type", .str request.docType.value),
    (py "schema_version", .str request.schemaVersion), (py "content", .str request.content),
    (py "provider", .str (py "default"))]

/-- The test client and the framework understand each other, and the standard library reads
    what it wrote. -/
structure Faithful (on : Setting S V) : Prop where
  strict : StrictJsonMode on.pyd
  /-- the framework reads the request that the payload stands for -/
  parses : ∀ request : ExtractRequest, request.contentFormat = .text →
    request.provider = .default → request.encodable = true →
    parseBody on.framework (on.client.request (some CALLER_KEY) (payloadOf request)).scope
      (on.client.encodeJson (payloadOf request)) = .ok request
  /-- a length that the client declares is the body's -/
  declared : ∀ body, ∀ header ∈ on.client.addedHeaders body,
    header.1 = bytes "content-length" → denoted header.2 = body.length
  digest : (on.base.sha256 CALLER_KEY).length = 32
  lower : ∀ text : PyStr, text.all isLowerHex = true → on.startup.lower text = text
  zero : on.vendors.int (py "0") = some 0
  zeroFloat : on.startup.float (py "0") = some (.finite 0)
  elapsed : ∀ latencyMs n, IsDouble (on.vendors.elapsedMs latencyMs n)

/-- The fixture is posted as the request. -/
structure PostedAs (fx : Record) (request : ExtractRequest) : Prop where
  docType : lookupField fx "doc_type" = some (.str request.docType.value)
  version : lookupField fx "schema_version" = some (.str request.schemaVersion)
  content : lookupField fx "content" = some (.str request.content)
  text : request.contentFormat = .text
  provider : request.provider = .default

theorem PostedAs.payload {fx : Record} {request : ExtractRequest} (h : PostedAs fx request) :
    requestPayload (py "default") fx = payloadOf request := by
  simp only [requestPayload, payloadOf, h.docType, h.version, h.content, Option.getD_some]

theorem PostedAs.encoded {fx : Record} {request : ExtractRequest} (h : PostedAs fx request)
    (hencodable : (payloadOf request).encodable = true) :
    encodeRequest (py "default") fx = .ok (payloadOf request) ∧ request.encodable = true := by
  constructor
  · simp only [encodeRequest, fixtureItem, h.docType, h.version, h.content, Option.elim_some]
    exact if_pos hencodable
  · simp only [payloadOf, Json.encodable, Json.encodableFields, Bool.and_eq_true] at hencodable
    simp only [ExtractRequest.encodable, Bool.and_eq_true]
    exact ⟨hencodable.2.1.2, hencodable.2.2.1.2⟩

section OneFixture

variable {on : Setting S V} {settings : Startup.AppSettings} {s : State S}

/-- The pins that outlast a call of `predict`. -/
structure Pinned (environ : Environ) : Prop where
  mode : environ "LLM_PROVIDER_MODE" = some (py "fixture")
  latency : environ "FIXTURE_LATENCY_MS" = some (py "0")

/-- The state that every call of `predict` finds. -/
structure Ready (s : State S) : Prop where
  pinned : Pinned s.environ
  free : s.world.budget.cap = 0

theorem getClient_of_pinned (hon : Faithful on) {environ : Environ} (h : Pinned environ)
    {canned : PyStr} (hcanned : environ "FIXTURE_CANNED_TEXT" = some canned)
    (provider : Provider) :
    getClient environ on.vendors provider = .ok (fixtureClient on.vendors canned 0) := by
  have hdecimal : isAsciiDecimal (py "0") = true := by decide
  simp only [getClient, h.mode, h.latency, hcanned, if_true, Option.getD_some, hdecimal,
    Bool.true_eq_false, if_false, hon.zero]
  rfl

/-- The caller's header comes first, and its key is the one that is configured. -/
theorem presentsKey_request (hkey : on.libs.sha256 CALLER_KEY ∈ settings.keyHashes)
    (payload : Json) :
    presentsKey on.libs.sha256 settings.keyHashes
      (on.client.request (some CALLER_KEY) payload).scope = true := by
  have hbearer : IsBearer (bytes "Bearer " ++ CALLER_KEY) CALLER_KEY :=
    ⟨bytes "Bearer", by decide, by decide, by decide, by decide⟩
  have htoken : bearerToken (on.client.request (some CALLER_KEY) payload).scope =
      some CALLER_KEY :=
    bearerToken_eq_some_iff.mpr ⟨_, rfl, hbearer⟩
  rw [presentsKey, htoken]
  exact matchesKey_iff.mpr hkey

theorem not_declaresOver_request (hon : Faithful on) {limit : ℕ} {payload : Json}
    (hfits : (on.client.encodeJson payload).length ≤ limit) :
    declaresOver limit (on.client.request (some CALLER_KEY) payload).scope = false := by
  rw [← Bool.not_eq_true, declaresOver_iff]
  rintro ⟨value, hmem, -, hover⟩
  rcases List.mem_append.mp hmem with hmem | hmem
  · have hname : bytes "content-length" ≠ bytes "authorization" := by decide
    have hheader : (bytes "content-length", value) =
        (bytes "authorization", bytes "Bearer " ++ CALLER_KEY) := List.mem_singleton.mp hmem
    exact hname (congrArg Prod.fst hheader)
  · rw [hon.declared _ _ hmem rfl] at hover
    omega

theorem reaches_request (hon : Faithful on)
    (hkey : on.libs.sha256 CALLER_KEY ∈ settings.keyHashes) {payload : Json}
    (hfits : (on.client.encodeJson payload).length ≤ settings.maxBodyBytes) (environ : Environ) :
    Reaches (on.process settings environ) (on.client.request (some CALLER_KEY) payload).scope
      (bodyMessages [] (on.client.encodeJson payload)) (on.client.encodeJson payload) where
  guarded := (on.client.request (some CALLER_KEY) payload).isPost.guarded
  authenticated := presentsKey_request hkey payload
  accepted := not_declaresOver_request hon hfits
  reads := (on.client.request (some CALLER_KEY) payload).isPost.reads
  complete := by
    have hread : readMessages (some settings.maxBodyBytes) []
        (chunkMessages (on.client.encodeJson payload) []) = .complete _ :=
      readMessages_chunkMessages [] [] (on.client.encodeJson payload) (by simpa using hfits)
    rw [List.nil_append, List.flatten_nil, List.append_nil] at hread
    exact hread

variable (on settings s) in
/-- What the application makes of the post. -/
def connection (payload : Json) : Connection S :=
  handleRequest (on.process settings s.environ) (on.occasionOf s)
    (on.client.request (some CALLER_KEY) payload).scope
    (bodyMessages [] (on.client.encodeJson payload)) s.world

variable (s) in
/-- The state after a post that raises nothing. -/
def State.posted (world : World S) : State S := { s with world := world, posts := s.posts + 1 }

theorem post_of_sent {payload : Json} {r : HttpResponse}
    (hsent : (connection on settings s payload).sent = r.messages) (hstatus : r.status ≠ 500) :
    (post on settings payload).run s =
      .ok r (s.posted (connection on settings s payload).world) := by
  have hrun := createApp_returns (on.client.request (some CALLER_KEY) payload).isPost.http
    hsent hstatus
  show post on settings payload s = _
  simp only [post]
  rw [show (on.client.request (some CALLER_KEY) payload).body = on.client.encodeJson payload
    from rfl, hrun]
  simp only [connection] at hsent
  simp only [hsent, responseOf_messages]
  rfl

/-- The post is refused with a 422 and costs nothing. -/
def IsRefused (on : Setting S V) (settings : Startup.AppSettings) (payload : Json)
    (s : State S) : Prop :=
  ∃ (r : HttpResponse) (world : World S),
    (post on settings payload).run s = .ok r (s.posted world) ∧ r.status = 422 ∧
      world.budget.cap = 0

theorem isRefused_of_sent {payload : Json} {r : HttpResponse} (hs : Ready s)
    (hsent : (connection on settings s payload).sent = r.messages) (hstatus : r.status = 422)
    (hheld : (connection on settings s payload).world.holdings = s.world.holdings) :
    IsRefused on settings payload s := by
  refine ⟨r, _, post_of_sent hsent (by rw [hstatus]; decide), hstatus, ?_⟩
  have hbudget : (connection on settings s payload).world.budget = s.world.budget :=
    congrArg Prod.fst hheld
  rw [hbudget]
  exact hs.free

theorem isRefused_of_largeBody (hkey : on.libs.sha256 CALLER_KEY ∈ settings.keyHashes)
    {payload : Json} (hs : Ready s)
    (hlarge : settings.maxBodyBytes < (on.client.encodeJson payload).length) :
    IsRefused on settings payload s := by
  obtain ⟨r, hsent, hstatus, hheld⟩ := refused_of_tooLarge (on.process settings s.environ)
    (on.occasionOf s) s.world (on.client.request (some CALLER_KEY) payload).isPost
    (presentsKey_request hkey payload) hlarge
  exact isRefused_of_sent hs hsent hstatus hheld

variable {request : ExtractRequest}

theorem parses_request (hon : Faithful on)
    (hkey : on.libs.sha256 CALLER_KEY ∈ settings.keyHashes) (htext : request.contentFormat = .text)
    (hprovider : request.provider = .default) (hencodable : request.encodable = true)
    (hfits : (on.client.encodeJson (payloadOf request)).length ≤ settings.maxBodyBytes)
    (environ : Environ) :
    Parses (on.process settings environ)
      (on.client.request (some CALLER_KEY) (payloadOf request)).scope
      (bodyMessages [] (on.client.encodeJson (payloadOf request))) request :=
  ⟨_, reaches_request hon hkey hfits environ, hon.parses request htext hprovider hencodable⟩

theorem isRefused_of_longText (hs : Ready s) {cls : ModelClass}
    (hparses : Parses (on.process settings s.environ)
      (on.client.request (some CALLER_KEY) (payloadOf request)).scope
      (bodyMessages [] (on.client.encodeJson (payloadOf request))) request)
    (htext : request.contentFormat = .text)
    (hcls : resolve on.libs.toLibraries request.docType.value request.schemaVersion = .ok cls)
    (hlong : MAX_TEXT_CHARS < request.content.length) :
    IsRefused on settings (payloadOf request) s := by
  let e := invalidContent "text content exceeds the 4194304-char limit"
  have hcontent : resolveContent on.libs.pymupdfOpen request = .error e := by
    rw [resolveContent, htext]
    exact if_pos hlong
  have hpreflight : preflight on.libs.toLibraries (on.occasionOf s).toSurroundings request
      s.world.budget = .error (.extractError e) := by
    rw [preflight, hcls, hcontent]
  obtain ⟨r, hsent, hcarries, hheld⟩ := answered_of_preflight_error (on.occasionOf s) s.world
    (on.client.request (some CALLER_KEY) (payloadOf request)).isPost hparses hpreflight
  have hbody : e.toBody = codeBody .validationFailed
      (.str (py "text content exceeds the 4194304-char limit")) := toBody_of_detail _ (by decide)
  have hanswer : exceptionAnswer (.extractError e) =
      (STATUS_BY_CODE .validationFailed, .obj (codeBody .validationFailed
        (.str (py "text content exceeds the 4194304-char limit")))) := by
    show renderedAnswer .validationFailed e.toBody [] = _
    rw [hbody]
    exact renderedAnswer_of_encodable (encodable_codeBody _ (encodable_py _))
  rw [hanswer] at hcarries
  exact isRefused_of_sent hs hsent hcarries.1 hheld

/-- The text of an object is not blank. -/
theorem strip_write_ne_nil (layout : Layout) (fields : Record) :
    strip (write layout (.obj fields)) ≠ [] := by
  have hbrace : isSpace 123 = false := by decide
  obtain ⟨rest, hrest⟩ : ∃ rest, write layout (.obj fields) = 123 :: rest := by
    rcases fields with _ | ⟨field, fields⟩
    · exact ⟨[125], rfl⟩
    · exact ⟨_, rfl⟩
  rw [hrest, strip, List.dropWhile_cons_of_neg (by simp [hbrace])]
  intro hnil
  have hblank := (List.rdropWhile_eq_nil_iff.mp hnil) 123 List.mem_cons_self
  rw [hbrace] at hblank
  cases hblank

/-- The fixture client's first answer. -/
def cannedResult (vendors : Vendors) (canned : PyStr) : CompletionResult where
  text := canned
  model := py "fixture"
  tokensIn := 0
  tokensOut := 0
  costUsd := 0
  latencyMs := vendors.elapsedMs 0 1
  stopReason := py "completed"

theorem answersWith_fixtureClient (hon : Faithful on) {canned : PyStr} (h : strip canned ≠ []) :
    AnswersWith (fixtureClient on.vendors canned 0) canned (cannedResult on.vendors canned) where
  returned := if_neg h
  text := rfl
  cost := isDouble_intCast (by norm_num : |(0 : ℤ)| < 2 ^ 53)
  latency := hon.elapsed 0 1

/-- The prediction that the rehearsal makes of an accepted label. -/
def cannedPrediction (on : Setting S V) (d : Record) : Prediction where
  record := d
  costUsd := 0
  latencyMs := on.vendors.elapsedMs 0 1
  provider := py "fixture"

theorem readResponse_of_free {r : HttpResponse} {body : ExtractResponse} (hstatus : r.status = 200)
    (hbody : readBody on r = .ok body) (hprovider : body.extractMeta.provider = py "fixture")
    (hfree : body.extractMeta.costUsd = 0) :
    readResponse on r = .ok (.prediction
      { record := body.data
        costUsd := 0
        latencyMs := body.extractMeta.latencyMs
        provider := py "fixture" }) := by
  rw [readResponse, if_neg (not_not.mpr hstatus), hbody]
  simp [hprovider, hfree, bind, Except.bind, pure, Except.pure]

/-- The response of the fixture client's answer is read as the prediction. -/
theorem readResponse_of_answer (hon : Faithful on) {client : LLMClient} {canned : PyStr}
    (hclient : client = fixtureClient on.vendors canned 0)
    (hanswers : AnswersWith client canned (cannedResult on.vendors canned)) {data : Record}
    (hwell : WellFormed (.obj data)) (hdepth : depth (.obj data) ≤ 3)
    (hversion : encodable request.schemaVersion = true) {r : HttpResponse}
    (hcarries : r.Carries (httpAnswer (.ok (buildResponse request client data
      (reportedResult client 1 (cannedResult on.vendors canned)) 1)))) :
    r.status = 200 ∧ readResponse on r = .ok (.prediction (cannedPrediction on data)) := by
  obtain ⟨hcost, hlatency⟩ := reportedResult_one hanswers
  let response := buildResponse request client data
    (reportedResult client 1 (cannedResult on.vendors canned)) 1
  have hencodable : response.encodable = true := by
    apply encodable_extractResponse hwell (wellFormed_fieldConfidence hwell) _ _ hversion
    · show encodable client.provider = true
      rw [hclient]
      exact encodable_py "fixture"
    · exact encodable_py "fixture"
  have hread : validateResponse on.pyd (write on.pyd.renderLayout response.toJson) = .ok response :=
    validateResponse_buildResponse hon.strict hwell hdepth (hcost ▸ hanswers.cost)
      (hlatency ▸ hanswers.latency) hencodable hon.strict.readable_render
  have hprovider : response.extractMeta.provider = py "fixture" := by
    show client.provider = _
    rw [hclient]
    rfl
  have hanswer : httpAnswer (.ok response) = (200, response.toJson) := if_pos hencodable
  rw [hanswer] at hcarries
  refine ⟨hcarries.1, ?_⟩
  have hbody : readBody on r = .ok response := by
    rw [readBody, hcarries.2]
    exact congrArg (Except.mapError PyExc.other) hread
  have hfree : response.extractMeta.costUsd = 0 := hcost
  have htime : response.extractMeta.latencyMs = on.vendors.elapsedMs 0 1 := hlatency
  rw [readResponse_of_free hcarries.1 hbody hprovider hfree, htime]
  rfl

/-- **A fixture within the caps is answered with its canonical label, at no cost.** -/
theorem post_of_label (hon : Faithful on) (hs : Ready s) {cls : ModelClass} {expected : Record}
    {m : Instance}
    (hparses : Parses (on.process settings s.environ)
      (on.client.request (some CALLER_KEY) (payloadOf request)).scope
      (bodyMessages [] (on.client.encodeJson (payloadOf request))) request)
    (hcanned : s.environ "FIXTURE_CANNED_TEXT" = some (on.libs.jsonDumps (.obj expected)))
    (hresolves : Resolves on.libs.toLibraries request cls request.content)
    (hvalid : (on.libs.model cls).validate (on.libs.jsonDumps (.obj expected)) = .ok m) :
    ∃ (r : HttpResponse) (world : World S),
      (post on settings (payloadOf request)).run s = .ok r (s.posted world) ∧
      readResponse on r = .ok (.prediction (cannedPrediction on ((on.libs.model cls).dump m))) ∧
      world.budget.cap = 0 := by
  have hclient := getClient_of_pinned hon hs.pinned hcanned request.provider
  have hanswers := answersWith_fixtureClient hon
    (strip_write_ne_nil on.pyd.dumpsLayout expected)
  have hpasses : s.world.budget.passes s.world.budget.spent = true := by
    simp [BudgetGuard.passes, BudgetGuard.enabled, hs.free]
  obtain ⟨e, hextracted⟩ := extracted_of_client (on.occasionOf s) s.world
    (on.client.request (some CALLER_KEY) (payloadOf request)).isPost ⟨hparses, hresolves⟩ hpasses
    hclient
  have haccepted : EndsAs _ (on.libs.model cls) MAX_ATTEMPTS (.accepted 1 _ m) :=
    ⟨by decide, acceptsFirst_of_answersWith hanswers hvalid⟩
  obtain rfl := hextracted.ends.unique haccepted
  obtain ⟨r, hsent, hcarries⟩ := hextracted.answered
  obtain ⟨hwell, hdepth, -⟩ := strictModel_canonical hon.strict hvalid
  obtain ⟨hstatus, hread⟩ := readResponse_of_answer hon rfl hanswers hwell hdepth
    (encodable_of_resolve hresolves.schema).2 hcarries
  refine ⟨r, _, post_of_sent hsent (by rw [hstatus]; decide), hread, ?_⟩
  have hcap : (connection on settings s (payloadOf request)).world.budget.cap =
      s.world.budget.cap :=
    congrArg (fun held => held.1.cap) hextracted.charged
  rw [hcap, hs.free]

/-- The fixture is over one of the two caps that its content passes. -/
def IsOver (on : Setting S V) (limit : ℕ) (request : ExtractRequest) : Prop :=
  MAX_TEXT_CHARS < request.content.length ∨
    limit < (on.client.encodeJson (payloadOf request)).length

instance (on : Setting S V) (limit : ℕ) (request : ExtractRequest) :
    Decidable (IsOver on limit request) :=
  inferInstanceAs (Decidable (_ ∨ _))

/-- The outcome of the fixture. -/
def outcomeOf (on : Setting S V) (limit : ℕ) (request : ExtractRequest) (d : Record) :
    PredictorOutcome :=
  if IsOver on limit request then
    .predictionFailed (py "offline endpoint returned HTTP " ++ decimal 422) (some 0)
  else .prediction (cannedPrediction on d)

/-- What is known of a fixture that passes the preflight. -/
structure Rehearsed (on : Setting S V) (fx : Record) (cls : ModelClass) (expected d : Record)
    (request : ExtractRequest) : Prop where
  posted : PostedAs fx request
  encodable : (payloadOf request).encodable = true
  schema : resolve on.libs.toLibraries request.docType.value request.schemaVersion = .ok cls
  notBlank : strip request.content ≠ []
  labelled : lookupField fx "expected" = some (.obj expected)
  canonical : canonical on.libs cls expected = .ok d

theorem Ready.withCanned (hs : Ready s) (text : PyStr) : Ready (s.withCanned text) where
  pinned := ⟨hs.pinned.mode, hs.pinned.latency⟩
  free := hs.free

theorem run_predict_of_post {fx : Record} {expected : Json} {payload : Json} {r : HttpResponse}
    {world : World S} {outcome : PredictorOutcome}
    (hexpected : lookupField fx "expected" = some expected)
    (hpayload : encodeRequest (py "default") fx = .ok payload)
    (hpost : (post on settings payload).run (s.withCanned (on.libs.jsonDumps expected)) =
      .ok r ((s.withCanned (on.libs.jsonDumps expected)).posted world))
    (hread : readResponse on r = .ok outcome) :
    (predict on settings fx).run s =
      .ok outcome ((s.withCanned (on.libs.jsonDumps expected)).posted world) := by
  have hitem : fixtureItem fx "expected" = .ok expected := by
    rw [fixtureItem, hexpected]
    rfl
  simp only [predict, hitem, hpayload, plain, EStateM.run_bind, EStateM.run_pure,
    EStateM.run_modify, hpost, hread]

/-- **One call of `predict`** has the outcome that the caps decide, and raises nothing. -/
theorem run_predict (hon : Faithful on)
    (hkey : on.libs.sha256 CALLER_KEY ∈ settings.keyHashes) (hs : Ready s) {fx : Record}
    {cls : ModelClass} {expected d : Record} (hfx : Rehearsed on fx cls expected d request) :
    ∃ s', (predict on settings fx).run s = .ok (outcomeOf on settings.maxBodyBytes request d) s' ∧
      Ready s' := by
  obtain ⟨hpayload, hencodable⟩ := hfx.posted.encoded hfx.encodable
  let canned := s.withCanned (on.libs.jsonDumps (.obj expected))
  have hready : Ready canned := hs.withCanned _
  have hdone : ∀ {r : HttpResponse} {world : World S} {outcome : PredictorOutcome},
      (post on settings (payloadOf request)).run canned = .ok r (canned.posted world) →
      world.budget.cap = 0 → readResponse on r = .ok outcome →
      ∃ s', (predict on settings fx).run s = .ok outcome s' ∧ Ready s' := by
    intro r world outcome hpost hcap hread
    exact ⟨_, run_predict_of_post hfx.labelled hpayload hpost hread, hready.pinned, hcap⟩
  have hrefused : IsOver on settings.maxBodyBytes request →
      IsRefused on settings (payloadOf request) canned →
      ∃ s', (predict on settings fx).run s = .ok (outcomeOf on settings.maxBodyBytes request d) s' ∧
        Ready s' := by
    rintro hover ⟨r, world, hpost, hstatus, hcap⟩
    apply hdone hpost hcap
    rw [readResponse, if_pos (by rw [hstatus]; decide), hstatus, outcomeOf, if_pos hover]
  by_cases hbody : settings.maxBodyBytes < (on.client.encodeJson (payloadOf request)).length
  · exact hrefused (Or.inr hbody) (isRefused_of_largeBody hkey hready hbody)
  · have hparses := parses_request hon hkey hfx.posted.text hfx.posted.provider hencodable
      (not_lt.mp hbody)
    by_cases hlong : MAX_TEXT_CHARS < request.content.length
    · apply hrefused (Or.inl hlong)
      exact isRefused_of_longText hready (hparses _) hfx.posted.text hfx.schema hlong
    · have hfits : ¬ IsOver on settings.maxBodyBytes request := not_or.mpr ⟨hlong, hbody⟩
      rw [outcomeOf, if_neg hfits]
      obtain ⟨m, hvalid, rfl⟩ := map_eq_ok_iff.mp hfx.canonical
      have hresolves : Resolves on.libs.toLibraries request cls request.content := by
        refine ⟨hfx.schema, ?_, hfx.notBlank⟩
        rw [resolveContent, hfx.posted.text]
        exact if_neg hlong
      have hcanned : canned.environ "FIXTURE_CANNED_TEXT" =
          some (on.libs.jsonDumps (.obj expected)) := by
        simp [canned, State.withCanned, setVar]
      obtain ⟨r, world, hpost, hread, hcap⟩ :=
        post_of_label hon hready (hparses _) hcanned hresolves hvalid
      exact hdone hpost hcap hread

end OneFixture

/-! ## All fixtures -/

section Fixtures

variable {on : Setting S V} {settings : Startup.AppSettings} {docType : DocType} {fx : Record}
  {p : Prepared}

/-- The text of a field that is a string. -/
def textOf : Option Json → PyStr
  | some (.str text) => text
  | _ => []

/-- The request that the fixture is posted as. -/
def requestOf (docType : DocType) (fx : Record) : ExtractRequest where
  docType := docType
  schemaVersion := textOf (lookupField fx "schema_version")
  content := textOf (lookupField fx "content")

theorem rehearsed_of_passes (h : Passes on.libs docType.value fx p)
    (hencodable : (requestPayload (py "default") fx).encodable = true) :
    Rehearsed on fx p.cls p.expected (label on.libs p) (requestOf docType fx) := by
  obtain ⟨version, hversion, -, hcls⟩ := h.versioned
  obtain ⟨content, hcontent, hfilled⟩ := h.hasContent
  obtain ⟨d, hd⟩ := h.valid
  have hrequest : requestOf docType fx =
      { docType := docType, schemaVersion := version, content := content } := by
    rw [requestOf, hversion, hcontent]
    rfl
  rw [hrequest, label_of_canonical hd]
  have hposted : PostedAs fx { docType := docType, schemaVersion := version, content := content } :=
    ⟨h.typed, hversion, hcontent, rfl, rfl⟩
  refine ⟨hposted, hposted.payload ▸ hencodable, hcls, ?_, h.labelled, hd⟩
  intro hblank
  rw [isFilled, hblank] at hfilled
  cases hfilled

/-- What a fixture comes to. -/
def rehearsedOutcome (on : Setting S V) (limit : ℕ) (docType : DocType) (p : Prepared) :
    PredictorOutcome :=
  outcomeOf on limit (requestOf docType p.fx) (label on.libs p)

theorem predictor_of_passes (hon : Faithful on)
    (hkey : on.libs.sha256 CALLER_KEY ∈ settings.keyHashes)
    (h : Passes on.libs docType.value fx p)
    (hencodable : (requestPayload (py "default") fx).encodable = true) {memory : Memory S}
    (hraised : memory.raised = none) (hready : Ready memory.state) :
    ∃ memory', predictor on settings fx memory =
        (rehearsedOutcome on settings.maxBodyBytes docType p, memory') ∧
      memory'.raised = none ∧ Ready memory'.state := by
  obtain ⟨s', hrun, hready'⟩ :=
    run_predict hon hkey hready (rehearsed_of_passes h hencodable)
  refine ⟨{ memory with state := s' }, ?_, hraised, hready'⟩
  rw [predictor, hraised]
  simp only [hrun, rehearsedOutcome, h.keeps]

/-- The whole corpus: each call has its fixture's outcome, and none raises. -/
theorem runOutcomes_predictor (hon : Faithful on)
    (hkey : on.libs.sha256 CALLER_KEY ∈ settings.keyHashes) {fixtures : List Record}
    {prepared : List Prepared}
    (h : List.Forall₂ (Passes on.libs docType.value) fixtures prepared)
    (hencodable : ∀ fx ∈ fixtures, (requestPayload (py "default") fx).encodable = true) :
    ∀ memory : Memory S, memory.raised = none → Ready memory.state →
      runOutcomes (predictor on settings) memory fixtures =
          prepared.map (rehearsedOutcome on settings.maxBodyBytes docType) ∧
        (runMemory (predictor on settings) memory fixtures).raised = none := by
  induction h with
  | nil =>
    intro memory hraised _
    exact ⟨rfl, hraised⟩
  | @cons fx p fixtures prepared hp _ ih =>
    intro memory hraised hready
    rw [List.forall_mem_cons] at hencodable
    obtain ⟨memory', hcall, hraised', hready'⟩ :=
      predictor_of_passes hon hkey hp hencodable.1 hraised hready
    obtain ⟨houtcomes, hmemory⟩ := ih hencodable.2 memory' hraised' hready'
    simp only [runOutcomes, runMemory, hcall, List.map_cons, houtcomes, hmemory, and_self]

/-! ## The report -/

/-- What a rehearsed fixture adds to the report. -/
theorem contribution_rehearsed (hon : Faithful on) (limit : ℕ)
    (h : Passes on.libs docType.value fx p) :
    contribution on.libs p (rehearsedOutcome on limit docType p) =
      if IsOver on limit (requestOf docType p.fx) then
        { scored := [failedOutcomes on.libs p], failedCosts := [0], failures := 1 }
      else
        { scored := [recordOutcomes on.libs p (label on.libs p)]
          costs := [0]
          latencies := [on.vendors.elapsedMs 0 1]
          providers := [py "fixture"] } := by
  rw [rehearsedOutcome, outcomeOf]
  split_ifs
  · rfl
  · obtain ⟨d, hd⟩ := h.valid
    obtain ⟨m, hvalid, hdump⟩ := map_eq_ok_iff.mp hd
    have hfixed : canonical on.libs p.cls d = .ok d :=
      canonical_of_isCanonical (hdump ▸ isCanonical_dump hon.strict hvalid)
    rw [label_of_canonical hd]
    exact contribution_of_valid hfixed

/-- The number of the model's fields. -/
def fieldCount (p : Prepared) : ℕ := (FIELDS p.cls).length

theorem totals_of_failed (h : Passes on.libs docType.value fx p) :
    ((failedOutcomes on.libs p).map fun entry => entry.2.stats.total).sum = fieldCount p ∧
      ((failedOutcomes on.libs p).map fun entry => entry.2.stats.matched).sum = 0 := by
  obtain ⟨d, hd⟩ := h.valid
  have hlength : d.length = fieldCount p := by
    rw [fieldCount, ← keys_of_canonical hd, List.length_map]
  rw [failedOutcomes, label_of_canonical hd, List.map_map, List.map_map, ← hlength]
  constructor
  · rw [List.map_congr_left (g := fun _ => 1)]
    · simp
    · intro field _
      simp only [Function.comp]
      split <;> rfl
  · apply List.sum_eq_zero
    simp only [List.mem_map]
    rintro _ ⟨field, -, rfl⟩
    simp only [Function.comp]
    split <;> rfl

theorem totals_of_label (hon : Faithful on) (h : Passes on.libs docType.value fx p) :
    ((recordOutcomes on.libs p (label on.libs p)).map fun entry => entry.2.stats.total).sum =
        fieldCount p ∧
      ((recordOutcomes on.libs p (label on.libs p)).map fun entry => entry.2.stats.matched).sum =
        fieldCount p := by
  obtain ⟨d, hd⟩ := h.valid
  obtain ⟨m, hvalid, rfl⟩ := map_eq_ok_iff.mp hd
  obtain ⟨hwell, -, -⟩ := strictModel_canonical hon.strict hvalid
  have hfixed : canonical on.libs p.cls ((on.libs.model p.cls).dump m) =
      .ok ((on.libs.model p.cls).dump m) :=
    canonical_of_isCanonical (isCanonical_dump hon.strict hvalid)
  obtain ⟨outcomes, hscore, hkeys, hperfect⟩ :
      ScoresPerfectly on.libs p.cls ((on.libs.model p.cls).dump m) p.expected :=
    scoresPerfectly_dump hwell hfixed hd
  rw [scoreRecord_of_canonical hd, hfixed] at hscore
  have houtcomes : recordOutcomes on.libs p ((on.libs.model p.cls).dump m) = outcomes :=
    Except.ok.inj hscore
  rw [label_of_canonical hd, houtcomes]
  have hlength : outcomes.length = fieldCount p := by
    rw [fieldCount, ← hkeys, List.length_map]
  have hone : ∀ entry ∈ outcomes, entry.2.stats.total = 1 ∧ entry.2.stats.matched = 1 := by
    intro entry hentry
    rcases hperfect entry hentry with hmatched | hmatched
    · rw [hmatched]
      exact ⟨rfl, rfl⟩
    · rw [hmatched]
      exact ⟨rfl, rfl⟩
  rw [← hlength]
  constructor
  · rw [List.map_congr_left fun entry hentry => (hone entry hentry).1]
    simp
  · rw [List.map_congr_left fun entry hentry => (hone entry hentry).2]
    simp

/-- The fixtures that fit both caps. -/
def fits (on : Setting S V) (limit : ℕ) (docType : DocType) (p : Prepared) : Bool :=
  !decide (IsOver on limit (requestOf docType p.fx))

/-- What a rehearsal over the corpus reports. -/
structure Reports (on : Setting S V) (limit : ℕ) (docType : DocType) (prepared : List Prepared)
    (report : AccuracyReport) : Prop where
  provider : report.provider = py "fixture"
  nFixtures : report.nFixtures = prepared.length
  nSkipped : report.nSkipped = 0
  nFailures : report.nFailures + (prepared.filter (fits on limit docType)).length =
    prepared.length
  free : report.costUsdTotal = 0
  /-- every field of every fixture is counted -/
  totalFields : report.totalFields = (prepared.map fieldCount).sum
  /-- and is a match if the fixture fits -/
  totalMatches : report.totalMatches =
    ((prepared.filter (fits on limit docType)).map fieldCount).sum

/-- What the fixtures of the corpus add. -/
def rehearsedContributions (on : Setting S V) (limit : ℕ) (docType : DocType)
    (prepared : List Prepared) : List Contribution :=
  prepared.map fun p => contribution on.libs p (rehearsedOutcome on limit docType p)

/-- The sums over what the fixtures add. -/
structure Sums (on : Setting S V) (limit : ℕ) (docType : DocType) (prepared : List Prepared)
    (cs : List Contribution) : Prop where
  providers : ∀ provider ∈ cs.flatMap Contribution.providers, provider = py "fixture"
  scored : (cs.flatMap Contribution.scored).length = prepared.length
  skipped : (cs.map Contribution.skipped).sum = 0
  failures : (cs.map Contribution.failures).sum +
    (prepared.filter (fits on limit docType)).length = prepared.length
  costs : (cs.flatMap Contribution.costs).sum = 0
  failedCosts : (cs.flatMap Contribution.failedCosts).sum = 0
  total : ((cs.flatMap Contribution.scored).map fun outcomes =>
    (outcomes.map fun entry => entry.2.stats.total).sum).sum = (prepared.map fieldCount).sum
  matched : ((cs.flatMap Contribution.scored).map fun outcomes =>
    (outcomes.map fun entry => entry.2.stats.matched).sum).sum =
      ((prepared.filter (fits on limit docType)).map fieldCount).sum

theorem sums_rehearsed (hon : Faithful on) (limit : ℕ) {fixtures : List Record}
    {prepared : List Prepared}
    (h : List.Forall₂ (Passes on.libs docType.value) fixtures prepared) :
    Sums on limit docType prepared (rehearsedContributions on limit docType prepared) := by
  induction h with
  | nil =>
    constructor
    case providers => simp [rehearsedContributions]
    all_goals rfl
  | @cons fx p fixtures prepared hp _ ih =>
    have hcontribution := contribution_rehearsed hon limit hp
    have hcons : rehearsedContributions on limit docType (p :: prepared) =
        contribution on.libs p (rehearsedOutcome on limit docType p) ::
          rehearsedContributions on limit docType prepared := rfl
    rw [hcons, hcontribution]
    -- over a cap: a failure, all of whose fields are misses; else every field matches
    by_cases hover : IsOver on limit (requestOf docType p.fx)
    · have hfits : fits on limit docType p = false := by simp [fits, hover]
      obtain ⟨htotal, hmatched⟩ := totals_of_failed hp
      rw [if_pos hover]
      constructor
      case providers => simpa using ih.providers
      case scored => simp [ih.scored]
      case skipped => simpa using ih.skipped
      case failures =>
        have hrest := ih.failures
        simp [hfits]
        omega
      case costs => simpa using ih.costs
      case failedCosts => simpa using ih.failedCosts
      case total => simp [htotal, ih.total]
      case matched => simp [hmatched, ih.matched, hfits]
    · have hfits : fits on limit docType p = true := by simp [fits, hover]
      obtain ⟨htotal, hmatched⟩ := totals_of_label hon hp
      rw [if_neg hover]
      constructor
      case providers => simpa using ih.providers
      case scored => simp [ih.scored]
      case skipped => simpa using ih.skipped
      case failures =>
        have hrest := ih.failures
        simp [hfits]
        omega
      case costs => simpa using ih.costs
      case failedCosts => simpa using ih.failedCosts
      case total => simp [htotal, ih.total]
      case matched => simp [hmatched, ih.matched, hfits]

theorem reports_of_sums {limit : ℕ} {prepared : List Prepared} {cs : List Contribution}
    (h : Sums on limit docType prepared cs) :
    Reports on limit docType prepared (reportOf docType.value (py "fixture") cs) where
  provider := by
    show (cs.flatMap Contribution.providers).getLastD (py "fixture") = py "fixture"
    rw [List.getLastD_eq_getLast?]
    rcases hlast : (cs.flatMap Contribution.providers).getLast? with _ | provider
    · rfl
    · exact h.providers provider (List.mem_of_getLast? hlast)
  nFixtures := h.scored
  nSkipped := h.skipped
  nFailures := h.failures
  free := by
    show (cs.flatMap Contribution.costs).sum + (cs.flatMap Contribution.failedCosts).sum = 0
    rw [h.costs, h.failedCosts, add_zero]
  totalFields := (sumOf_aggregate _ _ _ _ _ _ _ _ FieldStats.total rfl fun _ _ => rfl).trans h.total
  totalMatches :=
    (sumOf_aggregate _ _ _ _ _ _ _ _ FieldStats.matched rfl fun _ _ => rfl).trans h.matched

end Fixtures

/-! ## The environment is put back -/

/-- The names that the rehearsal pins. -/
def PINNED : List String :=
  ["LLM_PROVIDER_MODE", "FIXTURE_CANNED_TEXT", "FIXTURE_LATENCY_MS", "EXTRACT_API_KEY_SHA256S",
    "EXTRACT_BUDGET_USD"]

theorem foldl_setVar (values : String → Option PyStr) (names : List String) (name : String) :
    ∀ environ : Environ,
      ((names.map fun other => (other, values other)).foldl setVar environ) name =
        if name ∈ names then values name else environ name := by
  induction names with
  | nil =>
    intro environ
    rfl
  | cons other names ih =>
    intro environ
    rw [List.map_cons, List.foldl_cons, ih]
    by_cases hmem : name ∈ names
    · rw [if_pos hmem, if_pos (List.mem_cons_of_mem _ hmem)]
    · rw [if_neg hmem, setVar]
      by_cases hname : name = other
      · rw [if_pos hname, if_pos (by simp [hname]), hname]
      · rw [if_neg hname, if_neg (by simp [hname, hmem])]

/-- The environment but for the pinned names. -/
def elsewhere (environ : Environ) : { name : String // name ∉ PINNED } → Option PyStr :=
  fun name => environ name

/-- What was saved is put back. -/
theorem restore_eq (sha256 : List Byte → List Byte) {environ environ' : Environ}
    (h : elsewhere environ' = elsewhere environ) :
    ((ENV sha256).map fun entry => (entry.1, environ entry.1)).foldl setVar environ' = environ := by
  funext name
  have hmap : ((ENV sha256).map fun entry => (entry.1, environ entry.1)) =
      PINNED.map fun other => (other, environ other) := rfl
  rw [hmap, foldl_setVar]
  by_cases hmem : name ∈ PINNED
  · rw [if_pos hmem]
  · rw [if_neg hmem]
    exact congrFun h ⟨name, hmem⟩

theorem elsewhere_setVar {name : String} (h : name ∈ PINNED) (value : Option PyStr)
    (environ : Environ) : elsewhere (setVar environ (name, value)) = elsewhere environ := by
  funext other
  show (if other.val = name then _ else _) = _
  rw [if_neg]
  · rfl
  · intro hname
    exact other.property (hname ▸ h)

theorem elsewhere_update (sha256 : List Byte → List Byte) (environ : Environ) :
    elsewhere (update environ (ENV sha256)) = elsewhere environ := by
  rw [update, ENV]
  simp only [List.map_cons, List.map_nil, List.foldl_cons, List.foldl_nil]
  simp (disch := decide) only [elsewhere_setVar]

section Frame

variable (on : Setting S V) (settings : Startup.AppSettings)

/-- `predict` sets the canned text and nothing else, however it ends. -/
theorem predict_keeps (fx : Record) :
    Keeps (fun s : State S => elsewhere s.environ) (predict on settings fx) := by
  have hplain : ∀ {α : Type} (x : Except PyClass α),
      Keeps (fun s : State S => elsewhere s.environ) (plain x) := by
    intro α x
    rcases x with cls | a
    · exact Keeps.throw _
    · exact Keeps.pure a
  apply Keeps.bind (hplain _)
  intro expected
  apply Keeps.bind
  · intro s
    have hpinned : "FIXTURE_CANNED_TEXT" ∈ PINNED := by decide
    exact elsewhere_setVar hpinned _ s.environ
  · intro _
    apply Keeps.bind (hplain _)
    intro payload
    apply Keeps.bind
    · intro s
      show elsewhere (finalState (post on settings payload s)).environ = _
      simp only [post]
      split
      · split <;> rfl
      · rfl
    · intro response
      rcases readResponse on response with exc | outcome
      · exact Keeps.throw exc
      · exact Keeps.pure outcome

theorem elsewhere_predictor (fx : Record) (memory : Memory S) :
    elsewhere (predictor on settings fx memory).2.state.environ =
      elsewhere memory.state.environ := by
  have hkeeps := predict_keeps on settings fx memory.state
  rw [predictor]
  rcases memory.raised with _ | exc
  · simp only
    rcases hrun : (predict on settings fx).run memory.state with ⟨outcome, s⟩ | ⟨exc, s⟩
    · rw [hrun] at hkeeps
      exact hkeeps
    · rw [hrun] at hkeeps
      exact hkeeps
  · rfl

theorem elsewhere_runMemory (fixtures : List Record) :
    ∀ memory : Memory S,
      elsewhere (runMemory (predictor on settings) memory fixtures).state.environ =
        elsewhere memory.state.environ := by
  induction fixtures with
  | nil =>
    intro memory
    rfl
  | cons fx fixtures ih =>
    intro memory
    exact (ih _).trans (elsewhere_predictor on settings fx memory)

theorem runFixtures_keeps (docType : PyStr) (fixtures : List Record) :
    Keeps (fun host : Host => elsewhere host.environ)
      (runFixtures on settings docType fixtures) := by
  intro host
  show elsewhere (finalState (runFixtures on settings docType fixtures host)).environ = _
  let start : Memory S := { state := { environ := host.environ, world := freshWorld on.store 0 } }
  rcases hpreflight : preflightFixtures on.libs docType fixtures with message | prepared
  · have hrun := run_runAccuracy_of_rejected on.libs (predictor on settings) hpreflight
      (.start (py "fixture") start)
    simp only [runFixtures, start] at hrun ⊢
    rw [hrun]
    rfl
  · obtain ⟨run, hrun, -, hmemory, -⟩ := run_runAccuracy on.libs (predictor on settings) hpreflight
      (py "fixture") start
    have hkept := elsewhere_runMemory on settings fixtures start
    rw [← hmemory] at hkept
    simp only [runFixtures, start] at hrun ⊢
    rw [hrun]
    rcases hraised : run.predictor.raised with _ | exc
    · simp only [hraised]
      exact hkept
    · simp only [hraised]
      exact hkept

theorem starting_keeps (budget : Option BudgetGuard) :
    Keeps (fun host : Host => elsewhere host.environ) (starting on budget) := by
  intro host
  show elsewhere (finalState (starting on budget host)).environ = _
  simp only [starting]
  split <;> rfl

theorem environ_fixtureEnvironment {α : Type} (sha256 : List Byte → List Byte)
    {body : EStateM Failure Host α} (h : Keeps (fun host : Host => elsewhere host.environ) body)
    (host : Host) :
    (finalState ((fixtureEnvironment sha256 body).run host)).environ = host.environ := by
  have hbody := h { host with environ := update host.environ (ENV sha256) }
  simp only [elsewhere_update] at hbody
  show (finalState (fixtureEnvironment sha256 body host)).environ = _
  simp only [fixtureEnvironment]
  rcases hrun : body.run { host with environ := update host.environ (ENV sha256) } with
    ⟨a, host'⟩ | ⟨failure, host'⟩
  · rw [hrun] at hbody
    exact restore_eq sha256 hbody
  · rw [hrun] at hbody
    exact restore_eq sha256 hbody

/-- **However the rehearsal ends, the environment is what it was.** -/
theorem environ_rehearse (docType : PyStr) (tree : FixtureTree) (host : Host) :
    (finalState ((rehearse on docType tree).run host)).environ = host.environ := by
  rw [rehearse]
  rcases loadReviewedFixtures on.libs docType tree with raised | fixtures
  · rfl
  · simp only
    split_ifs
    · rfl
    · apply environ_fixtureEnvironment
      apply Keeps.bind (starting_keeps on none)
      intro _
      apply Keeps.bind (starting_keeps on _)
      intro settings
      exact runFixtures_keeps on settings docType fixtures

end Frame

/-! ## The start -/

section Starting

variable {on : Setting S V}

/-- The settings that the rehearsal does not pin are well formed. -/
structure Startable (on : Setting S V) (host : Host) : Prop where
  level : Startup.loggingConfigured host.logging = false →
    Startup.IsLogLevel on.startup host.environ
  format : Startup.loggingConfigured host.logging = false →
    Startup.IsLogFormat on.startup host.environ
  concurrency : Startup.IsPositiveInt
    ((host.environ "EXTRACT_MAX_CONCURRENCY").getD (py "4"))
  body : Startup.IsPositiveInt
    ((host.environ "EXTRACT_MAX_BODY_BYTES").getD (decimal Startup.DEFAULT_MAX_BODY_BYTES))

/-- The host of the body of the `with`. -/
def pinnedHost (on : Setting S V) (host : Host) : Host :=
  { host with environ := update host.environ (ENV on.base.sha256) }

theorem pinnedHost_of_notMem (host : Host) {name : String} (h : name ∉ PINNED) :
    (pinnedHost on host).environ name = host.environ name :=
  congrFun (elsewhere_update on.base.sha256 host.environ) ⟨name, h⟩

variable (on) in
theorem pinned_pinnedHost (host : Host) : Pinned (pinnedHost on host).environ where
  mode := by simp [pinnedHost, update, ENV, setVar]
  latency := by simp [pinnedHost, update, ENV, setVar]

theorem pinnedHost_hashes (host : Host) :
    (pinnedHost on host).environ "EXTRACT_API_KEY_SHA256S" =
      some (hexDigest (on.base.sha256 CALLER_KEY)) := by
  simp [pinnedHost, update, ENV, setVar]

theorem pinnedHost_budget (host : Host) :
    (pinnedHost on host).environ "EXTRACT_BUDGET_USD" = some (py "0") := by
  simp [pinnedHost, update, ENV, setVar]

theorem wellFormed_pinnedHost (hon : Faithful on) {host : Host} (h : Startable on host)
    (budget : Option BudgetGuard) :
    Startup.WellFormed on.startup (pinnedHost on host).environ budget
      (Startup.loggingConfigured host.logging) := by
  have hlevel : Startup.logLevelFromEnv on.startup (pinnedHost on host).environ =
      Startup.logLevelFromEnv on.startup host.environ := by
    have hname : "LOG_LEVEL" ∉ PINNED := by decide
    simp only [Startup.logLevelFromEnv, pinnedHost_of_notMem host hname]
  constructor
  case budget =>
    intro _
    rw [pinnedHost_budget]
    exact Or.inr ⟨0, hon.zeroFloat, le_refl 0⟩
  case level =>
    intro hconfigured
    rw [Startup.IsLogLevel, hlevel]
    exact h.level hconfigured
  case format =>
    intro hconfigured
    rw [Startup.IsLogFormat, pinnedHost_of_notMem host (by decide)]
    exact h.format hconfigured
  case concurrency =>
    rw [pinnedHost_of_notMem host (by decide)]
    exact h.concurrency
  case body =>
    rw [pinnedHost_of_notMem host (by decide)]
    exact h.body
  case hashes =>
    rw [pinnedHost_hashes]
    exact Startup.isHashList_hexDigest hon.lower hon.digest

/-- A start in the pinned environment succeeds, knows the caller's key, and leaves logging that
    another start succeeds with. -/
theorem starting_pinnedHost (hon : Faithful on) {host : Host} (h : Startable on host)
    (budget : Option BudgetGuard) :
    ∃ settings logging, (starting on budget).run (pinnedHost on host) =
        .ok settings (pinnedHost on { host with logging := logging }) ∧
      on.libs.sha256 CALLER_KEY ∈ settings.keyHashes ∧
      settings.maxBodyBytes = digitsValue
        ((host.environ "EXTRACT_MAX_BODY_BYTES").getD (decimal Startup.DEFAULT_MAX_BODY_BYTES)) ∧
      Startable on { host with logging := logging } := by
  have hwell := wellFormed_pinnedHost hon h budget
  have hspec := Startup.run_createApp on.startup (pinnedHost on host).environ budget host.logging
  rcases hrun : (Startup.createApp on.startup (pinnedHost on host).environ budget).run
      host.logging with ⟨settings, logging⟩ | ⟨message, logging⟩
  · rw [hrun] at hspec
    obtain ⟨-, -, hkeys, hcap, hkept⟩ := hspec
    rw [pinnedHost_hashes] at hkeys
    rw [pinnedHost_of_notMem host (by decide)] at hcap
    refine ⟨settings, logging, ?_, ?_, hcap, ?_⟩
    · show starting on budget (pinnedHost on host) = _
      have hlogging : (pinnedHost on host).logging = host.logging := rfl
      rw [starting, hlogging, hrun]
      rfl
    · have hdigest : (on.libs.sha256 CALLER_KEY).length = 32 := hon.digest
      apply (mem_keyHashesFromEnv hkeys (List.ne_nil_of_length_pos (by omega))).mpr
      rw [Startup.envEntries_hexDigest hon.lower]
      exact List.mem_singleton_self _
    · -- it is configured now if it was not before
      have hstill : Startup.loggingConfigured logging = false →
          Startup.loggingConfigured host.logging = false := by
        intro hunconfigured
        rw [Startup.LoggingKept] at hkept
        split_ifs at hkept with hconfigured
        · rw [hkept, hconfigured] at hunconfigured
          cases hunconfigured
        · simpa using hconfigured
      exact ⟨fun hlog => h.level (hstill hlog), fun hlog => h.format (hstill hlog),
        h.concurrency, h.body⟩
  · rw [hrun] at hspec
    exact absurd hwell hspec.1

end Starting

/-! ## The rehearsal -/

section Main

variable {on : Setting S V}

theorem run_runFixtures (hon : Faithful on) {settings : Startup.AppSettings}
    (hkey : on.libs.sha256 CALLER_KEY ∈ settings.keyHashes) {docType : DocType} {host : Host}
    (hpinned : Pinned host.environ) {fixtures : List Record} {prepared : List Prepared}
    (hpreflight : preflightFixtures on.libs docType.value fixtures = .ok prepared)
    (hencodable : ∀ fx ∈ fixtures, (requestPayload (py "default") fx).encodable = true) :
    ∃ report host', (runFixtures on settings docType.value fixtures).run host = .ok report host' ∧
      Reports on settings.maxBodyBytes docType prepared report := by
  let start : Memory S := { state := { environ := host.environ, world := freshWorld on.store 0 } }
  have hpasses := preflightFixtures_eq_ok_iff.mp hpreflight
  obtain ⟨run, hrun, -, hmemory, -⟩ := run_runAccuracy on.libs (predictor on settings) hpreflight
    (py "fixture") start
  obtain ⟨houtcomes, hraised⟩ :=
    runOutcomes_predictor hon hkey hpasses hencodable start rfl ⟨hpinned, rfl⟩
  rw [← hmemory] at hraised
  have hcontributions : contributions on.libs (predictor on settings) start prepared =
      rehearsedContributions on settings.maxBodyBytes docType prepared := by
    rw [contributions, map_fx_of_passes hpasses, houtcomes, List.zipWith_map_right,
      List.zipWith_self]
    rfl
  rw [hcontributions] at hrun
  refine ⟨_, { host with environ := run.predictor.state.environ }, ?_,
    reports_of_sums (sums_rehearsed hon settings.maxBodyBytes hpasses)⟩
  show runFixtures on settings docType.value fixtures host = _
  simp only [runFixtures]
  simp only [start] at hrun
  rw [hrun]
  simp only [hraised]

/-- The cap on bodies that the environment sets. -/
def bodyLimit (host : Host) : ℕ :=
  digitsValue
    ((host.environ "EXTRACT_MAX_BODY_BYTES").getD (decimal Startup.DEFAULT_MAX_BODY_BYTES))

/-- The fixtures that the rehearsal cannot answer: their content is over the cap on texts, or
    their request is over the cap on bodies. -/
def overCaps (on : Setting S V) (docType : DocType) (host : Host) (fixtures : List Record) :
    List Record :=
  fixtures.filter fun fx => IsOver on (bodyLimit host) (requestOf docType fx)

variable (on) in
theorem length_overCaps (docType : DocType) (host : Host) {fixtures : List Record}
    {prepared : List Prepared} (h : prepared.map Prepared.fx = fixtures) :
    (overCaps on docType host fixtures).length +
      (prepared.filter (fits on (bodyLimit host) docType)).length = prepared.length := by
  rw [overCaps, ← h, List.filter_map, List.length_map,
    List.length_eq_length_filter_add (l := prepared) (fits on (bodyLimit host) docType), add_comm]
  congr 2
  apply List.filter_congr
  intro p _
  simp [fits]

theorem exitCode_of_reports {limit : ℕ} {docType : DocType} {prepared : List Prepared}
    {report : AccuracyReport} (hne : prepared ≠ []) (h : Reports on limit docType prepared report) :
    exitCode (.ok report) = some (if prepared.all (fits on limit docType) then 0 else 1) := by
  have hfailures := h.nFailures
  by_cases hall : prepared.all (fits on limit docType) = true
  · have hfilter : prepared.filter (fits on limit docType) = prepared :=
      List.filter_eq_self.mpr (List.all_eq_true.mp hall)
    have hmatches : report.totalMatches = report.totalFields := by
      rw [h.totalMatches, h.totalFields, hfilter]
    have hfields : report.totalFields ≠ 0 := by
      obtain ⟨p, rest, rfl⟩ := List.exists_cons_of_ne_nil hne
      have hpos : 0 < fieldCount p := by
        rw [fieldCount]
        cases p.cls <;> decide
      rw [h.totalFields, List.map_cons, List.sum_cons]
      omega
    have hrate : report.overallExactMatchRate = 1 := by
      rw [AccuracyReport.overallExactMatchRate, AccuracyReport.rate, if_neg hfields, hmatches]
      exact div_self (Nat.cast_ne_zero.mpr hfields)
    rw [hfilter] at hfailures
    have hnone : report.nFailures = 0 := by omega
    simp [exitCode, hall, hnone, h.nSkipped, hrate]
  · have hshort : (prepared.filter (fits on limit docType)).length < prepared.length := by
      apply lt_of_le_of_ne (List.length_filter_le _ _)
      intro hlength
      exact hall (List.all_eq_true.mpr (List.length_filter_eq_length_iff.mp hlength))
    have hsome : 0 < report.nFailures := by omega
    simp [exitCode, hall, hsome]

/-- **What the rehearsal reports.**  Whatever the environment holds, it is put back.  On a
    corpus of reviewed fixtures that passes the preflight and whose payloads can be encoded, and
    with settings that a service starts with, the rehearsal comes to a report: no fixture is
    skipped, nothing is spent, the failures are the fixtures over a cap, and every field of every
    other fixture is a match; so the exit code is zero exactly when all fixtures are within the
    caps. -/
theorem rehearsal_reports (on : Setting S V) (docType : DocType) (tree : FixtureTree)
    (host : Host) :
    (finalState ((rehearse on docType.value tree).run host)).environ = host.environ ∧
    (Faithful on → Startable on host → ∀ fixtures prepared,
      loadReviewedFixtures on.libs docType.value tree = .ok fixtures → fixtures ≠ [] →
      preflightFixtures on.libs docType.value fixtures = .ok prepared →
      (∀ fx ∈ fixtures, (requestPayload (py "default") fx).encodable = true) →
      ∃ report host', (rehearse on docType.value tree).run host = .ok report host' ∧
        report.provider = py "fixture" ∧ report.nFixtures = fixtures.length ∧
        report.nSkipped = 0 ∧ report.costUsdTotal = 0 ∧
        report.nFailures = (overCaps on docType host fixtures).length ∧
        report.totalFields = (prepared.map fieldCount).sum ∧
        report.totalMatches =
          ((prepared.filter (fits on (bodyLimit host) docType)).map fieldCount).sum ∧
        (exitCode (.ok report) = some 0 ↔ overCaps on docType host fixtures = [])) := by
  refine ⟨environ_rehearse on docType.value tree host, ?_⟩
  intro hon hstart fixtures prepared hload hne hpreflight hencodable
  -- two applications are built, and the fixtures are posted to the second
  obtain ⟨settings₁, logging₁, hfirst, -, -, hstart₁⟩ := starting_pinnedHost hon hstart none
  obtain ⟨settings, logging₂, hsecond, hkey, hcap, hstart₂⟩ :=
    starting_pinnedHost hon hstart₁ (some { cap := 0 })
  obtain ⟨report, host', hruns, hreports⟩ := run_runFixtures hon hkey
    (pinned_pinnedHost on { host with logging := logging₂ }) hpreflight hencodable
  have hpinned : (runPinned on docType.value fixtures).run (pinnedHost on host) =
      .ok report host' := by
    simp only [runPinned, EStateM.run_bind, hfirst, hsecond]
    exact hruns
  have hrehearse : ∃ host'', (rehearse on docType.value tree).run host = .ok report host'' := by
    simp only [rehearse, hload, if_neg hne]
    show ∃ host'', fixtureEnvironment on.base.sha256 (runPinned on docType.value fixtures) host = _
    rw [pinnedHost] at hpinned
    simp only [fixtureEnvironment, hpinned]
    exact ⟨_, rfl⟩
  obtain ⟨host'', hrehearse⟩ := hrehearse
  have hlimit : settings.maxBodyBytes = bodyLimit host := hcap
  rw [hlimit] at hreports
  have hfx := map_fx_of_passes (preflightFixtures_eq_ok_iff.mp hpreflight)
  have hprepared : prepared ≠ [] := by
    rintro rfl
    exact hne hfx.symm
  have hlength : prepared.length = fixtures.length := by rw [← hfx, List.length_map]
  have hover := length_overCaps on docType host hfx
  have hfailures := hreports.nFailures
  refine ⟨report, host'', hrehearse, hreports.provider, hreports.nFixtures.trans hlength,
    hreports.nSkipped, hreports.free, by omega, hreports.totalFields, hreports.totalMatches, ?_⟩
  have hall : prepared.all (fits on (bodyLimit host) docType) = true ↔
      overCaps on docType host fixtures = [] := by
    rw [← List.length_eq_zero_iff, List.all_eq_true, ← List.length_filter_eq_length_iff]
    omega
  rw [exitCode_of_reports hprepared hreports, ← hall]
  split_ifs with h <;> simp [h]

end Main

/-! ## A sample rehearsal -/

/-- How the sample client writes JSON. -/
def sampleLayout : Layout := LogFormat.compactDumps LogFormat.numberLogLibs

def sampleRehearsalClient : HttpClient :=
  { sampleHttpClient with
    encodeJson := fun payload => utf8SurrogatePass (write sampleLayout payload) }

/-- The request that an object of four texts stands for. -/
def sampleValidateBody : BodyValue Json → Except (List ErrorDetails) ExtractRequest
  | .json (.obj fields) =>
      let docType := textOf (lookupField fields "doc_type")
      match [DocType.invoice, .ukJobPosting].find? fun d => decide (d.value = docType) with
      | some d =>
          .ok
            { docType := d
              schemaVersion := textOf (lookupField fields "schema_version")
              content := textOf (lookupField fields "content") }
      | none => .error []
  | _ => .error []

/-- A framework that reads the body as UTF-8 and JSON. -/
def sampleJsonFramework : Framework Json where
  isJson _ := true
  loadsText text :=
    match read samplePydantic.number text with
    | some value => .ok value
    | none => .error (.jsonDecodeError 0 [])
  validateBody := sampleValidateBody
  redirectUrl _ := []

theorem jsonLoads_payloadOf {request : ExtractRequest} (h : request.encodable = true) :
    sampleJsonFramework.jsonLoads (sampleRehearsalClient.encodeJson (payloadOf request)) =
      .ok (payloadOf request) := by
  have hdecode : jsonText (sampleRehearsalClient.encodeJson (payloadOf request)) =
      some (write sampleLayout (payloadOf request)) :=
    -- an object begins with a brace and a quotation mark
    jsonText_utf8SurrogatePass (by decide) (by decide) _
  have hread : read samplePydantic.number (write sampleLayout (payloadOf request)) =
      some (payloadOf request) := by
    apply read_write LogFormat.readable_numberLogLibs
    rw [ExtractRequest.encodable, Bool.and_eq_true] at h
    have hdocType : encodable request.docType.value = true := by
      cases request.docType <;> exact encodable_py _
    have hprovider : encodable (py "default") = true := encodable_py _
    simp only [payloadOf, WellFormed, WellFormedFields, hdocType, h.1, h.2, hprovider, encodable_py,
      and_self, and_true]
    show [py "doc_type", py "schema_version", py "content", py "provider"].Nodup
    decide
  simp only [Framework.jsonLoads, hdecode, sampleJsonFramework, hread]

/-- The libraries of the samples, for the one key. -/
def sampleSetting : Setting Unit Json where
  pyd := samplePydantic
  base :=
    { sampleHarnessLibs with
      sha256 := fun _ => sampleDigest
      model := strictModel samplePydantic
      dump_keys := dump_keys_strictModel samplePydantic }
  startup := { Startup.sampleStartupLibs with
    float := fun raw => if isAsciiDecimal raw then some (.finite (decimalValue raw)) else none }
  vendors := { sampleVendors with elapsedMs := fun _ _ => 1 }
  framework := sampleJsonFramework
  client := sampleRehearsalClient
  otherScopes _ _ _ := pure ()
  store := ()
  occasion _ := sampleOccasion (sampleSurroundings [])

theorem faithful_sampleSetting : Faithful sampleSetting where
  strict := strictJsonMode_samplePydantic
  parses := by
    intro request htext hprovider hencodable
    have hloads := jsonLoads_payloadOf hencodable
    have hne : sampleRehearsalClient.encodeJson (payloadOf request) ≠ [] := by
      intro hempty
      rw [hempty] at hloads
      cases hloads
    have hvalid : sampleValidateBody (.json (payloadOf request)) = .ok request := by
      obtain ⟨docType, version, content, format, provider⟩ := request
      obtain rfl : format = .text := htext
      obtain rfl : provider = .default := hprovider
      cases docType <;> rfl
    show parseBody sampleJsonFramework _ (sampleRehearsalClient.encodeJson (payloadOf request)) = _
    have hjson : ∀ scope, sampleJsonFramework.isJson scope = true := fun _ => rfl
    rw [parseBody, if_neg hne, if_pos (hjson _), hloads]
    show (sampleValidateBody (.json (payloadOf request))).mapError _ = _
    rw [hvalid]
    rfl
  declared := by
    intro body header hheader
    cases hheader
  digest := rfl
  lower _ _ := rfl
  zero := rfl
  zeroFloat := rfl
  elapsed _ _ := isDouble_intCast (by norm_num : |(1 : ℤ)| < 2 ^ 53)

/-- A process with nothing set. -/
def sampleHost : Host := ⟨Startup.emptyEnviron, Startup.sampleLogging⟩

theorem startable_sampleHost : Startable sampleSetting sampleHost where
  level _ := ⟨20, rfl⟩
  format _ := List.mem_cons_self
  concurrency := by
    rw [Startup.IsPositiveInt]
    decide +kernel
  body := by
    rw [Startup.IsPositiveInt]
    decide +kernel

def rehearsedFixture : Prepared := samplePrepared "a"

theorem rehearsedFixture_passes :
    Passes sampleSetting.libs (py "invoice") (sampleFixture "a") rehearsedFixture where
  keeps := rfl
  typed := rfl
  filled := by decide
  versioned := ⟨py "v1", rfl, by decide, rfl⟩
  hasContent := ⟨py "Invoice 1", rfl, by decide⟩
  labelled := rfl
  valid := ⟨_, congrArg (Except.map ((strictModel samplePydantic .InvoiceV1).dump))
    validate_invoiceData⟩

theorem rehearsal_reports_sample :
    ∃ report host', (rehearse sampleSetting (py "invoice") (singleTree ["invoices"])).run
        sampleHost = .ok report host' ∧
      report.nFixtures = 1 ∧ report.totalFields = 11 ∧ report.totalMatches = 11 ∧
      exitCode (.ok report) = some 0 := by
  have hfits : overCaps sampleSetting .invoice sampleHost [sampleFixture "a"] = [] := by
    decide +kernel
  obtain ⟨report, host', hrun, -, hfixtures, -, -, -, htotal, hmatches, hexit⟩ :=
    (rehearsal_reports sampleSetting .invoice (singleTree ["invoices"]) sampleHost).2
      faithful_sampleSetting startable_sampleHost [sampleFixture "a"] [rehearsedFixture] rfl
      (List.cons_ne_nil _ _)
      (preflightFixtures_eq_ok_iff.mpr (.cons rehearsedFixture_passes .nil)) (by decide)
  refine ⟨report, host', hrun, hfixtures, htotal, ?_, hexit.mpr hfits⟩
  rw [hmatches]
  decide +kernel

end ExtractApi.Rehearsal
