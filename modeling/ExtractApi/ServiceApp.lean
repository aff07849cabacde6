import ExtractApi.BodyCap
import ExtractApi.ExtractOutcome
import ExtractApi.JsonBytes
import ExtractApi.RequestContext

/-!
# The application (`create_app`)

The middleware stack, from the outside in: Starlette's `ServerErrorMiddleware`, the
request context, the caller authentication, the body cap, the admission gate and
Starlette's `ExceptionMiddleware`; inside it the router and the endpoints.

FastAPI and Starlette are third-party code.  Their part is written out as far as the
service relies on it: handlers are chosen by exception class, an unknown path is a
404, a wrong method a 405, a path that only a trailing slash separates from a
registered one a redirect; a JSON syntax error or a model error of the body is a
`RequestValidationError`, and any other exception while the body is read or decoded is
an `HTTPException(400)`.  What `json.loads` and the request model accept is a
parameter; of `json.loads`, only what it makes of a text.
-/

namespace ExtractApi

open PythonText JsonValue RaisingProgram

variable {S M V : Type}

/-! ## What is given -/

/-- What the request model is validated from: `V` are the values `json.loads` builds. -/
inductive BodyValue (V : Type) where
  | absent
  | json (value : V)
  | raw (body : List Byte)

/-- What `json.loads` raises. -/
inductive LoadError where
  | jsonDecodeError (pos : ℕ) (msg : PyStr)
  /-- any other exception, by class name -/
  | other (className : PyStr)

structure Framework (V : Type) where
  /-- the content type is JSON -/
  isJson : Scope → Bool
  /-- `json.loads` of a text -/
  loadsText : PyStr → Except LoadError V
  validateBody : BodyValue V → Except (List ErrorDetails) ExtractRequest
  /-- `str(URL(scope=redirect_scope))` -/
  redirectUrl : Scope → PyStr

/-- `json.loads` of bytes -/
def Framework.jsonLoads (fw : Framework V) (body : List Byte) : Except LoadError V :=
  match jsonText body with
  | some text => fw.loadsText text
  | none => .error (.other (py "UnicodeDecodeError"))

/-- What `create_app` and `readyz` read from the environment. -/
structure Environment where
  /-- `key_hashes_from_env()` -/
  keyHashes : List (List Byte)
  /-- `_max_body_bytes_from_env()` -/
  maxBodyBytes : ℕ
  /-- `EXTRACT_API_REVISION` -/
  revision : Option PyStr
  /-- `LLM_PROVIDER_MODE` -/
  llmProviderMode : Option PyStr

/-- The process that serves requests; `otherScopes` is what Starlette does with a
    connection that is no http request. -/
structure Process (S M V : Type) where
  libs : Libraries M
  framework : Framework V
  environment : Environment
  otherScopes : AsgiApp S

/-- What one request finds: the flow's surroundings, `uuid.uuid4().hex`, the measured
    duration and `time.time()` in the store's `probe`. -/
structure Occasion (S : Type) extends Surroundings S where
  uuid : List (Fin 16)
  durationMs : ℚ
  clockAtProbe : ℚ

/-! ## Routing -/

inductive Endpoint where
  | healthz
  | readyz
  | extract
  /-- one of the pages FastAPI adds: the schema and its viewers -/
  | documentation
deriving DecidableEq, Repr

/-- `template` is the `path` of `scope["route"]`, which FastAPI's own routes set. -/
structure Route where
  path : PyStr
  methods : List PyStr
  endpoint : Endpoint
  template : Option PyStr
deriving DecidableEq, Repr

/-- A route that `create_app` registers. -/
def apiRoute (path method : String) (endpoint : Endpoint) : Route where
  path := py path
  methods := [py method]
  endpoint := endpoint
  template := some (py path)

def documentationRoute (path : String) : Route where
  path := py path
  methods := [py "GET", py "HEAD"]
  endpoint := .documentation
  template := none

def ROUTES : List Route :=
  [documentationRoute "/openapi.json", documentationRoute "/docs",
    documentationRoute "/docs/oauth2-redirect", documentationRoute "/redoc",
    apiRoute "/healthz" "GET" .healthz, apiRoute "/readyz" "GET" .readyz,
    apiRoute "/v1/extract" "POST" .extract]

/-- The route's regex matches: its `$` also matches before a trailing newline. -/
def Route.matchesPath (route : Route) (path : PyStr) : Bool :=
  decide (path = route.path ∨ path = route.path ++ py "\n")

/-- Some route matches the path. -/
def registered (path : PyStr) : Bool := ROUTES.any fun route => route.matchesPath path

/-- `redirect_scope`: the path with a trailing slash more, or without any. -/
def toggleSlash (scope : Scope) : Scope :=
  { scope with
    path := if (getRoutePath scope).getLast? = (py "/").head? then
        scope.path.rdropWhile fun c => some c = (py "/").head?
      else scope.path ++ py "/" }

/-- The path only differs from a registered one by trailing slashes. -/
def isSlashVariant (scope : Scope) : Bool :=
  !registered (getRoutePath scope) && decide (getRoutePath scope ≠ py "/") &&
    registered (getRoutePath (toggleSlash scope))

inductive Routing where
  | endpoint (route : Route)
  | methodNotAllowed (route : Route)
  | redirect
  | notFound

/-- The first route that matches path and method, else the first that matches the path. -/
def routing (scope : Scope) : Routing :=
  let candidates := ROUTES.filter fun route => route.matchesPath (getRoutePath scope)
  match candidates.find? fun route => decide (scope.method ∈ route.methods) with
  | some route => .endpoint route
  | none =>
      match candidates with
      | route :: _ => .methodNotAllowed route
      | [] => if isSlashVariant scope then .redirect else .notFound

/-! ## Reading the body -/

/-- `ClientDisconnect`, which `request.stream()` raises. -/
def clientDisconnect : PyExc := .other (py "ClientDisconnect")

/-- What an exception raised while the body is read or decoded becomes. -/
def bodyParsingError : PyExc :=
  .httpException 400 (.str (py "There was an error parsing the body")) []

/-- `request.stream()`, joined.  The number bounds the messages still to be delivered:
    after them the client is gone. -/
def readStream (receive : Receive S) : ℕ → List Byte → Asgi S (List Byte)
  | 0, _ => throw (.exception clientDisconnect)
  | n + 1, body => do
      match ← receive with
      | .httpDisconnect => throw (.exception clientDisconnect)
      | .httpRequest chunk moreBody =>
          if moreBody then readStream receive n (body ++ chunk) else return body ++ chunk

/-- `await request.body()`, inside FastAPI's `except Exception` -/
def readBody (receive : Receive S) : Asgi S (List Byte) := do
  let c ← get
  tryCatch (readStream receive c.incoming.length []) fun
    | .exception _ => throw (.exception bodyParsingError)
    | raised => throw raised

/-- The error FastAPI reports for a JSON syntax error. -/
def jsonInvalid (pos : ℕ) : ErrorDetails where
  loc := [.key (py "body"), .index pos]
  type := py "json_invalid"
  msg := py "JSON decode error"
  input := .obj []

/-- The request in the bytes of a body. -/
def parseBody (fw : Framework V) (scope : Scope) (body : List Byte) :
    Except PyExc ExtractRequest := do
  let value ←
    if body = [] then .ok .absent
    else if fw.isJson scope then
      match fw.jsonLoads body with
      | .ok value => .ok (.json value)
      | .error (.jsonDecodeError pos _) => .error (.requestValidationError [jsonInvalid pos])
      | .error (.other _) => .error bodyParsingError
    else .ok (.raw body)
  (fw.validateBody value).mapError PyExc.requestValidationError

/-- The `Idempotency-Key` header, as FastAPI hands it to the endpoint. -/
def idempotencyKey (scope : Scope) : Option PyStr := (scope.header "idempotency-key").map latin1

/-! ## The endpoints -/

section App

variable (process : Process S M V) (occasion : Occasion S)

/-- `healthz` -/
def healthz : Service S HttpResponse :=
  liftExcept (jsonResponse 200 (.obj [(py "status", .str (py "ok"))]) [])

/-- The `except` clauses around the probe. -/
def probeFailed {α : Type} (exc : PyExc) : Service S α := do
  if exc.className = py "EphemeralStoreError" then
    emit
      { logger := "extract.api"
        level := .error
        -- the argument is the exception's message
        msg := "readiness probe failed: %s" }
    throw (.extractError
      { code := .internalError
        detail := py "the idempotency store is not on a persistent mount" })
  else
    emit
      { logger := "extract.api"
        level := .error
        msg := "readiness probe failed: idempotency store: %s: %s"
        args := [.str exc.className] }
    throw (.extractError
      { code := .internalError, detail := py "the idempotency store is not ready" })

/-- `readyz` -/
def readyz : Service S HttpResponse := do
  let storeId ← tryCatch
    (do
      let store ← liftExcept occasion.store
      onStore (store.probe occasion.clockAtProbe)
      return store.storeId)
    probeFailed
  let revision :=
    match process.environment.revision with
    | some revision => if revision = [] then py "unknown" else revision
    | none => py "unknown"
  liftExcept (jsonResponse 200
    (.obj [(py "status", .str (py "ready")), (py "revision", .str revision),
      (py "idempotency_store_id", .str storeId),
      (py "provider_mode",
        .str (if process.environment.llmProviderMode = some (py "fixture") then py "fixture"
          else py "live")),
      (py "caller_auth_configured", .bool !process.environment.keyHashes.isEmpty)]) [])

/-- The response of the extract endpoint: the model's JSON and the store's header. -/
def renderExtract (answer : ExtractResponse × Option PyStr) : Except PyExc HttpResponse :=
  jsonResponse 200 answer.1.toJson
    (match answer.2 with
      | some storeId => [(py "X-Idempotency-Store", storeId)]
      | none => [])

/-- The extract endpoint on the bytes of the body. -/
def extractEndpoint (scope : Scope) (body : List Byte) : Service S HttpResponse := do
  let request ← liftExcept (parseBody process.framework scope body)
  let answer ← extract process.libs occasion.toSurroundings request (idempotencyKey scope)
  liftExcept (renderExtract answer)

def runEndpoint (scope : Scope) (receive : Receive S) : Endpoint → Asgi S HttpResponse
  | .healthz => inService healthz
  | .readyz => inService (readyz process occasion)
  | .extract => do
      let body ← readBody receive
      inService (extractEndpoint process occasion scope body)
  | .documentation => return { status := 200, body := none }

def setRoute (route : Route) : Asgi S Unit := modify fun c => { c with route := route.template }

/-- The header names and values of a list of methods. -/
def allowHeader (route : Route) : List (PyStr × PyStr) :=
  [(py "Allow", List.intercalate (py ", ") route.methods)]

/-- The router and the endpoint it finds. -/
def router : AsgiApp S := fun scope receive send =>
  if scope.type ≠ .http then process.otherScopes scope receive send
  else
    match routing scope with
    | .endpoint route => do
        setRoute route
        let response ← runEndpoint process occasion scope receive route.endpoint
        sendResponse response send
    | .methodNotAllowed route => do
        setRoute route
        throw (.exception (.httpException 405 (.str (py "Method Not Allowed"))
          (allowHeader route)))
    | .redirect =>
        sendResponse
          { status := 307
            headers := [(py "location", process.framework.redirectUrl (toggleSlash scope))]
            body := none } send
    | .notFound => throw (.exception (.httpException 404 (.str (py "Not Found")) []))

/-! ## The stack -/

/-- Starlette's `ExceptionMiddleware`, with the handlers of `install_error_handlers`. -/
def exceptionMiddleware (app : AsgiApp S) : AsgiApp S := fun scope receive send =>
  tryCatch (app scope receive send) fun
    | .exception exc => do
        if hasHandler exc ∧ (← get).sent ≠ [] then
          -- the response had already started
          throw (.exception (.other (py "RuntimeError")))
        let response ← inService (handleException exc)
        sendResponse response send
    | raised => throw raised

/-- Starlette's `ServerErrorMiddleware`: it answers for any exception, and raises it on. -/
def serverErrorMiddleware (app : AsgiApp S) : AsgiApp S := fun scope receive send =>
  if scope.type ≠ .http then app scope receive send
  else
    tryCatch (app scope receive send) fun
      | .exception exc => do
          let c ← get
          if c.sent = [] then
            let response ← inService (handleUnexpected c.requestId exc)
            sendResponse response send
          throw (.exception exc)
      | raised => throw raised

/-- The application that `create_app` builds. -/
def createApp : AsgiApp S :=
  serverErrorMiddleware <|
    requestContext occasion.uuid occasion.durationMs <|
      callerAuth process.libs.sha256 process.environment.keyHashes <|
        bodyCap process.environment.maxBodyBytes <|
          extractAdmission <|
            exceptionMiddleware <|
              router process occasion

/-- A request, from its scope and the messages the server delivers for it. -/
def handleRequest (scope : Scope) (incoming : List ReceiveMessage) (w : World S) : Connection S :=
  finalState ((createApp process occasion scope serverReceive serverSend).run
    (.opened w incoming))

end App

/-! ## A sample process -/

/-- The body of the sample request. -/
def sampleBody : List Byte := bytes
  "\x7b\"doc_type\":\"invoice\",\"content\":\"Invoice 1\"\x7d"

/-- The framework, on the bodies of the samples: `sampleBody`, a lone opening brace and a byte
    that is no UTF-8.  The value of `sampleBody` is the only one that is ever loaded. -/
def sampleFramework : Framework Unit where
  isJson _ := true
  loadsText text :=
    if text = py "\x7b\"doc_type\":\"invoice\",\"content\":\"Invoice 1\"\x7d" then .ok ()
    else .error (.jsonDecodeError 1 (py "Expecting property name enclosed in double quotes"))
  validateBody
    | .json () => .ok sampleRequest
    | .absent => .error [⟨[.key (py "body")], py "missing", py "Field required", .null⟩]
    | .raw _ => .error [⟨[.key (py "body")], py "model_attributes_type",
        py "Input should be a valid dictionary or object to extract fields from", .null⟩]
  redirectUrl scope := py "http://testserver" ++ scope.path

/-- SHA-256 of the sample key `key`. -/
def sampleDigest : List Byte :=
  [44, 112, 225, 43, 122, 6, 70, 249, 34, 121, 244, 39, 199, 179, 142, 115, 52, 216, 229, 56, 156,
    255, 22, 122, 29, 195, 14, 115, 248, 38, 182, 131]

/-- The process, for callers that present the sample key. -/
def sampleProcess : Process S Unit Unit where
  libs := { sampleLibs with sha256 _ := sampleDigest }
  framework := sampleFramework
  environment :=
    { keyHashes := [sampleDigest]
      maxBodyBytes := 32 * 1024 * 1024
      revision := none
      llmProviderMode := none }
  otherScopes _ _ _ := pure ()

/-- A request of an authenticated caller. -/
def sampleScope (method path : String) (headers : List (List Byte × List Byte)) : Scope where
  method := py method
  path := py path
  headers := (bytes "authorization", bytes "Bearer key") :: headers

def sampleOccasion (surroundings : Surroundings S) : Occasion S where
  toSurroundings := surroundings
  uuid := List.replicate 32 0
  durationMs := 1
  clockAtProbe := 0

end ExtractApi
