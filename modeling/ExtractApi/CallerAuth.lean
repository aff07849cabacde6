import ExtractApi.AsgiConnection

/-!
# Caller authentication (`api/auth.py`)

`CallerAuth` lets the health probes through and requires a bearer key of every other
http request.  `sha256` is `hashlib.sha256(data).digest()`.
-/

namespace ExtractApi

open PythonText JsonValue

variable {S : Type}

/-- The path the router matches: the scope's path less its root path. -/
def getRoutePath (scope : Scope) : PyStr :=
  if scope.rootPath = [] then scope.path
  else if ¬ scope.rootPath <+: scope.path then scope.path
  else if scope.path = scope.rootPath then []
  else if scope.path[scope.rootPath.length]? = (py "/").head? then
    scope.path.drop scope.rootPath.length
  else scope.path

/-- `_OPEN_PATHS`: the platform's health probes. -/
def OPEN_PATHS : List PyStr := [py "/healthz", py "/readyz"]

def isOpenPath (scope : Scope) : Bool := decide (getRoutePath scope ∈ OPEN_PATHS)

/-- `bytes.lower()` -/
def lowerAscii (value : List Byte) : List Byte :=
  value.map fun b => if h : 65 ≤ b.val ∧ b.val ≤ 90 then ⟨b.val + 32, by omega⟩ else b

/-- `_bearer_token`: the first `authorization` header decides. -/
def bearerToken (scope : Scope) : Option (List Byte) :=
  (scope.header "authorization").bind fun header =>
    -- `header.partition(b" ")`
    let scheme := header.takeWhile fun b => b ≠ 32
    let token := (header.dropWhile fun b => b ≠ 32).tail
    if lowerAscii scheme = bytes "bearer" ∧ token ≠ [] ∧ 32 ∉ token then some token else none

/-- `_matches`: every stored digest is compared. -/
def matchesKey (sha256 : List Byte → List Byte) (token : List Byte)
    (hashes : List (List Byte)) : Bool :=
  hashes.foldl (fun matched stored => matched || decide (sha256 token = stored)) false

theorem matchesKey_iff {sha256 : List Byte → List Byte} {token : List Byte}
    {hashes : List (List Byte)} :
    matchesKey sha256 token hashes = true ↔ sha256 token ∈ hashes := by
  have hfold : ∀ (hashes : List (List Byte)) (matched : Bool),
      hashes.foldl (fun matched stored => matched || decide (sha256 token = stored)) matched =
          true ↔
        matched = true ∨ sha256 token ∈ hashes := by
    intro hashes
    induction hashes with
    | nil => simp
    | cons stored hashes ih =>
      intro matched
      simp [ih, or_assoc]
  rw [matchesKey, hfold]
  simp

/-- A service with no key hash fails closed. -/
def notConfiguredResponse : Service S HttpResponse :=
  errorResponse .internalError (codeBody .internalError
    (.str (py "the service is not configured to serve extractions"))) []

def unauthorizedResponse : Service S HttpResponse :=
  errorResponse .unauthorized (codeBody .unauthorized
      (.str (py "a valid API key is required (Authorization: Bearer <key>)")))
    [(py "WWW-Authenticate", py "Bearer")]

/-- The route is named for the access line: a refused request never reaches the router. -/
def noteExtractRoute (scope : Scope) : Service S Unit :=
  if getRoutePath scope = EXTRACT_PATH then note [("route", .str EXTRACT_PATH)] else pure ()

/-- `token is not None and _matches(token, self.key_hashes)` -/
def presentsKey (sha256 : List Byte → List Byte) (keyHashes : List (List Byte))
    (scope : Scope) : Bool :=
  match bearerToken scope with
  | some token => matchesKey sha256 token keyHashes
  | none => false

theorem keyHashes_ne_nil {sha256 : List Byte → List Byte} {keyHashes : List (List Byte)}
    {scope : Scope} (h : presentsKey sha256 keyHashes scope = true) : keyHashes ≠ [] := by
  rintro rfl
  unfold presentsKey at h
  cases htoken : bearerToken scope with
  | none => simp [htoken] at h
  | some token =>
    simp only [htoken] at h
    exact List.not_mem_nil (matchesKey_iff.mp h)

/-- `CallerAuth` -/
def callerAuth (sha256 : List Byte → List Byte) (keyHashes : List (List Byte))
    (app : AsgiApp S) : AsgiApp S := fun scope receive send =>
  if scope.type ≠ .http ∨ isOpenPath scope then app scope receive send
  else do
    inService (noteExtractRoute scope)
    if keyHashes = [] then
      let response ← inService notConfiguredResponse
      sendResponse response send
    else if presentsKey sha256 keyHashes scope then app scope receive send
    else
      let response ← inService unauthorizedResponse
      sendResponse response send

end ExtractApi
