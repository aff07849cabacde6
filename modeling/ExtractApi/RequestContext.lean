import ExtractApi.AsgiConnection

/-!
# The request context (`RequestContextMiddleware`)

The middleware gives the request its id and its facts, appends the id to the headers
of the response, and writes the access line whichever way the request ends.
-/

namespace ExtractApi

open PythonText JsonValue RaisingProgram

variable {S : Type}

/-- A character of `_REQUEST_ID_RE` -/
def isRequestIdChar (c : CodePoint) : Bool :=
  decide (65 ≤ c.val ∧ c.val ≤ 90) || decide (97 ≤ c.val ∧ c.val ≤ 122) ||
    decide (48 ≤ c.val ∧ c.val ≤ 57) || decide (c.val = 46 ∨ c.val = 95 ∨ c.val = 45)

/-- `_REQUEST_ID_RE.fullmatch(candidate)` -/
def isRequestId (candidate : PyStr) : Bool :=
  decide (1 ≤ candidate.length ∧ candidate.length ≤ 128) && candidate.all isRequestIdChar

/-- `_incoming_request_id`; `uuid` are the digits of `uuid.uuid4().hex`. -/
def incomingRequestId (scope : Scope) (uuid : List (Fin 16)) : PyStr :=
  match scope.header "x-request-id" with
  | some value =>
      if isRequestId (latin1 value) then latin1 value else uuid.map hexDigit
  | none => uuid.map hexDigit

/-- A request id is a header value and holds no character a log line could break on. -/
theorem isLatin1_incomingRequestId (scope : Scope) (uuid : List (Fin 16)) :
    isLatin1 (incomingRequestId scope uuid) = true := by
  have huuid : isLatin1 (uuid.map hexDigit) = true := by
    have hdigit : ∀ n : Fin 16, (hexDigit n).val < 256 := by decide
    simp [isLatin1, hdigit]
  unfold incomingRequestId
  split
  · split_ifs
    · exact isLatin1_latin1 _
    · exact huuid
  · exact huuid

/-- The message with the request id among its headers. -/
def SendMessage.withRequestId (rid : PyStr) : SendMessage → SendMessage
  | .responseStart status headers => .responseStart status (headers ++ [(REQUEST_ID_HEADER, rid)])
  | message => message

/-- `send_wrapper` -/
def sendWrapper (rid : PyStr) (send : Send S) : Send S := fun message => do
  match message with
  | .responseStart status _ => modify fun c => { c with status := some status }
  | .responseBody _ => pure ()
  send (message.withRequestId rid)

/-- `_log`, with the time measured -/
def logAccess (scope : Scope) (durationMs : ℚ) : Asgi S Unit := do
  let c ← get
  inService (emit (accessRecord scope.method c.route c.status durationMs (c.world.facts.getD ∅)))

/-- `_facts.reset(facts_token)` -/
def resetFacts (outer : Option Facts) : Asgi S Unit :=
  modify fun c => { c with world := { c.world with facts := outer } }

/-- `facts.setdefault("result", "internal_error")`, and the status of a response that was
    never started. -/
def noteFailure : Asgi S Unit :=
  modify fun c =>
    { c with
      world := { c.world with
        facts := c.world.facts.map fun bag => bag.setdefault "result" (.str (py "internal_error")) }
      status := c.status.or (some 500) }

/-- `RequestContextMiddleware` -/
def requestContext (uuid : List (Fin 16)) (durationMs : ℚ) (app : AsgiApp S) : AsgiApp S :=
  fun scope receive send =>
    if scope.type ≠ .http then app scope receive send
    else do
      let rid := incomingRequestId scope uuid
      let outer := (← get).world.facts
      modify fun c =>
        { c with
          world := { c.world with facts := some ∅ }
          requestId := some rid
          status := none }
      tryCatch (app scope receive (sendWrapper rid send)) fun
        | .exception exc => do
            noteFailure
            logAccess scope durationMs
            -- the context stays bound for the handler outside
            throw (.exception exc)
        | raised => do
            logAccess scope durationMs
            resetFacts outer
            throw raised
      logAccess scope durationMs
      resetFacts outer

end ExtractApi
