import ExtractApi.KeylessPosts
import ExtractApi.LivePredictor

/-!
# Live runs

`live_predictor` against one service that serves nobody else.  The harness posts one fixture
after the other; the network decides what the harness hears of a post, and when the service
works on it.  A post that the harness has given up on can still be under way at the service,
next to the posts after it, or can be worked on later or never.

The service takes up a post at the world it finds then, and the effect of the post is in the
world from the moment it finishes.  In between, others may finish: `World.settle` adds to a
world what a request has added to the world it began in.
-/

namespace ExtractApi

open PythonText JsonValue RaisingProgram

variable {S M M' V : Type}

/-! ## Requests -/

/-- A request of the harness, as the service's server sees it. -/
structure HarnessRequest where
  scope : Scope
  body : List Byte
  isPost : IsPost scope

/-- `httpx` and the way to the service: the bytes of `json=…`, the path of the base URL and
    what is added to the headers on the way. -/
structure HttpClient where
  encodeJson : Json → List Byte
  path : PyStr
  rootPath : PyStr
  addedHeaders : List Byte → List (List Byte × List Byte)
  routed : ∀ headers,
    getRoutePath { method := py "POST", path := path, rootPath := rootPath, headers := headers } =
      EXTRACT_PATH
  keyless : ∀ body, ∀ header ∈ addedHeaders body, header.1 ≠ bytes "idempotency-key"

/-- `{"Authorization": f"Bearer {api_key}"} if api_key else {}` -/
def authorizationHeaders : Option (List Byte) → List (List Byte × List Byte)
  | some apiKey =>
      if apiKey = [] then [] else [(bytes "authorization", bytes "Bearer " ++ apiKey)]
  | none => []

/-- The `json=` argument; a preflighted fixture has the three fields. -/
def requestPayload (provider : PyStr) (fx : Record) : Json :=
  .obj [(py "doc_type", (lookupField fx "doc_type").getD .null),
    (py "schema_version", (lookupField fx "schema_version").getD .null),
    (py "content", (lookupField fx "content").getD .null), (py "provider", .str provider)]

theorem header_eq_none {scope : Scope} {name : String}
    (h : ∀ header ∈ scope.headers, header.1 ≠ bytes name) : scope.header name = none := by
  unfold Scope.header
  rw [Option.map_eq_none_iff, List.find?_eq_none]
  intro header hmem
  simpa using h header hmem

/-- The request of one `httpx.post`. -/
def HttpClient.request (client : HttpClient) (apiKey : Option (List Byte)) (payload : Json) :
    HarnessRequest where
  scope :=
    { method := py "POST"
      path := client.path
      rootPath := client.rootPath
      headers := authorizationHeaders apiKey ++ client.addedHeaders (client.encodeJson payload) }
  body := client.encodeJson payload
  isPost :=
    { http := rfl
      method := rfl
      path := client.routed _
      keyless := by
        have hkey : ∀ header ∈ authorizationHeaders apiKey,
            header.1 ≠ bytes "idempotency-key" := by
          unfold authorizationHeaders
          split
          · split
            · simp
            · rw [List.forall_mem_singleton]
              show bytes "authorization" ≠ bytes "idempotency-key"
              decide
          · simp
        unfold idempotencyKey
        rw [header_eq_none, Option.map_none]
        intro header hmem
        rcases List.mem_append.mp hmem with hmem | hmem
        · exact hkey header hmem
        · exact client.keyless _ header hmem }

/-- The messages of a body that arrives in chunks of the sizes, the rest last. -/
def bodyMessages : List ℕ → List Byte → List ReceiveMessage
  | [], body => [.httpRequest body false]
  | size :: sizes, body => .httpRequest (body.take size) true :: bodyMessages sizes (body.drop size)

/-! ## The service -/

/-- What a request finds, its client resolved from an environment. -/
structure LiveOccasion (S : Type) extends Occasion S where
  environ : Environ
  vendors : Vendors
  resolves : getClient = ExtractApi.getClient environ vendors

/-- A request that the service has taken up in the world `before`. -/
structure Flight (S : Type) where
  request : HarnessRequest
  incoming : List ReceiveMessage
  occasion : LiveOccasion S
  before : World S

/-- What has become of a post.  The service takes up a post once at most. -/
inductive Post (S : Type) where
  | undelivered
  | sent (request : HarnessRequest)
  | running (flight : Flight S)
  | answered (flight : Flight S)

/-- The service and the posts made to it, oldest first. -/
structure Live (S : Type) where
  world : World S
  posts : List (Post S) := []

/-- The service takes up post `n`, of whose messages `arrived` come through, or is done with
    it. -/
inductive ServiceStep (S : Type) where
  | start (n : ℕ) (sizes : List ℕ) (arrived : ℕ) (occasion : LiveOccasion S)
  | finish (n : ℕ)

/-- What a request added between `before` and `after`, added to the world.  A post without a
    key touches no stored reply. -/
def World.settle (w before after : World S) : World S :=
  { w with
    budget := w.budget.charge (after.budget.spent - before.budget.spent)
    log := w.log ++ after.log.drop before.log.length
    calls := w.calls ++ after.calls.drop before.calls.length }

section Service

variable (process : Process S M V)

/-- What the service makes of the request. -/
def Flight.connection (flight : Flight S) : Connection S :=
  handleRequest process flight.occasion.toOccasion flight.request.scope flight.incoming
    flight.before

/-- A step that does not apply to its post changes nothing. -/
def Live.step (live : Live S) : ServiceStep S → Live S
  | .start n sizes arrived occasion =>
      match live.posts[n]? with
      | some (.sent request) =>
          let flight : Flight S :=
            { request := request
              incoming := (bodyMessages sizes request.body).take arrived
              occasion := occasion
              before := live.world }
          { live with posts := live.posts.set n (.running flight) }
      | _ => live
  | .finish n =>
      match live.posts[n]? with
      | some (.running flight) =>
          { world := live.world.settle flight.before (flight.connection process).world
            posts := live.posts.set n (.answered flight) }
      | _ => live

def Live.run (live : Live S) (steps : List (ServiceStep S)) : Live S :=
  steps.foldl (Live.step process) live

end Service

/-! ## The harness -/

/-- The harness reads no cost in the response. -/
structure HttpResponse.NamesNoCost (r : HttpResponse) : Prop where
  known : knownCost r = none
  validation : responseValidationCost r = none

/-- The response is none of the service's: it bears no code of the service and names no
    cost. -/
structure HttpResponse.IsForeign (r : HttpResponse) : Prop extends r.NamesNoCost where
  uncoded : ∀ code : ErrorCode, r.errorField ≠ some (.str code.value)

/-- How a post ends for the harness.  The network forges no answer of the service and shows none
    of another post. -/
inductive Ending where
  /-- the connection was not made, and nothing is delivered -/
  | connectError
  | connectTimeout
  /-- a gateway answers by itself, and nothing is delivered -/
  | intercepted (response : HttpResponse) (costless : response.NamesNoCost)
  /-- any other `RequestError`: the request is delivered, or it is lost -/
  | requestError (className : PyStr)
  /-- a page that is none of the service's, in place of its answer -/
  | page (response : HttpResponse) (foreign : response.IsForeign)
  /-- the service's answer, or a timeout -/
  | waited

/-- What happens from a post until the harness has its outcome. -/
structure Delivery (S : Type) where
  steps : List (ServiceStep S)
  ending : Ending

/-- The service takes up the post, is done with it, and the harness waits. -/
def directly (sizes : List ℕ) (arrived : ℕ) (occasion : LiveOccasion S) (n : ℕ) : Delivery S where
  steps := [.start n sizes arrived occasion, .finish n]
  ending := .waited

/-- The response in the messages that were sent. -/
def responseOf : List SendMessage → Option HttpResponse
  | [.responseStart status headers, .responseBody body] =>
      some { status := status, headers := headers, body := body }
  | _ => none

@[simp] theorem responseOf_messages (r : HttpResponse) : responseOf r.messages = some r := rfl

/-- The post, as it is made. -/
def Ending.posted (ending : Ending) (request : HarnessRequest) : Post S :=
  match ending with
  | .connectError | .connectTimeout | .intercepted _ _ => .undelivered
  | _ => .sent request

/-- What `httpx.post` returns or raises, given what has become of the post. -/
def Ending.received (process : Process S M V) (ending : Ending) (post : Option (Post S)) :
    Except TransportError HttpResponse :=
  match ending, post with
  | .connectError, _ => .error .connectError
  | .connectTimeout, _ => .error .connectTimeout
  | .intercepted response _, _ => .ok response
  | .requestError className, _ => .error (.requestError className)
  | .page response _, _ => .ok response
  | .waited, some (.answered flight) =>
      match responseOf (flight.connection process).sent with
      | some response => .ok response
      | none => .error (.requestError (py "RemoteProtocolError"))
  | .waited, _ => .error (.requestError (py "ReadTimeout"))

section Predictor

variable (process : Process S M V) (libs : HarnessLibs M') (client : HttpClient)
  (apiKey : Option (List Byte)) (provider : PyStr) (network : ℕ → Delivery S)

/-- The service when the predictor returns. -/
def Live.post (live : Live S) (fx : Record) : Live S :=
  let delivery := network live.posts.length
  let request := client.request apiKey (requestPayload provider fx)
  Live.run process { live with posts := live.posts ++ [delivery.ending.posted request] }
    delivery.steps

/-- `live_predictor`: `network n` is what happens around post number `n`. -/
def livePredictor : Predictor (Live S) := fun fx live =>
  let after := live.post process client apiKey provider network fx
  (predictOutcome libs fx ((network live.posts.length).ending.received process
    after.posts[live.posts.length]?), after)

end Predictor

/-! ## What a step can do -/

/-- What a post can turn into. -/
inductive Post.Next : Post S → Post S → Prop
  | start (flight : Flight S) : Next (.sent flight.request) (.running flight)
  | finish (flight : Flight S) : Next (.running flight) (.answered flight)

/-- Nothing more can come of the post. -/
def Post.IsFinal : Post S → Prop
  | .undelivered | .answered _ => True
  | .sent _ | .running _ => False

theorem Post.IsFinal.not_next {post post' : Post S} (hfinal : post.IsFinal) :
    ¬ post.Next post' := by
  intro hnext
  cases hnext with
  | start flight => exact hfinal
  | finish flight => exact hfinal

/-- The occasions at which the service works on the post have `Q`. -/
def Post.Uses (Q : LiveOccasion S → Prop) : Post S → Prop
  | .running flight | .answered flight => Q flight.occasion
  | .undelivered | .sent _ => True

def ServiceStep.Uses (Q : LiveOccasion S → Prop) : ServiceStep S → Prop
  | .start _ _ _ occasion => Q occasion
  | .finish _ => True

section Steps

variable {process : Process S M V}

/-- What the post has added to the budget. -/
def Post.charge (process : Process S M V) : Post S → ℚ
  | .answered flight =>
      (flight.connection process).world.budget.spent - flight.before.budget.spent
  | _ => 0

variable (process) in
/-- **A step changes nothing, or takes one post one step further.** -/
theorem Live.step_cases (live : Live S) (step : ServiceStep S) :
    live.step process step = live ∨
      ∃ n post post', live.posts[n]? = some post ∧ post.Next post' ∧
        (live.step process step).posts = live.posts.set n post' ∧
        (live.step process step).world.budget.spent =
          live.world.budget.spent + (post'.charge process - post.charge process) ∧
        ∀ Q : LiveOccasion S → Prop, step.Uses Q → post.Uses Q → post'.Uses Q := by
  rcases step with ⟨n, sizes, arrived, occasion⟩ | n
  · rcases hpost : live.posts[n]? with _ | _ | request | flight | flight
    · exact Or.inl (by simp [Live.step, hpost])
    · exact Or.inl (by simp [Live.step, hpost])
    · let flight : Flight S :=
        { request := request
          incoming := (bodyMessages sizes request.body).take arrived
          occasion := occasion
          before := live.world }
      have hstep : live.step process (.start n sizes arrived occasion) =
          { live with posts := live.posts.set n (.running flight) } := by
        simp [Live.step, hpost, flight]
      refine Or.inr ⟨n, _, _, hpost, .start flight, ?_, ?_, fun Q hstart _ => hstart⟩
      · rw [hstep]
      · rw [hstep]
        simp [Post.charge]
    · exact Or.inl (by simp [Live.step, hpost])
    · exact Or.inl (by simp [Live.step, hpost])
  · rcases hpost : live.posts[n]? with _ | _ | request | flight | flight
    · exact Or.inl (by simp [Live.step, hpost])
    · exact Or.inl (by simp [Live.step, hpost])
    · exact Or.inl (by simp [Live.step, hpost])
    · have hstep : live.step process (.finish n) =
          { world := live.world.settle flight.before (flight.connection process).world
            posts := live.posts.set n (.answered flight) } := by
        simp [Live.step, hpost]
      refine Or.inr ⟨n, _, _, hpost, .finish flight, ?_, ?_, fun Q _ hflight => hflight⟩
      · rw [hstep]
      · rw [hstep]
        simp [Post.charge, World.settle, BudgetGuard.charge]
    · exact Or.inl (by simp [Live.step, hpost])

theorem Live.length_step (live : Live S) (step : ServiceStep S) :
    (live.step process step).posts.length = live.posts.length := by
  rcases live.step_cases process step with h | ⟨n, post, post', -, -, hposts, -⟩
  · rw [h]
  · rw [hposts, List.length_set]

theorem Live.length_run (steps : List (ServiceStep S)) :
    ∀ live : Live S, (live.run process steps).posts.length = live.posts.length := by
  induction steps with
  | nil =>
    intro live
    rfl
  | cons step steps ih =>
    intro live
    exact (ih _).trans (live.length_step step)

theorem Live.step_of_final {live : Live S} {n : ℕ} {post : Post S}
    (hpost : live.posts[n]? = some post) (hfinal : post.IsFinal) (step : ServiceStep S) :
    (live.step process step).posts[n]? = some post := by
  rcases live.step_cases process step with
    h | ⟨m, before, after, hbefore, hnext, hposts, -⟩
  · rw [h, hpost]
  · have hne : m ≠ n := by
      rintro rfl
      rw [hpost, Option.some.injEq] at hbefore
      subst hbefore
      exact hfinal.not_next hnext
    rw [hposts, List.getElem?_set_ne hne, hpost]

theorem Live.run_of_final {n : ℕ} {post : Post S} (hfinal : post.IsFinal)
    (steps : List (ServiceStep S)) :
    ∀ live : Live S, live.posts[n]? = some post →
      (live.run process steps).posts[n]? = some post := by
  induction steps with
  | nil =>
    intro live hpost
    exact hpost
  | cons step steps ih =>
    intro live hpost
    exact ih _ (live.step_of_final hpost hfinal step)

end Steps

/-! ## A sample run -/

/-- A harness whose every body is the sample body. -/
def sampleHttpClient : HttpClient where
  encodeJson _ := sampleBody
  path := EXTRACT_PATH
  rootPath := []
  addedHeaders _ := []
  routed _ := rfl
  keyless _ := by simp

/-- An environment for OpenAI, past the gateway. -/
def sampleEnviron : Environ
  | "GATEWAY_BYPASS" => some (py "1")
  | "OPENAI_API_KEY" => some (py "sk")
  | "OPENAI_MODEL" => some (py "gpt")
  | "OPENAI_PRICE_IN_PER_M" => some (py "1")
  | "OPENAI_PRICE_OUT_PER_M" => some (py "1")
  | _ => none

/-- The number that ASCII digits write. -/
def decimalValue (raw : PyStr) : ℕ := raw.foldl (fun n c => 10 * n + (c.val - 48)) 0

/-- Vendors that answer every call with the invoice, for one dollar. -/
def sampleVendors : Vendors where
  openai _ _ := .returned (sampleResult invoiceText)
  anthropic _ _ := .returned (sampleResult invoiceText)
  finiteFloat raw := if isAsciiDecimal raw then some (decimalValue raw) else none
  int raw := if isAsciiDecimal raw then some (decimalValue raw) else none
  elapsedMs latencyMs _ := latencyMs

def sampleLiveOccasion : LiveOccasion Unit where
  toOccasion := sampleOccasion { sampleSurroundings invoiceText with
    getClient := getClient sampleEnviron sampleVendors }
  environ := sampleEnviron
  vendors := sampleVendors
  resolves := rfl

end ExtractApi
