import ExtractApi.RequestReply

/-!
# Requests that reach the extract endpoint

What has to hold of a request for its body to be read whole by the endpoint, and how the
client is answered then.
-/

namespace ExtractApi

open PythonText JsonValue RaisingProgram

variable {S M V : Type}

/-- The endpoint is run on the body. -/
structure Reaches (process : Process S M V) (scope : Scope) (incoming : List ReceiveMessage)
    (body : List Byte) : Prop where
  guarded : isOpenPath scope = false
  authenticated : presentsKey process.libs.sha256 process.environment.keyHashes scope = true
  accepted : declaresOver process.environment.maxBodyBytes scope = false
  reads : readsBody scope = true
  complete : readMessages (some process.environment.maxBodyBytes) [] incoming = .complete body

theorem reply_of_reaches {process : Process S M V} {scope : Scope}
    {incoming : List ReceiveMessage} {body : List Byte} (occasion : Occasion S)
    (h : Reaches process scope incoming body) (w : World S) :
    ∃ w', Quietly w w' ∧ (reply process occasion scope incoming).run w =
      (tryCatch (extractEndpoint process occasion scope body) handleException).run w' := by
  obtain ⟨w', hquietly, hrun⟩ :=
    reply_of_authenticated occasion h.guarded h.authenticated incoming w
  obtain ⟨route, hrouting, hextract⟩ := readsBody_eq_true_iff.mp h.reads
  refine ⟨w', hquietly, ?_⟩
  rw [hrun]
  simp [capped, h.accepted, h.complete, handled, dispatch, hrouting, hextract, endpointReply,
    extractReply]

theorem finalState_extractEndpoint {process : Process S M V} {occasion : Occasion S}
    {scope : Scope} {body : List Byte} {request : ExtractRequest}
    (hparse : parseBody process.framework scope body = .ok request) (w : World S) :
    finalState ((extractEndpoint process occasion scope body).run w) =
      finalState ((extract process.libs occasion.toSurroundings request
        (idempotencyKey scope)).run w) := by
  unfold extractEndpoint
  rw [hparse]
  simp only [liftExcept, EStateM.run_bind, EStateM.run_pure]
  rcases (extract process.libs occasion.toSurroundings request (idempotencyKey scope)).run w with
    ⟨answer, w'⟩ | ⟨exc, w'⟩
  · exact liftExcept_keeps id (renderExtract answer) w'
  · rfl

/-! ## Requests that do not reach the flow -/

section Unreached

variable {τ : Type} {f : World S → τ} {process : Process S M V} {scope : Scope}

/-- The endpoint is not run on a valid body. -/
theorem handled_keeps (hquiet : Quiet f) (occasion : Occasion S) (body : BodyRead)
    (hprobe : readsBody scope = false → Keeps f (readyz process occasion))
    (hnone : readsBody scope = true → ∀ content request, body = .complete content →
      parseBody process.framework scope content ≠ .ok request) :
    Keeps f (handled process occasion scope body) := by
  refine Keeps.tryCatch ?_ hquiet.handleException
  unfold dispatch
  unfold readsBody at hnone hprobe
  rcases hrouting : routing scope with route | route | _ | _
  · simp only [hrouting, decide_eq_true_eq, decide_eq_false_iff_not] at hnone hprobe ⊢
    rcases hendpoint : route.endpoint with _ | _ | _ | _
    · show Keeps f healthz
      exact liftExcept_keeps f _
    · exact hprobe (by simp [hendpoint])
    · rcases body with content | _ | _
      · rcases hparse : parseBody process.framework scope content with exc | request
        · intro w
          simp [endpointReply, extractReply, extractEndpoint, liftExcept, hparse]
        · exact absurd hparse (hnone hendpoint content request rfl)
      · exact Keeps.throw _
      · exact Keeps.throw _
    · exact Keeps.pure _
  · exact Keeps.throw _
  · exact Keeps.pure _
  · exact Keeps.throw _

theorem readsBody_of_open (h : isOpenPath scope = true) : readsBody scope = false := by
  have hcandidates : ∃ route, (ROUTES.filter fun route =>
      route.matchesPath (getRoutePath scope)) = [route] ∧ route.endpoint ≠ .extract := by
    have hmem : getRoutePath scope ∈ OPEN_PATHS := by simpa [isOpenPath] using h
    simp only [OPEN_PATHS, List.mem_cons, List.not_mem_nil, or_false] at hmem
    rcases hmem with hpath | hpath <;> rw [hpath]
    · exact ⟨apiRoute "/healthz" "GET" .healthz, by decide +kernel, by decide⟩
    · exact ⟨apiRoute "/readyz" "GET" .readyz, by decide +kernel, by decide⟩
  obtain ⟨route, hroute, hendpoint⟩ := hcandidates
  unfold readsBody routing
  rw [hroute]
  by_cases hmethod : scope.method ∈ route.methods <;> simp [hmethod, hendpoint]

/-- **What the guards, the router and the handlers keep, a request keeps that does not reach
    the flow.** -/
theorem reply_keeps {incoming : List ReceiveMessage} (hquiet : Quiet f) (occasion : Occasion S)
    (hprobe : readsBody scope = false → Keeps f (readyz process occasion))
    (hnone : ∀ body request, Reaches process scope incoming body →
      parseBody process.framework scope body ≠ .ok request) :
    Keeps f (reply process occasion scope incoming) := by
  have hnote : Keeps f (noteExtractRoute (S := S) scope) := by
    unfold noteExtractRoute
    split
    · exact hquiet.note (by simp)
    · exact Keeps.pure _
  unfold reply
  by_cases hopen : isOpenPath scope = true
  · rw [if_pos hopen]
    apply handled_keeps hquiet occasion _ hprobe
    intro hreads
    simp [readsBody_of_open hopen] at hreads
  · rw [if_neg hopen]
    apply Keeps.bind hnote
    intro _
    split
    · exact hquiet.errorResponse _ _ _
    · split
      · rename_i hauth
        unfold capped
        simp only
        split
        · exact hquiet.errorResponse _ _ _
        · split
          · exact hquiet.errorResponse _ _ _
          · rename_i hdeclared _
            apply handled_keeps hquiet occasion _ hprobe
            intro hreads body request hcomplete
            apply hnone body request
            exact ⟨by simpa using hopen, hauth, by simpa using hdeclared, hreads, hcomplete⟩
      · exact hquiet.errorResponse _ _ _

end Unreached

/-! ## Bodies in chunks -/

/-- An authenticated `POST /v1/extract` that declares no length over the cap. -/
structure PostsExtract (process : Process S M V) (scope : Scope) : Prop where
  http : scope.type = .http
  method : scope.method = py "POST"
  path : getRoutePath scope = EXTRACT_PATH
  authenticated : presentsKey process.libs.sha256 process.environment.keyHashes scope = true
  accepted : declaresOver process.environment.maxBodyBytes scope = false

/-- The messages of a body that is sent in chunks. -/
def chunkMessages : List Byte → List (List Byte) → List ReceiveMessage
  | chunk, [] => [.httpRequest chunk false]
  | chunk, next :: chunks => .httpRequest chunk true :: chunkMessages next chunks

/-- A body within the cap is read whole, however it is split. -/
theorem readMessages_chunkMessages {limit : ℕ} (chunks : List (List Byte)) :
    ∀ (body chunk : List Byte), (body ++ chunk ++ chunks.flatten).length ≤ limit →
      readMessages (some limit) body (chunkMessages chunk chunks) =
        .complete (body ++ chunk ++ chunks.flatten) := by
  induction chunks with
  | nil =>
    intro body chunk hlimit
    have hfits : ¬ limit < (body ++ chunk).length := by simpa using hlimit
    simp only [chunkMessages, readMessages, Option.any_some, decide_eq_true_eq, if_neg hfits,
      Bool.false_eq_true, if_false, List.flatten_nil, List.append_nil]
  | cons next chunks ih =>
    intro body chunk hlimit
    have hfits : ¬ limit < (body ++ chunk).length := by
      simp only [List.flatten_cons, List.length_append] at hlimit ⊢
      omega
    have hrest := ih (body ++ chunk) next (by simpa [List.append_assoc] using hlimit)
    simp only [chunkMessages, readMessages, Option.any_some, decide_eq_true_eq, if_neg hfits,
      if_true, hrest, List.flatten_cons, List.append_assoc]

theorem isOpenPath_of_extract {scope : Scope} (h : getRoutePath scope = EXTRACT_PATH) :
    isOpenPath scope = false := by
  unfold isOpenPath
  rw [h]
  decide +kernel

theorem routing_of_extract {scope : Scope} (hmethod : scope.method = py "POST")
    (hpath : getRoutePath scope = EXTRACT_PATH) :
    routing scope = .endpoint (apiRoute "/v1/extract" "POST" .extract) := by
  have hcandidates : (ROUTES.filter fun route => route.matchesPath EXTRACT_PATH) =
      [apiRoute "/v1/extract" "POST" .extract] := by decide +kernel
  unfold routing
  rw [hpath, hcandidates, hmethod]
  simp [apiRoute]

theorem readsBody_of_extract {scope : Scope} (hmethod : scope.method = py "POST")
    (hpath : getRoutePath scope = EXTRACT_PATH) : readsBody scope = true :=
  readsBody_eq_true_iff.mpr ⟨_, routing_of_extract hmethod hpath, rfl⟩

theorem PostsExtract.reaches {process : Process S M V} {scope : Scope}
    (hpost : PostsExtract process scope) {chunk : List Byte} {chunks : List (List Byte)}
    (hcap : (chunk ++ chunks.flatten).length ≤ process.environment.maxBodyBytes) :
    Reaches process scope (chunkMessages chunk chunks) (chunk ++ chunks.flatten) where
  guarded := isOpenPath_of_extract hpost.path
  authenticated := hpost.authenticated
  accepted := hpost.accepted
  reads := readsBody_of_extract hpost.method hpost.path
  complete := readMessages_chunkMessages chunks [] chunk hcap

/-! ## The answer -/

theorem sent_of_reply {process : Process S M V} {scope : Scope} {occasion : Occasion S}
    {incoming : List ReceiveMessage} {w : World S} {a : Answer} (hhttp : scope.type = .http)
    (hreply : Delivers a
      ((reply process occasion scope incoming).run { w with facts := some ∅ })) :
    ∃ response : HttpResponse,
      (handleRequest process occasion scope incoming w).sent = response.messages ∧
        response.Carries a := by
  have hspec := handleRequest_spec process occasion hhttp incoming w
  rcases hrun : (reply process occasion scope incoming).run { w with facts := some ∅ } with
    ⟨r, w'⟩ | ⟨exc, w'⟩
  · rw [hrun] at hspec hreply
    obtain ⟨route, hsent, -⟩ := hspec
    exact ⟨_, hsent, hreply⟩
  · rw [hrun] at hspec hreply
    obtain ⟨route, r, -, hinternal, hsent⟩ := hspec
    have hanswer : a = internalAnswer := hreply
    exact ⟨r, hsent, hanswer ▸ hinternal⟩

theorem sent_of_raised {process : Process S M V} {scope : Scope} {occasion : Occasion S}
    {incoming : List ReceiveMessage} {w w' : World S} {endpoint : Service S HttpResponse}
    {exc : PyExc} (hhttp : scope.type = .http)
    (hreply : (reply process occasion scope incoming).run { w with facts := some ∅ } =
      (tryCatch endpoint handleException).run w')
    (hraised : answerOf (endpoint.run w') = .error exc) :
    ∃ response : HttpResponse,
      (handleRequest process occasion scope incoming w).sent = response.messages ∧
        response.Carries (exceptionAnswer exc) := by
  apply sent_of_reply hhttp
  rw [hreply, EStateM.run_tryCatch]
  rcases hrun : endpoint.run w' with ⟨r, u⟩ | ⟨exc', u⟩
  · rw [hrun] at hraised
    cases hraised
  · rw [hrun, answerOf, Except.error.injEq] at hraised
    subst hraised
    exact delivers_of_ensures (handleException_carries exc') u

theorem renderExtract_eq {answer : ExtractResponse × Option PyStr}
    (hheader : ∀ storeId, answer.2 = some storeId → isLatin1 storeId = true) :
    if answer.1.encodable then
      ∃ headers, renderExtract answer =
        .ok { status := 200, headers := headers, body := some answer.1.toJson }
    else renderExtract answer = .error unicodeEncodeError := by
  have hname : isLatin1 (py "X-Idempotency-Store") = true := by decide
  unfold renderExtract jsonResponse ExtractResponse.encodable
  cases answer.1.toJson.encodable with
  | false => simp
  | true =>
    cases hstore : answer.2 with
    | none => simp
    | some storeId => simp [hname, hheader storeId hstore]

/-- **The client of a request that reaches the flow is sent what the flow answers.** -/
theorem sent_answers {process : Process S M V} {occasion : Occasion S} {scope : Scope}
    {incoming : List ReceiveMessage} {w w' : World S} {body : List Byte}
    {request : ExtractRequest} (hhttp : scope.type = .http)
    (hreply : (reply process occasion scope incoming).run { w with facts := some ∅ } =
      (tryCatch (extractEndpoint process occasion scope body) handleException).run w')
    (hparse : parseBody process.framework scope body = .ok request) :
    ∃ response : HttpResponse,
      (handleRequest process occasion scope incoming w).sent = response.messages ∧
        response.Carries (httpAnswer ((answerOf ((extract process.libs occasion.toSurroundings
          request (idempotencyKey scope)).run w')).map Prod.fst)) := by
  have hheader := extract_header process.libs occasion.toSurroundings request
    (idempotencyKey scope) w'
  -- what the endpoint raises, or fails to render, goes to the exception handlers
  cases hrun : (extract process.libs occasion.toSurroundings request
      (idempotencyKey scope)).run w' with
  | error exc u =>
    have hraised : answerOf ((extractEndpoint process occasion scope body).run w') =
        .error exc := by
      simp [extractEndpoint, liftExcept, hparse, hrun, answerOf]
    obtain ⟨response, hsent, hcarries⟩ := sent_of_raised hhttp hreply hraised
    exact ⟨response, hsent, hcarries⟩
  | ok answer u =>
    rw [hrun] at hheader
    have hrender := renderExtract_eq hheader
    cases hencodable : answer.1.encodable with
    | false =>
      rw [hencodable, if_neg Bool.false_ne_true] at hrender
      have hraised : answerOf ((extractEndpoint process occasion scope body).run w') =
          .error unicodeEncodeError := by
        simp [extractEndpoint, liftExcept, hparse, hrun, answerOf, hrender]
      obtain ⟨response, hsent, hcarries⟩ := sent_of_raised hhttp hreply hraised
      refine ⟨response, hsent, ?_⟩
      rw [answerOf, Except.map, httpAnswer, hencodable, if_neg Bool.false_ne_true]
      exact hcarries
    | true =>
      rw [hencodable, if_pos rfl] at hrender
      obtain ⟨headers, hrender⟩ := hrender
      have hreturned : (extractEndpoint process occasion scope body).run w' =
          .ok { status := 200, headers := headers, body := some answer.1.toJson } u := by
        simp [extractEndpoint, liftExcept, hparse, hrun, hrender]
      apply sent_of_reply hhttp
      rw [hreply, EStateM.run_tryCatch, hreturned]
      simp only [answerOf, Except.map, httpAnswer, hencodable, if_true]
      exact ⟨rfl, rfl⟩

end ExtractApi
