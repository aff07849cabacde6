import ExtractApi.RequestReply

/-!
# One code for every response that is no 200

Responses leave the application from the guards, the router, the registered handlers and
the catch-all.  All of them are coded but one: the redirect that Starlette's router sends
for a path that a trailing slash separates from a registered one.  `sent_coded_iff` says
when a request gets that response.
-/

namespace ExtractApi

open PythonText JsonValue RaisingProgram

variable {S M V : Type}

/-! ## The parts -/

theorem jsonResponse_ensures {status : ℕ} {content : Json} {headers : List (PyStr × PyStr)} :
    Ensures (fun r => r.status = status) (fun _ => True)
      (liftExcept (jsonResponse status content headers) : Service S HttpResponse) := by
  cases h : jsonResponse status content headers with
  | error exc => exact Ensures.throw trivial
  | ok r =>
    refine Ensures.pure ?_
    rw [jsonResponse_eq_ok h]

section

variable (process : Process S M V) (occasion : Occasion S) (scope : Scope)

theorem readyz_ensures :
    Ensures (fun r => r.status = 200) (fun _ => True) (readyz process occasion) :=
  Ensures.bind (Ensures.trivial _) fun _ _ => jsonResponse_ensures

theorem extractEndpoint_ensures (body : List Byte) :
    Ensures (fun r => r.status = 200) (fun _ => True)
      (extractEndpoint process occasion scope body) :=
  Ensures.bind (Ensures.trivial _) fun _ _ =>
    Ensures.bind (Ensures.trivial _) fun _ _ => jsonResponse_ensures

theorem endpointReply_ensures (body : BodyRead) (endpoint : Endpoint) :
    Ensures (fun r => r.status = 200) (fun _ => True)
      (endpointReply process occasion scope body endpoint) := by
  cases endpoint with
  | healthz =>
    show Ensures _ _ healthz
    exact jsonResponse_ensures
  | readyz => exact readyz_ensures process occasion
  | documentation => exact Ensures.pure rfl
  | extract =>
    cases body with
    | complete body => exact extractEndpoint_ensures process occasion scope body
    | clientGone => exact Ensures.throw trivial
    | tooLarge => exact Ensures.throw trivial

variable {scope}

theorem routing_eq_redirect_iff : routing scope = .redirect ↔ isSlashVariant scope = true := by
  unfold routing
  simp only
  cases hfind : (ROUTES.filter fun route => route.matchesPath (getRoutePath scope)).find?
      fun route => decide (scope.method ∈ route.methods) with
  | some route =>
    have hmem := List.mem_filter.mp (List.mem_of_find?_eq_some hfind)
    have hregistered : registered (getRoutePath scope) = true :=
      List.any_eq_true.mpr ⟨route, hmem.1, hmem.2⟩
    simp [isSlashVariant, hregistered]
  | none =>
    cases hcandidates : ROUTES.filter fun route => route.matchesPath (getRoutePath scope) with
    | nil => by_cases hslash : isSlashVariant scope = true <;> simp [hslash]
    | cons route routes =>
      have hmem := List.mem_filter.mp (hcandidates ▸ List.mem_cons_self :
        route ∈ ROUTES.filter fun route => route.matchesPath (getRoutePath scope))
      have hregistered : registered (getRoutePath scope) = true :=
        List.any_eq_true.mpr ⟨route, hmem.1, hmem.2⟩
      simp [isSlashVariant, hregistered]

/-- Inside the handlers, everything but a redirect is coded. -/
theorem handled_coded (hslash : isSlashVariant scope = false) (body : BodyRead) :
    Ensures Coded (fun _ => True) (handled process occasion scope body) := by
  refine Ensures.tryCatch (R := fun _ => True) ?_ fun exc _ => handleException_coded exc
  unfold dispatch
  cases hrouting : routing scope with
  | endpoint route =>
    exact (endpointReply_ensures process occasion scope body route.endpoint).mono
      (fun _ hstatus => Or.inl hstatus) fun _ _ => trivial
  | methodNotAllowed route => exact Ensures.throw trivial
  | redirect => simp [routing_eq_redirect_iff.mp hrouting] at hslash
  | notFound => exact Ensures.throw trivial

/-- A request that is not redirected gets a coded response, if it gets one here. -/
theorem reply_coded (incoming : List ReceiveMessage)
    (h : isSlashVariant scope = false ∨
      isOpenPath scope = false ∧ declaresOver process.environment.maxBodyBytes scope = true) :
    Ensures Coded (fun _ => True) (reply process occasion scope incoming) := by
  have hrefused : Ensures Coded (fun _ => True)
      (bodyTooLargeResponse process.environment.maxBodyBytes : Service S HttpResponse) :=
    errorResponse_coded (get?_codeBody_error _ _) _
  unfold reply
  by_cases hopen : isOpenPath scope = true
  · rw [if_pos hopen]
    refine handled_coded process occasion (h.resolve_right fun hover => ?_) _
    simp [hopen] at hover
  · rw [if_neg hopen]
    apply Ensures.bind (Ensures.trivial _)
    intro _ _
    split
    · exact errorResponse_coded (get?_codeBody_error _ _) _
    · split
      · unfold capped
        simp only
        split
        · exact hrefused
        · split
          · exact hrefused
          · rename_i hdeclared _
            exact handled_coded process occasion (h.resolve_right fun hover =>
              hdeclared hover.2) _
      · exact errorResponse_coded (get?_codeBody_error _ _) _

end

/-! ## The response that is sent -/

/-- The request reaches the router with a path that it redirects. -/
structure Redirected (process : Process S M V) (scope : Scope) : Prop where
  slashVariant : isSlashVariant scope = true
  accepted : declaresOver process.environment.maxBodyBytes scope = false

theorem coded_of_carries_internal {r : HttpResponse} (h : r.Carries internalAnswer) : Coded r := by
  obtain ⟨hstatus, hbody⟩ := h
  refine Or.inr ⟨.internalError, ?_, hstatus⟩
  rw [HttpResponse.errorField, hbody]
  exact get?_codeBody_error .internalError (.str (py "internal error"))

theorem coded_withRequestId {rid : PyStr} {r : HttpResponse} :
    Coded (r.withRequestId rid) ↔ Coded r := Iff.rfl

theorem redirectResponse_not_coded (process : Process S M V) (scope : Scope) :
    ¬ Coded (redirectResponse process scope) := by
  rintro (hstatus | ⟨code, hbody, -⟩)
  · cases hstatus
  · cases hbody

theorem isSlashVariant_of_open {scope : Scope} (h : isOpenPath scope = true) :
    isSlashVariant scope = false := by
  have hregistered : registered (getRoutePath scope) = true := by
    have hmem : getRoutePath scope ∈ OPEN_PATHS := by simpa [isOpenPath] using h
    simp only [OPEN_PATHS, List.mem_cons, List.not_mem_nil, or_false] at hmem
    rcases hmem with hpath | hpath <;> rw [hpath] <;> decide +kernel
  simp [isSlashVariant, hregistered]

/-- An authenticated request for a slash variant is redirected. -/
theorem reply_of_redirected {process : Process S M V} {scope : Scope} (occasion : Occasion S)
    (hauth : presentsKey process.libs.sha256 process.environment.keyHashes scope = true)
    (h : Redirected process scope) (incoming : List ReceiveMessage) (w : World S) :
    ∃ w', (reply process occasion scope incoming).run w =
      .ok (redirectResponse process scope) w' := by
  have hopen : isOpenPath scope = false := by
    by_contra hopen
    rw [Bool.not_eq_false] at hopen
    exact absurd h.slashVariant (by simp [isSlashVariant_of_open hopen])
  obtain ⟨w', -, hrun⟩ := reply_of_authenticated occasion hopen hauth incoming w
  have hrouting := routing_eq_redirect_iff.mpr h.slashVariant
  have hreads : readsBody scope = false := by simp [readsBody, hrouting]
  exact ⟨w', by simp [hrun, capped, h.accepted, hreads, handled, dispatch, hrouting]⟩

theorem sent_of_redirected {process : Process S M V} {scope : Scope} (occasion : Occasion S)
    (hhttp : scope.type = .http)
    (hauth : presentsKey process.libs.sha256 process.environment.keyHashes scope = true)
    (h : Redirected process scope) (incoming : List ReceiveMessage) (w : World S) :
    (handleRequest process occasion scope incoming w).sent =
      ((redirectResponse process scope).withRequestId
        (incomingRequestId scope occasion.uuid)).messages := by
  have hspec := handleRequest_spec process occasion hhttp incoming w
  obtain ⟨w', hreply⟩ := reply_of_redirected occasion hauth h incoming { w with facts := some ∅ }
  rw [hreply] at hspec
  obtain ⟨route, hsent, -⟩ := hspec
  exact hsent

/-- **Every authenticated http request gets one response, and it is coded exactly when the
    request is not redirected.** -/
theorem sent_coded_iff (process : Process S M V) (occasion : Occasion S) (scope : Scope)
    (incoming : List ReceiveMessage) (w : World S) (hhttp : scope.type = .http)
    (hauth : presentsKey process.libs.sha256 process.environment.keyHashes scope = true) :
    ∃ response : HttpResponse,
      (handleRequest process occasion scope incoming w).sent = response.messages ∧
        (Coded response ↔ ¬ Redirected process scope) := by
  by_cases hredirected : Redirected process scope
  · refine ⟨_, sent_of_redirected occasion hhttp hauth hredirected incoming w,
      iff_of_false ?_ (not_not.mpr hredirected)⟩
    rw [coded_withRequestId]
    exact redirectResponse_not_coded process scope
  · have hnot : isSlashVariant scope = false ∨
        isOpenPath scope = false ∧ declaresOver process.environment.maxBodyBytes scope = true := by
      cases hslash : isSlashVariant scope with
      | false => exact Or.inl rfl
      | true =>
        refine Or.inr ⟨?_, ?_⟩
        · by_contra hopen
          rw [Bool.not_eq_false] at hopen
          simp [isSlashVariant_of_open hopen] at hslash
        · by_contra hover
          rw [Bool.not_eq_true] at hover
          exact hredirected ⟨hslash, hover⟩
    have hspec := handleRequest_spec process occasion hhttp incoming w
    have hcoded := reply_coded process occasion incoming hnot { w with facts := some ∅ }
    cases hreply : (reply process occasion scope incoming).run { w with facts := some ∅ } with
    | ok r w' =>
      rw [hreply] at hspec hcoded
      obtain ⟨route, hsent, -⟩ := hspec
      exact ⟨_, hsent, iff_of_true (coded_withRequestId.mpr hcoded) hredirected⟩
    | error exc w' =>
      rw [hreply] at hspec
      obtain ⟨route, r, -, hcarries, hsent⟩ := hspec
      exact ⟨r, hsent, iff_of_true (coded_of_carries_internal hcarries) hredirected⟩

theorem sent_coded_iff_extract :
    ∃ response : HttpResponse,
      (handleRequest sampleProcess (sampleOccasion (sampleSurroundings invoiceText))
          (sampleScope "POST" "/v1/extract" []) [.httpRequest sampleBody false]
          (freshWorld () 10)).sent = response.messages ∧
        (Coded response ↔
          ¬ Redirected (S := Unit) sampleProcess (sampleScope "POST" "/v1/extract" [])) :=
  sent_coded_iff sampleProcess _ (sampleScope "POST" "/v1/extract" []) _ _ rfl
    (by decide +kernel)

/-- An authenticated `GET /healthz/` is answered with a 307 that names no code. -/
theorem redirect_has_no_code :
    presentsKey (sampleProcess (S := Unit)).libs.sha256
        (sampleProcess (S := Unit)).environment.keyHashes
        (sampleScope "GET" "/healthz/" []) = true ∧
      ∃ response : HttpResponse,
        (handleRequest sampleProcess (sampleOccasion (sampleSurroundings invoiceText))
          (sampleScope "GET" "/healthz/" []) [] (freshWorld () 10)).sent = response.messages ∧
        response.status = 307 ∧ ¬ Coded response := by
  have hauth : presentsKey (sampleProcess (S := Unit)).libs.sha256
      (sampleProcess (S := Unit)).environment.keyHashes
      (sampleScope "GET" "/healthz/" []) = true := by decide +kernel
  have hredirected : Redirected (S := Unit) sampleProcess (sampleScope "GET" "/healthz/" []) :=
    ⟨by decide +kernel, by decide +kernel⟩
  exact ⟨hauth, _, sent_of_redirected _ rfl hauth hredirected _ _, rfl,
    redirectResponse_not_coded (S := Unit) sampleProcess (sampleScope "GET" "/healthz/" [])⟩

end ExtractApi
