import ExtractApi.ServiceApp

/-!
# What the application does with one request

`reply` is the request-level view of the application: from the scope and the messages
to a response, without connections, middlewares or wrapped channels.
`handleRequest_refines` says that the application of `ServiceApp` refines it: whatever `reply`
returns is sent once, under the request id, with the access line written after it; what it
raises is answered by the catch-all outside the request context.

The middlewares are followed from the inside out by one relation, `Performs`.
-/

namespace ExtractApi

open PythonText JsonValue RaisingProgram

variable {S M V : Type}

/-! ## The request-level view -/

/-- What reading the body comes to. -/
inductive BodyRead where
  | complete (body : List Byte)
  | clientGone
  | tooLarge
deriving DecidableEq

/-- Reading the messages after `body`, with at most `cap` bytes in all. -/
def readMessages (cap : Option ℕ) : List Byte → List ReceiveMessage → BodyRead
  | _, [] => .clientGone
  | _, .httpDisconnect :: _ => .clientGone
  | body, .httpRequest chunk moreBody :: incoming =>
      if (cap.any fun limit => decide (limit < (body ++ chunk).length)) then .tooLarge
      else if moreBody then readMessages cap (body ++ chunk) incoming
      else .complete (body ++ chunk)

/-- The routing reads the body. -/
def readsBody (scope : Scope) : Bool :=
  match routing scope with
  | .endpoint route => decide (route.endpoint = .extract)
  | _ => false

theorem readsBody_eq_true_iff {scope : Scope} :
    readsBody scope = true ↔
      ∃ route, routing scope = .endpoint route ∧ route.endpoint = .extract := by
  rw [readsBody]
  cases hrouting : routing scope with
  | endpoint route => simp
  | _ => simp

section Reply

variable (process : Process S M V) (occasion : Occasion S) (scope : Scope)

/-- The response of a redirect. -/
def redirectResponse : HttpResponse where
  status := 307
  headers := [(py "location", process.framework.redirectUrl (toggleSlash scope))]
  body := none

/-- The extract endpoint, once the body is read. -/
def extractReply : BodyRead → Service S HttpResponse
  | .complete body => extractEndpoint process occasion scope body
  | _ => throw bodyParsingError

def endpointReply (body : BodyRead) : Endpoint → Service S HttpResponse
  | .healthz => healthz
  | .readyz => readyz process occasion
  | .extract => extractReply process occasion scope body
  | .documentation => return { status := 200, body := none }

/-- The endpoint, or what the router does instead. -/
def dispatch (body : BodyRead) : Service S HttpResponse :=
  match routing scope with
  | .endpoint route => endpointReply process occasion scope body route.endpoint
  | .methodNotAllowed route =>
      throw (.httpException 405 (.str (py "Method Not Allowed")) (allowHeader route))
  | .redirect => return redirectResponse process scope
  | .notFound => throw (.httpException 404 (.str (py "Not Found")) [])

/-- The same inside the registered handlers. -/
def handled (body : BodyRead) : Service S HttpResponse :=
  tryCatch (dispatch process occasion scope body) handleException

/-- Inside the body cap. -/
def capped (incoming : List ReceiveMessage) : Service S HttpResponse :=
  let limit := process.environment.maxBodyBytes
  if declaresOver limit scope then bodyTooLargeResponse limit
  else if readsBody scope ∧ readMessages (some limit) [] incoming = .tooLarge then
    bodyTooLargeResponse limit
  else handled process occasion scope (readMessages (some limit) [] incoming)

/-- The whole request. -/
def reply (incoming : List ReceiveMessage) : Service S HttpResponse :=
  if isOpenPath scope then handled process occasion scope (readMessages none [] incoming)
  else do
    noteExtractRoute scope
    if process.environment.keyHashes = [] then notConfiguredResponse
    else if presentsKey process.libs.sha256 process.environment.keyHashes scope then
      capped process occasion scope incoming
    else unauthorizedResponse

end Reply

/-- Only quiet steps lie between the two worlds. -/
def Quietly (w w' : World S) : Prop :=
  ∀ {τ : Type} {f : World S → τ}, Quiet f → f w' = f w

/-- Past the authentication, with the route noted. -/
theorem reply_of_authenticated {process : Process S M V} {scope : Scope} (occasion : Occasion S)
    (hguarded : isOpenPath scope = false)
    (hauth : presentsKey process.libs.sha256 process.environment.keyHashes scope = true)
    (incoming : List ReceiveMessage) (w : World S) :
    ∃ w', Quietly w w' ∧ (reply process occasion scope incoming).run w =
      (capped process occasion scope incoming).run w' := by
  have hkeys := keyHashes_ne_nil hauth
  have hnote : ∃ w', (noteExtractRoute (S := S) scope).run w = .ok () w' ∧ Quietly w w' := by
    unfold noteExtractRoute
    split
    · exact ⟨_, rfl, fun hquiet => hquiet.noted w _ (by simp)⟩
    · exact ⟨w, rfl, fun _ => rfl⟩
  obtain ⟨w', hrun, hquietly⟩ := hnote
  exact ⟨w', hquietly, by simp [reply, hguarded, hkeys, hauth, hrun]⟩

/-! ## Performing a reply -/

def HttpResponse.withRequestId (rid : PyStr) (r : HttpResponse) : HttpResponse :=
  { r with headers := r.headers ++ [(REQUEST_ID_HEADER, rid)] }

/-- What an application may not have touched. -/
structure Unsent (c c' : Connection S) : Prop where
  sent : c'.sent = c.sent
  status : c'.status = c.status
  requestId : c'.requestId = c.requestId

theorem Unsent.refl (c : Connection S) : Unsent c c := ⟨rfl, rfl, rfl⟩

theorem Unsent.trans {c c' c'' : Connection S} (h : Unsent c c') (h' : Unsent c' c'') :
    Unsent c c'' :=
  ⟨h'.sent.trans h.sent, h'.status.trans h.status, h'.requestId.trans h.requestId⟩

/-- The service sees the same request from `c'`. -/
structure Delivered (rid : PyStr) (r : HttpResponse) (c c' : Connection S) : Prop where
  sent : c'.sent = c.sent ++ (r.withRequestId rid).messages
  status : c'.status = some r.status
  requestId : c'.requestId = c.requestId

theorem Delivered.of_unsent {rid : PyStr} {r : HttpResponse} {c c' c'' : Connection S}
    (h : Unsent c c') (h' : Delivered rid r c' c'') : Delivered rid r c c'' :=
  ⟨by rw [h'.sent, h.sent], h'.status, h'.requestId.trans h.requestId⟩

/-- On the connection `c`, the application sends what `p` returns, and raises what `p` raises
    before anything is sent. -/
def Performs (rid : PyStr) (x : Asgi S Unit) (p : Service S HttpResponse) (c : Connection S) :
    Prop :=
  match p.run c.world with
  | .ok r w => ∃ c', x.run c = .ok () c' ∧ c'.world = w ∧ Delivered rid r c c'
  | .error exc w => ∃ c', x.run c = .error (.exception exc) c' ∧ c'.world = w ∧ Unsent c c'

section Performs

variable {rid : PyStr} {c c' : Connection S}

theorem run_sendResponse (r : HttpResponse) (c : Connection S) :
    (sendResponse r (sendWrapper rid serverSend)).run c =
      .ok () { c with
        sent := c.sent ++ (r.withRequestId rid).messages
        status := some r.status } := by
  simp [sendResponse, sendWrapper, serverSend, SendMessage.withRequestId, HttpResponse.messages,
    HttpResponse.withRequestId]

theorem performs_respond (p : Service S HttpResponse) (c : Connection S) :
    Performs rid (inService p >>= fun r => sendResponse r (sendWrapper rid serverSend)) p c := by
  unfold Performs
  rw [EStateM.run_bind, run_inService]
  cases p.run c.world with
  | ok r w => exact ⟨_, run_sendResponse r _, rfl, rfl, rfl, rfl⟩
  | error exc w => exact ⟨_, rfl, rfl, rfl, rfl, rfl⟩

theorem Performs.after {x y : Asgi S Unit} {p q : Service S HttpResponse}
    (h : Performs rid x p c') (hrun : y.run c = x.run c')
    (hreply : q.run c.world = p.run c'.world) (hunsent : Unsent c c') : Performs rid y q c := by
  unfold Performs at h ⊢
  rw [hreply]
  cases hp : p.run c'.world with
  | ok r w =>
    rw [hp] at h
    obtain ⟨c'', hx, hw, hdelivered⟩ := h
    exact ⟨c'', hrun.trans hx, hw, hdelivered.of_unsent hunsent⟩
  | error exc w =>
    rw [hp] at h
    obtain ⟨c'', hx, hw, hrest⟩ := h
    exact ⟨c'', hrun.trans hx, hw, hunsent.trans hrest⟩

theorem performs_bind {x : Asgi S Unit} {p : Service S HttpResponse} (y : Service S Unit)
    (h : ∀ w, Performs rid x p { c with world := w }) :
    Performs rid (inService y >>= fun _ => x) (y >>= fun _ => p) c := by
  cases hy : y.run c.world with
  | ok u w =>
    refine (h w).after ?_ ?_ ⟨rfl, rfl, rfl⟩
    · rw [EStateM.run_bind, run_inService, hy]
    · rw [EStateM.run_bind, hy]
  | error exc w =>
    unfold Performs
    rw [EStateM.run_bind, EStateM.run_bind, run_inService, hy]
    exact ⟨_, rfl, rfl, rfl, rfl, rfl⟩

/-! ### Reading the body -/

/-- A read that ends as `read` says, on the connection `c`. -/
def Reads (x : Asgi S (List Byte)) (read : BodyRead) (c : Connection S) : Prop :=
  ∃ c', c'.world = c.world ∧ Unsent c c' ∧
    x.run c = match read with
      | .complete body => .ok body c'
      | .clientGone => .error (.exception clientDisconnect) c'
      | .tooLarge => .error .bodyTooLarge c'

/-- `receive` counts against the cap, if there is one. -/
def receiveUnder : Option ℕ → Receive S
  | none => serverReceive
  | some limit => counted limit serverReceive

/-- The connection after a chunk has been received. -/
def Connection.afterChunk (c : Connection S) (cap : Option ℕ) (chunk : List Byte)
    (incoming : List ReceiveMessage) : Connection S :=
  { c with
    incoming := incoming
    received := if cap.isSome then c.received + chunk.length else c.received }

theorem run_receive_chunk (cap : Option ℕ) {chunk : List Byte} {moreBody : Bool}
    {incoming : List ReceiveMessage} (h : c.incoming = .httpRequest chunk moreBody :: incoming) :
    (receiveUnder cap).run c =
      if (cap.any fun limit => decide (limit < c.received + chunk.length)) then
        .error .bodyTooLarge (c.afterChunk cap chunk incoming)
      else .ok (.httpRequest chunk moreBody) (c.afterChunk cap chunk incoming) := by
  cases cap with
  | none => simp [receiveUnder, serverReceive, h, Connection.afterChunk]
  | some limit =>
    by_cases hover : limit < c.received + chunk.length <;>
      simp [receiveUnder, counted, serverReceive, h, Connection.afterChunk, hover]

theorem run_receive_disconnect (cap : Option ℕ) {incoming : List ReceiveMessage}
    (h : c.incoming = .httpDisconnect :: incoming) :
    (receiveUnder cap).run c = .ok .httpDisconnect { c with incoming := incoming } := by
  cases cap <;> simp [receiveUnder, counted, serverReceive, h]

theorem readStream_reads (cap : Option ℕ) :
    ∀ (n : ℕ) (body : List Byte) (c : Connection S), c.incoming.length = n →
      (cap.isSome → c.received = body.length) →
      Reads (readStream (receiveUnder cap) n body) (readMessages cap body c.incoming) c := by
  -- on the messages that are left: the stream takes one at a time
  intro n
  induction n with
  | zero =>
    intro body c hlength _
    rw [List.length_eq_zero_iff.mp hlength]
    exact ⟨c, rfl, .refl c, rfl⟩
  | succ n ih =>
    intro body c hlength hreceived
    cases hincoming : c.incoming with
    | nil => simp [hincoming] at hlength
    | cons message incoming =>
      have hrest : incoming.length = n := by simpa [hincoming] using hlength
      cases message with
      | httpDisconnect =>
        refine ⟨{ c with incoming := incoming }, rfl, ⟨rfl, rfl, rfl⟩, ?_⟩
        simp [readStream, run_receive_disconnect cap hincoming, readMessages]
      | httpRequest chunk moreBody =>
        have hstep := run_receive_chunk cap hincoming
        have hcount : (cap.any fun limit => decide (limit < c.received + chunk.length)) =
            (cap.any fun limit => decide (limit < (body ++ chunk).length)) := by
          cases cap with
          | none => rfl
          | some limit => simp [hreceived rfl]
        rw [hcount] at hstep
        by_cases hover : (cap.any fun limit => decide (limit < (body ++ chunk).length)) = true
        · rw [if_pos hover] at hstep
          refine ⟨c.afterChunk cap chunk incoming, rfl, ⟨rfl, rfl, rfl⟩, ?_⟩
          simp only [readStream, EStateM.run_bind, hstep, readMessages, if_pos hover]
        · rw [if_neg hover] at hstep
          simp only [readMessages, if_neg hover]
          cases moreBody with
          | false =>
            refine ⟨c.afterChunk cap chunk incoming, rfl, ⟨rfl, rfl, rfl⟩, ?_⟩
            simp [readStream, hstep]
          | true =>
            have hnext : cap.isSome →
                (c.afterChunk cap chunk incoming).received = (body ++ chunk).length := by
              intro hsome
              simp [Connection.afterChunk, hsome, hreceived hsome]
            have hchunk : Unsent c (c.afterChunk cap chunk incoming) := ⟨rfl, rfl, rfl⟩
            obtain ⟨c', hworld, hunsent, hrun⟩ :=
              ih (body ++ chunk) (c.afterChunk cap chunk incoming) hrest hnext
            refine ⟨c', hworld, hchunk.trans hunsent, ?_⟩
            simp only [readStream, EStateM.run_bind, hstep, if_true]
            exact hrun

/-- The body is read as the messages say; what goes wrong with it is one `HTTPException`. -/
theorem run_readBody (cap : Option ℕ) (hreceived : cap.isSome → c.received = 0) :
    ∃ c', c'.world = c.world ∧ Unsent c c' ∧
      (readBody (receiveUnder cap)).run c = match readMessages cap [] c.incoming with
        | .complete body => .ok body c'
        | .clientGone => .error (.exception bodyParsingError) c'
        | .tooLarge => .error .bodyTooLarge c' := by
  obtain ⟨c', hworld, hunsent, hrun⟩ :=
    readStream_reads cap c.incoming.length [] c rfl hreceived
  refine ⟨c', hworld, hunsent, ?_⟩
  simp only [readBody, EStateM.run_bind, EStateM.run_get, EStateM.run_tryCatch, hrun]
  cases readMessages cap [] c.incoming <;> rfl

/-! ### The router and its handlers -/

variable {process : Process S M V} {occasion : Occasion S} {scope : Scope}

theorem readMessages_none_ne (body : List Byte) (incoming : List ReceiveMessage) :
    readMessages none body incoming ≠ .tooLarge := by
  induction incoming generalizing body with
  | nil => simp [readMessages]
  | cons message incoming ih =>
    cases message with
    | httpDisconnect => simp [readMessages]
    | httpRequest chunk moreBody => cases moreBody <;> simp [readMessages, ih]

theorem runEndpoint_performs (cap : Option ℕ) (hreceived : cap.isSome → c.received = 0)
    (endpoint : Endpoint)
    (hfits : endpoint = .extract → readMessages cap [] c.incoming ≠ .tooLarge) :
    Performs rid
      (runEndpoint process occasion scope (receiveUnder cap) endpoint >>= fun r =>
        sendResponse r (sendWrapper rid serverSend))
      (endpointReply process occasion scope (readMessages cap [] c.incoming) endpoint) c := by
  cases endpoint with
  | healthz => exact performs_respond healthz c
  | readyz => exact performs_respond (readyz process occasion) c
  | documentation =>
    exact ⟨_, run_sendResponse { status := 200, body := none } c, rfl, rfl, rfl, rfl⟩
  | extract =>
    obtain ⟨c', hworld, hunsent, hrun⟩ := run_readBody cap hreceived
    cases hread : readMessages cap [] c.incoming with
    | tooLarge => exact absurd hread (hfits rfl)
    | clientGone =>
      simp only [hread] at hrun
      exact ⟨c', by simp [runEndpoint, hrun], hworld, hunsent⟩
    | complete body =>
      simp only [hread] at hrun
      refine (performs_respond (extractEndpoint process occasion scope body) c').after ?_
        (by rw [hworld]; rfl) hunsent
      simp only [runEndpoint, EStateM.run_bind, hrun]

/-- The router performs what `dispatch` says, unless it reads a body over the cap. -/
theorem router_performs (cap : Option ℕ) (hhttp : scope.type = .http)
    (hreceived : cap.isSome → c.received = 0)
    (hfits : readsBody scope = true → readMessages cap [] c.incoming ≠ .tooLarge) :
    Performs rid (router process occasion scope (receiveUnder cap) (sendWrapper rid serverSend))
      (dispatch process occasion scope (readMessages cap [] c.incoming)) c := by
  unfold router dispatch
  rw [if_neg (by simp [hhttp])]
  cases hrouting : routing scope with
  | notFound => exact ⟨c, rfl, rfl, .refl c⟩
  | redirect => exact ⟨_, run_sendResponse (redirectResponse process scope) c, rfl, rfl, rfl, rfl⟩
  | methodNotAllowed route =>
    exact ⟨{ c with route := route.template }, rfl, rfl, rfl, rfl, rfl⟩
  | endpoint route =>
    have hroute : Unsent c { c with route := route.template } := ⟨rfl, rfl, rfl⟩
    refine (runEndpoint_performs (c := { c with route := route.template }) cap hreceived
      route.endpoint ?_).after rfl rfl hroute
    intro hextract
    exact hfits (readsBody_eq_true_iff.mpr ⟨route, hrouting, hextract⟩)

theorem router_tooLarge (cap : Option ℕ) (hhttp : scope.type = .http)
    (hreceived : cap.isSome → c.received = 0) (hreads : readsBody scope = true)
    (hover : readMessages cap [] c.incoming = .tooLarge) :
    ∃ c', c'.world = c.world ∧ Unsent c c' ∧
      (router process occasion scope (receiveUnder cap) (sendWrapper rid serverSend)).run c =
        .error .bodyTooLarge c' := by
  unfold router
  rw [if_neg (by simp [hhttp])]
  obtain ⟨route, hrouting, hendpoint⟩ := readsBody_eq_true_iff.mp hreads
  rw [hrouting]
  have hroute : Unsent c { c with route := route.template } := ⟨rfl, rfl, rfl⟩
  obtain ⟨c', hworld, hunsent, hrun⟩ :=
    run_readBody (c := { c with route := route.template }) cap hreceived
  simp only [hover] at hrun
  refine ⟨c', hworld, hroute.trans hunsent, ?_⟩
  simp only [hendpoint, runEndpoint, setRoute, EStateM.run_bind, EStateM.run_modify, hrun]

theorem exceptionMiddleware_performs {app : AsgiApp S} {receive : Receive S}
    {p : Service S HttpResponse} (hsent : c.sent = [])
    (h : Performs rid (app scope receive (sendWrapper rid serverSend)) p c) :
    Performs rid (exceptionMiddleware app scope receive (sendWrapper rid serverSend))
      (tryCatch p handleException) c := by
  unfold Performs at h
  cases hp : p.run c.world with
  | ok r w =>
    rw [hp] at h
    obtain ⟨c', hrun, hworld, hdelivered⟩ := h
    unfold Performs
    rw [EStateM.run_tryCatch, hp]
    exact ⟨c', by simp [exceptionMiddleware, hrun], hworld, hdelivered⟩
  | error exc w =>
    rw [hp] at h
    obtain ⟨c', hrun, hworld, hunsent⟩ := h
    have hfresh : c'.sent = [] := hunsent.sent.trans hsent
    have hhandler : (exceptionMiddleware app scope receive (sendWrapper rid serverSend)).run c =
        (inService (handleException exc) >>= fun r =>
          sendResponse r (sendWrapper rid serverSend)).run c' := by
      simp [exceptionMiddleware, hrun, hfresh]
    have hrespond : Performs rid _ (handleException exc) c' := performs_respond _ c'
    unfold Performs at hrespond ⊢
    rw [hworld] at hrespond
    rw [EStateM.run_tryCatch, hp, hhandler]
    simp only [restore_save]
    cases hresult : (handleException exc).run w with
    | ok r w' =>
      rw [hresult] at hrespond
      obtain ⟨c'', hx, hw, hdelivered⟩ := hrespond
      exact ⟨c'', hx, hw, hdelivered.of_unsent hunsent⟩
    | error exc' w' =>
      rw [hresult] at hrespond
      obtain ⟨c'', hx, hw, hrest⟩ := hrespond
      exact ⟨c'', hx, hw, hunsent.trans hrest⟩

/-! ### The guards -/

/-- The cap's handler lets everything but its own exception pass. -/
theorem Performs.tryCatch_cap {x : Asgi S Unit} {p : Service S HttpResponse} {limit : ℕ}
    {send : Send S} (h : Performs rid x p c) :
    Performs rid
      (tryCatch x fun raised => match raised with
        | .bodyTooLarge => refuse limit send
        | raised => throw raised) p c := by
  unfold Performs at h ⊢
  cases hp : p.run c.world with
  | ok r w =>
    rw [hp] at h
    obtain ⟨c', hrun, hrest⟩ := h
    exact ⟨c', by simp [hrun], hrest⟩
  | error exc w =>
    rw [hp] at h
    obtain ⟨c', hrun, hrest⟩ := h
    exact ⟨c', by simp [hrun], hrest⟩

theorem bodyCap_performs (hhttp : scope.type = .http) (hguarded : isOpenPath scope = false)
    (hsent : c.sent = []) :
    Performs rid
      (bodyCap process.environment.maxBodyBytes
        (extractAdmission (exceptionMiddleware (router process occasion))) scope serverReceive
        (sendWrapper rid serverSend))
      (capped process occasion scope c.incoming) c := by
  unfold bodyCap capped
  rw [if_neg (by simp [hhttp, hguarded])]
  generalize hlimit : process.environment.maxBodyBytes = limit
  by_cases hdeclared : declaresOver limit scope = true
  · rw [if_pos hdeclared, if_pos hdeclared]
    exact performs_respond (bodyTooLargeResponse limit) c
  · rw [if_neg hdeclared, if_neg hdeclared]
    have hreset : Unsent c { c with received := 0 } := ⟨rfl, rfl, rfl⟩
    by_cases hover : readsBody scope = true ∧ readMessages (some limit) [] c.incoming = .tooLarge
    · rw [if_pos hover]
      obtain ⟨c', hworld, hunsent, hcounted⟩ :
          ∃ c', c'.world = c.world ∧ Unsent { c with received := 0 } c' ∧
            (router process occasion scope (counted limit serverReceive)
              (sendWrapper rid serverSend)).run { c with received := 0 } =
                .error .bodyTooLarge c' :=
        router_tooLarge (c := { c with received := 0 }) (some limit) hhttp (fun _ => rfl)
          hover.1 hover.2
      refine (performs_respond (bodyTooLargeResponse limit) c').after ?_ (by rw [hworld])
        (hreset.trans hunsent)
      simp [extractAdmission, exceptionMiddleware, hcounted, refuse]
    · rw [if_neg hover]
      have hrouter : Performs rid
          (router process occasion scope (receiveUnder (some limit)) (sendWrapper rid serverSend))
          (dispatch process occasion scope (readMessages (some limit) [] c.incoming))
          { c with received := 0 } :=
        router_performs (c := { c with received := 0 }) (some limit) hhttp (fun _ => rfl)
          fun hreads htoo => hover ⟨hreads, htoo⟩
      refine (exceptionMiddleware_performs (c := { c with received := 0 }) hsent
        hrouter).tryCatch_cap.after rfl rfl hreset

/-- The application inside the request context. -/
def guardedApp (process : Process S M V) (occasion : Occasion S) : AsgiApp S :=
  callerAuth process.libs.sha256 process.environment.keyHashes <|
    bodyCap process.environment.maxBodyBytes <|
      extractAdmission <|
        exceptionMiddleware <|
          router process occasion

theorem guardedApp_performs (process : Process S M V) (occasion : Occasion S)
    (hhttp : scope.type = .http) (hsent : c.sent = []) :
    Performs rid
      (guardedApp process occasion scope serverReceive (sendWrapper rid serverSend))
      (reply process occasion scope c.incoming) c := by
  unfold guardedApp callerAuth reply
  cases hopen : isOpenPath scope with
  | true =>
    have hrouter : Performs rid
        (router process occasion scope (receiveUnder none) (sendWrapper rid serverSend))
        (dispatch process occasion scope (readMessages none [] c.incoming)) c :=
      router_performs none hhttp (by simp) fun _ => readMessages_none_ne _ _
    rw [if_pos (Or.inr rfl), if_pos rfl]
    unfold bodyCap
    rw [if_pos (Or.inr hopen)]
    exact exceptionMiddleware_performs hsent hrouter
  | false =>
    rw [if_neg (by simp [hhttp])]
    simp only [Bool.false_eq_true, if_false]
    apply performs_bind (noteExtractRoute scope)
    intro w
    by_cases hkeys : process.environment.keyHashes = []
    · rw [if_pos hkeys, if_pos hkeys]
      exact performs_respond notConfiguredResponse _
    · rw [if_neg hkeys, if_neg hkeys]
      split
      · exact bodyCap_performs (c := { c with world := w }) hhttp hopen hsent
      · exact performs_respond unauthorizedResponse _

end Performs

/-! ## The application -/

/-- The world after the access line of the request. -/
def World.logged (w : World S) (scope : Scope) (route : Option PyStr) (status : ℕ)
    (durationMs : ℚ) : World S :=
  { w with
    log := w.log ++
      [accessRecord scope.method route (some status) durationMs (w.facts.getD ∅)] }

/-- The world that a failed request leaves to the catch-all. -/
def World.failed (w : World S) : World S :=
  { w with
    facts := w.facts.map fun bag => bag.setdefault "result" (.str (py "internal_error")) }

theorem run_logAccess {c : Connection S} {status : ℕ} (hstatus : c.status = some status)
    (scope : Scope) (durationMs : ℚ) :
    (logAccess scope durationMs).run c =
      .ok () { c with world := c.world.logged scope c.route status durationMs } := by
  simp [logAccess, inService, run_focus, emit, World.logged, hstatus]

theorem requestContext_of_ok {app : AsgiApp S} {scope : Scope} {receive : Receive S}
    {c c' : Connection S} {status : ℕ} (uuid : List (Fin 16)) (durationMs : ℚ)
    (hhttp : scope.type = .http)
    (hrun : (app scope receive (sendWrapper (incomingRequestId scope uuid) serverSend)).run
      { c with
        world := { c.world with facts := some ∅ }
        requestId := some (incomingRequestId scope uuid)
        status := none } = .ok () c')
    (hstatus : c'.status = some status) :
    (requestContext uuid durationMs app scope receive serverSend).run c =
      .ok () { c' with
        world := { c'.world.logged scope c'.route status durationMs with
          facts := c.world.facts } } := by
  have hlog := run_logAccess hstatus scope durationMs
  unfold requestContext
  rw [if_neg (by simp [hhttp])]
  simp [hrun, hlog, resetFacts]

theorem requestContext_spec {app : AsgiApp S} {scope : Scope} {receive : Receive S}
    {p : Service S HttpResponse} {c : Connection S} (uuid : List (Fin 16)) (durationMs : ℚ)
    (hhttp : scope.type = .http)
    (h : Performs (incomingRequestId scope uuid)
      (app scope receive (sendWrapper (incomingRequestId scope uuid) serverSend)) p
      { c with
        world := { c.world with facts := some ∅ }
        requestId := some (incomingRequestId scope uuid)
        status := none }) :
    match p.run { c.world with facts := some ∅ } with
    | .ok r w => ∃ c',
        (requestContext uuid durationMs app scope receive serverSend).run c = .ok () c' ∧
          c'.sent = c.sent ++ (r.withRequestId (incomingRequestId scope uuid)).messages ∧
          c'.world = { w.logged scope c'.route r.status durationMs with facts := c.world.facts }
    | .error exc w => ∃ c',
        (requestContext uuid durationMs app scope receive serverSend).run c =
            .error (.exception exc) c' ∧
          c'.sent = c.sent ∧ c'.requestId = some (incomingRequestId scope uuid) ∧
          c'.world = w.failed.logged scope c'.route 500 durationMs := by
  unfold Performs at h
  simp only at h
  cases hp : p.run { c.world with facts := some ∅ } with
  | ok r w =>
    rw [hp] at h
    obtain ⟨c', hrun, hworld, hdelivered⟩ := h
    exact ⟨_, requestContext_of_ok uuid durationMs hhttp hrun hdelivered.status,
      hdelivered.sent, by rw [hworld]⟩
  | error exc w =>
    rw [hp] at h
    obtain ⟨c', hrun, hworld, hunsent⟩ := h
    let failed : Connection S := { c' with world := c'.world.failed, status := some 500 }
    have hfailed : noteFailure.run c' = .ok () failed := by
      simp [noteFailure, failed, World.failed, hunsent.status]
    have hstatus : failed.status = some 500 := rfl
    have hlog := run_logAccess hstatus scope durationMs
    refine ⟨{ failed with
      world := failed.world.logged scope c'.route 500 durationMs }, ?_, hunsent.sent,
      hunsent.requestId, by simp [failed, hworld]⟩
    unfold requestContext
    rw [if_neg (by simp [hhttp])]
    simp [hrun, hfailed, hlog, failed]

theorem serverErrorMiddleware_of_ok {app : AsgiApp S} {scope : Scope} {receive : Receive S}
    {c c' : Connection S} (h : (app scope receive serverSend).run c = .ok () c') :
    (serverErrorMiddleware app scope receive serverSend).run c = .ok () c' := by
  unfold serverErrorMiddleware
  split
  · exact h
  · simp [h]

/-- It answers an exception that was raised before a response started, and raises it on. -/
theorem serverErrorMiddleware_of_error {app : AsgiApp S} {scope : Scope} {receive : Receive S}
    {c c' : Connection S} {exc : PyExc} {r : HttpResponse} {w : World S}
    (hhttp : scope.type = .http)
    (h : (app scope receive serverSend).run c = .error (.exception exc) c') (hsent : c'.sent = [])
    (hanswer : (handleUnexpected c'.requestId exc).run c'.world = .ok r w) :
    (serverErrorMiddleware app scope receive serverSend).run c =
      .error (.exception exc) { c' with world := w, sent := r.messages } := by
  unfold serverErrorMiddleware
  rw [if_neg (by simp [hhttp])]
  simp [h, hsent, run_inService, hanswer, sendResponse, serverSend, HttpResponse.messages]

/-- **The application answers every http request as `reply` says**: what `reply` returns is
    sent under the request id after one access line; what it raises is answered by the
    catch-all, after an access line with status 500.  The line is written for the route that
    the connection ends with. -/
theorem handleRequest_refines (process : Process S M V) (occasion : Occasion S) {scope : Scope}
    (hhttp : scope.type = .http) (incoming : List ReceiveMessage) (w : World S) :
    match (reply process occasion scope incoming).run { w with facts := some ∅ } with
    | .ok r w' =>
        (handleRequest process occasion scope incoming w).sent =
            (r.withRequestId (incomingRequestId scope occasion.uuid)).messages ∧
          (handleRequest process occasion scope incoming w).world =
            { w'.logged scope (handleRequest process occasion scope incoming w).route r.status
                occasion.durationMs with facts := w.facts }
    | .error exc w' => ∃ r,
        (handleUnexpected (some (incomingRequestId scope occasion.uuid)) exc).run
            (w'.failed.logged scope (handleRequest process occasion scope incoming w).route 500
              occasion.durationMs) =
          .ok r (handleRequest process occasion scope incoming w).world ∧
        r.Carries internalAnswer ∧
        (handleRequest process occasion scope incoming w).sent = r.messages := by
  have hlatin : ∀ rid, some (incomingRequestId scope occasion.uuid) = some rid →
      isLatin1 rid = true := by
    rintro rid ⟨⟩
    exact isLatin1_incomingRequestId scope occasion.uuid
  have hcontext := requestContext_spec (c := .opened w incoming) occasion.uuid
    occasion.durationMs hhttp (guardedApp_performs process occasion hhttp rfl)
  unfold handleRequest
  rw [show createApp process occasion = serverErrorMiddleware
    (requestContext occasion.uuid occasion.durationMs (guardedApp process occasion)) from rfl]
  generalize incomingRequestId scope occasion.uuid = rid at hcontext hlatin ⊢
  -- a reply is sent as it is; an exception goes to the outermost handler
  cases hreply : (reply process occasion scope incoming).run { w with facts := some ∅ } with
  | ok r w' =>
    simp only [Connection.opened, hreply] at hcontext
    obtain ⟨c', hrun, hsent, hworld⟩ := hcontext
    have hserved := serverErrorMiddleware_of_ok hrun
    refine ⟨?_, ?_⟩
    · simpa [Connection.opened, hserved] using hsent
    · simpa [Connection.opened, hserved] using hworld
  | error exc w' =>
    simp only [Connection.opened, hreply] at hcontext
    obtain ⟨c', hrun, hsent, hrequestId, hworld⟩ := hcontext
    have hanswer := handleUnexpected_carries (S := S) hlatin exc c'.world
    cases hunexpected : (handleUnexpected (some rid) exc).run c'.world with
    | error exc' w'' =>
      rw [hunexpected] at hanswer
      exact hanswer.elim
    | ok r w'' =>
      rw [hunexpected] at hanswer
      have hserved := serverErrorMiddleware_of_error hhttp hrun hsent
        (by rw [hrequestId]; exact hunexpected)
      refine ⟨r, ?_, hanswer, ?_⟩
      · simp only [Connection.opened, hserved, finalState_error]
        rw [← hworld, hunexpected]
      · simp [Connection.opened, hserved]

theorem handleRequest_spec (process : Process S M V) (occasion : Occasion S) {scope : Scope}
    (hhttp : scope.type = .http) (incoming : List ReceiveMessage) (w : World S) :
    match (reply process occasion scope incoming).run { w with facts := some ∅ } with
    | .ok r w' => ∃ route,
        (handleRequest process occasion scope incoming w).sent =
            (r.withRequestId (incomingRequestId scope occasion.uuid)).messages ∧
          (handleRequest process occasion scope incoming w).world =
            { w'.logged scope route r.status occasion.durationMs with facts := w.facts }
    | .error exc w' => ∃ route r,
        (handleUnexpected (some (incomingRequestId scope occasion.uuid)) exc).run
            (w'.failed.logged scope route 500 occasion.durationMs) =
          .ok r (handleRequest process occasion scope incoming w).world ∧
        r.Carries internalAnswer ∧
        (handleRequest process occasion scope incoming w).sent = r.messages := by
  have hrefines := handleRequest_refines process occasion hhttp incoming w
  rcases hreply : (reply process occasion scope incoming).run { w with facts := some ∅ } with
    ⟨r, w'⟩ | ⟨exc, w'⟩
  · rw [hreply] at hrefines
    exact ⟨_, hrefines⟩
  · rw [hreply] at hrefines
    exact ⟨_, hrefines⟩

end ExtractApi
