import ExtractApi.RequestReply
import ExtractApi.ExtractRequests

/-!
# The route of a post

The access line is written for the route that the connection ends with.  For a post it is the
extract route, or none where the router was not reached.
-/

namespace ExtractApi

open PythonText JsonValue RaisingProgram

variable {S M V : Type}

structure IsExtractPost (scope : Scope) : Prop where
  http : scope.type = .http
  method : scope.method = py "POST"
  path : getRoutePath scope = EXTRACT_PATH

/-- The router was not reached, or found the extract route. -/
def OnRoute (c : Connection S) : Prop := c.route = none ∨ c.route = some EXTRACT_PATH

theorem onRoute_of_keeps {α : Type} {x : Asgi S α} (h : Keeps Connection.route x) :
    Preserves OnRoute x :=
  Keeps.preserves (Q := fun route => route = none ∨ route = some EXTRACT_PATH) h

/-! ## What keeps the route -/

theorem inService_keeps_route {α : Type} (x : Service S α) :
    Keeps Connection.route (inService x) := by
  intro c
  rw [run_inService]
  cases x.run c.world <;> rfl

theorem serverReceive_keeps_route : Keeps Connection.route (serverReceive (S := S)) := by
  intro c
  rcases hincoming : c.incoming with _ | ⟨message, incoming⟩
  · simp [serverReceive, hincoming]
  · simp [serverReceive, hincoming]

theorem sendWrapper_keeps_route {send : Send S} (hsend : ∀ m, Keeps Connection.route (send m))
    (rid : PyStr) (message : SendMessage) :
    Keeps Connection.route (sendWrapper rid send message) := by
  unfold sendWrapper
  cases message with
  | responseStart status headers =>
    exact Keeps.bind (Keeps.modify fun _ => rfl) fun _ => hsend _
  | responseBody body => exact Keeps.bind (Keeps.pure _) fun _ => hsend _

theorem sendResponse_keeps_route {send : Send S} (hsend : ∀ m, Keeps Connection.route (send m))
    (r : HttpResponse) : Keeps Connection.route (sendResponse r send) :=
  Keeps.bind (hsend _) fun _ => hsend _

theorem respond_keeps_route {send : Send S} (hsend : ∀ m, Keeps Connection.route (send m))
    (x : Service S HttpResponse) :
    Keeps Connection.route (inService x >>= fun r => sendResponse r send) :=
  Keeps.bind (inService_keeps_route x) fun r => sendResponse_keeps_route hsend r

theorem counted_keeps_route {receive : Receive S} (hreceive : Keeps Connection.route receive)
    (limit : ℕ) : Keeps Connection.route (counted limit receive) := by
  unfold counted
  apply Keeps.bind hreceive
  intro message
  cases message with
  | httpRequest body moreBody =>
    refine Keeps.bind (Keeps.modify fun _ => rfl) ?_
    intro _ c
    simp only [EStateM.run_bind, EStateM.run_get]
    split <;> rfl
  | httpDisconnect => exact Keeps.bind (Keeps.pure _) fun _ => Keeps.pure _

theorem readStream_keeps_route {receive : Receive S} (hreceive : Keeps Connection.route receive)
    (n : ℕ) : ∀ body, Keeps Connection.route (readStream receive n body) := by
  induction n with
  | zero =>
    intro body
    exact Keeps.throw _
  | succ n ih =>
    intro body
    apply Keeps.bind hreceive
    intro message
    cases message with
    | httpDisconnect => exact Keeps.throw _
    | httpRequest chunk moreBody =>
      cases moreBody with
      | true => exact ih _
      | false => exact Keeps.pure _

theorem readBody_keeps_route {receive : Receive S} (hreceive : Keeps Connection.route receive) :
    Keeps Connection.route (readBody receive) := by
  unfold readBody
  apply Keeps.bind Keeps.get
  intro c
  apply Keeps.tryCatch (readStream_keeps_route hreceive _ _)
  intro raised
  cases raised <;> exact Keeps.throw _

theorem runEndpoint_keeps_route {receive : Receive S} (hreceive : Keeps Connection.route receive)
    (process : Process S M V) (occasion : Occasion S) (scope : Scope) (endpoint : Endpoint) :
    Keeps Connection.route (runEndpoint process occasion scope receive endpoint) := by
  cases endpoint with
  | healthz => exact inService_keeps_route _
  | readyz => exact inService_keeps_route _
  | documentation => exact Keeps.pure _
  | extract =>
    exact Keeps.bind (readBody_keeps_route hreceive) fun body => inService_keeps_route _

/-! ## The stack -/

section Stack

variable {process : Process S M V} {occasion : Occasion S} {scope : Scope}

theorem router_onRoute (hpost : IsExtractPost scope) {receive : Receive S} {send : Send S}
    (hreceive : Keeps Connection.route receive) (hsend : ∀ m, Keeps Connection.route (send m)) :
    Preserves OnRoute (router process occasion scope receive send) := by
  unfold router
  rw [if_neg (by simp [hpost.http]), routing_of_extract hpost.method hpost.path]
  apply Preserves.bind
  · exact Preserves.modify fun _ _ => Or.inr rfl
  · intro _
    apply onRoute_of_keeps
    exact Keeps.bind (runEndpoint_keeps_route hreceive process occasion scope _) fun r =>
      sendResponse_keeps_route hsend r

/-- An application that stays on the route for a post. -/
def StaysOnRoute (app : AsgiApp S) (scope : Scope) : Prop :=
  ∀ {receive : Receive S} {send : Send S}, Keeps Connection.route receive →
    (∀ m, Keeps Connection.route (send m)) → Preserves OnRoute (app scope receive send)

variable {app : AsgiApp S}

theorem exceptionMiddleware_onRoute (happ : StaysOnRoute app scope) :
    StaysOnRoute (exceptionMiddleware app) scope := by
  intro receive send hreceive hsend
  apply Preserves.tryCatch (happ hreceive hsend)
  intro raised
  cases raised with
  | exception exc =>
    apply onRoute_of_keeps
    intro c
    by_cases hstarted : hasHandler exc ∧ c.sent ≠ []
    · simp [hstarted]
    · have hrespond := respond_keeps_route hsend (handleException exc) c
      simpa [hstarted] using hrespond
  | bodyTooLarge => exact Preserves.throw _
  | cancelled => exact Preserves.throw _

theorem bodyCap_onRoute (limit : ℕ) (happ : StaysOnRoute app scope) :
    StaysOnRoute (bodyCap limit app) scope := by
  intro receive send hreceive hsend
  unfold bodyCap
  split
  · exact happ hreceive hsend
  · split
    · exact onRoute_of_keeps (respond_keeps_route hsend _)
    · apply Preserves.bind
      · exact Preserves.modify fun _ h => h
      · intro _
        apply Preserves.tryCatch (happ (counted_keeps_route hreceive limit) hsend)
        intro raised
        cases raised with
        | bodyTooLarge => exact onRoute_of_keeps (respond_keeps_route hsend _)
        | exception exc => exact Preserves.throw _
        | cancelled => exact Preserves.throw _

theorem callerAuth_onRoute (sha256 : List Byte → List Byte) (keyHashes : List (List Byte))
    (happ : StaysOnRoute app scope) : StaysOnRoute (callerAuth sha256 keyHashes app) scope := by
  intro receive send hreceive hsend
  unfold callerAuth
  split
  · exact happ hreceive hsend
  · apply Preserves.bind (onRoute_of_keeps (inService_keeps_route _))
    intro _
    split
    · exact onRoute_of_keeps (respond_keeps_route hsend _)
    · split
      · exact happ hreceive hsend
      · exact onRoute_of_keeps (respond_keeps_route hsend _)

theorem requestContext_onRoute (uuid : List (Fin 16)) (durationMs : ℚ)
    (happ : StaysOnRoute app scope) : StaysOnRoute (requestContext uuid durationMs app) scope := by
  intro receive send hreceive hsend
  have hlog : Preserves OnRoute (logAccess (S := S) scope durationMs) :=
    onRoute_of_keeps (Keeps.bind Keeps.get fun c => inService_keeps_route _)
  have hreset : ∀ outer, Preserves OnRoute (resetFacts (S := S) outer) :=
    fun outer => Preserves.modify fun _ h => h
  have hfailure : Preserves OnRoute (noteFailure (S := S)) := Preserves.modify fun _ h => h
  unfold requestContext
  split
  · exact happ hreceive hsend
  · dsimp only
    refine Preserves.bind Preserves.get ?_
    intro c
    apply Preserves.bind
    · exact Preserves.modify fun _ h => h
    · intro _
      apply Preserves.bind
      · apply Preserves.tryCatch
        · exact happ hreceive (sendWrapper_keeps_route hsend _)
        · intro raised
          cases raised with
          | exception exc =>
            exact Preserves.bind hfailure fun _ => Preserves.bind hlog fun _ => Preserves.throw _
          | bodyTooLarge =>
            exact Preserves.bind hlog fun _ => Preserves.bind (hreset _) fun _ => Preserves.throw _
          | cancelled =>
            exact Preserves.bind hlog fun _ => Preserves.bind (hreset _) fun _ => Preserves.throw _
      · intro _
        exact Preserves.bind hlog fun _ => hreset _

theorem serverErrorMiddleware_onRoute (happ : StaysOnRoute app scope) :
    StaysOnRoute (serverErrorMiddleware app) scope := by
  intro receive send hreceive hsend
  unfold serverErrorMiddleware
  split
  · exact happ hreceive hsend
  · apply Preserves.tryCatch (happ hreceive hsend)
    intro raised
    cases raised with
    | exception exc =>
      dsimp only
      refine Preserves.bind Preserves.get ?_
      intro c
      by_cases hunsent : c.sent = []
      · simp only [hunsent, if_true]
        refine Preserves.bind (onRoute_of_keeps (inService_keeps_route _)) ?_
        intro r
        refine Preserves.bind (onRoute_of_keeps (sendResponse_keeps_route hsend r)) ?_
        intro _
        exact Preserves.throw _
      · simp only [hunsent, if_false]
        exact Preserves.throw _
    | bodyTooLarge => exact Preserves.throw _
    | cancelled => exact Preserves.throw _

/-- **The access line of a post is written for the extract route, or for none.** -/
theorem handleRequest_onRoute (process : Process S M V) (occasion : Occasion S)
    (hpost : IsExtractPost scope) (incoming : List ReceiveMessage) (w : World S) :
    OnRoute (handleRequest process occasion scope incoming w) := by
  have hrouter : StaysOnRoute (router process occasion) scope := router_onRoute hpost
  have happ : StaysOnRoute (createApp process occasion) scope := by
    unfold createApp extractAdmission
    exact serverErrorMiddleware_onRoute (requestContext_onRoute _ _ (callerAuth_onRoute _ _
      (bodyCap_onRoute _ (exceptionMiddleware_onRoute hrouter))))
  unfold handleRequest
  apply happ serverReceive_keeps_route
  · intro _
    exact Keeps.modify fun _ => rfl
  · exact Or.inl rfl

end Stack

end ExtractApi
