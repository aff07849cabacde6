import ExtractApi.ExtractOutcome
import ExtractApi.RequestContext

/-!
# One access line for each request

`RequestContextMiddleware` around any application.  What an application below it can do is a
`Behaviour`: it notes facts as the service's code notes them, logs, is routed, receives and
sends messages, and then returns or raises.  A `send` that raises ends the behaviour there.
-/

namespace ExtractApi

open PythonText JsonValue RaisingProgram

variable {S : Type}

/-! ## Notes -/

/-- The places that note facts. -/
inductive ServiceNote where
  | ofRequest (request : ExtractRequest) (keyed : Bool)
  | ofClient (client : LLMClient)
  | ofRetry (kinds : List PyStr)
  | ofMeta (m : ExtractMeta)
  /-- `_run_extract` on a `ProviderError` -/
  | providerCost (costUsd : ℚ)
  /-- `_run_extract` on an `ExtractionFailed` -/
  | failedAttempts (attempts : ℕ) (costUsd : ℚ)
  /-- `error_response` -/
  | errorCode (code : ErrorCode)
  /-- `CallerAuth` -/
  | extractRoute

/-- The facts of a note. -/
def ServiceNote.entries : ServiceNote → List (String × Json)
  | .ofRequest request keyed =>
      [("doc_type", .str request.docType.value),
        ("schema_version", .str request.schemaVersion),
        ("provider_requested", .str request.provider.value),
        ("content_kind",
          .str (if request.contentFormat = .pdfBase64 then py "pdf" else py "text")),
        ("content_bytes", .int (utf8SurrogatePass request.content).length),
        ("idempotency_keyed", .bool keyed),
        ("replayed", .bool false)]
  | .ofClient client =>
      [("provider", .str client.provider),
        ("model", match client.model with
          | some model => .str model
          | none => .null),
        ("retry_class", .str (py "none"))]
  | .ofRetry kinds => [("retry_class", .str (List.intercalate (py ",") kinds))]
  | .ofMeta m =>
      [("provider", .str m.provider),
        ("model", .str m.model),
        ("replayed", .bool m.replayed),
        ("attempts", .int (if m.replayed then 0 else m.attempts)),
        ("cost_usd", .float (if m.replayed then 0 else m.costUsd))]
  | .providerCost costUsd => [("cost_usd", .float costUsd)]
  | .failedAttempts attempts costUsd =>
      [("attempts", .int attempts), ("cost_usd", .float costUsd)]
  | .errorCode code => [("result", .str code.value)]
  | .extractRoute => [("route", .str EXTRACT_PATH)]

/-- The notes of `note_request`, `note_client`, `note_retry` and `note_meta` are these. -/
theorem note_entries (request : ExtractRequest) (keyed : Bool) (client : LLMClient)
    (kinds : List PyStr) (m : ExtractMeta) :
    (noteRequest request keyed : Service S Unit) =
        note (ServiceNote.ofRequest request keyed).entries ∧
      (noteClient client : Service S Unit) = note (ServiceNote.ofClient client).entries ∧
      (noteRetry kinds : Service S Unit) = note (ServiceNote.ofRetry kinds).entries ∧
      (noteMeta m : Service S Unit) = note (ServiceNote.ofMeta m).entries :=
  ⟨rfl, rfl, rfl, rfl⟩

/-- No note sets the method, the status, the duration or the request's id. -/
theorem ServiceNote.unfixed (n : ServiceNote) :
    ∀ entry ∈ n.entries, entry.1 ∉ ["method", "status", "duration_ms", "request_id"] := by
  cases n <;> simp [ServiceNote.entries]

/-! ## Behaviours -/

inductive AppStep where
  | note (n : ServiceNote)
  | log (record : LogRecord) (h : record.logger ≠ "extract.access")
  | routed (template : PyStr)
  | receive
  | send (message : SendMessage)

/-- A run of the application: what it does, and the exception that it ends with, if any. -/
structure Behaviour where
  steps : List AppStep
  raised : Option Raised

/-- One step of the application. -/
def AppStep.run (receive : Receive S) (send : Send S) : AppStep → Asgi S Unit
  | .note n => inService (ExtractApi.note n.entries)
  | .log record _ => inService (emit record)
  | .routed template => modify fun c => { c with route := some template }
  | .receive => do
      let _message ← receive
      return ()
  | .send message => send message

def runSteps (receive : Receive S) (send : Send S) : List AppStep → Asgi S Unit
  | [] => return ()
  | step :: steps => do
      step.run receive send
      runSteps receive send steps

/-- The application that behaves so. -/
def Behaviour.app (b : Behaviour) : AsgiApp S := fun _ receive send => do
  runSteps receive send b.steps
  match b.raised with
  | some raised => throw raised
  | none => return ()

/-! ## What a behaviour leaves -/

/-- The status of a step that starts a response. -/
def AppStep.status? : AppStep → Option ℕ
  | .send (.responseStart status _) => some status
  | _ => none

def AppStep.template? : AppStep → Option PyStr
  | .routed template => some template
  | _ => none

def AppStep.code? : AppStep → Option ErrorCode
  | .note (.errorCode code) => some code
  | _ => none

def AppStep.entries : AppStep → List (String × Json)
  | .note n => n.entries
  | _ => []

/-- The last value that a step gives. -/
def lastOf {α : Type} (f : AppStep → Option α) : List AppStep → Option α
  | [] => none
  | step :: steps => (lastOf f steps).or (f step)

/-- The status of the response that was started. -/
def started (steps : List AppStep) : Option ℕ := lastOf AppStep.status? steps

/-- The error code noted last. -/
def notedCode (steps : List AppStep) : Option ErrorCode := lastOf AppStep.code? steps

/-- The facts noted. -/
def notedFacts (steps : List AppStep) : Facts := Facts.update ∅ (steps.flatMap AppStep.entries)

theorem lastOf_eq_some_iff {α : Type} {f : AppStep → Option α} {steps : List AppStep} {a : α}
    (h : lastOf f steps = some a) : ∃ step ∈ steps, f step = some a := by
  induction steps with
  | nil => cases h
  | cons step steps ih =>
    rcases Option.or_eq_some_iff.mp h with h | ⟨-, h⟩
    · obtain ⟨step', hmem, hstep⟩ := ih h
      exact ⟨step', List.mem_cons_of_mem _ hmem, hstep⟩
    · exact ⟨step, List.mem_cons_self, h⟩

/-- What the middleware looks at when the request ends. -/
structure Seen where
  status : Option ℕ
  route : Option PyStr
  facts : Option Facts
  access : List LogRecord

def Connection.seen (c : Connection S) : Seen where
  status := c.status
  route := c.route
  facts := c.world.facts
  access := accessLines c.world.log

/-- A server's end returns and changes nothing that the middleware looks at. -/
def Passive {α : Type} (x : Asgi S α) : Prop :=
  ∀ c, ∃ a c', x.run c = .ok a c' ∧ c'.seen = c.seen

/-- What one step leaves of what was seen. -/
def AppStep.leaves (step : AppStep) (seen : Seen) : Seen where
  status := step.status?.or seen.status
  route := step.template?.or seen.route
  facts := seen.facts.map fun bag => bag.update step.entries
  access := seen.access

section Run

variable {receive : Receive S} {send : Send S} (rid : PyStr)

theorem run_step (hreceive : Passive receive) (hsend : ∀ message, Passive (send message))
    (step : AppStep) (c : Connection S) :
    ∃ c', (step.run receive (sendWrapper rid send)).run c = .ok () c' ∧
      c'.seen = step.leaves c.seen := by
  have hfacts : ∀ facts : Option Facts, facts.map (fun bag => bag.update []) = facts := by
    intro facts
    cases facts <;> rfl
  rcases step with n | ⟨record, hrecord⟩ | template | _ | message
  · exact ⟨_, run_inService _ _, rfl⟩
  · refine ⟨_, run_inService _ _, ?_⟩
    have haccess : accessLines (c.world.log ++ [record]) = accessLines c.world.log :=
      accessLines_append_of_ne hrecord
    simp [Connection.seen, AppStep.leaves, AppStep.status?, AppStep.template?, AppStep.entries,
      hfacts, haccess]
  · refine ⟨_, rfl, ?_⟩
    simp [Connection.seen, AppStep.leaves, AppStep.status?, AppStep.template?, AppStep.entries,
      hfacts]
  · obtain ⟨message, c', hrun, hseen⟩ := hreceive c
    refine ⟨c', ?_, ?_⟩
    · simp only [AppStep.run, EStateM.run_bind, hrun]
      rfl
    · rw [hseen]
      simp [Connection.seen, AppStep.leaves, AppStep.status?, AppStep.template?,
        AppStep.entries, hfacts]
  · rcases message with ⟨status, headers⟩ | body
    · obtain ⟨_, c', hrun, hseen⟩ :=
        hsend (.responseStart status (headers ++ [(REQUEST_ID_HEADER, rid)]))
          { c with status := some status }
      refine ⟨c', hrun, ?_⟩
      rw [hseen]
      simp [Connection.seen, AppStep.leaves, AppStep.status?, AppStep.template?,
        AppStep.entries, hfacts]
    · obtain ⟨_, c', hrun, hseen⟩ := hsend (.responseBody body) c
      refine ⟨c', hrun, ?_⟩
      rw [hseen]
      simp [Connection.seen, AppStep.leaves, AppStep.status?, AppStep.template?,
        AppStep.entries, hfacts]

/-- **What the steps leave**: the status and the route set last, the notes in their order, and
    no access line. -/
theorem run_runSteps (hreceive : Passive receive) (hsend : ∀ message, Passive (send message))
    (steps : List AppStep) :
    ∀ c : Connection S, ∃ c', (runSteps receive (sendWrapper rid send) steps).run c = .ok () c' ∧
      c'.seen =
        { status := (started steps).or c.status
          route := (lastOf AppStep.template? steps).or c.route
          facts := c.world.facts.map fun bag => bag.update (steps.flatMap AppStep.entries)
          access := accessLines c.world.log } := by
  induction steps with
  | nil =>
    intro c
    refine ⟨c, rfl, ?_⟩
    rcases hfacts : c.world.facts with _ | bag
    · simp [Connection.seen, started, lastOf, hfacts]
    · simp [Connection.seen, started, lastOf, hfacts, Facts.update]
  | cons step steps ih =>
    intro c
    obtain ⟨c₁, hrun₁, hseen₁⟩ := run_step rid hreceive hsend step c
    obtain ⟨c₂, hrun₂, hseen₂⟩ := ih c₁
    refine ⟨c₂, ?_, ?_⟩
    · simp only [runSteps, EStateM.run_bind, hrun₁, hrun₂]
    · have hstatus : c₁.status = step.status?.or c.status := congrArg Seen.status hseen₁
      have hroute : c₁.route = step.template?.or c.route := congrArg Seen.route hseen₁
      have hfacts : c₁.world.facts = c.world.facts.map fun bag => bag.update step.entries :=
        congrArg Seen.facts hseen₁
      have haccess : accessLines c₁.world.log = accessLines c.world.log :=
        congrArg Seen.access hseen₁
      rw [hseen₂, hstatus, hroute, hfacts, haccess]
      simp only [started, lastOf, Option.or_assoc, Option.map_map, List.flatMap_cons, Seen.mk.injEq,
        true_and, and_true]
      apply congrArg (fun f => Option.map f c.world.facts)
      funext bag
      simp [Facts.update, List.foldl_append]

end Run

/-! ## The line -/

/-- An `Exception` leaves the application, which no cancellation is. -/
def Behaviour.Fails (b : Behaviour) : Prop := ∃ exc, b.raised = some (.exception exc)

instance (b : Behaviour) : Decidable b.Fails :=
  match h : b.raised with
  | some (.exception exc) => isTrue ⟨exc, h⟩
  | some .bodyTooLarge => isFalse fun ⟨_, h'⟩ => by cases h.symm.trans h'
  | some .cancelled => isFalse fun ⟨_, h'⟩ => by cases h.symm.trans h'
  | none => isFalse fun ⟨_, h'⟩ => by cases h.symm.trans h'

/-- The status of the response that was started, 500 when an exception left none. -/
def Behaviour.loggedStatus (b : Behaviour) : Option ℕ :=
  (started b.steps).or (if b.Fails then some 500 else none)

/-- The facts at the end, with the failure among them. -/
def Behaviour.loggedFacts (b : Behaviour) : Facts :=
  if b.Fails then (notedFacts b.steps).setdefault "result" (.str (py "internal_error"))
  else notedFacts b.steps

/-- The record that is written for the behaviour. -/
def Behaviour.record (b : Behaviour) (method : PyStr) (durationMs : ℚ) : LogRecord :=
  accessRecord method (lastOf AppStep.template? b.steps) b.loggedStatus durationMs b.loggedFacts

theorem accessLines_append_record (log : List LogRecord) (method : PyStr) (route : Option PyStr)
    (status : Option ℕ) (durationMs : ℚ) (facts : Facts) :
    accessLines (log ++ [accessRecord method route status durationMs facts]) =
      accessLines log ++ [accessRecord method route status durationMs facts] := by
  rw [accessLines, List.filter_append]
  rfl

theorem run_logAccess_eq (scope : Scope) (durationMs : ℚ) (c : Connection S) :
    (logAccess scope durationMs).run c =
      .ok () { c with
        world := { c.world with
          log := c.world.log ++ [accessRecord scope.method c.route c.status durationMs
            (c.world.facts.getD ∅)] } } := by
  simp [logAccess, inService, run_focus, emit]

/-- **One line for each request**: whichever way the application ends, the middleware writes
    its record once. -/
theorem accessLines_requestContext (uuid : List (Fin 16)) (durationMs : ℚ) (b : Behaviour)
    {scope : Scope} (hhttp : scope.type = .http) {receive : Receive S} {send : Send S}
    (hreceive : Passive receive) (hsend : ∀ message, Passive (send message)) (c : Connection S)
    (hroute : c.route = none) :
    accessLines (finalState
        ((requestContext uuid durationMs b.app scope receive send).run c)).world.log =
      accessLines c.world.log ++ [b.record scope.method durationMs] := by
  have hbegun : ∃ c', (runSteps receive (sendWrapper (incomingRequestId scope uuid) send)
      b.steps).run
        { c with
          world := { c.world with facts := some ∅ }
          requestId := some (incomingRequestId scope uuid)
          status := none } = .ok () c' ∧
      c'.status = started b.steps ∧ c'.route = lastOf AppStep.template? b.steps ∧
      c'.world.facts = some (notedFacts b.steps) ∧
      accessLines c'.world.log = accessLines c.world.log := by
    obtain ⟨c', hrun, hseen⟩ := run_runSteps (incomingRequestId scope uuid) hreceive hsend
      b.steps
      { c with
        world := { c.world with facts := some ∅ }
        requestId := some (incomingRequestId scope uuid)
        status := none }
    simp only [hroute, Option.or_none, Connection.seen, Seen.mk.injEq, Option.map_some] at hseen
    exact ⟨c', hrun, hseen⟩
  obtain ⟨c', hrun, hstatus, htemplate, hfacts, haccess⟩ := hbegun
  have happ : (b.app scope receive (sendWrapper (incomingRequestId scope uuid) send)).run
      { c with
        world := { c.world with facts := some ∅ }
        requestId := some (incomingRequestId scope uuid)
        status := none } =
      match b.raised with
      | some raised => .error raised c'
      | none => .ok () c' := by
    unfold Behaviour.app
    rw [EStateM.run_bind, hrun]
    cases b.raised <;> rfl
  unfold Behaviour.record Behaviour.loggedStatus Behaviour.loggedFacts requestContext
  rw [if_neg (by simp [hhttp])]
  -- the line is written in `finally`, whether or not the app raised
  have hlogged := run_logAccess_eq (S := S) scope durationMs
  rcases hraised : b.raised with _ | raised
  · have hfine : ¬ b.Fails := fun ⟨exc, h⟩ => by cases hraised.symm.trans h
    rw [hraised] at happ
    simp [happ, hlogged, resetFacts, hfine, hstatus, htemplate, hfacts,
      accessLines_append_record, haccess]
  · rw [hraised] at happ
    rcases raised with exc | _ | _
    · have hfails : b.Fails := ⟨exc, hraised⟩
      simp [happ, hlogged, noteFailure, hfails, hstatus, htemplate, hfacts,
        accessLines_append_record, haccess]
    all_goals
      have hfine : ¬ b.Fails := fun ⟨exc, h⟩ => by cases hraised.symm.trans h
      simp [happ, hlogged, resetFacts, hfine, hstatus, htemplate, hfacts,
        accessLines_append_record, haccess]

/-! ## What the line says -/

theorem lookup_union_facts (key : String) (fields others : Facts) :
    AList.lookup key (fields ∪ others) =
      (AList.lookup key fields).or (AList.lookup key others) := by
  by_cases hmem : key ∈ fields
  · obtain ⟨value, hvalue⟩ := Option.isSome_iff_exists.mp (AList.lookup_isSome.mpr hmem)
    rw [AList.lookup_union_left hmem, hvalue, Option.some_or]
  · rw [AList.lookup_union_right hmem, AList.lookup_eq_none.mpr hmem, Option.none_or]

/-- The fields that every line has. -/
def baseFields (method : PyStr) (path : Json) (status : Option ℕ) (durationMs : ℚ)
    (result : Json) : List (String × Json) :=
  [("method", .str method), ("route", path),
    ("status", match status with
      | some code => .int code
      | none => .null),
    ("duration_ms", .float durationMs), ("result", result)]

/-- The default of a field of the line with the path. -/
def lineDefault (path : Json) (key : String) : Option Json :=
  if isExtractLine path ∧ key ∈ EXTRACT_FIELDS then some .null else none

/-- A field of the line is an allowlisted fact, else null by default on an extract line, else
    one of the five that every line has. -/
theorem lookup_accessRecord (key : String) (method : PyStr) (route : Option PyStr)
    (status : Option ℕ) (durationMs : ℚ) (facts : Facts) :
    AList.lookup key (accessRecord method route status durationMs facts).extra =
      ((if key ∈ ALLOWED_FIELDS then AList.lookup key ((linePath route facts).2.erase "result")
        else none).or (lineDefault (linePath route facts).1 key)).or
        (AList.lookup key (Facts.update ∅ (baseFields method (linePath route facts).1 status
          durationMs (lineResult status (AList.lookup "result" (linePath route facts).2))))) := by
  have hfields := Facts.lookup_update_restrict ((linePath route facts).2.erase "result") key
    ALLOWED_FIELDS (Facts.update ∅ (lineDefaults (linePath route facts).1))
  rw [lookup_lineDefaults] at hfields
  have hunion := lookup_union_facts key
    (Facts.update (Facts.update ∅ (lineDefaults (linePath route facts).1))
      (Facts.restrict ALLOWED_FIELDS ((linePath route facts).2.erase "result")))
    (Facts.update ∅ (baseFields method (linePath route facts).1 status durationMs
      (lineResult status (AList.lookup "result" (linePath route facts).2))))
  rw [hfields] at hunion
  refine hunion.trans ?_
  unfold lineDefault
  by_cases hallowed : key ∈ ALLOWED_FIELDS
  · rw [if_pos hallowed, if_pos hallowed]
  · rw [if_neg hallowed, if_neg hallowed, Option.none_or]

theorem lookup_notedFacts_of_unnoted {steps : List AppStep} {key : String}
    (h : ∀ step ∈ steps, ∀ entry ∈ step.entries, entry.1 ≠ key) :
    AList.lookup key (notedFacts steps) = none := by
  unfold notedFacts
  rw [Facts.lookup_update_of_not_mem, AList.lookup_empty]
  intro entry hentry
  obtain ⟨step, hstep, hentry⟩ := List.mem_flatMap.mp hentry
  exact h step hstep entry hentry

theorem lookup_update_entries (step : AppStep) (facts : Facts) :
    AList.lookup "result" (facts.update step.entries) =
      (step.code?.map fun code => Json.str code.value).or (AList.lookup "result" facts) := by
  rcases step with n | _ | _ | _ | _
  · rcases n with _ | _ | _ | _ | _ | _ | code | _
    case errorCode => simp [AppStep.entries, ServiceNote.entries, AppStep.code?, Facts.update]
    all_goals
      simp only [AppStep.entries, AppStep.code?, Option.map_none, Option.none_or]
      rw [Facts.lookup_update_of_not_mem]
      simp [ServiceNote.entries]
  all_goals rfl

theorem lookup_result_notedFacts (steps : List AppStep) :
    AList.lookup "result" (notedFacts steps) =
      (notedCode steps).map fun code => Json.str code.value := by
  have hfrom : ∀ (steps : List AppStep) (facts : Facts),
      AList.lookup "result" (facts.update (steps.flatMap AppStep.entries)) =
        ((notedCode steps).map fun code => Json.str code.value).or
          (AList.lookup "result" facts) := by
    intro steps
    induction steps with
    | nil =>
      intro _
      rfl
    | cons step steps ih =>
      intro facts
      have happend : facts.update ((step :: steps).flatMap AppStep.entries) =
          (facts.update step.entries).update (steps.flatMap AppStep.entries) := by
        simp [Facts.update, List.foldl_append]
      rw [happend, ih, lookup_update_entries]
      simp only [notedCode, lastOf]
      rcases lastOf AppStep.code? steps with _ | code
      · simp
      · simp
  rw [notedFacts, hfrom, AList.lookup_empty, Option.or_none]

section Record

variable {b : Behaviour}

theorem mem_of_lookup_update {key : String} {value : Json} :
    ∀ {entries : List (String × Json)} {facts : Facts},
      AList.lookup key (Facts.update facts entries) = some value →
        (key, value) ∈ entries ∨ AList.lookup key facts = some value
  | [], _, h => Or.inr h
  | (name, v) :: entries, facts, h => by
    have hrest : AList.lookup key (Facts.update (facts.insert name v) entries) = some value := h
    rcases mem_of_lookup_update hrest with h | h
    · exact Or.inl (List.mem_cons_of_mem _ h)
    · by_cases hkey : key = name
      · subst hkey
        rw [AList.lookup_insert] at h
        cases h
        exact Or.inl List.mem_cons_self
      · rw [AList.lookup_insert_ne hkey] at h
        exact Or.inr h

/-- A noted route is the extract path, and `CallerAuth` noted it. -/
theorem extractRoute_of_lookup {steps : List AppStep} {value : Json}
    (h : AList.lookup "route" (notedFacts steps) = some value) :
    value = .str EXTRACT_PATH ∧ .note .extractRoute ∈ steps := by
  rcases mem_of_lookup_update h with hentry | hentry
  · obtain ⟨step, hstep, hmem⟩ := List.mem_flatMap.mp hentry
    rcases step with n | _ | _ | _ | _
    · rcases n with _ | _ | _ | _ | _ | _ | _ | _
      case extractRoute =>
        simp only [AppStep.entries, ServiceNote.entries, List.mem_singleton, Prod.mk.injEq,
          true_and] at hmem
        exact ⟨hmem, hstep⟩
      all_goals simp [AppStep.entries, ServiceNote.entries] at hmem
    all_goals cases hmem
  · rw [AList.lookup_empty] at hentry
    cases hentry

theorem lookup_loggedFacts_of_ne {key : String} (hkey : key ≠ "result") :
    AList.lookup key b.loggedFacts = AList.lookup key (notedFacts b.steps) := by
  unfold Behaviour.loggedFacts Facts.setdefault
  split_ifs
  · rfl
  · exact AList.lookup_insert_ne hkey
  · rfl

theorem lookup_result_loggedFacts :
    AList.lookup "result" b.loggedFacts =
      ((notedCode b.steps).map fun code => Json.str code.value).or
        (if b.Fails then some (.str (py "internal_error")) else none) := by
  have hnoted := lookup_result_notedFacts b.steps
  unfold Behaviour.loggedFacts Facts.setdefault
  split_ifs with hfails hmem
  · rw [hnoted]
    rcases hcode : notedCode b.steps with _ | code
    · rw [hcode] at hnoted
      exact absurd hmem (AList.lookup_eq_none.mp hnoted)
    · rfl
  · rw [AList.lookup_insert]
    rw [AList.lookup_eq_none.mpr hmem] at hnoted
    rw [← hnoted]
    rfl
  · rw [hnoted, Option.or_none]

/-- The noted route names the template that the router found, where it ran. -/
def Behaviour.RouteAgrees (b : Behaviour) : Prop :=
  .note .extractRoute ∈ b.steps → ∀ template, .routed template ∈ b.steps → template = EXTRACT_PATH

theorem linePath_spec (hagrees : b.RouteAgrees) :
    ∃ path, (linePath (lastOf AppStep.template? b.steps) b.loggedFacts).1 = .str path ∧
      (AList.lookup "route"
          (linePath (lastOf AppStep.template? b.steps) b.loggedFacts).2 = none ∨
        AList.lookup "route" (linePath (lastOf AppStep.template? b.steps) b.loggedFacts).2 =
          some (.str path)) := by
  have hroute : AList.lookup "route" b.loggedFacts = AList.lookup "route" (notedFacts b.steps) :=
    lookup_loggedFacts_of_ne (by decide)
  unfold linePath
  rcases htemplate : lastOf AppStep.template? b.steps with _ | template
  · simp only [hroute]
    rcases hnoted : AList.lookup "route" (notedFacts b.steps) with _ | value
    · exact ⟨_, rfl, Or.inl (hroute.trans hnoted)⟩
    · obtain ⟨rfl, -⟩ := extractRoute_of_lookup hnoted
      exact ⟨EXTRACT_PATH, rfl, Or.inl (AList.lookup_erase _ _)⟩
  · refine ⟨template, rfl, ?_⟩
    rcases hnoted : AList.lookup "route" (notedFacts b.steps) with _ | value
    · exact Or.inl (hroute.trans hnoted)
    · obtain ⟨rfl, hstep⟩ := extractRoute_of_lookup hnoted
      obtain ⟨step, hmem, hstep'⟩ := lastOf_eq_some_iff htemplate
      have hrouted : step = .routed template := by
        rcases step with _ | _ | _ | _ | _
        case routed =>
          cases hstep'
          rfl
        all_goals cases hstep'
      have hextract := hagrees hstep template (hrouted ▸ hmem)
      exact Or.inr (by rw [hextract]; exact hroute.trans hnoted)

theorem truthy_code (code : ErrorCode) : (Json.str code.value).truthy = true := by
  cases code <;> decide

/-- The names that every line has. -/
def BASE_FIELDS : List String := ["method", "route", "status", "duration_ms", "result"]

/-- What the record says of the behaviour. -/
structure TruthfulLine (b : Behaviour) (record : LogRecord) : Prop where
  status : AList.lookup "status" record.extra = some (match b.loggedStatus with
    | some status => .int status
    | none => .null)
  noted : ∀ code, notedCode b.steps = some code →
    AList.lookup "result" record.extra = some (.str code.value)
  fine : AList.lookup "result" record.extra = some (.str (py "ok")) →
    ¬ b.Fails ∧ ∃ status, started b.steps = some status ∧ status < 400
  extract : AList.lookup "route" record.extra = some (.str EXTRACT_PATH) →
    ∀ name ∈ EXTRACT_FIELDS, name ∈ record.extra
  other : AList.lookup "route" record.extra ≠ some (.str EXTRACT_PATH) →
    ∀ name value, AList.lookup name record.extra = some value →
      name ∈ BASE_FIELDS ∨ AList.lookup name (notedFacts b.steps) = some value

theorem lookup_base {key : String} {method : PyStr} {route : Option PyStr} {status : Option ℕ}
    {durationMs : ℚ} {facts : Facts}
    (hfact : key ∈ ALLOWED_FIELDS →
      AList.lookup key ((linePath route facts).2.erase "result") = none)
    (hextract : key ∉ EXTRACT_FIELDS) :
    AList.lookup key (accessRecord method route status durationMs facts).extra =
      AList.lookup key (Facts.update ∅ (baseFields method (linePath route facts).1 status
        durationMs (lineResult status (AList.lookup "result" (linePath route facts).2)))) := by
  have hdefault : lineDefault (linePath route facts).1 key = none := if_neg fun h => hextract h.2
  rw [lookup_accessRecord, hdefault, Option.or_none]
  split_ifs with hallowed
  · rw [hfact hallowed]
    rfl
  · rfl

variable {method : PyStr} {durationMs : ℚ}

theorem lookup_status_record :
    AList.lookup "status" (b.record method durationMs).extra = some (match b.loggedStatus with
      | some status => .int status
      | none => .null) := by
  have hunnoted : AList.lookup "status" b.loggedFacts = none := by
    rw [lookup_loggedFacts_of_ne (by decide)]
    apply lookup_notedFacts_of_unnoted
    intro step _ entry hentry
    rcases step with n | _ | _ | _ | _
    · have hunfixed := n.unfixed entry hentry
      intro hkey
      rw [hkey] at hunfixed
      simp at hunfixed
    all_goals cases hentry
  rw [Behaviour.record, lookup_base _ (by decide)]
  · simp [baseFields, Facts.update, AList.lookup_insert_ne]
  · intro _
    rw [AList.lookup_erase_ne (by decide), linePath_lookup (by decide), hunnoted]

theorem lookup_result_record :
    AList.lookup "result" (b.record method durationMs).extra =
      some (lineResult b.loggedStatus (AList.lookup "result" b.loggedFacts)) := by
  rw [Behaviour.record, lookup_base (fun _ => AList.lookup_erase _ _) (by decide)]
  simp [baseFields, Facts.update, linePath_lookup]

theorem lookup_route_record (hagrees : b.RouteAgrees) :
    AList.lookup "route" (b.record method durationMs).extra =
      some (linePath (lastOf AppStep.template? b.steps) b.loggedFacts).1 := by
  obtain ⟨path, hpath, hnone | hsame⟩ := linePath_spec hagrees
  · rw [Behaviour.record, lookup_base _ (by decide)]
    · simp [baseFields, Facts.update, AList.lookup_insert_ne]
    · intro _
      rw [AList.lookup_erase_ne (by decide), hnone]
  · rw [Behaviour.record, lookup_accessRecord, if_pos (by decide),
      AList.lookup_erase_ne (by decide), hsame, hpath]
    rfl

/-- A result of `"ok"` was neither noted nor the failure's. -/
theorem fine_of_ok (h : lineResult b.loggedStatus (AList.lookup "result" b.loggedFacts) =
    .str (py "ok")) : ¬ b.Fails ∧ ∃ status, started b.steps = some status ∧ status < 400 := by
  have hcode : ∀ code : ErrorCode, code.value ≠ py "ok" := by
    intro code
    cases code <;> decide
  rw [lookup_result_loggedFacts] at h
  rcases hnoted : notedCode b.steps with _ | code
  · rw [hnoted] at h
    by_cases hfails : b.Fails
    · rw [if_pos hfails, Option.map_none, Option.none_or] at h
      have hresult : Json.str (py "internal_error") = .str (py "ok") := h
      exact absurd (Json.str.inj hresult) (by decide)
    · refine ⟨hfails, ?_⟩
      rw [if_neg hfails, Behaviour.loggedStatus, if_neg hfails, Option.or_none] at h
      rcases hstarted : started b.steps with _ | status
      · rw [hstarted] at h
        have hresult : Json.str (py "client_disconnect") = .str (py "ok") := h
        exact absurd (Json.str.inj hresult) (by decide)
      · rw [hstarted] at h
        refine ⟨status, rfl, ?_⟩
        by_contra hlarge
        have hresult : (Json.str (py "http_" ++ decimal status)) = .str (py "ok") := by
          simpa [lineResult, hlarge] using h
        have hhead : (py "http_" ++ decimal status).head? = (py "ok").head? :=
          congrArg List.head? (Json.str.inj hresult)
        have hfirst : (py "http_" ++ decimal status).head? = (py "http_").head? := rfl
        rw [hfirst] at hhead
        exact absurd hhead (by decide)
  · rw [hnoted] at h
    have htruthy := truthy_code code
    simp only [Option.map_some, Option.some_or, lineResult, htruthy, if_true] at h
    exact absurd (Json.str.inj h) (hcode code)

theorem truthfulLine_record (hagrees : b.RouteAgrees) :
    TruthfulLine b (b.record method durationMs) where
  status := lookup_status_record
  noted := by
    intro code hcode
    rw [lookup_result_record, lookup_result_loggedFacts, hcode]
    simp [lineResult, truthy_code]
  fine := by
    intro h
    rw [lookup_result_record] at h
    exact fine_of_ok (Option.some.inj h)
  extract := by
    intro hroute name hname
    rw [lookup_route_record hagrees] at hroute
    have hline : isExtractLine
        (linePath (lastOf AppStep.template? b.steps) b.loggedFacts).1 = true := by
      rw [Option.some.inj hroute]
      exact decide_eq_true (Eq.refl EXTRACT_PATH)
    have hdefault : lineDefault (linePath (lastOf AppStep.template? b.steps) b.loggedFacts).1 name =
        some .null := if_pos ⟨hline, hname⟩
    rw [← AList.lookup_isSome, Behaviour.record, lookup_accessRecord, hdefault]
    simp
  other := by
    intro hroute name value hvalue
    rw [lookup_route_record hagrees] at hroute
    have hline : ¬ isExtractLine
        (linePath (lastOf AppStep.template? b.steps) b.loggedFacts).1 = true := by
      obtain ⟨path, hpath, -⟩ := linePath_spec hagrees
      rw [hpath] at hroute ⊢
      intro h
      exact hroute (by rw [of_decide_eq_true h])
    have hdefault : lineDefault (linePath (lastOf AppStep.template? b.steps) b.loggedFacts).1 name =
        none := if_neg fun h => hline h.1
    rw [Behaviour.record, lookup_accessRecord, hdefault, Option.or_none] at hvalue
    rcases Option.or_eq_some_iff.mp hvalue with hfact | ⟨-, hbase⟩
    · by_cases hresult : name = "result"
      · exact Or.inl (by rw [hresult]; decide)
      · by_cases hnamed : name = "route"
        · exact Or.inl (by rw [hnamed]; decide)
        · right
          split_ifs at hfact
          rwa [AList.lookup_erase_ne hresult, linePath_lookup hnamed,
            lookup_loggedFacts_of_ne hresult] at hfact
    · left
      rcases mem_of_lookup_update hbase with hentry | hentry
      · simp only [baseFields, List.mem_cons, Prod.mk.injEq, List.not_mem_nil, or_false] at hentry
        rcases hentry with h | h | h | h | h
        all_goals
          rw [h.1]
          decide
      · rw [AList.lookup_empty] at hentry
        cases hentry

end Record

/-- **One access line for each request, and it tells the truth**, whatever the application
    below the middleware does. -/
theorem access_line_truthful (uuid : List (Fin 16)) (durationMs : ℚ) (b : Behaviour)
    {scope : Scope} (hhttp : scope.type = .http) {receive : Receive S} {send : Send S}
    (hreceive : Passive receive) (hsend : ∀ message, Passive (send message)) (c : Connection S)
    (hroute : c.route = none) (hagrees : b.RouteAgrees) :
    ∃ record,
      accessLines (finalState
          ((requestContext uuid durationMs b.app scope receive send).run c)).world.log =
        accessLines c.world.log ++ [record] ∧
      TruthfulLine b record :=
  ⟨_, accessLines_requestContext uuid durationMs b hhttp hreceive hsend c hroute,
    truthfulLine_record hagrees⟩

theorem passive_serverReceive : Passive (serverReceive (S := S)) := by
  intro c
  rcases hincoming : c.incoming with _ | ⟨message, incoming⟩
  · exact ⟨.httpDisconnect, c, by simp [serverReceive, hincoming], rfl⟩
  · exact ⟨message, { c with incoming := incoming }, by simp [serverReceive, hincoming], rfl⟩

theorem passive_serverSend (message : SendMessage) : Passive (serverSend (S := S) message) :=
  fun _ => ⟨(), _, rfl, rfl⟩

/-- A request that `CallerAuth` refuses. -/
def refusedBehaviour : Behaviour where
  steps := [.note .extractRoute, .note (.errorCode .unauthorized), .send (.responseStart 401 []),
    .send (.responseBody none)]
  raised := none

theorem access_line_truthful_refused :
    ∃ record,
      accessLines (finalState ((requestContext [] 0 refusedBehaviour.app
          { method := py "POST", path := EXTRACT_PATH, headers := [] }
          serverReceive serverSend).run (.opened (freshWorld () 10) []))).world.log =
        accessLines (freshWorld () 10).log ++ [record] ∧
      TruthfulLine refusedBehaviour record := by
  refine access_line_truthful [] 0 refusedBehaviour rfl passive_serverReceive passive_serverSend
    (.opened (freshWorld () 10) []) rfl ?_
  intro _ template htemplate
  simp [refusedBehaviour] at htemplate

end ExtractApi
