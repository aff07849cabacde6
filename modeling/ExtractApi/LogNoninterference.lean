import ExtractApi.AccessLine
import ExtractApi.PairedEndpoints
import ExtractApi.PostRoute

/-!
# Log lines do not carry the request

A `Visit` is a request with all that it finds.  `AgreeingPosts` and `SameVerdicts` are what two
posts have to agree on for their log lines to be the same: `log_indistinguishable`.  Texts,
keys, tokens and what the model and the provider said are not among it.
-/

namespace ExtractApi

open PythonText JsonValue RaisingProgram PairedRuns

variable {S M V : Type}

/-! ## Posts -/

/-- A request, and what it finds. -/
structure Visit (S : Type) where
  occasion : Occasion S
  scope : Scope
  incoming : List ReceiveMessage
  world : World S

/-- How far a post gets. -/
inductive Arrival where
  | unauthorized
  | tooLarge
  | failed (exc : PyExc)
  | parsed (request : ExtractRequest)

/-- The same, as far as the log tells. -/
inductive SameArrival : Arrival → Arrival → Prop
  | unauthorized : SameArrival .unauthorized .unauthorized
  | tooLarge : SameArrival .tooLarge .tooLarge
  | failed {exc exc' : PyExc} : SameFailure exc exc' → SameArrival (.failed exc) (.failed exc')
  | parsed (request request' : ExtractRequest) : SameArrival (.parsed request) (.parsed request')

section Posts

variable (process : Process S M V)

def Visit.arrival (v : Visit S) : Arrival :=
  if presentsKey process.libs.sha256 process.environment.keyHashes v.scope = false then
    .unauthorized
  else if declaresOver process.environment.maxBodyBytes v.scope then .tooLarge
  else
    match readMessages (some process.environment.maxBodyBytes) [] v.incoming with
    | .tooLarge => .tooLarge
    | .clientGone => .failed bodyParsingError
    | .complete body =>
        match parseBody process.framework v.scope body with
        | .error exc => .failed exc
        | .ok request => .parsed request

/-- The endpoint on a request, with its answer rendered. -/
def Visit.served (v : Visit S) (request : ExtractRequest) : Service S HttpResponse := do
  let answer ← extract process.libs v.occasion.toSurroundings request (idempotencyKey v.scope)
  liftExcept (renderExtract answer)

def Visit.answered (v : Visit S) : Arrival → Service S HttpResponse
  | .unauthorized =>
      if process.environment.keyHashes = [] then notConfiguredResponse else unauthorizedResponse
  | .tooLarge => bodyTooLargeResponse process.environment.maxBodyBytes
  | .failed exc => handleException exc
  | .parsed request => tryCatch (v.served process request) handleException

/-- A post is answered by how far it gets. -/
theorem reply_of_post {v : Visit S} (hpost : IsExtractPost v.scope) :
    reply process v.occasion v.scope v.incoming =
      (note [("route", .str EXTRACT_PATH)] >>= fun _ =>
        v.answered process (v.arrival process)) := by
  have hopen := isOpenPath_of_extract hpost.path
  have hrouting := routing_of_extract hpost.method hpost.path
  have hreads : readsBody v.scope = true := readsBody_of_extract hpost.method hpost.path
  unfold reply
  rw [if_neg (by simp [hopen])]
  have hnote : noteExtractRoute (S := S) v.scope = note [("route", .str EXTRACT_PATH)] :=
    if_pos hpost.path
  rw [hnote]
  congr 1
  funext _
  have hthrow : ∀ exc : PyExc, tryCatch (throw exc : Service S HttpResponse) handleException =
      handleException exc := fun _ => rfl
  unfold Visit.arrival
  rcases hkey : presentsKey process.libs.sha256 process.environment.keyHashes v.scope with _ | _
  · simp only [Bool.false_eq_true, if_false, if_true]
    rfl
  rw [if_neg (keyHashes_ne_nil hkey), if_pos rfl, if_neg (by simp)]
  unfold capped
  by_cases hdeclared : declaresOver process.environment.maxBodyBytes v.scope = true
  · simp only [hdeclared, if_true]
    rfl
  simp only [hdeclared, hreads, true_and]
  rcases hread : readMessages (some process.environment.maxBodyBytes) [] v.incoming with
    body | _ | _
  · simp only [reduceCtorEq, if_false, handled, dispatch, hrouting, apiRoute, endpointReply,
      extractReply, extractEndpoint]
    rcases hparse : parseBody process.framework v.scope body with exc | request
    · exact hthrow exc
    · rfl
  · simp only [reduceCtorEq, if_false, handled, dispatch, hrouting, apiRoute, endpointReply,
      extractReply]
    exact hthrow bodyParsingError
  · simp only [if_true]
    rfl

/-! ## Agreement -/

/-- The extraction is run: there is no key, or the store misses it. -/
def Visit.Extracts (v : Visit S) (request : ExtractRequest) : Prop :=
  ∀ key, idempotencyKey v.scope = some key →
    (storeOutcome process.libs v.occasion.toSurroundings request key v.world.store).kind = .miss

variable (v v' : Visit S)

/-- What two posts agree on: the budget, whether there is a key, and of the requests that they
    carry the shape, what the store says, and what the extraction meets. -/
structure AgreeingPosts : Prop where
  budget : v.world.budget = v'.world.budget
  keyed : (idempotencyKey v.scope).isSome = (idempotencyKey v'.scope).isSome
  shape : ∀ request request', v.arrival process = .parsed request →
    v'.arrival process = .parsed request' → request.shape = request'.shape
  stored : ∀ request request', v.arrival process = .parsed request →
    v'.arrival process = .parsed request' → ∀ key key', idempotencyKey v.scope = some key →
    idempotencyKey v'.scope = some key' →
      (storeOutcome process.libs v.occasion.toSurroundings request key v.world.store).kind =
        (storeOutcome process.libs v'.occasion.toSurroundings request' key' v'.world.store).kind
  extraction : ∀ request request', v.arrival process = .parsed request →
    v'.arrival process = .parsed request' → v.Extracts process request →
    v'.Extracts process request' →
      AgreeingExtractions process.libs v.occasion.toSurroundings v'.occasion.toSurroundings request
        request' v.world.budget

/-- What the lines tell besides: whether the key and the body are accepted, what a replay
    names, whether the content is blank, and whether the texts can be written and stored. -/
structure SameVerdicts : Prop where
  arrival : SameArrival (v.arrival process) (v'.arrival process)
  looked : ∀ request request', v.arrival process = .parsed request →
    v'.arrival process = .parsed request' → ∀ key key', idempotencyKey v.scope = some key →
    idempotencyKey v'.scope = some key' →
      SameOutcome
        (storeOutcome process.libs v.occasion.toSurroundings request key v.world.store)
        (storeOutcome process.libs v'.occasion.toSurroundings request' key' v'.world.store)
  content : ∀ request request', v.arrival process = .parsed request →
    v'.arrival process = .parsed request' → v.Extracts process request →
    v'.Extracts process request' →
      SameContentVerdicts process.libs v.occasion.toSurroundings v'.occasion.toSurroundings request
        request' v.world.budget
  rendered : ∀ request request', v.arrival process = .parsed request →
    v'.arrival process = .parsed request' → idempotencyKey v.scope = none →
    idempotencyKey v'.scope = none → ∀ response response',
      Accepts process.libs v.occasion.toSurroundings request v.world.budget response →
      Accepts process.libs v'.occasion.toSurroundings request' v.world.budget response' →
        response.encodable = response'.encodable
  storing : ∀ request request', v.arrival process = .parsed request →
    v'.arrival process = .parsed request' → ∀ key key', idempotencyKey v.scope = some key →
    idempotencyKey v'.scope = some key' →
      SameStoring process.libs v.occasion.toSurroundings v'.occasion.toSurroundings request request'
        v.world.budget
        (storeOutcome process.libs v.occasion.toSurroundings request key v.world.store)
        (storeOutcome process.libs v'.occasion.toSurroundings request' key' v'.world.store)

variable {process v v'} {log log' : List LogRecord}

theorem noteRequest_entries {request request' : ExtractRequest}
    (hshape : request.shape = request'.shape) (keyed : Bool) :
    (ServiceNote.ofRequest request keyed).entries =
      (ServiceNote.ofRequest request' keyed).entries := by
  simp only [ExtractRequest.shape, Shape.mk.injEq] at hshape
  obtain ⟨hdoc, hversion, hprovider, hformat, hbytes⟩ := hshape
  simp only [ServiceNote.entries, hdoc, hversion, hprovider, hformat, hbytes]

theorem Visit.served_run (v : Visit S) (request : ExtractRequest) (w : World S) :
    ((extract process.libs v.occasion.toSurroundings request (idempotencyKey v.scope)).run w) =
      (match idempotencyKey v.scope with
        | none => runExtract process.libs v.occasion.toSurroundings request >>= fun response =>
            noteMeta response.extractMeta >>= fun _ => pure (response, none)
        | some key => keyedEndpoint process.libs v.occasion.toSurroundings request key).run
        { w with
          facts := w.facts.map fun bag => Facts.update bag
            (ServiceNote.ofRequest request (idempotencyKey v.scope).isSome).entries } := by
  unfold extract
  cases idempotencyKey v.scope <;> rfl

theorem related_extract {request request' : ExtractRequest} (hagree : AgreeingPosts process v v')
    (hverdicts : SameVerdicts process v v') (hparsed : v.arrival process = .parsed request)
    (hparsed' : v'.arrival process = .parsed request') {w w' : World S}
    (hw : Indistinct log log' w w') (hbudget : w.budget = v.world.budget)
    (hstore : w.store = v.world.store) (hstore' : w'.store = v'.world.store) :
    Related (Indistinct log log') SameAnswer SameFailure
      ((extract process.libs v.occasion.toSurroundings request (idempotencyKey v.scope)).run w)
      ((extract process.libs v'.occasion.toSurroundings request' (idempotencyKey v'.scope)).run
        w') := by
  have hshape := hagree.shape request request' hparsed hparsed'
  have hnoted : Indistinct log log'
      { w with
        facts := w.facts.map fun bag => bag.update
          (ServiceNote.ofRequest request (idempotencyKey v.scope).isSome).entries }
      { w' with
        facts := w'.facts.map fun bag => bag.update
          (ServiceNote.ofRequest request' (idempotencyKey v'.scope).isSome).entries } := by
    rw [← hagree.keyed, ← noteRequest_entries hshape]
    exact hw.noted (by simp [ServiceNote.entries])
  rw [Visit.served_run, Visit.served_run]
  -- both posts carry a key, or neither does
  rcases hkey : idempotencyKey v.scope with _ | key
  · rcases hkey' : idempotencyKey v'.scope with _ | key'
    · have hextracts : v.Extracts process request := by
        intro key hsome
        rw [hkey] at hsome
        cases hsome
      have hextracts' : v'.Extracts process request' := by
        intro key hsome
        rw [hkey'] at hsome
        cases hsome
      rw [hkey, hkey'] at hnoted
      exact related_keyless hshape
        (hagree.extraction request request' hparsed hparsed' hextracts hextracts')
        (hverdicts.content request request' hparsed hparsed' hextracts hextracts')
        (hverdicts.rendered request request' hparsed hparsed' hkey hkey') hnoted hbudget
    · have hkeyed := hagree.keyed
      rw [hkey, hkey'] at hkeyed
      cases hkeyed
  · rcases hkey' : idempotencyKey v'.scope with _ | key'
    · have hkeyed := hagree.keyed
      rw [hkey, hkey'] at hkeyed
      cases hkeyed
    · have hkind := hagree.stored request request' hparsed hparsed' key key' hkey hkey'
      have hlooked := hverdicts.looked request request' hparsed hparsed' key key' hkey hkey'
      have hstoring := hverdicts.storing request request' hparsed hparsed' key key' hkey hkey'
      rw [hkey, hkey'] at hnoted
      rw [← hstore, ← hstore'] at hlooked hstoring
      apply related_keyedEndpoint hshape hnoted hbudget hlooked _ hstoring
      -- a miss runs the extraction, and agreement on misses is agreement on it
      intro hmiss
      rw [hstore] at hmiss
      have hextracts : v.Extracts process request := by
        intro key₁ hsome
        rw [hkey] at hsome
        cases hsome
        exact hmiss
      have hextracts' : v'.Extracts process request' := by
        intro key₁ hsome
        rw [hkey'] at hsome
        cases hsome
        rw [← hkind]
        exact hmiss
      exact ⟨hagree.extraction request request' hparsed hparsed' hextracts hextracts',
        hverdicts.content request request' hparsed hparsed' hextracts hextracts'⟩

/-- The answers to two posts, whatever each of them gets to. -/
theorem related_answered (hagree : AgreeingPosts process v v')
    (hverdicts : SameVerdicts process v v') {w w' : World S} (hw : Indistinct log log' w w')
    (hbudget : w.budget = v.world.budget) (hstore : w.store = v.world.store)
    (hstore' : w'.store = v'.world.store) :
    Related (Indistinct log log') (fun r r' => r.status = r'.status) SameFailure
      ((v.answered process (v.arrival process)).run w)
      ((v'.answered process (v'.arrival process)).run w') := by
  have harrival := hverdicts.arrival
  generalize ha : v.arrival process = a at harrival ⊢
  generalize ha' : v'.arrival process = a' at harrival ⊢
  cases harrival with
  | unauthorized =>
    show Related _ _ _ ((if _ then _ else _ : Service S HttpResponse).run w)
      ((if _ then _ else _ : Service S HttpResponse).run w')
    split
    · exact coupled_errorResponse _ rfl rfl w w' hw
    · exact coupled_errorResponse _ rfl rfl w w' hw
  | tooLarge => exact coupled_errorResponse _ rfl rfl w w' hw
  | failed hexc => exact coupled_handleException hexc w w' hw
  | parsed request request' =>
    have hserved : Related (Indistinct log log') (fun r r' => r.status = r'.status) SameFailure
        ((v.served process request).run w) ((v'.served process request').run w') := by
      apply Related.bind (related_extract hagree hverdicts ha ha' hw hbudget hstore hstore')
      intro answer answer' h
      exact coupled_liftExcept (matched_renderExtract h)
    exact hserved.tryCatch fun exc exc' hexc => coupled_handleException hexc

/-! ## The lines -/

theorem linePath_onRoute {route : Option PyStr} (hroute : route = none ∨ route = some EXTRACT_PATH)
    {facts : Facts} (hnoted : AList.lookup "route" facts = some (.str EXTRACT_PATH)) :
    (linePath route facts).1 = .str EXTRACT_PATH := by
  have htruthy : (Json.str EXTRACT_PATH).truthy = true := by decide
  rcases hroute with rfl | rfl
  · simp [linePath, hnoted, htruthy]
  · rfl

/-- The noted route is popped, or names the route again. -/
theorem lookup_route_linePath {route : Option PyStr}
    (hroute : route = none ∨ route = some EXTRACT_PATH) {facts : Facts}
    (hnoted : AList.lookup "route" facts = some (.str EXTRACT_PATH)) :
    (AList.lookup "route" ((linePath route facts).2.erase "result")).or
        (some (.str EXTRACT_PATH)) = some (.str EXTRACT_PATH) := by
  rw [AList.lookup_erase_ne (by decide)]
  rcases hroute with rfl | rfl
  · simp [linePath, hnoted, AList.lookup_erase]
  · simp [linePath, hnoted]

theorem lookup_baseFields {key : String} (hkey : key ≠ "duration_ms") (method : PyStr)
    (path result : Json) (status : Option ℕ) (durationMs durationMs' : ℚ) :
    AList.lookup key (Facts.update ∅ (baseFields method path status durationMs result)) =
      AList.lookup key (Facts.update ∅ (baseFields method path status durationMs' result)) := by
  unfold baseFields Facts.update
  simp only [List.foldl_cons, List.foldl_nil]
  by_cases hresult : key = "result"
  · subst hresult
    simp
  · simp [AList.lookup_insert_ne hresult, AList.lookup_insert_ne hkey]

/-- The access lines of two posts with the same facts. -/
theorem sameLine_accessRecord {route route' : Option PyStr}
    (hroute : route = none ∨ route = some EXTRACT_PATH)
    (hroute' : route' = none ∨ route' = some EXTRACT_PATH) {facts : Facts}
    (hnoted : AList.lookup "route" facts = some (.str EXTRACT_PATH)) (method : PyStr)
    (status : Option ℕ) (durationMs durationMs' : ℚ) :
    SameLine (accessRecord method route status durationMs facts)
      (accessRecord method route' status durationMs' facts) := by
  refine ⟨rfl, rfl, rfl, rfl, ?_⟩
  intro key hkey
  have hpath := linePath_onRoute hroute hnoted
  have hpath' := linePath_onRoute hroute' hnoted
  have hresult := linePath_lookup (show "result" ≠ "route" by decide) route facts
  have hresult' := linePath_lookup (show "result" ≠ "route" by decide) route' facts
  rw [lookup_accessRecord, lookup_accessRecord, hpath, hpath', hresult, hresult',
    lookup_baseFields hkey _ _ _ _ durationMs durationMs']
  by_cases hnamed : key = "route"
  · subst hnamed
    have hunlisted : "route" ∉ EXTRACT_FIELDS := by decide
    have hdefault : lineDefault (.str EXTRACT_PATH) "route" = none :=
      if_neg fun h => hunlisted h.2
    have hbase : AList.lookup "route" (Facts.update ∅ (baseFields method (.str EXTRACT_PATH) status
        durationMs' (lineResult status (AList.lookup "result" facts)))) =
          some (.str EXTRACT_PATH) := by
      simp [baseFields, Facts.update, AList.lookup_insert_ne]
    rw [if_pos (by decide), if_pos (by decide), hdefault, Option.or_none, Option.or_none, hbase,
      lookup_route_linePath hroute hnoted, lookup_route_linePath hroute' hnoted]
  · by_cases hkeyed : key = "result"
    · subst hkeyed
      simp [AList.lookup_erase]
    · rw [AList.lookup_erase_ne hkeyed, AList.lookup_erase_ne hkeyed, linePath_lookup hnamed,
        linePath_lookup hnamed]

variable (process) in
/-- The lines that are written for the request. -/
def Visit.lines (v : Visit S) : List LogRecord :=
  (handleRequest process v.occasion v.scope v.incoming v.world).world.log.drop v.world.log.length

/-- The world in which a post is answered, with its route noted. -/
def Visit.begun (v : Visit S) : World S :=
  { v.world with facts := some (Facts.update ∅ [("route", .str EXTRACT_PATH)]) }

theorem indistinct_begun (hbudget : v.world.budget = v'.world.budget) :
    Indistinct v.world.log v'.world.log v.begun v'.begun := by
  refine ⟨hbudget, rfl, ?_, [], [], ?_, ?_, .nil⟩
  · simp only [Visit.begun, World.fact, Facts.update, List.foldl_cons, List.foldl_nil,
      Option.bind_some, AList.lookup_insert]
  · simp [Visit.begun]
  · simp [Visit.begun]

theorem reply_run_of_post (hpost : IsExtractPost v.scope) :
    (reply process v.occasion v.scope v.incoming).run { v.world with facts := some ∅ } =
      (v.answered process (v.arrival process)).run v.begun := by
  rw [reply_of_post process hpost]
  rfl

/-- The world in which the access line was written. -/
theorem Indistinct.accessed {w w' : World S} (h : Indistinct log log' w w') {scope scope' : Scope}
    (hmethod : scope.method = scope'.method) {route route' : Option PyStr}
    (hroute : route = none ∨ route = some EXTRACT_PATH)
    (hroute' : route' = none ∨ route' = some EXTRACT_PATH) (status : ℕ)
    (durationMs durationMs' : ℚ) :
    Indistinct log log' (w.logged scope route status durationMs)
      (w'.logged scope' route' status durationMs') := by
  apply h.logged
  rw [← h.facts, ← hmethod]
  have hnoted := h.route
  rcases hfacts : w.facts with _ | bag
  · simp [World.fact, hfacts] at hnoted
  · apply sameLine_accessRecord hroute hroute'
    simpa [World.fact, hfacts] using hnoted

theorem Indistinct.failed {w w' : World S} (h : Indistinct log log' w w') :
    Indistinct log log' w.failed w'.failed := by
  refine ⟨h.budget, congrArg (Option.map fun bag => Facts.setdefault bag "result" _) h.facts, ?_,
    h.lines⟩
  have hnoted := h.route
  rcases hfacts : w.facts with _ | bag
  · simp [World.fact, hfacts] at hnoted
  · simp only [World.fact, hfacts, Option.bind_some] at hnoted
    simp only [World.failed, World.fact, hfacts, Option.map_some, Option.bind_some,
      Facts.setdefault]
    split
    · exact hnoted
    · rw [AList.lookup_insert_ne (by decide), hnoted]

/-- The catch-all logs the class of what was raised. -/
theorem coupled_handleUnexpected {rid rid' : PyStr} (hlatin : isLatin1 rid = true)
    (hlatin' : isLatin1 rid' = true) {exc exc' : PyExc} (h : SameFailure exc exc') :
    Coupled (Indistinct (S := S) log log') (fun r r' => r.status = r'.status) SameFailure
      (handleUnexpected (some rid) exc) (handleUnexpected (some rid') exc') := by
  apply Coupled.bind (A := fun _ _ => True)
  · rw [h.className]
    exact coupled_emit (SameLine.refl _)
  · intro _ _ _
    apply coupled_errorResponse _ rfl
    simp [hlatin, hlatin']

/-- The lines since the request began. -/
theorem Indistinct.dropped {w w' : World S} (h : Indistinct log log' w w') :
    List.Forall₂ SameLine (w.log.drop log.length) (w'.log.drop log'.length) := by
  obtain ⟨lines, lines', hlog, hlog', hlines⟩ := h.lines
  rw [hlog, hlog', List.drop_left, List.drop_left]
  exact hlines

/-- **Log lines describe a post without carrying it**: two posts that agree on what the service
    is told to log, and on its verdicts, write the same lines, whatever their texts, keys and
    tokens are and whatever the model and the provider said. -/
theorem log_indistinguishable (process : Process S M V) (v v' : Visit S)
    (hpost : IsExtractPost v.scope) (hpost' : IsExtractPost v'.scope)
    (hagree : AgreeingPosts process v v') (hverdicts : SameVerdicts process v v') :
    List.Forall₂ SameLine (v.lines process) (v'.lines process) := by
  have hmethod : v.scope.method = v'.scope.method := hpost.method.trans hpost'.method.symm
  have hroute := handleRequest_onRoute process v.occasion hpost v.incoming v.world
  have hroute' := handleRequest_onRoute process v'.occasion hpost' v'.incoming v'.world
  have hspec := handleRequest_refines process v.occasion hpost.http v.incoming v.world
  have hspec' := handleRequest_refines process v'.occasion hpost'.http v'.incoming v'.world
  have hrelated := related_answered hagree hverdicts (indistinct_begun hagree.budget) rfl rfl rfl
  rw [reply_run_of_post hpost] at hspec
  rw [reply_run_of_post hpost'] at hspec'
  have hfinal : ∃ w w' : World S, Indistinct v.world.log v'.world.log w w' ∧
      w.log = (handleRequest process v.occasion v.scope v.incoming v.world).world.log ∧
      w'.log = (handleRequest process v'.occasion v'.scope v'.incoming v'.world).world.log := by
    generalize (v.answered process (v.arrival process)).run v.begun = result at hrelated hspec
    generalize (v'.answered process (v'.arrival process)).run v'.begun = result' at hrelated hspec'
    cases hrelated with
    | returned hstatus hw =>
      obtain ⟨-, hworld⟩ := hspec
      obtain ⟨-, hworld'⟩ := hspec'
      rw [← hstatus] at hworld'
      exact ⟨_, _, hw.accessed hmethod hroute hroute' _ _ _, by rw [hworld], by rw [hworld']⟩
    | raised hexc hw =>
      obtain ⟨r, hanswer, -, -⟩ := hspec
      obtain ⟨r', hanswer', -, -⟩ := hspec'
      have hunexpected := coupled_handleUnexpected
        (isLatin1_incomingRequestId v.scope v.occasion.uuid)
        (isLatin1_incomingRequestId v'.scope v'.occasion.uuid) hexc _ _
        (hw.failed.accessed hmethod hroute hroute' 500 v.occasion.durationMs
          v'.occasion.durationMs)
      rw [hanswer, hanswer'] at hunexpected
      exact ⟨_, _, hunexpected.states, rfl, rfl⟩
  obtain ⟨w, w', hw, hlog, hlog'⟩ := hfinal
  unfold Visit.lines
  rw [← hlog, ← hlog']
  exact hw.dropped

theorem Visit.arrival_eq_parsed {body : List Byte} {request : ExtractRequest}
    (hkey : presentsKey process.libs.sha256 process.environment.keyHashes v.scope = true)
    (hdeclared : declaresOver process.environment.maxBodyBytes v.scope = false)
    (hread : readMessages (some process.environment.maxBodyBytes) [] v.incoming = .complete body)
    (hparse : parseBody process.framework v.scope body = .ok request) :
    v.arrival process = .parsed request := by
  simp [Visit.arrival, hkey, hdeclared, hread, hparse]

theorem agreeingPosts_of_parsed {request request' : ExtractRequest}
    (h : v.arrival process = .parsed request) (h' : v'.arrival process = .parsed request')
    (hbudget : v.world.budget = v'.world.budget)
    (hkeyed : (idempotencyKey v.scope).isSome = (idempotencyKey v'.scope).isSome)
    (hshape : request.shape = request'.shape)
    (hstored : ∀ key key', idempotencyKey v.scope = some key → idempotencyKey v'.scope = some key' →
      (storeOutcome process.libs v.occasion.toSurroundings request key v.world.store).kind =
        (storeOutcome process.libs v'.occasion.toSurroundings request' key' v'.world.store).kind)
    (hextraction : v.Extracts process request → v'.Extracts process request' →
      AgreeingExtractions process.libs v.occasion.toSurroundings v'.occasion.toSurroundings request
        request' v.world.budget) : AgreeingPosts process v v' where
  budget := hbudget
  keyed := hkeyed
  shape := by
    intro _ _ hparsed hparsed'
    cases h.symm.trans hparsed
    cases h'.symm.trans hparsed'
    exact hshape
  stored := by
    intro _ _ hparsed hparsed'
    cases h.symm.trans hparsed
    cases h'.symm.trans hparsed'
    exact hstored
  extraction := by
    intro _ _ hparsed hparsed'
    cases h.symm.trans hparsed
    cases h'.symm.trans hparsed'
    exact hextraction

end Posts

/-! ## Samples -/

def textRequest (content : String) : ExtractRequest where
  docType := .invoice
  content := py content

def textJson (content : String) : String :=
  "\x7b\"doc_type\":\"invoice\",\"content\":\"" ++ content ++ "\"\x7d"

def textBody (content : String) : List Byte := bytes (textJson content)

/-- The framework, on the bodies of the contents `"    "`, `"abcd"` and `"wxyz"`. -/
def textFramework : Framework String where
  isJson _ := true
  loadsText text :=
    if text = py (textJson "    ") then .ok "    "
    else if text = py (textJson "abcd") then .ok "abcd"
    else if text = py (textJson "wxyz") then .ok "wxyz"
    else .error (.jsonDecodeError 0 (py "Expecting value"))
  validateBody
    | .json content => .ok (textRequest content)
    | _ => .error [⟨[.key (py "body")], py "missing", py "Field required", .null⟩]
  redirectUrl scope := py "http://testserver" ++ scope.path

/-- SHA-256 of `key2`. -/
def secondDigest : List Byte :=
  [177, 2, 83, 118, 76, 139, 35, 63, 179, 117, 66, 226, 52, 1, 199, 180, 80, 229, 166, 249, 117, 31,
    59, 90, 1, 79, 111, 103, 232, 188, 153, 157]

/-- SHA-256 of the payload of `textRequest "abcd"`. -/
def payloadDigest : List Byte :=
  [45, 95, 226, 191, 53, 96, 106, 150, 66, 254, 36, 10, 66, 116, 175, 40, 188, 55, 246, 57, 228, 6,
    2, 95, 52, 84, 42, 148, 15, 143, 120, 182]

/-- A stored response of the model, and its JSON text. -/
def replayResponse (model : String) : ExtractResponse where
  data := []
  extractMeta :=
    { provider := py "openai"
      model := py model
      schemaVersion := py "v1"
      attempts := 1
      fieldConfidence := []
      costUsd := 1
      latencyMs := 1 }

def replayText (model : String) : PyStr :=
  py ("\x7b\"data\":\x7b\x7d,\"meta\":\x7b\"provider\":\"openai\",\"model\":\"" ++ model ++
    "\",\"schema_version\":\"v1\",\"attempts\":1,\"replayed\":false," ++
    "\"field_confidence\":\x7b\x7d,\"cost_usd\":1.0,\"latency_ms\":1.0\x7d\x7d")

/-- A process that accepts the keys `key` and `key2`. -/
def textProcess : Process Unit Unit String where
  libs :=
    { sampleLibs with
      sha256 data :=
        if data = bytes "key" then sampleDigest
        else if data = bytes "key2" then secondDigest
        else payloadDigest
      validateResponse text :=
        if text = replayText "gpt" then .ok (replayResponse "gpt")
        else if text = replayText "gpt-5" then .ok (replayResponse "gpt-5")
        else .error (py "ValidationError") }
  framework := textFramework
  environment :=
    { keyHashes := [sampleDigest, secondDigest]
      maxBodyBytes := 32 * 1024 * 1024
      revision := none
      llmProviderMode := none }
  otherScopes _ _ _ := pure ()

/-- A post of the content with the token, at a cap of one dollar. -/
def textVisit (surroundings : Surroundings Unit) (content token : String)
    (headers : List (List Byte × List Byte)) (spent : ℚ) : Visit Unit where
  occasion := sampleOccasion surroundings
  scope :=
    { method := py "POST"
      path := EXTRACT_PATH
      headers := (bytes "authorization", bytes ("Bearer " ++ token)) :: headers }
  incoming := [.httpRequest (textBody content) false]
  world := { freshWorld () 1 with budget := { cap := 1, spent := spent } }

theorem isExtractPost_textVisit (surroundings : Surroundings Unit) (content token : String)
    (headers : List (List Byte × List Byte)) (spent : ℚ) :
    IsExtractPost (textVisit surroundings content token headers spent).scope :=
  ⟨rfl, rfl, rfl⟩

/-- The text of a field of a line. -/
def LogRecord.text (field : String) (line : LogRecord) : Option PyStr :=
  match (AList.lookup field line.extra : Option Json) with
  | some (.str text) => some text
  | _ => none

theorem map_text_of_sameLine {lines lines' : List LogRecord}
    (h : List.Forall₂ SameLine lines lines') {field : String} (hfield : field ≠ "duration_ms") :
    lines.map (LogRecord.text field) = lines'.map (LogRecord.text field) := by
  induction h with
  | nil => rfl
  | cons hline _ ih =>
    rw [List.map_cons, List.map_cons, ih, LogRecord.text, LogRecord.text, hline.extra field hfield]

/-- The budget is reached, and the content is blank or not. -/
def spentVisit (content : String) : Visit Unit :=
  textVisit (sampleSurroundings invoiceText) content "key" [] 1

/-- A store with a row for each of two keys, whose responses name different models. -/
def twoRowStore : IdempotencyStore Unit where
  storeId := py "store"
  get _ key :=
    if key = py "k1" then
      pure (some (storedResponse (hexDigest payloadDigest) (replayText "gpt") 0))
    else if key = py "k2" then
      pure (some (storedResponse (hexDigest payloadDigest) (replayText "gpt-5") 0))
    else pure none
  put _ _ := pure ()
  probe _ := pure ()

/-- A replay of the key's row. -/
def replayVisit (key : String) : Visit Unit :=
  textVisit { sampleSurroundings invoiceText with store := .ok twoRowStore } "abcd" "key"
    [(bytes "idempotency-key", bytes key)] 0

theorem arrival_eq_textRequest {v : Visit Unit} {content : String}
    (hkey : presentsKey textProcess.libs.sha256 textProcess.environment.keyHashes v.scope = true)
    (hdeclared : declaresOver textProcess.environment.maxBodyBytes v.scope = false)
    (hincoming : v.incoming = [.httpRequest (textBody content) false])
    (hcontent : content ∈ ["    ", "abcd", "wxyz"]) :
    v.arrival textProcess = .parsed (textRequest content) := by
  have hread : readMessages (some textProcess.environment.maxBodyBytes) [] v.incoming =
      .complete (textBody content) := by
    rw [hincoming]
    simp only [List.mem_cons, List.not_mem_nil, or_false] at hcontent
    rcases hcontent with rfl | rfl | rfl <;> decide
  have hparse : parseBody textProcess.framework v.scope (textBody content) =
      .ok (textRequest content) := by
    simp only [List.mem_cons, List.not_mem_nil, or_false] at hcontent
    rcases hcontent with rfl | rfl | rfl <;> rfl
  exact Visit.arrival_eq_parsed hkey hdeclared hread hparse

theorem arrival_spentVisit {content : String} (h : content ∈ ["    ", "abcd", "wxyz"]) :
    (spentVisit content).arrival textProcess = .parsed (textRequest content) := by
  have hscope : (spentVisit content).scope = (spentVisit "").scope := rfl
  apply arrival_eq_textRequest _ _ rfl h
  · rw [hscope]
    decide
  · rw [hscope]
    decide

theorem not_calls_spentVisit (content : String) (i : ℕ) (modelCls : ModelClass)
    (outcome : CallOutcome) :
    ¬ Calls textProcess.libs (spentVisit content).occasion.toSurroundings (textRequest content)
      (spentVisit content).world.budget i modelCls outcome := by
  rintro ⟨text, client, hpre, -⟩
  have hpasses := (preflight_eq_ok_iff.mp hpre).passes
  have hspent : (spentVisit "").world.budget.passes (spentVisit "").world.budget.spent = false := by
    decide
  exact absurd (hspent.symm.trans hpasses) (by decide)

theorem agreeing_spentVisits :
    AgreeingPosts textProcess (spentVisit "    ") (spentVisit "abcd") := by
  apply agreeingPosts_of_parsed (arrival_spentVisit (by simp)) (arrival_spentVisit (by simp))
  · rfl
  · rfl
  · decide
  · intro key key' hkey
    have hkeyless : idempotencyKey (spentVisit "    ").scope = none := by decide
    rw [hkeyless] at hkey
    cases hkey
  · intro _ _
    refine ⟨by decide, .ok ⟨rfl, rfl⟩, ?_⟩
    intro i modelCls outcome modelCls' outcome' hcalls
    exact absurd hcalls (not_calls_spentVisit "    " i modelCls outcome)

theorem arrival_replayVisit {key : String} (h : key = "k1" ∨ key = "k2") :
    (replayVisit key).arrival textProcess = .parsed (textRequest "abcd") := by
  rcases h with rfl | rfl <;>
    exact arrival_eq_textRequest (by decide) (by decide) rfl (by simp)

/-- The key of a replay, and the kind of its outcome. -/
theorem kind_replayVisit {key : String} (h : key = "k1" ∨ key = "k2") {rawKey : PyStr}
    (hkey : idempotencyKey (replayVisit key).scope = some rawKey) :
    (storeOutcome textProcess.libs (replayVisit key).occasion.toSurroundings (textRequest "abcd")
      rawKey (replayVisit key).world.store).kind = .replay := by
  have hraw : idempotencyKey (replayVisit key).scope = some (py key) := by
    rcases h with rfl | rfl <;> decide
  obtain rfl : py key = rawKey := Option.some.inj (hraw.symm.trans hkey)
  rcases h with rfl | rfl <;> decide

theorem agreeing_replayVisits :
    AgreeingPosts textProcess (replayVisit "k1") (replayVisit "k2") := by
  apply agreeingPosts_of_parsed (arrival_replayVisit (Or.inl rfl))
    (arrival_replayVisit (Or.inr rfl))
  · rfl
  · decide
  · rfl
  · intro key key' hkey hkey'
    rw [kind_replayVisit (Or.inl rfl) hkey, kind_replayVisit (Or.inr rfl) hkey']
  · intro hextracts
    have hkey : idempotencyKey (replayVisit "k1").scope = some (py "k1") := by decide
    have hmiss := hextracts _ hkey
    rw [kind_replayVisit (Or.inl rfl) hkey] at hmiss
    cases hmiss

/-- A model without fields, for texts that name one. -/
def fieldNameModel : StrictModel Unit where
  jsonSchema := .obj []
  validate text :=
    .error [⟨[.key text], py "extra_forbidden", py "Extra inputs are not permitted", .null⟩]
  dump _ := []

def fieldNameProcess : Process Unit Unit String :=
  { textProcess with libs := { textProcess.libs with model := fun _ => fieldNameModel } }

/-- Every attempt is answered with the name of a field. -/
def namingVisit (name : PyStr) : Visit Unit :=
  textVisit
    { sampleSurroundings invoiceText with
      getClient _ := .ok
        { provider := py "openai"
          model := some (py "gpt")
          script _ := .returned (sampleResult name) } }
    "abcd" "key" [] 0

/-- A lone surrogate. -/
def surrogateName : PyStr := [0xD800]

theorem arrival_namingVisit (name : PyStr) :
    (namingVisit name).arrival fieldNameProcess = .parsed (textRequest "abcd") := by
  have hscope : (namingVisit name).scope = (namingVisit []).scope := rfl
  have harrival : (namingVisit name).arrival textProcess = .parsed (textRequest "abcd") := by
    apply arrival_eq_textRequest _ _ rfl (by simp)
    · rw [hscope]
      decide
    · rw [hscope]
      decide
  exact harrival

theorem calls_namingVisit {name : PyStr} {i : ℕ} {modelCls : ModelClass} {outcome : CallOutcome}
    (h : Calls fieldNameProcess.libs (namingVisit name).occasion.toSurroundings
      (textRequest "abcd") (namingVisit name).world.budget i modelCls outcome) :
    outcome = .returned (sampleResult name) := by
  obtain ⟨text, client, hpre, -, -, -, rfl⟩ := h
  have hclient := (preflight_eq_ok_iff.mp hpre).client
  cases hclient
  rfl

/-- The kinds and the number of the errors do not depend on the name. -/
theorem agreeing_namingVisits (name name' : PyStr) :
    AgreeingPosts fieldNameProcess (namingVisit name) (namingVisit name') := by
  have hkeyless : idempotencyKey (namingVisit name).scope = none := by
    show idempotencyKey (namingVisit []).scope = none
    decide
  apply agreeingPosts_of_parsed (arrival_namingVisit name) (arrival_namingVisit name')
  · rfl
  · rfl
  · rfl
  · intro key key' hkey
    rw [hkeyless] at hkey
    cases hkey
  · intro _ _
    refine ⟨rfl, .ok ⟨rfl, rfl⟩, ?_⟩
    intro i modelCls outcome modelCls' outcome' hcalls hcalls'
    rw [calls_namingVisit hcalls, calls_namingVisit hcalls']
    rfl

/-- A store without rows that cannot store the response of one key. -/
def fullStore : IdempotencyStore Unit where
  storeId := py "store"
  get _ _ := pure none
  put key _ := if key = py "k1" then throw (.other (py "OperationalError")) else pure ()
  probe _ := pure ()

/-- The first request of the key. -/
def storingVisit (key : String) : Visit Unit :=
  textVisit { sampleSurroundings invoiceText with store := .ok fullStore } "abcd" "key"
    [(bytes "idempotency-key", bytes key)] 0

theorem arrival_storingVisit {key : String} (h : key = "k1" ∨ key = "k2") :
    (storingVisit key).arrival textProcess = .parsed (textRequest "abcd") := by
  rcases h with rfl | rfl <;>
    exact arrival_eq_textRequest (by decide) (by decide) rfl (by simp)

theorem kind_storingVisit {key : String} (h : key = "k1" ∨ key = "k2") {rawKey : PyStr}
    (hkey : idempotencyKey (storingVisit key).scope = some rawKey) :
    (storeOutcome textProcess.libs (storingVisit key).occasion.toSurroundings (textRequest "abcd")
      rawKey (storingVisit key).world.store).kind = .miss := by
  have hraw : idempotencyKey (storingVisit key).scope = some (py key) := by
    rcases h with rfl | rfl <;> decide
  obtain rfl : py key = rawKey := Option.some.inj (hraw.symm.trans hkey)
  rcases h with rfl | rfl <;> decide

theorem agreeing_storingVisits :
    AgreeingPosts textProcess (storingVisit "k1") (storingVisit "k2") := by
  apply agreeingPosts_of_parsed (arrival_storingVisit (Or.inl rfl))
    (arrival_storingVisit (Or.inr rfl))
  · rfl
  · decide
  · rfl
  · intro key key' hkey hkey'
    rw [kind_storingVisit (Or.inl rfl) hkey, kind_storingVisit (Or.inr rfl) hkey']
  · intro _ _
    refine ⟨rfl, .ok ⟨rfl, rfl⟩, ?_⟩
    intro i modelCls outcome modelCls' outcome' hcalls hcalls'
    obtain ⟨rfl, rfl⟩ := hcalls.unique hcalls'
    rfl

/-- Posts that agree are told apart: by whether the content is blank, by the model of the row
    under the key, by whether the errors can be written, and by whether the row is stored. -/
theorem agreeing_posts_told_apart :
    (AgreeingPosts textProcess (spentVisit "    ") (spentVisit "abcd") ∧
        ¬ List.Forall₂ SameLine ((spentVisit "    ").lines textProcess)
          ((spentVisit "abcd").lines textProcess)) ∧
      (AgreeingPosts textProcess (replayVisit "k1") (replayVisit "k2") ∧
        ¬ List.Forall₂ SameLine ((replayVisit "k1").lines textProcess)
          ((replayVisit "k2").lines textProcess)) ∧
      (AgreeingPosts fieldNameProcess (namingVisit (py "a")) (namingVisit surrogateName) ∧
        ¬ List.Forall₂ SameLine ((namingVisit (py "a")).lines fieldNameProcess)
          ((namingVisit surrogateName).lines fieldNameProcess)) ∧
      AgreeingPosts textProcess (storingVisit "k1") (storingVisit "k2") ∧
        ¬ List.Forall₂ SameLine ((storingVisit "k1").lines textProcess)
          ((storingVisit "k2").lines textProcess) := by
  refine ⟨⟨agreeing_spentVisits, ?_⟩, ⟨agreeing_replayVisits, ?_⟩,
    ⟨agreeing_namingVisits _ _, ?_⟩, agreeing_storingVisits, ?_⟩
  · intro h
    exact absurd (map_text_of_sameLine h (show "result" ≠ "duration_ms" by decide))
      (by decide +kernel)
  · intro h
    exact absurd (map_text_of_sameLine h (show "model" ≠ "duration_ms" by decide))
      (by decide +kernel)
  · intro h
    exact absurd (map_text_of_sameLine h (show "result" ≠ "duration_ms" by decide))
      (by decide +kernel)
  · intro h
    exact absurd (map_text_of_sameLine h (show "result" ≠ "duration_ms" by decide))
      (by decide +kernel)

/-- The provider refuses the content, with a detail of its own. -/
def refusedVisit (content token detail : String) : Visit Unit :=
  textVisit
    { sampleSurroundings invoiceText with
      getClient _ := .ok
        { provider := py "openai"
          model := some (py "gpt")
          script _ := .raised
            { kind := .refusal, provider := py "openai", detail := py detail, costUsd := 1 } } }
    content token [] 0

section Refused

variable {content token detail : String}

theorem budget_refusedVisit :
    (refusedVisit content token detail).world.budget = { cap := 1, spent := 0 } := rfl

theorem idempotencyKey_refusedVisit (h : token = "key" ∨ token = "key2") :
    idempotencyKey (refusedVisit content token detail).scope = none := by
  have hscope : (refusedVisit content token detail).scope = (refusedVisit "" token "").scope := rfl
  rw [hscope]
  rcases h with rfl | rfl <;> decide

theorem arrival_refusedVisit (h : token = "key" ∨ token = "key2")
    (hcontent : content ∈ ["    ", "abcd", "wxyz"]) :
    (refusedVisit content token detail).arrival textProcess = .parsed (textRequest content) := by
  have hscope : (refusedVisit content token detail).scope = (refusedVisit "" token "").scope := rfl
  apply arrival_eq_textRequest _ _ rfl hcontent
  · rw [hscope]
    rcases h with rfl | rfl <;> decide
  · rw [hscope]
    rcases h with rfl | rfl <;> decide

theorem calls_refusedVisit {i : ℕ} {modelCls : ModelClass} {outcome : CallOutcome}
    (h : Calls textProcess.libs (refusedVisit content token detail).occasion.toSurroundings
      (textRequest content) (refusedVisit content token detail).world.budget i modelCls outcome) :
    outcome = .raised
      { kind := .refusal, provider := py "openai", detail := py detail, costUsd := 1 } := by
  obtain ⟨text, client, hpre, -, -, -, rfl⟩ := h
  have hclient := (preflight_eq_ok_iff.mp hpre).client
  cases hclient
  rfl

theorem not_accepts_refusedVisit (response : ExtractResponse) :
    ¬ Accepts textProcess.libs (refusedVisit content token detail).occasion.toSurroundings
      (textRequest content) (refusedVisit content token detail).world.budget response := by
  rintro ⟨modelCls, text, client, k, result, value, hpre, ⟨-, -, -, hscript, -⟩, -⟩
  have hclient := (preflight_eq_ok_iff.mp hpre).client
  cases hclient
  cases hscript

end Refused

theorem agreeing_refusedVisits :
    AgreeingPosts textProcess (refusedVisit "abcd" "key" "medical records")
      (refusedVisit "wxyz" "key2" "card numbers") := by
  apply agreeingPosts_of_parsed (arrival_refusedVisit (Or.inl rfl) (by simp))
    (arrival_refusedVisit (Or.inr rfl) (by simp))
  · rw [budget_refusedVisit, budget_refusedVisit]
  · rw [idempotencyKey_refusedVisit (Or.inl rfl), idempotencyKey_refusedVisit (Or.inr rfl)]
  · decide
  · intro key key' hkey
    rw [idempotencyKey_refusedVisit (Or.inl rfl)] at hkey
    cases hkey
  · intro _ _
    refine ⟨by decide, .ok ⟨Eq.refl (py "openai"), Eq.refl (some (py "gpt"))⟩, ?_⟩
    intro i modelCls outcome modelCls' outcome' hcalls hcalls'
    rw [calls_refusedVisit hcalls, calls_refusedVisit hcalls', StrictModel.view, StrictModel.view]

theorem sameVerdicts_refusedVisits :
    SameVerdicts textProcess (refusedVisit "abcd" "key" "medical records")
      (refusedVisit "wxyz" "key2" "card numbers") := by
  have hparsed : (refusedVisit "abcd" "key" "medical records").arrival textProcess =
      .parsed (textRequest "abcd") := arrival_refusedVisit (Or.inl rfl) (by simp)
  have hparsed' : (refusedVisit "wxyz" "key2" "card numbers").arrival textProcess =
      .parsed (textRequest "wxyz") := arrival_refusedVisit (Or.inr rfl) (by simp)
  have hkeyless : idempotencyKey (refusedVisit "abcd" "key" "medical records").scope = none :=
    idempotencyKey_refusedVisit (Or.inl rfl)
  constructor
  case arrival =>
    rw [hparsed, hparsed']
    exact .parsed _ _
  case looked =>
    intro _ _ _ _ key _ hkey
    cases hkeyless.symm.trans hkey
  case storing =>
    intro _ _ _ _ key _ hkey
    cases hkeyless.symm.trans hkey
  case rendered =>
    intro _ _ hrequest _ _ _ response _ haccepts
    cases hparsed.symm.trans hrequest
    exact absurd haccepts (not_accepts_refusedVisit response)
  case content =>
    intro _ _ hrequest hrequest' _ _
    cases hparsed.symm.trans hrequest
    cases hparsed'.symm.trans hrequest'
    constructor
    · intro content content' hcontent hcontent'
      have hresolved : resolveContent textProcess.libs.pymupdfOpen (textRequest "abcd") =
          .ok (py "abcd") := by rfl
      have hresolved' : resolveContent textProcess.libs.pymupdfOpen (textRequest "wxyz") =
          .ok (py "wxyz") := by rfl
      cases hresolved.symm.trans hcontent
      cases hresolved'.symm.trans hcontent'
      have hfilled : strip (py "abcd") ≠ [] := by decide
      have hfilled' : strip (py "wxyz") ≠ [] := by decide
      exact iff_of_false hfilled hfilled'
    · intro i modelCls outcome modelCls' outcome' hcalls hcalls'
      rw [calls_refusedVisit hcalls, calls_refusedVisit hcalls']
      simp [StrictModel.trailEncodable]

/-- Refusals of different contents, under different tokens and with different details. -/
theorem log_indistinguishable_refused :
    List.Forall₂ SameLine ((refusedVisit "abcd" "key" "medical records").lines textProcess)
      ((refusedVisit "wxyz" "key2" "card numbers").lines textProcess) :=
  log_indistinguishable textProcess (refusedVisit "abcd" "key" "medical records")
    (refusedVisit "wxyz" "key2" "card numbers") (isExtractPost_textVisit _ _ _ _ _)
    (isExtractPost_textVisit _ _ _ _ _) agreeing_refusedVisits sameVerdicts_refusedVisits

end ExtractApi
