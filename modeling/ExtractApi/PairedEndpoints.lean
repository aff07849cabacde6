import ExtractApi.PairedFlows

/-!
# Two endpoints side by side

What the store says of a keyed request (`StoreOutcome`) decides what the keyed endpoint does.
Two keyed endpoints whose stores say the same, and two keyless ones, write the same lines when
their extractions do.
-/

namespace ExtractApi

open PythonText JsonValue RaisingProgram PairedRuns

variable {S M V : Type}

/-! ## The store -/

/-- What comes of a key before the extraction. -/
inductive StoreOutcome (S : Type) where
  /-- the key, the store, the hash or the lookup fails -/
  | failed (exc : PyExc)
  | conflict
  | replay (answer : Except PyExc ExtractResponse)
  | miss (store : IdempotencyStore S) (key : PyStr) (s : S)

inductive StoreKind where
  | failed
  | conflict
  | replay
  | miss
deriving DecidableEq

def StoreOutcome.kind : StoreOutcome S → StoreKind
  | .failed _ => .failed
  | .conflict => .conflict
  | .replay _ => .replay
  | .miss _ _ _ => .miss

section Keyed

variable (libs : Libraries M) (env : Surroundings S) (request : ExtractRequest)

/-- The outcome for the key, from the state of the store. -/
def storeOutcome (idempotencyKey : PyStr) (s : S) : StoreOutcome S :=
  match validateIdempotencyKey idempotencyKey, env.store with
  | .error exc, _ => .failed exc
  | .ok _, .error exc => .failed exc
  | .ok key, .ok store =>
      if isLatin1 store.storeId = false then .failed unicodeEncodeError
      else if request.encodable = false then .failed serializationError
      else
        match (store.get env.clockAtGet key).run s with
        | .error exc _ => .failed exc
        | .ok none s' => .miss store key s'
        | .ok (some stored) _ =>
            if stored.payloadSha256 = requestHash libs request then
              .replay (parseResponse libs stored.responseJson)
            else .conflict

/-- Storing the response, in a state of the store. -/
def storing (store : IdempotencyStore S) (key : PyStr) (response : ExtractResponse) (s : S) :
    Except PyExc Unit :=
  match dumpResponse libs response with
  | .error exc => .error exc
  | .ok text =>
      answerOf ((store.put key (storedResponse (requestHash libs request) text
        env.clockAtPut)).run s)

/-- `store.put` of the serialized response -/
def storeResponse (store : IdempotencyStore S) (key : PyStr) (response : ExtractResponse) :
    Service S Unit := do
  let responseJson ← liftExcept (dumpResponse libs response)
  onStore (store.put key (storedResponse (requestHash libs request) responseJson env.clockAtPut))

/-- The keyed part of the endpoint, after the request is noted. -/
def keyedEndpoint (idempotencyKey : PyStr) : Service S (ExtractResponse × Option PyStr) := do
  let key ← liftExcept (validateIdempotencyKey idempotencyKey)
  let store ← liftExcept env.store
  let header ← liftExcept (setHeader store.storeId)
  let result ← runExtractIdempotent libs env store key request
  noteMeta result.extractMeta
  return (result, some header)

variable {libs env request}

theorem renderExtract_keyed_isOk (response : ExtractResponse) (storeId : PyStr) :
    (renderExtract (response, some storeId)).isOk = (response.encodable && isLatin1 storeId) := by
  have hname : isLatin1 (py "X-Idempotency-Store") = true := by decide
  have hcondition : (response.toJson.encodable && [(py "X-Idempotency-Store", storeId)].all
      fun h => isLatin1 h.1 && isLatin1 h.2) = (response.encodable && isLatin1 storeId) := by
    simp [hname, ExtractResponse.encodable]
  unfold renderExtract jsonResponse
  simp only [hcondition]
  split <;> simp_all [Except.isOk, Except.toBool]

variable (libs env request) in
/-- What the keyed endpoint does, by what the store says. -/
theorem keyedEndpoint_run (idempotencyKey : PyStr) (w : World S) :
    match storeOutcome libs env request idempotencyKey w.store with
    | .failed exc => ∃ s, (keyedEndpoint libs env request idempotencyKey).run w =
        .error exc { w with store := s }
    | .conflict => ∃ s, (keyedEndpoint libs env request idempotencyKey).run w =
        .error (.extractError idempotencyConflict) { w with store := s }
    | .replay (.error exc) => ∃ s, (keyedEndpoint libs env request idempotencyKey).run w =
        .error exc { w with store := s }
    | .replay (.ok response) => ∃ s storeId, isLatin1 storeId = true ∧
        (keyedEndpoint libs env request idempotencyKey).run w =
          (noteMeta response.asReplay.extractMeta >>= fun _ =>
            pure (response.asReplay, some storeId)).run { w with store := s }
    | .miss store key s => isLatin1 store.storeId = true ∧
        (keyedEndpoint libs env request idempotencyKey).run w =
          (runExtract libs env request >>= fun response =>
            storeResponse libs env request store key response >>= fun _ =>
            noteMeta response.extractMeta >>= fun _ =>
            pure (response, some store.storeId)).run { w with store := s } := by
  unfold storeOutcome
  rcases hkey : validateIdempotencyKey idempotencyKey with exc | key
  · exact ⟨w.store, by simp [keyedEndpoint, liftExcept, hkey]⟩
  rcases hstore : env.store with exc | store
  · exact ⟨w.store, by simp [keyedEndpoint, liftExcept, hkey, hstore]⟩
  simp only
  rcases hlatin : isLatin1 store.storeId with _ | _
  · rw [if_pos rfl]
    exact ⟨w.store, by simp [keyedEndpoint, liftExcept, hkey, hstore, setHeader, hlatin]⟩
  rw [if_neg (by simp)]
  have hheader : setHeader store.storeId = .ok store.storeId := by simp [setHeader, hlatin]
  -- the key is accepted and the header set: what is left is the lookup
  rcases hencodable : request.encodable with _ | _
  · rw [if_pos rfl]
    refine ⟨w.store, ?_⟩
    simp [keyedEndpoint, liftExcept, hkey, hstore, hheader,
      runExtractIdempotent_of_not_encodable hencodable]
  rw [if_neg (by simp)]
  rcases hget : (store.get env.clockAtGet key).run w.store with ⟨_ | stored, s⟩ | ⟨exc, s⟩
  · refine ⟨hlatin, ?_⟩
    simp [keyedEndpoint, liftExcept, hkey, hstore, hheader, runExtractIdempotent,
      request.dumpBytes_of_encodable hencodable, run_onStore, hget, requestHash, storeResponse]
  · have hhit : (runExtractIdempotent libs env store key request).run w =
        outcomeIn { w with store := s } (replayAnswer libs request stored) :=
      runExtractIdempotent_of_hit hencodable hget
    simp only
    by_cases hhash : stored.payloadSha256 = requestHash libs request
    · rw [if_pos hhash]
      rcases hparse : parseResponse libs stored.responseJson with exc | response
      · refine ⟨s, ?_⟩
        simp [keyedEndpoint, liftExcept, hkey, hstore, hheader, hhit, replayAnswer, hhash, hparse,
          Except.map, outcomeIn]
      · refine ⟨s, store.storeId, hlatin, ?_⟩
        simp [keyedEndpoint, liftExcept, hkey, hstore, hheader, hhit, replayAnswer, hhash, hparse,
          Except.map, outcomeIn]
    · rw [if_neg hhash]
      refine ⟨s, ?_⟩
      simp [keyedEndpoint, liftExcept, hkey, hstore, hheader, hhit, replayAnswer, hhash, outcomeIn]
  · refine ⟨s, ?_⟩
    simp [keyedEndpoint, liftExcept, hkey, hstore, hheader,
      runExtractIdempotent_of_get_error hencodable hget]

/-- An extraction keeps the store, and what it returns is what the script accepts. -/
theorem runExtract_returns (libs : Libraries M) (env : Surroundings S) (request : ExtractRequest)
    (w : World S) :
    ∃ w' x, (runExtract libs env request).run w = outcomeIn w' x ∧ w'.store = w.store ∧
      ∀ response, x = .ok response → Accepts libs env request w.budget response := by
  rcases hpre : preflight libs env request w.budget with exc | ⟨modelCls, content, client⟩
  · obtain ⟨w', hrun, hafter⟩ := runExtract_of_preflight_error hpre
    refine ⟨w', .error exc, hrun, hafter.store, ?_⟩
    intro response h
    cases h
  · obtain ⟨e, he⟩ := exists_endsAs client (libs.model modelCls) MAX_ATTEMPTS
    obtain ⟨w', hrun, hafter⟩ := runExtract_of_preflight_ok hpre he
    exact ⟨w', _, hrun, hafter.store, fun response h => (accepts_iff hpre he).mpr h⟩

end Keyed

/-! ## The endpoint -/

/-- The stores say the same, of responses that are noted and rendered alike. -/
inductive SameOutcome : StoreOutcome S → StoreOutcome S → Prop
  | failed {exc exc' : PyExc} : SameFailure exc exc' → SameOutcome (.failed exc) (.failed exc')
  | conflict : SameOutcome .conflict .conflict
  | replay {answer answer' : Except PyExc ExtractResponse} :
      Matched (fun response response' =>
        response.extractMeta.provider = response'.extractMeta.provider ∧
          response.extractMeta.model = response'.extractMeta.model ∧
          response.encodable = response'.encodable) SameFailure answer answer' →
      SameOutcome (.replay answer) (.replay answer')
  | miss {store store' : IdempotencyStore S} {key key' : PyStr} {s s' : S} :
      SameOutcome (.miss store key s) (.miss store' key' s')

theorem ExtractResponse.encodable_asReplay (response : ExtractResponse) :
    response.asReplay.encodable = response.encodable := by
  simp [ExtractResponse.encodable, ExtractResponse.toJson, ExtractResponse.asReplay,
    ExtractMeta.toJson, Json.encodable, Json.encodableFields]

theorem jsonResponse_eq_error {status : ℕ} {content : Json} {headers : List (PyStr × PyStr)}
    {exc : PyExc} (h : jsonResponse status content headers = .error exc) :
    exc = unicodeEncodeError := by
  unfold jsonResponse at h
  split at h
  · cases h
  · cases h
    rfl

/-- Both answers can be rendered, or neither. -/
def SameAnswer (answer answer' : ExtractResponse × Option PyStr) : Prop :=
  (renderExtract answer).isOk = (renderExtract answer').isOk

theorem matched_renderExtract {answer answer' : ExtractResponse × Option PyStr}
    (h : SameAnswer answer answer') :
    Matched (fun r r' : HttpResponse => r.status = r'.status) SameFailure (renderExtract answer)
      (renderExtract answer') := by
  have hraises : ∀ (answer : ExtractResponse × Option PyStr) (exc : PyExc),
      renderExtract answer = .error exc → exc = unicodeEncodeError :=
    fun _ _ hrender => jsonResponse_eq_error hrender
  have hstatus : ∀ (answer : ExtractResponse × Option PyStr) (r : HttpResponse),
      renderExtract answer = .ok r → r.status = 200 := by
    intro answer r hrender
    rw [jsonResponse_eq_ok hrender]
  unfold SameAnswer at h
  rcases hrender : renderExtract answer with exc | r
  · rcases hrender' : renderExtract answer' with exc' | r'
    · rw [hraises _ _ hrender, hraises _ _ hrender']
      exact .error (.same _)
    · rw [hrender, hrender'] at h
      cases h
  · rcases hrender' : renderExtract answer' with exc' | r'
    · rw [hrender, hrender'] at h
      cases h
    · exact .ok ((hstatus _ _ hrender).trans (hstatus _ _ hrender').symm)

section Endpoint

variable {log log' : List LogRecord}

theorem coupled_noteMeta {m m' : ExtractMeta} (hprovider : m.provider = m'.provider)
    (hmodel : m.model = m'.model) (hreplayed : m.replayed = m'.replayed)
    (hattempts : (if m.replayed then 0 else m.attempts) = if m'.replayed then 0 else m'.attempts)
    (hcost : (if m.replayed then 0 else m.costUsd) = if m'.replayed then 0 else m'.costUsd) :
    Coupled (Indistinct (S := S) log log') (fun _ _ => True) SameFailure (noteMeta m)
      (noteMeta m') := by
  apply coupled_note
  · rw [hprovider, hmodel, hattempts, hcost, hreplayed]
  · simp

theorem SameMeta.coupled_noteMeta {response response' : ExtractResponse}
    (h : SameMeta response response') :
    Coupled (Indistinct (S := S) log log') (fun _ _ => True) SameFailure
      (noteMeta response.extractMeta) (noteMeta response'.extractMeta) := by
  apply ExtractApi.coupled_noteMeta h.provider h.model h.replayed
  · rw [h.replayed, h.attempts]
  · rw [h.replayed, h.costUsd]

variable {libs : Libraries M} {env env' : Surroundings S} {request request' : ExtractRequest}
  {idempotencyKey idempotencyKey' : PyStr} {budget : BudgetGuard}

/-- Both keyed extractions are stored or fail to be in the same way. -/
def SameStoring (libs : Libraries M) (env env' : Surroundings S)
    (request request' : ExtractRequest) (budget : BudgetGuard) :
    StoreOutcome S → StoreOutcome S → Prop
  | .miss store key s, .miss store' key' s' => ∀ response response',
      Accepts libs env request budget response → Accepts libs env' request' budget response' →
        Matched (fun _ _ => True) SameFailure (storing libs env request store key response s)
          (storing libs env' request' store' key' response' s')
  | _, _ => True

variable (libs env request) in
theorem storeResponse_run (store : IdempotencyStore S) (key : PyStr) (response : ExtractResponse)
    (w : World S) :
    ∃ s, (storeResponse libs env request store key response).run w =
      outcomeIn { w with store := s } (storing libs env request store key response w.store) := by
  unfold storeResponse storing
  rcases hdump : dumpResponse libs response with exc | text
  · exact ⟨w.store, rfl⟩
  · simp only [liftExcept, EStateM.run_bind, EStateM.run_pure, run_onStore]
    rcases (store.put key (storedResponse (requestHash libs request) text env.clockAtPut)).run
        w.store with ⟨_, s⟩ | ⟨exc, s⟩
    · exact ⟨s, rfl⟩
    · exact ⟨s, rfl⟩

theorem encodable_of_storing {store : IdempotencyStore S} {key : PyStr}
    {response : ExtractResponse} {s : S}
    (h : storing libs env request store key response s = .ok ()) : response.encodable = true := by
  unfold storing dumpResponse at h
  by_cases hencodable : response.encodable = true
  · exact hencodable
  · rw [if_neg hencodable] at h
    cases h

theorem Indistinct.stored {w w' : World S} (h : Indistinct log log' w w') (s s' : S) :
    Indistinct log log' { w with store := s } { w' with store := s' } :=
  ⟨h.budget, h.facts, h.route, h.lines⟩

/-- **Two extractions of which the log may tell the same are followed by the same lines**, where
    what follows the responses they accept is related. -/
theorem related_runExtract_bind (hshape : request.shape = request'.shape)
    (hagree : AgreeingExtractions libs env env' request request' budget)
    (hverdicts : SameContentVerdicts libs env env' request request' budget) {w w' : World S}
    (hw : Indistinct log log' w w') (hbudget : w.budget = budget) {α : Type} {A : α → α → Prop}
    {next next' : ExtractResponse → Service S α}
    (hnext : ∀ {response response' : ExtractResponse} {w₁ w₁' : World S},
      Accepts libs env request budget response → Accepts libs env' request' budget response' →
      w₁.store = w.store → w₁'.store = w'.store → SameMeta response response' →
      Indistinct log log' w₁ w₁' →
      Related (Indistinct log log') A SameFailure ((next response).run w₁)
        ((next' response').run w₁')) :
    Related (Indistinct log log') A SameFailure
      ((runExtract libs env request >>= next).run w)
      ((runExtract libs env' request' >>= next').run w') := by
  have hrelated := related_runExtract hshape hagree hverdicts hw hbudget
  obtain ⟨w₁, x, hrun, hstore, haccepts⟩ := runExtract_returns libs env request w
  obtain ⟨w₁', x', hrun', hstore', haccepts'⟩ := runExtract_returns libs env' request' w'
  rw [EStateM.run_bind, EStateM.run_bind]
  rw [hrun, hrun'] at hrelated ⊢
  rcases x with exc | response
  · rcases x' with exc' | response'
    · cases hrelated with
      | raised hexc hw₁ => exact .raised hexc hw₁
    · cases hrelated
  · rcases x' with exc' | response'
    · cases hrelated
    · cases hrelated with
      | returned hmeta hw₁ =>
        have hbudget' : w'.budget = budget := by rw [← hw.budget, hbudget]
        exact hnext (hbudget ▸ haccepts response rfl) (hbudget' ▸ haccepts' response' rfl)
          hstore hstore' hmeta hw₁

/-- On a miss, the response that is stored is noted and answered. -/
theorem related_miss {store store' : IdempotencyStore S} {key key' : PyStr}
    (hlatin : isLatin1 store.storeId = true) (hlatin' : isLatin1 store'.storeId = true)
    (hshape : request.shape = request'.shape)
    (hagree : AgreeingExtractions libs env env' request request' budget)
    (hverdicts : SameContentVerdicts libs env env' request request' budget) {w w' : World S}
    (hw : Indistinct log log' w w') (hbudget : w.budget = budget)
    (hstoring : SameStoring libs env env' request request' budget (.miss store key w.store)
      (.miss store' key' w'.store)) :
    Related (Indistinct log log') SameAnswer SameFailure
      ((runExtract libs env request >>= fun response =>
        storeResponse libs env request store key response >>= fun _ =>
        noteMeta response.extractMeta >>= fun _ =>
        pure (response, some store.storeId)).run w)
      ((runExtract libs env' request' >>= fun response =>
        storeResponse libs env' request' store' key' response >>= fun _ =>
        noteMeta response.extractMeta >>= fun _ =>
        pure (response, some store'.storeId)).run w') := by
  refine related_runExtract_bind hshape hagree hverdicts hw hbudget ?_
  intro response response' w₁ w₁' haccepts haccepts' hstore hstore' hmeta hw₁
  have hmatched := hstoring response response' haccepts haccepts'
  rw [← hstore, ← hstore'] at hmatched
  obtain ⟨s, hput⟩ := storeResponse_run libs env request store key response w₁
  obtain ⟨s', hput'⟩ := storeResponse_run libs env' request' store' key' response' w₁'
  rw [EStateM.run_bind, EStateM.run_bind, hput, hput']
  generalize hs : storing libs env request store key response w₁.store = y at hmatched
  generalize hs' : storing libs env' request' store' key' response' w₁'.store = y' at hmatched
  cases hmatched with
  | error hexc => exact .raised hexc (hw₁.stored s s')
  | ok =>
    apply Related.bind (hmeta.coupled_noteMeta _ _ (hw₁.stored s s'))
    intro _ _ _
    apply Coupled.pure
    unfold SameAnswer
    rw [renderExtract_keyed_isOk, renderExtract_keyed_isOk, encodable_of_storing hs,
      encodable_of_storing hs', hlatin, hlatin']

/-- **The keyed endpoint**: the store's outcomes and the extractions decide the lines. -/
theorem related_keyedEndpoint (hshape : request.shape = request'.shape) {w w' : World S}
    (hw : Indistinct log log' w w') (hbudget : w.budget = budget)
    (houtcome : SameOutcome (storeOutcome libs env request idempotencyKey w.store)
      (storeOutcome libs env' request' idempotencyKey' w'.store))
    (hmissed : (storeOutcome libs env request idempotencyKey w.store).kind = .miss →
      AgreeingExtractions libs env env' request request' budget ∧
        SameContentVerdicts libs env env' request request' budget)
    (hstoring : SameStoring libs env env' request request' budget
      (storeOutcome libs env request idempotencyKey w.store)
      (storeOutcome libs env' request' idempotencyKey' w'.store)) :
    Related (Indistinct log log') SameAnswer SameFailure
      ((keyedEndpoint libs env request idempotencyKey).run w)
      ((keyedEndpoint libs env' request' idempotencyKey').run w') := by
  have hkeyed := keyedEndpoint_run libs env request idempotencyKey w
  have hkeyed' := keyedEndpoint_run libs env' request' idempotencyKey' w'
  generalize storeOutcome libs env request idempotencyKey w.store = o at *
  generalize storeOutcome libs env' request' idempotencyKey' w'.store = o' at *
  -- the two lookups come out alike, and only a miss goes on
  cases houtcome with
  | failed hexc =>
    obtain ⟨s, hrun⟩ := hkeyed
    obtain ⟨s', hrun'⟩ := hkeyed'
    rw [hrun, hrun']
    exact .raised hexc (hw.stored s s')
  | conflict =>
    obtain ⟨s, hrun⟩ := hkeyed
    obtain ⟨s', hrun'⟩ := hkeyed'
    rw [hrun, hrun']
    exact .raised (.same _) (hw.stored s s')
  | replay hanswer =>
    cases hanswer with
    | error hexc =>
      obtain ⟨s, hrun⟩ := hkeyed
      obtain ⟨s', hrun'⟩ := hkeyed'
      rw [hrun, hrun']
      exact .raised hexc (hw.stored s s')
    | @ok response response' hsame =>
      obtain ⟨hprovider, hmodel, hencodable⟩ := hsame
      obtain ⟨s, storeId, hlatin, hrun⟩ := hkeyed
      obtain ⟨s', storeId', hlatin', hrun'⟩ := hkeyed'
      rw [hrun, hrun']
      have hnoted : Coupled (Indistinct (S := S) log log') (fun _ _ => True) SameFailure
          (noteMeta response.asReplay.extractMeta) (noteMeta response'.asReplay.extractMeta) :=
        coupled_noteMeta hprovider hmodel rfl rfl rfl
      refine Related.bind (hnoted _ _ (hw.stored s s')) fun _ _ _ => Coupled.pure ?_
      unfold SameAnswer
      rw [renderExtract_keyed_isOk, renderExtract_keyed_isOk,
        ExtractResponse.encodable_asReplay, ExtractResponse.encodable_asReplay, hencodable, hlatin,
        hlatin']
  | @miss store store' key key' s s' =>
    obtain ⟨hagree, hverdicts⟩ := hmissed rfl
    obtain ⟨hlatin, hrun⟩ := hkeyed
    obtain ⟨hlatin', hrun'⟩ := hkeyed'
    rw [hrun, hrun']
    exact related_miss hlatin hlatin' hshape hagree hverdicts (hw.stored s s') hbudget hstoring

theorem renderExtract_keyless_isOk (response : ExtractResponse) :
    (renderExtract (response, none)).isOk = response.encodable := by
  unfold renderExtract jsonResponse ExtractResponse.encodable
  simp only [List.all_nil, Bool.and_true]
  split <;> simp_all [Except.isOk, Except.toBool]

/-- The keyless endpoint, after the request is noted. -/
theorem related_keyless (hshape : request.shape = request'.shape)
    (hagree : AgreeingExtractions libs env env' request request' budget)
    (hverdicts : SameContentVerdicts libs env env' request request' budget)
    (hencodable : ∀ response response', Accepts libs env request budget response →
      Accepts libs env' request' budget response' → response.encodable = response'.encodable)
    {w w' : World S} (hw : Indistinct log log' w w') (hbudget : w.budget = budget) :
    Related (Indistinct log log') SameAnswer SameFailure
      ((runExtract libs env request >>= fun response =>
        noteMeta response.extractMeta >>= fun _ => pure (response, none)).run w)
      ((runExtract libs env' request' >>= fun response =>
        noteMeta response.extractMeta >>= fun _ => pure (response, none)).run w') := by
  refine related_runExtract_bind hshape hagree hverdicts hw hbudget ?_
  intro response response' w₁ w₁' haccepts haccepts' _ _ hmeta hw₁
  apply Related.bind (hmeta.coupled_noteMeta _ _ hw₁)
  intro _ _ _
  apply Coupled.pure
  unfold SameAnswer
  rw [renderExtract_keyless_isOk, renderExtract_keyless_isOk]
  exact hencodable response response' haccepts haccepts'

end Endpoint

end ExtractApi
