import ExtractApi.ExtractOutcome
import ExtractApi.StoreRefinement

/-!
# The sequential replay contract

Keyed requests handled one after another over one SQLite store.  The history of the
answers says which earlier request of a key was executed last (`latestExecuted`); the
table is a lazily purged copy of that history, related to it by `ViewsAgree`: from the
current clock value on, the row of a key shows exactly while the latest executed request
of that key is within its time to live.

`handle_of_hit` and `handle_of_miss` describe one request, `ReplayInvariant` is carried
along the sequence, and `sequential_replay` reads the contract off for the next request.
-/

namespace ExtractApi

open PythonText ExpiringMap RaisingProgram

variable {M : Type}

/-! ## Requests and their history -/

/-- A keyed request, with the clock values and the provider it finds. -/
structure KeyedCall where
  idempotencyKey : PyStr
  request : ExtractRequest
  getClient : Provider → Except PyExc LLMClient
  clockAtGet : ℚ
  clockAtPut : ℚ

/-- The stripped key. -/
def KeyedCall.key (c : KeyedCall) : PyStr := strip c.idempotencyKey

def KeyedCall.surroundings (storeId : PyStr) (c : KeyedCall) :
    Surroundings SqliteIdempotencyStore where
  getClient := c.getClient
  store := .ok (SqliteIdempotencyStore.toStore storeId)
  clockAtGet := c.clockAtGet
  clockAtPut := c.clockAtPut

/-- A request with the answer it got. -/
abbrev Exchange := KeyedCall × Except PyExc ExtractResponse

/-- The response of an exchange that was executed, not replayed, and returned 200. -/
def Exchange.executed (x : Exchange) : Option ExtractResponse :=
  match x.2 with
  | .ok response => if response.extractMeta.replayed then none else some response
  | .error _ => none

/-- The latest executed request of a key, with its response. -/
def latestExecuted (exchanges : List Exchange) (key : PyStr) :
    Option (KeyedCall × ExtractResponse) :=
  exchanges.reverse.findSome? fun x =>
    if x.1.key = key then x.executed.map fun response => (x.1, response) else none

theorem latestExecuted_append (exchanges : List Exchange) (x : Exchange) (key : PyStr) :
    latestExecuted (exchanges ++ [x]) key =
      (if x.1.key = key then x.executed.map fun response => (x.1, response) else none).or
        (latestExecuted exchanges key) := by
  simp only [latestExecuted, List.reverse_append, List.reverse_singleton, List.singleton_append,
    List.findSome?_cons]
  cases (if x.1.key = key then x.executed.map fun response => (x.1, response) else none) <;> rfl

section Calls

variable (libs : Libraries M) (storeId : PyStr)

/-- The keyed branch of the endpoint. -/
def KeyedCall.handle (c : KeyedCall) : Service SqliteIdempotencyStore ExtractResponse := do
  let key ← liftExcept (validateIdempotencyKey c.idempotencyKey)
  runExtractIdempotent libs (c.surroundings storeId) (SqliteIdempotencyStore.toStore storeId) key
    c.request

/-- The same request without its key. -/
def KeyedCall.unkeyed (c : KeyedCall) : Service SqliteIdempotencyStore ExtractResponse :=
  runExtract libs (c.surroundings storeId) c.request

/-- The state after handling the requests in order. -/
def serve (w : World SqliteIdempotencyStore) (calls : List KeyedCall) :
    World SqliteIdempotencyStore :=
  calls.foldl (fun w c => finalState ((c.handle libs storeId).run w)) w

/-- The requests with their answers, in order. -/
def exchanges (w : World SqliteIdempotencyStore) : List KeyedCall → List Exchange
  | [] => []
  | c :: calls =>
      (c, answerOf ((c.handle libs storeId).run w)) ::
        exchanges (finalState ((c.handle libs storeId).run w)) calls

theorem serve_append (w : World SqliteIdempotencyStore) (calls : List KeyedCall) (c : KeyedCall) :
    serve libs storeId w (calls ++ [c]) =
      finalState ((c.handle libs storeId).run (serve libs storeId w calls)) := by
  simp [serve]

theorem exchanges_append (w : World SqliteIdempotencyStore) (calls : List KeyedCall)
    (c : KeyedCall) :
    exchanges libs storeId w (calls ++ [c]) = exchanges libs storeId w calls ++
      [(c, answerOf ((c.handle libs storeId).run (serve libs storeId w calls)))] := by
  induction calls generalizing w with
  | nil => rfl
  | cons d calls ih =>
    show (d, _) :: exchanges libs storeId _ (calls ++ [c]) = _
    rw [ih]
    rfl

/-- The row stored for a request that was executed. -/
def rowOf (executed : KeyedCall × ExtractResponse) : StoredResponse :=
  storedResponse (requestHash libs executed.1.request) (libs.responseText executed.2)
    executed.1.clockAtPut

/-- What the contract assumes of the requests and of the libraries on them: accepted keys,
    encodable payloads, no SHA-256 collision among the payloads, responses that survive their
    JSON text, and a clock that never goes back. -/
structure ReplayAssumptions (calls : List KeyedCall) : Prop where
  accepted : ∀ c ∈ calls, ∃ key, validateIdempotencyKey c.idempotencyKey = .ok key
  encodable : ∀ c ∈ calls, c.request.encodable = true
  collisionFree : ∀ c ∈ calls, ∀ d ∈ calls,
    libs.sha256 (utf8SurrogatePass c.request.jsonText) =
      libs.sha256 (utf8SurrogatePass d.request.jsonText) →
    utf8SurrogatePass c.request.jsonText = utf8SurrogatePass d.request.jsonText
  roundTrip : ∀ c ∈ calls, ∀ w response w',
    (c.unkeyed libs storeId).run w = .ok response w' →
    response.encodable = true ∧ parseResponse libs (libs.responseText response) = .ok response
  clock : (calls.flatMap fun c => [c.clockAtGet, c.clockAtPut]).Pairwise (· ≤ ·)

/-! ## The contract of one request -/

/-- The request is answered from the row of the executed request `d`: no provider call, the
    budget and the row unchanged, a replay or a conflict. -/
structure AnsweredFrom (c d : KeyedCall) (response : ExtractResponse)
    (w : World SqliteIdempotencyStore) : Prop where
  calls : (finalState ((c.handle libs storeId).run w)).calls = w.calls
  budget : (finalState ((c.handle libs storeId).run w)).budget = w.budget
  row : w.store.selectRow c.key = some (rowOf libs (d, response)) ∧
    (finalState ((c.handle libs storeId).run w)).store.selectRow c.key =
      some (rowOf libs (d, response))
  answer : answerOf ((c.handle libs storeId).run w) =
    if c.request = d.request then .ok response.asReplay
    else .error (.extractError idempotencyConflict)

/-- The request is executed exactly as without a key; a 200 is stored, a failure leaves the
    key free. -/
structure ExecutedAsUnkeyed (c : KeyedCall) (w : World SqliteIdempotencyStore) : Prop where
  calls : (finalState ((c.handle libs storeId).run w)).calls =
    (finalState ((c.unkeyed libs storeId).run w)).calls
  budget : (finalState ((c.handle libs storeId).run w)).budget =
    (finalState ((c.unkeyed libs storeId).run w)).budget
  answer : answerOf ((c.handle libs storeId).run w) = answerOf ((c.unkeyed libs storeId).run w)
  row : (finalState ((c.handle libs storeId).run w)).store.selectRow c.key =
    match answerOf ((c.unkeyed libs storeId).run w) with
    | .ok response => some (rowOf libs (c, response))
    | .error _ => none

end Calls

variable {libs : Libraries M} {storeId : PyStr} {c : KeyedCall}
  {w : World SqliteIdempotencyStore}

/-! ### Keys and hashes -/

theorem validateIdempotencyKey_eq_ok {idempotencyKey key : PyStr}
    (h : validateIdempotencyKey idempotencyKey = .ok key) : key = strip idempotencyKey := by
  unfold validateIdempotencyKey at h
  simp only at h
  split_ifs at h
  cases h
  rfl

theorem handle_run (haccepted : ∃ key, validateIdempotencyKey c.idempotencyKey = .ok key) :
    (c.handle libs storeId).run w =
      (runExtractIdempotent libs (c.surroundings storeId)
        (SqliteIdempotencyStore.toStore storeId) c.key c.request).run w := by
  obtain ⟨key, hkey⟩ := haccepted
  obtain rfl := validateIdempotencyKey_eq_ok hkey
  simp [KeyedCall.handle, liftExcept, hkey, KeyedCall.key]

/-- The endpoint handles a keyed request as `KeyedCall.handle`: the notes before and after it
    change no call, no charge and no row. -/
theorem extract_of_keyed (hlatin : isLatin1 storeId = true) :
    ∃ w₁ : World SqliteIdempotencyStore, w₁.ledger = w.ledger ∧ w₁.calls = w.calls ∧
      ∃ w₂, (extract libs (c.surroundings storeId) c.request (some c.idempotencyKey)).run w =
          outcomeIn w₂ ((answerOf ((c.handle libs storeId).run w₁)).map fun response =>
            (response, some storeId)) ∧
        w₂.calls = (finalState ((c.handle libs storeId).run w₁)).calls ∧
        w₂.budget = (finalState ((c.handle libs storeId).run w₁)).budget ∧
        w₂.store = (finalState ((c.handle libs storeId).run w₁)).store := by
  obtain ⟨w₁, hnote, hledger, hcalls⟩ := run_noteRequest c.request true w
  refine ⟨w₁, hledger, hcalls, ?_⟩
  have hstore : (c.surroundings storeId).store =
      .ok (SqliteIdempotencyStore.toStore storeId) := rfl
  have hheader : setHeader (SqliteIdempotencyStore.toStore storeId).storeId = .ok storeId :=
    if_pos hlatin
  unfold extract KeyedCall.handle
  rw [EStateM.run_bind, Option.isSome_some, hnote]
  simp only [EStateM.run_bind, hstore]
  cases validateIdempotencyKey c.idempotencyKey with
  | error exc => exact ⟨w₁, rfl, rfl, rfl, rfl⟩
  | ok key =>
    simp only [liftExcept, EStateM.run_pure, hheader]
    cases (runExtractIdempotent libs (c.surroundings storeId)
        (SqliteIdempotencyStore.toStore storeId) key c.request).run w₁ with
    | error exc w₂ => exact ⟨w₂, rfl, rfl, rfl, rfl⟩
    | ok response w₂ => exact ⟨_, rfl, rfl, rfl, rfl⟩

/-- Where no two payloads collide, equal hashes mean equal requests. -/
theorem requestHash_eq_iff {r s : ExtractRequest}
    (hcollision : libs.sha256 (utf8SurrogatePass r.jsonText) =
        libs.sha256 (utf8SurrogatePass s.jsonText) →
      utf8SurrogatePass r.jsonText = utf8SurrogatePass s.jsonText) :
    requestHash libs r = requestHash libs s ↔ r = s := by
  constructor
  · intro h
    exact ExtractRequest.jsonText_injective
      (utf8SurrogatePass_injective (hcollision (hexDigest_injective h)))
  · rintro rfl
    rfl

/-! ### One request -/

theorem run_get (storeId : PyStr) (now : ℚ) (key : PyStr) (s : SqliteIdempotencyStore) :
    ((SqliteIdempotencyStore.toStore storeId).get now key).run s =
      .ok (s.get now key).1 (s.get now key).2 := rfl

theorem run_put (storeId : PyStr) (key : PyStr) (stored : StoredResponse)
    (s : SqliteIdempotencyStore) :
    ((SqliteIdempotencyStore.toStore storeId).put key stored).run s = .ok () (s.put key stored) :=
  rfl

variable (libs storeId) in
theorem handle_of_hit (haccepted : ∃ key, validateIdempotencyKey c.idempotencyKey = .ok key)
    (hencodable : c.request.encodable = true) {stored : StoredResponse}
    (hget : (w.store.get c.clockAtGet c.key).1 = some stored) :
    (c.handle libs storeId).run w = outcomeIn w (replayAnswer libs c.request stored) := by
  have hrun := run_get storeId c.clockAtGet c.key w.store
  rw [hget, get_of_some w.store hget] at hrun
  rw [handle_run haccepted]
  exact runExtractIdempotent_of_hit hencodable hrun

/-- What the keyed path makes of the unkeyed answer: a response is serialized before it is
    stored and returned. -/
def keyedAnswer : Except PyExc ExtractResponse → Except PyExc ExtractResponse
  | .ok response => if response.encodable then .ok response else .error serializationError
  | .error exc => .error exc

variable (libs storeId) in
theorem handle_of_miss (haccepted : ∃ key, validateIdempotencyKey c.idempotencyKey = .ok key)
    (hencodable : c.request.encodable = true)
    (hget : (w.store.get c.clockAtGet c.key).1 = none) :
    ∃ w', (c.handle libs storeId).run w =
        outcomeIn w' (keyedAnswer (answerOf ((c.unkeyed libs storeId).run w))) ∧
      w'.calls = (finalState ((c.unkeyed libs storeId).run w)).calls ∧
      w'.budget = (finalState ((c.unkeyed libs storeId).run w)).budget ∧
      (∀ response, answerOf ((c.unkeyed libs storeId).run w) = .ok response →
        response.extractMeta.replayed = false) ∧
      w'.store = match keyedAnswer (answerOf ((c.unkeyed libs storeId).run w)) with
        | .ok response =>
            (w.store.get c.clockAtGet c.key).2.put c.key (rowOf libs (c, response))
        | .error _ => (w.store.get c.clockAtGet c.key).2 := by
  have hrun := run_get storeId c.clockAtGet c.key w.store
  rw [hget] at hrun
  generalize (w.store.get c.clockAtGet c.key).2 = s at hrun ⊢
  obtain ⟨answer, made, charged, noted, hspec, hreplayed⟩ :=
    runExtract_spec libs (c.surroundings storeId) c.request w.budget
  -- one run of the flow, from the store as it was and from the store after `get`
  obtain ⟨u, hu, hafterU⟩ := hspec w rfl
  obtain ⟨v, hv, hafterV⟩ := hspec { w with store := s } rfl
  have hunkeyed : (c.unkeyed libs storeId).run w = outcomeIn u answer := hu
  rw [handle_run haccepted, hunkeyed, answerOf_outcomeIn, finalState_outcomeIn]
  have hcalls : v.calls = u.calls := hafterV.calls.trans hafterU.calls.symm
  have hbudget : v.budget = u.budget := hafterV.budget.trans hafterU.budget.symm
  cases answer with
  | error exc =>
    exact ⟨v, runExtractIdempotent_of_failure hencodable hrun hv,
      hcalls, hbudget, hreplayed, hafterV.store⟩
  | ok response =>
    have hkeyed := runExtractIdempotent_of_success hencodable hrun hv
    cases hresponse : response.encodable with
    | false =>
      refine ⟨v, ?_, hcalls, hbudget, hreplayed, ?_⟩
      · rw [hkeyed]
        simp [dumpResponse, keyedAnswer, hresponse, outcomeIn]
      · simp only [keyedAnswer, hresponse, Bool.false_eq_true, if_false, hafterV.store]
    | true =>
      refine ⟨{ v with store := s.put c.key (rowOf libs (c, response)) }, ?_, hcalls, hbudget,
        hreplayed, ?_⟩
      · rw [hkeyed]
        simp only [dumpResponse, keyedAnswer, hresponse, if_true, run_put, hafterV.store]
        rfl
      · simp only [keyedAnswer, hresponse, if_true]

theorem keyedAnswer_of_roundTrip
    (hround : ∀ w response w', (c.unkeyed libs storeId).run w = .ok response w' →
      response.encodable = true ∧ parseResponse libs (libs.responseText response) = .ok response) :
    keyedAnswer (answerOf ((c.unkeyed libs storeId).run w)) =
      answerOf ((c.unkeyed libs storeId).run w) := by
  cases hrun : (c.unkeyed libs storeId).run w with
  | error exc w' => rfl
  | ok response w' => exact if_pos (hround w response w' hrun).1

/-! ## Along a sequence -/

/-- The table shows, from `τ` on, the latest executed request of every key; and each of those
    is one of the requests, with a response that survives its JSON text. -/
structure ReplayInvariant (libs : Libraries M) (calls : List KeyedCall) (ttl τ : ℚ)
    (w : World SqliteIdempotencyStore) (history : List Exchange) : Prop where
  ttl_eq : w.store.ttlSeconds = ttl
  agree : ViewsAgree StoredResponse.createdAtEpoch ttl τ w.store.selectRow
    fun key => (latestExecuted history key).map (rowOf libs)
  known : ∀ key d response, latestExecuted history key = some (d, response) →
    d ∈ calls ∧ parseResponse libs (libs.responseText response) = .ok response

variable {calls : List KeyedCall} {ttl τ : ℚ} {history : List Exchange}

theorem latestExecuted_append_of_not_executed {x : Exchange} (h : x.executed = none) :
    latestExecuted (history ++ [x]) = latestExecuted history := by
  funext key
  rw [latestExecuted_append, h]
  simp

/-- What a `get` answers is the latest executed request, while it is within its time to live. -/
theorem ReplayInvariant.get_eq (hinv : ReplayInvariant libs calls ttl τ w history) {now : ℚ}
    (hnow : τ ≤ now) (key : PyStr) :
    (w.store.get now key).1 =
      live StoredResponse.createdAtEpoch ttl now
        ((latestExecuted history key).map (rowOf libs)) := by
  rw [get_eq_live, hinv.ttl_eq]
  exact hinv.agree now hnow key

/-- **One request keeps the invariant.** -/
theorem ReplayInvariant.handle (hinv : ReplayInvariant libs calls ttl τ w history)
    (hassume : ReplayAssumptions libs storeId calls) (hc : c ∈ calls) (hget : τ ≤ c.clockAtGet)
    (hput : c.clockAtGet ≤ c.clockAtPut) :
    ReplayInvariant libs calls ttl c.clockAtPut (finalState ((c.handle libs storeId).run w))
      (history ++ [(c, answerOf ((c.handle libs storeId).run w))]) := by
  have haccepted := hassume.accepted c hc
  have hencodable := hassume.encodable c hc
  cases hrow : (w.store.get c.clockAtGet c.key).1 with
  | some stored =>
    -- a replay or a conflict: neither is an execution
    have hnot : Exchange.executed (c, replayAnswer libs c.request stored) = none := by
      unfold Exchange.executed replayAnswer
      split_ifs
      · cases parseResponse libs stored.responseJson <;> rfl
      · rfl
    rw [handle_of_hit libs storeId haccepted hencodable hrow, finalState_outcomeIn,
      answerOf_outcomeIn]
    constructor
    · exact hinv.ttl_eq
    · rw [latestExecuted_append_of_not_executed hnot]
      exact hinv.agree.mono (hget.trans hput)
    · rw [latestExecuted_append_of_not_executed hnot]
      exact hinv.known
  | none =>
    obtain ⟨w', hrun, -, -, hreplayed, hstore⟩ :=
      handle_of_miss libs storeId haccepted hencodable hrow
    rw [keyedAnswer_of_roundTrip (hassume.roundTrip c hc)] at hrun hstore
    rw [hrun, finalState_outcomeIn, answerOf_outcomeIn]
    have hpurged := hinv.agree.mono hget
    rw [← hinv.ttl_eq] at hpurged
    have hpurged := hpurged.purge (get_purges w.store c.key)
    cases hunkeyed : (c.unkeyed libs storeId).run w with
    | error exc u =>
      have hnot : Exchange.executed (c, .error exc) = none := rfl
      simp only [hunkeyed, answerOf] at hstore ⊢
      constructor
      · rw [hstore, ttlSeconds_get, hinv.ttl_eq]
      · rw [latestExecuted_append_of_not_executed hnot, hstore, ← hinv.ttl_eq]
        exact hpurged.mono hput
      · rw [latestExecuted_append_of_not_executed hnot]
        exact hinv.known
    | ok response u =>
      have hexecuted : Exchange.executed (c, .ok response) = some response := by
        simp [Exchange.executed, hreplayed response (by rw [hunkeyed]; rfl)]
      simp only [hunkeyed, answerOf] at hstore ⊢
      have hhistory : (fun key => (latestExecuted (history ++ [(c, .ok response)]) key).map
            (rowOf libs)) =
          Function.update (fun key => (latestExecuted history key).map (rowOf libs)) c.key
            (some (rowOf libs (c, response))) := by
        funext key
        rw [latestExecuted_append]
        by_cases hkey : c.key = key
        · subst hkey
          simp [hexecuted]
        · rw [Function.update_of_ne (Ne.symm hkey)]
          simp [hkey]
      constructor
      · rw [hstore, SqliteIdempotencyStore.ttlSeconds_put, ttlSeconds_get, hinv.ttl_eq]
      · rw [hhistory, hstore, SqliteIdempotencyStore.selectRow_put_eq, ← hinv.ttl_eq]
        exact (hpurged.overwrite (selectRow_get_of_none w.store hrow)).mono hput
      · intro key d response' hlatest
        rw [latestExecuted_append] at hlatest
        by_cases hkey : c.key = key
        · simp only [hkey, if_true, hexecuted, Option.map_some, Option.some_or,
            Option.some.injEq, Prod.mk.injEq] at hlatest
          obtain ⟨rfl, rfl⟩ := hlatest
          exact ⟨hc, (hassume.roundTrip c hc w _ u hunkeyed).2⟩
        · simp only [hkey, if_false, Option.none_or] at hlatest
          exact hinv.known key d response' hlatest

theorem ReplayInvariant.mono {τ' : ℚ} (hinv : ReplayInvariant libs calls ttl τ w history)
    (hle : τ ≤ τ') : ReplayInvariant libs calls ttl τ' w history :=
  ⟨hinv.ttl_eq, hinv.agree.mono hle, hinv.known⟩

/-- The clock values of a request that follows another in the sequence. -/
theorem ReplayAssumptions.clock_le (hassume : ReplayAssumptions libs storeId calls)
    {made : List KeyedCall} {d : KeyedCall} (h : made ++ [d] ++ [c] <+: calls) :
    d.clockAtGet ≤ d.clockAtPut ∧ d.clockAtPut ≤ c.clockAtGet := by
  have hclock := hassume.clock
  obtain ⟨rest, rfl⟩ := h
  simp only [List.append_assoc, List.flatMap_append, List.pairwise_append] at hclock
  obtain ⟨-, ⟨hd, -, hdc⟩, -⟩ := hclock
  exact ⟨by simpa using hd, hdc _ (by simp) _ (by simp)⟩

/-- **Every request of the sequence finds the invariant.** -/
theorem ReplayInvariant.before (hempty : w.store.idempotency = .empty)
    (hassume : ReplayAssumptions libs storeId calls) {made : List KeyedCall} :
    ∀ {c : KeyedCall}, made ++ [c] <+: calls →
      ReplayInvariant libs calls w.store.ttlSeconds c.clockAtGet (serve libs storeId w made)
        (exchanges libs storeId w made) := by
  induction made using List.reverseRecOn with
  | nil =>
    intro c _
    refine ⟨rfl, fun now hnow key => ?_, fun key d response hlatest => ?_⟩
    · simp [serve, exchanges, latestExecuted, SqliteIdempotencyStore.selectRow, hempty]
    · simp [exchanges, latestExecuted] at hlatest
  | append_singleton made d ih =>
    intro c hmade
    have hd : made ++ [d] <+: calls := (List.prefix_append _ _).trans hmade
    obtain ⟨hput, hle⟩ := hassume.clock_le hmade
    rw [serve_append, exchanges_append]
    exact ((ih hd).handle hassume (hd.subset (by simp)) (le_refl _) hput).mono hle

/-! ## The contract -/

theorem executed_of_miss (haccepted : ∃ key, validateIdempotencyKey c.idempotencyKey = .ok key)
    (hencodable : c.request.encodable = true)
    (hround : ∀ w response w', (c.unkeyed libs storeId).run w = .ok response w' →
      response.encodable = true ∧ parseResponse libs (libs.responseText response) = .ok response)
    (hget : (w.store.get c.clockAtGet c.key).1 = none) :
    ExecutedAsUnkeyed libs storeId c w := by
  obtain ⟨w', hrun, hcalls, hbudget, -, hstore⟩ :=
    handle_of_miss libs storeId haccepted hencodable hget
  rw [keyedAnswer_of_roundTrip hround] at hrun hstore
  have hfree := selectRow_get_of_none w.store hget
  constructor
  case calls => rw [hrun, finalState_outcomeIn, hcalls]
  case budget => rw [hrun, finalState_outcomeIn, hbudget]
  case answer => rw [hrun, answerOf_outcomeIn]
  case row =>
    rw [hrun, finalState_outcomeIn, hstore]
    cases answerOf ((c.unkeyed libs storeId).run w) with
    | error exc => exact hfree
    | ok response =>
      simp only [SqliteIdempotencyStore.selectRow_put, hfree]
      simp

theorem answered_of_hit {d : KeyedCall} {response : ExtractResponse}
    (hassume : ReplayAssumptions libs storeId calls) (hc : c ∈ calls) (hd : d ∈ calls)
    (hparse : parseResponse libs (libs.responseText response) = .ok response)
    (hget : (w.store.get c.clockAtGet c.key).1 = some (rowOf libs (d, response))) :
    AnsweredFrom libs storeId c d response w := by
  have hrun := handle_of_hit libs storeId (hassume.accepted c hc)
    (hassume.encodable c hc) hget
  have hrow : w.store.selectRow c.key = some (rowOf libs (d, response)) := by
    rw [get_eq_live] at hget
    exact (live_eq_some_iff.mp hget).1
  constructor
  case calls => rw [hrun, finalState_outcomeIn]
  case budget => rw [hrun, finalState_outcomeIn]
  case row => rw [hrun, finalState_outcomeIn]; exact ⟨hrow, hrow⟩
  case answer =>
    have hsame := requestHash_eq_iff (hassume.collisionFree d hd c hc)
    have hpayload : (rowOf libs (d, response)).payloadSha256 = requestHash libs d.request := rfl
    rw [hrun, answerOf_outcomeIn, replayAnswer, hpayload]
    by_cases heq : c.request = d.request
    · rw [if_pos (hsame.mpr heq.symm), if_pos heq]
      show (parseResponse libs (libs.responseText response)).map _ = _
      rw [hparse]
      rfl
    · rw [if_neg fun hhash => heq (hsame.mp hhash).symm, if_neg heq]

/-- The contract of the request `c` after the requests `calls`, over a store that is `w`'s at
    the start: `d` is the latest executed request of `c`'s key, `ttl` the time to live. -/
structure ReplayContract (libs : Libraries M) (storeId : PyStr)
    (w : World SqliteIdempotencyStore) (calls : List KeyedCall) (c : KeyedCall) : Prop where
  /-- While the row of `d` is within the time to live, `c` is answered from it. -/
  answered : ∀ d response,
    latestExecuted (exchanges libs storeId w calls) c.key = some (d, response) →
    c.clockAtGet - d.clockAtPut ≤ w.store.ttlSeconds →
    AnsweredFrom libs storeId c d response (serve libs storeId w calls)
  /-- In every other case, `c` is executed as without a key. -/
  executed : (∀ d response,
      latestExecuted (exchanges libs storeId w calls) c.key = some (d, response) →
      w.store.ttlSeconds < c.clockAtGet - d.clockAtPut) →
    ExecutedAsUnkeyed libs storeId c (serve libs storeId w calls)

/-- **Every request of every sequence of keyed requests over a store that started empty
    keeps the replay contract.** -/
theorem sequential_replay (libs : Libraries M) (storeId : PyStr)
    (w : World SqliteIdempotencyStore) (calls : List KeyedCall) (c : KeyedCall)
    (hempty : w.store.idempotency = .empty)
    (hassume : ReplayAssumptions libs storeId (calls ++ [c])) :
    ReplayContract libs storeId w calls c := by
  have hinv := ReplayInvariant.before hempty hassume (List.prefix_refl (calls ++ [c]))
  have hc : c ∈ calls ++ [c] := by simp
  have hget := hinv.get_eq (le_refl _) c.key
  constructor
  case answered =>
    intro d response hlatest hage
    obtain ⟨hd, hparse⟩ := hinv.known c.key d response hlatest
    rw [hlatest, Option.map_some, live_some_of_le (v := rowOf libs (d, response)) hage] at hget
    exact answered_of_hit hassume hc hd hparse hget
  case executed =>
    intro hexpired
    refine executed_of_miss (hassume.accepted c hc) (hassume.encodable c hc)
      (hassume.roundTrip c hc) ?_
    rw [hget]
    cases hlatest : latestExecuted (exchanges libs storeId w calls) c.key with
    | none => rfl
    | some executed =>
      exact live_some_of_lt (v := rowOf libs executed) (hexpired _ _ hlatest)

/-! ### A request and its repetition -/

def sampleCall (clockAtGet clockAtPut : ℚ) : KeyedCall where
  idempotencyKey := py " k1 "
  request := sampleRequest
  getClient _ := .ok (sampleClient invoiceText)
  clockAtGet := clockAtGet
  clockAtPut := clockAtPut

/-- Whatever the state, the sample request can only return the sample response. -/
theorem sampleCall_unkeyed {get put : ℚ} {w w' : World SqliteIdempotencyStore}
    {response : ExtractResponse}
    (h : ((sampleCall get put).unkeyed sampleLibs storeId).run w = .ok response w') :
    response = sampleResponse := by
  have he : EndsAs (sampleClient invoiceText) invoiceModel MAX_ATTEMPTS
      (.accepted 1 (sampleResult invoiceText) ()) :=
    ⟨by decide, le_refl 1, RejectsThrough.zero, rfl, by simp [invoiceModel, sampleResult]⟩
  unfold KeyedCall.unkeyed at h
  cases hpre : preflight sampleLibs ((sampleCall get put).surroundings storeId) sampleRequest
      w.budget with
  | error exc =>
    obtain ⟨w'', hrun, -⟩ := runExtract_of_preflight_error hpre
    cases hrun.symm.trans h
  | ok ready =>
    obtain ⟨modelCls, content, client⟩ := ready
    have hclient := (preflight_eq_ok_iff.mp hpre).client
    cases hclient
    obtain ⟨w'', hrun, -⟩ := runExtract_of_preflight_ok hpre he
    have hresponse := hrun.symm.trans h
    simp only [ScriptEnd.answer, outcomeIn, EStateM.Result.ok.injEq] at hresponse
    rw [← hresponse.1]
    simp [sampleResponse, buildResponse, reportedResult, LLMClient.total, sampleClient,
      sampleLibs, invoiceModel, CallOutcome.ownCost, CallOutcome.latencyMs, sampleResult,
      sampleRequest]

theorem sampleCalls_assumptions :
    ReplayAssumptions sampleLibs (py "store") ([sampleCall 0 1] ++ [sampleCall 2 3]) := by
  have hcalls : ∀ c ∈ [sampleCall 0 1] ++ [sampleCall 2 3], ∃ get put, c = sampleCall get put := by
    intro c hc
    simp only [List.singleton_append, List.mem_cons, List.not_mem_nil, or_false] at hc
    rcases hc with rfl | rfl <;> exact ⟨_, _, rfl⟩
  have hrequest : ∀ c ∈ [sampleCall 0 1] ++ [sampleCall 2 3], c.request = sampleRequest := by
    intro c hc
    obtain ⟨get, put, rfl⟩ := hcalls c hc
    rfl
  constructor
  case accepted =>
    intro c hc
    obtain ⟨get, put, rfl⟩ := hcalls c hc
    exact ⟨py "k1", rfl⟩
  case encodable =>
    intro c hc
    rw [hrequest c hc]
    decide +kernel
  case collisionFree =>
    intro c hc d hd _
    rw [hrequest c hc, hrequest d hd]
  case roundTrip =>
    intro c hc w response w' h
    obtain ⟨get, put, rfl⟩ := hcalls c hc
    obtain rfl := sampleCall_unkeyed h
    exact ⟨by decide +kernel, rfl⟩
  case clock => decide +kernel

theorem sequential_replay_sample :
    ReplayContract sampleLibs (py "store") (freshWorld emptyHourStore 10) [sampleCall 0 1]
      (sampleCall 2 3) := by
  have hempty : (freshWorld emptyHourStore 10).store.idempotency = .empty := rfl
  exact sequential_replay sampleLibs (py "store") (freshWorld emptyHourStore 10) [sampleCall 0 1]
    (sampleCall 2 3) hempty sampleCalls_assumptions

end ExtractApi
