import ExtractApi.ExtractRequests

/-!
# The cost on the access line

The budget is charged inside `_run_extract`; the cost of the access line is noted by its
`except` clauses or, for a 200, by `note_meta` after the keyed path has stored the
response.  A failure between the two, of the response's serialization or of the store's
`put`, leaves a charge that the line does not show.  `access_line_iff` says that nothing
else does.
-/

namespace ExtractApi

open PythonText JsonValue RaisingProgram

variable {S M V : Type}

/-! ## Costs on record -/

/-- A recorded cost; null and a missing field count as nothing. -/
def recordedCost : Option Json → ℚ
  | some (.float cost) => cost
  | _ => 0

/-- The cost on an access line. -/
def lineCost (line : LogRecord) : ℚ := recordedCost (AList.lookup "cost_usd" line.extra)

/-- The cost noted so far. -/
def World.notedCost (w : World S) : ℚ := recordedCost (w.fact "cost_usd")

theorem lineCost_accessRecord (method : PyStr) (route : Option PyStr) (status : Option ℕ)
    (durationMs : ℚ) (facts : Facts) :
    lineCost (accessRecord method route status durationMs facts) =
      recordedCost (AList.lookup "cost_usd" facts) := by
  unfold lineCost
  rw [lookup_accessRecord_of_allowed (by decide) (by decide)]
  cases AList.lookup "cost_usd" facts with
  | some cost => rfl
  | none => split <;> rfl

/-- What a request can spend and what it has on record for it: everything of the ledger but
    the store. -/
def World.books (w : World S) : BudgetGuard × List LogRecord × Option Json × Bool :=
  (w.budget, accessLines w.log, w.fact "cost_usd", w.facts.isSome)

theorem books_of_ledger {w w' : World S} (h : w'.ledger = w.ledger) : w'.books = w.books := by
  simp only [World.ledger, Prod.mk.injEq] at h
  simp only [World.books, h]

/-! ## What charges nothing -/

theorem quiet_books : Quiet (World.books (S := S)) where
  logged w record h := books_of_ledger (quiet_ledger.logged w record h)
  noted w entries h := books_of_ledger (quiet_ledger.noted w entries h)

theorem onStore_keeps_books {α : Type} (op : EStateM PyExc S α) :
    Keeps World.books (onStore op) := by
  intro w
  rw [run_onStore]
  cases op.run w.store <;> rfl

theorem readyz_keeps_books (process : Process S M V) (occasion : Occasion S) :
    Keeps World.books (readyz process occasion) := by
  have hfailed : ∀ exc, Keeps World.books (probeFailed (S := S) (α := PyStr) exc) := by
    intro exc
    unfold probeFailed
    split
    · exact Keeps.bind (quiet_books.emit (by simp)) fun _ => Keeps.throw _
    · exact Keeps.bind (quiet_books.emit (by simp)) fun _ => Keeps.throw _
  refine Keeps.bind (Keeps.tryCatch ?_ hfailed) fun _ => liftExcept_keeps _ _
  exact Keeps.bind (liftExcept_keeps _ _) fun store =>
    Keeps.bind (onStore_keeps_books (store.probe occasion.clockAtProbe)) fun _ => Keeps.pure _

/-- A request that does not reach the flow charges and notes nothing. -/
theorem reply_keeps_books {process : Process S M V} {scope : Scope}
    {incoming : List ReceiveMessage} (occasion : Occasion S)
    (hnone : ∀ body request, Reaches process scope incoming body →
      parseBody process.framework scope body ≠ .ok request) :
    Keeps World.books (reply process occasion scope incoming) :=
  reply_keeps quiet_books occasion (fun _ => readyz_keeps_books process occasion) hnone

/-! ## The flow -/

/-- The cost noted is what was charged since `w`. -/
def Balanced (w w' : World S) : Prop := w'.notedCost = w'.budget.spent - w.budget.spent

/-- A request in which no cost has been noted. -/
structure Fresh (w : World S) : Prop where
  inRequest : w.facts.isSome = true
  unnoted : w.fact "cost_usd" = none

theorem Fresh.of_books {w w' : World S} (h : Fresh w) (hbooks : w'.books = w.books) : Fresh w' := by
  simp only [World.books, Prod.mk.injEq] at hbooks
  obtain ⟨-, -, hcost, hin⟩ := hbooks
  exact ⟨hin.trans h.inRequest, hcost.trans h.unnoted⟩

theorem Fresh.balanced_of_books {w w' : World S} (h : Fresh w) (hbooks : w'.books = w.books) :
    Balanced w w' := by
  have hfresh := h.of_books hbooks
  simp only [World.books, Prod.mk.injEq] at hbooks
  simp [Balanced, World.notedCost, hfresh.unnoted, recordedCost, hbooks.1]

section Flow

variable (libs : Libraries M) (env : Surroundings S) (store : IdempotencyStore S) (key : PyStr)
  (request : ExtractRequest)

/-- The extraction ends, at this budget, with this response. -/
def Accepts (budget : BudgetGuard) (response : ExtractResponse) : Prop :=
  ∃ modelCls content client k result value,
    preflight libs env request budget = .ok (modelCls, content, client) ∧
      EndsAs client (libs.model modelCls) MAX_ATTEMPTS (.accepted k result value) ∧
      response = buildResponse request client ((libs.model modelCls).dump value)
        (reportedResult client k result) k

/-- The response cannot be serialized, or the store's `put` of it raises. -/
def Unstorable (response : ExtractResponse) (s : S) : Prop :=
  response.encodable = false ∨
    ∃ exc s', (store.put key (storedResponse (requestHash libs request)
      (libs.responseText response) env.clockAtPut)).run s = .error exc s'

/-- A first request of its key succeeds at a cost, and its response cannot be stored. -/
def UnstoredSpend (budget : BudgetGuard) (s : S) : Prop :=
  request.encodable = true ∧ ∃ s' response,
    (store.get env.clockAtGet key).run s = .ok none s' ∧
      Accepts libs env request budget response ∧ response.extractMeta.costUsd ≠ 0 ∧
      Unstorable libs env store key request response s'

/-- The same for a request with its header, as it was sent. -/
def UnnotedSpend (idempotencyKey : Option PyStr) (budget : BudgetGuard) (s : S) : Prop :=
  ∃ rawKey key store, idempotencyKey = some rawKey ∧ validateIdempotencyKey rawKey = .ok key ∧
    env.store = .ok store ∧ isLatin1 store.storeId = true ∧
    UnstoredSpend libs env store key request budget s

variable {libs env store key request}

theorem Accepts.unique {budget : BudgetGuard} {response response' : ExtractResponse}
    (h : Accepts libs env request budget response)
    (h' : Accepts libs env request budget response') : response = response' := by
  obtain ⟨modelCls, content, client, k, result, value, hpre, hends, rfl⟩ := h
  obtain ⟨modelCls', content', client', k', result', value', hpre', hends', rfl⟩ := h'
  rw [hpre] at hpre'
  cases hpre'
  cases hends.unique hends'
  rfl

theorem not_accepts_of_preflight_error {budget : BudgetGuard} {exc : PyExc}
    (h : preflight libs env request budget = .error exc) (response : ExtractResponse) :
    ¬ Accepts libs env request budget response := by
  rintro ⟨modelCls, content, client, k, result, value, hpre, -⟩
  rw [h] at hpre
  cases hpre

theorem accepts_iff {budget : BudgetGuard} {modelCls : ModelClass} {content : PyStr}
    {client : LLMClient} {e : ScriptEnd M} {response : ExtractResponse}
    (h : preflight libs env request budget = .ok (modelCls, content, client))
    (he : EndsAs client (libs.model modelCls) MAX_ATTEMPTS e) :
    Accepts libs env request budget response ↔
      e.answer request client (libs.model modelCls) MAX_ATTEMPTS = .ok response := by
  constructor
  · rintro ⟨modelCls', content', client', k, result, value, hpre, hends, rfl⟩
    rw [h] at hpre
    cases hpre
    obtain rfl := he.unique hends
    rfl
  · intro hanswer
    cases e with
    | accepted k result value =>
      cases hanswer
      exact ⟨modelCls, content, client, k, result, value, h, he, rfl⟩
    | _ => cases hanswer

variable (libs env request) in
/-- An extraction returns a response whose cost is charged and not yet noted, or raises with
    the cost noted. -/
theorem runExtract_books {w : World S} (hfresh : Fresh w) :
    ∃ w' x, (runExtract libs env request).run w = outcomeIn w' x ∧
      accessLines w'.log = accessLines w.log ∧ w'.facts.isSome = true ∧ w'.store = w.store ∧
      match x with
      | .ok response => Accepts libs env request w.budget response ∧
          response.extractMeta.replayed = false ∧
          w'.budget = w.budget.charge response.extractMeta.costUsd ∧ w'.fact "cost_usd" = none
      | .error _ => (∀ response, ¬ Accepts libs env request w.budget response) ∧
          Balanced w w' := by
  cases hpre : preflight libs env request w.budget with
  | error exc =>
    obtain ⟨w', hrun, hafter⟩ := runExtract_of_preflight_error hpre
    have hcost : w'.fact "cost_usd" = none := hafter.cost.trans hfresh.unnoted
    refine ⟨w', .error exc, hrun, hafter.access, hafter.inRequest.trans hfresh.inRequest,
      hafter.store, not_accepts_of_preflight_error hpre, ?_⟩
    simp [Balanced, World.notedCost, hcost, recordedCost, hafter.budget]
  | ok ready =>
    obtain ⟨modelCls, content, client⟩ := ready
    obtain ⟨e, he⟩ := exists_endsAs client (libs.model modelCls) MAX_ATTEMPTS
    obtain ⟨w', hrun, hafter⟩ := runExtract_of_preflight_ok hpre he
    refine ⟨w', _, hrun, hafter.access, hafter.inRequest.trans hfresh.inRequest, hafter.store,
      ?_⟩
    -- the cost is charged and noted together, but for an acceptance and a crash
    have hcost := hafter.cost
    obtain ⟨bag, hbag⟩ := Option.isSome_iff_exists.mp hfresh.inRequest
    cases e with
    | accepted k result value =>
      exact ⟨(accepts_iff hpre he).mpr rfl, rfl, hafter.budget, hcost.trans hfresh.unnoted⟩
    | exhausted =>
      refine ⟨fun response haccepts => ?_, ?_⟩
      · cases (accepts_iff hpre he).mp haccepts
      · simp only [ScriptEnd.noted, hbag, Option.map_some] at hcost
        simp [Balanced, World.notedCost, hcost, recordedCost, hafter.budget, BudgetGuard.charge]
    | raised k error =>
      refine ⟨fun response haccepts => ?_, ?_⟩
      · cases (accepts_iff hpre he).mp haccepts
      · simp only [ScriptEnd.noted, hbag, Option.map_some] at hcost
        simp [Balanced, World.notedCost, hcost, recordedCost, hafter.budget, BudgetGuard.charge]
    | crashed k className =>
      refine ⟨fun response haccepts => ?_, ?_⟩
      · cases (accepts_iff hpre he).mp haccepts
      · simp only [ScriptEnd.noted, hfresh.unnoted] at hcost
        simp [Balanced, World.notedCost, hcost, recordedCost, hafter.budget, BudgetGuard.charge,
          ScriptEnd.charged]

theorem run_noteMeta (m : ExtractMeta) {w : World S} (hin : w.facts.isSome = true) :
    ∃ w', (noteMeta m).run w = .ok () w' ∧ w'.budget = w.budget ∧
      accessLines w'.log = accessLines w.log ∧
      w'.notedCost = if m.replayed then 0 else m.costUsd := by
  obtain ⟨bag, hbag⟩ := Option.isSome_iff_exists.mp hin
  refine ⟨_, rfl, rfl, rfl, ?_⟩
  simp [World.notedCost, World.fact, hbag, Facts.update, recordedCost]

/-- On a miss that ends with a response, what the response costs and whether it can be stored
    decide. -/
theorem unstoredSpend_iff {budget : BudgetGuard} {s s' : S} {response : ExtractResponse}
    (hencodable : request.encodable = true)
    (hget : (store.get env.clockAtGet key).run s = .ok none s')
    (haccepts : Accepts libs env request budget response) :
    UnstoredSpend libs env store key request budget s ↔
      response.extractMeta.costUsd ≠ 0 ∧ Unstorable libs env store key request response s' := by
  constructor
  · rintro ⟨-, s'', response', hget', haccepts', hcost, hunstorable⟩
    rw [hget] at hget'
    cases hget'
    obtain rfl := haccepts.unique haccepts'
    exact ⟨hcost, hunstorable⟩
  · rintro ⟨hcost, hunstorable⟩
    exact ⟨hencodable, s', response, hget, haccepts, hcost, hunstorable⟩

theorem balanced_iff_of_unnoted {w w' : World S} {cost : ℚ}
    (hbudget : w'.budget = w.budget.charge cost) (hcost : w'.fact "cost_usd" = none) :
    Balanced w w' ↔ cost = 0 := by
  simp [Balanced, World.notedCost, hcost, recordedCost, hbudget, BudgetGuard.charge, eq_comm]

theorem replayed_of_replayAnswer {stored : StoredResponse} {response : ExtractResponse}
    (h : replayAnswer libs request stored = .ok response) :
    response.extractMeta.replayed = true := by
  unfold replayAnswer at h
  split_ifs at h
  cases hparse : parseResponse libs stored.responseJson with
  | error exc => simp [hparse, Except.map] at h
  | ok stored =>
    rw [hparse, Except.map, Except.ok.injEq] at h
    rw [← h]
    rfl

variable (libs env store key request) in
/-- The keyed path returns a response with the cost it charged, or raises; and then the cost
    is noted unless a response was paid for that could not be stored. -/
theorem runExtractIdempotent_books {w : World S} (hfresh : Fresh w) :
    ∃ w' x, (runExtractIdempotent libs env store key request).run w = outcomeIn w' x ∧
      accessLines w'.log = accessLines w.log ∧ w'.facts.isSome = true ∧
      match x with
      | .ok response => ¬ UnstoredSpend libs env store key request w.budget w.store ∧
          w'.budget.spent - w.budget.spent =
            if response.extractMeta.replayed then 0 else response.extractMeta.costUsd
      | .error _ =>
          (Balanced w w' ↔ ¬ UnstoredSpend libs env store key request w.budget w.store) := by
  cases hencodable : request.encodable with
  | false =>
    refine ⟨w, .error serializationError, runExtractIdempotent_of_not_encodable hencodable, rfl,
      hfresh.inRequest, iff_of_true (hfresh.balanced_of_books rfl) ?_⟩
    rintro ⟨hencodable', -⟩
    rw [hencodable] at hencodable'
    cases hencodable'
  | true =>
    cases hget : (store.get env.clockAtGet key).run w.store with
    | error exc s =>
      refine ⟨{ w with store := s }, .error exc, runExtractIdempotent_of_get_error hencodable hget,
        rfl, hfresh.inRequest, iff_of_true (hfresh.balanced_of_books rfl) ?_⟩
      rintro ⟨-, s', response, hmiss, -⟩
      rw [hget] at hmiss
      cases hmiss
    | ok existing s =>
      cases existing with
      -- a row is answered from, and nothing is spent
      | some stored =>
        have hmissed : ¬ UnstoredSpend libs env store key request w.budget w.store := by
          rintro ⟨-, s', response, hmiss, -⟩
          rw [hget] at hmiss
          cases hmiss
        refine ⟨{ w with store := s }, replayAnswer libs request stored,
          runExtractIdempotent_of_hit hencodable hget, rfl, hfresh.inRequest, ?_⟩
        cases hanswer : replayAnswer libs request stored with
        | ok response => exact ⟨hmissed, by simp [replayed_of_replayAnswer hanswer]⟩
        | error exc => exact iff_of_true (hfresh.balanced_of_books rfl) hmissed
      | none =>
        have hmiss : Fresh { w with store := s } := ⟨hfresh.inRequest, hfresh.unnoted⟩
        obtain ⟨w', x, hrun, haccess, hin, hstore, hx⟩ :=
          runExtract_books libs env request hmiss
        cases x with
        | error exc =>
          refine ⟨w', .error exc, runExtractIdempotent_of_failure hencodable hget hrun, haccess,
            hin, iff_of_true hx.2 ?_⟩
          rintro ⟨-, s', response, -, haccepts, -⟩
          exact hx.1 response haccepts
        | ok response =>
          -- the run is charged but not yet noted: what follows may still lose the response
          obtain ⟨haccepts, hreplayed, hbudget, hunnoted⟩ := hx
          have hsuccess := runExtractIdempotent_of_success hencodable hget hrun
          have hspend := unstoredSpend_iff hencodable hget haccepts
          have hbalanced : Balanced w w' ↔ response.extractMeta.costUsd = 0 :=
            balanced_iff_of_unnoted hbudget hunnoted
          cases hresponse : response.encodable with
          | false =>
            have hunstorable : Unstorable libs env store key request response s :=
              Or.inl hresponse
            refine ⟨w', .error serializationError, ?_, haccess, hin, ?_⟩
            · rw [hsuccess]
              simp [dumpResponse, hresponse, outcomeIn]
            · rw [hbalanced, hspend]
              simp [hunstorable]
          | true =>
            simp only [dumpResponse, hresponse, if_true, hstore] at hsuccess
            cases hput : (store.put key (storedResponse (requestHash libs request)
                (libs.responseText response) env.clockAtPut)).run s with
            | error exc s' =>
              have hunstorable : Unstorable libs env store key request response s :=
                Or.inr ⟨exc, s', hput⟩
              rw [hput] at hsuccess
              refine ⟨{ w' with store := s' }, .error exc, hsuccess, haccess, hin, ?_⟩
              rw [hspend]
              exact hbalanced.trans (by simp [hunstorable])
            | ok u s' =>
              rw [hput] at hsuccess
              refine ⟨{ w' with store := s' }, .ok response, hsuccess, haccess, hin, ?_, ?_⟩
              · rw [hspend]
                rintro ⟨-, hencoded | ⟨exc, s'', hraised⟩⟩
                · rw [hresponse] at hencoded
                  cases hencoded
                · rw [hput] at hraised
                  cases hraised
              · simp [hbudget, BudgetGuard.charge, hreplayed]

theorem not_unnotedSpend_none (budget : BudgetGuard) (s : S) :
    ¬ UnnotedSpend libs env request none budget s := by
  rintro ⟨rawKey, key, store, hkey, -⟩
  cases hkey

theorem unnotedSpend_some_iff {rawKey : PyStr} {budget : BudgetGuard} {s : S} :
    UnnotedSpend libs env request (some rawKey) budget s ↔
      ∃ key store, validateIdempotencyKey rawKey = .ok key ∧ env.store = .ok store ∧
        isLatin1 store.storeId = true ∧ UnstoredSpend libs env store key request budget s := by
  simp [UnnotedSpend]

variable (libs env request) in
/-- **The endpoint notes what it charges, unless a paid response could not be stored.** -/
theorem extract_books {w : World S} (hfresh : Fresh w) (idempotencyKey : Option PyStr) :
    accessLines (finalState ((extract libs env request idempotencyKey).run w)).log =
        accessLines w.log ∧
      (Balanced w (finalState ((extract libs env request idempotencyKey).run w)) ↔
        ¬ UnnotedSpend libs env request idempotencyKey w.budget w.store) := by
  -- noting the request touches neither the budget nor the cost
  obtain ⟨w₁, hnote, hledger, -⟩ := run_noteRequest request idempotencyKey.isSome w
  have hbooks := books_of_ledger hledger
  have hfresh₁ := hfresh.of_books hbooks
  have hbudget₁ : w₁.budget = w.budget := congrArg Prod.fst hledger
  have hstore₁ : w₁.store = w.store := congrArg (fun l => l.2.1) hledger
  have haccess₁ : accessLines w₁.log = accessLines w.log := congrArg (fun b => b.2.1) hbooks
  have hbalanced : ∀ w', Balanced w₁ w' ↔ Balanced w w' := by
    intro w'
    rw [Balanced, Balanced, hbudget₁]
  unfold extract
  rw [EStateM.run_bind, hnote]
  cases idempotencyKey with
  | none =>
    obtain ⟨w', x, hrun, haccess, hin, -, hx⟩ :=
      runExtract_books libs env request hfresh₁
    cases x with
    | error exc =>
      simp only [EStateM.run_bind, hrun, outcomeIn, finalState_error]
      exact ⟨haccess.trans haccess₁,
        iff_of_true ((hbalanced w').mp hx.2) (not_unnotedSpend_none w.budget w.store)⟩
    | ok response =>
      obtain ⟨-, hreplayed, hbudget, -⟩ := hx
      obtain ⟨w'', hmeta, hbudget', haccess', hcost⟩ := run_noteMeta response.extractMeta hin
      simp only [EStateM.run_bind, hrun, outcomeIn, hmeta, EStateM.run_pure, finalState_ok]
      refine ⟨haccess'.trans (haccess.trans haccess₁),
        iff_of_true ?_ (not_unnotedSpend_none w.budget w.store)⟩
      simp [Balanced, hcost, hreplayed, hbudget', hbudget, hbudget₁, BudgetGuard.charge]
  | some rawKey =>
    simp only [EStateM.run_bind]
    cases hkey : validateIdempotencyKey rawKey with
    | error exc =>
      simp only [liftExcept, run_throw, finalState_error]
      refine ⟨haccess₁, iff_of_true (hfresh.balanced_of_books hbooks) ?_⟩
      simp [unnotedSpend_some_iff, hkey]
    | ok key =>
      cases hstore : env.store with
      | error exc =>
        simp only [liftExcept, EStateM.run_pure, run_throw, finalState_error]
        refine ⟨haccess₁, iff_of_true (hfresh.balanced_of_books hbooks) ?_⟩
        simp [unnotedSpend_some_iff, hstore]
      | ok store =>
        cases hlatin : isLatin1 store.storeId with
        | false =>
          simp only [liftExcept, setHeader, hlatin, Bool.false_eq_true, if_false,
            EStateM.run_pure, run_throw, finalState_error]
          refine ⟨haccess₁, iff_of_true (hfresh.balanced_of_books hbooks) ?_⟩
          simp [unnotedSpend_some_iff, hstore, hlatin]
        | true =>
          -- the keyed flow decides whether a response was paid for and lost
          have hspend : UnnotedSpend libs env request (some rawKey) w.budget w.store ↔
              UnstoredSpend libs env store key request w.budget w.store := by
            simp [unnotedSpend_some_iff, hkey, hstore, hlatin]
          obtain ⟨w', x, hrun, haccess, hin, hx⟩ :=
            runExtractIdempotent_books libs env store key request hfresh₁
          rw [hbudget₁, hstore₁] at hx
          rw [hspend]
          simp only [liftExcept, setHeader, hlatin, if_true, EStateM.run_pure, hrun]
          cases x with
          | error exc =>
            simp only [outcomeIn, finalState_error]
            exact ⟨haccess.trans haccess₁, (hbalanced w').symm.trans hx⟩
          | ok response =>
            obtain ⟨hunstored, hspent⟩ := hx
            obtain ⟨w'', hmeta, hbudget', haccess', hcost⟩ := run_noteMeta response.extractMeta hin
            simp only [outcomeIn, hmeta, finalState_ok]
            refine ⟨haccess'.trans (haccess.trans haccess₁), iff_of_true ?_ hunstored⟩
            rw [Balanced, hcost, hbudget', hspent]

end Flow

/-! ## The application -/

section App

variable {process : Process S M V} {occasion : Occasion S} {scope : Scope}
  {incoming : List ReceiveMessage}

/-- The request reaches the flow, and a response was paid for there that could not be
    stored. -/
def UnnotedRequest (process : Process S M V) (occasion : Occasion S) (scope : Scope)
    (incoming : List ReceiveMessage) (w : World S) : Prop :=
  ∃ body request, Reaches process scope incoming body ∧
    parseBody process.framework scope body = .ok request ∧
    UnnotedSpend process.libs occasion.toSurroundings request (idempotencyKey scope) w.budget
      w.store

theorem Balanced.congr {w w' w'' : World S} (h : w''.books = w'.books) :
    Balanced w w'' ↔ Balanced w w' := by
  simp only [World.books, Prod.mk.injEq] at h
  simp only [Balanced, World.notedCost, h]

variable (process occasion scope incoming) in
theorem reply_books {w : World S} (hfresh : Fresh w) :
    accessLines (finalState ((reply process occasion scope incoming).run w)).log =
        accessLines w.log ∧
      (Balanced w (finalState ((reply process occasion scope incoming).run w)) ↔
        ¬ UnnotedRequest process occasion scope incoming w) := by
  by_cases hreach : ∃ body request, Reaches process scope incoming body ∧
      parseBody process.framework scope body = .ok request
  · obtain ⟨body, request, hreaches, hparse⟩ := hreach
    obtain ⟨w₁, hquietly, hrun⟩ := reply_of_reaches occasion hreaches w
    have hledger := hquietly quiet_ledger
    have hbooks₁ := books_of_ledger hledger
    have hbudget₁ : w₁.budget = w.budget := congrArg Prod.fst hledger
    have hstore₁ : w₁.store = w.store := congrArg (fun l => l.2.1) hledger
    have haccess₁ : accessLines w₁.log = accessLines w.log := congrArg (fun b => b.2.1) hbooks₁
    obtain ⟨haccess, hbalanced⟩ := extract_books process.libs occasion.toSurroundings request
      (hfresh.of_books hbooks₁) (idempotencyKey scope)
    have hfinal := quiet_books.tryCatch_handleException
      (extractEndpoint process occasion scope body) w₁
    rw [finalState_extractEndpoint hparse, ← hrun] at hfinal
    refine ⟨(congrArg (fun b => b.2.1) hfinal).trans (haccess.trans haccess₁), ?_⟩
    rw [Balanced.congr hfinal]
    rw [Balanced, hbudget₁, hstore₁] at hbalanced
    refine Iff.trans hbalanced (not_congr ⟨fun hspend => ⟨body, request, hreaches, hparse, hspend⟩,
      ?_⟩)
    rintro ⟨body', request', hreaches', hparse', hspend⟩
    have hbody : body = body' := by
      have hcomplete := hreaches.complete.symm.trans hreaches'.complete
      cases hcomplete
      rfl
    subst hbody
    rw [hparse, Except.ok.injEq] at hparse'
    rwa [hparse']
  · have hbooks := reply_keeps_books occasion (fun body request hreaches hparse =>
      hreach ⟨body, request, hreaches, hparse⟩) w
    refine ⟨congrArg (fun b => b.2.1) hbooks, iff_of_true (hfresh.balanced_of_books hbooks) ?_⟩
    rintro ⟨body, request, hreaches, hparse, -⟩
    exact hreach ⟨body, request, hreaches, hparse⟩

theorem accessLines_append_of_eq {log : List LogRecord} {record : LogRecord}
    (h : record.logger = "extract.access") :
    accessLines (log ++ [record]) = accessLines log ++ [record] := by
  simp [accessLines, h]

theorem lineCost_logged (w : World S) (scope : Scope) (route : Option PyStr) (status : ℕ)
    (durationMs : ℚ) :
    ∃ line, accessLines (w.logged scope route status durationMs).log =
        accessLines w.log ++ [line] ∧ lineCost line = w.notedCost := by
  refine ⟨_, accessLines_append_of_eq rfl, ?_⟩
  rw [lineCost_accessRecord]
  cases hfacts : w.facts <;> simp [World.notedCost, World.fact, hfacts]

theorem notedCost_failed (w : World S) : w.failed.notedCost = w.notedCost := by
  cases hfacts : w.facts with
  | none => simp [World.notedCost, World.failed, World.fact, hfacts]
  | some bag =>
    simp only [World.notedCost, World.failed, World.fact, hfacts, Option.map_some,
      Option.bind_some, Facts.setdefault]
    split
    · rfl
    · rw [AList.lookup_insert_ne (by simp)]

/-- An http request writes one access line, with the cost that the reply has noted. -/
theorem handleRequest_line (process : Process S M V) (occasion : Occasion S) {scope : Scope}
    (hhttp : scope.type = .http) (incoming : List ReceiveMessage) (w : World S) :
    ∃ line noted,
      accessLines (handleRequest process occasion scope incoming w).world.log =
          accessLines w.log ++ [line] ∧
        lineCost line = noted.notedCost ∧
        (handleRequest process occasion scope incoming w).world.budget = noted.budget ∧
        (Balanced w noted ↔ ¬ UnnotedRequest process occasion scope incoming w) := by
  have hspec := handleRequest_spec process occasion hhttp incoming w
  have hfresh : Fresh { w with facts := some ∅ } := ⟨rfl, rfl⟩
  obtain ⟨haccess, hbalanced⟩ := reply_books process occasion scope incoming hfresh
  cases hreply : (reply process occasion scope incoming).run { w with facts := some ∅ } with
  | ok r w' =>
    rw [hreply] at hspec haccess hbalanced
    obtain ⟨route, -, hworld⟩ := hspec
    obtain ⟨line, hline, hcost⟩ := lineCost_logged w' scope route r.status occasion.durationMs
    refine ⟨line, w', ?_, hcost, by rw [hworld]; rfl, hbalanced⟩
    rw [hworld]
    exact hline.trans (congrArg (· ++ [line]) haccess)
  | error exc w' =>
    -- logged as a failure first; the answer to the exception comes after the line
    rw [hreply] at hspec haccess hbalanced
    obtain ⟨route, r, hunexpected, -, -⟩ := hspec
    have hledger := (quiet_ledger.handleUnexpected _ exc).of_ok hunexpected
    obtain ⟨line, hline, hcost⟩ := lineCost_logged w'.failed scope route 500 occasion.durationMs
    have hlog := congrArg (fun l => l.2.2.1) hledger
    have hbudget := congrArg Prod.fst hledger
    refine ⟨line, w', ?_, hcost.trans (notedCost_failed w'), hbudget, hbalanced⟩
    exact hlog.trans (hline.trans (congrArg (· ++ [line]) haccess))

/-- **Every http request writes one access line, and the cost on it is what the request
    charged, exactly when no response was paid for that could not be stored.** -/
theorem access_line_iff (process : Process S M V) (occasion : Occasion S) (scope : Scope)
    (incoming : List ReceiveMessage) (w : World S) (hhttp : scope.type = .http) :
    ∃ line,
      accessLines (handleRequest process occasion scope incoming w).world.log =
          accessLines w.log ++ [line] ∧
        (lineCost line =
            (handleRequest process occasion scope incoming w).world.budget.spent - w.budget.spent ↔
          ¬ UnnotedRequest process occasion scope incoming w) := by
  obtain ⟨line, noted, hline, hcost, hbudget, hbalanced⟩ :=
    handleRequest_line process occasion hhttp incoming w
  refine ⟨line, hline, ?_⟩
  rw [hcost, hbudget]
  exact hbalanced

end App

/-! ### A store that cannot write -/

/-- A store without rows whose `put` raises. -/
def readOnlyStore : IdempotencyStore Unit where
  storeId := py "store"
  get _ _ := pure none
  put _ _ := throw (.other (py "OperationalError"))
  probe _ := pure ()

def readOnlyOccasion : Occasion Unit :=
  sampleOccasion { sampleSurroundings invoiceText with store := .ok readOnlyStore }

/-- The sample request with a key. -/
def keyedScope : Scope :=
  sampleScope "POST" "/v1/extract" [(bytes "idempotency-key", bytes "k1")]

theorem access_line_iff_readOnly :
    ∃ line,
      accessLines (handleRequest sampleProcess readOnlyOccasion keyedScope
          [.httpRequest sampleBody false] (freshWorld () 10)).world.log =
        accessLines (freshWorld () 10).log ++ [line] ∧
      (lineCost line =
          (handleRequest sampleProcess readOnlyOccasion keyedScope
            [.httpRequest sampleBody false] (freshWorld () 10)).world.budget.spent -
            (freshWorld () 10).budget.spent ↔
        ¬ UnnotedRequest sampleProcess readOnlyOccasion keyedScope
          [.httpRequest sampleBody false] (freshWorld () 10)) :=
  access_line_iff sampleProcess readOnlyOccasion keyedScope [.httpRequest sampleBody false]
    (freshWorld () 10) rfl

/-- The provider bills one dollar for the response, the store's `put` raises, and the line
    shows no cost. -/
theorem put_failure_hides_cost :
    (handleRequest sampleProcess readOnlyOccasion keyedScope [.httpRequest sampleBody false]
        (freshWorld () 10)).world.budget.spent = 1 ∧
      (accessLines (handleRequest sampleProcess readOnlyOccasion keyedScope
        [.httpRequest sampleBody false] (freshWorld () 10)).world.log).map lineCost = [0] := by
  decide +kernel

end ExtractApi
