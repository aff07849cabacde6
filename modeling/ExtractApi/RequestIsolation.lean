import ExtractApi.ExtractRequests
import ExtractApi.PairedRuns

/-!
# What a request sees of the requests before it

The state that outlives a request is the budget, the store, the log and (for the statements)
the provider calls.  Of these a request reads the budget and the store only:
`handleRequest_isolated` says that the rest of the past decides nothing.

Of the store itself it may read less: `SeenThrough g` are the stores whose operations see and
change only `g` of their state.  The SQLite store is seen through its rows of `idempotency`,
for no operation reads the row that a probe writes.

Two runs are followed side by side in the relation `Beside`: the same budget and facts, alike
stores, and the same provider calls since the request began.  A program is `Isolated` when it
keeps two runs of itself beside each other, with the same outcome.
-/

namespace ExtractApi

open PairedRuns PythonText JsonValue RaisingProgram

variable {S M V : Type} {α β : Type} {τ : Type} {g : S → τ}

/-! ## Stores seen through a part of their state -/

/-- From states with the same `g`, `op` comes to the same outcome, with the same `g`. -/
def Sees (g : S → τ) (op : EStateM PyExc S α) : Prop :=
  Coupled (fun s s' => g s' = g s) Eq Eq op op

/-- The operations of the store see and change only `g` of its state. -/
structure SeenThrough (g : S → τ) (store : IdempotencyStore S) : Prop where
  get : ∀ now key, Sees g (store.get now key)
  put : ∀ key stored, Sees g (store.put key stored)
  probe : ∀ now, Sees g (store.probe now)

/-- Two worlds of one request: only the log, the calls before the request and what nobody sees
    of the store may differ. -/
structure Beside (g : S → τ) (past past' : List ProviderCall) (w w' : World S) : Prop where
  budget : w'.budget = w.budget
  store : g w'.store = g w.store
  facts : w'.facts = w.facts
  calls : ∃ made, w.calls = past ++ made ∧ w'.calls = past' ++ made

/-- From worlds beside each other, `x` comes to the same outcome, beside each other. -/
def Isolated (g : S → τ) (x : Service S α) : Prop :=
  ∀ past past', Coupled (Beside g past past') Eq Eq x x

namespace Isolated

/-! ## Rules -/

theorem pure (a : α) : Isolated g (pure a) := fun _ _ => Coupled.pure rfl

theorem throw (exc : PyExc) : Isolated (α := α) g (throw exc) :=
  fun _ _ => Coupled.throw rfl

theorem bind {x : Service S α} {k : α → Service S β} (hx : Isolated g x)
    (hk : ∀ a, Isolated g (k a)) : Isolated g (x >>= k) := by
  intro past past'
  refine (hx past past').bind ?_
  rintro a a' rfl
  exact hk a past past'

theorem tryCatch {x : Service S α} {handler : PyExc → Service S α} (hx : Isolated g x)
    (hh : ∀ exc, Isolated g (handler exc)) : Isolated g (tryCatch x handler) := by
  intro past past'
  refine (hx past past').tryCatch ?_
  rintro exc exc' rfl
  exact hh exc past past'

theorem ite {c : Prop} [Decidable c] {x y : Service S α} (hx : Isolated g x) (hy : Isolated g y) :
    Isolated g (if c then x else y) := by
  split
  · exact hx
  · exact hy

theorem liftExcept (x : Except PyExc α) : Isolated g (liftExcept x) := by
  cases x with
  | ok a => exact pure a
  | error exc => exact throw exc

/-! ## Steps -/

theorem emit (record : LogRecord) : Isolated g (emit record) :=
  fun _ _ => Coupled.modify rfl fun _ _ h => ⟨h.budget, h.store, h.facts, h.calls⟩

theorem note (entries : List (String × Json)) : Isolated g (note entries) := by
  intro past past'
  refine Coupled.modify rfl fun w w' h => ⟨h.budget, h.store, ?_, h.calls⟩
  show w'.facts.map _ = w.facts.map _
  rw [h.facts]

theorem add (costUsd : ℚ) : Isolated g (BudgetGuard.add costUsd) := by
  intro past past'
  refine Coupled.modify rfl fun w w' h => ⟨?_, h.store, h.facts, h.calls⟩
  show w'.budget.charge costUsd = w.budget.charge costUsd
  rw [h.budget]

theorem check : Isolated g BudgetGuard.check := by
  intro past past' w w' h
  cases hpasses : w.budget.passes w.budget.spent with
  | true =>
    rw [BudgetGuard.check_of_passes hpasses, BudgetGuard.check_of_passes (h.budget ▸ hpasses)]
    exact .returned rfl h
  | false =>
    rw [BudgetGuard.check_of_not_passes hpasses,
      BudgetGuard.check_of_not_passes (h.budget ▸ hpasses)]
    exact .raised rfl ⟨h.budget, h.store, h.facts, h.calls⟩

theorem onStore {op : EStateM PyExc S α} (hop : Sees g op) : Isolated g (onStore op) := by
  intro past past' w w' h
  have hstore := hop w.store w'.store h.store
  rw [run_onStore, run_onStore]
  generalize op.run w.store = result at hstore ⊢
  generalize op.run w'.store = result' at hstore ⊢
  cases hstore with
  | returned heq hsame =>
    subst heq
    exact .returned rfl ⟨h.budget, hsame, h.facts, h.calls⟩
  | raised heq hsame =>
    subst heq
    exact .raised rfl ⟨h.budget, hsame, h.facts, h.calls⟩

theorem complete (client : LLMClient) (attempt : ℕ) (call : ProviderCall) :
    Isolated g (client.complete attempt call) := by
  refine bind ?_ fun _ => ?_
  · intro past past'
    refine Coupled.modify rfl fun w w' h => ⟨h.budget, h.store, h.facts, ?_⟩
    obtain ⟨made, hcalls, hcalls'⟩ := h.calls
    refine ⟨made ++ [call], ?_, ?_⟩
    · show w.calls ++ [call] = _
      rw [hcalls, List.append_assoc]
    · show w'.calls ++ [call] = _
      rw [hcalls', List.append_assoc]
  · cases client.script attempt with
    | returned result => exact pure result
    | raised error => exact throw _
    | crashed className => exact throw _

/-! ## The flow -/

theorem attemptLoop (client : LLMClient) (model : StrictModel M) (system content : PyStr)
    (maxTokens n : ℕ) (attempts : List ℕ) :
    ∀ st, Isolated g
      (attemptLoop client model system content maxTokens n .noteRetry attempts st) := by
  induction attempts with
  | nil =>
    intro st
    exact throw _
  | cons attempt rest ih =>
    intro st
    have hretry : ∀ kinds, Isolated g (RetryObserver.noteRetry.onRetry kinds) :=
      fun kinds => note _
    refine bind (tryCatch (complete client attempt _) fun exc => ?_) fun result => ?_
    · cases exc <;> exact throw _
    · cases model.validate result.text with
      | ok value => exact pure _
      | error errors =>
        refine bind (emit _) fun _ => ?_
        by_cases hlast : attempt < n
        · simpa [hlast] using bind (hretry _) fun _ => ih _
        · simpa [hlast] using ih _

theorem mapFailure (exc : PyExc) : Isolated (α := α) g (mapFailure exc) := by
  cases exc with
  | providerError e =>
    refine bind (add _) fun _ => bind (note _) fun _ => ?_
    exact ite (bind (emit _) fun _ => throw _) (bind (emit _) fun _ => throw _)
  | extractionFailed e => exact bind (add _) fun _ => bind (note _) fun _ => throw _
  | _ => exact throw _

theorem runExtract (libs : Libraries M) (env : Surroundings S) (request : ExtractRequest) :
    Isolated g (runExtract libs env request) := by
  refine bind (liftExcept _) fun modelCls => bind (liftExcept _) fun content => ?_
  simp only
  split
  on_goal 1 => refine bind (throw _) fun _ => ?_
  all_goals
    exact bind check fun _ => bind (liftExcept _) fun client => bind (note _) fun _ =>
      bind (tryCatch (attemptLoop client _ _ _ _ _ _ _) mapFailure) fun _ =>
        bind (add _) fun _ => pure _

theorem runExtractIdempotent (libs : Libraries M) (env : Surroundings S)
    {store : IdempotencyStore S} (hstore : SeenThrough g store) (key : PyStr)
    (request : ExtractRequest) :
    Isolated g (runExtractIdempotent libs env store key request) := by
  refine bind (liftExcept _) fun body => bind (onStore (hstore.get _ _)) fun existing => ?_
  cases existing with
  | some stored =>
    simp only
    split
    on_goal 1 => refine bind (throw _) fun _ => ?_
    all_goals exact bind (liftExcept _) fun _ => pure _
  | none =>
    exact bind (runExtract libs env request) fun response => bind (liftExcept _) fun _ =>
      bind (onStore (hstore.put _ _)) fun _ => pure _

/-- What is done with the store, if there is one. -/
theorem withStore {made : Except PyExc (IdempotencyStore S)} {k : IdempotencyStore S → Service S α}
    (hk : ∀ store, made = .ok store → Isolated g (k store)) :
    Isolated g (ExtractApi.liftExcept made >>= k) := by
  cases made with
  | ok store => exact fun past past' w w' h => hk store rfl past past' w w' h
  | error exc => exact fun past past' w w' h => .raised rfl h

theorem extract (libs : Libraries M) {env : Surroundings S}
    (hseen : ∀ store, env.store = .ok store → SeenThrough g store) (request : ExtractRequest)
    (idempotencyKey : Option PyStr) : Isolated g (extract libs env request idempotencyKey) := by
  refine bind (note _) fun _ => ?_
  cases idempotencyKey with
  | none => exact bind (runExtract libs env request) fun _ => bind (note _) fun _ => pure _
  | some idempotencyKey =>
    exact bind (liftExcept _) fun key => withStore fun store hstore =>
      bind (liftExcept _) fun header =>
        bind (runExtractIdempotent libs env (hseen store hstore) key request) fun _ =>
          bind (note _) fun _ => pure _

/-! ## The application -/

theorem errorResponse (code : ErrorCode) (body : List (PyStr × Json))
    (headers : List (PyStr × PyStr)) : Isolated g (errorResponse code body headers) :=
  bind (note _) fun _ => liftExcept _

theorem handleException (exc : PyExc) : Isolated g (handleException exc) := by
  cases exc with
  | extractError e => exact errorResponse _ _ _
  | unknownSchema message => exact errorResponse _ _ _
  | requestValidationError errors => exact errorResponse _ _ _
  | httpException status detail headers =>
    show Isolated g (handleHttpException status detail headers)
    unfold handleHttpException
    cases CODE_BY_HTTP_STATUS status with
    | none => exact bind (emit _) fun _ => errorResponse _ _ _
    | some code => exact errorResponse _ _ _
  | _ => exact throw _

theorem handleUnexpected (requestId : Option PyStr) (exc : PyExc) :
    Isolated g (handleUnexpected requestId exc) :=
  bind (emit _) fun _ => errorResponse _ _ _

variable (process : Process S M V) {occasion : Occasion S}
  (hseen : ∀ store, occasion.store = .ok store → SeenThrough g store) (scope : Scope)

include hseen

theorem readyz : Isolated g (readyz process occasion) := by
  have hfailed : ∀ exc, Isolated g (probeFailed (S := S) (α := PyStr) exc) := by
    intro exc
    exact ite (bind (emit _) fun _ => throw _) (bind (emit _) fun _ => throw _)
  refine bind (tryCatch ?_ hfailed) fun _ => liftExcept _
  exact withStore fun store hstore => bind (onStore ((hseen store hstore).probe _)) fun _ => pure _

theorem extractEndpoint (body : List Byte) :
    Isolated g (extractEndpoint process occasion scope body) :=
  bind (liftExcept _) fun request =>
    bind (extract process.libs hseen request _) fun _ => liftExcept _

theorem handled (body : BodyRead) : Isolated g (handled process occasion scope body) := by
  refine tryCatch ?_ handleException
  unfold dispatch
  cases routing scope with
  | endpoint route =>
    show Isolated g (endpointReply process occasion scope body route.endpoint)
    cases route.endpoint with
    | healthz =>
      show Isolated g healthz
      exact liftExcept _
    | readyz => exact readyz process hseen
    | extract =>
      cases body with
      | complete body => exact extractEndpoint process hseen scope body
      | clientGone => exact throw _
      | tooLarge => exact throw _
    | documentation => exact pure _
  | methodNotAllowed route => exact throw _
  | redirect => exact pure _
  | notFound => exact throw _

theorem reply (incoming : List ReceiveMessage) :
    Isolated g (reply process occasion scope incoming) := by
  unfold ExtractApi.reply
  refine ite (handled process hseen scope _) (bind (ite (note _) (pure _)) fun _ => ?_)
  refine ite (errorResponse _ _ _) (ite ?_ (errorResponse _ _ _))
  exact ite (errorResponse _ _ _)
    (ite (errorResponse _ _ _) (handled process hseen scope _))

end Isolated

/-! ## One request -/

/-- What the application does around `reply` keeps worlds beside each other. -/
theorem Beside.failed {past past' : List ProviderCall} {w w' : World S}
    (h : Beside g past past' w w') (scope : Scope) (route route' : Option PyStr) (status : ℕ)
    (durationMs : ℚ) :
    Beside g past past' (w.failed.logged scope route status durationMs)
      (w'.failed.logged scope route' status durationMs) := by
  refine ⟨h.budget, h.store, ?_, h.calls⟩
  show w'.facts.map _ = w.facts.map _
  rw [h.facts]

end ExtractApi
