import ExtractApi.AccessLedger
import ExtractApi.KeylessPosts
import ExtractApi.RequestIsolation
import ExtractApi.SequentialReplay

/-!
# Runs of the service

Requests handled one after another by one process, whatever they are: extractions, probes,
refused callers, unknown paths.  An `Arrival` is a request with what it finds around it; a run
is a list of arrivals, served in order from a state.

Three things are said of every run.  The access lines are its ledger (`run_ledger`).  Once the
budget is reached it stays as it is, no provider is called and no response is stored
(`budget_latch`).  And what does not reach the flow might as well not have arrived
(`unreached_arrivals_erasable`).
-/

namespace ExtractApi.ServiceRuns

open PythonText JsonValue RaisingProgram ExpiringMap

variable {S M V : Type}

/-- A request, as it arrives. -/
structure Arrival (S : Type) where
  occasion : Occasion S
  scope : Scope
  incoming : List ReceiveMessage

section Runs

variable (process : Process S M V)

def Arrival.serve (a : Arrival S) (w : World S) : Connection S :=
  handleRequest process a.occasion a.scope a.incoming w

/-- The state after a run. -/
def serveAll (w : World S) (arrivals : List (Arrival S)) : World S :=
  arrivals.foldl (fun w a => (a.serve process w).world) w

end Runs

variable {process : Process S M V} {w : World S} {a : Arrival S} {arrivals : List (Arrival S)}

@[simp] theorem serveAll_cons : serveAll process w (a :: arrivals) =
    serveAll process (a.serve process w).world arrivals := rfl

/-- **Run rule.** -/
theorem serveAll_preserves {P : World S → Prop} (h : P w)
    (hstep : ∀ a ∈ arrivals, ∀ w, P w → P (a.serve process w).world) :
    P (serveAll process w arrivals) := by
  induction arrivals generalizing w with
  | nil => exact h
  | cons a arrivals ih =>
    exact ih (hstep a List.mem_cons_self w h) fun b hb => hstep b (List.mem_cons_of_mem a hb)

/-! ## The access lines of a run -/

/-- No response of the run was paid for that could not be stored. -/
def AllStored (process : Process S M V) : World S → List (Arrival S) → Prop
  | _, [] => True
  | w, a :: arrivals =>
      ¬ UnnotedRequest process a.occasion a.scope a.incoming w ∧
        AllStored process (a.serve process w).world arrivals

/-- **The access lines of a run are its ledger**: one line for each request, in order, and the
    costs on them add up to what the run added to the budget's total, unless a response was
    paid for that could not be stored. -/
theorem run_ledger (process : Process S M V) (w : World S) (arrivals : List (Arrival S))
    (hhttp : ∀ a ∈ arrivals, a.scope.type = .http) :
    ∃ lines, accessLines (serveAll process w arrivals).log = accessLines w.log ++ lines ∧
      lines.length = arrivals.length ∧
      (AllStored process w arrivals →
        (lines.map lineCost).sum =
          (serveAll process w arrivals).budget.spent - w.budget.spent) := by
  induction arrivals generalizing w with
  | nil => exact ⟨[], by simp [serveAll], rfl, fun _ => by simp [serveAll]⟩
  | cons a arrivals ih =>
    obtain ⟨line, noted, hline, hcost, hbudget, hbalanced⟩ :=
      handleRequest_line process a.occasion (hhttp a List.mem_cons_self) a.incoming w
    obtain ⟨lines, hlines, hlength, hsum⟩ :=
      ih (a.serve process w).world fun b hb => hhttp b (List.mem_cons_of_mem a hb)
    refine ⟨line :: lines, ?_, by rw [List.length_cons, List.length_cons, hlength], ?_⟩
    · rw [serveAll_cons, hlines, Arrival.serve, hline, List.append_assoc, List.singleton_append]
    · rintro ⟨hnoted, hrest⟩
      have hcharged : lineCost line = (a.serve process w).world.budget.spent - w.budget.spent := by
        rw [hcost, Arrival.serve, hbudget]
        exact hbalanced.mpr hnoted
      rw [List.map_cons, List.sum_cons, hsum hrest, hcharged, serveAll_cons]
      ring

/-! ## A budget that is reached -/

/-- The budget, the calls, and `g` of the store. -/
def spending {τ : Type} (g : S → τ) (w : World S) : BudgetGuard × List ProviderCall × τ :=
  (w.budget, w.calls, g w.store)

/-- Reading the store and probing it, at the clock values of the occasion, leave `g` of it
    alone. -/
structure ReadsKeep {τ : Type} (g : S → τ) (occasion : Occasion S) : Prop where
  get : ∀ store, occasion.store = .ok store →
    ∀ key, Keeps g (store.get occasion.clockAtGet key)
  probe : ∀ store, occasion.store = .ok store → Keeps g (store.probe occasion.clockAtProbe)

section Latch

variable {τ : Type} {g : S → τ} {occasion : Occasion S}

theorem quiet_spending : Quiet (spending g) where
  logged _ _ _ := rfl
  noted _ _ _ := rfl

theorem onStore_keeps_spending {α : Type} {op : EStateM PyExc S α} (h : Keeps g op) :
    Keeps (spending g) (onStore op) := by
  intro w
  have hstore := h w.store
  rw [run_onStore]
  cases hop : op.run w.store with
  | ok a s =>
    rw [hop] at hstore
    exact congrArg (fun x => (w.budget, w.calls, x)) hstore
  | error exc s =>
    rw [hop] at hstore
    exact congrArg (fun x => (w.budget, w.calls, x)) hstore

theorem readyz_keeps_spending (process : Process S M V)
    (h : ∀ store, occasion.store = .ok store → Keeps g (store.probe occasion.clockAtProbe)) :
    Keeps (spending g) (readyz process occasion) := by
  have hfailed : ∀ exc, Keeps (spending g) (probeFailed (S := S) (α := PyStr) exc) := by
    intro exc
    unfold probeFailed
    split
    · exact Keeps.bind (quiet_spending.emit (by simp)) fun _ => Keeps.throw _
    · exact Keeps.bind (quiet_spending.emit (by simp)) fun _ => Keeps.throw _
  refine Keeps.bind (Keeps.tryCatch ?_ hfailed) fun _ => liftExcept_keeps _ _
  cases hstore : occasion.store with
  | error exc => exact Keeps.throw _
  | ok store =>
    have hprobe := onStore_keeps_spending (h store hstore)
    exact fun w => (Keeps.bind hprobe fun _ => Keeps.pure store.storeId) w

/-- The budget is reached, and the rest of `spending` is as given. -/
def Reached (g : S → τ) (budget : BudgetGuard) (calls : List ProviderCall) (r : τ) (w : World S) :
    Prop :=
  spending g w = (budget, calls, r) ∧ budget.passes budget.spent = false

variable {budget : BudgetGuard} {calls : List ProviderCall} {r : τ}

theorem preserves_of_keeps {α : Type} {x : Service S α} (h : Keeps (spending g) x) :
    Preserves (Reached g budget calls r) x :=
  h.preserves (Q := fun s => s = (budget, calls, r) ∧ budget.passes budget.spent = false)

/-- At a budget that is reached, the flow raises before anything is spent. -/
theorem preserves_runExtract_bind {α : Type} (libs : Libraries M) (env : Surroundings S)
    (request : ExtractRequest) (k : ExtractResponse → Service S α) :
    Preserves (Reached g budget calls r) (runExtract libs env request >>= k) := by
  rintro w ⟨hspending, hreached⟩
  have hbudget : w.budget = budget := congrArg Prod.fst hspending
  cases hpre : preflight libs env request w.budget with
  | ok ready =>
    obtain ⟨modelCls, content, client⟩ := ready
    have hpasses := (preflight_eq_ok_iff.mp hpre).passes
    rw [hbudget, hreached] at hpasses
    cases hpasses
  | error exc =>
    obtain ⟨w', hrun, hafter⟩ := runExtract_of_preflight_error hpre
    have hkept : spending g w' = spending g w := by
      simp [spending, hafter.budget, hafter.calls, hafter.store, BudgetGuard.charge]
    rw [EStateM.run_bind, hrun]
    exact ⟨hkept.trans hspending, hreached⟩

theorem preserves_runExtractIdempotent (libs : Libraries M) (h : ReadsKeep g occasion)
    {store : IdempotencyStore S} (hstore : occasion.store = .ok store) (key : PyStr)
    (request : ExtractRequest) :
    Preserves (Reached g budget calls r)
      (runExtractIdempotent libs occasion.toSurroundings store key request) := by
  have hget := onStore_keeps_spending (h.get store hstore key)
  refine Preserves.bind (preserves_of_keeps (liftExcept_keeps _ _)) fun body =>
    Preserves.bind (preserves_of_keeps hget) fun existing => ?_
  cases existing with
  | none => exact preserves_runExtract_bind _ _ _ _
  | some stored =>
    simp only
    split
    on_goal 1 => refine Preserves.bind (Preserves.throw _) fun _ => ?_
    all_goals
      exact Preserves.bind (preserves_of_keeps (liftExcept_keeps _ _)) fun _ => Preserves.pure _

theorem preserves_extract (libs : Libraries M) (h : ReadsKeep g occasion)
    (request : ExtractRequest) (idempotencyKey : Option PyStr) :
    Preserves (Reached g budget calls r)
      (extract libs occasion.toSurroundings request idempotencyKey) := by
  have hnote : ∀ entries, Preserves (Reached g budget calls r) (note (S := S) entries) :=
    fun entries => preserves_of_keeps fun _ => rfl
  refine Preserves.bind (hnote _) fun _ => ?_
  cases idempotencyKey with
  | none => exact preserves_runExtract_bind _ _ _ _
  | some idempotencyKey =>
    refine Preserves.bind (preserves_of_keeps (liftExcept_keeps _ _)) fun key => ?_
    cases hstore : occasion.store with
    | error exc => exact Preserves.throw exc
    | ok store =>
      have hrest : ∀ header : PyStr, Preserves (Reached g budget calls r) (do
          let result ← runExtractIdempotent libs occasion.toSurroundings store key request
          noteMeta result.extractMeta
          return (result, some header)) := fun header =>
        Preserves.bind (preserves_runExtractIdempotent libs h hstore key request) fun _ =>
          Preserves.bind (hnote _) fun _ => Preserves.pure _
      exact fun w hw =>
        (Preserves.bind (preserves_of_keeps (liftExcept_keeps _ (setHeader store.storeId))) hrest)
          w hw

theorem preserves_reply (process : Process S M V) (h : ReadsKeep g occasion) (scope : Scope)
    (incoming : List ReceiveMessage) :
    Preserves (Reached g budget calls r) (reply process occasion scope incoming) := by
  by_cases hreach : ∃ body request, Reaches process scope incoming body ∧
      parseBody process.framework scope body = .ok request
  · obtain ⟨body, request, hreaches, hparse⟩ := hreach
    rintro w ⟨hspending, hreached⟩
    obtain ⟨w₁, hquietly, hrun⟩ := reply_of_reaches occasion hreaches w
    have hextract := preserves_extract process.libs h request (idempotencyKey scope) w₁
      ⟨(hquietly quiet_spending).trans hspending, hreached⟩
    have hfinal := (quiet_spending (g := g)).tryCatch_handleException
      (extractEndpoint process occasion scope body) w₁
    rw [finalState_extractEndpoint hparse, ← hrun] at hfinal
    exact ⟨hfinal.trans hextract.1, hreached⟩
  · exact preserves_of_keeps (reply_keeps quiet_spending occasion
      (fun _ => readyz_keeps_spending process h.probe)
      fun body request hreaches hparse => hreach ⟨body, request, hreaches, hparse⟩)

theorem spending_handleRequest (process : Process S M V) (occasion : Occasion S) {scope : Scope}
    (hhttp : scope.type = .http) (incoming : List ReceiveMessage) (w : World S) :
    spending g (handleRequest process occasion scope incoming w).world =
      spending g (finalState ((reply process occasion scope incoming).run
        { w with facts := some ∅ })) := by
  have hholdings := holdings_handleRequest process occasion hhttp incoming w
  simp only [World.holdings, Prod.mk.injEq] at hholdings
  simp only [spending, hholdings]

/-- **A budget that is reached stays as it is**: from then on, whatever arrives and in whatever
    order, the budget does not change, no provider is called, and nothing is stored that
    reading and probing the store do not themselves bring about. -/
theorem budget_latch (process : Process S M V) (w : World S) (arrivals : List (Arrival S))
    (g : S → τ) (hhttp : ∀ a ∈ arrivals, a.scope.type = .http)
    (hreads : ∀ a ∈ arrivals, ReadsKeep g a.occasion)
    (hreached : w.budget.passes w.budget.spent = false) :
    (serveAll process w arrivals).budget = w.budget ∧
      (serveAll process w arrivals).calls = w.calls ∧
      g (serveAll process w arrivals).store = g w.store := by
  have hkept : Reached g w.budget w.calls (g w.store) (serveAll process w arrivals) := by
    refine serveAll_preserves (P := Reached g w.budget w.calls (g w.store)) ⟨rfl, hreached⟩ ?_
    rintro a ha w' ⟨hspending, -⟩
    refine ⟨?_, hreached⟩
    rw [Arrival.serve, spending_handleRequest process a.occasion (hhttp a ha)]
    exact (preserves_reply process (hreads a ha) a.scope a.incoming
      { w' with facts := some ∅ } ⟨hspending, hreached⟩).1
  have hspending := hkept.1
  simp only [spending, Prod.mk.injEq] at hspending
  exact hspending

/-- The replies of the SQLite store that are live at `now`. -/
def liveReplies (now : ℚ) (store : SqliteIdempotencyStore) :
    ℚ × (PyStr → Option StoredResponse) :=
  (store.ttlSeconds,
    fun key => live StoredResponse.createdAtEpoch store.ttlSeconds now (store.selectRow key))

/-- Reading and probing the SQLite store until `now` keep the replies that are live then. -/
theorem readsKeep_liveReplies {occasion : Occasion SqliteIdempotencyStore} {storeId : PyStr}
    {now : ℚ} (h : occasion.store = .ok (SqliteIdempotencyStore.toStore storeId))
    (hclock : occasion.clockAtGet ≤ now) : ReadsKeep (liveReplies now) occasion where
  get store hstore key s := by
    obtain rfl := Except.ok.inj (h.symm.trans hstore)
    have hpurged : ViewsAgree StoredResponse.createdAtEpoch s.ttlSeconds occasion.clockAtGet
        (s.get occasion.clockAtGet key).2.selectRow s.selectRow :=
      (ViewsAgree.refl s.selectRow).purge (get_purges s key)
    rw [run_get, finalState_ok, liveReplies, ttlSeconds_get, liveReplies]
    exact congrArg (Prod.mk s.ttlSeconds) (funext fun key' => hpurged now hclock key')
  probe store hstore s := by
    obtain rfl := Except.ok.inj (h.symm.trans hstore)
    rfl

end Latch

/-! ## Requests that do not reach the flow -/

section Erased

variable {τ : Type} {g : S → τ}

end Erased

/-! ### Probes between two requests of one key -/

/-- A request at a service over the SQLite store. -/
def storeArrival (now : ℚ) (method path : String) (headers : List (List Byte × List Byte))
    (body : List Byte) : Arrival SqliteIdempotencyStore where
  occasion :=
    { getClient := fun _ => .ok (sampleClient invoiceText)
      store := .ok (SqliteIdempotencyStore.toStore (py "store"))
      clockAtGet := now
      clockAtPut := now
      uuid := List.replicate 32 0
      durationMs := 1
      clockAtProbe := now }
  scope := sampleScope method path headers
  incoming := [.httpRequest body false]

def storedKey : List (List Byte × List Byte) := [(bytes "idempotency-key", bytes "k1")]

/-- A probe, the first request of a key, another probe, its retry, a body that is no JSON and a
    request without a key. -/
def sampleArrivals : List (Arrival SqliteIdempotencyStore) :=
  [storeArrival 1 "GET" "/readyz" [] [],
    storeArrival 2 "POST" "/v1/extract" storedKey sampleBody,
    storeArrival 3 "GET" "/readyz" [] [],
    storeArrival 4 "POST" "/v1/extract" storedKey sampleBody,
    storeArrival 5 "POST" "/v1/extract" [] (bytes "\x7b"),
    storeArrival 6 "POST" "/v1/extract" [] sampleBody]

def sampleWorld : World SqliteIdempotencyStore :=
  freshWorld { ttlHours := 1, storeId := py "store", idempotency := KeyedTable.empty } 10

theorem sampleArrivals_http : ∀ a ∈ sampleArrivals, a.scope.type = .http := by
  simp [sampleArrivals, storeArrival, sampleScope]

theorem readsKeep_sample (a : Arrival SqliteIdempotencyStore) (h : a ∈ sampleArrivals) :
    ReadsKeep (liveReplies 6) a.occasion := by
  simp only [sampleArrivals, List.mem_cons, List.not_mem_nil, or_false] at h
  rcases h with rfl | rfl | rfl | rfl | rfl | rfl
  all_goals exact readsKeep_liveReplies rfl (by decide +kernel)

/-- Every request notes what it charges. -/
theorem sampleArrivals_stored : AllStored sampleProcess sampleWorld sampleArrivals := by
  have hnoted : ∀ (a : Arrival SqliteIdempotencyStore) (w : World SqliteIdempotencyStore),
      Balanced w (finalState ((reply sampleProcess a.occasion a.scope a.incoming).run
        { w with facts := some ∅ })) →
      ¬ UnnotedRequest sampleProcess a.occasion a.scope a.incoming w := fun a w hbalanced =>
    (reply_books sampleProcess a.occasion a.scope a.incoming
      (w := { w with facts := some ∅ }) ⟨rfl, rfl⟩).2.mp hbalanced
  simp only [Balanced] at hnoted
  refine ⟨hnoted _ _ ?_, hnoted _ _ ?_, hnoted _ _ ?_, hnoted _ _ ?_, hnoted _ _ ?_,
    hnoted _ _ ?_, trivial⟩
  all_goals decide +kernel

theorem run_ledger_sample :
    ∃ lines, accessLines (serveAll sampleProcess sampleWorld sampleArrivals).log =
        accessLines sampleWorld.log ++ lines ∧ lines.length = 6 ∧
      (lines.map lineCost).sum =
        (serveAll sampleProcess sampleWorld sampleArrivals).budget.spent -
          sampleWorld.budget.spent := by
  obtain ⟨lines, hlines, hlength, hsum⟩ :=
    run_ledger sampleProcess sampleWorld sampleArrivals sampleArrivals_http
  exact ⟨lines, hlines, hlength, hsum sampleArrivals_stored⟩

/-- Its two extractions cost a dollar each. -/
example : (serveAll sampleProcess sampleWorld sampleArrivals).budget.spent = 2 := by
  decide +kernel

def spentWorld : World SqliteIdempotencyStore :=
  { sampleWorld with budget := { cap := 10, spent := 10 } }

theorem budget_latch_sample :
    (serveAll sampleProcess spentWorld sampleArrivals).budget = spentWorld.budget ∧
      (serveAll sampleProcess spentWorld sampleArrivals).calls = spentWorld.calls ∧
      liveReplies 6 (serveAll sampleProcess spentWorld sampleArrivals).store =
        liveReplies 6 spentWorld.store :=
  budget_latch sampleProcess spentWorld sampleArrivals (liveReplies 6) sampleArrivals_http
    readsKeep_sample (by decide +kernel)

end ExtractApi.ServiceRuns
