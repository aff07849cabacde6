import ExtractApi.LiveLedger
import ExtractApi.ProviderPricing
import ExtractApi.ServiceRuns

/-!
# The spend of a run

What a request adds to the budget's total is what its calls cost, and a client that the
environment resolves to prices each call at two prices that are not negative.  So the total
only grows, and it grows by no more than `MAX_ATTEMPTS` calls for each request.

With a positive cap, each request is checked before it is charged.  One request after
another, the total passes the cap by less than what a single request can cost
(`spend_trajectory`).
-/

namespace ExtractApi.ServiceRuns

open PythonText JsonValue RaisingProgram

variable {S M V : Type}

/-! ## Prices -/

section Prices

variable {environ : Environ} {vendors : Vendors}

theorem nonneg_of_floatEnvRequired {name : String} {value : ℚ}
    (h : floatEnvRequired environ vendors name = .ok value) : 0 ≤ value := by
  unfold floatEnvRequired at h
  split at h
  · cases h
  · split at h
    · cases h
    · split_ifs at h with hneg
      cases h
      exact not_lt.mp hneg

theorem prices_of_clientSettings {vendor : String} {settings : ClientSettings}
    (h : clientSettings environ vendors vendor = .ok settings) :
    0 ≤ settings.priceInPerM ∧ 0 ≤ settings.priceOutPerM := by
  obtain ⟨credentials, -, h⟩ := bind_eq_ok_iff.mp h
  obtain ⟨priceIn, hin, h⟩ := bind_eq_ok_iff.mp h
  obtain ⟨priceOut, hout, h⟩ := bind_eq_ok_iff.mp h
  obtain ⟨timeoutS, -, h⟩ := bind_eq_ok_iff.mp h
  obtain ⟨maxRetries, -, h⟩ := bind_eq_ok_iff.mp h
  cases h
  exact ⟨nonneg_of_floatEnvRequired hin, nonneg_of_floatEnvRequired hout⟩

theorem tokenCost_nonneg {settings : ClientSettings}
    (h : 0 ≤ settings.priceInPerM ∧ 0 ≤ settings.priceOutPerM) (tokensIn tokensOut : ℕ) :
    0 ≤ tokenCost settings tokensIn tokensOut := by
  obtain ⟨hin, hout⟩ := h
  unfold tokenCost
  positivity

theorem ownCost_ofExcept {costUsd : ℚ} (hcost : 0 ≤ costUsd)
    {x : Except CallRaise CompletionResult} (h : Carries costUsd x) :
    0 ≤ (CallOutcome.ofExcept x).ownCost := by
  rcases x with (error | cls) | result
  · exact hcost.trans_eq h.symm
  · exact le_refl 0
  · exact hcost.trans_eq h.symm

/-- A count that is refused is refused at no cost. -/
theorem tokenCount_raisesFree (usage : SdkValue) (field : String) (provider : PyStr) :
    RaisesOnly (fun raised => ∃ error : ProviderError, raised = .provider error ∧
      error.costUsd = 0) (tokenCount usage field provider) := by
  intro raised h
  by_cases hcount : ∃ n, IsCount (usage.getattr field .none) n
  · obtain ⟨n, hn⟩ := hcount
    rw [tokenCount_of_isCount hn] at h
    cases h
  · unfold tokenCount at h
    split at h
    · cases h
    · split_ifs at h
      cases h
      exact ⟨_, rfl, rfl⟩
    · cases h
      exact ⟨_, rfl, rfl⟩

theorem ownCost_completeWith {settings : ClientSettings} {provider : PyStr}
    {ladder : SdkValue → ℕ → ℕ → Except CallRaise CompletionResult}
    (hprices : 0 ≤ settings.priceInPerM ∧ 0 ≤ settings.priceOutPerM)
    (hcarries : ∀ response tokensIn tokensOut,
      Carries (tokenCost settings tokensIn tokensOut) (ladder response tokensIn tokensOut))
    (answer : SdkAnswer) : 0 ≤ (completeWith provider ladder answer).ownCost := by
  cases answer with
  | timedOut detail => exact le_refl 0
  | failed detail => exact le_refl 0
  | response response =>
    unfold completeWith
    simp only
    cases hin : tokenCount (response.getattr "usage" .none) "input_tokens" provider with
    | error raised =>
      obtain ⟨error, rfl, hfree⟩ := tokenCount_raisesFree _ _ _ raised hin
      exact hfree.ge
    | ok tokensIn =>
      cases hout : tokenCount (response.getattr "usage" .none) "output_tokens" provider with
      | error raised =>
        obtain ⟨error, rfl, hfree⟩ := tokenCount_raisesFree _ _ _ raised hout
        exact hfree.ge
      | ok tokensOut =>
        exact ownCost_ofExcept (tokenCost_nonneg hprices tokensIn tokensOut)
          (hcarries response tokensIn tokensOut)

/-- The fixture client's calls are free. -/
theorem ownCost_fixtureClient (cannedText : PyStr) (latencyMs n : ℕ) :
    ((fixtureClient vendors cannedText latencyMs).script n).ownCost = 0 := by
  unfold fixtureClient
  simp only
  split_ifs
  · rfl
  · rfl

end Prices

/-- The SDKs as the vendors that the service runs with. -/
def SdkBacked (vendors : Vendors) : Prop :=
  ∃ str openai anthropic conversions, vendors = sdkVendors str openai anthropic conversions

/-- **No call of a client that the environment resolves to has a negative cost.** -/
theorem ownCost_of_getClient {environ : Environ} {vendors : Vendors} (hsdk : SdkBacked vendors)
    {provider : Provider} {client : LLMClient}
    (h : getClient environ vendors provider = .ok client) (n : ℕ) :
    0 ≤ (client.script n).ownCost := by
  obtain ⟨str, openai, anthropic, conversions, rfl⟩ := hsdk
  unfold getClient at h
  simp only at h
  generalize (if provider = .default then
    (envValue environ "LLM_DEFAULT_PROVIDER").getD (py "openai") else provider.value) = resolved
    at h
  split_ifs at h
  · split at h
    · cases h
    · cases h
      exact (ownCost_fixtureClient _ _ n).ge
  · obtain ⟨settings, hsettings, rfl⟩ := map_eq_ok_iff.mp h
    exact ownCost_completeWith (prices_of_clientSettings hsettings)
      (openAILadder_carries str settings (openai settings n).1) (openai settings n).2
  · obtain ⟨settings, hsettings, rfl⟩ := map_eq_ok_iff.mp h
    exact ownCost_completeWith (prices_of_clientSettings hsettings)
      (anthropicLadder_carries str settings (anthropic settings n).1) (anthropic settings n).2

/-! ## What a request can add -/

section Charges

/-- A charge that a request finding `budget` can make: none, or, past the check, that of the
    calls of a client the occasion resolves to. -/
def MayCharge (M : Type) (occasion : Occasion S) (budget : BudgetGuard) (charge : ℚ) : Prop :=
  charge = 0 ∨ budget.passes budget.spent = true ∧
    ∃ provider client, occasion.getClient provider = .ok client ∧
      ∃ (model : StrictModel M) (e : ScriptEnd M), EndsAs client model MAX_ATTEMPTS e ∧
        charge = e.charged client MAX_ATTEMPTS

/-- Run from `budget`, the action adds at most one such charge to it. -/
def Charges {α : Type} (M : Type) (occasion : Occasion S) (x : Service S α) : Prop :=
  ∀ w : World S, ∃ charge, MayCharge M occasion w.budget charge ∧
    (finalState (x.run w)).budget = w.budget.charge charge

variable {occasion : Occasion S}

theorem Charges.of_keeps {α : Type} {x : Service S α} (h : Keeps World.budget x) :
    Charges M occasion x :=
  fun w => ⟨0, .inl rfl, (h w).trans (BudgetGuard.charge_zero w.budget).symm⟩

theorem Charges.bind_keeps {α β : Type} {x : Service S α} {k : α → Service S β}
    (hx : Charges M occasion x) (hk : ∀ a, Keeps World.budget (k a)) :
    Charges M occasion (x >>= k) := by
  intro w
  obtain ⟨charge, hcharge, hbudget⟩ := hx w
  refine ⟨charge, hcharge, ?_⟩
  rw [EStateM.run_bind]
  cases hrun : x.run w with
  | ok a w' =>
    rw [hrun] at hbudget
    exact (hk a w').trans hbudget
  | error exc w' =>
    rw [hrun] at hbudget
    exact hbudget

theorem Charges.keeps_bind {α β : Type} {x : Service S α} {k : α → Service S β}
    (hx : Keeps World.budget x) (hk : ∀ a, Charges M occasion (k a)) :
    Charges M occasion (x >>= k) := by
  intro w
  have hbudget := hx w
  rw [EStateM.run_bind]
  cases hrun : x.run w with
  | ok a w' =>
    rw [hrun] at hbudget
    obtain ⟨charge, hcharge, hafter⟩ := hk a w'
    have hsame : w'.budget = w.budget := hbudget
    rw [hsame] at hcharge hafter
    exact ⟨charge, hcharge, hafter⟩
  | error exc w' =>
    rw [hrun] at hbudget
    exact ⟨0, .inl rfl, hbudget.trans (BudgetGuard.charge_zero w.budget).symm⟩

theorem charges_runExtract (libs : Libraries M) (request : ExtractRequest) :
    Charges M occasion (runExtract libs occasion.toSurroundings request) := by
  intro w
  cases hpre : preflight libs occasion.toSurroundings request w.budget with
  | error exc =>
    obtain ⟨w', hrun, hafter⟩ := runExtract_of_preflight_error hpre
    refine ⟨0, .inl rfl, ?_⟩
    rw [hrun]
    exact hafter.budget
  | ok ready =>
    obtain ⟨modelCls, content, client⟩ := ready
    have hcleared := preflight_eq_ok_iff.mp hpre
    obtain ⟨e, he⟩ := exists_endsAs client (libs.model modelCls) MAX_ATTEMPTS
    obtain ⟨w', hrun, hafter⟩ := runExtract_of_preflight_ok hpre he
    refine ⟨e.charged client MAX_ATTEMPTS, .inr ⟨hcleared.passes, request.provider, client,
      hcleared.client, libs.model modelCls, e, he, rfl⟩, ?_⟩
    rw [hrun, finalState_outcomeIn]
    exact hafter.budget

/-- What keeps the spending keeps the budget. -/
theorem keeps_budget {α : Type} {x : Service S α}
    (h : Keeps (spending fun _ : S => ()) x) : Keeps World.budget x :=
  fun w => congrArg Prod.fst (h w)

theorem onStore_keeps_budget {α : Type} (op : EStateM PyExc S α) :
    Keeps World.budget (onStore op) :=
  keeps_budget (onStore_keeps_spending fun _ => rfl)

theorem charges_runExtractIdempotent (libs : Libraries M) (store : IdempotencyStore S)
    (key : PyStr) (request : ExtractRequest) :
    Charges M occasion
      (runExtractIdempotent libs occasion.toSurroundings store key request) := by
  refine Charges.keeps_bind (liftExcept_keeps _ _) fun body =>
    Charges.keeps_bind (onStore_keeps_budget _) fun existing => ?_
  cases existing with
  | none =>
    refine (charges_runExtract libs request).bind_keeps fun response => ?_
    refine Keeps.bind (liftExcept_keeps _ _) fun responseJson => ?_
    exact Keeps.bind (onStore_keeps_budget _) fun _ => Keeps.pure _
  | some stored =>
    apply Charges.of_keeps
    simp only
    split
    on_goal 1 => refine Keeps.bind (Keeps.throw _) fun _ => ?_
    all_goals exact Keeps.bind (liftExcept_keeps _ _) fun _ => Keeps.pure _

variable (occasion) in
theorem charges_extract (libs : Libraries M) (request : ExtractRequest)
    (idempotencyKey : Option PyStr) :
    Charges M occasion (extract libs occasion.toSurroundings request idempotencyKey) := by
  have hnote : ∀ entries, Keeps World.budget (note (S := S) entries) := fun entries w => rfl
  refine Charges.keeps_bind (hnote _) fun _ => ?_
  cases idempotencyKey with
  | none =>
    exact (charges_runExtract libs request).bind_keeps fun _ =>
      Keeps.bind (hnote _) fun _ => Keeps.pure _
  | some idempotencyKey =>
    refine Charges.keeps_bind (liftExcept_keeps _ _) fun key =>
      Charges.keeps_bind (liftExcept_keeps _ _) fun store =>
      Charges.keeps_bind (liftExcept_keeps _ _) fun header => ?_
    exact (charges_runExtractIdempotent libs store key request).bind_keeps fun _ =>
      Keeps.bind (hnote _) fun _ => Keeps.pure _

theorem charges_reply (process : Process S M V) (occasion : Occasion S) (scope : Scope)
    (incoming : List ReceiveMessage) :
    Charges M occasion (reply process occasion scope incoming) := by
  by_cases hreach : ∃ body request, Reaches process scope incoming body ∧
      parseBody process.framework scope body = .ok request
  · obtain ⟨body, request, hreaches, hparse⟩ := hreach
    intro w
    obtain ⟨w₁, hquietly, hrun⟩ := reply_of_reaches occasion hreaches w
    obtain ⟨charge, hcharge, hbudget⟩ :=
      charges_extract occasion process.libs request (idempotencyKey scope) w₁
    have hsame : w₁.budget = w.budget :=
      congrArg Prod.fst (hquietly (quiet_spending (g := fun _ => ())))
    rw [hsame] at hcharge hbudget
    have hfinal := congrArg Prod.fst ((quiet_spending (g := fun _ => ())).tryCatch_handleException
      (extractEndpoint process occasion scope body) w₁)
    rw [finalState_extractEndpoint hparse, ← hrun] at hfinal
    exact ⟨charge, hcharge, hfinal.trans hbudget⟩
  · exact .of_keeps (keeps_budget (reply_keeps quiet_spending occasion
      (fun _ => readyz_keeps_spending process fun _ _ _ => rfl)
      fun body request hreaches hparse => hreach ⟨body, request, hreaches, hparse⟩))

theorem charges_serve (process : Process S M V) {a : Arrival S} (hhttp : a.scope.type = .http)
    (w : World S) :
    ∃ charge, MayCharge M a.occasion w.budget charge ∧
      (a.serve process w).world.budget = w.budget.charge charge := by
  obtain ⟨charge, hcharge, hbudget⟩ :=
    charges_reply process a.occasion a.scope a.incoming { w with facts := some ∅ }
  refine ⟨charge, hcharge, Eq.trans ?_ hbudget⟩
  exact congrArg Prod.fst
    (spending_handleRequest (g := fun _ => ()) process a.occasion hhttp a.incoming w)

end Charges

/-! ## Runs -/

/-- The clients come from the environment, and no call costs more than `c`. -/
structure Affordable (c : ℚ) (occasion : Occasion S) : Prop where
  resolves : ∃ environ vendors, SdkBacked vendors ∧ occasion.getClient = getClient environ vendors
  calls : ∀ provider client, occasion.getClient provider = .ok client →
    ∀ n, (client.script n).ownCost ≤ c

theorem charged_le {client : LLMClient} {model : StrictModel M} {n : ℕ} {e : ScriptEnd M} {c : ℚ}
    (hc : 0 ≤ c) (hcalls : ∀ k, (client.script k).ownCost ≤ c) (h : EndsAs client model n e) :
    e.charged client n ≤ n * c := by
  have htotal : ∀ k, client.total CallOutcome.ownCost k ≤ k * c := by
    intro k
    have hsum := Finset.sum_le_card_nsmul (Finset.Icc 1 k)
      (fun i => (client.script i).ownCost) c fun i _ => hcalls i
    rw [Nat.card_Icc, Nat.add_sub_cancel, nsmul_eq_mul] at hsum
    exact hsum
  have hmono : ∀ {k}, k ≤ n → (k : ℚ) * c ≤ n * c := fun hk =>
    mul_le_mul_of_nonneg_right (Nat.cast_le.mpr hk) hc
  rcases e with _ | ⟨k, result, value⟩ | ⟨k, error⟩ | ⟨k, className⟩
  · exact htotal n
  · exact (htotal k).trans (hmono h.1)
  · obtain ⟨hk, hpos, -, hscript⟩ := h
    have herror := hcalls k
    rw [hscript] at herror
    obtain ⟨k, rfl⟩ : ∃ j, k = j + 1 := ⟨k - 1, by omega⟩
    have hlast := hmono hk
    push_cast at hlast
    show error.costUsd + client.total _ (k + 1 - 1) ≤ _
    rw [Nat.add_sub_cancel]
    have herror' : error.costUsd ≤ c := herror
    linarith [htotal k]
  · exact mul_nonneg (Nat.cast_nonneg n) hc

theorem MayCharge.bounds {c : ℚ} (hc : 0 ≤ c) {occasion : Occasion S}
    (h : Affordable c occasion) {budget : BudgetGuard} {charge : ℚ}
    (hcharge : MayCharge M occasion budget charge) : 0 ≤ charge ∧ charge ≤ MAX_ATTEMPTS * c := by
  rcases hcharge with rfl | ⟨-, provider, client, hclient, model, e, he, rfl⟩
  · exact ⟨le_refl 0, mul_nonneg (Nat.cast_nonneg _) hc⟩
  · refine ⟨charged_nonneg ?_ he, charged_le hc (h.calls provider client hclient) he⟩
    obtain ⟨environ, vendors, hsdk, hresolves⟩ := h.resolves
    rw [hresolves] at hclient
    exact ownCost_of_getClient hsdk hclient

/-- **The spend of a run.**  The total never goes down, and it grows by no more than the calls
    of the requests can cost.  Under a positive cap a run either leaves the total as it was or
    ends it less than one request's calls over the cap. -/
theorem spend_trajectory (process : Process S M V) (w : World S) (arrivals : List (Arrival S))
    (c : ℚ) (hc : 0 ≤ c) (hhttp : ∀ a ∈ arrivals, a.scope.type = .http)
    (haffordable : ∀ a ∈ arrivals, Affordable c a.occasion) :
    (serveAll process w arrivals).budget.cap = w.budget.cap ∧
      w.budget.spent ≤ (serveAll process w arrivals).budget.spent ∧
      (serveAll process w arrivals).budget.spent ≤
        w.budget.spent + arrivals.length * (MAX_ATTEMPTS * c) ∧
      (0 < w.budget.cap → (serveAll process w arrivals).budget.spent = w.budget.spent ∨
        (serveAll process w arrivals).budget.spent < w.budget.cap + MAX_ATTEMPTS * c) := by
  induction arrivals generalizing w with
  | nil => simp [serveAll]
  | cons a arrivals ih =>
    obtain ⟨charge, hcharge, hbudget⟩ := charges_serve process (hhttp a List.mem_cons_self) w
    obtain ⟨hnonneg, hbound⟩ := hcharge.bounds hc (haffordable a List.mem_cons_self)
    obtain ⟨hcap, hgrows, hmost, hover⟩ := ih (a.serve process w).world
      (fun b hb => hhttp b (List.mem_cons_of_mem a hb))
      fun b hb => haffordable b (List.mem_cons_of_mem a hb)
    rw [← serveAll_cons] at hcap hgrows hmost hover
    have hspent : (a.serve process w).world.budget.spent = w.budget.spent + charge := by
      rw [hbudget]
      rfl
    have hcap' : (a.serve process w).world.budget.cap = w.budget.cap := by
      rw [hbudget]
      rfl
    rw [hspent] at hgrows hmost hover
    rw [hcap'] at hcap hover
    refine ⟨hcap, by linarith, ?_, ?_⟩
    · rw [List.length_cons]
      push_cast
      linarith
    · intro hpositive
      rcases hover hpositive with hsame | hless
      · rcases hcharge with rfl | ⟨hpasses, -⟩
        · exact Or.inl (hsame.trans (add_zero _))
        · -- the last charge of the run: the total was under the cap before it
          have hunder : w.budget.spent < w.budget.cap := by
            simpa [BudgetGuard.passes, BudgetGuard.enabled, hpositive] using hpasses
          exact Or.inr (by linarith)
      · exact Or.inr hless

/-! ### An answer without a text -/

/-- Half a million tokens each way, and nothing to read. -/
def emptyResponse : SdkValue :=
  .object [(py "usage", .object [(py "input_tokens", .int 500000),
    (py "output_tokens", .int 500000)])]

def emptyVendors : Vendors :=
  sdkVendors (fun _ => []) (fun _ _ => (1, .response emptyResponse)) (fun _ _ => (1, .failed []))
    sampleVendors

/-- The clients are those of the environment. -/
def priced (a : Arrival SqliteIdempotencyStore) : Arrival SqliteIdempotencyStore :=
  { a with occasion := { a.occasion with getClient := getClient sampleEnviron emptyVendors } }

theorem affordable_of_emptyVendors {occasion : Occasion SqliteIdempotencyStore}
    (h : occasion.getClient = getClient sampleEnviron emptyVendors) : Affordable 1 occasion where
  resolves := ⟨sampleEnviron, emptyVendors, ⟨_, _, _, _, rfl⟩, h⟩
  calls := by
    rw [h]
    rintro (_ | _ | _) client h n
    · cases h
      simp only [emptyVendors, sdkVendors]
      decide +kernel
    · cases h
    · cases h
      simp only [emptyVendors, sdkVendors]
      decide +kernel

/-- Two requests of one key, a probe, and a request without a key. -/
def pricedArrivals : List (Arrival SqliteIdempotencyStore) :=
  [priced (storeArrival 1 "POST" "/v1/extract" storedKey sampleBody),
    priced (storeArrival 2 "POST" "/v1/extract" storedKey sampleBody),
    priced (storeArrival 3 "GET" "/readyz" [] []),
    priced (storeArrival 4 "POST" "/v1/extract" [] sampleBody)]

theorem pricedArrivals_http : ∀ a ∈ pricedArrivals, a.scope.type = .http := by
  simp [pricedArrivals, priced, storeArrival, sampleScope]

theorem pricedArrivals_affordable : ∀ a ∈ pricedArrivals, Affordable 1 a.occasion := by
  intro a ha
  simp only [pricedArrivals, List.mem_cons, List.not_mem_nil, or_false] at ha
  rcases ha with rfl | rfl | rfl | rfl
  all_goals exact affordable_of_emptyVendors rfl

/-- Half way between the first request and the second. -/
def pricedWorld : World SqliteIdempotencyStore :=
  { sampleWorld with budget := { cap := 3 / 2 } }

theorem spend_trajectory_overshot :
    0 ≤ (serveAll sampleProcess pricedWorld pricedArrivals).budget.spent ∧
      (serveAll sampleProcess pricedWorld pricedArrivals).budget.spent ≤
        0 + 4 * (MAX_ATTEMPTS * 1) ∧
      ((serveAll sampleProcess pricedWorld pricedArrivals).budget.spent = 0 ∨
        (serveAll sampleProcess pricedWorld pricedArrivals).budget.spent <
          3 / 2 + MAX_ATTEMPTS * 1) := by
  obtain ⟨-, hgrows, hmost, hover⟩ :=
    spend_trajectory sampleProcess pricedWorld pricedArrivals 1 zero_le_one pricedArrivals_http
      pricedArrivals_affordable
  exact ⟨hgrows, hmost, hover (by decide +kernel)⟩

/-- The second request is let in under the cap and ends over it; the last is refused. -/
example : (serveAll sampleProcess pricedWorld pricedArrivals).budget.spent = 2 := by
  decide +kernel

end ExtractApi.ServiceRuns
