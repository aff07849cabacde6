import ExtractApi.LiveOutcomes
import ExtractApi.ScoreConservation

/-!
# Skipped fixtures

A fixture is skipped so that a request which never reached the model does not count against
it.  `skipped_costless`: a fixture that is skipped has cost nothing.  Conversely, of the posts
that are answered without a provider call the harness skips two kinds, by their code: those
without an accepted key and those over the budget.  Any other is scored as a failure
(`unserved_skipped_iff`), also where the service has no key hashes or cannot build its client.
-/

namespace ExtractApi

open PythonText JsonValue RaisingProgram

variable {S M M' V : Type}

/-! ## Fixtures that are answered -/

/-- The harness waits for the post, and the service answers it. -/
structure Answers (process : Process S M V) (client : HttpClient) (apiKey : Option (List Byte))
    (provider : PyStr) (network : ℕ → Delivery S) (live : Live S) (fx : Record)
    (flight : Flight S) : Prop where
  waited : (network live.posts.length).ending = .waited
  answered : (live.post process client apiKey provider network fx).posts[live.posts.length]? =
    some (.answered flight)

theorem answers_directly (process : Process S M V) (client : HttpClient)
    (apiKey : Option (List Byte)) (provider : PyStr) (sizes : List ℕ) (arrived : ℕ)
    (occasion : LiveOccasion S) (live : Live S) (fx : Record) :
    let request := client.request apiKey (requestPayload provider fx)
    Answers process client apiKey provider (directly sizes arrived occasion) live fx
      { request := request
        incoming := (bodyMessages sizes request.body).take arrived
        occasion := occasion
        before := live.world } where
  waited := rfl
  answered := by
    simp [Live.post, directly, Live.run, Live.step, Ending.posted]

section Answered

variable {process : Process S M V} {libs : HarnessLibs M'} {client : HttpClient}
  {apiKey : Option (List Byte)} {provider : PyStr} {network : ℕ → Delivery S} {live : Live S}
  {fx : Record} {flight : Flight S}

theorem Answers.outcome (h : Answers process client apiKey provider network live fx flight)
    {r : HttpResponse} (hsent : (flight.connection process).sent = r.messages) :
    (livePredictor process libs client apiKey provider network fx live).1 =
      predictOutcome libs fx (.ok r) := by
  simp only [livePredictor, h.answered, h.waited, Ending.received, hsent, responseOf_messages]

theorem Answers.isSkip_of_refused
    (h : Answers process client apiKey provider network live fx flight) {code : ErrorCode}
    (hrefused : flight.IsRefused process code) :
    (livePredictor process libs client apiKey provider network fx live).1.isSkip = true ↔
      code ∈ skippedCodes := by
  obtain ⟨r, hsent, hrefusal, -⟩ := hrefused
  rw [h.outcome hsent]
  exact isSkip_of_code _ _ hrefusal.status hrefusal.error

end Answered

/-- The first post of the sample run, as the service takes it up. -/
def sampleFlight (apiKey : Option (List Byte)) : Flight Unit where
  request := sampleHttpClient.request apiKey (requestPayload (py "openai") (sampleFixture "a"))
  incoming := (bodyMessages [] sampleBody).take 1
  occasion := sampleLiveOccasion
  before := freshWorld () 10

/-! ## A skip costs nothing -/

theorem holdings_settle {process : Process S M V} {flight : Flight S}
    (h : (Post.answered flight).Costless process) (w : World S) :
    (w.settle flight.before (flight.connection process).world).holdings = w.holdings := by
  have hbudget : (flight.connection process).world.budget = flight.before.budget :=
    congrArg Prod.fst h
  have hcalls : (flight.connection process).world.calls = flight.before.calls :=
    congrArg (fun holdings => holdings.2.2) h
  simp [World.settle, World.holdings, hbudget, hcalls, BudgetGuard.charge_zero]

/-- **A skipped fixture cost nothing.**  If the predictor's outcome is a skip, its post was
    not delivered, or it was answered with no provider call, no charge and no stored reply;
    and so it stays, whatever the service does later.  On the network no answer of the service is
    forged, and a post is delivered once at most. -/
theorem skipped_costless (process : Process S M V) (libs : HarnessLibs M') (client : HttpClient)
    (apiKey : Option (List Byte)) (provider : PyStr) (network : ℕ → Delivery S) (live : Live S)
    (fx : Record)
    (hskip : (livePredictor process libs client apiKey provider network fx live).1.isSkip = true) :
    ∃ post : Post S, post.Costless process ∧
      (∀ steps, ((livePredictor process libs client apiKey provider network fx live).2.run process
        steps).posts[live.posts.length]? = some post) ∧
      ∀ flight, post = .answered flight → ∀ w : World S,
        (w.settle flight.before (flight.connection process).world).holdings = w.holdings := by
  obtain ⟨post, hpost, htells⟩ :=
    livePredictor_tells process libs client apiKey provider network live fx
  have hcostless := htells.skip hskip
  refine ⟨post, hcostless, fun steps => Live.run_of_final hcostless.isFinal steps _ hpost, ?_⟩
  rintro flight rfl w
  exact holdings_settle hcostless w

theorem sampleFlight_unauthorized : Unauthorized (sampleProcess (S := Unit))
    (sampleFlight none).request.scope :=
  ⟨by decide, rfl⟩

/-- A harness without a key is refused, and the provider is not called. -/
theorem skipped_costless_sample :
    ∃ post : Post Unit, post.Costless sampleProcess ∧
      (∀ steps, ((livePredictor sampleProcess sampleHarnessLibs sampleHttpClient none (py "openai")
        (directly [] 1 sampleLiveOccasion) (sampleFixture "a")
        { world := freshWorld () 10 }).2.run sampleProcess steps).posts[0]? = some post) ∧
      ∀ flight, post = .answered flight → ∀ w : World Unit,
        (w.settle flight.before (flight.connection sampleProcess).world).holdings = w.holdings := by
  have hanswers := answers_directly sampleProcess sampleHttpClient none (py "openai") [] 1
    sampleLiveOccasion { world := freshWorld () 10 } (sampleFixture "a")
  have hrefused : (sampleFlight none).IsRefused sampleProcess .unauthorized :=
    refused_of_unauthorized (sampleFlight none).request.isPost sampleFlight_unauthorized
  exact skipped_costless sampleProcess sampleHarnessLibs sampleHttpClient none (py "openai")
    (directly [] 1 sampleLiveOccasion) { world := freshWorld () 10 } (sampleFixture "a")
    ((hanswers.isSkip_of_refused hrefused).mpr (by decide))

/-! ## Requests that never reach the model -/

/-- Only the counter of the skipped fixtures has changed. -/
structure OnlySkipped {P : Type} (s s' : RunState P) : Prop where
  skipped : s'.skipped = s.skipped + 1
  scored : s'.scored = s.scored
  costs : s'.costs = s.costs
  failedCosts : s'.failedCosts = s.failedCosts
  latencies : s'.latencies = s.latencies
  failures : s'.failures = s.failures
  resolvedProvider : s'.resolvedProvider = s.resolvedProvider

/-- The loop skips the fixture. -/
def Skips {P : Type} (libs : HarnessLibs M') (predict : Predictor P) (p : Prepared)
    (s : RunState P) : Prop :=
  ∃ s', (scoreFixture libs predict p).run s = .ok () s' ∧ OnlySkipped s s'

theorem contribution_of_skip (libs : HarnessLibs M') (p : Prepared) {outcome : PredictorOutcome}
    (h : outcome.isSkip = true) : contribution libs p outcome = { skipped := 1 } := by
  rcases outcome with answer | ⟨message, costUsd⟩ | message | message
  · cases h
  · cases h
  · rfl
  · rfl

theorem skips_iff {P : Type} {libs : HarnessLibs M'} {docType : PyStr} {fx : Record} {p : Prepared}
    (hpasses : Passes libs docType fx p) (predict : Predictor P) (s : RunState P) :
    Skips libs predict p s ↔ (predict fx s.predictor).1.isSkip = true := by
  obtain ⟨fields, hfields⟩ := hpasses.valid
  obtain ⟨s', hrun, -, -, hgains⟩ := run_scoreFixture libs predict hfields s
  rw [hpasses.keeps] at hgains
  constructor
  · rintro ⟨s'', hrun', honly⟩
    rw [hrun'] at hrun
    cases hrun
    by_contra hskip
    have hscored := contribution_scored libs p (predict fx s.predictor).1
    rw [if_neg hskip] at hscored
    have hgained := congrArg List.length hgains.scored
    rw [honly.scored, List.length_append, List.flatMap_singleton, hscored.length_eq] at hgained
    simp at hgained
  · intro hskip
    rw [contribution_of_skip libs p hskip] at hgains
    exact ⟨s', hrun, hgains.skipped, by simpa using hgains.scored, by simpa using hgains.costs,
      by simpa using hgains.failedCosts, by simpa using hgains.latencies, hgains.failures,
      hgains.resolvedProvider⟩

/-- A client can be built for the request, or the service need not get that far: the key is
    refused or the budget is reached. -/
def Accounted (process : Process S M V) (flight : Flight S) : Prop :=
  Unauthorized process flight.request.scope ∨
    ∃ request modelCls content,
      ReachesBudget process flight.request.scope flight.incoming request modelCls content ∧
      (flight.before.budget.passes flight.before.budget.spent = false ∨
        ∃ client, ExtractApi.getClient flight.occasion.environ flight.occasion.vendors
          request.provider = .ok client)

section Unserved

variable {process : Process S M V} {libs : HarnessLibs M'} {client : HttpClient}
  {apiKey : Option (List Byte)} {provider : PyStr} {network : ℕ → Delivery S} {live : Live S}
  {fx : Record} {flight : Flight S}

theorem calls_of_extracted {request : ExtractRequest} {modelCls : ModelClass} {content : PyStr}
    {llm : LLMClient} {e : ScriptEnd M}
    (h : flight.IsExtracted process request modelCls content llm e) :
    (flight.connection process).world.calls ≠ flight.before.calls := by
  have hcalls := congrArg (fun holdings => holdings.2.2.length) h.charged
  simp only [World.holdings, List.length_append, length_callsThrough] at hcalls
  have hone := h.ends.one_le_calls (by decide)
  intro hsame
  have hlength := congrArg List.length hsame
  rw [Flight.connection, hcalls] at hlength
  omega

theorem calls_of_refused {code : ErrorCode}
    (h : flight.IsRefused process code) :
    (flight.connection process).world.calls = flight.before.calls :=
  congrArg (fun holdings => holdings.2.2) h.held

theorem Answers.isSkip_iff_accounted
    (h : Answers process client apiKey provider network live fx flight)
    (hcalls : (flight.connection process).world.calls = flight.before.calls) :
    (livePredictor process libs client apiKey provider network fx live).1.isSkip = true ↔
      Accounted process flight := by
  rcases flight.served process with
    ⟨hauth, hrefused⟩ | ⟨hreaches, hover, hrefused⟩ | ⟨hcode, hauth, hnone, hrefused⟩ |
      hextracted
  · rw [h.isSkip_of_refused hrefused]
    exact iff_of_true (by decide) (Or.inl hauth)
  · rw [h.isSkip_of_refused hrefused]
    exact iff_of_true (by decide) (Or.inr ⟨_, _, _, hreaches, Or.inl hover⟩)
  · rw [h.isSkip_of_refused hrefused]
    apply iff_of_false
    · revert hcode
      unfold preliminaryCodes skippedCodes
      simp only [List.mem_cons, List.not_mem_nil, or_false]
      rintro (rfl | rfl | rfl) <;> decide
    · rintro (hunauthorized | ⟨request, modelCls, content, hreaches, hover | ⟨llm, hclient⟩⟩)
      · exact hauth hunauthorized
      · rw [(hnone request modelCls content hreaches).1] at hover
        cases hover
      · apply (hnone request modelCls content hreaches).2 llm
        rw [flight.occasion.resolves, hclient]
  · exact absurd hcalls (calls_of_extracted hextracted)

theorem accounted_of_calls
    (hcalls : (flight.connection process).world.calls ≠ flight.before.calls) :
    Accounted process flight := by
  rcases (flight.served process).refused_or_extracted with
    ⟨code, hrefused⟩ | ⟨request, modelCls, content, llm, e, hextracted⟩
  · exact absurd (calls_of_refused hrefused) hcalls
  · have hclient := hextracted.resolved
    rw [flight.occasion.resolves] at hclient
    exact Or.inr ⟨_, _, _, hextracted.reaches, Or.inr ⟨_, hclient⟩⟩

/-- Without key hashes no request gets anywhere, and none is refused by its key. -/
theorem not_accounted_of_unconfigured (h : process.environment.keyHashes = []) :
    ¬ Accounted process flight := by
  rintro (⟨hconfigured, -⟩ | ⟨request, modelCls, content, ⟨⟨body, hreaches, -⟩, -⟩, -⟩)
  · exact hconfigured h
  · exact keyHashes_ne_nil hreaches.authenticated h

end Unserved

/-- **Which requests that never reach the model are skipped.**  A preflighted fixture whose
    post is answered without a provider call is counted as skipped, and as nothing else,
    exactly when the post is `Accounted` for. -/
theorem unserved_skipped_iff {process : Process S M V} {libs : HarnessLibs M'}
    {client : HttpClient} {apiKey : Option (List Byte)} {provider : PyStr}
    {network : ℕ → Delivery S} {docType : PyStr} {fx : Record} {p : Prepared}
    (hpasses : Passes libs docType fx p) (s : RunState (Live S)) {flight : Flight S}
    (hanswers : Answers process client apiKey provider network s.predictor fx flight) :
    ((flight.connection process).world.calls = flight.before.calls →
        Skips libs (livePredictor process libs client apiKey provider network) p s) ↔
      Accounted process flight := by
  rw [skips_iff hpasses]
  constructor
  · intro hskips
    by_cases hcalls : (flight.connection process).world.calls = flight.before.calls
    · exact (hanswers.isSkip_iff_accounted hcalls).mp (hskips hcalls)
    · exact accounted_of_calls hcalls
  · intro haccounted hcalls
    exact (hanswers.isSkip_iff_accounted hcalls).mpr haccounted

/-- The refused post is skipped. -/
theorem unserved_skipped_sample :
    ((sampleFlight none).connection sampleProcess).world.calls = (sampleFlight none).before.calls →
        Skips sampleHarnessLibs (livePredictor sampleProcess sampleHarnessLibs sampleHttpClient none
          (py "openai") (directly [] 1 sampleLiveOccasion)) (samplePrepared "a")
          (.start (py "openai") { world := freshWorld () 10 }) ↔
      Accounted sampleProcess (sampleFlight none) :=
  unserved_skipped_iff (sampleFixture_passes "a")
    (.start (py "openai") { world := freshWorld () 10 })
    (answers_directly sampleProcess sampleHttpClient none (py "openai") [] 1 sampleLiveOccasion
      { world := freshWorld () 10 } (sampleFixture "a"))

/-- The service, with no key hashes. -/
def unconfiguredProcess : Process S Unit Unit :=
  { sampleProcess with environment := { sampleProcess (S := S).environment with keyHashes := [] } }

/-- Without key hashes the service refuses every post as an internal error, and the harness
    scores it as a failed extraction. -/
theorem unconfigured_service_scored :
    Passes sampleHarnessLibs (py "invoice") (sampleFixture "a") (samplePrepared "a") ∧
      Answers unconfiguredProcess sampleHttpClient (some (bytes "key")) (py "openai")
        (directly [] 1 sampleLiveOccasion) { world := freshWorld () 10 } (sampleFixture "a")
        (sampleFlight (some (bytes "key"))) ∧
      ((sampleFlight (some (bytes "key"))).connection unconfiguredProcess).world.calls = [] ∧
      ¬ Skips sampleHarnessLibs (livePredictor unconfiguredProcess sampleHarnessLibs
        sampleHttpClient (some (bytes "key")) (py "openai") (directly [] 1 sampleLiveOccasion))
        (samplePrepared "a") (.start (py "openai") { world := freshWorld () 10 }) := by
  have hpasses := sampleFixture_passes "a"
  have hanswers := answers_directly unconfiguredProcess sampleHttpClient (some (bytes "key"))
    (py "openai") [] 1 sampleLiveOccasion { world := freshWorld () 10 } (sampleFixture "a")
  have hnot : ¬ Accounted unconfiguredProcess (sampleFlight (some (bytes "key"))) :=
    not_accounted_of_unconfigured rfl
  have hcalls : ((sampleFlight (some (bytes "key"))).connection unconfiguredProcess).world.calls =
      [] := by
    by_contra hcalls
    exact hnot (accounted_of_calls hcalls)
  refine ⟨hpasses, hanswers, hcalls, ?_⟩
  rw [skips_iff hpasses]
  exact (hanswers.isSkip_iff_accounted hcalls).not.mpr hnot

end ExtractApi
