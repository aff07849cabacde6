import ExtractApi.LiveOutcomes
import ExtractApi.ScoreConservation
import ExtractApi.TwoLedgers

/-!
# The harness's ledger and the service's

The service adds what a post has cost to its budget; the harness adds up what it reads in the
answers.  Post by post, a cost that the harness books is what the service charged
(`livePredictor_tells`), for the post is then done with, and nothing changes it any more.  A
post that the harness knows no cost of may have been charged, or may be charged later.

So the total of a live run's report is no more than what the service's budget has grown by,
and it is that where the report names no failure of unknown cost (`cost_total_within_spent`).
-/

namespace ExtractApi

open PythonText JsonValue RaisingProgram TwoLedgers

variable {S M M' V : Type}

/-! ## Charges -/

/-- No call of a client that the occasion resolves has a negative cost. -/
def LiveOccasion.Priced (occasion : LiveOccasion S) : Prop :=
  ∀ provider client, ExtractApi.getClient occasion.environ occasion.vendors provider = .ok client →
    ∀ n, 0 ≤ (client.script n).ownCost

theorem charged_nonneg {client : LLMClient} {model : StrictModel M} {n : ℕ} {e : ScriptEnd M}
    (hpriced : ∀ k, 0 ≤ (client.script k).ownCost) (h : EndsAs client model n e) :
    0 ≤ e.charged client n := by
  have htotal : ∀ k, 0 ≤ client.total CallOutcome.ownCost k :=
    fun k => Finset.sum_nonneg fun i _ => hpriced i
  rcases e with _ | ⟨k, result, value⟩ | ⟨k, error⟩ | ⟨k, className⟩
  · exact htotal n
  · exact htotal k
  · have herror := hpriced k
    rw [h.2.2.2] at herror
    exact add_nonneg herror (htotal (k - 1))
  · exact le_refl 0

section Charges

variable {process : Process S M V}

theorem Post.charge_nonneg {post : Post S} (h : post.Uses LiveOccasion.Priced) :
    0 ≤ post.charge process := by
  rcases post with _ | request | flight | flight
  · exact le_refl 0
  · exact le_refl 0
  · exact le_refl 0
  · rcases (flight.served process).refused_or_extracted with
      ⟨code, hrefused⟩ | ⟨request, modelCls, content, llm, e, hextracted⟩
    · exact le_of_eq (charge_of_refused hrefused.held).symm
    · rw [charge_of_holdings hextracted.charged]
      have hclient := hextracted.resolved
      rw [flight.occasion.resolves] at hclient
      exact charged_nonneg (h _ _ hclient) hextracted.ends

/-! ## The service's books -/

/-- What the service has charged for the posts that it is done with. -/
def Live.charged (process : Process S M V) (live : Live S) : ℚ :=
  (live.posts.map (Post.charge process)).sum

/-- The budget, but for the charges of the posts. -/
def Live.balance (process : Process S M V) (live : Live S) : ℚ :=
  live.world.budget.spent - live.charged process

/-- The occasions of all posts have `Q`. -/
def Live.Uses (Q : LiveOccasion S → Prop) (live : Live S) : Prop := ∀ post ∈ live.posts, post.Uses Q

theorem Live.balance_step (live : Live S) (step : ServiceStep S) :
    (live.step process step).balance process = live.balance process := by
  rcases live.step_cases process step with
    h | ⟨n, post, post', hpost, -, hposts, hspent, -⟩
  · rw [h]
  · rw [Live.balance, Live.charged, hspent, hposts, sum_map_set _ hpost, Live.balance, Live.charged]
    ring

theorem Live.uses_step {Q : LiveOccasion S → Prop} {live : Live S} (hlive : live.Uses Q)
    {step : ServiceStep S} (hstep : step.Uses Q) : (live.step process step).Uses Q := by
  rcases live.step_cases process step with
    h | ⟨n, post, post', hpost, -, hposts, -, huses⟩
  · rw [h]
    exact hlive
  · intro other hother
    rw [hposts] at hother
    rcases List.mem_or_eq_of_mem_set hother with hmem | rfl
    · exact hlive other hmem
    · exact huses Q hstep (hlive post (List.mem_of_getElem? hpost))

theorem Live.balance_run (steps : List (ServiceStep S)) :
    ∀ live : Live S, (live.run process steps).balance process = live.balance process := by
  induction steps with
  | nil =>
    intro live
    rfl
  | cons step steps ih =>
    intro live
    exact (ih _).trans (live.balance_step step)

theorem Live.uses_run {Q : LiveOccasion S → Prop} (steps : List (ServiceStep S)) :
    ∀ live : Live S, live.Uses Q → (∀ step ∈ steps, step.Uses Q) →
      (live.run process steps).Uses Q := by
  induction steps with
  | nil =>
    intro live hlive _
    exact hlive
  | cons step steps ih =>
    intro live hlive hsteps
    apply ih _ (Live.uses_step hlive (hsteps step List.mem_cons_self))
    intro other hother
    exact hsteps other (List.mem_cons_of_mem _ hother)

end Charges

/-! ## Runs of the harness -/

section Runs

variable (process : Process S M V) (libs : HarnessLibs M') (client : HttpClient)
  (apiKey : Option (List Byte)) (provider : PyStr) (network : ℕ → Delivery S)

/-- A post that is made is not charged yet, and no occasion has been used for it. -/
theorem Ending.posted_new (ending : Ending) (request : HarnessRequest) :
    (ending.posted request : Post S).charge process = 0 ∧
      ∀ Q : LiveOccasion S → Prop, (ending.posted request : Post S).Uses Q := by
  rcases ending with _ | _ | ⟨response, hcostless⟩ | className | ⟨response, hforeign⟩ | _ <;>
    exact ⟨rfl, fun Q => trivial⟩

theorem Live.balance_post (live : Live S) (fx : Record) :
    (live.post process client apiKey provider network fx).balance process =
      live.balance process := by
  obtain ⟨hcharge, -⟩ := (network live.posts.length).ending.posted_new process
    (client.request apiKey (requestPayload provider fx))
  rw [Live.post, Live.balance_run]
  simp [Live.balance, Live.charged, hcharge]

theorem Live.uses_post {Q : LiveOccasion S → Prop}
    (hnetwork : ∀ n, ∀ step ∈ (network n).steps, step.Uses Q) {live : Live S}
    (hlive : live.Uses Q) (fx : Record) :
    (live.post process client apiKey provider network fx).Uses Q := by
  obtain ⟨-, huses⟩ := (network live.posts.length).ending.posted_new process
    (client.request apiKey (requestPayload provider fx))
  apply Live.uses_run _ _ _ (hnetwork _)
  intro post hpost
  rcases List.mem_append.mp hpost with hmem | hmem
  · exact hlive post hmem
  · rw [List.mem_singleton.mp hmem]
    exact huses Q

/-- The service after the posts of the fixtures. -/
abbrev Live.after (live : Live S) (fixtures : List Record) : Live S :=
  runMemory (livePredictor process libs client apiKey provider network) live fixtures

/-- **What the posts of a run do to the service's books.** -/
theorem Live.books_after (fixtures : List Record) :
    ∀ live : Live S, (live.after process libs client apiKey provider network fixtures).balance
        process = live.balance process ∧
      (live.after process libs client apiKey provider network fixtures).posts.length =
        live.posts.length + fixtures.length ∧
      ∀ Q : LiveOccasion S → Prop, (∀ n, ∀ step ∈ (network n).steps, step.Uses Q) → live.Uses Q →
        (live.after process libs client apiKey provider network fixtures).Uses Q := by
  induction fixtures with
  | nil =>
    intro live
    exact ⟨rfl, rfl, fun Q _ hlive => hlive⟩
  | cons fx fixtures ih =>
    intro live
    obtain ⟨hbalance, hlength, huses⟩ := ih (live.post process client apiKey provider network fx)
    refine ⟨hbalance.trans (live.balance_post ..), ?_, ?_⟩
    · refine hlength.trans ?_
      rw [Live.length_post, List.length_cons]
      omega
    · intro Q hnetwork hlive
      exact huses Q hnetwork (Live.uses_post _ _ _ _ _ hnetwork hlive fx)

theorem Live.after_of_final {n : ℕ} {post : Post S} (hfinal : post.IsFinal)
    (fixtures : List Record) :
    ∀ live : Live S, live.posts[n]? = some post →
      (live.after process libs client apiKey provider network fixtures).posts[n]? = some post := by
  induction fixtures with
  | nil =>
    intro live hpost
    exact hpost
  | cons fx fixtures ih =>
    intro live hpost
    apply ih
    apply Live.run_of_final hfinal
    obtain ⟨hn, -⟩ := List.getElem?_eq_some_iff.mp hpost
    rw [List.getElem?_append_left hn, hpost]

/-- **Post by post, what the harness books is what the service has charged.** -/
theorem agrees_after (fixtures : List Record) :
    ∀ live : Live S, List.Forall₂ Agrees
      ((runOutcomes (livePredictor process libs client apiKey provider network) live fixtures).map
        PredictorOutcome.booked)
      (((live.after process libs client apiKey provider network fixtures).posts.drop
        live.posts.length).map (Post.charge process)) := by
  induction fixtures with
  | nil =>
    intro live
    rw [show live.after process libs client apiKey provider network [] = live from rfl,
      List.drop_length]
    exact .nil
  | cons fx fixtures ih =>
    intro live
    obtain ⟨post, hpost, htells⟩ :=
      livePredictor_tells process libs client apiKey provider network live fx
    have hlater := ih (live.post process client apiKey provider network fx)
    rw [Live.length_post] at hlater
    obtain ⟨-, hlength, -⟩ :=
      live.books_after process libs client apiKey provider network (fx :: fixtures)
    rw [List.length_cons] at hlength
    have hn : live.posts.length <
        (live.after process libs client apiKey provider network (fx :: fixtures)).posts.length := by
      omega
    rw [List.drop_eq_getElem_cons hn]
    refine .cons ?_ hlater
    intro cost hcost
    obtain ⟨hfinal, rfl⟩ := htells.cost cost hcost
    have hkept := Live.after_of_final process libs client apiKey provider network hfinal fixtures _
      hpost
    exact congrArg (Post.charge process) (List.getElem?_eq_some_iff.mp hkept).2.symm

end Runs

/-! ## Reports -/

section Reports

variable (libs : HarnessLibs M') (p : Prepared) (outcome : PredictorOutcome)

theorem contribution_booked :
    (contribution libs p outcome).costs.sum + (contribution libs p outcome).failedCosts.sum =
      outcome.booked.getD 0 := by
  rcases outcome with answer | ⟨message, costUsd⟩ | message | message
  · rcases hrecord : canonical libs p.cls answer.record with errors | pred
    · simp [contribution_of_invalid hrecord, PredictorOutcome.booked]
    · simp [contribution_of_valid hrecord, PredictorOutcome.booked]
  · rcases costUsd with _ | cost <;> simp [contribution, PredictorOutcome.booked]
  · simp [contribution, PredictorOutcome.booked]
  · simp [contribution, PredictorOutcome.booked]

theorem contribution_unknown :
    ((contribution libs p outcome).failures : ℤ) -
        (contribution libs p outcome).failedCosts.length =
      if outcome.booked = none then 1 else 0 := by
  rcases outcome with answer | ⟨message, costUsd⟩ | message | message
  · rcases hrecord : canonical libs p.cls answer.record with errors | pred
    · simp [contribution_of_invalid hrecord, PredictorOutcome.booked]
    · simp [contribution_of_valid hrecord, PredictorOutcome.booked]
  · rcases costUsd with _ | cost
    · rfl
    · simp [contribution, PredictorOutcome.booked]
  · rfl
  · rfl

end Reports

section Totals

variable {libs : HarnessLibs M'} (docType provider : PyStr)

theorem costUsdTotal_reportOf (entries : List (Prepared × PredictorOutcome)) :
    (reportOf docType provider
        (entries.map fun entry => contribution libs entry.1 entry.2)).costUsdTotal =
      ((entries.map fun entry => entry.2.booked).map fun cost => cost.getD 0).sum := by
  show (List.flatMap _ _).sum + (List.flatMap _ _).sum = _
  induction entries with
  | nil => exact add_zero 0
  | cons entry entries ih =>
    simp only [List.map_cons, List.flatMap_cons, List.sum_append, List.sum_cons] at ih ⊢
    rw [← ih, ← contribution_booked libs entry.1 entry.2]
    ring

theorem booked_of_nFailedCostUnknown {entries : List (Prepared × PredictorOutcome)}
    (h : (reportOf docType provider
      (entries.map fun entry => contribution libs entry.1 entry.2)).nFailedCostUnknown = 0) :
    ∀ cost ∈ entries.map fun entry => entry.2.booked, cost ≠ none := by
  have hcount : (reportOf docType provider
      (entries.map fun entry => contribution libs entry.1 entry.2)).nFailedCostUnknown =
        ((entries.map fun entry => entry.2.booked).count none : ℤ) := by
    show ((List.sum _ : ℕ) : ℤ) - ((List.flatMap _ _).length : ℤ) = _
    clear h
    induction entries with
    | nil => rfl
    | cons entry entries ih =>
      have hone := contribution_unknown libs entry.1 entry.2
      simp only [List.map_cons, List.flatMap_cons, List.length_append, List.sum_cons,
        List.count_cons, beq_iff_eq] at ih ⊢
      split_ifs at hone ⊢ with hnone
      · omega
      · omega
  rw [hcount, Int.natCast_eq_zero, List.count_eq_zero] at h
  rintro cost hcost rfl
  exact h hcost

theorem booked_observed {P : Type} (predict : Predictor P) {fixtures : List Record}
    {prepared : List Prepared} (hfixtures : prepared.map Prepared.fx = fixtures) (memory : P) :
    (runOutcomes predict memory fixtures).map PredictorOutcome.booked =
      (observed predict memory prepared).map fun entry => entry.2.booked := by
  rw [← hfixtures, ← map_snd_observed, List.map_map]
  rfl

end Totals

/-! ## The two totals -/

/-- **The harness's total agrees with the service's ledger.**  In a live run over a corpus that
    passes preflight, against a service that serves nobody else and clients that bill no
    negative costs, the reported total is at most what the service's budget has grown by, and
    is that if no failed extraction has an unknown cost.  On the network no answer of the service
    is forged, and a post is delivered once at most. -/
theorem cost_total_within_spent (process : Process S M V) (libs : HarnessLibs M')
    (client : HttpClient) (apiKey : Option (List Byte)) (provider : PyStr)
    (network : ℕ → Delivery S)
    (hpriced : ∀ n, ∀ step ∈ (network n).steps, step.Uses LiveOccasion.Priced) {docType : PyStr}
    {fixtures : List Record} {prepared : List Prepared}
    (hpreflight : preflightFixtures libs docType fixtures = .ok prepared) (w : World S) :
    ∃ r s, (runAccuracy libs (livePredictor process libs client apiKey provider network) docType
        fixtures).run (.start provider { world := w }) = .ok r s ∧
      r.costUsdTotal ≤ s.predictor.world.budget.spent - w.budget.spent ∧
      (r.nFailedCostUnknown = 0 →
        r.costUsdTotal = s.predictor.world.budget.spent - w.budget.spent) := by
  obtain ⟨s, hrun, -, hmemory, -⟩ := run_runAccuracy libs
    (livePredictor process libs client apiKey provider network) hpreflight provider
    { world := w, posts := [] }
  refine ⟨_, s, hrun, ?_⟩
  obtain ⟨hbalance, -, huses⟩ :=
    Live.books_after process libs client apiKey provider network fixtures { world := w }
  have hagrees := agrees_after process libs client apiKey provider network fixtures { world := w }
  have hpriced' := huses LiveOccasion.Priced hpriced fun post hpost => by cases hpost
  replace hmemory : s.predictor =
    Live.after process libs client apiKey provider network { world := w } fixtures := hmemory
  rw [← hmemory, List.length_nil, List.drop_zero,
    booked_observed _ (map_fx_of_passes (preflightFixtures_eq_ok_iff.mp hpreflight))] at hagrees
  rw [← hmemory] at hbalance hpriced'
  have hcharged : s.predictor.world.budget.spent - w.budget.spent =
      s.predictor.charged process := by
    simp only [Live.balance, Live.charged, List.map_nil, List.sum_nil] at hbalance
    rw [Live.charged]
    linarith
  have hnonneg : ∀ charge ∈ s.predictor.posts.map (Post.charge process), 0 ≤ charge := by
    intro charge hcharge
    obtain ⟨post, hpost, rfl⟩ := List.mem_map.mp hcharge
    exact Post.charge_nonneg (hpriced' post hpost)
  rw [contributions_eq_map, hcharged, costUsdTotal_reportOf]
  refine ⟨sum_known_le hagrees hnonneg, ?_⟩
  intro hknown
  exact sum_known_eq hagrees (booked_of_nFailedCostUnknown docType provider hknown)

theorem sampleLiveOccasion_priced : sampleLiveOccasion.Priced := by
  intro provider client hclient n
  rcases resolved_of_getClient hclient with ⟨cannedText, latencyMs⟩ | settings | settings
  · unfold fixtureClient
    simp only
    split_ifs
    · exact le_refl 0
    · exact le_refl 0
  · exact zero_le_one
  · exact zero_le_one

/-- The service answers the first post; it takes up the second when the harness has given up on
    it, and then every later one. -/
def lateNetwork (n : ℕ) : Delivery Unit where
  steps :=
    match n with
    | 1 => []
    | 2 => [.start 1 [] 1 sampleLiveOccasion, .finish 1,
        .start 2 [] 1 sampleLiveOccasion, .finish 2]
    | n => [.start n [] 1 sampleLiveOccasion, .finish n]
  ending := .waited

theorem lateNetwork_priced (n : ℕ) :
    ∀ step ∈ (lateNetwork n).steps, step.Uses LiveOccasion.Priced := by
  have hpriced := sampleLiveOccasion_priced
  match n with
  | 0 | 1 | 2 | n + 3 => simp [lateNetwork, ServiceStep.Uses, hpriced]

/-- A run in which one post is answered, one is charged after the harness has counted it as
    failed, and the others are refused under a cap of 2. -/
theorem cost_total_within_spent_sample :
    ∃ r s, (runAccuracy sampleHarnessLibs (livePredictor sampleProcess sampleHarnessLibs
        sampleHttpClient (some (bytes "key")) (py "openai") lateNetwork)
        (py "invoice") (sampleIds.map sampleFixture)).run
          (.start (py "openai") { world := freshWorld () 2 }) = .ok r s ∧
      r.costUsdTotal ≤ s.predictor.world.budget.spent - (freshWorld () 2).budget.spent ∧
      (r.nFailedCostUnknown = 0 →
        r.costUsdTotal = s.predictor.world.budget.spent - (freshWorld () 2).budget.spent) :=
  cost_total_within_spent sampleProcess sampleHarnessLibs sampleHttpClient (some (bytes "key"))
    (py "openai") lateNetwork lateNetwork_priced (preflight_sampleFixtures sampleIds)
    (freshWorld () 2)

end ExtractApi
