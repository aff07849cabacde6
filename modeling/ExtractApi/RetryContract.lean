import ExtractApi.ValidationRetry

/-!
# What the validation-retry loop reports

A script's first `n` calls end in exactly one of four ways (`ScriptEnd`): all texts
rejected, or a first call that is not a rejection and is accepted, raises a provider
error or raises anything else (`exists_endsAs`, `EndsAs.unique`).  The loop is
followed through its rejected prefix: `stateAfter k` is what its locals hold once
the first `k` calls were rejected, and `run_after_rejections` says that the run is
then the loop on the remaining attempts from that state.

`RetryContract` collects the outcome, the totals, the trail and the prompts.
-/

namespace ExtractApi

open PythonText JsonValue RaisingProgram

variable {S M : Type}

/-! ## Reading a script -/

def CallOutcome.text : CallOutcome → PyStr
  | .returned result => result.text
  | _ => []

def CallOutcome.tokensIn : CallOutcome → ℤ
  | .returned result => result.tokensIn
  | _ => 0

def CallOutcome.tokensOut : CallOutcome → ℤ
  | .returned result => result.tokensOut
  | _ => 0

def CallOutcome.latencyMs : CallOutcome → ℚ
  | .returned result => result.latencyMs
  | _ => 0

/-- The sum of a quantity over the first `k` calls. -/
def LLMClient.total {K : Type} [AddCommMonoid K] (client : LLMClient) (f : CallOutcome → K)
    (k : ℕ) : K := ∑ i ∈ Finset.Icc 1 k, f (client.script i)

theorem LLMClient.total_succ {K : Type} [AddCommMonoid K] (client : LLMClient)
    (f : CallOutcome → K) (k : ℕ) :
    client.total f (k + 1) = client.total f k + f (client.script (k + 1)) :=
  Finset.sum_Icc_succ_top (by omega) _

section Script

variable (client : LLMClient) (model : StrictModel M)

/-- Call `i` returned a text that the model rejects. -/
def Rejects (i : ℕ) : Prop :=
  ∃ result errors, client.script i = .returned result ∧ model.validate result.text = .error errors

/-- The first `k` calls were all rejected. -/
def RejectsThrough (k : ℕ) : Prop := ∀ i, 1 ≤ i → i ≤ k → Rejects client model i

/-- Call `k` is the first whose text the model accepts, with nothing but rejections before. -/
def AcceptsFirst (k : ℕ) (result : CompletionResult) (value : M) : Prop :=
  1 ≤ k ∧ RejectsThrough client model (k - 1) ∧
    client.script k = .returned result ∧ model.validate result.text = .ok value

/-- Call `k` raises a provider error after nothing but rejections. -/
def RaisesFirst (k : ℕ) (error : ProviderError) : Prop :=
  1 ≤ k ∧ RejectsThrough client model (k - 1) ∧ client.script k = .raised error

/-- Call `k` raises any other exception after nothing but rejections. -/
def CrashesFirst (k : ℕ) (className : PyStr) : Prop :=
  1 ≤ k ∧ RejectsThrough client model (k - 1) ∧ client.script k = .crashed className

/-- The summarized errors of the `i`-th text. -/
def trailEntry (i : ℕ) : ErrorSummary :=
  match client.script i with
  | .returned result =>
      match model.validate result.text with
      | .error errors => summarize errors
      | .ok _ => []
  | _ => []

variable {client model}

theorem trailEntry_of_rejected {i : ℕ} {result : CompletionResult} {errors : List ErrorDetails}
    (hscript : client.script i = .returned result)
    (hvalid : model.validate result.text = .error errors) :
    trailEntry client model i = summarize errors := by
  simp [trailEntry, hscript, hvalid]

theorem RejectsThrough.zero : RejectsThrough client model 0 := by
  intro i h1 h0
  omega

theorem RejectsThrough.succ {k : ℕ} (h : RejectsThrough client model k)
    (hk : Rejects client model (k + 1)) : RejectsThrough client model (k + 1) := by
  intro i h1 hi
  by_cases hik : i ≤ k
  · exact h i h1 hik
  · have : i = k + 1 := by omega
    exact this ▸ hk

theorem RejectsThrough.mono {k l : ℕ} (h : RejectsThrough client model l) (hkl : k ≤ l) :
    RejectsThrough client model k :=
  fun i h1 hi => h i h1 (hi.trans hkl)

/-! ### How a script ends -/

/-- The ways the first `n` calls of a script can end. -/
inductive ScriptEnd (M : Type) where
  | exhausted
  | accepted (k : ℕ) (result : CompletionResult) (value : M)
  | raised (k : ℕ) (error : ProviderError)
  | crashed (k : ℕ) (className : PyStr)

/-- How many calls are made. -/
def ScriptEnd.calls (n : ℕ) : ScriptEnd M → ℕ
  | .exhausted => n
  | .accepted k _ _ => k
  | .raised k _ => k
  | .crashed k _ => k

def EndsAs (client : LLMClient) (model : StrictModel M) (n : ℕ) : ScriptEnd M → Prop
  | .exhausted => RejectsThrough client model n
  | .accepted k result value => k ≤ n ∧ AcceptsFirst client model k result value
  | .raised k error => k ≤ n ∧ RaisesFirst client model k error
  | .crashed k className => k ≤ n ∧ CrashesFirst client model k className

theorem exists_endsAs (client : LLMClient) (model : StrictModel M) (n : ℕ) :
    ∃ e, EndsAs client model n e := by
  induction n with
  | zero => exact ⟨.exhausted, RejectsThrough.zero⟩
  | succ n ih =>
    obtain ⟨e, he⟩ := ih
    cases e with
    | exhausted =>
      cases hscript : client.script (n + 1) with
      | returned result =>
        cases hvalid : model.validate result.text with
        | error errors =>
          exact ⟨.exhausted, RejectsThrough.succ he ⟨result, errors, hscript, hvalid⟩⟩
        | ok value =>
          exact ⟨.accepted (n + 1) result value, le_refl _, by omega, he, hscript, hvalid⟩
      | raised error => exact ⟨.raised (n + 1) error, le_refl _, by omega, he, hscript⟩
      | crashed className => exact ⟨.crashed (n + 1) className, le_refl _, by omega, he, hscript⟩
    | accepted k result value => exact ⟨.accepted k result value, he.1.trans (by omega), he.2⟩
    | raised k error => exact ⟨.raised k error, he.1.trans (by omega), he.2⟩
    | crashed k className => exact ⟨.crashed k className, he.1.trans (by omega), he.2⟩

/-- Call `k` is the first that is not a rejection. -/
def StopsFirst (client : LLMClient) (model : StrictModel M) (k : ℕ) : Prop :=
  1 ≤ k ∧ RejectsThrough client model (k - 1) ∧ ¬ Rejects client model k

theorem StopsFirst.le {k k' : ℕ} (h : StopsFirst client model k)
    (h' : StopsFirst client model k') : k' ≤ k := by
  by_contra hlt
  exact h.2.2 (h'.2.1 k h.1 (by omega))

theorem StopsFirst.not_rejectsThrough {n k : ℕ} (h : StopsFirst client model k) (hk : k ≤ n) :
    ¬ RejectsThrough client model n :=
  fun hall => h.2.2 (hall k h.1 hk)

/-- The way call `k` ends the script, read from the script alone. -/
def endAt (client : LLMClient) (model : StrictModel M) (k : ℕ) : ScriptEnd M :=
  match client.script k with
  | .returned result =>
      match model.validate result.text with
      | .ok value => .accepted k result value
      | .error _ => .exhausted
  | .raised error => .raised k error
  | .crashed className => .crashed k className

theorem not_rejects_of_endAt {k : ℕ} (h : endAt client model k ≠ .exhausted) :
    ¬ Rejects client model k := by
  rintro ⟨result, errors, hscript, hvalid⟩
  exact h (by simp [endAt, hscript, hvalid])

/-- A way of ending is either exhaustion or what the first stopping call says. -/
theorem EndsAs.exhausted_or_stops {n : ℕ} {e : ScriptEnd M} (h : EndsAs client model n e) :
    (e = .exhausted ∧ RejectsThrough client model n) ∨
      ∃ k, k ≤ n ∧ StopsFirst client model k ∧ e = endAt client model k := by
  cases e with
  | exhausted => exact Or.inl ⟨rfl, h⟩
  | accepted k result value =>
    obtain ⟨hk, hpos, hrejects, hscript, hvalid⟩ := h
    have hend : endAt client model k = .accepted k result value := by
      simp [endAt, hscript, hvalid]
    exact Or.inr ⟨k, hk, ⟨hpos, hrejects, not_rejects_of_endAt (by simp [hend])⟩, hend.symm⟩
  | raised k error =>
    obtain ⟨hk, hpos, hrejects, hscript⟩ := h
    have hend : endAt client model k = .raised k error := by simp [endAt, hscript]
    exact Or.inr ⟨k, hk, ⟨hpos, hrejects, not_rejects_of_endAt (by simp [hend])⟩, hend.symm⟩
  | crashed k className =>
    obtain ⟨hk, hpos, hrejects, hscript⟩ := h
    have hend : endAt client model k = .crashed k className := by simp [endAt, hscript]
    exact Or.inr ⟨k, hk, ⟨hpos, hrejects, not_rejects_of_endAt (by simp [hend])⟩, hend.symm⟩

theorem EndsAs.unique {n : ℕ} {e e' : ScriptEnd M} (h : EndsAs client model n e)
    (h' : EndsAs client model n e') : e = e' := by
  rcases h.exhausted_or_stops with ⟨rfl, hall⟩ | ⟨k, hk, hstops, rfl⟩ <;>
    rcases h'.exhausted_or_stops with ⟨rfl, hall'⟩ | ⟨k', hk', hstops', rfl⟩
  · rfl
  · exact absurd hall (hstops'.not_rejectsThrough hk')
  · exact absurd hall' (hstops.not_rejectsThrough hk)
  · rw [Nat.le_antisymm (hstops'.le hstops) (hstops.le hstops')]

theorem EndsAs.rejectsBefore {n : ℕ} {e : ScriptEnd M} (h : EndsAs client model n e) :
    e.calls n ≤ n ∧ RejectsThrough client model (e.calls n - 1) := by
  cases e with
  | exhausted => exact ⟨le_refl n, RejectsThrough.mono h (Nat.sub_le n 1)⟩
  | accepted k result value => exact ⟨h.1, h.2.2.1⟩
  | raised k error => exact ⟨h.1, h.2.2.1⟩
  | crashed k className => exact ⟨h.1, h.2.2.1⟩

theorem EndsAs.one_le_calls {n : ℕ} {e : ScriptEnd M} (hn : 1 ≤ n) (h : EndsAs client model n e) :
    1 ≤ e.calls n := by
  rcases e with _ | ⟨k, result, value⟩ | ⟨k, error⟩ | ⟨k, className⟩
  · exact hn
  · exact h.2.1
  · exact h.2.1
  · exact h.2.1

end Script

/-! ## The loop along a rejected prefix -/

section Loop

variable (client : LLMClient) (model : StrictModel M) (system content : PyStr)
  (maxTokens n : ℕ) (observer : RetryObserver S)

/-- The prompt of call `k`. -/
def promptAt : ℕ → PyStr
  | 0 => content
  | 1 => content
  | k + 2 => retryPrompt content (client.script (k + 1)).text (trailEntry client model (k + 1))

/-- The first `k` calls of a run that makes them. -/
def callsThrough (k : ℕ) : List ProviderCall :=
  (List.range' 1 k).map fun i =>
    ⟨system, promptAt client model content i, model.jsonSchema, maxTokens⟩

/-- The loop's locals after the first `k` calls were rejected. -/
def stateAfter (k : ℕ) : RetryState where
  prompt := promptAt client model content (k + 1)
  trail := (List.range' 1 k).map (trailEntry client model)
  tokensIn := client.total CallOutcome.tokensIn k
  tokensOut := client.total CallOutcome.tokensOut k
  costUsd := client.total CallOutcome.ownCost k
  latencyMs := client.total CallOutcome.latencyMs k

/-- The result a run returns when call `k` is accepted: that call's text, model and
    stop reason with the totals over the `k` calls. -/
def reportedResult (k : ℕ) (result : CompletionResult) : CompletionResult where
  text := result.text
  model := result.model
  tokensIn := client.total CallOutcome.tokensIn k
  tokensOut := client.total CallOutcome.tokensOut k
  costUsd := client.total CallOutcome.ownCost k
  latencyMs := client.total CallOutcome.latencyMs k
  stopReason := result.stopReason

theorem stateAfter_zero : stateAfter client model content 0 = { prompt := content } := by
  simp [stateAfter, promptAt, LLMClient.total]

variable {client model content}

theorem stateAfter_succ {k : ℕ} {result : CompletionResult} {errors : List ErrorDetails}
    (hscript : client.script (k + 1) = .returned result)
    (hvalid : model.validate result.text = .error errors) :
    (stateAfter client model content k).reject content result errors =
      stateAfter client model content (k + 1) := by
  have hentry := trailEntry_of_rejected hscript hvalid
  simp only [stateAfter, RetryState.reject, RetryState.accumulate, LLMClient.total_succ, hscript,
    CallOutcome.tokensIn, CallOutcome.tokensOut, CallOutcome.ownCost, CallOutcome.latencyMs,
    promptAt, CallOutcome.text, hentry, List.range'_1_concat, List.map_append, List.map_cons,
    List.map_nil, Nat.add_comm 1 k]

theorem aggregated_stateAfter {k : ℕ} {result : CompletionResult}
    (hscript : client.script (k + 1) = .returned result) :
    ((stateAfter client model content k).accumulate result).aggregated result =
      reportedResult client (k + 1) result := by
  simp only [stateAfter, RetryState.aggregated, RetryState.accumulate, reportedResult,
    LLMClient.total_succ, hscript, CallOutcome.tokensIn, CallOutcome.tokensOut,
    CallOutcome.ownCost, CallOutcome.latencyMs]

theorem callsThrough_succ (k : ℕ) :
    callsThrough client model system content maxTokens (k + 1) =
      callsThrough client model system content maxTokens k ++
        [⟨system, (stateAfter client model content k).prompt, model.jsonSchema, maxTokens⟩] := by
  simp only [callsThrough, List.range'_1_concat, List.map_append, List.map_cons, List.map_nil,
    Nat.add_comm 1 k, stateAfter]

@[simp] theorem length_callsThrough (k : ℕ) :
    (callsThrough client model system content maxTokens k).length = k := by
  simp [callsThrough]

/-! ### One iteration -/

/-- The state after `client.complete` was called. -/
def World.called (w : World S) (call : ProviderCall) : World S :=
  { w with calls := w.calls ++ [call] }

variable {system maxTokens n observer} {attempt : ℕ} {rest : List ℕ} {st : RetryState}
  {w : World S}

theorem attemptLoop_of_accepted {result : CompletionResult} {value : M}
    (hscript : client.script attempt = .returned result)
    (hvalid : model.validate result.text = .ok value) :
    (attemptLoop client model system content maxTokens n observer (attempt :: rest) st).run w =
      .ok (value, (st.accumulate result).aggregated result, attempt)
        (w.called ⟨system, st.prompt, model.jsonSchema, maxTokens⟩) := by
  simp [attemptLoop, LLMClient.complete, hscript, hvalid, World.called]

theorem attemptLoop_of_raised {error : ProviderError}
    (hscript : client.script attempt = .raised error) :
    (attemptLoop client model system content maxTokens n observer (attempt :: rest) st).run w =
      .error (.providerError { error with costUsd := error.costUsd + st.costUsd })
        (w.called ⟨system, st.prompt, model.jsonSchema, maxTokens⟩) := by
  simp [attemptLoop, LLMClient.complete, hscript, World.called]

theorem attemptLoop_of_crashed {className : PyStr}
    (hscript : client.script attempt = .crashed className) :
    (attemptLoop client model system content maxTokens n observer (attempt :: rest) st).run w =
      .error (.other className)
        (w.called ⟨system, st.prompt, model.jsonSchema, maxTokens⟩) := by
  simp [attemptLoop, LLMClient.complete, hscript, World.called]

variable (system maxTokens n observer rest st w) in
theorem attemptLoop_of_rejected {result : CompletionResult} {errors : List ErrorDetails}
    (hscript : client.script attempt = .returned result)
    (hvalid : model.validate result.text = .error errors) :
    ∃ w' : World S,
      w'.calls = w.calls ++ [⟨system, st.prompt, model.jsonSchema, maxTokens⟩] ∧
      (attemptLoop client model system content maxTokens n observer (attempt :: rest) st).run w =
        (attemptLoop client model system content maxTokens n observer rest
          (st.reject content result errors)).run w' := by
  obtain ⟨w', hrun, hcalls⟩ := observer.returns (retryKinds (summarize errors))
    { w.called ⟨system, st.prompt, model.jsonSchema, maxTokens⟩ with
      log := w.log ++ [rejectionRecord attempt n (summarize errors)] }
  by_cases hlast : attempt < n
  · refine ⟨w', hcalls, ?_⟩
    simp only [World.called] at hrun
    simp [attemptLoop, LLMClient.complete, hscript, hvalid, emit, hlast, hrun]
  · refine ⟨{ w.called ⟨system, st.prompt, model.jsonSchema, maxTokens⟩ with
      log := w.log ++ [rejectionRecord attempt n (summarize errors)] }, rfl, ?_⟩
    simp [attemptLoop, LLMClient.complete, hscript, hvalid, emit, hlast, World.called]

/-! ### Runs -/

variable (system content maxTokens)

/-- After `k` rejections the run is the loop on the remaining attempts. -/
theorem run_after_rejections (observer : RetryObserver S) (w : World S) {k : ℕ} (hk : k ≤ n)
    (hrejects : RejectsThrough client model k) :
    ∃ w' : World S,
      w'.calls = w.calls ++ callsThrough client model system content maxTokens k ∧
      (runExtraction client model system content maxTokens n observer).run w =
        (attemptLoop client model system content maxTokens n observer
          (List.range' (k + 1) (n - k)) (stateAfter client model content k)).run w' := by
  induction k with
  | zero =>
    refine ⟨w, by simp [callsThrough], ?_⟩
    rw [stateAfter_zero]
    rfl
  | succ k ih =>
    obtain ⟨w', hcalls, hrun⟩ := ih (by omega) (hrejects.mono (by omega))
    obtain ⟨result, errors, hscript, hvalid⟩ := hrejects (k + 1) (by omega) (le_refl _)
    have hrange : List.range' (k + 1) (n - k) =
        (k + 1) :: List.range' (k + 1 + 1) (n - (k + 1)) := by
      have : n - k = (n - (k + 1)) + 1 := by omega
      rw [this, List.range'_succ]
    obtain ⟨w'', hcalls', hstep⟩ := attemptLoop_of_rejected system maxTokens n observer
      (List.range' (k + 1 + 1) (n - (k + 1))) (stateAfter client model content k) w' hscript hvalid
    refine ⟨w'', ?_, ?_⟩
    · rw [hcalls', hcalls, callsThrough_succ, List.append_assoc]
    · rw [hrun, hrange, hstep, stateAfter_succ hscript hvalid]

/-- When call `k + 1` is not a rejection, the run is that one iteration. -/
theorem run_at_first (observer : RetryObserver S) (w : World S) {k : ℕ} (hk : k + 1 ≤ n)
    (hrejects : RejectsThrough client model k) :
    ∃ (w' : World S) (rest : List ℕ),
      w'.calls = w.calls ++ callsThrough client model system content maxTokens k ∧
      (runExtraction client model system content maxTokens n observer).run w =
        (attemptLoop client model system content maxTokens n observer
          ((k + 1) :: rest) (stateAfter client model content k)).run w' := by
  obtain ⟨w', hcalls, hrun⟩ := run_after_rejections system content maxTokens observer w
    (by omega : k ≤ n) hrejects
  refine ⟨w', List.range' (k + 1 + 1) (n - (k + 1)), hcalls, ?_⟩
  have : n - k = (n - (k + 1)) + 1 := by omega
  rw [hrun, this, List.range'_succ]

/-- The outcome of a run whose script ends in the given way. -/
def ScriptEnd.outcome (client : LLMClient) (model : StrictModel M) (n : ℕ) :
    ScriptEnd M → World S → EStateM.Result PyExc (World S) (M × CompletionResult × ℕ)
  | .exhausted => .error (.extractionFailed
      { attempts := n
        trail := (List.range' 1 n).map (trailEntry client model)
        costUsd := client.total CallOutcome.ownCost n })
  | .accepted k result value => .ok (value, reportedResult client k result, k)
  | .raised k error => .error (.providerError { error with
      costUsd := error.costUsd + client.total CallOutcome.ownCost (k - 1) })
  | .crashed _ className => .error (.other className)

/-- The way a script ends decides the run's outcome and its calls. -/
theorem runExtraction_of_endsAs (observer : RetryObserver S) (w : World S) {e : ScriptEnd M}
    (h : EndsAs client model n e) :
    ∃ w' : World S,
      w'.calls = w.calls ++ callsThrough client model system content maxTokens (e.calls n) ∧
      (runExtraction client model system content maxTokens n observer).run w =
        e.outcome client model n w' := by
  cases e with
  | exhausted =>
    obtain ⟨w', hcalls, hrun⟩ := run_after_rejections system content maxTokens observer w
      (le_refl n) h
    refine ⟨w', hcalls, ?_⟩
    rw [hrun, Nat.sub_self]
    simp [attemptLoop, stateAfter, ScriptEnd.outcome]
  | accepted k result value =>
    obtain ⟨hk, hpos, hrejects, hscript, hvalid⟩ := h
    obtain ⟨k, rfl⟩ : ∃ j, k = j + 1 := ⟨k - 1, by omega⟩
    obtain ⟨w', rest, hcalls, hrun⟩ := run_at_first system content maxTokens observer w hk hrejects
    refine ⟨_, ?_, by rw [hrun, attemptLoop_of_accepted hscript hvalid,
      aggregated_stateAfter hscript]; rfl⟩
    simp only [World.called, hcalls, ScriptEnd.calls, callsThrough_succ, List.append_assoc]
  | raised k error =>
    obtain ⟨hk, hpos, hrejects, hscript⟩ := h
    obtain ⟨k, rfl⟩ : ∃ j, k = j + 1 := ⟨k - 1, by omega⟩
    obtain ⟨w', rest, hcalls, hrun⟩ := run_at_first system content maxTokens observer w hk hrejects
    refine ⟨_, ?_, by rw [hrun, attemptLoop_of_raised hscript]; rfl⟩
    simp only [World.called, hcalls, ScriptEnd.calls, callsThrough_succ, List.append_assoc]
  | crashed k className =>
    obtain ⟨hk, hpos, hrejects, hscript⟩ := h
    obtain ⟨k, rfl⟩ : ∃ j, k = j + 1 := ⟨k - 1, by omega⟩
    obtain ⟨w', rest, hcalls, hrun⟩ := run_at_first system content maxTokens observer w hk hrejects
    refine ⟨_, ?_, by rw [hrun, attemptLoop_of_crashed hscript]; rfl⟩
    simp only [World.called, hcalls, ScriptEnd.calls, callsThrough_succ, List.append_assoc]

end Loop

/-! ## The contract -/

section Contract

variable (client : LLMClient) (model : StrictModel M) (system content : PyStr)
  (maxTokens n : ℕ)

/-- What one run of `run_extraction` did: `run` is its outcome and `made` the calls it
    made, in order. -/
structure RetryContract (run : EStateM.Result PyExc (World S) (M × CompletionResult × ℕ))
    (made : List ProviderCall) : Prop where
  atMost : made.length ≤ n
  /-- It returns exactly when some text within the bound is accepted first. -/
  returns_iff : (∃ out w', run = .ok out w') ↔
    ∃ k result value, k ≤ n ∧ AcceptsFirst client model k result value
  /-- It then returns the first accepted text's model, that call's index, and the totals
      over the calls made. -/
  returned : ∀ k result value, k ≤ n → AcceptsFirst client model k result value →
    made.length = k ∧ ∃ w', run = .ok (value, reportedResult client k result, k) w'
  /-- It raises `ExtractionFailed` exactly when `n` texts were all rejected. -/
  failed_iff : (∃ e w', run = .error (.extractionFailed e) w') ↔ RejectsThrough client model n
  /-- The exception then carries `n`, the summarized errors of each text, and the total cost. -/
  failed : RejectsThrough client model n → made.length = n ∧ ∃ w', run =
    .error (.extractionFailed
      { attempts := n
        trail := (List.range' 1 n).map (trailEntry client model)
        costUsd := client.total CallOutcome.ownCost n }) w'
  /-- A provider error propagates as itself, with the cost of the earlier calls added. -/
  providerError : ∀ k error, k ≤ n → RaisesFirst client model k error →
    made.length = k ∧ ∃ w', run = .error (.providerError { error with
      costUsd := error.costUsd + client.total CallOutcome.ownCost (k - 1) }) w'
  /-- Every call has the same system prompt, schema and token bound. -/
  arguments : ∀ call ∈ made, call.system = system ∧ call.jsonSchema = model.jsonSchema ∧
    call.maxTokens = maxTokens
  firstPrompt : ∀ call, made[0]? = some call → call.prompt = content
  /-- A later prompt carries the content, the previous text and the previous summary. -/
  laterPrompt : ∀ k call, made[k + 1]? = some call → ∃ result errors,
    client.script (k + 1) = .returned result ∧ model.validate result.text = .error errors ∧
    call.prompt = retryPrompt content result.text (summarize errors)

variable {client model system content maxTokens n}

theorem getElem?_callsThrough {m : ℕ} {call : ProviderCall} {i : ℕ}
    (h : (callsThrough client model system content maxTokens m)[i]? = some call) :
    i < m ∧
      call = ⟨system, promptAt client model content (i + 1), model.jsonSchema, maxTokens⟩ := by
  obtain ⟨hi, hcall⟩ := List.getElem?_eq_some_iff.mp h
  refine ⟨by simpa using hi, ?_⟩
  rw [← hcall]
  simp [callsThrough, Nat.add_comm 1 i]

/-- The call-argument clauses hold of the first `m` calls of any run in which the first
    `m - 1` were rejected. -/
theorem prompts_of_rejects {m : ℕ} (hrejects : RejectsThrough client model (m - 1)) (k : ℕ)
    (call : ProviderCall)
    (h : (callsThrough client model system content maxTokens m)[k + 1]? = some call) :
    ∃ result errors, client.script (k + 1) = .returned result ∧
      model.validate result.text = .error errors ∧
      call.prompt = retryPrompt content result.text (summarize errors) := by
  obtain ⟨hk, hcall⟩ := getElem?_callsThrough h
  obtain ⟨result, errors, hscript, hvalid⟩ := hrejects (k + 1) (by omega) (by omega)
  refine ⟨result, errors, hscript, hvalid, ?_⟩
  rw [hcall]
  simp only [promptAt, hscript, CallOutcome.text, trailEntry_of_rejected hscript hvalid]

end Contract

/-- **The validation-retry loop does exactly what it reports**, for every script, every
    model and every bound. -/
theorem runExtraction_contract (client : LLMClient) (model : StrictModel M)
    (system content : PyStr) (maxTokens n : ℕ) (observer : RetryObserver S) (w : World S) :
    ∃ made, (finalState ((runExtraction client model system content maxTokens n
        observer).run w)).calls = w.calls ++ made ∧
      RetryContract client model system content maxTokens n
        ((runExtraction client model system content maxTokens n observer).run w) made := by
  -- the script ends in one way, and every clause compares its own end with that one
  obtain ⟨e, he⟩ := exists_endsAs client model n
  obtain ⟨w', hcalls, hrun⟩ := runExtraction_of_endsAs system content maxTokens observer w he
  refine ⟨callsThrough client model system content maxTokens (e.calls n), ?_, ?_⟩
  · rw [hrun]
    cases e <;> exact hcalls
  rw [hrun]
  constructor
  case atMost => simpa using he.rejectsBefore.1
  case returns_iff =>
    constructor
    · rintro ⟨out, w'', hout⟩
      cases e with
      | accepted k result value => exact ⟨k, result, value, he⟩
      | _ => cases hout
    · rintro ⟨k, result, value, haccepts⟩
      have hends : EndsAs client model n (.accepted k result value) := haccepts
      cases he.unique hends
      exact ⟨_, _, rfl⟩
  case returned =>
    intro k result value hk haccepts
    have hends : EndsAs client model n (.accepted k result value) := ⟨hk, haccepts⟩
    cases he.unique hends
    exact ⟨length_callsThrough .., w', rfl⟩
  case failed_iff =>
    constructor
    · rintro ⟨e', w'', hout⟩
      cases e with
      | exhausted => exact he
      | _ => cases hout
    · intro hall
      have hends : EndsAs client model n .exhausted := hall
      cases he.unique hends
      exact ⟨_, _, rfl⟩
  case failed =>
    intro hall
    have hends : EndsAs client model n .exhausted := hall
    cases he.unique hends
    exact ⟨length_callsThrough .., w', rfl⟩
  case providerError =>
    intro k error hk hraises
    have hends : EndsAs client model n (.raised k error) := ⟨hk, hraises⟩
    cases he.unique hends
    exact ⟨length_callsThrough .., w', rfl⟩
  case arguments =>
    intro call hcall
    obtain ⟨i, -, rfl⟩ := List.mem_map.mp hcall
    exact ⟨rfl, rfl, rfl⟩
  case firstPrompt =>
    intro call hcall
    rw [(getElem?_callsThrough hcall).2]
    rfl
  case laterPrompt => exact prompts_of_rejects he.rejectsBefore.2

end ExtractApi
