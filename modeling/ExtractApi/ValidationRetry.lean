import ExtractApi.Observability

/-!
# The validation-retry loop (`llm/pipeline.py`)

`run_extraction` calls the provider, validates strictly, and on a rejection asks
again with the previous response and the error summary.  The `for` loop is the
recursion `attemptLoop` over the list of attempt numbers; its locals are a
`RetryState`.

`MAX_ATTEMPTS` is the argument `n` of the loop, so that what is proved about the
loop holds for every bound and not only for the configured one.
-/

namespace ExtractApi

open PythonText JsonValue RaisingProgram

variable {S M : Type}

def MAX_ATTEMPTS : ℕ := 2

/-- The default of `run_extraction`'s `max_tokens`. -/
def DEFAULT_MAX_TOKENS : ℕ := 4096

/-! ## Error summaries and the retry prompt -/

/-- `_summarize`: location, kind and message; the echoed input is dropped. -/
def summarize (errors : List ErrorDetails) : ErrorSummary :=
  errors.map fun e => ⟨e.loc, e.type, e.msg⟩

/-- `sorted({str(item["type"]) for item in summary})` -/
def retryKinds (summary : ErrorSummary) : List PyStr :=
  (summary.map SummaryItem.type).dedup.mergeSort fun a b => decide (a ≤ b)

/-- `str(i)` of an `int` -/
def intText (i : ℤ) : PyStr := if i < 0 then py "-" ++ decimal i.natAbs else decimal i.natAbs

def newline (indent : ℕ) : PyStr := py "\n" ++ List.replicate indent 32

/-- A list as `json.dumps(…, indent=2)` lays it out at the given indentation. -/
def dumpList (indent : ℕ) (items : List PyStr) : PyStr :=
  if items = [] then py "[]"
  else py "[" ++ newline (indent + 2) ++
    List.intercalate (py "," ++ newline (indent + 2)) items ++ newline indent ++ py "]"

def LocItem.dump : LocItem → PyStr
  | .key name => asciiJsonString name
  | .index i => intText i

def SummaryItem.dump (item : SummaryItem) : PyStr :=
  py "\x7b" ++ newline 4 ++
    py "\"loc\": " ++ dumpList 4 (item.loc.map LocItem.dump) ++ py "," ++ newline 4 ++
    py "\"type\": " ++ asciiJsonString item.type ++ py "," ++ newline 4 ++
    py "\"msg\": " ++ asciiJsonString item.msg ++ newline 2 ++ py "\x7d"

/-- `json.dumps(summary, indent=2)` -/
def dumpSummary (summary : ErrorSummary) : PyStr := dumpList 0 (summary.map SummaryItem.dump)

/-- `_retry_prompt` -/
def retryPrompt (content previousText : PyStr) (summary : ErrorSummary) : PyStr :=
  content ++ py "\n\nYour previous response was:\n" ++ previousText ++
    py "\n\nIt failed strict validation with these errors (location / kind / message). " ++
    py "Fix them and return the complete, corrected object:\n" ++ dumpSummary summary

/-! ## The loop -/

/-- The locals of the loop at the top of an iteration. -/
structure RetryState where
  prompt : PyStr
  trail : List ErrorSummary := []
  tokensIn : ℤ := 0
  tokensOut : ℤ := 0
  costUsd : ℚ := 0
  latencyMs : ℚ := 0

/-- `tokens_in += result.tokens_in` and the three lines after it. -/
def RetryState.accumulate (st : RetryState) (result : CompletionResult) : RetryState :=
  { st with
    tokensIn := st.tokensIn + result.tokensIn
    tokensOut := st.tokensOut + result.tokensOut
    costUsd := st.costUsd + result.costUsd
    latencyMs := st.latencyMs + result.latencyMs }

/-- The next iteration's locals after a rejected text. -/
def RetryState.reject (st : RetryState) (content : PyStr) (result : CompletionResult)
    (errors : List ErrorDetails) : RetryState :=
  { st.accumulate result with
    trail := st.trail ++ [summarize errors]
    prompt := retryPrompt content result.text (summarize errors) }

/-- The aggregated result: the last call's text, model and stop reason with the totals. -/
def RetryState.aggregated (st : RetryState) (result : CompletionResult) : CompletionResult :=
  { text := result.text
    model := result.model
    tokensIn := st.tokensIn
    tokensOut := st.tokensOut
    costUsd := st.costUsd
    latencyMs := st.latencyMs
    stopReason := result.stopReason }

/-- The `on_retry` callback: it returns, and it makes no provider call.  The service
    passes `note_retry`; the pipeline's own tests pass none. -/
structure RetryObserver (S : Type) where
  onRetry : List PyStr → Service S Unit
  returns : ∀ kinds w, ∃ w', (onRetry kinds).run w = .ok () w' ∧ w'.calls = w.calls

def RetryObserver.none : RetryObserver S where
  onRetry _ := pure ()
  returns _ w := ⟨w, rfl, rfl⟩

def RetryObserver.noteRetry : RetryObserver S where
  onRetry := ExtractApi.noteRetry
  returns _ _ := ⟨_, rfl, rfl⟩

/-- `client.complete(…)`, the `attempt`-th call on this client. -/
def LLMClient.complete (client : LLMClient) (attempt : ℕ) (call : ProviderCall) :
    Service S CompletionResult := do
  modify fun w => { w with calls := w.calls ++ [call] }
  match client.script attempt with
  | .returned result => pure result
  | .raised error => throw (.providerError error)
  | .crashed className => throw (.other className)

/-- The warning logged for a rejected text. -/
def rejectionRecord (attempt n : ℕ) (summary : ErrorSummary) : LogRecord :=
  { logger := "extract.pipeline"
    level := .warning
    msg := "extraction attempt %d/%d failed strict validation: %s kinds=%s (%d error(s))"
    args := [.int attempt, .int n, .str (py "ValidationError"),
      .arr ((retryKinds summary).map Json.str), .int summary.length]
    extra := Facts.update ∅
      [("attempt", .int attempt), ("retry_kinds", .arr ((retryKinds summary).map Json.str))] }

section Loop

variable (client : LLMClient) (model : StrictModel M) (system content : PyStr)
  (maxTokens n : ℕ) (observer : RetryObserver S)

/-- The `for attempt in range(1, MAX_ATTEMPTS + 1)` loop over the attempts still to make. -/
def attemptLoop : List ℕ → RetryState → Service S (M × CompletionResult × ℕ)
  | [], st => throw (.extractionFailed ⟨st.trail.length, st.trail, st.costUsd⟩)
  | attempt :: rest, st => do
      let result ←
        tryCatch (client.complete attempt ⟨system, st.prompt, model.jsonSchema, maxTokens⟩)
          fun
          -- prior attempts were billed too, so their spend rides on the raised error
          | .providerError e => throw (.providerError { e with costUsd := e.costUsd + st.costUsd })
          | exc => throw exc
      match model.validate result.text with
      | .error errors => do
          emit (rejectionRecord attempt n (summarize errors))
          if attempt < n then observer.onRetry (retryKinds (summarize errors))
          attemptLoop rest (st.reject content result errors)
      | .ok instance_ => pure (instance_, (st.accumulate result).aggregated result, attempt)

/-- `run_extraction` with `MAX_ATTEMPTS = n` -/
def runExtraction : Service S (M × CompletionResult × ℕ) :=
  attemptLoop client model system content maxTokens n observer (List.range' 1 n)
    { prompt := content }

/-! ### What the loop leaves alone -/

variable {client model system content maxTokens n observer}

theorem attemptLoop_keeps {τ : Type} {f : World S → τ}
    (hcalls : ∀ w calls, f { w with calls := calls } = f w)
    (hlog : ∀ w attempt summary,
      f { w with log := w.log ++ [rejectionRecord attempt n summary] } = f w)
    (hobserver : ∀ kinds, Keeps f (observer.onRetry kinds)) (attempts : List ℕ) :
    ∀ st, Keeps f (attemptLoop client model system content maxTokens n observer attempts st) := by
  induction attempts with
  | nil =>
    intro st
    exact Keeps.throw _
  | cons attempt rest ih =>
    intro st
    have hcomplete : ∀ call, Keeps f (client.complete (S := S) attempt call) := by
      intro call
      apply Keeps.bind (Keeps.modify fun w => hcalls w _)
      intro _
      cases client.script attempt with
      | returned result => exact Keeps.pure _
      | raised error => exact Keeps.throw _
      | crashed className => exact Keeps.throw _
    refine Keeps.bind (Keeps.tryCatch (hcomplete _) fun exc => ?_) fun result => ?_
    · cases exc <;> exact Keeps.throw _
    · cases model.validate result.text with
      | ok value => exact Keeps.pure _
      | error errors =>
        apply Keeps.bind (Keeps.modify fun w => hlog w attempt _)
        intro _
        by_cases hlast : attempt < n
        · simpa [hlast] using Keeps.bind (hobserver _) fun _ => ih _
        · simpa [hlast] using ih _

end Loop

end ExtractApi
