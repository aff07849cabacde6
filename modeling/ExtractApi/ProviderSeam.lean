import ExtractApi.JsonValue

/-!
# The provider seam (`llm/client.py`, `llm/errors.py`)

`CompletionResult`, the `LLMClient` protocol and the seam's exceptions.  What a
provider does is unknown, so a client carries a *script*: the `n`-th entry is how
its `n`-th call ends.  A client whose answers depend on the prompt plays, on every
run, some script, and the results are stated for every script.
-/

namespace ExtractApi

open PythonText JsonValue

structure CompletionResult where
  text : PyStr
  model : PyStr
  tokensIn : ℤ
  tokensOut : ℤ
  costUsd : ℚ
  latencyMs : ℚ
  stopReason : PyStr

/-- `ProviderError` and its three subclasses. -/
inductive ProviderErrorKind where
  | error
  | timeout
  | refusal
  | truncation
deriving DecidableEq, Repr

/-- `type(exc).__name__` -/
def ProviderErrorKind.className : ProviderErrorKind → PyStr
  | .error => py "ProviderError"
  | .timeout => py "ProviderTimeout"
  | .refusal => py "ProviderRefusal"
  | .truncation => py "ProviderTruncation"

/-- A raised `ProviderError`; `costUsd` is the failed call's own cost until the
    pipeline adds the earlier attempts to it. -/
structure ProviderError where
  kind : ProviderErrorKind
  provider : PyStr
  detail : PyStr
  costUsd : ℚ

/-- How one call of `client.complete` ends. -/
inductive CallOutcome where
  | returned (result : CompletionResult)
  | raised (error : ProviderError)
  /-- any other exception, by class name -/
  | crashed (className : PyStr)

/-- What the call itself billed: the returned result's cost or the own cost of the
    provider error.  Any other exception names no cost. -/
def CallOutcome.ownCost : CallOutcome → ℚ
  | .returned result => result.costUsd
  | .raised error => error.costUsd
  | .crashed _ => 0

structure LLMClient where
  provider : PyStr
  /-- `getattr(client, "model", None)` -/
  model : Option PyStr
  /-- `script n` is how call number `n` ends, counting from 1. -/
  script : ℕ → CallOutcome

/-- The arguments of one `client.complete` call. -/
structure ProviderCall where
  system : PyStr
  prompt : PyStr
  jsonSchema : Json
  maxTokens : ℕ

/-- One element of an error's location: a field name or a list index. -/
inductive LocItem where
  | key (name : PyStr)
  | index (i : ℤ)
deriving DecidableEq, Repr

/-- A Pydantic error as `exc.errors()` lists it; `input` echoes the failed value. -/
structure ErrorDetails where
  loc : List LocItem
  type : PyStr
  msg : PyStr
  input : Json

/-- One entry of an `ErrorSummary`: an error without its `input`. -/
structure SummaryItem where
  loc : List LocItem
  type : PyStr
  msg : PyStr
deriving DecidableEq, Repr

abbrev ErrorSummary := List SummaryItem

/-- `ExtractionFailed` with its per-attempt trail and the spend of all attempts. -/
structure ExtractionFailed where
  attempts : ℕ
  trail : List ErrorSummary
  costUsd : ℚ

/-- A strict model class: the JSON schema it generates, `model_validate_json`, and
    `model_dump(mode="json")` of an instance. -/
structure StrictModel (M : Type) where
  jsonSchema : Json
  validate : PyStr → Except (List ErrorDetails) M
  dump : M → List (PyStr × Json)

/-- `str(n)` of a non-negative `int`. -/
def decimal (n : ℕ) : PyStr := (Nat.toDigits 10 n).map CodePoint.ofChar

/-- `str(exc)` of an `ExtractionFailed` -/
def ExtractionFailed.message (e : ExtractionFailed) : PyStr :=
  py "extraction failed strict validation after " ++ decimal e.attempts ++ py " attempt(s)"

def LocItem.toJson : LocItem → Json
  | .key name => .str name
  | .index i => .int i

def SummaryItem.toJson (item : SummaryItem) : Json :=
  .obj [(py "loc", .arr (item.loc.map LocItem.toJson)), (py "type", .str item.type),
    (py "msg", .str item.msg)]

/-- The trail as the 422 body carries it. -/
def trailJson (trail : List ErrorSummary) : Json :=
  .arr (trail.map fun summary => .arr (summary.map SummaryItem.toJson))

end ExtractApi
