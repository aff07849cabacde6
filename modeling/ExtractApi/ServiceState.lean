import ExtractApi.ErrorTaxonomy
import ExtractApi.RequestModels
import ExtractApi.ProviderSeam
import ExtractApi.RaisingProgram

/-!
# Exceptions, state and effects of the service

Python exceptions keep every side effect made before they were raised, so the
synchronous code of the service is a program in `EStateM`: a raised exception
carries the state it was raised in, and `except` continues from that state.

The state holds what the code under `api/` mutates: the budget guard, the
idempotency store, the facts of the request being logged, the log, and (for the
statements) the provider calls made so far.
-/

namespace ExtractApi

open PythonText JsonValue

/-- The exceptions the service's code tells apart, all subclasses of `Exception`. -/
inductive PyExc where
  | extractError (error : ExtractError)
  | unknownSchema (message : PyStr)
  | requestValidationError (errors : List ErrorDetails)
  | httpException (status : ℕ) (detail : Json) (headers : List (PyStr × PyStr))
  | providerError (error : ProviderError)
  | extractionFailed (error : ExtractionFailed)
  /-- any other exception, by class name -/
  | other (className : PyStr)

/-- Text that an encoding cannot express. -/
def unicodeEncodeError : PyExc := .other (py "UnicodeEncodeError")

/-! ## Dictionaries of facts -/

/-- A Python `dict` with string keys whose order nothing reads. -/
abbrev Facts := AList fun _ : String => Json

/-- `facts.update(entries)` -/
def Facts.update (facts : Facts) (entries : List (String × Json)) : Facts :=
  entries.foldl (fun acc entry => acc.insert entry.1 entry.2) facts

/-- `facts.setdefault(key, value)` -/
def Facts.setdefault (facts : Facts) (key : String) (value : Json) : Facts :=
  if key ∈ facts then facts else facts.insert key value

theorem Facts.lookup_update_of_not_mem {key : String} :
    ∀ {entries : List (String × Json)} {facts : Facts}, (∀ entry ∈ entries, entry.1 ≠ key) →
      AList.lookup key (Facts.update facts entries) = AList.lookup key facts
  | [], _, _ => rfl
  | (name, value) :: entries, facts, h => by
    have hname : key ≠ name := fun hkey => h (name, value) List.mem_cons_self hkey.symm
    have hrest : ∀ entry ∈ entries, entry.1 ≠ key := fun entry hentry =>
      h entry (List.mem_cons_of_mem _ hentry)
    show AList.lookup key (Facts.update (facts.insert name value) entries) = _
    rw [Facts.lookup_update_of_not_mem hrest, AList.lookup_insert_ne hname]

/-! ## The log -/

inductive LogLevel where
  | info
  | warning
  | error
deriving DecidableEq, Repr

/-- A `LogRecord`: the unformatted message, its arguments and the `extra=` fields. -/
structure LogRecord where
  logger : String
  level : LogLevel
  msg : String
  args : List Json := []
  extra : Facts := ∅

/-! ## The state -/

/-- `BudgetGuard._cap` and `BudgetGuard._spent` -/
structure BudgetGuard where
  cap : ℚ
  spent : ℚ := 0

structure World (S : Type) where
  budget : BudgetGuard
  store : S
  /-- The facts bag of the current request; `none` outside a request. -/
  facts : Option Facts
  log : List LogRecord
  /-- Every provider call made, oldest first. -/
  calls : List ProviderCall

/-- Synchronous service code over a store with states `S`. -/
abbrev Service (S : Type) := EStateM PyExc (World S)

/-- A pure step that may raise. -/
def liftExcept {S α : Type} : Except PyExc α → Service S α
  | .ok a => pure a
  | .error e => throw e

/-- `logger.log(level, msg, *args, extra=extra)`.  A record counts as emitted whether or not its
    level reaches `LOG_LEVEL`. -/
def emit {S : Type} (record : LogRecord) : Service S Unit :=
  modify fun w => { w with log := w.log ++ [record] }

end ExtractApi
