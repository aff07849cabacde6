import ExtractApi.BudgetGuard
import ExtractApi.ClientResolution
import ExtractApi.KeyHashes
import ExtractApi.LoadedJson
import ExtractApi.StrictValues
import ExtractApi.TransitionSystem

/-!
# Starting the service (`create_app`, `configure_logging`)

`create_app` reads its settings from the environment and configures the process's logging
unless it is configured already.  Whatever is wrong with a setting is a `ValueError`, given
here by its message.

The loggers are shared with the rest of the process: a web server configures its own, a test
runner adds handlers.  `logging_runs` is about any run of calls and of such changes.
-/

namespace ExtractApi.Startup

open PythonText RaisingProgram LoadedJson TransitionSystem

/-- `str.isprintable` beyond ASCII, `str.lower`, `str.upper`, and `float` of a text. -/
structure StartupLibs where
  isPrintable : CodePoint → Bool
  lower : PyStr → PyStr
  upper : PyStr → PyStr
  float : PyStr → Option PyFloat

variable (libs : StartupLibs) (environ : Environ)

/-! ## Settings -/

/-- The most digits that `int` takes. -/
def MAX_STR_DIGITS : ℕ := 4300

/-- What `int` raises where there are more. -/
def tooManyDigits (raw : PyStr) : PyStr :=
  py "Exceeds the limit (4300 digits) for integer string conversion: value has " ++
    decimal raw.length ++ py " digits; use sys.set_int_max_str_digits() to increase the limit"

/-- `int(raw)` of ASCII decimals -/
def intOfDecimal (raw : PyStr) : Except PyStr ℕ :=
  if MAX_STR_DIGITS < raw.length then .error (tooManyDigits raw) else .ok (digitsValue raw)

/-- `_positive_int_env` -/
def positiveIntEnv (name : String) (default : PyStr) : Except PyStr ℕ :=
  let raw := (environ name).getD default
  let malformed := py name ++ py " must be a positive integer; got " ++ pyRepr libs.isPrintable raw
  if isAsciiDecimal raw = false then .error malformed
  else do
    let value ← intOfDecimal raw
    if value = 0 then .error malformed else .ok value

/-- `_DEFAULT_MAX_BODY_BYTES` -/
def DEFAULT_MAX_BODY_BYTES : ℕ := 32 * 1024 * 1024

/-- `_max_concurrency_from_env` -/
def maxConcurrencyFromEnv : Except PyStr ℕ :=
  positiveIntEnv libs environ "EXTRACT_MAX_CONCURRENCY" (py "4")

/-- `_max_body_bytes_from_env` -/
def maxBodyBytesFromEnv : Except PyStr ℕ :=
  positiveIntEnv libs environ "EXTRACT_MAX_BODY_BYTES" (decimal DEFAULT_MAX_BODY_BYTES)

/-- `budget_from_env` -/
def budgetFromEnv : Except PyStr BudgetGuard :=
  let raw := (environ "EXTRACT_BUDGET_USD").getD []
  let env := py "env EXTRACT_BUDGET_USD=" ++ pyRepr libs.isPrintable raw
  if raw = [] then .ok { cap := 0 }
  else
    match libs.float raw with
    | none => .error (env ++ py " is not a valid float")
    | some (.finite cap) =>
        if cap < 0 then .error (env ++ py " must be a finite, non-negative number")
        else .ok { cap := cap }
    | some _ => .error (env ++ py " must be a finite, non-negative number")

/-! ## Loggers -/

inductive LogFormat where
  | json
  | text
deriving DecidableEq, Repr

/-- Our handler bears `_MARK`. -/
inductive Handler where
  | marked (format : LogFormat)
  | foreign (id : ℕ)
deriving DecidableEq, Repr

def Handler.isMarked : Handler → Bool
  | .marked _ => true
  | .foreign _ => false

@[simp] theorem Handler.isMarked_marked (format : LogFormat) :
    (Handler.marked format).isMarked = true := rfl

@[simp] theorem Handler.isMarked_foreign (id : ℕ) : (Handler.foreign id).isMarked = false := rfl

structure Logger where
  handlers : List Handler := []
  level : ℤ := 0
  propagate : Bool := true
  disabled : Bool := false
deriving DecidableEq

/-- The loggers of the process. -/
structure Logging where
  root : Logger
  named : String → Logger

/-- `logging.getLevelNamesMapping()` -/
def LEVEL_NAMES : List (PyStr × ℤ) :=
  [(py "CRITICAL", 50), (py "FATAL", 50), (py "ERROR", 40), (py "WARN", 30), (py "WARNING", 30),
    (py "INFO", 20), (py "DEBUG", 10), (py "NOTSET", 0)]

/-- `logging.WARNING` -/
def WARNING : ℤ := 30

/-- `_QUIET` -/
def QUIET : List String := ["openai", "anthropic", "httpx", "httpcore"]

/-- `logging_configured` -/
def loggingConfigured (s : Logging) : Bool := s.root.handlers.any Handler.isMarked

/-- The first marked handler gets the formatter; one is added where there is none. -/
def setMarked (format : LogFormat) : List Handler → List Handler
  | [] => [.marked format]
  | .marked _ :: handlers => .marked format :: handlers
  | .foreign id :: handlers => .foreign id :: setMarked format handlers

/-- The changes to the loggers below the root. -/
def settleNamed (name : String) (logger : Logger) : Logger :=
  if name ∈ ["uvicorn", "uvicorn.error"] then { logger with handlers := [], propagate := true }
  else if name = "uvicorn.access" then { logger with disabled := true }
  else if name ∈ QUIET ∧ (logger.level = 0 ∨ logger.level < WARNING) then
    { logger with level := WARNING }
  else logger

abbrev Start := EStateM PyStr Logging

/-- A setting that is read without a change to the loggers. -/
def reading {α : Type} : Except PyStr α → Start α
  | .ok a => pure a
  | .error message => throw message

/-- `LOG_LEVEL` -/
def logLevelFromEnv : Except PyStr ℤ :=
  let levelName := libs.upper (strip ((environ "LOG_LEVEL").getD (py "INFO")))
  let malformed := py "invalid LOG_LEVEL " ++ pyRepr libs.isPrintable levelName ++
    py "; use DEBUG, INFO, WARNING, ERROR"
  match LEVEL_NAMES.find? fun entry => decide (entry.1 = levelName) with
  | some (_, level) => if level = 0 then .error malformed else .ok level
  | none => .error malformed

/-- `LOG_FORMAT` -/
def logFormatFromEnv : Except PyStr LogFormat :=
  let fmt := libs.lower (strip ((environ "LOG_FORMAT").getD (py "json")))
  if fmt = py "json" then .ok .json
  else if fmt = py "text" then .ok .text
  else .error (py "invalid LOG_FORMAT " ++ pyRepr libs.isPrintable fmt ++ py "; use json or text")

/-- The loggers, once both settings are read. -/
def Logging.settle (s : Logging) (level : ℤ) (format : LogFormat) : Logging where
  root := { s.root with handlers := setMarked format s.root.handlers, level := level }
  named name := settleNamed name (s.named name)

/-- `configure_logging` -/
def configureLogging : Start Unit := do
  let level ← reading (logLevelFromEnv libs environ)
  let format ← reading (logFormatFromEnv libs environ)
  modify fun s => s.settle level format

/-! ## The application -/

/-- What `create_app` builds its middlewares and its endpoints with. -/
structure AppSettings where
  budget : BudgetGuard
  maxConcurrency : ℕ
  maxBodyBytes : ℕ
  keyHashes : List (List Byte)

/-- The arguments of the middlewares, in the order in which these are added. -/
def middlewareSettings (budget : BudgetGuard) : Except PyStr AppSettings := do
  let maxConcurrency ← maxConcurrencyFromEnv libs environ
  let maxBodyBytes ← maxBodyBytesFromEnv libs environ
  let keyHashes ← keyHashesFromEnv libs.lower (environ "EXTRACT_API_KEY_SHA256S")
  return {
    budget := budget
    maxConcurrency := maxConcurrency
    maxBodyBytes := maxBodyBytes
    keyHashes := keyHashes }

/-- `budget if budget is not None else budget_from_env()` -/
def budgetGuard : Option BudgetGuard → Except PyStr BudgetGuard
  | some budget => .ok budget
  | none => budgetFromEnv libs environ

/-- `if not logging_configured(): configure_logging()` -/
def configureOnce : Start Unit := do
  if loggingConfigured (← get) = false then configureLogging libs environ

/-- `create_app` -/
def createApp (budget : Option BudgetGuard) : Start AppSettings := do
  let budget ← reading (budgetGuard libs environ budget)
  configureOnce libs environ
  reading (middlewareSettings libs environ budget)

section Settings

variable {libs : StartupLibs} {environ : Environ}

/-! ## What is accepted -/

theorem intOfDecimal_eq_ok_iff {raw : PyStr} {n : ℕ} :
    intOfDecimal raw = .ok n ↔ raw.length ≤ MAX_STR_DIGITS ∧ digitsValue raw = n := by
  unfold intOfDecimal
  split_ifs with hlong
  · simp [not_le.mpr hlong]
  · simp [not_lt.mp hlong]

/-- A positive integer in ASCII decimals that `int` takes. -/
def IsPositiveInt (raw : PyStr) : Prop :=
  isAsciiDecimal raw = true ∧ raw.length ≤ MAX_STR_DIGITS ∧ 0 < digitsValue raw

theorem positiveIntEnv_eq_ok_iff {name : String} {default : PyStr} {n : ℕ} :
    positiveIntEnv libs environ name default = .ok n ↔
      IsPositiveInt ((environ name).getD default) ∧
        digitsValue ((environ name).getD default) = n := by
  unfold positiveIntEnv IsPositiveInt
  generalize (environ name).getD default = raw
  simp only
  split_ifs with hdecimal
  · simp [hdecimal]
  · simp only [bind_eq_ok_iff, intOfDecimal_eq_ok_iff]
    constructor
    · rintro ⟨value, ⟨hlength, rfl⟩, h⟩
      split_ifs at h with hzero
      cases h
      exact ⟨⟨by simpa using hdecimal, hlength, Nat.pos_of_ne_zero hzero⟩, rfl⟩
    · rintro ⟨⟨-, hlength, hpos⟩, rfl⟩
      exact ⟨_, ⟨hlength, rfl⟩, if_neg hpos.ne'⟩

/-- Unset, or a finite amount that is not negative. -/
def IsBudget (libs : StartupLibs) (raw : PyStr) : Prop :=
  raw = [] ∨ ∃ cap, libs.float raw = some (.finite cap) ∧ 0 ≤ cap

theorem budgetFromEnv_spec (libs : StartupLibs) (environ : Environ) :
    match budgetFromEnv libs environ with
    | .ok budget => IsBudget libs ((environ "EXTRACT_BUDGET_USD").getD []) ∧ 0 ≤ budget.cap ∧
        budget.spent = 0
    | .error _ => ¬ IsBudget libs ((environ "EXTRACT_BUDGET_USD").getD []) := by
  unfold budgetFromEnv IsBudget
  generalize (environ "EXTRACT_BUDGET_USD").getD [] = raw
  simp only
  split_ifs with hempty
  · exact ⟨Or.inl hempty, le_refl 0, rfl⟩
  · rcases hfloat : libs.float raw with _ | cap | _ | _ | _
    · simp [hempty]
    · simp only
      split_ifs with hneg
      · simp [hempty, hneg]
      · exact ⟨Or.inr ⟨cap, rfl, not_lt.mp hneg⟩, not_lt.mp hneg, rfl⟩
    all_goals simp [hempty]

/-- Every entry is blank or the hex text of a digest. -/
def IsHashList (libs : StartupLibs) (raw : Option PyStr) : Prop :=
  ∀ entry ∈ envEntries libs.lower raw, entry = [] ∨ isSha256Hex entry = true

theorem length_fromHex {n : ℕ} : ∀ {entry : PyStr}, entry.length = 2 * n →
    (fromHex entry).length = n := by
  induction n with
  | zero =>
    intro entry h
    rw [List.length_eq_zero_iff.mp h]
    rfl
  | succ n ih =>
    intro entry h
    rcases entry with _ | ⟨high, _ | ⟨low, entry⟩⟩
    · simp at h
    · simp at h
      omega
    · simp only [List.length_cons] at h
      rw [fromHex, List.length_cons, ih (by omega)]

/-- Digests of the length of SHA-256's, each once. -/
def AreDigests (hashes : List (List Byte)) : Prop :=
  hashes.Nodup ∧ ∀ digest ∈ hashes, digest.length = 32

theorem parseEntries_spec (lower : PyStr → PyStr) (entries : List PyStr) :
    ∀ (position : ℕ) (digests : List (List Byte)), AreDigests digests →
      match parseEntries lower position entries digests with
      | .ok hashes => (∀ raw ∈ entries, lower (strip raw) = [] ∨
          isSha256Hex (lower (strip raw)) = true) ∧ AreDigests hashes
      | .error _ => ¬ ∀ raw ∈ entries, lower (strip raw) = [] ∨
          isSha256Hex (lower (strip raw)) = true := by
  induction entries with
  | nil =>
    intro position digests hdigests
    exact ⟨by simp, hdigests⟩
  | cons raw entries ih =>
    intro position digests hdigests
    unfold parseEntries
    simp only [List.forall_mem_cons]
    by_cases hblank : lower (strip raw) = []
    · rw [if_pos hblank]
      simpa [hblank] using ih (position + 1) digests hdigests
    · rw [if_neg hblank]
      by_cases hhex : isSha256Hex (lower (strip raw)) = true
      · rw [if_pos hhex]
        have hlength : (fromHex (lower (strip raw))).length = 32 := by
          simp only [isSha256Hex, Bool.and_eq_true, decide_eq_true_eq] at hhex
          exact length_fromHex (n := 32) hhex.1
        have hnext : AreDigests (if fromHex (lower (strip raw)) ∈ digests then digests
            else digests ++ [fromHex (lower (strip raw))]) := by
          split_ifs with hmem
          · exact hdigests
          · refine ⟨List.nodup_append.mpr ⟨hdigests.1, by simp, ?_⟩, ?_⟩
            · intro digest hdigest other hother
              rw [List.mem_singleton.mp hother]
              rintro rfl
              exact hmem hdigest
            · intro digest hdigest
              rcases List.mem_append.mp hdigest with hdigest | hdigest
              · exact hdigests.2 digest hdigest
              · rw [List.mem_singleton.mp hdigest, hlength]
        simpa [hhex] using ih (position + 1) _ hnext
      · rw [if_neg hhex]
        simp [hblank, hhex]

theorem keyHashesFromEnv_spec (libs : StartupLibs) (raw : Option PyStr) :
    match keyHashesFromEnv libs.lower raw with
    | .ok hashes => IsHashList libs raw ∧ AreDigests hashes
    | .error _ => ¬ IsHashList libs raw := by
  have hspec := parseEntries_spec libs.lower ((raw.getD []).splitOn 44) 1 [] ⟨by simp, by simp⟩
  have hall : (∀ entry ∈ (raw.getD []).splitOn 44, libs.lower (strip entry) = [] ∨
      isSha256Hex (libs.lower (strip entry)) = true) ↔ IsHashList libs raw := by
    simp [IsHashList, envEntries]
  rw [hall] at hspec
  exact hspec

/-- A level name other than `NOTSET`. -/
def IsLogLevel (libs : StartupLibs) (environ : Environ) : Prop :=
  ∃ level, logLevelFromEnv libs environ = .ok level

def IsLogFormat (libs : StartupLibs) (environ : Environ) : Prop :=
  libs.lower (strip ((environ "LOG_FORMAT").getD (py "json"))) ∈ [py "json", py "text"]

theorem logFormatFromEnv_spec (libs : StartupLibs) (environ : Environ) :
    match logFormatFromEnv libs environ with
    | .ok _ => IsLogFormat libs environ
    | .error _ => ¬ IsLogFormat libs environ := by
  unfold logFormatFromEnv IsLogFormat
  simp only [List.mem_cons, List.not_mem_nil, or_false]
  split_ifs with hjson htext
  · exact Or.inl hjson
  · exact Or.inr htext
  · simp [hjson, htext]

/-- What has to hold of the environment for the application to be built. -/
structure WellFormed (libs : StartupLibs) (environ : Environ) (budget : Option BudgetGuard)
    (configured : Bool) : Prop where
  budget : budget = none → IsBudget libs ((environ "EXTRACT_BUDGET_USD").getD [])
  level : configured = false → IsLogLevel libs environ
  format : configured = false → IsLogFormat libs environ
  concurrency : IsPositiveInt ((environ "EXTRACT_MAX_CONCURRENCY").getD (py "4"))
  body : IsPositiveInt ((environ "EXTRACT_MAX_BODY_BYTES").getD (decimal DEFAULT_MAX_BODY_BYTES))
  hashes : IsHashList libs (environ "EXTRACT_API_KEY_SHA256S")

/-- Limits that admit something, digests that can be compared, and a budget guard that is the
    given one or a fresh one. -/
structure AppSettings.Sound (settings : AppSettings) (budget : Option BudgetGuard) : Prop where
  given : ∀ guard, budget = some guard → settings.budget = guard
  fresh : budget = none → 0 ≤ settings.budget.cap ∧ settings.budget.spent = 0
  concurrency : 0 < settings.maxConcurrency
  body : 0 < settings.maxBodyBytes
  digests : AreDigests settings.keyHashes

/-! ## What is refused -/

def SETTINGS : List String :=
  ["EXTRACT_BUDGET_USD", "LOG_LEVEL", "LOG_FORMAT", "EXTRACT_MAX_CONCURRENCY",
    "EXTRACT_MAX_BODY_BYTES", "EXTRACT_API_KEY_SHA256S"]

/-- The settings that `_positive_int_env` reads. -/
def INTEGER_SETTINGS : List String := ["EXTRACT_MAX_CONCURRENCY", "EXTRACT_MAX_BODY_BYTES"]

/-- The message names the setting, or it is `int`'s own about the value of an integer setting,
    which names none. -/
def Blames (environ : Environ) (name : String) (message : PyStr) : Prop :=
  py name <:+: message ∨
    name ∈ INTEGER_SETTINGS ∧ ∃ raw, environ name = some raw ∧ isAsciiDecimal raw = true ∧
      MAX_STR_DIGITS < raw.length ∧ message = tooManyDigits raw

theorem budgetFromEnv_blames : RaisesOnly (Blames environ "EXTRACT_BUDGET_USD")
    (budgetFromEnv libs environ) := by
  have hnames : ∀ rest : PyStr, Blames environ "EXTRACT_BUDGET_USD"
      (py "env EXTRACT_BUDGET_USD=" ++ rest) :=
    fun rest => Or.inl ⟨py "env ", py "=" ++ rest, rfl⟩
  intro message h
  unfold budgetFromEnv at h
  simp only [List.append_assoc] at h
  split_ifs at h
  split at h
  · cases h
    exact hnames _
  · split_ifs at h
    cases h
    exact hnames _
  · cases h
    exact hnames _

theorem logLevelFromEnv_blames : RaisesOnly (Blames environ "LOG_LEVEL")
    (logLevelFromEnv libs environ) := by
  have hnames : ∀ rest : PyStr, Blames environ "LOG_LEVEL" (py "invalid LOG_LEVEL " ++ rest) :=
    fun rest => Or.inl ⟨py "invalid ", py " " ++ rest, rfl⟩
  intro message h
  unfold logLevelFromEnv at h
  simp only [List.append_assoc] at h
  split at h
  · split_ifs at h
    cases h
    exact hnames _
  · cases h
    exact hnames _

theorem logFormatFromEnv_blames : RaisesOnly (Blames environ "LOG_FORMAT")
    (logFormatFromEnv libs environ) := by
  intro message h
  unfold logFormatFromEnv at h
  simp only [List.append_assoc] at h
  split_ifs at h
  cases h
  exact Or.inl ⟨py "invalid ", py " " ++ _, rfl⟩

theorem positiveIntEnv_blames {name : String} {default : PyStr} (hname : name ∈ INTEGER_SETTINGS)
    (hdefault : default.length ≤ MAX_STR_DIGITS) :
    RaisesOnly (Blames environ name) (positiveIntEnv libs environ name default) := by
  intro message h
  unfold positiveIntEnv at h
  simp only [List.append_assoc] at h
  split_ifs at h with hdecimal
  · cases h
    exact Or.inl ⟨[], _, rfl⟩
  · unfold intOfDecimal at h
    split_ifs at h with hlong
    · cases h
      refine Or.inr ⟨hname, ?_⟩
      -- the default is short, so the value comes from the environment
      rcases hraw : environ name with _ | raw
      · rw [hraw, Option.getD_none] at hlong
        omega
      · rw [hraw, Option.getD_some] at hlong hdecimal
        exact ⟨raw, rfl, by simpa using hdecimal, hlong, rfl⟩
    · simp only [bind, Except.bind] at h
      split_ifs at h
      cases h
      exact Or.inl ⟨[], _, rfl⟩

theorem names_malformedEntry (position : ℕ) :
    py "EXTRACT_API_KEY_SHA256S" <:+: malformedEntry position := by
  rw [malformedEntry, List.append_assoc, List.append_assoc, List.append_assoc]
  exact (List.prefix_append _ _).isInfix

theorem keyHashesFromEnv_blames (lower : PyStr → PyStr) :
    RaisesOnly (Blames environ "EXTRACT_API_KEY_SHA256S")
      (keyHashesFromEnv lower (environ "EXTRACT_API_KEY_SHA256S")) := by
  have hparse : ∀ (entries : List PyStr) (position : ℕ) (digests : List (List Byte)),
      RaisesOnly (Blames environ "EXTRACT_API_KEY_SHA256S")
        (parseEntries lower position entries digests) := by
    intro entries
    induction entries with
    | nil =>
      intro position digests
      exact .ok _
    | cons raw entries ih =>
      intro position digests
      unfold parseEntries
      simp only
      split_ifs
      · exact ih _ _
      · exact ih _ _
      · exact ih _ _
      · exact .error (Or.inl (names_malformedEntry position))
  exact hparse _ _ _

end Settings

/-! ## The hex text of a digest -/

theorem isLowerHex_hexDigit (n : Fin 16) : isLowerHex (hexDigit n) = true := by
  revert n
  decide

theorem all_isLowerHex_hexDigest (digest : List Byte) :
    (hexDigest digest).all isLowerHex = true := by
  rw [List.all_eq_true]
  intro c hc
  obtain ⟨b, -, hc⟩ := List.mem_flatMap.mp hc
  simp only [List.mem_cons, List.not_mem_nil, or_false] at hc
  rcases hc with rfl | rfl
  · exact isLowerHex_hexDigit _
  · exact isLowerHex_hexDigit _

theorem length_hexDigest (digest : List Byte) : (hexDigest digest).length = 2 * digest.length := by
  induction digest with
  | nil => rfl
  | cons b digest ih =>
    simp only [hexDigest, List.flatMap_cons, List.length_append, List.length_cons,
      List.length_nil] at ih ⊢
    omega

theorem ne_of_isLowerHex {c : CodePoint} (h : isLowerHex c = true) :
    isSpace c = false ∧ c ≠ 44 := by
  simp only [isLowerHex, Bool.or_eq_true, decide_eq_true_eq] at h
  constructor
  · simp only [isSpace, Bool.or_eq_false_iff, Bool.and_eq_false_iff, decide_eq_false_iff_not,
      List.mem_cons, List.not_mem_nil, or_false]
    omega
  · rintro rfl
    revert h
    decide

theorem strip_of_all_isLowerHex {text : PyStr} (h : text.all isLowerHex = true) :
    strip text = text := by
  rw [List.all_eq_true] at h
  have hdrop : text.dropWhile isSpace = text := by
    rw [List.dropWhile_eq_self_iff]
    intro hpos
    simp [(ne_of_isLowerHex (h _ (List.getElem_mem hpos))).1]
  rw [strip, hdrop, List.rdropWhile_eq_self_iff]
  intro hne
  simp [(ne_of_isLowerHex (h _ (List.getLast_mem hne))).1]

/-- A list of one digest is read as this digest. -/
theorem envEntries_hexDigest {lower : PyStr → PyStr}
    (hlower : ∀ text : PyStr, text.all isLowerHex = true → lower text = text)
    (digest : List Byte) :
    envEntries lower (some (hexDigest digest)) = [hexDigest digest] := by
  have hhex := all_isLowerHex_hexDigest digest
  have hcomma : (44 : CodePoint) ∉ hexDigest digest := by
    intro hmem
    exact (ne_of_isLowerHex (List.all_eq_true.mp hhex _ hmem)).2 rfl
  have hsplit : (hexDigest digest).splitOn 44 = [hexDigest digest] := by
    have hone : [hexDigest digest] ≠ [] := List.cons_ne_nil _ _
    have hsingle := List.splitOn_intercalate (44 : CodePoint) (by simpa using hcomma) hone
    simpa [List.intercalate] using hsingle
  rw [envEntries, Option.getD_some, hsplit, List.map_singleton, strip_of_all_isLowerHex hhex,
    hlower _ hhex]

theorem isHashList_hexDigest {libs : StartupLibs}
    (hlower : ∀ text : PyStr, text.all isLowerHex = true → libs.lower text = text)
    {digest : List Byte} (hlength : digest.length = 32) :
    IsHashList libs (some (hexDigest digest)) := by
  rw [IsHashList, envEntries_hexDigest hlower, List.forall_mem_singleton, isSha256Hex,
    length_hexDigest, hlength, all_isLowerHex_hexDigest]
  exact Or.inr rfl

/-! ## One start -/

section Start

variable {libs : StartupLibs} {environ : Environ} {α β : Type}

theorem run_reading (x : Except PyStr α) (k : α → Start β) (s : Logging) :
    (reading x >>= k).run s =
      match x with
      | .ok a => (k a).run s
      | .error message => .error message s := by
  cases x <;> rfl

/-- The loggers are configured by the environment's level and format. -/
def ConfiguredBy (libs : StartupLibs) (environ : Environ) (s s' : Logging) : Prop :=
  ∃ level format, logLevelFromEnv libs environ = .ok level ∧
    logFormatFromEnv libs environ = .ok format ∧ s' = s.settle level format

/-- **`configure_logging` changes everything that it changes, or nothing.** -/
theorem run_configureLogging (libs : StartupLibs) (environ : Environ) (s : Logging) :
    match (configureLogging libs environ).run s with
    | .ok () s' => ConfiguredBy libs environ s s'
    | .error message s' => s' = s ∧
        (¬ IsLogLevel libs environ ∧ Blames environ "LOG_LEVEL" message ∨
          ¬ IsLogFormat libs environ ∧ Blames environ "LOG_FORMAT" message) := by
  have hformat := logFormatFromEnv_spec libs environ
  unfold configureLogging
  rw [run_reading]
  rcases hlevel : logLevelFromEnv libs environ with message | level
  · refine ⟨rfl, Or.inl ⟨?_, logLevelFromEnv_blames message hlevel⟩⟩
    rintro ⟨level, hok⟩
    rw [hlevel] at hok
    cases hok
  · simp only
    rw [run_reading]
    rcases hfmt : logFormatFromEnv libs environ with message | format
    · rw [hfmt] at hformat
      exact ⟨rfl, Or.inr ⟨hformat, logFormatFromEnv_blames message hfmt⟩⟩
    · exact ⟨level, format, hlevel, hfmt, rfl⟩

theorem budgetGuard_spec (libs : StartupLibs) (environ : Environ) (budget : Option BudgetGuard) :
    match budgetGuard libs environ budget with
    | .ok guard => (∀ given, budget = some given → guard = given) ∧
        (budget = none → IsBudget libs ((environ "EXTRACT_BUDGET_USD").getD []) ∧
          0 ≤ guard.cap ∧ guard.spent = 0)
    | .error message => budget = none ∧
        ¬ IsBudget libs ((environ "EXTRACT_BUDGET_USD").getD []) ∧
        Blames environ "EXTRACT_BUDGET_USD" message := by
  rcases budget with _ | given
  · have hspec := budgetFromEnv_spec libs environ
    unfold budgetGuard
    rcases hbudget : budgetFromEnv libs environ with message | guard
    · rw [hbudget] at hspec
      exact ⟨rfl, hspec, budgetFromEnv_blames message hbudget⟩
    · rw [hbudget] at hspec
      exact ⟨by simp, fun _ => hspec⟩
  · exact ⟨fun _ h => Option.some.inj h, by simp⟩

/-- The settings of the middlewares are accepted together or one of them is refused. -/
theorem middlewareSettings_spec (libs : StartupLibs) (environ : Environ) (guard : BudgetGuard) :
    match middlewareSettings libs environ guard with
    | .ok settings => settings.budget = guard ∧
        IsPositiveInt ((environ "EXTRACT_MAX_CONCURRENCY").getD (py "4")) ∧
        IsPositiveInt
          ((environ "EXTRACT_MAX_BODY_BYTES").getD (decimal DEFAULT_MAX_BODY_BYTES)) ∧
        IsHashList libs (environ "EXTRACT_API_KEY_SHA256S") ∧
        settings.maxConcurrency =
          digitsValue ((environ "EXTRACT_MAX_CONCURRENCY").getD (py "4")) ∧
        settings.maxBodyBytes = digitsValue
          ((environ "EXTRACT_MAX_BODY_BYTES").getD (decimal DEFAULT_MAX_BODY_BYTES)) ∧
        keyHashesFromEnv libs.lower (environ "EXTRACT_API_KEY_SHA256S") =
          .ok settings.keyHashes ∧
        AreDigests settings.keyHashes
    | .error message => ∃ name ∈ SETTINGS, Blames environ name message ∧
        ¬ (IsPositiveInt ((environ "EXTRACT_MAX_CONCURRENCY").getD (py "4")) ∧
          IsPositiveInt
            ((environ "EXTRACT_MAX_BODY_BYTES").getD (decimal DEFAULT_MAX_BODY_BYTES)) ∧
          IsHashList libs (environ "EXTRACT_API_KEY_SHA256S")) := by
  have hshort : (decimal DEFAULT_MAX_BODY_BYTES).length ≤ MAX_STR_DIGITS := by decide
  have hhashes := keyHashesFromEnv_spec libs (environ "EXTRACT_API_KEY_SHA256S")
  -- a limit that is not read is not a positive integer
  have hrefused : ∀ {name : String} {default message : PyStr},
      positiveIntEnv libs environ name default = .error message →
        ¬ IsPositiveInt ((environ name).getD default) := by
    intro name default message herror hpositive
    have hok : positiveIntEnv libs environ name default = .ok _ :=
      positiveIntEnv_eq_ok_iff.mpr ⟨hpositive, rfl⟩
    rw [herror] at hok
    cases hok
  unfold middlewareSettings maxConcurrencyFromEnv maxBodyBytesFromEnv
  rcases hconcurrency : positiveIntEnv libs environ "EXTRACT_MAX_CONCURRENCY" (py "4") with
    message | maxConcurrency
  · exact ⟨"EXTRACT_MAX_CONCURRENCY", by decide,
      positiveIntEnv_blames (by decide) (by decide) message hconcurrency,
      fun h => hrefused hconcurrency h.1⟩
  · obtain ⟨hconcurrent, hvalue⟩ := positiveIntEnv_eq_ok_iff.mp hconcurrency
    rcases hbody : positiveIntEnv libs environ "EXTRACT_MAX_BODY_BYTES"
        (decimal DEFAULT_MAX_BODY_BYTES) with message | maxBodyBytes
    · exact ⟨"EXTRACT_MAX_BODY_BYTES", by decide,
        positiveIntEnv_blames (by decide) hshort message hbody, fun h => hrefused hbody h.2.1⟩
    · obtain ⟨hcap, hlimit⟩ := positiveIntEnv_eq_ok_iff.mp hbody
      rcases hkeys : keyHashesFromEnv libs.lower (environ "EXTRACT_API_KEY_SHA256S") with
        message | hashes
      · rw [hkeys] at hhashes
        exact ⟨"EXTRACT_API_KEY_SHA256S", by decide, keyHashesFromEnv_blames _ message hkeys,
          fun h => hhashes h.2.2⟩
      · rw [hkeys] at hhashes
        exact ⟨rfl, hconcurrent, hcap, hhashes.1, hvalue.symm, hlimit.symm, rfl, hhashes.2⟩

/-- What `create_app` leaves of the loggers: they are as they were if they were configured,
    and configured by its environment otherwise. -/
def LoggingKept (libs : StartupLibs) (environ : Environ) (s s' : Logging) : Prop :=
  if loggingConfigured s = true then s' = s else ConfiguredBy libs environ s s'

theorem run_configureOnce (libs : StartupLibs) (environ : Environ) (s : Logging) :
    match (configureOnce libs environ).run s with
    | .ok () s' => (loggingConfigured s = false →
          IsLogLevel libs environ ∧ IsLogFormat libs environ) ∧ LoggingKept libs environ s s'
    | .error message s' => s' = s ∧ (∃ name ∈ SETTINGS, Blames environ name message) ∧
        loggingConfigured s = false ∧ ¬ (IsLogLevel libs environ ∧ IsLogFormat libs environ) := by
  unfold LoggingKept configureOnce
  by_cases hconfigured : loggingConfigured s = true
  · simp [hconfigured]
  · rw [Bool.not_eq_true] at hconfigured
    have hspec := run_configureLogging libs environ s
    simp only [EStateM.run_bind, EStateM.run_get, hconfigured, if_true]
    rcases hrun : (configureLogging libs environ).run s with ⟨_, s'⟩ | ⟨message, s'⟩
    · rw [hrun] at hspec
      obtain ⟨level, format, hlevel, hformat, hs'⟩ := hspec
      have haccepted := logFormatFromEnv_spec libs environ
      rw [hformat] at haccepted
      exact ⟨fun _ => ⟨⟨level, hlevel⟩, haccepted⟩, level, format, hlevel, hformat, hs'⟩
    · rw [hrun] at hspec
      obtain ⟨hkept, ⟨hlevel, hblames⟩ | ⟨hformat, hblames⟩⟩ := hspec
      · exact ⟨hkept, ⟨_, by decide, hblames⟩, trivial, fun h => hlevel h.1⟩
      · exact ⟨hkept, ⟨_, by decide, hblames⟩, trivial, fun h => hformat h.2⟩

theorem run_createApp (libs : StartupLibs) (environ : Environ)
    (budget : Option BudgetGuard) (s : Logging) :
    match (createApp libs environ budget).run s with
    | .ok settings s' => WellFormed libs environ budget (loggingConfigured s) ∧
        settings.Sound budget ∧
        keyHashesFromEnv libs.lower (environ "EXTRACT_API_KEY_SHA256S") =
          .ok settings.keyHashes ∧
        settings.maxBodyBytes = digitsValue
          ((environ "EXTRACT_MAX_BODY_BYTES").getD (decimal DEFAULT_MAX_BODY_BYTES)) ∧
        LoggingKept libs environ s s'
    | .error message s' => ¬ WellFormed libs environ budget (loggingConfigured s) ∧
        (∃ name ∈ SETTINGS, Blames environ name message) ∧
        (s' = s ∨ loggingConfigured s = false ∧ ConfiguredBy libs environ s s') := by
  have hguard := budgetGuard_spec libs environ budget
  have honce := run_configureOnce libs environ s
  unfold createApp
  rw [run_reading]
  -- the budget is read first, then the logging is configured, then the middlewares
  rcases hbudget : budgetGuard libs environ budget with message | guard
  · rw [hbudget] at hguard
    obtain ⟨hnone, hrefused, hblames⟩ := hguard
    exact ⟨fun h => hrefused (h.budget hnone), ⟨_, by decide, hblames⟩, Or.inl rfl⟩
  · rw [hbudget] at hguard
    obtain ⟨hgiven, hfresh⟩ := hguard
    simp only [EStateM.run_bind]
    rcases hrun : (configureOnce libs environ).run s with ⟨_, s'⟩ | ⟨message, s'⟩
    · rw [hrun] at honce
      obtain ⟨haccepted, hkept⟩ := honce
      have hmiddlewares := middlewareSettings_spec libs environ guard
      rcases hsettings : middlewareSettings libs environ guard with message | settings
      · rw [hsettings] at hmiddlewares
        obtain ⟨name, hname, hblames, hrefused⟩ := hmiddlewares
        refine ⟨fun h => hrefused ⟨h.concurrency, h.body, h.hashes⟩, ⟨name, hname, hblames⟩, ?_⟩
        unfold LoggingKept at hkept
        split_ifs at hkept with hconfigured
        · exact Or.inl hkept
        · exact Or.inr ⟨by simpa using hconfigured, hkept⟩
      · rw [hsettings] at hmiddlewares
        obtain ⟨hsame, hconcurrency, hbody, hhashes, hadmitted, hcap, hkeys, hdigests⟩ :=
          hmiddlewares
        refine ⟨⟨fun hnone => (hfresh hnone).1, fun h => (haccepted h).1,
          fun h => (haccepted h).2, hconcurrency, hbody, hhashes⟩, ?_, hkeys, hcap, hkept⟩
        refine ⟨?_, ?_, hadmitted ▸ hconcurrency.2.2, hcap ▸ hbody.2.2, hdigests⟩
        · intro given h
          rw [hsame, hgiven given h]
        · intro hnone
          rw [hsame]
          exact (hfresh hnone).2
    · rw [hrun] at honce
      obtain ⟨hkept, hblames, hunconfigured, hrefused⟩ := honce
      exact ⟨fun h => hrefused ⟨h.level hunconfigured, h.format hunconfigured⟩, hblames,
        Or.inl hkept⟩

end Start

/-! ## Runs -/

section Runs

/-- The handlers of the root logger that are not ours. -/
def Logging.others (s : Logging) : List Handler :=
  s.root.handlers.filter fun handler => !handler.isMarked

inductive Event where
  | configure (environ : Environ)
  | createApp (environ : Environ) (budget : Option BudgetGuard)
  /-- a change by anybody else -/
  | foreign

variable {libs : StartupLibs} {s t : Logging} {event : Event}

def sampleStartupLibs : StartupLibs where
  isPrintable _ := true
  lower := id
  upper := id
  float _ := none

/-- Nothing is set. -/
def emptyEnviron : Environ := fun _ => none

/-- Two handlers of a test runner. -/
def sampleLogging : Logging where
  root := { handlers := [.foreign 0, .foreign 1], level := 30 }
  named _ := {}

end Runs

end ExtractApi.Startup
