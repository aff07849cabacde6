import ExtractApi.ExtractFlow

/-!
# Client resolution (`get_client` in `llm/client.py`)

A client is chosen from the request's provider and the environment, and built from the
environment.  Whatever is wrong with the environment is a `ValueError`.  What the vendors'
SDKs answer is unknown: `Vendors` gives, for a client built from given settings, how its
calls end.
-/

namespace ExtractApi

open PythonText JsonValue RaisingProgram

/-- `os.environ.get` -/
abbrev Environ := String → Option PyStr

/-- What `OpenAIClient.__init__` and `AnthropicClient.__init__` read. -/
structure ClientSettings where
  baseUrl : Option PyStr
  apiKey : Option PyStr
  model : PyStr
  priceInPerM : ℚ
  priceOutPerM : ℚ
  timeoutS : ℚ
  maxRetries : ℕ

/-- Third-party clients, and two conversions of the standard library. -/
structure Vendors where
  openai : ClientSettings → ℕ → CallOutcome
  anthropic : ClientSettings → ℕ → CallOutcome
  /-- `float(raw)`, where it is a finite number -/
  finiteFloat : PyStr → Option ℚ
  /-- `int(raw)` -/
  int : PyStr → Option ℤ
  /-- the time a call of the fixture client is measured to take, by the latency it is set to -/
  elapsedMs : ℕ → ℕ → ℚ

def valueError : PyExc := .other (py "ValueError")

section Resolution

variable (environ : Environ) (vendors : Vendors)

/-- `_env`: an empty value counts as none. -/
def envValue (name : String) : Option PyStr :=
  (environ name).filter fun value => decide (value ≠ [])

/-- `_resolve_credentials` -/
def resolveCredentials (directKeyEnv : String) : Except PyExc (Option PyStr × Option PyStr) :=
  if environ "GATEWAY_BYPASS" = some (py "1") then
    .ok (none, (envValue environ directKeyEnv).or (envValue environ "LLM_API_KEY"))
  else
    match envValue environ "LLM_BASE_URL", envValue environ "LLM_API_KEY" with
    | some baseUrl, some apiKey => .ok (some baseUrl, some apiKey)
    | _, _ => .error valueError

/-- `_float_env` -/
def floatEnv (name default : String) : Except PyExc ℚ :=
  match vendors.finiteFloat ((environ name).getD (py default)) with
  | none => .error valueError
  | some value => if value ≤ 0 then .error valueError else .ok value

/-- `_float_env_required` -/
def floatEnvRequired (name : String) : Except PyExc ℚ :=
  match envValue environ name with
  | none => .error valueError
  | some raw =>
      match vendors.finiteFloat raw with
      | none => .error valueError
      | some value => if value < 0 then .error valueError else .ok value

/-- `_int_env` -/
def intEnv (name default : String) : Except PyExc ℕ :=
  match vendors.int ((environ name).getD (py default)) with
  | none => .error valueError
  | some value => if value < 0 then .error valueError else .ok value.toNat

/-- The two constructors, by the vendor's name in the environment. -/
def clientSettings (vendor : String) : Except PyExc ClientSettings := do
  let credentials ← resolveCredentials environ (vendor ++ "_API_KEY")
  let priceInPerM ← floatEnvRequired environ vendors (vendor ++ "_PRICE_IN_PER_M")
  let priceOutPerM ← floatEnvRequired environ vendors (vendor ++ "_PRICE_OUT_PER_M")
  let timeoutS ← floatEnv environ vendors "LLM_REQUEST_TIMEOUT_S" "60"
  let maxRetries ← intEnv environ vendors "LLM_MAX_RETRIES" "2"
  return {
    baseUrl := credentials.1
    apiKey := credentials.2
    model := (environ (vendor ++ "_MODEL")).getD []
    priceInPerM := priceInPerM
    priceOutPerM := priceOutPerM
    timeoutS := timeoutS
    maxRetries := maxRetries }

/-- `OpenAIClient()` -/
def openAIClient : Except PyExc LLMClient :=
  (clientSettings environ vendors "OPENAI").map fun settings =>
    { provider := py "openai"
      model := some settings.model
      script := vendors.openai settings }

/-- `AnthropicClient()` -/
def anthropicClient : Except PyExc LLMClient :=
  (clientSettings environ vendors "ANTHROPIC").map fun settings =>
    { provider := py "anthropic"
      model := some settings.model
      script := vendors.anthropic settings }

/-- `FixtureClient`: it answers with its canned text, at no cost. -/
def fixtureClient (cannedText : PyStr) (latencyMs : ℕ) : LLMClient where
  provider := py "fixture"
  model := some (py "fixture")
  script n :=
    if strip cannedText = [] then
      .raised {
        kind := .error
        provider := py "fixture"
        detail := py "FixtureClient has no canned text (set FIXTURE_CANNED_TEXT)"
        costUsd := 0 }
    else
      .returned {
        text := cannedText
        model := py "fixture"
        tokensIn := 0
        tokensOut := 0
        costUsd := 0
        latencyMs := vendors.elapsedMs latencyMs n
        stopReason := py "completed" }

/-- `raw.isascii() and raw.isdecimal()` -/
def isAsciiDecimal (raw : PyStr) : Bool :=
  decide (raw ≠ []) && raw.all fun c => decide (48 ≤ c.val) && decide (c.val ≤ 57)

/-- `get_client` -/
def getClient (provider : Provider) : Except PyExc LLMClient :=
  if environ "LLM_PROVIDER_MODE" = some (py "fixture") then
    let raw := (environ "FIXTURE_LATENCY_MS").getD (py "0")
    if isAsciiDecimal raw = false then .error valueError
    else
      match vendors.int raw with
      | none => .error valueError
      | some latencyMs =>
          .ok (fixtureClient vendors ((environ "FIXTURE_CANNED_TEXT").getD []) latencyMs.toNat)
  else
    let resolved := if provider = .default then
        (envValue environ "LLM_DEFAULT_PROVIDER").getD (py "openai")
      else provider.value
    if resolved = py "openai" then openAIClient environ vendors
    else if resolved = py "anthropic" then anthropicClient environ vendors
    else .error valueError

end Resolution

/-! ## What resolution can do -/

variable {environ : Environ} {vendors : Vendors}

/-- The clients of an environment, with the scripts that their calls can follow. -/
inductive Resolved (vendors : Vendors) : LLMClient → Prop
  | fixture (cannedText : PyStr) (latencyMs : ℕ) :
      Resolved vendors (fixtureClient vendors cannedText latencyMs)
  | openai (settings : ClientSettings) :
      Resolved vendors ⟨py "openai", some settings.model, vendors.openai settings⟩
  | anthropic (settings : ClientSettings) :
      Resolved vendors ⟨py "anthropic", some settings.model, vendors.anthropic settings⟩

/-- A constructor's step: only the `ValueError` is raised. -/
abbrev OnlyValueError {α : Type} (x : Except PyExc α) : Prop := RaisesOnly (· = valueError) x

theorem resolveCredentials_onlyValueError (directKeyEnv : String) :
    OnlyValueError (resolveCredentials environ directKeyEnv) := by
  unfold resolveCredentials
  split
  · exact .ok _
  · split
    · exact .ok _
    · exact .error rfl

theorem floatEnv_onlyValueError (name default : String) :
    OnlyValueError (floatEnv environ vendors name default) := by
  unfold floatEnv
  split
  · exact .error rfl
  · split
    · exact .error rfl
    · exact .ok _

theorem floatEnvRequired_onlyValueError (name : String) :
    OnlyValueError (floatEnvRequired environ vendors name) := by
  unfold floatEnvRequired
  split
  · exact .error rfl
  · split
    · exact .error rfl
    · split
      · exact .error rfl
      · exact .ok _

theorem intEnv_onlyValueError (name default : String) :
    OnlyValueError (intEnv environ vendors name default) := by
  unfold intEnv
  split
  · exact .error rfl
  · split
    · exact .error rfl
    · exact .ok _

theorem clientSettings_onlyValueError (vendor : String) :
    OnlyValueError (clientSettings environ vendors vendor) := by
  unfold clientSettings
  apply RaisesOnly.bind (resolveCredentials_onlyValueError _)
  intro credentials
  apply RaisesOnly.bind (floatEnvRequired_onlyValueError _)
  intro priceInPerM
  apply RaisesOnly.bind (floatEnvRequired_onlyValueError _)
  intro priceOutPerM
  apply RaisesOnly.bind (floatEnv_onlyValueError _ _)
  intro timeoutS
  apply RaisesOnly.bind (intEnv_onlyValueError _ _)
  intro maxRetries
  exact .ok _

/-- A constructor that reads its settings and nothing else. -/
theorem map_clientSettings_cases (vendor : String) {build : ClientSettings → LLMClient}
    (hbuild : ∀ settings, Resolved vendors (build settings)) :
    (∃ client, (clientSettings environ vendors vendor).map build = .ok client ∧
        Resolved vendors client) ∨
      (clientSettings environ vendors vendor).map build = .error valueError := by
  rcases hsettings : clientSettings environ vendors vendor with exc | settings
  · exact Or.inr (congrArg Except.error (clientSettings_onlyValueError vendor exc hsettings))
  · exact Or.inl ⟨_, rfl, hbuild settings⟩

/-- **A client is resolved, or the environment is a `ValueError`.** -/
theorem getClient_cases (environ : Environ) (vendors : Vendors) (provider : Provider) :
    (∃ client, getClient environ vendors provider = .ok client ∧ Resolved vendors client) ∨
      getClient environ vendors provider = .error valueError := by
  unfold getClient
  simp only
  generalize (if provider = .default then
    (envValue environ "LLM_DEFAULT_PROVIDER").getD (py "openai") else provider.value) = resolved
  split_ifs
  · exact Or.inr rfl
  · split
    · exact Or.inr rfl
    · exact Or.inl ⟨_, rfl, .fixture _ _⟩
  · exact map_clientSettings_cases "OPENAI" .openai
  · exact map_clientSettings_cases "ANTHROPIC" .anthropic
  · exact Or.inr rfl

theorem resolved_of_getClient {provider : Provider} {client : LLMClient}
    (h : getClient environ vendors provider = .ok client) : Resolved vendors client := by
  rcases getClient_cases environ vendors provider with ⟨client', hclient, hresolved⟩ | herror
  · rw [h, Except.ok.injEq] at hclient
    rwa [hclient]
  · rw [h] at herror
    cases herror

end ExtractApi
