import ExtractApi.ServiceState

/-!
# Facts and the access line (`api/observability.py`)

`note*` fill the facts of the current request; `accessRecord` is the record that
`RequestContextMiddleware._log` emits from them.  What later modules need of the
record is one lookup lemma, `lookup_accessRecord_of_allowed`: an allowlisted field
other than the five the line always sets is the noted fact, or null on an extract
line that never noted it.
-/

namespace ExtractApi

open PythonText JsonValue

variable {S : Type}

def ALLOWED_FIELDS : List String :=
  ["request_id", "method", "route", "status", "duration_ms", "doc_type", "schema_version",
    "provider_requested", "provider", "model", "attempts", "retry_class", "result", "cost_usd",
    "replayed", "idempotency_keyed", "content_kind", "content_bytes", "attempt", "retry_kinds"]

/-- Fields every `/v1/extract` access line carries, null when unknown on that path. -/
def EXTRACT_FIELDS : List String :=
  ["doc_type", "schema_version", "provider_requested", "provider", "model", "attempts",
    "retry_class", "cost_usd", "replayed", "idempotency_keyed", "content_kind", "content_bytes"]

def EXTRACT_PATH : PyStr := py "/v1/extract"

/-! ## Notes -/

/-- Record facts for this request's summary line; a no-op outside a request. -/
def note (entries : List (String × Json)) : Service S Unit :=
  modify fun w => { w with facts := w.facts.map fun bag => bag.update entries }

/-- Shape facts only: sizes and kinds, never content or the key. -/
def noteRequest (request : ExtractRequest) (keyed : Bool) : Service S Unit :=
  note [("doc_type", .str request.docType.value),
    ("schema_version", .str request.schemaVersion),
    ("provider_requested", .str request.provider.value),
    ("content_kind",
      .str (if request.contentFormat = .pdfBase64 then py "pdf" else py "text")),
    -- surrogatepass: a lone surrogate is sized, not raised on
    ("content_bytes", .int (utf8SurrogatePass request.content).length),
    ("idempotency_keyed", .bool keyed),
    ("replayed", .bool false)]

/-- The provider client was resolved and the pipeline is about to run. -/
def noteClient (client : LLMClient) : Service S Unit :=
  note [("provider", .str client.provider),
    ("model", match client.model with
      | some model => .str model
      | none => .null),
    ("retry_class", .str (py "none"))]

def noteRetry (kinds : List PyStr) : Service S Unit :=
  note [("retry_class", .str (List.intercalate (py ",") kinds))]

/-- Final facts of a 200.  A replay made no provider call, so it spent nothing. -/
def noteMeta (m : ExtractMeta) : Service S Unit :=
  note [("provider", .str m.provider),
    ("model", .str m.model),
    ("replayed", .bool m.replayed),
    ("attempts", .int (if m.replayed then 0 else m.attempts)),
    ("cost_usd", .float (if m.replayed then 0 else m.costUsd))]

/-! ## The access line -/

/-- `{k: v for k, v in facts.items() if k in names}` -/
def Facts.restrict (names : List String) (facts : Facts) : List (String × Json) :=
  names.filterMap fun name => (AList.lookup name facts).map fun value => (name, value)

theorem Facts.lookup_update_restrict (facts : Facts) (key : String) :
    ∀ (names : List String) (base : Facts),
      AList.lookup key (Facts.update base (Facts.restrict names facts)) =
        if key ∈ names then (AList.lookup key facts).or (AList.lookup key base)
        else AList.lookup key base := by
  intro names
  induction names with
  | nil => intro base; rfl
  | cons name names ih =>
    intro base
    cases hname : AList.lookup name facts with
    | none =>
      have hskip : Facts.restrict (name :: names) facts = Facts.restrict names facts := by
        simp [Facts.restrict, hname]
      rw [hskip, ih]
      by_cases hkey : key = name
      · subst hkey
        simp [hname]
      · simp [hkey]
    | some value =>
      have htake : Facts.restrict (name :: names) facts =
          (name, value) :: Facts.restrict names facts := by
        simp [Facts.restrict, hname]
      rw [htake]
      show AList.lookup key (Facts.update (base.insert name value) _) = _
      rw [ih]
      by_cases hkey : key = name
      · subst hkey
        simp [hname]
      · simp [hkey, AList.lookup_insert_ne hkey]

/-- The path the line reports: the router's template, else the noted route, else
    `"unmatched"`.  The noted route is popped only when it is consulted. -/
def linePath (route : Option PyStr) (facts : Facts) : Json × Facts :=
  match route with
  | some path => (.str path, facts)
  | none =>
      match AList.lookup "route" facts with
      | some value =>
          (if value.truthy then value else .str (py "unmatched"), facts.erase "route")
      | none => (.str (py "unmatched"), facts)

/-- The result the line reports, given the popped `result` fact. -/
def lineResult (status : Option ℕ) (noted : Option Json) : Json :=
  let fallback : Json :=
    match status with
    | none => .str (py "client_disconnect")
    | some code =>
        if code < 400 then .str (py "ok") else .str (py "http_" ++ decimal code)
  match noted with
  | some value => if value.truthy then value else fallback
  | none => fallback

/-- Is the reported path the extract route? -/
def isExtractLine : Json → Bool
  | .str path => decide (path = EXTRACT_PATH)
  | _ => false

/-- `dict.fromkeys(EXTRACT_FIELDS)` on an extract line, `{}` on any other. -/
def lineDefaults (path : Json) : List (String × Json) :=
  if isExtractLine path then EXTRACT_FIELDS.map fun name => (name, .null) else []

/-- `RequestContextMiddleware._log` -/
def accessRecord (method : PyStr) (route : Option PyStr) (status : Option ℕ)
    (durationMs : ℚ) (facts : Facts) : LogRecord :=
  let (path, facts) := linePath route facts
  let result := lineResult status (AList.lookup "result" facts)
  let facts := facts.erase "result"
  let fields := Facts.update (Facts.update ∅ (lineDefaults path))
    (Facts.restrict ALLOWED_FIELDS facts)
  let line := Facts.update ∅
    [("method", .str method), ("route", path),
      ("status", match status with
        | some code => .int code
        | none => .null),
      ("duration_ms", .float durationMs), ("result", result)]
  { logger := "extract.access"
    level := if 500 ≤ status.getD 0 then .error else .info
    msg := "request"
    -- `**fields` comes last, so it wins over the five above
    extra := fields ∪ line }

/-! ### Looking a field up on the line -/

theorem linePath_lookup {key : String} (hkey : key ≠ "route") (route : Option PyStr)
    (facts : Facts) : AList.lookup key (linePath route facts).2 = AList.lookup key facts := by
  unfold linePath
  split
  · rfl
  · split
    · exact AList.lookup_erase_ne hkey
    · rfl

theorem lookup_lineDefaults (key : String) (path : Json) :
    AList.lookup key (Facts.update ∅ (lineDefaults path)) =
      if isExtractLine path ∧ key ∈ EXTRACT_FIELDS then some .null else none := by
  have hmap : ∀ (names : List String) (base : Facts),
      AList.lookup key (Facts.update base (names.map fun name => (name, Json.null))) =
        if key ∈ names then some .null else AList.lookup key base := by
    intro names
    induction names with
    | nil => intro base; rfl
    | cons name names ih =>
      intro base
      show AList.lookup key (Facts.update (base.insert name .null) _) = _
      rw [ih]
      by_cases hkey : key = name
      · subst hkey
        simp
      · simp [hkey, AList.lookup_insert_ne hkey]
  unfold lineDefaults
  by_cases hpath : isExtractLine path
  · rw [if_pos hpath, hmap]
    simp [hpath]
  · rw [if_neg hpath]
    simp [hpath, Facts.update]

/-- An allowlisted field other than the five fixed ones is the noted fact, null on
    an extract line that never noted it, and absent on any other line. -/
theorem lookup_accessRecord_of_allowed {key : String} (hallowed : key ∈ ALLOWED_FIELDS)
    (hfixed : key ∉ ["method", "route", "status", "duration_ms", "result"])
    (method : PyStr) (route : Option PyStr) (status : Option ℕ) (durationMs : ℚ)
    (facts : Facts) :
    AList.lookup key (accessRecord method route status durationMs facts).extra =
      (AList.lookup key facts).or
        (if isExtractLine (linePath route facts).1 ∧ key ∈ EXTRACT_FIELDS
          then some .null else none) := by
  simp only [List.mem_cons, List.not_mem_nil, or_false, not_or] at hfixed
  obtain ⟨hmethod, hroute, hstatus, hduration, hresult⟩ := hfixed
  have hnoted : AList.lookup key ((linePath route facts).2.erase "result") =
      AList.lookup key facts := by
    rw [AList.lookup_erase_ne hresult, linePath_lookup hroute]
  have hfields := Facts.lookup_update_restrict ((linePath route facts).2.erase "result") key
    ALLOWED_FIELDS (Facts.update ∅ (lineDefaults (linePath route facts).1))
  rw [if_pos hallowed, hnoted, lookup_lineDefaults] at hfields
  show AList.lookup key
    (Facts.update (Facts.update ∅ (lineDefaults (linePath route facts).1))
      (Facts.restrict ALLOWED_FIELDS ((linePath route facts).2.erase "result")) ∪ _) = _
  generalize Facts.update (Facts.update ∅ (lineDefaults (linePath route facts).1))
      (Facts.restrict ALLOWED_FIELDS ((linePath route facts).2.erase "result")) = fields
    at hfields ⊢
  by_cases hmem : key ∈ fields
  · rw [AList.lookup_union_left hmem, hfields]
  · rw [AList.lookup_union_right hmem, Facts.lookup_update_of_not_mem]
    · rw [← hfields, AList.lookup_eq_none.mpr hmem, AList.lookup_empty]
    · intro entry hentry
      simp only [List.mem_cons, List.not_mem_nil, or_false] at hentry
      rcases hentry with rfl | rfl | rfl | rfl | rfl
      · exact Ne.symm hmethod
      · exact Ne.symm hroute
      · exact Ne.symm hstatus
      · exact Ne.symm hduration
      · exact Ne.symm hresult

end ExtractApi
