import ExtractApi.AccuracyScoring

/-!
# Preflight (`_preflight_fixtures`)

Every fixture of the selected corpus is resolved and validated before the first predictor
call.  The fixtures are arbitrary JSON objects; a check that fails raises a `ValueError` that
names the fixture and the field.

`json.dumps` of a JSON value raises nothing, so a label fails only with a `ValidationError`.
-/

namespace ExtractApi

open PythonText JsonValue RaisingProgram

variable {M : Type}

/-- `fx.get(key)` -/
def lookupField (fx : Record) (key : String) : Option Json := (Json.obj fx).get? (py key)

/-- `bool(text.strip())` -/
def isFilled (text : PyStr) : Bool := !(strip text).isEmpty

/-- `fixture_ref` -/
def fixtureRef (index : ℕ) (fx : Record) : PyStr :=
  match lookupField fx "fixture_id" with
  | some (.str fixtureId) =>
      if fixtureId = [] then py "fixture #" ++ decimal index else fixtureId
  | _ => py "fixture #" ++ decimal index

/-! ## Checks -/

/-- A field that must be there, and a string that passes `accepts`. -/
def textField (fx : Record) (key : String) (accepts : PyStr → Bool) (missing malformed : PyStr) :
    Except PyStr PyStr :=
  match lookupField fx key with
  | none => .error missing
  | some (.str text) => if accepts text then .ok text else .error malformed
  | some _ => .error malformed

/-- A field that must be there, and an object. -/
def objectField (fx : Record) (key : String) (missing malformed : PyStr) : Except PyStr Record :=
  match lookupField fx key with
  | none => .error missing
  | some (.obj fields) => .ok fields
  | some _ => .error malformed

def check (holds : Bool) (error : PyStr) : Except PyStr Unit :=
  if holds then .ok () else .error error

theorem textField_eq_ok_iff {fx : Record} {key : String} {accepts : PyStr → Bool}
    {missing malformed text : PyStr} :
    textField fx key accepts missing malformed = .ok text ↔
      lookupField fx key = some (.str text) ∧ accepts text = true := by
  unfold textField
  rcases lookupField fx key with _ | value
  · simp
  · rcases value with _ | _ | _ | _ | s | _ | _
    case some.str =>
      by_cases haccepts : accepts s = true
      · simp only [haccepts, if_true, Except.ok.injEq, Option.some.injEq, Json.str.injEq]
        constructor
        · rintro rfl
          exact ⟨rfl, haccepts⟩
        · intro h
          exact h.1
      · simp only [haccepts, Bool.false_eq_true, if_false, reduceCtorEq, Option.some.injEq,
          Json.str.injEq, false_iff]
        rintro ⟨rfl, htext⟩
        exact haccepts htext
    all_goals simp

theorem objectField_eq_ok_iff {fx fields : Record} {key : String} {missing malformed : PyStr} :
    objectField fx key missing malformed = .ok fields ↔
      lookupField fx key = some (.obj fields) := by
  unfold objectField
  rcases lookupField fx key with _ | value
  · simp
  · rcases value with _ | _ | _ | _ | _ | _ | _ <;> simp

theorem check_eq_ok_iff {holds : Bool} {error : PyStr} {u : Unit} :
    check holds error = .ok u ↔ holds = true := by
  unfold check
  split_ifs with h
  · simp [h]
  · simp [h]

/-! ## One fixture -/

/-- A fixture with its model class and its label. -/
structure Prepared where
  fx : Record
  cls : ModelClass
  expected : Record

/-- `str(exc)` of the `UnknownSchema` that `resolve` raises; it raises no other. -/
def unknownSchemaText : PyExc → PyStr
  | .unknownSchema message => message
  | _ => []

section Preflight

variable (libs : HarnessLibs M) (docType : PyStr)

/-- The body of the loop. -/
def preflightFixture (index : ℕ) (fx : Record) : Except PyStr Prepared := do
  let ref := fixtureRef index fx
  let fixtureDocType ← textField fx "doc_type" isFilled (ref ++ py ": missing doc_type")
    (ref ++ py ": doc_type must be a non-empty string")
  check (decide (fixtureDocType = docType))
    (ref ++ py ": doc_type " ++ pyRepr libs.isPrintable fixtureDocType ++
      py " does not match selected doc_type " ++ pyRepr libs.isPrintable docType)
  let schemaVersion ← textField fx "schema_version" (fun text => !text.isEmpty)
    (ref ++ py ": missing schema_version")
    (ref ++ py ": schema_version must be a non-empty string")
  let cls ← (resolve libs.toLibraries docType schemaVersion).mapError fun exc =>
    ref ++ py ": invalid schema_version " ++ pyRepr libs.isPrintable schemaVersion ++ py ": " ++
      unknownSchemaText exc
  let _content ← textField fx "content" isFilled (ref ++ py ": missing content")
    (ref ++ py ": content must be a non-empty string")
  let expected ← objectField fx "expected" (ref ++ py ": missing expected label")
    (ref ++ py ": expected must be a JSON object")
  let _label ← (canonical libs cls expected).mapError fun errors =>
    ref ++ py ": expected label fails " ++ docType ++ py "." ++ schemaVersion ++ py ": " ++
      decimal errors.length ++ py " validation error(s)"
  return { fx := fx, cls := cls, expected := expected }

/-- What a fixture that passes is like. -/
structure Passes (fx : Record) (p : Prepared) : Prop where
  keeps : p.fx = fx
  typed : lookupField fx "doc_type" = some (.str docType)
  filled : isFilled docType = true
  versioned : ∃ version, lookupField fx "schema_version" = some (.str version) ∧
    version ≠ [] ∧ resolve libs.toLibraries docType version = .ok p.cls
  hasContent : ∃ content, lookupField fx "content" = some (.str content) ∧ isFilled content = true
  labelled : lookupField fx "expected" = some (.obj p.expected)
  /-- the label has a canonical form -/
  valid : ∃ fields, canonical libs p.cls p.expected = .ok fields

variable {libs docType}

/-- **The checks accept a fixture exactly when it is well formed**, wherever it stands. -/
theorem preflightFixture_eq_ok_iff {index : ℕ} {fx : Record} {p : Prepared} :
    preflightFixture libs docType index fx = .ok p ↔ Passes libs docType fx p := by
  simp only [preflightFixture, bind_eq_ok_iff, textField_eq_ok_iff, check_eq_ok_iff,
    objectField_eq_ok_iff, mapError_eq_ok_iff, decide_eq_true_eq]
  constructor
  · rintro ⟨_, ⟨hdoc, hfilled⟩, _, rfl, version, ⟨hversion, hnonempty⟩, cls, hcls, content,
      hcontent, expected, hexpected, fields, hlabel, hp⟩
    cases hp
    exact ⟨rfl, hdoc, hfilled, ⟨version, hversion, by simpa using hnonempty, hcls⟩,
      ⟨content, hcontent⟩, hexpected, ⟨fields, hlabel⟩⟩
  · rintro ⟨rfl, hdoc, hfilled, ⟨version, hversion, hnonempty, hcls⟩, ⟨content, hcontent⟩,
      hexpected, fields, hlabel⟩
    exact ⟨docType, ⟨hdoc, hfilled⟩, (), rfl, version, ⟨hversion, by simpa using hnonempty⟩,
      p.cls, hcls, content, hcontent, p.expected, hexpected, fields, hlabel, rfl⟩

/-! ## The corpus -/

variable (libs docType)

/-- The loop, from the fixture with the given index. -/
def preflightFrom (index : ℕ) : List Record → Except PyStr (List Prepared)
  | [] => .ok []
  | fx :: fixtures => do
      let p ← preflightFixture libs docType index fx
      let rest ← preflightFrom (index + 1) fixtures
      return p :: rest

/-- `_preflight_fixtures` -/
def preflightFixtures (fixtures : List Record) : Except PyStr (List Prepared) :=
  preflightFrom libs docType 1 fixtures

variable {libs docType}

theorem preflightFrom_eq_ok_iff {index : ℕ} {fixtures : List Record} {prepared : List Prepared} :
    preflightFrom libs docType index fixtures = .ok prepared ↔
      List.Forall₂ (Passes libs docType) fixtures prepared := by
  induction fixtures generalizing index prepared with
  | nil =>
    simp only [preflightFrom, Except.ok.injEq, List.forall₂_nil_left_iff]
    exact eq_comm
  | cons fx fixtures ih =>
    simp only [preflightFrom, bind_eq_ok_iff, preflightFixture_eq_ok_iff, ih,
      List.forall₂_cons_left_iff]
    constructor
    · rintro ⟨p, hp, rest, hrest, h⟩
      cases h
      exact ⟨p, rest, hp, hrest, rfl⟩
    · rintro ⟨p, rest, hp, hrest, rfl⟩
      exact ⟨p, hp, rest, hrest, rfl⟩

theorem preflightFixtures_eq_ok_iff {fixtures : List Record} {prepared : List Prepared} :
    preflightFixtures libs docType fixtures = .ok prepared ↔
      List.Forall₂ (Passes libs docType) fixtures prepared :=
  preflightFrom_eq_ok_iff

theorem map_fx_of_passes {fixtures : List Record} {prepared : List Prepared}
    (h : List.Forall₂ (Passes libs docType) fixtures prepared) :
    prepared.map Prepared.fx = fixtures := by
  induction h with
  | nil => rfl
  | cons hp _ ih => rw [List.map_cons, hp.keeps, ih]

theorem valid_of_passes {fixtures : List Record} {prepared : List Prepared}
    (h : List.Forall₂ (Passes libs docType) fixtures prepared) :
    ∀ p ∈ prepared, ∃ fields, canonical libs p.cls p.expected = .ok fields := by
  induction h with
  | nil =>
    intro p hp
    cases hp
  | cons hp _ ih =>
    intro q hq
    rcases List.mem_cons.mp hq with rfl | hq
    · exact hp.valid
    · exact ih q hq

end Preflight

end ExtractApi
