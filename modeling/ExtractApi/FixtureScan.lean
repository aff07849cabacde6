import ExtractApi.FixtureCorpus
import ExtractApi.LoadedJson
import ExtractApi.Utf8Decoding

/-!
# The corpus scan (`scripts/validate_fixtures.py`, `main`)

The validator on files of arbitrary bytes, whose documents may hold anything `json.loads`
builds, and the loop over the corpus.  On the documents of the corpus model it is the validator
there: `validateFile_agrees`.  An exception that `validate_file` does not handle ends the scan;
no other file can: `scan_complete_iff`.
-/

namespace ExtractApi.FixtureScan

open PythonText JsonValue LoadedJson

variable {M : Type}

/-! ## Files -/

/-- A regular file below the fixtures root. -/
structure RawFile where
  dirs : List PyStr
  name : PyStr
  bytes : List Byte

/-- The parts of the file's path. -/
def RawFile.parts (file : RawFile) : List PyStr := file.dirs ++ [file.name]

structure RawTree where
  files : List RawFile
  /-- a path names one file -/
  distinct : (files.map RawFile.parts).Nodup

/-- The tree of one file. -/
def RawTree.single (file : RawFile) : RawTree := ⟨[file], List.nodup_singleton _⟩

/-- The file, read as `parsed`, in the corpus model. -/
def RawFile.asFixture (file : RawFile) (parsed : Except ReadError Json) : FixtureFile :=
  ⟨file.dirs, file.name, parsed⟩

/-- The name matches `*.json`. -/
def RawFile.isJson (file : RawFile) : Bool := (py ".json").isSuffixOf file.name

/-- `path.resolve().parent.name` -/
def RawFile.parentName (file : RawFile) : PyStr := file.dirs.getLastD FIXTURES_ROOT

/-- `sorted(FIXTURES.rglob("*.json"))` -/
def jsonFiles (tree : RawTree) : List RawFile :=
  (tree.files.filter RawFile.isJson).insertionSort fun file other => file.parts ≤ other.parts

/-- An exception: its class and its text. -/
structure Raised where
  cls : PyClass
  text : PyStr
deriving DecidableEq, Repr

/-- What the scan calls besides: `json.loads`, the text of a `UnicodeDecodeError`, and
    `json.dumps` of a loaded value. -/
structure ScanLibs (M : Type) extends HarnessLibs M where
  jsonLoads : PyStr → Except Raised Loaded
  decodeError : List Byte → PyStr
  dumpsLoaded : Loaded → PyStr
  dumpsLoaded_ofJson : ∀ value, dumpsLoaded (ofJson value) = jsonDumps value

/-- The text after a `\r`, whose `\n` is part of the same newline, or elsewhere. -/
def newlinesAfter : Bool → PyStr → PyStr
  | _, [] => []
  | carriage, c :: text =>
      if c.val = 13 then 10 :: newlinesAfter true text
      else if carriage = true ∧ c.val = 10 then newlinesAfter false text
      else c :: newlinesAfter false text

/-- Reading in text mode: `\r\n` and `\r` become `\n`. -/
def universalNewlines (text : PyStr) : PyStr := newlinesAfter false text

/-- `json.loads(path.read_text(encoding="utf-8"))` -/
def loadFile (libs : ScanLibs M) (file : RawFile) : Except Raised Loaded :=
  match decodeUtf8 file.bytes with
  | none => .error ⟨.unicodeDecodeError, libs.decodeError file.bytes⟩
  | some text => libs.jsonLoads (universalNewlines text)

/-! ## The validator -/

/-- A value that is a string and satisfies `p`. -/
def isText (p : PyStr → Bool) : Option Loaded → Bool
  | some (.str text) => p text
  | _ => false

/-- `type(value).__name__` -/
def typeName : Loaded → PyStr
  | .null => py "NoneType"
  | .bool _ => py "bool"
  | .int _ => py "int"
  | .float _ => py "float"
  | .str _ => py "str"
  | .arr _ => py "list"
  | .obj _ => py "dict"

section Validator

variable (libs : ScanLibs M) (file : RawFile)

/-- The error text of the file. -/
def fileError (text : PyStr) : PyStr := file.name ++ py ": " ++ text

/-- The placement of a reviewed fixture. -/
def placementErrors (docType : PyStr) : List PyStr :=
  match fixtureDir docType with
  | none => [fileError file (py "REVIEWED fixture doc_type " ++ pyRepr libs.isPrintable docType ++
      py " has no fixtures directory mapping (registry and FIXTURE_DIRS have drifted)")]
  | some dir =>
      errorUnless (decide (file.parentName = dir))
        (fileError file (py "REVIEWED fixture doc_type " ++ pyRepr libs.isPrintable docType ++
          py " belongs in " ++ dir ++ py "/ but sits in " ++ file.parentName ++ py "/"))

/-- The label, once the metadata are strings. -/
def labelErrors (data expected : Loaded) (docType schemaVersion : PyStr) : List PyStr :=
  match resolve libs.toLibraries docType schemaVersion with
  | .error exc => [fileError file (unknownSchemaText exc)]
  | .ok cls =>
      (match (libs.model cls).validate (libs.dumpsLoaded expected) with
        | .error errors => [fileError file (py "expected label fails " ++ docType ++ py "." ++
            schemaVersion ++ py ": " ++ decimal errors.length ++ py " error(s)")]
        | .ok _ => []) ++
      if isText (fun text => decide (text = py "REVIEWED")) (data.field? "label_status") then
        placementErrors libs file docType
      else []

/-- The metadata, and the label if they allow it. -/
def metadataErrors (data expected : Loaded) : List PyStr :=
  let docTypeErrors := errorUnless (isText isFilled (data.field? "doc_type"))
    (fileError file (py "doc_type must be a non-empty string"))
  let versionErrors := errorUnless (isText isFilled (data.field? "schema_version"))
    (fileError file (py "schema_version must be a non-empty string"))
  docTypeErrors ++ versionErrors ++
    match data.field? "doc_type", data.field? "schema_version" with
    | some (.str docType), some (.str schemaVersion) =>
        if isFilled docType && isFilled schemaVersion then
          labelErrors libs file data expected docType schemaVersion
        else []
    | _, _ => []

/-- The checks of a dictionary. -/
def objectErrors (data : Loaded) : List PyStr :=
  let missing := REQUIRED_KEYS.filter fun key => (data.field? key).isNone
  if missing ≠ [] then
    [fileError file (py "missing keys " ++ reprList libs.toHarnessLibs (missing.map py))]
  else
    errorUnless (isText (fun text => decide (text ∈ VALID_SOURCES)) (data.field? "source"))
        (fileError file (py "source must be one of " ++
          reprList libs.toHarnessLibs VALID_SOURCES)) ++
      errorUnless (isText (fun text => decide (text ∈ VALID_STATUS)) (data.field? "label_status"))
        (fileError file (py "label_status must be one of " ++
          reprList libs.toHarnessLibs VALID_STATUS)) ++
      errorUnless (isText isFilled (data.field? "content"))
        (fileError file (py "content must be a non-empty string")) ++
      match data.field? "expected" with
      | some (.obj expected) => metadataErrors libs file data (.obj expected)
      | _ => [fileError file (py "expected must be a JSON object")]

/-- The errors of a document. -/
def dataErrors (data : Loaded) : List PyStr :=
  if data.isDict then objectErrors libs file data
  else [fileError file (py "fixture must be a JSON object, got " ++ typeName data)]

/-- `validate_file`: the errors of the file, or an exception that it does not handle. -/
def validateFile : Except Raised (List PyStr) :=
  match loadFile libs file with
  | .error raised =>
      if raised.cls.caught [.jsonDecodeError] then
        .ok [fileError file (py "invalid JSON: " ++ raised.text)]
      else .error raised
  | .ok data => .ok (dataErrors libs file data)

end Validator

/-! ### Agreement with the corpus model -/

section Agreement

variable {libs : ScanLibs M} {file : RawFile}

theorem isText_ofJson (p : PyStr → Bool) (value : Option Json) :
    isText p (value.map ofJson) = ExtractApi.isText p value := by
  rcases value with _ | value
  · rfl
  · cases value <;> rfl

theorem labelErrors_ofJson (data expected : Record) (docType version : PyStr)
    (parsed : Except ReadError Json) :
    labelErrors libs file (ofJson (.obj data)) (ofJson (.obj expected)) docType version =
      ExtractApi.labelErrors libs.toHarnessLibs (file.asFixture parsed) data expected docType
        version := by
  unfold labelErrors ExtractApi.labelErrors
  rcases resolve libs.toLibraries docType version with exc | cls
  · rfl
  · simp only [field?_ofJson, isText_ofJson, libs.dumpsLoaded_ofJson, canonical]
    rcases (libs.model cls).validate (libs.jsonDumps (.obj expected)) with errors | m
    · rfl
    · rfl

theorem metadataErrors_ofJson (data expected : Record) (parsed : Except ReadError Json) :
    metadataErrors libs file (ofJson (.obj data)) (ofJson (.obj expected)) =
      ExtractApi.metadataErrors libs.toHarnessLibs (file.asFixture parsed) data expected := by
  have hfield : ∀ key, (ofJson (.obj data)).field? key = (lookupField data key).map ofJson :=
    field?_ofJson (.obj data)
  unfold metadataErrors ExtractApi.metadataErrors
  simp only [hfield, isText_ofJson]
  congr 1
  rcases lookupField data "doc_type" with _ | docType
  · rfl
  · rcases lookupField data "schema_version" with _ | version
    · cases docType <;> rfl
    · cases docType <;> try rfl
      cases version <;> try rfl
      simp only [Option.map_some, ofJson, ← labelErrors_ofJson data expected _ _ parsed]

theorem objectErrors_ofJson (data : Record) (parsed : Except ReadError Json) :
    objectErrors libs file (ofJson (.obj data)) =
      ExtractApi.objectErrors libs.toHarnessLibs (file.asFixture parsed) data := by
  have hfield : ∀ key, (ofJson (.obj data)).field? key = (lookupField data key).map ofJson :=
    field?_ofJson (.obj data)
  unfold objectErrors ExtractApi.objectErrors
  simp only [hfield, isText_ofJson, Option.isNone_map]
  split_ifs with hmissing
  · rfl
  · congr 1
    rcases lookupField data "expected" with _ | expected
    · rfl
    · cases expected <;> try rfl
      exact metadataErrors_ofJson data _ parsed

/-- On a document of exact numbers, the validator is that of the corpus model. -/
theorem validateFile_agrees {value : Json} (h : loadFile libs file = .ok (ofJson value)) :
    ∃ errors, validateFile libs file = .ok errors ∧
      ExtractApi.validateFile libs.toHarnessLibs (file.asFixture (.ok value)) = .ok errors := by
  refine ⟨dataErrors libs file (ofJson value), by unfold validateFile; rw [h], ?_⟩
  unfold dataErrors ExtractApi.validateFile
  cases value
  case obj data => exact congrArg Except.ok (objectErrors_ofJson data _).symm
  all_goals rfl

end Agreement

/-! ## The scan -/

/-- The bucket of a doc type. -/
@[ext]
structure StatusCounts where
  draft : ℕ := 0
  reviewed : ℕ := 0
deriving DecidableEq, Repr

namespace StatusCounts

instance : Zero StatusCounts := ⟨{}⟩

instance : Add StatusCounts where
  add c d := { draft := c.draft + d.draft, reviewed := c.reviewed + d.reviewed }

instance : AddCommMonoid StatusCounts where
  add_assoc b c d := by ext <;> exact Nat.add_assoc _ _ _
  zero_add c := by ext <;> exact Nat.zero_add _
  add_zero c := by ext <;> exact Nat.add_zero _
  add_comm c d := by ext <;> exact Nat.add_comm _ _
  nsmul := nsmulRec

/-- One file of the status; a status that is no key of the bucket raises. -/
def ofStatus (status : PyStr) : Option StatusCounts :=
  if status = py "DRAFT" then some { draft := 1 }
  else if status = py "REVIEWED" then some { reviewed := 1 }
  else none

end StatusCounts

/-- What the scan has gathered. -/
structure ScanState where
  errors : List PyStr
  counts : Tally PyStr StatusCounts

structure ScanReport extends ScanState where
  files : ℕ

/-- The exit code. -/
def ScanReport.exitCode (r : ScanReport) : ℕ := if r.errors = [] then 0 else 1

/-- The lines of the counts, by doc type. -/
def ScanReport.countLines (r : ScanReport) : List PyStr :=
  (r.counts.entries.insertionSort fun entry other => entry.1 ≤ other.1).map fun entry =>
    py "  " ++ entry.1 ++ py ": " ++ decimal entry.2.reviewed ++ py " REVIEWED, " ++
      decimal entry.2.draft ++ py " DRAFT"

def ScanReport.stdout (r : ScanReport) : List PyStr :=
  if r.files = 0 then [py "fixtures-validate: no fixtures found yet (OK at M0)."]
  else
    r.countLines ++
      if r.errors = [] then
        [py "fixtures-validate OK: " ++ decimal r.files ++ py " fixtures valid."]
      else []

def ScanReport.stderr (r : ScanReport) : List PyStr :=
  if r.errors = [] then []
  else
    (py "fixtures-validate FAILED (" ++ decimal r.errors.length ++ py " problem(s)):") ::
      r.errors.map fun error => py "  - " ++ error

theorem ScanReport.mem_stderr {r : ScanReport} {error : PyStr} (h : error ∈ r.errors) :
    py "  - " ++ error ∈ r.stderr := by
  unfold stderr
  rw [if_neg (List.ne_nil_of_mem h)]
  exact List.mem_cons_of_mem _ (List.mem_map_of_mem h)

section Scan

variable (libs : ScanLibs M)

/-- The bucket that an accepted document counts in. -/
def bucketOf (data : Loaded) : Except Raised (PyStr × StatusCounts) :=
  match data.field? "doc_type", data.field? "label_status" with
  | some (.str docType), some (.str status) =>
      match StatusCounts.ofStatus status with
      | some counts => .ok (docType, counts)
      | none => .error ⟨.keyError, status⟩
  | _, _ => .error ⟨.typeError, []⟩

/-- The body of the loop: a file without errors is read again and counted. -/
def scanFile (state : ScanState) (file : RawFile) : Except Raised ScanState := do
  let errors ← validateFile libs file
  if errors ≠ [] then return { state with errors := state.errors ++ errors }
  else
    let data ← loadFile libs file
    let bucket ← bucketOf data
    return { state with counts := state.counts.add bucket }

/-- `main`, up to what it prints. -/
def main (tree : RawTree) : Except Raised ScanReport := do
  let state ← (jsonFiles tree).foldlM (scanFile libs) ⟨[], Tally.empty⟩
  return { state with files := (jsonFiles tree).length }

end Scan

/-! ## Fixtures -/

/-- The document is a fixture of the doc type and the status, for a file at its place. -/
structure FixtureData (libs : ScanLibs M) (file : RawFile) (data : Loaded)
    (docType status : PyStr) : Prop where
  dict : data.isDict = true
  keys : ∀ key ∈ REQUIRED_KEYS, (data.field? key).isSome = true
  source : ∃ source, data.field? "source" = some (.str source) ∧ source ∈ VALID_SOURCES
  labelStatus : data.field? "label_status" = some (.str status) ∧ status ∈ VALID_STATUS
  content : ∃ content, data.field? "content" = some (.str content) ∧ isFilled content = true
  typed : data.field? "doc_type" = some (.str docType) ∧ isFilled docType = true
  label : ∃ version expected cls m, data.field? "schema_version" = some (.str version) ∧
    isFilled version = true ∧ data.field? "expected" = some (.obj expected) ∧
    resolve libs.toLibraries docType version = .ok cls ∧
    (libs.model cls).validate (libs.dumpsLoaded (.obj expected)) = .ok m
  placed : status = py "REVIEWED" → fixtureDir docType = some file.parentName

/-- The file is an accepted fixture of the doc type and the status. -/
def IsFixture (libs : ScanLibs M) (file : RawFile) (docType status : PyStr) : Prop :=
  ∃ data, loadFile libs file = .ok data ∧ FixtureData libs file data docType status

section Accepted

variable {libs : ScanLibs M} {file : RawFile}

theorem isText_eq_true_iff {p : PyStr → Bool} {value : Option Loaded} :
    isText p value = true ↔ ∃ text, value = some (.str text) ∧ p text = true := by
  unfold isText
  constructor
  · intro h
    split at h
    · exact ⟨_, rfl, h⟩
    · cases h
  · rintro ⟨text, rfl, htext⟩
    exact htext

theorem placementErrors_eq_nil_iff {docType : PyStr} :
    placementErrors libs file docType = [] ↔ fixtureDir docType = some file.parentName := by
  unfold placementErrors
  rcases fixtureDir docType with _ | dir
  · simp
  · rw [errorUnless_eq_nil_iff, decide_eq_true_eq, Option.some.injEq, eq_comm]

theorem labelErrors_eq_nil_iff {data expected : Loaded} {docType version : PyStr} :
    labelErrors libs file data expected docType version = [] ↔
      (∃ cls m, resolve libs.toLibraries docType version = .ok cls ∧
        (libs.model cls).validate (libs.dumpsLoaded expected) = .ok m) ∧
      (data.field? "label_status" = some (.str (py "REVIEWED")) →
        fixtureDir docType = some file.parentName) := by
  have hreviewed : isText (fun text => decide (text = py "REVIEWED"))
      (data.field? "label_status") = true ↔
        data.field? "label_status" = some (.str (py "REVIEWED")) := by
    rw [isText_eq_true_iff]
    simp
  unfold labelErrors
  rcases hcls : resolve libs.toLibraries docType version with exc | cls
  · simp
  · simp only [List.append_eq_nil_iff]
    rw [← hreviewed]
    apply and_congr
    · rcases hvalid : (libs.model cls).validate (libs.dumpsLoaded expected) with errors | m
      · simp [hvalid]
      · simp [hvalid]
    · split_ifs with htext
      · rw [placementErrors_eq_nil_iff]
        simp [htext]
      · simp [htext]

theorem metadataErrors_eq_nil_iff {data expected : Loaded} :
    metadataErrors libs file data expected = [] ↔
      ∃ docType version, (data.field? "doc_type" = some (.str docType) ∧
          isFilled docType = true) ∧
        (data.field? "schema_version" = some (.str version) ∧ isFilled version = true) ∧
        labelErrors libs file data expected docType version = [] := by
  unfold metadataErrors
  simp only [List.append_eq_nil_iff, errorUnless_eq_nil_iff, isText_eq_true_iff]
  constructor
  · rintro ⟨⟨⟨docType, hdoc, hfilled⟩, version, hversion, hversioned⟩, hlabel⟩
    simp only [hdoc, hversion, hfilled, hversioned, Bool.and_self, if_true] at hlabel
    exact ⟨docType, version, ⟨hdoc, hfilled⟩, ⟨hversion, hversioned⟩, hlabel⟩
  · rintro ⟨docType, version, ⟨hdoc, hfilled⟩, ⟨hversion, hversioned⟩, hlabel⟩
    refine ⟨⟨⟨docType, hdoc, hfilled⟩, version, hversion, hversioned⟩, ?_⟩
    simp only [hdoc, hversion, hfilled, hversioned, Bool.and_self, if_true]
    exact hlabel

theorem objectErrors_eq_nil_iff {data : Loaded} :
    objectErrors libs file data = [] ↔
      (∀ key ∈ REQUIRED_KEYS, (data.field? key).isSome = true) ∧
      (∃ source, data.field? "source" = some (.str source) ∧ source ∈ VALID_SOURCES) ∧
      (∃ status, data.field? "label_status" = some (.str status) ∧ status ∈ VALID_STATUS) ∧
      (∃ content, data.field? "content" = some (.str content) ∧ isFilled content = true) ∧
      ∃ expected, data.field? "expected" = some (.obj expected) ∧
        metadataErrors libs file data (.obj expected) = [] := by
  have hkeys : (REQUIRED_KEYS.filter fun key => (data.field? key).isNone) = [] ↔
      ∀ key ∈ REQUIRED_KEYS, (data.field? key).isSome = true := by
    rw [List.filter_eq_nil_iff]
    simp [Option.isSome_iff_ne_none]
  unfold objectErrors
  by_cases hmissing : (REQUIRED_KEYS.filter fun key => (data.field? key).isNone) = []
  · simp only [hmissing, ne_eq, not_true, if_false, List.append_eq_nil_iff, errorUnless_eq_nil_iff,
      isText_eq_true_iff, decide_eq_true_eq, and_assoc]
    rw [and_iff_right (hkeys.mp hmissing)]
    apply and_congr_right
    intro _
    apply and_congr_right
    intro _
    apply and_congr_right
    intro _
    split
    next expected hexpected =>
      simp [hexpected]
    next hnot =>
      constructor
      · intro h
        cases h
      · rintro ⟨expected, hexpected, -⟩
        exact absurd hexpected (hnot expected)
  · simp only [hmissing, ne_eq, not_false_iff, if_true]
    constructor
    · intro h
      cases h
    · rintro ⟨hall, -⟩
      exact absurd (hkeys.mpr hall) hmissing

theorem dataErrors_eq_nil_iff {data : Loaded} :
    dataErrors libs file data = [] ↔
      ∃ docType status, FixtureData libs file data docType status := by
  unfold dataErrors
  split_ifs with hdict
  · rw [objectErrors_eq_nil_iff]
    constructor
    · rintro ⟨hkeys, hsource, ⟨status, hstatus⟩, hcontent, expected, hexpected, hmeta⟩
      obtain ⟨docType, version, hdoc, hversion, hlabel⟩ := metadataErrors_eq_nil_iff.mp hmeta
      obtain ⟨⟨cls, m, hcls, hvalid⟩, hplaced⟩ := labelErrors_eq_nil_iff.mp hlabel
      refine ⟨docType, status, hdict, hkeys, hsource, hstatus, hcontent, hdoc,
        ⟨version, expected, cls, m, hversion.1, hversion.2, hexpected, hcls, hvalid⟩, ?_⟩
      rintro rfl
      exact hplaced hstatus.1
    · rintro ⟨docType, status, h⟩
      obtain ⟨version, expected, cls, m, hversion, hversioned, hexpected, hcls, hvalid⟩ := h.label
      refine ⟨h.keys, h.source, ⟨status, h.labelStatus⟩, h.content, expected, hexpected, ?_⟩
      apply metadataErrors_eq_nil_iff.mpr
      refine ⟨docType, version, h.typed, ⟨hversion, hversioned⟩, ?_⟩
      apply labelErrors_eq_nil_iff.mpr
      refine ⟨⟨cls, m, hcls, hvalid⟩, ?_⟩
      intro hreviewed
      have hstatus := h.labelStatus.1.symm.trans hreviewed
      cases hstatus
      exact h.placed rfl
  · constructor
    · intro h
      cases h
    · rintro ⟨docType, status, h⟩
      exact absurd h.dict hdict

theorem FixtureData.bucketOf {data : Loaded} {docType status : PyStr}
    (h : FixtureData libs file data docType status) :
    ∃ counts, StatusCounts.ofStatus status = some counts ∧
      bucketOf data = .ok (docType, counts) := by
  obtain ⟨hstatus, hvalid⟩ := h.labelStatus
  obtain ⟨counts, hcounts⟩ : ∃ counts, StatusCounts.ofStatus status = some counts := by
    simp only [VALID_STATUS, List.mem_cons, List.not_mem_nil, or_false] at hvalid
    rcases hvalid with rfl | rfl
    · exact ⟨_, rfl⟩
    · exact ⟨_, rfl⟩
  refine ⟨counts, hcounts, ?_⟩
  simp only [FixtureScan.bucketOf, h.typed.1, hstatus, hcounts]

theorem FixtureData.unique {data : Loaded} {docType status docType' status' : PyStr}
    (h : FixtureData libs file data docType status)
    (h' : FixtureData libs file data docType' status') : docType = docType' ∧ status = status' := by
  have htype := h.typed.1.symm.trans h'.typed.1
  have hstatus := h.labelStatus.1.symm.trans h'.labelStatus.1
  simp only [Option.some.injEq, Loaded.str.injEq] at htype hstatus
  exact ⟨htype, hstatus⟩

end Accepted

/-! ## What the scan depends on -/

/-- The bytes are UTF-8, and `json.loads` of their text raises at most what the validator
    handles. -/
def Handled (libs : ScanLibs M) (file : RawFile) : Prop :=
  ∃ text, decodeUtf8 file.bytes = some text ∧
    ∀ raised, libs.jsonLoads (universalNewlines text) = .error raised →
      raised.cls.caught [.jsonDecodeError] = true

/-- What the file is reported with. -/
def errorsOf (libs : ScanLibs M) (file : RawFile) : List PyStr :=
  match loadFile libs file with
  | .error raised => [fileError file (py "invalid JSON: " ++ raised.text)]
  | .ok data => dataErrors libs file data

/-- The doc type and the status that the file is counted under. -/
def acceptedAs (libs : ScanLibs M) (file : RawFile) : Option (PyStr × PyStr) :=
  match loadFile libs file with
  | .error _ => none
  | .ok data =>
      match dataErrors libs file data, data.field? "doc_type", data.field? "label_status" with
      | [], some (.str docType), some (.str status) => some (docType, status)
      | _, _, _ => none

/-- The item that the file adds to the counts. -/
def bucketsOf (libs : ScanLibs M) (file : RawFile) : List (PyStr × StatusCounts) :=
  match acceptedAs libs file with
  | some (docType, status) =>
      (StatusCounts.ofStatus status).toList.map fun counts => (docType, counts)
  | none => []

section Files

variable {libs : ScanLibs M} {file : RawFile}

theorem handled_iff : Handled libs file ↔
    ∀ raised, loadFile libs file = .error raised → raised.cls.caught [.jsonDecodeError] = true := by
  unfold Handled loadFile
  rcases decodeUtf8 file.bytes with _ | text
  · constructor
    · rintro ⟨text, htext, -⟩
      cases htext
    · intro h
      have hcaught : PyClass.unicodeDecodeError.caught [.jsonDecodeError] = true := h _ rfl
      exact absurd hcaught (by decide)
  · simp

theorem acceptedAs_eq_some_iff {docType status : PyStr} :
    acceptedAs libs file = some (docType, status) ↔ IsFixture libs file docType status := by
  unfold acceptedAs IsFixture
  rcases loadFile libs file with raised | data
  · simp
  · simp only [Except.ok.injEq, exists_eq_left']
    rcases herrors : dataErrors libs file data with _ | ⟨error, errors⟩
    · obtain ⟨docType', status', hfixture⟩ := dataErrors_eq_nil_iff.mp herrors
      simp only [hfixture.typed.1, hfixture.labelStatus.1, Option.some.injEq, Prod.mk.injEq]
      constructor
      · rintro ⟨rfl, rfl⟩
        exact hfixture
      · intro h
        exact hfixture.unique h
    · constructor
      · intro h
        cases h
      · intro h
        have hnil := dataErrors_eq_nil_iff.mpr ⟨docType, status, h⟩
        rw [herrors] at hnil
        cases hnil

instance (docType status : PyStr) : Decidable (IsFixture libs file docType status) :=
  decidable_of_iff _ acceptedAs_eq_some_iff

theorem errorsOf_eq_nil_iff :
    errorsOf libs file = [] ↔ ∃ docType status, IsFixture libs file docType status := by
  unfold errorsOf IsFixture
  rcases loadFile libs file with raised | data
  · simp
  · simp [dataErrors_eq_nil_iff]

theorem validateFile_of_handled (h : Handled libs file) :
    validateFile libs file = .ok (errorsOf libs file) := by
  rw [handled_iff] at h
  unfold validateFile errorsOf
  rcases hload : loadFile libs file with raised | data
  · exact if_pos (h raised hload)
  · rfl

theorem handled_of_validateFile {errors : List PyStr} (h : validateFile libs file = .ok errors) :
    Handled libs file := by
  rw [handled_iff]
  intro raised hload
  unfold validateFile at h
  rw [hload] at h
  by_contra hnot
  simp only [if_neg hnot] at h
  cases h

theorem scanFile_of_handled (h : Handled libs file) (state : ScanState) :
    scanFile libs state file = .ok
      { errors := state.errors ++ errorsOf libs file
        counts := (bucketsOf libs file).foldl Tally.add state.counts } := by
  have hvalidate := validateFile_of_handled h
  unfold scanFile
  rw [hvalidate]
  by_cases hnil : errorsOf libs file = []
  · obtain ⟨docType, status, hfixture⟩ := errorsOf_eq_nil_iff.mp hnil
    have haccepted := acceptedAs_eq_some_iff.mpr hfixture
    obtain ⟨data, hload, hdata⟩ := hfixture
    obtain ⟨counts, hcounts, hbucket⟩ := hdata.bucketOf
    have hbuckets : bucketsOf libs file = [(docType, counts)] := by
      simp [bucketsOf, haccepted, hcounts]
    show (if errorsOf libs file ≠ [] then _ else _ : Except Raised ScanState) = _
    rw [if_neg (not_not.mpr hnil), hload, hnil, hbuckets, List.append_nil]
    show (bucketOf data >>= fun bucket => _ : Except Raised ScanState) = _
    rw [hbucket]
    rfl
  · have hbuckets : bucketsOf libs file = [] := by
      rcases haccepted : acceptedAs libs file with _ | ⟨docType, status⟩
      · simp [bucketsOf, haccepted]
      · exact absurd (errorsOf_eq_nil_iff.mpr ⟨_, _, acceptedAs_eq_some_iff.mp haccepted⟩) hnil
    show (if errorsOf libs file ≠ [] then _ else _ : Except Raised ScanState) = _
    rw [if_pos hnil, hbuckets]
    rfl

theorem handled_of_scanFile {state state' : ScanState}
    (h : scanFile libs state file = .ok state') : Handled libs file := by
  unfold scanFile at h
  rcases hvalidate : validateFile libs file with raised | errors
  · rw [hvalidate] at h
    cases h
  · exact handled_of_validateFile hvalidate

end Files

/-! ## Runs -/

section Runs

variable {libs : ScanLibs M}

theorem scanFiles_of_handled {files : List RawFile} (h : ∀ file ∈ files, Handled libs file)
    (state : ScanState) :
    files.foldlM (scanFile libs) state = .ok
      { errors := state.errors ++ files.flatMap (errorsOf libs)
        counts := (files.flatMap (bucketsOf libs)).foldl Tally.add state.counts } := by
  induction files generalizing state with
  | nil => simp [pure, Except.pure]
  | cons file files ih =>
    have hfirst := h file List.mem_cons_self
    have hrest := fun other hother => h other (List.mem_cons_of_mem file hother)
    rw [List.foldlM_cons, scanFile_of_handled hfirst state]
    show files.foldlM (scanFile libs) _ = _
    rw [ih hrest]
    simp [List.append_assoc, List.foldl_append]

theorem handled_of_scanFiles {files : List RawFile} {state state' : ScanState}
    (h : files.foldlM (scanFile libs) state = .ok state') :
    ∀ file ∈ files, Handled libs file := by
  induction files generalizing state with
  | nil =>
    intro file hfile
    cases hfile
  | cons first files ih =>
    rw [List.foldlM_cons] at h
    rcases hfirst : scanFile libs state first with raised | next
    · rw [hfirst] at h
      cases h
    · rw [hfirst] at h
      intro file hfile
      rcases List.mem_cons.mp hfile with rfl | hfile
      · exact handled_of_scanFile hfirst
      · exact ih h file hfile

/-- The report of the files. -/
def reportOf (libs : ScanLibs M) (files : List RawFile) : ScanReport where
  errors := files.flatMap (errorsOf libs)
  counts := Tally.collect (files.flatMap (bucketsOf libs))
  files := files.length

theorem main_of_handled {tree : RawTree} (h : ∀ file ∈ jsonFiles tree, Handled libs file) :
    main libs tree = .ok (reportOf libs (jsonFiles tree)) := by
  unfold main
  rw [scanFiles_of_handled h]
  rfl

theorem handled_of_main {tree : RawTree} {r : ScanReport} (h : main libs tree = .ok r) :
    ∀ file ∈ jsonFiles tree, Handled libs file := by
  unfold main at h
  rcases hscan : (jsonFiles tree).foldlM (scanFile libs) ⟨[], Tally.empty⟩ with raised | state
  · rw [hscan] at h
    cases h
  · exact handled_of_scanFiles hscan

theorem jsonFiles_single {file : RawFile} (h : file.isJson = true) :
    jsonFiles (.single file) = [file] := by
  simp [jsonFiles, RawTree.single, h]

theorem isJson_of_mem {tree : RawTree} {file : RawFile} (h : file ∈ jsonFiles tree) :
    file.isJson = true := by
  rw [jsonFiles, List.mem_insertionSort] at h
  exact (List.mem_filter.mp h).2

/-! ## Counts -/

theorem ofStatus_eq {status : PyStr} (h : status ∈ VALID_STATUS) :
    StatusCounts.ofStatus status = some
      { draft := if status = py "DRAFT" then 1 else 0
        reviewed := if status = py "REVIEWED" then 1 else 0 } := by
  simp only [VALID_STATUS, List.mem_cons, List.not_mem_nil, or_false] at h
  rcases h with rfl | rfl
  · rfl
  · rfl

/-- What a file adds to a doc type. -/
theorem sum_bucketsOf (file : RawFile) (docType : PyStr) :
    (((bucketsOf libs file).filter fun item => decide (item.1 = docType)).map Prod.snd).sum =
      { draft := if IsFixture libs file docType (py "DRAFT") then 1 else 0
        reviewed := if IsFixture libs file docType (py "REVIEWED") then 1 else 0 } := by
  simp only [← acceptedAs_eq_some_iff]
  rcases haccepted : acceptedAs libs file with _ | ⟨docType', status⟩
  · simp only [bucketsOf, haccepted, reduceCtorEq, if_false]
    rfl
  · obtain ⟨data, -, hdata⟩ := acceptedAs_eq_some_iff.mp haccepted
    have hcounts := ofStatus_eq hdata.labelStatus.2
    simp only [bucketsOf, haccepted, hcounts, Option.toList_some, List.map_cons, List.map_nil,
      Option.some.injEq, Prod.mk.injEq]
    by_cases hsame : docType' = docType
    · simp [hsame]
    · simp only [hsame, decide_false, Bool.false_eq_true, not_false_eq_true,
        List.filter_cons_of_neg, List.filter_nil, List.map_nil, List.sum_nil, false_and, if_false]
      rfl

theorem valueAt_reportOf (files : List RawFile) (docType : PyStr) :
    (reportOf libs files).counts.valueAt docType =
      { draft := files.countP fun file => decide (IsFixture libs file docType (py "DRAFT"))
        reviewed := files.countP fun file =>
          decide (IsFixture libs file docType (py "REVIEWED")) } := by
  rw [reportOf, Tally.valueAt_collect]
  induction files with
  | nil => rfl
  | cons file files ih =>
    rw [List.flatMap_cons, List.filter_append, List.map_append, List.sum_append, sum_bucketsOf, ih]
    ext
    · simp only [List.countP_cons, decide_eq_true_eq]
      exact Nat.add_comm _ _
    · simp only [List.countP_cons, decide_eq_true_eq]
      exact Nat.add_comm _ _

/-! ## Complete scans -/

/-- The scan is complete: each file is reported as it is alone, a file without errors is an
    accepted fixture and is counted, and the exit code tells whether there are errors. -/
structure Complete (libs : ScanLibs M) (tree : RawTree) (r : ScanReport)
    (alone : RawFile → ScanReport) : Prop where
  single : ∀ file ∈ jsonFiles tree, main libs (.single file) = .ok (alone file)
  errors : r.errors = (jsonFiles tree).flatMap fun file => (alone file).errors
  accepted : ∀ file ∈ jsonFiles tree,
    (alone file).errors = [] ↔ ∃ docType status, IsFixture libs file docType status
  counted : ∀ docType, r.counts.valueAt docType =
    { draft := (jsonFiles tree).countP fun file =>
        decide (IsFixture libs file docType (py "DRAFT"))
      reviewed := (jsonFiles tree).countP fun file =>
        decide (IsFixture libs file docType (py "REVIEWED")) }
  exitCode : r.exitCode = 1 ↔ ∃ file ∈ jsonFiles tree, (alone file).errors ≠ []

/-- **The scan is complete exactly when the validator handles what reading each file raises**:
    every file is UTF-8, and `json.loads` of its text raises a `JSONDecodeError` at most. -/
theorem scan_complete_iff (libs : ScanLibs M) (tree : RawTree) :
    (∃ r alone, main libs tree = .ok r ∧ Complete libs tree r alone) ↔
      ∀ file ∈ jsonFiles tree, Handled libs file := by
  constructor
  · rintro ⟨r, alone, hmain, -⟩
    exact handled_of_main hmain
  · intro h
    have hsingle : ∀ file, (reportOf libs [file]).errors = errorsOf libs file := by
      intro file
      simp [reportOf]
    refine ⟨_, fun file => reportOf libs [file], main_of_handled h, ?_⟩
    constructor
    case single =>
      intro file hfile
      have hfiles := jsonFiles_single (isJson_of_mem hfile)
      rw [main_of_handled, hfiles]
      intro other hother
      rw [hfiles, List.mem_singleton] at hother
      exact hother ▸ h file hfile
    case errors =>
      simp only [hsingle]
      rfl
    case accepted =>
      intro file _
      rw [hsingle, errorsOf_eq_nil_iff]
    case counted => exact valueAt_reportOf (jsonFiles tree)
    case exitCode =>
      simp only [hsingle, ScanReport.exitCode]
      have hnil : (reportOf libs (jsonFiles tree)).errors = [] ↔
          ∀ file ∈ jsonFiles tree, errorsOf libs file = [] := List.flatMap_eq_nil_iff
      split_ifs with herrors
      · simpa using hnil.mp herrors
      · simpa using mt hnil.mpr herrors

end Runs

/-- `json.loads` that refuses every text. -/
def sampleScanLibs : ScanLibs Unit where
  toHarnessLibs := sampleHarnessLibs
  jsonLoads _ := .error ⟨.jsonDecodeError, py "Expecting value: line 1 column 1 (char 0)"⟩
  decodeError _ := py "'utf-8' codec can't decode byte 0xff in position 0: invalid start byte"
  dumpsLoaded
    | .obj [] => py "\x7b\x7d"
    | _ => invoiceDumps
  dumpsLoaded_ofJson
    | .obj [] => rfl
    | .obj (_ :: _) => rfl
    | .null => rfl
    | .bool _ => rfl
    | .int _ => rfl
    | .float _ => rfl
    | .str _ => rfl
    | .arr _ => rfl

/-- A file of the byte `0xff`, and one whose text is no JSON. -/
def sampleRawTree : RawTree where
  files := [⟨[py "invoices"], py "a.json", [255]⟩, ⟨[py "invoices"], py "b.json", [120]⟩]
  distinct := by decide

/-- The byte that is no UTF-8 ends the scan, and the other file is not reported. -/
theorem undecodable_file_ends_scan :
    main sampleScanLibs sampleRawTree =
        .error ⟨.unicodeDecodeError,
          py "'utf-8' codec can't decode byte 0xff in position 0: invalid start byte"⟩ ∧
      ¬ ∃ r alone, main sampleScanLibs sampleRawTree = .ok r ∧
        Complete sampleScanLibs sampleRawTree r alone := by
  have hmain : main sampleScanLibs sampleRawTree = .error ⟨.unicodeDecodeError,
      py "'utf-8' codec can't decode byte 0xff in position 0: invalid start byte"⟩ := by
    rfl
  refine ⟨hmain, ?_⟩
  rintro ⟨r, alone, hr, -⟩
  rw [hmain] at hr
  cases hr

end ExtractApi.FixtureScan
