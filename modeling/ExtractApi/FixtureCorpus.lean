import ExtractApi.AccuracyRun

/-!
# The fixture corpus (`scripts/validate_fixtures.py`, `load_reviewed_fixtures`)

The validator scans the fixtures tree recursively and checks that a reviewed fixture sits in
a directory of the right name; the harness globs one directory.  A file is its path below the
root and what reading and parsing it comes to; a directory whose name ends in `.json` is read
like a file, and fails.
-/

namespace ExtractApi

open PythonText JsonValue RaisingProgram

variable {M : Type}

/-! ## The tree -/

/-- What reading and parsing a file raises. -/
inductive ReadError where
  | jsonDecodeError (message : PyStr)
  /-- any other exception, by class name -/
  | other (className : PyStr)

structure FixtureFile where
  /-- the directories below the root -/
  dirs : List PyStr
  name : PyStr
  parsed : Except ReadError Json

def FixtureFile.path (file : FixtureFile) : List PyStr × PyStr := (file.dirs, file.name)

structure FixtureTree where
  files : List FixtureFile
  /-- a path names one file -/
  distinct : (files.map FixtureFile.path).Nodup

/-- The name of the root directory, which both programs fix as `ROOT / "fixtures"`. -/
def FIXTURES_ROOT : PyStr := py "fixtures"

def FIXTURE_DIRS : List (PyStr × PyStr) :=
  [(py "invoice", py "invoices"), (py "uk_job_posting", py "job_postings")]

/-- `FIXTURE_DIRS.get(doc_type)` -/
def fixtureDir (docType : PyStr) : Option PyStr :=
  (FIXTURE_DIRS.find? fun entry => decide (entry.1 = docType)).map Prod.snd

/-- The name matches `*.json`. -/
def FixtureFile.isJson (file : FixtureFile) : Bool := (py ".json").isSuffixOf file.name

/-- `path.resolve().parent.name` -/
def FixtureFile.parentName (file : FixtureFile) : PyStr := file.dirs.getLastD FIXTURES_ROOT

/-- `type(value).__name__` -/
def typeName : Json → PyStr
  | .null => py "NoneType"
  | .bool _ => py "bool"
  | .int _ => py "int"
  | .float _ => py "float"
  | .str _ => py "str"
  | .arr _ => py "list"
  | .obj _ => py "dict"

/-! ## The validator -/

/-- `REQUIRED_KEYS`, sorted -/
def REQUIRED_KEYS : List String :=
  ["content", "doc_type", "expected", "fixture_id", "label_status", "schema_version", "source"]

/-- `VALID_SOURCES`, sorted -/
def VALID_SOURCES : List PyStr := [py "real_anonymized", py "synthetic"]

/-- `VALID_STATUS`, sorted -/
def VALID_STATUS : List PyStr := [py "DRAFT", py "REVIEWED"]

/-- A value that is a string and satisfies `p`. -/
def isText (p : PyStr → Bool) : Option Json → Bool
  | some (.str text) => p text
  | _ => false

/-- One error, unless the check holds. -/
def errorUnless (holds : Bool) (error : PyStr) : List PyStr := if holds then [] else [error]

theorem errorUnless_eq_nil_iff {holds : Bool} {error : PyStr} :
    errorUnless holds error = [] ↔ holds = true := by
  unfold errorUnless
  split_ifs with h
  · simp [h]
  · simp [h]

section Validator

variable (libs : HarnessLibs M) (file : FixtureFile)

/-- `repr` of a list of strings -/
def reprList (texts : List PyStr) : PyStr :=
  py "[" ++ List.intercalate (py ", ") (texts.map (pyRepr libs.isPrintable)) ++ py "]"

/-- The error text of the file. -/
def fileError (text : PyStr) : PyStr := file.name ++ py ": " ++ text

/-- The placement of a reviewed fixture. -/
def placementErrors (docType : PyStr) : List PyStr :=
  match fixtureDir docType with
  | none => [fileError file (py "REVIEWED fixture doc_type " ++ pyRepr libs.isPrintable docType ++
      py " has no fixtures directory mapping (registry and FIXTURE_DIRS have drifted)")]
  | some dir =>
      errorUnless (decide (file.parentName = dir))
        (fileError file (py "REVIEWED fixture doc_type " ++ pyRepr libs.isPrintable docType ++
          py " belongs in " ++ dir ++ py "/ but sits in " ++ file.parentName ++ py "/"))

/-- The label, once the metadata are strings. -/
def labelErrors (data expected : Record) (docType schemaVersion : PyStr) : List PyStr :=
  match resolve libs.toLibraries docType schemaVersion with
  | .error exc => [fileError file (unknownSchemaText exc)]
  | .ok cls =>
      (match canonical libs cls expected with
        | .error errors => [fileError file (py "expected label fails " ++ docType ++ py "." ++
            schemaVersion ++ py ": " ++ decimal errors.length ++ py " error(s)")]
        | .ok _ => []) ++
      if isText (fun text => decide (text = py "REVIEWED")) (lookupField data "label_status") then
        placementErrors libs file docType
      else []

/-- The metadata, and the label if they allow it. -/
def metadataErrors (data expected : Record) : List PyStr :=
  let docTypeErrors := errorUnless (isText isFilled (lookupField data "doc_type"))
    (fileError file (py "doc_type must be a non-empty string"))
  let versionErrors := errorUnless (isText isFilled (lookupField data "schema_version"))
    (fileError file (py "schema_version must be a non-empty string"))
  docTypeErrors ++ versionErrors ++
    match lookupField data "doc_type", lookupField data "schema_version" with
    | some (.str docType), some (.str schemaVersion) =>
        if isFilled docType && isFilled schemaVersion then
          labelErrors libs file data expected docType schemaVersion
        else []
    | _, _ => []

/-- The checks of an object. -/
def objectErrors (data : Record) : List PyStr :=
  let missing := REQUIRED_KEYS.filter fun key => (lookupField data key).isNone
  if missing ≠ [] then [fileError file (py "missing keys " ++ reprList libs (missing.map py))]
  else
    errorUnless (isText (fun text => decide (text ∈ VALID_SOURCES)) (lookupField data "source"))
        (fileError file (py "source must be one of " ++ reprList libs VALID_SOURCES)) ++
      errorUnless
        (isText (fun text => decide (text ∈ VALID_STATUS)) (lookupField data "label_status"))
        (fileError file (py "label_status must be one of " ++ reprList libs VALID_STATUS)) ++
      errorUnless (isText isFilled (lookupField data "content"))
        (fileError file (py "content must be a non-empty string")) ++
      match lookupField data "expected" with
      | some (.obj expected) => metadataErrors libs file data expected
      | _ => [fileError file (py "expected must be a JSON object")]

/-- `validate_file`: the errors of the file, or the class of an exception that ends the
    scan. -/
def validateFile : Except PyStr (List PyStr) :=
  match file.parsed with
  | .error (.jsonDecodeError message) => .ok [fileError file (py "invalid JSON: " ++ message)]
  | .error (.other className) => .error className
  | .ok (.obj data) => .ok (objectErrors libs file data)
  | .ok value => .ok [fileError file (py "fixture must be a JSON object, got " ++ typeName value)]

end Validator

/-! ## The loader -/

/-- What loading a corpus raises. -/
inductive LoadRaise where
  | jsonDecodeError (message : PyStr)
  | valueError (message : PyStr)
  | misplacedFixture (message : PyStr)
  /-- any other exception, by class name -/
  | other (className : PyStr)

/-- `sorted(base.glob("*.json"))` for the directory `dir` of the root -/
def globJson (tree : FixtureTree) (dir : PyStr) : List FixtureFile :=
  (tree.files.filter fun file => file.isJson && decide (file.dirs = [dir])).insertionSort
    fun file other => file.name ≤ other.name

section Loader

variable (libs : HarnessLibs M) (docType : PyStr)

/-- The body of the loop: the fixture, unless it is not reviewed. -/
def loadFile (dir : PyStr) (file : FixtureFile) : Except LoadRaise (Option Record) :=
  match file.parsed with
  | .error (.jsonDecodeError message) => .error (.jsonDecodeError message)
  | .error (.other className) => .error (.other className)
  | .ok (.obj data) =>
      if !isText (fun text => decide (text = py "REVIEWED")) (lookupField data "label_status") then
        .ok none
      else if !isText (fun text => decide (text = docType)) (lookupField data "doc_type") then
        .error (.misplacedFixture (fileError file (py "REVIEWED fixture has doc_type=" ++
          libs.repr ((lookupField data "doc_type").getD .null) ++ py " but sits under the " ++
          pyRepr libs.isPrintable docType ++ py " directory (" ++ dir ++
          py "/); move it or fix its label")))
      else .ok (some data)
  | .ok value => .error (.valueError
      (fileError file (py "fixture must be a JSON object, not " ++ typeName value)))

/-- The loop, with each fixture beside its file. -/
def loadFiles (dir : PyStr) : List FixtureFile → Except LoadRaise (List (FixtureFile × Record))
  | [] => .ok []
  | file :: files => do
      let loaded ← loadFile libs docType dir file
      let rest ← loadFiles dir files
      return (loaded.map fun data => (file, data)).toList ++ rest

/-- The reviewed files of a doc type and their fixtures. -/
def reviewedFiles (tree : FixtureTree) : Except LoadRaise (List (FixtureFile × Record)) :=
  match fixtureDir docType with
  | none => .error (.other (py "KeyError"))
  | some dir => loadFiles libs docType dir (globJson tree dir)

/-- `load_reviewed_fixtures` -/
def loadReviewedFixtures (tree : FixtureTree) : Except LoadRaise (List Record) :=
  (reviewedFiles libs docType tree).map fun loaded => loaded.map Prod.snd

variable {libs docType}

theorem mem_globJson {tree : FixtureTree} {dir : PyStr} {file : FixtureFile} :
    file ∈ globJson tree dir ↔ file ∈ tree.files ∧ file.isJson = true ∧ file.dirs = [dir] := by
  simp [globJson, List.mem_insertionSort]

theorem nodup_globJson (tree : FixtureTree) (dir : PyStr) :
    ((globJson tree dir).map FixtureFile.path).Nodup := by
  have hperm := (List.perm_insertionSort (fun file other : FixtureFile => file.name ≤ other.name)
    (tree.files.filter fun file => file.isJson && decide (file.dirs = [dir]))).map
    FixtureFile.path
  exact hperm.nodup_iff.mpr (tree.distinct.sublist (List.filter_sublist.map _))

theorem loadFiles_of_ok {dir : PyStr} {files : List FixtureFile}
    (h : ∀ file ∈ files, ∃ loaded, loadFile libs docType dir file = .ok loaded) :
    ∃ loaded, loadFiles libs docType dir files = .ok loaded := by
  induction files with
  | nil => exact ⟨[], rfl⟩
  | cons file files ih =>
    obtain ⟨first, hfirst⟩ := h file List.mem_cons_self
    obtain ⟨rest, hrest⟩ := ih fun other hother => h other (List.mem_cons_of_mem _ hother)
    exact ⟨_, by rw [loadFiles, hfirst]; show (loadFiles _ _ _ _ >>= _) = _; rw [hrest]; rfl⟩

theorem loadFiles_cons {dir : PyStr} {file : FixtureFile} {files : List FixtureFile}
    {loaded : List (FixtureFile × Record)}
    (h : loadFiles libs docType dir (file :: files) = .ok loaded) :
    ∃ first rest, loadFile libs docType dir file = .ok first ∧
      loadFiles libs docType dir files = .ok rest ∧
      loaded = (first.map fun data => (file, data)).toList ++ rest := by
  simp only [loadFiles, bind_eq_ok_iff] at h
  obtain ⟨first, hfirst, rest, hrest, hloaded⟩ := h
  cases hloaded
  exact ⟨first, rest, hfirst, hrest, rfl⟩

theorem mem_of_loadFiles {dir : PyStr} {files : List FixtureFile} :
    ∀ {loaded : List (FixtureFile × Record)}, loadFiles libs docType dir files = .ok loaded →
      ∀ entry ∈ loaded, entry.1 ∈ files := by
  induction files with
  | nil =>
    intro loaded h entry hentry
    cases h
    cases hentry
  | cons file files ih =>
    intro loaded h entry hentry
    obtain ⟨first, rest, -, hrest, rfl⟩ := loadFiles_cons h
    rcases List.mem_append.mp hentry with hfirst | hlater
    · rcases first with _ | data
      · cases hfirst
      · obtain rfl : entry = (file, data) := by simpa using hfirst
        exact List.mem_cons_self
    · exact List.mem_cons_of_mem _ (ih hrest entry hlater)

theorem loaded_once {dir : PyStr} {file : FixtureFile} {data : Record}
    (hfile : loadFile libs docType dir file = .ok (some data)) {files : List FixtureFile} :
    ∀ {loaded : List (FixtureFile × Record)}, loadFiles libs docType dir files = .ok loaded →
      (files.map FixtureFile.path).Nodup → file ∈ files →
      ((loaded.filter fun entry => decide (entry.1.path = file.path)).map Prod.snd) = [data] := by
  have hnone : ∀ {files : List FixtureFile} {loaded : List (FixtureFile × Record)},
      loadFiles libs docType dir files = .ok loaded → file.path ∉ files.map FixtureFile.path →
      (loaded.filter fun entry => decide (entry.1.path = file.path)) = [] := by
    intro files loaded h hnot
    rw [List.filter_eq_nil_iff]
    intro entry hentry hpath
    apply hnot
    rw [← of_decide_eq_true hpath]
    exact List.mem_map_of_mem (mem_of_loadFiles h entry hentry)
  induction files with
  | nil =>
    intro loaded _ _ hmem
    cases hmem
  | cons first files ih =>
    intro loaded h hnodup hmem
    rw [List.map_cons, List.nodup_cons] at hnodup
    obtain ⟨loadedFirst, rest, hfirst, hrest, rfl⟩ := loadFiles_cons h
    rw [List.filter_append, List.map_append]
    rcases List.mem_cons.mp hmem with rfl | hlater
    · rw [hfile] at hfirst
      cases hfirst
      rw [hnone hrest hnodup.1]
      simp
    · have hne : first.path ≠ file.path := fun hpath =>
        hnodup.1 (hpath ▸ List.mem_map_of_mem hlater)
      rw [ih hrest hnodup.2 hlater]
      rcases loadedFirst with _ | data'
      · rfl
      · simp [hne]

end Loader

/-! ## What is accepted -/

theorem isText_eq_true_iff {p : PyStr → Bool} {value : Option Json} :
    isText p value = true ↔ ∃ text, value = some (.str text) ∧ p text = true := by
  unfold isText
  constructor
  · intro h
    split at h
    · exact ⟨_, rfl, h⟩
    · cases h
  · rintro ⟨text, rfl, htext⟩
    exact htext

/-- What the validator has checked of a file it accepts. -/
structure Accepted (libs : HarnessLibs M) (file : FixtureFile) (data : Record)
    (docType : PyStr) : Prop where
  filled : isFilled docType = true
  label : ∃ version expected cls fields,
    lookupField data "schema_version" = some (.str version) ∧ isFilled version = true ∧
    lookupField data "expected" = some (.obj expected) ∧
    resolve libs.toLibraries docType version = .ok cls ∧
    canonical libs cls expected = .ok fields
  content : ∃ content, lookupField data "content" = some (.str content) ∧
    isFilled content = true
  placed : lookupField data "label_status" = some (.str (py "REVIEWED")) →
    fixtureDir docType = some file.parentName

theorem accepted_of_validateFile {libs : HarnessLibs M} {file : FixtureFile} {data : Record}
    {docType : PyStr} (hparsed : file.parsed = .ok (.obj data))
    (hdoc : lookupField data "doc_type" = some (.str docType))
    (h : validateFile libs file = .ok []) : Accepted libs file data docType := by
  simp only [validateFile, hparsed, Except.ok.injEq, objectErrors] at h
  split_ifs at h with hmissing
  simp only [List.append_eq_nil_iff, errorUnless_eq_nil_iff] at h
  obtain ⟨⟨⟨-, -⟩, hcontent⟩, hexpected⟩ := h
  split at hexpected
  next expected hobject =>
    simp only [metadataErrors, hdoc, List.append_eq_nil_iff, errorUnless_eq_nil_iff] at hexpected
    obtain ⟨⟨hdocText, hversionText⟩, hlabel⟩ := hexpected
    obtain ⟨version, hversion, hfilled⟩ := isText_eq_true_iff.mp hversionText
    have hdocFilled : isFilled docType = true := hdocText
    simp only [hversion, hdocFilled, hfilled, Bool.and_self, if_true, labelErrors] at hlabel
    split at hlabel
    · cases hlabel
    next cls hcls =>
      obtain ⟨hvalid, hplaced⟩ := List.append_eq_nil_iff.mp hlabel
      split at hvalid
      · cases hvalid
      next fields hfields =>
        refine ⟨hdocFilled, ⟨version, expected, cls, fields, hversion, hfilled, hobject, hcls,
          hfields⟩, isText_eq_true_iff.mp hcontent, fun hstatus => ?_⟩
        have hreviewed : isText (fun text => decide (text = py "REVIEWED"))
            (lookupField data "label_status") = true :=
          isText_eq_true_iff.mpr ⟨_, hstatus, by simp⟩
        rw [if_pos hreviewed, placementErrors] at hplaced
        split at hplaced
        · cases hplaced
        next dir hdir =>
          rw [errorUnless_eq_nil_iff, decide_eq_true_eq] at hplaced
          rw [hdir, hplaced]
  next => cases hexpected

theorem Accepted.passes {libs : HarnessLibs M} {file : FixtureFile} {data : Record}
    {docType : PyStr} (hdoc : lookupField data "doc_type" = some (.str docType))
    (h : Accepted libs file data docType) : ∃ p, Passes libs docType data p := by
  obtain ⟨version, expected, cls, fields, hversion, hfilled, hexpected, hcls, hfields⟩ := h.label
  have hnonempty : version ≠ [] := by
    rintro rfl
    cases hfilled
  exact ⟨⟨data, cls, expected⟩, rfl, hdoc, h.filled, ⟨version, hversion, hnonempty, hcls⟩,
    h.content, hexpected, ⟨fields, hfields⟩⟩

/-- **A reviewed fixture that the validator accepts is scored exactly when it sits directly in
    the directory of its doc type**, below the root: the loader then returns it once, and
    preflight accepts it.  The other files of that directory are assumed to load. -/
theorem accepted_scored_iff (libs : HarnessLibs M) {tree : FixtureTree} {file : FixtureFile}
    {data : Record} {docType : PyStr} (hmem : file ∈ tree.files) (hjson : file.isJson = true)
    (hparsed : file.parsed = .ok (.obj data))
    (hdoc : lookupField data "doc_type" = some (.str docType))
    (hreviewed : lookupField data "label_status" = some (.str (py "REVIEWED")))
    (haccepted : validateFile libs file = .ok [])
    (hothers : ∀ dir, fixtureDir docType = some dir → ∀ other ∈ globJson tree dir,
      other.path ≠ file.path → ∃ loaded, loadFile libs docType dir other = .ok loaded) :
    ((∃ loaded, reviewedFiles libs docType tree = .ok loaded ∧
        ((loaded.filter fun entry => decide (entry.1.path = file.path)).map Prod.snd) = [data]) ∧
      ∃ prepared, preflightFixtures libs docType [data] = .ok prepared) ↔
    ∃ dir, fixtureDir docType = some dir ∧ file.dirs = [dir] := by
  have haccept := accepted_of_validateFile hparsed hdoc haccepted
  have hdir := haccept.placed hreviewed
  have hfile : ∀ dir, loadFile libs docType dir file = .ok (some data) := by
    intro dir
    have hstatus : isText (fun text => decide (text = py "REVIEWED"))
        (lookupField data "label_status") = true :=
      isText_eq_true_iff.mpr ⟨_, hreviewed, by simp⟩
    have htype : isText (fun text => decide (text = docType))
        (lookupField data "doc_type") = true := isText_eq_true_iff.mpr ⟨_, hdoc, by simp⟩
    simp [loadFile, hparsed, hstatus, htype]
  -- scored means found by the glob of a directory; the glob does not descend
  constructor
  · rintro ⟨⟨loaded, hload, honce⟩, -⟩
    refine ⟨file.parentName, hdir, ?_⟩
    simp only [reviewedFiles, hdir] at hload
    obtain ⟨entry, hentry⟩ : ∃ entry,
        entry ∈ loaded.filter fun entry => decide (entry.1.path = file.path) := by
      apply List.exists_mem_of_ne_nil
      intro hnil
      rw [hnil] at honce
      cases honce
    obtain ⟨hin, hpath⟩ := List.mem_filter.mp hentry
    have hdirs := (mem_globJson.mp (mem_of_loadFiles hload entry hin)).2.2
    have hsame : entry.1.dirs = file.dirs := congrArg Prod.fst (of_decide_eq_true hpath)
    rw [← hsame, hdirs]
  · rintro ⟨dir, hdir', hdirs⟩
    constructor
    · have hglob : file ∈ globJson tree dir := mem_globJson.mpr ⟨hmem, hjson, hdirs⟩
      have hall : ∀ other ∈ globJson tree dir,
          ∃ loaded, loadFile libs docType dir other = .ok loaded := by
        intro other hother
        by_cases hpath : other.path = file.path
        · have hsame : other = file := List.inj_on_of_nodup_map tree.distinct
            (mem_globJson.mp hother).1 hmem hpath
          exact ⟨some data, hsame ▸ hfile dir⟩
        · exact hothers dir hdir' other hother hpath
      obtain ⟨loaded, hload⟩ := loadFiles_of_ok hall
      refine ⟨loaded, by simp only [reviewedFiles, hdir', hload], ?_⟩
      exact loaded_once (hfile dir) hload (nodup_globJson tree dir) hglob
    · obtain ⟨p, hp⟩ := haccept.passes hdoc
      exact ⟨[p], preflightFixtures_eq_ok_iff.mpr (.cons hp .nil)⟩

/-! ## Sample trees -/

/-- A tree of one reviewed file. -/
def singleFile (dirs : List String) : FixtureFile where
  dirs := dirs.map py
  name := py "a.json"
  parsed := .ok (.obj (sampleFixture "a"))

def singleTree (dirs : List String) : FixtureTree where
  files := [singleFile dirs]
  distinct := List.nodup_singleton _

/-- It is accepted wherever the last directory has the right name. -/
theorem validateFile_single {dirs : List String}
    (h : (singleFile dirs).parentName = py "invoices") :
    validateFile sampleHarnessLibs (singleFile dirs) = .ok [] := by
  have hmissing : (REQUIRED_KEYS.filter fun key =>
      (lookupField (sampleFixture "a") key).isNone) = [] := rfl
  have hdoc : lookupField (sampleFixture "a") "doc_type" = some (.str (py "invoice")) := rfl
  have hversion : lookupField (sampleFixture "a") "schema_version" = some (.str (py "v1")) := rfl
  have hexpected : lookupField (sampleFixture "a") "expected" = some (.obj invoiceData) := rfl
  have hstatus : isText (fun text => decide (text ∈ VALID_STATUS))
      (lookupField (sampleFixture "a") "label_status") = true := by decide
  have hsource : isText (fun text => decide (text ∈ VALID_SOURCES))
      (lookupField (sampleFixture "a") "source") = true := by decide
  have hcontent : isText isFilled (lookupField (sampleFixture "a") "content") = true := by decide
  have hcls : resolve sampleHarnessLibs.toLibraries (py "invoice") (py "v1") = .ok .InvoiceV1 := rfl
  have hfilled : isFilled (py "invoice") = true ∧ isFilled (py "v1") = true := by decide
  have htexts : isText isFilled (some (.str (py "invoice"))) = true ∧
      isText isFilled (some (.str (py "v1"))) = true := hfilled
  have hplaced : placementErrors sampleHarnessLibs (singleFile dirs) (py "invoice") = [] :=
    errorUnless_eq_nil_iff.mpr (decide_eq_true h)
  have hobject : objectErrors sampleHarnessLibs (singleFile dirs) (sampleFixture "a") = [] := by
    simp [objectErrors, hmissing, metadataErrors, labelErrors, errorUnless, hdoc, hversion,
      hexpected, hstatus, hsource, hcontent, hcls, hfilled, htexts, canonical_invoiceData, hplaced]
  exact congrArg Except.ok hobject

/-- A reviewed invoice under `archive/invoices/` is accepted by the validator, and is not among
    the reviewed fixtures. -/
theorem archived_not_loaded :
    validateFile sampleHarnessLibs (singleFile ["archive", "invoices"]) = .ok [] ∧
      loadReviewedFixtures sampleHarnessLibs (py "invoice") (singleTree ["archive", "invoices"]) =
        .ok [] :=
  ⟨validateFile_single rfl, rfl⟩

/-- One that sits in `invoices/` is loaded once. -/
theorem accepted_scored_iff_single :
    ∃ loaded,
      reviewedFiles sampleHarnessLibs (py "invoice") (singleTree ["invoices"]) = .ok loaded ∧
      ((loaded.filter fun entry => decide (entry.1.path = (singleFile ["invoices"]).path)).map
        Prod.snd) = [sampleFixture "a"] := by
  have hmem : singleFile ["invoices"] ∈ (singleTree ["invoices"]).files := List.mem_cons_self
  refine ((accepted_scored_iff sampleHarnessLibs hmem rfl rfl rfl rfl (validateFile_single rfl)
    ?_).mpr ⟨py "invoices", rfl, rfl⟩).1
  rintro dir - other hother hne
  have hsame : other = singleFile ["invoices"] :=
    List.mem_singleton.mp (mem_globJson.mp hother).1
  exact absurd (congrArg FixtureFile.path hsame) hne

end ExtractApi
