import ExtractApi.AccuracyRun
import ExtractApi.FixtureCorpus

/-!
# Publishing a report (`harness/report_output.py` and `main` of the harness)

A temporary file beside the target is reserved before the first predictor call and takes the
target's place after the last.  Every step may raise; `Faults` says which do, and the two
sinks are written whatever the other does.

Beside the files and the standard output the state has three marks of how far the run got.
-/

namespace ExtractApi.ReportOutput

open PythonText JsonValue RaisingProgram

variable {M P α : Type}

inductive FileKind where
  | regular
  | directory
  | special
deriving DecidableEq, Repr

/-- A file and the permission bits of its mode, `stat.S_IMODE`. -/
structure FileNode where
  kind : FileKind
  content : List Byte
  mode : Fin 4096
deriving DecidableEq, Repr

/-- What `main` reads and changes: the directory of the target, the standard output and the
    variables of the accuracy run. -/
structure Desk (P : Type) where
  files : PyStr → Option FileNode
  stdout : PyStr
  run : RunState P
  ready : Bool
  rendered : Option PyStr
  replaced : Bool

/-- The exceptions that the steps raise by themselves, and the ones that strike them. -/
inductive ReportExc where
  | fault (text : PyStr)
  | isADirectoryError
  | notRegular
  | fileExistsError
  | unicodeEncodeError
  | load (raised : LoadRaise)
  | harness (exc : HarnessExc)

/-- An exception and its `__cause__`. -/
structure Raised where
  exc : ReportExc
  cause : Option ReportExc

abbrev Output (P : Type) := EStateM Raised (Desk P)

/-- The steps that an exception strikes.  A write is struck after a prefix of its text, and
    `write_text` also before the file is opened. -/
structure Faults where
  mkdir : Option PyStr := none
  exist : Option PyStr := none
  stat : Option PyStr := none
  openTarget : Option PyStr := none
  mkstemp : Option PyStr := none
  reserve : Option (ℕ × PyStr) := none
  predictor : ℕ → Option PyStr := fun _ => none
  render : Option PyStr := none
  print : Option (ℕ × PyStr) := none
  writeText : Option (Option ℕ × PyStr) := none
  chmod : Option PyStr := none
  replace : Option PyStr := none

/-! ### Files -/

namespace Desk

def put (s : Desk P) (path : PyStr) (node : Option FileNode) : Desk P :=
  { s with files := Function.update s.files path node }

def writeBytes (s : Desk P) (path : PyStr) (bytes : List Byte) : Desk P :=
  s.put path ((s.files path).map fun node => { node with content := bytes })

def setMode (s : Desk P) (path : PyStr) (mode : Fin 4096) : Desk P :=
  s.put path ((s.files path).map fun node => { node with mode := mode })

/-- `os.replace`: a file that is moved onto itself stays. -/
def move (s : Desk P) (path target : PyStr) : Desk P :=
  if path = target then s else (s.put target (s.files path)).put path none

end Desk

def raising (exc : ReportExc) : Raised := ⟨exc, none⟩

def attempt (fault : Option PyStr) (step : Desk P → Desk P) : Output P Unit := fun s =>
  match fault with
  | some text => .error (raising (.fault text)) s
  | none => .ok () (step s)

/-- The name that `tempfile.mkstemp` makes of a random draw. -/
def temporaryName (draw : PyStr) : PyStr := py ".extract-report-" ++ draw ++ py ".tmp"

/-- The first drawn name that no file has. -/
def drawn (files : PyStr → Option FileNode) (draws : List PyStr) : Option PyStr :=
  (draws.map temporaryName).find? fun name => (files name).isNone

section Program

variable (faults : Faults) (draws : List PyStr)

def mkstemp : Output P PyStr := fun s =>
  match faults.mkstemp with
  | some text => .error (raising (.fault text)) s
  | none =>
      match drawn s.files draws with
      | none => .error (raising .fileExistsError) s
      | some name => .ok name (s.put name (some { kind := .regular, content := [], mode := 0o600 }))

/-- `stream.write("\n")` and `stream.flush()` -/
def reserve (path : PyStr) : Output P Unit := fun s =>
  match faults.reserve with
  | some (written, text) =>
      .error (raising (.fault text))
        (s.writeBytes path ((utf8SurrogatePass (py "\n")).take written))
  | none => .ok () (s.writeBytes path (utf8SurrogatePass (py "\n")))

/-- `temporary.unlink(missing_ok=True)` -/
def unlink (path : PyStr) : Output P Unit := modify fun s => s.put path none

structure ReportFile where
  path : PyStr
  mode : Option (Fin 4096)

/-- The checks of a target that exists, and its mode. -/
def checkTarget (target : PyStr) : Output P (Option (Fin 4096)) := do
  attempt faults.exist id
  match (← get).files target with
  | none => return none
  | some node =>
      attempt faults.stat id
      match node.kind with
      | .directory => throw (raising .isADirectoryError)
      | .special => throw (raising .notRegular)
      | .regular =>
          attempt faults.openTarget id
          return some node.mode

/-- `with prepared_report(target) as output: body` -/
def preparedReport (target : Option PyStr) (body : Option ReportFile → Output P α) :
    Output P α :=
  match target with
  | none => body none
  | some target => do
      attempt faults.mkdir id
      let mode ← checkTarget faults target
      let temporary ← mkstemp faults draws
      finallyDo
        (do
          reserve faults temporary
          modify fun s => { s with ready := true }
          body (some ⟨temporary, mode⟩))
        (unlink temporary)

/-! ### The accuracy run, struck -/

variable (libs : HarnessLibs M) (predict : Predictor P) (docType provider : PyStr)

/-- The loop, from the `n`-th predictor call on. -/
def scoreStruck : ℕ → List Prepared → EStateM ReportExc (RunState P) Unit
  | _, [] => pure ()
  | n, p :: prepared => do
      match faults.predictor n with
      | some text =>
          modify fun s => { s with called := s.called ++ [p.fx] }
          throw (.fault text)
      | none =>
          focus id (fun _ s => s) .harness (scoreFixture libs predict p)
          scoreStruck (n + 1) prepared

/-- `run_accuracy` where a predictor call may raise anything. -/
def runAccuracyStruck (fixtures : List Record) : EStateM ReportExc (RunState P) AccuracyReport := do
  match preflightFixtures libs docType fixtures with
  | .error message => throw (.harness (.valueError message))
  | .ok prepared =>
      scoreStruck faults libs predict 0 prepared
      let s ← get
      return aggregate docType s.resolvedProvider s.scored s.costs s.latencies s.failures s.skipped
        s.failedCosts

/-! ### `main` -/

variable (render : AccuracyReport → PyStr)

def accuracy (fixtures : List Record) : Output P AccuracyReport :=
  focus (fun s => s.run) (fun s run => { s with run }) raising
    (runAccuracyStruck faults libs predict docType fixtures)

/-- `render_markdown(report)` -/
def renderMarkdown (report : AccuracyReport) : Output P PyStr := fun s =>
  match faults.render with
  | some text => .error (raising (.fault text)) s
  | none => .ok (render report) { s with rendered := some (render report) }

/-- `print(markdown)` -/
def printMarkdown (markdown : PyStr) : Output P Unit := fun s =>
  match faults.print with
  | some (written, text) =>
      .error (raising (.fault text))
        { s with stdout := s.stdout ++ (markdown ++ py "\n").take written }
  | none => .ok () { s with stdout := s.stdout ++ (markdown ++ py "\n") }

/-- `path.write_text(text, encoding="utf-8")` -/
def writeText (path text : PyStr) : Output P Unit := fun s =>
  match faults.writeText with
  | some (none, exc) => .error (raising (.fault exc)) s
  | some (some written, exc) =>
      .error (raising (.fault exc)) (s.writeBytes path (((utf8 text).getD []).take written))
  | none =>
      match utf8 text with
      | none => .error (raising .unicodeEncodeError) (s.writeBytes path [])
      | some bytes => .ok () (s.writeBytes path bytes)

def chmod (path : PyStr) : Option (Fin 4096) → Output P Unit
  | none => pure ()
  | some mode => attempt faults.chmod fun s => s.setMode path mode

/-- `output.path.replace(target)` -/
def replace (path target : PyStr) : Output P Unit :=
  attempt faults.replace fun s => { s.move path target with replaced := true }

/-- The first `try`: the exception of a failed print is kept for later. -/
def tryPrint (markdown : PyStr) : Output P (Option ReportExc) :=
  tryCatch
    (do
      printMarkdown faults markdown
      return none)
    fun raised => return some raised.exc

/-- The body of the second `try`. -/
def writeReport (markdown target : PyStr) (output : ReportFile) : Output P Unit := do
  writeText faults output.path (markdown ++ py "\n")
  chmod faults output.path output.mode
  replace faults output.path target

def publishReport (fixtures : List Record) (target : Option PyStr) (output : Option ReportFile) :
    Output P Unit := do
  let report ← accuracy faults libs predict docType fixtures
  let markdown ← renderMarkdown faults render report
  let stdoutError ← tryPrint faults markdown
  match target, output with
  | some target, some output =>
      tryCatch (writeReport faults markdown target output) fun raised =>
        match stdoutError with
        | some error => throw ⟨raised.exc, some error⟩
        | none => throw raised
  | _, _ => pure ()
  match stdoutError with
  | some error => throw (raising error)
  | none => pure ()

/-- The arguments of the command line, the key of the environment and the fixtures on disk. -/
structure Arguments where
  docType : PyStr
  live : Bool
  target : Option PyStr
  apiKey : PyStr
  tree : FixtureTree

/-- `print(text, file=sys.stderr)` -/
def say (text : PyStr) : Output P Unit :=
  modify fun s => { s with run := { s.run with stderr := s.run.stderr ++ [text] } }

/-- `main`, with its arguments parsed. -/
def harnessMain (args : Arguments) : Output P ℕ := do
  match loadReviewedFixtures libs args.docType args.tree with
  | .error raised => throw (raising (.load raised))
  | .ok fixtures =>
      if fixtures.isEmpty then
        say (py "no REVIEWED " ++ args.docType ++
          py " fixtures to score (DRAFT labels are excluded).")
        return 1
      else if !args.live then
        say (decimal fixtures.length ++ py " REVIEWED " ++ args.docType ++
          py " fixtures found. Re-run with --live (against a serving endpoint) to score them " ++
          py "and emit the table.")
        return 2
      else if (strip args.apiKey).isEmpty then
        say (py "--live needs the caller's API key in the EXTRACT_API_KEY env var.")
        return 1
      else
        preparedReport faults draws args.target
          (publishReport faults libs predict args.docType render fixtures args.target)
        return 0

/-- The state `main` starts in. -/
def Desk.start (files : PyStr → Option FileNode) (stdout provider : PyStr) (memory : P) :
    Desk P where
  files := files
  stdout := stdout
  run := RunState.start provider memory
  ready := false
  rendered := none
  replaced := false

end Program

/-! ## An undisturbed run -/

section Undisturbed

variable {faults : Faults} (libs : HarnessLibs M) (predict : Predictor P) (docType : PyStr)

theorem lift_bind {β : Type} (x : Run P α) (k : α → Run P β) :
    focus id (fun _ s => s) ReportExc.harness (x >>= k) =
      focus id (fun _ s => s) ReportExc.harness x >>= fun a =>
        focus id (fun _ s => s) ReportExc.harness (k a) := by
  funext s
  simp only [focus, bind, EStateM.bind, EStateM.run, id]
  cases x s <;> rfl

/-- Where no predictor call is struck, the struck loop is the loop. -/
theorem scoreStruck_of_none (h : ∀ n, faults.predictor n = none) (n : ℕ)
    (prepared : List Prepared) :
    scoreStruck faults libs predict n prepared =
      focus id (fun _ s => s) .harness (scoreAll libs predict prepared) := by
  induction prepared generalizing n with
  | nil => rfl
  | cons p prepared ih => rw [scoreStruck, h n, scoreAll, lift_bind, ih]

/-- **Where no predictor call is struck, the struck run is the run.** -/
theorem runAccuracyStruck_of_none (h : ∀ n, faults.predictor n = none) (fixtures : List Record) :
    runAccuracyStruck faults libs predict docType fixtures =
      focus id (fun _ s => s) .harness (runAccuracy libs predict docType fixtures) := by
  unfold runAccuracyStruck runAccuracy
  cases preflightFixtures libs docType fixtures with
  | error message => rfl
  | ok prepared =>
    simp only [scoreStruck_of_none libs predict h, lift_bind]
    rfl

end Undisturbed

/-! ## What each step leaves -/

section Steps

variable (faults : Faults)

@[simp] theorem run_attempt (fault : Option PyStr) (step : Desk P → Desk P) (s : Desk P) :
    (attempt fault step).run s = match fault with
      | some text => .error (raising (.fault text)) s
      | none => .ok () (step s) := rfl

theorem Desk.put_files_of_ne {s : Desk P} {path name : PyStr} (h : name ≠ path)
    (node : Option FileNode) : (s.put path node).files name = s.files name := by
  unfold Desk.put
  exact Function.update_of_ne h _ _

@[simp] theorem Desk.put_files_self (s : Desk P) (path : PyStr) (node : Option FileNode) :
    (s.put path node).files path = node := by
  unfold Desk.put
  exact Function.update_self _ _ _

theorem run_writeText (path text : PyStr) (s : Desk P) :
    (writeText faults path text).run s = match faults.writeText with
      | some (none, exc) => .error (raising (.fault exc)) s
      | some (some written, exc) =>
          .error (raising (.fault exc)) (s.writeBytes path (((utf8 text).getD []).take written))
      | none =>
          match utf8 text with
          | none => .error (raising .unicodeEncodeError) (s.writeBytes path [])
          | some bytes => .ok () (s.writeBytes path bytes) := rfl

theorem Desk.put_replaced (s : Desk P) (path : PyStr) (node : Option FileNode) :
    (s.put path node).replaced = s.replaced := rfl

/-- Nothing stands in the way of the file sink. -/
structure Clear (faults : Faults) (markdown : PyStr) : Prop where
  writeText : faults.writeText = none
  chmod : faults.chmod = none
  replace : faults.replace = none
  encodes : (utf8 (markdown ++ py "\n")).isSome = true

theorem run_replace {path target : PyStr} {node : FileNode} (s : Desk P)
    (hnode : s.files path = some node) :
    (∃ raised, (replace faults path target).run s = .error raised s ∧ faults.replace ≠ none) ∨
    (∃ files, (replace faults path target).run s = .ok () { s with files, replaced := true } ∧
      files target = some node ∧
        ∀ name, name ≠ path → name ≠ target → files name = s.files name) := by
  rcases hreplace : faults.replace with _ | text
  · right
    refine ⟨(s.move path target).files, ?_, ?_, ?_⟩
    · simp only [replace, run_attempt, hreplace, Desk.move]
      split <;> rfl
    · by_cases hsame : path = target
      · rw [Desk.move, if_pos hsame, ← hsame, hnode]
      · rw [Desk.move, if_neg hsame, Desk.put_files_of_ne (Ne.symm hsame), Desk.put_files_self,
          hnode]
    · intro name hpath htarget
      rw [Desk.move]
      split
      · rfl
      · rw [Desk.put_files_of_ne hpath, Desk.put_files_of_ne htarget]
  · left
    exact ⟨raising (.fault text), by simp only [replace, run_attempt, hreplace], by simp⟩

theorem run_chmod {path : PyStr} {node : FileNode} (mode : Option (Fin 4096)) (s : Desk P)
    (hnode : s.files path = some node) :
    (∃ raised, (chmod faults path mode).run s = .error raised s ∧ faults.chmod ≠ none) ∨
    (∃ files, (chmod faults path mode).run s = .ok () { s with files } ∧
      files path = some { node with mode := mode.getD node.mode } ∧
      ∀ name, name ≠ path → files name = s.files name) := by
  rcases mode with _ | mode
  · right
    exact ⟨s.files, rfl, hnode, fun _ _ => rfl⟩
  · rcases hchmod : faults.chmod with _ | text
    · right
      refine ⟨(s.setMode path mode).files, ?_, ?_, fun name hname => Desk.put_files_of_ne hname _⟩
      · simp only [chmod, run_attempt, hchmod]
        rfl
      · rw [Desk.setMode, Desk.put_files_self, hnode]
        rfl
    · left
      exact ⟨raising (.fault text), by simp only [chmod, run_attempt, hchmod], by simp⟩

/-- **Either sink step fails and only the temporary file has changed, or the target is the
    temporary file, whole.** -/
theorem writeReport_run (markdown : PyStr) {target : PyStr} {output : ReportFile} {node : FileNode}
    (s : Desk P) (hnode : s.files output.path = some node) :
    (∃ files raised, (writeReport faults markdown target output).run s =
        .error raised { s with files } ∧
      (∀ name, name ≠ output.path → files name = s.files name) ∧ ¬ Clear faults markdown) ∨
    (∃ files bytes, (writeReport faults markdown target output).run s =
        .ok () { s with files, replaced := true } ∧
      utf8 (markdown ++ py "\n") = some bytes ∧
      files target = some { node with content := bytes, mode := output.mode.getD node.mode } ∧
      ∀ name, name ≠ output.path → name ≠ target → files name = s.files name) := by
  have hput : ∀ (t : Desk P) bytes (name : PyStr), name ≠ output.path →
      (t.writeBytes output.path bytes).files name = t.files name :=
    fun t bytes name hname => Desk.put_files_of_ne hname _
  rcases hwrite : faults.writeText with _ | ⟨_ | written, text⟩
  · rcases hencode : utf8 (markdown ++ py "\n") with _ | bytes
    · left
      refine ⟨_, raising .unicodeEncodeError, ?_, hput s [], fun hclear => ?_⟩
      · simp only [writeReport, EStateM.run_bind, run_writeText, hwrite, hencode]
        rfl
      · have hsome := hclear.encodes
        simp [hencode] at hsome
    · have hwritten : (s.writeBytes output.path bytes).files output.path =
          some { node with content := bytes } := by
        rw [Desk.writeBytes, Desk.put_files_self, hnode]
        rfl
      -- the text is written: only the mode and the name are left
      have hstart : (writeReport faults markdown target output).run s =
          (do
            chmod faults output.path output.mode
            replace faults output.path target).run (s.writeBytes output.path bytes) := by
        simp only [writeReport, EStateM.run_bind, run_writeText, hwrite, hencode]
      rw [hstart, EStateM.run_bind]
      rcases run_chmod faults output.mode _ hwritten with
        ⟨raised, hrun, hfault⟩ | ⟨files, hrun, hmode, hothers⟩
      · left
        rw [hrun]
        exact ⟨_, raised, rfl, hput s bytes, fun hclear => hfault hclear.chmod⟩
      · rw [hrun]
        rcases run_replace faults { s with files := files } hmode with
          ⟨raised, hlast, hfault⟩ | ⟨files', hlast, htarget, hrest⟩
        · left
          refine ⟨files, raised, hlast, ?_, fun hclear => hfault hclear.replace⟩
          intro name hname
          exact (hothers name hname).trans (hput s bytes name hname)
        · right
          refine ⟨files', bytes, hlast, rfl, htarget, ?_⟩
          intro name hpath hname
          exact (hrest name hpath hname).trans
            ((hothers name hpath).trans (hput s bytes name hpath))
  · left
    refine ⟨s.files, raising (.fault text), ?_, fun _ _ => rfl, fun hclear => ?_⟩
    · simp only [writeReport, EStateM.run_bind, run_writeText, hwrite]
    · cases hwrite.symm.trans hclear.writeText
  · left
    refine ⟨_, raising (.fault text), ?_,
      hput s (((utf8 (markdown ++ py "\n")).getD []).take written), fun hclear => ?_⟩
    · simp only [writeReport, EStateM.run_bind, run_writeText, hwrite]
      rfl
    · cases hwrite.symm.trans hclear.writeText

/-- What the body of the `with` statement leaves of a state in which nothing is rendered.  A
    temporary file that is the target itself is overwritten before it is published. -/
structure Settled (faults : Faults) (target temporary : PyStr) (node : FileNode)
    (mode : Option (Fin 4096)) (s s' : Desk P) : Prop where
  ready : s'.ready = s.ready
  others : ∀ name, name ≠ temporary → name ≠ target → s'.files name = s.files name
  previous : temporary ≠ target → s'.replaced = false → s'.files target = s.files target
  complete : s'.replaced = true → ∃ markdown bytes, s'.rendered = some markdown ∧
    utf8 (markdown ++ py "\n") = some bytes ∧
    s'.files target = some { node with content := bytes, mode := mode.getD node.mode }
  printed : ∀ markdown, s'.rendered = some markdown → faults.print = none →
    s'.stdout = s.stdout ++ (markdown ++ py "\n")
  published : ∀ markdown, s'.rendered = some markdown → Clear faults markdown →
    s'.replaced = true

/-- Nothing has been rendered yet, and nothing published. -/
structure Desk.Blank (s : Desk P) : Prop where
  rendered : s.rendered = none
  replaced : s.replaced = false

theorem settled_of_run {target temporary : PyStr} {node : FileNode} {mode : Option (Fin 4096)}
    {s : Desk P} (hblank : s.Blank) (run : RunState P) :
    Settled faults target temporary node mode s { s with run } where
  ready := rfl
  others _ _ _ := rfl
  previous _ _ := rfl
  complete h := by cases hblank.replaced.symm.trans h
  printed markdown h := by cases hblank.rendered.symm.trans h
  published markdown h := by cases hblank.rendered.symm.trans h

section Publish

variable (libs : HarnessLibs M) (predict : Predictor P) (docType : PyStr)
  (render : AccuracyReport → PyStr)

theorem run_accuracy (fixtures : List Record) (s : Desk P) :
    (∃ raised run, (accuracy faults libs predict docType fixtures).run s =
      .error raised { s with run }) ∨
    (∃ report run, (accuracy faults libs predict docType fixtures).run s =
      .ok report { s with run }) := by
  rw [accuracy, run_focus]
  rcases (runAccuracyStruck faults libs predict docType fixtures).run s.run with
    ⟨report, run⟩ | ⟨exc, run⟩
  · exact Or.inr ⟨report, run, rfl⟩
  · exact Or.inl ⟨raising exc, run, rfl⟩

/-- The two sinks, once the report is rendered. -/
theorem settled_sinks {markdown target : PyStr} {output : ReportFile} {node : FileNode}
    {s s₁ : Desk P} (hblank : s.Blank)
    (hnode : s.files output.path = some node) (hfiles : s₁.files = s.files)
    (hready : s₁.ready = s.ready) (hreplaced : s₁.replaced = s.replaced)
    (hrendered : s₁.rendered = some markdown)
    (hprinted : faults.print = none → s₁.stdout = s.stdout ++ (markdown ++ py "\n")) :
    Settled faults target output.path node output.mode s
      (finalState ((writeReport faults markdown target output).run s₁)) := by
  have hnode₁ : s₁.files output.path = some node := by rw [hfiles, hnode]
  have hsame : ∀ markdown', some markdown = some markdown' → markdown' = markdown :=
    fun _ h => (Option.some.inj h).symm
  have hstdout : ∀ markdown', s₁.rendered = some markdown' → faults.print = none →
      s₁.stdout = s.stdout ++ (markdown' ++ py "\n") := by
    intro markdown' h hprint
    rw [hsame markdown' (hrendered.symm.trans h)]
    exact hprinted hprint
  -- neither end of the file sink touches the standard output
  rcases writeReport_run faults markdown s₁ hnode₁ with
    ⟨files, raised, hrun, hothers, hnot⟩ | ⟨files, bytes, hrun, hencode, htarget, hothers⟩
  · rw [hrun]
    refine ⟨hready, ?_, ?_, ?_, hstdout, ?_⟩
    · intro name hpath _
      exact (hothers name hpath).trans (congrFun hfiles name)
    · intro hne _
      exact (hothers target hne.symm).trans (congrFun hfiles target)
    · intro h
      cases (hreplaced.trans hblank.replaced).symm.trans h
    · intro markdown' h hclear
      rw [hsame markdown' (hrendered.symm.trans h)] at hclear
      exact absurd hclear hnot
  · rw [hrun]
    refine ⟨hready, ?_, ?_, ?_, hstdout, ?_⟩
    · intro name hpath hname
      exact (hothers name hpath hname).trans (congrFun hfiles name)
    · intro _ h
      cases h
    · intro _
      exact ⟨markdown, bytes, hrendered, hencode, htarget⟩
    · intro _ _ _
      rfl

theorem run_renderMarkdown (report : AccuracyReport) (s : Desk P) :
    (renderMarkdown faults render report).run s = match faults.render with
      | some text => .error (raising (.fault text)) s
      | none => .ok (render report) { s with rendered := some (render report) } := rfl

theorem run_tryPrint (markdown : PyStr) (s : Desk P) :
    ∃ error out, (tryPrint faults markdown).run s =
        .ok error { s with stdout := s.stdout ++ out } ∧
      (faults.print = none → out = markdown ++ py "\n") := by
  have hrun : (printMarkdown faults markdown).run s = match faults.print with
      | some (written, text) => .error (raising (.fault text))
          { s with stdout := s.stdout ++ (markdown ++ py "\n").take written }
      | none => .ok () { s with stdout := s.stdout ++ (markdown ++ py "\n") } := rfl
  rw [tryPrint, EStateM.run_tryCatch, EStateM.run_bind, hrun]
  rcases faults.print with _ | ⟨written, text⟩
  · exact ⟨none, markdown ++ py "\n", rfl, fun _ => rfl⟩
  · refine ⟨some (.fault text), (markdown ++ py "\n").take written, rfl, ?_⟩
    intro h
    cases h

theorem finalState_sinks (x : Output P Unit) (stdoutError : Option ReportExc) (s : Desk P) :
    finalState ((do
      tryCatch x fun raised =>
        match stdoutError with
        | some error => throw ⟨raised.exc, some error⟩
        | none => throw raised
      match stdoutError with
      | some error => throw (raising error)
      | none => pure () : Output P Unit).run s) = finalState (x.run s) := by
  rw [EStateM.run_bind, EStateM.run_tryCatch]
  rcases x.run s with ⟨_, s'⟩ | ⟨raised, s'⟩ <;> rcases stdoutError with _ | error <;> rfl

/-- **The body leaves the target as it was, or whole.** -/
theorem publishReport_settled (fixtures : List Record) (target : PyStr) (output : ReportFile)
    {node : FileNode} {s : Desk P} (hblank : s.Blank) (hnode : s.files output.path = some node) :
    Settled faults target output.path node output.mode s (finalState
      ((publishReport faults libs predict docType render fixtures (some target)
        (some output)).run s)) := by
  unfold publishReport
  rw [EStateM.run_bind]
  rcases run_accuracy faults libs predict docType fixtures s with
    ⟨raised, run, hrun⟩ | ⟨report, run, hrun⟩
  · rw [hrun]
    exact settled_of_run faults hblank run
  · rw [hrun]
    rcases hrender : faults.render with _ | text
    · have hnext : (renderMarkdown faults render report).run { s with run } =
          .ok (render report) { s with run, rendered := some (render report) } := by
        rw [run_renderMarkdown, hrender]
      simp only [EStateM.run_bind, hnext]
      obtain ⟨stdoutError, out, hprint, hout⟩ := run_tryPrint faults (render report)
        { s with run, rendered := some (render report) }
      rw [hprint]
      have hsinks := finalState_sinks
        (writeReport faults (render report) target output) stdoutError
        { s with run, rendered := some (render report), stdout := s.stdout ++ out }
      rw [EStateM.run_bind] at hsinks
      rw [hsinks]
      refine settled_sinks faults hblank hnode ?_ ?_ ?_ ?_ ?_
      · rfl
      · rfl
      · rfl
      · rfl
      · intro hnone
        exact congrArg (s.stdout ++ ·) (hout hnone)
    · have hnext : (renderMarkdown faults render report).run { s with run } =
          .error (raising (.fault text)) { s with run } := by
        rw [run_renderMarkdown, hrender]
      simp only [EStateM.run_bind, hnext]
      exact settled_of_run faults hblank run

end Publish

/-! ## The temporary file -/

theorem checkTarget_run (target : PyStr) (s : Desk P) :
    (∃ raised, (checkTarget faults target).run s = .error raised s) ∨
    (∃ mode, (checkTarget faults target).run s = .ok mode s ∧
      ∀ node, s.files target = some node → mode = some node.mode) := by
  unfold checkTarget
  rw [EStateM.run_bind, run_attempt]
  rcases faults.exist with _ | text
  · simp only [EStateM.run_bind, EStateM.run_get, id]
    rcases hnode : s.files target with _ | node
    · right
      refine ⟨none, rfl, ?_⟩
      intro node h
      cases h
    · simp only [EStateM.run_bind, run_attempt]
      rcases faults.stat with _ | text
      · rcases hkind : node.kind
        · simp only [EStateM.run_bind, run_attempt]
          rcases faults.openTarget with _ | text
          · right
            refine ⟨some node.mode, rfl, ?_⟩
            intro node' h
            cases h
            rfl
          · exact Or.inl ⟨raising (.fault text), rfl⟩
        · exact Or.inl ⟨raising .isADirectoryError, rfl⟩
        · exact Or.inl ⟨raising .notRegular, rfl⟩
      · exact Or.inl ⟨raising (.fault text), rfl⟩
  · exact Or.inl ⟨raising (.fault text), rfl⟩

/-- The file that `mkstemp` makes. -/
def emptyTemporary : FileNode := { kind := .regular, content := [], mode := 0o600 }

theorem run_reserve (path : PyStr) (s : Desk P) :
    (reserve faults path).run s = match faults.reserve with
      | some (written, text) => .error (raising (.fault text))
          (s.writeBytes path ((utf8SurrogatePass (py "\n")).take written))
      | none => .ok () (s.writeBytes path (utf8SurrogatePass (py "\n"))) := rfl

theorem mkstemp_run (draws : List PyStr) (s : Desk P) :
    (∃ raised, (mkstemp faults draws).run s = .error raised s) ∨
    (∃ name, drawn s.files draws = some name ∧
      (mkstemp faults draws).run s = .ok name (s.put name (some emptyTemporary))) := by
  show (∃ raised, mkstemp faults draws s = .error raised s) ∨ (∃ name, _ ∧
    mkstemp faults draws s = .ok name (s.put name (some emptyTemporary)))
  unfold mkstemp
  rcases faults.mkstemp with _ | text
  · rcases hdrawn : drawn s.files draws with _ | name
    · exact Or.inl ⟨_, rfl⟩
    · exact Or.inr ⟨name, rfl, rfl⟩
  · exact Or.inl ⟨_, rfl⟩

theorem files_drawn {files : PyStr → Option FileNode} {draws : List PyStr} {name : PyStr}
    (h : drawn files draws = some name) : files name = none := by
  simpa using List.find?_some h

end Steps

/-! ## The run -/

/-- What a run leaves of the target, of the files beside it and of the standard output. -/
structure Published (faults : Faults) (target : PyStr) (s s' : Desk P) : Prop where
  previous : s'.replaced = false → s'.files target = s.files target
  complete : s'.replaced = true → ∃ markdown bytes node, s'.rendered = some markdown ∧
    utf8 (markdown ++ py "\n") = some bytes ∧
    s'.files target = some node ∧ node.kind = .regular ∧ node.content = bytes
  siblings : ∀ name, name ≠ target → s'.files name = s.files name
  mode : ∀ node, s.files target = some node →
    ∃ node', s'.files target = some node' ∧ node'.mode = node.mode
  prepared : s'.ready = false → s'.run.called = s.run.called
  printed : ∀ markdown, s'.rendered = some markdown → faults.print = none →
    s'.stdout = s.stdout ++ (markdown ++ py "\n")
  published : ∀ markdown, s'.rendered = some markdown → Clear faults markdown →
    s'.replaced = true

section Run

variable {faults : Faults} {target : PyStr}

theorem published_of_unrendered {s s' : Desk P} (hblank : s'.Blank) (hfiles : s'.files = s.files)
    (hcalled : s'.ready = false → s'.run.called = s.run.called) :
    Published faults target s s' where
  previous _ := congrFun hfiles target
  complete h := by cases hblank.replaced.symm.trans h
  siblings name _ := congrFun hfiles name
  mode node hnode := ⟨node, (congrFun hfiles target).trans hnode, rfl⟩
  prepared := hcalled
  printed markdown h := by cases hblank.rendered.symm.trans h
  published markdown h := by cases hblank.rendered.symm.trans h

/-- The temporary file goes whatever the body left of it.  Where it is the target itself, that
    leaves the target absent, as it was. -/
theorem published_of_settled {s s₁ s₂ : Desk P} {temporary : PyStr} {node : FileNode}
    {mode : Option (Fin 4096)} (hkept : temporary ≠ target ∨ s₂.replaced = false)
    (hfresh : s.files temporary = none)
    (hsettled : Settled faults target temporary node mode s₁ s₂)
    (hkind : node.kind = .regular) (hready : s₁.ready = true) (hstdout : s₁.stdout = s.stdout)
    (hfiles : ∀ name, name ≠ temporary → s₁.files name = s.files name)
    (hmode : ∀ node, s.files target = some node → mode = some node.mode) :
    Published faults target s (s₂.put temporary none) := by
  have hprevious : s₂.replaced = false → (s₂.put temporary none).files target = s.files target := by
    intro hreplaced
    by_cases hne : temporary = target
    · rw [← hne, Desk.put_files_self, hfresh]
    · rw [Desk.put_files_of_ne (Ne.symm hne), hsettled.previous hne hreplaced,
        hfiles target (Ne.symm hne)]
  have hcomplete : s₂.replaced = true → ∃ markdown bytes, s₂.rendered = some markdown ∧
      utf8 (markdown ++ py "\n") = some bytes ∧ (s₂.put temporary none).files target =
        some { node with content := bytes, mode := mode.getD node.mode } := by
    intro hreplaced
    obtain ⟨markdown, bytes, hrendered, hencode, htarget⟩ := hsettled.complete hreplaced
    rcases hkept with hne | hnever
    · exact ⟨markdown, bytes, hrendered, hencode,
        (Desk.put_files_of_ne (Ne.symm hne) none).trans htarget⟩
    · cases hnever.symm.trans hreplaced
  -- `complete`, `siblings`, `mode`, `prepared` and `printed`
  refine ⟨hprevious, ?_, ?_, ?_, ?_, ?_, hsettled.published⟩
  · intro hreplaced
    obtain ⟨markdown, bytes, hrendered, hencode, htarget⟩ := hcomplete hreplaced
    exact ⟨markdown, bytes, _, hrendered, hencode, htarget, hkind, rfl⟩
  · intro name hname
    by_cases hpath : name = temporary
    · rw [hpath, Desk.put_files_self, hfresh]
    · rw [Desk.put_files_of_ne hpath, hsettled.others name hpath hname, hfiles name hpath]
  · intro old hold
    cases hreplaced : s₂.replaced with
    | false => exact ⟨old, (hprevious hreplaced).trans hold, rfl⟩
    | true =>
      obtain ⟨markdown, bytes, -, -, htarget⟩ := hcomplete hreplaced
      refine ⟨_, htarget, ?_⟩
      rw [hmode old hold]
      rfl
  · intro h
    cases (hsettled.ready.trans hready).symm.trans h
  · intro markdown hrendered hprint
    rw [← hstdout]
    exact hsettled.printed markdown hrendered hprint

variable (libs : HarnessLibs M) (predict : Predictor P) (docType : PyStr)
  (render : AccuracyReport → PyStr)

variable (faults target) in
/-- The `with` statement ends where it began, or by unlinking the temporary file that it drew. -/
theorem preparedReport_run (draws : List PyStr) (fixtures : List Record) {s : Desk P}
    (hblank : s.Blank) :
    let s' := finalState ((preparedReport faults draws (some target)
      (publishReport faults libs predict docType render fixtures (some target))).run s)
    s' = s ∨ ∃ temporary, ∃ t : Desk P, drawn s.files draws = some temporary ∧
      s' = t.put temporary none ∧
      (temporary ≠ target ∨ t.replaced = false → Published faults target s s') := by
  simp only [preparedReport, EStateM.run_bind, run_attempt]
  -- every failure before `mkstemp` leaves the files as they were
  rcases faults.mkdir with _ | text
  · rcases checkTarget_run faults target s with
      ⟨raised, hcheck⟩ | ⟨mode, hcheck, hmode⟩
    · simp only [id, hcheck]
      exact Or.inl rfl
    · simp only [id, hcheck]
      rcases mkstemp_run faults draws s with
        ⟨raised, hmake⟩ | ⟨temporary, hname, hmake⟩
      · simp only [hmake]
        exact Or.inl rfl
      · have hfresh := files_drawn hname
        simp only [hmake, unlink, finalState_finallyDo, EStateM.run_bind, run_reserve]
        -- from here on the temporary file exists, and `finally` unlinks it
        have hbeside : ∀ (bytes : List Byte) (name : PyStr), name ≠ temporary →
            ((s.put temporary (some emptyTemporary)).writeBytes temporary bytes).files name =
              s.files name := by
          intro bytes name hpath
          rw [Desk.writeBytes, Desk.put_files_of_ne hpath, Desk.put_files_of_ne hpath]
        rcases faults.reserve with _ | ⟨written, text⟩
        · have hnode : ∀ bytes, ((s.put temporary (some emptyTemporary)).writeBytes temporary
              bytes).files temporary = some { emptyTemporary with content := bytes } := by
            intro bytes
            rw [Desk.writeBytes, Desk.put_files_self, Desk.put_files_self]
            rfl
          have hsettled := publishReport_settled faults libs predict docType render
            fixtures target ⟨temporary, mode⟩
            (s := { (s.put temporary (some emptyTemporary)).writeBytes temporary
              (utf8SurrogatePass (py "\n")) with ready := true })
            ⟨hblank.rendered, hblank.replaced⟩ (hnode _)
          refine Or.inr ⟨temporary, _, hname, rfl, fun hkept => ?_⟩
          apply published_of_settled hkept hfresh hsettled
          · rfl
          · rfl
          · rfl
          · exact hbeside _
          · exact hmode
        · refine Or.inr ⟨temporary, _, hname, rfl, fun _ => ?_⟩
          apply published_of_unrendered
          · exact ⟨hblank.rendered, hblank.replaced⟩
          · funext name
            by_cases hpath : name = temporary
            · rw [hpath, finalState_error, Desk.put_files_self, hfresh]
            · rw [finalState_error, Desk.put_files_of_ne hpath, hbeside _ name hpath]
          · intro _
            rfl
  · exact Or.inl rfl

/-- **The `with` statement keeps what `Published` says, except where it replaces the target by a
    temporary file of the target's own name.** -/
theorem preparedReport_published_iff (draws : List PyStr) (fixtures : List Record) {s : Desk P}
    (hblank : s.Blank) :
    let s' := finalState ((preparedReport faults draws (some target)
      (publishReport faults libs predict docType render fixtures (some target))).run s)
    Published faults target s s' ↔ drawn s.files draws ≠ some target ∨ s'.replaced = false := by
  intro s'
  rcases preparedReport_run faults target libs predict docType render draws fixtures hblank with
    hnothing | ⟨temporary, t, hname, hend, hkept⟩
  · have hsame : s' = s := hnothing
    rw [hsame]
    exact iff_of_true (published_of_unrendered hblank rfl fun _ => rfl) (Or.inr hblank.replaced)
  · constructor
    · intro hpublished
      refine or_iff_not_imp_left.mpr fun hsame => ?_
      have htarget : temporary = target := Option.some.inj (hname.symm.trans (not_not.mp hsame))
      -- the file that is unlinked at the end would be the report
      by_contra hreplaced
      obtain ⟨_, _, node, -, -, hnode, -⟩ :=
        hpublished.complete (Bool.eq_true_of_not_eq_false hreplaced)
      have hgone : s'.files target = none := by
        rw [show s' = t.put temporary none from hend, htarget, Desk.put_files_self]
      cases hgone.symm.trans hnode
    · rintro (hdraw | hreplaced)
      · exact hkept (Or.inl fun htarget => hdraw (htarget ▸ hname))
      · exact hkept (Or.inr ((congrArg Desk.replaced hend).symm.trans hreplaced))

theorem finalState_bind_pure {β : Type} (x : Output P α) (b : β) (s : Desk P) :
    finalState ((x >>= fun _ => (pure b : Output P β)).run s) = finalState (x.run s) := by
  rw [EStateM.run_bind]
  cases x.run s <;> rfl

/-- **A run of `main` publishes the report whole or leaves the target alone exactly when the
    temporary name is not the target's own or nothing is replaced.** -/
theorem harnessMain_published_iff (faults : Faults) (draws : List PyStr) (args : Arguments)
    (target : PyStr) (hout : args.target = some target) (files : PyStr → Option FileNode)
    (stdout provider : PyStr) (memory : P) :
    let s' := finalState ((harnessMain faults draws libs predict render args).run
      (Desk.start files stdout provider memory))
    Published faults target (Desk.start files stdout provider memory) s' ↔
      drawn files draws ≠ some target ∨ s'.replaced = false := by
  have hblank : (Desk.start files stdout provider memory).Blank := ⟨rfl, rfl⟩
  -- before the sink is prepared nothing is written
  have hsay : ∀ text, let s' := finalState ((say text).run
        (Desk.start files stdout provider memory))
      Published faults target (Desk.start files stdout provider memory) s' ↔
        drawn files draws ≠ some target ∨ s'.replaced = false := fun text =>
    iff_of_true (published_of_unrendered ⟨rfl, rfl⟩ rfl fun _ => rfl) (Or.inr rfl)
  unfold harnessMain
  rcases loadReviewedFixtures libs args.docType args.tree with raised | fixtures
  · exact iff_of_true (published_of_unrendered hblank rfl fun _ => rfl) (Or.inr rfl)
  · simp only
    split
    · rw [finalState_bind_pure]
      exact hsay _
    · split
      · rw [finalState_bind_pure]
        exact hsay _
      · split
        · rw [finalState_bind_pure]
          exact hsay _
        · rw [finalState_bind_pure, hout]
          exact preparedReport_published_iff libs predict args.docType render draws fixtures hblank

/-- **A run of `main` with a target publishes the report whole or leaves the target alone,
    whichever steps fail, if the temporary name is not the target's own.** -/
theorem harnessMain_published (faults : Faults) (draws : List PyStr) (args : Arguments)
    (target : PyStr) (hout : args.target = some target) (files : PyStr → Option FileNode)
    (stdout provider : PyStr) (memory : P) (hdraw : drawn files draws ≠ some target) :
    Published faults target (Desk.start files stdout provider memory)
      (finalState ((harnessMain faults draws libs predict render args).run
        (Desk.start files stdout provider memory))) :=
  (harnessMain_published_iff libs predict render faults draws args target hout files stdout provider
    memory).mpr (Or.inl hdraw)

end Run

/-! ## A target that is named like a temporary file -/

/-- A live run over one fixture. -/
def singleArguments (target : PyStr) : Arguments where
  docType := py "invoice"
  live := true
  target := some target
  apiKey := py "k"
  tree := singleTree ["invoices"]

section Single

variable (draws : List PyStr) (target : PyStr)

/-- A live run that no fault strikes. -/
def singleMain : Output Unit ℕ :=
  harnessMain {} draws sampleHarnessLibs samplePredict (fun _ => []) (singleArguments target)

def singlePublish (output : Option ReportFile) : Output Unit Unit :=
  publishReport {} sampleHarnessLibs samplePredict (py "invoice") (fun _ => [])
    [sampleFixture "a"] (some target) output

theorem finalState_singleMain (s : Desk Unit) :
    finalState ((singleMain draws target).run s) =
      finalState ((preparedReport {} draws (some target) (singlePublish target)).run s) := by
  have hload : loadReviewedFixtures sampleHarnessLibs (py "invoice") (singleTree ["invoices"]) =
      .ok [sampleFixture "a"] := rfl
  have hkey : (strip (py "k")).isEmpty = false := by decide
  simp only [singleMain, harnessMain, singleArguments, hload, List.isEmpty_cons, hkey,
    Bool.false_eq_true, if_false, Bool.not_true]
  exact finalState_bind_pure _ _ s

/-- It gets as far as the replacement. -/
theorem replaced_singlePublish (output : ReportFile) (s : Desk Unit)
    (h : s.run = RunState.start (py "openai") ()) :
    (finalState ((singlePublish target (some output)).run s)).replaced = true := by
  have haccuracy : ∃ report run, (accuracy {} sampleHarnessLibs samplePredict (py "invoice")
      [sampleFixture "a"]).run s = .ok report { s with run } := by
    obtain ⟨run, hrun, -, -⟩ := run_runAccuracy sampleHarnessLibs samplePredict
      (preflight_sampleFixture "a") (py "openai") ()
    rw [accuracy, run_focus,
      runAccuracyStruck_of_none sampleHarnessLibs samplePredict _ fun _ => rfl, run_focus, h]
    simp only [id, hrun]
    exact ⟨_, run, rfl⟩
  obtain ⟨report, run, hrun⟩ := haccuracy
  rw [singlePublish, publishReport, EStateM.run_bind, hrun]
  obtain ⟨path, mode⟩ := output
  cases mode <;> rfl

end Single

theorem harnessMain_published_sample :
    drawn (fun _ => none) [py "aaaaaaaa"] ≠ some (py "report.md") ∧
      Published {} (py "report.md") (Desk.start (fun _ => none) [] (py "openai") ())
        (finalState ((harnessMain {} [py "aaaaaaaa"] sampleHarnessLibs samplePredict (fun _ => [])
          (singleArguments (py "report.md"))).run
            (Desk.start (fun _ => none) [] (py "openai") ()))) := by
  have hdraw : drawn (fun _ => none) [py "aaaaaaaa"] ≠ some (py "report.md") := by decide
  exact ⟨hdraw, harnessMain_published sampleHarnessLibs samplePredict (fun _ => []) {} _ _ _ rfl _
    _ _ _ hdraw⟩

/-- The report is written, moved onto itself, and unlinked. -/
theorem report_lost_to_its_name :
    ∃ target, ¬ Published {} target (Desk.start (fun _ => none) [] (py "openai") ())
      (finalState ((singleMain [py "aaaaaaaa"] target).run
        (Desk.start (fun _ => none) [] (py "openai") ()))) := by
  refine ⟨temporaryName (py "aaaaaaaa"), ?_⟩
  intro h
  have hcheck : (checkTarget {} (temporaryName (py "aaaaaaaa"))).run
      (Desk.start (fun _ => none) [] (py "openai") ()) =
        .ok none (Desk.start (fun _ => none) [] (py "openai") ()) := rfl
  have hmake : (mkstemp {} [py "aaaaaaaa"]).run (Desk.start (fun _ => none) [] (py "openai") ()) =
      .ok (temporaryName (py "aaaaaaaa")) ((Desk.start (fun _ => none) [] (py "openai") ()).put
        (temporaryName (py "aaaaaaaa")) (some emptyTemporary)) := rfl
  rw [finalState_singleMain] at h
  generalize temporaryName (py "aaaaaaaa") = target at h hcheck hmake
  have hreserve : ∀ s : Desk Unit, (reserve {} target).run s =
      .ok () (s.writeBytes target (utf8SurrogatePass (py "\n"))) := fun _ => rfl
  simp only [preparedReport, EStateM.run_bind, run_attempt, id, hcheck, hmake, unlink,
    finalState_finallyDo, hreserve, EStateM.run_modify] at h
  have hcomplete := h.complete
  rw [Desk.put_replaced, replaced_singlePublish target ⟨target, none⟩ _
    (by simp only [Desk.writeBytes, Desk.put, Desk.start])] at hcomplete
  obtain ⟨markdown, bytes, node, -, -, hnode, -⟩ := hcomplete rfl
  rw [Desk.put_files_self] at hnode
  cases hnode

end ExtractApi.ReportOutput
