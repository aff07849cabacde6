import ExtractApi.LoadedJson
import ExtractApi.Observability

/-!
# The log formatters (`api/observability.py`)

A record is formatted by every handler it reaches, and `logging.Formatter.format` leaves a
cache in it.  Records that `Agree` on what a line may show are written alike by the two
formatters of the service, whatever other handlers left in them.
-/

namespace ExtractApi.LogFormat

open PythonText RaisingProgram LoadedJson

/-- An attribute of a record.  A list or tuple is its items; any other object is its truth
    value and what `str()` makes of it. -/
inductive Attr where
  | none
  | bool (b : Bool)
  | int (n : ℤ)
  | float (x : PyFloat)
  | str (s : PyStr)
  | seq (items : List Attr)
  | other (truthy : Bool) (text : Except PyStr PyStr)

structure Frame where
  filename : PyStr
  lineno : Option ℕ
  name : PyStr
deriving DecidableEq, Repr

/-- `exc_info`: the name of the type, the exception's own text, and the traceback. -/
structure ExcInfo where
  type : Option PyStr
  message : PyStr
  frames : List Frame
deriving DecidableEq, Repr

/-- A `logging.LogRecord`.  `getMessage` is what `msg % args` comes to; exceptions are class
    names. -/
structure LogRecord where
  level : PyStr
  logger : PyStr
  created : ℚ
  msecs : ℚ
  getMessage : Except PyStr PyStr
  getattr : String → Option Attr
  excInfo : Option ExcInfo
  excText : Option PyStr
  stackInfo : Option PyStr
  message : Option PyStr
  asctime : Option PyStr

abbrev Formatting := EStateM PyStr LogRecord

/-- What the formatters call: times, numbers and tracebacks as text. -/
structure LogLibs where
  isoTime : ℚ → Except PyStr PyStr
  formatTime : ℚ → ℚ → Except PyStr PyStr
  intRepr : ℤ → Except PyStr PyStr
  floatRepr : PyFloat → PyStr
  formatException : ExcInfo → Except PyStr PyStr

def raiseOrReturn {α : Type} : Except PyStr α → Formatting α
  | .ok a => pure a
  | .error e => throw e

variable (libs : LogLibs)

/-! ### `logging.Formatter` -/

/-- A part of the text starts a line of its own, if there is any. -/
def addPart (line : PyStr) : Option PyStr → PyStr
  | some part =>
      if part.isEmpty then line
      else if line.getLast? = some (CodePoint.ofChar '\n') then line ++ part
      else line ++ py "\n" ++ part
  | none => line

/-- `if record.exc_info and not record.exc_text: record.exc_text = …` -/
def cacheException : Formatting Unit := do
  match (← get).excInfo with
  | none => return ()
  | some info =>
      if ((← get).excText.getD []).isEmpty then do
        let text ← raiseOrReturn (libs.formatException info)
        modify fun r => { r with excText := some text }

/-- `logging.Formatter.format` with the format
    `%(asctime)s %(levelname)s %(name)s %(message)s` -/
def baseFormat : Formatting PyStr := do
  let r ← get
  let message ← raiseOrReturn r.getMessage
  modify fun r => { r with message := some message }
  let asctime ← raiseOrReturn (libs.formatTime r.created r.msecs)
  modify fun r => { r with asctime := some asctime }
  cacheException libs
  let cached ← get
  return addPart (addPart (asctime ++ py " " ++ r.level ++ py " " ++ r.logger ++ py " " ++ message)
    cached.excText) r.stackInfo

/-! ### The formatters of the service -/

/-- `f"{f.filename}:{f.lineno} in {f.name}"` -/
def Frame.text (f : Frame) : PyStr :=
  f.filename ++ py ":" ++ (match f.lineno with
    | some n => decimal n
    | none => py "None") ++ py " in " ++ f.name

/-- `_redacted_exc`, of an `exc_info` that has a type -/
def redactedExc : Option ExcInfo → Option (PyStr × List PyStr)
  | some info => info.type.map fun type =>
      (type, (info.frames.map Frame.text).drop (info.frames.length - 12))
  | none => none

/-- `line += "\n" + exc_type + "".join(f"\n  {f}" for f in frames)` -/
def appendExc (line : PyStr) : Option (PyStr × List PyStr) → PyStr
  | some (type, frames) =>
      line ++ py "\n" ++ type ++ frames.flatMap fun f => py "\n  " ++ f
  | none => line

/-- `TextFormatter.format`, over the `format` of its base class -/
def textFormat (base : Formatting PyStr) : Formatting PyStr := do
  let excInfo := (← get).excInfo
  let excText := (← get).excText
  modify fun r => { r with excInfo := none, excText := none }
  let line ← finallyDo base (modify fun r => { r with excInfo, excText })
  return appendExc line (redactedExc excInfo)

mutual

/-- `_scalar` -/
def scalar : Attr → Except PyStr Attr
  | .str s => .ok (.str (s.take 256))
  | .seq items => (scalarItems 32 items).map .seq
  | .other _ text => text.map fun s => .str (s.take 256)
  | value => .ok value

def scalarItems : ℕ → List Attr → Except PyStr (List Attr)
  | n + 1, item :: items => do
      let first ← scalar item
      let rest ← scalarItems n items
      return first :: rest
  | _, _ => .ok []

end

mutual

/-- `json.dumps` of a value, with `separators=(",", ":")` and `ensure_ascii` -/
def dumps : Attr → Except PyStr PyStr
  | .none => .ok (py "null")
  | .bool b => .ok (if b then py "true" else py "false")
  | .int n => libs.intRepr n
  | .float x => .ok (libs.floatRepr x)
  | .str s => .ok (asciiJsonString s)
  | .seq items => (dumpsItems items).map fun texts =>
      py "[" ++ List.intercalate (py ",") texts ++ py "]"
  | .other _ _ => .error (py "TypeError")

def dumpsItems : List Attr → Except PyStr (List PyStr)
  | [] => .ok []
  | item :: items => do
      let first ← dumps item
      let rest ← dumpsItems items
      return first :: rest

end

/-- `json.dumps` of the dictionary -/
def dumpsFields : List (String × Attr) → Except PyStr (List PyStr)
  | [] => .ok []
  | (name, value) :: fields => do
      let text ← dumps libs value
      let rest ← dumpsFields fields
      return (asciiJsonString (py name) ++ py ":" ++ text) :: rest

def Attr.truthy : Attr → Bool
  | .none => false
  | .bool b => b
  | .int n => decide (n ≠ 0)
  | .float x => decide (x ≠ .finite 0)
  | .str s => !s.isEmpty
  | .seq items => !items.isEmpty
  | .other truthy _ => truthy

/-- `getattr(record, "request_id", None) or _request_id.get()`, if it is true -/
def lineId (noted : Option Attr) (current : Option PyStr) : Option Attr :=
  match noted with
  | some value => if value.truthy then some value else fallback
  | none => fallback
where
  fallback : Option Attr := match current with
    | some id => if id.isEmpty then none else some (.str id)
    | none => none

/-- The allowlisted fields that the record has. -/
def allowedFields (getattr : String → Option Attr) :
    List String → Except PyStr (List (String × Attr))
  | [] => .ok []
  | name :: names =>
      if name = "request_id" then allowedFields getattr names
      else match getattr name with
        | some value => do
            let bounded ← scalar value
            let rest ← allowedFields getattr names
            return (name, bounded) :: rest
        | none => allowedFields getattr names

/-- `JsonFormatter.format`, in a context with the request id `current` -/
def jsonFormat (current : Option PyStr) (r : LogRecord) : Except PyStr PyStr := do
  let ts ← libs.isoTime r.created
  let msg ← r.getMessage
  let allowed ← allowedFields r.getattr ALLOWED_FIELDS
  let texts ← dumpsFields libs
    ([("ts", .str ts), ("level", .str r.level), ("logger", .str r.logger), ("msg", .str msg)] ++
      (lineId (r.getattr "request_id") current).toList.map (fun id => ("request_id", id)) ++
      allowed ++
      match redactedExc r.excInfo with
      | some (type, frames) => [("exc_type", .str type), ("stack", .seq (frames.map .str))]
      | none => [])
  return py "\x7b" ++ List.intercalate (py ",") texts ++ py "\x7d"

/-! ### What a formatter reads -/

/-- What is read of an exception: its type and its traceback. -/
def ExcInfo.shape (info : ExcInfo) : Option PyStr × List Frame := (info.type, info.frames)

/-- The records agree on what a line may show.  The stack of a record is shown as it is, and is
    among what they agree on. -/
structure Agree (r r' : LogRecord) : Prop where
  level : r.level = r'.level
  logger : r.logger = r'.logger
  created : r.created = r'.created
  msecs : r.msecs = r'.msecs
  getMessage : r.getMessage = r'.getMessage
  allowed : ∀ name ∈ ALLOWED_FIELDS, r.getattr name = r'.getattr name
  exception : r.excInfo.map ExcInfo.shape = r'.excInfo.map ExcInfo.shape
  stackInfo : r.stackInfo = r'.stackInfo

theorem redactedExc_congr {info info' : Option ExcInfo}
    (h : info.map ExcInfo.shape = info'.map ExcInfo.shape) :
    redactedExc info = redactedExc info' := by
  have hshape : ∀ info, redactedExc info = (info.map ExcInfo.shape).bind fun shape =>
      shape.1.map fun type => (type, (shape.2.map Frame.text).drop (shape.2.length - 12)) := by
    intro info
    cases info <;> rfl
  rw [hshape, hshape, h]

theorem allowedFields_congr {f g : String → Option Attr} {names : List String}
    (h : ∀ name ∈ names, f name = g name) : allowedFields f names = allowedFields g names := by
  induction names with
  | nil => rfl
  | cons name names ih =>
    have hrest : allowedFields f names = allowedFields g names :=
      ih fun name hname => h name (List.mem_cons_of_mem _ hname)
    rw [allowedFields, allowedFields, hrest, h name List.mem_cons_self]

theorem jsonFormat_congr (current : Option PyStr) {r r' : LogRecord} (h : Agree r r') :
    jsonFormat libs current r = jsonFormat libs current r' := by
  have hid : r.getattr "request_id" = r'.getattr "request_id" := h.allowed _ (by decide)
  unfold jsonFormat
  rw [h.created, h.getMessage, h.level, h.logger, allowedFields_congr h.allowed, hid,
    redactedExc_congr h.exception]

/-- The line of a record that shows no exception. -/
def plainLine (r : LogRecord) : Except PyStr PyStr := do
  let message ← r.getMessage
  let asctime ← libs.formatTime r.created r.msecs
  return addPart (asctime ++ py " " ++ r.level ++ py " " ++ r.logger ++ py " " ++ message)
    r.stackInfo

/-- **What the base class makes of a record whose exception is hidden.** -/
theorem answerOf_baseFormat (r : LogRecord) :
    answerOf ((baseFormat libs).run { r with excInfo := none, excText := none }) =
      plainLine libs r := by
  have hcache : ∀ r : LogRecord, r.excInfo = none → (cacheException libs).run r = .ok () r := by
    intro r h
    simp only [cacheException, EStateM.run_bind, EStateM.run_get, h]
    rfl
  simp only [baseFormat, plainLine, EStateM.run_bind, EStateM.run_get]
  rcases r.getMessage with e | message
  · rfl
  · rcases libs.formatTime r.created r.msecs with e | asctime
    · rfl
    · simp only [raiseOrReturn, EStateM.run_pure, EStateM.run_modify, hcache]
      rfl

/-- `TextFormatter` as a function of what the base class makes of the hidden record. -/
theorem answerOf_textFormat (base : Formatting PyStr) (r : LogRecord) :
    answerOf ((textFormat base).run r) =
      (answerOf (base.run { r with excInfo := none, excText := none })).map fun line =>
        appendExc line (redactedExc r.excInfo) := by
  simp only [textFormat, EStateM.run_bind, EStateM.run_get, EStateM.run_modify, run_finallyDo]
  rcases base.run { r with excInfo := none, excText := none } with ⟨line, r'⟩ | ⟨e, r'⟩ <;> rfl

theorem textFormat_congr {r r' : LogRecord} (h : Agree r r') :
    answerOf ((textFormat (baseFormat libs)).run r) =
      answerOf ((textFormat (baseFormat libs)).run r') := by
  have hplain : plainLine libs r = plainLine libs r' := by
    unfold plainLine
    rw [h.getMessage, h.created, h.msecs, h.level, h.logger, h.stackInfo]
  rw [answerOf_textFormat, answerOf_textFormat, answerOf_baseFormat, answerOf_baseFormat, hplain,
    redactedExc_congr h.exception]

theorem finalState_textFormat (base : Formatting PyStr) (r : LogRecord) :
    finalState ((textFormat base).run r) =
      { finalState (base.run { r with excInfo := none, excText := none }) with
        excInfo := r.excInfo, excText := r.excText } := by
  simp only [textFormat, EStateM.run_bind, EStateM.run_get, EStateM.run_modify, run_finallyDo]
  rcases base.run { r with excInfo := none, excText := none } with ⟨line, r'⟩ | ⟨e, r'⟩ <;> rfl

/-- **`TextFormatter` gives back the exception it hides, whatever the base class does.** -/
theorem textFormat_restores (base : Formatting PyStr) (r : LogRecord) :
    (finalState ((textFormat base).run r)).excInfo = r.excInfo ∧
      (finalState ((textFormat base).run r)).excText = r.excText := by
  rw [finalState_textFormat]
  exact ⟨rfl, rfl⟩

/-! ### Several handlers -/

/-- The handlers a record meets: ours, in one of its two formats, and one with a plain
    `logging.Formatter`. -/
inductive Handler where
  | text
  | json
  | plain
deriving DecidableEq, Repr

def Handler.format (current : Option PyStr) : Handler → Formatting PyStr
  | .text => textFormat (baseFormat libs)
  | .json => fun r => outcomeIn r (jsonFormat libs current r)
  | .plain => baseFormat libs

/-- The lines of our handlers.  A formatter that raises does not keep the record from the
    handlers after it. -/
def ownLines (current : Option PyStr) : List Handler → LogRecord → List (Except PyStr PyStr)
  | [], _ => []
  | handler :: handlers, r =>
      let result := (handler.format libs current).run r
      (if handler = .plain then [] else [answerOf result]) ++
        ownLines current handlers (finalState result)

/-- The record without what formatters leave in it. -/
def LogRecord.core (r : LogRecord) : LogRecord :=
  { r with excText := none, message := none, asctime := none }

theorem agree_of_core {r r' : LogRecord} (h : r.core = r'.core) : Agree r r' := by
  simp only [LogRecord.core, LogRecord.mk.injEq] at h
  obtain ⟨hlevel, hlogger, hcreated, hmsecs, hmessage, hgetattr, hexc, -, hstack, -⟩ := h
  exact ⟨hlevel, hlogger, hcreated, hmsecs, hmessage, fun name _ => congrFun hgetattr name,
    congrArg (Option.map ExcInfo.shape) hexc, hstack⟩

theorem Agree.symm {r r' : LogRecord} (h : Agree r r') : Agree r' r where
  level := h.level.symm
  logger := h.logger.symm
  created := h.created.symm
  msecs := h.msecs.symm
  getMessage := h.getMessage.symm
  allowed name hname := (h.allowed name hname).symm
  exception := h.exception.symm
  stackInfo := h.stackInfo.symm

theorem Agree.trans {r r' r'' : LogRecord} (h : Agree r r') (h' : Agree r' r'') : Agree r r'' where
  level := h.level.trans h'.level
  logger := h.logger.trans h'.logger
  created := h.created.trans h'.created
  msecs := h.msecs.trans h'.msecs
  getMessage := h.getMessage.trans h'.getMessage
  allowed name hname := (h.allowed name hname).trans (h'.allowed name hname)
  exception := h.exception.trans h'.exception
  stackInfo := h.stackInfo.trans h'.stackInfo

theorem raiseOrReturn_keeps {α : Type} (x : Except PyStr α) :
    Keeps LogRecord.core (raiseOrReturn x) := by
  rcases x with e | a
  · exact Keeps.throw e
  · exact Keeps.pure a

theorem get_keeps : Keeps LogRecord.core (get : Formatting LogRecord) := fun _ => rfl

theorem cacheException_keeps : Keeps LogRecord.core (cacheException libs) := by
  apply Keeps.bind get_keeps
  intro r
  split
  · exact Keeps.pure _
  · apply Keeps.bind get_keeps
    intro r'
    split
    · apply Keeps.bind (raiseOrReturn_keeps _)
      intro text
      exact Keeps.modify fun _ => rfl
    · exact Keeps.pure _

theorem baseFormat_keeps : Keeps LogRecord.core (baseFormat libs) := by
  apply Keeps.bind get_keeps
  intro r
  apply Keeps.bind (raiseOrReturn_keeps _)
  intro message
  refine Keeps.bind (Keeps.modify ?_) ?_
  · intro r'
    rfl
  intro _
  apply Keeps.bind (raiseOrReturn_keeps _)
  intro asctime
  refine Keeps.bind (Keeps.modify ?_) ?_
  · intro r'
    rfl
  intro _
  apply Keeps.bind (cacheException_keeps libs)
  intro _
  apply Keeps.bind get_keeps
  intro cached
  exact Keeps.pure _

theorem agree_format (current : Option PyStr) (handler : Handler) (r : LogRecord) :
    Agree r (finalState ((handler.format libs current).run r)) := by
  cases handler with
  | text =>
    have hagree := agree_of_core (baseFormat_keeps libs { r with excInfo := none, excText := none })
    show Agree r (finalState ((textFormat (baseFormat libs)).run r))
    rw [finalState_textFormat]
    exact { hagree.symm with exception := rfl }
  | json =>
    show Agree r (finalState (outcomeIn r (jsonFormat libs current r)))
    rw [finalState_outcomeIn]
    exact agree_of_core rfl
  | plain => exact (agree_of_core (baseFormat_keeps libs r)).symm

/-- **In any order of handlers, our lines show nothing that the records do not agree on.** -/
theorem ownLines_congr (current : Option PyStr) (handlers : List Handler) {r r' : LogRecord}
    (h : Agree r r') : ownLines libs current handlers r = ownLines libs current handlers r' := by
  induction handlers generalizing r r' with
  | nil => rfl
  | cons handler handlers ih =>
    have hnext : Agree (finalState ((handler.format libs current).run r))
        (finalState ((handler.format libs current).run r')) :=
      ((agree_format libs current handler r).symm.trans h).trans
        (agree_format libs current handler r')
    simp only [ownLines]
    rw [ih hnext]
    cases handler with
    | text => rw [Handler.format, textFormat_congr libs h]
    | json =>
      have hline : ∀ r : LogRecord, answerOf ((Handler.json.format libs current).run r) =
          jsonFormat libs current r := fun r => answerOf_outcomeIn r _
      rw [hline, hline, jsonFormat_congr libs current h]
    | plain => rfl

/-- **Both formatters ignore what may hold a payload.** -/
theorem formatters_blind (current : Option PyStr) {r r' : LogRecord} (h : Agree r r') :
    jsonFormat libs current r = jsonFormat libs current r' ∧
      answerOf ((textFormat (baseFormat libs)).run r) =
        answerOf ((textFormat (baseFormat libs)).run r') ∧
      (∀ base : Formatting PyStr,
        (finalState ((textFormat base).run r)).excInfo = r.excInfo ∧
          (finalState ((textFormat base).run r)).excText = r.excText) ∧
      ∀ handlers, ownLines libs current handlers r = ownLines libs current handlers r' :=
  ⟨jsonFormat_congr libs current h, textFormat_congr libs h,
    fun base => textFormat_restores base r, fun handlers => ownLines_congr libs current handlers h⟩

/-- Libraries that write every time as `t` and every number as `0`. -/
def sampleLogLibs : LogLibs where
  isoTime _ := .ok (py "t")
  formatTime _ _ := .ok (py "t")
  intRepr _ := .ok (py "0")
  floatRepr _ := py "0"
  formatException info := .ok info.message

/-- A record of a failure, with a document's text in the exception, the cache and an extra. -/
def failureRecord (document : PyStr) : LogRecord where
  level := py "ERROR"
  logger := py "t"
  created := 0
  msecs := 0
  getMessage := .ok (py "it failed")
  getattr name := if name = "payload" then some (.str document) else none
  excInfo := some ⟨some (py "ValueError"), document, [⟨py "f.py", some 1, py "f"⟩]⟩
  excText := some document
  stackInfo := none
  message := none
  asctime := none

theorem formatters_blind_sample :
    failureRecord (py "a") ≠ failureRecord (py "b") ∧
      ownLines sampleLogLibs none [.plain, .text, .json] (failureRecord (py "a")) =
        ownLines sampleLogLibs none [.plain, .text, .json] (failureRecord (py "b")) := by
  constructor
  · intro h
    have htext := congrArg LogRecord.excText h
    revert htext
    decide
  · apply (formatters_blind sampleLogLibs none ⟨rfl, rfl, rfl, rfl, rfl, ?_, rfl, rfl⟩).2.2.2
    intro name hname
    have hpayload : name ≠ "payload" := by
      rintro rfl
      revert hname
      decide
    simp [failureRecord, hpayload]

end ExtractApi.LogFormat
