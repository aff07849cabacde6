import ExtractApi.JsonText
import ExtractApi.LogFormatting
import ExtractApi.StrictValues

/-!
# The log on standard output

With `LOG_FORMAT=json` each record is one line of printable ASCII, whatever is in it: a
newline in a message, a request id or a file name is escaped with its string.  So the stream
splits into its records again, and each line is read back as the object that `JsonFormatter`
built (`stdout_lines`).
-/

namespace ExtractApi.LineStream

variable {α : Type}

/-- Each line with `sep` after it. -/
def terminated (sep : α) (lines : List (List α)) : List α := lines.flatMap (· ++ [sep])

theorem terminated_eq_intercalate (sep : α) (lines : List (List α)) :
    terminated sep lines = [sep].intercalate (lines ++ [[]]) := by
  induction lines with
  | nil => rfl
  | cons line lines ih =>
    rw [terminated, List.flatMap_cons, ← terminated, ih]
    cases lines <;> simp [List.intercalate]

/-- Lines without the separator are what the stream splits into. -/
theorem splitOn_terminated [BEq α] [LawfulBEq α] {sep : α} {lines : List (List α)}
    (h : ∀ line ∈ lines, sep ∉ line) : (terminated sep lines).splitOn sep = lines ++ [[]] := by
  rw [terminated_eq_intercalate]
  apply List.splitOn_intercalate
  · intro line hline
    rcases List.mem_append.mp hline with hline | hline
    · exact h line hline
    · rw [List.mem_singleton.mp hline]
      exact List.not_mem_nil
  · simp

end ExtractApi.LineStream

namespace ExtractApi.LogFormat

open PythonText JsonValue JsonText RaisingProgram LoadedJson

variable (libs : LogLibs)

/-! ### The stream -/

/-- What `_StdoutHandler` writes for a record in a context with the request id `current`.  The
    traceback of a formatter that raises goes to standard error. -/
def emitted (current : Option PyStr) (r : LogRecord) : PyStr :=
  match jsonFormat libs current r with
  | .ok line => line ++ py "\n"
  | .error _ => []

/-- Standard output after the records, each with the request id of its context. -/
def stdoutOf (records : List (Option PyStr × LogRecord)) : PyStr :=
  records.flatMap fun x => emitted libs x.1 x.2

/-- The lines of the records that the formatter does not raise on. -/
def linesOf (records : List (Option PyStr × LogRecord)) : List PyStr :=
  records.filterMap fun x => (jsonFormat libs x.1 x.2).toOption

theorem stdoutOf_eq_terminated (records : List (Option PyStr × LogRecord)) :
    stdoutOf libs records = LineStream.terminated 10 (linesOf libs records) := by
  induction records with
  | nil => rfl
  | cons x records ih =>
    rw [stdoutOf, List.flatMap_cons, ← stdoutOf, ih]
    obtain ⟨current, r⟩ := x
    simp only [linesOf, List.filterMap_cons]
    unfold emitted
    cases hline : jsonFormat libs current r with
    | ok line => simp [Except.toOption, LineStream.terminated, py, CodePoint.ofChar]
    | error exc => rfl

/-! ### Printable text -/

/-- Printable ASCII. -/
def Printable (s : PyStr) : Prop := ∀ c ∈ s, 32 ≤ c.val ∧ c.val ≤ 126

theorem Printable.append {s t : PyStr} (hs : Printable s) (ht : Printable t) :
    Printable (s ++ t) := by
  intro c hc
  rcases List.mem_append.mp hc with hc | hc
  · exact hs c hc
  · exact ht c hc

theorem Printable.flatMap {s : PyStr} {f : CodePoint → PyStr} (h : ∀ c, Printable (f c)) :
    Printable (s.flatMap f) := by
  intro c hc
  obtain ⟨b, -, hc⟩ := List.mem_flatMap.mp hc
  exact h b c hc

theorem printable_of_all {s : PyStr}
    (h : s.all (fun c => decide (32 ≤ c.val ∧ c.val ≤ 126)) = true) : Printable s := by
  intro c hc
  exact of_decide_eq_true (List.all_eq_true.mp h c hc)

theorem printable_hexDigit (n : Fin 16) : 32 ≤ (hexDigit n).val ∧ (hexDigit n).val ≤ 126 := by
  revert n
  decide

theorem printable_unicodeEscape (n : Fin 65536) : Printable (unicodeEscape n) := by
  refine Printable.append (printable_of_all (by decide)) ?_
  intro c hc
  simp only [List.mem_cons, List.not_mem_nil, or_false] at hc
  rcases hc with rfl | rfl | rfl | rfl
  all_goals exact printable_hexDigit _

theorem printable_shortEscape {c : CodePoint} {escape : PyStr} (h : shortEscape c = some escape) :
    Printable escape := by
  unfold shortEscape at h
  split_ifs at h
  all_goals
    cases h
    exact printable_of_all (by decide)

theorem printable_asciiUnit (c : CodePoint) : Printable (asciiUnit c) := by
  unfold asciiUnit
  split
  · exact printable_shortEscape ‹_›
  · split_ifs with hplain
    · intro d hd
      rwa [List.mem_singleton.mp hd]
    · exact printable_unicodeEscape _
    · exact (printable_unicodeEscape _).append (printable_unicodeEscape _)

theorem printable_asciiJsonString (s : PyStr) : Printable (asciiJsonString s) :=
  ((printable_of_all (by decide)).append (.flatMap printable_asciiUnit)).append
    (printable_of_all (by decide))

theorem printable_intercalate {texts : List PyStr} (h : ∀ text ∈ texts, Printable text) :
    Printable (List.intercalate (py ",") texts) := by
  induction texts with
  | nil => simp [List.intercalate, Printable]
  | cons text texts ih =>
    obtain ⟨htext, htexts⟩ := List.forall_mem_cons.mp h
    cases texts with
    | nil => simpa [List.intercalate] using htext
    | cons next texts =>
      rw [List.intercalate_cons_cons]
      exact (htext.append (printable_of_all (by decide))).append (ih htexts)

/-- Numbers are written in printable ASCII. -/
structure PrintableNumbers : Prop where
  int : ∀ {n text}, libs.intRepr n = .ok text → Printable text
  float : ∀ x, Printable (libs.floatRepr x)

variable {libs}

theorem dumpsItems_cons_eq_ok_iff {item : Attr} {items : List Attr} {texts : List PyStr} :
    dumpsItems libs (item :: items) = .ok texts ↔ ∃ first rest, dumps libs item = .ok first ∧
      dumpsItems libs items = .ok rest ∧ first :: rest = texts := by
  rw [dumpsItems]
  simp [bind_eq_ok_iff, pure, Except.pure]

mutual

theorem printable_dumps (hnumbers : PrintableNumbers libs) : ∀ {value : Attr} {text : PyStr},
    dumps libs value = .ok text → Printable text
  | .none, _, h => by
      cases h
      exact printable_of_all (by decide)
  | .bool b, _, h => by
      cases h
      cases b <;> exact printable_of_all (by decide)
  | .int _, _, h => hnumbers.int h
  | .float x, _, h => by
      cases h
      exact hnumbers.float x
  | .str s, _, h => by
      cases h
      exact printable_asciiJsonString s
  | .seq _, _, h => by
      rw [dumps] at h
      obtain ⟨texts, htexts, rfl⟩ := map_eq_ok_iff.mp h
      have hitems := printable_intercalate (printable_dumpsItems hnumbers htexts)
      exact ((printable_of_all (by decide)).append hitems).append (printable_of_all (by decide))
  | .other _ _, _, h => by cases h

theorem printable_dumpsItems (hnumbers : PrintableNumbers libs) : ∀ {items : List Attr}
    {texts : List PyStr}, dumpsItems libs items = .ok texts → ∀ text ∈ texts, Printable text
  | [], _, h => by
      cases h
      simp
  | _ :: _, _, h => by
      obtain ⟨first, rest, hfirst, hrest, rfl⟩ := dumpsItems_cons_eq_ok_iff.mp h
      exact List.forall_mem_cons.mpr
        ⟨printable_dumps hnumbers hfirst, printable_dumpsItems hnumbers hrest⟩

end

theorem printable_dumpsFields (hnumbers : PrintableNumbers libs) {fields : List (String × Attr)}
    {texts : List PyStr} (h : dumpsFields libs fields = .ok texts) :
    ∀ text ∈ texts, Printable text := by
  induction fields generalizing texts with
  | nil =>
    cases h
    simp
  | cons field fields ih =>
    obtain ⟨text, htext, h⟩ := bind_eq_ok_iff.mp h
    obtain ⟨rest, hrest, h⟩ := bind_eq_ok_iff.mp h
    cases h
    exact List.forall_mem_cons.mpr ⟨((printable_asciiJsonString _).append
      (printable_of_all (by decide))).append (printable_dumps hnumbers htext), ih hrest⟩

/-! ### The object of a line -/

variable (libs) in
/-- The dictionary that `JsonFormatter.format` builds. -/
def lineFields (current : Option PyStr) (r : LogRecord) : Except PyStr (List (String × Attr)) := do
  let ts ← libs.isoTime r.created
  let msg ← r.getMessage
  let allowed ← allowedFields r.getattr ALLOWED_FIELDS
  return [("ts", .str ts), ("level", .str r.level), ("logger", .str r.logger), ("msg", .str msg)] ++
    (lineId (r.getattr "request_id") current).toList.map (fun id => ("request_id", id)) ++
    allowed ++
    match redactedExc r.excInfo with
    | some (type, frames) => [("exc_type", .str type), ("stack", .seq (frames.map .str))]
    | none => []

theorem jsonFormat_eq (current : Option PyStr) (r : LogRecord) :
    jsonFormat libs current r = lineFields libs current r >>= fun fields =>
      dumpsFields libs fields >>= fun texts =>
        pure (py "\x7b" ++ List.intercalate (py ",") texts ++ py "\x7d") := by
  unfold jsonFormat lineFields
  cases libs.isoTime r.created with
  | error exc => rfl
  | ok ts =>
    cases r.getMessage with
    | error exc => rfl
    | ok msg =>
      cases allowedFields r.getattr ALLOWED_FIELDS with
      | error exc => rfl
      | ok allowed => rfl

/-- A line is its dictionary, written. -/
theorem jsonFormat_eq_ok_iff {current : Option PyStr} {r : LogRecord} {line : PyStr} :
    jsonFormat libs current r = .ok line ↔ ∃ fields texts,
      lineFields libs current r = .ok fields ∧ dumpsFields libs fields = .ok texts ∧
        py "\x7b" ++ List.intercalate (py ",") texts ++ py "\x7d" = line := by
  rw [jsonFormat_eq, bind_eq_ok_iff]
  simp only [bind_eq_ok_iff, pure, Except.pure, Except.ok.injEq, exists_and_left]

/-- **A line is printable ASCII.** -/
theorem printable_line (hnumbers : PrintableNumbers libs) {current : Option PyStr} {r : LogRecord}
    {line : PyStr} (h : jsonFormat libs current r = .ok line) : Printable line := by
  obtain ⟨fields, texts, -, htexts, rfl⟩ := jsonFormat_eq_ok_iff.mp h
  have hfields := printable_intercalate (printable_dumpsFields hnumbers htexts)
  exact ((printable_of_all (by decide)).append hfields).append (printable_of_all (by decide))

/-! ### The value of a line -/

mutual

/-- The value that a text of the attribute is read back as. -/
def Attr.toJson : Attr → Option Json
  | .none => some .null
  | .bool b => some (.bool b)
  | .int n => some (.int n)
  | .float (.finite q) => some (.float q)
  | .float _ => Option.none
  | .str s => some (.str s)
  | .seq items => (Attr.toJsonItems items).map .arr
  | .other _ _ => Option.none

def Attr.toJsonItems : List Attr → Option (List Json)
  | [] => some []
  | item :: items => (Attr.toJson item).bind fun first =>
      (Attr.toJsonItems items).map fun rest => first :: rest

end

def toJsonFields : List (String × Attr) → Option (List (PyStr × Json))
  | [] => some []
  | (name, value) :: fields => value.toJson.bind fun first =>
      (toJsonFields fields).map fun rest => (py name, first) :: rest

variable (libs) in
/-- How `json.dumps` writes here, with `separators=(",", ":")` and `ensure_ascii`. -/
def compactDumps : Layout where
  unit := asciiUnit
  gap := []
  int n := (libs.intRepr n).toOption.getD (intText n)
  float q := libs.floatRepr (.finite q)

/-- What follows the first of some texts. -/
def afterFirst (close : PyStr) (texts : List PyStr) : PyStr :=
  texts.flatMap (fun text => py "," ++ text) ++ close

theorem intercalate_close (text : PyStr) (texts : List PyStr) (close : PyStr) :
    List.intercalate (py ",") (text :: texts) ++ close = text ++ afterFirst close texts := by
  induction texts generalizing text with
  | nil => simp [List.intercalate, afterFirst]
  | cons next texts ih =>
    rw [List.intercalate_cons_cons, List.append_assoc, ih]
    simp [afterFirst]

theorem quoted_eq (s : PyStr) : quoted (compactDumps libs) s = asciiJsonString s := by
  simp [quoted, compactDumps, asciiJsonString, py, CodePoint.ofChar]

theorem toJsonItems_cons_eq_some_iff {item : Attr} {items : List Attr} {values : List Json} :
    Attr.toJsonItems (item :: items) = some values ↔ ∃ first rest, item.toJson = some first ∧
      Attr.toJsonItems items = some rest ∧ first :: rest = values := by
  rw [Attr.toJsonItems]
  simp [Option.bind_eq_some_iff]

mutual

theorem dumps_eq_write : ∀ {attr : Attr} {value : Json} {text : PyStr},
    attr.toJson = some value → dumps libs attr = .ok text →
      text = write (compactDumps libs) value
  | .none, _, _, hvalue, h => by
      cases hvalue
      cases h
      rfl
  | .bool b, _, _, hvalue, h => by
      cases hvalue
      cases h
      cases b <;> rfl
  | .int n, _, _, hvalue, h => by
      cases hvalue
      rw [dumps] at h
      show _ = (libs.intRepr n).toOption.getD (intText n)
      rw [h]
      rfl
  | .float (.finite q), _, _, hvalue, h => by
      cases hvalue
      cases h
      rfl
  | .float .posInf, _, _, hvalue, _ => by cases hvalue
  | .float .negInf, _, _, hvalue, _ => by cases hvalue
  | .float .nan, _, _, hvalue, _ => by cases hvalue
  | .str s, _, _, hvalue, h => by
      cases hvalue
      cases h
      exact (quoted_eq s).symm
  | .seq items, _, _, hvalue, h => by
      rw [Attr.toJson] at hvalue
      rw [dumps] at h
      obtain ⟨values, hvalues, rfl⟩ := Option.map_eq_some_iff.mp hvalue
      obtain ⟨texts, htexts, rfl⟩ := map_eq_ok_iff.mp h
      exact dumpsSeq_eq_write hvalues htexts
  | .other _ _, _, _, _, h => by cases h

/-- A list, after its opening bracket. -/
theorem dumpsSeq_eq_write : ∀ {items : List Attr} {values : List Json} {texts : List PyStr},
    Attr.toJsonItems items = some values → dumpsItems libs items = .ok texts →
      py "[" ++ List.intercalate (py ",") texts ++ py "]" = write (compactDumps libs) (.arr values)
  | [], _, _, hvalues, h => by
      cases hvalues
      cases h
      rfl
  | item :: items, _, _, hvalues, h => by
      obtain ⟨value, values, hvalue, hrest, rfl⟩ := toJsonItems_cons_eq_some_iff.mp hvalues
      obtain ⟨text, texts, htext, htexts, rfl⟩ := dumpsItems_cons_eq_ok_iff.mp h
      have hfirst := dumps_eq_write hvalue htext
      have hafter := dumpsItems_eq_write hrest htexts
      rw [List.append_assoc, intercalate_close, hafter, hfirst]
      rfl

/-- What follows the first item of a list. -/
theorem dumpsItems_eq_write : ∀ {items : List Attr} {values : List Json} {texts : List PyStr},
    Attr.toJsonItems items = some values → dumpsItems libs items = .ok texts →
      afterFirst (py "]") texts = writeItems (compactDumps libs) values
  | [], _, _, hvalues, h => by
      cases hvalues
      cases h
      rfl
  | item :: items, _, _, hvalues, h => by
      obtain ⟨value, values, hvalue, hrest, rfl⟩ := toJsonItems_cons_eq_some_iff.mp hvalues
      obtain ⟨text, texts, htext, htexts, rfl⟩ := dumpsItems_cons_eq_ok_iff.mp h
      have hfirst := dumps_eq_write hvalue htext
      have hafter := dumpsItems_eq_write hrest htexts
      rw [writeItems, ← hafter, ← hfirst]
      simp [afterFirst, compactDumps, py, CodePoint.ofChar]

end

/-- What follows the first field of an object. -/
theorem dumpsFields_eq_write {fields : List (String × Attr)} {values : List (PyStr × Json)}
    {texts : List PyStr} (hvalues : toJsonFields fields = some values)
    (h : dumpsFields libs fields = .ok texts) :
    afterFirst (py "\x7d") texts = writeFields (compactDumps libs) values := by
  induction fields generalizing values texts with
  | nil =>
    cases hvalues
    cases h
    rfl
  | cons field fields ih =>
    obtain ⟨value, hvalue, hvalues⟩ := Option.bind_eq_some_iff.mp hvalues
    obtain ⟨rest, hrest, rfl⟩ := Option.map_eq_some_iff.mp hvalues
    obtain ⟨text, htext, h⟩ := bind_eq_ok_iff.mp h
    obtain ⟨texts, htexts, h⟩ := bind_eq_ok_iff.mp h
    cases h
    rw [writeFields, ← ih hrest htexts, ← dumps_eq_write hvalue htext, quoted_eq]
    simp [afterFirst, compactDumps, py, CodePoint.ofChar]

/-- The object of the fields, written. -/
theorem dumpsObject_eq_write {fields : List (String × Attr)} {values : List (PyStr × Json)}
    {texts : List PyStr} (hvalues : toJsonFields fields = some values)
    (h : dumpsFields libs fields = .ok texts) :
    py "\x7b" ++ List.intercalate (py ",") texts ++ py "\x7d" =
      write (compactDumps libs) (.obj values) := by
  cases fields with
  | nil =>
    cases hvalues
    cases h
    rfl
  | cons field fields =>
    obtain ⟨value, hvalue, hvalues⟩ := Option.bind_eq_some_iff.mp hvalues
    obtain ⟨rest, hrest, rfl⟩ := Option.map_eq_some_iff.mp hvalues
    obtain ⟨text, htext, h⟩ := bind_eq_ok_iff.mp h
    obtain ⟨texts, htexts, h⟩ := bind_eq_ok_iff.mp h
    cases h
    rw [List.append_assoc, intercalate_close, dumpsFields_eq_write hrest htexts, write,
      ← dumps_eq_write hvalue htext, quoted_eq]
    simp [compactDumps, py, CodePoint.ofChar]

/-! ### The fields of a line -/

/-- Bounded as `_scalar` bounds: strings of 256 characters, lists of 32 items. -/
inductive Bounded : Attr → Prop
  | none : Bounded .none
  | bool (b : Bool) : Bounded (.bool b)
  | int (n : ℤ) : Bounded (.int n)
  | float (x : PyFloat) : Bounded (.float x)
  | str {s : PyStr} (h : s.length ≤ 256) : Bounded (.str s)
  | seq {items : List Attr} (h : items.length ≤ 32) (hitems : ∀ item ∈ items, Bounded item) :
      Bounded (.seq items)

mutual

theorem bounded_scalar : ∀ {value bounded : Attr}, scalar value = .ok bounded → Bounded bounded
  | .none, _, h => by
      cases h
      exact .none
  | .bool b, _, h => by
      cases h
      exact .bool b
  | .int n, _, h => by
      cases h
      exact .int n
  | .float x, _, h => by
      cases h
      exact .float x
  | .str s, _, h => by
      cases h
      exact .str (List.length_take_le 256 s)
  | .seq _, _, h => by
      rw [scalar] at h
      obtain ⟨items, hitems, rfl⟩ := map_eq_ok_iff.mp h
      obtain ⟨hlength, hbounded⟩ := bounded_scalarItems hitems
      exact .seq hlength hbounded
  | .other _ _, _, h => by
      rw [scalar] at h
      obtain ⟨s, -, rfl⟩ := map_eq_ok_iff.mp h
      exact .str (List.length_take_le 256 s)

theorem bounded_scalarItems : ∀ {n : ℕ} {items bounded : List Attr},
    scalarItems n items = .ok bounded → bounded.length ≤ n ∧ ∀ item ∈ bounded, Bounded item
  | 0, _, _, h => by
      rw [scalarItems] at h
      · cases h
        simp
      · simp
  | _ + 1, [], _, h => by
      rw [scalarItems] at h
      · cases h
        simp
      · simp
  | _ + 1, _ :: _, _, h => by
      rw [scalarItems] at h
      obtain ⟨first, hfirst, h⟩ := bind_eq_ok_iff.mp h
      obtain ⟨rest, hrest, h⟩ := bind_eq_ok_iff.mp h
      cases h
      obtain ⟨hlength, hbounded⟩ := bounded_scalarItems hrest
      refine ⟨Nat.succ_le_succ hlength, List.forall_mem_cons.mpr ⟨bounded_scalar hfirst, hbounded⟩⟩

end

/-- The names that a line can have, in their order. -/
def LINE_FIELDS : List String :=
  ["ts", "level", "logger", "msg"] ++ ["request_id"] ++
    ALLOWED_FIELDS.filter (fun name => decide (name ≠ "request_id")) ++ ["exc_type", "stack"]

theorem allowedFields_spec {getattr : String → Option Attr} {names : List String}
    {fields : List (String × Attr)} (h : allowedFields getattr names = .ok fields) :
    (fields.map Prod.fst).Sublist (names.filter fun name => decide (name ≠ "request_id")) ∧
      ∀ f ∈ fields, Bounded f.2 := by
  induction names generalizing fields with
  | nil =>
    cases h
    simp
  | cons name names ih =>
    rw [allowedFields] at h
    by_cases hid : name = "request_id"
    · rw [if_pos hid] at h
      rw [List.filter_cons_of_neg (by simpa using hid)]
      exact ih h
    · rw [if_neg hid] at h
      rw [List.filter_cons_of_pos (by simpa using hid)]
      cases hattr : getattr name with
      | none =>
        rw [hattr] at h
        obtain ⟨hsublist, hbounded⟩ := ih h
        exact ⟨hsublist.cons _, hbounded⟩
      | some value =>
        rw [hattr] at h
        obtain ⟨bounded, hscalar, h⟩ := bind_eq_ok_iff.mp h
        obtain ⟨rest, hrest, h⟩ := bind_eq_ok_iff.mp h
        cases h
        obtain ⟨hsublist, hbounded⟩ := ih hrest
        exact ⟨hsublist.cons_cons _, List.forall_mem_cons.mpr ⟨bounded_scalar hscalar, hbounded⟩⟩

/-- **The fields of a line** are among those known, in their order, and what the record brings
    along is bounded. -/
theorem lineFields_spec {current : Option PyStr} {r : LogRecord} {fields : List (String × Attr)}
    (h : lineFields libs current r = .ok fields) :
    (fields.map Prod.fst).Sublist LINE_FIELDS ∧
      ∀ f ∈ fields, f.1 ∈ ALLOWED_FIELDS → f.1 ≠ "request_id" → Bounded f.2 := by
  obtain ⟨ts, -, h⟩ := bind_eq_ok_iff.mp h
  obtain ⟨msg, -, h⟩ := bind_eq_ok_iff.mp h
  obtain ⟨allowed, hallowed, h⟩ := bind_eq_ok_iff.mp h
  cases h
  obtain ⟨hnames, hbounded⟩ := allowedFields_spec hallowed
  constructor
  · simp only [List.map_append, LINE_FIELDS]
    refine List.Sublist.append (List.Sublist.append (List.Sublist.append ?_ ?_) hnames) ?_
    · exact List.Sublist.refl _
    · cases lineId (r.getattr "request_id") current <;> simp
    · cases redactedExc r.excInfo <;> simp
  · intro f hf hallow hid
    simp only [List.mem_append] at hf
    rcases hf with ((hf | hf) | hf) | hf
    · exfalso
      simp only [List.mem_cons, List.not_mem_nil, or_false] at hf
      rcases hf with rfl | rfl | rfl | rfl <;> simp [ALLOWED_FIELDS] at hallow
    · obtain ⟨id, -, rfl⟩ := List.mem_map.mp hf
      exact absurd rfl hid
    · exact hbounded f hf
    · exfalso
      split at hf
      · simp only [List.mem_cons, List.not_mem_nil, or_false] at hf
        rcases hf with rfl | rfl <;> simp [ALLOWED_FIELDS] at hallow
      · cases hf

/-! ### Reading a line -/

/-- Strings without lone surrogates and finite numbers. -/
inductive Plain : Attr → Prop
  | none : Plain .none
  | bool (b : Bool) : Plain (.bool b)
  | int (n : ℤ) : Plain (.int n)
  | float {q : ℚ} (h : IsDouble q) : Plain (.float (.finite q))
  | str {s : PyStr} (h : encodable s = true) : Plain (.str s)
  | seq {items : List Attr} (h : ∀ item ∈ items, Plain item) : Plain (.seq items)

theorem Plain.toJson {value : Attr} (h : Plain value) :
    ∃ json, value.toJson = some json ∧ WellFormed json := by
  induction h with
  | none => exact ⟨.null, rfl, trivial⟩
  | bool b => exact ⟨.bool b, rfl, trivial⟩
  | int n => exact ⟨.int n, rfl, trivial⟩
  | @float q h => exact ⟨.float q, rfl, h⟩
  | @str s h => exact ⟨.str s, rfl, h⟩
  | @seq items h ih =>
    suffices hitems : ∃ values, Attr.toJsonItems items = some values ∧ WellFormedItems values by
      obtain ⟨values, hvalues, hwell⟩ := hitems
      refine ⟨.arr values, ?_, hwell⟩
      rw [Attr.toJson, hvalues]
      rfl
    clear h
    induction items with
    | nil => exact ⟨[], rfl, trivial⟩
    | cons item items ihItems =>
      obtain ⟨hitem, hitems⟩ := List.forall_mem_cons.mp ih
      obtain ⟨first, hfirst, hwell⟩ := hitem
      obtain ⟨rest, hrest, hwells⟩ := ihItems hitems
      exact ⟨first :: rest, toJsonItems_cons_eq_some_iff.mpr ⟨first, rest, hfirst, hrest, rfl⟩,
        hwell, hwells⟩

theorem toJsonFields_of_plain {fields : List (String × Attr)} (h : ∀ f ∈ fields, Plain f.2) :
    ∃ values, toJsonFields fields = some values ∧
      values.map Prod.fst = (fields.map Prod.fst).map py ∧ WellFormedFields values := by
  induction fields with
  | nil => exact ⟨[], rfl, rfl, trivial⟩
  | cons field fields ih =>
    obtain ⟨hfield, hfields⟩ := List.forall_mem_cons.mp h
    obtain ⟨first, hfirst, hwell⟩ := hfield.toJson
    obtain ⟨rest, hrest, hnames, hwells⟩ := ih hfields
    refine ⟨(py field.1, first) :: rest, ?_, ?_, encodable_py field.1, hwell, hwells⟩
    · rw [toJsonFields, hfirst, hrest]
      rfl
    · rw [List.map_cons, List.map_cons, List.map_cons, hnames]

/-- A line of plain values is read back as the object it was written from. -/
theorem read_line {number : PyStr → Option Json} (hread : Readable (compactDumps libs) number)
    {current : Option PyStr} {r : LogRecord} {line : PyStr} {fields : List (String × Attr)}
    (hfields : lineFields libs current r = .ok fields)
    (hline : jsonFormat libs current r = .ok line)
    (hplain : ∀ f ∈ fields, Plain f.2) :
    ∃ values, toJsonFields fields = some values ∧ read number line = some (.obj values) := by
  obtain ⟨fields', texts, hfields', htexts, rfl⟩ := jsonFormat_eq_ok_iff.mp hline
  obtain rfl : fields = fields' := Except.ok.inj (hfields.symm.trans hfields')
  obtain ⟨values, hvalues, hnames, hwell⟩ := toJsonFields_of_plain hplain
  refine ⟨values, hvalues, ?_⟩
  rw [dumpsObject_eq_write hvalues htexts]
  refine read_write hread ⟨?_, hwell⟩
  rw [hnames]
  have hnodup : (LINE_FIELDS.map py).Nodup := by decide +kernel
  exact hnodup.sublist ((lineFields_spec hfields).1.map py)

/-- **Standard output is a stream of records.**  It is printable ASCII but for the newlines; split
    at these it is the lines of the records, one for each that is formatted, in order.  A line has
    only known fields, each at most once, and what a record brings along, its request id apart, is
    bounded.  Where the values are plain, the line is read back as the object that was written. -/
theorem stdout_lines (hnumbers : PrintableNumbers libs) {number : PyStr → Option Json}
    (hread : Readable (compactDumps libs) number) (records : List (Option PyStr × LogRecord)) :
    (∀ c ∈ stdoutOf libs records, c.val = 10 ∨ 32 ≤ c.val ∧ c.val ≤ 126) ∧
    (stdoutOf libs records).splitOn 10 = linesOf libs records ++ [[]] ∧
    ∀ current r line, jsonFormat libs current r = .ok line → ∃ fields,
      lineFields libs current r = .ok fields ∧
      (fields.map Prod.fst).Sublist LINE_FIELDS ∧
      (∀ f ∈ fields, f.1 ∈ ALLOWED_FIELDS → f.1 ≠ "request_id" → Bounded f.2) ∧
      ((∀ f ∈ fields, Plain f.2) → ∃ values, toJsonFields fields = some values ∧
        read number line = some (.obj values)) := by
  have hprintable : ∀ line ∈ linesOf libs records, Printable line := by
    intro line hline
    obtain ⟨x, -, hx⟩ := List.mem_filterMap.mp hline
    cases hformat : jsonFormat libs x.1 x.2 with
    | error exc =>
      rw [hformat] at hx
      cases hx
    | ok text =>
      rw [hformat] at hx
      cases hx
      exact printable_line hnumbers hformat
  rw [stdoutOf_eq_terminated]
  refine ⟨?_, ?_, ?_⟩
  · intro c hc
    obtain ⟨line, hline, hc⟩ := List.mem_flatMap.mp hc
    rcases List.mem_append.mp hc with hc | hc
    · exact Or.inr (hprintable line hline c hc)
    · rw [List.mem_singleton.mp hc]
      exact Or.inl rfl
  · apply LineStream.splitOn_terminated
    intro line hline hnewline
    have hlow := (hprintable line hline 10 hnewline).1
    exact absurd hlow (by decide)
  · intro current r line hline
    obtain ⟨fields, texts, hfields, -, -⟩ := jsonFormat_eq_ok_iff.mp hline
    obtain ⟨hnames, hbounded⟩ := lineFields_spec hfields
    exact ⟨fields, hfields, hnames, hbounded, read_line hread hfields hline⟩

/-! ### A message of two lines -/

/-- Libraries that write a number as it is. -/
def numberLogLibs : LogLibs :=
  { sampleLogLibs with
    intRepr := fun n => .ok (intText n)
    floatRepr := fun
      | .finite q => sampleFloat q
      | _ => py "NaN" }

theorem printable_of_isNumeral {text : PyStr} (h : IsNumeral text) : Printable text := by
  intro c hc
  have hnumeral := h.numeral c hc
  simp only [isNumeral, Bool.or_eq_true, Bool.and_eq_true, decide_eq_true_eq, List.mem_cons,
    List.not_mem_nil, or_false] at hnumeral
  omega

theorem printableNumbers_numberLogLibs : PrintableNumbers numberLogLibs where
  int := by
    intro n text h
    cases h
    exact printable_of_isNumeral (isNumeral_intText n)
  float x := by
    cases x with
    | finite q => exact printable_of_isNumeral (isNumeral_sampleFloat q)
    | _ => exact printable_of_all (by decide)

theorem readable_numberLogLibs : Readable (compactDumps numberLogLibs) samplePydantic.number where
  unit := readUnit_asciiUnit
  gap := by simp [compactDumps]
  int := strictJsonMode_samplePydantic.number_int
  float := strictJsonMode_samplePydantic.number_repr
  numeral_int := isNumeral_intText
  numeral_float := strictJsonMode_samplePydantic.numeral_repr

def twoLineRecord : LogRecord :=
  { failureRecord [] with getMessage := .ok (py "one\ntwo") }

theorem stdout_lines_twoLine :
    (stdoutOf numberLogLibs [(none, twoLineRecord), (some (py "id"), twoLineRecord)]).splitOn 10 =
      linesOf numberLogLibs [(none, twoLineRecord), (some (py "id"), twoLineRecord)] ++ [[]] :=
  (stdout_lines printableNumbers_numberLogLibs readable_numberLogLibs _).2.1

end ExtractApi.LogFormat
