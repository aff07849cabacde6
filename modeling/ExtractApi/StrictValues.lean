import ExtractApi.ExtractFlow
import ExtractApi.RecordCodec

/-!
# Values in strict JSON mode

Pydantic and its JSON parser are third-party code: `Pydantic` is what the strict models take from
them, and `StrictJsonMode` what is documented of it.  On these, every type that a strict model
uses is a lawful codec, and a value is loaded from each of its texts.
-/

namespace ExtractApi

open PythonText JsonValue LoadedJson JsonText RecordCodec

/-! ## Dates -/

def daysInMonth (year month : ℕ) : ℕ :=
  if month = 2 then if year % 4 = 0 ∧ (year % 100 ≠ 0 ∨ year % 400 = 0) then 29 else 28
  else if month ∈ [4, 6, 9, 11] then 30 else 31

/-- A `datetime.date`. -/
structure Date where
  year : ℕ
  month : ℕ
  day : ℕ
  inRange : 1 ≤ year ∧ year ≤ 9999 ∧ 1 ≤ month ∧ month ≤ 12 ∧ 1 ≤ day ∧
    day ≤ daysInMonth year month

/-- The last digit of a number. -/
def lastDigit (n : ℕ) : CodePoint := ⟨48 + n % 10, by omega⟩

/-- `isoformat()` -/
def Date.isoformat (d : Date) : PyStr :=
  [lastDigit (d.year / 1000), lastDigit (d.year / 100), lastDigit (d.year / 10),
    lastDigit d.year, 45, lastDigit (d.month / 10), lastDigit d.month, 45,
    lastDigit (d.day / 10), lastDigit d.day]

/-! ## What Pydantic gives -/

/-- What is wrong with a value. -/
inductive Fault where
  | jsonInvalid (message : PyStr)
  | modelType
  | listType
  | missing
  | extraForbidden
  | stringType
  | intType
  | floatType
  | finiteNumber
  | dateType
  | dateParsing
  | enum (values : List PyStr)
  /-- a `ValueError` that a validator raised, with its text -/
  | valueError (message : PyStr)

structure Pydantic where
  /-- the value of a JSON text -/
  loads : PyStr → Except PyStr Loaded
  /-- the number that a numeral is, for the JSON parser -/
  number : PyStr → Option Json
  /-- `repr` of a finite float, which `json.dumps` writes -/
  floatRepr : ℚ → PyStr
  /-- a finite float as the serializer of a model writes it -/
  floatText : ℚ → PyStr
  /-- the date that a string is -/
  parseDate : PyStr → Option Date
  /-- the `bool`, the `int` and the `float` that a value of another type is, where it need not be
      strict -/
  coerceBool : Loaded → Option Bool
  coerceInt : Loaded → Option ℤ
  coerceFloat : Loaded → Option ℚ
  /-- the entry for a faulty value, without a location -/
  entry : Fault → Loaded → ErrorDetails
  /-- `model_json_schema()` -/
  jsonSchema : ModelClass → Json

namespace Pydantic

variable (pyd : Pydantic)

/-- `json.dumps(value)` -/
def dumpsLayout : Layout := ⟨asciiUnit, py " ", intText, pyd.floatRepr⟩

/-- `json.dumps(value, ensure_ascii=False, separators=(",", ":"))`, which renders a response. -/
def renderLayout : Layout := ⟨compactUnit, [], intText, pyd.floatRepr⟩

/-- `model_dump_json()` -/
def modelLayout : Layout := ⟨compactUnit, [], intText, pyd.floatText⟩

/-- An error of a part is located by the field's name or the item's index. -/
def faults : Faults ErrorDetails where
  inField name e := { e with loc := .key name :: e.loc }
  inItem i e := { e with loc := .index i :: e.loc }
  missing := pyd.entry .missing
  extra := pyd.entry .extraForbidden
  notRecord := pyd.entry .modelType
  notList := pyd.entry .listType

end Pydantic

/-- A depth to which the parser follows a document. -/
def FOLLOWED_DEPTH : ℕ := 100

/-- Strict JSON mode: a text of exact integers, shortest round-trip floats and well-formed strings
    is loaded as it is, whatever is loaded has such strings and floats, and an ISO date is the
    date it says. -/
structure StrictJsonMode (pyd : Pydantic) : Prop where
  number_int : ∀ n, pyd.number (intText n) = some (.int n)
  number_repr : ∀ {q}, IsDouble q → pyd.number (pyd.floatRepr q) = some (.float q)
  number_text : ∀ {q}, IsDouble q → pyd.number (pyd.floatText q) = some (.float q)
  numeral_repr : ∀ {q}, IsDouble q → IsNumeral (pyd.floatRepr q)
  numeral_text : ∀ {q}, IsDouble q → IsNumeral (pyd.floatText q)
  loads_read : ∀ {text value}, WellFormed value → depth value ≤ FOLLOWED_DEPTH →
    read pyd.number text = some value → pyd.loads text = .ok (ofJson value)
  loads_clean : ∀ {text value}, pyd.loads text = .ok value → Clean value
  parseDate_isoformat : ∀ d, pyd.parseDate d.isoformat = some d

section Texts

variable {pyd : Pydantic}

theorem digit_of_mem_decimal {n : ℕ} {c : CodePoint} (hc : c ∈ decimal n) :
    48 ≤ c.val ∧ c.val ≤ 57 := by
  obtain ⟨digit, hdigit, rfl⟩ := List.mem_map.mp hc
  have hrange := Nat.isDigit_of_mem_toDigits (by decide) (by decide) hdigit
  simp only [Char.isDigit, ge_iff_le, Bool.and_eq_true, decide_eq_true_eq,
    UInt32.le_iff_toNat_le] at hrange
  exact hrange

theorem isNumeral_decimal (n : ℕ) : IsNumeral (decimal n) where
  ne_nil := by simp [decimal]
  numeral := by
    intro c hc
    obtain ⟨hlow, hhigh⟩ := digit_of_mem_decimal hc
    simp [isNumeral, hlow, hhigh]

theorem isNumeral_intText (n : ℤ) : IsNumeral (intText n) := by
  unfold intText
  split_ifs with hn
  · have hdigits := isNumeral_decimal n.natAbs
    refine ⟨by simp [py], ?_⟩
    intro c hc
    rcases List.mem_append.mp hc with hc | hc
    · obtain rfl : c = 45 := List.mem_singleton.mp hc
      decide
    · exact hdigits.numeral c hc
  · exact isNumeral_decimal n.natAbs

theorem StrictJsonMode.readable_dumps (h : StrictJsonMode pyd) :
    Readable pyd.dumpsLayout pyd.number where
  unit := readUnit_asciiUnit
  gap c hc := by
    obtain rfl : c = 32 := List.mem_singleton.mp hc
    rfl
  int := h.number_int
  float := h.number_repr
  numeral_int := isNumeral_intText
  numeral_float := h.numeral_repr

theorem StrictJsonMode.readable_render (h : StrictJsonMode pyd) :
    Readable pyd.renderLayout pyd.number where
  unit := readUnit_compactUnit
  gap c hc := by cases hc
  int := h.number_int
  float := h.number_repr
  numeral_int := isNumeral_intText
  numeral_float := h.numeral_repr

theorem StrictJsonMode.readable_model (h : StrictJsonMode pyd) :
    Readable pyd.modelLayout pyd.number where
  unit := readUnit_compactUnit
  gap c hc := by cases hc
  int := h.number_int
  float := h.number_text
  numeral_int := isNumeral_intText
  numeral_float := h.numeral_text

theorem StrictJsonMode.loads_write (h : StrictJsonMode pyd) {layout : Layout}
    (hread : Readable layout pyd.number) {value : Json} (hvalue : WellFormed value)
    (hdepth : depth value ≤ FOLLOWED_DEPTH) : pyd.loads (write layout value) = .ok (ofJson value) :=
  h.loads_read hvalue hdepth (read_write hread hvalue)

end Texts

/-! ## Values -/

section Values

variable (pyd : Pydantic)

/-- A strict `str`. -/
def strictStr : Codec ErrorDetails PyStr where
  decode
    | .str s => .ok s
    | value => .error [pyd.entry .stringType value]
  encode := .str

/-- A strict `int`. -/
def strictInt : Codec ErrorDetails ℤ where
  decode
    | .int n => .ok n
    | value => .error [pyd.entry .intType value]
  encode := .int

/-- A value of `int | float`. -/
inductive Quantity where
  | int (n : ℤ)
  | float (q : ℚ)

/-- `int | float`, finite; each member of the union adds its name to the location. -/
def intOrFloat : Codec ErrorDetails Quantity where
  decode
    | .int n => .ok (.int n)
    | .float (.finite q) => .ok (.float q)
    | value@(.float _) =>
        .error [pyd.faults.inField (py "int") (pyd.entry .intType value),
          pyd.faults.inField (py "float") (pyd.entry .finiteNumber value)]
    | value =>
        .error [pyd.faults.inField (py "int") (pyd.entry .intType value),
          pyd.faults.inField (py "float") (pyd.entry .floatType value)]
  encode
    | .int n => .int n
    | .float q => .float q

/-- A strict `date`, which JSON has as a string. -/
def strictDate : Codec ErrorDetails Date where
  decode
    | .str s => (pyd.parseDate s).elim (.error [pyd.entry .dateParsing (.str s)]) .ok
    | value => .error [pyd.entry .dateType value]
  encode d := .str d.isoformat

/-- A `StrEnum`, by its members and their values. -/
def strEnum {α : Type} (members : List α) (value : α → PyStr) : Codec ErrorDetails α where
  decode
    | .str s =>
        (members.find? fun a => decide (value a = s)).elim
          (.error [pyd.entry (.enum (members.map value)) (.str s)]) .ok
    | other => .error [pyd.entry (.enum (members.map value)) other]
  encode a := .str (value a)

/-- An `AfterValidator`, a `field_validator` or a `model_validator`: its `ValueError` is an error of
    the value. -/
def validated {α : Type} (c : Codec ErrorDetails α) (check : α → Except PyStr Unit) :
    Codec ErrorDetails (Checked check) :=
  checked c check fun message value => pyd.entry (.valueError message) value

end Values

section LawfulValues

variable {pyd : Pydantic} {n : ℕ}

theorem lawful_strictStr : (strictStr pyd).Lawful n where
  shallow _ := Nat.zero_le n
  decode_encode _ := rfl
  wellFormed := by
    intro value s hclean hdecode
    rcases value with _ | _ | _ | _ | t | _ | _
    case str =>
      cases hdecode
      exact hclean
    all_goals cases hdecode

theorem lawful_strictInt : (strictInt pyd).Lawful n where
  shallow _ := Nat.zero_le n
  decode_encode _ := rfl
  wellFormed _ _ := trivial

theorem lawful_intOrFloat : (intOrFloat pyd).Lawful n where
  shallow a := by cases a <;> exact Nat.zero_le n
  decode_encode a := by cases a <;> rfl
  wellFormed := by
    intro value a hclean hdecode
    rcases value with _ | _ | n | x | _ | _ | _
    case int =>
      cases hdecode
      trivial
    case float =>
      rcases x with q | _ | _ | _
      · cases hdecode
        exact hclean
      all_goals cases hdecode
    all_goals cases hdecode

theorem encodable_isoformat (d : Date) : encodable d.isoformat = true := by
  have hdigit : ∀ n, isSurrogate (lastDigit n) = false := by
    intro n
    have hsmall : ¬ 0xD800 ≤ 48 + n % 10 := by omega
    exact Bool.and_eq_false_iff.mpr (Or.inl (decide_eq_false hsmall))
  have hdash : isSurrogate 45 = false := by decide
  simp only [Date.isoformat, encodable, List.all_cons, List.all_nil, hdigit, hdash, Bool.not_false,
    Bool.and_self]

theorem lawful_strictDate (h : StrictJsonMode pyd) : (strictDate pyd).Lawful n where
  shallow _ := Nat.zero_le n
  decode_encode d := by
    simp only [strictDate, ofJson, h.parseDate_isoformat, Option.elim_some]
  wellFormed := by
    intro _ d _ _
    exact encodable_isoformat d

theorem lawful_strEnum {α : Type} {members : List α} {value : α → PyStr}
    (hfind : ∀ a, members.find? (fun b => decide (value b = value a)) = some a)
    (hvalue : ∀ a, encodable (value a) = true) : (strEnum pyd members value).Lawful n where
  shallow _ := Nat.zero_le n
  decode_encode a := by
    simp only [strEnum, ofJson, hfind, Option.elim_some]
  wellFormed := by
    intro _ a _ _
    exact hvalue a

end LawfulValues

/-! ## A sample parser -/

def isIntegral (c : CodePoint) : Bool :=
  (decide (48 ≤ c.val) && decide (c.val ≤ 57)) || decide (c.val = 45)

/-- The number that digits write. -/
def digitsValue (digits : PyStr) : ℕ := digits.foldl (fun n c => 10 * n + (c.val - 48)) 0

/-- The integer that a text of digits is, with its sign. -/
def intValue : PyStr → ℤ
  | [] => 0
  | c :: digits => if c.val = 45 then -digitsValue digits else digitsValue (c :: digits)

/-- A float that is whole as Python writes it, and any other by its numerator and denominator. -/
def sampleFloat (q : ℚ) : PyStr :=
  if q.den = 1 then intText q.num ++ py ".0" else intText q.num ++ py "e" ++ decimal q.den

def sampleNumber (text : PyStr) : Option Json :=
  let whole := text.takeWhile isIntegral
  let rest := text.dropWhile isIntegral
  if rest = [] then some (.int (intValue whole))
  else if rest = py ".0" then some (.float (intValue whole))
  else some (.float (intValue whole / digitsValue rest.tail))

theorem digitsValue_decimal (n : ℕ) : digitsValue (decimal n) = n := by
  rw [digitsValue, decimal, List.foldl_map]
  exact Nat.ofDigitChars_ten_toDigits

theorem isIntegral_decimal {n : ℕ} {c : CodePoint} (hc : c ∈ decimal n) :
    isIntegral c = true ∧ c.val ≠ 45 := by
  obtain ⟨hlow, hhigh⟩ := digit_of_mem_decimal hc
  exact ⟨by simp [isIntegral, hlow, hhigh], by omega⟩

theorem isIntegral_intText {n : ℤ} {c : CodePoint} (hc : c ∈ intText n) : isIntegral c = true := by
  unfold intText at hc
  split_ifs at hc with hn
  · rcases List.mem_append.mp hc with hc | hc
    · obtain rfl : c = 45 := List.mem_singleton.mp hc
      decide
    · exact (isIntegral_decimal hc).1
  · exact (isIntegral_decimal hc).1

theorem intValue_intText (n : ℤ) : intValue (intText n) = n := by
  unfold intText
  split_ifs with hn
  · have hsign : py "-" ++ decimal n.natAbs = 45 :: decimal n.natAbs := rfl
    rw [hsign, intValue, if_pos (by decide), digitsValue_decimal]
    omega
  · obtain ⟨c, digits, hdigits⟩ := List.exists_cons_of_ne_nil (isNumeral_decimal n.natAbs).ne_nil
    have hc := isIntegral_decimal (hdigits ▸ List.mem_cons_self .. : c ∈ decimal n.natAbs)
    rw [hdigits, intValue, if_neg hc.2, ← hdigits, digitsValue_decimal]
    omega

theorem sampleNumber_append (n : ℤ) {rest : PyStr}
    (hrest : ∀ c ∈ rest.head?, isIntegral c = false) :
    sampleNumber (intText n ++ rest) =
      if rest = [] then some (.int n)
      else if rest = py ".0" then some (.float n)
      else some (.float (n / digitsValue rest.tail)) := by
  have htake : rest.takeWhile isIntegral = [] := by
    rcases rest with _ | ⟨c, rest⟩
    · rfl
    · exact List.takeWhile_cons_of_neg (by simp [hrest c rfl])
  have hdrop : rest.dropWhile isIntegral = rest := by
    rcases rest with _ | ⟨c, rest⟩
    · rfl
    · exact List.dropWhile_cons_of_neg (by simp [hrest c rfl])
  have hall : ∀ c ∈ intText n, isIntegral c = true := fun c hc => isIntegral_intText hc
  simp only [sampleNumber]
  rw [List.takeWhile_append_of_pos hall, List.dropWhile_append_of_pos hall, htake, hdrop,
    List.append_nil, intValue_intText]

theorem sampleNumber_sampleFloat (q : ℚ) : sampleNumber (sampleFloat q) = some (.float q) := by
  unfold sampleFloat
  split_ifs with hden
  · have hdot : ∀ c ∈ (py ".0").head?, isIntegral c = false := by
      intro c hc
      cases hc
      decide
    rw [sampleNumber_append q.num hdot, if_neg (by decide), if_pos rfl,
      (Rat.den_eq_one_iff q).mp hden]
  · have hexp : ∀ c ∈ (py "e" ++ decimal q.den).head?, isIntegral c = false := by
      intro c hc
      cases hc
      decide
    have hne : py "e" ++ decimal q.den ≠ py ".0" := by
      intro heq
      cases heq
    have htail : (py "e" ++ decimal q.den).tail = decimal q.den := rfl
    rw [List.append_assoc, sampleNumber_append q.num hexp, if_neg (by simp [py]), if_neg hne,
      htail, digitsValue_decimal, Rat.num_div_den]

theorem isNumeral_sampleFloat (q : ℚ) : IsNumeral (sampleFloat q) := by
  have hnum := isNumeral_intText q.num
  have hden := isNumeral_decimal q.den
  have hmarks : ∀ c ∈ py ".0" ++ py "e", isNumeral c = true := by
    rw [← List.all_eq_true]
    decide
  unfold sampleFloat
  split_ifs
  · refine ⟨by simp [hnum.ne_nil], ?_⟩
    intro c hc
    rcases List.mem_append.mp hc with hc | hc
    · exact hnum.numeral c hc
    · exact hmarks c (List.mem_append_left _ hc)
  · refine ⟨by simp [hnum.ne_nil], ?_⟩
    intro c hc
    rcases List.mem_append.mp hc with hc | hc
    · rcases List.mem_append.mp hc with hc | hc
      · exact hnum.numeral c hc
      · exact hmarks c (List.mem_append_right _ hc)
    · exact hden.numeral c hc

/-- The value of a digit. -/
def digitValue (c : CodePoint) : ℕ := c.val - 48

theorem digitValue_lastDigit (n : ℕ) : digitValue (lastDigit n) = n % 10 :=
  Nat.add_sub_cancel_left ..

/-- A date in the extended ISO format. -/
def sampleDate : PyStr → Option Date
  | [y₁, y₂, y₃, y₄, dash₁, m₁, m₂, dash₂, d₁, d₂] =>
      let year := ((digitValue y₁ * 10 + digitValue y₂) * 10 + digitValue y₃) * 10 + digitValue y₄
      let month := digitValue m₁ * 10 + digitValue m₂
      let day := digitValue d₁ * 10 + digitValue d₂
      if h : 1 ≤ year ∧ year ≤ 9999 ∧ 1 ≤ month ∧ month ≤ 12 ∧ 1 ≤ day ∧
          day ≤ daysInMonth year month then
        if dash₁ = 45 ∧ dash₂ = 45 then some ⟨year, month, day, h⟩ else none
      else none
  | _ => none

theorem daysInMonth_le (year month : ℕ) : daysInMonth year month ≤ 31 := by
  unfold daysInMonth
  split_ifs <;> omega

theorem sampleDate_isoformat (d : Date) : sampleDate d.isoformat = some d := by
  obtain ⟨year, month, day, hrange⟩ := d
  have hday := hrange.2.2.2.2.2.trans (daysInMonth_le year month)
  have hyear : ((year / 1000 % 10 * 10 + year / 100 % 10) * 10 + year / 10 % 10) * 10 +
      year % 10 = year := by omega
  have hmonth : month / 10 % 10 * 10 + month % 10 = month := by omega
  have hdays : day / 10 % 10 * 10 + day % 10 = day := by omega
  simp only [Date.isoformat, sampleDate, digitValue_lastDigit, hyear, hmonth, hdays, hrange]
  simp

/-- A parser that reads well-formed values, and models that coerce nothing. -/
def samplePydantic : Pydantic where
  loads text :=
    match read sampleNumber text with
    | some value =>
        if WellFormed value then .ok (ofJson value) else .error (py "not a dictionary")
    | none => .error (py "no JSON")
  number := sampleNumber
  floatRepr := sampleFloat
  floatText := sampleFloat
  parseDate := sampleDate
  coerceBool _ := none
  coerceInt _ := none
  coerceFloat _ := none
  entry
    | .valueError message, _ => ⟨[], py "value_error", py "Value error, " ++ message, .null⟩
    | _, _ => ⟨[], py "type_error", py "Input should be valid", .null⟩
  jsonSchema _ := .obj []

theorem strictJsonMode_samplePydantic : StrictJsonMode samplePydantic where
  number_int n := by
    have hend : ∀ c ∈ ([] : PyStr).head?, isIntegral c = false := by
      intro c hc
      cases hc
    have hnumber := sampleNumber_append n hend
    rw [List.append_nil, if_pos rfl] at hnumber
    exact hnumber
  number_repr _ := sampleNumber_sampleFloat _
  number_text _ := sampleNumber_sampleFloat _
  numeral_repr _ := isNumeral_sampleFloat _
  numeral_text _ := isNumeral_sampleFloat _
  loads_read := by
    intro text value hvalue _ hread
    simp only [samplePydantic] at hread ⊢
    rw [hread]
    exact if_pos hvalue
  loads_clean := by
    intro text value hloads
    simp only [samplePydantic] at hloads
    rcases hread : read sampleNumber text with _ | found
    · rw [hread] at hloads
      cases hloads
    · rw [hread] at hloads
      simp only at hloads
      split_ifs at hloads with hwell
      cases hloads
      exact clean_ofJson hwell
  parseDate_isoformat := sampleDate_isoformat

end ExtractApi
