import ExtractApi.JsonValue

/-!
# The text of a JSON value

`WellFormed` is a value that a text carries unchanged: its strings have no lone surrogate, its
floats are doubles and its names are distinct.  `write` lays a value out as `json.dumps` or a
compact serializer does, and `read` takes it from the text again: `read_write`.
-/

namespace ExtractApi.JsonText

open PythonText JsonValue

/-! ## Well-formed values -/

/-- A finite double. -/
def IsDouble (q : ℚ) : Prop :=
  ∃ m e : ℤ, |m| < 2 ^ 53 ∧ -1074 ≤ e ∧ e ≤ 971 ∧ q = m * 2 ^ e

theorem isDouble_intCast {n : ℤ} (h : |n| < 2 ^ 53) : IsDouble n :=
  ⟨n, 0, h, by norm_num, by norm_num, by simp⟩

/-- A double is a whole multiple of one of finitely many powers of two. -/
theorem isDouble_iff {q : ℚ} : IsDouble q ↔ ∃ k : ℕ, k < 2046 ∧
    (q * 2 ^ (1074 - (k : ℤ))).den = 1 ∧ (q * 2 ^ (1074 - (k : ℤ))).num.natAbs < 2 ^ 53 := by
  constructor
  · rintro ⟨m, e, hm, hlow, hhigh, rfl⟩
    have hk : 1074 - ((e + 1074).toNat : ℤ) = -e := by omega
    have hcancel : (m : ℚ) * 2 ^ e * 2 ^ (-e) = m := by
      rw [mul_assoc, ← zpow_add₀ (by norm_num), add_neg_cancel, zpow_zero, mul_one]
    rw [Int.abs_eq_natAbs] at hm
    refine ⟨(e + 1074).toNat, by omega, ?_⟩
    rw [hk, hcancel, Rat.num_intCast]
    exact ⟨Rat.den_intCast m, by omega⟩
  · rintro ⟨k, hk, hden, hnum⟩
    have hwhole : ((q * 2 ^ (1074 - (k : ℤ))).num : ℚ) = q * 2 ^ (1074 - (k : ℤ)) :=
      (Rat.den_eq_one_iff _).mp hden
    refine ⟨(q * 2 ^ (1074 - (k : ℤ))).num, k - 1074, ?_, by omega, by omega, ?_⟩
    · rw [Int.abs_eq_natAbs]
      omega
    · rw [hwhole, mul_assoc, ← zpow_add₀ (by norm_num), sub_add_sub_cancel, sub_self, zpow_zero,
        mul_one]

instance decidableIsDouble (q : ℚ) : Decidable (IsDouble q) := decidable_of_iff' _ isDouble_iff

mutual

def WellFormed : Json → Prop
  | .null => True
  | .bool _ => True
  | .int _ => True
  | .float q => IsDouble q
  | .str s => encodable s = true
  | .arr items => WellFormedItems items
  | .obj fields => (fields.map Prod.fst).Nodup ∧ WellFormedFields fields

def WellFormedItems : List Json → Prop
  | [] => True
  | item :: items => WellFormed item ∧ WellFormedItems items

def WellFormedFields : List (PyStr × Json) → Prop
  | [] => True
  | (name, value) :: fields =>
      encodable name = true ∧ WellFormed value ∧ WellFormedFields fields

end

mutual

def decideWellFormed : ∀ value : Json, Decidable (WellFormed value)
  | .null => .isTrue trivial
  | .bool _ => .isTrue trivial
  | .int _ => .isTrue trivial
  | .float q => decidableIsDouble q
  | .str s => inferInstanceAs (Decidable (encodable s = true))
  | .arr items => decideWellFormedItems items
  | .obj fields =>
      have := decideWellFormedFields fields
      inferInstanceAs (Decidable ((fields.map Prod.fst).Nodup ∧ WellFormedFields fields))

def decideWellFormedItems : ∀ items : List Json, Decidable (WellFormedItems items)
  | [] => .isTrue trivial
  | item :: items =>
      have := decideWellFormed item
      have := decideWellFormedItems items
      inferInstanceAs (Decidable (WellFormed item ∧ WellFormedItems items))

def decideWellFormedFields : ∀ fields : List (PyStr × Json), Decidable (WellFormedFields fields)
  | [] => .isTrue trivial
  | (name, value) :: fields =>
      have := decideWellFormed value
      have := decideWellFormedFields fields
      inferInstanceAs
        (Decidable (encodable name = true ∧ WellFormed value ∧ WellFormedFields fields))

end

instance decidableWellFormed (value : Json) : Decidable (WellFormed value) :=
  decideWellFormed value

mutual

/-- How deep lists and objects are nested. -/
def depth : Json → ℕ
  | .arr items => depthItems items + 1
  | .obj fields => depthFields fields + 1
  | _ => 0

def depthItems : List Json → ℕ
  | [] => 0
  | item :: items => max (depth item) (depthItems items)

def depthFields : List (PyStr × Json) → ℕ
  | [] => 0
  | (_, value) :: fields => max (depth value) (depthFields fields)

end

theorem wellFormedFields_iff {fields : List (PyStr × Json)} :
    WellFormedFields fields ↔ ∀ f ∈ fields, encodable f.1 = true ∧ WellFormed f.2 := by
  induction fields with
  | nil => simp [WellFormedFields]
  | cons f fields ih =>
    obtain ⟨name, value⟩ := f
    simp [WellFormedFields, ih, and_assoc]

theorem depthItems_le_iff {items : List Json} {n : ℕ} :
    depthItems items ≤ n ↔ ∀ item ∈ items, depth item ≤ n := by
  induction items with
  | nil => simp [depthItems]
  | cons item items ih => simp [depthItems, ih]

theorem depthFields_le_iff {fields : List (PyStr × Json)} {n : ℕ} :
    depthFields fields ≤ n ↔ ∀ f ∈ fields, depth f.2 ≤ n := by
  induction fields with
  | nil => simp [depthFields]
  | cons f fields ih =>
    obtain ⟨name, value⟩ := f
    simp [depthFields, ih]

mutual

theorem encodable_of_wellFormed : ∀ {value : Json}, WellFormed value → value.encodable = true
  | .null, _ => rfl
  | .bool _, _ => rfl
  | .int _, _ => rfl
  | .float _, _ => rfl
  | .str _, h => h
  | .arr _, h => by
      rw [WellFormed] at h
      rw [Json.encodable]
      exact encodableItems_of_wellFormed h
  | .obj _, h => by
      rw [WellFormed] at h
      rw [Json.encodable]
      exact encodableFields_of_wellFormed h.2

theorem encodableItems_of_wellFormed : ∀ {items : List Json}, WellFormedItems items →
    Json.encodableItems items = true
  | [], _ => rfl
  | _ :: _, h => by
      rw [WellFormedItems] at h
      rw [Json.encodableItems, encodable_of_wellFormed h.1, encodableItems_of_wellFormed h.2]
      rfl

theorem encodableFields_of_wellFormed : ∀ {fields : List (PyStr × Json)},
    WellFormedFields fields → Json.encodableFields fields = true
  | [], _ => rfl
  | (_, _) :: _, h => by
      rw [WellFormedFields] at h
      rw [Json.encodableFields, h.1, encodable_of_wellFormed h.2.1,
        encodableFields_of_wellFormed h.2.2]
      rfl

end

theorem get?_of_mem {fields : List (PyStr × Json)} (hnodup : (fields.map Prod.fst).Nodup)
    {f : PyStr × Json} (hf : f ∈ fields) : (Json.obj fields).get? f.1 = some f.2 := by
  induction fields with
  | nil => cases hf
  | cons g fields ih =>
    rw [List.map_cons, List.nodup_cons] at hnodup
    simp only [Json.get?] at ih ⊢
    rcases List.mem_cons.mp hf with rfl | hf
    · simp
    · have hne : g.1 ≠ f.1 := by
        intro heq
        exact hnodup.1 (heq ▸ List.mem_map_of_mem hf)
      rw [List.find?_cons_of_neg (by simpa using hne)]
      exact ih hnodup.2 hf

theorem pyEqFields_of_get? {fields others : List (PyStr × Json)}
    (h : ∀ f ∈ fields, (Json.obj others).get? f.1 = some f.2 ∧ f.2.pyEq f.2 = true) :
    Json.pyEqFields fields others = true := by
  induction fields with
  | nil => rfl
  | cons f fields ih =>
    obtain ⟨hget, hself⟩ := h f (List.mem_cons_self ..)
    have hrest := ih fun g hg => h g (List.mem_cons_of_mem f hg)
    simp [Json.pyEqFields, hget, hself, hrest]

mutual

theorem pyEq_self : ∀ {value : Json}, WellFormed value → value.pyEq value = true
  | .null, _ => rfl
  | .bool _, _ => by simp [Json.pyEq, Json.number?]
  | .int _, _ => by simp [Json.pyEq, Json.number?]
  | .float _, _ => by simp [Json.pyEq, Json.number?]
  | .str _, _ => by simp [Json.pyEq]
  | .arr _, h => by
      rw [WellFormed] at h
      rw [Json.pyEq]
      exact pyEqItems_self h
  | .obj _, h => by
      rw [WellFormed] at h
      have hfields := pyEqFields_of_get? fun f hf => ⟨get?_of_mem h.1 hf, pyEq_field h.2 f hf⟩
      simp [Json.pyEq, hfields]

theorem pyEqItems_self : ∀ {items : List Json}, WellFormedItems items →
    Json.pyEqItems items items = true
  | [], _ => rfl
  | _ :: _, h => by
      rw [WellFormedItems] at h
      simp [Json.pyEqItems, pyEq_self h.1, pyEqItems_self h.2]

theorem pyEq_field : ∀ {fields : List (PyStr × Json)}, WellFormedFields fields →
    ∀ f ∈ fields, f.2.pyEq f.2 = true
  | [], _, _, hf => by cases hf
  | (_, _) :: _, h, f, hf => by
      rw [WellFormedFields] at h
      rcases List.mem_cons.mp hf with rfl | hf
      · exact pyEq_self h.2.1
      · exact pyEq_field h.2.2 f hf

end

/-! ## Writing -/

/-- How a serializer writes what is in a value. -/
structure Layout where
  /-- a character of a string -/
  unit : CodePoint → PyStr
  /-- what stands after a comma and after a colon -/
  gap : PyStr
  int : ℤ → PyStr
  float : ℚ → PyStr

section Writing

variable (layout : Layout)

def quoted (s : PyStr) : PyStr := 34 :: (s.flatMap layout.unit ++ [34])

mutual

def write : Json → PyStr
  | .null => py "null"
  | .bool true => py "true"
  | .bool false => py "false"
  | .int n => layout.int n
  | .float q => layout.float q
  | .str s => quoted layout s
  | .arr [] => [91, 93]
  | .arr (item :: items) => 91 :: (write item ++ writeItems items)
  | .obj [] => [123, 125]
  | .obj ((name, value) :: fields) =>
      123 :: (quoted layout name ++ 58 :: (layout.gap ++ (write value ++ writeFields fields)))

/-- What follows an item of a list. -/
def writeItems : List Json → PyStr
  | [] => [93]
  | item :: items => 44 :: (layout.gap ++ (write item ++ writeItems items))

/-- What follows a field of an object. -/
def writeFields : List (PyStr × Json) → PyStr
  | [] => [125]
  | (name, value) :: fields =>
      44 :: (layout.gap ++ (quoted layout name ++
        58 :: (layout.gap ++ (write value ++ writeFields fields))))

end

end Writing

/-! ## Reading -/

/-- The value of a hexadecimal digit. -/
def hexDigit? (c : CodePoint) : Option (Fin 16) :=
  if h : 48 ≤ c.val ∧ c.val ≤ 57 then some ⟨c.val - 48, by omega⟩
  else if h : 65 ≤ c.val ∧ c.val ≤ 70 then some ⟨c.val - 55, by omega⟩
  else if h : 97 ≤ c.val ∧ c.val ≤ 102 then some ⟨c.val - 87, by omega⟩
  else none

theorem hexDigit?_hexDigit (n : Fin 16) : hexDigit? (hexDigit n) = some n := by
  revert n
  decide

/-- The four digits of a `\u` escape. -/
def readHex : PyStr → Option (Fin 65536 × PyStr)
  | a :: b :: c :: d :: text =>
      match hexDigit? a, hexDigit? b, hexDigit? c, hexDigit? d with
      | some a, some b, some c, some d =>
          some (⟨((a.val * 16 + b.val) * 16 + c.val) * 16 + d.val, by omega⟩, text)
      | _, _, _, _ => none
  | _ => none

/-- A low surrogate's escape, after the high one. -/
def readLow (high : Fin 65536) : PyStr → Option (CodePoint × PyStr)
  | c :: d :: text =>
      if c.val = 92 ∧ d.val = 117 then
        match readHex text with
        | some (low, text) =>
            if h : 0xD800 ≤ high.val ∧ high.val ≤ 0xDBFF ∧ 0xDC00 ≤ low.val ∧ low.val ≤ 0xDFFF then
              some (⟨0x10000 + (high.val - 0xD800) * 1024 + (low.val - 0xDC00), by omega⟩, text)
            else none
        | none => none
      else none
  | _ => none

/-- What follows the `\u` of an escape: a lone surrogate is refused. -/
def readEscape (text : PyStr) : Option (CodePoint × PyStr) :=
  match readHex text with
  | some (n, text) =>
      if 0xD800 ≤ n.val ∧ n.val ≤ 0xDBFF then readLow n text
      else if 0xDC00 ≤ n.val ∧ n.val ≤ 0xDFFF then none
      else some (⟨n.val, by omega⟩, text)
  | none => none

/-- One character of a string; none at the closing quote. -/
def readUnit : PyStr → Option (CodePoint × PyStr)
  | [] => none
  | c :: text =>
      if c.val = 34 then none
      else if c.val = 92 then
        match text with
        | [] => none
        | d :: text =>
            if d.val = 117 then readEscape text
            else if d.val ∈ [34, 47, 92, 98, 102, 110, 114, 116] then
              some (Fin.ofNat 0x110000 (shortValue d.val), text)
            else none
      else if c.val < 32 then none
      else some (c, text)

theorem readUnit_shortEscape {c : CodePoint} {escape : PyStr} (h : shortEscape c = some escape)
    (text : PyStr) : readUnit (escape ++ text) = some (c, text) := by
  unfold shortEscape at h
  split_ifs at h with h₁ h₂ h₃ h₄ h₅ h₆ h₇
  · obtain rfl : c = 34 := Fin.ext h₁
    cases h
    rfl
  · obtain rfl : c = 92 := Fin.ext h₂
    cases h
    rfl
  · obtain rfl : c = 8 := Fin.ext h₃
    cases h
    rfl
  · obtain rfl : c = 9 := Fin.ext h₄
    cases h
    rfl
  · obtain rfl : c = 10 := Fin.ext h₅
    cases h
    rfl
  · obtain rfl : c = 12 := Fin.ext h₆
    cases h
    rfl
  · obtain rfl : c = 13 := Fin.ext h₇
    cases h
    rfl

theorem readHex_unicodeEscape (n : Fin 65536) (text : PyStr) :
    ∃ digits, unicodeEscape n = 92 :: 117 :: digits ∧
      readHex (digits ++ text) = some (n, text) := by
  have hlead : py "\\u" = [92, 117] := rfl
  refine ⟨[hexDigit ⟨n.val / 4096, by omega⟩, hexDigit ⟨n.val / 256 % 16, by omega⟩,
    hexDigit ⟨n.val / 16 % 16, by omega⟩, hexDigit ⟨n.val % 16, by omega⟩],
    by rw [unicodeEscape, hlead]; rfl, ?_⟩
  simp only [List.cons_append, List.nil_append, readHex, hexDigit?_hexDigit]
  have hvalue : ((n.val / 4096 * 16 + n.val / 256 % 16) * 16 + n.val / 16 % 16) * 16 + n.val % 16 =
      n.val := by omega
  simp only [hvalue]

theorem readUnit_unicodeEscape {n : Fin 65536} {c : CodePoint} (hc : c.val = n.val)
    (hplain : isSurrogate c = false) (text : PyStr) :
    readUnit (unicodeEscape n ++ text) = some (c, text) := by
  obtain ⟨digits, hescape, hread⟩ := readHex_unicodeEscape n text
  simp only [isSurrogate, Bool.and_eq_false_iff, decide_eq_false_iff_not, hc] at hplain
  rw [hescape]
  simp only [List.cons_append, readUnit, readEscape, hread]
  rw [if_neg (by decide), if_pos (by decide), if_pos (by decide), if_neg (by omega),
    if_neg (by omega)]
  exact congrArg some (Prod.ext (Fin.ext hc.symm) rfl)

/-- A character beyond the basic plane, written as two escapes. -/
theorem readUnit_surrogatePair {c : CodePoint} {high low : Fin 65536} (hc : 0x10000 ≤ c.val)
    (hhigh : high.val = 0xD800 + (c.val - 0x10000) / 1024)
    (hlow : low.val = 0xDC00 + (c.val - 0x10000) % 1024) (text : PyStr) :
    readUnit (unicodeEscape high ++ unicodeEscape low ++ text) = some (c, text) := by
  obtain ⟨lowDigits, hlowEscape, hreadLow⟩ := readHex_unicodeEscape low text
  obtain ⟨digits, hescape, hread⟩ := readHex_unicodeEscape high (unicodeEscape low ++ text)
  have hbound := c.isLt
  rw [List.append_assoc, hescape]
  simp only [List.cons_append, readUnit, readEscape, hread]
  rw [if_neg (by decide), if_pos (by decide), if_pos (by decide), if_pos (by omega), hlowEscape]
  simp only [List.cons_append, readLow, hreadLow]
  rw [if_pos (by decide), dif_pos (by omega)]
  refine congrArg some (Prod.ext (Fin.ext ?_) rfl)
  show 0x10000 + (high.val - 0xD800) * 1024 + (low.val - 0xDC00) = c.val
  omega

theorem readUnit_plain {c : CodePoint} (hshort : shortEscape c = none) (hprintable : 32 ≤ c.val)
    (text : PyStr) : readUnit (c :: text) = some (c, text) := by
  obtain ⟨hquote, hslash⟩ := shortEscape_eq_none hshort
  rw [readUnit.eq_def]
  simp only
  rw [if_neg hquote, if_neg hslash, if_neg (by omega)]

/-- The reader takes a character as `json.dumps` writes it. -/
theorem readUnit_asciiUnit {c : CodePoint} (hplain : isSurrogate c = false) (text : PyStr) :
    readUnit (asciiUnit c ++ text) = some (c, text) := by
  unfold asciiUnit
  rcases hshort : shortEscape c with _ | escape
  · simp only
    split_ifs with hprintable hbasic
    · exact readUnit_plain hshort hprintable.1 text
    · exact readUnit_unicodeEscape rfl hplain text
    · apply readUnit_surrogatePair (Nat.le_of_not_lt hbasic)
      · rfl
      · rfl
  · exact readUnit_shortEscape hshort text

/-- The reader takes a character as the compact encoder writes it. -/
theorem readUnit_compactUnit {c : CodePoint} (hplain : isSurrogate c = false) (text : PyStr) :
    readUnit (compactUnit c ++ text) = some (c, text) := by
  unfold compactUnit
  rcases hshort : shortEscape c with _ | escape
  · simp only
    split_ifs with hcontrol
    · exact readUnit_unicodeEscape rfl hplain text
    · exact readUnit_plain hshort (by omega) text
  · exact readUnit_shortEscape hshort text

/-- A string, after its opening quote. -/
def readString : ℕ → PyStr → Option (PyStr × PyStr)
  | 0, _ => none
  | _ + 1, [] => none
  | n + 1, c :: text =>
      if c.val = 34 then some ([], text)
      else
        (readUnit (c :: text)).bind fun unit =>
          (readString n unit.2).map fun s => (unit.1 :: s.1, s.2)

/-- A character of a number. -/
def isNumeral (c : CodePoint) : Bool :=
  (decide (48 ≤ c.val) && decide (c.val ≤ 57)) || decide (c.val ∈ [43, 45, 46, 69, 101])

def skipGap (text : PyStr) : PyStr := text.dropWhile fun c => decide (c.val = 32)

/-- The words `null`, `true` and `false`. -/
def readWord (text : PyStr) : Option (Json × PyStr) :=
  if py "null" <+: text then some (.null, text.drop 4)
  else if py "true" <+: text then some (.bool true, text.drop 4)
  else if py "false" <+: text then some (.bool false, text.drop 5)
  else none

section Reading

variable (number : PyStr → Option Json)

def readNumber (text : PyStr) : Option (Json × PyStr) :=
  (number (text.takeWhile isNumeral)).map fun value => (value, text.dropWhile isNumeral)

mutual

def readValue : ℕ → PyStr → Option (Json × PyStr)
  | 0, _ => none
  | _ + 1, [] => none
  | n + 1, c :: text =>
      if c.val = 34 then (readString n text).map fun s => (.str s.1, s.2)
      else if c.val = 91 then
        if text.head? = some 93 then some (.arr [], text.tail)
        else
          (readValue n text).bind fun item =>
            (readItems n item.2).map fun items => (.arr (item.1 :: items.1), items.2)
      else if c.val = 123 then
        if text.head? = some 125 then some (.obj [], text.tail)
        else
          (readField n text).bind fun field =>
            (readFields n field.2).map fun fields => (.obj (field.1 :: fields.1), fields.2)
      else if isNumeral c then readNumber number (c :: text)
      else readWord (c :: text)

def readItems : ℕ → PyStr → Option (List Json × PyStr)
  | 0, _ => none
  | _ + 1, [] => none
  | n + 1, c :: text =>
      if c.val = 93 then some ([], text)
      else if c.val = 44 then
        (readValue n (skipGap text)).bind fun item =>
          (readItems n item.2).map fun items => (item.1 :: items.1, items.2)
      else none

def readField : ℕ → PyStr → Option ((PyStr × Json) × PyStr)
  | 0, _ => none
  | _ + 1, [] => none
  | n + 1, c :: text =>
      if c.val = 34 then
        (readString n text).bind fun name =>
          if name.2.head? = some 58 then
            (readValue n (skipGap name.2.tail)).map fun value => ((name.1, value.1), value.2)
          else none
      else none

def readFields : ℕ → PyStr → Option (List (PyStr × Json) × PyStr)
  | 0, _ => none
  | _ + 1, [] => none
  | n + 1, c :: text =>
      if c.val = 125 then some ([], text)
      else if c.val = 44 then
        (readField n (skipGap text)).bind fun field =>
          (readFields n field.2).map fun fields => (field.1 :: fields.1, fields.2)
      else none

end

/-- The value of a text that holds one value and nothing else. -/
def read (text : PyStr) : Option Json :=
  match readValue number text.length text with
  | some (value, []) => some value
  | _ => none

end Reading

/-! ## Round trip -/

/-- The text is that of a number. -/
structure IsNumeral (text : PyStr) : Prop where
  ne_nil : text ≠ []
  numeral : ∀ c ∈ text, isNumeral c = true

/-- A reader of numbers takes what the layout writes. -/
structure Readable (layout : Layout) (number : PyStr → Option Json) : Prop where
  unit : ∀ {c}, isSurrogate c = false → ∀ text, readUnit (layout.unit c ++ text) = some (c, text)
  gap : ∀ c ∈ layout.gap, c.val = 32
  int : ∀ n, number (layout.int n) = some (.int n)
  float : ∀ {q}, IsDouble q → number (layout.float q) = some (.float q)
  numeral_int : ∀ n, IsNumeral (layout.int n)
  numeral_float : ∀ {q}, IsDouble q → IsNumeral (layout.float q)

/-- No number goes on in the text. -/
def Ends (text : PyStr) : Prop := ∀ c ∈ text.head?, isNumeral c = false

/-- The text starts as a value does. -/
def Starts (text : PyStr) : Prop :=
  ∃ c rest, text = c :: rest ∧ (isNumeral c = true ∨ c.val ∈ [34, 91, 102, 110, 116, 123])

theorem Starts.append {text : PyStr} (h : Starts text) (rest : PyStr) : Starts (text ++ rest) := by
  obtain ⟨c, tail, rfl, hc⟩ := h
  exact ⟨c, tail ++ rest, rfl, hc⟩

theorem Starts.head_ne {text : PyStr} (h : Starts text) {c : CodePoint}
    (hnumeral : isNumeral c = false) (hc : c.val ∉ [34, 91, 102, 110, 116, 123]) :
    text.head? ≠ some c := by
  obtain ⟨d, tail, rfl, hd⟩ := h
  intro heq
  cases heq
  rcases hd with hd | hd
  · rw [hd] at hnumeral
    cases hnumeral
  · exact hc hd

theorem Starts.skipGap {gap text : PyStr} (hgap : ∀ c ∈ gap, c.val = 32) (h : Starts text) :
    skipGap (gap ++ text) = text := by
  obtain ⟨d, tail, rfl, hd⟩ := h
  have hne : d.val ≠ 32 := by
    intro heq
    obtain rfl : d = 32 := Fin.ext heq
    revert hd
    decide
  unfold JsonText.skipGap
  rw [List.dropWhile_append_of_pos (by simpa using hgap),
    List.dropWhile_cons_of_neg (by simpa using hne)]

section RoundTrip

variable {layout : Layout} {number : PyStr → Option Json}

theorem readNumber_numeral {token text : PyStr} {value : Json} (htoken : IsNumeral token)
    (hvalue : number token = some value) (hends : Ends text) :
    readNumber number (token ++ text) = some (value, text) := by
  have htake : text.takeWhile isNumeral = [] := by
    rcases text with _ | ⟨c, text⟩
    · rfl
    · exact List.takeWhile_cons_of_neg (by simp [hends c rfl])
  have hdrop : text.dropWhile isNumeral = text := by
    rcases text with _ | ⟨c, text⟩
    · rfl
    · exact List.dropWhile_cons_of_neg (by simp [hends c rfl])
  unfold readNumber
  rw [List.takeWhile_append_of_pos htoken.numeral, List.dropWhile_append_of_pos htoken.numeral,
    htake, hdrop, List.append_nil, hvalue]
  rfl

theorem readString_units (hread : Readable layout number) {s : PyStr} (hs : encodable s = true)
    {n : ℕ} (hn : (s.flatMap layout.unit).length < n) (text : PyStr) :
    readString n (s.flatMap layout.unit ++ 34 :: text) = some (s, text) := by
  induction s generalizing n with
  | nil =>
    rcases n with _ | n
    · omega
    · rfl
  | cons c s ih =>
    rw [encodable_cons, Bool.and_eq_true, Bool.not_eq_true'] at hs
    rw [List.flatMap_cons, List.length_append] at hn
    have hunit := hread.unit hs.1 (s.flatMap layout.unit ++ 34 :: text)
    rcases hfirst : layout.unit c with _ | ⟨d, tail⟩
    · have hnone := hread.unit hs.1 []
      rw [hfirst] at hnone
      cases hnone
    · rcases n with _ | n
      · omega
      · rw [hfirst, List.length_cons] at hn
        have hquote : d.val ≠ 34 := by
          intro heq
          rw [hfirst, List.cons_append, readUnit.eq_def] at hunit
          simp [heq] at hunit
        rw [List.flatMap_cons, List.append_assoc, hfirst, List.cons_append, readString,
          if_neg hquote, ← List.cons_append, ← hfirst, hunit]
        simp only [Option.bind_some]
        rw [ih hs.2 (by omega)]
        rfl

theorem starts_write (hread : Readable layout number) :
    ∀ {value : Json}, WellFormed value → Starts (write layout value)
  | .null, _ => ⟨110, _, rfl, Or.inr (by decide)⟩
  | .bool true, _ => ⟨116, _, rfl, Or.inr (by decide)⟩
  | .bool false, _ => ⟨102, _, rfl, Or.inr (by decide)⟩
  | .int n, _ => by
      have htoken := hread.numeral_int n
      rw [write]
      obtain ⟨c, tail, htext⟩ := List.exists_cons_of_ne_nil htoken.ne_nil
      exact ⟨c, tail, htext, Or.inl (htoken.numeral c (by simp [htext]))⟩
  | .float q, h => by
      have htoken := hread.numeral_float h
      rw [write]
      obtain ⟨c, tail, htext⟩ := List.exists_cons_of_ne_nil htoken.ne_nil
      exact ⟨c, tail, htext, Or.inl (htoken.numeral c (by simp [htext]))⟩
  | .str _, _ => ⟨34, _, rfl, Or.inr (by decide)⟩
  | .arr [], _ => ⟨91, _, rfl, Or.inr (by decide)⟩
  | .arr (_ :: _), _ => ⟨91, _, rfl, Or.inr (by decide)⟩
  | .obj [], _ => ⟨123, _, rfl, Or.inr (by decide)⟩
  | .obj ((_, _) :: _), _ => ⟨123, _, rfl, Or.inr (by decide)⟩

theorem ends_writeItems (layout : Layout) (items : List Json) (rest : PyStr) :
    Ends (writeItems layout items ++ rest) := by
  intro c hc
  rcases items with _ | ⟨item, items⟩
  · rw [writeItems] at hc
    cases hc
    decide
  · rw [writeItems] at hc
    cases hc
    decide

theorem ends_writeFields (layout : Layout) (fields : List (PyStr × Json)) (rest : PyStr) :
    Ends (writeFields layout fields ++ rest) := by
  intro c hc
  rcases fields with _ | ⟨⟨name, value⟩, fields⟩
  · rw [writeFields] at hc
    cases hc
    decide
  · rw [writeFields] at hc
    cases hc
    decide

theorem readWord_null (rest : PyStr) : readWord (py "null" ++ rest) = some (.null, rest) := by
  rw [readWord, if_pos (List.prefix_append _ _)]
  rfl

theorem readWord_bool (b : Bool) (rest : PyStr) :
    readWord (py (if b then "true" else "false") ++ rest) = some (.bool b, rest) := by
  have hhead : ∀ word c tail, py word = c :: tail → c.val ≠ 110 →
      ¬ py "null" <+: py word ++ rest := by
    intro word c tail hword hc hprefix
    have hnull : py "null" = 110 :: [117, 108, 108] := rfl
    rw [hnull, hword, List.cons_append, List.cons_prefix_cons] at hprefix
    exact hc (congrArg Fin.val hprefix.1.symm)
  rcases b
  · have htrue : ¬ py "true" <+: py "false" ++ rest := by
      intro hprefix
      have htrue : py "true" = 116 :: [114, 117, 101] := rfl
      have hfalse : py "false" = 102 :: [97, 108, 115, 101] := rfl
      rw [htrue, hfalse, List.cons_append, List.cons_prefix_cons] at hprefix
      exact absurd hprefix.1 (by decide)
    simp only [Bool.false_eq_true, if_false]
    rw [readWord, if_neg (hhead "false" _ _ rfl (by decide)), if_neg htrue,
      if_pos (List.prefix_append _ _)]
    rfl
  · simp only [if_true]
    rw [readWord, if_neg (hhead "true" _ _ rfl (by decide)), if_pos (List.prefix_append _ _)]
    rfl

theorem readValue_numeral {token rest : PyStr} {value : Json} (htoken : IsNumeral token)
    (hvalue : number token = some value) (hends : Ends rest) {n : ℕ} (hn : token.length ≤ n) :
    readValue number n (token ++ rest) = some (value, rest) := by
  obtain ⟨c, tail, htext⟩ := List.exists_cons_of_ne_nil htoken.ne_nil
  have hc : isNumeral c = true := htoken.numeral c (by simp [htext])
  rcases n with _ | n
  · rw [htext] at hn
    cases hn
  · have hread := readNumber_numeral htoken hvalue hends
    have hbounds := hc
    simp only [isNumeral, Bool.or_eq_true, Bool.and_eq_true, decide_eq_true_eq, List.mem_cons,
      List.not_mem_nil, or_false] at hbounds
    rw [htext, List.cons_append] at hread ⊢
    rw [readValue, if_neg (by omega), if_neg (by omega), if_neg (by omega), if_pos hc]
    exact hread

theorem readField_quoted (hread : Readable layout number) {name rest : PyStr} {value : Json}
    {n : ℕ} (hname : encodable name = true) (hn : (name.flatMap layout.unit).length < n)
    (hstart : Starts (write layout value))
    (hvalue : readValue number n (write layout value ++ rest) = some (value, rest)) :
    readField number (n + 1)
        (quoted layout name ++ 58 :: (layout.gap ++ (write layout value ++ rest))) =
      some ((name, value), rest) := by
  rw [quoted, List.cons_append, List.append_assoc, List.singleton_append, readField,
    if_pos (by decide), readString_units hread hname hn]
  simp only [Option.bind_some, List.head?_cons, List.tail_cons, if_true]
  rw [(hstart.append rest).skipGap hread.gap, hvalue]
  rfl

mutual

theorem readValue_write (hread : Readable layout number) : ∀ {value : Json}, WellFormed value →
    ∀ (n : ℕ), (write layout value).length ≤ n → ∀ (rest : PyStr), Ends rest →
      readValue number n (write layout value ++ rest) = some (value, rest)
  | .null, _, n + 1, _, rest, _ => by
      rw [write]
      exact readWord_null rest
  | .bool true, _, n + 1, _, rest, _ => by
      rw [write]
      exact readWord_bool true rest
  | .bool false, _, n + 1, _, rest, _ => by
      rw [write]
      exact readWord_bool false rest
  | .int i, _, n, hn, rest, hends => by
      rw [write] at hn ⊢
      exact readValue_numeral (hread.numeral_int i) (hread.int i) hends hn
  | .float q, h, n, hn, rest, hends => by
      rw [write] at hn ⊢
      exact readValue_numeral (hread.numeral_float h) (hread.float h) hends hn
  | .str s, h, n + 1, hn, rest, _ => by
      rw [write, quoted, List.length_cons, List.length_append, List.length_singleton] at hn
      rw [write, quoted, List.cons_append, List.append_assoc, List.singleton_append, readValue,
        if_pos (by decide), readString_units hread h (by omega)]
      rfl
  | .arr [], _, n + 1, _, rest, _ => by
      rw [write]
      rfl
  | .arr (item :: items), h, n + 1, hn, rest, _ => by
      rw [WellFormed, WellFormedItems] at h
      rw [write, List.length_cons, List.length_append] at hn
      have hitem := readValue_write hread h.1 n (by omega) _
        (ends_writeItems layout items rest)
      have hitems := readItems_writeItems hread h.2 n (by omega) rest
      have hstart := (starts_write hread h.1).append (writeItems layout items ++ rest)
      rw [write, List.cons_append, List.append_assoc, readValue, if_neg (by decide),
        if_pos (by decide), if_neg (hstart.head_ne (by decide) (by decide)), hitem,
        Option.bind_some, hitems]
      rfl
  | .obj [], _, n + 1, _, rest, _ => by
      rw [write]
      rfl
  | .obj ((name, value) :: fields), h, n + 1, hn, rest, _ => by
      rw [WellFormed, WellFormedFields] at h
      rw [write, quoted, List.length_cons, List.length_append, List.length_cons,
        List.length_append, List.length_singleton, List.length_cons, List.length_append,
        List.length_append] at hn
      obtain ⟨-, hname, hvalue, hfields⟩ := h
      rcases n with _ | n
      · omega
      · have hread₁ := readValue_write hread hvalue n (by omega) _
          (ends_writeFields layout fields rest)
        have hread₂ := readFields_writeFields hread hfields (n + 1) (by omega) rest
        have hfield := readField_quoted hread hname (by omega) (starts_write hread hvalue) hread₁
        have hassoc : write layout (.obj ((name, value) :: fields)) ++ rest =
            123 :: (quoted layout name ++ 58 :: (layout.gap ++
              (write layout value ++ (writeFields layout fields ++ rest)))) := by
          rw [write]
          simp
        rw [hassoc, readValue, if_neg (by decide), if_neg (by decide), if_pos (by decide),
          if_neg (by simp [quoted]), hfield, Option.bind_some, hread₂]
        rfl

theorem readItems_writeItems (hread : Readable layout number) : ∀ {items : List Json},
    WellFormedItems items → ∀ (n : ℕ), (writeItems layout items).length ≤ n → ∀ (rest : PyStr),
      readItems number n (writeItems layout items ++ rest) = some (items, rest)
  | [], _, n + 1, _, rest => by
      rw [writeItems]
      rfl
  | item :: items, h, n + 1, hn, rest => by
      rw [WellFormedItems] at h
      rw [writeItems, List.length_cons, List.length_append, List.length_append] at hn
      have hitem := readValue_write hread h.1 n (by omega) _
        (ends_writeItems layout items rest)
      have hitems := readItems_writeItems hread h.2 n (by omega) rest
      have hstart := (starts_write hread h.1).append (writeItems layout items ++ rest)
      rw [writeItems, List.cons_append, List.append_assoc, List.append_assoc, readItems,
        if_neg (by decide), if_pos (by decide), hstart.skipGap hread.gap, hitem, Option.bind_some,
        hitems]
      rfl

theorem readFields_writeFields (hread : Readable layout number) :
    ∀ {fields : List (PyStr × Json)}, WellFormedFields fields →
      ∀ (n : ℕ), (writeFields layout fields).length ≤ n → ∀ (rest : PyStr),
        readFields number n (writeFields layout fields ++ rest) = some (fields, rest)
  | [], _, n + 1, _, rest => by
      rw [writeFields]
      rfl
  | (name, value) :: fields, h, n + 1, hn, rest => by
      rw [WellFormedFields] at h
      rw [writeFields, quoted, List.length_cons, List.length_append, List.length_append,
        List.length_cons, List.length_append, List.length_singleton, List.length_cons,
        List.length_append, List.length_append] at hn
      obtain ⟨hname, hvalue, hfields⟩ := h
      rcases n with _ | n
      · omega
      · have hread₁ := readValue_write hread hvalue n (by omega) _
          (ends_writeFields layout fields rest)
        have hread₂ := readFields_writeFields hread hfields (n + 1) (by omega) rest
        have hfield := readField_quoted hread hname (by omega) (starts_write hread hvalue) hread₁
        have hstart : skipGap (layout.gap ++ (quoted layout name ++ 58 :: (layout.gap ++
            (write layout value ++ (writeFields layout fields ++ rest))))) =
            quoted layout name ++ 58 :: (layout.gap ++
              (write layout value ++ (writeFields layout fields ++ rest))) :=
          Starts.skipGap hread.gap ⟨34, _, rfl, Or.inr (by decide)⟩
        have hassoc : writeFields layout ((name, value) :: fields) ++ rest =
            44 :: (layout.gap ++ (quoted layout name ++ 58 :: (layout.gap ++
              (write layout value ++ (writeFields layout fields ++ rest))))) := by
          rw [writeFields]
          simp
        rw [hassoc, readFields, if_neg (by decide), if_pos (by decide), hstart, hfield,
          Option.bind_some, hread₂]
        rfl

end

/-- A well-formed value is read from its own text. -/
theorem read_write (hread : Readable layout number) {value : Json} (h : WellFormed value) :
    read number (write layout value) = some value := by
  have hvalue := readValue_write hread h (write layout value).length (le_refl _) []
    (fun c hc => by cases hc)
  rw [List.append_nil] at hvalue
  rw [read, hvalue]

end RoundTrip

end ExtractApi.JsonText
