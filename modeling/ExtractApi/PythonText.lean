import Mathlib

/-!
# Python text

A Python `str` is a sequence of code points, lone surrogates included, so it is
not a Lean `String`.  This module gives the code points, the `str` methods the
development needs (`strip`, the whitespace test, UTF-8 with and without
`surrogatepass`) and the two JSON string encoders Python code meets: the compact
UTF-8 one of a Rust serializer and the ASCII-only one of `json.dumps`.

UTF-8 and the compact encoder are both prefix codes.  Each is given its decoder,
and injectivity (`utf8_injective`, `jsonString_append_inj`) follows from the
decoder undoing one unit of the code at a time.
-/

namespace ExtractApi.PythonText

/-- A Unicode code point; `0xD800 … 0xDFFF` are the surrogates. -/
abbrev CodePoint := Fin 0x110000

/-- A Python `str`. -/
abbrev PyStr := List CodePoint

/-- A Python `bytes` object is a list of these. -/
abbrev Byte := Fin 256

-- what numerals and membership tests of these types elaborate to, under one name each
instance neZero_codePoint : NeZero (0x110000 : ℕ) := ⟨by decide⟩

instance neZero_byte : NeZero (256 : ℕ) := ⟨by decide⟩

instance neZero_nibble : NeZero (16 : ℕ) := ⟨by decide⟩

instance decidableMem (s : PyStr) (xs : List PyStr) : Decidable (s ∈ xs) := inferInstance

def CodePoint.ofChar (c : Char) : CodePoint :=
  ⟨c.toNat, by
    rcases c.valid with h | h
    · exact Nat.lt_trans h (by decide)
    · exact h.2⟩

/-- The Python value of a literal that holds no surrogate. -/
def py (s : String) : PyStr := s.toList.map CodePoint.ofChar

def isSurrogate (c : CodePoint) : Bool := decide (0xD800 ≤ c.val) && decide (c.val ≤ 0xDFFF)

/-- `s.encode("utf-8")` does not raise. -/
def encodable (s : PyStr) : Bool := s.all fun c => !isSurrogate c

@[simp] theorem encodable_nil : encodable [] = true := rfl

@[simp] theorem encodable_append (s t : PyStr) :
    encodable (s ++ t) = (encodable s && encodable t) := by
  simp [encodable]

theorem encodable_cons (c : CodePoint) (s : PyStr) :
    encodable (c :: s) = (!isSurrogate c && encodable s) := rfl

/-- `s.encode("latin-1")` does not raise. -/
def isLatin1 (s : PyStr) : Bool := s.all fun c => decide (c.val < 256)

theorem encodable_py (s : String) : encodable (py s) = true := by
  simp only [encodable, py, List.all_eq_true, List.mem_map, Bool.not_eq_true']
  rintro _ ⟨c, -, rfl⟩
  have hval : (CodePoint.ofChar c).val = c.val.toNat := rfl
  simp only [isSurrogate, hval, Bool.and_eq_false_iff, decide_eq_false_iff_not, not_le]
  rcases c.valid with h | h
  · exact Or.inl h
  · exact Or.inr h.1

/-! ## Whitespace -/

/-- `c.isspace()`: bidirectional type WS, B or S, or category Zs. -/
def isSpace (c : CodePoint) : Bool :=
  (decide (0x09 ≤ c.val) && decide (c.val ≤ 0x0D)) ||
    (decide (0x1C ≤ c.val) && decide (c.val ≤ 0x20)) ||
    (decide (0x2000 ≤ c.val) && decide (c.val ≤ 0x200A)) ||
    decide (c.val ∈ [0x85, 0xA0, 0x1680, 0x2028, 0x2029, 0x202F, 0x205F, 0x3000])

/-- `s.strip()` -/
def strip (s : PyStr) : PyStr := (s.dropWhile isSpace).rdropWhile isSpace

/-- `"".join(s.split())` -/
def joinSplit (s : PyStr) : PyStr := s.filter fun c => !isSpace c

/-! ## UTF-8

`utf8Unit` is total: on a surrogate it is the three-byte form that the
`surrogatepass` handler writes. -/

def utf8Unit (c : CodePoint) : List Byte :=
  if h1 : c.val < 0x80 then [⟨c.val, by omega⟩]
  else if h2 : c.val < 0x800 then
    [⟨0xC0 + c.val / 64, by omega⟩, ⟨0x80 + c.val % 64, by omega⟩]
  else if h3 : c.val < 0x10000 then
    [⟨0xE0 + c.val / 4096, by omega⟩, ⟨0x80 + c.val / 64 % 64, by omega⟩,
      ⟨0x80 + c.val % 64, by omega⟩]
  else
    [⟨0xF0 + c.val / 262144, by omega⟩, ⟨0x80 + c.val / 4096 % 64, by omega⟩,
      ⟨0x80 + c.val / 64 % 64, by omega⟩, ⟨0x80 + c.val % 64, by omega⟩]

/-- `s.encode("utf-8", "surrogatepass")` -/
def utf8SurrogatePass (s : PyStr) : List Byte := s.flatMap utf8Unit

/-- `s.encode("utf-8")`; `none` is the `UnicodeEncodeError`. -/
def utf8 (s : PyStr) : Option (List Byte) :=
  if encodable s then some (utf8SurrogatePass s) else none

/-- The number a UTF-8 unit stands for, read from its bytes. -/
def utf8Value : List Byte → ℕ
  | [a] => a.val
  | [a, b] => (a.val - 0xC0) * 64 + (b.val - 0x80)
  | [a, b, c] => (a.val - 0xE0) * 4096 + (b.val - 0x80) * 64 + (c.val - 0x80)
  | [a, b, c, d] =>
      (a.val - 0xF0) * 262144 + (b.val - 0x80) * 4096 + (c.val - 0x80) * 64 + (d.val - 0x80)
  | _ => 0

/-- How many bytes a UTF-8 unit has, read from its first byte. -/
def utf8Width : List Byte → ℕ
  | [] => 0
  | a :: _ =>
      if a.val < 0x80 then 1 else if a.val < 0xE0 then 2 else if a.val < 0xF0 then 3 else 4

theorem utf8Value_utf8Unit (c : CodePoint) : utf8Value (utf8Unit c) = c.val := by
  obtain ⟨n, hn⟩ := c
  unfold utf8Unit
  split_ifs with h1 h2 h3
  · rfl
  · show (0xC0 + n / 64 - 0xC0) * 64 + (0x80 + n % 64 - 0x80) = n
    omega
  · show (0xE0 + n / 4096 - 0xE0) * 4096 + (0x80 + n / 64 % 64 - 0x80) * 64 +
      (0x80 + n % 64 - 0x80) = n
    omega
  · show (0xF0 + n / 262144 - 0xF0) * 262144 + (0x80 + n / 4096 % 64 - 0x80) * 4096 +
      (0x80 + n / 64 % 64 - 0x80) * 64 + (0x80 + n % 64 - 0x80) = n
    omega

theorem utf8Unit_ne_nil (c : CodePoint) : utf8Unit c ≠ [] := by
  unfold utf8Unit
  split_ifs <;> simp

theorem utf8Width_utf8Unit (c : CodePoint) (rest : List Byte) :
    utf8Width (utf8Unit c ++ rest) = (utf8Unit c).length := by
  have hc := c.isLt
  unfold utf8Unit
  split_ifs with h1 h2 h3
  · simp [utf8Width, h1]
  · simp only [List.cons_append, utf8Width, List.length_cons, List.length_nil]
    rw [if_neg (by omega), if_pos (by omega)]
  · simp only [List.cons_append, utf8Width, List.length_cons, List.length_nil]
    rw [if_neg (by omega), if_neg (by omega), if_pos (by omega)]
  · simp only [List.cons_append, utf8Width, List.length_cons, List.length_nil]
    rw [if_neg (by omega), if_neg (by omega), if_neg (by omega)]

theorem utf8Unit_append_inj {c d : CodePoint} {xs ys : List Byte}
    (h : utf8Unit c ++ xs = utf8Unit d ++ ys) : c = d ∧ xs = ys := by
  have hlen : (utf8Unit c).length = (utf8Unit d).length := by
    rw [← utf8Width_utf8Unit c xs, h, utf8Width_utf8Unit]
  obtain ⟨hunit, hrest⟩ := List.append_inj h hlen
  refine ⟨Fin.ext ?_, hrest⟩
  rw [← utf8Value_utf8Unit c, hunit, utf8Value_utf8Unit]

theorem utf8SurrogatePass_injective : Function.Injective utf8SurrogatePass := by
  intro s
  induction s with
  | nil =>
    intro t h
    cases t with
    | nil => rfl
    | cons d t =>
      have hnil : utf8Unit d ++ utf8SurrogatePass t = [] := h.symm
      exact absurd (List.append_eq_nil_iff.mp hnil).1 (utf8Unit_ne_nil d)
  | cons c s ih =>
    intro t h
    cases t with
    | nil =>
      have hnil : utf8Unit c ++ utf8SurrogatePass s = [] := h
      exact absurd (List.append_eq_nil_iff.mp hnil).1 (utf8Unit_ne_nil c)
    | cons d t =>
      have hunits : utf8Unit c ++ utf8SurrogatePass s = utf8Unit d ++ utf8SurrogatePass t := h
      obtain ⟨hcd, hst⟩ := utf8Unit_append_inj hunits
      rw [hcd, ih hst]

theorem utf8_of_encodable {s : PyStr} (h : encodable s = true) :
    utf8 s = some (utf8SurrogatePass s) := if_pos h

/-! ## JSON strings -/

/-- One lower-case hexadecimal digit. -/
def hexDigit (n : Fin 16) : CodePoint :=
  if n.val < 10 then ⟨48 + n.val, by omega⟩ else ⟨87 + n.val, by omega⟩

/-- `\uXXXX` for a UTF-16 code unit. -/
def unicodeEscape (n : Fin 65536) : PyStr :=
  py "\\u" ++ [hexDigit ⟨n.val / 4096, by omega⟩, hexDigit ⟨n.val / 256 % 16, by omega⟩,
    hexDigit ⟨n.val / 16 % 16, by omega⟩, hexDigit ⟨n.val % 16, by omega⟩]

/-- The two-character escapes that every JSON encoder here shares. -/
def shortEscape (c : CodePoint) : Option PyStr :=
  if c.val = 34 then some (py "\\\"")
  else if c.val = 92 then some (py "\\\\")
  else if c.val = 8 then some (py "\\b")
  else if c.val = 9 then some (py "\\t")
  else if c.val = 10 then some (py "\\n")
  else if c.val = 12 then some (py "\\f")
  else if c.val = 13 then some (py "\\r")
  else none

/-- One character as the compact encoder writes it: only the quote, the backslash
    and the control characters are escaped. -/
def compactUnit (c : CodePoint) : PyStr :=
  match shortEscape c with
  | some e => e
  | none => if h : c.val < 32 then unicodeEscape ⟨c.val, by omega⟩ else [c]

/-- A JSON string as the compact encoder writes it. -/
def jsonString (s : PyStr) : PyStr := py "\"" ++ s.flatMap compactUnit ++ py "\""

/-- One character as `json.dumps` writes it with `ensure_ascii`: everything outside
    the printable ASCII range is escaped, as a surrogate pair above the BMP. -/
def asciiUnit (c : CodePoint) : PyStr :=
  match shortEscape c with
  | some e => e
  | none =>
      if 32 ≤ c.val ∧ c.val ≤ 126 then [c]
      else if h : c.val < 0x10000 then unicodeEscape ⟨c.val, by omega⟩
      else
        unicodeEscape ⟨0xD800 + (c.val - 0x10000) / 1024, by omega⟩ ++
          unicodeEscape ⟨0xDC00 + (c.val - 0x10000) % 1024, by omega⟩

/-- A JSON string as `json.dumps` writes it. -/
def asciiJsonString (s : PyStr) : PyStr := py "\"" ++ s.flatMap asciiUnit ++ py "\""

/-! ### What the compact encoding can encode -/

theorem isSurrogate_hexDigit (n : Fin 16) : isSurrogate (hexDigit n) = false := by
  revert n
  decide

theorem encodable_unicodeEscape (n : Fin 65536) : encodable (unicodeEscape n) = true := by
  have hlead : encodable (py "\\u") = true := by decide
  simp [unicodeEscape, hlead, encodable_cons, isSurrogate_hexDigit]

theorem encodable_compactUnit (c : CodePoint) : encodable (compactUnit c) = !isSurrogate c := by
  unfold compactUnit
  cases hshort : shortEscape c with
  | some e =>
    have hlow : isSurrogate c = false ∧ encodable e = true := by
      unfold shortEscape at hshort
      split_ifs at hshort <;> cases hshort <;>
        refine ⟨?_, by decide⟩ <;> simp [isSurrogate, *]
    simp [hlow]
  | none =>
    by_cases hlow : c.val < 32
    · have hplain : isSurrogate c = false := by
        simp only [isSurrogate, Bool.and_eq_false_iff, decide_eq_false_iff_not]
        omega
      simp [hlow, hplain, encodable_unicodeEscape]
    · simp [hlow, encodable_cons]

/-- A JSON string can be written as UTF-8 exactly when the text it encodes can. -/
theorem encodable_jsonString (s : PyStr) : encodable (jsonString s) = encodable s := by
  have hquote : encodable (py "\"") = true := by decide
  have hunits : encodable (s.flatMap compactUnit) = encodable s := by
    induction s with
    | nil => rfl
    | cons c s ih =>
      rw [List.flatMap_cons, encodable_append, encodable_compactUnit, ih, encodable_cons]
  rw [jsonString, encodable_append, encodable_append, hquote, hunits]
  simp

/-! ### The compact encoding is a prefix code

`compactRead` undoes one unit.  It looks at the first character only to tell an
escape from a literal, and at the second only to tell the short escapes from
`\u`, which is all a prefix code needs. -/

/-- The value of a lower-case hexadecimal digit. -/
def hexValue (c : CodePoint) : ℕ := if c.val < 58 then c.val - 48 else c.val - 87

theorem hexValue_hexDigit (n : Fin 16) : hexValue (hexDigit n) = n.val := by
  unfold hexDigit hexValue
  split_ifs with h1 h2 h2
  · show 48 + n.val - 48 = n.val
    omega
  · exact absurd (show 48 + n.val < 58 by omega) h2
  · exact absurd (show 87 + n.val < 58 from h2) (by omega)
  · show 87 + n.val - 87 = n.val
    omega

theorem hexDigit_injective : Function.Injective hexDigit := by
  intro m n h
  have hvalue := congrArg hexValue h
  rw [hexValue_hexDigit, hexValue_hexDigit] at hvalue
  exact Fin.ext hvalue

/-- What a short escape's second character stands for. -/
def shortValue (n : ℕ) : ℕ :=
  if n = 98 then 8 else if n = 116 then 9 else if n = 110 then 10
  else if n = 102 then 12 else if n = 114 then 13 else n

/-- Read one encoded character and the rest of the text. -/
def compactRead : PyStr → Option (ℕ × PyStr)
  | [] => none
  | c :: rest =>
      if c.val = 92 then
        match rest with
        | [] => none
        | d :: rest =>
            if d.val = 117 then
              match rest with
              | _ :: _ :: high :: low :: rest => some (hexValue high * 16 + hexValue low, rest)
              | _ => none
            else some (shortValue d.val, rest)
      else some (c.val, rest)

theorem shortEscape_eq_some {c : CodePoint} {e : PyStr} (h : shortEscape c = some e) :
    ∃ d : CodePoint, e = [92, d] ∧ d.val ≠ 117 ∧ shortValue d.val = c.val := by
  unfold shortEscape at h
  split_ifs at h with h1 h2 h3 h4 h5 h6 h7
  · exact ⟨34, (Option.some.inj h).symm, by decide, by rw [h1]; decide⟩
  · exact ⟨92, (Option.some.inj h).symm, by decide, by rw [h2]; decide⟩
  · exact ⟨98, (Option.some.inj h).symm, by decide, by rw [h3]; decide⟩
  · exact ⟨116, (Option.some.inj h).symm, by decide, by rw [h4]; decide⟩
  · exact ⟨110, (Option.some.inj h).symm, by decide, by rw [h5]; decide⟩
  · exact ⟨102, (Option.some.inj h).symm, by decide, by rw [h6]; decide⟩
  · exact ⟨114, (Option.some.inj h).symm, by decide, by rw [h7]; decide⟩

theorem shortEscape_eq_none {c : CodePoint} (h : shortEscape c = none) :
    c.val ≠ 34 ∧ c.val ≠ 92 := by
  unfold shortEscape at h
  split_ifs at h with h1 h2
  exact ⟨h1, h2⟩

theorem compactRead_compactUnit (c : CodePoint) (rest : PyStr) :
    compactRead (compactUnit c ++ rest) = some (c.val, rest) := by
  unfold compactUnit
  cases hshort : shortEscape c with
  | some e =>
    obtain ⟨d, rfl, hd, hvalue⟩ := shortEscape_eq_some hshort
    simp only [List.cons_append, List.nil_append, compactRead]
    rw [if_pos (by decide), if_neg hd, hvalue]
  | none =>
    obtain ⟨-, hslash⟩ := shortEscape_eq_none hshort
    by_cases hctl : c.val < 32
    · simp only [hctl, dif_pos, unicodeEscape]
      have hu : py "\\u" = [92, 117] := rfl
      rw [hu]
      simp only [List.cons_append, List.nil_append, compactRead]
      rw [if_pos (by decide), if_pos (by decide)]
      simp only [hexValue_hexDigit]
      have : c.val / 16 % 16 * 16 + c.val % 16 = c.val := by omega
      rw [this]
    · simp only [hctl, dif_neg, not_false_iff, List.cons_append, List.nil_append, compactRead]
      rw [if_neg hslash]

/-- No encoded character starts with a quote, so a quote ends the string. -/
theorem compactUnit_append_ne_quote (c : CodePoint) (xs ys : PyStr) :
    compactUnit c ++ xs ≠ py "\"" ++ ys := by
  have hquote : py "\"" = [34] := rfl
  rw [hquote]
  unfold compactUnit
  cases hshort : shortEscape c with
  | some e =>
    obtain ⟨d, rfl, -, -⟩ := shortEscape_eq_some hshort
    intro h
    exact absurd (List.cons.inj h).1 (by decide)
  | none =>
    obtain ⟨hquote, -⟩ := shortEscape_eq_none hshort
    split_ifs with hctl
    · intro h
      exact absurd (List.cons.inj h).1 (by decide)
    · intro h
      have hc : c = 34 := (List.cons.inj h).1
      exact hquote (by rw [hc]; rfl)

/-- A compact JSON string is read off the front of a text in one way only. -/
theorem jsonString_append_inj {s t xs ys : PyStr}
    (h : jsonString s ++ xs = jsonString t ++ ys) : s = t ∧ xs = ys := by
  have hquote : py "\"" = [34] := rfl
  have hbody : s.flatMap compactUnit ++ (py "\"" ++ xs) =
      t.flatMap compactUnit ++ (py "\"" ++ ys) := by
    simpa [jsonString, hquote] using h
  clear h
  induction s generalizing t with
  | nil =>
    cases t with
    | nil => exact ⟨rfl, (List.append_right_inj (py "\"")).mp hbody⟩
    | cons d t =>
      simp only [List.flatMap_cons, List.append_assoc] at hbody
      exact absurd hbody.symm (compactUnit_append_ne_quote d _ _)
  | cons c s ih =>
    cases t with
    | nil =>
      simp only [List.flatMap_cons, List.append_assoc] at hbody
      exact absurd hbody (compactUnit_append_ne_quote c _ _)
    | cons d t =>
      simp only [List.flatMap_cons, List.append_assoc] at hbody
      have hread := congrArg compactRead hbody
      rw [compactRead_compactUnit, compactRead_compactUnit] at hread
      obtain ⟨hcd, hrest⟩ := Prod.mk.inj (Option.some.inj hread)
      obtain ⟨hst, hxy⟩ := ih hrest
      exact ⟨by rw [Fin.ext hcd, hst], hxy⟩

/-! ## `repr` -/

/-- `\xhh` -/
def hexEscape (n : Fin 256) : PyStr :=
  py "\\x" ++ [hexDigit ⟨n.val / 16, by omega⟩, hexDigit ⟨n.val % 16, by omega⟩]

/-- `\Uhhhhhhhh` -/
def longEscape (c : CodePoint) : PyStr :=
  py "\\U" ++ [hexDigit 0, hexDigit 0, hexDigit ⟨c.val / 0x100000 % 16, by omega⟩,
    hexDigit ⟨c.val / 0x10000 % 16, by omega⟩, hexDigit ⟨c.val / 0x1000 % 16, by omega⟩,
    hexDigit ⟨c.val / 0x100 % 16, by omega⟩, hexDigit ⟨c.val / 16 % 16, by omega⟩,
    hexDigit ⟨c.val % 16, by omega⟩]

/-- One character of a `repr`, where `isPrintable` is `str.isprintable` beyond ASCII. -/
def reprUnit (isPrintable : CodePoint → Bool) (quote c : CodePoint) : PyStr :=
  if c = quote ∨ c.val = 92 then [92, c]
  else if c.val = 9 then py "\\t"
  else if c.val = 10 then py "\\n"
  else if c.val = 13 then py "\\r"
  else if 32 ≤ c.val ∧ c.val < 127 then [c]
  else if 127 < c.val ∧ !isSurrogate c ∧ isPrintable c then [c]
  else if h : c.val < 256 then hexEscape ⟨c.val, h⟩
  else if h : c.val < 65536 then unicodeEscape ⟨c.val, h⟩
  else longEscape c

theorem encodable_reprUnit (isPrintable : CodePoint → Bool) {quote : CodePoint}
    (hquote : isSurrogate quote = false) (c : CodePoint) :
    encodable (reprUnit isPrintable quote c) = true := by
  have hslash : isSurrogate 92 = false := by decide
  unfold reprUnit
  split_ifs with h₁ h₂ h₃ h₄ h₅ h₆ h₇ h₈
  · rcases h₁ with rfl | h₁
    · simp [encodable_cons, hquote, hslash]
    · have : c = 92 := Fin.ext h₁
      simp [encodable_cons, this, hslash]
  · exact encodable_py _
  · exact encodable_py _
  · exact encodable_py _
  · have hplain : isSurrogate c = false := by
      simp only [isSurrogate, Bool.and_eq_false_iff, decide_eq_false_iff_not]
      omega
    simp [encodable_cons, hplain]
  · simpa [encodable_cons] using h₆.2.1
  · simp [hexEscape, encodable_py, encodable_cons, isSurrogate_hexDigit]
  · exact encodable_unicodeEscape _
  · simp [longEscape, encodable_py, encodable_cons, isSurrogate_hexDigit]

/-- `repr(s)`: single quotes, unless the text has one and no double quote. -/
def pyRepr (isPrintable : CodePoint → Bool) (s : PyStr) : PyStr :=
  let quote : CodePoint := if 39 ∈ s ∧ 34 ∉ s then 34 else 39
  [quote] ++ s.flatMap (reprUnit isPrintable quote) ++ [quote]

/-- A `repr` can always be written as UTF-8: it escapes lone surrogates. -/
theorem encodable_pyRepr (isPrintable : CodePoint → Bool) (s : PyStr) :
    encodable (pyRepr isPrintable s) = true := by
  have hunits : ∀ {quote : CodePoint}, isSurrogate quote = false →
      encodable (s.flatMap (reprUnit isPrintable quote)) = true := by
    intro quote hquote
    induction s with
    | nil => rfl
    | cons c s ih => simp [encodable_reprUnit isPrintable hquote, ih]
  have hquotes : isSurrogate 34 = false ∧ isSurrogate 39 = false := by decide
  unfold pyRepr
  by_cases hquote : 39 ∈ s ∧ 34 ∉ s
  · simp [hquote, encodable_cons, hunits, hquotes]
  · simp [hquote, encodable_cons, hunits, hquotes]

end ExtractApi.PythonText
