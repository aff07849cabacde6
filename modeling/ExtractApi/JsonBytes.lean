import ExtractApi.Utf8Decoding

/-!
# The text in the bytes of a JSON document

`json.loads` takes bytes as well: `detect_encoding` finds their encoding from a byte order mark
or from where the first bytes are zero, and they are decoded with `surrogatepass`, so that a
lone surrogate is a character like any other.
-/

namespace ExtractApi.PythonText

inductive ByteOrder where
  | big
  | little
deriving DecidableEq, Repr

inductive Encoding where
  | utf8
  | utf8Sig
  /-- with a byte order mark -/
  | utf16
  | utf16In (order : ByteOrder)
  | utf32
  | utf32In (order : ByteOrder)
deriving DecidableEq, Repr

/-- `codecs.BOM_UTF8` -/
def BOM_UTF8 : List Byte := [0xEF, 0xBB, 0xBF]

/-- `codecs.BOM_UTF16_BE` and `codecs.BOM_UTF16_LE` -/
def BOM_UTF16 : ByteOrder → List Byte
  | .big => [0xFE, 0xFF]
  | .little => [0xFF, 0xFE]

/-- `codecs.BOM_UTF32_BE` and `codecs.BOM_UTF32_LE` -/
def BOM_UTF32 : ByteOrder → List Byte
  | .big => [0, 0, 0xFE, 0xFF]
  | .little => [0xFF, 0xFE, 0, 0]

/-- `json.detect_encoding` -/
def detectEncoding (bytes : List Byte) : Encoding :=
  if BOM_UTF32 .big <+: bytes ∨ BOM_UTF32 .little <+: bytes then .utf32
  else if BOM_UTF16 .big <+: bytes ∨ BOM_UTF16 .little <+: bytes then .utf16
  else if BOM_UTF8 <+: bytes then .utf8Sig
  else
    match bytes with
    | a :: b :: c :: d :: _ =>
        if a = 0 then (if b = 0 then .utf32In .big else .utf16In .big)
        else if b = 0 then (if c = 0 ∧ d = 0 then .utf32In .little else .utf16In .little)
        else .utf8
    | [a, b] => if a = 0 then .utf16In .big else if b = 0 then .utf16In .little else .utf8
    | _ => .utf8

/-- The order that a byte order mark stands for. -/
def markedOrder (little bytes : List Byte) : ByteOrder :=
  if little <+: bytes then .little else .big

/-! ## UTF-16 and UTF-32 -/

/-- The 16-bit units; `none` where a byte is left over. -/
def units16 (order : ByteOrder) : List Byte → Option (List ℕ)
  | [] => some []
  | [_] => none
  | a :: b :: bytes =>
      (units16 order bytes).map fun units =>
        (match order with
          | .big => a.val * 256 + b.val
          | .little => b.val * 256 + a.val) :: units

def isHighSurrogate (unit : ℕ) : Bool := decide (0xD800 ≤ unit) && decide (unit < 0xDC00)

def isLowSurrogate (unit : ℕ) : Bool := decide (0xDC00 ≤ unit) && decide (unit < 0xE000)

/-- The character that a number stands for. -/
def codePoint (n : ℕ) : CodePoint := if h : n < 0x110000 then ⟨n, h⟩ else 0

/-- A high surrogate and a low one are one character; any other unit is its own. -/
def joinSurrogates : List ℕ → PyStr
  | [] => []
  | [unit] => [codePoint unit]
  | high :: low :: units =>
      if isHighSurrogate high && isLowSurrogate low then
        codePoint (0x10000 + (high - 0xD800) * 0x400 + (low - 0xDC00)) :: joinSurrogates units
      else codePoint high :: joinSurrogates (low :: units)

def decodeUtf16 (order : ByteOrder) (bytes : List Byte) : Option PyStr :=
  (units16 order bytes).map joinSurrogates

def decodeUtf32 (order : ByteOrder) : List Byte → Option PyStr
  | [] => some []
  | a :: b :: c :: d :: bytes =>
      let value := match order with
        | .big => ((a.val * 256 + b.val) * 256 + c.val) * 256 + d.val
        | .little => ((d.val * 256 + c.val) * 256 + b.val) * 256 + a.val
      if value < 0x110000 then (decodeUtf32 order bytes).map (codePoint value :: ·) else none
  | _ => none

/-- `bytes.decode(encoding, "surrogatepass")`; `none` is the `UnicodeDecodeError`. -/
def decodeAs (bytes : List Byte) : Encoding → Option PyStr
  | .utf8 => decodeUtf8SurrogatePass bytes
  | .utf8Sig => decodeUtf8SurrogatePass (bytes.drop 3)
  | .utf16 => decodeUtf16 (markedOrder (BOM_UTF16 .little) bytes) (bytes.drop 2)
  | .utf16In order => decodeUtf16 order bytes
  | .utf32 => decodeUtf32 (markedOrder (BOM_UTF32 .little) bytes) (bytes.drop 4)
  | .utf32In order => decodeUtf32 order bytes

/-- The text that `json.loads` reads in the bytes. -/
def jsonText (bytes : List Byte) : Option PyStr := decodeAs bytes (detectEncoding bytes)

/-- Bytes that begin like JSON in UTF-8: with two ASCII characters, neither of them zero. -/
theorem detectEncoding_of_ascii {a b : Byte} (ha : a ≠ 0 ∧ a.val < 0x80) (hb : b ≠ 0)
    (bytes : List Byte) : detectEncoding (a :: b :: bytes) = .utf8 := by
  have hmark : ∀ (mark : Byte) (rest : List Byte), mark = 0 ∨ 0x80 ≤ mark.val →
      ¬ mark :: rest <+: a :: b :: bytes := by
    intro mark rest hmark hprefix
    obtain rfl : mark = a := (List.cons_prefix_cons.mp hprefix).1
    rcases hmark with hzero | hlarge
    · exact ha.1 hzero
    · omega
  have h32 : ¬ (BOM_UTF32 .big <+: a :: b :: bytes ∨ BOM_UTF32 .little <+: a :: b :: bytes) :=
    not_or.mpr ⟨hmark 0 _ (Or.inl rfl), hmark 0xFF _ (Or.inr (by decide))⟩
  have h16 : ¬ (BOM_UTF16 .big <+: a :: b :: bytes ∨ BOM_UTF16 .little <+: a :: b :: bytes) :=
    not_or.mpr ⟨hmark 0xFE _ (Or.inr (by decide)), hmark 0xFF _ (Or.inr (by decide))⟩
  have h8 : ¬ BOM_UTF8 <+: a :: b :: bytes := hmark 0xEF _ (Or.inr (by decide))
  unfold detectEncoding
  rw [if_neg h32, if_neg h16, if_neg h8]
  rcases bytes with _ | ⟨c, _ | ⟨d, bytes⟩⟩
  · simp only [if_neg ha.1, if_neg hb]
  · rfl
  · simp only [if_neg ha.1, if_neg hb]

/-- Such a text is read as it was written. -/
theorem jsonText_utf8SurrogatePass {a b : CodePoint} (ha : a ≠ 0 ∧ a.val < 0x80)
    (hb : b ≠ 0 ∧ b.val < 0x80) (text : PyStr) :
    jsonText (utf8SurrogatePass (a :: b :: text)) = some (a :: b :: text) := by
  have hbytes : utf8SurrogatePass (a :: b :: text) =
      ⟨a.val, by omega⟩ :: ⟨b.val, by omega⟩ :: utf8SurrogatePass text := by
    simp only [utf8SurrogatePass, List.flatMap_cons, utf8Unit, dif_pos ha.2, dif_pos hb.2]
    rfl
  have hnonzero : ∀ {c : CodePoint} (hc : c ≠ 0 ∧ c.val < 0x80),
      (⟨c.val, by omega⟩ : Byte) ≠ 0 := by
    intro c hc hzero
    rw [Fin.mk_eq_zero] at hzero
    exact hc.1 (Fin.ext hzero)
  have hutf8 : detectEncoding (utf8SurrogatePass (a :: b :: text)) = .utf8 := by
    rw [hbytes]
    exact detectEncoding_of_ascii ⟨hnonzero ha, ha.2⟩ (hnonzero hb) _
  rw [jsonText, hutf8]
  exact decodeUtf8SurrogatePass_eq_some_iff.mpr rfl

/-- A zero second byte is taken for UTF-16, of which these five bytes are no text. -/
example : jsonText [0x7B, 0, 0x61, 0x62, 0x63] = none := by decide +kernel

example : jsonText [0xFF, 0xFE, 0x7B, 0] = some [0x7B] := by decide +kernel

end ExtractApi.PythonText
