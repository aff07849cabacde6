import ExtractApi.PythonText

/-!
# Reading UTF-8

A decoder reads one unit after the other, and a unit is read when it is what encoding its
number writes, so overlong forms are refused.  `decodeUtf8` refuses surrogates as well and is
the inverse of `utf8`; `decodeUtf8SurrogatePass` is the inverse of `utf8SurrogatePass`.
-/

namespace ExtractApi.PythonText

/-- The first character, and the bytes after it; a surrogate only where it may pass. -/
def decodeUnit (pass : Bool) (bytes : List Byte) : Option (CodePoint × List Byte) :=
  let unit := bytes.take (utf8Width bytes)
  if h : utf8Value unit < 0x110000 then
    if utf8Unit ⟨utf8Value unit, h⟩ = unit ∧ (pass || !isSurrogate ⟨utf8Value unit, h⟩) then
      some (⟨utf8Value unit, h⟩, bytes.drop (utf8Width bytes))
    else none
  else none

/-- The characters of at most `n` units. -/
def decodeUnits (pass : Bool) : ℕ → List Byte → Option PyStr
  | _, [] => some []
  | 0, _ :: _ => none
  | n + 1, b :: bytes =>
      (decodeUnit pass (b :: bytes)).bind fun first =>
        (decodeUnits pass n first.2).map fun text => first.1 :: text

/-- `bytes.decode("utf-8")`; `none` is the `UnicodeDecodeError`. -/
def decodeUtf8 (bytes : List Byte) : Option PyStr := decodeUnits false bytes.length bytes

/-- `bytes.decode("utf-8", "surrogatepass")` -/
def decodeUtf8SurrogatePass (bytes : List Byte) : Option PyStr :=
  decodeUnits true bytes.length bytes

/-- Every character may be read. -/
def passes (pass : Bool) (text : PyStr) : Bool := pass || encodable text

theorem passes_cons (pass : Bool) (c : CodePoint) (text : PyStr) :
    passes pass (c :: text) = ((pass || !isSurrogate c) && passes pass text) := by
  cases pass <;> simp [passes, encodable_cons]

theorem decodeUnit_utf8Unit {pass : Bool} {c : CodePoint}
    (hplain : (pass || !isSurrogate c) = true) (bytes : List Byte) :
    decodeUnit pass (utf8Unit c ++ bytes) = some (c, bytes) := by
  have hwidth := utf8Width_utf8Unit c bytes
  have hunit : (utf8Unit c ++ bytes).take (utf8Width (utf8Unit c ++ bytes)) = utf8Unit c := by
    rw [hwidth, List.take_left]
  have hvalue := utf8Value_utf8Unit c
  have hdrop : (utf8Unit c ++ bytes).drop (utf8Width (utf8Unit c ++ bytes)) = bytes := by
    rw [hwidth, List.drop_left]
  unfold decodeUnit
  simp only [hunit, hvalue, hdrop]
  rw [dif_pos c.isLt, if_pos ⟨trivial, hplain⟩]

theorem decodeUnit_eq_some {pass : Bool} {bytes rest : List Byte} {c : CodePoint}
    (h : decodeUnit pass bytes = some (c, rest)) :
    bytes = utf8Unit c ++ rest ∧ (pass || !isSurrogate c) = true := by
  unfold decodeUnit at h
  simp only at h
  split_ifs at h with hbound hunit
  cases h
  constructor
  · rw [hunit.1, List.take_append_drop]
  · exact hunit.2

theorem decodeUnits_eq_some {pass : Bool} {n : ℕ} {bytes : List Byte} {text : PyStr}
    (h : decodeUnits pass n bytes = some text) :
    utf8SurrogatePass text = bytes ∧ passes pass text = true := by
  induction n generalizing bytes text with
  | zero =>
    cases bytes with
    | nil =>
      cases h
      exact ⟨rfl, by simp [passes]⟩
    | cons b bytes => cases h
  | succ n ih =>
    cases bytes with
    | nil =>
      cases h
      exact ⟨rfl, by simp [passes]⟩
    | cons b bytes =>
      rw [decodeUnits, Option.bind_eq_some_iff] at h
      obtain ⟨⟨c, rest⟩, hfirst, hrest⟩ := h
      rw [Option.map_eq_some_iff] at hrest
      obtain ⟨tail, htail, rfl⟩ := hrest
      obtain ⟨hbytes, hplain⟩ := decodeUnit_eq_some hfirst
      obtain ⟨hencoded, hpasses⟩ := ih htail
      constructor
      · exact (congrArg (utf8Unit c ++ ·) hencoded).trans hbytes.symm
      · rw [passes_cons, hplain, hpasses]
        rfl

theorem decodeUnits_utf8 {pass : Bool} {text : PyStr} (hpasses : passes pass text = true) {n : ℕ}
    (hn : text.length ≤ n) : decodeUnits pass n (utf8SurrogatePass text) = some text := by
  induction text generalizing n with
  | nil => cases n <;> rfl
  | cons c text ih =>
    rw [passes_cons, Bool.and_eq_true] at hpasses
    cases n with
    | zero => simp at hn
    | succ n =>
      have hunit := decodeUnit_utf8Unit hpasses.1 (utf8SurrogatePass text)
      have hbytes : utf8SurrogatePass (c :: text) = utf8Unit c ++ utf8SurrogatePass text := rfl
      rw [hbytes]
      rcases hfirst : utf8Unit c with _ | ⟨b, rest⟩
      · exact absurd hfirst (utf8Unit_ne_nil c)
      · rw [hfirst, List.cons_append] at hunit
        rw [List.cons_append, decodeUnits, hunit, Option.bind_some,
          ih hpasses.2 (by simpa using hn)]
        rfl

theorem length_le_utf8SurrogatePass (text : PyStr) :
    text.length ≤ (utf8SurrogatePass text).length := by
  induction text with
  | nil => exact le_rfl
  | cons c text ih =>
    have hunit : 0 < (utf8Unit c).length := List.length_pos_iff.mpr (utf8Unit_ne_nil c)
    have hbytes : utf8SurrogatePass (c :: text) = utf8Unit c ++ utf8SurrogatePass text := rfl
    rw [hbytes, List.length_append, List.length_cons]
    omega

/-- Decoding undoes encoding, and succeeds on nothing else. -/
theorem decodeUtf8_eq_some_iff {bytes : List Byte} {text : PyStr} :
    decodeUtf8 bytes = some text ↔ utf8 text = some bytes := by
  constructor
  · intro h
    obtain ⟨hbytes, hencodable⟩ := decodeUnits_eq_some h
    rw [utf8, if_pos (show encodable text = true from hencodable), hbytes]
  · intro h
    unfold utf8 at h
    split_ifs at h with hencodable
    cases h
    have hpasses : passes false text = true := hencodable
    exact decodeUnits_utf8 hpasses (length_le_utf8SurrogatePass text)

theorem decodeUtf8SurrogatePass_eq_some_iff {bytes : List Byte} {text : PyStr} :
    decodeUtf8SurrogatePass bytes = some text ↔ utf8SurrogatePass text = bytes := by
  constructor
  · intro h
    exact (decodeUnits_eq_some h).1
  · rintro rfl
    exact decodeUnits_utf8 rfl (length_le_utf8SurrogatePass text)

end ExtractApi.PythonText
