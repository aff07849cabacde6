import ExtractApi.CallerAuth
import ExtractApi.ExtractFlow

/-!
# The configured key hashes (`api/auth.py`, `key_hashes_from_env`)

`EXTRACT_API_KEY_SHA256S` is a comma-separated list of hex digests.  A malformed entry
fails the start of the service, blank entries are skipped, and a digest that is listed
twice is kept once.  What is accepted is read back in `mem_keyHashesFromEnv`: the digests
that are configured are those whose hex text is an entry.

`lower` is `str.lower`, of which nothing is used.
-/

namespace ExtractApi

open PythonText

/-- `ENV_VAR` -/
def KEY_HASHES_ENV_VAR : PyStr := py "EXTRACT_API_KEY_SHA256S"

/-! ## Hex text -/

def isLowerHex (c : CodePoint) : Bool :=
  decide (48 ≤ c.val ∧ c.val ≤ 57) || decide (97 ≤ c.val ∧ c.val ≤ 102)

/-- `_SHA256_HEX.fullmatch(entry)` -/
def isSha256Hex (entry : PyStr) : Bool := decide (entry.length = 64) && entry.all isLowerHex

/-- `bytes.fromhex(entry)` of an even number of hex digits -/
def fromHex : PyStr → List Byte
  | high :: low :: entry =>
      ⟨(hexValue high * 16 + hexValue low) % 256, Nat.mod_lt _ (by decide)⟩ :: fromHex entry
  | _ => []

theorem hexDigit_hexValue {c : CodePoint} (h : isLowerHex c = true) :
    ∃ hc : hexValue c < 16, hexDigit ⟨hexValue c, hc⟩ = c := by
  simp only [isLowerHex, Bool.or_eq_true, decide_eq_true_eq] at h
  have hvalue : hexValue c < 16 := by
    unfold hexValue
    split_ifs <;> omega
  refine ⟨hvalue, Fin.ext ?_⟩
  simp only [hexDigit, hexValue]
  split_ifs <;> simp only <;> omega

/-- Reading hex text and writing it again gives it back. -/
theorem hexDigest_fromHex {n : ℕ} : ∀ {entry : PyStr}, entry.length = 2 * n →
    entry.all isLowerHex = true → hexDigest (fromHex entry) = entry := by
  induction n with
  | zero =>
    intro entry hlength _
    rw [List.length_eq_zero_iff.mp hlength]
    rfl
  | succ n ih =>
    intro entry hlength hall
    rcases entry with _ | ⟨high, _ | ⟨low, entry⟩⟩
    · simp at hlength
    · simp at hlength
      omega
    · simp only [List.all_cons, Bool.and_eq_true] at hall
      obtain ⟨hhigh, hlow, hrest⟩ := hall
      obtain ⟨hh, hhigh⟩ := hexDigit_hexValue hhigh
      obtain ⟨hl, hlow⟩ := hexDigit_hexValue hlow
      have hbyte : (hexValue high * 16 + hexValue low) % 256 =
          hexValue high * 16 + hexValue low := Nat.mod_eq_of_lt (by omega)
      have hdiv : (hexValue high * 16 + hexValue low) / 16 = hexValue high := by omega
      have hmod : (hexValue high * 16 + hexValue low) % 16 = hexValue low := by omega
      have htail : hexDigest (fromHex entry) = entry := by
        apply ih _ hrest
        simp only [List.length_cons] at hlength
        omega
      unfold hexDigest at htail ⊢
      simp only [fromHex, List.flatMap_cons, htail, hbyte, hdiv, hmod, hhigh, hlow,
        List.cons_append, List.nil_append]

/-! ## The parser -/

/-- The message of the `ValueError`: it never echoes the entry. -/
def malformedEntry (position : ℕ) : PyStr :=
  KEY_HASHES_ENV_VAR ++ py " entry " ++ decimal position ++
    py " is not a 64-character hex SHA-256 digest" ++
    py " (store the hash of the key, never the key)"

section Parser

variable (lower : PyStr → PyStr)

/-- The loop over the entries; `digests` are the keys of the dictionary so far. -/
def parseEntries : ℕ → List PyStr → List (List Byte) → Except PyStr (List (List Byte))
  | _, [], digests => .ok digests
  | position, raw :: entries, digests =>
      let entry := lower (strip raw)
      if entry = [] then parseEntries (position + 1) entries digests
      else if isSha256Hex entry then
        parseEntries (position + 1) entries
          (if fromHex entry ∈ digests then digests else digests ++ [fromHex entry])
      else .error (malformedEntry position)

/-- `key_hashes_from_env`, for the value of the environment variable -/
def keyHashesFromEnv (raw : Option PyStr) : Except PyStr (List (List Byte)) :=
  parseEntries lower 1 ((raw.getD []).splitOn 44) []

/-- The comma-separated entries, after trimming and lower-casing. -/
def envEntries (raw : Option PyStr) : List PyStr :=
  ((raw.getD []).splitOn 44).map fun entry => lower (strip entry)

variable {lower}

theorem mem_parseEntries (entries : List PyStr) :
    ∀ {position : ℕ} {digests hashes : List (List Byte)},
      parseEntries lower position entries digests = .ok hashes → ∀ digest : List Byte,
        digest ∈ hashes ↔ digest ∈ digests ∨
          hexDigest digest ∈ (entries.map fun entry => lower (strip entry)).filter (· ≠ []) := by
  -- on the entries, for any position: blank ones are skipped, others must be digests
  induction entries with
  | nil =>
    intro position digests hashes h digest
    cases h
    simp
  | cons raw entries ih =>
    intro position digests hashes h digest
    unfold parseEntries at h
    simp only at h
    by_cases hblank : lower (strip raw) = []
    · rw [if_pos hblank] at h
      simpa [hblank] using ih h digest
    · rw [if_neg hblank] at h
      by_cases hhex : isSha256Hex (lower (strip raw)) = true
      · rw [if_pos hhex] at h
        have hkeep : digest ∈ (if fromHex (lower (strip raw)) ∈ digests then digests
            else digests ++ [fromHex (lower (strip raw))]) ↔
              digest ∈ digests ∨ digest = fromHex (lower (strip raw)) := by
          split_ifs with hmem
          · constructor
            · exact Or.inl
            · rintro (hd | rfl)
              · exact hd
              · exact hmem
          · simp
        have htext : digest = fromHex (lower (strip raw)) ↔
            hexDigest digest = lower (strip raw) := by
          simp only [isSha256Hex, Bool.and_eq_true, decide_eq_true_eq] at hhex
          have hback := hexDigest_fromHex (n := 32) hhex.1 hhex.2
          constructor
          · rintro rfl
            exact hback
          · intro hdigest
            exact hexDigest_injective (hdigest.trans hback.symm)
        rw [ih h digest, hkeep, htext]
        simp [hblank, or_assoc]
      · rw [if_neg hhex] at h
        cases h

theorem parseEntries_eq_nil_iff (entries : List PyStr) :
    ∀ {position : ℕ} {hashes : List (List Byte)},
      parseEntries lower position entries [] = .ok hashes →
        (hashes = [] ↔ ∀ raw ∈ entries, lower (strip raw) = []) := by
  induction entries with
  | nil =>
    intro position hashes h
    cases h
    simp
  | cons raw entries ih =>
    intro position hashes h
    unfold parseEntries at h
    simp only at h
    by_cases hblank : lower (strip raw) = []
    · rw [if_pos hblank] at h
      simpa [hblank] using ih h
    · rw [if_neg hblank] at h
      by_cases hhex : isSha256Hex (lower (strip raw)) = true
      · rw [if_pos hhex] at h
        have hkept : fromHex (lower (strip raw)) ∈ hashes :=
          (mem_parseEntries _ h _).mpr (Or.inl (by simp))
        apply iff_of_false
        · rintro rfl
          exact List.not_mem_nil hkept
        · intro hall
          exact hblank (hall raw List.mem_cons_self)
      · rw [if_neg hhex] at h
        cases h

/-- **A digest is configured exactly when its hex text is one of the entries.** -/
theorem mem_keyHashesFromEnv {raw : Option PyStr} {hashes : List (List Byte)}
    (h : keyHashesFromEnv lower raw = .ok hashes) {digest : List Byte} (hdigest : digest ≠ []) :
    digest ∈ hashes ↔ hexDigest digest ∈ envEntries lower raw := by
  have htext : hexDigest digest ≠ [] := by
    cases digest with
    | nil => exact absurd rfl hdigest
    | cons b digest => simp [hexDigest]
  rw [mem_parseEntries _ h digest]
  simp [envEntries, htext]

/-- Some hash is configured exactly when some entry is not blank. -/
theorem keyHashesFromEnv_eq_nil_iff {raw : Option PyStr} {hashes : List (List Byte)}
    (h : keyHashesFromEnv lower raw = .ok hashes) :
    hashes = [] ↔ ∀ entry ∈ envEntries lower raw, entry = [] := by
  rw [parseEntries_eq_nil_iff _ h]
  simp [envEntries]

end Parser

end ExtractApi
