import ExtractApi.JsonText

/-!
# What `json.loads` returns

`JsonValue.Json` has exact numbers.  A reader of a foreign document meets more: a float can
be infinite or no number at all, and each access raises its own class of exception on a
value of the wrong kind.  `Loaded` is such a value, `PyClass` such a class, and `tryExcept`
a clause that handles some classes, their subclasses with them, and lets the others pass.
-/

namespace ExtractApi.LoadedJson

open PythonText JsonValue
open JsonText (IsDouble isDouble_intCast)

/-! ## Exceptions -/

inductive PyClass where
  | exception
  | valueError
  | jsonDecodeError
  | unicodeDecodeError
  | unicodeEncodeError
  | typeError
  | keyError
  | attributeError
  | arithmeticError
  | overflowError
  | recursionError
deriving DecidableEq, Repr

/-- `type(exc).__name__` -/
def PyClass.name : PyClass → PyStr
  | .exception => py "Exception"
  | .valueError => py "ValueError"
  | .jsonDecodeError => py "JSONDecodeError"
  | .unicodeDecodeError => py "UnicodeDecodeError"
  | .unicodeEncodeError => py "UnicodeEncodeError"
  | .typeError => py "TypeError"
  | .keyError => py "KeyError"
  | .attributeError => py "AttributeError"
  | .arithmeticError => py "ArithmeticError"
  | .overflowError => py "OverflowError"
  | .recursionError => py "RecursionError"

/-- The classes that an `except` clause can name to handle the class. -/
def PyClass.mro : PyClass → List PyClass
  | .exception => [.exception]
  | .valueError => [.valueError, .exception]
  | .jsonDecodeError => [.jsonDecodeError, .valueError, .exception]
  | .unicodeDecodeError => [.unicodeDecodeError, .valueError, .exception]
  | .unicodeEncodeError => [.unicodeEncodeError, .valueError, .exception]
  | .typeError => [.typeError, .exception]
  | .keyError => [.keyError, .exception]
  | .attributeError => [.attributeError, .exception]
  | .arithmeticError => [.arithmeticError, .exception]
  | .overflowError => [.overflowError, .arithmeticError, .exception]
  | .recursionError => [.recursionError, .exception]

/-- `except clause` handles the class. -/
def PyClass.caught (exc : PyClass) (clause : List PyClass) : Bool :=
  clause.any fun cls => decide (cls ∈ exc.mro)

/-- `try: x except clause as exc: handler exc` -/
def tryExcept {α : Type} (clause : List PyClass) (x : Except PyClass α)
    (handler : PyClass → Except PyClass α) : Except PyClass α :=
  match x with
  | .ok a => .ok a
  | .error exc => if exc.caught clause then handler exc else .error exc

@[simp] theorem tryExcept_ok {α : Type} (clause : List PyClass) (a : α)
    (handler : PyClass → Except PyClass α) : tryExcept clause (.ok a) handler = .ok a := rfl

theorem tryExcept_error_of_caught {α : Type} {clause : List PyClass} {exc : PyClass}
    (h : exc.caught clause = true) (handler : PyClass → Except PyClass α) :
    tryExcept clause (.error exc) handler = handler exc := if_pos h

/-! ## Values -/

/-- A `float`. -/
inductive PyFloat where
  | finite (q : ℚ)
  | posInf
  | negInf
  | nan
deriving DecidableEq, Repr

inductive Loaded where
  | null
  | bool (b : Bool)
  | int (n : ℤ)
  | float (x : PyFloat)
  | str (s : PyStr)
  | arr (items : List Loaded)
  | obj (fields : List (PyStr × Loaded))
deriving Repr, Inhabited

namespace Loaded

/-- The field of an object; anything else has none. -/
def field? : Loaded → String → Option Loaded
  | obj fields, key => (fields.find? fun f => decide (f.1 = py key)).map Prod.snd
  | _, _ => none

/-- `isinstance(value, dict)` -/
def isDict : Loaded → Bool
  | obj _ => true
  | _ => false

/-- `value[key]` -/
def subscript (value : Loaded) (key : String) : Except PyClass Loaded :=
  if value.isDict then (value.field? key).elim (.error .keyError) .ok else .error .typeError

/-- `value.get(key)` -/
def get (value : Loaded) (key : String) : Except PyClass Loaded :=
  if value.isDict then .ok ((value.field? key).getD .null) else .error .attributeError

theorem get_of_isDict {value : Loaded} (h : value.isDict = true) (key : String) :
    value.get key = .ok ((value.field? key).getD .null) := if_pos h

theorem isDict_of_field? {value found : Loaded} {key : String}
    (h : value.field? key = some found) : value.isDict = true := by
  rcases value with _ | _ | _ | _ | _ | _ | fields
  case obj => rfl
  all_goals cases h

theorem subscript_eq_ok_iff {value answer : Loaded} {key : String} :
    value.subscript key = .ok answer ↔ value.field? key = some answer := by
  rcases value with _ | _ | _ | _ | _ | _ | fields
  case obj =>
    simp only [subscript, isDict, if_true]
    rcases (obj fields).field? key with _ | found
    · simp
    · simp
  all_goals simp [subscript, isDict, field?]

theorem subscript_error {value : Loaded} {key : String} {exc : PyClass}
    (h : value.subscript key = .error exc) : exc = .keyError ∨ exc = .typeError := by
  unfold subscript at h
  split at h
  · rcases hfield : value.field? key with _ | found
    · rw [hfield] at h
      cases h
      exact Or.inl rfl
    · rw [hfield] at h
      cases h
  · cases h
    exact Or.inr rfl

end Loaded

/-! ## Numbers -/

/-- `float(n)` raises no `OverflowError`: `n` rounds to a float below `2 ^ 1024`. -/
def fitsFloat (n : ℤ) : Bool := decide (n.natAbs < 2 ^ 1024 - 2 ^ 970)

/-- `a / d`, rounded to the nearest integer, ties to even. -/
def roundedDiv (a d : ℕ) : ℕ :=
  if 2 * (a % d) < d ∨ 2 * (a % d) = d ∧ a / d % 2 = 0 then a / d else a / d + 1

/-- The distance between two doubles of the size of `n`, where it is more than 1. -/
def spacing (n : ℤ) : ℕ := 2 ^ (n.natAbs.log2 - 52)

/-- `float(n)` of an integer in range: 53 significant bits of it, ties to even. -/
def nearestDouble (n : ℤ) : ℤ := n.sign * (roundedDiv n.natAbs (spacing n) * spacing n : ℕ)

/-- Rounding moves a quotient by half at most. -/
theorem two_mul_abs_sub_roundedDiv {d : ℕ} (a : ℕ) (hd : 0 < d) :
    2 * |(a : ℤ) - roundedDiv a d * d| ≤ d := by
  have hdiv : (a : ℤ) = (a / d : ℕ) * d + (a % d : ℕ) := by
    exact_mod_cast (Nat.div_add_mod' a d).symm
  have hlt : a % d < d := Nat.mod_lt a hd
  rw [roundedDiv]
  split_ifs with hdown
  · have hrest : (a : ℤ) - (a / d : ℕ) * d = (a % d : ℕ) := by linarith
    rw [hrest, abs_of_nonneg (Int.natCast_nonneg _)]
    omega
  · have hrest : (a : ℤ) - (a / d + 1 : ℕ) * d = (a % d : ℕ) - d := by
      push_cast at hdiv ⊢
      linarith
    rw [hrest, abs_of_nonpos (by omega)]
    omega

theorem spacing_pos (n : ℤ) : 0 < spacing n := Nat.two_pow_pos _

theorem two_mul_abs_sub_nearestDouble (n : ℤ) : 2 * |n - nearestDouble n| ≤ spacing n := by
  have hround := two_mul_abs_sub_roundedDiv n.natAbs (spacing_pos n)
  have hsplit : n - nearestDouble n =
      n.sign * (n.natAbs - roundedDiv n.natAbs (spacing n) * spacing n) := by
    rw [nearestDouble, mul_sub, Int.sign_mul_natAbs, Nat.cast_mul]
  have hsign : |n.sign| ≤ 1 := by
    rcases lt_trichotomy n 0 with hn | rfl | hn
    · rw [Int.sign_eq_neg_one_of_neg hn]
      decide
    · decide
    · rw [Int.sign_eq_one_of_pos hn]
      decide
  rw [hsplit, abs_mul]
  have hle := mul_le_mul_of_nonneg_right hsign
    (abs_nonneg ((n.natAbs : ℤ) - roundedDiv n.natAbs (spacing n) * spacing n))
  omega

/-- Integers that a double holds exactly. -/
theorem nearestDouble_of_log2_le {n : ℤ} (h : n.natAbs.log2 ≤ 52) : nearestDouble n = n := by
  have hhalf := two_mul_abs_sub_nearestDouble n
  rw [spacing, Nat.sub_eq_zero_of_le h, pow_zero] at hhalf
  have hzero : |n - nearestDouble n| = 0 := by
    have hnonneg := abs_nonneg (n - nearestDouble n)
    omega
  exact (sub_eq_zero.mp (abs_eq_zero.mp hzero)).symm

/-- No other multiple of the spacing is nearer. -/
theorem abs_sub_nearestDouble_le (n j : ℤ) :
    |n - nearestDouble n| ≤ |n - j * spacing n| := by
  have hhalf := two_mul_abs_sub_nearestDouble n
  obtain ⟨i, hi⟩ : ∃ i : ℤ, nearestDouble n = i * spacing n := by
    refine ⟨n.sign * roundedDiv n.natAbs (spacing n), ?_⟩
    rw [nearestDouble, Nat.cast_mul, mul_assoc]
  by_cases hij : i = j
  · rw [hi, hij]
  · have hapart : (spacing n : ℤ) ≤ |i * spacing n - j * spacing n| := by
      have hone : 1 ≤ |i - j| := Int.one_le_abs (sub_ne_zero.mpr hij)
      rw [← sub_mul, abs_mul, abs_of_nonneg (Int.natCast_nonneg (spacing n))]
      exact le_mul_of_one_le_left (Int.natCast_nonneg _) hone
    have htriangle := abs_sub_le (i * (spacing n : ℤ)) n (j * spacing n)
    rw [abs_sub_comm (i * (spacing n : ℤ)) n] at htriangle
    rw [hi] at hhalf ⊢
    omega

/-- A double that is large enough is a multiple of the spacing. -/
theorem exists_multiple {q : ℚ} {k : ℕ} (hq : IsDouble q) (hlarge : 2 ^ (52 + k) ≤ |q|) :
    ∃ j : ℤ, q = j * 2 ^ k := by
  obtain ⟨m, e, hm, -, -, rfl⟩ := hq
  have hke : (k : ℤ) ≤ e := by
    have hbound : |(m : ℚ) * 2 ^ e| < 2 ^ ((53 : ℤ) + e) := by
      rw [abs_mul, abs_of_pos (by positivity : (0 : ℚ) < 2 ^ e), zpow_add₀ (by norm_num)]
      apply mul_lt_mul_of_pos_right _ (by positivity)
      exact_mod_cast hm
    have hpow : (2 : ℚ) ^ ((52 : ℤ) + k) < 2 ^ ((53 : ℤ) + e) := by
      refine lt_of_le_of_lt ?_ hbound
      exact_mod_cast hlarge
    have hexp := (zpow_lt_zpow_iff_right₀ (by norm_num : (1 : ℚ) < 2)).mp hpow
    omega
  refine ⟨m * 2 ^ (e - k).toNat, ?_⟩
  have hsum : e = ((e - k).toNat : ℤ) + k := by omega
  conv_lhs => rw [hsum, zpow_add₀ (by norm_num), zpow_natCast, zpow_natCast]
  push_cast
  ring

/-- **No double is nearer to an integer than `float` of it.** -/
theorem nearestDouble_nearest (n : ℤ) {q : ℚ} (hq : IsDouble q) :
    |(n : ℚ) - nearestDouble n| ≤ |(n : ℚ) - q| := by
  have hmultiple : ∀ j : ℤ, |(n : ℚ) - nearestDouble n| ≤ |(n : ℚ) - j * spacing n| := by
    intro j
    exact_mod_cast abs_sub_nearestDouble_le n j
  by_cases hsmall : n.natAbs.log2 ≤ 52
  · rw [nearestDouble_of_log2_le hsmall, sub_self, abs_zero]
    exact abs_nonneg _
  · obtain ⟨k, hk⟩ := Nat.exists_eq_add_of_le (not_le.mp hsmall).le
    have hspacing : spacing n = 2 ^ k := by rw [spacing, hk, Nat.add_sub_cancel_left]
    have hne : n.natAbs ≠ 0 := by
      intro hzero
      rw [hzero] at hsmall
      exact hsmall (by decide)
    have hlow : 2 ^ (52 + k) ≤ |(n : ℚ)| := by
      have hlog := Nat.log2_self_le hne
      rw [hk] at hlog
      rw [← Int.cast_abs, Int.abs_eq_natAbs]
      exact_mod_cast hlog
    rw [hspacing] at hmultiple
    push_cast at hmultiple
    by_cases hlarge : 2 ^ (52 + k) ≤ |q|
    · obtain ⟨j, rfl⟩ := exists_multiple hq hlarge
      exact hmultiple j
    · -- then the power of two between them is nearer than `q`, and a multiple of the spacing
      have hpower := hmultiple (n.sign * 2 ^ 52)
      have hapart : |(n : ℚ) - (n.sign * 2 ^ 52 : ℤ) * 2 ^ k| = |(n : ℚ)| - 2 ^ (52 + k) := by
        have hsign : (n : ℚ) = n.sign * |(n : ℚ)| := by
          exact_mod_cast (Int.sign_mul_abs n).symm
        have hunit : |(n.sign : ℚ)| = 1 := by
          exact_mod_cast Int.abs_sign_of_ne_zero (Int.natAbs_ne_zero.mp hne)
        conv_lhs => rw [hsign]
        rw [Int.cast_mul, Int.cast_pow, Int.cast_ofNat, mul_assoc, ← pow_add, ← mul_sub, abs_mul,
          hunit, one_mul, abs_of_nonneg (sub_nonneg.mpr hlow)]
      have htriangle := abs_sub_abs_le_abs_sub (n : ℚ) q
      rw [hapart] at hpower
      linarith

theorem isDouble_nearestDouble {n : ℤ} (h : fitsFloat n = true) : IsDouble (nearestDouble n) := by
  rw [fitsFloat, decide_eq_true_eq] at h
  by_cases hsmall : n.natAbs.log2 ≤ 52
  · rw [nearestDouble_of_log2_le hsmall]
    apply isDouble_intCast
    have hlog := Nat.lt_log2_self (n := n.natAbs)
    have hpow : 2 ^ (n.natAbs.log2 + 1) ≤ 2 ^ 53 := Nat.pow_le_pow_right (by norm_num) (by omega)
    rw [Int.abs_eq_natAbs]
    exact_mod_cast lt_of_lt_of_le hlog hpow
  · obtain ⟨k, hk⟩ := Nat.exists_eq_add_of_le (not_le.mp hsmall).le
    have hspacing : spacing n = 2 ^ k := by rw [spacing, hk, Nat.add_sub_cancel_left]
    have hne : n.natAbs ≠ 0 := by
      intro hzero
      rw [hzero] at hsmall
      exact hsmall (by decide)
    have hrange : k ≤ 971 := by
      have hlog : n.natAbs.log2 < 1024 := (Nat.log2_lt hne).mpr (by omega)
      omega
    have hround := two_mul_abs_sub_roundedDiv n.natAbs (Nat.two_pow_pos k)
    have hlog := Nat.lt_log2_self (n := n.natAbs)
    rw [nearestDouble, hspacing]
    rw [hk, show 52 + k + 1 = 53 + k by omega, pow_add] at hlog
    generalize roundedDiv n.natAbs (2 ^ k) = r at hround ⊢
    have hover : 2 * (r * 2 ^ k) ≤ 2 * n.natAbs + 2 ^ k := by
      have hright := neg_le_abs ((n.natAbs : ℤ) - r * (2 ^ k : ℕ))
      zify
      push_cast at hround hright ⊢
      linarith
    have hsign : |n.sign| = 1 := Int.abs_sign_of_ne_zero (Int.natAbs_ne_zero.mp hne)
    -- the rounded significand still fits, or it is the next power of two
    rcases lt_or_ge r (2 ^ 53) with hless | hmost
    · refine ⟨n.sign * r, k, ?_, by omega, by omega, ?_⟩
      · rw [abs_mul, hsign, one_mul, Nat.abs_cast]
        exact_mod_cast hless
      · push_cast
        rw [zpow_natCast]
        ring
    · -- rounded up to the next power of two, whose unit is twice as long
      have hpos : 0 < 2 ^ k := Nat.two_pow_pos k
      have hr : r = 2 ^ 53 := by
        have hbelow : r * 2 ^ k < (2 ^ 53 + 1) * 2 ^ k := by
          rw [add_mul, one_mul]
          omega
        have hlt := lt_of_mul_lt_mul_right hbelow hpos.le
        omega
      have hroom : k < 971 := by
        apply lt_of_le_of_ne hrange
        intro hlast
        have hunit : 2 ^ k = 2 * 2 ^ 970 := by rw [hlast, ← pow_succ']
        have htop : 2 ^ 1024 = 2 ^ 53 * (2 * 2 ^ 970) := by
          rw [← pow_succ', ← pow_add]
        rw [htop] at h
        rw [hr, hunit] at hover
        generalize 2 ^ 970 = half at h hover
        omega
      refine ⟨n.sign * 2 ^ 52, k + 1, ?_, by omega, by omega, ?_⟩
      · rw [abs_mul, hsign]
        norm_num
      · rw [hr]
        push_cast
        rw [zpow_add₀ (by norm_num), zpow_natCast]
        ring

/-- An `int` or a `float`, and no `bool`. -/
inductive PyNumber where
  | int (n : ℤ)
  | float (x : PyFloat)

/-- `isinstance(value, (int, float)) and not isinstance(value, bool)` -/
def Loaded.number? : Loaded → Option PyNumber
  | .int n => some (.int n)
  | .float x => some (.float x)
  | _ => none

namespace PyNumber

/-- `math.isfinite(value)` converts to a float first. -/
def isfinite : PyNumber → Except PyClass Bool
  | int n => if fitsFloat n then .ok true else .error .overflowError
  | float (.finite _) => .ok true
  | float _ => .ok false

/-- `value >= 0`, which is false of no number. -/
def isNonneg : PyNumber → Bool
  | int n => decide (0 ≤ n)
  | float (.finite q) => decide (0 ≤ q)
  | float .posInf => true
  | float _ => false

/-- `value < 0` -/
def isNegative : PyNumber → Bool
  | int n => decide (n < 0)
  | float (.finite q) => decide (q < 0)
  | float .negInf => true
  | float _ => false

/-- `float(value)` -/
def toFloat : PyNumber → Except PyClass PyFloat
  | int n => if fitsFloat n then .ok (.finite (nearestDouble n)) else .error .overflowError
  | float x => .ok x

end PyNumber

/-- The value is a non-negative number, no `bool`, and `float` makes the finite `q` of it. -/
inductive IsAmount : Loaded → ℚ → Prop
  | int {n : ℤ} : 0 ≤ n → fitsFloat n = true → IsAmount (.int n) (nearestDouble n)
  | float {q : ℚ} : 0 ≤ q → IsAmount (.float (.finite q)) q

/-- The amount that a value is. -/
def Loaded.amount? : Loaded → Option ℚ
  | .int n => if fitsFloat n = true ∧ 0 ≤ n then some (nearestDouble n) else none
  | .float (.finite q) => if 0 ≤ q then some q else none
  | _ => none

theorem Loaded.amount?_int (n : ℤ) : (int n).amount? =
    if fitsFloat n = true ∧ 0 ≤ n then some (nearestDouble n : ℚ) else none := rfl

theorem Loaded.amount?_finite (q : ℚ) :
    (float (.finite q)).amount? = if 0 ≤ q then some q else none := rfl

theorem Loaded.amount?_getD_null (field : Option Loaded) :
    (field.getD .null).amount? = field.bind Loaded.amount? := by
  rcases field with _ | value <;> rfl

theorem amount?_eq_some_iff {value : Loaded} {q : ℚ} :
    value.amount? = some q ↔ IsAmount value q := by
  constructor
  · intro h
    rcases value with _ | _ | n | x | _ | _ | _
    case int =>
      rw [Loaded.amount?_int] at h
      split_ifs at h with hn
      cases h
      exact .int hn.2 hn.1
    case float =>
      rcases x with q' | _ | _ | _
      · rw [Loaded.amount?_finite] at h
        split_ifs at h with hq
        cases h
        exact .float hq
      all_goals cases h
    all_goals cases h
  · rintro (⟨hn, hfits⟩ | hq)
    · rw [Loaded.amount?_int, if_pos ⟨hfits, hn⟩]
    · rw [Loaded.amount?_finite, if_pos hq]

/-! ## The values without the special floats -/

mutual

/-- The value of an exact document. -/
def ofJson : Json → Loaded
  | .null => .null
  | .bool b => .bool b
  | .int n => .int n
  | .float q => .float (.finite q)
  | .str s => .str s
  | .arr items => .arr (ofItems items)
  | .obj fields => .obj (ofFields fields)

def ofItems : List Json → List Loaded
  | [] => []
  | item :: items => ofJson item :: ofItems items

def ofFields : List (PyStr × Json) → List (PyStr × Loaded)
  | [] => []
  | (name, value) :: fields => (name, ofJson value) :: ofFields fields

end

theorem field?_ofJson (value : Json) (key : String) :
    (ofJson value).field? key = (value.get? (py key)).map ofJson := by
  rcases value with _ | _ | _ | _ | _ | _ | fields
  case obj =>
    simp only [ofJson, Loaded.field?, Json.get?]
    induction fields with
    | nil => rfl
    | cons f fields ih =>
      by_cases hkey : f.1 = py key
      · simp [ofFields, hkey]
      · rw [ofFields, List.find?_cons_of_neg (by simpa using hkey),
          List.find?_cons_of_neg (by simpa using hkey)]
        exact ih
  all_goals rfl

end ExtractApi.LoadedJson
