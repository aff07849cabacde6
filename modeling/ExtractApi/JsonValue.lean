import ExtractApi.PythonText

/-!
# JSON values

The values `json.loads` builds.  A Python `int` and a Python `float` are kept
apart, and a float is an exact rational: every statement of the development that
adds money or time is about exact arithmetic.  An object is its list of fields.
-/

namespace ExtractApi.JsonValue

open PythonText

inductive Json where
  | null
  | bool (b : Bool)
  | int (n : ℤ)
  | float (q : ℚ)
  | str (s : PyStr)
  | arr (items : List Json)
  | obj (fields : List (PyStr × Json))
deriving Repr, Inhabited

namespace Json

def isNull : Json → Bool
  | null => true
  | _ => false

/-- `bool(value)` -/
def truthy : Json → Bool
  | null => false
  | bool b => b
  | int n => decide (n ≠ 0)
  | float q => decide (q ≠ 0)
  | str s => !s.isEmpty
  | arr items => !items.isEmpty
  | obj fields => !fields.isEmpty

/-- `body.get(key)` of an object; anything else has no fields. -/
def get? : Json → PyStr → Option Json
  | obj fields, key => (fields.find? fun f => decide (f.1 = key)).map Prod.snd
  | _, _ => none

mutual

/-- Every string in the value, field names included, can be written as UTF-8. -/
def encodable : Json → Bool
  | null | bool _ | int _ | float _ => true
  | str s => PythonText.encodable s
  | arr items => encodableItems items
  | obj fields => encodableFields fields

def encodableItems : List Json → Bool
  | [] => true
  | item :: items => item.encodable && encodableItems items

def encodableFields : List (PyStr × Json) → Bool
  | [] => true
  | (name, value) :: fields =>
      PythonText.encodable name && value.encodable && encodableFields fields

end

theorem get?_obj_append_of_not_mem {fields others : List (PyStr × Json)} {key : PyStr}
    (h : ∀ f ∈ fields, f.1 ≠ key) :
    (obj (fields ++ others)).get? key = (obj others).get? key := by
  have hnone : fields.find? (fun f => decide (f.1 = key)) = none := by
    rw [List.find?_eq_none]
    intro f hf
    simpa using h f hf
  simp [get?, List.find?_append, hnone]

/-- The number that a Python number is, `bool` included. -/
def number? : Json → Option ℚ
  | bool b => some (if b then 1 else 0)
  | int n => some n
  | float q => some q
  | _ => none

mutual

/-- `value == other`: numbers are compared across their types, and a dictionary with no regard
    to the order of its fields. -/
def pyEq : Json → Json → Bool
  | null, other => other.isNull
  | str s, .str t => decide (s = t)
  | arr items, .arr others => pyEqItems items others
  | obj fields, .obj others => decide (fields.length = others.length) && pyEqFields fields others
  | value, other => value.number?.isSome && decide (value.number? = other.number?)

def pyEqItems : List Json → List Json → Bool
  | [], [] => true
  | item :: items, other :: others => item.pyEq other && pyEqItems items others
  | _, _ => false

def pyEqFields : List (PyStr × Json) → List (PyStr × Json) → Bool
  | [], _ => true
  | (name, value) :: fields, others =>
      ((obj others).get? name).any value.pyEq && pyEqFields fields others

end

end Json

end ExtractApi.JsonValue
