import ExtractApi.JsonValue

/-!
# JSON Schema

Which instances a schema admits.  The keywords are those that describe a shape: types,
properties and their closure, items, unions, references and literal values.  What further
constraints say of an instance is left to a dialect.  References may be recursive, so that
a schema is followed for a number of steps.
-/

namespace ExtractApi.JsonSchema

open PythonText JsonValue Json

/-! ### Schema positions -/

/-- The keys whose value maps names to schemas. -/
def NAMED_KEYS : List PyStr := [py "properties", py "$defs"]

def SINGLE_KEYS : List PyStr := [py "items", py "additionalProperties"]

def LISTED_KEYS : List PyStr := [py "prefixItems", py "anyOf", py "allOf"]

inductive Step where
  | named (key name : PyStr)
  | under (key : PyStr)
  | item (key : PyStr) (index : ℕ)
deriving DecidableEq, Repr

/-- The schema one step below. -/
def child (schema : Json) : Step → Option Json
  | .named key name =>
      if key ∈ NAMED_KEYS then
        match schema.get? key with
        | some (.obj subs) => (Json.obj subs).get? name
        | _ => none
      else none
  | .under key => if key ∈ SINGLE_KEYS then schema.get? key else none
  | .item key index =>
      if key ∈ LISTED_KEYS then
        match schema.get? key with
        | some (.arr subs) => subs[index]?
        | _ => none
      else none

theorem child_named_eq_some {schema sub : Json} {key name : PyStr} :
    child schema (.named key name) = some sub ↔
      key ∈ NAMED_KEYS ∧
        ∃ subs, schema.get? key = some (.obj subs) ∧ (Json.obj subs).get? name = some sub := by
  by_cases hkey : key ∈ NAMED_KEYS
  · rcases hget : schema.get? key with _ | value
    · simp [child, hget]
    · cases value <;> simp [child, hkey, hget]
  · simp [child, hkey]

theorem child_under_eq_some {schema sub : Json} {key : PyStr} :
    child schema (.under key) = some sub ↔ key ∈ SINGLE_KEYS ∧ schema.get? key = some sub := by
  simp [child]

theorem child_item_eq_some {schema sub : Json} {key : PyStr} {index : ℕ} :
    child schema (.item key index) = some sub ↔
      key ∈ LISTED_KEYS ∧ ∃ subs, schema.get? key = some (.arr subs) ∧ subs[index]? = some sub := by
  by_cases hkey : key ∈ LISTED_KEYS
  · rcases hget : schema.get? key with _ | value
    · simp [child, hget]
    · cases value <;> simp [child, hkey, hget]
  · simp [child, hkey]

def nodeAt (schema : Json) : List Step → Option Json
  | [] => some schema
  | step :: path => (child schema step).bind fun sub => nodeAt sub path

def propertyNames (schema : Json) : List PyStr :=
  match schema.get? (py "properties") with
  | some (.obj subs) => subs.map Prod.fst
  | _ => []

/-! ### Validity -/

/-- What is left open: where a reference leads from the root, and what the further constraint
    keywords of a node say together. -/
structure Dialect (constraints : List PyStr) where
  reference : PyStr → Option (List Step)
  holds : List (PyStr × Json) → Json → Bool
  holds_nil : ∀ inst, holds [] inst = true

variable {constraints : List PyStr} (d : Dialect constraints)

def Dialect.target (root : Json) (ref : PyStr) : Option Json :=
  (d.reference ref).bind (nodeAt root)

/-- The fields of a node that are further constraints. -/
def constraintFields (constraints : List PyStr) : Json → List (PyStr × Json)
  | .obj fields => fields.filter fun f => decide (f.1 ∈ constraints)
  | _ => []

def hasType (inst : Json) (name : PyStr) : Bool :=
  match inst with
  | .null => decide (name = py "null")
  | .bool _ => decide (name = py "boolean")
  | .int _ => decide (name = py "integer" ∨ name = py "number")
  | .float q => decide (name = py "number" ∨ name = py "integer" ∧ q.den = 1)
  | .str _ => decide (name = py "string")
  | .arr _ => decide (name = py "array")
  | .obj _ => decide (name = py "object")

/-- Equality of values that are neither arrays nor objects: an integer may be written as a
    float, and a boolean is no number. -/
def sameScalar : Json → Json → Bool
  | .null, .null => true
  | .bool b, .bool c => decide (b = c)
  | .str s, .str t => decide (s = t)
  | .int n, .int m => decide (n = m)
  | .int n, .float q => decide ((n : ℚ) = q)
  | .float q, .int n => decide (q = n)
  | .float q, .float r => decide (q = r)
  | _, _ => false

section Keywords

variable (valid : Json → Json → Bool) (root schema inst : Json)

def typeHolds : Bool :=
  match schema.get? (py "type") with
  | some (.str name) => hasType inst name
  | some (.arr names) =>
      names.any fun name => match name with
        | .str name => hasType inst name
        | _ => false
  | _ => true

def requiredHolds : Bool :=
  match schema.get? (py "required"), inst with
  | some (.arr names), .obj fields =>
      names.all fun name => match name with
        | .str name => ((Json.obj fields).get? name).isSome
        | _ => false
  | _, _ => true

def enumHolds : Bool :=
  match schema.get? (py "enum") with
  | some (.arr values) => values.any fun value => sameScalar value inst
  | _ => true

def constHolds : Bool :=
  match schema.get? (py "const") with
  | some value => sameScalar value inst
  | none => true

def propertiesHold : Bool :=
  match inst with
  | .obj fields =>
      fields.all fun f => (child schema (.named (py "properties") f.1)).all fun sub => valid sub f.2
  | _ => true

/-- `additionalProperties` speaks of the properties that `properties` does not name. -/
def additionalHolds : Bool :=
  match child schema (.under (py "additionalProperties")), inst with
  | some closure, .obj fields =>
      fields.all fun f =>
        (child schema (.named (py "properties") f.1)).isSome || valid closure f.2
  | _, _ => true

def prefixHolds : Bool :=
  match inst with
  | .arr values =>
      values.zipIdx.all fun p =>
        (child schema (.item (py "prefixItems") p.2)).all fun sub => valid sub p.1
  | _ => true

/-- `items` speaks of the items that come after `prefixItems`. -/
def itemsHold : Bool :=
  match child schema (.under (py "items")), inst with
  | some sub, .arr values =>
      values.zipIdx.all fun p =>
        (child schema (.item (py "prefixItems") p.2)).isSome || valid sub p.1
  | _, _ => true

def anyHolds : Bool :=
  match schema.get? (py "anyOf") with
  | some (.arr subs) => subs.any fun sub => valid sub inst
  | _ => true

def allHold : Bool :=
  match schema.get? (py "allOf") with
  | some (.arr subs) => subs.all fun sub => valid sub inst
  | _ => true

/-- A reference that leads nowhere admits nothing. -/
def refHolds : Bool :=
  match schema.get? (py "$ref") with
  | some (.str ref) => (d.target root ref).any fun sub => valid sub inst
  | _ => true

def holdsAt : Bool :=
  typeHolds schema inst && requiredHolds schema inst && enumHolds schema inst &&
    constHolds schema inst && propertiesHold valid schema inst &&
    additionalHolds valid schema inst && prefixHolds valid schema inst &&
    itemsHold valid schema inst && anyHolds valid schema inst && allHold valid schema inst &&
    refHolds d valid root schema inst && d.holds (constraintFields constraints schema) inst

end Keywords

/-- The schema is followed for `fuel` steps, and says `atEnd` after them. -/
def validates (atEnd : Bool) (root : Json) : ℕ → Json → Json → Bool
  | 0, _, _ => atEnd
  | _ + 1, .bool b, _ => b
  | fuel + 1, .obj fields, inst =>
      holdsAt d (validates atEnd root fuel) root (.obj fields) inst
  | _ + 1, _, _ => false

/-- The instance is found valid in a number of steps. -/
def Valid (schema inst : Json) : Prop := ∃ fuel, validates d false schema fuel schema inst = true

/-- The instance is never found invalid: the reading on which a reference that comes back to
    itself says nothing. -/
def Unrefuted (schema inst : Json) : Prop := ∀ fuel, validates d true schema fuel schema inst = true

/-! ### Schemas built from these keywords -/

def isStr : Json → Bool
  | .str _ => true
  | _ => false

def isScalar : Json → Bool
  | .arr _ | .obj _ => false
  | _ => true

/-- Keywords with a meaning of their own that is not described here. -/
def FOREIGN_KEYWORDS : List PyStr :=
  [py "oneOf", py "not", py "if", py "then", py "else", py "contains", py "minContains",
    py "maxContains", py "propertyNames", py "patternProperties", py "minProperties",
    py "maxProperties", py "dependentRequired", py "dependentSchemas", py "dependencies",
    py "additionalItems", py "unevaluatedItems", py "unevaluatedProperties", py "$id",
    py "$anchor", py "$dynamicRef", py "$dynamicAnchor", py "$recursiveRef",
    py "$recursiveAnchor"]

/-- The keys of the keywords that hold no schema. -/
def PLAIN_KEYS : List PyStr :=
  [py "type", py "required", py "$ref", py "enum", py "const"]

/-- A keyword that holds no schema has a value of its form; any other key is an annotation. -/
def plainKeyword (key : PyStr) (value : Json) : Bool :=
  if key = py "type" then
    match value with
    | .arr names => names.all isStr
    | value => isStr value
  else if key = py "required" then
    match value with
    | .arr names => names.all isStr
    | _ => false
  else if key = py "$ref" then isStr value
  else if key = py "enum" then
    match value with
    | .arr values => values.all isScalar
    | _ => false
  else if key = py "const" then isScalar value
  else
    decide (key ∉ NAMED_KEYS) && decide (key ∉ SINGLE_KEYS) && decide (key ∉ LISTED_KEYS) &&
      decide (key ∉ FOREIGN_KEYWORDS)

section WellFormed

variable (constraints : List PyStr)

mutual

/-- The value is a schema built from these keywords, annotations and any of the constraints. -/
def wellFormed : Json → Bool
  | .bool _ => true
  | .obj fields => wellFormedFields fields
  | _ => false

def wellFormedFields : List (PyStr × Json) → Bool
  | [] => true
  | (key, value) :: fields =>
      (decide (key ∈ constraints) || plainKeyword key value ||
        match value with
          | .obj subs =>
              if key ∈ NAMED_KEYS then wellFormedNamed subs
              else decide (key ∈ SINGLE_KEYS) && wellFormed (.obj subs)
          | .arr items => decide (key ∈ LISTED_KEYS) && wellFormedItems items
          | value => decide (key ∈ SINGLE_KEYS) && wellFormed value) && wellFormedFields fields

def wellFormedNamed : List (PyStr × Json) → Bool
  | [] => true
  | (_, sub) :: named => wellFormed sub && wellFormedNamed named

def wellFormedItems : List Json → Bool
  | [] => true
  | item :: items => wellFormed item && wellFormedItems items

end

/-- What `wellFormed` asks of a field. -/
def wellFormedEntry (key : PyStr) (value : Json) : Bool :=
  decide (key ∈ constraints) || plainKeyword key value ||
    match value with
      | .obj subs =>
          if key ∈ NAMED_KEYS then wellFormedNamed constraints subs
          else decide (key ∈ SINGLE_KEYS) && wellFormed constraints (.obj subs)
      | .arr items => decide (key ∈ LISTED_KEYS) && wellFormedItems constraints items
      | value => decide (key ∈ SINGLE_KEYS) && wellFormed constraints value

variable {constraints}

theorem wellFormedEntry_of_get? {schema value : Json} {key : PyStr}
    (h : wellFormed constraints schema = true) (hget : schema.get? key = some value) :
    wellFormedEntry constraints key value = true := by
  cases schema with
  | obj fields =>
    rw [wellFormed] at h
    induction fields with
    | nil => cases hget
    | cons f fields ih =>
      obtain ⟨name, first⟩ := f
      have hfields : wellFormedEntry constraints name first = true ∧
          wellFormedFields constraints fields = true := by
        cases first <;> simpa [wellFormedFields, wellFormedEntry] using h
      by_cases hname : name = key
      · have hvalue : first = value := by simpa [get?, hname] using hget
        rw [← hname, ← hvalue]
        exact hfields.1
      · apply ih hfields.2
        simpa [get?, hname] using hget
  | _ => cases hget

theorem wellFormed_of_named {named : List (PyStr × Json)} {name : PyStr} {sub : Json}
    (h : wellFormedNamed constraints named = true) (hget : (Json.obj named).get? name = some sub) :
    wellFormed constraints sub = true := by
  induction named with
  | nil => cases hget
  | cons f named ih =>
    obtain ⟨other, first⟩ := f
    have hboth : wellFormed constraints first = true ∧
        wellFormedNamed constraints named = true := by simpa [wellFormedNamed] using h
    by_cases hname : other = name
    · have hsub : first = sub := by simpa [get?, hname] using hget
      rw [← hsub]
      exact hboth.1
    · apply ih hboth.2
      simpa [get?, hname] using hget

theorem wellFormed_of_mem {items : List Json} {item : Json}
    (h : wellFormedItems constraints items = true) (hitem : item ∈ items) :
    wellFormed constraints item = true := by
  induction items with
  | nil => cases hitem
  | cons first items ih =>
    have hboth : wellFormed constraints first = true ∧
        wellFormedItems constraints items = true := by simpa [wellFormedItems] using h
    rcases List.mem_cons.mp hitem with heq | hmem
    · rw [heq]
      exact hboth.1
    · exact ih hboth.2 hmem

/-- No constraint is spelled like a keyword that holds schemas. -/
def Apart (constraints : List PyStr) : Prop :=
  ∀ key ∈ constraints, key ∉ NAMED_KEYS ∧ key ∉ SINGLE_KEYS ∧ key ∉ LISTED_KEYS

theorem plainKeyword_eq_false {key : PyStr} (h : key ∈ NAMED_KEYS ++ SINGLE_KEYS ++ LISTED_KEYS)
    (value : Json) : plainKeyword key value = false := by
  have hplain : ∀ key ∈ NAMED_KEYS ++ SINGLE_KEYS ++ LISTED_KEYS, key ∉ PLAIN_KEYS := by decide
  have hnot := hplain key h
  simp only [PLAIN_KEYS, List.mem_cons, List.not_mem_nil, or_false, not_or] at hnot
  obtain ⟨htype, hrequired, href, henum, hconst⟩ := hnot
  rw [List.append_assoc, List.mem_append, List.mem_append] at h
  simp only [plainKeyword, if_neg htype, if_neg hrequired, if_neg href, if_neg henum, if_neg hconst]
  rcases h with h | h | h <;> simp [h]

theorem wellFormed_child {schema sub : Json} {step : Step} (hapart : Apart constraints)
    (h : wellFormed constraints schema = true) (hchild : child schema step = some sub) :
    wellFormed constraints sub = true := by
  cases step with
  | named key name =>
    obtain ⟨hkey, subs, hget, hsub⟩ := child_named_eq_some.mp hchild
    have hentry := wellFormedEntry_of_get? h hget
    have hcon : key ∉ constraints := fun hmem => (hapart key hmem).1 hkey
    rw [wellFormedEntry, plainKeyword_eq_false (by simp [hkey])] at hentry
    apply wellFormed_of_named _ hsub
    simpa [hcon, hkey] using hentry
  | under key =>
    obtain ⟨hkey, hget⟩ := child_under_eq_some.mp hchild
    have hentry := wellFormedEntry_of_get? h hget
    have hcon : key ∉ constraints := fun hmem => (hapart key hmem).2.1 hkey
    have hnamed : ∀ key ∈ SINGLE_KEYS, key ∉ NAMED_KEYS := by decide
    have hlisted : ∀ key ∈ SINGLE_KEYS, key ∉ LISTED_KEYS := by decide
    have hplain : ∀ value, plainKeyword key value = false :=
      plainKeyword_eq_false (by simp [hkey])
    cases sub with
    | arr items => simp [wellFormedEntry, hplain, hcon, hlisted key hkey] at hentry
    | _ => simpa [wellFormedEntry, hplain, hcon, hkey, hnamed key hkey] using hentry
  | item key index =>
    obtain ⟨hkey, subs, hget, hsub⟩ := child_item_eq_some.mp hchild
    have hentry := wellFormedEntry_of_get? h hget
    have hcon : key ∉ constraints := fun hmem => (hapart key hmem).2.2 hkey
    rw [wellFormedEntry, plainKeyword_eq_false (by simp [hkey])] at hentry
    apply wellFormed_of_mem _ (List.mem_of_getElem? hsub)
    simpa [hcon, hkey] using hentry

theorem wellFormed_nodeAt {schema sub : Json} {path : List Step} (hapart : Apart constraints)
    (h : wellFormed constraints schema = true) (hnode : nodeAt schema path = some sub) :
    wellFormed constraints sub = true := by
  induction path generalizing schema with
  | nil =>
    cases hnode
    exact h
  | cons step path ih =>
    obtain ⟨next, hchild, hrest⟩ := Option.bind_eq_some_iff.mp hnode
    exact ih (wellFormed_child hapart h hchild) hrest

end WellFormed

end ExtractApi.JsonSchema
