import ExtractApi.JsonValue

/-!
# Sanitizing a schema for the providers

`llm/schema_utils.py`: the keywords a provider does not take are dropped from a JSON
schema.  `strip` reads dictionaries and keys alone.  `sanitizePositions` is the purpose the
docstring gives it: a keyword is dropped where it is a keyword of a schema, and nothing else
is touched.  The two agree exactly where no data position holds an object with a key that is
spelled like a dropped keyword.
-/

namespace ExtractApi.SchemaUtils

open PythonText JsonValue Json

def UNSUPPORTED_KEYWORDS : List PyStr :=
  [py "format", py "pattern", py "minimum", py "maximum", py "exclusiveMinimum",
    py "exclusiveMaximum", py "minLength", py "maxLength", py "multipleOf", py "minItems",
    py "maxItems", py "uniqueItems"]

/-- The keys whose value maps names to subschemas. -/
def SCHEMA_MAP_KEYS : List PyStr :=
  [py "properties", py "$defs", py "definitions", py "patternProperties",
    py "dependentSchemas"]

mutual

/-- `_strip(node)` -/
def strip : Json → Json
  | .obj fields => .obj (stripFields fields)
  | .arr items => .arr (stripItems items)
  | node => node

/-- The loop over the items of a dictionary. -/
def stripFields : List (PyStr × Json) → List (PyStr × Json)
  | [] => []
  | (key, value) :: fields =>
      if key ∈ UNSUPPORTED_KEYWORDS then stripFields fields
      else
        (key, match value with
          | .obj subs => if key ∈ SCHEMA_MAP_KEYS then .obj (stripNamed subs) else strip (.obj subs)
          | value => strip value) :: stripFields fields

/-- `{name: _strip(sub) for name, sub in value.items()}` -/
def stripNamed : List (PyStr × Json) → List (PyStr × Json)
  | [] => []
  | (name, sub) :: named => (name, strip sub) :: stripNamed named

def stripItems : List Json → List Json
  | [] => []
  | item :: items => strip item :: stripItems items

end

/-- `sanitize_for_provider(schema)`: the deep copy is the value itself. -/
def sanitizeForProvider (schema : Json) : Json := strip schema

/-! ### What is kept of a node -/

/-- The value that is kept under a key. -/
def stripEntry (key : PyStr) : Json → Json
  | .obj subs => if key ∈ SCHEMA_MAP_KEYS then .obj (stripNamed subs) else strip (.obj subs)
  | value => strip value

theorem stripFields_cons_of_mem {key : PyStr} (h : key ∈ UNSUPPORTED_KEYWORDS) (value : Json)
    (fields : List (PyStr × Json)) :
    stripFields ((key, value) :: fields) = stripFields fields := by
  cases value <;> simp [stripFields, h]

theorem stripFields_cons_of_notMem {key : PyStr} (h : key ∉ UNSUPPORTED_KEYWORDS) (value : Json)
    (fields : List (PyStr × Json)) :
    stripFields ((key, value) :: fields) = (key, stripEntry key value) :: stripFields fields := by
  cases value <;> simp [stripFields, stripEntry, h]

theorem stripNamed_eq_map (named : List (PyStr × Json)) :
    stripNamed named = named.map fun f => (f.1, strip f.2) := by
  induction named with
  | nil => rfl
  | cons f named ih => rw [stripNamed, ih, List.map_cons]

theorem stripItems_eq_map (items : List Json) : stripItems items = items.map strip := by
  induction items with
  | nil => rfl
  | cons item items ih => rw [stripItems, ih, List.map_cons]

theorem length_stripFields_le (fields : List (PyStr × Json)) :
    (stripFields fields).length ≤ fields.length := by
  induction fields with
  | nil => exact Nat.le_refl _
  | cons f fields ih =>
    obtain ⟨key, value⟩ := f
    by_cases h : key ∈ UNSUPPORTED_KEYWORDS
    · rw [stripFields_cons_of_mem h, List.length_cons]
      omega
    · rw [stripFields_cons_of_notMem h, List.length_cons, List.length_cons]
      omega

/-! ### Values that are left as they are -/

mutual

/-- No object in the value has a key that is spelled like a dropped keyword, the names under
    a key that maps names to subschemas apart. -/
def keywordFree : Json → Bool
  | .obj fields => keywordFreeFields fields
  | .arr items => keywordFreeItems items
  | _ => true

def keywordFreeFields : List (PyStr × Json) → Bool
  | [] => true
  | (key, value) :: fields =>
      decide (key ∉ UNSUPPORTED_KEYWORDS) &&
        (match value with
          | .obj subs =>
              if key ∈ SCHEMA_MAP_KEYS then keywordFreeNamed subs else keywordFree (.obj subs)
          | value => keywordFree value) && keywordFreeFields fields

def keywordFreeNamed : List (PyStr × Json) → Bool
  | [] => true
  | (_, sub) :: named => keywordFree sub && keywordFreeNamed named

def keywordFreeItems : List Json → Bool
  | [] => true
  | item :: items => keywordFree item && keywordFreeItems items

end

/-- `keywordFree` of the value that stands under a key. -/
def keywordFreeEntry (key : PyStr) : Json → Bool
  | .obj subs => if key ∈ SCHEMA_MAP_KEYS then keywordFreeNamed subs else keywordFree (.obj subs)
  | value => keywordFree value

theorem keywordFreeFields_cons (key : PyStr) (value : Json) (fields : List (PyStr × Json)) :
    keywordFreeFields ((key, value) :: fields) =
      (decide (key ∉ UNSUPPORTED_KEYWORDS) && keywordFreeEntry key value &&
        keywordFreeFields fields) := by
  cases value <;> simp [keywordFreeFields, keywordFreeEntry]

mutual

theorem strip_eq_self_iff : ∀ value : Json, strip value = value ↔ keywordFree value = true
  | .null | .bool _ | .int _ | .float _ | .str _ => by simp [strip, keywordFree]
  | .arr items => by
      rw [strip, keywordFree, Json.arr.injEq]
      exact stripItems_eq_self_iff items
  | .obj fields => by
      rw [strip, keywordFree, Json.obj.injEq]
      exact stripFields_eq_self_iff fields

theorem stripFields_eq_self_iff : ∀ fields : List (PyStr × Json),
    stripFields fields = fields ↔ keywordFreeFields fields = true
  | [] => by simp [stripFields, keywordFreeFields]
  | (key, value) :: fields => by
      by_cases h : key ∈ UNSUPPORTED_KEYWORDS
      · rw [stripFields_cons_of_mem h]
        apply iff_of_false
        · intro heq
          have hlength := length_stripFields_le fields
          rw [heq, List.length_cons] at hlength
          omega
        · cases value <;> simp [keywordFreeFields, h]
      · rw [stripFields_cons_of_notMem h, keywordFreeFields_cons, List.cons.injEq, Prod.mk.injEq,
          stripFields_eq_self_iff fields, stripEntry_eq_self_iff key value]
        simp [h]

theorem stripEntry_eq_self_iff (key : PyStr) : ∀ value : Json,
    stripEntry key value = value ↔ keywordFreeEntry key value = true
  | .obj subs => by
      rw [stripEntry, keywordFreeEntry]
      split
      · rw [Json.obj.injEq]
        exact stripNamed_eq_self_iff subs
      · rw [strip, keywordFree, Json.obj.injEq]
        exact stripFields_eq_self_iff subs
  | .arr items => by
      simp only [stripEntry, keywordFreeEntry, strip, keywordFree, Json.arr.injEq]
      exact stripItems_eq_self_iff items
  | .null | .bool _ | .int _ | .float _ | .str _ => by
      simp [stripEntry, keywordFreeEntry, strip, keywordFree]

theorem stripNamed_eq_self_iff : ∀ named : List (PyStr × Json),
    stripNamed named = named ↔ keywordFreeNamed named = true
  | [] => by simp [stripNamed, keywordFreeNamed]
  | (name, sub) :: named => by
      rw [stripNamed, keywordFreeNamed, List.cons.injEq, Prod.mk.injEq, Bool.and_eq_true,
        strip_eq_self_iff sub, stripNamed_eq_self_iff named]
      simp

theorem stripItems_eq_self_iff : ∀ items : List Json,
    stripItems items = items ↔ keywordFreeItems items = true
  | [] => by simp [stripItems, keywordFreeItems]
  | item :: items => by
      rw [stripItems, keywordFreeItems, List.cons.injEq, Bool.and_eq_true,
        strip_eq_self_iff item, stripItems_eq_self_iff items]

end

/-! ### Keywords by position -/

/-- The keys whose value is a subschema or an array of them. -/
def SUBSCHEMA_KEYS : List PyStr :=
  [py "items", py "prefixItems", py "anyOf", py "allOf", py "oneOf", py "not", py "if",
    py "then", py "else", py "contains", py "propertyNames", py "additionalProperties"]

mutual

/-- The schema without its unsupported keywords, and every value that is in data position as
    it was. -/
def sanitizePositions : Json → Json
  | .obj fields => .obj (sanitizeKeywords fields)
  | schema => schema

def sanitizeKeywords : List (PyStr × Json) → List (PyStr × Json)
  | [] => []
  | (key, value) :: fields =>
      if key ∈ UNSUPPORTED_KEYWORDS then sanitizeKeywords fields
      else
        (key, match value with
          | .obj subs =>
              if key ∈ SCHEMA_MAP_KEYS then .obj (sanitizeNamed subs)
              else if key ∈ SUBSCHEMA_KEYS then sanitizePositions (.obj subs)
              else .obj subs
          | .arr items => if key ∈ SUBSCHEMA_KEYS then .arr (sanitizeItems items) else .arr items
          | value => value) :: sanitizeKeywords fields

def sanitizeNamed : List (PyStr × Json) → List (PyStr × Json)
  | [] => []
  | (name, sub) :: named => (name, sanitizePositions sub) :: sanitizeNamed named

def sanitizeItems : List Json → List Json
  | [] => []
  | item :: items => sanitizePositions item :: sanitizeItems items

end

mutual

/-- Every value in data position is `keywordFree`. -/
def dataKeywordFree : Json → Bool
  | .obj fields => dataKeywordFreeKeywords fields
  | value => keywordFree value

def dataKeywordFreeKeywords : List (PyStr × Json) → Bool
  | [] => true
  | (key, value) :: fields =>
      (decide (key ∈ UNSUPPORTED_KEYWORDS) ||
        match value with
          | .obj subs =>
              if key ∈ SCHEMA_MAP_KEYS then dataKeywordFreeNamed subs
              else if key ∈ SUBSCHEMA_KEYS then dataKeywordFree (.obj subs)
              else keywordFree (.obj subs)
          | .arr items =>
              if key ∈ SUBSCHEMA_KEYS then dataKeywordFreeItems items else keywordFree (.arr items)
          | _ => true) && dataKeywordFreeKeywords fields

def dataKeywordFreeNamed : List (PyStr × Json) → Bool
  | [] => true
  | (_, sub) :: named => dataKeywordFree sub && dataKeywordFreeNamed named

def dataKeywordFreeItems : List Json → Bool
  | [] => true
  | item :: items => dataKeywordFree item && dataKeywordFreeItems items

end

/-- What `sanitizePositions` puts under a key. -/
def sanitizeEntry (key : PyStr) : Json → Json
  | .obj subs =>
      if key ∈ SCHEMA_MAP_KEYS then .obj (sanitizeNamed subs)
      else if key ∈ SUBSCHEMA_KEYS then sanitizePositions (.obj subs)
      else .obj subs
  | .arr items => if key ∈ SUBSCHEMA_KEYS then .arr (sanitizeItems items) else .arr items
  | value => value

def dataKeywordFreeEntry (key : PyStr) : Json → Bool
  | .obj subs =>
      if key ∈ SCHEMA_MAP_KEYS then dataKeywordFreeNamed subs
      else if key ∈ SUBSCHEMA_KEYS then dataKeywordFree (.obj subs)
      else keywordFree (.obj subs)
  | .arr items =>
      if key ∈ SUBSCHEMA_KEYS then dataKeywordFreeItems items else keywordFree (.arr items)
  | _ => true

theorem sanitizeKeywords_cons_of_mem {key : PyStr} (h : key ∈ UNSUPPORTED_KEYWORDS)
    (value : Json) (fields : List (PyStr × Json)) :
    sanitizeKeywords ((key, value) :: fields) = sanitizeKeywords fields := by
  cases value <;> simp [sanitizeKeywords, h]

theorem sanitizeKeywords_cons_of_notMem {key : PyStr} (h : key ∉ UNSUPPORTED_KEYWORDS)
    (value : Json) (fields : List (PyStr × Json)) :
    sanitizeKeywords ((key, value) :: fields) =
      (key, sanitizeEntry key value) :: sanitizeKeywords fields := by
  cases value <;> simp [sanitizeKeywords, sanitizeEntry, h]

theorem dataKeywordFreeKeywords_cons (key : PyStr) (value : Json)
    (fields : List (PyStr × Json)) :
    dataKeywordFreeKeywords ((key, value) :: fields) =
      ((decide (key ∈ UNSUPPORTED_KEYWORDS) || dataKeywordFreeEntry key value) &&
        dataKeywordFreeKeywords fields) := by
  cases value <;> simp [dataKeywordFreeKeywords, dataKeywordFreeEntry]

mutual

theorem strip_eq_sanitizePositions_iff : ∀ schema : Json,
    strip schema = sanitizePositions schema ↔ dataKeywordFree schema = true
  | .null | .bool _ | .int _ | .float _ | .str _ => by
      simp [strip, sanitizePositions, dataKeywordFree, keywordFree]
  | .arr items => by
      rw [dataKeywordFree, ← strip_eq_self_iff, sanitizePositions]
      all_goals
        intro fields h
        cases h
  | .obj fields => by
      rw [strip, sanitizePositions, dataKeywordFree, Json.obj.injEq]
      exact stripFields_eq_sanitizeKeywords_iff fields

theorem stripFields_eq_sanitizeKeywords_iff : ∀ fields : List (PyStr × Json),
    stripFields fields = sanitizeKeywords fields ↔ dataKeywordFreeKeywords fields = true
  | [] => by simp [stripFields, sanitizeKeywords, dataKeywordFreeKeywords]
  | (key, value) :: fields => by
      rw [dataKeywordFreeKeywords_cons]
      by_cases h : key ∈ UNSUPPORTED_KEYWORDS
      · rw [stripFields_cons_of_mem h, sanitizeKeywords_cons_of_mem h,
          stripFields_eq_sanitizeKeywords_iff fields]
        simp [h]
      · rw [stripFields_cons_of_notMem h, sanitizeKeywords_cons_of_notMem h, List.cons.injEq,
          Prod.mk.injEq, stripFields_eq_sanitizeKeywords_iff fields,
          stripEntry_eq_sanitizeEntry_iff key value]
        simp [h]

theorem stripEntry_eq_sanitizeEntry_iff (key : PyStr) : ∀ value : Json,
    stripEntry key value = sanitizeEntry key value ↔ dataKeywordFreeEntry key value = true
  | .obj subs => by
      rw [stripEntry, sanitizeEntry, dataKeywordFreeEntry]
      split
      · rw [Json.obj.injEq]
        exact stripNamed_eq_sanitizeNamed_iff subs
      · split
        · rw [strip, sanitizePositions, dataKeywordFree, Json.obj.injEq]
          exact stripFields_eq_sanitizeKeywords_iff subs
        · exact strip_eq_self_iff (.obj subs)
  | .arr items => by
      simp only [stripEntry, sanitizeEntry, dataKeywordFreeEntry, strip]
      split
      · rw [Json.arr.injEq]
        exact stripItems_eq_sanitizeItems_iff items
      · rw [← strip_eq_self_iff, strip]
  | .null | .bool _ | .int _ | .float _ | .str _ => by
      simp [stripEntry, sanitizeEntry, dataKeywordFreeEntry, strip]

theorem stripNamed_eq_sanitizeNamed_iff : ∀ named : List (PyStr × Json),
    stripNamed named = sanitizeNamed named ↔ dataKeywordFreeNamed named = true
  | [] => by simp [stripNamed, sanitizeNamed, dataKeywordFreeNamed]
  | (name, sub) :: named => by
      rw [stripNamed, sanitizeNamed, dataKeywordFreeNamed, List.cons.injEq, Prod.mk.injEq,
        Bool.and_eq_true, strip_eq_sanitizePositions_iff sub,
        stripNamed_eq_sanitizeNamed_iff named]
      simp

theorem stripItems_eq_sanitizeItems_iff : ∀ items : List Json,
    stripItems items = sanitizeItems items ↔ dataKeywordFreeItems items = true
  | [] => by simp [stripItems, sanitizeItems, dataKeywordFreeItems]
  | item :: items => by
      rw [stripItems, sanitizeItems, dataKeywordFreeItems, List.cons.injEq, Bool.and_eq_true,
        strip_eq_sanitizePositions_iff item, stripItems_eq_sanitizeItems_iff items]

end

/-- **Sanitizing a document drops the unsupported keywords of its schemas and nothing else,
    exactly when no object in data position has a key that is spelled like one.** -/
theorem sanitizeForProvider_by_position (document : Json) :
    sanitizeForProvider document = sanitizePositions document ↔
      dataKeywordFree document = true :=
  strip_eq_sanitizePositions_iff document

/-- A default that names its own `format` loses it. -/
theorem sanitizeForProvider_reaches_defaults :
    ¬ ∀ document : Json, sanitizeForProvider document = sanitizePositions document := by
  intro h
  have hdefault := (strip_eq_sanitizePositions_iff
    (.obj [(py "default", .obj [(py "format", .str (py "A4"))])])).mp (h _)
  revert hdefault
  decide

end ExtractApi.SchemaUtils
