import ExtractApi.JsonSchema
import ExtractApi.SchemaSanitizing

/-!
# A sanitized schema admits no less

A provider is sent the sanitized schema.  An answer that the full schema admits, the
sanitized one admits too; the shape that the provider is held to is the same, and every
reference leads where it led.
-/

namespace ExtractApi.SchemaUtils

open PythonText JsonValue Json JsonSchema

/-! ### Fields and positions of the sanitized schema -/

theorem get?_strip {key : PyStr} (h : key ∉ UNSUPPORTED_KEYWORDS) (schema : Json) :
    (strip schema).get? key = (schema.get? key).map (stripEntry key) := by
  cases schema with
  | obj fields =>
    rw [strip]
    induction fields with
    | nil => rfl
    | cons f fields ih =>
      obtain ⟨name, value⟩ := f
      by_cases hname : name = key
      · subst hname
        rw [stripFields_cons_of_notMem h]
        simp [get?]
      · by_cases hdrop : name ∈ UNSUPPORTED_KEYWORDS
        · rw [stripFields_cons_of_mem hdrop, ih]
          simp [get?, hname]
        · rw [stripFields_cons_of_notMem hdrop]
          simpa [get?, hname] using ih
  | _ => rfl

theorem mem_stripFields {f : PyStr × Json} {fields : List (PyStr × Json)}
    (h : f ∈ stripFields fields) : f.1 ∉ UNSUPPORTED_KEYWORDS := by
  induction fields with
  | nil => cases h
  | cons g fields ih =>
    obtain ⟨key, value⟩ := g
    by_cases hdrop : key ∈ UNSUPPORTED_KEYWORDS
    · rw [stripFields_cons_of_mem hdrop] at h
      exact ih h
    · rw [stripFields_cons_of_notMem hdrop] at h
      rcases List.mem_cons.mp h with heq | hmem
      · rw [heq]
        exact hdrop
      · exact ih hmem

theorem get?_strip_unsupported {key : PyStr} (h : key ∈ UNSUPPORTED_KEYWORDS) (schema : Json) :
    (strip schema).get? key = none := by
  cases schema with
  | obj fields =>
    have hnone : (stripFields fields).find? (fun f => decide (f.1 = key)) = none := by
      rw [List.find?_eq_none]
      intro f hf heq
      exact mem_stripFields hf ((of_decide_eq_true heq) ▸ h)
    simp [strip, get?, hnone]
  | _ => rfl

theorem get?_stripNamed (named : List (PyStr × Json)) (name : PyStr) :
    (Json.obj (stripNamed named)).get? name = ((Json.obj named).get? name).map strip := by
  rw [stripNamed_eq_map]
  induction named with
  | nil => rfl
  | cons f named ih =>
    by_cases hname : f.1 = name
    · simp [get?, hname]
    · simpa [get?, hname] using ih

theorem constraintFields_strip (schema : Json) :
    constraintFields UNSUPPORTED_KEYWORDS (strip schema) = [] := by
  cases schema with
  | obj fields =>
    show (stripFields fields).filter _ = []
    rw [List.filter_eq_nil_iff]
    intro f hf
    simpa using mem_stripFields hf
  | _ => rfl

theorem apart_unsupported : Apart UNSUPPORTED_KEYWORDS := by
  unfold Apart
  decide

/-- **One step down, the sanitized schema holds the sanitized subschema.** -/
theorem child_strip (schema : Json) (step : Step) :
    child (strip schema) step = (child schema step).map strip := by
  cases step with
  | named key name =>
    by_cases hkey : key ∈ NAMED_KEYS
    · have hkept : ∀ key ∈ NAMED_KEYS, key ∉ UNSUPPORTED_KEYWORDS ∧ key ∈ SCHEMA_MAP_KEYS := by
        decide
      obtain ⟨hsupported, hmap⟩ := hkept key hkey
      simp only [child, if_pos hkey, get?_strip hsupported]
      rcases schema.get? key with _ | value
      · rfl
      · cases value with
        | obj subs => simp [stripEntry, hmap, get?_stripNamed]
        | _ => rfl
    · simp [child, hkey]
  | under key =>
    by_cases hkey : key ∈ SINGLE_KEYS
    · have hkept : ∀ key ∈ SINGLE_KEYS, key ∉ UNSUPPORTED_KEYWORDS ∧ key ∉ SCHEMA_MAP_KEYS := by
        decide
      obtain ⟨hsupported, hmap⟩ := hkept key hkey
      simp only [child, if_pos hkey, get?_strip hsupported]
      rcases schema.get? key with _ | value
      · rfl
      · cases value <;> simp [stripEntry, hmap]
    · simp [child, hkey]
  | item key index =>
    by_cases hkey : key ∈ LISTED_KEYS
    · have hkept : ∀ key ∈ LISTED_KEYS, key ∉ UNSUPPORTED_KEYWORDS := by decide
      simp only [child, if_pos hkey, get?_strip (hkept key hkey)]
      rcases schema.get? key with _ | value
      · rfl
      · cases value with
        | arr subs => simp [stripEntry, strip, stripItems_eq_map]
        | obj subs => by_cases hmap : key ∈ SCHEMA_MAP_KEYS <;> simp [stripEntry, strip, hmap]
        | _ => rfl
    · simp [child, hkey]

theorem nodeAt_strip (schema : Json) (path : List Step) :
    nodeAt (strip schema) path = (nodeAt schema path).map strip := by
  induction path generalizing schema with
  | nil => rfl
  | cons step path ih =>
    rw [nodeAt, child_strip, nodeAt]
    rcases child schema step with _ | sub
    · rfl
    · exact ih sub

theorem target_strip (d : Dialect UNSUPPORTED_KEYWORDS) (root : Json) (ref : PyStr) :
    d.target (strip root) ref = (d.target root ref).map strip := by
  unfold Dialect.target
  rcases d.reference ref with _ | path
  · rfl
  · exact nodeAt_strip root path

/-! ### Keywords that hold no schema -/

theorem stripEntry_scalar {value : Json} (h : isScalar value = true) (key : PyStr) :
    stripEntry key value = value := by
  cases value <;> first | rfl | cases h

theorem stripEntry_scalars {items : List Json} (h : items.all isScalar = true) (key : PyStr) :
    stripEntry key (.arr items) = .arr items := by
  have hfix : ∀ item ∈ items, strip item = id item := by
    intro item hitem
    have hscalar := List.all_eq_true.mp h item hitem
    cases item <;> first | rfl | cases hscalar
  simp only [stripEntry, strip, stripItems_eq_map]
  rw [List.map_congr_left hfix, List.map_id]

theorem isScalar_of_isStr {value : Json} (h : isStr value = true) : isScalar value = true := by
  cases value <;> first | rfl | cases h

theorem stripEntry_plain {key : PyStr} {value : Json} (hkey : key ∈ PLAIN_KEYS)
    (h : plainKeyword key value = true) : stripEntry key value = value := by
  have hstrs : ∀ names : List Json, names.all isStr = true → names.all isScalar = true := by
    intro names hnames
    rw [List.all_eq_true] at hnames ⊢
    intro name hname
    exact isScalar_of_isStr (hnames name hname)
  simp only [PLAIN_KEYS, List.mem_cons, List.not_mem_nil, or_false] at hkey
  rcases hkey with rfl | rfl | rfl | rfl | rfl
  · cases value with
    | arr names => exact stripEntry_scalars (hstrs names h) _
    | _ =>
      apply stripEntry_scalar
      exact isScalar_of_isStr h
  · cases value with
    | arr names => exact stripEntry_scalars (hstrs names h) _
    | _ => cases h
  · exact stripEntry_scalar (isScalar_of_isStr h) _
  · cases value with
    | arr values => exact stripEntry_scalars h _
    | _ => cases h
  · exact stripEntry_scalar h _

theorem get?_strip_plain {schema : Json} {key : PyStr} (hkey : key ∈ PLAIN_KEYS)
    (h : wellFormed UNSUPPORTED_KEYWORDS schema = true) :
    (strip schema).get? key = schema.get? key := by
  have hkept : ∀ key ∈ PLAIN_KEYS, key ∉ UNSUPPORTED_KEYWORDS ∧ key ∉ NAMED_KEYS ∧
      key ∉ SINGLE_KEYS ∧ key ∉ LISTED_KEYS := by decide
  obtain ⟨hsupported, hnamed, hsingle, hlisted⟩ := hkept key hkey
  rw [get?_strip hsupported]
  rcases hget : schema.get? key with _ | value
  · rfl
  · have hentry := wellFormedEntry_of_get? h hget
    have hplain : plainKeyword key value = true := by
      cases value <;>
        simpa [wellFormedEntry, hsupported, hnamed, hsingle, hlisted] using hentry
    rw [Option.map_some, stripEntry_plain hkey hplain]

/-! ### Each keyword admits no less -/

/-- What one reading of the schemas admits, the other admits of the sanitized ones. -/
def Admits (valid valid' : Json → Json → Bool) : Prop :=
  ∀ schema inst, wellFormed UNSUPPORTED_KEYWORDS schema = true → valid schema inst = true →
    valid' (strip schema) inst = true

section Weakening

variable {valid valid' : Json → Json → Bool} {schema inst : Json}

theorem wellFormed_listed {key : PyStr} {subs : List Json}
    (h : wellFormed UNSUPPORTED_KEYWORDS schema = true) (hkey : key ∈ LISTED_KEYS)
    (hget : schema.get? key = some (.arr subs)) :
    ∀ sub ∈ subs, wellFormed UNSUPPORTED_KEYWORDS sub = true := by
  intro sub hsub
  obtain ⟨index, hindex⟩ := List.mem_iff_getElem?.mp hsub
  have hchild : child schema (.item key index) = some sub :=
    child_item_eq_some.mpr ⟨hkey, subs, hget, hindex⟩
  exact wellFormed_child apart_unsupported h hchild

/-- A subschema that is looked up and admits a value. -/
theorem child_all_strip {step : Step} (hvalid : Admits valid valid')
    (h : wellFormed UNSUPPORTED_KEYWORDS schema = true) (value : Json)
    (hall : (child schema step).all (fun sub => valid sub value) = true) :
    (child (strip schema) step).all (fun sub => valid' sub value) = true := by
  rw [child_strip]
  rcases hchild : child schema step with _ | sub
  · rfl
  · rw [hchild] at hall
    exact hvalid sub value (wellFormed_child apart_unsupported h hchild) hall

theorem propertiesHold_strip (hvalid : Admits valid valid')
    (h : wellFormed UNSUPPORTED_KEYWORDS schema = true)
    (hholds : propertiesHold valid schema inst = true) :
    propertiesHold valid' (strip schema) inst = true := by
  cases inst with
  | obj fields =>
    rw [propertiesHold, List.all_eq_true] at hholds ⊢
    intro f hf
    exact child_all_strip hvalid h f.2 (hholds f hf)
  | _ => rfl

theorem prefixHolds_strip (hvalid : Admits valid valid')
    (h : wellFormed UNSUPPORTED_KEYWORDS schema = true)
    (hholds : prefixHolds valid schema inst = true) :
    prefixHolds valid' (strip schema) inst = true := by
  cases inst with
  | arr values =>
    rw [prefixHolds, List.all_eq_true] at hholds ⊢
    intro p hp
    exact child_all_strip hvalid h p.1 (hholds p hp)
  | _ => rfl

theorem additionalHolds_strip (hvalid : Admits valid valid')
    (h : wellFormed UNSUPPORTED_KEYWORDS schema = true)
    (hholds : additionalHolds valid schema inst = true) :
    additionalHolds valid' (strip schema) inst = true := by
  unfold additionalHolds at hholds ⊢
  rw [child_strip]
  rcases hclosure : child schema (.under (py "additionalProperties")) with _ | closure
  · rfl
  · have hwell := wellFormed_child apart_unsupported h hclosure
    cases inst with
    | obj fields =>
      simp only [hclosure, Option.map_some, List.all_eq_true, Bool.or_eq_true, child_strip,
        Option.isSome_map] at hholds ⊢
      intro f hf
      apply (hholds f hf).imp_right
      exact hvalid closure f.2 hwell
    | _ => rfl

theorem itemsHold_strip (hvalid : Admits valid valid')
    (h : wellFormed UNSUPPORTED_KEYWORDS schema = true)
    (hholds : itemsHold valid schema inst = true) :
    itemsHold valid' (strip schema) inst = true := by
  unfold itemsHold at hholds ⊢
  rw [child_strip]
  rcases hitems : child schema (.under (py "items")) with _ | sub
  · rfl
  · have hwell := wellFormed_child apart_unsupported h hitems
    cases inst with
    | arr values =>
      simp only [hitems, Option.map_some, List.all_eq_true, Bool.or_eq_true, child_strip,
        Option.isSome_map] at hholds ⊢
      intro p hp
      apply (hholds p hp).imp_right
      exact hvalid sub p.1 hwell
    | _ => rfl

/-- What `anyOf` and `allOf` read. -/
def listed (schema : Json) (key : PyStr) : Option (List Json) :=
  match schema.get? key with
  | some (.arr subs) => some subs
  | _ => none

theorem listed_strip {key : PyStr} (hkey : key ∈ LISTED_KEYS) :
    listed (strip schema) key = (listed schema key).map (List.map strip) := by
  have hkept : ∀ key ∈ LISTED_KEYS, key ∉ UNSUPPORTED_KEYWORDS := by decide
  unfold listed
  rw [get?_strip (hkept key hkey)]
  rcases schema.get? key with _ | value
  · rfl
  · cases value with
    | arr subs => simp [stripEntry, strip, stripItems_eq_map]
    | obj subs => by_cases hmap : key ∈ SCHEMA_MAP_KEYS <;> simp [stripEntry, strip, hmap]
    | _ => rfl

theorem anyHolds_eq : anyHolds valid schema inst =
    ((listed schema (py "anyOf")).map
      fun subs => subs.any fun sub => valid sub inst).getD true := by
  unfold anyHolds listed
  split <;> simp_all

theorem allHold_eq : allHold valid schema inst =
    ((listed schema (py "allOf")).map
      fun subs => subs.all fun sub => valid sub inst).getD true := by
  unfold allHold listed
  split <;> simp_all

theorem get?_of_listed {key : PyStr} {subs : List Json} (h : listed schema key = some subs) :
    schema.get? key = some (.arr subs) := by
  unfold listed at h
  split at h
  · cases h
    assumption
  · cases h

theorem anyHolds_strip (hvalid : Admits valid valid')
    (h : wellFormed UNSUPPORTED_KEYWORDS schema = true)
    (hholds : anyHolds valid schema inst = true) :
    anyHolds valid' (strip schema) inst = true := by
  have hkey : py "anyOf" ∈ LISTED_KEYS := by decide
  rw [anyHolds_eq] at hholds ⊢
  rw [listed_strip hkey]
  rcases hlisted : listed schema (py "anyOf") with _ | subs
  · rfl
  · have hwell := wellFormed_listed h hkey (get?_of_listed hlisted)
    simp only [hlisted, Option.map_some, Option.getD_some, List.any_eq_true] at hholds
    obtain ⟨sub, hsub, hadmits⟩ := hholds
    simp only [Option.map_some, Option.getD_some, List.any_map, List.any_eq_true]
    exact ⟨sub, hsub, hvalid sub inst (hwell sub hsub) hadmits⟩

theorem allHold_strip (hvalid : Admits valid valid')
    (h : wellFormed UNSUPPORTED_KEYWORDS schema = true)
    (hholds : allHold valid schema inst = true) :
    allHold valid' (strip schema) inst = true := by
  have hkey : py "allOf" ∈ LISTED_KEYS := by decide
  rw [allHold_eq] at hholds ⊢
  rw [listed_strip hkey]
  rcases hlisted : listed schema (py "allOf") with _ | subs
  · rfl
  · have hwell := wellFormed_listed h hkey (get?_of_listed hlisted)
    simp only [hlisted, Option.map_some, Option.getD_some, List.all_eq_true] at hholds
    simp only [Option.map_some, Option.getD_some, List.all_map, List.all_eq_true]
    intro sub hsub
    exact hvalid sub inst (hwell sub hsub) (hholds sub hsub)

theorem refHolds_strip {d : Dialect UNSUPPORTED_KEYWORDS} {root : Json}
    (hvalid : Admits valid valid') (hroot : wellFormed UNSUPPORTED_KEYWORDS root = true)
    (h : wellFormed UNSUPPORTED_KEYWORDS schema = true)
    (hholds : refHolds d valid root schema inst = true) :
    refHolds d valid' (strip root) (strip schema) inst = true := by
  have hkey : py "$ref" ∈ PLAIN_KEYS := by decide
  unfold refHolds at hholds ⊢
  rw [get?_strip_plain hkey h]
  split at hholds
  · rename_i ref _
    rw [Option.any_eq_true] at hholds
    obtain ⟨sub, htarget, hadmits⟩ := hholds
    have hwell : wellFormed UNSUPPORTED_KEYWORDS sub = true := by
      obtain ⟨path, -, hnode⟩ := Option.bind_eq_some_iff.mp htarget
      exact wellFormed_nodeAt apart_unsupported hroot hnode
    simp only [target_strip, htarget, Option.map_some, Option.any_some]
    exact hvalid sub inst hwell hadmits
  · rfl

theorem holdsAt_strip {d : Dialect UNSUPPORTED_KEYWORDS} {root : Json}
    (hvalid : Admits valid valid') (hroot : wellFormed UNSUPPORTED_KEYWORDS root = true)
    (h : wellFormed UNSUPPORTED_KEYWORDS schema = true)
    (hholds : holdsAt d valid root schema inst = true) :
    holdsAt d valid' (strip root) (strip schema) inst = true := by
  have hplain : ∀ key ∈ PLAIN_KEYS, (strip schema).get? key = schema.get? key :=
    fun key hkey => get?_strip_plain hkey h
  have htype : typeHolds (strip schema) inst = typeHolds schema inst := by
    unfold typeHolds
    rw [hplain (py "type") (by decide)]
  have hrequired : requiredHolds (strip schema) inst = requiredHolds schema inst := by
    unfold requiredHolds
    rw [hplain (py "required") (by decide)]
  have henum : enumHolds (strip schema) inst = enumHolds schema inst := by
    unfold enumHolds
    rw [hplain (py "enum") (by decide)]
  have hconst : constHolds (strip schema) inst = constHolds schema inst := by
    unfold constHolds
    rw [hplain (py "const") (by decide)]
  simp only [holdsAt, Bool.and_eq_true, htype, hrequired, henum, hconst, constraintFields_strip,
    d.holds_nil, and_true] at hholds ⊢
  obtain ⟨⟨⟨⟨⟨⟨⟨⟨hshape, hproperties⟩, hadditional⟩, hprefix⟩, hitems⟩, hany⟩, hall⟩, href⟩, -⟩ :=
    hholds
  exact ⟨⟨⟨⟨⟨⟨⟨hshape, propertiesHold_strip hvalid h hproperties⟩,
    additionalHolds_strip hvalid h hadditional⟩, prefixHolds_strip hvalid h hprefix⟩,
    itemsHold_strip hvalid h hitems⟩, anyHolds_strip hvalid h hany⟩,
    allHold_strip hvalid h hall⟩, refHolds_strip hvalid hroot h href⟩

/-- **After any number of steps, what the schema admits the sanitized schema admits.** -/
theorem validates_strip {d : Dialect UNSUPPORTED_KEYWORDS} {root : Json}
    (hroot : wellFormed UNSUPPORTED_KEYWORDS root = true) (atEnd : Bool) (fuel : ℕ) :
    Admits (validates d atEnd root fuel) (validates d atEnd (strip root) fuel) := by
  induction fuel with
  | zero =>
    intro _ _ _ h
    exact h
  | succ fuel ih =>
    intro schema inst hschema hvalid
    cases schema with
    | bool b =>
      rw [validates] at hvalid
      have hstrip : strip (.bool b) = .bool b := rfl
      rw [hstrip, validates]
      exact hvalid
    | obj fields =>
      rw [validates] at hvalid
      have hholds := holdsAt_strip ih hroot hschema hvalid
      have hstrip : strip (.obj fields) = .obj (stripFields fields) := rfl
      rw [hstrip] at hholds ⊢
      rw [validates]
      exact hholds
    | _ => cases hvalid

end Weakening

/-! ### Sanitizing twice -/

mutual

theorem strip_strip : ∀ value : Json, strip (strip value) = strip value
  | .null | .bool _ | .int _ | .float _ | .str _ => rfl
  | .arr items => by rw [strip, strip, stripItems_stripItems items]
  | .obj fields => by rw [strip, strip, stripFields_stripFields fields]

theorem stripFields_stripFields : ∀ fields : List (PyStr × Json),
    stripFields (stripFields fields) = stripFields fields
  | [] => rfl
  | (key, value) :: fields => by
      by_cases h : key ∈ UNSUPPORTED_KEYWORDS
      · rw [stripFields_cons_of_mem h, stripFields_stripFields fields]
      · rw [stripFields_cons_of_notMem h, stripFields_cons_of_notMem h,
          stripFields_stripFields fields, stripEntry_stripEntry key value]

theorem stripEntry_stripEntry (key : PyStr) : ∀ value : Json,
    stripEntry key (stripEntry key value) = stripEntry key value
  | .null | .bool _ | .int _ | .float _ | .str _ => rfl
  | .arr items => by
      simp only [stripEntry, strip]
      rw [stripItems_stripItems items]
  | .obj subs => by
      by_cases hmap : key ∈ SCHEMA_MAP_KEYS
      · simp only [stripEntry, if_pos hmap]
        rw [stripNamed_stripNamed subs]
      · simp only [stripEntry, if_neg hmap, strip]
        rw [stripFields_stripFields subs]

theorem stripNamed_stripNamed : ∀ named : List (PyStr × Json),
    stripNamed (stripNamed named) = stripNamed named
  | [] => rfl
  | (name, sub) :: named => by
      rw [stripNamed, stripNamed, strip_strip sub, stripNamed_stripNamed named]

theorem stripItems_stripItems : ∀ items : List Json,
    stripItems (stripItems items) = stripItems items
  | [] => rfl
  | item :: items => by
      rw [stripItems, stripItems, strip_strip item, stripItems_stripItems items]

end

/-! ### The sanitized schema -/

theorem propertyNames_strip (schema : Json) :
    propertyNames (strip schema) = propertyNames schema := by
  have hkept : py "properties" ∉ UNSUPPORTED_KEYWORDS := by decide
  have hmap : py "properties" ∈ SCHEMA_MAP_KEYS := by decide
  unfold propertyNames
  rw [get?_strip hkept]
  rcases schema.get? (py "properties") with _ | value
  · rfl
  · cases value with
    | obj subs => simp [stripEntry, hmap, stripNamed_eq_map]
    | _ => rfl

theorem closure_strip (schema : Json) :
    (strip schema).get? (py "additionalProperties") =
      (schema.get? (py "additionalProperties")).map strip := by
  have hclosure := child_strip schema (.under (py "additionalProperties"))
  have hkey : py "additionalProperties" ∈ SINGLE_KEYS := by decide
  simpa only [child, if_pos hkey] using hclosure

/-- What sanitizing leaves of a schema, whatever its constraints say. -/
structure Weakened (d : Dialect UNSUPPORTED_KEYWORDS) (schema : Json) : Prop where
  admits : ∀ inst, Valid d schema inst → Valid d (sanitizeForProvider schema) inst
  unrefuted : ∀ inst, Unrefuted d schema inst → Unrefuted d (sanitizeForProvider schema) inst
  positions : ∀ path, (nodeAt (sanitizeForProvider schema) path).isSome =
    (nodeAt schema path).isSome
  shape : ∀ path node kept, nodeAt schema path = some node →
    nodeAt (sanitizeForProvider schema) path = some kept →
      propertyNames kept = propertyNames node ∧
      kept.get? (py "required") = node.get? (py "required") ∧
      kept.get? (py "additionalProperties") =
        (node.get? (py "additionalProperties")).map sanitizeForProvider ∧
      kept.get? (py "$ref") = node.get? (py "$ref")
  boolean : ∀ b, sanitizeForProvider (.bool b) = .bool b
  resolves : ∀ ref target, d.target schema ref = some target →
    d.target (sanitizeForProvider schema) ref = some (sanitizeForProvider target)
  supported : ∀ path kept, nodeAt (sanitizeForProvider schema) path = some kept →
    ∀ key ∈ UNSUPPORTED_KEYWORDS, kept.get? key = none
  twice : sanitizeForProvider (sanitizeForProvider schema) = sanitizeForProvider schema

/-- **Sanitizing only weakens a schema.** -/
theorem sanitizeForProvider_weakens (d : Dialect UNSUPPORTED_KEYWORDS) (schema : Json)
    (h : wellFormed UNSUPPORTED_KEYWORDS schema = true) : Weakened d schema where
  admits inst hvalid := by
    obtain ⟨fuel, hfuel⟩ := hvalid
    exact ⟨fuel, validates_strip h false fuel schema inst h hfuel⟩
  unrefuted inst hvalid fuel := validates_strip h true fuel schema inst h (hvalid fuel)
  positions path := by
    unfold sanitizeForProvider
    rw [nodeAt_strip, Option.isSome_map]
  shape path node kept hnode hkept := by
    unfold sanitizeForProvider at hkept
    rw [nodeAt_strip, hnode] at hkept
    cases hkept
    have hwell := wellFormed_nodeAt apart_unsupported h hnode
    exact ⟨propertyNames_strip node, get?_strip_plain (by decide) hwell, closure_strip node,
      get?_strip_plain (by decide) hwell⟩
  boolean _ := rfl
  resolves ref target htarget := by
    unfold sanitizeForProvider
    rw [target_strip, htarget, Option.map_some]
  supported path kept hkept key hkey := by
    unfold sanitizeForProvider at hkept
    rw [nodeAt_strip] at hkept
    obtain ⟨node, -, rfl⟩ := Option.map_eq_some_iff.mp hkept
    exact get?_strip_unsupported hkey node
  twice := strip_strip schema

/-- References of the form `#/$defs/name`, and a least length for strings. -/
def lengthDialect : Dialect UNSUPPORTED_KEYWORDS where
  reference ref :=
    if py "#/$defs/" <+: ref then some [.named (py "$defs") (ref.drop 8)] else none
  holds fields inst := fields.all fun f =>
    match inst, f.2 with
    | .str s, .int n => decide (f.1 = py "minLength" → n ≤ s.length)
    | _, _ => true
  holds_nil _ := rfl

/-- A property and a definition are named like keywords, and the definition has a keyword. -/
def pageSchema : Json :=
  .obj [(py "type", .str (py "object")),
    (py "properties", .obj [(py "format", .obj [(py "$ref", .str (py "#/$defs/minimum"))])]),
    (py "required", .arr [.str (py "format")]), (py "additionalProperties", .bool false),
    (py "$defs", .obj [(py "minimum",
      .obj [(py "type", .str (py "string")), (py "minLength", .int 1)])])]

theorem pageSchema_weakened :
    wellFormed UNSUPPORTED_KEYWORDS pageSchema = true ∧
      Valid lengthDialect pageSchema (.obj [(py "format", .str (py "A4"))]) ∧
      Valid lengthDialect (sanitizeForProvider pageSchema)
        (.obj [(py "format", .str (py "A4"))]) := by
  have hvalid : Valid lengthDialect pageSchema (.obj [(py "format", .str (py "A4"))]) :=
    ⟨3, by decide +kernel⟩
  exact ⟨by decide +kernel, hvalid,
    (sanitizeForProvider_weakens lengthDialect pageSchema (by decide +kernel)).admits _ hvalid⟩

end ExtractApi.SchemaUtils
