import ExtractApi.StrictSchemas

/-!
# The response model, read back

`ExtractResponse.model_validate_json` is not strict: it ignores other keys, has a default for
`replayed` and coerces numbers.  The numbers of a response are exact, so a document with a special
float is none here.
-/

namespace ExtractApi

open PythonText JsonValue LoadedJson JsonText RecordCodec

/-! ## Reading -/

mutual

/-- The value without special floats. -/
def asJson? : Loaded → Option Json
  | .null => some .null
  | .bool b => some (.bool b)
  | .int n => some (.int n)
  | .float (.finite q) => some (.float q)
  | .float _ => none
  | .str s => some (.str s)
  | .arr items => (asItems? items).map .arr
  | .obj fields => (asFields? fields).map .obj

def asItems? : List Loaded → Option (List Json)
  | [] => some []
  | item :: items =>
      (asJson? item).bind fun value => (asItems? items).map fun values => value :: values

def asFields? : List (PyStr × Loaded) → Option (List (PyStr × Json))
  | [] => some []
  | (name, item) :: fields =>
      (asJson? item).bind fun value =>
        (asFields? fields).map fun values => (name, value) :: values

end

section Reading

variable (pyd : Pydantic)

/-- A `str` field: nothing else is coerced. -/
def laxStr : Loaded → Option PyStr
  | .str s => some s
  | _ => none

def laxBool : Loaded → Option Bool
  | .bool b => some b
  | value => pyd.coerceBool value

def laxInt : Loaded → Option ℤ
  | .int n => some n
  | value => pyd.coerceInt value

def laxFloat : Loaded → Option ℚ
  | .float (.finite q) => some q
  | value => pyd.coerceFloat value

/-- `dict[str, Any]` -/
def anyDict : Loaded → Option (List (PyStr × Json))
  | .obj fields => asFields? fields
  | _ => none

def floatFields : List (PyStr × Loaded) → Option (List (PyStr × ℚ))
  | [] => some []
  | (name, item) :: fields =>
      (laxFloat pyd item).bind fun q => (floatFields fields).map fun rest => (name, q) :: rest

/-- `dict[str, float]` -/
def floatDict : Loaded → Option (List (PyStr × ℚ))
  | .obj fields => floatFields pyd fields
  | _ => none

def ExtractMeta.ofLoaded (value : Loaded) : Option ExtractMeta := do
  let provider ← (value.field? "provider").bind laxStr
  let model ← (value.field? "model").bind laxStr
  let schemaVersion ← (value.field? "schema_version").bind laxStr
  let attempts ← (value.field? "attempts").bind (laxInt pyd)
  let replayed ← (value.field? "replayed").elim (some false) (laxBool pyd)
  let fieldConfidence ← (value.field? "field_confidence").bind (floatDict pyd)
  let costUsd ← (value.field? "cost_usd").bind (laxFloat pyd)
  let latencyMs ← (value.field? "latency_ms").bind (laxFloat pyd)
  return { provider, model, schemaVersion, attempts, replayed, fieldConfidence, costUsd, latencyMs }

def ExtractResponse.ofLoaded (value : Loaded) : Option ExtractResponse := do
  let data ← (value.field? "data").bind anyDict
  let extractMeta ← (value.field? "meta").bind (ExtractMeta.ofLoaded pyd)
  return { data, extractMeta }

/-- `ExtractResponse.model_validate_json` -/
def validateResponse (text : PyStr) : Except PyStr ExtractResponse :=
  match pyd.loads text with
  | .error _ => .error (py "ValidationError")
  | .ok value =>
      (ExtractResponse.ofLoaded pyd value).elim (.error (py "ValidationError")) .ok

end Reading

/-! ## Round trip -/

mutual

theorem asJson?_ofJson : ∀ value : Json, asJson? (ofJson value) = some value
  | .null => rfl
  | .bool _ => rfl
  | .int _ => rfl
  | .float _ => rfl
  | .str _ => rfl
  | .arr items => by rw [ofJson, asJson?, asItems?_ofItems items, Option.map_some]
  | .obj fields => by rw [ofJson, asJson?, asFields?_ofFields fields, Option.map_some]

theorem asItems?_ofItems : ∀ items : List Json, asItems? (ofItems items) = some items
  | [] => rfl
  | item :: items => by
      rw [ofItems, asItems?, asJson?_ofJson item, asItems?_ofItems items]
      rfl

theorem asFields?_ofFields : ∀ fields : List (PyStr × Json),
    asFields? (ofFields fields) = some fields
  | [] => rfl
  | (name, value) :: fields => by
      rw [ofFields, asFields?, asJson?_ofJson value, asFields?_ofFields fields]
      rfl

end

section RoundTrip

variable {pyd : Pydantic}

theorem floatFields_ofFields (fields : List (PyStr × ℚ)) :
    floatFields pyd (ofFields (fields.map fun f => (f.1, Json.float f.2))) = some fields := by
  induction fields with
  | nil => rfl
  | cons f fields ih =>
    rw [List.map_cons, ofFields, floatFields, ih]
    rfl

theorem field?_of_mem {fields : List (PyStr × Json)} (hnodup : (fields.map Prod.fst).Nodup)
    {name : String} {value : Json} (hmem : (py name, value) ∈ fields) :
    (ofJson (.obj fields)).field? name = some (ofJson value) := by
  rw [field?_ofJson, get?_of_mem hnodup hmem]
  rfl

theorem nodup_metaKeys : [py "provider", py "model", py "schema_version", py "attempts",
    py "replayed", py "field_confidence", py "cost_usd", py "latency_ms"].Nodup := by decide

theorem ofLoaded_extractMeta (m : ExtractMeta) :
    ExtractMeta.ofLoaded pyd (ofJson m.toJson) = some m := by
  have hfield : ∀ {name : String} {value : Json}, (py name, value) ∈
      [(py "provider", Json.str m.provider), (py "model", .str m.model),
        (py "schema_version", .str m.schemaVersion), (py "attempts", .int m.attempts),
        (py "replayed", .bool m.replayed),
        (py "field_confidence", .obj (m.fieldConfidence.map fun f => (f.1, .float f.2))),
        (py "cost_usd", .float m.costUsd), (py "latency_ms", .float m.latencyMs)] →
      (ofJson m.toJson).field? name = some (ofJson value) := by
    intro name value hmem
    rw [ExtractMeta.toJson]
    refine field?_of_mem ?_ hmem
    exact nodup_metaKeys
  have hconfidence : floatDict pyd
      (ofJson (.obj (m.fieldConfidence.map fun f => (f.1, .float f.2)))) =
      some m.fieldConfidence := floatFields_ofFields m.fieldConfidence
  have hprovider := hfield (.head _)
  have hmodel := hfield (.tail _ (.head _))
  have hversion := hfield (.tail _ (.tail _ (.head _)))
  have hattempts := hfield (.tail _ (.tail _ (.tail _ (.head _))))
  have hreplayed := hfield (.tail _ (.tail _ (.tail _ (.tail _ (.head _)))))
  have hfields := hfield (.tail _ (.tail _ (.tail _ (.tail _ (.tail _ (.head _))))))
  have hcost := hfield (.tail _ (.tail _ (.tail _ (.tail _ (.tail _ (.tail _ (.head _)))))))
  have hlatency :=
    hfield (.tail _ (.tail _ (.tail _ (.tail _ (.tail _ (.tail _ (.tail _ (.head _))))))))
  simp only [ExtractMeta.ofLoaded, hprovider, hmodel, hversion, hattempts, hreplayed, hfields,
    hcost, hlatency, Option.bind_some, Option.elim_some, hconfidence]
  rfl

theorem nodup_responseKeys : [py "data", py "meta"].Nodup := by decide

/-- A response is read from the value of its own JSON. -/
theorem ofLoaded_extractResponse (r : ExtractResponse) :
    ExtractResponse.ofLoaded pyd (ofJson r.toJson) = some r := by
  have hfield : ∀ {name : String} {value : Json},
      (py name, value) ∈ [(py "data", Json.obj r.data), (py "meta", r.extractMeta.toJson)] →
      (ofJson r.toJson).field? name = some (ofJson value) := by
    intro name value hmem
    rw [ExtractResponse.toJson]
    refine field?_of_mem ?_ hmem
    exact nodup_responseKeys
  have hdata : anyDict (ofJson (.obj r.data)) = some r.data := asFields?_ofFields r.data
  have hfirst := hfield (.head _)
  have hsecond := hfield (.tail _ (.head _))
  simp only [ExtractResponse.ofLoaded, hfirst, hsecond, Option.bind_some, hdata,
    ofLoaded_extractMeta]
  rfl

theorem validateResponse_write (h : StrictJsonMode pyd) {layout : Layout}
    (hread : Readable layout pyd.number) {r : ExtractResponse} (hr : WellFormed r.toJson)
    (hdepth : depth r.toJson ≤ FOLLOWED_DEPTH) :
    validateResponse pyd (write layout r.toJson) = .ok r := by
  rw [validateResponse, h.loads_write hread hr hdepth]
  simp only [ofLoaded_extractResponse, Option.elim_some]

end RoundTrip

/-! ## Well-formed responses -/

theorem wellFormed_fieldConfidence {data : List (PyStr × Json)} (h : WellFormed (.obj data)) :
    WellFormed (.obj ((fieldConfidence data).map fun f => (f.1, .float f.2))) := by
  rw [WellFormed] at h ⊢
  refine ⟨?_, wellFormedFields_iff.mpr ?_⟩
  · have hnames : ((fieldConfidence data).map fun f => (f.1, Json.float f.2)).map Prod.fst =
        data.map Prod.fst := by simp [fieldConfidence, Function.comp_def]
    rw [hnames]
    exact h.1
  · intro f hf
    obtain ⟨g, hg, rfl⟩ := List.mem_map.mp hf
    obtain ⟨field, hfield, rfl⟩ := List.mem_map.mp hg
    have hdouble : IsDouble (if field.2.isNull then 0 else 1) := by
      split_ifs
      · exact isDouble_intCast (by norm_num : |(0 : ℤ)| < 2 ^ 53)
      · exact isDouble_intCast (by norm_num : |(1 : ℤ)| < 2 ^ 53)
    exact ⟨(wellFormedFields_iff.mp h.2 field hfield).1, hdouble⟩

theorem depth_extractResponse {r : ExtractResponse} {n : ℕ} (hdata : depth (.obj r.data) ≤ n)
    (hn : 2 ≤ n) : depth r.toJson ≤ n + 1 := by
  have hconfidence : depthFields
      (r.extractMeta.fieldConfidence.map fun f => (f.1, Json.float f.2)) ≤ 0 := by
    rw [depthFields_le_iff]
    intro f hf
    obtain ⟨g, -, rfl⟩ := List.mem_map.mp hf
    exact le_refl 0
  have hmeta : depth r.extractMeta.toJson ≤ 2 := by
    simp only [ExtractMeta.toJson, depth, depthFields]
    omega
  rw [ExtractResponse.toJson, depth, depthFields, depthFields, depthFields]
  omega

/-- What a response is made of can be written, so the response can. -/
theorem wellFormed_extractResponse {r : ExtractResponse} (hencodable : r.encodable = true)
    (hdata : WellFormed (.obj r.data))
    (hconfidence : WellFormed
      (.obj (r.extractMeta.fieldConfidence.map fun f => (f.1, .float f.2))))
    (hcost : IsDouble r.extractMeta.costUsd) (hlatency : IsDouble r.extractMeta.latencyMs) :
    WellFormed r.toJson := by
  simp only [ExtractResponse.encodable, ExtractResponse.toJson, ExtractMeta.toJson, Json.encodable,
    Json.encodableFields, Bool.and_eq_true] at hencodable
  obtain ⟨-, ⟨-, hprovider, hmodel, hversion, -⟩, -⟩ := hencodable
  rw [ExtractResponse.toJson, WellFormed]
  refine ⟨nodup_responseKeys, encodable_py _, hdata, encodable_py _, ?_, trivial⟩
  rw [ExtractMeta.toJson, WellFormed]
  exact ⟨nodup_metaKeys, encodable_py _, hprovider.2, encodable_py _, hmodel.2, encodable_py _,
    hversion.2, encodable_py _, trivial, encodable_py _, trivial, encodable_py _, hconfidence,
    encodable_py _, hcost, encodable_py _, hlatency, trivial⟩

theorem encodable_extractResponse {r : ExtractResponse} (hdata : WellFormed (.obj r.data))
    (hconfidence : WellFormed
      (.obj (r.extractMeta.fieldConfidence.map fun f => (f.1, .float f.2))))
    (hprovider : encodable r.extractMeta.provider = true)
    (hmodel : encodable r.extractMeta.model = true)
    (hversion : encodable r.extractMeta.schemaVersion = true) : r.encodable = true := by
  have hfields := encodable_of_wellFormed hdata
  have hconfidences := encodable_of_wellFormed hconfidence
  rw [Json.encodable] at hfields hconfidences
  simp only [ExtractResponse.encodable, ExtractResponse.toJson, ExtractMeta.toJson, Json.encodable,
    Json.encodableFields, encodable_py, hfields, hconfidences, hprovider, hmodel, hversion,
    Bool.and_self]

end ExtractApi
