import ExtractApi.JsonValue

/-!
# Request and response models (`api/models.py`)

`ExtractRequest` is what request validation hands the endpoint: the three
`Literal` fields are enumerations and the two free strings are any Python `str`,
one that holds a lone surrogate included.  `model_dump_json` of a request is the
text that the idempotency layer hashes, so it is written out and proved injective.
-/

namespace ExtractApi

open PythonText JsonValue

inductive DocType where
  | invoice
  | ukJobPosting
deriving DecidableEq, Repr

inductive ContentFormat where
  | text
  | pdfBase64
deriving DecidableEq, Repr

/-- The request's `provider` field. -/
inductive Provider where
  | openai
  | anthropic
  | default
deriving DecidableEq, Repr

def DocType.value : DocType → PyStr
  | .invoice => py "invoice"
  | .ukJobPosting => py "uk_job_posting"

def ContentFormat.value : ContentFormat → PyStr
  | .text => py "text"
  | .pdfBase64 => py "pdf_base64"

def Provider.value : Provider → PyStr
  | .openai => py "openai"
  | .anthropic => py "anthropic"
  | .default => py "default"

structure ExtractRequest where
  docType : DocType
  schemaVersion : PyStr := py "v1"
  content : PyStr
  contentFormat : ContentFormat := .text
  provider : Provider := .default
deriving DecidableEq

structure ExtractMeta where
  provider : PyStr
  model : PyStr
  schemaVersion : PyStr
  attempts : ℤ
  replayed : Bool := false
  fieldConfidence : List (PyStr × ℚ)
  costUsd : ℚ
  latencyMs : ℚ

structure ExtractResponse where
  data : List (PyStr × Json)
  extractMeta : ExtractMeta

/-- `meta.model_dump(mode="json")` -/
def ExtractMeta.toJson (m : ExtractMeta) : Json :=
  .obj [(py "provider", .str m.provider), (py "model", .str m.model),
    (py "schema_version", .str m.schemaVersion), (py "attempts", .int m.attempts),
    (py "replayed", .bool m.replayed),
    (py "field_confidence", .obj (m.fieldConfidence.map fun f => (f.1, .float f.2))),
    (py "cost_usd", .float m.costUsd), (py "latency_ms", .float m.latencyMs)]

/-- `response.model_dump(mode="json")` -/
def ExtractResponse.toJson (r : ExtractResponse) : Json :=
  .obj [(py "data", .obj r.data), (py "meta", r.extractMeta.toJson)]

/-! ## The canonical text of a request -/

/-- Every string of the request can be written as UTF-8.  The `Literal` fields always can. -/
def ExtractRequest.encodable (r : ExtractRequest) : Bool :=
  PythonText.encodable r.schemaVersion && PythonText.encodable r.content

/-- The text of `request.model_dump_json()`, fields in declaration order. -/
def ExtractRequest.jsonText (r : ExtractRequest) : PyStr :=
  py "\x7b\"doc_type\":" ++ (jsonString r.docType.value ++
    (py ",\"schema_version\":" ++ (jsonString r.schemaVersion ++
      (py ",\"content\":" ++ (jsonString r.content ++
        (py ",\"content_format\":" ++ (jsonString r.contentFormat.value ++
          (py ",\"provider\":" ++ (jsonString r.provider.value ++ py "\x7d")))))))))

/-- The canonical text can be written as UTF-8 exactly when the request's strings can. -/
theorem ExtractRequest.encodable_jsonText (r : ExtractRequest) :
    PythonText.encodable r.jsonText = r.encodable := by
  have hdoc : PythonText.encodable r.docType.value = true := by cases r.docType <;> decide
  have hformat : PythonText.encodable r.contentFormat.value = true := by
    cases r.contentFormat <;> decide
  have hprovider : PythonText.encodable r.provider.value = true := by
    cases r.provider <;> decide
  have hkeys : ∀ key ∈ [py "\x7b\"doc_type\":", py ",\"schema_version\":", py ",\"content\":",
      py ",\"content_format\":", py ",\"provider\":", py "\x7d"],
      PythonText.encodable key = true := by decide
  simp only [List.forall_mem_cons, List.not_mem_nil, false_implies, implies_true, and_true]
    at hkeys
  simp only [ExtractRequest.jsonText, encodable_append, encodable_jsonString, hkeys, hdoc, hformat,
    hprovider, Bool.true_and, Bool.and_true, ExtractRequest.encodable]

theorem DocType.value_injective : Function.Injective DocType.value := by
  intro a b
  cases a <;> cases b <;> simp [DocType.value] <;> decide

theorem ContentFormat.value_injective : Function.Injective ContentFormat.value := by
  intro a b
  cases a <;> cases b <;> simp [ContentFormat.value] <;> decide

theorem Provider.value_injective : Function.Injective Provider.value := by
  intro a b
  cases a <;> cases b <;> simp [Provider.value] <;> decide

theorem ExtractRequest.jsonText_injective : Function.Injective ExtractRequest.jsonText := by
  intro r s h
  unfold ExtractRequest.jsonText at h
  obtain ⟨hdoc, h⟩ := jsonString_append_inj (List.append_cancel_left h)
  obtain ⟨hversion, h⟩ := jsonString_append_inj (List.append_cancel_left h)
  obtain ⟨hcontent, h⟩ := jsonString_append_inj (List.append_cancel_left h)
  obtain ⟨hformat, h⟩ := jsonString_append_inj (List.append_cancel_left h)
  obtain ⟨hprovider, -⟩ := jsonString_append_inj (List.append_cancel_left h)
  cases r
  cases s
  simp only [ExtractRequest.mk.injEq]
  exact ⟨DocType.value_injective hdoc, hversion, hcontent,
    ContentFormat.value_injective hformat, Provider.value_injective hprovider⟩

end ExtractApi
