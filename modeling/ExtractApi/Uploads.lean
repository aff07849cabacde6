import ExtractApi.BodyCapContract
import ExtractApi.ExtractRequests
import ExtractApi.PdfExtraction
import ExtractApi.PostRoute
import ExtractApi.Startup
import ExtractApi.StrictValues

/-!
# What a client may send

A PDF is sent as base64.  `b64decode` accepts the padded texts over the alphabet and no others
(after whole quanta it skips any further padding), undoes `b64encode`, and `extract_pdf_text`
sees nothing of a content but the bytes it stands for, however its lines are wrapped.

The default cap on bodies is derived from the caps on contents: `default_cap_admits` says that
no body whose content is within them is refused for its size, whichever JSON encoder wrote it
that leaves the printable ASCII characters as they are.
-/

namespace ExtractApi

open PythonText JsonValue JsonText

/-! ## Base64 -/

/-- The character of six bits. -/
def base64Char (n : Fin 64) : CodePoint :=
  ⟨if n.val < 26 then n.val + 65 else if n.val < 52 then n.val + 71
    else if n.val < 62 then n.val - 4 else if n.val = 62 then 43 else 47, by split_ifs <;> omega⟩

/-- The character of the last six bits. -/
def base64Digit (n : ℕ) : CodePoint := base64Char ⟨n % 64, Nat.mod_lt _ (by decide)⟩

/-- `base64.b64encode(raw).decode()` -/
def b64encode : List Byte → PyStr
  | [] => []
  | [a] => [base64Digit (a.val / 4), base64Digit (a.val * 16), 61, 61]
  | [a, b] =>
      [base64Digit (a.val / 4), base64Digit (a.val * 16 + b.val / 16), base64Digit (b.val * 4), 61]
  | a :: b :: c :: rest =>
      base64Digit (a.val / 4) :: base64Digit (a.val * 16 + b.val / 16) ::
        base64Digit (b.val * 4 + c.val / 64) :: base64Digit c.val :: b64encode rest

theorem length_b64encode (raw : List Byte) :
    (b64encode raw).length = 4 * ((raw.length + 2) / 3) := by
  induction raw using b64encode.induct with
  | case1 => rfl
  | case2 a => simp [b64encode]
  | case3 a b => simp [b64encode]
  | case4 a b c rest ih =>
    simp only [b64encode, List.length_cons, ih]
    omega

theorem isSpace_base64Digit (n : ℕ) : isSpace (base64Digit n) = false := by
  have hall : ∀ k : Fin 64, isSpace (base64Char k) = false := by decide
  exact hall _

theorem joinSplit_b64encode (raw : List Byte) : joinSplit (b64encode raw) = b64encode raw := by
  have hpad : isSpace 61 = false := by decide
  rw [joinSplit, List.filter_eq_self]
  induction raw using b64encode.induct with
  | case1 => simp [b64encode]
  | case2 a => simp [b64encode, isSpace_base64Digit, hpad]
  | case3 a b => simp [b64encode, isSpace_base64Digit, hpad]
  | case4 a b c rest ih => simpa [b64encode, isSpace_base64Digit] using ih

/-- The number of bytes of a text. -/
def size (s : PyStr) : ℕ := (utf8SurrogatePass s).length

@[simp] theorem size_nil : size [] = 0 := rfl

@[simp] theorem size_append (s t : PyStr) : size (s ++ t) = size s + size t := by
  simp [size, utf8SurrogatePass]

theorem size_flatMap_le {f : CodePoint → PyStr} {n : ℕ} {s : PyStr}
    (h : ∀ c ∈ s, size (f c) ≤ n) : size (s.flatMap f) ≤ n * s.length := by
  induction s with
  | nil => simp
  | cons c s ih =>
    rw [List.forall_mem_cons] at h
    have hs := ih h.2
    rw [List.flatMap_cons, size_append, List.length_cons, Nat.mul_succ]
    omega

/-- A printable ASCII character that JSON has no need to escape. -/
def IsPlain (c : CodePoint) : Prop :=
  32 ≤ c.val ∧ c.val ≤ 126 ∧ c.val ≠ 34 ∧ c.val ≠ 92

instance (c : CodePoint) : Decidable (IsPlain c) := inferInstanceAs (Decidable (_ ∧ _))

theorem size_cons_of_ascii {c : CodePoint} (h : c.val < 0x80) (s : PyStr) :
    size (c :: s) = size s + 1 := by
  simp [size, utf8SurrogatePass, utf8Unit, h]

theorem IsPlain.size {c : CodePoint} (h : IsPlain c) : size [c] = 1 :=
  size_cons_of_ascii (lt_of_le_of_lt h.2.1 (by decide)) []

/-- How a JSON encoder writes a request: plain characters as they are, and one blank at most
    after a comma or a colon. -/
structure WritesRequests (layout : Layout) : Prop where
  plain : ∀ c, IsPlain c → layout.unit c = [c]
  gap : size layout.gap ≤ 1

theorem shortEscape_of_plain {c : CodePoint} (h : IsPlain c) : shortEscape c = none := by
  obtain ⟨hlow, -, hquote, hbackslash⟩ := h
  rw [shortEscape]
  split_ifs <;> first | rfl | omega

theorem compactUnit_of_plain {c : CodePoint} (h : IsPlain c) : compactUnit c = [c] := by
  have hlow : ¬ c.val < 32 := not_lt.mpr h.1
  simp only [compactUnit, shortEscape_of_plain h, dif_neg hlow]

theorem size_shortEscape {c : CodePoint} {escape : PyStr} (h : shortEscape c = some escape) :
    size escape = 2 := by
  rw [shortEscape] at h
  split_ifs at h <;> cases h <;> rfl

theorem size_hexDigit (n : Fin 16) : size [hexDigit n] = 1 := by
  revert n
  decide

theorem size_unicodeEscape (n : Fin 65536) : size (unicodeEscape n) = 6 := by
  have hlead : size (py "\\u") = 2 := rfl
  have hfour : ∀ a b c d : CodePoint, [a, b, c, d] = [a] ++ [b] ++ [c] ++ [d] := fun _ _ _ _ => rfl
  rw [unicodeEscape, size_append, hlead, hfour]
  simp only [size_append, size_hexDigit]

theorem size_singleton_le (c : CodePoint) : size [c] ≤ 4 := by
  simp only [size, utf8SurrogatePass, List.flatMap_singleton, utf8Unit]
  split_ifs <;> simp

/-- The compact encoder needs six bytes at most for a character. -/
theorem size_compactUnit_le (c : CodePoint) : size (compactUnit c) ≤ 6 := by
  rw [compactUnit]
  split
  · rw [size_shortEscape ‹_›]
    decide
  · split_ifs
    · exact (size_unicodeEscape _).le
    · exact (size_singleton_le c).trans (by decide)

section Written

variable {layout : Layout}

theorem size_flatMap_of_plain (hlayout : WritesRequests layout) {s : PyStr}
    (h : ∀ c ∈ s, IsPlain c) : size (s.flatMap layout.unit) = s.length := by
  induction s with
  | nil => rfl
  | cons c s ih =>
    rw [List.forall_mem_cons] at h
    rw [List.flatMap_cons, size_append, hlayout.plain c h.1, h.1.size, ih h.2, List.length_cons]
    omega

theorem size_quoted_of_plain (hlayout : WritesRequests layout) {s : PyStr}
    (h : s.all (fun c => decide (IsPlain c)) = true) :
    size (quoted layout s) = s.length + 2 := by
  have hplain : ∀ c ∈ s, IsPlain c := fun c hc => of_decide_eq_true (List.all_eq_true.mp h c hc)
  rw [quoted, size_cons_of_ascii (by decide), size_append, size_flatMap_of_plain hlayout hplain,
    size_cons_of_ascii (by decide), size_nil]

end Written

/-- The object that a client sends. -/
def requestJson (request : ExtractRequest) : Json :=
  .obj [(py "doc_type", .str request.docType.value),
    (py "schema_version", .str request.schemaVersion), (py "content", .str request.content),
    (py "content_format", .str request.contentFormat.value),
    (py "provider", .str request.provider.value)]

theorem schemaVersion_of_resolve {M : Type} {libs : Libraries M} {docType version : PyStr}
    {cls : ModelClass} (h : resolve libs docType version = .ok cls) : version = py "v1" := by
  rw [resolve] at h
  rcases hfind : REGISTRY.find? (fun entry => decide (entry.1 = (docType, version))) with _ | entry
  · rw [hfind] at h
    cases h
  · have hentry : entry.1 = (docType, version) := by simpa using List.find?_some hfind
    have hversions : ∀ entry ∈ REGISTRY, entry.1.2 = py "v1" := by decide
    rw [← hversions entry (List.mem_of_find?_eq_some hfind), hentry]

/-- What stands around the content. -/
theorem size_requestJson_le {layout : Layout} (hlayout : WritesRequests layout)
    {request : ExtractRequest} (hversion : request.schemaVersion = py "v1") :
    size (write layout (requestJson request)) ≤
      size (request.content.flatMap layout.unit) + 200 := by
  have hname : ∀ {s : PyStr}, s.all (fun c => decide (IsPlain c)) = true →
      size (quoted layout s) = s.length + 2 := size_quoted_of_plain hlayout
  have hdocType : size (quoted layout request.docType.value) ≤ 16 := by
    cases request.docType
    · exact (hname (by decide)).le.trans (by decide)
    · exact (hname (by decide)).le.trans (by decide)
  have hformat : size (quoted layout request.contentFormat.value) ≤ 12 := by
    cases request.contentFormat
    · exact (hname (by decide)).le.trans (by decide)
    · exact (hname (by decide)).le.trans (by decide)
  have hprovider : size (quoted layout request.provider.value) ≤ 11 := by
    cases request.provider
    · exact (hname (by decide)).le.trans (by decide)
    · exact (hname (by decide)).le.trans (by decide)
    · exact (hname (by decide)).le.trans (by decide)
  have hcontent : size (quoted layout request.content) =
      size (request.content.flatMap layout.unit) + 2 := by
    rw [quoted, size_cons_of_ascii (by decide), size_append, size_cons_of_ascii (by decide),
      size_nil]
  have hgap := hlayout.gap
  have hnames : size (quoted layout (py "doc_type")) = 10 ∧
      size (quoted layout (py "schema_version")) = 16 ∧ size (quoted layout (py "content")) = 9 ∧
      size (quoted layout (py "content_format")) = 16 ∧ size (quoted layout (py "provider")) = 10 ∧
      size (quoted layout (py "v1")) = 4 :=
    ⟨hname (by decide), hname (by decide), hname (by decide), hname (by decide),
      hname (by decide), hname (by decide)⟩
  simp only [requestJson, write, writeFields, hversion]
  simp (disch := decide) only [size_cons_of_ascii, size_append, size_nil, hnames, hcontent]
  omega

/-! ## What the default cap admits -/

/-- The content is within its caps: a text, or the base64 of a PDF. -/
inductive WithinCaps (request : ExtractRequest) : Prop where
  | text (hformat : request.contentFormat = .text)
      (hlength : request.content.length ≤ MAX_TEXT_CHARS) : WithinCaps request
  | pdf (raw : List Byte) (hformat : request.contentFormat = .pdfBase64)
      (hcontent : joinSplit request.content = b64encode raw)
      (hraw : raw.length ≤ MAX_PDF_BYTES) : WithinCaps request

/-- The base64 of a PDF has one character of whitespace at most for five others, and two more.
    MIME has two for 76. -/
def IsCompact (request : ExtractRequest) : Prop :=
  request.contentFormat = .pdfBase64 →
    5 * request.content.length ≤ 6 * (joinSplit request.content).length + 10

theorem plain_of_mem_b64encode {raw : List Byte} {c : CodePoint} (h : c ∈ b64encode raw) :
    IsPlain c := by
  have hdigit : ∀ n, IsPlain (base64Digit n) := by
    have hall : ∀ k : Fin 64, IsPlain (base64Char k) := by decide
    exact fun n => hall _
  have hpad : IsPlain 61 := by decide
  induction raw using b64encode.induct with
  | case1 => cases h
  | case2 a =>
    simp only [b64encode, List.mem_cons, List.not_mem_nil, or_false] at h
    rcases h with rfl | rfl | rfl | rfl
    all_goals first | exact hdigit _ | exact hpad
  | case3 a b =>
    simp only [b64encode, List.mem_cons, List.not_mem_nil, or_false] at h
    rcases h with rfl | rfl | rfl | rfl
    all_goals first | exact hdigit _ | exact hpad
  | case4 a b c rest ih =>
    simp only [b64encode, List.mem_cons] at h
    rcases h with rfl | rfl | rfl | rfl | h
    · exact hdigit _
    · exact hdigit _
    · exact hdigit _
    · exact hdigit _
    · exact ih h

/-- The characters between the whitespace cost one byte each, the others six at most. -/
theorem size_wrapped_le {layout : Layout} (hlayout : WritesRequests layout) {s : PyStr}
    (hplain : ∀ c ∈ joinSplit s, IsPlain c) (hsmall : ∀ c ∈ s, size (layout.unit c) ≤ 6) :
    size (s.flatMap layout.unit) + 5 * (joinSplit s).length ≤ 6 * s.length := by
  induction s with
  | nil => simp [joinSplit]
  | cons c s ih =>
    rw [List.forall_mem_cons] at hsmall
    rw [List.flatMap_cons, size_append, List.length_cons]
    by_cases hspace : isSpace c = true
    · have hjoin : joinSplit (c :: s) = joinSplit s := by simp [joinSplit, hspace]
      rw [hjoin] at hplain ⊢
      have hrest := ih hplain hsmall.2
      omega
    · have hjoin : joinSplit (c :: s) = c :: joinSplit s := by simp [joinSplit, hspace]
      rw [hjoin] at hplain ⊢
      rw [List.forall_mem_cons] at hplain
      have hrest := ih hplain.2 hsmall.2
      rw [hlayout.plain c hplain.1, hplain.1.size, List.length_cons]
      omega

theorem size_content_le {layout : Layout} (hlayout : WritesRequests layout)
    {request : ExtractRequest} (hsmall : ∀ c ∈ request.content, size (layout.unit c) ≤ 6)
    (hcaps : WithinCaps request) (hcompact : IsCompact request) :
    size (request.content.flatMap layout.unit) + 200 ≤ Startup.DEFAULT_MAX_BODY_BYTES := by
  rw [Startup.DEFAULT_MAX_BODY_BYTES]
  rcases hcaps with ⟨-, hlength⟩ | ⟨raw, hpdf, hcontent, hraw⟩
  · have htext := size_flatMap_le hsmall
    rw [MAX_TEXT_CHARS] at hlength
    omega
  · have hwrapped := size_wrapped_le hlayout (s := request.content)
      (fun c hc => plain_of_mem_b64encode (hcontent ▸ hc)) hsmall
    have hlines := hcompact hpdf
    rw [hcontent, length_b64encode] at hwrapped hlines
    rw [MAX_PDF_BYTES] at hraw
    omega

/-- **The default cap on bodies refuses nothing that the caps on contents admit.**  A request
    for a registered schema, written by any JSON encoder that leaves printable ASCII as it is and
    spends six bytes at most on any character, with a content within its caps (the base64 of a
    PDF has whitespace for a fifth of it at most): under the default cap, or a greater one, an
    authenticated post of it in any chunks reaches the endpoint, where a text is resolved as it
    is and a PDF from its own bytes. -/
theorem default_cap_admits {S M V : Type} (process : Process S M V) {scope : Scope}
    (hpost : IsExtractPost scope)
    (hkey : presentsKey process.libs.sha256 process.environment.keyHashes scope = true)
    (hcap : Startup.DEFAULT_MAX_BODY_BYTES ≤ process.environment.maxBodyBytes)
    {layout : Layout} (hlayout : WritesRequests layout) {request : ExtractRequest}
    {cls : ModelClass}
    (hschema : resolve process.libs request.docType.value request.schemaVersion = .ok cls)
    (hsmall : ∀ c ∈ request.content, size (layout.unit c) ≤ 6) (hcaps : WithinCaps request)
    (hcompact : IsCompact request) {chunk : List Byte} {chunks : List (List Byte)}
    (hbody : chunk ++ chunks.flatten = utf8SurrogatePass (write layout (requestJson request)))
    (hdeclared : ∀ value, (bytes "content-length", value) ∈ scope.headers →
      isDigits value = true → denoted value = (chunk ++ chunks.flatten).length) :
    Reaches process scope (chunkMessages chunk chunks) (chunk ++ chunks.flatten) ∧
    (request.contentFormat = .text →
      ∀ open_, resolveContent open_ request = .ok request.content) ∧
    (request.contentFormat = .pdfBase64 → ∃ raw, raw.length ≤ MAX_PDF_BYTES ∧
      joinSplit request.content = b64encode raw ∧
      ∀ open_, resolveContent open_ request = extractPdfText open_ (b64encode raw)) := by
  -- the body is at most its content, escaped, and the fixed fields of a request
  have hfits : (chunk ++ chunks.flatten).length ≤ process.environment.maxBodyBytes := by
    calc (chunk ++ chunks.flatten).length
        = size (write layout (requestJson request)) := by rw [hbody, size]
      _ ≤ size (request.content.flatMap layout.unit) + 200 :=
          size_requestJson_le hlayout (schemaVersion_of_resolve hschema)
      _ ≤ Startup.DEFAULT_MAX_BODY_BYTES := size_content_le hlayout hsmall hcaps hcompact
      _ ≤ process.environment.maxBodyBytes := hcap
  have haccepted : declaresOver process.environment.maxBodyBytes scope = false := by
    rw [← Bool.not_eq_true, declaresOver_iff]
    rintro ⟨value, hmem, hdigits, hover⟩
    rw [hdeclared value hmem hdigits] at hover
    omega
  have hextract : PostsExtract process scope :=
    ⟨hpost.http, hpost.method, hpost.path, hkey, haccepted⟩
  refine ⟨hextract.reaches hfits, ?_, ?_⟩
  · intro htext open_
    rcases hcaps with ⟨-, hlength⟩ | ⟨raw, hpdf, -⟩
    · rw [resolveContent, htext]
      exact if_neg (not_lt.mpr hlength)
    · cases htext.symm.trans hpdf
  · intro hpdf
    rcases hcaps with ⟨htext, -⟩ | ⟨raw, -, hcontent, hraw⟩
    · cases htext.symm.trans hpdf
    · refine ⟨raw, hraw, hcontent, ?_⟩
      intro open_
      rw [resolveContent, hpdf]
      simp only [extractPdfText, hcontent, joinSplit_b64encode]

/-! ### A PDF in two lines -/

/-- The encoding of six bytes, wrapped. -/
def wrappedRequest : ExtractRequest where
  docType := .invoice
  content := py "JVBE\r\nRi0x\n"
  contentFormat := .pdfBase64

def wrappedBody : List Byte :=
  utf8SurrogatePass (write samplePydantic.renderLayout (requestJson wrappedRequest))

theorem default_cap_admits_wrapped :
    Reaches (sampleProcess : Process Unit Unit Unit) (sampleScope "POST" "/v1/extract" [])
      [.httpRequest wrappedBody false] (wrappedBody ++ [].flatten) ∧
    ∃ raw, raw.length ≤ MAX_PDF_BYTES ∧ joinSplit wrappedRequest.content = b64encode raw ∧
      ∀ open_, resolveContent open_ wrappedRequest = extractPdfText open_ (b64encode raw) := by
  have hpost : IsExtractPost (sampleScope "POST" "/v1/extract" []) :=
    ⟨rfl, rfl, by decide +kernel⟩
  have hkey : presentsKey (sampleProcess : Process Unit Unit Unit).libs.sha256
      (sampleProcess : Process Unit Unit Unit).environment.keyHashes
      (sampleScope "POST" "/v1/extract" []) = true := by decide +kernel
  have hlayout : WritesRequests samplePydantic.renderLayout :=
    ⟨fun _ => compactUnit_of_plain, by decide⟩
  have hschema : resolve (sampleProcess : Process Unit Unit Unit).libs
      wrappedRequest.docType.value wrappedRequest.schemaVersion = .ok .InvoiceV1 := rfl
  have hcaps : WithinCaps wrappedRequest :=
    .pdf [37, 80, 68, 70, 45, 49] rfl (by decide) (by decide)
  have hcompact : IsCompact wrappedRequest := fun _ => by decide
  have hbody : wrappedBody ++ [].flatten = wrappedBody := List.append_nil _
  have hadmitted := default_cap_admits (sampleProcess : Process Unit Unit Unit) hpost hkey
    (le_refl _) hlayout hschema (fun c _ => size_compactUnit_le c) hcaps hcompact hbody
    (by simp [sampleScope]; decide)
  exact ⟨hadmitted.1, hadmitted.2.2 rfl⟩

end ExtractApi
