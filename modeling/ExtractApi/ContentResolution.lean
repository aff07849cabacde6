import ExtractApi.ServiceState

/-!
# Request content (`api/content.py`)

`resolveContent` is the text the pipeline consumes: the request's text within the
cap, or the text PyMuPDF finds in a base64 PDF.  Opening the bytes is a parameter:
`PyMuPdf` gives, for every byte string, the exception `pymupdf.open` raises or a
document whose page count and whose pages may each raise.
-/

namespace ExtractApi

open PythonText JsonValue

def MAX_PDF_BYTES : ℕ := 10 * 1024 * 1024
def MAX_PDF_PAGES : ℕ := 1000
def MAX_TEXT_CHARS : ℕ := 4 * 1024 * 1024

/-- An opened document.  An error is the class name of the exception that
    `doc.page_count`, the page iterator or `page.get_text()` raises there. -/
structure PdfDocument where
  pageCount : Except PyStr ℕ
  pages : List (Except PyStr PyStr)

/-- `pymupdf.open(stream=raw, filetype="pdf")` -/
abbrev PyMuPdf := List Byte → Except PyStr PdfDocument

/-- A `validation_failed` with the given detail. -/
def invalidContent (detail : String) : ExtractError where
  code := .validationFailed
  detail := py detail

/-! ## Base64 -/

/-- A character's six bits in the standard alphabet. -/
def base64Value (c : CodePoint) : Option ℕ :=
  if 65 ≤ c.val ∧ c.val ≤ 90 then some (c.val - 65)
  else if 97 ≤ c.val ∧ c.val ≤ 122 then some (c.val - 71)
  else if 48 ≤ c.val ∧ c.val ≤ 57 then some (c.val + 4)
  else if c.val = 43 then some 62
  else if c.val = 47 then some 63
  else none

def toByte (n : ℕ) : Byte := ⟨n % 256, Nat.mod_lt _ (by decide)⟩

/-- `base64.b64decode(s, validate=True)`: whole quanta of the alphabet, padding only in
    the last one and nothing after it.  `none` is the `binascii.Error`.  The padding that
    follows a quantum without any is skipped, however long. -/
def b64decode : PyStr → Option (List Byte)
  | [] => some []
  | a :: b :: c :: d :: rest =>
      match base64Value a, base64Value b, base64Value c, base64Value d with
      | some a, some b, some c, some d =>
          if rest.all (fun e => decide (e.val = 61)) then
            some [toByte (a * 4 + b / 16), toByte (b * 16 + c / 4), toByte (c * 64 + d)]
          else
            (b64decode rest).map fun bytes =>
              toByte (a * 4 + b / 16) :: toByte (b * 16 + c / 4) :: toByte (c * 64 + d) :: bytes
      | some a, some b, some c, none =>
          if d.val = 61 ∧ rest = [] then
            some [toByte (a * 4 + b / 16), toByte (b * 16 + c / 4)]
          else none
      | some a, some b, none, none =>
          if c.val = 61 ∧ d.val = 61 ∧ rest = [] then some [toByte (a * 4 + b / 16)] else none
      | _, _, _, _ => none
  | _ => none

/-! ## PDF text -/

/-- The page loop: `parts` are the texts so far and `total` the length of their join. -/
def pageLoop : List (Except PyStr PyStr) → List PyStr → ℕ → Except PyExc (List PyStr)
  | [], parts, _ => .ok parts
  | .error className :: _, _, _ => .error (.other className)
  | .ok chunk :: pages, parts, total =>
      let total := total + chunk.length + (if parts = [] then 0 else 1)
      if MAX_TEXT_CHARS < total then
        .error (.extractError (invalidContent
          "PDF extracted text exceeds the 4194304-char limit"))
      else pageLoop pages (parts ++ [chunk]) total

/-- The body of the `try` in `_pdf_text`. -/
def readPdf (open_ : PyMuPdf) (raw : List Byte) : Except PyExc PyStr :=
  match open_ raw with
  | .error className => .error (.other className)
  | .ok doc =>
      match doc.pageCount with
      | .error className => .error (.other className)
      | .ok count =>
          if MAX_PDF_PAGES < count then
            .error (.extractError (invalidContent "PDF has more than 1000 pages"))
          else
            (pageLoop doc.pages [] 0).map fun parts => List.intercalate (py "\n") parts

/-- `_pdf_text`: the caps' own errors pass, any other exception is an unreadable PDF. -/
def pdfText (open_ : PyMuPdf) (raw : List Byte) : Except ExtractError PyStr :=
  match readPdf open_ raw with
  | .ok text => .ok text
  | .error (.extractError e) => .error e
  | .error _ => .error (invalidContent "content is not a readable PDF")

/-- `extract_pdf_text` -/
def extractPdfText (open_ : PyMuPdf) (contentB64 : PyStr) : Except ExtractError PyStr :=
  match b64decode (joinSplit contentB64) with
  | none => .error (invalidContent "content is not valid base64 (pdf_base64)")
  | some raw =>
      if MAX_PDF_BYTES < raw.length then
        .error (invalidContent "PDF exceeds the 10 MiB limit")
      else
        match pdfText open_ raw with
        | .error e => .error e
        | .ok text =>
            if strip text = [] then
              .error (invalidContent
                "PDF has no extractable text (scanned/image PDFs need OCR, a non-goal)")
            else .ok text

/-- `resolve_content` -/
def resolveContent (open_ : PyMuPdf) (request : ExtractRequest) : Except ExtractError PyStr :=
  match request.contentFormat with
  | .text =>
      if MAX_TEXT_CHARS < request.content.length then
        .error (invalidContent "text content exceeds the 4194304-char limit")
      else .ok request.content
  | .pdfBase64 => extractPdfText open_ request.content

end ExtractApi
