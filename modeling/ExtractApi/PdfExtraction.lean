import ExtractApi.ContentResolution
import ExtractApi.RaisingProgram

/-!
# The text of a PDF

`extract_pdf_text` against the two caps.  The loop's running total is the length of the
text that `"\n".join(parts)` would build there, separators around empty pages included, so
the cap on the total is the cap on the text.

How far the loop gets is a question about its calls: `readPages` is the loop with each
`page.get_text()` counted.
-/

namespace ExtractApi

open PythonText RaisingProgram

/-! ## The joined text -/

/-- `"\n".join(texts)` -/
abbrev joined (texts : List PyStr) : PyStr := List.intercalate (py "\n") texts

theorem length_joined (texts : List PyStr) :
    (joined texts).length = (texts.map List.length).sum + (texts.length - 1) := by
  have hnewline : (py "\n").length = 1 := rfl
  induction texts with
  | nil => rfl
  | cons text texts ih =>
    rcases texts with _ | ⟨next, texts⟩
    · simp [joined]
    · rw [joined, List.intercalate_cons_cons, List.length_append, List.length_append, hnewline]
      rw [joined] at ih
      rw [ih]
      simp only [List.map_cons, List.sum_cons, List.length_cons]
      omega

theorem length_joined_append_singleton (parts : List PyStr) (chunk : PyStr) :
    (joined (parts ++ [chunk])).length =
      (joined parts).length + chunk.length + (if parts = [] then 0 else 1) := by
  rw [length_joined, length_joined, List.map_append, List.sum_append, List.length_append]
  rcases parts with _ | ⟨part, parts⟩
  · simp
  · simp only [List.map_cons, List.map_nil, List.sum_cons, List.sum_nil, List.length_cons,
      List.length_nil, reduceCtorEq, if_false]
    omega

theorem length_joined_le_append (parts texts : List PyStr) :
    (joined parts).length ≤ (joined (parts ++ texts)).length := by
  rw [length_joined, length_joined, List.map_append, List.sum_append, List.length_append]
  omega

/-! ## The loop -/

/-- Every page has a text. -/
def Texts (pages : List (Except PyStr PyStr)) (texts : List PyStr) : Prop :=
  pages = texts.map Except.ok

theorem texts_nil_iff {texts : List PyStr} : Texts [] texts ↔ texts = [] := by
  unfold Texts
  rw [eq_comm, List.map_eq_nil_iff]

theorem texts_cons_iff {page : Except PyStr PyStr} {pages : List (Except PyStr PyStr)}
    {texts : List PyStr} :
    Texts (page :: pages) texts ↔
      ∃ chunk rest, page = .ok chunk ∧ Texts pages rest ∧ texts = chunk :: rest := by
  unfold Texts
  rcases texts with _ | ⟨chunk, rest⟩
  · simp
  · simp

theorem Texts.unique {pages : List (Except PyStr PyStr)} {texts texts' : List PyStr}
    (h : Texts pages texts) (h' : Texts pages texts') : texts = texts' := by
  unfold Texts at h h'
  rw [h] at h'
  exact List.map_injective_iff.mpr (fun _ _ => Except.ok.inj) h'

/-- **The loop returns the texts of all pages or stops**, from any parts whose joined length
    is the running total. -/
theorem pageLoop_eq_ok_iff (pages : List (Except PyStr PyStr)) :
    ∀ (parts : List PyStr) (total : ℕ) (parts' : List PyStr), total = (joined parts).length →
      total ≤ MAX_TEXT_CHARS →
      (pageLoop pages parts total = .ok parts' ↔
        ∃ texts, Texts pages texts ∧ parts' = parts ++ texts ∧
          (joined parts').length ≤ MAX_TEXT_CHARS) := by
  induction pages with
  | nil =>
    intro parts total parts' htotal hcap
    simp only [pageLoop, Except.ok.injEq, texts_nil_iff]
    constructor
    · rintro rfl
      exact ⟨[], rfl, (List.append_nil parts).symm, htotal ▸ hcap⟩
    · rintro ⟨_, rfl, hparts, -⟩
      rw [hparts, List.append_nil]
  | cons page pages ih =>
    intro parts total parts' htotal hcap
    rcases page with className | chunk
    · apply iff_of_false
      · intro h
        cases h
      · rintro ⟨texts, htexts, -⟩
        obtain ⟨chunk, rest, hpage, -⟩ := texts_cons_iff.mp htexts
        cases hpage
    -- `total` stays the length of the join, so the test of the loop is the cap itself
    · have hnext : total + chunk.length + (if parts = [] then 0 else 1) =
          (joined (parts ++ [chunk])).length := by
        rw [length_joined_append_singleton, htotal]
      unfold pageLoop
      simp only [hnext]
      split_ifs with hover
      · apply iff_of_false
        · intro h
          cases h
        · rintro ⟨texts, htexts, rfl, hlength⟩
          obtain ⟨chunk', rest, hpage, -, rfl⟩ := texts_cons_iff.mp htexts
          cases hpage
          have hprefix := length_joined_le_append (parts ++ [chunk]) rest
          rw [List.append_assoc, List.singleton_append] at hprefix
          omega
      · rw [ih _ _ _ rfl (by omega)]
        constructor
        · rintro ⟨rest, hrest, rfl, hlength⟩
          refine ⟨chunk :: rest, texts_cons_iff.mpr ⟨chunk, rest, rfl, hrest, rfl⟩, ?_, hlength⟩
          rw [List.append_assoc, List.singleton_append]
        · rintro ⟨texts, htexts, rfl, hlength⟩
          obtain ⟨chunk', rest, hpage, hrest, rfl⟩ := texts_cons_iff.mp htexts
          cases hpage
          refine ⟨rest, hrest, ?_, hlength⟩
          rw [List.append_assoc, List.singleton_append]

/-! ### Its calls -/

/-- `page.get_text()`; the state counts the calls. -/
def getText (page : Except PyStr PyStr) : EStateM PyExc ℕ PyStr := do
  modify (· + 1)
  match page with
  | .error className => throw (.other className)
  | .ok chunk => return chunk

/-- The page loop, page by page. -/
def readPages : List (Except PyStr PyStr) → List PyStr → ℕ → EStateM PyExc ℕ (List PyStr)
  | [], parts, _ => return parts
  | page :: pages, parts, total => do
      let chunk ← getText page
      let total := total + chunk.length + (if parts = [] then 0 else 1)
      if MAX_TEXT_CHARS < total then
        throw (.extractError (invalidContent
          "PDF extracted text exceeds the 4194304-char limit"))
      else readPages pages (parts ++ [chunk]) total

/-- How many pages a document's loop reads. -/
def pagesRead (doc : PdfDocument) : ℕ := finalState ((readPages doc.pages [] 0).run 0)

theorem run_readPages_cons (page : Except PyStr PyStr) (pages : List (Except PyStr PyStr))
    (parts : List PyStr) (total n : ℕ) :
    (readPages (page :: pages) parts total).run n =
      match page with
      | .error className => .error (.other className) (n + 1)
      | .ok chunk =>
          if MAX_TEXT_CHARS < total + chunk.length + (if parts = [] then 0 else 1) then
            .error (.extractError (invalidContent
              "PDF extracted text exceeds the 4194304-char limit")) (n + 1)
          else
            (readPages pages (parts ++ [chunk])
              (total + chunk.length + (if parts = [] then 0 else 1))).run (n + 1) := by
  rcases page with className | chunk
  · rfl
  · show (if MAX_TEXT_CHARS < total + chunk.length + (if parts = [] then 0 else 1) then _
      else _ : EStateM PyExc ℕ (List PyStr)).run (n + 1) = _
    by_cases hover : MAX_TEXT_CHARS < total + chunk.length + (if parts = [] then 0 else 1)
    · simp only [if_pos hover]
      rfl
    · simp only [if_neg hover]

/-- The counted loop is the loop. -/
theorem answerOf_readPages (pages : List (Except PyStr PyStr)) :
    ∀ (parts : List PyStr) (total n : ℕ),
      answerOf ((readPages pages parts total).run n) = pageLoop pages parts total := by
  induction pages with
  | nil =>
    intro _ _ _
    rfl
  | cons page pages ih =>
    intro parts total n
    rw [run_readPages_cons]
    rcases page with className | chunk
    · rfl
    · by_cases hover : MAX_TEXT_CHARS < total + chunk.length + (if parts = [] then 0 else 1)
      · simp only [pageLoop, if_pos hover, answerOf]
      · simp only [pageLoop, if_neg hover]
        exact ih _ _ _

/-- A page is read only while the text of the pages before it is within the cap. -/
theorem text_within_cap_of_read (pages : List (Except PyStr PyStr)) :
    ∀ (parts : List PyStr) (total n : ℕ), total = (joined parts).length →
      total ≤ MAX_TEXT_CHARS →
      ∀ k, n + k < finalState ((readPages pages parts total).run n) →
        ∃ texts, Texts (pages.take k) texts ∧
          (joined (parts ++ texts)).length ≤ MAX_TEXT_CHARS := by
  induction pages with
  | nil =>
    intro parts total n htotal hcap k hread
    exact absurd (show n + k < n from hread) (by omega)
  | cons page pages ih =>
    intro parts total n htotal hcap k hread
    rcases k with _ | k
    · exact ⟨[], rfl, by rw [List.append_nil, ← htotal]; exact hcap⟩
    · rw [run_readPages_cons] at hread
      rcases page with className | chunk
      · exact absurd (show n + (k + 1) < n + 1 from hread) (by omega)
      · have hnext : total + chunk.length + (if parts = [] then 0 else 1) =
            (joined (parts ++ [chunk])).length := by
          rw [length_joined_append_singleton, htotal]
        simp only [hnext] at hread
        split_ifs at hread with hover
        · exact absurd (show n + (k + 1) < n + 1 from hread) (by omega)
        · obtain ⟨texts, htexts, hlength⟩ :=
            ih (parts ++ [chunk]) _ (n + 1) rfl (by omega) k (by omega)
          refine ⟨chunk :: texts, ?_, ?_⟩
          · rw [List.take_succ_cons]
            exact texts_cons_iff.mpr ⟨chunk, texts, rfl, htexts, rfl⟩
          · rwa [List.append_assoc, List.singleton_append] at hlength

/-! ## Refusals -/

/-- A refusal of `resolve_content`: a `validation_failed` with a detail and nothing more. -/
def ContentError (e : ExtractError) : Prop := ∃ detail, e = invalidContent detail ∧ py detail ≠ []

theorem pageLoop_raisesOnly (pages : List (Except PyStr PyStr)) :
    ∀ (parts : List PyStr) (total : ℕ),
      RaisesOnly (fun exc => ∀ e, exc = .extractError e → ContentError e)
        (pageLoop pages parts total) := by
  induction pages with
  | nil =>
    intro parts total
    exact .ok parts
  | cons page pages ih =>
    intro parts total
    rcases page with className | chunk
    · apply RaisesOnly.error
      intro e h
      cases h
    · unfold pageLoop
      by_cases hcap : MAX_TEXT_CHARS < total + chunk.length + if parts = [] then 0 else 1
      · simp only [hcap, if_true]
        apply RaisesOnly.error
        rintro e ⟨⟩
        exact ⟨_, rfl, by decide⟩
      · simp only [hcap, if_false]
        exact ih _ _

theorem pdfText_raisesOnly (open_ : PyMuPdf) (raw : List Byte) :
    RaisesOnly ContentError (pdfText open_ raw) := by
  have hread : RaisesOnly (fun exc => ∀ e, exc = .extractError e → ContentError e)
      (readPdf open_ raw) := by
    unfold readPdf
    split
    · apply RaisesOnly.error
      intro e h
      cases h
    · split
      · apply RaisesOnly.error
        intro e h
        cases h
      · split
        · apply RaisesOnly.error
          rintro e ⟨⟩
          exact ⟨_, rfl, by decide⟩
        · exact (pageLoop_raisesOnly _ _ _).map _
  unfold pdfText
  rcases hresult : readPdf open_ raw with exc | text
  · rcases exc with e | _ | _ | _ | _ | _ | _
    · exact .error (hread _ hresult e rfl)
    all_goals exact .error ⟨_, rfl, by decide⟩
  · exact .ok text

theorem extractPdfText_raisesOnly (open_ : PyMuPdf) (content : PyStr) :
    RaisesOnly ContentError (extractPdfText open_ content) := by
  unfold extractPdfText
  split
  · exact .error ⟨_, rfl, by decide⟩
  · split
    · exact .error ⟨_, rfl, by decide⟩
    · rcases hresult : pdfText open_ _ with e | text
      · exact .error (pdfText_raisesOnly open_ _ e hresult)
      · simp only
        split
        · exact .error ⟨_, rfl, by decide⟩
        · exact .ok _

theorem resolveContent_raisesOnly (open_ : PyMuPdf) (request : ExtractRequest) :
    RaisesOnly ContentError (resolveContent open_ request) := by
  unfold resolveContent
  split
  · split
    · exact .error ⟨_, rfl, by decide⟩
    · exact .ok _
  · exact extractPdfText_raisesOnly open_ request.content

/-! ## The whole extraction -/

section Extract

variable {open_ : PyMuPdf}

/-- The bytes open as a document within the page cap. -/
structure Opens (open_ : PyMuPdf) (raw : List Byte) (doc : PdfDocument) (count : ℕ) : Prop where
  opened : open_ raw = .ok doc
  counted : doc.pageCount = .ok count
  withinCap : count ≤ MAX_PDF_PAGES

theorem readPdf_eq_ok_iff {raw : List Byte} {text : PyStr} :
    readPdf open_ raw = .ok text ↔
      ∃ doc count texts, Opens open_ raw doc count ∧ Texts doc.pages texts ∧
        text = joined texts ∧ text.length ≤ MAX_TEXT_CHARS := by
  constructor
  · intro h
    unfold readPdf at h
    rcases hopen : open_ raw with className | doc
    · rw [hopen] at h
      cases h
    · rcases hcount : doc.pageCount with className | count
      · simp only [hopen, hcount, reduceCtorEq] at h
      · simp only [hopen, hcount] at h
        split_ifs at h with hpages
        rcases hloop : pageLoop doc.pages [] 0 with exc | parts
        · rw [hloop] at h
          cases h
        · rw [hloop] at h
          cases h
          obtain ⟨texts, htexts, hparts, hlength⟩ :=
            (pageLoop_eq_ok_iff _ [] 0 parts rfl (Nat.zero_le _)).mp hloop
          rw [List.nil_append] at hparts
          subst hparts
          exact ⟨doc, count, parts, ⟨hopen, hcount, by omega⟩, htexts, rfl, hlength⟩
  · rintro ⟨doc, count, texts, ⟨hopen, hcount, hpages⟩, htexts, rfl, hlength⟩
    have hloop : pageLoop doc.pages [] 0 = .ok texts :=
      (pageLoop_eq_ok_iff _ [] 0 texts rfl (Nat.zero_le _)).mpr ⟨texts, htexts, rfl, hlength⟩
    unfold readPdf
    simp only [hopen, hcount]
    rw [if_neg (by omega), hloop]
    rfl

theorem pdfText_eq_ok_iff {raw : List Byte} {text : PyStr} :
    pdfText open_ raw = .ok text ↔ readPdf open_ raw = .ok text := by
  unfold pdfText
  split
  · rename_i text' hread
    simp [hread]
  · rename_i e hread
    simp [hread]
  · rename_i exc _ hread
    simp [hread]

theorem extractPdfText_eq_ok_iff {content text : PyStr} :
    extractPdfText open_ content = .ok text ↔
      ∃ raw, b64decode (joinSplit content) = some raw ∧ raw.length ≤ MAX_PDF_BYTES ∧
        readPdf open_ raw = .ok text ∧ strip text ≠ [] := by
  unfold extractPdfText
  rcases hraw : b64decode (joinSplit content) with _ | raw
  · simp
  · simp only [Option.some.injEq, exists_eq_left']
    split_ifs with hbytes
    · apply iff_of_false
      · intro h
        cases h
      · intro h
        omega
    · rcases hpdf : pdfText open_ raw with e | text'
      · have hread : ¬ readPdf open_ raw = .ok text := by
          rw [← pdfText_eq_ok_iff, hpdf]
          intro h
          cases h
        simp [hread]
      · have hread : readPdf open_ raw = .ok text ↔ text' = text := by
          rw [← pdfText_eq_ok_iff, hpdf, Except.ok.injEq]
        simp only [hread]
        split_ifs with hblank
        · apply iff_of_false
          · intro h
            cases h
          · rintro ⟨-, rfl, hne⟩
            exact hne hblank
        · simp only [Except.ok.injEq]
          constructor
          · rintro rfl
            exact ⟨by omega, rfl, hblank⟩
          · intro h
            exact h.2.1

end Extract

/-- **The text of a PDF is exact at its caps**: what is returned is the join of the page texts
    within both caps, every refusal is a `validation_failed`, a readable document is refused
    for its text only over the cap, and no page is read after the total has passed it. -/
theorem pdf_text_exact (open_ : PyMuPdf) (content : PyStr) :
    (∀ text, extractPdfText open_ content = .ok text →
      ∃ raw doc count texts, b64decode (joinSplit content) = some raw ∧
        Opens open_ raw doc count ∧ Texts doc.pages texts ∧ text = joined texts ∧
          text.length ≤ MAX_TEXT_CHARS ∧ strip text ≠ []) ∧
    (∀ e, extractPdfText open_ content = .error e → e.code = .validationFailed) ∧
    (∀ raw doc count texts, b64decode (joinSplit content) = some raw →
      raw.length ≤ MAX_PDF_BYTES → Opens open_ raw doc count → Texts doc.pages texts →
      strip (joined texts) ≠ [] →
      (extractPdfText open_ content = .ok (joined texts) ↔
        (joined texts).length ≤ MAX_TEXT_CHARS) ∧
      ((∃ text, extractPdfText open_ content = .ok text) ↔
        (joined texts).length ≤ MAX_TEXT_CHARS)) ∧
    ∀ doc : PdfDocument,
      answerOf ((readPages doc.pages [] 0).run 0) = pageLoop doc.pages [] 0 ∧
      ∀ k < pagesRead doc, ∃ texts, Texts (doc.pages.take k) texts ∧
        (joined texts).length ≤ MAX_TEXT_CHARS := by
  refine ⟨?_, ?_, ?_, ?_⟩
  · intro text h
    obtain ⟨raw, hraw, -, hread, hblank⟩ := extractPdfText_eq_ok_iff.mp h
    obtain ⟨doc, count, texts, hopens, htexts, hjoined, hlength⟩ := readPdf_eq_ok_iff.mp hread
    exact ⟨raw, doc, count, texts, hraw, hopens, htexts, hjoined, hlength, hblank⟩
  · intro e h
    obtain ⟨detail, rfl, -⟩ := extractPdfText_raisesOnly open_ content e h
    rfl
  · intro raw doc count texts hraw hbytes hopens htexts hblank
    have hreturns : (joined texts).length ≤ MAX_TEXT_CHARS →
        extractPdfText open_ content = .ok (joined texts) := by
      intro hlength
      apply extractPdfText_eq_ok_iff.mpr
      refine ⟨raw, hraw, hbytes, ?_, hblank⟩
      exact readPdf_eq_ok_iff.mpr ⟨doc, count, texts, hopens, htexts, rfl, hlength⟩
    -- a text that is returned was read from this document, for it opens in one way only
    have hwithin : ∀ text, extractPdfText open_ content = .ok text →
        (joined texts).length ≤ MAX_TEXT_CHARS := by
      intro text h
      obtain ⟨raw', hraw', -, hread, -⟩ := extractPdfText_eq_ok_iff.mp h
      obtain ⟨doc', _, texts', hopens', htexts', rfl, hlength⟩ := readPdf_eq_ok_iff.mp hread
      have hsameRaw : raw' = raw := Option.some.inj (hraw'.symm.trans hraw)
      subst hsameRaw
      have hsameDoc : doc' = doc := Except.ok.inj (hopens'.opened.symm.trans hopens.opened)
      subst hsameDoc
      rwa [htexts.unique htexts']
    exact ⟨⟨hwithin _, hreturns⟩, fun ⟨text, h⟩ => hwithin text h, fun h => ⟨_, hreturns h⟩⟩
  · intro doc
    refine ⟨answerOf_readPages doc.pages [] 0 0, ?_⟩
    intro k hk
    exact text_within_cap_of_read doc.pages [] 0 0 rfl (Nat.zero_le _) k (by rwa [Nat.zero_add])

/-! ### A document of three pages -/

/-- Whatever the bytes are, three pages, the second of them empty. -/
def threePages : PyMuPdf := fun _ =>
  .ok { pageCount := .ok 3, pages := [.ok (py "a"), .ok [], .ok (py "b")] }

/-- Wrapped base64 of three bytes. -/
def threeBytes : PyStr := py "JV\nBE"

theorem pdf_text_exact_threePages :
    extractPdfText threePages threeBytes = .ok (py "a\n\nb") := by
  obtain ⟨-, -, hexact, -⟩ := pdf_text_exact threePages threeBytes
  have hopens : Opens threePages [37, 80, 68] ⟨.ok 3, [.ok (py "a"), .ok [], .ok (py "b")]⟩ 3 :=
    ⟨rfl, rfl, by decide⟩
  have htexts := (hexact [37, 80, 68] _ 3 [py "a", [], py "b"] (by decide +kernel) (by decide)
    hopens rfl (by decide +kernel)).1
  exact htexts.mpr (by decide +kernel)

end ExtractApi
