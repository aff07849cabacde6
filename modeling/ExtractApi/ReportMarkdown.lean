import ExtractApi.AccuracyScoring
import ExtractApi.FilledText
import ExtractApi.StrictValues

/-!
# The published section (`render_markdown`)

A run of the harness ends as a section of a committed document.  Rates are rounded there to a
percent or a tenth of one, and costs to four places; `markdown_exact` says that the counts are
not lost: the text is a function of the counts, the rounded costs and the rounded latencies,
and determines them, so that two runs with one text had the same exact rates.
-/

namespace ExtractApi.ReportMarkdown

open PythonText FilledText

/-! ## The section -/

/-- `format` with `.0%`, `.1%`, `.0f` and `.4f`. -/
structure ReportFormats where
  percent0 : ℚ → PyStr
  percent1 : ℚ → PyStr
  fixed0 : ℚ → PyStr
  fixed4 : ℚ → PyStr

/-- `sorted(report.per_field)` -/
def sortedFields (r : AccuracyReport) : List PyStr := r.perField.keys.insertionSort (· ≤ ·)

/-- The fields in order, with their statistics. -/
def rows (r : AccuracyReport) : List (PyStr × FieldStats) :=
  (sortedFields r).map fun key => (key, r.perField.valueAt key)

section Render

variable (fmt : ReportFormats) (r : AccuracyReport)

/-- A line without a value in it. -/
def constantLine (text : PyStr) : Line CodePoint := ⟨[], text⟩

def title : PyStr := r.docType ++ py " / " ++ r.provider

def fixturesLine : Line CodePoint :=
  ⟨[(py "- fixtures scored: ", decimal r.nFixtures), (py " (", decimal r.nFailures)],
    py " failed extraction(s))"⟩

def skippedLines : List (Line CodePoint) :=
  if r.nSkipped = 0 then []
  else
    [⟨[(py "- skipped (before model call, not scored): ", decimal r.nSkipped)],
      py " (accuracy below covers the scored subset only)"⟩]

/-- `f"{rate:.1%}" if denominator else "n/a"` -/
def rateText (rate : ℚ) (denominator : ℕ) : PyStr :=
  if denominator = 0 then py "n/a" else fmt.percent1 rate

/-- A rate with its fraction. -/
def rateLine (name : String) (rate : ℚ) (n denominator : ℕ) : Line CodePoint :=
  ⟨[(py name, rateText fmt rate denominator), (py " (", decimal n), (py "/", decimal denominator)],
    py ")"⟩

def denominatorLine : Line CodePoint :=
  ⟨[(py "- null-metric denominator: expected-null fields in usable records; ",
      decimal r.totalFailedNull)],
    py " failed expected-null field(s) excluded " ++
      py "(failed fields remain in overall exact-match without credit)"⟩

def costLine : Line CodePoint :=
  if r.nFailedCostUnknown = 0 then
    ⟨[(py "- cost (all billed requests): $", fmt.fixed4 r.costUsdTotal),
        (py " (successful: $", fmt.fixed4 r.costUsdSuccessful),
        (py "; failed: $", fmt.fixed4 r.costUsdFailed),
        (py ") | latency p50/p95 (successful): ", fmt.fixed0 r.latencyP50Ms),
        (py "/", fmt.fixed0 r.latencyP95Ms)],
      py " ms"⟩
  else
    ⟨[(py "- cost (known billed requests): $", fmt.fixed4 r.costUsdTotal),
        (py " (successful: $", fmt.fixed4 r.costUsdSuccessful),
        (py "; failed: $", fmt.fixed4 r.costUsdFailed),
        (py " known; unknown failed spend: ", intText r.nFailedCostUnknown),
        (py " request(s)) | latency p50/p95 (successful): ", fmt.fixed0 r.latencyP50Ms),
        (py "/", fmt.fixed0 r.latencyP95Ms)],
      py " ms"⟩

def summaryLines : List (Line CodePoint) :=
  [rateLine fmt "- overall exact-match: " r.overallExactMatchRate r.totalMatches r.totalFields,
    rateLine fmt "- hallucinated-field rate: " r.hallucinatedFieldRate r.totalHallucinated
      r.totalNullOpportunities,
    rateLine fmt "- null-handling correctness: " r.nullHandlingCorrectnessRate
      r.totalNullMatches r.totalNullOpportunities,
    denominatorLine r, costLine fmt r]

def tableHead : List (Line CodePoint) :=
  [constantLine [],
    constantLine (py "Correct nulls are included in exact-match; failed nulls receive no " ++
      py "exact-match credit."),
    constantLine [],
    constantLine (py "| field | exact-match | mismatch | missed | hallucinated | correct null " ++
      py "| failed null |"),
    constantLine (py "| --- | --- | --- | --- | --- | --- | --- |")]

def fieldLine (row : PyStr × FieldStats) : Line CodePoint :=
  ⟨[(py "| `", row.1), (py "` | ", fmt.percent0 row.2.exactMatchRate),
      (py " (", decimal row.2.matched), (py "/", decimal row.2.total),
      (py ") | ", decimal row.2.mismatches), (py " | ", decimal row.2.missed),
      (py " | ", decimal row.2.hallucinated), (py " | ", decimal row.2.nullMatches),
      (py " | ", decimal row.2.failedNull)],
    py " |"⟩

def sectionLines : List (Line CodePoint) :=
  [constantLine (py "### " ++ title r), constantLine [], fixturesLine r] ++ skippedLines r ++
    summaryLines fmt r ++ tableHead ++ (rows r).map (fieldLine fmt)

/-- `render_markdown` -/
def renderMarkdown : PyStr := unlines 10 (sectionLines fmt r)

end Render

/-! ## What is printed -/

/-- What the section prints of a report. -/
structure Printed where
  title : PyStr
  nFixtures : ℕ
  nFailures : ℕ
  nSkipped : ℕ
  rows : List (PyStr × FieldStats)
  nFailedCostUnknown : ℤ
  /-- total, successful and failed -/
  costs : PyStr × PyStr × PyStr
  /-- p50 and p95 -/
  latencies : PyStr × PyStr
deriving DecidableEq

def printed (fmt : ReportFormats) (r : AccuracyReport) : Printed where
  title := title r
  nFixtures := r.nFixtures
  nFailures := r.nFailures
  nSkipped := r.nSkipped
  rows := rows r
  nFailedCostUnknown := r.nFailedCostUnknown
  costs := (fmt.fixed4 r.costUsdTotal, fmt.fixed4 r.costUsdSuccessful, fmt.fixed4 r.costUsdFailed)
  latencies := (fmt.fixed0 r.latencyP50Ms, fmt.fixed0 r.latencyP95Ms)

theorem rows_perm (r : AccuracyReport) : (rows r).Perm r.perField.entries := by
  have hentries : r.perField.keys.map (fun key => (key, r.perField.valueAt key)) =
      r.perField.entries := by
    rw [Tally.keys, List.map_map]
    conv_rhs => rw [← List.map_id r.perField.entries]
    apply List.map_congr_left
    intro entry hentry
    exact Prod.ext rfl ((Tally.mem_entries_iff r.perField entry).mp hentry).2
  rw [← hentries]
  exact (List.perm_insertionSort (· ≤ ·) r.perField.keys).map _

/-- The sums are over the rows. -/
theorem sumOf_eq (r : AccuracyReport) (counter : FieldStats → ℕ) :
    r.sumOf counter = ((rows r).map fun row => counter row.2).sum := by
  rw [AccuracyReport.sumOf, Tally.values, List.map_map]
  exact ((rows_perm r).map _).sum_eq.symm

section Rows

variable {r r' : AccuracyReport}

theorem sumOf_of_rows (h : rows r = rows r') : r.sumOf = r'.sumOf := by
  funext counter
  rw [sumOf_eq, sumOf_eq, h]

theorem totals_of_rows (h : rows r = rows r') :
    r.totalFields = r'.totalFields ∧ r.totalMatches = r'.totalMatches ∧
      r.totalHallucinated = r'.totalHallucinated ∧ r.totalNullMatches = r'.totalNullMatches ∧
      r.totalFailedNull = r'.totalFailedNull := by
  simp only [AccuracyReport.totalMatches, AccuracyReport.totalFields,
    AccuracyReport.totalHallucinated, AccuracyReport.totalNullMatches,
    AccuracyReport.totalFailedNull, sumOf_of_rows h, and_self]

theorem rates_of_rows (h : rows r = rows r') :
    r.overallExactMatchRate = r'.overallExactMatchRate ∧
      r.hallucinatedFieldRate = r'.hallucinatedFieldRate ∧
      r.nullHandlingCorrectnessRate = r'.nullHandlingCorrectnessRate := by
  obtain ⟨hfields, hmatches, hhallucinated, hnulls, -⟩ := totals_of_rows h
  simp only [AccuracyReport.overallExactMatchRate, AccuracyReport.hallucinatedFieldRate,
    AccuracyReport.nullHandlingCorrectnessRate, AccuracyReport.totalNullOpportunities, hfields,
    hmatches, hhallucinated, hnulls, and_self]

theorem mem_rows_iff (key : PyStr) (stats : FieldStats) :
    (key, stats) ∈ rows r ↔ key ∈ r.perField.keys ∧ r.perField.valueAt key = stats := by
  rw [(rows_perm r).mem_iff, Tally.mem_entries_iff]

/-- The same rows are the same `per_field`. -/
theorem perField_of_rows (h : rows r = rows r') (key : PyStr) (stats : FieldStats) :
    key ∈ r.perField.keys ∧ r.perField.valueAt key = stats ↔
      key ∈ r'.perField.keys ∧ r'.perField.valueAt key = stats := by
  rw [← mem_rows_iff, ← mem_rows_iff, h]

variable {fmt : ReportFormats}

theorem summaryLines_of_printed (h : printed fmt r = printed fmt r') :
    summaryLines fmt r = summaryLines fmt r' := by
  have hrows : rows r = rows r' := congrArg Printed.rows h
  have hunknown : r.nFailedCostUnknown = r'.nFailedCostUnknown :=
    congrArg Printed.nFailedCostUnknown h
  have hcosts := congrArg Printed.costs h
  have hlatencies := congrArg Printed.latencies h
  simp only [printed, Prod.mk.injEq] at hcosts hlatencies
  obtain ⟨hfields, hmatches, hhallucinated, hnulls, hfailed⟩ := totals_of_rows hrows
  obtain ⟨hoverall, hrate, hcorrect⟩ := rates_of_rows hrows
  simp only [summaryLines, denominatorLine, costLine, AccuracyReport.totalNullOpportunities,
    hfields, hmatches, hhallucinated, hnulls, hfailed, hoverall, hrate, hcorrect, hunknown, hcosts,
    hlatencies]

theorem sectionLines_of_printed (h : printed fmt r = printed fmt r') :
    sectionLines fmt r = sectionLines fmt r' := by
  have htitle : title r = title r' := congrArg Printed.title h
  have hrows : rows r = rows r' := congrArg Printed.rows h
  have hfixtures : r.nFixtures = r'.nFixtures := congrArg Printed.nFixtures h
  have hfailures : r.nFailures = r'.nFailures := congrArg Printed.nFailures h
  have hskipped : r.nSkipped = r'.nSkipped := congrArg Printed.nSkipped h
  simp only [sectionLines, fixturesLine, skippedLines, htitle, hrows, hfixtures, hfailures,
    hskipped, summaryLines_of_printed h]

end Rows

/-! ## Reading the section -/

/-- A character of a number, of `inf` or of `nan`. -/
def IsNumberChar (c : CodePoint) : Prop := 48 ≤ c.val ∧ c.val ≤ 57 ∨ c ∈ py ".-%infa"

instance (c : CodePoint) : Decidable (IsNumberChar c) := inferInstanceAs (Decidable (_ ∨ _))

def IsNumberText (s : PyStr) : Prop := ∀ c ∈ s, IsNumberChar c

instance (s : PyStr) : Decidable (IsNumberText s) := List.decidableBAll IsNumberChar s

/-- Floats are printed as numbers. -/
structure ReportFormats.Numeric (fmt : ReportFormats) : Prop where
  percent0 : ∀ x, IsNumberText (fmt.percent0 x)
  percent1 : ∀ x, IsNumberText (fmt.percent1 x)
  fixed0 : ∀ x, IsNumberText (fmt.fixed0 x)
  fixed4 : ∀ x, IsNumberText (fmt.fixed4 x)

/-- The names in the section end where they seem to. -/
structure Readable (r : AccuracyReport) : Prop where
  title : 10 ∉ title r
  fields : ∀ key ∈ r.perField.keys, 96 ∉ key ∧ 10 ∉ key

theorem IsNumberText.notMem {s : PyStr} {c : CodePoint} (h : IsNumberText s)
    (hc : ¬ IsNumberChar c) : c ∉ s := fun hmem => hc (h c hmem)

theorem notMem_decimal {n : ℕ} {c : CodePoint} (hc : ¬ IsNumberChar c) : c ∉ decimal n :=
  fun hmem => hc (Or.inl (digit_of_mem_decimal hmem))

theorem notMem_intText {n : ℤ} {c : CodePoint} (hc : ¬ IsNumberChar c) : c ∉ intText n := by
  rw [intText]
  split_ifs
  · rw [List.mem_append, not_or]
    refine ⟨?_, notMem_decimal hc⟩
    intro hmem
    obtain rfl : c = 45 := List.mem_singleton.mp hmem
    exact hc (by decide)
  · exact notMem_decimal hc

theorem decimal_injective {m n : ℕ} (h : decimal m = decimal n) : m = n := by
  have hvalue := congrArg digitsValue h
  rw [digitsValue_decimal, digitsValue_decimal] at hvalue
  exact_mod_cast hvalue

theorem intText_injective {m n : ℤ} (h : intText m = intText n) : m = n := by
  have hvalue := congrArg intValue h
  rwa [intValue_intText, intValue_intText] at hvalue

section Lines

variable {fmt : ReportFormats} {r : AccuracyReport}

theorem notMem_rateText (hfmt : fmt.Numeric) (rate : ℚ) (denominator : ℕ) {c : CodePoint}
    (hc : ¬ IsNumberChar c) (hslash : c ≠ 47) : c ∉ rateText fmt rate denominator := by
  rw [rateText]
  split_ifs
  · intro hmem
    have hna : py "n/a" = [110, 47, 97] := rfl
    rw [hna] at hmem
    simp only [List.mem_cons, List.not_mem_nil, or_false] at hmem
    rcases hmem with rfl | rfl | rfl
    · exact hc (by decide)
    · exact hslash rfl
    · exact hc (by decide)
  · exact (hfmt.percent1 rate).notMem hc

/-- A line keeps to itself and can be read. -/
structure Legible (line : Line CodePoint) : Prop where
  avoids : line.Avoids 10
  separated : Separated line.last line.holes

theorem legible_constantLine {text : PyStr} (h : 10 ∉ text) : Legible (constantLine text) where
  avoids := ⟨fun _ hmem => absurd hmem List.not_mem_nil, h⟩
  separated := trivial

theorem legible_line {line : Line CodePoint}
    (hconstants : (line.last :: line.holes.map Prod.fst).all (fun text => !text.elem 10) = true)
    (hvalues : ∀ value ∈ line.holes.map Prod.snd, 10 ∉ value)
    (hseparated : Separated line.last line.holes) : Legible line where
  avoids := by
    have hconstant : ∀ text ∈ line.last :: line.holes.map Prod.fst, 10 ∉ text := by
      intro text htext
      have h := List.all_eq_true.mp hconstants text htext
      simpa using h
    constructor
    case holes =>
      intro hole hhole
      exact ⟨hconstant hole.1 (List.mem_cons_of_mem _ (List.mem_map_of_mem hhole)),
        hvalues hole.2 (List.mem_map_of_mem hhole)⟩
    case last => exact hconstant line.last List.mem_cons_self
  separated := hseparated

theorem legible_fixturesLine : Legible (fixturesLine r) := by
  apply legible_line
  · rfl
  · simp only [fixturesLine, List.map_cons, List.map_nil, List.forall_mem_cons]
    exact ⟨notMem_decimal (by decide), notMem_decimal (by decide), nofun⟩
  · exact ⟨⟨32, rfl, notMem_decimal (by decide)⟩, ⟨32, rfl, notMem_decimal (by decide)⟩, trivial⟩

theorem legible_skippedLines : ∀ line ∈ skippedLines r, Legible line := by
  intro line hline
  rw [skippedLines] at hline
  split_ifs at hline
  · cases hline
  · rw [List.mem_singleton.mp hline]
    apply legible_line
    · rfl
    · simp only [List.map_cons, List.map_nil, List.forall_mem_cons]
      exact ⟨notMem_decimal (by decide), nofun⟩
    · exact ⟨⟨32, rfl, notMem_decimal (by decide)⟩, trivial⟩

theorem legible_rateLine (hfmt : fmt.Numeric) {name : String}
    (hname : (py name).elem 10 = false) (rate : ℚ) (n denominator : ℕ) :
    Legible (rateLine fmt name rate n denominator) := by
  apply legible_line
  · simp only [rateLine, List.map_cons, List.map_nil, List.all_cons, hname]
    rfl
  · simp only [rateLine, List.map_cons, List.map_nil, List.forall_mem_cons]
    exact ⟨notMem_rateText hfmt rate denominator (by decide) (by decide),
      notMem_decimal (by decide), notMem_decimal (by decide), nofun⟩
  · exact ⟨⟨32, rfl, notMem_rateText hfmt rate denominator (by decide) (by decide)⟩,
      ⟨47, rfl, notMem_decimal (by decide)⟩, ⟨41, rfl, notMem_decimal (by decide)⟩, trivial⟩

theorem legible_denominatorLine : Legible (denominatorLine r) := by
  apply legible_line
  · rfl
  · simp only [denominatorLine, List.map_cons, List.map_nil, List.forall_mem_cons]
    exact ⟨notMem_decimal (by decide), nofun⟩
  · exact ⟨⟨32, rfl, notMem_decimal (by decide)⟩, trivial⟩

theorem legible_costLine (hfmt : fmt.Numeric) : Legible (costLine fmt r) := by
  have hcost : ∀ {c : CodePoint} (x : ℚ), ¬ IsNumberChar c → c ∉ fmt.fixed4 x :=
    fun x hc => (hfmt.fixed4 x).notMem hc
  have hlatency : ∀ {c : CodePoint} (x : ℚ), ¬ IsNumberChar c → c ∉ fmt.fixed0 x :=
    fun x hc => (hfmt.fixed0 x).notMem hc
  rw [costLine]
  split_ifs
  · apply legible_line
    · rfl
    · simp only [List.map_cons, List.map_nil, List.forall_mem_cons]
      exact ⟨hcost _ (by decide), hcost _ (by decide), hcost _ (by decide), hlatency _ (by decide),
        hlatency _ (by decide), nofun⟩
    · exact ⟨⟨32, rfl, hcost _ (by decide)⟩, ⟨59, rfl, hcost _ (by decide)⟩,
        ⟨41, rfl, hcost _ (by decide)⟩, ⟨47, rfl, hlatency _ (by decide)⟩,
        ⟨32, rfl, hlatency _ (by decide)⟩, trivial⟩
  · apply legible_line
    · rfl
    · simp only [List.map_cons, List.map_nil, List.forall_mem_cons]
      exact ⟨hcost _ (by decide), hcost _ (by decide), hcost _ (by decide),
        notMem_intText (by decide), hlatency _ (by decide), hlatency _ (by decide), nofun⟩
    · exact ⟨⟨32, rfl, hcost _ (by decide)⟩, ⟨59, rfl, hcost _ (by decide)⟩,
        ⟨32, rfl, hcost _ (by decide)⟩, ⟨32, rfl, notMem_intText (by decide)⟩,
        ⟨47, rfl, hlatency _ (by decide)⟩, ⟨32, rfl, hlatency _ (by decide)⟩, trivial⟩

theorem legible_fieldLine (hfmt : fmt.Numeric) {row : PyStr × FieldStats} (hquote : 96 ∉ row.1)
    (hbreak : 10 ∉ row.1) : Legible (fieldLine fmt row) := by
  have hrate : ∀ {c : CodePoint} (x : ℚ), ¬ IsNumberChar c → c ∉ fmt.percent0 x :=
    fun x hc => (hfmt.percent0 x).notMem hc
  have hcount : ∀ {c : CodePoint} (n : ℕ), ¬ IsNumberChar c → c ∉ decimal n :=
    fun n hc => notMem_decimal hc
  apply legible_line
  · rfl
  · simp only [fieldLine, List.map_cons, List.map_nil, List.forall_mem_cons]
    exact ⟨hbreak, hrate _ (by decide), hcount _ (by decide), hcount _ (by decide),
      hcount _ (by decide), hcount _ (by decide), hcount _ (by decide), hcount _ (by decide),
      hcount _ (by decide), nofun⟩
  · exact ⟨⟨96, rfl, hquote⟩, ⟨32, rfl, hrate _ (by decide)⟩, ⟨47, rfl, hcount _ (by decide)⟩,
      ⟨41, rfl, hcount _ (by decide)⟩, ⟨32, rfl, hcount _ (by decide)⟩,
      ⟨32, rfl, hcount _ (by decide)⟩, ⟨32, rfl, hcount _ (by decide)⟩,
      ⟨32, rfl, hcount _ (by decide)⟩, ⟨32, rfl, hcount _ (by decide)⟩, trivial⟩

theorem legible_summaryLines (hfmt : fmt.Numeric) : ∀ line ∈ summaryLines fmt r, Legible line := by
  simp only [summaryLines, List.forall_mem_cons]
  exact ⟨legible_rateLine hfmt rfl _ _ _, legible_rateLine hfmt rfl _ _ _,
    legible_rateLine hfmt rfl _ _ _, legible_denominatorLine, legible_costLine hfmt, nofun⟩

theorem legible_tableHead : ∀ line ∈ tableHead, Legible line := by
  simp only [tableHead, List.forall_mem_cons]
  exact ⟨legible_constantLine List.not_mem_nil, legible_constantLine (by decide),
    legible_constantLine List.not_mem_nil, legible_constantLine (by decide),
    legible_constantLine (by decide), nofun⟩

theorem legible_fieldLines (hfmt : fmt.Numeric) (hr : Readable r) :
    ∀ line ∈ (rows r).map (fieldLine fmt), Legible line := by
  intro line hline
  obtain ⟨row, hrow, rfl⟩ := List.mem_map.mp hline
  obtain ⟨hquote, hbreak⟩ := hr.fields row.1 ((mem_rows_iff row.1 row.2).mp hrow).1
  exact legible_fieldLine hfmt hquote hbreak

theorem legible_sectionLines (hfmt : fmt.Numeric) (hr : Readable r) :
    ∀ line ∈ sectionLines fmt r, Legible line := by
  have htitle : 10 ∉ py "### " ++ title r := by
    rw [List.mem_append, not_or]
    exact ⟨by decide, hr.title⟩
  simp only [sectionLines, List.forall_mem_append, List.forall_mem_cons]
  exact ⟨⟨⟨⟨⟨legible_constantLine htitle, legible_constantLine List.not_mem_nil,
    legible_fixturesLine, nofun⟩, legible_skippedLines⟩, legible_summaryLines hfmt⟩,
    legible_tableHead⟩, legible_fieldLines hfmt hr⟩

end Lines

/-! ### From the texts of the lines to their values -/

section Values

variable {fmt : ReportFormats} {r r' : AccuracyReport}

/-- The third character of the fourth line tells whether fixtures were skipped. -/
theorem skipped_of_texts
    (h : (sectionLines fmt r).map Line.text = (sectionLines fmt r').map Line.text) :
    r.nSkipped = 0 ↔ r'.nSkipped = 0 := by
  have htell : ∀ r : AccuracyReport,
      (((sectionLines fmt r).map Line.text)[3]?.bind fun text => text[2]?) =
        some (if r.nSkipped = 0 then 111 else 115) := by
    intro r
    rw [sectionLines, skippedLines]
    split_ifs
    · rfl
    · rfl
  have hsame := (htell r).symm.trans (h ▸ htell r')
  split_ifs at hsame with h0 h0' h0'
  · exact iff_of_true h0 h0'
  · cases hsame
  · cases hsame
  · exact iff_of_false h0 h0'

/-- The ninth character of the line of costs tells whether all of them are known. -/
theorem unknown_of_text (h : (costLine fmt r).text = (costLine fmt r').text) :
    r.nFailedCostUnknown = 0 ↔ r'.nFailedCostUnknown = 0 := by
  have htell : ∀ r : AccuracyReport, (costLine fmt r).text[8]? =
      some (if r.nFailedCostUnknown = 0 then 97 else 107) := by
    intro r
    rw [costLine]
    split_ifs
    · rfl
    · rfl
  have hsame := (htell r).symm.trans (h ▸ htell r')
  split_ifs at hsame with h0 h0' h0'
  · exact iff_of_true h0 h0'
  · cases hsame
  · cases hsame
  · exact iff_of_false h0 h0'

/-- Two legible lines of one form with one text are the same. -/
theorem line_of_text {line line' : Line CodePoint} (htext : line.text = line'.text)
    (h : Legible line) (h' : Legible line') (hform : line.form = line'.form) : line = line' :=
  Line.eq_of_text hform h.separated h'.separated htext

theorem fixtures_of_text (h : (fixturesLine r).text = (fixturesLine r').text) :
    r.nFixtures = r'.nFixtures ∧ r.nFailures = r'.nFailures := by
  have hline := line_of_text h legible_fixturesLine legible_fixturesLine rfl
  simp only [fixturesLine, Line.mk.injEq, List.cons.injEq, Prod.mk.injEq, true_and, and_true]
    at hline
  exact ⟨decimal_injective hline.1, decimal_injective hline.2⟩

theorem skipped_of_text (h : (skippedLines r).map Line.text = (skippedLines r').map Line.text)
    (hsame : r.nSkipped = 0 ↔ r'.nSkipped = 0) : r.nSkipped = r'.nSkipped := by
  have hlegible := legible_skippedLines (r := r)
  have hlegible' := legible_skippedLines (r := r')
  rw [skippedLines] at h hlegible
  rw [skippedLines] at h hlegible'
  split_ifs at h hlegible hlegible' with h0 h0' h0'
  · rw [h0, h0']
  · exact absurd (hsame.mp h0) h0'
  · exact absurd (hsame.mpr h0') h0
  · rw [List.map_singleton, List.map_singleton, List.cons.injEq] at h
    have hline := line_of_text h.1 (hlegible _ List.mem_cons_self) (hlegible' _ List.mem_cons_self)
      rfl
    simp only [Line.mk.injEq, List.cons.injEq, Prod.mk.injEq, true_and, and_true] at hline
    exact decimal_injective hline

theorem costs_of_text (hfmt : fmt.Numeric) (h : (costLine fmt r).text = (costLine fmt r').text) :
    r.nFailedCostUnknown = r'.nFailedCostUnknown ∧
      (printed fmt r).costs = (printed fmt r').costs ∧
      (printed fmt r).latencies = (printed fmt r').latencies := by
  have hsame := unknown_of_text h
  have hform : (costLine fmt r).form = (costLine fmt r').form := by
    rw [costLine, costLine]
    split_ifs with h0 h0' h0'
    · rfl
    · exact absurd (hsame.mp h0) h0'
    · exact absurd (hsame.mpr h0') h0
    · rfl
  have hline := line_of_text h (legible_costLine hfmt) (legible_costLine hfmt) hform
  rw [costLine, costLine] at hline
  simp only [printed, Prod.mk.injEq]
  split_ifs at hline with h0 h0' h0'
  · simp only [Line.mk.injEq, List.cons.injEq, Prod.mk.injEq, true_and, and_true] at hline
    obtain ⟨htotal, hsuccessful, hfailed, hlatencies⟩ := hline
    exact ⟨h0.trans h0'.symm, ⟨htotal, hsuccessful, hfailed⟩, hlatencies⟩
  · exact absurd (hsame.mp h0) h0'
  · exact absurd (hsame.mpr h0') h0
  · simp only [Line.mk.injEq, List.cons.injEq, Prod.mk.injEq, true_and, and_true] at hline
    obtain ⟨htotal, hsuccessful, hfailed, hunknown, hlatencies⟩ := hline
    exact ⟨intText_injective hunknown, ⟨htotal, hsuccessful, hfailed⟩, hlatencies⟩

theorem fieldLine_injective : Function.Injective (fieldLine fmt) := by
  rintro ⟨key, stats⟩ ⟨key', stats'⟩ h
  simp only [fieldLine, Line.mk.injEq, List.cons.injEq, Prod.mk.injEq, true_and, and_true] at h
  obtain ⟨rfl, -, hmatched, htotal, hmismatches, hmissed, hhallucinated, hnulls, hfailed⟩ := h
  obtain ⟨total, matched, nullMatches, mismatches, missed, hallucinated, failedNull⟩ := stats
  obtain ⟨total', matched', nullMatches', mismatches', missed', hallucinated', failedNull'⟩ :=
    stats'
  obtain rfl : matched = matched' := decimal_injective hmatched
  obtain rfl : total = total' := decimal_injective htotal
  obtain rfl : mismatches = mismatches' := decimal_injective hmismatches
  obtain rfl : missed = missed' := decimal_injective hmissed
  obtain rfl : hallucinated = hallucinated' := decimal_injective hhallucinated
  obtain rfl : nullMatches = nullMatches' := decimal_injective hnulls
  obtain rfl : failedNull = failedNull' := decimal_injective hfailed
  rfl

theorem rows_of_texts (hfmt : fmt.Numeric) (hr : Readable r) (hr' : Readable r')
    (h : ((rows r).map (fieldLine fmt)).map Line.text =
      ((rows r').map (fieldLine fmt)).map Line.text) : rows r = rows r' := by
  have hform : ∀ rows : List (PyStr × FieldStats), (rows.map (fieldLine fmt)).map Line.form =
      List.replicate rows.length (fieldLine fmt ([], 0)).form := by
    intro rows
    rw [List.map_map, List.eq_replicate_iff]
    refine ⟨List.length_map _, ?_⟩
    intro form hmem
    obtain ⟨row, -, rfl⟩ := List.mem_map.mp hmem
    rfl
  have hlength : (rows r).length = (rows r').length := by
    simpa using congrArg List.length h
  have hforms : ((rows r).map (fieldLine fmt)).map Line.form =
      ((rows r').map (fieldLine fmt)).map Line.form := by
    rw [hform, hform, hlength]
  have hlines := lines_of_texts hforms
    (fun line hline => (legible_fieldLines hfmt hr line hline).separated)
    (fun line hline => (legible_fieldLines hfmt hr' line hline).separated) h
  exact List.map_injective_iff.mpr fieldLine_injective hlines

theorem length_skippedLines (h : r.nSkipped = 0 ↔ r'.nSkipped = 0) :
    (skippedLines r).length = (skippedLines r').length := by
  rw [skippedLines, skippedLines]
  simp only [h]
  split_ifs
  · rfl
  · rfl

theorem printed_of_render (hfmt : fmt.Numeric) (hr : Readable r) (hr' : Readable r')
    (h : renderMarkdown fmt r = renderMarkdown fmt r') : printed fmt r = printed fmt r' := by
  have hne : ∀ r, sectionLines fmt r ≠ [] := by
    intro r
    rw [sectionLines]
    simp
  have htexts := texts_of_unlines
    (fun line hline => (legible_sectionLines hfmt hr line hline).avoids)
    (fun line hline => (legible_sectionLines hfmt hr' line hline).avoids) (hne r) (hne r') h
  have hsame := skipped_of_texts htexts
  have hlength := length_skippedLines hsame
  simp only [sectionLines, List.map_append] at htexts
  -- the parts of the section stand at the same places
  obtain ⟨hfront, hrows⟩ := List.append_inj htexts (by simp [hlength, summaryLines])
  obtain ⟨hfront, -⟩ := List.append_inj hfront (by simp [hlength, summaryLines])
  obtain ⟨hfront, hsummary⟩ := List.append_inj hfront (by simp [hlength])
  obtain ⟨hhead, hskipped⟩ := List.append_inj hfront rfl
  simp only [summaryLines, List.map_cons, List.cons.injEq] at hsummary
  simp only [List.map_cons, List.cons.injEq] at hhead
  obtain ⟨-, -, -, -, hcost, -⟩ := hsummary
  obtain ⟨htitle, -, hfixtures, -⟩ := hhead
  obtain ⟨hnFixtures, hnFailures⟩ := fixtures_of_text hfixtures
  obtain ⟨hunknown, hcosts, hlatencies⟩ := costs_of_text hfmt hcost
  have htitles : title r = title r' := List.append_cancel_left htitle
  simp only [printed] at hcosts hlatencies ⊢
  rw [htitles, hnFixtures, hnFailures, skipped_of_text hskipped hsame,
    rows_of_texts hfmt hr hr' hrows, hunknown, hcosts, hlatencies]

end Values

/-- **The section loses nothing but the places after the point.**  Two reports with no newline in
    a title or a field name and no backtick in a field name print the same section exactly when
    they agree in their title, in every count of every field, in the fixtures scored, failed and
    skipped and the costs unknown, and in the rounded costs and latencies; so the rates that the
    section rounds are those of both. -/
theorem markdown_exact (fmt : ReportFormats) (hfmt : fmt.Numeric) (r r' : AccuracyReport)
    (hr : Readable r) (hr' : Readable r') :
    (renderMarkdown fmt r = renderMarkdown fmt r' ↔ printed fmt r = printed fmt r') ∧
    (renderMarkdown fmt r = renderMarkdown fmt r' →
      (∀ key stats, key ∈ r.perField.keys ∧ r.perField.valueAt key = stats ↔
        key ∈ r'.perField.keys ∧ r'.perField.valueAt key = stats) ∧
      r.overallExactMatchRate = r'.overallExactMatchRate ∧
      r.hallucinatedFieldRate = r'.hallucinatedFieldRate ∧
      r.nullHandlingCorrectnessRate = r'.nullHandlingCorrectnessRate) := by
  have hprinted :
      renderMarkdown fmt r = renderMarkdown fmt r' ↔ printed fmt r = printed fmt r' := by
    refine ⟨printed_of_render hfmt hr hr', ?_⟩
    intro h
    rw [renderMarkdown, renderMarkdown, sectionLines_of_printed h]
  refine ⟨hprinted, ?_⟩
  intro h
  have hrows : rows r = rows r' := congrArg Printed.rows (hprinted.mp h)
  exact ⟨perField_of_rows hrows, rates_of_rows hrows⟩

/-! ### Two runs whose costs differ in the fifth place -/

/-- The digits after the point. -/
def placesText (scaled : ℕ) : ℕ → PyStr
  | 0 => []
  | places + 1 => placesText (scaled / 10) places ++ decimal (scaled % 10)

/-- A value that is no tie, in units of the last place. -/
def fixedText (places : ℕ) (x : ℚ) : PyStr :=
  let scaled := ⌊|x| * 10 ^ places + 1 / 2⌋₊
  (if x < 0 then py "-" else []) ++ decimal (scaled / 10 ^ places) ++
    (if places = 0 then [] else py "." ++ placesText scaled places)

def sampleFormats : ReportFormats where
  percent0 x := fixedText 0 (100 * x) ++ py "%"
  percent1 x := fixedText 1 (100 * x) ++ py "%"
  fixed0 := fixedText 0
  fixed4 := fixedText 4

theorem isNumberText_decimal (n : ℕ) : IsNumberText (decimal n) :=
  fun _ hc => Or.inl (digit_of_mem_decimal hc)

theorem IsNumberText.append {s t : PyStr} (hs : IsNumberText s) (ht : IsNumberText t) :
    IsNumberText (s ++ t) := by
  intro c hc
  rcases List.mem_append.mp hc with hc | hc
  · exact hs c hc
  · exact ht c hc

theorem isNumberText_placesText (scaled places : ℕ) : IsNumberText (placesText scaled places) := by
  induction places generalizing scaled with
  | zero => exact fun c hc => absurd hc List.not_mem_nil
  | succ places ih => exact (ih (scaled / 10)).append (isNumberText_decimal (scaled % 10))

theorem isNumberText_fixedText (places : ℕ) (x : ℚ) : IsNumberText (fixedText places x) := by
  have hempty : IsNumberText [] := fun c hc => absurd hc List.not_mem_nil
  have hpoint : IsNumberText (py ".") := by decide
  have hsign : IsNumberText (py "-") := by decide
  apply IsNumberText.append
  · apply IsNumberText.append _ (isNumberText_decimal _)
    split_ifs
    · exact hsign
    · exact hempty
  · split_ifs
    · exact hempty
    · exact hpoint.append (isNumberText_placesText _ _)

theorem numeric_sampleFormats : sampleFormats.Numeric where
  percent0 x := (isNumberText_fixedText 0 (100 * x)).append (by decide)
  percent1 x := (isNumberText_fixedText 1 (100 * x)).append (by decide)
  fixed0 := isNumberText_fixedText 0
  fixed4 := isNumberText_fixedText 4

def sampleReport (costUsd : ℚ) : AccuracyReport :=
  aggregate (py "invoice") (py "openai")
    [[(py "currency", .matched), (py "due_date", .hallucinated)]] [costUsd] [1200] 0 0 []

theorem readable_sampleReport (costUsd : ℚ) : Readable (sampleReport costUsd) where
  title := by
    show 10 ∉ py "invoice" ++ py " / " ++ py "openai"
    decide
  fields := by
    show ∀ key ∈ [py "currency", py "due_date"], 96 ∉ key ∧ 10 ∉ key
    decide

theorem markdown_exact_sample :
    renderMarkdown sampleFormats (sampleReport (12 / 1000000)) =
        renderMarkdown sampleFormats (sampleReport (14 / 1000000)) ∧
      (sampleReport (12 / 1000000)).overallExactMatchRate =
        (sampleReport (14 / 1000000)).overallExactMatchRate := by
  obtain ⟨hiff, hrates⟩ := markdown_exact sampleFormats numeric_sampleFormats
    (sampleReport (12 / 1000000)) (sampleReport (14 / 1000000)) (readable_sampleReport _)
    (readable_sampleReport _)
  have hsame := hiff.mpr (by decide +kernel)
  exact ⟨hsame, (hrates hsame).2.1⟩

end ExtractApi.ReportMarkdown
