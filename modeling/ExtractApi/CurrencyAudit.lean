import ExtractApi.PythonText

/-!
# The currency audit (`scripts/audit_iso4217.py`)

`audit` compares the accepted codes with two published lists under a policy of exclusions and
retentions.  A policy is followed when the accepted codes are what it makes of the lists and
its own codes stand where it says they do (`Follows`); six differences are empty exactly then,
and between them they name every code that is out of place (`misplaced_iff`).
-/

namespace ExtractApi

open PythonText

/-! ## Policies -/

section Policy

variable {α : Type*} [DecidableEq α] (current historical accepted excluded retained : Finset α)

/-- The accepted codes are the current ones less the excluded ones, with the retained ones; what
    is excluded is current, and what is retained is historical and not current. -/
structure Follows : Prop where
  equation : accepted = current \ excluded ∪ retained
  excludedCurrent : excluded ⊆ current
  notCurrent : Disjoint retained current
  retainedHistorical : retained ⊆ historical

/-- A code that violates one of the conditions. -/
inductive Misplaced (code : α) : Prop
  | unaccepted : code ∈ current \ excluded ∪ retained → code ∉ accepted → Misplaced code
  | unlisted : code ∈ accepted → code ∉ current \ excluded ∪ retained → Misplaced code
  | excluded : code ∈ excluded → code ∉ current → Misplaced code
  | retained : code ∈ retained → code ∈ current → Misplaced code
  | historical : code ∈ retained → code ∉ historical → Misplaced code

/-- The differences that the audit reports, by name. -/
def differences : List (String × Finset α) :=
  [("current_not_accepted", (current \ excluded) \ accepted),
    ("accepted_not_current", (accepted \ current) \ retained),
    ("retained_not_accepted", retained \ accepted),
    ("retained_missing_from_history", retained \ historical),
    ("excluded_not_current", excluded \ current),
    ("retained_now_current", retained ∩ current)]

variable {current historical accepted excluded retained}

theorem follows_iff : Follows current historical accepted excluded retained ↔
    ∀ code, ¬ Misplaced current historical accepted excluded retained code := by
  constructor
  · intro h code hcode
    cases hcode with
    | unaccepted hmem hnot => exact hnot (h.equation ▸ hmem)
    | unlisted hmem hnot => exact hnot (h.equation ▸ hmem)
    | excluded hmem hnot => exact hnot (h.excludedCurrent hmem)
    | retained hmem hcurrent => exact Finset.disjoint_left.mp h.notCurrent hmem hcurrent
    | historical hmem hnot => exact hnot (h.retainedHistorical hmem)
  · intro h
    constructor
    · ext code
      constructor
      · intro hmem
        by_contra hnot
        exact h code (.unlisted hmem hnot)
      · intro hmem
        by_contra hnot
        exact h code (.unaccepted hmem hnot)
    · intro code hmem
      by_contra hnot
      exact h code (.excluded hmem hnot)
    · rw [Finset.disjoint_left]
      intro code hmem hcurrent
      exact h code (.retained hmem hcurrent)
    · intro code hmem
      by_contra hnot
      exact h code (.historical hmem hnot)

/-- The differences name the misplaced codes, unless an excluded code is accepted. -/
theorem misplaced_iff (hdisjoint : Disjoint excluded accepted) {code : α} :
    Misplaced current historical accepted excluded retained code ↔
      ∃ d ∈ differences current historical accepted excluded retained, code ∈ d.2 := by
  have hnot : code ∈ accepted → code ∉ excluded := fun hmem hex =>
    Finset.disjoint_left.mp hdisjoint hex hmem
  simp only [differences, List.mem_cons, List.not_mem_nil, or_false, exists_eq_or_imp,
    exists_eq_left, Finset.mem_sdiff, Finset.mem_inter]
  constructor
  · rintro (⟨hmem, hno⟩ | ⟨hmem, hno⟩ | ⟨hmem, hno⟩ | ⟨hmem, hcurrent⟩ | ⟨hmem, hno⟩)
    · rw [Finset.mem_union, Finset.mem_sdiff] at hmem
      rcases hmem with hmem | hmem
      · exact Or.inl ⟨hmem, hno⟩
      · exact Or.inr (Or.inr (Or.inl ⟨hmem, hno⟩))
    · rw [Finset.mem_union, Finset.mem_sdiff] at hno
      have hcurrent : code ∉ current := fun h => hno (Or.inl ⟨h, hnot hmem⟩)
      have hretained : code ∉ retained := fun h => hno (Or.inr h)
      exact Or.inr (Or.inl ⟨⟨hmem, hcurrent⟩, hretained⟩)
    · exact Or.inr (Or.inr (Or.inr (Or.inr (Or.inl ⟨hmem, hno⟩))))
    · exact Or.inr (Or.inr (Or.inr (Or.inr (Or.inr ⟨hmem, hcurrent⟩))))
    · exact Or.inr (Or.inr (Or.inr (Or.inl ⟨hmem, hno⟩)))
  · rintro (⟨hmem, hno⟩ | ⟨⟨hmem, hcurrent⟩, hretained⟩ | ⟨hmem, hno⟩ | ⟨hmem, hno⟩ |
      ⟨hmem, hno⟩ | ⟨hmem, hcurrent⟩)
    · exact .unaccepted (Finset.mem_union_left _ (Finset.mem_sdiff.mpr hmem)) hno
    · apply Misplaced.unlisted hmem
      rw [Finset.mem_union, Finset.mem_sdiff]
      rintro (h | h)
      · exact hcurrent h.1
      · exact hretained h
    · exact .unaccepted (Finset.mem_union_right _ hmem) hno
    · exact .historical hmem hno
    · exact .excluded hmem hno
    · exact .retained hmem hcurrent

end Policy

/-! ## The audit -/

structure SourceMetadata where
  sourceUrl : PyStr
  publicationDate : PyStr
  sha256 : PyStr
  recordCount : ℕ
  codeCount : ℕ
  noCurrencyRecordCount : ℕ

structure CurrencyList where
  codes : Finset PyStr
  metadata : SourceMetadata

inductive AuditStatus where
  | ok
  | drift
deriving DecidableEq, Repr

structure AuditReport where
  reportVersion : ℕ := 1
  status : AuditStatus
  provenance : PyStr
  acceptedCount : ℕ
  acceptedCurrentCount : ℕ
  sources : List (String × SourceMetadata)
  policy : List (String × List PyStr)
  findings : List (String × List PyStr)

/-- `AuditInputError` with its text. -/
structure AuditInputError where
  text : PyStr
deriving DecidableEq, Repr

def PROVENANCE : PyStr :=
  py "Local input origin and freshness are not authenticated; URLs are source references."

def EXCLUDED_CURRENT : Finset PyStr :=
  (["BOV", "CLF", "COU", "MXV", "USN", "UYI", "UYW", "XAD", "XAG", "XAU", "XBA", "XBB", "XBC",
    "XBD", "XPD", "XPT", "XSU", "XTS", "XUA", "XXX"].map py).toFinset

def RETAINED_HISTORICAL : Finset PyStr := (["ANG", "BGN"].map py).toFinset

/-- `re.fullmatch(r"[A-Z]{3}", code)` -/
def isCode (code : PyStr) : Bool :=
  decide (code.length = 3) && code.all fun c => decide (65 ≤ c.val) && decide (c.val ≤ 90)

/-- `sorted(codes)` -/
def sortedCodes (codes : Finset PyStr) : List PyStr := codes.sort (· ≤ ·)

def joinCodes (codes : Finset PyStr) : PyStr := List.intercalate (py ", ") (sortedCodes codes)

/-- The first set with a code that is none. -/
def malformedSet (sets : List (String × Finset PyStr)) : Option String :=
  (sets.find? fun s => decide (∃ code ∈ s.2, isCode code = false)).map Prod.fst

/-- The report of sets that are not refused. -/
def auditReport (excluded retained : Finset PyStr) (current historical : CurrencyList)
    (accepted : Finset PyStr) : AuditReport :=
  let findings := (differences current.codes historical.codes accepted excluded retained).map
    fun d => (d.1, sortedCodes d.2)
  { status := if findings.any fun f => !f.2.isEmpty then .drift else .ok
    provenance := PROVENANCE
    acceptedCount := accepted.card
    acceptedCurrentCount := (accepted ∩ current.codes).card
    sources := [("current", current.metadata), ("historical", historical.metadata)]
    policy := [("excluded_current", sortedCodes excluded),
      ("retained_historical", sortedCodes retained)]
    findings := findings }

/-- `audit`, under a policy. -/
def audit (excluded retained : Finset PyStr) (current historical : CurrencyList)
    (accepted : Finset PyStr) : Except AuditInputError AuditReport :=
  match malformedSet [("accepted", accepted), ("excluded_current", excluded),
      ("retained_historical", retained)] with
  | some name => .error ⟨py name ++ py ": codes must be three uppercase ASCII letters"⟩
  | none =>
      let overlap := excluded ∩ retained
      let excludedAccepted := excluded ∩ accepted
      if overlap ≠ ∅ then
        .error ⟨py "excluded and retained policy rules overlap: " ++ joinCodes overlap⟩
      else if excludedAccepted ≠ ∅ then
        .error ⟨py "excluded codes are accepted: " ++ joinCodes excludedAccepted⟩
      else .ok (auditReport excluded retained current historical accepted)

theorem mem_sortedCodes {codes : Finset PyStr} {code : PyStr} :
    code ∈ sortedCodes codes ↔ code ∈ codes := Finset.mem_sort _

section Audit

variable {excluded retained accepted : Finset PyStr}

theorem malformedSet_eq_none {sets : List (String × Finset PyStr)} :
    malformedSet sets = none ↔ ∀ s ∈ sets, ∀ code ∈ s.2, isCode code = true := by
  simp [malformedSet, List.find?_eq_none]

/-- Sets of codes, under a policy that does not contradict itself, are not refused. -/
theorem audit_eq_ok (haccepted : ∀ code ∈ accepted, isCode code = true)
    (hexcluded : ∀ code ∈ excluded, isCode code = true)
    (hretained : ∀ code ∈ retained, isCode code = true) (hpolicy : Disjoint excluded retained)
    (hdisjoint : Disjoint excluded accepted) (current historical : CurrencyList) :
    audit excluded retained current historical accepted =
      .ok (auditReport excluded retained current historical accepted) := by
  have hformed : malformedSet [("accepted", accepted), ("excluded_current", excluded),
      ("retained_historical", retained)] = none := by
    rw [malformedSet_eq_none]
    intro s hs
    simp only [List.mem_cons, List.not_mem_nil, or_false] at hs
    rcases hs with rfl | rfl | rfl
    · exact haccepted
    · exact hexcluded
    · exact hretained
  have hoverlap : excluded ∩ retained = ∅ := Finset.disjoint_iff_inter_eq_empty.mp hpolicy
  have hexcludes : excluded ∩ accepted = ∅ := Finset.disjoint_iff_inter_eq_empty.mp hdisjoint
  rw [audit, hformed]
  simp only [hoverlap, hexcludes, ne_eq, not_true, if_false]

theorem mem_findings (hdisjoint : Disjoint excluded accepted) (current historical : CurrencyList)
    (code : PyStr) :
    (∃ f ∈ (auditReport excluded retained current historical accepted).findings, code ∈ f.2) ↔
      Misplaced current.codes historical.codes accepted excluded retained code := by
  rw [misplaced_iff hdisjoint]
  constructor
  · rintro ⟨f, hf, hcode⟩
    obtain ⟨d, hd, rfl⟩ := List.mem_map.mp hf
    exact ⟨d, hd, mem_sortedCodes.mp hcode⟩
  · rintro ⟨d, hd, hcode⟩
    exact ⟨_, List.mem_map_of_mem hd, mem_sortedCodes.mpr hcode⟩

/-- Something is found unless the policy is followed. -/
theorem findings_iff (hdisjoint : Disjoint excluded accepted) (current historical : CurrencyList) :
    ((auditReport excluded retained current historical accepted).findings.any
        fun f => !f.2.isEmpty) = true ↔
      ¬ Follows current.codes historical.codes accepted excluded retained := by
  rw [follows_iff, not_forall, List.any_eq_true]
  constructor
  · rintro ⟨f, hf, hfilled⟩
    obtain ⟨code, hcode⟩ := List.exists_mem_of_ne_nil f.2 (by simpa using hfilled)
    have hmisplaced := (mem_findings hdisjoint current historical code).mp ⟨f, hf, hcode⟩
    exact ⟨code, not_not.mpr hmisplaced⟩
  · rintro ⟨code, hcode⟩
    obtain ⟨f, hf, hmem⟩ := (mem_findings hdisjoint current historical code).mpr (not_not.mp hcode)
    have hne : f.2 ≠ [] := List.ne_nil_of_mem hmem
    exact ⟨f, hf, by simpa using hne⟩

/-- **The audit says `ok` exactly of a policy that is followed**, and otherwise every code that
    is out of place is among its findings, and no other. -/
theorem audit_exact (current historical : CurrencyList) (accepted excluded retained : Finset PyStr)
    (haccepted : ∀ code ∈ accepted, isCode code = true)
    (hexcluded : ∀ code ∈ excluded, isCode code = true)
    (hretained : ∀ code ∈ retained, isCode code = true) (hpolicy : Disjoint excluded retained)
    (hdisjoint : Disjoint excluded accepted) :
    ∃ r, audit excluded retained current historical accepted = .ok r ∧
      (r.status = .ok ↔ Follows current.codes historical.codes accepted excluded retained) ∧
      (¬ Follows current.codes historical.codes accepted excluded retained → r.status = .drift) ∧
      ∀ code, Misplaced current.codes historical.codes accepted excluded retained code ↔
        ∃ f ∈ r.findings, code ∈ f.2 := by
  have hfound := @findings_iff excluded retained accepted hdisjoint current historical
  refine ⟨_, audit_eq_ok haccepted hexcluded hretained hpolicy hdisjoint current historical,
    ?_, ?_, fun code => (mem_findings hdisjoint current historical code).symm⟩
  · by_cases hfollows : Follows current.codes historical.codes accepted excluded retained
    · have hstatus : (auditReport excluded retained current historical accepted).status = .ok :=
        if_neg fun h => hfound.mp h hfollows
      exact iff_of_true hstatus hfollows
    · have hstatus : (auditReport excluded retained current historical accepted).status = .drift :=
        if_pos (hfound.mpr hfollows)
      rw [hstatus]
      exact iff_of_false (by simp) hfollows
  · intro hnot
    exact if_pos (hfound.mpr hnot)

end Audit

/-- A list of the codes. -/
def sampleList (codes : List String) : CurrencyList where
  codes := (codes.map py).toFinset
  metadata := ⟨py "local", py "2026-01-01", py "00", codes.length, codes.length, 0⟩

theorem audit_exact_sample :
    ∃ r, audit {py "XAU"} {py "ANG"} (sampleList ["GBP", "XAU"]) (sampleList ["ANG"])
        {py "GBP", py "ANG"} = .ok r ∧
      (r.status = .ok ↔ Follows (sampleList ["GBP", "XAU"]).codes (sampleList ["ANG"]).codes
        {py "GBP", py "ANG"} {py "XAU"} {py "ANG"}) :=
  have ⟨r, haudit, hstatus, _⟩ := audit_exact (sampleList ["GBP", "XAU"]) (sampleList ["ANG"])
    {py "GBP", py "ANG"} {py "XAU"} {py "ANG"} (by decide) (by decide) (by decide) (by decide)
    (by decide)
  ⟨r, haudit, hstatus⟩

/-! ## The committed policy -/

theorem isCode_committed : ∀ code ∈ EXCLUDED_CURRENT ∪ RETAINED_HISTORICAL, isCode code = true := by
  decide +kernel

theorem disjoint_committed : Disjoint EXCLUDED_CURRENT RETAINED_HISTORICAL := by decide +kernel

end ExtractApi
