import ExtractApi.CurrencyAudit
import ExtractApi.KeyHashes
import ExtractApi.RaisingProgram
import ExtractApi.StrictValues

/-!
# The sources of the currency audit

`read_source` takes a published list from the bytes of a file.  ElementTree gives the tree;
what the reader makes of it is here: the root, the date, the one table, and its records one by
one.  `readSource_exact` says that it accepts the published lists and no others, and that what
it says of a bad record is about the first.  `auditMain_exact` takes the command from the two
files to its exit code.
-/

namespace ExtractApi

open PythonText RaisingProgram

/-! ## Trees -/

/-- An element of ElementTree: the text before its first child, and its children. -/
inductive Element where
  | mk (tag : PyStr) (attrib : List (PyStr × PyStr)) (text : Option PyStr)
      (children : List Element)

namespace Element

def tag : Element → PyStr
  | .mk tag _ _ _ => tag

def attrib : Element → List (PyStr × PyStr)
  | .mk _ attrib _ _ => attrib

def text : Element → Option PyStr
  | .mk _ _ text _ => text

def children : Element → List Element
  | .mk _ _ _ children => children

/-- `element.get(name, "")` -/
def get (e : Element) (name : PyStr) : PyStr := (e.attrib.lookup name).getD []

/-- `element.findall(tag)` -/
def findall (e : Element) (tag : PyStr) : List Element :=
  e.children.filter fun child => decide (child.tag = tag)

/-- `element.findtext(tag)` -/
def findtext (e : Element) (tag : PyStr) : Option PyStr :=
  (e.findall tag).head?.map fun child => child.text.getD []

end Element

/-! ## Reading a source -/

inductive SourceKind where
  | current
  | historical
deriving DecidableEq, Repr

namespace SourceKind

def value : SourceKind → PyStr
  | .current => py "current"
  | .historical => py "historical"

def tableTag : SourceKind → PyStr
  | .current => py "CcyTbl"
  | .historical => py "HstrcCcyTbl"

def recordTag : SourceKind → PyStr
  | .current => py "CcyNtry"
  | .historical => py "HstrcCcyNtry"

def otherTable : SourceKind → PyStr
  | .current => py "HstrcCcyTbl"
  | .historical => py "CcyTbl"

/-- `SOURCE_URLS` -/
def sourceUrl : SourceKind → PyStr
  | .current => py "https://www.six-group.com/dam/download/financial-information/" ++
      py "data-center/iso-currrency/lists/list-one.xml"
  | .historical => py "https://www.six-group.com/dam/download/financial-information/" ++
      py "data-center/iso-currrency/lists/list-three.xml"

end SourceKind

def MAX_XML_BYTES : ℕ := 2 * 1024 * 1024

/-- What the command takes from the standard library. -/
structure AuditLibs where
  isPrintable : CodePoint → Bool
  sha256 : List Byte → List Byte
  /-- the root that `_NoDoctypeTreeBuilder` builds, or the text of what the parser raises -/
  parseXml : List Byte → Except PyStr Element
  /-- `json.dumps(report, indent=2, sort_keys=True)` -/
  jsonReport : AuditReport → PyStr

/-- A file: its path, and its bytes or the text of the `OSError`. -/
structure SourceFile where
  path : PyStr
  content : Except PyStr (List Byte)

/-- `re.fullmatch(r"[0-9]{4}-[0-9]{2}-[0-9]{2}", publication)` -/
def hasDateShape (s : PyStr) : Bool :=
  match s with
  | [y₁, y₂, y₃, y₄, dash₁, m₁, m₂, dash₂, d₁, d₂] =>
      [y₁, y₂, y₃, y₄, m₁, m₂, d₁, d₂].all (fun c => decide (48 ≤ c.val ∧ c.val ≤ 57)) &&
        decide (dash₁ = 45) && decide (dash₂ = 45)
  | _ => false

/-- `date.fromisoformat`, on a text of the shape -/
def fromIsoformat (s : PyStr) : Option Date := sampleDate s

section Read

variable (libs : AuditLibs) (kind : SourceKind)

/-- What the loop makes of one record: its code, or no currency; or the text of the error. -/
def readRecord (record : Element) : Except PyStr (Option PyStr) :=
  let elements := record.findall (py "Ccy")
  let code := (record.findtext (py "Ccy")).getD []
  if record.tag ≠ kind.recordTag then
    .error (py "expected " ++ kind.recordTag ++ py ", got " ++ record.tag)
  else if 1 < elements.length ∨ elements.head?.any (fun e => !e.children.isEmpty) = true then
    .error (py "expected one plain Ccy value")
  else if code = [] then
    if kind = .current ∧ record.findtext (py "CcyNm") = some (py "No universal currency") ∧
        (record.findtext (py "CcyNbr")).getD [] = [] then .ok none
    else .error (py "missing Ccy")
  else if isCode code then .ok (some code)
  else .error (py "Ccy must be three uppercase ASCII letters")

/-- The loop, from the record of the index on. -/
def readRecords : ℕ → List Element → Finset PyStr → ℕ →
    Except AuditInputError (Finset PyStr × ℕ)
  | _, [], codes, noCurrencyCount => .ok (codes, noCurrencyCount)
  | index, record :: records, codes, noCurrencyCount =>
      match readRecord kind record with
      | .error text =>
          .error ⟨kind.value ++ py ": record " ++ decimal index ++ py ": " ++ text⟩
      | .ok none => readRecords (index + 1) records codes (noCurrencyCount + 1)
      | .ok (some code) => readRecords (index + 1) records (insert code codes) noCurrencyCount

/-- An error of the source, before its records. -/
def sourceError {α : Type} (text : PyStr) : Except AuditInputError α :=
  .error ⟨kind.value ++ py ": " ++ text⟩

/-- `read_source` -/
def readSource (file : SourceFile) : Except AuditInputError CurrencyList :=
  match file.content with
  | .error text => sourceError kind (py "cannot read " ++ file.path ++ py ": " ++ text)
  | .ok raw =>
      if MAX_XML_BYTES < raw.length then
        sourceError kind (py "XML exceeds " ++ decimal MAX_XML_BYTES ++ py " bytes")
      else
        match libs.parseXml raw with
        | .error text => sourceError kind (py "invalid XML: " ++ text)
        | .ok root =>
            let publication := root.get (py "Pblshd")
            if root.tag ≠ py "ISO_4217" then sourceError kind (py "expected ISO_4217 root")
            else if hasDateShape publication = false ∨ fromIsoformat publication = none then
              sourceError kind (py "invalid or missing Pblshd date: " ++
                pyRepr libs.isPrintable publication)
            else
              match root.findall kind.tableTag, root.findall kind.otherTable with
              | [table], [] =>
                  match readRecords kind 1 table.children ∅ 0 with
                  | .error e => .error e
                  | .ok (codes, noCurrencyCount) =>
                      if codes = ∅ then sourceError kind (py "no currency codes found")
                      else
                        .ok
                          { codes := codes
                            metadata :=
                              { sourceUrl := kind.sourceUrl
                                publicationDate := publication
                                sha256 := hexDigest (libs.sha256 raw)
                                recordCount := table.children.length
                                codeCount := codes.card
                                noCurrencyRecordCount := noCurrencyCount } }
              | _, _ => sourceError kind (py "expected exactly one " ++ kind.tableTag ++
                  py " and no " ++ kind.otherTable)

end Read

/-! ## What a published list is -/

/-- The record has the code, in one plain element. -/
def HasCode (record : Element) (code : PyStr) : Prop :=
  ∃ e, record.findall (py "Ccy") = [e] ∧ e.children = [] ∧ e.text = some code ∧ isCode code = true

/-- The record is of a territory without a currency of its own. -/
structure HasNoCurrency (record : Element) : Prop where
  empty : record.findall (py "Ccy") = [] ∨
    ∃ e, record.findall (py "Ccy") = [e] ∧ e.children = [] ∧ e.text.getD [] = []
  named : record.findtext (py "CcyNm") = some (py "No universal currency")
  unnumbered : (record.findtext (py "CcyNbr")).getD [] = []

/-- What a record of the source stands for: a code, or, in the current list, no currency. -/
def Denotes (kind : SourceKind) (record : Element) : Option PyStr → Prop
  | some code => HasCode record code
  | none => kind = .current ∧ HasNoCurrency record

structure IsRecord (kind : SourceKind) (record : Element) (code : Option PyStr) : Prop where
  tagged : record.tag = kind.recordTag
  denotes : Denotes kind record code

variable {libs : AuditLibs} {kind : SourceKind} {record : Element}

theorem isCode_ne_nil {code : PyStr} (h : isCode code = true) : code ≠ [] := by
  rintro rfl
  cases h

/-- What the record holds in its `Ccy`, if that is one plain element or none. -/
def plainText (record : Element) : Option PyStr :=
  match record.findall (py "Ccy") with
  | [] => some []
  | [e] => if e.children.isEmpty then some (e.text.getD []) else none
  | _ => none

theorem hasCode_iff {code : PyStr} :
    HasCode record code ↔ plainText record = some code ∧ isCode code = true := by
  rw [HasCode, plainText]
  constructor
  · rintro ⟨e, hccy, hplain, htext, hcode⟩
    simp [hccy, hplain, htext, hcode]
  · rintro ⟨htext, hcode⟩
    have hne := isCode_ne_nil hcode
    split at htext
    · cases htext
      exact absurd rfl hne
    · split_ifs at htext with hplain
      rename_i e hccy
      refine ⟨e, hccy, List.isEmpty_iff.mp hplain, ?_, hcode⟩
      rw [Option.some.injEq] at htext
      rcases hfound : e.text with _ | text
      · rw [hfound] at htext
        exact absurd htext.symm hne
      · rw [hfound] at htext
        exact congrArg some htext
    · cases htext

theorem hasNoCurrency_iff :
    HasNoCurrency record ↔ plainText record = some [] ∧
      record.findtext (py "CcyNm") = some (py "No universal currency") ∧
        (record.findtext (py "CcyNbr")).getD [] = [] := by
  have hempty : (record.findall (py "Ccy") = [] ∨
      ∃ e, record.findall (py "Ccy") = [e] ∧ e.children = [] ∧ e.text.getD [] = []) ↔
      plainText record = some [] := by
    rw [plainText]
    constructor
    · rintro (hccy | ⟨e, hccy, hplain, htext⟩)
      · simp [hccy]
      · simp [hccy, hplain, htext]
    · intro htext
      split at htext
      · exact Or.inl ‹_›
      · split_ifs at htext with hplain
        rename_i e hccy
        exact Or.inr ⟨e, hccy, List.isEmpty_iff.mp hplain, Option.some.inj htext⟩
      · cases htext
  rw [← hempty]
  exact ⟨fun h => ⟨h.empty, h.named, h.unnumbered⟩, fun h => ⟨h.1, h.2.1, h.2.2⟩⟩

/-- The checks, on the text of a record of the right tag. -/
theorem readRecord_eq (htag : record.tag = kind.recordTag) :
    readRecord kind record =
      match plainText record with
      | none => .error (py "expected one plain Ccy value")
      | some code =>
          if code = [] then
            if kind = .current ∧
                record.findtext (py "CcyNm") = some (py "No universal currency") ∧
                (record.findtext (py "CcyNbr")).getD [] = [] then .ok none
            else .error (py "missing Ccy")
          else if isCode code then .ok (some code)
          else .error (py "Ccy must be three uppercase ASCII letters") := by
  have htext : record.findtext (py "Ccy") =
      (record.findall (py "Ccy")).head?.map fun child => child.text.getD [] := rfl
  rw [readRecord, if_neg (not_not.mpr htag), htext, plainText]
  rcases record.findall (py "Ccy") with _ | ⟨e, _ | ⟨e', rest⟩⟩
  · simp
  · by_cases hplain : e.children.isEmpty = true
    · simp only [List.length_singleton, List.head?_cons, Option.any_some, Option.map_some,
        Option.getD_some, hplain, if_true]
      rfl
    · simp [hplain]
  · simp

/-- The checks accept the records and no others. -/
theorem readRecord_eq_ok_iff {code : Option PyStr} :
    readRecord kind record = .ok code ↔ IsRecord kind record code := by
  by_cases htag : record.tag = kind.recordTag
  swap
  · rw [readRecord, if_pos htag]
    apply iff_of_false
    · intro h
      cases h
    · exact fun h => htag h.tagged
  have hrecord : IsRecord kind record code ↔ Denotes kind record code :=
    ⟨fun h => h.denotes, fun h => ⟨htag, h⟩⟩
  rw [readRecord_eq htag, hrecord]
  rcases code with _ | code
  · rw [Denotes, hasNoCurrency_iff]
    rcases plainText record with _ | text
    · simp
    · by_cases hempty : text = []
      · simp [hempty]
      · simp only [hempty, if_false, Option.some.injEq, false_and, and_false, iff_false]
        split_ifs <;> simp
  · rw [Denotes, hasCode_iff]
    rcases plainText record with _ | text
    · simp
    · by_cases hempty : text = []
      · subst hempty
        simp only [if_true, Option.some.injEq]
        apply iff_of_false
        · split_ifs <;> simp
        · rintro ⟨rfl, hcode⟩
          exact isCode_ne_nil hcode rfl
      · simp only [hempty, if_false, Option.some.injEq]
        constructor
        · intro h
          split_ifs at h with hcode
          cases h
          exact ⟨rfl, hcode⟩
        · rintro ⟨rfl, hcode⟩
          rw [if_pos hcode]

/-! ## The loop -/

/-- The error names the first of the records that is none; `index` is that of the first record. -/
def NamesFirst (kind : SourceKind) (index : ℕ) (records : List Element) (e : AuditInputError) :
    Prop :=
  ∃ before record after text, records = before ++ record :: after ∧
    (∀ r ∈ before, ∃ code, IsRecord kind r code) ∧ (∀ code, ¬ IsRecord kind record code) ∧
    e.text = kind.value ++ py ": record " ++ decimal (index + before.length) ++ py ": " ++ text

theorem named_after {index : ℕ} {records : List Element} {e : AuditInputError}
    {code : Option PyStr} (hrecord : IsRecord kind record code)
    (h : NamesFirst kind (index + 1) records e) : NamesFirst kind index (record :: records) e := by
  obtain ⟨before, first, after, text, rfl, hbefore, hfirst, htext⟩ := h
  refine ⟨record :: before, first, after, text, rfl, ?_, hfirst, ?_⟩
  · intro r hr
    rcases List.mem_cons.mp hr with rfl | hr
    · exact ⟨code, hrecord⟩
    · exact hbefore r hr
  · rw [htext, List.length_cons, add_assoc, add_comm 1]

/-- What the loop over the records comes to: a list of what they stand for, or an error that
    names the first that is none. -/
theorem readRecords_spec (records : List Element) :
    ∀ (index : ℕ) (codes : Finset PyStr) (noCurrencyCount : ℕ),
      match readRecords kind index records codes noCurrencyCount with
      | .ok (codes', noCurrencyCount') => ∃ found, List.Forall₂ (IsRecord kind) records found ∧
          codes' = codes ∪ found.reduceOption.toFinset ∧
          noCurrencyCount' = noCurrencyCount + found.count none
      | .error e => NamesFirst kind index records e := by
  -- on the records, for any codes and counts of those before them
  induction records with
  | nil =>
    intro index codes noCurrencyCount
    exact ⟨[], .nil, by simp, by simp⟩
  | cons record records ih =>
    intro index codes noCurrencyCount
    rw [readRecords]
    rcases hrecord : readRecord kind record with text | _ | code
    · refine ⟨[], record, records, text, rfl, by simp, ?_, rfl⟩
      intro code hcode
      rw [readRecord_eq_ok_iff.mpr hcode] at hrecord
      cases hrecord
    · have hrest := ih (index + 1) codes (noCurrencyCount + 1)
      simp only
      rcases hrun : readRecords kind (index + 1) records codes (noCurrencyCount + 1) with
        e | ⟨codes', count⟩
      · rw [hrun] at hrest
        exact named_after (readRecord_eq_ok_iff.mp hrecord) hrest
      · rw [hrun] at hrest
        obtain ⟨found, hfound, hcodes, hcount⟩ := hrest
        refine ⟨none :: found, .cons (readRecord_eq_ok_iff.mp hrecord) hfound, ?_, ?_⟩
        · simpa using hcodes
        · rw [hcount, List.count_cons_self]
          omega
    · have hrest := ih (index + 1) (insert code codes) noCurrencyCount
      simp only
      rcases hrun : readRecords kind (index + 1) records (insert code codes) noCurrencyCount with
        e | ⟨codes', count⟩
      · rw [hrun] at hrest
        exact named_after (readRecord_eq_ok_iff.mp hrecord) hrest
      · rw [hrun] at hrest
        obtain ⟨found, hfound, hcodes, hcount⟩ := hrest
        refine ⟨some code :: found, .cons (readRecord_eq_ok_iff.mp hrecord) hfound, ?_, ?_⟩
        · rw [hcodes, List.reduceOption_cons_of_some, List.toFinset_cons, Finset.insert_union,
            Finset.union_insert]
        · rw [hcount, List.count_cons_of_ne (by simp)]

theorem IsRecord.unique {code code' : Option PyStr} (h : IsRecord kind record code)
    (h' : IsRecord kind record code') : code = code' := by
  have hread := readRecord_eq_ok_iff.mpr h
  rw [readRecord_eq_ok_iff.mpr h'] at hread
  exact (Except.ok.inj hread).symm

theorem unique_of_records {records : List Element} {found : List (Option PyStr)}
    (h : List.Forall₂ (IsRecord kind) records found) :
    ∀ {found'}, List.Forall₂ (IsRecord kind) records found' → found' = found := by
  induction h with
  | nil =>
    intro found' h'
    exact List.forall₂_nil_left_iff.mp h'
  | cons hrecord _ ih =>
    intro found' h'
    obtain ⟨code', rest', hrecord', hrest', rfl⟩ := List.forall₂_cons_left_iff.mp h'
    rw [hrecord'.unique hrecord, ih hrest']

theorem records_of_forall₂ {records : List Element} {found : List (Option PyStr)}
    (h : List.Forall₂ (IsRecord kind) records found) :
    (∀ record ∈ records, ∃ code, IsRecord kind record code) ∧
      ∀ code ∈ found, ∃ record, IsRecord kind record code := by
  induction h with
  | nil => simp
  | cons hrecord _ ih =>
    rw [List.forall_mem_cons, List.forall_mem_cons]
    exact ⟨⟨⟨_, hrecord⟩, ih.1⟩, ⟨_, hrecord⟩, ih.2⟩

theorem readRecords_of_records {records : List Element} {found : List (Option PyStr)}
    (h : List.Forall₂ (IsRecord kind) records found) {index noCurrencyCount : ℕ}
    {codes : Finset PyStr} :
    readRecords kind index records codes noCurrencyCount =
      .ok (codes ∪ found.reduceOption.toFinset, noCurrencyCount + found.count none) := by
  have hspec := @readRecords_spec kind records index codes noCurrencyCount
  rcases hrun : readRecords kind index records codes noCurrencyCount with e | ⟨codes', count⟩
  · rw [hrun] at hspec
    obtain ⟨before, record, after, text, rfl, -, hnone, -⟩ := hspec
    obtain ⟨code, hcode⟩ := (records_of_forall₂ h).1 record (by simp)
    exact absurd hcode (hnone code)
  · rw [hrun] at hspec
    obtain ⟨found', hfound', rfl, rfl⟩ := hspec
    rw [unique_of_records h hfound']

theorem isCode_of_records {records : List Element} {found : List (Option PyStr)}
    (h : List.Forall₂ (IsRecord kind) records found) :
    ∀ code ∈ found.reduceOption.toFinset, isCode code = true := by
  intro code hcode
  rw [List.mem_toFinset, List.reduceOption_mem_iff] at hcode
  obtain ⟨record, hrecord⟩ := (records_of_forall₂ h).2 _ hcode
  obtain ⟨-, -, -, -, hcode⟩ := hrecord.denotes
  exact hcode

theorem counts_of_records {records : List Element} {found : List (Option PyStr)}
    (h : List.Forall₂ (IsRecord kind) records found) :
    found.reduceOption.toFinset.card + found.count none ≤ records.length := by
  have hcard := List.toFinset_card_le found.reduceOption
  have hsplit : found.reduceOption.length + found.count none = found.length := by
    clear h hcard
    induction found with
    | nil => rfl
    | cons code found ih =>
      rcases code with _ | code
      · rw [List.reduceOption_cons_of_none, List.count_cons_self, List.length_cons]
        omega
      · rw [List.reduceOption_cons_of_some, List.count_cons_of_ne (by simp), List.length_cons,
          List.length_cons]
        omega
  rw [h.length_eq]
  omega

/-! ## The source -/

/-- A publication date is one exactly when it is the text of a date. -/
theorem publicationDate_iff {s : PyStr} :
    ¬ (hasDateShape s = false ∨ fromIsoformat s = none) ↔ ∃ d : Date, s = d.isoformat := by
  have hdigit : ∀ n, 48 ≤ (lastDigit n).val ∧ (lastDigit n).val ≤ 57 := by
    intro n
    show 48 ≤ 48 + n % 10 ∧ 48 + n % 10 ≤ 57
    omega
  constructor
  · intro h
    rw [not_or, Bool.not_eq_false] at h
    obtain ⟨hshape, hdate⟩ := h
    obtain ⟨d, hd⟩ := Option.ne_none_iff_exists'.mp hdate
    refine ⟨d, ?_⟩
    rw [fromIsoformat] at hd
    unfold hasDateShape at hshape
    split at hshape
    · rename_i y₁ y₂ y₃ y₄ dash₁ m₁ m₂ dash₂ d₁ d₂
      simp only [List.all_cons, List.all_nil, Bool.and_eq_true, decide_eq_true_eq,
        Bool.and_true] at hshape
      obtain ⟨⟨⟨hy₁, hy₂, hy₃, hy₄, hm₁, hm₂, hd₁, hd₂⟩, rfl⟩, rfl⟩ := hshape
      simp only [sampleDate] at hd
      split_ifs at hd with hrange
      cases hd
      simp only [Date.isoformat, digitValue, List.cons.injEq, and_true, true_and]
      refine ⟨?_, ?_, ?_, ?_, ?_, ?_, ?_, ?_⟩
      all_goals
        apply Fin.ext
        simp only [lastDigit]
        omega
    · cases hshape
  · rintro ⟨d, rfl⟩
    rw [fromIsoformat, sampleDate_isoformat]
    simp [hasDateShape, Date.isoformat, hdigit]

/-- The file is read down to its one table. -/
structure HasTable (libs : AuditLibs) (kind : SourceKind) (file : SourceFile) (raw : List Byte)
    (root table : Element) (date : Date) : Prop where
  read : file.content = .ok raw
  bounded : raw.length ≤ MAX_XML_BYTES
  parsed : libs.parseXml raw = .ok root
  tagged : root.tag = py "ISO_4217"
  dated : root.get (py "Pblshd") = date.isoformat
  oneTable : root.findall kind.tableTag = [table]
  noOther : root.findall kind.otherTable = []

/-- The file is a published list: its table is of records, with some code. -/
structure Publishes (libs : AuditLibs) (kind : SourceKind) (file : SourceFile) (raw : List Byte)
    (root table : Element) (date : Date) (found : List (Option PyStr)) : Prop
    extends HasTable libs kind file raw root table date where
  records : List.Forall₂ (IsRecord kind) table.children found
  filled : found.reduceOption.toFinset ≠ ∅

/-- The list that is published. -/
def publishedList (libs : AuditLibs) (kind : SourceKind) (raw : List Byte) (table : Element)
    (date : Date) (found : List (Option PyStr)) : CurrencyList where
  codes := found.reduceOption.toFinset
  metadata :=
    { sourceUrl := kind.sourceUrl
      publicationDate := date.isoformat
      sha256 := hexDigest (libs.sha256 raw)
      recordCount := table.children.length
      codeCount := found.reduceOption.toFinset.card
      noCurrencyRecordCount := found.count none }

def Published (libs : AuditLibs) (kind : SourceKind) (file : SourceFile) (list : CurrencyList) :
    Prop :=
  ∃ raw root table date found, Publishes libs kind file raw root table date found ∧
    list = publishedList libs kind raw table date found

variable {file : SourceFile} {raw : List Byte} {root table : Element} {date : Date}

/-- What is made of the table. -/
theorem readSource_eq (h : HasTable libs kind file raw root table date) :
    readSource libs kind file =
      match readRecords kind 1 table.children ∅ 0 with
      | .error e => .error e
      | .ok (codes, noCurrencyCount) =>
          if codes = ∅ then sourceError kind (py "no currency codes found")
          else
            .ok
              { codes := codes
                metadata :=
                  { sourceUrl := kind.sourceUrl
                    publicationDate := date.isoformat
                    sha256 := hexDigest (libs.sha256 raw)
                    recordCount := table.children.length
                    codeCount := codes.card
                    noCurrencyRecordCount := noCurrencyCount } } := by
  have hsmall : ¬ MAX_XML_BYTES < raw.length := not_lt.mpr h.bounded
  have hdated := publicationDate_iff.mpr ⟨date, rfl⟩
  simp only [readSource, h.read, if_neg hsmall, h.parsed, if_neg (not_not.mpr h.tagged), h.dated,
    if_neg hdated, h.oneTable, h.noOther]

theorem table_of_readSource {list : CurrencyList} (h : readSource libs kind file = .ok list) :
    ∃ raw root table date, HasTable libs kind file raw root table date := by
  rw [readSource] at h
  rcases hread : file.content with text | raw
  · rw [hread] at h
    cases h
  simp only [hread] at h
  split_ifs at h with hlarge
  · cases h
  rcases hparsed : libs.parseXml raw with text | root
  · rw [hparsed] at h
    cases h
  simp only [hparsed] at h
  split_ifs at h with htag hdate
  · cases h
  · cases h
  obtain ⟨date, hdated⟩ := publicationDate_iff.mp hdate
  split at h
  · exact ⟨raw, root, _, date, hread, not_lt.mp hlarge, hparsed, not_not.mp htag, hdated, ‹_›, ‹_›⟩
  · cases h

theorem kind_of_sourceError {α : Type} {text : PyStr} {e : AuditInputError}
    (h : (sourceError kind text : Except AuditInputError α) = .error e) :
    e.text = kind.value ++ py ": " ++ text := by
  cases h
  rfl

theorem kind_of_namesFirst {index : ℕ} {records : List Element} {e : AuditInputError}
    (h : NamesFirst kind index records e) : ∃ text, e.text = kind.value ++ py ": " ++ text := by
  obtain ⟨before, record, after, text, -, -, -, htext⟩ := h
  have hword : py ": record " = py ": " ++ py "record " := rfl
  refine ⟨py "record " ++ decimal (index + before.length) ++ py ": " ++ text, ?_⟩
  rw [htext, hword]
  simp only [List.append_assoc]

/-- Every error says which source it is about. -/
theorem kind_of_readSource {e : AuditInputError} (h : readSource libs kind file = .error e) :
    ∃ text, e.text = kind.value ++ py ": " ++ text := by
  rw [readSource] at h
  rcases hread : file.content with text | raw
  · simp only [hread] at h
    exact ⟨_, kind_of_sourceError h⟩
  simp only [hread] at h
  split_ifs at h
  · exact ⟨_, kind_of_sourceError h⟩
  rcases hparsed : libs.parseXml raw with text | root
  · simp only [hparsed] at h
    exact ⟨_, kind_of_sourceError h⟩
  simp only [hparsed] at h
  split_ifs at h
  · exact ⟨_, kind_of_sourceError h⟩
  · exact ⟨_, kind_of_sourceError h⟩
  split at h
  · rename_i table _ _
    have hspec := @readRecords_spec kind table.children 1 ∅ 0
    rcases hrun : readRecords kind 1 table.children ∅ 0 with e' | ⟨codes, count⟩
    · rw [hrun] at hspec
      simp only [hrun] at h
      cases h
      exact kind_of_namesFirst hspec
    · simp only [hrun] at h
      split_ifs at h
      exact ⟨_, kind_of_sourceError h⟩
  · exact ⟨_, kind_of_sourceError h⟩

theorem readSource_eq_ok_iff {list : CurrencyList} :
    readSource libs kind file = .ok list ↔ Published libs kind file list := by
  constructor
  · intro h
    obtain ⟨raw, root, table, date, htable⟩ := table_of_readSource h
    have hspec := @readRecords_spec kind table.children 1 ∅ 0
    rw [readSource_eq htable] at h
    rcases hrun : readRecords kind 1 table.children ∅ 0 with e | ⟨codes, count⟩
    · rw [hrun] at h
      cases h
    · rw [hrun] at h hspec
      obtain ⟨found, hfound, hcodes, hcount⟩ := hspec
      rw [Finset.empty_union] at hcodes
      rw [Nat.zero_add] at hcount
      subst hcodes
      subst hcount
      simp only at h
      split_ifs at h with hempty
      · cases h
      · cases h
        exact ⟨raw, root, table, date, found, ⟨htable, hfound, hempty⟩, rfl⟩
  · rintro ⟨raw, root, table, date, found, hpublishes, rfl⟩
    rw [readSource_eq hpublishes.toHasTable, readRecords_of_records hpublishes.records,
      Finset.empty_union, Nat.zero_add]
    exact if_neg hpublishes.filled

/-- **`read_source` accepts the published lists and no others.**  The list it returns is of codes,
    and its counts add up to no more than the records.  Every error says which source it is
    about; where the file is read down to its table, the error is about the first record that is
    none, or about a table without a code. -/
theorem readSource_exact (libs : AuditLibs) (kind : SourceKind) (file : SourceFile) :
    (∀ list, readSource libs kind file = .ok list ↔ Published libs kind file list) ∧
    (∀ list, readSource libs kind file = .ok list → list.codes ≠ ∅ ∧
      (∀ code ∈ list.codes, isCode code = true) ∧
      list.metadata.codeCount + list.metadata.noCurrencyRecordCount ≤
        list.metadata.recordCount) ∧
    ∀ e, readSource libs kind file = .error e →
      (∃ text, e.text = kind.value ++ py ": " ++ text) ∧
      ∀ raw root table date, HasTable libs kind file raw root table date →
        NamesFirst kind 1 table.children e ∨
          e.text = kind.value ++ py ": " ++ py "no currency codes found" := by
  refine ⟨fun list => readSource_eq_ok_iff, ?_, ?_⟩
  · intro list hlist
    obtain ⟨raw, root, table, date, found, hpublishes, rfl⟩ := readSource_eq_ok_iff.mp hlist
    exact ⟨hpublishes.filled, isCode_of_records hpublishes.records,
      counts_of_records hpublishes.records⟩
  · intro e he
    refine ⟨kind_of_readSource he, ?_⟩
    intro raw root table date htable
    have hspec := @readRecords_spec kind table.children 1 ∅ 0
    rw [readSource_eq htable] at he
    rcases hrun : readRecords kind 1 table.children ∅ 0 with e' | ⟨codes, count⟩
    · rw [hrun] at he hspec
      cases he
      exact Or.inl hspec
    · rw [hrun] at he
      simp only at he
      split_ifs at he
      exact Or.inr (kind_of_sourceError he)

/-! ## The command -/

/-- What running `schemas/iso4217.py` comes to. -/
inductive ConstantModule where
  /-- an `OSError`, with its text -/
  | unreadable (text : PyStr)
  /-- any other exception -/
  | raises (className : PyStr)
  /-- `ISO_4217_ALPHA`, or `none` when that is no frozenset -/
  | defines (accepted : Option (Finset PyStr))

/-- An exception that `main` catches, by its text, or one that it does not. -/
inductive CommandRaise where
  | caught (text : PyStr)
  | uncaught (className : PyStr)

def AuditInputError.raise (e : AuditInputError) : CommandRaise := .caught e.text

/-- `load_accepted_codes` -/
def loadAcceptedCodes : ConstantModule → Except CommandRaise (Finset PyStr)
  | .unreadable text => .error (.caught text)
  | .raises className => .error (.uncaught className)
  | .defines none => .error (.caught (py "ISO_4217_ALPHA must be a frozenset of currency codes"))
  | .defines (some accepted) => .ok accepted

/-- The lines about one source. -/
def sourceLines (source : String × SourceMetadata) : List PyStr :=
  [py source.1 ++ py ": Pblshd=" ++ source.2.publicationDate ++ py "; " ++
      decimal source.2.recordCount ++ py " records; " ++ decimal source.2.codeCount ++
      py " distinct codes; " ++ decimal source.2.noCurrencyRecordCount ++ py " no-currency records",
    py "  source reference: " ++ source.2.sourceUrl, py "  SHA-256: " ++ source.2.sha256]

def commaJoined (codes : List PyStr) : PyStr := List.intercalate (py ", ") codes

/-- `format_text` -/
def formatText (report : AuditReport) : PyStr :=
  List.intercalate (py "\n")
    ([py "ISO-4217 audit: " ++
        if report.status = .ok then py "OK" else py "DRIFT (review required)",
      decimal report.acceptedCount ++ py " accepted; " ++ decimal report.acceptedCurrentCount ++
        py " current",
      PROVENANCE] ++
    report.sources.flatMap sourceLines ++
    report.policy.map (fun rule => py rule.1 ++ py ": " ++ commaJoined rule.2) ++
    report.findings.map fun finding => py finding.1 ++ py ": " ++
      if finding.2 = [] then py "none" else commaJoined finding.2)

inductive ReportFormat where
  | text
  | json

/-- What `main` leaves behind. -/
structure CommandResult where
  exit : ℕ
  stdout : PyStr
  stderr : PyStr

section Command

variable (libs : AuditLibs) (current historical : SourceFile) (constants : ConstantModule)
  (format : ReportFormat)

def renderReport (report : AuditReport) : PyStr :=
  match format with
  | .json => libs.jsonReport report
  | .text => formatText report

/-- The body of the `try` in `main`. -/
def commandReport : Except CommandRaise AuditReport := do
  let current ← (readSource libs .current current).mapError AuditInputError.raise
  let historical ← (readSource libs .historical historical).mapError AuditInputError.raise
  let accepted ← loadAcceptedCodes constants
  (audit EXCLUDED_CURRENT RETAINED_HISTORICAL current historical accepted).mapError
    AuditInputError.raise

/-- `main`, once the arguments are parsed; an error is the class of an exception that leaves it. -/
def auditMain : Except PyStr CommandResult :=
  match commandReport libs current historical constants with
  | .error (.uncaught className) => .error className
  | .error (.caught text) =>
      .ok { exit := 2, stdout := [], stderr := py "ISO-4217 audit: " ++ text ++ py "\n" }
  | .ok report =>
      .ok
        { exit := if report.status = .ok then 0 else 1
          stdout := renderReport libs format report ++ py "\n"
          stderr := [] }

/-- The inputs support an audit. -/
structure Auditable (currentList historicalList : CurrencyList) (accepted : Finset PyStr) :
    Prop where
  current : Published libs .current current currentList
  historical : Published libs .historical historical historicalList
  defined : constants = .defines (some accepted)
  wellFormed : ∀ code ∈ accepted, isCode code = true
  respectsPolicy : Disjoint EXCLUDED_CURRENT accepted

end Command

theorem loadAcceptedCodes_eq_ok_iff {constants : ConstantModule} {accepted : Finset PyStr} :
    loadAcceptedCodes constants = .ok accepted ↔ constants = .defines (some accepted) := by
  rcases constants with text | className | _ | codes <;> simp [loadAcceptedCodes]

/-- The committed policy refuses only accepted sets that are no codes or contradict it. -/
theorem audit_committed_eq_ok_iff {current historical : CurrencyList} {accepted : Finset PyStr}
    {report : AuditReport} :
    audit EXCLUDED_CURRENT RETAINED_HISTORICAL current historical accepted = .ok report ↔
      (∀ code ∈ accepted, isCode code = true) ∧ Disjoint EXCLUDED_CURRENT accepted ∧
        report = auditReport EXCLUDED_CURRENT RETAINED_HISTORICAL current historical accepted := by
  constructor
  · intro h
    rw [audit] at h
    rcases hformed : malformedSet [("accepted", accepted), ("excluded_current", EXCLUDED_CURRENT),
        ("retained_historical", RETAINED_HISTORICAL)] with _ | name
    · rw [hformed] at h
      simp only at h
      split_ifs at h with hoverlap hexcluded
      cases h
      exact ⟨malformedSet_eq_none.mp hformed _ List.mem_cons_self,
        Finset.disjoint_iff_inter_eq_empty.mpr (not_not.mp hexcluded), rfl⟩
    · rw [hformed] at h
      cases h
  · rintro ⟨haccepted, hdisjoint, rfl⟩
    exact audit_eq_ok haccepted (fun code h => isCode_committed code (Finset.mem_union_left _ h))
      (fun code h => isCode_committed code (Finset.mem_union_right _ h)) disjoint_committed
      hdisjoint current historical

section Command

variable {libs : AuditLibs} {current historical : SourceFile} {constants : ConstantModule}

theorem commandReport_eq_ok_iff {report : AuditReport} :
    commandReport libs current historical constants = .ok report ↔
      ∃ c h accepted, Auditable libs current historical constants c h accepted ∧
        report = auditReport EXCLUDED_CURRENT RETAINED_HISTORICAL c h accepted := by
  simp only [commandReport, bind_eq_ok_iff, mapError_eq_ok_iff, readSource_eq_ok_iff,
    loadAcceptedCodes_eq_ok_iff, audit_committed_eq_ok_iff]
  constructor
  · rintro ⟨c, hc, h, hh, accepted, hdefined, hcodes, hdisjoint, rfl⟩
    exact ⟨c, h, accepted, ⟨hc, hh, hdefined, hcodes, hdisjoint⟩, rfl⟩
  · rintro ⟨c, h, accepted, hinputs, rfl⟩
    exact ⟨c, hinputs.current, h, hinputs.historical, accepted, hinputs.defined,
      hinputs.wellFormed, hinputs.respectsPolicy, rfl⟩

/-- What `main` lets pass comes from the constant module. -/
def CaughtUnless (constants : ConstantModule) (e : CommandRaise) : Prop :=
  ∀ className, e = .uncaught className → constants = .raises className

theorem auditInputError_caught {α : Type} (x : Except AuditInputError α) :
    RaisesOnly (CaughtUnless constants) (x.mapError AuditInputError.raise) := by
  rcases x with e | a
  · apply RaisesOnly.error
    intro className h
    cases h
  · exact RaisesOnly.ok a

theorem loadAcceptedCodes_caught :
    RaisesOnly (CaughtUnless constants) (loadAcceptedCodes constants) := by
  intro e he className h
  subst h
  rcases constants with text | name | _ | codes
  · cases he
  · cases he
    rfl
  · cases he
  · cases he

theorem commandReport_caught :
    RaisesOnly (CaughtUnless constants) (commandReport libs current historical constants) := by
  rw [commandReport]
  apply RaisesOnly.bind (auditInputError_caught _)
  intro currentList
  apply RaisesOnly.bind (auditInputError_caught _)
  intro historicalList
  apply RaisesOnly.bind loadAcceptedCodes_caught
  intro accepted
  apply auditInputError_caught

end Command

/-- **The exit code tells what the sources and the committed set come to.**  It is 0 when both
    files are published lists and the accepted codes follow the policy, 1 when they are and the
    codes do not, and 2 exactly when the inputs support no audit; only then is there no report,
    and one line of error.  The report finds the codes that are out of place and no others.  Only
    an exception of the constant module other than an `OSError` leaves `main`. -/
theorem auditMain_exact (libs : AuditLibs) (current historical : SourceFile)
    (constants : ConstantModule) (format : ReportFormat) :
    match auditMain libs current historical constants format with
    | .error className => constants = .raises className
    | .ok result =>
        (result.exit = 2 ∧ (∀ c h accepted, ¬ Auditable libs current historical constants c h
            accepted) ∧
          result.stdout = [] ∧ ∃ text, result.stderr = py "ISO-4217 audit: " ++ text ++ py "\n") ∨
        ∃ c h accepted report, Auditable libs current historical constants c h accepted ∧
          (result.exit = 0 ∧
              Follows c.codes h.codes accepted EXCLUDED_CURRENT RETAINED_HISTORICAL ∨
            result.exit = 1 ∧
              ¬ Follows c.codes h.codes accepted EXCLUDED_CURRENT RETAINED_HISTORICAL) ∧
          result.stdout = renderReport libs format report ++ py "\n" ∧ result.stderr = [] ∧
          ∀ code, (∃ f ∈ report.findings, code ∈ f.2) ↔
            Misplaced c.codes h.codes accepted EXCLUDED_CURRENT RETAINED_HISTORICAL code := by
  rw [auditMain]
  rcases hreport : commandReport libs current historical constants with (text | className) | report
  · refine Or.inl ⟨rfl, ?_, rfl, text, rfl⟩
    intro c h accepted hinputs
    rw [commandReport_eq_ok_iff.mpr ⟨c, h, accepted, hinputs, rfl⟩] at hreport
    cases hreport
  · exact commandReport_caught _ hreport className rfl
  · obtain ⟨c, h, accepted, hinputs, rfl⟩ := commandReport_eq_ok_iff.mp hreport
    have hfound := @findings_iff _ RETAINED_HISTORICAL _ hinputs.respectsPolicy c h
    refine Or.inr ⟨c, h, accepted, _, hinputs, ?_, rfl, rfl,
      mem_findings hinputs.respectsPolicy c h⟩
    by_cases hfollows : Follows c.codes h.codes accepted EXCLUDED_CURRENT RETAINED_HISTORICAL
    · have hstatus : (auditReport EXCLUDED_CURRENT RETAINED_HISTORICAL c h accepted).status = .ok :=
        if_neg fun hany => hfound.mp hany hfollows
      exact Or.inl ⟨if_pos hstatus, hfollows⟩
    · have hstatus : (auditReport EXCLUDED_CURRENT RETAINED_HISTORICAL c h accepted).status =
          .drift := if_pos (hfound.mpr hfollows)
      refine Or.inr ⟨if_neg ?_, hfollows⟩
      rw [hstatus]
      exact AuditStatus.noConfusion

end ExtractApi
