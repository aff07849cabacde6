import ExtractApi.AccuracyScoring
import ExtractApi.StrictValues

/-!
# The strict schemas (`schemas/`)

`InvoiceV1` and `JobPostingV1`, as `model_validate_json` reads them and `model_dump(mode="json")`
writes them.  A value that a validator checks is a subtype, so an instance of a model keeps every
rule of its class.
-/

namespace ExtractApi

open PythonText JsonValue LoadedJson JsonText RecordCodec

/-! ## Currencies (`schemas/_common.py`) -/

def ISO_4217_ALPHA : List PyStr :=
  ["AED", "AFN", "ALL", "AMD", "ANG", "AOA", "ARS", "AUD", "AWG", "AZN", "BAM", "BBD", "BDT",
    "BGN", "BHD", "BIF", "BMD", "BND", "BOB", "BRL", "BSD", "BTN", "BWP", "BYN", "BZD", "CAD",
    "CDF", "CHE", "CHF", "CHW", "CLP", "CNY", "COP", "CRC", "CUP", "CVE", "CZK", "DJF", "DKK",
    "DOP", "DZD", "EGP", "ERN", "ETB", "EUR", "FJD", "FKP", "GBP", "GEL", "GHS", "GIP", "GMD",
    "GNF", "GTQ", "GYD", "HKD", "HNL", "HTG", "HUF", "IDR", "ILS", "INR", "IQD", "IRR", "ISK",
    "JMD", "JOD", "JPY", "KES", "KGS", "KHR", "KMF", "KPW", "KRW", "KWD", "KYD", "KZT", "LAK",
    "LBP", "LKR", "LRD", "LSL", "LYD", "MAD", "MDL", "MGA", "MKD", "MMK", "MNT", "MOP", "MRU",
    "MUR", "MVR", "MWK", "MXN", "MYR", "MZN", "NAD", "NGN", "NIO", "NOK", "NPR", "NZD", "OMR",
    "PAB", "PEN", "PGK", "PHP", "PKR", "PLN", "PYG", "QAR", "RON", "RSD", "RUB", "RWF", "SAR",
    "SBD", "SCR", "SDG", "SEK", "SGD", "SHP", "SLE", "SOS", "SRD", "SSP", "STN", "SVC", "SYP",
    "SZL", "THB", "TJS", "TMT", "TND", "TOP", "TRY", "TTD", "TWD", "TZS", "UAH", "UGX", "USD",
    "UYU", "UZS", "VED", "VES", "VND", "VUV", "WST", "XAF", "XCD", "XCG", "XDR", "XOF", "XPF",
    "YER", "ZAR", "ZMW", "ZWG"].map py

/-- `value.isascii()` -/
def isAscii (value : PyStr) : Bool := value.all fun c => decide (c.val < 128)

def isAsciiUpper (c : CodePoint) : Bool := decide (65 ≤ c.val) && decide (c.val ≤ 90)

def isAsciiLower (c : CodePoint) : Bool := decide (97 ≤ c.val) && decide (c.val ≤ 122)

/-- `value.isalpha()` of an ASCII string -/
def isAlpha (value : PyStr) : Bool :=
  !value.isEmpty && value.all fun c => isAsciiUpper c || isAsciiLower c

/-- `value.isupper()` of an ASCII string -/
def isUpper (value : PyStr) : Bool := value.any isAsciiUpper && !value.any isAsciiLower

/-- `_validate_iso4217`; three letters are their own `repr`. -/
def validateIso4217 (value : PyStr) : Except PyStr Unit :=
  if value.length ≠ 3 ∨ isAscii value = false ∨ isAlpha value = false ∨ isUpper value = false then
    .error (py "currency must be a 3-letter uppercase ASCII ISO-4217 code")
  else if value ∉ ISO_4217_ALPHA then
    .error (py "unknown ISO-4217 currency code: '" ++ value ++ py "'")
  else .ok ()

abbrev CurrencyCode : Type := Checked validateIso4217

def currencyCode (pyd : Pydantic) : Codec ErrorDetails CurrencyCode :=
  validated pyd (strictStr pyd) validateIso4217

theorem lawful_currencyCode {pyd : Pydantic} {n : ℕ} : (currencyCode pyd).Lawful n :=
  lawful_strictStr.checked ..

/-! ## Invoices (`schemas/invoice_v1.py`) -/

structure LineItem where
  description : PyStr
  quantity : Quantity
  unitPriceMinor : ℤ
  amountMinor : ℤ

/-- The fields of an `InvoiceV1`. -/
structure InvoiceFields where
  invoiceNumber : PyStr
  issueDate : Date
  dueDate : Option Date
  currency : CurrencyCode
  subtotalMinor : ℤ
  taxMinor : Option ℤ
  totalMinor : ℤ
  vendorName : PyStr
  vendorTaxId : Option PyStr
  buyerName : Option PyStr
  lineItems : Option (List LineItem)

/-- The first part of `_check_totals`: a stated tax reconciles. -/
def checkTax (self : InvoiceFields) : Except PyStr Unit :=
  match self.taxMinor with
  | none => .ok ()
  | some taxMinor =>
      if self.totalMinor ≠ self.subtotalMinor + taxMinor then
        .error (py "total_minor (" ++ intText self.totalMinor ++
          py ") must equal subtotal_minor (" ++ intText self.subtotalMinor ++
          py ") + tax_minor (" ++ intText taxMinor ++ py ")")
      else .ok ()

/-- The second part: line items are not empty and sum to the subtotal. -/
def checkLineItems (self : InvoiceFields) : Except PyStr Unit :=
  match self.lineItems with
  | none => .ok ()
  | some items =>
      let lineSum := (items.map LineItem.amountMinor).sum
      if items.isEmpty then
        .error (py "line_items must be null when absent, not an empty list")
      else if self.subtotalMinor ≠ lineSum then
        .error (py "subtotal_minor (" ++ intText self.subtotalMinor ++
          py ") must equal the sum of line item amounts (" ++ intText lineSum ++ py ")")
      else .ok ()

/-- `_check_totals` -/
def checkTotals (self : InvoiceFields) : Except PyStr Unit :=
  (checkTax self).bind fun _ => checkLineItems self

/-- The cross-field rules of an invoice. -/
structure InvoiceFields.Reconciled (invoice : InvoiceFields) : Prop where
  tax : ∀ tax, invoice.taxMinor = some tax → invoice.totalMinor = invoice.subtotalMinor + tax
  lineItems : ∀ items, invoice.lineItems = some items →
    items ≠ [] ∧ invoice.subtotalMinor = (items.map LineItem.amountMinor).sum

theorem checkTax_eq_ok_iff {self : InvoiceFields} :
    checkTax self = .ok () ↔
      ∀ tax, self.taxMinor = some tax → self.totalMinor = self.subtotalMinor + tax := by
  unfold checkTax
  rcases self.taxMinor with _ | tax
  · simp
  · simp

theorem checkLineItems_eq_ok_iff {self : InvoiceFields} :
    checkLineItems self = .ok () ↔ ∀ items, self.lineItems = some items →
      items ≠ [] ∧ self.subtotalMinor = (items.map LineItem.amountMinor).sum := by
  unfold checkLineItems
  rcases self.lineItems with _ | items
  · simp
  · by_cases hempty : items = []
    · simp [hempty]
    · simp [hempty]

/-- The model validator accepts exactly the reconciled invoices. -/
theorem checkTotals_eq_ok_iff {self : InvoiceFields} :
    checkTotals self = .ok () ↔ self.Reconciled := by
  rw [checkTotals]
  constructor
  · intro h
    rcases htax : checkTax self with message | u
    · rw [htax] at h
      cases h
    · rw [htax] at h
      exact ⟨checkTax_eq_ok_iff.mp htax, checkLineItems_eq_ok_iff.mp h⟩
  · intro h
    rw [checkTax_eq_ok_iff.mpr h.tax]
    exact checkLineItems_eq_ok_iff.mpr h.lineItems

abbrev InvoiceV1 : Type := Checked checkTotals

def lineItemFields (pyd : Pydantic) : Fields ErrorDetails LineItem :=
  (Fields.cons pyd.faults "description" (strictStr pyd) <|
    Fields.cons pyd.faults "quantity" (intOrFloat pyd) <|
    Fields.cons pyd.faults "unit_price_minor" (strictInt pyd) <|
    Fields.cons pyd.faults "amount_minor" (strictInt pyd) Fields.nil).equiv
    { toFun := fun ⟨description, quantity, unitPriceMinor, amountMinor, _⟩ =>
        ⟨description, quantity, unitPriceMinor, amountMinor⟩
      invFun := fun item =>
        (item.description, item.quantity, item.unitPriceMinor, item.amountMinor, ())
      left_inv := fun _ => rfl
      right_inv := fun _ => rfl }

def invoiceFields (pyd : Pydantic) : Fields ErrorDetails InvoiceFields :=
  (Fields.cons pyd.faults "invoice_number" (strictStr pyd) <|
    Fields.cons pyd.faults "issue_date" (strictDate pyd) <|
    Fields.cons pyd.faults "due_date" (nullable (strictDate pyd)) <|
    Fields.cons pyd.faults "currency" (currencyCode pyd) <|
    Fields.cons pyd.faults "subtotal_minor" (strictInt pyd) <|
    Fields.cons pyd.faults "tax_minor" (nullable (strictInt pyd)) <|
    Fields.cons pyd.faults "total_minor" (strictInt pyd) <|
    Fields.cons pyd.faults "vendor_name" (strictStr pyd) <|
    Fields.cons pyd.faults "vendor_tax_id" (nullable (strictStr pyd)) <|
    Fields.cons pyd.faults "buyer_name" (nullable (strictStr pyd)) <|
    Fields.cons pyd.faults "line_items"
      (nullable (list pyd.faults (record pyd.faults (lineItemFields pyd)))) Fields.nil).equiv
    { toFun := fun ⟨invoiceNumber, issueDate, dueDate, currency, subtotalMinor, taxMinor,
          totalMinor, vendorName, vendorTaxId, buyerName, lineItems, _⟩ =>
        ⟨invoiceNumber, issueDate, dueDate, currency, subtotalMinor, taxMinor, totalMinor,
          vendorName, vendorTaxId, buyerName, lineItems⟩
      invFun := fun self =>
        (self.invoiceNumber, self.issueDate, self.dueDate, self.currency, self.subtotalMinor,
          self.taxMinor, self.totalMinor, self.vendorName, self.vendorTaxId, self.buyerName,
          self.lineItems, ())
      left_inv := fun _ => rfl
      right_inv := fun _ => rfl }

def invoiceV1 (pyd : Pydantic) : Codec ErrorDetails InvoiceV1 :=
  validated pyd (record pyd.faults (invoiceFields pyd)) checkTotals

section LawfulInvoices

variable {pyd : Pydantic} {n : ℕ}

theorem lawful_lineItem : (record pyd.faults (lineItemFields pyd)).Lawful (n + 1) := by
  have hfields : (lineItemFields pyd).Lawful n := by
    refine Fields.Lawful.equiv ?_ _
    refine Fields.Lawful.cons lawful_strictStr ?_
    refine Fields.Lawful.cons lawful_intOrFloat ?_
    refine Fields.Lawful.cons lawful_strictInt ?_
    exact Fields.Lawful.cons lawful_strictInt Fields.lawful_nil
  have hnodup : [py "description", py "quantity", py "unit_price_minor",
      py "amount_minor"].Nodup := by decide
  exact hfields.record hnodup

theorem lawful_nullable_str : (nullable (strictStr pyd)).Lawful n :=
  lawful_strictStr.nullable fun s h => by cases h

theorem lawful_nullable_int : (nullable (strictInt pyd)).Lawful n :=
  lawful_strictInt.nullable fun n h => by cases h

theorem lawful_nullable_date (h : StrictJsonMode pyd) : (nullable (strictDate pyd)).Lawful n :=
  (lawful_strictDate h).nullable fun d h => by cases h

theorem lawful_invoiceFields (h : StrictJsonMode pyd) : (invoiceFields pyd).Lawful 2 := by
  have hlines : (nullable (list pyd.faults (record pyd.faults (lineItemFields pyd)))).Lawful 2 :=
    lawful_lineItem.list.nullable fun items h => by cases h
  refine Fields.Lawful.equiv ?_ _
  refine Fields.Lawful.cons lawful_strictStr ?_
  refine Fields.Lawful.cons (lawful_strictDate h) ?_
  refine Fields.Lawful.cons (lawful_nullable_date h) ?_
  refine Fields.Lawful.cons lawful_currencyCode ?_
  refine Fields.Lawful.cons lawful_strictInt ?_
  refine Fields.Lawful.cons lawful_nullable_int ?_
  refine Fields.Lawful.cons lawful_strictInt ?_
  refine Fields.Lawful.cons lawful_strictStr ?_
  refine Fields.Lawful.cons lawful_nullable_str ?_
  refine Fields.Lawful.cons lawful_nullable_str ?_
  exact Fields.Lawful.cons hlines Fields.lawful_nil

end LawfulInvoices

/-! ## Job postings (`schemas/job_posting_v1.py`) -/

inductive RemotePolicy where
  | onsite
  | hybrid
  | remote
  | unspecified
deriving DecidableEq, Repr

def RemotePolicy.members : List RemotePolicy := [.onsite, .hybrid, .remote, .unspecified]

def RemotePolicy.value : RemotePolicy → PyStr
  | .onsite => py "onsite"
  | .hybrid => py "hybrid"
  | .remote => py "remote"
  | .unspecified => py "unspecified"

inductive SalaryPeriod where
  | year
  | month
  | day
  | hour
  | unspecified
deriving DecidableEq, Repr

def SalaryPeriod.members : List SalaryPeriod := [.year, .month, .day, .hour, .unspecified]

def SalaryPeriod.value : SalaryPeriod → PyStr
  | .year => py "year"
  | .month => py "month"
  | .day => py "day"
  | .hour => py "hour"
  | .unspecified => py "unspecified"

inductive EmploymentType where
  | fullTime
  | partTime
  | contract
  | temporary
  | internship
  | unspecified
deriving DecidableEq, Repr

def EmploymentType.members : List EmploymentType :=
  [.fullTime, .partTime, .contract, .temporary, .internship, .unspecified]

def EmploymentType.value : EmploymentType → PyStr
  | .fullTime => py "full_time"
  | .partTime => py "part_time"
  | .contract => py "contract"
  | .temporary => py "temporary"
  | .internship => py "internship"
  | .unspecified => py "unspecified"

inductive Seniority where
  | intern
  | junior
  | mid
  | senior
  | staff
  | principal
  | lead
  | manager
  | director
  | unspecified
deriving DecidableEq, Repr

def Seniority.members : List Seniority :=
  [.intern, .junior, .mid, .senior, .staff, .principal, .lead, .manager, .director, .unspecified]

def Seniority.value : Seniority → PyStr
  | .intern => py "intern"
  | .junior => py "junior"
  | .mid => py "mid"
  | .senior => py "senior"
  | .staff => py "staff"
  | .principal => py "principal"
  | .lead => py "lead"
  | .manager => py "manager"
  | .director => py "director"
  | .unspecified => py "unspecified"

inductive VisaSponsorship where
  | offered
  | notOffered
  | unspecified
deriving DecidableEq, Repr

def VisaSponsorship.members : List VisaSponsorship := [.offered, .notOffered, .unspecified]

def VisaSponsorship.value : VisaSponsorship → PyStr
  | .offered => py "offered"
  | .notOffered => py "not_offered"
  | .unspecified => py "unspecified"

/-- `_check_nonblank` -/
def checkNonblank : Option PyStr → Except PyStr Unit
  | none => .ok ()
  | some value =>
      if strip value = [] then .error (py "must be non-blank or null where allowed") else .ok ()

/-- `_check_nonnegative` -/
def checkNonnegative : Option ℤ → Except PyStr Unit
  | none => .ok ()
  | some value => if value < 0 then .error (py "must be >= 0") else .ok ()

/-- The fields of a `JobPostingV1`. -/
structure JobPostingFields where
  title : Checked fun value : PyStr => checkNonblank (some value)
  company : Checked checkNonblank
  location : Checked checkNonblank
  remotePolicy : RemotePolicy
  salaryMin : Checked checkNonnegative
  salaryMax : Checked checkNonnegative
  salaryCurrency : Option CurrencyCode
  salaryPeriod : SalaryPeriod
  employmentType : EmploymentType
  seniority : Seniority
  visaSponsorship : VisaSponsorship
  postedDate : Option Date

/-- `self.salary_max < self.salary_min`, when both are present -/
def JobPostingFields.isReversed (posting : JobPostingFields) : Bool :=
  match posting.salaryMin.val, posting.salaryMax.val with
  | some salaryMin, some salaryMax => decide (salaryMax < salaryMin)
  | _, _ => false

/-- `_check_salary` -/
def checkSalary (self : JobPostingFields) : Except PyStr Unit :=
  if (self.salaryMin.val.isSome || self.salaryMax.val.isSome) && self.salaryCurrency.isNone then
    .error (py "salary_currency is required when salary_min or salary_max is present")
  else if self.isReversed then
    .error (py "salary_max must be >= salary_min when both are present")
  else .ok ()

/-- The cross-field rules of a job posting. -/
structure JobPostingFields.Consistent (posting : JobPostingFields) : Prop where
  currency : posting.salaryMin.val.isSome ∨ posting.salaryMax.val.isSome →
    posting.salaryCurrency.isSome
  range : ∀ salaryMin salaryMax, posting.salaryMin.val = some salaryMin →
    posting.salaryMax.val = some salaryMax → salaryMin ≤ salaryMax

theorem JobPostingFields.isReversed_eq_false_iff {posting : JobPostingFields} :
    posting.isReversed = false ↔ ∀ salaryMin salaryMax, posting.salaryMin.val = some salaryMin →
      posting.salaryMax.val = some salaryMax → salaryMin ≤ salaryMax := by
  unfold isReversed
  rcases posting.salaryMin.val with _ | salaryMin
  · simp
  · rcases posting.salaryMax.val with _ | salaryMax
    · simp
    · simp

/-- The model validator accepts exactly the consistent postings. -/
theorem checkSalary_eq_ok_iff {posting : JobPostingFields} :
    checkSalary posting = .ok () ↔ posting.Consistent := by
  have hcurrency : ((posting.salaryMin.val.isSome || posting.salaryMax.val.isSome) &&
      posting.salaryCurrency.isNone) = false ↔
      (posting.salaryMin.val.isSome ∨ posting.salaryMax.val.isSome →
        posting.salaryCurrency.isSome) := by
    rcases posting.salaryCurrency with _ | currency
    · simp
    · simp
  unfold checkSalary
  split_ifs with hmissing hreversed
  · apply iff_of_false (by simp)
    intro h
    rw [hcurrency.mpr h.currency] at hmissing
    cases hmissing
  · apply iff_of_false (by simp)
    intro h
    rw [JobPostingFields.isReversed_eq_false_iff.mpr h.range] at hreversed
    cases hreversed
  · rw [Bool.not_eq_true] at hmissing hreversed
    exact iff_of_true rfl
      ⟨hcurrency.mp hmissing, JobPostingFields.isReversed_eq_false_iff.mp hreversed⟩

abbrev JobPostingV1 : Type := Checked checkSalary

def jobPostingFields (pyd : Pydantic) : Fields ErrorDetails JobPostingFields :=
  (Fields.cons pyd.faults "title"
      (validated pyd (strictStr pyd) fun value => checkNonblank (some value)) <|
    Fields.cons pyd.faults "company" (validated pyd (nullable (strictStr pyd)) checkNonblank) <|
    Fields.cons pyd.faults "location" (validated pyd (nullable (strictStr pyd)) checkNonblank) <|
    Fields.cons pyd.faults "remote_policy"
      (strEnum pyd RemotePolicy.members RemotePolicy.value) <|
    Fields.cons pyd.faults "salary_min"
      (validated pyd (nullable (strictInt pyd)) checkNonnegative) <|
    Fields.cons pyd.faults "salary_max"
      (validated pyd (nullable (strictInt pyd)) checkNonnegative) <|
    Fields.cons pyd.faults "salary_currency" (nullable (currencyCode pyd)) <|
    Fields.cons pyd.faults "salary_period"
      (strEnum pyd SalaryPeriod.members SalaryPeriod.value) <|
    Fields.cons pyd.faults "employment_type"
      (strEnum pyd EmploymentType.members EmploymentType.value) <|
    Fields.cons pyd.faults "seniority" (strEnum pyd Seniority.members Seniority.value) <|
    Fields.cons pyd.faults "visa_sponsorship"
      (strEnum pyd VisaSponsorship.members VisaSponsorship.value) <|
    Fields.cons pyd.faults "posted_date" (nullable (strictDate pyd)) Fields.nil).equiv
    { toFun := fun ⟨title, company, location, remotePolicy, salaryMin, salaryMax, salaryCurrency,
          salaryPeriod, employmentType, seniority, visaSponsorship, postedDate, _⟩ =>
        ⟨title, company, location, remotePolicy, salaryMin, salaryMax, salaryCurrency,
          salaryPeriod, employmentType, seniority, visaSponsorship, postedDate⟩
      invFun := fun self =>
        (self.title, self.company, self.location, self.remotePolicy, self.salaryMin,
          self.salaryMax, self.salaryCurrency, self.salaryPeriod, self.employmentType,
          self.seniority, self.visaSponsorship, self.postedDate, ())
      left_inv := fun _ => rfl
      right_inv := fun _ => rfl }

def jobPostingV1 (pyd : Pydantic) : Codec ErrorDetails JobPostingV1 :=
  validated pyd (record pyd.faults (jobPostingFields pyd)) checkSalary

theorem lawful_jobPostingFields {pyd : Pydantic} (h : StrictJsonMode pyd) :
    (jobPostingFields pyd).Lawful 2 := by
  have hremote : (strEnum pyd RemotePolicy.members RemotePolicy.value).Lawful 2 :=
    lawful_strEnum (by intro a; cases a <;> rfl) fun a => by cases a <;> exact encodable_py _
  have hperiod : (strEnum pyd SalaryPeriod.members SalaryPeriod.value).Lawful 2 :=
    lawful_strEnum (by intro a; cases a <;> rfl) fun a => by cases a <;> exact encodable_py _
  have hemployment : (strEnum pyd EmploymentType.members EmploymentType.value).Lawful 2 :=
    lawful_strEnum (by intro a; cases a <;> rfl) fun a => by cases a <;> exact encodable_py _
  have hseniority : (strEnum pyd Seniority.members Seniority.value).Lawful 2 :=
    lawful_strEnum (by intro a; cases a <;> rfl) fun a => by cases a <;> exact encodable_py _
  have hvisa : (strEnum pyd VisaSponsorship.members VisaSponsorship.value).Lawful 2 :=
    lawful_strEnum (by intro a; cases a <;> rfl) fun a => by cases a <;> exact encodable_py _
  refine Fields.Lawful.equiv ?_ _
  refine Fields.Lawful.cons (lawful_strictStr.checked ..) ?_
  refine Fields.Lawful.cons (lawful_nullable_str.checked ..) ?_
  refine Fields.Lawful.cons (lawful_nullable_str.checked ..) ?_
  refine Fields.Lawful.cons hremote ?_
  refine Fields.Lawful.cons (lawful_nullable_int.checked ..) ?_
  refine Fields.Lawful.cons (lawful_nullable_int.checked ..) ?_
  refine Fields.Lawful.cons (lawful_currencyCode.nullable fun code h => by cases h) ?_
  refine Fields.Lawful.cons hperiod ?_
  refine Fields.Lawful.cons hemployment ?_
  refine Fields.Lawful.cons hseniority ?_
  refine Fields.Lawful.cons hvisa ?_
  exact Fields.Lawful.cons (lawful_nullable_date h) Fields.lawful_nil

/-! ## Models -/

/-- An instance of a registered model. -/
inductive Instance where
  | invoice (x : InvoiceV1)
  | jobPosting (x : JobPostingV1)

/-- The instance keeps the cross-field rules of its class. -/
def Instance.KeepsRules : Instance → Prop
  | .invoice x => x.val.Reconciled
  | .jobPosting x => x.val.Consistent

theorem Instance.keepsRules (m : Instance) : m.KeepsRules := by
  rcases m with x | x
  · exact checkTotals_eq_ok_iff.mp x.property
  · exact checkSalary_eq_ok_iff.mp x.property

/-- `model_validate_json` -/
def validateJson {α : Type} (pyd : Pydantic) (c : Codec ErrorDetails α) (text : PyStr) :
    Except (List ErrorDetails) α :=
  match pyd.loads text with
  | .error message => .error [pyd.entry (.jsonInvalid message) (.str text)]
  | .ok value => c.decode value

/-- The model of a class.  Only its own instances are dumped; what stands for the others keeps the
    field names. -/
def strictModel (pyd : Pydantic) (cls : ModelClass) : StrictModel Instance where
  jsonSchema := pyd.jsonSchema cls
  validate text :=
    match cls with
    | .InvoiceV1 => (validateJson pyd (invoiceV1 pyd) text).map .invoice
    | .JobPostingV1 => (validateJson pyd (jobPostingV1 pyd) text).map .jobPosting
  dump m :=
    match cls, m with
    | .InvoiceV1, .invoice x => (invoiceFields pyd).encode x.val
    | .JobPostingV1, .jobPosting x => (jobPostingFields pyd).encode x.val
    | cls, _ => (FIELDS cls).map fun name => (name, .null)

theorem dump_keys_strictModel (pyd : Pydantic) (cls : ModelClass) (m : Instance) :
    ((strictModel pyd cls).dump m).map Prod.fst = FIELDS cls := by
  rcases cls
  · rcases m with invoice | posting
    · rfl
    · rfl
  · rcases m with invoice | posting
    · rfl
    · rfl

section Models

variable {pyd : Pydantic}

theorem validateJson_canonical (h : StrictJsonMode pyd) {α : Type} {c : Codec ErrorDetails α}
    (hc : c.Lawful 3) {text : PyStr} {a : α} (hvalid : validateJson pyd c text = .ok a) :
    WellFormed (c.encode a) ∧ depth (c.encode a) ≤ 3 ∧
      ∀ {layout : Layout}, Readable layout pyd.number →
        validateJson pyd c (write layout (c.encode a)) = .ok a := by
  rw [validateJson] at hvalid
  rcases hloads : pyd.loads text with message | value
  · rw [hloads] at hvalid
    cases hvalid
  · rw [hloads] at hvalid
    have hwell := hc.wellFormed (h.loads_clean hloads) hvalid
    refine ⟨hwell, hc.shallow a, ?_⟩
    intro layout hread
    have hdepth : depth (c.encode a) ≤ FOLLOWED_DEPTH := (hc.shallow a).trans (by decide)
    rw [validateJson, h.loads_write hread hwell hdepth]
    exact hc.decode_encode a

/-- The dump of a validated text can be written, and validates to the same instance from every
    layout of it. -/
theorem strictModel_canonical (h : StrictJsonMode pyd) {cls : ModelClass} {text : PyStr}
    {m : Instance} (hvalid : (strictModel pyd cls).validate text = .ok m) :
    WellFormed (.obj ((strictModel pyd cls).dump m)) ∧
      depth (.obj ((strictModel pyd cls).dump m)) ≤ 3 ∧
      ∀ {layout : Layout}, Readable layout pyd.number →
        (strictModel pyd cls).validate (write layout (.obj ((strictModel pyd cls).dump m))) =
          .ok m := by
  rcases cls
  · have hc : (invoiceV1 pyd).Lawful 3 :=
      ((lawful_invoiceFields h).record (nodup_FIELDS .InvoiceV1)).checked ..
    simp only [strictModel] at hvalid ⊢
    rcases hinvoice : validateJson pyd (invoiceV1 pyd) text with errors | invoice
    · rw [hinvoice] at hvalid
      cases hvalid
    · rw [hinvoice] at hvalid
      cases hvalid
      obtain ⟨hwell, hdepth, hagain⟩ := validateJson_canonical h hc hinvoice
      refine ⟨hwell, hdepth, ?_⟩
      intro layout hread
      exact congrArg (Except.map Instance.invoice) (hagain hread)
  · have hc : (jobPostingV1 pyd).Lawful 3 :=
      ((lawful_jobPostingFields h).record (nodup_FIELDS .JobPostingV1)).checked ..
    simp only [strictModel] at hvalid ⊢
    rcases hposting : validateJson pyd (jobPostingV1 pyd) text with errors | posting
    · rw [hposting] at hvalid
      cases hvalid
    · rw [hposting] at hvalid
      cases hvalid
      obtain ⟨hwell, hdepth, hagain⟩ := validateJson_canonical h hc hposting
      refine ⟨hwell, hdepth, ?_⟩
      intro layout hread
      exact congrArg (Except.map Instance.jobPosting) (hagain hread)

end Models

end ExtractApi
